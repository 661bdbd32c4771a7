import HeaderBindings.Proofs.Binding.CallSites

/-!
# The parameters of the wrappers

The container overload and the managed method present the same parameters: the
arguments outside the groups under their own names and with their defaults, and
every group under its name and without a default.
-/

namespace HeaderBindings

namespace WrapperParam

/-- The name under which a parameter is presented. -/
def name : WrapperParam → String
  | .arg argument => argument.name
  | .group members => members.name

/-- Whether a parameter is presented with a default. -/
def hasDefault : WrapperParam → Bool
  | .arg argument => argument.default.isSome
  | .group _ => false

end WrapperParam

theorem Native.ofParam_shows (param : WrapperParam) :
    (Forwarded.ofParam param).param.name = param.name ∧
      (Forwarded.ofParam param).param.default.isSome = param.hasDefault := by
  cases param with
  | arg argument => exact ⟨rfl, rfl⟩
  | group members =>
      cases members with
      | text name arg => exact ⟨rfl, rfl⟩
      | data name dataArg sizeArg elementType =>
          unfold Forwarded.ofParam Forwarded.ofGroup
          dsimp only
          split <;> exact ⟨rfl, rfl⟩

theorem Native.overload_hasGroups {c : Class} {f : Function} {o : Overload}
    (made : Overload.ofFunction? c f = some o) : f.arrayGroups ≠ [] := by
  rintro none
  simp [Overload.ofFunction?, Function.wrapperName?, none] at made

/-- The parameters of an overload. -/
theorem Native.overload_shows {c : Class} {f : Function} {o : Overload}
    (made : Overload.ofFunction? c f = some o) :
    o.forwarded.map (fun forwarded => forwarded.param.name) =
        f.wrapperParams.map WrapperParam.name ∧
      o.forwarded.map (fun forwarded => forwarded.param.default.isSome) =
        f.wrapperParams.map WrapperParam.hasDefault := by
  rcases Option.map_eq_some_iff.mp made with ⟨name, named, rfl⟩
  constructor
  · rw [List.map_map]
    exact List.map_congr_left fun param _ => (ofParam_shows param).1
  · rw [List.map_map]
    exact List.map_congr_left fun param _ => (ofParam_shows param).2

namespace Managed

theorem ofSingle_shows (enums : EnumTable) (loader symbol : String) (arg : Argument) :
    (Share.ofSingle enums loader symbol arg).param.map
        (fun param => (param.name, param.default.isSome)) =
      some (arg.name, arg.default.isSome) := by
  rw [Share.ofSingle]
  cases arg.default with
  | none => rfl
  | some default =>
      cases value : Default.ofText enums arg default <;> simp [value]

/-- An argument has a parameter in a method exactly if it has one in the wrapper. -/
theorem ofArgument_shows (enums : EnumTable) (loader : String) (f : Function) (arg : Argument) :
    (Share.ofArgument enums loader f arg).param.map
        (fun param => (param.name, param.default.isSome)) =
      (f.wrapperParam? arg).map fun param => (param.name, param.hasDefault) := by
  rw [Share.ofArgument, Function.wrapperParam?]
  cases found : f.groupOf? arg.name with
  | none => exact ofSingle_shows enums loader f.symbol arg
  | some group =>
      have owns : group.owns arg.name = true :=
        List.find?_some (p := fun other : ArrayGroup => other.owns arg.name) found
      cases group with
      | data name dataArg sizeArg elementType =>
          by_cases first : dataArg = arg.name <;>
            simp [Share.ofGroup, ArrayGroup.firstArg, first, WrapperParam.name,
              WrapperParam.hasDefault, ArrayGroup.name]
      | text name own =>
          have first : own = arg.name := (beq_iff_eq.mp owns).symm
          simp [Share.ofGroup, ArrayGroup.firstArg, first, WrapperParam.name,
            WrapperParam.hasDefault, ArrayGroup.name]

/-- The parameters of a method. -/
theorem ofFunction_shows
    {enums : EnumTable} {apiName : String} {c : Class} {f : Function} {m : Method}
    (made : Method.ofFunction enums apiName c f = .ok m) :
    m.params.map Param.name = ((f.ownArgs c).filterMap f.wrapperParam?).map WrapperParam.name ∧
      m.params.map (fun param => param.default.isSome) =
        ((f.ownArgs c).filterMap f.wrapperParam?).map WrapperParam.hasDefault := by
  rcases ofFunction_ok made with ⟨_, shares, _⟩
  have ownShares : m.shares =
      (f.ownArgs c).map (Share.ofArgument enums (loaderName apiName) f) := shares
  have pairs : m.params.map (fun param => (param.name, param.default.isSome)) =
      ((f.ownArgs c).filterMap f.wrapperParam?).map
        fun param => (param.name, param.hasDefault) := by
    rw [Method.params, ownShares, List.filterMap_map, List.map_filterMap, List.map_filterMap]
    exact List.filterMap_congr fun arg _ => ofArgument_shows enums _ f arg
  constructor
  · have names := congrArg (List.map Prod.fst) pairs
    rw [List.map_map, List.map_map] at names
    exact names
  · have defaults := congrArg (List.map Prod.snd) pairs
    rw [List.map_map, List.map_map] at defaults
    exact defaults

end Managed

end HeaderBindings
