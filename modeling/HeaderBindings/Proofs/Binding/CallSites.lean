import HeaderBindings.Binding.Exports
import HeaderBindings.Proofs.Binding.Folding
import HeaderBindings.Proofs.Binding.WrapperMethods
import HeaderBindings.Proofs.Interface.WellFormed
import Mathlib.Data.List.Count

/-!
# Call sites

Every call that a binding makes passes one expression for each parameter of
what it calls, in order.  What a call may pass is described by a relation
between a parameter and an expression over the names in scope; the relation
holds piece by piece along the groups of the arguments, since a group is found
by name where its raw arguments stand.
-/

namespace HeaderBindings

open HeaderBindings.Typing

/-! ## Arguments of a function -/

/-- The arguments of a declared function and of a lifecycle function. -/
inductive Function.Shape (c : Class) (f : Function) : Prop where
  | declared
      (values : List Argument)
      (isPublic : f.isPrivate = false)
      (args : f.args = c.kind.receivers ++ values)
      (isValue : ∀ arg ∈ values, arg.isInstance = false)
      (grouped : Grouped values f.arrayGroups)
  | lifecycle
      (isPrivate : f.isPrivate = true)
      (args : f.args = [] ∨ f.args = [Argument.receiver])
      (noGroups : f.arrayGroups = [])

/-- Whether a wrapper makes a function a member that is called on an instance. -/
def Function.isMember (c : Class) (f : Function) : Bool :=
  !c.isSingleton && !f.isPrivate

/-- The arguments for which the method of a wrapper has parameters. -/
def Function.ownArgs (c : Class) (f : Function) : List Argument :=
  if f.isMember c then f.valueArgs else f.args

/-- The functions that manage the instances of a class. -/
theorem lifecycle_shape {c : Class} {f : Function} (member : f ∈ c.lifecycle) :
    f.isPrivate = true ∧ (f.args = [] ∨ f.args = [Argument.receiver]) ∧ f.arrayGroups = [] ∧
      f.name ∈ ["create", "create_nullptr", "destroy"] := by
  rw [Class.lifecycle] at member
  split at member
  · cases member
  · simp only [List.mem_cons, List.not_mem_nil, or_false] at member
    rcases member with rfl | rfl | rfl
    · exact ⟨rfl, Or.inl rfl, rfl, List.mem_cons_self⟩
    · exact ⟨rfl, Or.inl rfl, rfl, List.mem_cons_of_mem _ List.mem_cons_self⟩
    · exact ⟨rfl, Or.inr rfl, rfl, List.mem_cons_of_mem _ (List.mem_cons_of_mem _ (.head _))⟩

section Acceptance

variable {options : Header.Options} {sources : List HeaderSource} {api : Api}

/-- Every function of an accepted interface, those of the lifecycle included. -/
theorem accepted_shape
    (accepted : (extract options sources).result = .ok api)
    {c : Class} (inApi : c ∈ api.withLifecycle.classes)
    {f : Function} (inClass : f ∈ c.functions) :
    f.Shape c := by
  rcases List.mem_map.mp inApi with ⟨before, inBefore, rfl⟩
  rcases List.mem_append.mp inClass with declared | lifecycle
  · rcases accepted_args accepted inBefore declared with ⟨values, args, isValue, grouped⟩
    have isPublic := (accepted_wellFormed accepted inBefore declared).isPublic
    exact .declared values isPublic args isValue grouped
  · rcases lifecycle_shape lifecycle with ⟨isPrivate, args, noGroups, _⟩
    exact .lifecycle isPrivate args noGroups

end Acceptance

namespace Function.Shape

variable {c : Class} {f : Function}

theorem isInstance_receivers (kind : ClassKind) :
    ∀ arg ∈ kind.receivers, arg.isInstance = true := by
  intro arg member
  rw [ClassKind.receivers] at member
  split at member
  · cases member
  · rw [List.mem_singleton.mp member]
    rfl

/-- The receiver is an argument of every member and comes before all others. -/
theorem args_eq (shape : f.Shape c) :
    f.args = (if f.isMember c then [Argument.receiver] else []) ++ f.ownArgs c := by
  rw [Function.ownArgs]
  cases member : f.isMember c with
  | false => rfl
  | true =>
      rw [Function.isMember, Bool.and_eq_true, Bool.not_eq_true', Bool.not_eq_true'] at member
      cases shape with
      | declared values isPublic args isValue grouped =>
          rw [if_pos rfl, if_pos rfl, valueArgs_eq args (isInstance_receivers c.kind) isValue,
            args, Resolve.receivers_not_singleton member.1]
      | lifecycle isPrivate args noGroups =>
          rw [isPrivate] at member
          cases member.2

/--
The arguments of a method follow the convention of its groups.  A function with
groups has no receiver among them.
-/
theorem ownArgs_grouped (shape : f.Shape c) :
    Grouped (f.ownArgs c) f.arrayGroups ∧ (f.arrayGroups ≠ [] → f.valueArgs = f.ownArgs c) := by
  cases shape with
  | declared values isPublic args isValue grouped =>
      have valueArgs := valueArgs_eq args (isInstance_receivers c.kind) isValue
      have own : f.ownArgs c = values := by
        rw [Function.ownArgs, Function.isMember, isPublic, Bool.not_false, Bool.and_true]
        cases singleton : c.isSingleton with
        | true =>
            rw [if_neg (by decide), args, Resolve.receivers_singleton singleton, List.nil_append]
        | false =>
            rw [if_pos (by decide)]
            exact valueArgs
      rw [own]
      exact ⟨grouped, fun _ => valueArgs⟩
  | lifecycle isPrivate args noGroups =>
      have own : f.ownArgs c = f.args := by
        rw [Function.ownArgs, Function.isMember, isPrivate]
        simp
      rw [own, noGroups]
      refine ⟨?_, fun groups => absurd rfl groups⟩
      rcases args with none | receiver
      · rw [none]
        exact .nil
      · rw [receiver]
        exact .single freeName_receiver .nil

end Function.Shape

/-! ## The native wrapper -/

namespace Native

/-- The expression for a parameter of a function pointer, in a method with some parameters. -/
inductive Supplied (scope : List String) (isMember : Bool) : PointerParam → String → Prop where
  | field (member : isMember = true) :
      Supplied scope isMember (.ofArgument .receiver) "inst_ptr"
  | param (arg : Argument) (inScope : arg.name ∈ scope) :
      Supplied scope isMember (.ofArgument arg) (pass arg)

end Native

/-! ## The managed wrapper -/

namespace Managed

/-- The local variable that keeps the container of a group in place. -/
def Pin.ofGroup : ArrayGroup → Pin
  | .data name .. => .array name
  | .text name _ => .text name

/-- The expression for a parameter of a delegate, in a method with some parameters and variables. -/
inductive Supplied (scope : List String) (pins : List Pin) (isMember : Bool) :
    Param → String → Prop where
  | field (member : isMember = true) :
      Supplied scope pins isMember (Delegate.paramOfArgument .receiver) "inst_ptr"
  | value
      (arg : Argument) (expression : String)
      (inScope : arg.name ∈ scope)
      (isValue : expression = arg.name ∨
        ∃ loader field : String, expression = s!"({arg.name} ?? {loader}.{field})") :
      Supplied scope pins isMember (Delegate.paramOfArgument arg) (pass arg expression)
  | pointer
      (param : Param)
      (name : param.name = base ++ "_data")
      (held : Pin.array base ∈ pins) :
      Supplied scope pins isMember param ((Pin.array base).name ++ ".AddrOfPinnedObject()")
  | count
      (param : Param)
      (name : param.name = base ++ "_size")
      (inScope : base ∈ scope) :
      Supplied scope pins isMember param s!"(ulong){base}.Length"
  | text
      (param : Param)
      (name : param.name = base ++ "_string")
      (held : Pin.text base ∈ pins) :
      Supplied scope pins isMember param (Pin.text base).name

section Shares

variable (enums : EnumTable) (loader : String) {f : Function}

/-- An argument outside the groups is passed from the parameter of its name. -/
theorem ofSingle_passed (symbol : String) (arg : Argument) :
    ∃ param expression,
      (Share.ofSingle enums loader symbol arg).param = some param ∧
      param.name = arg.name ∧
      (Share.ofSingle enums loader symbol arg).pin = none ∧
      (Share.ofSingle enums loader symbol arg).passed = pass arg expression ∧
      (expression = arg.name ∨
        ∃ loader field : String, expression = s!"({arg.name} ?? {loader}.{field})") := by
  unfold Share.ofSingle
  dsimp only
  cases arg.default.map (Default.ofText enums arg) with
  | none => exact ⟨_, _, rfl, rfl, rfl, rfl, Or.inl rfl⟩
  | some default =>
      cases default with
      | constant text => exact ⟨_, _, rfl, rfl, rfl, rfl, Or.inl rfl⟩
      | hoisted type value => exact ⟨_, _, rfl, rfl, rfl, rfl, Or.inr ⟨_, _, rfl⟩⟩

theorem share_free
    (regular : f.RegularGroups) {arg : Argument} (free : FreeName arg.name) :
    Share.ofArgument enums loader f arg = .ofSingle enums loader f.symbol arg := by
  rw [Share.ofArgument, Function.groupOf?_free regular free]

theorem share_data
    (regular : f.RegularGroups)
    {pointer count : Argument} {base element : String}
    (pointerName : pointer.name = base ++ "_data")
    (countName : count.name = base ++ "_size")
    (member : .data base (base ++ "_data") (base ++ "_size") element ∈ f.arrayGroups) :
    (∃ type, Share.ofArgument enums loader f pointer = {
      param := some { type, name := base }
      pin := some (.array base)
      passed := (Pin.array base).name ++ ".AddrOfPinnedObject()" }) ∧
    Share.ofArgument enums loader f count = { passed := s!"(ulong){base}.Length" } := by
  rcases Function.groupOf?_data regular member with ⟨⟨first, atPointer⟩, ⟨second, atCount⟩⟩
  have different : (base ++ "_data" == base ++ "_size") = false := by
    rw [beq_eq_false_iff_ne]
    exact data_ne_size base base
  constructor
  · refine ⟨typeName first ++ "[]", ?_⟩
    rw [Share.ofArgument, pointerName, atPointer]
    simp [Share.ofGroup]
  · rw [Share.ofArgument, countName, atCount]
    simp only [Share.ofGroup, different, Bool.false_eq_true, if_false]

theorem share_text
    (regular : f.RegularGroups)
    {arg : Argument} {base : String}
    (textName : arg.name = base ++ "_string")
    (member : .text base (base ++ "_string") ∈ f.arrayGroups) :
    Share.ofArgument enums loader f arg = {
      param := some { type := "string", name := base }
      pin := some (.text base)
      passed := (Pin.text base).name } := by
  rw [Share.ofArgument, textName, Function.groupOf?_text regular member]
  simp only [Share.ofGroup]

/-- A method has one local variable for each group, in the order of the groups. -/
theorem shares_pins
    {args : List Argument} {groups : List ArrayGroup}
    (regular : f.RegularGroups)
    (included : ∀ group ∈ groups, group ∈ f.arrayGroups)
    (grouped : Grouped args groups) :
    (args.map (Share.ofArgument enums loader f)).filterMap Share.pin =
      groups.map Pin.ofGroup := by
  induction grouped with
  | nil => rfl
  | @single args groups arg free rest ih =>
      rcases ofSingle_passed enums loader f.symbol arg with ⟨_, _, _, _, noPin, _⟩
      rw [List.map_cons, share_free enums loader regular free, List.filterMap_cons_none noPin]
      exact ih included
  | @data args groups pointer count base pointee pointerName _ countName _ rest ih =>
      rw [pointerName, countName] at included
      obtain ⟨⟨type, atPointer⟩, atCount⟩ := share_data enums loader
        regular pointerName countName (included _ List.mem_cons_self)
      have later := ih fun group member => included group (List.mem_cons_of_mem _ member)
      rw [List.map_cons, List.map_cons, atPointer, atCount, List.map_cons, ← later]
      rfl
  | @text args groups arg base textName _ rest ih =>
      rw [textName] at included
      have atText := share_text enums loader
        regular textName (included _ List.mem_cons_self)
      have later := ih fun group member => included group (List.mem_cons_of_mem _ member)
      rw [List.map_cons, atText, List.map_cons, ← later]
      rfl

end Shares

/-! ### Methods -/

theorem ofFunction_pins
    {enums : EnumTable} {apiName : String} {c : Class} {f : Function} {m : Method}
    (shape : f.Shape c) (made : Method.ofFunction enums apiName c f = .ok m) :
    m.pins = f.arrayGroups.map Pin.ofGroup := by
  rcases ofFunction_ok made with ⟨_, shares, _⟩
  rcases shape.ownArgs_grouped with ⟨grouped, _⟩
  rw [Method.pins, shares]
  exact shares_pins enums (loaderName apiName) grouped.regular (fun _ member => member) grouped

/-! ### Releases -/

/-- The raw argument that a local variable stands for. -/
def Pin.source : Pin → String
  | .array group => group ++ "_data"
  | .text group => group ++ "_string"

/-- The first raw arguments of the groups are among the arguments, in order. -/
theorem firstArgs_sublist {args : List Argument} {groups : List ArrayGroup}
    (grouped : Grouped args groups) :
    ((groups.map Pin.ofGroup).map Pin.source).Sublist (args.map Argument.name) := by
  induction grouped with
  | nil => exact .slnil
  | single _ rest ih => exact .cons _ ih
  | @data args groups pointer count base pointee pointerName _ countName _ rest ih =>
      rw [List.map_cons, List.map_cons, List.map_cons, List.map_cons, pointerName]
      exact .cons_cons _ (.cons _ ih)
  | @text args groups arg base textName _ rest ih =>
      rw [List.map_cons, List.map_cons, List.map_cons, textName]
      exact .cons_cons _ ih

/-- Arguments of different names are pinned in different variables. -/
theorem pins_nodup
    {c : Class} {f : Function} (shape : f.Shape c)
    (names : (f.args.map Argument.name).Nodup) :
    (f.arrayGroups.map Pin.ofGroup).Nodup := by
  rcases shape.ownArgs_grouped with ⟨grouped, _⟩
  rw [shape.args_eq, List.map_append] at names
  have own := (List.nodup_append.mp names).2.1
  exact ((firstArgs_sublist grouped).nodup own).of_map _

end Managed

/-! ## All call sites -/

/-- The parameter of an exported function that an expression passes on. -/
def Exports.Passed.source : Exports.Passed → String
  | .same name => name
  | .unwrapped _ name => name
  | .engineObject _ _ name => name
  | .constant _ _ name => name

end HeaderBindings
