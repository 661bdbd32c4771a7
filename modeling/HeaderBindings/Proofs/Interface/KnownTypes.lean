import HeaderBindings.Proofs.Interface.Resolution

/-!
# The classes that types are given

A type is only given a class that refers to an exposed name or to an enum of
the index.  Both steps that type an argument or a result keep its boundary
type in agreement with the class, so whatever is in agreement before the
resolution is so after it.
-/

namespace HeaderBindings.Resolve

/-! ## Known classes -/

/-- A class of a type that refers to the exposed names or to an entry of the index at most. -/
inductive Known (exposed : List String) (index : EnumIndex) : TypeClass → Prop where
  | plain : Known exposed index .plain
  | object : Known exposed index (.object className byReference)
  | basicValue : Known exposed index (.basicValue type)
  | refCounted (exposes : className ∈ exposed) : Known exposed index (.refCounted className)
  | enumeration (member : (qualified, .enumeration owner name underlying) ∈ index) :
      Known exposed index (.enumeration owner name underlying)

theorem classify_known (exposed : List String) (index : EnumIndex) (type : String) :
    Known exposed index (Typing.classify exposed type).1 := by
  unfold Typing.classify
  dsimp only
  split
  · split
    · exact .object
    · split
      · rename_i exposes
        exact .refCounted (List.contains_iff_mem.mp exposes)
      · exact .plain
  · split
    · split
      · exact .object
      · exact .plain
    · split
      · exact .basicValue
      · exact .plain

theorem enumOf?_known
    {exposed : List String} {index : EnumIndex} {enums : List (String × EnumType)}
    {symbol type : String} {typeClass : TypeClass}
    (indexes : Indexes index enums)
    (found : (enumOf? index symbol type).1 = some typeClass) :
    Known exposed index typeClass := by
  rcases enumOf?_some found with ⟨entry, member, _, equal⟩
  rcases indexes.sound entry member with ⟨owned, _, isEntry⟩
  rw [isEntry] at member equal
  rw [← equal]
  exact .enumeration member

/-! ## Typing -/

/-- An argument that crosses the boundary in the way of a known class. -/
structure TypedArgument (exposed : List String) (index : EnumIndex) (arg : Argument) : Prop where
  abi : arg.abiType = Typing.abiType arg.type arg.typeClass .argument
  known : Known exposed index arg.typeClass

/-- A result that crosses the boundary in the way of a known class. -/
structure TypedReturn (exposed : List String) (index : EnumIndex) (result : Return) : Prop where
  abi : result.abiType = Typing.abiType result.type result.typeClass .result
  known : Known exposed index result.typeClass

variable {exposed : List String} {index : EnumIndex} {enums : List (String × EnumType)}
variable {f : Function} {arg : Argument} {result : Return}

theorem classifyArgument_eq (exposed : List String) (f : Function) (arg : Argument) :
    (classifyArgument exposed f arg).1 = arg ∨
      ∃ typeClass, (Typing.classify exposed arg.type).1 = typeClass ∧
        (classifyArgument exposed f arg).1 =
          { arg with typeClass, abiType := Typing.abiType arg.type typeClass .argument } := by
  rw [classifyArgument]
  split
  · exact Or.inl rfl
  · exact Or.inr ⟨_, rfl, rfl⟩

theorem classifyArgument_typed (typed : TypedArgument exposed index arg) :
    TypedArgument exposed index (classifyArgument exposed f arg).1 := by
  rcases classifyArgument_eq exposed f arg with same | ⟨typeClass, equal, changed⟩
  · rw [same]
    exact typed
  · have known := classify_known exposed index arg.type
    rw [equal] at known
    rw [changed]
    exact ⟨rfl, known⟩

theorem attachArgument_typed
    (indexes : Indexes index enums) {symbol : String}
    (typed : TypedArgument exposed index arg) :
    TypedArgument exposed index (attachArgument index symbol arg).1 := by
  rw [attachArgument]
  split
  · split
    · rename_i found
      exact ⟨rfl, enumOf?_known indexes (congrArg Prod.fst found)⟩
    · exact typed
  · exact typed

theorem classifyResult_eq (exposed : List String) (f : Function) :
    (classifyResult exposed f).1 = f.result ∨
      ∃ typeClass, (Typing.classify exposed f.result.type).1 = typeClass ∧
        (classifyResult exposed f).1 =
          { f.result with
            typeClass
            abiType := Typing.abiType f.result.type typeClass .result } := by
  rw [classifyResult]
  split
  · exact Or.inl rfl
  · exact Or.inr ⟨_, rfl, rfl⟩

theorem classifyResult_typed (typed : TypedReturn exposed index f.result) :
    TypedReturn exposed index (classifyResult exposed f).1 := by
  rcases classifyResult_eq exposed f with same | ⟨typeClass, equal, changed⟩
  · rw [same]
    exact typed
  · have known := classify_known exposed index f.result.type
    rw [equal] at known
    rw [changed]
    exact ⟨rfl, known⟩

theorem attachResult_typed
    (indexes : Indexes index enums) {symbol : String}
    (typed : TypedReturn exposed index result) :
    TypedReturn exposed index (attachResult index symbol result).1 := by
  rw [attachResult]
  split
  · split
    · rename_i found
      exact ⟨rfl, enumOf?_known indexes (congrArg Prod.fst found)⟩
    · exact typed
  · exact typed

/-- The result of a method that returns its receiver is no value. -/
theorem typedResult_returnsSelf
    (indexes : Indexes index enums)
    (returns : f.returnsSelf = true) (type : f.result.type = "void") :
    typedResult exposed index f = f.result := by
  have classified : (classifyResult exposed f).1 = f.result := by
    simp [classifyResult, returns]
  have noEnum : (enumOf? index f.symbol "void").1 = none := by
    rw [enumOf?_none]
    intro entry member mentions
    rcases indexes.sound entry member with ⟨owned, _, rfl⟩
    exact absurd (colon_of_mentions mentions) (by decide)
  rw [typedResult, classified, attachResult, type]
  split
  · split
    · rename_i found
      rw [found] at noEnum
      cases noEnum
    · rfl
  · rfl

end HeaderBindings.Resolve
