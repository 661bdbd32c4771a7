import HeaderBindings.Proofs.Binding.Folding
import HeaderBindings.Proofs.Interface.WellFormed
import HeaderBindings.Proofs.Typing.Spelling

/-!
# Raw arguments of array groups

Classifying the types passes over the raw arguments of array groups, so that
a pointer crosses the boundary as a pointer.  Looking for the enums does not
pass over them: a raw argument keeps what its declaration gave it exactly when
its type mentions no enum of the interface.  Only pointers to elements can
mention one, and such a pointer is then passed as a single number.
-/

namespace HeaderBindings

open HeaderBindings.Typing

/-- An enum of the interface that a type mentions. -/
def Api.MentionedIn (api : Api) (type : String) : Prop :=
  ∃ owned ∈ Resolve.ownedEnums api.classes,
    Resolve.Mentions type (qualifiedName owned.1 owned.2.name)

/-- A raw argument of an array group, as it is declared and as it is resolved. -/
structure RawArgument (api : Api) (declared resolved : Argument) : Prop where
  declaredPlain : declared.typeClass = .plain
  declaredAbi : declared.abiType = withoutReference declared.type
  pointer : Text.endsWith declared.name "_data" = true →
    Text.endsWith declared.abiType "*" = true
  unchanged : resolved = declared ↔ ¬ api.MentionedIn declared.type
  changed : api.MentionedIn declared.type →
    Text.endsWith declared.name "_data" = true ∧
      ∃ owned ∈ Resolve.ownedEnums api.classes,
        Resolve.Mentions declared.type (qualifiedName owned.1 owned.2.name) ∧
        resolved = { declared with
          typeClass := .enumeration owned.1 owned.2.name owned.2.underlying
          abiType := "const " ++ owned.2.underlying }

/-! ## Pieces of an argument list -/

/-- What the convention says of an argument by itself. -/
inductive Piece (arg : Argument) : Prop where
  | free (name : FreeName arg.name)
  | data (name : arg.name = base ++ "_data") (type : bareType arg.type = pointee ++ "*")
  | size (name : arg.name = base ++ "_size") (type : bareType arg.type = "uint64_t")
  | text (name : arg.name = base ++ "_string") (type : Text.without arg.type ' ' = "constchar*")

theorem piece_of_grouped (grouped : Grouped args groups) : ∀ arg ∈ args, Piece arg := by
  induction grouped with
  | nil => simp
  | single free rest ih =>
      intro arg member
      rcases List.mem_cons.mp member with rfl | later
      · exact .free free
      · exact ih arg later
  | data pointerName pointerType countName countType rest ih =>
      intro arg member
      rcases List.mem_cons.mp member with rfl | member
      · exact .data pointerName pointerType
      rcases List.mem_cons.mp member with rfl | later
      · exact .size countName countType
      · exact ih arg later
  | text textName textType rest ih =>
      intro arg member
      rcases List.mem_cons.mp member with rfl | later
      · exact .text textName textType
      · exact ih arg later

/-- A count and a text mention no enum. -/
theorem data_of_mentions
    {arg : Argument} {owner name : String}
    (piece : Piece arg) (notFree : ¬ FreeName arg.name)
    (mentions : Resolve.Mentions arg.type (qualifiedName owner name)) :
    Text.endsWith arg.name "_data" = true := by
  have colon := Resolve.colon_of_mentions mentions
  cases piece with
  | free free => exact absurd free notFree
  | data isData type => exact Text.endsWith_iff_exists.mpr ⟨_, isData⟩
  | size isSize type =>
      rw [type] at colon
      exact absurd colon (by decide)
  | text isText type =>
      have kept : ':' ∈ (Text.without arg.type ' ').toList := by
        rw [Text.without, String.toList_ofList, List.mem_filter]
        exact ⟨mem_of_mem_bareType colon, by decide⟩
      rw [type] at kept
      exact absurd kept (by decide)

/-- A pointer to elements crosses the boundary as a pointer when it is declared. -/
theorem pointer_of_piece
    {arg : Argument} (piece : Piece arg)
    (isData : Text.endsWith arg.name "_data" = true) :
    Text.endsWith (withoutReference arg.type) "*" = true := by
  rcases Text.endsWith_iff_exists.mp isData with ⟨base, name⟩
  cases piece with
  | free free => exact absurd name (free.notData base)
  | data _ type =>
      apply endsWith_withoutReference
      rw [type]
      exact Text.endsWith_iff_exists.mpr ⟨_, rfl⟩
  | size isSize type => exact absurd (name.symm.trans isSize) (data_ne_size _ _)
  | text isText type => exact absurd (name.symm.trans isText) (data_ne_text _ _)

/-! ## Resolution -/

namespace Resolve

variable {exposed : List String} {index : EnumIndex} {f : Function} {arg : Argument}

/-- Only the search for enums looks at a raw argument. -/
theorem typedArgument_owned
    (declared : arg.Declared) (owned : (f.groupOf? arg.name).isSome = true) :
    typedArgument exposed index f arg =
      match (enumOf? index f.symbol arg.type).1 with
      | some typeClass =>
          { arg with typeClass, abiType := Typing.abiType arg.type typeClass .argument }
      | none => arg := by
  have passed : classifyArgument exposed f arg = (arg, []) := by
    simp [classifyArgument, owned]
  rw [typedArgument, passed, attachArgument, declared.plain, declared.value]
  cases search : enumOf? index f.symbol arg.type with
  | mk found notices =>
      cases found with
      | none => simp
      | some typeClass => simp

theorem typedArgument_rawArgument
    {api : Api}
    (indexes : Indexes index (ownedEnums api.classes))
    (declared : arg.Declared)
    (owned : (f.groupOf? arg.name).isSome = true)
    (piece : Piece arg)
    (notFree : ¬ FreeName arg.name) :
    RawArgument api arg (typedArgument exposed index f arg) := by
  have typed : typedArgument exposed index f arg = _ := typedArgument_owned declared owned
  have pointer : Text.endsWith arg.name "_data" = true →
      Text.endsWith arg.abiType "*" = true := by
    intro isData
    rw [declared.abi]
    exact pointer_of_piece piece isData
  cases search : (enumOf? index f.symbol arg.type).1 with
  | none =>
      rw [search] at typed
      have none : ¬ api.MentionedIn arg.type := by
        rintro ⟨enum, inEnums, mentions⟩
        rcases List.mem_map.mp (indexes.complete enum inEnums) with ⟨entry, inIndex, name⟩
        apply enumOf?_none.mp search entry inIndex
        rw [name]
        exact mentions
      rw [typed]
      exact ⟨declared.plain, declared.abi, pointer, by simp [none], fun some => absurd some none⟩
  | some typeClass =>
      rw [search] at typed
      rcases enumOf?_some search with ⟨entry, inIndex, mentions, equal⟩
      rcases indexes.sound entry inIndex with ⟨enum, inEnums, isEntry⟩
      rw [isEntry] at mentions equal
      rw [typed, ← equal]
      have mentioned : api.MentionedIn arg.type := ⟨enum, inEnums, mentions⟩
      refine ⟨declared.plain, declared.abi, pointer, ?_, ?_⟩
      · constructor
        · intro same
          have classes := congrArg Argument.typeClass same
          rw [declared.plain] at classes
          cases classes
        · intro none
          exact absurd mentioned none
      · intro _
        exact ⟨data_of_mentions piece notFree mentions, enum, inEnums, mentions, rfl⟩

end Resolve

/-- The raw arguments of a function before and after the resolution. -/
structure RawArguments (api : Api) (declared resolved : Function) : Prop where
  groups : resolved.arrayGroups = declared.arrayGroups
  args : List.Forall₂
    (fun before after =>
      (declared.groupOf? before.name).isSome = true → RawArgument api before after)
    declared.args resolved.args

theorem resolved_rawArguments
    {api : Api} {exposed : List String} {index : Resolve.EnumIndex}
    {owner : String} {kind : ClassKind} {declared resolved : Function}
    (indexes : Resolve.Indexes index (Resolve.ownedEnums api.classes))
    (isDeclared : declared.Declared owner kind)
    (related : Resolve.ResolvedFunction exposed index declared resolved) :
    RawArguments api declared resolved := by
  rcases related with ⟨docs, rfl⟩
  refine ⟨rfl, ?_⟩
  rcases isDeclared.grouped with ⟨values, args, declaredValues, grouped⟩
  have notFree (name : String) (owned : (declared.groupOf? name).isSome = true) :
      ¬ FreeName name := by
    intro free
    rw [Function.groupOf?_free grouped.regular free] at owned
    cases owned
  change List.Forall₂ _ declared.args
    (declared.args.map (Resolve.typedArgument exposed index declared))
  rw [List.forall₂_map_right_iff, List.forall₂_same]
  intro arg member owned
  rw [args] at member
  rcases List.mem_append.mp member with receiver | value
  · rw [ClassKind.receivers] at receiver
    split at receiver
    · cases receiver
    · rw [List.mem_singleton.mp receiver] at owned
      exact absurd freeName_receiver (notFree _ owned)
  · exact Resolve.typedArgument_rawArgument indexes (declaredValues arg value) owned
      (piece_of_grouped grouped arg value) (notFree _ owned)

/--
In an interface that is accepted, a raw argument is left as it is declared
exactly when its type mentions no enum of the interface.
-/
theorem extract_rawArguments
    (options : Header.Options) (sources : List HeaderSource) (api : Api)
    (accepted : (extract options sources).result = .ok api) :
    List.Forall₂
      (fun before after => List.Forall₂ (RawArguments api) before.functions after.functions)
      (gather options {} sources).api.classes api.classes := by
  rcases extract_ok accepted with ⟨index, indexes, related⟩
  have isDeclared := gathered_declared options sources
  generalize (gather options {} sources).api = declared at indexes related isDeclared
  have sameEnums : Resolve.ownedEnums api.classes = Resolve.ownedEnums declared.classes :=
    Related.flatMap_eq (fun _ _ pair => by rw [pair.name, pair.enums]) related
  rw [← sameEnums] at indexes
  have paired := (List.forall₂_and_left _ _).mpr ⟨isDeclared.classes, related⟩
  refine paired.imp fun before after pair => ?_
  have functions := (List.forall₂_and_left _ _).mpr ⟨pair.1.functions, pair.2.functions⟩
  exact functions.imp fun f g function => resolved_rawArguments indexes function.1 function.2

theorem enumArrayApi_rawArguments :
    (extract {} [enumArrayHeader]).result = .ok enumArrayApi ∧
      List.Forall₂
        (fun before after =>
          List.Forall₂ (RawArguments enumArrayApi) before.functions after.functions)
        (gather {} {} [enumArrayHeader]).api.classes enumArrayApi.classes :=
  ⟨extract_enumArrayHeader,
    extract_rawArguments {} [enumArrayHeader] enumArrayApi extract_enumArrayHeader⟩

/-- Raw arguments are not left as they are declared for every type of their elements. -/
theorem rawArgument_not_always_plain :
    ¬ ∀ (options : Header.Options) (sources : List HeaderSource) (api : Api),
      (extract options sources).result = .ok api →
      ∀ c ∈ api.classes, ∀ f ∈ c.functions, ∀ arg ∈ f.args,
        (f.groupOf? arg.name).isSome = true →
          arg.typeClass = .plain ∧ arg.abiType = withoutReference arg.type := by
  intro always
  have plain :=
    always {} [enumArrayHeader] enumArrayApi extract_enumArrayHeader
      _ (List.mem_singleton_self _) _ (List.mem_singleton_self _)
      _ (List.mem_cons_of_mem _ List.mem_cons_self) (by decide)
  cases plain.1

end HeaderBindings
