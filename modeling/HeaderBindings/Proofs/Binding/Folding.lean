import HeaderBindings.Proofs.Typing.GroupConvention

/-!
# Folding raw arguments

The parameters of a wrapper, read off the value arguments: a free argument is
a parameter of its own, and a pointer with its count, or a text, is the
parameter of its group.  Groups are found by name alone; the convention makes
the result agree with the position of the raw arguments.
-/

namespace HeaderBindings

open HeaderBindings.Typing

/-- The wrapper parameters that stand for a list of value arguments. -/
inductive Folded : List Argument → List WrapperParam → Prop where
  | nil : Folded [] []
  | arg
      {argument : Argument}
      (free : FreeName argument.name)
      (rest : Folded args params) :
      Folded (argument :: args) (.arg argument :: params)
  | data
      {pointer count : Argument} {base element : String}
      (pointerName : pointer.name = base ++ "_data")
      (countName : count.name = base ++ "_size")
      (rest : Folded args params) :
      Folded (pointer :: count :: args)
        (.group (.data base (base ++ "_data") (base ++ "_size") element) :: params)
  | text
      {argument : Argument} {base : String}
      (textName : argument.name = base ++ "_string")
      (rest : Folded args params) :
      Folded (argument :: args) (.group (.text base (base ++ "_string")) :: params)

namespace Function

variable {f : Function}

/-- The groups of a function name their raw arguments by the convention. -/
def RegularGroups (f : Function) : Prop :=
  ∀ group ∈ f.arrayGroups, Regular group

theorem groupOf?_free (regular : f.RegularGroups) {name : String} (free : FreeName name) :
    f.groupOf? name = none := by
  rw [groupOf?, List.find?_eq_none]
  intro group member owned
  rw [owns_free (regular group member) free] at owned
  exact Bool.false_ne_true owned

/-- A group of the name is found for both raw arguments of a data group. -/
theorem groupOf?_data (regular : f.RegularGroups) {base element : String}
    (member : .data base (base ++ "_data") (base ++ "_size") element ∈ f.arrayGroups) :
    (∃ found, f.groupOf? (base ++ "_data") =
      some (.data base (base ++ "_data") (base ++ "_size") found)) ∧
    ∃ found, f.groupOf? (base ++ "_size") =
      some (.data base (base ++ "_data") (base ++ "_size") found) := by
  have regularMember := regular _ member
  constructor
  · obtain ⟨group, inGroups, search, owns⟩ :=
      find?_owns member ((owns_data_iff regularMember base).mpr ⟨element, rfl⟩)
    rcases (owns_data_iff (regular group inGroups) base).mp owns with ⟨found, equal⟩
    exact ⟨found, by rw [groupOf?, search, equal]⟩
  · obtain ⟨group, inGroups, search, owns⟩ :=
      find?_owns member ((owns_size_iff regularMember base).mpr ⟨element, rfl⟩)
    rcases (owns_size_iff (regular group inGroups) base).mp owns with ⟨found, equal⟩
    exact ⟨found, by rw [groupOf?, search, equal]⟩

theorem groupOf?_text (regular : f.RegularGroups) {base : String}
    (member : .text base (base ++ "_string") ∈ f.arrayGroups) :
    f.groupOf? (base ++ "_string") = some (.text base (base ++ "_string")) := by
  obtain ⟨group, inGroups, search, owns⟩ :=
    find?_owns member ((owns_text_iff (regular _ member) base).mpr rfl)
  have equal := (owns_text_iff (regular group inGroups) base).mp owns
  rw [groupOf?, search, equal]

theorem valueArgs_eq
    {receivers values : List Argument}
    (args : f.args = receivers ++ values)
    (isReceiver : ∀ arg ∈ receivers, arg.isInstance = true)
    (isValue : ∀ arg ∈ values, arg.isInstance = false) :
    f.valueArgs = values := by
  rw [Function.valueArgs, args, List.filter_append]
  have none : receivers.filter (fun arg => !arg.isInstance) = [] := by
    rw [List.filter_eq_nil_iff]
    intro arg member
    simp [isReceiver arg member]
  have all : values.filter (fun arg => !arg.isInstance) = values := by
    rw [List.filter_eq_self]
    intro arg member
    simp [isValue arg member]
  rw [none, all, List.nil_append]

/-- The parameter that an argument gives rise to, if it is the first of its group or free. -/
def wrapperParam? (f : Function) (arg : Argument) : Option WrapperParam :=
  match f.groupOf? arg.name with
  | some group => if group.firstArg == arg.name then some (.group group) else none
  | none => some (.arg arg)

theorem wrapperParams_eq (f : Function) :
    f.wrapperParams = f.valueArgs.filterMap f.wrapperParam? :=
  rfl

theorem wrapperParam?_free (regular : f.RegularGroups) {arg : Argument} (free : FreeName arg.name) :
    f.wrapperParam? arg = some (.arg arg) := by
  rw [wrapperParam?, groupOf?_free regular free]

theorem wrapperParam?_data
    (regular : f.RegularGroups)
    {pointer count : Argument} {base element : String}
    (pointerName : pointer.name = base ++ "_data")
    (countName : count.name = base ++ "_size")
    (member : .data base (base ++ "_data") (base ++ "_size") element ∈ f.arrayGroups) :
    (∃ found, f.wrapperParam? pointer =
      some (.group (.data base (base ++ "_data") (base ++ "_size") found))) ∧
    f.wrapperParam? count = none := by
  rcases groupOf?_data regular member with ⟨⟨first, atPointer⟩, ⟨second, atCount⟩⟩
  constructor
  · refine ⟨first, ?_⟩
    rw [wrapperParam?, pointerName, atPointer]
    simp [ArrayGroup.firstArg]
  · rw [wrapperParam?, countName, atCount]
    simp [ArrayGroup.firstArg]

theorem wrapperParam?_text
    (regular : f.RegularGroups)
    {arg : Argument} {base : String}
    (textName : arg.name = base ++ "_string")
    (member : .text base (base ++ "_string") ∈ f.arrayGroups) :
    f.wrapperParam? arg = some (.group (.text base (base ++ "_string"))) := by
  rw [wrapperParam?, textName, groupOf?_text regular member]
  simp [ArrayGroup.firstArg]

theorem folded_of_grouped
    {args : List Argument} {groups : List ArrayGroup}
    (regular : f.RegularGroups)
    (included : ∀ group ∈ groups, group ∈ f.arrayGroups)
    (grouped : Grouped args groups) :
    Folded args (args.filterMap f.wrapperParam?) := by
  induction grouped with
  | nil => exact .nil
  | @single args groups arg free rest ih =>
      rw [List.filterMap_cons_some (wrapperParam?_free regular free)]
      exact .arg free (ih included)
  | @data args groups pointer count base pointee pointerName _ countName _ rest ih =>
      rw [pointerName, countName] at included
      rcases List.forall_mem_cons.mp included with ⟨member, others⟩
      obtain ⟨⟨element, atPointer⟩, atCount⟩ :=
        wrapperParam?_data regular pointerName countName member
      rw [List.filterMap_cons_some atPointer, List.filterMap_cons_none atCount]
      exact .data pointerName countName (ih others)
  | @text args groups arg base textName _ rest ih =>
      rw [textName] at included
      rcases List.forall_mem_cons.mp included with ⟨member, others⟩
      rw [List.filterMap_cons_some (wrapperParam?_text regular textName member)]
      exact .text textName (ih others)

/-- The wrapper parameters of a function whose value arguments follow the convention. -/
theorem folded_wrapperParams (grouped : Grouped f.valueArgs f.arrayGroups) :
    Folded f.valueArgs f.wrapperParams := by
  rw [wrapperParams_eq]
  exact folded_of_grouped grouped.regular (fun _ member => member) grouped

end Function

/-- The raw names of the parameters are those of the arguments, in order. -/
theorem Folded.rawNames_eq (folded : Folded args params) :
    params.flatMap WrapperParam.rawNames = args.map Argument.name := by
  induction folded with
  | nil => rfl
  | arg free rest ih => simp [WrapperParam.rawNames, ih]
  | data pointerName countName rest ih => simp [WrapperParam.rawNames, pointerName, countName, ih]
  | text textName rest ih => simp [WrapperParam.rawNames, textName, ih]

/--
The groups of an argument list can be read exactly if its value arguments are
cut into pieces and the name of the function says whether some piece is a
group.  The parameters of the wrapper stand for all value arguments, in order.
-/
theorem arrayGroups_pieces
    (function : String) (receiver : Option Argument) (values : List Argument)
    (leading : ∀ first ∈ receiver, first.isInstance = true ∧ first.name = "inst_ptr")
    (isValue : ∀ arg ∈ values, arg.isInstance = false) :
    (∀ groups, arrayGroups function (receiver.toList ++ values) = .ok groups ↔
      Grouped values groups ∧ (groups ≠ [] ↔ Text.endsWith function "_c" = true)) ∧
    ∀ f : Function, f.name = function → f.args = receiver.toList ++ values →
      arrayGroups f.name f.args = .ok f.arrayGroups →
        f.wrapperParams.flatMap WrapperParam.rawNames = values.map Argument.name := by
  have free : ∀ first ∈ receiver, first.isInstance = true ∧ FreeName first.name := by
    intro first member
    rcases leading first member with ⟨isInstance, name⟩
    rw [name]
    exact ⟨isInstance, freeName_receiver⟩
  have read (groups : List ArrayGroup) :
      arrayGroups function (receiver.toList ++ values) = .ok groups ↔
        Grouped values groups ∧ (groups ≠ [] ↔ Text.endsWith function "_c" = true) := by
    rw [arrayGroups_eq_ok_iff, groupsAfter_eq_ok_iff free isValue]
  refine ⟨read, ?_⟩
  rintro f rfl args found
  rw [args] at found
  have grouped := ((read f.arrayGroups).mp found).1
  have isReceiver : ∀ arg ∈ receiver.toList, arg.isInstance = true :=
    fun arg member => (leading arg (Option.mem_toList.mp member)).1
  have valueArgs := Function.valueArgs_eq args isReceiver isValue
  rw [← valueArgs] at grouped
  rw [(Function.folded_wrapperParams grouped).rawNames_eq, valueArgs]

/-- Two groups with arguments of their own before, between and after them. -/
def mixedValues : List Argument := [
  { name := "width", type := "real_t", abiType := "real_t" },
  { name := "points_data", type := "const Vector3 *", abiType := "const Vector3 *" },
  { name := "points_size", type := "const uint64_t &", abiType := "const uint64_t" },
  { name := "label_string", type := "const char *", abiType := "const char *" },
  { name := "data", type := "int", abiType := "int" }]

theorem mixedValues_pieces :
    arrayGroups "draw_c" ((some Argument.receiver).toList ++ mixedValues) =
      .ok [
        .data "points" "points_data" "points_size" "Vector3",
        .text "label" "label_string"] ∧
    (∀ first ∈ some Argument.receiver, first.isInstance = true ∧ first.name = "inst_ptr") ∧
    (∀ arg ∈ mixedValues, arg.isInstance = false) ∧
    (∀ groups, arrayGroups "draw_c" ((some Argument.receiver).toList ++ mixedValues) =
        .ok groups ↔
      Grouped mixedValues groups ∧ (groups ≠ [] ↔ Text.endsWith "draw_c" "_c" = true)) ∧
    ∀ f : Function, f.name = "draw_c" →
      f.args = (some Argument.receiver).toList ++ mixedValues →
        arrayGroups f.name f.args = .ok f.arrayGroups →
          f.wrapperParams.flatMap WrapperParam.rawNames = mixedValues.map Argument.name :=
  ⟨by decide +kernel, by decide, by decide,
    arrayGroups_pieces "draw_c" (some .receiver) mixedValues (by decide) (by decide)⟩

end HeaderBindings
