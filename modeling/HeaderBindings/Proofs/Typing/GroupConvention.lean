import HeaderBindings.Model.Signature
import HeaderBindings.Proofs.Text.Slice
import HeaderBindings.Typing.ArrayGroups

/-!
# The naming convention of array groups

The argument lists that the convention admits, as a relation between a list
and its groups: the list is cut into pieces, and a piece is one argument of
its own, a pointer with its count, or a text.  The main theorem says that the
groups of a list can be read exactly if the list is cut in this way.  Names
alone then tell the pieces apart: the group found for a raw argument is the one
it was read into, up to the element type.
-/

namespace HeaderBindings.Typing

open HeaderBindings.Text

/-! ## Names of raw arguments -/

/-- A name without any of the endings that the convention reserves. -/
structure FreeName (name : String) : Prop where
  notData : ∀ base, name ≠ base ++ "_data"
  notSize : ∀ base, name ≠ base ++ "_size"
  notText : ∀ base, name ≠ base ++ "_string"

theorem freeName_receiver : FreeName Argument.receiver.name := by
  constructor
  · intro base equal
    exact absurd (endsWith_iff_exists.mpr ⟨base, equal⟩) (by decide)
  · intro base equal
    exact absurd (endsWith_iff_exists.mpr ⟨base, equal⟩) (by decide)
  · intro base equal
    exact absurd (endsWith_iff_exists.mpr ⟨base, equal⟩) (by decide)

theorem data_ne_size (left right : String) : left ++ "_data" ≠ right ++ "_size" := by
  intro equal
  have last := tail_getLast?_eq (by decide) (by decide) equal
  simp at last

theorem data_ne_text (left right : String) : left ++ "_data" ≠ right ++ "_string" := by
  intro equal
  have last := tail_getLast?_eq (by decide) (by decide) equal
  simp at last

theorem size_ne_text (left right : String) : left ++ "_size" ≠ right ++ "_string" := by
  intro equal
  have last := tail_getLast?_eq (by decide) (by decide) equal
  simp at last

/-! ## The convention -/

/-- An argument list cut into pieces, with the groups of its pieces. -/
inductive Grouped : List Argument → List ArrayGroup → Prop where
  | nil : Grouped [] []
  | single
      {arg : Argument}
      (free : FreeName arg.name)
      (rest : Grouped args groups) :
      Grouped (arg :: args) groups
  | data
      {pointer count : Argument} {base pointee : String}
      (pointerName : pointer.name = base ++ "_data")
      (pointerType : bareType pointer.type = pointee ++ "*")
      (countName : count.name = base ++ "_size")
      (countType : bareType count.type = "uint64_t")
      (rest : Grouped args groups) :
      Grouped (pointer :: count :: args)
        (.data base pointer.name count.name (trim pointee) :: groups)
  | text
      {arg : Argument} {base : String}
      (textName : arg.name = base ++ "_string")
      (textType : without arg.type ' ' = "constchar*")
      (rest : Grouped args groups) :
      Grouped (arg :: args) (.text base arg.name :: groups)

/-- What reading the group at one argument amounts to. -/
inductive GroupRead
    (previous : Option Argument) (arg : Argument) (next : Option Argument) :
    Option ArrayGroup → Prop where
  | data
      (argName : arg.name = base ++ "_data")
      (argType : bareType arg.type = pointee ++ "*")
      (nextIs : next = some size)
      (sizeName : size.name = base ++ "_size")
      (sizeType : bareType size.type = "uint64_t") :
      GroupRead previous arg next (some (.data base arg.name size.name (trim pointee)))
  | size
      (argName : arg.name = base ++ "_size")
      (previousIs : previous = some before)
      (beforeName : before.name = base ++ "_data") :
      GroupRead previous arg next none
  | text
      (argName : arg.name = base ++ "_string")
      (argType : without arg.type ' ' = "constchar*") :
      GroupRead previous arg next (some (.text base arg.name))
  | single
      (free : FreeName arg.name) :
      GroupRead previous arg next none

theorem groupRead_of_groupAt
    {function : String} {previous next : Option Argument} {arg : Argument}
    {group : Option ArrayGroup}
    (read : groupAt function previous arg next = .ok group) :
    GroupRead previous arg next group := by
  rw [groupAt] at read
  cases data : dropTail? arg.name "_data" with
  | some base =>
      cases pointer : dropTail? (bareType arg.type) "*" with
      | none => simp [data, pointer] at read
      | some pointee =>
          cases next with
          | none => simp [data, pointer] at read
          | some size =>
              simp only [data, pointer] at read
              split at read
              · cases read
              · rename_i sizeName
                split at read
                · cases read
                · rename_i sizeType
                  cases read
                  exact .data
                    (dropTail?_eq_some_iff.mp data)
                    (dropTail?_eq_some_iff.mp pointer)
                    rfl
                    (by simpa using sizeName)
                    (by simpa using sizeType)
  | none =>
      cases count : dropTail? arg.name "_size" with
      | some base =>
          simp only [data, count] at read
          split at read
          · rename_i follows
            cases read
            cases previous with
            | none => cases follows
            | some before =>
                exact .size
                  (dropTail?_eq_some_iff.mp count)
                  rfl
                  (by simpa using follows)
          · cases read
      | none =>
          cases text : dropTail? arg.name "_string" with
          | some base =>
              simp only [data, count, text] at read
              split at read
              · rename_i textType
                cases read
                exact .text (dropTail?_eq_some_iff.mp text) (by simpa using textType)
              · cases read
          | none =>
              simp only [data, count, text, Except.ok.injEq] at read
              cases read
              refine .single ⟨?_, ?_, ?_⟩
              · rintro base equal
                simp [equal] at data
              · rintro base equal
                simp [equal] at count
              · rintro base equal
                simp [equal] at text

/-- At each argument, reading gives what the names and types around it say. -/
theorem groupAt_of_groupRead
    {function : String} {previous next : Option Argument} {arg : Argument}
    {group : Option ArrayGroup}
    (read : GroupRead previous arg next group) :
    groupAt function previous arg next = .ok group := by
  -- the endings are tried in turn, so the ones before the right one have to be ruled out
  cases read with
  | data argName argType nextIs sizeName sizeType =>
      simp [groupAt, argName, argType, nextIs, sizeName, sizeType]
  | @size base before argName previousIs beforeName =>
      have noData : dropTail? (base ++ "_size") "_data" = none :=
        dropTail?_eq_none_iff.mpr fun other equal => data_ne_size other base equal.symm
      simp [groupAt, argName, previousIs, beforeName, noData]
  | @text base argName argType =>
      have noData : dropTail? (base ++ "_string") "_data" = none :=
        dropTail?_eq_none_iff.mpr fun other equal => data_ne_text other base equal.symm
      have noSize : dropTail? (base ++ "_string") "_size" = none :=
        dropTail?_eq_none_iff.mpr fun other equal => size_ne_text other base equal.symm
      simp [groupAt, argName, argType, noData, noSize]
  | single free =>
      have noData := dropTail?_eq_none_iff.mpr free.notData
      have noSize := dropTail?_eq_none_iff.mpr free.notSize
      have noText := dropTail?_eq_none_iff.mpr free.notText
      simp [groupAt, noData, noSize, noText]

/-- A count starts no group of its own. -/
theorem GroupRead.none_of_size
    {previous next : Option Argument} {arg : Argument} {group : Option ArrayGroup} {base : String}
    (read : GroupRead previous arg next group)
    (sizeName : arg.name = base ++ "_size") :
    group = none := by
  cases read with
  | data dataName => exact absurd (dataName.symm.trans sizeName) (data_ne_size _ _)
  | size => rfl
  | text textName => exact absurd (sizeName.symm.trans textName) (size_ne_text _ _)
  | single free => rfl

/-- The groups of a list that starts with a value argument. -/
theorem groupsAfter_cons
    {function : String} {previous : Option Argument} {arg : Argument}
    {rest : List Argument} {groups : List ArrayGroup}
    (value : arg.isInstance = false)
    (read : groupsAfter function previous (arg :: rest) = .ok groups) :
    ∃ group others,
      GroupRead previous arg rest.head? group ∧
      groupsAfter function (some arg) rest = .ok others ∧
      groups = group.toList ++ others := by
  rw [groupsAfter, value] at read
  cases first : groupAt function previous arg rest.head? with
  | error failure => simp [first, bind, Except.bind] at read
  | ok group =>
      cases after : groupsAfter function (some arg) rest with
      | error failure => simp [first, after, bind, Except.bind] at read
      | ok others =>
          simp only [first, after, bind, Except.bind, pure, Except.pure,
            Bool.false_eq_true, if_false, Except.ok.injEq] at read
          exact ⟨group, others, groupRead_of_groupAt first, rfl, read.symm⟩

/--
A list of value arguments whose groups can be read is cut into pieces.  The
argument before the list must not be a pointer that waits for its count.
-/
theorem grouped_of_groupsAfter
    {function : String} {previous : Option Argument}
    {args : List Argument} {groups : List ArrayGroup}
    (values : ∀ arg ∈ args, arg.isInstance = false)
    (settled : ∀ before ∈ previous, ∀ base, before.name ≠ base ++ "_data")
    (read : groupsAfter function previous args = .ok groups) :
    Grouped args groups := by
  -- a pointer takes its count along, so the induction is on the length
  induction length : args.length using Nat.strong_induction_on
    generalizing args previous groups with
  | _ bound ih =>
      cases args with
      | nil =>
          cases read
          exact .nil
      | cons arg rest =>
          have valueRest : ∀ other ∈ rest, other.isInstance = false :=
            fun other member => values other (List.mem_cons_of_mem _ member)
          obtain ⟨group, others, first, after, rfl⟩ :=
            groupsAfter_cons (values arg List.mem_cons_self) read
          have shorter : rest.length < bound := by
            simp only [List.length_cons] at length
            omega
          cases first with
          | data argName argType nextIs sizeName sizeType =>
              rename_i base pointee count
              cases rest with
              | nil => cases nextIs
              | cons next more =>
                  cases nextIs
                  obtain ⟨group, last, second, remaining, rfl⟩ :=
                    groupsAfter_cons (valueRest count List.mem_cons_self) after
                  cases second.none_of_size sizeName
                  have moreGrouped : Grouped more last := by
                    apply ih more.length _ _ _ remaining rfl
                    · simp only [List.length_cons] at shorter
                      omega
                    · intro other member
                      exact valueRest other (List.mem_cons_of_mem _ member)
                    · intro before isCount base equal
                      cases isCount
                      exact data_ne_size _ _ (equal ▸ sizeName)
                  exact .data argName argType sizeName sizeType moreGrouped
          | size argName previousIs beforeName =>
              exact absurd beforeName (settled _ previousIs _)
          | text argName argType =>
              have restGrouped : Grouped rest others := by
                apply ih rest.length shorter valueRest _ after rfl
                intro before isArg base equal
                cases isArg
                exact data_ne_text _ _ (equal ▸ argName)
              exact .text argName argType restGrouped
          | single free =>
              have restGrouped : Grouped rest others := by
                apply ih rest.length shorter valueRest _ after rfl
                intro before isArg base
                cases isArg
                exact free.notData base
              exact .single free restGrouped

theorem groupsAfter_value
    {function : String} {previous : Option Argument} {arg : Argument}
    {rest : List Argument} {group : Option ArrayGroup} {others : List ArrayGroup}
    (value : arg.isInstance = false)
    (first : GroupRead previous arg rest.head? group)
    (after : groupsAfter function (some arg) rest = .ok others) :
    groupsAfter function previous (arg :: rest) = .ok (group.toList ++ others) := by
  rw [groupsAfter, value, groupAt_of_groupRead first, after]
  rfl

/-- The groups of a list that is cut into pieces can be read, whatever stands before the list. -/
theorem groupsAfter_of_grouped
    {function : String} {args : List Argument} {groups : List ArrayGroup}
    (values : ∀ arg ∈ args, arg.isInstance = false)
    (grouped : Grouped args groups) (previous : Option Argument) :
    groupsAfter function previous args = .ok groups := by
  induction grouped generalizing previous with
  | nil => rfl
  | single free rest ih =>
      rcases List.forall_mem_cons.mp values with ⟨value, others⟩
      exact groupsAfter_value value (.single free) (ih others _)
  | data pointerName pointerType countName countType rest ih =>
      rcases List.forall_mem_cons.mp values with ⟨value, others⟩
      rcases List.forall_mem_cons.mp others with ⟨countValue, others⟩
      have counted :=
        groupsAfter_value countValue (.size countName rfl pointerName) (ih others _)
      exact groupsAfter_value value
        (.data pointerName pointerType rfl countName countType) counted
  | text textName textType rest ih =>
      rcases List.forall_mem_cons.mp values with ⟨value, others⟩
      exact groupsAfter_value value (.text textName textType) (ih others _)

/-- A receiver in front of the value arguments has no part in the groups. -/
theorem groupsAfter_eq_ok_iff
    {function : String} {receiver : Option Argument}
    {values : List Argument} {groups : List ArrayGroup}
    (leading : ∀ first ∈ receiver, first.isInstance = true ∧ FreeName first.name)
    (isValue : ∀ arg ∈ values, arg.isInstance = false) :
    groupsAfter function none (receiver.toList ++ values) = .ok groups ↔
      Grouped values groups := by
  cases receiver with
  | none =>
      constructor
      · exact grouped_of_groupsAfter isValue (by simp)
      · exact fun grouped => groupsAfter_of_grouped isValue grouped none
  | some first =>
      rcases leading first rfl with ⟨isInstance, free⟩
      have skipped : groupsAfter function none (first :: values) =
          groupsAfter function (some first) values := by
        rw [groupsAfter, isInstance]
        cases groupsAfter function (some first) values <;> rfl
      rw [Option.toList_some, List.singleton_append, skipped]
      constructor
      · apply grouped_of_groupsAfter isValue
        rintro _ ⟨⟩
        exact free.notData
      · exact fun grouped => groupsAfter_of_grouped isValue grouped (some first)

/-- The groups of a function are those of its arguments, and its name tells whether it has some. -/
theorem arrayGroups_ok
    {function : String} {args : List Argument} {groups : List ArrayGroup}
    (read : arrayGroups function args = .ok groups) :
    groupsAfter function none args = .ok groups ∧
      (groups ≠ [] ↔ endsWith function "_c" = true) := by
  rw [arrayGroups] at read
  cases after : groupsAfter function none args with
  | error failure => simp [after, bind, Except.bind] at read
  | ok found =>
      cases empty : found.isEmpty <;> cases suffix : endsWith function "_c" <;>
        simp_all [bind, Except.bind]

theorem arrayGroups_eq_ok_iff
    {function : String} {args : List Argument} {groups : List ArrayGroup} :
    arrayGroups function args = .ok groups ↔
      groupsAfter function none args = .ok groups ∧
        (groups ≠ [] ↔ endsWith function "_c" = true) := by
  refine ⟨arrayGroups_ok, ?_⟩
  rintro ⟨read, suffix⟩
  rw [arrayGroups, read]
  cases groups with
  | nil =>
      have unmarked : endsWith function "_c" = false := by simpa using suffix
      simp [unmarked, bind, Except.bind]
  | cons group others =>
      have marked : endsWith function "_c" = true := by simpa using suffix
      simp [marked, bind, Except.bind]

/-- Pieces are told by names and types alone. -/
theorem Grouped.map
    {change : Argument → Argument}
    (name : ∀ arg, (change arg).name = arg.name)
    (type : ∀ arg, (change arg).type = arg.type)
    (grouped : Grouped args groups) :
    Grouped (args.map change) groups := by
  induction grouped with
  | nil => exact .nil
  | @single args groups arg free rest ih =>
      have changedFree : FreeName (change arg).name := by
        rw [name]
        exact free
      exact .single changedFree ih
  | @data args groups pointer count base pointee pointerName pointerType countName countType
      rest ih =>
      have piece : Grouped (change pointer :: change count :: args.map change)
          (.data base (change pointer).name (change count).name (trim pointee) :: groups) :=
        .data
          ((name pointer).trans pointerName)
          ((congrArg bareType (type pointer)).trans pointerType)
          ((name count).trans countName)
          ((congrArg bareType (type count)).trans countType)
          ih
      rwa [name, name] at piece
  | @text args groups arg base textName textType rest ih =>
      have piece : Grouped (change arg :: args.map change)
          (.text base (change arg).name :: groups) :=
        .text
          ((name arg).trans textName)
          ((congrArg (without · ' ') (type arg)).trans textType)
          ih
      rwa [name] at piece

/-! ## Groups by the names of their raw arguments -/

/-- A group whose raw arguments have the names that its own name reserves. -/
def Regular : ArrayGroup → Prop
  | .data base dataArg sizeArg _ => dataArg = base ++ "_data" ∧ sizeArg = base ++ "_size"
  | .text base arg => arg = base ++ "_string"

theorem Grouped.regular
    (grouped : Grouped args groups) :
    ∀ group ∈ groups, Regular group := by
  induction grouped with
  | nil => simp
  | single free rest ih => exact ih
  | data pointerName pointerType countName countType rest ih =>
      intro group member
      rcases List.mem_cons.mp member with rfl | later
      · exact ⟨pointerName, countName⟩
      · exact ih group later
  | text textName textType rest ih =>
      intro group member
      rcases List.mem_cons.mp member with rfl | later
      · exact textName
      · exact ih group later

theorem owns_data_iff {group : ArrayGroup} (regular : Regular group) (base : String) :
    group.owns (base ++ "_data") = true ↔
      ∃ element, group = .data base (base ++ "_data") (base ++ "_size") element := by
  cases group with
  | data name dataArg sizeArg element =>
      rcases regular with ⟨rfl, rfl⟩
      simp only [ArrayGroup.owns, Bool.or_eq_true, beq_iff_eq]
      constructor
      · rintro (same | count)
        · have bases := String.append_left_inj _ |>.mp same
          exact ⟨element, by rw [bases]⟩
        · exact absurd count (data_ne_size _ _)
      · rintro ⟨_, equal⟩
        cases equal
        exact Or.inl rfl
  | text name arg =>
      cases regular
      simp only [ArrayGroup.owns, beq_iff_eq, reduceCtorEq, exists_false, iff_false]
      exact data_ne_text _ _

theorem owns_size_iff {group : ArrayGroup} (regular : Regular group) (base : String) :
    group.owns (base ++ "_size") = true ↔
      ∃ element, group = .data base (base ++ "_data") (base ++ "_size") element := by
  cases group with
  | data name dataArg sizeArg element =>
      rcases regular with ⟨rfl, rfl⟩
      simp only [ArrayGroup.owns, Bool.or_eq_true, beq_iff_eq]
      constructor
      · rintro (pointer | same)
        · exact absurd pointer.symm (data_ne_size _ _)
        · have bases := String.append_left_inj _ |>.mp same
          exact ⟨element, by rw [bases]⟩
      · rintro ⟨_, equal⟩
        cases equal
        exact Or.inr rfl
  | text name arg =>
      cases regular
      simp only [ArrayGroup.owns, beq_iff_eq, reduceCtorEq, exists_false, iff_false]
      exact size_ne_text _ _

theorem owns_text_iff {group : ArrayGroup} (regular : Regular group) (base : String) :
    group.owns (base ++ "_string") = true ↔ group = .text base (base ++ "_string") := by
  cases group with
  | data name dataArg sizeArg element =>
      rcases regular with ⟨rfl, rfl⟩
      simp only [ArrayGroup.owns, Bool.or_eq_true, beq_iff_eq, reduceCtorEq, iff_false]
      rintro (pointer | count)
      · exact data_ne_text _ _ pointer.symm
      · exact size_ne_text _ _ count.symm
  | text name arg =>
      cases regular
      simp only [ArrayGroup.owns, beq_iff_eq, ArrayGroup.text.injEq]
      constructor
      · intro same
        have bases := String.append_left_inj _ |>.mp same
        exact ⟨bases.symm, same.symm⟩
      · rintro ⟨rfl, _⟩
        rfl

theorem owns_free {group : ArrayGroup} (regular : Regular group) {name : String}
    (free : FreeName name) : group.owns name = false := by
  cases group with
  | data base dataArg sizeArg element =>
      rcases regular with ⟨rfl, rfl⟩
      simp [ArrayGroup.owns, free.notData, free.notSize]
  | text base arg =>
      cases regular
      simp [ArrayGroup.owns, free.notText]

/-- Some group is found for a raw argument of a group of the list. -/
theorem find?_owns
    {groups : List ArrayGroup} {group : ArrayGroup} {name : String}
    (member : group ∈ groups) (owns : group.owns name = true) :
    ∃ found ∈ groups,
      groups.find? (fun other => other.owns name) = some found ∧ found.owns name = true := by
  cases search : groups.find? (fun other : ArrayGroup => other.owns name) with
  | none =>
      have none := List.find?_eq_none.mp search group member
      exact absurd owns none
  | some found =>
      have owned := List.find?_some (p := fun other : ArrayGroup => other.owns name) search
      exact ⟨found, List.mem_of_find?_eq_some search, rfl, owned⟩

end HeaderBindings.Typing
