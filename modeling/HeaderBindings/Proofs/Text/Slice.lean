import HeaderBindings.Text.Slice
import Mathlib.Data.List.DropRight
import Mathlib.Data.List.Infix

/-!
# Affixes and trimmed text

The cuts of `Text.Slice` as equations on strings: a head or a tail is dropped
exactly when the text is that head or tail joined to the rest.  Trimming and
the removal of a character are described by what they leave, so that no later
argument opens the searches themselves.
-/

namespace HeaderBindings.Text

/-! ## Affixes -/

theorem dropHead?_eq_some_iff {text head rest : String} :
    dropHead? text head = some rest ↔ text = head ++ rest := by
  rw [dropHead?, Option.map_eq_some_iff]
  constructor
  · rintro ⟨chars, found, rfl⟩
    apply String.toList_injective
    rw [String.toList_append, String.toList_ofList]
    exact (List.append_eq_of_isPrefixOf?_eq_some found).symm
  · rintro rfl
    refine ⟨rest.toList, ?_, String.ofList_toList⟩
    rw [List.isPrefixOf?_eq_some_iff_append_eq, String.toList_append]

theorem dropTail?_eq_some_iff {text tail base : String} :
    dropTail? text tail = some base ↔ text = base ++ tail := by
  rw [dropTail?, Option.map_eq_some_iff]
  constructor
  · rintro ⟨chars, found, rfl⟩
    apply String.toList_injective
    rw [String.toList_append, String.toList_ofList]
    exact (List.append_eq_of_isSuffixOf?_eq_some found).symm
  · rintro rfl
    refine ⟨base.toList, ?_, String.ofList_toList⟩
    rw [List.isSuffixOf?_eq_some_iff_append_eq, String.toList_append]

theorem dropTail?_eq_none_iff {text tail : String} :
    dropTail? text tail = none ↔ ∀ base, text ≠ base ++ tail := by
  rw [Option.eq_none_iff_forall_ne_some]
  exact forall_congr' fun base => not_congr dropTail?_eq_some_iff

theorem endsWith_iff_exists {text tail : String} :
    endsWith text tail = true ↔ ∃ base, text = base ++ tail := by
  rw [endsWith, List.isSuffixOf_iff_suffix]
  constructor
  · rintro ⟨chars, split⟩
    refine ⟨String.ofList chars, ?_⟩
    apply String.toList_injective
    rw [String.toList_append, String.toList_ofList, split]
  · rintro ⟨base, rfl⟩
    exact ⟨base.toList, (String.toList_append).symm⟩

theorem startsWith_iff_exists {text head : String} :
    startsWith text head = true ↔ ∃ rest, text = head ++ rest := by
  rw [startsWith, List.isPrefixOf_iff_prefix]
  constructor
  · rintro ⟨chars, split⟩
    refine ⟨String.ofList chars, ?_⟩
    apply String.toList_injective
    rw [String.toList_append, String.toList_ofList, split]
  · rintro ⟨rest, rfl⟩
    exact ⟨rest.toList, (String.toList_append).symm⟩

theorem startsWith_append_eq_false {text short : String} (rest : String)
    (absent : startsWith text short = false) :
    startsWith text (short ++ rest) = false := by
  rw [← Bool.not_eq_true, startsWith_iff_exists]
  rintro ⟨tail, split⟩
  have starts : startsWith text short = true :=
    startsWith_iff_exists.mpr ⟨rest ++ tail, by rw [split, String.append_assoc]⟩
  rw [starts] at absent
  cases absent

/-- A text that does not start with a head starts with no longer one. -/
theorem dropHead?_append_eq_none {text short : String} (rest : String)
    (absent : startsWith text short = false) :
    dropHead? text (short ++ rest) = none := by
  cases found : dropHead? text (short ++ rest) with
  | none => rfl
  | some tail =>
      have longer : startsWith text (short ++ rest) = true :=
        startsWith_iff_exists.mpr ⟨tail, dropHead?_eq_some_iff.mp found⟩
      rw [startsWith_append_eq_false rest absent] at longer
      cases longer

@[simp]
theorem dropTail?_append (base tail : String) :
    dropTail? (base ++ tail) tail = some base :=
  dropTail?_eq_some_iff.mpr rfl

/-- Two texts with tails end in the same character if they are equal. -/
theorem tail_getLast?_eq
    {left right leftTail rightTail : String}
    (leftNonempty : leftTail.toList ≠ [])
    (rightNonempty : rightTail.toList ≠ [])
    (equal : left ++ leftTail = right ++ rightTail) :
    leftTail.toList.getLast? = rightTail.toList.getLast? := by
  have chars : left.toList ++ leftTail.toList = right.toList ++ rightTail.toList := by
    rw [← String.toList_append, equal, String.toList_append]
  calc
    leftTail.toList.getLast? = (left.toList ++ leftTail.toList).getLast? :=
      (List.getLast?_append_of_ne_nil left.toList leftNonempty).symm
    _ = (right.toList ++ rightTail.toList).getLast? := by rw [chars]
    _ = rightTail.toList.getLast? :=
      List.getLast?_append_of_ne_nil right.toList rightNonempty

/-! ## Trimmed text -/

theorem dropEndWhile_eq_rdropWhile (p : Char → Bool) (text : List Char) :
    dropEndWhile p text = text.rdropWhile p :=
  rfl

theorem toList_trim (text : String) :
    (trim text).toList = (text.toList.dropWhile isBlank).rdropWhile isBlank := by
  rw [trim, trimEnd, trimStart, String.toList_ofList, String.toList_ofList,
    dropEndWhile_eq_rdropWhile]

/-- A text without blanks at its ends. -/
structure Trimmed (text : String) : Prop where
  start : ∀ nonempty : text.toList ≠ [], isBlank (text.toList.head nonempty) = false
  finish : ∀ nonempty : text.toList ≠ [], isBlank (text.toList.getLast nonempty) = false

theorem Trimmed.dropWhile_eq {text : String} (trimmed : Trimmed text) :
    text.toList.dropWhile isBlank = text.toList := by
  cases chars : text.toList with
  | nil => rfl
  | cons first rest =>
      have notBlank := trimmed.start (by simp [chars])
      simp only [chars, List.head_cons] at notBlank
      simp [notBlank]

theorem Trimmed.trimStart_eq {text : String} (trimmed : Trimmed text) : trimStart text = text := by
  rw [trimStart, trimmed.dropWhile_eq, String.ofList_toList]

theorem Trimmed.trim_eq {text : String} (trimmed : Trimmed text) : trim text = text := by
  apply String.toList_injective
  rw [toList_trim, trimmed.dropWhile_eq, List.rdropWhile_eq_self_iff]
  intro nonempty
  simp [trimmed.finish nonempty]

theorem trimmed_trim (text : String) : Trimmed (trim text) := by
  have kept := toList_trim text
  constructor
  · intro nonempty
    -- the first character that is left after cutting the end is the first one before it
    obtain ⟨blanks, split⟩ :=
      List.rdropWhile_prefix isBlank (l := text.toList.dropWhile isBlank)
    rw [← kept] at split
    have outer : text.toList.dropWhile isBlank ≠ [] := by
      rw [← split]
      simp [nonempty]
    have first := List.head_dropWhile_not isBlank outer
    have same : (trim text).toList.head nonempty =
        (text.toList.dropWhile isBlank).head outer := by
      simp only [← split, List.head_append_of_ne_nil nonempty]
    rw [same]
    simpa using first
  · intro nonempty
    have last :=
      List.rdropWhile_last_not isBlank (text.toList.dropWhile isBlank)
        (by simpa [kept] using nonempty)
    simp only [← kept] at last
    simpa using last

theorem trimmed_of_ends {text : String} {first last : Char}
    (starts : text.toList.head? = some first) (startNotBlank : isBlank first = false)
    (finishes : text.toList.getLast? = some last) (finishNotBlank : isBlank last = false) :
    Trimmed text := by
  constructor
  · intro nonempty
    rw [List.head?_eq_some_head nonempty, Option.some.injEq] at starts
    rw [starts]
    exact startNotBlank
  · intro nonempty
    rw [List.getLast?_eq_some_getLast nonempty, Option.some.injEq] at finishes
    rw [finishes]
    exact finishNotBlank

theorem rdropWhile_append_of_last {p : Char → Bool} {front : List Char} (back : List Char)
    (last : ∀ nonempty : front ≠ [], p (front.getLast nonempty) = false) :
    (front ++ back).rdropWhile p = front ++ back.rdropWhile p := by
  have kept : front.rdropWhile p = front := by
    rw [List.rdropWhile_eq_self_iff]
    intro nonempty
    simp [last nonempty]
  rw [List.rdropWhile, List.reverse_append, List.dropWhile_append]
  split
  · rename_i allDropped
    have none : back.rdropWhile p = [] := by
      rw [List.rdropWhile, List.isEmpty_iff.mp allDropped, List.reverse_nil]
    rw [none, List.append_nil]
    exact kept
  · rw [List.reverse_append, List.reverse_reverse]
    rfl

/-- Trimming removes an indentation, and it keeps the trimmed text behind that. -/
theorem trim_indented {indent code : String} (tail : String)
    (blank : ∀ c ∈ indent.toList, isBlank c = true)
    (trimmed : Trimmed code) (nonempty : code.toList ≠ []) :
    trim (indent ++ (code ++ tail)) = code ++ trimEnd tail := by
  have started : (code.toList ++ tail.toList).dropWhile isBlank = code.toList ++ tail.toList := by
    cases chars : code.toList with
    | nil => exact absurd chars nonempty
    | cons first rest =>
        have notBlank := trimmed.start nonempty
        simp only [chars, List.head_cons] at notBlank
        simp [notBlank]
  apply String.toList_injective
  rw [toList_trim, String.toList_append, List.dropWhile_append_of_pos blank,
    String.toList_append, started, rdropWhile_append_of_last _ trimmed.finish,
    String.toList_append, trimEnd, String.toList_ofList, dropEndWhile_eq_rdropWhile]

theorem trim_cons_blank {c : Char} (blank : isBlank c = true) (text : List Char) :
    trim (.ofList (c :: text)) = trim (.ofList text) := by
  apply String.toList_injective
  rw [toList_trim, toList_trim, String.toList_ofList, String.toList_ofList,
    List.dropWhile_cons_of_pos blank]

theorem trim_eq_empty_of_blank {text : List Char} (blank : text.all isBlank = true) :
    trim (.ofList text) = "" := by
  apply String.toList_injective
  rw [toList_trim, String.toList_ofList,
    List.dropWhile_eq_nil_iff.mpr (List.all_eq_true.mp blank)]
  rfl

/-- Trimming removes the blanks around a text, whatever the text is. -/
theorem trim_around {front back : List Char} (text : List Char)
    (frontBlank : ∀ c ∈ front, isBlank c = true) (backBlank : ∀ c ∈ back, isBlank c = true) :
    trim (.ofList (front ++ (text ++ back))) = trim (.ofList text) := by
  apply String.toList_injective
  simp only [toList_trim, String.toList_ofList]
  rw [List.dropWhile_append_of_pos frontBlank, List.dropWhile_append]
  split
  · rename_i allBlank
    rw [List.isEmpty_iff.mp allBlank, List.dropWhile_eq_nil_iff.mpr backBlank]
  · rw [List.rdropWhile, List.reverse_append, List.dropWhile_append_of_pos (by simpa using backBlank)]
    rfl

/-- A text is its trimmed form with blanks around it. -/
theorem exists_trim (text : String) :
    ∃ front back, text.toList = front ++ ((trim text).toList ++ back) ∧
      (∀ c ∈ front, isBlank c = true) ∧ ∀ c ∈ back, isBlank c = true := by
  refine ⟨text.toList.takeWhile isBlank, (text.toList.dropWhile isBlank).rtakeWhile isBlank,
    ?_, fun _ => List.mem_takeWhile_imp, fun _ => List.mem_rtakeWhile_imp⟩
  rw [toList_trim, List.rdropWhile_append_rtakeWhile, List.takeWhile_append_dropWhile]

/-- The blanks at the end make no difference to trimming. -/
theorem trim_trimEnd (text : String) : trim (trimEnd text) = trim text := by
  have noBlanks : ∀ c ∈ ([] : List Char), isBlank c = true := by simp
  have split : [] ++ (text.toList.rdropWhile isBlank ++ text.toList.rtakeWhile isBlank) =
      text.toList :=
    List.rdropWhile_append_rtakeWhile
  have around := trim_around (text.toList.rdropWhile isBlank) noBlanks
    fun _ => List.mem_rtakeWhile_imp (l := text.toList)
  rw [split, String.ofList_toList] at around
  exact around.symm

theorem length_trim_le (text : String) : (trim text).toList.length ≤ text.toList.length := by
  rcases exists_trim text with ⟨front, back, split, -⟩
  rw [split, List.length_append, List.length_append]
  omega

/-- A text between two trimmed ones may have blanks at its own ends. -/
theorem Trimmed.around {front back : String}
    (starts : Trimmed front) (frontNonempty : front.toList ≠ [])
    (finishes : Trimmed back) (backNonempty : back.toList ≠ []) (middle : String) :
    Trimmed (front ++ (middle ++ back)) := by
  constructor
  · intro nonempty
    simp only [String.toList_append, List.head_append_of_ne_nil frontNonempty]
    exact starts.start frontNonempty
  · intro nonempty
    simp only [String.toList_append]
    rw [List.getLast_append_of_ne_nil _ (by simp [backNonempty]),
      List.getLast_append_of_ne_nil _ backNonempty]
    exact finishes.finish backNonempty

theorem mem_of_mem_trim {text : String} {c : Char} (member : c ∈ (trim text).toList) :
    c ∈ text.toList := by
  rw [toList_trim] at member
  have inner := (List.rdropWhile_prefix isBlank _).subset member
  exact (List.dropWhile_suffix isBlank).subset inner

/-! ## The last character apart from some -/

/-- The character `c` occurs in a text, and all characters after it satisfy `p`. -/
def LastBut (p : Char → Bool) (c : Char) (text : List Char) : Prop :=
  ∃ before after, text = before ++ c :: after ∧ ∀ d ∈ after, p d = true

namespace LastBut

variable {p q : Char → Bool} {c : Char} {text : List Char}

theorem append_left (front : List Char) (last : LastBut p c text) :
    LastBut p c (front ++ text) := by
  rcases last with ⟨before, after, rfl, passed⟩
  exact ⟨front ++ before, after, by simp, passed⟩

theorem of_dropWhile (last : LastBut p c (text.dropWhile q)) : LastBut p c text := by
  have whole := last.append_left (text.takeWhile q)
  rwa [List.takeWhile_append_dropWhile] at whole

theorem of_rdropWhile
    (weaker : ∀ d, q d = true → p d = true)
    (last : LastBut p c (text.rdropWhile q)) :
    LastBut p c text := by
  rcases last with ⟨before, after, split, passed⟩
  refine ⟨before, after ++ text.rtakeWhile q, ?_, ?_⟩
  · calc
      text = text.rdropWhile q ++ text.rtakeWhile q :=
        List.rdropWhile_append_rtakeWhile.symm
      _ = before ++ c :: (after ++ text.rtakeWhile q) := by simp [split]
  · intro d member
    rcases List.mem_append.mp member with kept | cut
    · exact passed d kept
    · exact weaker d (List.mem_rtakeWhile_imp cut)

theorem filter (keep : Char → Bool)
    (kept : keep c = true)
    (rest : ∀ d, p d = true → keep d = true → q d = true)
    (last : LastBut p c text) :
    LastBut q c (text.filter keep) := by
  rcases last with ⟨before, after, rfl, passed⟩
  refine ⟨before.filter keep, after.filter keep, by simp [kept], ?_⟩
  intro d member
  rcases List.mem_filter.mp member with ⟨inAfter, keeps⟩
  exact rest d (passed d inAfter) keeps

/-- Trimming brings such a character to the end. -/
theorem endsWith_trim {text : String}
    (notBlank : isBlank c = false)
    (last : LastBut isBlank c text.toList) :
    (trim text).toList.getLast? = some c := by
  rcases last with ⟨before, after, split, blanks⟩
  have started : ∃ start, text.toList.dropWhile isBlank = start ++ c :: after := by
    rw [split, List.dropWhile_append]
    split
    · exact ⟨[], by simp [notBlank]⟩
    · exact ⟨before.dropWhile isBlank, rfl⟩
  rcases started with ⟨start, started⟩
  have cut : (start ++ c :: after).rdropWhile isBlank = start ++ [c] := by
    have regrouped : start ++ c :: after = (start ++ [c]) ++ after := by simp
    rw [regrouped, List.rdropWhile, List.reverse_append, List.dropWhile_append_of_pos]
    · simp [notBlank]
    · simpa using blanks
  rw [toList_trim, started, cut]
  simp

end LastBut

/-! ## Occurrences -/

theorem isSome_cut?_iff {pattern text : List Char} :
    (cut? pattern text).isSome = true ↔ pattern <:+: text := by
  induction text with
  | nil => simp [cut?]
  | cons c rest ih =>
      rw [cut?, List.infix_cons_iff]
      cases found : pattern.isPrefixOf? (c :: rest) with
      | some after =>
          have atStart : pattern <+: c :: rest :=
            ⟨after, List.isPrefixOf?_eq_some_iff_append_eq.mp found⟩
          simp [atStart]
      | none =>
          have notAtStart : ¬ pattern <+: c :: rest := by
            rintro ⟨after, split⟩
            rw [List.isPrefixOf?_eq_some_iff_append_eq.mpr split] at found
            cases found
          simp [notAtStart, ih]

/-- A text is cut at the first of the characters that are equal to a given one. -/
theorem cut?_singleton_iff {c : Char} {text before after : List Char} :
    cut? [c] text = some (before, after) ↔ text = before ++ c :: after ∧ c ∉ before := by
  induction text generalizing before with
  | nil => simp [cut?]
  | cons d rest ih =>
      by_cases same : c = d
      · -- the text is cut here, so there is nothing in front of the character
        subst same
        have here : cut? [c] (c :: rest) = some ([], rest) := by
          simp [cut?, List.isPrefixOf?]
        rw [here]
        cases before with
        | nil => simp
        | cons first before => grind
      · have further : cut? [c] (d :: rest) =
            (cut? [c] rest).map fun sides => (d :: sides.1, sides.2) := by
          simp [cut?, List.isPrefixOf?, same]
        rw [further]
        cases before with
        | nil => simp [Ne.symm same]
        | cons first before =>
            simp only [Option.map_eq_some_iff, Prod.exists, Prod.mk.injEq, List.cons.injEq,
              List.cons_append, List.mem_cons, not_or]
            constructor
            · rintro ⟨found, rest', isCut, ⟨rfl, rfl⟩, rfl⟩
              rcases ih.mp isCut with ⟨split, absent⟩
              exact ⟨⟨rfl, split⟩, same, absent⟩
            · rintro ⟨⟨rfl, split⟩, _, absent⟩
              exact ⟨before, after, ih.mpr ⟨split, absent⟩, ⟨rfl, rfl⟩, rfl⟩

/-- A text is cut at the first place where a pair of different characters stands. -/
theorem cut?_pair {a b : Char} {before after : List Char}
    (different : a ≠ b) (absent : ¬ [a, b] <:+: before) :
    cut? [a, b] (before ++ a :: b :: after) = some (before, after) := by
  induction before with
  | nil => simp [cut?, List.isPrefixOf?]
  | cons c before ih =>
      have notHere : [a, b].isPrefixOf? (c :: (before ++ a :: b :: after)) = none := by
        rw [Option.eq_none_iff_forall_ne_some]
        intro rest starts
        rw [List.isPrefixOf?_eq_some_iff_append_eq] at starts
        cases before with
        | nil =>
            simp only [List.cons_append, List.nil_append, List.cons.injEq] at starts
            exact different starts.2.1.symm
        | cons d before =>
            simp only [List.cons_append, List.nil_append, List.cons.injEq] at starts
            exact absent ⟨[], before, by simp [starts.1, starts.2.1]⟩
      rw [List.cons_append, cut?, notHere, ih fun inside => absent (List.infix_cons inside)]
      rfl

theorem contains_iff_exists {text pattern : String} :
    contains text pattern = true ↔ ∃ before after, text = before ++ (pattern ++ after) := by
  rw [contains, isSome_cut?_iff]
  constructor
  · rintro ⟨before, after, split⟩
    refine ⟨String.ofList before, String.ofList after, ?_⟩
    apply String.toList_injective
    simp [← split]
  · rintro ⟨before, after, rfl⟩
    exact ⟨before.toList, after.toList, by simp⟩

theorem contains_trans {outer inner pattern : String}
    (first : contains outer inner = true) (second : contains inner pattern = true) :
    contains outer pattern = true := by
  rcases contains_iff_exists.mp first with ⟨before, after, rfl⟩
  rcases contains_iff_exists.mp second with ⟨front, back, rfl⟩
  exact contains_iff_exists.mpr ⟨before ++ front, back ++ after, by simp [String.append_assoc]⟩

/-! ## Joined texts -/

section

variable {separator item : String} {items : List String}

@[simp]
theorem joinWith_singleton (separator item : String) : joinWith separator [item] = item :=
  String.intercalate_singleton

theorem joinWith_cons (separator item : String) (nonempty : items ≠ []) :
    joinWith separator (item :: items) = item ++ (separator ++ joinWith separator items) := by
  rw [joinWith, String.intercalate_cons_of_ne_nil nonempty, String.append_assoc]
  rfl

theorem joinWith_append {more : List String} (nonempty : items ≠ []) (moreNonempty : more ≠ []) :
    joinWith separator (items ++ more) =
      joinWith separator items ++ (separator ++ joinWith separator more) := by
  rw [← String.append_assoc]
  exact String.intercalate_append_of_ne_nil nonempty moreNonempty

theorem joinWith_nonempty (isText : ∀ item ∈ items, item.toList ≠ []) (nonempty : items ≠ []) :
    (joinWith separator items).toList ≠ [] := by
  cases items with
  | nil => exact absurd rfl nonempty
  | cons first rest =>
      have firstNonempty := isText first List.mem_cons_self
      by_cases last : rest = []
      · rw [last, joinWith_singleton]
        exact firstNonempty
      · rw [joinWith_cons separator first last, String.toList_append]
        exact List.append_ne_nil_of_left_ne_nil firstNonempty _

/-- A joined text has blanks at its ends only if some item has. -/
theorem trimmed_joinWith
    (isText : ∀ item ∈ items, item.toList ≠ []) (trimmed : ∀ item ∈ items, Trimmed item) :
    Trimmed (joinWith separator items) := by
  induction items with
  | nil => exact ⟨fun nonempty => absurd rfl nonempty, fun nonempty => absurd rfl nonempty⟩
  | cons first rest ih =>
      rcases List.forall_mem_cons.mp isText with ⟨firstNonempty, restNonempty⟩
      rcases List.forall_mem_cons.mp trimmed with ⟨firstTrimmed, restTrimmed⟩
      by_cases last : rest = []
      · rw [last, joinWith_singleton]
        exact firstTrimmed
      · rw [joinWith_cons separator first last]
        exact firstTrimmed.around firstNonempty (ih restNonempty restTrimmed)
          (joinWith_nonempty restNonempty last) separator

/-- A joined text contains each of its items. -/
theorem contains_joinWith (member : item ∈ items) :
    contains (joinWith separator items) item = true := by
  induction items with
  | nil => cases member
  | cons first rest ih =>
      by_cases last : rest = []
      · rw [last, List.mem_singleton] at member
        rw [last, joinWith_singleton, member]
        exact contains_iff_exists.mpr ⟨"", "", by simp⟩
      · rw [joinWith_cons separator first last]
        rcases List.mem_cons.mp member with rfl | later
        · exact contains_iff_exists.mpr ⟨"", _, String.empty_append.symm⟩
        · rcases contains_iff_exists.mp (ih later) with ⟨before, after, split⟩
          exact contains_iff_exists.mpr ⟨first ++ (separator ++ before), after, by
            simp [split, String.append_assoc]⟩

theorem mem_joinWith {c : Char} (member : c ∈ (joinWith separator items).toList) :
    c ∈ separator.toList ∨ ∃ item ∈ items, c ∈ item.toList := by
  induction items with
  | nil => cases member
  | cons first rest ih =>
      by_cases last : rest = []
      · rw [last, joinWith_singleton] at member
        exact .inr ⟨first, List.mem_cons_self, member⟩
      · rw [joinWith_cons separator first last, String.toList_append, String.toList_append,
          List.mem_append, List.mem_append] at member
        rcases member with here | between | later
        · exact .inr ⟨first, List.mem_cons_self, here⟩
        · exact .inl between
        · rcases ih later with between | ⟨item, isItem, inItem⟩
          · exact .inl between
          · exact .inr ⟨item, List.mem_cons_of_mem _ isItem, inItem⟩

end

/-! ## Replacement -/

/-- What is left of an occurrence is passed over. -/
theorem replaceFrom_drop (pattern replacement text : List Char) (count : Nat) :
    replaceFrom pattern replacement count text =
      replaceFrom pattern replacement 0 (text.drop count) := by
  induction text generalizing count with
  | nil => cases count <;> rfl
  | cons c text ih =>
      cases count with
      | zero => rfl
      | succ count =>
          rw [replaceFrom, List.drop_succ_cons]
          exact ih count

theorem replaceFrom_match {pattern : List Char} (nonempty : pattern ≠ [])
    (replacement back : List Char) :
    replaceFrom pattern replacement 0 (pattern ++ back) =
      replacement ++ replaceFrom pattern replacement 0 back := by
  cases pattern with
  | nil => exact absurd rfl nonempty
  | cons c pattern =>
      have starts : (c :: pattern).isPrefixOf (c :: (pattern ++ back)) = true :=
        List.isPrefixOf_iff_prefix.mpr ⟨back, rfl⟩
      rw [List.cons_append, replaceFrom, if_pos starts, replaceFrom_drop, List.length_cons,
        Nat.add_sub_cancel, List.drop_left]

/-- A text at none of whose characters an occurrence starts. -/
theorem replaceFrom_append {pattern replacement front : List Char} (back : List Char)
    (apart : ∀ inner, inner ≠ [] → inner <:+ front → ¬ pattern <+: inner ++ back) :
    replaceFrom pattern replacement 0 (front ++ back) =
      front ++ replaceFrom pattern replacement 0 back := by
  induction front with
  | nil => rfl
  | cons c front ih =>
      have noMatch := apart (c :: front) (List.cons_ne_nil c front) List.suffix_rfl
      have later := ih fun inner nonempty suffix =>
        apart inner nonempty (suffix.trans (List.suffix_cons c front))
      rw [List.cons_append] at noMatch ⊢
      rw [replaceFrom, if_neg (mt List.isPrefixOf_iff_prefix.mp noMatch), later,
        List.cons_append]

end HeaderBindings.Text
