import Mathlib.Data.List.Basic

/-!
# The content of XML elements

Characters, references to the predefined entities, and elements whose tags are
balanced.  Names are runs of ASCII letters, which is all that is needed here of
what XML admits, and no character that has an entity stands for itself in the
value of an attribute.  A text is read in one way only, so that its nodes can be
spoken of.  To be well-formed, a text also must not contain characters that XML
excludes in any form.
-/

namespace HeaderBindings.Xml

/-- A character of a text, or an element with its attributes and its content. -/
inductive Node where
  | char (c : Char)
  | element (tag : String) (attributes : List (String × String)) (children : List Node)

/-- The predefined entities, with the characters that they stand for. -/
def entities : List (String × Char) :=
  [("amp", '&'), ("lt", '<'), ("gt", '>'), ("quot", '"'), ("apos", '\x27')]

/-- The characters that have an entity. -/
def specials : List Char :=
  entities.map Prod.snd

/-- The characters that never stand for themselves in content. -/
def markup : List Char :=
  ['&', '<', '>']

/-- A name of an element or an attribute. -/
structure IsName (name : String) : Prop where
  nonempty : name.toList ≠ []
  letters : ∀ c ∈ name.toList, c.isAlpha = true

/-- The attributes in a start tag. -/
inductive Attributes : List Char → List (String × String) → Prop where
  | nil : Attributes [] []
  | cons {key value : String} {text : List Char} {attributes : List (String × String)}
      (isName : IsName key) (plain : ∀ c ∈ value.toList, c ∉ specials)
      (new : key ∉ attributes.map Prod.fst) (rest : Attributes text attributes) :
      Attributes (' ' :: (key.toList ++ '=' :: '"' :: (value.toList ++ '"' :: text)))
        ((key, value) :: attributes)

/-- The nodes that a text consists of. -/
inductive Content : List Char → List Node → Prop where
  | nil : Content [] []
  | char {c : Char} {text : List Char} {nodes : List Node}
      (plain : c ∉ markup) (rest : Content text nodes) : Content (c :: text) (.char c :: nodes)
  | entity {name : String} {c : Char} {text : List Char} {nodes : List Node}
      (known : (name, c) ∈ entities) (rest : Content text nodes) :
      Content ('&' :: (name.toList ++ ';' :: text)) (.char c :: nodes)
  | element {tag : String} {attributes : List (String × String)} {children nodes : List Node}
      {own inner text : List Char} (isName : IsName tag) (given : Attributes own attributes)
      (within : Content inner children) (rest : Content text nodes) :
      Content
        ('<' :: (tag.toList ++
          (own ++ '>' :: (inner ++ '<' :: '/' :: (tag.toList ++ '>' :: text)))))
        (.element tag attributes children :: nodes)

/-- The characters of XML 1.0. -/
def isChar (c : Char) : Bool :=
  let n := c.toNat
  n == 0x9 || n == 0xA || n == 0xD || (0x20 ≤ n && n ≤ 0xD7FF) || (0xE000 ≤ n && n ≤ 0xFFFD) ||
    0x10000 ≤ n

/-- A text of characters of XML that consists of nodes. -/
def WellFormed (text : List Char) : Prop :=
  (∃ nodes, Content text nodes) ∧ ∀ c ∈ text, isChar c = true

variable {text other rest otherRest : List Char} {nodes others : List Node}

/-! ## Building content -/

theorem notMem_of_all {marks : List Char} (all : (text.all fun c => !marks.contains c) = true) :
    ∀ c ∈ text, c ∉ marks := by
  simpa using all

theorem isName_of_all {name : String} (nonempty : name.toList ≠ [])
    (letters : name.toList.all Char.isAlpha = true) : IsName name :=
  ⟨nonempty, List.all_eq_true.mp letters⟩

theorem Content.append (first : Content text nodes) (second : Content other others) :
    Content (text ++ other) (nodes ++ others) := by
  induction first with
  | nil => exact second
  | char plain _ ih => exact .char plain ih
  | entity known _ ih =>
      rw [List.cons_append, List.append_assoc, List.cons_append]
      exact .entity known ih
  | element isName given within _ _ ih =>
      simp only [List.cons_append, List.append_assoc]
      exact .element isName given within ih

theorem content_plain (plain : ∀ c ∈ text, c ∉ markup) : Content text (text.map .char) := by
  induction text with
  | nil => exact .nil
  | cons c text ih =>
      rcases List.forall_mem_cons.mp plain with ⟨here, later⟩
      exact .char here (ih later)

/-- An element without attributes around some content. -/
theorem Content.tagged {tag : String} (isName : IsName tag) (within : Content text nodes) :
    Content ('<' :: (tag.toList ++ '>' :: (text ++ '<' :: '/' :: (tag.toList ++ ['>']))))
      [.element tag [] nodes] :=
  .element isName .nil within .nil

/-! ## One reading -/

/-- Runs of characters are the same if what is behind them starts otherwise and the texts are the
same. -/
theorem run_unique {p : Char → Bool} {run second : List Char} {c d : Char}
    (all : ∀ c ∈ run, p c = true) (alsoAll : ∀ c ∈ second, p c = true)
    (ends : p c = false) (alsoEnds : p d = false)
    (same : run ++ c :: rest = second ++ d :: otherRest) :
    run = second ∧ c :: rest = d :: otherRest := by
  have runs := congrArg (List.takeWhile p) same
  rw [List.takeWhile_append_of_pos all, List.takeWhile_append_of_pos alsoAll,
    List.takeWhile_cons_of_neg (by simp [ends]), List.takeWhile_cons_of_neg (by simp [alsoEnds]),
    List.append_nil, List.append_nil] at runs
  rw [runs] at same
  exact ⟨runs, List.append_cancel_left same⟩

/-- What can stand behind content: nothing, or an end tag. -/
def Ends (text : List Char) : Prop :=
  text = [] ∨ ∃ name, text = '<' :: '/' :: name

/-- No content starts with an end tag. -/
theorem Content.eq_nil_of_ends (content : Content text nodes) (ends : Ends (text ++ rest)) :
    text = [] ∧ nodes = [] := by
  cases content with
  | nil => exact ⟨rfl, rfl⟩
  | @char c text nodes plain _ =>
      rcases ends with impossible | ⟨name, same⟩
      · cases impossible
      · cases (List.cons.inj same).1
        exact absurd (by decide) plain
  | entity known _ =>
      rcases ends with impossible | ⟨name, same⟩
      · cases impossible
      · cases (List.cons.inj same).1
  | @element tag attributes children nodes own inner text isName given within _ =>
      rcases ends with impossible | ⟨name, same⟩
      · cases impossible
      · obtain ⟨first, letters, split⟩ := List.exists_cons_of_ne_nil isName.nonempty
        have isLetter := isName.letters first (by rw [split]; exact List.mem_cons_self)
        rw [split] at same
        cases (List.cons.inj (List.cons.inj same).2).1
        cases isLetter

theorem Content.ne_of_ends {c : Char} (content : Content (c :: text) nodes)
    (ends : Ends otherRest) : c :: text ++ rest ≠ [] ++ otherRest := by
  intro same
  rw [List.nil_append] at same
  rw [← same] at ends
  exact List.cons_ne_nil c text (content.eq_nil_of_ends ends).1

/-- What is behind the name in a start tag is no letter. -/
theorem Attributes.head {attributes : List (String × String)} (given : Attributes text attributes)
    (rest : List Char) : ∃ c more, text ++ '>' :: rest = c :: more ∧ c.isAlpha = false := by
  cases given with
  | nil => exact ⟨'>', rest, rfl, by decide⟩
  | cons isName plain new others => exact ⟨' ', _, rfl, by decide⟩

theorem unquoted {value : String} (plain : ∀ c ∈ value.toList, c ∉ specials) :
    ∀ c ∈ value.toList, (c != '"') = true := by
  intro c member
  rw [bne_iff_ne]
  rintro rfl
  exact plain _ member (by decide)

theorem Attributes.unique {attributes alsoGiven : List (String × String)}
    (first : Attributes text attributes) (second : Attributes other alsoGiven)
    (same : text ++ '>' :: rest = other ++ '>' :: otherRest) :
    attributes = alsoGiven ∧ rest = otherRest := by
  induction first generalizing other alsoGiven with
  | nil =>
      cases second with
      | nil => exact ⟨rfl, (List.cons.inj same).2⟩
      | cons => cases (List.cons.inj same).1
  | @cons key value text attributes isName plain _ others ih =>
      cases second with
      | nil => cases (List.cons.inj same).1
      | @cons key' value' text' attributes' isName' plain' _ others' =>
          simp only [List.cons_append, List.append_assoc, List.cons.injEq, true_and] at same
          obtain ⟨sameKey, behindKey⟩ :=
            run_unique isName.letters isName'.letters (by decide) (by decide) same
          obtain ⟨_, quoted⟩ := List.cons.inj behindKey
          obtain ⟨sameValue, behindValue⟩ :=
            run_unique (unquoted plain) (unquoted plain') (by decide) (by decide)
              (List.cons.inj quoted).2
          obtain ⟨rfl, behind⟩ := ih others' (List.cons.inj behindValue).2
          rw [String.toList_injective sameKey, String.toList_injective sameValue]
          exact ⟨rfl, behind⟩

theorem isAlpha_of_entity : ∀ entity ∈ entities, ∀ c ∈ entity.1.toList, c.isAlpha = true := by
  have letters : (entities.all fun entity => entity.1.toList.all Char.isAlpha) = true := by decide
  simpa only [List.all_eq_true] using letters

theorem entity_unique {name second : String} {c d : Char} (known : (name, c) ∈ entities)
    (alsoKnown : (second, d) ∈ entities)
    (same : name.toList ++ ';' :: rest = second.toList ++ ';' :: otherRest) :
    c = d ∧ rest = otherRest := by
  have functional : ∀ entity ∈ entities, ∀ other ∈ entities,
      entity.1 = other.1 → entity.2 = other.2 := by decide
  obtain ⟨sameName, behind⟩ :=
    run_unique (isAlpha_of_entity _ known) (isAlpha_of_entity _ alsoKnown) (by decide) (by decide)
      same
  exact ⟨functional _ known _ alsoKnown (String.toList_injective sameName),
    (List.cons.inj behind).2⟩

/-- Content is read in one way, up to an end tag or to the end of the text. -/
theorem Content.unique_upTo (first : Content text nodes) (second : Content other others)
    (same : text ++ rest = other ++ otherRest) (ends : Ends rest) (alsoEnds : Ends otherRest) :
    nodes = others ∧ rest = otherRest := by
  induction first generalizing other others rest otherRest with
  | nil =>
      rw [List.nil_append] at same
      have startsEnd : Ends (other ++ otherRest) := same ▸ ends
      obtain ⟨rfl, rfl⟩ := second.eq_nil_of_ends startsEnd
      exact ⟨rfl, same⟩
  | @char c text nodes plain content ih =>
      cases second with
      | nil => exact absurd same ((Content.char plain content).ne_of_ends alsoEnds)
      | char plain' content' =>
          obtain ⟨rfl, behind⟩ := List.cons.inj same
          obtain ⟨rfl, sameRest⟩ := ih content' behind ends alsoEnds
          exact ⟨rfl, sameRest⟩
      | entity => exact absurd (by rw [(List.cons.inj same).1]; decide) plain
      | element => exact absurd (by rw [(List.cons.inj same).1]; decide) plain
  | @entity name c text nodes known content ih =>
      cases second with
      | nil => exact absurd same ((Content.entity known content).ne_of_ends alsoEnds)
      | char plain' => exact absurd (by rw [← (List.cons.inj same).1]; decide) plain'
      | entity known' content' =>
          simp only [List.cons_append, List.append_assoc, List.cons.injEq, true_and] at same
          obtain ⟨rfl, behind⟩ := entity_unique known known' same
          obtain ⟨rfl, sameRest⟩ := ih content' behind ends alsoEnds
          exact ⟨rfl, sameRest⟩
      | element => cases (List.cons.inj same).1
  | @element tag attributes children nodes own inner text isName given within content ihWithin ih =>
      cases second with
      | nil =>
          exact absurd same ((Content.element isName given within content).ne_of_ends alsoEnds)
      | char plain' => exact absurd (by rw [← (List.cons.inj same).1]; decide) plain'
      | entity => cases (List.cons.inj same).1
      | @element tag' attributes' children' nodes' own' inner' text' isName' given' within'
          content' =>
          simp only [List.cons_append, List.append_assoc, List.cons.injEq, true_and] at same
          obtain ⟨c, more, head, notLetter⟩ := given.head
            (inner ++ '<' :: '/' :: (tag.toList ++ '>' :: (text ++ rest)))
          obtain ⟨c', more', head', notLetter'⟩ := given'.head
            (inner' ++ '<' :: '/' :: (tag'.toList ++ '>' :: (text' ++ otherRest)))
          rw [head, head'] at same
          obtain ⟨sameTag, behindTag⟩ :=
            run_unique isName.letters isName'.letters notLetter notLetter' same
          rw [← head, ← head'] at behindTag
          obtain ⟨rfl, behindStart⟩ := given.unique given' behindTag
          obtain ⟨rfl, behindWithin⟩ :=
            ihWithin within' behindStart (.inr ⟨_, rfl⟩) (.inr ⟨_, rfl⟩)
          rw [sameTag] at behindWithin
          have behindEnd := (List.cons.inj (List.append_cancel_left
            (List.cons.inj (List.cons.inj behindWithin).2).2)).2
          obtain ⟨rfl, sameRest⟩ := ih content' behindEnd ends alsoEnds
          rw [String.toList_injective sameTag]
          exact ⟨rfl, sameRest⟩

theorem Content.unique (first : Content text nodes) (second : Content text others) :
    nodes = others :=
  (first.unique_upTo second rfl (.inl rfl) (.inl rfl)).1

/-! ## Characters -/

/-- The characters of a node and of the values of its attributes. -/
inductive Node.Holds (c : Char) : Node → Prop where
  | char : Holds c (.char c)
  | inValue {tag key value : String} {attributes : List (String × String)} {children : List Node}
      (given : (key, value) ∈ attributes) (inside : c ∈ value.toList) :
      Holds c (.element tag attributes children)
  | inChild {tag : String} {attributes : List (String × String)} {children : List Node}
      {node : Node} (within : node ∈ children) (inside : Holds c node) :
      Holds c (.element tag attributes children)

theorem isChar_of_isAlpha {c : Char} (isLetter : c.isAlpha = true) : isChar c = true := by
  have letters : (decide ('A'.val ≤ c.val ∧ c.val ≤ 'Z'.val) ||
      (decide ('a'.val ≤ c.val) && decide (c.val ≤ 'z'.val))) = true := isLetter
  simp only [Bool.or_eq_true, Bool.and_eq_true, decide_eq_true_eq,
    UInt32.le_iff_toNat_le] at letters
  have bounds : (65 ≤ c.toNat ∧ c.toNat ≤ 90) ∨ (97 ≤ c.toNat ∧ c.toNat ≤ 122) := letters
  simp only [isChar, Bool.or_eq_true, Bool.and_eq_true, decide_eq_true_eq, beq_iff_eq]
  omega

theorem Attributes.forall_isChar_iff {attributes : List (String × String)}
    (given : Attributes text attributes) :
    (∀ c ∈ text, isChar c = true) ↔
      ∀ entry ∈ attributes, ∀ c ∈ entry.2.toList, isChar c = true := by
  induction given with
  | nil => simp
  | @cons key value text attributes isName plain new rest ih =>
      have letters : ∀ c ∈ key.toList, isChar c = true :=
        fun c member => isChar_of_isAlpha (isName.letters c member)
      have space : isChar ' ' = true := by decide
      have equals : isChar '=' = true := by decide
      have quote : isChar '"' = true := by decide
      simp only [List.forall_mem_cons, List.forall_mem_append, ih, space, equals, quote, true_and]
      exact and_iff_right letters

/-- The characters of a text are those of its nodes, besides markup, which XML admits. -/
theorem Content.forall_isChar_iff (content : Content text nodes) :
    (∀ c ∈ text, isChar c = true) ↔ ∀ node ∈ nodes, ∀ c, node.Holds c → isChar c = true := by
  induction content with
  | nil => simp
  | @char c text nodes plain rest ih =>
      rw [List.forall_mem_cons, List.forall_mem_cons, ih]
      refine and_congr_left fun _ => ⟨?_, fun each => each c .char⟩
      rintro admitted _ ⟨⟩
      exact admitted
  | @entity name c text nodes known rest ih =>
      have letters : ∀ c ∈ name.toList, isChar c = true :=
        fun c member => isChar_of_isAlpha (isAlpha_of_entity _ known c member)
      have admitted : ∀ entity ∈ entities, isChar entity.2 = true := by decide
      have started : isChar '&' = true := by decide
      have ended : isChar ';' = true := by decide
      simp only [List.forall_mem_cons, List.forall_mem_append, ih, started, ended, true_and]
      rw [and_iff_right letters, iff_and_self]
      rintro _ _ ⟨⟩
      exact admitted _ known
  | @element tag attributes children nodes own inner text isName given within rest ihWithin ih =>
      have letters : ∀ c ∈ tag.toList, isChar c = true :=
        fun c member => isChar_of_isAlpha (isName.letters c member)
      have opening : isChar '<' = true := by decide
      have closing : isChar '>' = true := by decide
      have slash : isChar '/' = true := by decide
      simp only [List.forall_mem_cons, List.forall_mem_append, ih, ihWithin,
        given.forall_isChar_iff, opening, closing, slash, true_and, and_iff_right letters]
      rw [← and_assoc]
      refine and_congr_left fun _ => ⟨?_, fun each => ⟨?_, ?_⟩⟩
      · rintro ⟨values, inside⟩ c holds
        cases holds with
        | inValue isGiven isInside => exact values _ isGiven c isInside
        | inChild isWithin isInside => exact inside _ isWithin c isInside
      · exact fun entry isGiven c isInside => each c (.inValue isGiven isInside)
      · exact fun node isWithin c isInside => each c (.inChild isWithin isInside)

end HeaderBindings.Xml
