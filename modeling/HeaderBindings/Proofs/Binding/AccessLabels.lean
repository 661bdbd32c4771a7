import HeaderBindings.Binding.Native.Header
import HeaderBindings.Proofs.Text.Slice

/-!
# Access labels of the native wrapper

The members of a class stand behind access labels, and a label is written only
where the access changes.  Which access a member has is therefore a matter of
the whole text in front of it: a reader keeps the access of the last label and
takes it to each line that follows.  Along the functions of a class this access
is the one that the labels were left out for.  The main theorem states what a
reader finds: every part of a class has the access that is due to it, and a
namespace has no label at all.
-/

namespace HeaderBindings

/-- Trimming keeps what a text ends with, apart from blanks. -/
theorem Text.trim_suffix_trim_append (front back : String) :
    (trim back).toList <:+ (trim (front ++ back)).toList := by
  rcases exists_trim back with ⟨before, after, isBack, -, afterBlank⟩
  have trimmed := trimmed_trim back
  by_cases empty : (trim back).toList = []
  · rw [empty]
    exact List.nil_suffix
  · let whole := front.toList ++ before
    have stays : ((trim back).toList ++ after).dropWhile isBlank = (trim back).toList ++ after := by
      rw [List.dropWhile_append, trimmed.dropWhile_eq, if_neg (by simpa using empty)]
    have started : ∃ start, (front ++ back).toList.dropWhile isBlank =
        (start ++ (trim back).toList) ++ after := by
      have regrouped : (front ++ back).toList = whole ++ ((trim back).toList ++ after) := by
        rw [String.toList_append, isBack, List.append_assoc]
      rw [regrouped, List.dropWhile_append, stays]
      split
      · exact ⟨[], by rw [List.nil_append]⟩
      · exact ⟨whole.dropWhile isBlank, by rw [List.append_assoc]⟩
    have last (start : List Char) (nonempty : start ++ (trim back).toList ≠ []) :
        isBlank ((start ++ (trim back).toList).getLast nonempty) = false := by
      rw [List.getLast_append_of_ne_nil _ empty]
      exact trimmed.finish empty
    rcases started with ⟨start, started⟩
    rw [toList_trim (front ++ back), started, rdropWhile_append_of_last after (last start),
      List.rdropWhile_eq_nil_iff.mpr afterBlank, List.append_nil]
    exact List.suffix_append start (trim back).toList

namespace Native

open Binding

variable {access : Access} {indent back line : String} {lines : List String}

/-! ## Reading labels -/

namespace Access

/-- Both kinds of access. -/
def all : List Access :=
  [.everyone, .ownClass]

/-- The access that a line gives to the lines after it, if it is a label. -/
def ofLine? (line : String) : Option Access :=
  all.find? fun access => Text.trim line == access.label

theorem ofLine?_label (access : Access) : ofLine? access.label = some access := by
  cases access <;> decide

theorem ofLine?_eq_none_iff :
    ofLine? line = none ↔ ∀ access ∈ all, Text.trim line ≠ access.label := by
  simp [ofLine?, List.find?_eq_none]

end Access

/-- The lines besides the labels, each with the access in effect. -/
def accessed (current : Access) : List String → List (Access × String)
  | [] => []
  | line :: rest =>
    match Access.ofLine? line with
    | some access => accessed access rest
    | none => (current, line) :: accessed current rest

/-- Some lines with one access. -/
def under (access : Access) (lines : List String) : List (Access × String) :=
  lines.map fun line => (access, line)

/-- Some lines without a label. -/
def Unlabelled (lines : List String) : Prop :=
  ∀ line ∈ lines, Access.ofLine? line = none

theorem accessed_label (current access : Access) (rest : List String) :
    accessed current (access.label :: rest) = accessed access rest := by
  rw [accessed, Access.ofLine?_label]

/-- Lines without a label keep the access that is in effect. -/
theorem accessed_append (unlabelled : Unlabelled lines) (current : Access) (more : List String) :
    accessed current (lines ++ more) = under current lines ++ accessed current more := by
  induction lines with
  | nil => rfl
  | cons line rest ih =>
      rcases List.forall_mem_cons.mp unlabelled with ⟨first, others⟩
      rw [List.cons_append, accessed, first, ih others]
      rfl

/-! ## Lines that are no label -/

/-- A line whose first character besides blanks is not that of a label. -/
theorem ofLine?_of_start {blanks rest : List Char} {c : Char}
    (split : line.toList = blanks ++ c :: rest)
    (blank : ∀ d ∈ blanks, Text.isBlank d = true)
    (notBlank : Text.isBlank c = false)
    (other : ∀ access ∈ Access.all, access.label.toList.head? ≠ some c) :
    Access.ofLine? line = none := by
  rw [Access.ofLine?_eq_none_iff]
  intro access member isLabel
  apply other access member
  have started : line.toList.dropWhile Text.isBlank = [c] ++ rest := by
    rw [split, List.dropWhile_append_of_pos blank, List.dropWhile_cons_of_neg (by simp [notBlank])]
    rfl
  rw [← isLabel, Text.toList_trim, started,
    Text.rdropWhile_append_of_last _ (fun _ => by simpa using notBlank)]
  rfl

/-- What a line holds besides blanks is not the end of a label. -/
def Foreign (line : String) : Prop :=
  ∀ access ∈ Access.all, Text.endsWith access.label (Text.trim line) = false

instance (line : String) : Decidable (Foreign line) :=
  inferInstanceAs (Decidable (∀ access ∈ Access.all, _ = false))

theorem Foreign.ofLine? (foreign : Foreign line) : Access.ofLine? line = none := by
  rw [Access.ofLine?_eq_none_iff]
  intro access member isLabel
  have notEnd := foreign access member
  rw [isLabel, Text.endsWith, List.isSuffixOf_iff_suffix.mpr (List.suffix_refl _)] at notEnd
  cases notEnd

/-- A line is told from a label by its end, whatever stands in front of that. -/
theorem Foreign.append (front : String) (foreign : Foreign back) : Foreign (front ++ back) := by
  intro access member
  apply Bool.eq_false_iff.mpr
  intro ends
  have notEnd := foreign access member
  rw [Text.endsWith, List.isSuffixOf_iff_suffix] at ends
  rw [Text.endsWith, List.isSuffixOf_iff_suffix.mpr
    ((Text.trim_suffix_trim_append front back).trans ends)] at notEnd
  cases notEnd

theorem ofLine?_append (front : String) (foreign : Foreign back) :
    Access.ofLine? (front ++ back) = none :=
  (foreign.append front).ofLine?

theorem unlabelled_nil : Unlabelled [] :=
  fun _ member => nomatch member

theorem unlabelled_cons {rest : List String} :
    Unlabelled (line :: rest) ↔ Access.ofLine? line = none ∧ Unlabelled rest :=
  List.forall_mem_cons

theorem unlabelled_append {more : List String} :
    Unlabelled (lines ++ more) ↔ Unlabelled lines ∧ Unlabelled more :=
  List.forall_mem_append

theorem unlabelled_map {α : Type} {items : List α} {lineOf : α → String}
    (each : ∀ item, Access.ofLine? (lineOf item) = none) : Unlabelled (items.map lineOf) :=
  List.forall_mem_map.mpr fun item _ => each item

theorem unlabelled_flatMap {α : Type} {items : List α} {linesOf : α → List String}
    (each : ∀ item ∈ items, Unlabelled (linesOf item)) : Unlabelled (items.flatMap linesOf) :=
  List.forall_mem_flatMap.mpr each

/-! ## The lines of the parts -/

section Parts

variable {indent : String}

theorem unlabelled_docLines (blank : ∀ c ∈ indent.toList, Text.isBlank c = true)
    (docs : List String) : Unlabelled (docLines indent docs) := by
  have written (line : String) :
      Access.ofLine? (indent ++ if line.isEmpty then " *" else " * " ++ line) = none := by
    split
    · exact ofLine?_append indent (by decide)
    · have chars : (indent ++ (" * " ++ line)).toList =
          (indent.toList ++ [' ']) ++ '*' :: (' ' :: line.toList) := by
        simp
      refine ofLine?_of_start chars ?_ (by decide) (by decide)
      exact List.forall_mem_append.mpr ⟨blank, List.forall_mem_singleton.mpr (by decide)⟩
  rw [docLines]
  split
  · exact unlabelled_nil
  · rw [List.cons_append, unlabelled_cons, unlabelled_append, unlabelled_cons]
    exact ⟨ofLine?_append indent (by decide), unlabelled_map written,
      ofLine?_append indent (by decide), unlabelled_nil⟩

theorem unlabelled_enumLines (e : EnumType) : Unlabelled (enumLines indent e) := by
  rw [enumLines, List.cons_append, unlabelled_cons, unlabelled_append, unlabelled_cons,
    unlabelled_cons]
  exact ⟨ofLine?_append _ (by decide), unlabelled_map fun _ => ofLine?_append _ (by decide),
    ofLine?_append _ (by decide), by decide, unlabelled_nil⟩

theorem unlabelled_lifetimeLines (name : String) : Unlabelled (lifetimeLines indent name) := by
  simp only [lifetimeLines, unlabelled_cons]
  exact ⟨ofLine?_append _ (by decide), ofLine?_append _ (by decide), by decide,
    ofLine?_append _ (by decide), ofLine?_append _ (by decide), by decide,
    ofLine?_append _ (by decide), by decide, ofLine?_append _ (by decide), by decide,
    unlabelled_nil⟩

theorem ofLine?_headLine (isStatic : Bool) (result name : String) (params : List Param) :
    Access.ofLine? (indent ++ headLine isStatic result name params) = none := by
  rw [headLine]
  split
  · exact ofLine?_append _ (Foreign.append _ (by decide))
  · exact ofLine?_append _ (Foreign.append _ (by decide))

theorem foreign_call (call : Call) : ∀ line ∈ call.lines, Foreign line := by
  rw [Call.lines, List.forall_mem_cons]
  refine ⟨Foreign.append _ (by decide), ?_⟩
  split
  · decide
  · exact fun _ member => nomatch member

/-- A method that may be left early is left by a statement. -/
theorem foreign_disabled {c : Class} {f : Function} {leave : String}
    (disabled : (Method.ofFunction c f).disabled = some leave) : Foreign leave := by
  simp only [Method.ofFunction, Option.ite_none_right_eq_some, Option.some.injEq] at disabled
  rcases disabled with ⟨-, rfl⟩
  split
  · decide
  · exact Foreign.append _ (by decide)

theorem unlabelled_method (apiName : String) (c : Class) (f : Function) :
    Unlabelled ((Method.ofFunction c f).lines apiName indent) := by
  rw [Method.lines]
  simp only [List.cons_append, unlabelled_cons, unlabelled_append, and_assoc]
  refine ⟨ofLine?_headLine _ _ _ _, ofLine?_append _ (Foreign.append _ (by decide)), ?_, ?_,
    ofLine?_append _ (by decide), unlabelled_nil⟩
  · split
    · rename_i leave disabled
      simp only [disabledLines, unlabelled_cons]
      exact ⟨ofLine?_append _ (by decide), ofLine?_append _ (by decide),
        ofLine?_append _ (foreign_disabled disabled), by decide, unlabelled_nil⟩
    · exact unlabelled_nil
  · intro line member
    rcases List.mem_map.mp member with ⟨call, inCall, rfl⟩
    exact ofLine?_append _ (foreign_call _ call inCall)

theorem unlabelled_overload (o : Overload) : Unlabelled (o.lines indent) := by
  simp only [Overload.lines, unlabelled_cons]
  refine ⟨ofLine?_headLine _ _ _ _, ?_, ofLine?_append _ (by decide), unlabelled_nil⟩
  have call (target expressions : String) : Foreign s!"{target}({expressions});" :=
    Foreign.append _ (by decide)
  split
  · exact ofLine?_append _ (Foreign.append _ (call _ _))
  · exact ofLine?_append _ (call _ _)

/-- The parts of a function hold no label. -/
theorem unlabelled_functionItems (blank : ∀ c ∈ indent.toList, Text.isBlank c = true)
    (apiName : String) (c : Class) (f : Function) :
    Unlabelled ((functionItems c f).flatMap (Item.lines apiName indent)) := by
  apply unlabelled_flatMap
  intro item member
  have docs := unlabelled_docLines blank f.docs
  have empty : Unlabelled [""] := unlabelled_cons.mpr ⟨by decide, unlabelled_nil⟩
  rcases List.mem_cons.mp member with rfl | isOverload
  · rw [Item.lines, unlabelled_append, unlabelled_append]
    exact ⟨⟨docs, unlabelled_method apiName c f⟩, empty⟩
  · rw [Option.mem_toList, Option.map_eq_some_iff] at isOverload
    rcases isOverload with ⟨o, -, rfl⟩
    rw [Item.lines, unlabelled_append, unlabelled_append]
    exact ⟨⟨docs, unlabelled_overload o⟩, empty⟩

end Parts

/-! ## Reading a class -/

/-- The access that is due to the parts of a function. -/
def functionAccess (f : Function) : Access :=
  if f.isPrivate then .ownClass else .everyone

/-- The parts of a class besides the labels, each with the access that is due to it. -/
def dueItems (c : Class) : List (Access × Item) :=
  c.enums.map (fun e => (.everyone, .enumeration e)) ++
    [(.ownClass, .instancePointer), (.everyone, .lifetime c.name)] ++
    c.functions.flatMap fun f => (functionItems c f).map fun item => (functionAccess f, item)

/-- The lines of some parts, each with the access that is due to the part. -/
def dueLines (apiName : String) (items : List (Access × Item)) : List (Access × String) :=
  items.flatMap fun due => under due.1 (due.2.lines apiName "\t")

section Reading

variable (apiName : String) (c : Class)

theorem dueLines_append (items more : List (Access × Item)) :
    dueLines apiName (items ++ more) = dueLines apiName items ++ dueLines apiName more :=
  List.flatMap_append

theorem dueLines_map (access : Access) (items : List Item) :
    dueLines apiName (items.map fun item => (access, item)) =
      under access (items.flatMap (Item.lines apiName "\t")) := by
  rw [dueLines, List.flatMap_map, under, List.map_flatMap]
  rfl

theorem tab_blank : ∀ c ∈ "\t".toList, Text.isBlank c = true :=
  List.forall_mem_singleton.mpr (by decide)

/-- Parts without a label are read with the access that is in effect. -/
theorem accessed_items {items : List Item}
    (unlabelled : Unlabelled (items.flatMap (Item.lines apiName "\t")))
    (current : Access) (more : List String) :
    accessed current (items.flatMap (Item.lines apiName "\t") ++ more) =
      dueLines apiName (items.map fun item => (current, item)) ++ accessed current more := by
  rw [accessed_append unlabelled, dueLines_map]

/-- A label that is left out where it would change nothing makes no difference. -/
theorem accessed_change (current access : Access) (more : List String) :
    accessed current ((if access = current then [] else [Item.label access]).flatMap
        (Item.lines apiName "\t") ++ more) = accessed access more := by
  split
  · rename_i same
    rw [same]
    rfl
  · exact accessed_label current access more

/-- Each enum of a class stands behind a label of its own, whatever access is in effect. -/
theorem accessed_enums (enums : List EnumType) (current access : Access) (more : List String) :
    accessed current ((enums.flatMap fun e => [Item.label .everyone, .enumeration e]).flatMap
        (Item.lines apiName "\t") ++ access.label :: more) =
      dueLines apiName (enums.map fun e => (.everyone, .enumeration e)) ++
        accessed access more := by
  induction enums generalizing current with
  | nil => exact accessed_label current access more
  | cons e rest ih =>
      have first : [Item.label .everyone, .enumeration e].flatMap (Item.lines apiName "\t") =
          Access.everyone.label :: [Item.enumeration e].flatMap (Item.lines apiName "\t") := rfl
      have unlabelled : Unlabelled ([Item.enumeration e].flatMap (Item.lines apiName "\t")) := by
        rw [List.flatMap_singleton]
        exact unlabelled_enumLines e
      rw [List.flatMap_cons, List.flatMap_append, first, List.append_assoc, List.cons_append,
        accessed_label, accessed_items apiName unlabelled, ih, ← List.append_assoc,
        ← dueLines_append]
      rfl

/-- Along the functions of a class the access in effect is the one of the last function, and a
label is written where the next one has another. -/
theorem accessed_memberItems (functions : List Function) (current : Access) (more : List String) :
    accessed current
        ((memberItems c current functions).flatMap (Item.lines apiName "\t") ++ more) =
      dueLines apiName (functions.flatMap fun f =>
          (functionItems c f).map fun item => (functionAccess f, item)) ++
        accessed ((functions.map functionAccess).getLastD current) more := by
  induction functions generalizing current with
  | nil => rfl
  | cons f rest ih =>
      have unfolded : memberItems c current (f :: rest) =
          (if functionAccess f = current then [] else [Item.label (functionAccess f)]) ++
            (functionItems c f ++ memberItems c (functionAccess f) rest) := by
        rw [memberItems, List.append_assoc]
        rfl
      rw [unfolded, List.flatMap_append, List.flatMap_append, List.append_assoc, List.append_assoc,
        accessed_change, accessed_items apiName (unlabelled_functionItems tab_blank apiName c f),
        ih, List.flatMap_cons, dueLines_append, List.append_assoc, List.map_cons,
        List.getLastD_cons]

end Reading

/-! ## Classes and namespaces -/

/-- The last line of a class. -/
def classTail (c : Class) : String :=
  "\x7d; // class " ++ c.name

theorem ofLine?_brace (starts : line.toList.head? = some '\x7d') : Access.ofLine? line = none := by
  rcases List.head?_eq_some_iff.mp starts with ⟨rest, chars⟩
  have split : line.toList = [] ++ '\x7d' :: rest := chars
  exact ofLine?_of_start split (by simp) (by decide) (by decide)

theorem unlabelled_opening (c : Class) : Unlabelled (docLines "" c.docs ++ [classHead c]) := by
  have head : Foreign (classHead c) := by
    rw [classHead]
    split
    · exact Foreign.append _ (by decide)
    · exact Foreign.append _ (by decide)
  rw [unlabelled_append, unlabelled_cons]
  exact ⟨unlabelled_docLines (by simp) c.docs, head.ofLine?, unlabelled_nil⟩

theorem unlabelled_namespaceItems (apiName : String) (c : Class) :
    Unlabelled ((namespaceItems c).flatMap (Item.lines apiName "")) := by
  rw [namespaceItems, List.flatMap_append, unlabelled_append, List.flatMap_map,
    List.flatMap_assoc]
  exact ⟨unlabelled_flatMap fun e _ => unlabelled_enumLines e,
    unlabelled_flatMap fun f _ => unlabelled_functionItems (by simp) apiName c f⟩

/--
Whoever reads the lines of a class in order, with the access that a class starts
with, finds every part under the access that is due to it: each function with
its container overload under its own, whatever the access of the functions
around it, the pointer to the instance under that of the class, and the enums,
the constructors, the destructor and the conversion under that of everyone.  A
namespace holds no label.
-/
theorem classLines_accessed (apiName : String) (c : Class) :
    (c.isSingleton = false →
      accessed .ownClass (classLines apiName c) =
        under .ownClass (docLines "" c.docs ++ [classHead c]) ++
          dueLines apiName (dueItems c) ++
          [((c.functions.map functionAccess).getLastD .everyone, classTail c)]) ∧
    (c.isSingleton = true → Unlabelled (classLines apiName c)) := by
  constructor
  · intro isClass
    have lines : classLines apiName c =
        (docLines "" c.docs ++ [classHead c]) ++
          ((c.enums.flatMap fun e => [Item.label .everyone, .enumeration e]).flatMap
              (Item.lines apiName "\t") ++
            Access.ownClass.label :: ([Item.instancePointer].flatMap (Item.lines apiName "\t") ++
              Access.everyone.label :: ([Item.lifetime c.name].flatMap (Item.lines apiName "\t") ++
                ((memberItems c .everyone c.functions).flatMap (Item.lines apiName "\t") ++
                  [classTail c])))) := by
      rw [classLines, if_neg (by simp [isClass]), classItems, List.flatMap_append,
        List.flatMap_append]
      simp [Item.lines, classTail, toString]
    have pointer : Unlabelled ([Item.instancePointer].flatMap (Item.lines apiName "\t")) := by
      rw [List.flatMap_singleton, Item.lines, unlabelled_cons, unlabelled_cons]
      exact ⟨ofLine?_append _ (by decide), by decide, unlabelled_nil⟩
    have lifetime : Unlabelled ([Item.lifetime c.name].flatMap (Item.lines apiName "\t")) := by
      rw [List.flatMap_singleton]
      exact unlabelled_lifetimeLines c.name
    have closing (access : Access) : accessed access [classTail c] = [(access, classTail c)] := by
      rw [accessed, ofLine?_brace (by simp [classTail]), accessed]
    rw [lines, accessed_append (unlabelled_opening c), accessed_enums,
      accessed_items apiName pointer, accessed_label, accessed_items apiName lifetime,
      accessed_memberItems, closing, dueItems, dueLines_append, dueLines_append]
    simp only [List.append_assoc]
    rfl
  · intro isNamespace
    have lines : classLines apiName c =
        docLines "" c.docs ++ (s!"namespace {c.name} \x7b" ::
          ((namespaceItems c).flatMap (Item.lines apiName "") ++
            [s!"\x7d // namespace {c.name}"])) := by
      rw [classLines, if_pos isNamespace]
      rfl
    rw [lines, unlabelled_append, unlabelled_cons, unlabelled_append, unlabelled_cons]
    exact ⟨unlabelled_docLines (by simp) c.docs, ofLine?_append _ (by decide),
      unlabelled_namespaceItems apiName c, ofLine?_brace (by simp [toString]), unlabelled_nil⟩

/-- A class whose first function is private and has an overload, and whose documentation looks like
labels. -/
def gateClass : Class where
  name := "Gate"
  kind := .regular
  docs := ["public:"]
  enums := [{ name := "Mode", underlying := "int", constants := [⟨"OPEN", "0"⟩] }]
  functions := [
    { name := "say_c"
      symbol := "Gate_say_c"
      docs := ["public:"]
      args := [.receiver,
        { name := "word_string", type := "const char *", abiType := "const char *" }]
      result := .void
      isPrivate := true
      arrayGroups := [.text "word" "word_string"] },
    { name := "shut"
      symbol := "Gate_shut"
      docs := ["private:"]
      args := [.receiver]
      result := .void }]

/-- The same with one global instance. -/
def gateSingleton : Class :=
  { gateClass with kind := .singleton }

/-- The first lines of the methods as a reader finds them: the overload stands under the label of
its method, and the lifecycle functions are behind a label again. -/
theorem gateClass_accessed :
    gateClass.withLifecycle.isSingleton = false ∧ gateSingleton.isSingleton = true ∧
      (accessed .ownClass (classLines "lib" gateClass.withLifecycle)).filter
          (fun entry => Text.endsWith entry.2 " \x7b") = [
        (.ownClass, "class Gate \x7b"),
        (.everyone, "\tenum Mode : int \x7b"),
        (.ownClass, "\tstatic void say_c(void *inst_ptr, const char *word_string) \x7b"),
        (.ownClass, "\tvoid say(const godot::String &word) \x7b"),
        (.everyone, "\tvoid shut() \x7b"),
        (.ownClass, "\tstatic void *create() \x7b"),
        (.ownClass, "\tstatic void *create_nullptr() \x7b"),
        (.ownClass, "\tstatic void destroy(void *inst_ptr) \x7b")] ∧
      Unlabelled (classLines "lib" gateSingleton) := by
  refine ⟨rfl, rfl, ?_, (classLines_accessed "lib" gateSingleton).2 rfl⟩
  rw [(classLines_accessed "lib" gateClass.withLifecycle).1 rfl]
  decide +kernel

end Native

end HeaderBindings
