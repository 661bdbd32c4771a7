import HeaderBindings.Proofs.Header.ClassBody
import HeaderBindings.Proofs.Interface.Declared
import Mathlib.Data.List.DropRight

/-!
# Documentation and the comment that it is taken from

Documentation ends right above a declaration, with a lone closing delimiter.  It
starts below the nearest line that is a lone opening delimiter, whatever stands
between.  So it is the text of one comment exactly if the comment that ends
there is opened by such a line; if that comment is an ordinary one, everything
from the last documentation comment above it is taken: the text of that comment,
the declarations that follow it and the ordinary comment itself.
-/

namespace HeaderBindings.Header

/-! ## Enclosed lines -/

/-- Whether a comment ends in a line. -/
def closesComment (line : String) : Bool :=
  Text.contains line "*/"

/-- The lines below the nearest line in which another comment ends: the only ones that can belong
to the comment that the last line closes. -/
def commentLines (upTo : List String) : List String :=
  upTo.dropLast.rtakeWhile fun line => !closesComment line

/-- The lines between a closing delimiter, the last line, and the nearest opening delimiter. -/
structure Encloses (upTo body : List String) : Prop where
  split : ∃ before, upTo = before ++ "/**" :: (body ++ ["*/"])
  nearest : "/**" ∉ body

variable {upTo body : List String}

/-- Enclosed lines belong to one comment exactly if that comment has an opening delimiter among its
lines. -/
theorem Encloses.own_iff (encloses : Encloses upTo body) :
    (∀ line ∈ body, closesComment line = false) ↔ "/**" ∈ commentLines upTo := by
  rcases encloses with ⟨⟨before, rfl⟩, nearest⟩
  have lines : (before ++ "/**" :: (body ++ ["*/"])).dropLast = before ++ "/**" :: body := by
    rw [← List.cons_append, ← List.append_assoc, List.dropLast_concat]
  rw [commentLines, lines, List.rtakeWhile, List.reverse_append, List.reverse_cons,
    List.append_assoc, List.mem_reverse, List.takeWhile_append]
  split
  · rename_i whole
    have open' : ∀ line ∈ body, closesComment line = false := by
      have all := List.takeWhile_eq_self_iff.mp ((List.takeWhile_prefix _).eq_of_length whole)
      simpa using all
    have opening : closesComment "/**" = false := by decide
    simp only [List.singleton_append, List.takeWhile_cons, opening, Bool.not_false, if_true,
      List.mem_append, List.mem_cons, true_or, or_true, iff_true]
    exact open'
  · rename_i part
    constructor
    · intro own
      refine absurd ?_ part
      rw [List.takeWhile_eq_self_iff.mpr]
      simpa using own
    · intro opens
      have inBody := (List.takeWhile_prefix _).subset opens
      exact absurd (List.mem_reverse.mp inBody) nearest

/-- The documentation that ends right above a line consists of the enclosed lines. -/
theorem docsAbove_block_iff {number : Nat} {above docs : List String} :
    (docsAbove number above).1 = .block docs ↔
      ∃ body, Encloses above.reverse body ∧ docs = body.map docLine := by
  have body_eq {near : List String} (apart : "/**" ∉ near) (far : List String) :
      (near ++ "/**" :: far).takeWhile (fun line => line != "/**") = near := by
    rw [List.takeWhile_append_of_pos]
    · simp
    · intro line member
      simpa using fun same : line = "/**" => apart (same ▸ member)
  constructor
  · intro documented
    unfold docsAbove at documented
    split at documented
    · cases documented
    · rename_i nearest earlier
      split at documented
      · cases documented
      · split at documented
        · rename_i closes
          obtain rfl : nearest = "*/" := by simpa using closes
          split at documented
          · rename_i opens
            rcases List.eq_append_cons_of_mem (List.contains_iff_mem.mp opens) with
              ⟨near, far, rfl, apart⟩
            cases documented
            refine ⟨near.reverse, ⟨⟨far.reverse, by simp⟩, ?_⟩, by rw [body_eq apart]⟩
            simpa using apart
          · cases documented
        · cases documented
  · rintro ⟨body, ⟨⟨before, split⟩, nearest⟩, rfl⟩
    obtain rfl : above = "*/" :: (body.reverse ++ "/**" :: before.reverse) := by
      rw [← List.reverse_reverse above, split]
      simp
    have apart : "/**" ∉ body.reverse := by simpa using nearest
    have noReference : Text.dropHead? "*/" "// #docs_func " = none := by decide
    simp [docsAbove, noReference, body_eq apart]

/-! ## The documentation of a class -/

/-- A function has no documentation of its own until that above its line is added. -/
theorem parseFunction_docs {owner : Class} {replacements : List (String × String)}
    {declaration : String} {f : Function}
    (read : parseFunction owner replacements declaration = .ok f) :
    f.docs = [] ∧ f.docsFrom = none := by
  obtain ⟨_, _, _, _, _, _, _, _, _, rfl⟩ := parseFunction_ok read
  exact ⟨rfl, rfl⟩

/-- Whatever documentation a class holds stands right above the line that it belongs to. -/
structure ClassBody.Documents (body : ClassBody) (c : Class) : Prop where
  ofClass : c.docs = [] ∨ body.opening.docs.1 = .block c.docs
  ofFunctions : ∀ f ∈ c.functions, f.docs = [] ∨
    ∃ context ∈ body.members, (readMarker context.line).1 = some .function ∧
      context.docs.1 = .block f.docs
  ofPlain : ∀ entry ∈ c.declaredDocs, ∃ context ∈ body.members,
    context.plainName? = some entry.1 ∧ context.docs.1 = .block entry.2

/-- The lines of a body are lines of a text. -/
def ClassBody.StandsIn (body : ClassBody) (source : String) : Prop :=
  ∀ context ∈ body.opening :: body.members,
    Text.trimmedLines source = context.above.reverse ++ context.line :: context.below

theorem ClassBody.Declares.standsIn {body : ClassBody} {options : Options} {header source : String}
    {c : Class} (declares : body.Declares (liveLines options header source) c) :
    body.StandsIn source :=
  fun _ member => split_of_mem_liveLines (declares.subset member)

namespace LineContext

theorem plainDocs?_eq_some {context : LineContext} {entry : String × List String}
    (gives : context.plainDocs? = some entry) :
    context.plainName? = some entry.1 ∧ context.docs.1 = .block entry.2 := by
  rw [plainDocs?] at gives
  split at gives
  · rename_i lines block
    rcases Option.map_eq_some_iff.mp gives with ⟨name, named, rfl⟩
    exact ⟨named, block⟩
  · cases gives

/-- A class that is opened has the documentation above its line, and nothing else yet. -/
theorem opened?_eq_some {context : LineContext} {first : Class}
    (opens : context.opened? = some first) :
    first.functions = [] ∧ first.declaredDocs = [] ∧
      (first.docs = [] ∨ context.docs.1 = .block first.docs) := by
  rw [opened?] at opens
  split at opens
  · rcases Option.map_eq_some_iff.mp opens with ⟨name, _, rfl⟩
    rw [openClass]
    split
    · rename_i lines block
      exact ⟨rfl, rfl, Or.inr block⟩
    · exact ⟨rfl, rfl, Or.inl rfl⟩
  · cases opens

end LineContext

theorem ClassBody.Declares.documents {body : ClassBody} {lives : List LineContext} {c : Class}
    (declares : body.Declares lives c) : body.Documents c := by
  rcases declares.grows with ⟨first, opens, grows⟩
  rcases LineContext.opened?_eq_some opens with ⟨noFunctions, noDocs, docs⟩
  constructor
  case ofClass =>
    rw [grows.docs_eq]
    exact docs
  case ofFunctions =>
    intro f member
    rcases grows.mem_functions member with old | ⟨context, inBody, marked, _, _, g, parsed, rfl⟩
    · rw [noFunctions] at old
      cases old
    · have bare := (parseFunction_docs parsed).1
      cases above : context.docs.1 with
      | absent => exact Or.inl bare
      | reference target => exact Or.inl bare
      | block lines => exact Or.inr ⟨context, inBody, marked, above⟩
  case ofPlain =>
    intro entry member
    rcases grows.mem_declaredDocs member with old | given
    · rw [noDocs] at old
      cases old
    · rcases List.mem_filterMap.mp given with ⟨context, inBody, gives⟩
      exact ⟨context, inBody, LineContext.plainDocs?_eq_some gives⟩

/--
Documentation at any line of a header is what a closing delimiter right above
the line and the nearest opening delimiter enclose; it is the text of one
comment exactly if the comment that ends there has an opening delimiter of its
own.  A class that is scanned holds no other documentation than that of the
lines of its body.
-/
theorem scan_documentation (options : Options) (header source : String) :
    (∀ (number : Nat) (above below : List String) (line : String),
      Text.trimmedLines source = above ++ line :: below →
      (∀ docs, (docsAbove number above.reverse).1 = .block docs ↔
        ∃ body, Encloses above body ∧ docs = body.map docLine) ∧
      ∀ body, Encloses above body →
        ((∀ line ∈ body, closesComment line = false) ↔ "/**" ∈ commentLines above)) ∧
      ∀ c, Finding.complete c ∈ (scan options header source).findings →
        ∃ body : ClassBody, body.Declares (liveLines options header source) c ∧
          body.Documents c ∧ body.StandsIn source := by
  constructor
  · intro number above below line _
    refine ⟨fun docs => ?_, fun body encloses => encloses.own_iff⟩
    rw [docsAbove_block_iff, List.reverse_reverse]
  · intro c completed
    rcases exists_body_of_scan completed with ⟨body, declares⟩
    exact ⟨body, declares, declares.documents, declares.standsIn⟩

/-- A class with a documented function and one below an ordinary comment. -/
def notedHeader : String :=
  "NAPI_CLASS_SINGLETON class A \x7b\n/**\n * Docs of f.\n */\nNAPI void f();\n/* Note.\n*/\n" ++
    "NAPI void g();\n\x7d;"

/-- The lines of `notedHeader` above the function `g`. -/
def notedAbove : List String :=
  ["NAPI_CLASS_SINGLETON class A \x7b", "/**", "* Docs of f.", "*/", "NAPI void f();", "/* Note.",
    "*/"]

/-- The documentation that `g` gets in `notedHeader`. -/
def notedDocs : List String :=
  ["Docs of f.", "/", "NAPI void f();", "/* Note."]

theorem trimmedLines_notedHeader :
    Text.trimmedLines notedHeader = notedAbove ++ "NAPI void g();" :: ["\x7d;"] := by
  decide +kernel

theorem docsAbove_notedAbove : (docsAbove 8 notedAbove.reverse).1 = .block notedDocs := by
  decide +kernel

/-- The class of `notedHeader`. -/
def notedClass : Class where
  name := "A"
  kind := .singleton
  functions := [
    { name := "f", symbol := "A_f", docs := ["Docs of f."], args := [], result := .void },
    { name := "g", symbol := "A_g", docs := notedDocs, args := [], result := .void }]

theorem complete_notedClass :
    Finding.complete notedClass ∈ (scan {} "a.h" notedHeader).findings := by
  decide +kernel

theorem notedHeader_documentation :
    Text.trimmedLines notedHeader = notedAbove ++ "NAPI void g();" :: ["\x7d;"] ∧
      (docsAbove 8 notedAbove.reverse).1 = .block notedDocs ∧
      (∃ body, Encloses notedAbove body ∧ notedDocs = body.map docLine ∧
        ((∀ line ∈ body, closesComment line = false) ↔ "/**" ∈ commentLines notedAbove)) ∧
      Finding.complete notedClass ∈ (scan {} "a.h" notedHeader).findings ∧
      ∃ body : ClassBody, body.Declares (liveLines {} "a.h" notedHeader) notedClass ∧
        body.Documents notedClass ∧ body.StandsIn notedHeader := by
  rcases scan_documentation {} "a.h" notedHeader with ⟨lines, classes⟩
  rcases lines 8 notedAbove _ _ trimmedLines_notedHeader with ⟨blocks, own⟩
  rcases (blocks notedDocs).mp docsAbove_notedAbove with ⟨body, encloses, isDocs⟩
  exact ⟨trimmedLines_notedHeader, docsAbove_notedAbove, ⟨body, encloses, isDocs, own body encloses⟩,
    complete_notedClass, classes notedClass complete_notedClass⟩

/-- Documentation can be the text of several comments and of the code between them. -/
theorem docs_not_always_own :
    ¬ ∀ (source : String) (number : Nat) (above below : List String) (line : String)
      (docs : List String),
      Text.trimmedLines source = above ++ line :: below →
      (docsAbove number above.reverse).1 = .block docs →
        ∃ body, Encloses above body ∧ docs = body.map docLine ∧
          ∀ line ∈ body, closesComment line = false := by
  intro always
  rcases always notedHeader 8 notedAbove _ _ notedDocs trimmedLines_notedHeader
    docsAbove_notedAbove with ⟨body, encloses, _, own⟩
  have opened := encloses.own_iff.mp own
  exact absurd opened (by decide +kernel)

end HeaderBindings.Header
