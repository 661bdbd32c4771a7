import HeaderBindings.Extraction
import HeaderBindings.Proofs.Outcome
import HeaderBindings.Proofs.Preprocessor.Liveness

/-!
# Inactive lines

A line of code in an inactive block is not read itself, but a live line may
take it up: a declaration is joined with the lines below it, and documentation
is gathered from the lines above, whether they are live or not.  Where no live
line takes an inactive line up, its text has no influence on the scan.  Where
one does, the text can decide what is declared and whether the scan succeeds.
-/

namespace HeaderBindings.Header

open Preprocessor (Conditions Directive)

/-! ## What a live line takes up -/

/-- Whether a live line opens a class. -/
def opensClass (line : String) : Bool :=
  match readMarker line with
  | (some (.classOpen _), rest) => (declaredClass? rest).isSome
  | _ => false

/-- When the declaration of a live line is complete, if the line declares something in the class
that is open. -/
def completion? (isOpen : Bool) (line : String) : Option (String → Bool) :=
  if isOpen then
    match (readMarker line).1 with
    | some .enumeration => some (Text.contains · "\x7d")
    | some .function => some argumentsClosed
    | _ => none
  else
    none

/-- Whether a live line takes the documentation above it. -/
def takesDocs (isOpen : Bool) (line : String) : Bool :=
  match (readMarker line).1 with
  | none => isOpen && (plainDeclaration? line).isSome
  | some (.classOpen _) => opensClass line
  | some .enumeration => false
  | some .function => isOpen

/-- Whether a class is open after some lines. -/
def classOpen (conditions : Conditions) : List String → Bool
  | [] => false
  | line :: rest =>
    (conditions.admits (Directive.ofLine line) && opensClass line) ||
      classOpen (conditions.step (Directive.ofLine line)) rest

/--
No live line takes up a line that stands between the lines `above` and `below`
and changes nothing itself: every declaration above is complete above, and
every documentation comment that counts below starts below.
-/
structure Untouched (start : Conditions) (above below : List String) : Prop where
  declarations :
    ∀ (i : Nat) (inside : i < above.length),
      (start.after (above.take i)).admits (Directive.ofLine above[i]) = true →
      ∀ done ∈ completion? (classOpen start (above.take i)) above[i],
        (joinUntil? done "" (above.drop i)).isSome = true
  docs :
    ∀ (i : Nat) (inside : i < below.length),
      (start.after (above ++ below.take i)).admits (Directive.ofLine below[i]) = true →
      takesDocs (classOpen start (above ++ below.take i)) below[i] = true →
      (below.take i).getLast? = some "*/" → "/**" ∈ (below.take i).dropLast

instance (start : Conditions) (above below : List String) :
    Decidable (Untouched start above below) :=
  decidable_of_iff (_ ∧ _)
    ⟨fun both => ⟨both.1, both.2⟩, fun untouched => ⟨untouched.declarations, untouched.docs⟩⟩

theorem Untouched.complete
    {start : Conditions} {above below earlier later : List String} {marked : String}
    {done : String → Bool}
    (untouched : Untouched start above below)
    (split : above = earlier ++ marked :: later)
    (live : (start.after earlier).admits (Directive.ofLine marked) = true)
    (declares : completion? (classOpen start earlier) marked = some done) :
    ∃ text, joinUntil? done "" (marked :: later) = some text := by
  have inside : earlier.length < above.length := by simp [split]
  have complete := untouched.declarations earlier.length inside
  simp only [split, List.take_left, List.drop_left, List.getElem_append_right (Nat.le_refl _),
    Nat.sub_self, List.getElem_cons_zero] at complete
  exact Option.isSome_iff_exists.mp (complete live done declares)

theorem Untouched.starts
    {start : Conditions} {above below between later : List String} {documented : String}
    (untouched : Untouched start above below)
    (split : below = between ++ documented :: later)
    (live : (start.after (above ++ between)).admits (Directive.ofLine documented) = true)
    (takes : takesDocs (classOpen start (above ++ between)) documented = true)
    (closed : between.getLast? = some "*/") :
    "/**" ∈ between.dropLast := by
  have inside : between.length < below.length := by simp [split]
  have starts := untouched.docs between.length inside
  simp only [split, List.take_left, List.getElem_append_right (Nat.le_refl _), Nat.sub_self,
    List.getElem_cons_zero] at starts
  exact starts live takes closed

/-! ## One live line -/

/-- The lines after a complete declaration do not belong to it. -/
theorem joinUntil?_append
    {done : String → Bool} {joined text : String} {lines : List String}
    (complete : joinUntil? done joined lines = some text) (more : List String) :
    joinUntil? done joined (lines ++ more) = some text := by
  induction lines generalizing joined with
  | nil => cases complete
  | cons line rest ih =>
      rw [List.cons_append]
      rw [joinUntil?] at complete ⊢
      generalize (if joined.isEmpty then "" else joined ++ " ") ++ stripLineComment line = next
        at complete ⊢
      split at complete
      · rename_i accepted
        rw [if_pos accepted]
        exact complete
      · rename_i refused
        rw [if_neg refused]
        exact ih complete

/-- Documentation that starts in the nearest lines does not depend on the lines further above. -/
theorem docsAbove_congr
    (number : Nat) {nearest : String} {near far other : List String}
    (starts : nearest = "*/" → "/**" ∈ near) :
    docsAbove number (nearest :: (near ++ far)) = docsAbove number (nearest :: (near ++ other)) := by
  have body (rest : List String) (found : "/**" ∈ near) :
      (near ++ rest).takeWhile (fun line => line != "/**") =
        near.takeWhile fun line => line != "/**" := by
    rw [List.takeWhile_append]
    split
    · rename_i whole
      have none : ∀ line ∈ near, (line != "/**") = true := by
        rw [← List.takeWhile_eq_self_iff]
        exact (List.takeWhile_prefix _).eq_of_length whole
      exact absurd (none _ found) (by simp)
    · rfl
  rw [docsAbove, docsAbove]
  dsimp only
  split
  · rfl
  · split
    · rename_i closes
      have found := starts (by simpa using closes)
      simp [found, body far found, body other found]
    · rfl

namespace LineContext

/-- Two surroundings of a line that agree on everything the line takes up. -/
structure Agree (isOpen : Bool) (left right : LineContext) : Prop where
  options : left.options = right.options
  header : left.header = right.header
  number : left.number = right.number
  line : left.line = right.line
  docs : takesDocs isOpen left.line = true → left.docs = right.docs
  declaration : ∀ done, completion? isOpen left.line = some done →
    left.declaration? done = right.declaration? done

theorem Agree.place {isOpen : Bool} {left right : LineContext} (agree : Agree isOpen left right) :
    left.place = right.place := by
  rw [LineContext.place, LineContext.place, agree.header, agree.number]

theorem addEnum_congr {left right : LineContext} {owner : Class}
    (place : left.place = right.place)
    (declaration :
      left.declaration? (Text.contains · "\x7d") = right.declaration? (Text.contains · "\x7d")) :
    left.addEnum owner = right.addEnum owner := by
  rw [addEnum, addEnum, declaration, place]

theorem addFunction_congr {left right : LineContext} {owner : Class}
    (options : left.options = right.options)
    (place : left.place = right.place)
    (docs : left.docs = right.docs)
    (declaration : left.declaration? argumentsClosed = right.declaration? argumentsClosed) :
    left.addFunction owner = right.addFunction owner := by
  rw [addFunction, addFunction, declaration, place, options, docs]

/-- A live line is read alike in surroundings that agree on what it takes up. -/
theorem read_congr {left right : LineContext} {current : Option Class}
    (agree : Agree current.isSome left right) :
    left.read current = right.read current := by
  have place := agree.place
  have docs := agree.docs
  have declaration := agree.declaration
  unfold LineContext.read
  rw [← agree.line, ← place]
  cases marked : readMarker left.line with
  | mk marker rest =>
      simp only [takesDocs, opensClass, marked] at docs
      simp only [completion?, marked] at declaration
      cases marker with
      | none =>
          cases current with
          | none => rfl
          | some owner =>
              cases declared : plainDeclaration? left.line with
              | none => rfl
              | some name =>
                  have same := docs (by simp [declared])
                  simp only [notePlain, same]
      | some marker =>
          cases marker with
          | classOpen kind =>
              cases declared : declaredClass? rest with
              | none => simp only [declared]
              | some name =>
                  have same := docs (by simp [declared])
                  simp only [declared, openClass, same]
          | enumeration =>
              cases current with
              | none => rfl
              | some owner =>
                  have same : left.addEnum owner = right.addEnum owner :=
                    addEnum_congr place (declaration _ rfl)
                  simp only [same]
          | function =>
              cases current with
              | none => rfl
              | some owner =>
                  have sameDocs := docs rfl
                  have same : left.addFunction owner = right.addFunction owner :=
                    addFunction_congr agree.options place sameDocs (declaration _ rfl)
                  simp only [same, sameDocs]

/-- After a live line a class is open if one was open before or if the line opens one. -/
theorem isSome_of_read {context : LineContext} {current next : Option Class}
    {findings : List Finding} (read : context.read current = .ok (findings, next)) :
    next.isSome = (current.isSome || opensClass context.line) := by
  unfold LineContext.read at read
  cases marked : readMarker context.line with
  | mk marker rest =>
      rw [opensClass, marked]
      rw [marked] at read
      cases marker with
      | none =>
          cases current with
          | none =>
              cases read
              rfl
          | some owner =>
              dsimp only at read
              split at read <;> cases read <;> rfl
      | some marker =>
          cases marker with
          | classOpen kind =>
              dsimp only at read
              split at read
              · rename_i missing
                cases read
                simp [missing]
              · rename_i name declared
                cases read
                simp [declared]
          | enumeration =>
              cases current with
              | none =>
                  cases read
                  rfl
              | some owner =>
                  rcases Outcome.map_eq_ok_iff.mp read with ⟨extended, _, equal⟩
                  cases equal
                  rfl
          | function =>
              cases current with
              | none =>
                  cases read
                  rfl
              | some owner =>
                  rcases Outcome.map_eq_ok_iff.mp read with ⟨extended, _, equal⟩
                  cases equal
                  rfl

end LineContext

/-! ## A whole header -/

theorem classOpen_concat (conditions : Conditions) (lines : List String) (line : String) :
    classOpen conditions (lines ++ [line]) =
      (classOpen conditions lines ||
        ((conditions.after lines).admits (Directive.ofLine line) && opensClass line)) := by
  induction lines generalizing conditions with
  | nil => simp [classOpen]
  | cons first rest ih =>
      rw [List.cons_append, classOpen, classOpen, ih, Conditions.after_cons, Bool.or_assoc]

section TwoTexts

variable {options : Options} {header : String} {start conditions : Conditions}
variable {above below : List String}

/-- Two scans agree on a line if they agree on what it takes up and on the lines after it. -/
theorem scanLines_cons_congr
    {line : String} {leftAbove rightAbove leftBelow rightBelow : List String}
    {current : Option Class}
    (agree : conditions.admits (Directive.ofLine line) = true →
      LineContext.Agree current.isSome
        ⟨options, header, leftAbove.length + 1, leftAbove, line, leftBelow⟩
        ⟨options, header, rightAbove.length + 1, rightAbove, line, rightBelow⟩)
    (onwards : ∀ next : Option Class,
      next.isSome =
          (current.isSome || (conditions.admits (Directive.ofLine line) && opensClass line)) →
      scanLines options header (line :: leftAbove)
          (conditions.step (Directive.ofLine line)) next leftBelow =
        scanLines options header (line :: rightAbove)
          (conditions.step (Directive.ofLine line)) next rightBelow) :
    scanLines options header leftAbove conditions current (line :: leftBelow) =
      scanLines options header rightAbove conditions current (line :: rightBelow) := by
  rw [scanLines, scanLines]
  dsimp only
  by_cases live : conditions.admits (Directive.ofLine line) = true
  · rw [if_pos live, if_pos live, LineContext.read_congr (agree live)]
    split
    · rfl
    · rename_i findings next read
      rw [onwards next (by rw [LineContext.isSome_of_read read, live, Bool.true_and])]
  · rw [if_neg live, if_neg live, onwards current (by simp [live])]

/-- Documentation that starts below a line does not depend on that line. -/
theorem docs_below {between : List String} {closing : String} (number : Nat)
    (top : List String) (old new : String)
    (last : between.getLast? = some closing)
    (starts : closing = "*/" → "/**" ∈ between.dropLast) :
    docsAbove number (between.reverse ++ old :: top) =
      docsAbove number (between.reverse ++ new :: top) := by
  rcases List.getLast?_eq_some_iff.mp last with ⟨front, rfl⟩
  rw [List.reverse_concat, List.cons_append, List.cons_append]
  apply docsAbove_congr
  intro closes
  simpa using starts closes

/-- Below a line that no live line takes up, its text makes no difference. -/
theorem scanLines_below
    (untouched : Untouched start above below)
    (inactive : (start.after above).isLive = false)
    (old new : String) (top : List String)
    {rest between : List String} {current : Option Class}
    (split : below = between ++ rest)
    (isOpen : current.isSome = classOpen start (above ++ between)) :
    scanLines options header (between.reverse ++ old :: top)
        (start.after (above ++ between)) current rest =
      scanLines options header (between.reverse ++ new :: top)
        (start.after (above ++ between)) current rest := by
  induction rest generalizing between current with
  | nil => rfl
  | cons line later ih =>
      apply scanLines_cons_congr
      · intro live
        refine ⟨rfl, rfl, by simp, rfl, ?_, fun _ _ => rfl⟩
        intro takes
        rw [isOpen] at takes
        have sameDocs (number : Nat) :
            docsAbove number (between.reverse ++ old :: top) =
              docsAbove number (between.reverse ++ new :: top) := by
          cases last : between.getLast? with
          | none =>
              -- right below the line its block goes on, so that nothing is live there
              rw [List.getLast?_eq_none_iff.mp last, List.append_nil,
                Conditions.admits_eq_false inactive] at live
              cases live
          | some closing =>
              apply docs_below number top old new last
              intro closes
              exact untouched.starts split live takes (closes ▸ last)
        rw [LineContext.docs, LineContext.docs, sameDocs]
        simp
      · intro next nextOpen
        have splitLater : below = (between ++ [line]) ++ later := by simp [split]
        have openLater : next.isSome = classOpen start (above ++ (between ++ [line])) := by
          rw [← List.append_assoc, classOpen_concat, nextOpen, isOpen]
        have continued := ih splitLater openLater
        rw [← List.append_assoc, Conditions.after_concat, List.reverse_concat] at continued
        exact continued

/-- Above a line that no live line takes up, its text makes no difference. -/
theorem scanLines_above
    (untouched : Untouched start above below)
    (inactive : (start.after above).isLive = false)
    {old new : String}
    (oldCode : Directive.ofLine old = .code)
    (newCode : Directive.ofLine new = .code)
    {rest earlier : List String} {current : Option Class}
    (split : above = earlier ++ rest)
    (isOpen : current.isSome = classOpen start earlier) :
    scanLines options header earlier.reverse (start.after earlier) current (rest ++ old :: below) =
      scanLines options header earlier.reverse (start.after earlier) current
        (rest ++ new :: below) := by
  induction rest generalizing earlier current with
  | nil =>
      rw [List.append_nil] at split
      rw [List.nil_append, List.nil_append, scanLines, scanLines, oldCode, newCode, ← split]
      have dead := Conditions.admits_eq_false inactive .code
      have openHere : current.isSome = classOpen start (above ++ []) := by
        rw [List.append_nil, isOpen, split]
      have later :
          scanLines options header (old :: above.reverse) (start.after (above ++ [])) current below =
            scanLines options header (new :: above.reverse) (start.after (above ++ [])) current
              below :=
        scanLines_below untouched inactive old new above.reverse (List.nil_append below).symm
          openHere
      rw [List.append_nil] at later
      simp only [dead, Bool.false_eq_true, if_false]
      exact congrArg (Scan.after _) later
  | cons line rest ih =>
      rw [List.cons_append, List.cons_append]
      apply scanLines_cons_congr
      · intro live
        refine ⟨rfl, rfl, rfl, rfl, fun _ => rfl, ?_⟩
        intro done declares
        rw [isOpen] at declares
        rcases untouched.complete split live declares with ⟨text, joined⟩
        have both (more : List String) : joinUntil? done "" (line :: (rest ++ more)) = some text :=
          joinUntil?_append joined more
        rw [LineContext.declaration?, LineContext.declaration?]
        dsimp only
        rw [both, both]
      · intro next nextOpen
        have splitLater : above = (earlier ++ [line]) ++ rest := by simp [split]
        have openLater : next.isSome = classOpen start (earlier ++ [line]) := by
          rw [classOpen_concat, nextOpen, isOpen]
        have continued := ih splitLater openLater
        rw [Conditions.after_concat, List.reverse_concat] at continued
        exact continued

end TwoTexts

/-- The lines of a text have no blanks at their ends. -/
theorem trim_trimmedLine {source line : String} (member : line ∈ Text.trimmedLines source) :
    Text.trim line = line := by
  rcases List.mem_map.mp member with ⟨raw, _, rfl⟩
  exact (Text.trimmed_trim raw).trim_eq

theorem scan_untouched
    {options : Options} {header source other : String} {above below : List String}
    {old new : String}
    (lines : Text.trimmedLines source = above ++ old :: below)
    (otherLines : Text.trimmedLines other = above ++ new :: below)
    (oldCode : Text.startsWith old "#" = false)
    (newCode : Text.startsWith new "#" = false)
    (inactive : ((Conditions.ofDefinitions options.definitions).after above).isLive = false)
    (untouched : Untouched (Conditions.ofDefinitions options.definitions) above below) :
    scan options header source = scan options header other := by
  have oldLine : old ∈ Text.trimmedLines source := by simp [lines]
  have newLine : new ∈ Text.trimmedLines other := by simp [otherLines]
  have oldDirective : Directive.ofLine old = .code :=
    Directive.ofLine_code (by rw [trim_trimmedLine oldLine]; exact oldCode)
  have newDirective : Directive.ofLine new = .code :=
    Directive.ofLine_code (by rw [trim_trimmedLine newLine]; exact newCode)
  rw [scan, scan, lines, otherLines]
  exact scanLines_above untouched inactive oldDirective newDirective (List.nil_append above).symm rfl

end HeaderBindings.Header

namespace HeaderBindings

open Preprocessor (Conditions)

/-- What is gathered depends on the scans of the headers only. -/
theorem gather_congr
    {options : Header.Options} {api : Api} {sources others : List HeaderSource}
    (scans : List.Forall₂
      (fun source other => Header.scan options source.name source.text =
        Header.scan options other.name other.text)
      sources others) :
    gather options api sources = gather options api others := by
  induction scans generalizing api with
  | nil => rfl
  | @cons source other rest more same _ ih =>
      have first : gatherHeader options api source = gatherHeader options api other := by
        rw [gatherHeader, gatherHeader, same]
      rw [gather, gather, first]
      dsimp only
      rw [ih]

/--
The text of an inactive line of code has no influence on an extraction, unless
a live line takes it up.
-/
theorem extract_untouched
    (options : Header.Options) (first rest : List HeaderSource)
    (header source other : String) (above below : List String) (old new : String)
    (lines : Text.trimmedLines source = above ++ old :: below)
    (otherLines : Text.trimmedLines other = above ++ new :: below)
    (oldCode : Text.startsWith old "#" = false)
    (newCode : Text.startsWith new "#" = false)
    (inactive : ((Conditions.ofDefinitions options.definitions).after above).isLive = false)
    (untouched : Header.Untouched (Conditions.ofDefinitions options.definitions) above below) :
    Header.scan options header source = Header.scan options header other ∧
      extract options (first ++ ⟨header, source⟩ :: rest) =
        extract options (first ++ ⟨header, other⟩ :: rest) := by
  have same : Header.scan options header source = Header.scan options header other :=
    Header.scan_untouched lines otherLines oldCode newCode inactive untouched
  refine ⟨same, ?_⟩
  have scans (sources : List HeaderSource) :
      List.Forall₂
        (fun source other => Header.scan options source.name source.text =
          Header.scan options other.name other.text)
        sources sources :=
    List.forall₂_same.mpr fun _ _ => rfl
  have gathered : gather options {} (first ++ ⟨header, source⟩ :: rest) =
      gather options {} (first ++ ⟨header, other⟩ :: rest) :=
    gather_congr (List.rel_append (scans first) (.cons same (scans rest)))
  rw [extract, extract, gathered]

/-- A class with an inactive line between a declaration of two lines and a documentation comment. -/
def guardedLine (line : String) : String :=
  "NAPI_CLASS class A\nNAPI_ENUM enum M : int \x7b P,\nQ \x7d;\n#ifdef X\n" ++ line ++
    "\n#endif\n/**\nDocs.\n*/\nvoid g();"

/-- The lines above the inactive line of `guardedLine`. -/
def guardedAbove : List String :=
  ["NAPI_CLASS class A", "NAPI_ENUM enum M : int \x7b P,", "Q \x7d;", "#ifdef X"]

/-- The lines below the inactive line of `guardedLine`. -/
def guardedBelow : List String :=
  ["#endif", "/**", "Docs.", "*/", "void g();"]

theorem guardedLine_untouched :
    ((Conditions.ofDefinitions []).after guardedAbove).isLive = false ∧
      Header.Untouched (Conditions.ofDefinitions []) guardedAbove guardedBelow ∧
      Header.scan {} "a.h" (guardedLine "NAPI_CLASS class B") =
        Header.scan {} "a.h" (guardedLine "*/") ∧
      extract {} [⟨"a.h", guardedLine "NAPI_CLASS class B"⟩] =
        extract {} [⟨"a.h", guardedLine "*/"⟩] :=
  have inactive : ((Conditions.ofDefinitions []).after guardedAbove).isLive = false := by
    decide +kernel
  have untouched : Header.Untouched (Conditions.ofDefinitions []) guardedAbove guardedBelow := by
    decide +kernel
  ⟨inactive, untouched,
    extract_untouched {} [] [] "a.h" _ _ guardedAbove guardedBelow "NAPI_CLASS class B" "*/"
      (by decide +kernel) (by decide +kernel) (by decide) (by decide) inactive untouched⟩

/-- A class with an enum that only an inactive line closes, and the class without that line. -/
def halfOpenEnum (last : String) : String :=
  "NAPI_CLASS class A\nNAPI_ENUM enum M : int \x7b P\n#ifdef X\n" ++ last ++ "\n#endif"

/-- The text of an inactive line can decide whether an extraction succeeds. -/
theorem inactive_line_not_always_untouched :
    ¬ ∀ (options : Header.Options) (header source other : String) (above below : List String)
      (old new : String),
      Text.trimmedLines source = above ++ old :: below →
      Text.trimmedLines other = above ++ new :: below →
      Text.startsWith old "#" = false →
      Text.startsWith new "#" = false →
      ((Conditions.ofDefinitions options.definitions).after above).isLive = false →
      (extract options [⟨header, source⟩]).result = (extract options [⟨header, other⟩]).result := by
  intro always
  have same := always {} "a.h" (halfOpenEnum "\x7d") (halfOpenEnum "")
    ["NAPI_CLASS class A", "NAPI_ENUM enum M : int \x7b P", "#ifdef X"] ["#endif"] "\x7d" ""
    (by decide +kernel) (by decide +kernel) (by decide) (by decide) (by decide +kernel)
  have closed : (extract {} [⟨"a.h", halfOpenEnum "\x7d"⟩]).result = .ok { classes := [{
      name := "A"
      kind := .regular
      enums := [{ name := "M", underlying := "int", constants := [⟨"P #ifdef X", "0"⟩] }] }] } := by
    decide +kernel
  have unclosed : (extract {} [⟨"a.h", halfOpenEnum ""⟩]).result =
      .error (.scan (.enumOpen "a.h:2")) := by
    decide +kernel
  rw [closed, unclosed] at same
  cases same

end HeaderBindings
