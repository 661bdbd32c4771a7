import HeaderBindings.Proofs.Text.LineReplacement

/-!
# Lines in one pass

A line end is a line feed, a carriage return, or a carriage return with a line
feed behind it.  One pass over a text, which looks one character ahead, takes
each line end as a whole and finds the only lines that the text can be read in.
Writing every line end as a line feed first and splitting at the line feeds then
gives these same lines; joined again, they are the text with its line ends
written alike, which has the same lines once more.
-/

namespace HeaderBindings.Text

/-- What ends a line. -/
inductive LineEnd where
  | feed
  | carriage
  /-- A carriage return with the line feed behind it. -/
  | pair
  deriving Repr, DecidableEq

def LineEnd.chars : LineEnd → List Char
  | feed => ['\n']
  | carriage => ['\r']
  | pair => ['\r', '\n']

/-- The lines of a text: those that are ended, each with its line end, and the last one. -/
structure EndedLines where
  ended : List (List Char × LineEnd)
  last : List Char
  deriving Repr, DecidableEq

namespace EndedLines

def cons (lines : EndedLines) (line : List Char) (ending : LineEnd) : EndedLines :=
  ⟨(line, ending) :: lines.ended, lines.last⟩

/-- The lines without their line ends. -/
def contents (lines : EndedLines) : List (List Char) :=
  lines.ended.map Prod.fst ++ [lines.last]

/-- The text with a line feed for each line end. -/
def normalized (lines : EndedLines) : List Char :=
  lines.ended.flatMap (fun line => line.1 ++ ['\n']) ++ lines.last

/-- The same lines with a line feed behind each. -/
def fed (lines : EndedLines) : EndedLines :=
  ⟨lines.ended.map fun line => (line.1, .feed), lines.last⟩

/-- One pass over a text from left to right, behind the part of a line that is read already. -/
def scanFrom (line : List Char) : List Char → EndedLines
  | [] => ⟨[], line⟩
  | '\r' :: '\n' :: rest => (scanFrom [] rest).cons line .pair
  | c :: rest =>
    if c = '\r' then (scanFrom [] rest).cons line .carriage
    else if c = '\n' then (scanFrom [] rest).cons line .feed
    else scanFrom (line ++ [c]) rest

def scan (text : List Char) : EndedLines :=
  scanFrom [] text

/-- A text read in lines.  A carriage return ends a line alone if no line feed stands behind it. -/
inductive ReadFrom : EndedLines → List Char → Prop where
  | last {line : List Char} (free : ∀ c ∈ line, isLineEnd c = false) :
      ReadFrom ⟨[], line⟩ line
  | next {line rest : List Char} {ending : LineEnd} {lines : EndedLines}
      (free : ∀ c ∈ line, isLineEnd c = false)
      (alone : ending = .carriage → rest.head? ≠ some '\n')
      (others : lines.ReadFrom rest) :
      ReadFrom (lines.cons line ending) (line ++ (ending.chars ++ rest))

end EndedLines

open EndedLines

section

variable {line front rest text : List Char} {ending : LineEnd} {lines : EndedLines}

/-! ## The pass -/

theorem scanFrom_append (free : ∀ c ∈ front, isLineEnd c = false) (line rest : List Char) :
    scanFrom line (front ++ rest) = scanFrom (line ++ front) rest := by
  induction front generalizing line with
  | nil => simp
  | cons c front ih =>
      rcases List.forall_mem_cons.mp free with ⟨isKept, isFree⟩
      have notReturn : c ≠ '\r' := ne_of_isLineEnd isKept rfl
      have notFeed : c ≠ '\n' := ne_of_isLineEnd isKept rfl
      rw [List.cons_append, scanFrom, if_neg notReturn, if_neg notFeed, ih isFree,
        List.append_assoc, List.singleton_append]
      exact fun rest isReturn => absurd isReturn notReturn

theorem scanFrom_end (alone : ending = .carriage → rest.head? ≠ some '\n') (line : List Char) :
    scanFrom line (ending.chars ++ rest) = (scan rest).cons line ending := by
  cases ending with
  | feed =>
      show scanFrom line ('\n' :: rest) = _
      rw [scanFrom, if_neg (by decide), if_pos rfl]
      · rfl
      · exact fun rest isReturn => absurd isReturn (by decide)
  | carriage =>
      show scanFrom line ('\r' :: rest) = _
      rw [scanFrom, if_pos rfl]
      · rfl
      · rintro more - rfl
        exact alone rfl rfl
  | pair => rfl

/-- A text can be read in the lines of the pass only. -/
theorem EndedLines.ReadFrom.eq_scan (reads : lines.ReadFrom text) : lines = scan text := by
  induction reads with
  | @last line free =>
      have passed := scanFrom_append free [] []
      rw [List.append_nil, List.nil_append] at passed
      rw [scan, passed, scanFrom]
  | next free alone others ih =>
      rw [scan, scanFrom_append free, scanFrom_end alone, List.nil_append, ← ih]

theorem readFrom_scanFrom (free : ∀ c ∈ line, isLineEnd c = false) (text : List Char) :
    (scanFrom line text).ReadFrom (line ++ text) := by
  have nothing : ∀ c ∈ ([] : List Char), isLineEnd c = false := by simp
  fun_induction scanFrom line text with
  | case1 line =>
      rw [List.append_nil]
      exact .last free
  | case2 line rest ih => exact .next free (by simp) (ih nothing)
  | case3 line rest notPair ih =>
      refine .next free (fun _ isFeed => ?_) (ih nothing)
      rcases List.head?_eq_some_iff.mp isFeed with ⟨more, rfl⟩
      exact notPair more rfl rfl
  | case4 line rest _ _ ih => exact .next free (by simp) (ih nothing)
  | case5 line c rest _ notReturn notFeed ih =>
      have kept : isLineEnd c = false := by simp [isLineEnd, notReturn, notFeed]
      have longer := ih fun d member => (List.mem_append.mp member).elim (free d) fun isLast =>
        List.mem_singleton.mp isLast ▸ kept
      rwa [List.append_assoc, List.singleton_append] at longer

theorem readFrom_iff : lines.ReadFrom text ↔ lines = scan text := by
  refine ⟨EndedLines.ReadFrom.eq_scan, ?_⟩
  rintro rfl
  exact readFrom_scanFrom (by simp) text

/-! ## The lines -/

theorem unifyLineEnds_end (alone : ending = .carriage → rest.head? ≠ some '\n') :
    unifyLineEnds (ending.chars ++ rest) = '\n' :: unifyLineEnds rest := by
  cases ending with
  | feed => exact unifyLineEnds_cons (by decide) rest
  | carriage => exact unifyLineEnds_return (alone rfl)
  | pair => exact (unifyLineEnds_pair rfl).trans (unifyLineEnds_cons (by decide) rest)

theorem normalized_cons (lines : EndedLines) (line : List Char) (ending : LineEnd) :
    (lines.cons line ending).normalized = line ++ '\n' :: lines.normalized := by
  simp [normalized, cons]

theorem normalized_eq_intercalate (lines : EndedLines) :
    lines.normalized = ['\n'].intercalate lines.contents := by
  rcases lines with ⟨ended, last⟩
  simp only [normalized, contents]
  induction ended with
  | nil => simp
  | cons line ended ih =>
      have more : ended.map Prod.fst ++ [last] ≠ [] := by simp
      rw [List.flatMap_cons, List.append_assoc, ih, List.map_cons, List.cons_append,
        List.intercalate_cons_of_ne_nil more]

@[simp]
theorem contents_fed (lines : EndedLines) : lines.fed.contents = lines.contents := by
  simp [contents, fed]

namespace EndedLines.ReadFrom

theorem free_contents (reads : lines.ReadFrom text) :
    ∀ line ∈ lines.contents, ∀ c ∈ line, isLineEnd c = false := by
  induction reads with
  | last free => simpa [contents] using free
  | next free alone others ih => exact List.forall_mem_cons.mpr ⟨free, ih⟩

theorem unifyLineEnds_eq (reads : lines.ReadFrom text) :
    unifyLineEnds text = lines.normalized := by
  induction reads with
  | @last line free =>
      have unified := unifyLineEnds_append free []
      rwa [List.append_nil, show unifyLineEnds [] = [] from rfl, List.append_nil] at unified
  | next free alone others ih =>
      rw [unifyLineEnds_append free, unifyLineEnds_end alone, ih, normalized_cons]

theorem splitLines_eq {text : String} (reads : lines.ReadFrom text.toList) :
    splitLines text = lines.contents.map .ofList := by
  have apart : ∀ line ∈ lines.contents, '\n' ∉ line := fun line member isFeed =>
    ne_of_isLineEnd (reads.free_contents line member _ isFeed) rfl rfl
  rw [splitLines, reads.unifyLineEnds_eq, normalized_eq_intercalate,
    List.splitOn_intercalate _ apart (by simp [contents])]

/-- With a line feed behind each, the lines are read again. -/
theorem fed_normalized (reads : lines.ReadFrom text) : lines.fed.ReadFrom lines.normalized := by
  induction reads with
  | last free => exact .last free
  | @next line rest ending lines free alone others ih =>
      have isFed : (lines.fed.cons line .feed).ReadFrom (line ++ '\n' :: lines.normalized) :=
        .next free (by simp) ih
      rwa [← normalized_cons lines line ending] at isFed

end EndedLines.ReadFrom

theorem joinLines_contents (lines : EndedLines) :
    joinLines (lines.contents.map .ofList) = .ofList lines.normalized := by
  have same : (lines.contents.map String.ofList).map String.toList = lines.contents := by
    simp [Function.comp_def]
  apply String.toList_injective
  rw [joinLines, joinWith, String.toList_intercalate, same]
  show ['\n'].intercalate lines.contents = _
  rw [String.toList_ofList, normalized_eq_intercalate]

/--
The pass over a text reads it in lines, and these are the only ones.  They are
the lines that splitting the text gives: none of them holds a part of a line
end, there is one more than there are line ends, joined they are the text with
its line ends normalized, and splitting that gives them again.
-/
theorem splitLines_scan (text : String) :
    (∀ lines : EndedLines, lines.ReadFrom text.toList ↔ lines = scan text.toList) ∧
    splitLines text = (scan text.toList).contents.map .ofList ∧
    (∀ line ∈ splitLines text, '\r' ∉ line.toList ∧ '\n' ∉ line.toList) ∧
    (splitLines text).length = (scan text.toList).ended.length + 1 ∧
    joinLines (splitLines text) = .ofList (scan text.toList).normalized ∧
    splitLines (joinLines (splitLines text)) = splitLines text := by
  have reads : (scan text.toList).ReadFrom text.toList := readFrom_iff.mpr rfl
  have split := reads.splitLines_eq
  have joined : joinLines (splitLines text) = .ofList (scan text.toList).normalized := by
    rw [split, joinLines_contents]
  refine ⟨fun lines => readFrom_iff, split, fun line member => ?_, ?_, joined, ?_⟩
  · rw [split] at member
    rcases List.mem_map.mp member with ⟨chars, isLine, rfl⟩
    have free := reads.free_contents chars isLine
    rw [String.toList_ofList]
    exact ⟨fun isReturn => ne_of_isLineEnd (free _ isReturn) rfl rfl,
      fun isFeed => ne_of_isLineEnd (free _ isFeed) rfl rfl⟩
  · rw [split, List.length_map, contents, List.length_append, List.length_map]
    rfl
  · have again : (scan text.toList).fed.ReadFrom (joinLines (splitLines text)).toList := by
      rw [joined, String.toList_ofList]
      exact reads.fed_normalized
    rw [again.splitLines_eq, contents_fed, split]

/-- A text with all line ends; of its carriage returns, the first and the last stand alone. -/
def mixedEnds : String :=
  "a\r\r\nb\n\rc"

/-- One of its lines stands between a pair and a line feed. -/
theorem splitLines_scan_mixedEnds :
    "b" ∈ splitLines mixedEnds ∧ ('\r' ∉ "b".toList ∧ '\n' ∉ "b".toList) ∧
      (splitLines mixedEnds).length = 5 ∧
      splitLines (joinLines (splitLines mixedEnds)) = splitLines mixedEnds := by
  have member : "b" ∈ splitLines mixedEnds := by decide +kernel
  have ends : (scan mixedEnds.toList).ended.length = 4 := by decide +kernel
  rcases splitLines_scan mixedEnds with ⟨-, -, free, length, -, again⟩
  exact ⟨member, free "b" member, by rw [length, ends], again⟩

example :
    scan mixedEnds.toList =
      ⟨[(['a'], .carriage), ([], .pair), (['b'], .feed), ([], .carriage)], ['c']⟩ := by
  decide +kernel

end

end HeaderBindings.Text
