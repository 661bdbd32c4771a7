import HeaderBindings.Text.Character

/-!
# Cutting and replacing text

Trimming, affixes, searches and replacements on strings, each given by the list of characters of
its argument.
-/

namespace HeaderBindings.Text

/-- Drops the characters at the end that satisfy `p`. -/
def dropEndWhile (p : Char → Bool) (text : List Char) : List Char :=
  (text.reverse.dropWhile p).reverse

/-- Drops the blanks at the start. -/
def trimStart (text : String) : String :=
  String.ofList (text.toList.dropWhile isBlank)

/-- Drops the blanks at the end. -/
def trimEnd (text : String) : String :=
  String.ofList (dropEndWhile isBlank text.toList)

/-- Drops the blanks at both ends. -/
def trim (text : String) : String :=
  trimEnd (trimStart text)

/-- Whether a text starts with `head`. -/
def startsWith (text head : String) : Bool :=
  head.toList.isPrefixOf text.toList

/-- Whether a text ends with `tail`. -/
def endsWith (text tail : String) : Bool :=
  tail.toList.isSuffixOf text.toList

/-- The text after `head`, if the text starts with it. -/
def dropHead? (text head : String) : Option String :=
  (head.toList.isPrefixOf? text.toList).map String.ofList

/-- The text before `tail`, if the text ends with it. -/
def dropTail? (text tail : String) : Option String :=
  (tail.toList.isSuffixOf? text.toList).map String.ofList

/-- The text after `head`, or the whole text where it does not start with `head`. -/
def dropHead (text head : String) : String :=
  (dropHead? text head).getD text

/-- Splits at the first occurrence of `pattern`; the two sides do not contain that occurrence. -/
def cut? (pattern : List Char) : List Char → Option (List Char × List Char)
  | [] => if pattern.isEmpty then some ([], []) else none
  | c :: rest =>
    match pattern.isPrefixOf? (c :: rest) with
    | some after => some ([], after)
    | none => (cut? pattern rest).map fun sides => (c :: sides.1, sides.2)

/-- Splits at the last occurrence of `pattern`; the two sides do not contain that occurrence. -/
def cutLast? (pattern text : List Char) : Option (List Char × List Char) :=
  (cut? pattern.reverse text.reverse).map fun sides => (sides.2.reverse, sides.1.reverse)

/-- Splits a string at the first occurrence of `pattern`. -/
def splitFirst? (text pattern : String) : Option (String × String) :=
  (cut? pattern.toList text.toList).map fun sides => (.ofList sides.1, .ofList sides.2)

/-- Splits a string at the first character that satisfies `p`, which belongs to neither side. -/
def splitFirstWhere? (p : Char → Bool) (text : String) : Option (String × String) :=
  match text.toList.dropWhile (fun c => !p c) with
  | [] => none
  | _ :: rest => some (.ofList (text.toList.takeWhile fun c => !p c), .ofList rest)

/-- Whether `pattern` occurs in a text. -/
def contains (text pattern : String) : Bool :=
  (cut? pattern.toList text.toList).isSome

/-- The text after the last occurrence of `pattern`, or the whole text. -/
def afterLast (text pattern : String) : String :=
  match cutLast? pattern.toList text.toList with
  | some sides => .ofList sides.2
  | none => text

/--
Replaces the occurrences of `pattern` from left to right; the counter holds how many characters of
the occurrence at hand are still to be passed over.
-/
def replaceFrom (pattern replacement : List Char) : Nat → List Char → List Char
  | _, [] => []
  | n + 1, _ :: rest => replaceFrom pattern replacement n rest
  | 0, c :: rest =>
    if pattern.isPrefixOf (c :: rest) then
      replacement ++ replaceFrom pattern replacement (pattern.length - 1) rest
    else
      c :: replaceFrom pattern replacement 0 rest

/-- Replaces every occurrence of a pattern, which must not be empty. -/
def replaceAll (text pattern replacement : String) : String :=
  .ofList (replaceFrom pattern.toList replacement.toList 0 text.toList)

/-- Removes every occurrence of one character. -/
def without (text : String) (c : Char) : String :=
  .ofList (text.toList.filter (· != c))

/-- The maximal runs of characters between blanks. -/
def fields (text : String) : List String :=
  ((text.toList.splitOnP isBlank).filter fun field => !field.isEmpty).map .ofList

/-- The items of a list with a separator between neighbours. -/
def joinWith (separator : String) (items : List String) : String :=
  separator.intercalate items

end HeaderBindings.Text
