import HeaderBindings.Text.Slice

/-!
# Lines

A line ends at a line feed, at a carriage return, or at a carriage return followed by a line feed.
-/

namespace HeaderBindings.Text

/-- Removes the carriage return of every pair of carriage return and line feed. -/
def dropPairedReturns : List Char → List Char
  | '\r' :: '\n' :: rest => '\n' :: dropPairedReturns rest
  | c :: rest => c :: dropPairedReturns rest
  | [] => []

/-- Writes every line end as a line feed. -/
def unifyLineEnds (text : List Char) : List Char :=
  (dropPairedReturns text).map fun c => if c = '\r' then '\n' else c

/-- The lines of a text, without their line ends. -/
def splitLines (text : String) : List String :=
  ((unifyLineEnds text.toList).splitOn '\n').map String.ofList

/-- The lines of a text, each without the blanks at its ends. -/
def trimmedLines (text : String) : List String :=
  (splitLines text).map trim

/-- The text whose lines are given. -/
def joinLines (lines : List String) : String :=
  joinWith "\n" lines

end HeaderBindings.Text
