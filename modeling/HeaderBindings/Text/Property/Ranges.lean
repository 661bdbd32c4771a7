/-!
# Tables of code points

A character property is given as a list of ranges of code points.  The tables of this folder hold
the code points from `0x80` on; the rule for ASCII characters is written out beside each property.
-/

namespace HeaderBindings.Text

/-- Whether a code point lies in one of the closed ranges of a table. -/
def inRanges (table : List (Nat × Nat)) (point : Nat) : Bool :=
  table.any fun range => range.1 ≤ point && point ≤ range.2

/--
Whether a code point lies in one of the strided ranges of a table.  The entry `(low, high, step)`
stands for `low, low + step, …, high`; cased alphabets alternate their two cases with step two.
-/
def inStrides (table : List (Nat × Nat × Nat)) (point : Nat) : Bool :=
  table.any fun range =>
    range.1 ≤ point && point ≤ range.2.1 && (point - range.1) % range.2.2 == 0

end HeaderBindings.Text
