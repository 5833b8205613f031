/-
This file holds the lookup of a character in a property of the Unicode standard. A property is a
list of closed ranges of code points, ascending and apart; a character has the property when its
code point lies in one of them. The tables of this folder follow version 15.1 of the standard.
-/

namespace StepSequencer.Text

/-- Closed ranges of code points, ascending and apart. -/
abbrev CodeRanges := List (Nat × Nat)

/-- Whether a code point lies in one of the ranges. -/
def CodeRanges.holds (ranges : CodeRanges) (code : Nat) : Bool :=
  ranges.any fun range => range.1 ≤ code && code ≤ range.2

end StepSequencer.Text
