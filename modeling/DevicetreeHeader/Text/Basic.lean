/-!
# Texts

A text is a list of Unicode code points. Scanners and printers work on the list itself, so that a
run of characters is a `takeWhile` and what follows it a `dropWhile`. A standard's character class
is given by a table of closed ranges of code points, which `inRanges` reads.
-/

set_option autoImplicit false
set_option relaxedAutoImplicit false

namespace DevicetreeHeader

/-- A text, as the list of its code points. -/
abbrev Text := List Char

namespace Text

/-- Whether a code point lies in one of the closed ranges. -/
def inRanges (ranges : List (Nat × Nat)) (point : Nat) : Bool :=
  ranges.any fun range ↦ range.1 ≤ point && point ≤ range.2

/-- The decimal numeral of a natural number. -/
def ofNat (n : Nat) : Text :=
  Nat.toDigits 10 n

/-- The decimal numeral of an integer, with a sign only below zero. -/
def ofInt : Int → Text
  | .ofNat n => ofNat n
  | .negSucc n => '-' :: ofNat (n + 1)

end Text

end DevicetreeHeader
