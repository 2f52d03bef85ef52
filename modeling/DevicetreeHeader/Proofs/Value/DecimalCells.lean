import DevicetreeHeader.Proofs.Value.Spelling
import Mathlib.Data.List.Basic
import Mathlib.Data.List.Induction

/-!
# Decimal cells

A cell with a numeral is an integer if its number is at most `largest`, and is then defined as the
numeral of this number, which has no superfluous zeros in front (`eq_ofNat_iff`). A larger number
makes a token. Since digits may stand in the name of a macro, it is written as it is, and the zeros
stay in front of it.

C reads a constant with a zero in front as octal (`constant?`). So what stands in the definition is
read as the number of the cell unless this is too large and has a zero in front; then C reads a
smaller number, or none at all (`classify_decimalCell`).
-/

set_option autoImplicit false
set_option relaxedAutoImplicit false

namespace DevicetreeHeader.Value

/-! ### Numerals and their numbers -/

/-- The number that decimal digits denote. -/
def numberOf (digits : Text) : Nat :=
  Nat.ofDigitChars 10 digits 0

/-- The cell of a content. -/
def cell (content : Text) : Text :=
  '<' :: (content ++ ['>'])

/-- A numeral whose number is not too large for an integer. -/
def Fits (digits : Text) : Prop :=
  isNumeral digits = true ∧ numberOf digits ≤ largest

instance (digits : Text) : Decidable (Fits digits) :=
  inferInstanceAs (Decidable (_ ∧ _))

theorem decimal?_of_isNumeral {digits : Text} (hnumeral : isNumeral digits = true) :
    decimal? digits = if numberOf digits ≤ largest then some (numberOf digits) else none := by
  rw [decimal?, ← isNumeral, if_pos hnumeral, numberOf]

/-- A cell is the integer of its numeral if that fits, and a token of its content otherwise. -/
theorem classify_cell (content : Text) : classify (cell content) =
    if Fits content then integer (numberOf content) else token content := by
  rw [classify, cell, cell?_cell]
  cases hnumeral : isNumeral content with
  | true =>
    by_cases hsmall : numberOf content ≤ largest
    · simp only [decimal?_of_isNumeral hnumeral, if_pos hsmall,
        if_pos (show Fits content from ⟨hnumeral, hsmall⟩)]
    · simp only [decimal?_of_isNumeral hnumeral, if_neg hsmall,
        if_neg (show ¬ Fits content from fun hfits ↦ hsmall hfits.2)]
  | false =>
    have hfits : ¬ Fits content := fun hfits ↦ by simp [hfits.1] at hnumeral
    simp only [decimal?_of_not_isNumeral hnumeral, if_neg hfits]

end DevicetreeHeader.Value
