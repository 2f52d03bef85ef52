import DevicetreeHeader.Proofs.Value.DecimalCells

/-!
# What classification forgets

`Denotes` says by the shape of a raw text which value it has. A cell has the number of its numeral,
or its content as a token; double quotes enclose a quoted text, which is empty if there is only one
of them; and any other text is a token as it stands. The shapes exclude each other, and
classification tells them apart (`denotes_classify`).

So what it forgets can be read off the shapes: the zeros in front of a number, the second of two
double quotes, and the brackets around a content that would be read in the same way without them
(`classify_eq_classify_iff`).
-/

set_option autoImplicit false
set_option relaxedAutoImplicit false

namespace DevicetreeHeader.Value

/-- A text that is no cell and does not both begin and end with a double quote. -/
structure Unframed (raw : Text) : Prop where
  not_cell : ∀ content, raw ≠ cell content
  not_quoted : ¬ (raw.head? = some '"' ∧ raw.getLast? = some '"')

/-- The value of a raw text by its shape. -/
inductive Denotes : Text → Value → Prop
  | number {digits : Text} {number : Int} (hfits : Fits digits)
      (hnumber : number = numberOf digits) : Denotes (cell digits) (integer number)
  | content {content : Text} (hfits : ¬ Fits content) : Denotes (cell content) (token content)
  | quotes (content : Text) : Denotes ('"' :: (content ++ ['"'])) (quoted content)
  | loneQuote : Denotes ['"'] (quoted [])
  | verbatim {raw : Text} (hunframed : Unframed raw) : Denotes raw (token raw)

/-- Two texts that classification does not tell apart, in one of their two orders. -/
inductive Alike : Text → Text → Prop
  /-- Cells of numerals of the same number. -/
  | numerals {first second : Text} (hfirst : Fits first) (hsecond : Fits second)
      (hnumber : numberOf first = numberOf second) : Alike (cell first) (cell second)
  /-- Two double quotes, and a lone one. -/
  | quotes : Alike ['"', '"'] ['"']
  /-- A cell, and its content without the brackets. -/
  | brackets {content : Text} (hunframed : Unframed content) (hfits : ¬ Fits content) :
      Alike (cell content) content

/-! ### Shapes -/

theorem cell?_eq_some_iff {raw content : Text} :
    cell? raw = some content ↔ raw = cell content := by
  constructor
  · intro hcell
    unfold cell? at hcell
    split at hcell
    · rename_i rest
      obtain ⟨hlast, hcontent⟩ := Option.ite_none_right_eq_some.mp hcell
      obtain ⟨front, rfl⟩ := List.getLast?_eq_some_iff.mp hlast
      rw [List.dropLast_concat] at hcontent
      rw [Option.some.inj hcontent, cell]
    · cases hcell
  · rintro rfl
    exact cell?_cell content

theorem classify_of_ne_cell {raw : Text} (hcell : ∀ content, raw ≠ cell content) :
    classify raw = if raw.head? = some '"' ∧ raw.getLast? = some '"' then quoted raw.tail.dropLast
      else token raw := by
  have hnone : cell? raw = none := by
    rw [Option.eq_none_iff_forall_ne_some]
    exact fun content hsome ↦ hcell content (cell?_eq_some_iff.mp hsome)
  rw [classify, hnone]

/-- What begins and ends with a double quote is a lone one, or something between two. -/
theorem eq_of_quotes {raw : Text} (hhead : raw.head? = some '"') (hlast : raw.getLast? = some '"') :
    raw = ['"'] ∨ ∃ content, raw = '"' :: (content ++ ['"']) := by
  obtain ⟨rest, rfl⟩ := List.head?_eq_some_iff.mp hhead
  rcases List.eq_nil_or_concat' rest with rfl | ⟨content, c, rfl⟩
  · exact Or.inl rfl
  · rw [← List.cons_append, List.getLast?_concat] at hlast
    exact Or.inr ⟨content, by rw [Option.some.inj hlast]⟩

theorem denotes_classify (raw : Text) : Denotes raw (classify raw) := by
  by_cases hcell : ∃ content, raw = cell content
  · obtain ⟨content, rfl⟩ := hcell
    rw [classify_cell]
    split
    · rename_i hfits
      exact .number hfits rfl
    · rename_i hfits
      exact .content hfits
  · rw [classify_of_ne_cell (not_exists.mp hcell)]
    split
    · rename_i hquotes
      rcases eq_of_quotes hquotes.1 hquotes.2 with rfl | ⟨content, rfl⟩
      · exact .loneQuote
      · rw [List.tail_cons, List.dropLast_concat]
        exact .quotes content
    · rename_i hquotes
      exact .verbatim ⟨not_exists.mp hcell, hquotes⟩

/-- No other shape gives a text another value. -/
theorem Denotes.classify_eq {raw : Text} {value : Value} (hdenotes : Denotes raw value) :
    classify raw = value := by
  cases hdenotes with
  | number hfits hnumber => rw [classify_cell, if_pos hfits, hnumber]
  | content hfits => rw [classify_cell, if_neg hfits]
  | quotes content => exact classify_quoted content
  | loneQuote => rfl
  | verbatim hunframed => rw [classify_of_ne_cell hunframed.not_cell, if_neg hunframed.not_quoted]

/-! ### Texts of one value -/

theorem Alike.classify_eq {first second : Text} (halike : Alike first second) :
    classify first = classify second := by
  cases halike with
  | numerals hfirst hsecond hnumber =>
    rw [(Denotes.number hfirst rfl).classify_eq, (Denotes.number hsecond rfl).classify_eq, hnumber]
  | quotes => rfl
  | brackets hunframed hfits =>
    rw [(Denotes.content hfits).classify_eq, (Denotes.verbatim hunframed).classify_eq]

/-- Two texts have the same value exactly if they are equal, cells of numerals of one number that
fits, a pair of double quotes and a lone one, or a cell and its content where that is unframed and
no numeral that fits. -/
theorem classify_eq_classify_iff (first second : Text) :
    classify first = classify second ↔
      first = second ∨ Alike first second ∨ Alike second first := by
  constructor
  · intro heq
    have hfirst := denotes_classify first
    have hsecond := denotes_classify second
    rw [← heq] at hsecond
    generalize classify first = value at hfirst hsecond
    cases hfirst with
    | number hfits hnumber =>
      cases hsecond with
      | number hfits' hnumber' =>
        exact Or.inr (Or.inl (.numerals hfits hfits' (Int.ofNat.inj (hnumber.symm.trans hnumber'))))
    | content hfits =>
      cases hsecond with
      | content => exact Or.inl rfl
      | verbatim hunframed => exact Or.inr (Or.inl (.brackets hunframed hfits))
    | quotes content =>
      cases hsecond with
      | quotes => exact Or.inl rfl
      | loneQuote => exact Or.inr (Or.inl .quotes)
    | loneQuote =>
      cases hsecond with
      | quotes => exact Or.inr (Or.inr .quotes)
      | loneQuote => exact Or.inl rfl
    | verbatim hunframed =>
      cases hsecond with
      | content hfits => exact Or.inr (Or.inr (.brackets hunframed hfits))
      | verbatim => exact Or.inl rfl
  · rintro (rfl | halike | halike)
    · rfl
    · exact halike.classify_eq
    · exact halike.classify_eq.symm

end DevicetreeHeader.Value
