import DevicetreeHeader.Proofs.Source.CommentFree
import DevicetreeHeader.Proofs.Text.Runs
import DevicetreeHeader.Value

/-!
# The spelling of values

`Value.spelling` is a way to write a value in a source. An integer is written as a cell, a quoted
text between double quotes, and a token as a cell too, unless it is a numeral: as a cell that would
be an integer, and it stands by itself. Classification reads every value that can be written
(`Value.Printable`) back from its spelling (`classify_spelling`).

A spelling is a word or a content between two outer characters (`spelled_spelling`). It begins and
ends with no blank, it ends no assignment and no block, and no comment starts in it.
-/

set_option autoImplicit false
set_option relaxedAutoImplicit false

namespace DevicetreeHeader.Value

open Source.Comment (CommentFree commentFree_cons commentFree_append_cons
  commentFree_append_of_not_mem commentFree_of_not_mem)
open Text (Word isWord isBlank not_mem_of_word)

/-! ### Numerals -/

/-- Whether a text is a numeral: decimal digits, and at least one. -/
def isNumeral (text : Text) : Bool :=
  !text.isEmpty && text.all Char.isDigit

theorem isNumeral_iff {text : Text} :
    isNumeral text = true ↔ text ≠ [] ∧ ∀ c ∈ text, c.isDigit = true := by
  rw [isNumeral, Bool.and_eq_true, Bool.not_eq_true', List.isEmpty_eq_false_iff, List.all_eq_true]

theorem isNumeral_ofNat (n : Nat) : isNumeral (Text.ofNat n) = true := by
  refine isNumeral_iff.mpr ⟨Nat.toDigits_ne_nil, fun c hc ↦ ?_⟩
  exact Nat.isDigit_of_mem_toDigits (by decide) (by decide) hc

theorem decimal?_of_not_isNumeral {text : Text} (hnumeral : isNumeral text = false) :
    decimal? text = none := by
  rw [decimal?, ← isNumeral, hnumeral]
  rfl

/-- The numeral of a number that is not too large denotes it. -/
theorem decimal?_ofNat {n : Nat} (hn : n ≤ largest) : decimal? (Text.ofNat n) = some n := by
  have hnumber : Nat.ofDigitChars 10 (Text.ofNat n) 0 = n := Nat.ofDigitChars_ten_toDigits
  rw [decimal?, ← isNumeral, isNumeral_ofNat, if_pos rfl, hnumber]
  exact if_pos hn

theorem isWord_of_isDigit {c : Char} (hc : c.isDigit = true) : isWord c = true := by
  have hascii : c.toNat < 0x80 :=
    Nat.lt_of_le_of_lt (Char.isDigit_iff_toNat.mp hc).2 (by decide)
  rw [isWord, if_pos hascii, Char.isAlphanum, hc]
  simp

theorem word_of_isNumeral {text : Text} (hnumeral : isNumeral text = true) : Word text := by
  obtain ⟨hne, hdigits⟩ := isNumeral_iff.mp hnumeral
  exact ⟨hne, fun c hc ↦ isWord_of_isDigit (hdigits c hc)⟩

/-! ### Spellings -/

/-- A value as it can be written in a source. -/
def spelling : Value → Text
  | integer number => '<' :: (Text.ofInt number ++ ['>'])
  | quoted content => '"' :: (content ++ ['"'])
  | token content => if isNumeral content then content else '<' :: (content ++ ['>'])

/-- What may stand between the outer characters of a value: it ends no assignment and no block, and
no comment starts in it. -/
def Content (text : Text) : Prop :=
  ';' ∉ text ∧ '}' ∉ text ∧ CommentFree text

instance (text : Text) : Decidable (Content text) :=
  inferInstanceAs (Decidable (_ ∧ _ ∧ _))

/-- A value that can be written: an integer that a cell can hold, or a content. -/
def Printable : Value → Prop
  | integer number => 0 ≤ number ∧ number ≤ largest
  | quoted content => Content content
  | token content => Content content

instance (value : Value) : Decidable value.Printable :=
  match value with
  | integer _ => inferInstanceAs (Decidable (_ ∧ _))
  | quoted content => inferInstanceAs (Decidable (Content content))
  | token content => inferInstanceAs (Decidable (Content content))

theorem cell?_cell (content : Text) : cell? ('<' :: (content ++ ['>'])) = some content := by
  rw [cell?, if_pos (by simp), List.dropLast_concat]

/-- A numeral is neither a cell nor quoted. -/
theorem classify_of_isNumeral {text : Text} (hnumeral : isNumeral text = true) :
    classify text = token text := by
  obtain ⟨hne, hword⟩ := word_of_isNumeral hnumeral
  obtain ⟨c, rest, rfl⟩ := List.exists_cons_of_ne_nil hne
  have hc := hword c List.mem_cons_self
  have hcell : cell? (c :: rest) = none := by
    rw [cell?]
    rintro tail htail
    obtain ⟨rfl, -⟩ := List.cons_eq_cons.mp htail
    exact absurd hc (by decide)
  have hquote : ¬ ((c :: rest).head? = some '"' ∧ (c :: rest).getLast? = some '"') := by
    rintro ⟨hhead, -⟩
    obtain rfl : c = '"' := by simpa using hhead
    exact absurd hc (by decide)
  rw [classify, hcell]
  exact if_neg hquote

/-- What stands between the first and the last character is the content, double quotes or not. -/
theorem classify_quoted (content : Text) :
    classify ('"' :: (content ++ ['"'])) = quoted content := by
  have hlast : ('"' :: (content ++ ['"'])).getLast? = some '"' := by
    rw [← List.cons_append, List.getLast?_concat]
  rw [classify, cell?]
  · rw [if_pos ⟨rfl, hlast⟩, List.tail_cons, List.dropLast_concat]
  · simp

/-- A value is read back from its spelling. -/
theorem classify_spelling {value : Value} (hprintable : value.Printable) :
    classify value.spelling = value := by
  cases value with
  | integer number =>
    obtain ⟨n, rfl⟩ := Int.eq_ofNat_of_zero_le hprintable.1
    have hn : n ≤ largest := Int.ofNat_le.mp hprintable.2
    have hdecimal : decimal? (Text.ofInt n) = some n := decimal?_ofNat hn
    rw [spelling, classify, cell?_cell]
    simp only [hdecimal]
  | quoted content => exact classify_quoted content
  | token content =>
    cases hnumeral : isNumeral content with
    | true => rw [spelling, hnumeral, if_pos rfl, classify_of_isNumeral hnumeral]
    | false =>
      rw [spelling, hnumeral, if_neg Bool.false_ne_true, classify, cell?_cell]
      simp only [decimal?_of_not_isNumeral hnumeral]

/-! ### What a spelling is made of -/

/-- The two kinds of spellings: a word, or a content between two outer characters. -/
inductive Spelled : Text → Prop where
  | word {text : Text} (hword : Word text) : Spelled text
  | framed {first last : Char} {content : Text} (hfirst : first ∈ ['<', '>', '"'])
      (hlast : last ∈ ['<', '>', '"']) (hcontent : Content content) :
      Spelled (first :: (content ++ [last]))

theorem content_of_isNumeral {text : Text} (hnumeral : isNumeral text = true) : Content text := by
  have hword := word_of_isNumeral hnumeral
  exact ⟨not_mem_of_word hword (by decide), not_mem_of_word hword (by decide),
    commentFree_of_not_mem (not_mem_of_word hword (by decide))⟩

theorem spelled_spelling {value : Value} (hprintable : value.Printable) :
    Spelled value.spelling := by
  cases value with
  | integer number =>
    obtain ⟨n, rfl⟩ := Int.eq_ofNat_of_zero_le hprintable.1
    exact .framed (by simp) (by simp) (content_of_isNumeral (isNumeral_ofNat n))
  | quoted content => exact .framed (by simp) (by simp) hprintable
  | token content =>
    rw [spelling]
    split
    · rename_i hnumeral
      exact .word (word_of_isNumeral hnumeral)
    · exact .framed (by simp) (by simp) hprintable

/-- An outer character is no blank, no end and no part of a mark. -/
theorem outer_apart {c : Char} (hc : c ∈ ['<', '>', '"']) :
    isBlank c = false ∧ c ≠ ';' ∧ c ≠ '}' ∧ c ≠ '/' ∧ c ≠ '*' := by
  rw [List.mem_cons, List.mem_cons, List.mem_singleton] at hc
  rcases hc with rfl | rfl | rfl
  · decide
  · decide
  · decide

namespace Spelled

variable {text : Text}

theorem ne_nil (hspelled : Spelled text) : text ≠ [] := by
  cases hspelled with
  | word hword => exact hword.1
  | framed => exact List.cons_ne_nil _ _

theorem isBlank_head? (hspelled : Spelled text) : ∀ c ∈ text.head?, isBlank c = false := by
  intro c hc
  cases hspelled with
  | word hword => exact Text.isBlank_of_isWord (hword.2 c (List.mem_of_mem_head? hc))
  | framed hfirst =>
    rw [← Option.some.inj hc]
    exact (outer_apart hfirst).1

theorem isBlank_getLast? (hspelled : Spelled text) : ∀ c ∈ text.getLast?, isBlank c = false := by
  intro c hc
  cases hspelled with
  | word hword => exact Text.isBlank_of_isWord (hword.2 c (List.mem_of_getLast? hc))
  | framed _ hlast =>
    rw [← List.cons_append, List.getLast?_concat] at hc
    rw [← Option.some.inj hc]
    exact (outer_apart hlast).1

/-- A spelling ends no assignment and no block. -/
theorem not_mem (hspelled : Spelled text) : ';' ∉ text ∧ '}' ∉ text := by
  cases hspelled with
  | word hword => exact ⟨not_mem_of_word hword (by decide), not_mem_of_word hword (by decide)⟩
  | framed hfirst hlast hcontent =>
    obtain ⟨-, hfirst, hfirst', -⟩ := outer_apart hfirst
    obtain ⟨-, hlast, hlast', -⟩ := outer_apart hlast
    simp [hcontent.1, hcontent.2.1, hfirst.symm, hfirst'.symm, hlast.symm, hlast'.symm]

/-- No comment starts in a spelling or at its end. -/
theorem commentFree_append (hspelled : Spelled text) {rest : Text} (hrest : CommentFree rest) :
    CommentFree (text ++ rest) := by
  cases hspelled with
  | word hword =>
    exact (commentFree_append_of_not_mem (not_mem_of_word hword (by decide))).mpr hrest
  | framed hfirst hlast hcontent =>
    obtain ⟨-, -, -, hfirst, -⟩ := outer_apart hfirst
    obtain ⟨-, -, -, hslash, hstar⟩ := outer_apart hlast
    rw [List.cons_append, List.append_assoc, commentFree_cons hfirst]
    exact (commentFree_append_cons hslash hstar).mpr ⟨hcontent.2.2, hrest⟩

end Spelled

end DevicetreeHeader.Value
