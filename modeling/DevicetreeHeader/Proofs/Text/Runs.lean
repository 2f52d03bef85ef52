import DevicetreeHeader.Text.Blank
import DevicetreeHeader.Text.WordChar

/-!
# Runs

A run is a stretch of characters of one class, taken as long as possible. What follows it is empty
or begins outside the class, and these two facts determine the run
(`takeWhile_append_of_head?`, `dropWhile_append_of_head?`). A word character is no blank
(`isBlank_of_isWord`), so that a run of one kind ends where a run of the other begins.
-/

set_option autoImplicit false
set_option relaxedAutoImplicit false

namespace DevicetreeHeader.Text

section Runs

variable {accepts : Char → Bool} {run rest : Text}

theorem takeWhile_of_head? (hrest : ∀ c ∈ rest.head?, accepts c = false) :
    rest.takeWhile accepts = [] := by
  cases rest with
  | nil => rfl
  | cons c tail => rw [List.takeWhile_cons_of_neg (by simp [hrest c rfl])]

theorem dropWhile_of_head? (hrest : ∀ c ∈ rest.head?, accepts c = false) :
    rest.dropWhile accepts = rest := by
  cases rest with
  | nil => rfl
  | cons c tail => rw [List.dropWhile_cons_of_neg (by simp [hrest c rfl])]

/-- A run ends where the class is left. -/
theorem takeWhile_append_of_head? (hrun : ∀ c ∈ run, accepts c = true)
    (hrest : ∀ c ∈ rest.head?, accepts c = false) : (run ++ rest).takeWhile accepts = run := by
  rw [List.takeWhile_append_of_pos hrun, takeWhile_of_head? hrest, List.append_nil]

theorem dropWhile_append_of_head? (hrun : ∀ c ∈ run, accepts c = true)
    (hrest : ∀ c ∈ rest.head?, accepts c = false) : (run ++ rest).dropWhile accepts = rest := by
  rw [List.dropWhile_append_of_pos hrun, dropWhile_of_head? hrest]

theorem head?_cons_of_eq_false {c : Char} {rest : Text}
    (hc : accepts c = false) : ∀ d ∈ (c :: rest).head?, accepts d = false := by
  intro d hd
  rw [List.head?_cons, Option.mem_some_iff] at hd
  exact hd ▸ hc

theorem head?_dropWhile (text : Text) :
    ∀ c ∈ (text.dropWhile accepts).head?, accepts c = false := by
  intro c hc
  have hnot := List.head?_dropWhile_not accepts text
  rw [Option.mem_def.mp hc] at hnot
  simpa using hnot

theorem mem_takeWhile {text : Text} {c : Char} (hc : c ∈ text.takeWhile accepts) :
    accepts c = true :=
  List.all_eq_true.mp List.all_takeWhile c hc

end Runs

/-! ### Words and blanks -/

/-- A non-empty text of word characters. -/
def Word (text : Text) : Prop :=
  text ≠ [] ∧ ∀ c ∈ text, isWord c = true

/-- A text of blanks, possibly empty. -/
def Blank (text : Text) : Prop :=
  ∀ c ∈ text, isBlank c = true

-- The instances are named: a decision over all characters may be found before that of a list.
instance (text : Text) : Decidable (Word text) :=
  @instDecidableAnd _ _ inferInstance (List.decidableBAll _ text)

instance (text : Text) : Decidable (Blank text) :=
  List.decidableBAll _ text

theorem blank_nil : Blank [] :=
  List.forall_mem_nil _

theorem isInk_eq_true_iff {c : Char} : isInk c = true ↔ isBlank c = false := by
  simp [isInk]

theorem isInk_eq_false_iff {c : Char} : isInk c = false ↔ isBlank c = true := by
  simp [isInk]

theorem inRanges_eq_true_iff {ranges : List (Nat × Nat)} {point : Nat} :
    inRanges ranges point = true ↔ ∃ range ∈ ranges, range.1 ≤ point ∧ point ≤ range.2 := by
  simp [inRanges]

/-- Where blanks are: below the printable characters, between ASCII and the letters beyond it, and
in a stretch of punctuation. -/
private theorem blankRanges_bounds : ∀ blank ∈ blankRanges, blank.2 ≤ 0x20 ∨
    0x85 ≤ blank.1 ∧ blank.2 ≤ 0xA0 ∨ 0x1680 ≤ blank.1 ∧ blank.2 ≤ 0x3000 := by
  decide

/-- No range of word characters beyond ASCII meets a range of blanks. Only the ranges within the
stretch that has blanks are compared with each of these. -/
private theorem wordRanges_apart : (wordRanges.all fun word ↦ Nat.blt 0xA0 word.1 &&
    (word.2.blt 0x1680 || Nat.blt 0x3000 word.1 ||
      blankRanges.all fun blank ↦ word.2.blt blank.1 || blank.2.blt word.1)) = true := by
  decide +kernel

theorem toNat_of_isAlphanum {c : Char} (hc : c.isAlphanum = true) :
    0x30 ≤ c.toNat ∧ c.toNat ≤ 0x7A := by
  have hranges : (decide (c.val ≥ 'A'.val ∧ c.val ≤ 'Z'.val) ||
      decide (c.val ≥ 'a'.val) && decide (c.val ≤ 'z'.val) ||
      decide (c.val ≥ '0'.val) && decide (c.val ≤ '9'.val)) = true := hc
  simp only [Bool.or_eq_true, Bool.and_eq_true, decide_eq_true_eq, UInt32.le_iff_toNat_le]
    at hranges
  have hvalue : c.toNat = c.val.toNat := rfl
  have hupper : 'A'.val.toNat = 0x41 ∧ 'Z'.val.toNat = 0x5A := ⟨rfl, rfl⟩
  have hlower : 'a'.val.toNat = 0x61 ∧ 'z'.val.toNat = 0x7A := ⟨rfl, rfl⟩
  have hdigit : '0'.val.toNat = 0x30 ∧ '9'.val.toNat = 0x39 := ⟨rfl, rfl⟩
  omega

/-- A word character is no blank. -/
theorem isBlank_of_isWord {c : Char} (h : isWord c = true) : isBlank c = false := by
  rw [← Bool.not_eq_true, isBlank, inRanges_eq_true_iff]
  rintro ⟨blank, hblank, hlow, hhigh⟩
  have hbounds := blankRanges_bounds blank hblank
  unfold isWord at h
  split at h
  · rw [Bool.or_eq_true, beq_iff_eq] at h
    rcases h with halphanum | rfl
    · have hpoint := toNat_of_isAlphanum halphanum
      omega
    · have hpoint : '_'.toNat = 0x5F := rfl
      omega
  · obtain ⟨word, hword, hfirst, hlast⟩ := inRanges_eq_true_iff.mp h
    have hapart := List.all_eq_true.mp wordRanges_apart word hword
    rw [Bool.and_eq_true, Bool.or_eq_true, Bool.or_eq_true, Nat.blt_eq, Nat.blt_eq, Nat.blt_eq]
      at hapart
    obtain ⟨hbeyond, (hbelow | habove) | hbetween⟩ := hapart
    · omega
    · omega
    · have hclear := List.all_eq_true.mp hbetween blank hblank
      rw [Bool.or_eq_true, Nat.blt_eq, Nat.blt_eq] at hclear
      omega

theorem isWord_of_isBlank {c : Char} (h : isBlank c = true) : isWord c = false := by
  cases hword : isWord c with
  | false => rfl
  | true => exact absurd h (by simp [isBlank_of_isWord hword])

theorem not_mem_of_word {word : Text} (hword : Word word) {c : Char} (hc : isWord c = false) :
    c ∉ word := by
  intro hmem
  exact absurd (hword.2 c hmem) (by simp [hc])

theorem not_mem_of_blank {gap : Text} (hgap : Blank gap) {c : Char} (hc : isBlank c = false) :
    c ∉ gap := by
  intro hmem
  exact absurd (hgap c hmem) (by simp [hc])

/-- Trimming takes off the gaps around a text that begins and ends with no blank. -/
theorem trimmed_between {before text after : Text} (hbefore : Blank before) (hafter : Blank after)
    (hne : text ≠ []) (hhead : ∀ c ∈ text.head?, isBlank c = false)
    (hlast : ∀ c ∈ text.getLast?, isBlank c = false) :
    trimmed (before ++ (text ++ after)) = text := by
  have hstart : ∀ c ∈ (text ++ after).head?, isBlank c = false := by
    obtain ⟨c, rest, rfl⟩ := List.exists_cons_of_ne_nil hne
    exact hhead
  have hend : ∀ c ∈ text.reverse.head?, isBlank c = false := by
    rwa [List.head?_reverse]
  have hreverse : ∀ c ∈ after.reverse, isBlank c = true := by
    intro c hc
    exact hafter c (List.mem_reverse.mp hc)
  rw [trimmed, dropWhile_append_of_head? hbefore hstart, List.reverse_append,
    dropWhile_append_of_head? hreverse hend, List.reverse_reverse]

/-- After a gap of blanks and one character outside a class, the class has been left. -/
theorem head?_gap {gap : Text} (hgap : Blank gap) {accepts : Char → Bool}
    (hblank : ∀ c, isBlank c = true → accepts c = false) {c : Char} (hc : accepts c = false)
    (rest : Text) : ∀ d ∈ (gap ++ c :: rest).head?, accepts d = false := by
  cases gap with
  | nil => exact head?_cons_of_eq_false hc
  | cons blank gap => exact head?_cons_of_eq_false (hblank blank (hgap blank List.mem_cons_self))

theorem getLast?_gap {gap : Text} (hgap : Blank gap) {accepts : Char → Bool}
    (hblank : ∀ c, isBlank c = true → accepts c = false) {c : Char} (hc : accepts c = false)
    (before : Text) : ∀ d ∈ (before ++ c :: gap).getLast?, accepts d = false := by
  intro d hd
  rw [List.getLast?_append, List.getLast?_cons, Option.some_or] at hd
  cases hlast : gap.getLast? with
  | none => simp_all
  | some blank =>
    obtain rfl : blank = d := by simpa [hlast] using hd
    exact hblank blank (hgap blank (List.mem_of_getLast? hlast))

end DevicetreeHeader.Text
