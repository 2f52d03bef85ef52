import DevicetreeHeader.Header.Basic

/-!
# Segments of macro names

The upper case of a character never holds a line end, unless the character is one
(`newline_not_mem_upper`), and so a macro segment is on one line if the name is. Of a name in ASCII
the segment is made character by character (`macroSegment_of_ascii`).
-/

set_option autoImplicit false
set_option relaxedAutoImplicit false

namespace DevicetreeHeader

namespace Text

/-- A property of all ASCII characters, by their code points. -/
theorem forall_ascii {P : Char → Prop} (hP : ∀ point < 0x80, P (Char.ofNat point)) :
    ∀ c : Char, c.toNat < 0x80 → P c := by
  intro c hc
  have hpoint := hP c.toNat hc
  rwa [Char.ofNat_toNat] at hpoint

private theorem newline_of_ascii : ∀ c : Char, c.toNat < 0x80 → c.toUpper = '\n' → c = '\n' := by
  apply forall_ascii
  decide +kernel

private theorem newline_not_mem_expanding : ∀ entry ∈ expanding,
    '\n' ∉ entry.2.map Char.ofNat := by
  decide +kernel

private theorem newline_lt_shifted : ∀ run ∈ shifted, 0xA < run.image := by
  decide +kernel

/-- A code point beyond the line end is that of another character, or of none. -/
theorem ofNat_ne_newline {point : Nat} (hpoint : 0xA < point) : Char.ofNat point ≠ '\n' := by
  intro heq
  by_cases hvalid : point.isValidChar
  · have hchar : Char.ofNat point = Char.ofNatAux point hvalid := dif_pos hvalid
    have hsame : point = 0xA := congrArg Char.toNat (hchar.symm.trans heq)
    omega
  · have hnull : Char.ofNat point = '\x00' := dif_neg hvalid
    exact absurd (hnull.symm.trans heq) (by decide)

theorem newline_not_mem_upperChar {c : Char} (hc : c ≠ '\n') : '\n' ∉ upperChar c := by
  intro hmem
  unfold upperChar at hmem
  split at hmem
  · rename_i hascii
    exact hc (newline_of_ascii c hascii (List.mem_singleton.mp hmem).symm)
  · split at hmem
    · rename_i points hpoints
      obtain ⟨before, after, hsplit, -⟩ := List.lookup_eq_some_iff.mp hpoints
      refine newline_not_mem_expanding (c.toNat, points) ?_ hmem
      rw [hsplit]
      exact List.mem_append_right before List.mem_cons_self
    · split at hmem
      · rename_i run hrun
        have himage := newline_lt_shifted run (List.mem_of_find?_eq_some hrun)
        exact ofNat_ne_newline (by omega) (List.mem_singleton.mp hmem).symm
      · exact hc (List.mem_singleton.mp hmem).symm

theorem newline_not_mem_upper {text : Text} (htext : '\n' ∉ text) : '\n' ∉ upper text := by
  intro hmem
  obtain ⟨c, hc, hupper⟩ := List.mem_flatMap.mp hmem
  refine newline_not_mem_upperChar ?_ hupper
  rintro rfl
  exact htext hc

end Text

theorem newline_not_mem_macroSegment {name : Text} (hname : '\n' ∉ name) :
    '\n' ∉ macroSegment name := by
  intro hmem
  obtain ⟨c, hc, hsegment⟩ := List.mem_map.mp hmem
  split at hsegment
  · exact absurd hsegment (by decide)
  · exact Text.newline_not_mem_upper hname (hsegment ▸ hc)

private theorem hyphen_of_ascii : ∀ c : Char, c.toNat < 0x80 →
    (if c.toUpper = '-' then '_' else c.toUpper) = if c = '-' then '_' else c.toUpper := by
  apply Text.forall_ascii
  decide +kernel

/-- The segment of a name in ASCII: each character in upper case, an underscore for a hyphen. -/
theorem macroSegment_of_ascii {name : Text} (hname : ∀ c ∈ name, c.toNat < 0x80) :
    macroSegment name = name.map fun c ↦ if c = '-' then '_' else c.toUpper := by
  induction name with
  | nil => rfl
  | cons c name ih =>
    rw [List.forall_mem_cons] at hname
    rw [macroSegment, Text.upper, List.flatMap_cons, Text.upperChar, if_pos hname.1,
      List.singleton_append, List.map_cons, hyphen_of_ascii c hname.1, List.map_cons, ← ih hname.2]
    rfl

end DevicetreeHeader
