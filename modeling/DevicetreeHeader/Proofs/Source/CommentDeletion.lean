import DevicetreeHeader.Proofs.Source.CommentPasses

/-!
# Deleting comments

What the two passes do, said without their scanners. `deleteBlocks` cuts a text at its first `/*`
and goes on after the first `*/` that follows; if none follows, everything stays. `cutLines` cuts
every line at its first `//`. The passes agree with the two deletions on every text
(`removeBlocks_eq_deleteBlocks`, `removeLines_eq_cutLines`): the scanner of a block, which remembers
only whether the last character was a star, finds the first `*/` after the opener and never one that
overlaps it.
-/

set_option autoImplicit false
set_option relaxedAutoImplicit false

namespace DevicetreeHeader.Source.Comment

open Text (cut? cut?_cons)

/-! ### Blocks -/

/-- The text without its block comments: each goes from the first `/*` to the first `*/` after it.
From a `/*` that no `*/` follows on, everything stays. -/
def deleteBlocks (text : Text) : Text :=
  match _hopen : cut? opener text with
  | none => text
  | some (before, inside) =>
    match _hclose : cut? closer inside with
    | none => text
    | some (_, after) => before ++ deleteBlocks after
termination_by text.length
decreasing_by
  rw [Text.append_of_cut? _hopen, Text.append_of_cut? _hclose]
  simp [opener, closer]
  omega

theorem deleteBlocks_of_not_opened {text : Text} (hopen : cut? opener text = none) :
    deleteBlocks text = text := by
  rw [deleteBlocks]
  split
  · rfl
  · rename_i hcut
    simp [hopen] at hcut

theorem deleteBlocks_of_not_closed {text before inside : Text}
    (hopen : cut? opener text = some (before, inside)) (hclose : cut? closer inside = none) :
    deleteBlocks text = text := by
  rw [deleteBlocks]
  split
  · rfl
  · rename_i hcut
    obtain ⟨rfl, rfl⟩ := Prod.mk.inj (Option.some.inj (hopen.symm.trans hcut))
    split
    · rfl
    · rename_i hcut'
      simp [hclose] at hcut'

theorem deleteBlocks_of_closed {text before inside body after : Text}
    (hopen : cut? opener text = some (before, inside))
    (hclose : cut? closer inside = some (body, after)) :
    deleteBlocks text = before ++ deleteBlocks after := by
  rw [deleteBlocks]
  split
  · rename_i hcut
    simp [hopen] at hcut
  · rename_i hcut
    obtain ⟨rfl, rfl⟩ := Prod.mk.inj (Option.some.inj (hopen.symm.trans hcut))
    split
    · rename_i hcut'
      simp [hclose] at hcut'
    · rename_i hcut'
      obtain ⟨rfl, rfl⟩ := Prod.mk.inj (Option.some.inj (hclose.symm.trans hcut'))
      rfl

theorem deleteBlocks_cons {c : Char} {rest : Text} (hstarts : ¬ opener <+: c :: rest) :
    deleteBlocks (c :: rest) = c :: deleteBlocks rest := by
  have hcut := cut?_cons hstarts
  cases hopen : cut? opener rest with
  | none =>
    rw [hopen, Option.map_none] at hcut
    rw [deleteBlocks_of_not_opened hcut, deleteBlocks_of_not_opened hopen]
  | some cut =>
    obtain ⟨before, inside⟩ := cut
    rw [hopen, Option.map_some] at hcut
    cases hclose : cut? closer inside with
    | none => rw [deleteBlocks_of_not_closed hcut hclose, deleteBlocks_of_not_closed hopen hclose]
    | some cut' =>
      rw [deleteBlocks_of_closed hcut hclose, deleteBlocks_of_closed hopen hclose, List.cons_append]

theorem removeBlocks_eq_deleteBlocks (text : Text) : removeBlocks text = deleteBlocks text := by
  induction text using blockInduction with
  | nil => rw [removeBlocks, deleteBlocks_of_not_opened rfl]
  | closed inside body after hclose ih =>
    rw [removeBlocks_of_closed hclose, deleteBlocks_of_closed (cut?_opener inside) hclose,
      List.nil_append, ih]
  | unclosed inside hclose =>
    rw [removeBlocks_of_not_closed hclose, deleteBlocks_of_not_closed (cut?_opener inside) hclose]
  | cons c rest hstarts ih => rw [removeBlocks_cons hstarts, deleteBlocks_cons hstarts, ih]

/-! ### Lines -/

/-- A line up to its first `//`. -/
def cutLine (line : Text) : Text :=
  match cut? lineMark line with
  | some (before, _) => before
  | none => line

/-- The text with each of its lines cut at its first `//`. -/
def cutLines (text : Text) : Text :=
  ['\n'].intercalate ((text.splitOn '\n').map cutLine)

theorem cutLine_cons {c : Char} {rest : Text} (hstarts : ¬ lineMark <+: c :: rest) :
    cutLine (c :: rest) = c :: cutLine rest := by
  rw [cutLine, cutLine, cut?_cons hstarts]
  cases cut? lineMark rest <;> rfl

/-- The line pass cuts a line at its first `//`, whatever the lines after it hold. -/
theorem removeLines_append {line : Text} (hline : '\n' ∉ line) {later : Text}
    (hlater : ∀ c ∈ later.head?, c = '\n') :
    removeLines (line ++ later) = cutLine line ++ removeLines later := by
  induction line with
  | nil => rfl
  | cons c line ih =>
    by_cases hstarts : lineMark <+: c :: line
    · obtain ⟨comment, hcomment⟩ := hstarts
      have hrun : ∀ d ∈ comment, decide (d ≠ '\n') = true := by
        intro d hd
        rw [decide_eq_true_eq]
        rintro rfl
        exact hline (hcomment ▸ List.mem_append_right lineMark hd)
      have hend : ∀ d ∈ later.head?, decide (d ≠ '\n') = false := by
        intro d hd
        simp [hlater d hd]
      rw [← hcomment, List.append_assoc, removeLines_comment,
        Text.dropWhile_append_of_head? hrun hend, cutLine, cut?_lineMark]
      rfl
    · have hlong : ¬ lineMark <+: c :: (line ++ later) := by
        rintro ⟨tail, htail⟩
        obtain ⟨rfl, hrest⟩ := List.cons_eq_cons.mp htail
        cases line with
        | nil =>
          have hhead := hlater '/' (by rw [← List.nil_append later, ← hrest]; rfl)
          exact absurd hhead (by decide)
        | cons d line =>
          obtain ⟨rfl, -⟩ := List.cons_eq_cons.mp hrest
          exact hstarts ⟨line, rfl⟩
      rw [List.cons_append, removeLines_cons hlong, cutLine_cons hstarts, List.cons_append,
        ih fun h ↦ hline (List.mem_cons_of_mem c h)]

theorem removeLines_eq_cutLines (text : Text) : removeLines text = cutLines text := by
  induction hlength : text.length using Nat.strongRecOn generalizing text with
  | _ length ih =>
    by_cases hbreak : '\n' ∈ text
    · obtain ⟨line, rest, rfl, hline⟩ := List.eq_append_cons_of_mem hbreak
      have hrest : removeLines rest = cutLines rest :=
        ih rest.length (by simp [← hlength]; omega) rest rfl
      have hstarts : ¬ lineMark <+: '\n' :: rest := by
        rintro ⟨tail, htail⟩
        exact absurd (List.cons_eq_cons.mp htail).1 (by decide)
      rw [removeLines_append hline (by simp), removeLines_cons hstarts, hrest, cutLines, cutLines,
        List.splitOn_append_cons_self_of_not_mem hline, List.map_cons,
        List.intercalate_cons_of_ne_nil (by simp)]
      simp
    · have hcut : removeLines (text ++ []) = cutLine text ++ removeLines [] :=
        removeLines_append hbreak (by simp)
      rw [cutLines, List.splitOn_eq_singleton hbreak, ← List.append_nil text, hcut]
      simp [removeLines]

/-- Stripping a text deletes its block comments, each from the first `/*` to the first `*/` after
it, and then cuts every line at its first `//`. -/
theorem strip_eq_cutLines_deleteBlocks (text : Text) :
    strip text = cutLines (deleteBlocks text) := by
  rw [strip, removeBlocks_eq_deleteBlocks, removeLines_eq_cutLines]

end DevicetreeHeader.Source.Comment
