import DevicetreeHeader.Text.Basic
import Mathlib.Algebra.GroupWithZero.Nat

/-!
# Lines

A text is written line by line with `unlines`, which ends every line, and read line by line with
`lines`. Of texts without line ends both ways give the same lines back; a text that holds line ends
itself is read as several lines (`lines_unlines`), one more for each of them
(`length_lines_unlines`).
-/

set_option autoImplicit false
set_option relaxedAutoImplicit false

namespace DevicetreeHeader.Text

/-- The text of a list of lines, each with its end. -/
def unlines (lines : List Text) : Text :=
  lines.flatMap (· ++ ['\n'])

/-- The lines of a text. What stands behind the last line end is a line only if it is not empty. -/
def lines (text : Text) : List Text :=
  let pieces := text.splitOn '\n'
  if pieces.getLast? = some [] then pieces.dropLast else pieces

theorem unlines_cons (line : Text) (written : List Text) :
    unlines (line :: written) = line ++ '\n' :: unlines written := by
  rw [unlines, List.flatMap_cons, List.append_assoc, List.singleton_append, ← unlines]

theorem unlines_append (first second : List Text) :
    unlines (first ++ second) = unlines first ++ unlines second := by
  rw [unlines, List.flatMap_append, ← unlines, ← unlines]

theorem splitOn_unlines (written : List Text) :
    (unlines written).splitOn '\n' = written.flatMap (List.splitOn '\n') ++ [[]] := by
  induction written with
  | nil => rfl
  | cons line written ih =>
    rw [unlines_cons, List.splitOn_append_cons_self, ih, List.flatMap_cons, List.append_assoc]

/-- A line that holds line ends itself is read as several. -/
theorem lines_unlines (written : List Text) :
    lines (unlines written) = written.flatMap (List.splitOn '\n') := by
  rw [lines, splitOn_unlines, List.getLast?_concat, if_pos rfl, List.dropLast_concat]

theorem flatMap_splitOn {written : List Text} (hwritten : ∀ line ∈ written, '\n' ∉ line) :
    written.flatMap (List.splitOn '\n') = written := by
  induction written with
  | nil => rfl
  | cons line written ih =>
    rw [List.forall_mem_cons] at hwritten
    rw [List.flatMap_cons, List.splitOn_eq_singleton hwritten.1, ih hwritten.2,
      List.singleton_append]

theorem length_splitOn (mark : Char) (text : Text) :
    (text.splitOn mark).length = text.count mark + 1 := by
  induction text with
  | nil => rfl
  | cons c rest ih =>
    rw [List.splitOn_cons_eq_if_modifyHead, List.count_cons]
    split
    · rw [List.length_cons, ih]
    · rw [List.length_modifyHead, ih, Nat.add_zero]

theorem length_lines_unlines (written : List Text) :
    (lines (unlines written)).length = written.length + (written.map (List.count '\n')).sum := by
  rw [lines_unlines]
  induction written with
  | nil => rfl
  | cons line written ih =>
    rw [List.flatMap_cons, List.length_append, ih, length_splitOn, List.length_cons, List.map_cons,
      List.sum_cons]
    omega

/-- Reading gives as many lines as were written only if none of them holds a line end. -/
theorem length_lines_unlines_eq_iff (written : List Text) :
    (lines (unlines written)).length = written.length ↔ ∀ line ∈ written, '\n' ∉ line := by
  constructor
  · intro hlength line hline
    rw [length_lines_unlines, Nat.add_eq_left, List.sum_eq_zero_iff_forall_eq_nat] at hlength
    exact List.count_eq_zero.mp (hlength _ (List.mem_map.mpr ⟨line, hline, rfl⟩))
  · intro hwritten
    rw [lines_unlines, flatMap_splitOn hwritten]

end DevicetreeHeader.Text
