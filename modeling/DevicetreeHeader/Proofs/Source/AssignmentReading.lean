import DevicetreeHeader.Proofs.Text.Runs
import DevicetreeHeader.Source.Assignment

/-!
# Reading assignments

One equation for each step of `assignments`: over a blank and over a run that yields an assignment.
A run with white space and an equals sign after it is a whole key, whatever equals signs and
semicolons it holds itself, and its value goes up to the next semicolon (`assignments_append`).
-/

set_option autoImplicit false
set_option relaxedAutoImplicit false

namespace DevicetreeHeader.Source

open Text

namespace Assignment

theorem value?_append {value : Text} (hne : value ≠ []) (hvalue : ';' ∉ value) (rest : Text) :
    value? (value ++ ';' :: rest) = some (value, rest) := by
  obtain ⟨c, tail, rfl⟩ := List.exists_cons_of_ne_nil hne
  have hrun : ∀ d ∈ c :: tail, decide (d ≠ ';') = true := by
    intro d hd
    rw [decide_eq_true_eq]
    rintro rfl
    exact hvalue hd
  have hend : ∀ d ∈ (';' :: rest).head?, decide (d ≠ ';') = false :=
    head?_cons_of_eq_false (by decide)
  rw [value?, takeWhile_append_of_head? hrun hend, dropWhile_append_of_head? hrun hend]

theorem value?_eq_some_iff {text value rest : Text} :
    value? text = some (value, rest) ↔ value ≠ [] ∧ ';' ∉ value ∧ text = value ++ ';' :: rest := by
  constructor
  · intro hvalue
    unfold value? at hvalue
    split at hvalue
    · rename_i c tail d after htake hdrop
      obtain ⟨rfl, rfl⟩ := Prod.mk.inj (Option.some.inj hvalue)
      have hend : ∀ d ∈ (text.dropWhile (· ≠ ';')).head?, decide (d ≠ ';') = false :=
        head?_dropWhile text
      have hrun : ∀ d ∈ text.takeWhile (· ≠ ';'), decide (d ≠ ';') = true :=
        fun _ ↦ mem_takeWhile
      have htext := List.takeWhile_append_dropWhile (p := (· ≠ ';')) (l := text)
      rw [hdrop] at hend
      rw [htake] at hrun
      obtain rfl : d = ';' := by simpa using hend d rfl
      have hnot : ';' ∉ c :: tail := fun hmem ↦ absurd (hrun ';' hmem) (by decide)
      exact ⟨List.cons_ne_nil c tail, hnot, by rw [← htake, ← hdrop, htext]⟩
    · simp at hvalue
  · rintro ⟨hne, hvalue, rfl⟩
    exact value?_append hne hvalue rest

/-- A run that white space and an equals sign follow is the key of an assignment. -/
theorem ofRun?_append {key gap value : Text} (hkey : ∀ c ∈ key, isBlank c = false)
    (hgap : Blank gap) (hgap' : gap ≠ []) (hne : value ≠ []) (hvalue : ';' ∉ value) (rest : Text) :
    ofRun? (key ++ (gap ++ '=' :: (value ++ ';' :: rest))) = some (⟨key, trimmed value⟩, rest) := by
  have hrun : ∀ c ∈ key, isInk c = true := fun c hc ↦ isInk_eq_true_iff.mpr (hkey c hc)
  have hleft : ∀ c ∈ (gap ++ '=' :: (value ++ ';' :: rest)).head?, isInk c = false := by
    obtain ⟨c, tail, rfl⟩ := List.exists_cons_of_ne_nil hgap'
    exact head?_cons_of_eq_false (isInk_eq_false_iff.mpr (hgap c List.mem_cons_self))
  have hequals : ∀ c ∈ ('=' :: (value ++ ';' :: rest)).head?, isBlank c = false :=
    head?_cons_of_eq_false (by decide)
  have hfound : afterRun? (key ++ (gap ++ '=' :: (value ++ ';' :: rest))) =
      some (⟨key, trimmed value⟩, rest) := by
    rw [afterRun?, dropWhile_append_of_head? hrun hleft, dropWhile_append_of_head? hgap hequals]
    simp only [value?_append hne hvalue, takeWhile_append_of_head? hrun hleft, Option.map_some]
  rw [ofRun?, hfound]
  rfl

end Assignment

theorem assignments_cons_of_isBlank {c : Char} (hc : isBlank c = true) (rest : Text) :
    assignments (c :: rest) = assignments rest := by
  rw [assignments, if_pos hc]

theorem assignments_append_of_blank {gap : Text} (hgap : Blank gap) (rest : Text) :
    assignments (gap ++ rest) = assignments rest := by
  induction gap with
  | nil => rfl
  | cons c gap ih =>
    rw [List.cons_append, assignments_cons_of_isBlank (hgap c List.mem_cons_self),
      ih fun d hd ↦ hgap d (List.mem_cons_of_mem c hd)]

theorem assignments_of_blank {gap : Text} (hgap : Blank gap) : assignments gap = [] := by
  rw [← List.append_nil gap, assignments_append_of_blank hgap, assignments]

theorem assignments_of_ofRun? {c : Char} (hc : isBlank c = false) {rest after : Text}
    {assignment : Assignment} (hrun : Assignment.ofRun? (c :: rest) = some (assignment, after)) :
    assignments (c :: rest) = assignment :: assignments after := by
  rw [assignments, if_neg (by simp [hc])]
  split
  · rename_i hfound
    obtain ⟨rfl, rfl⟩ := Prod.mk.inj (Option.some.inj (hrun.symm.trans hfound))
    rfl
  · rename_i hfound
    simp [hrun] at hfound

/-- An assignment is read with its whole run as the key and its whole value, and reading goes on
after its semicolon. -/
theorem assignments_append {key gap value : Text} (hne : key ≠ [])
    (hkey : ∀ c ∈ key, isBlank c = false) (hgap : Blank gap) (hgap' : gap ≠ []) (hne' : value ≠ [])
    (hvalue : ';' ∉ value) (rest : Text) :
    assignments (key ++ (gap ++ '=' :: (value ++ ';' :: rest))) =
      ⟨key, trimmed value⟩ :: assignments rest := by
  have hrun := Assignment.ofRun?_append hkey hgap hgap' hne' hvalue rest
  obtain ⟨c, tail, rfl⟩ := List.exists_cons_of_ne_nil hne
  exact assignments_of_ofRun? (hkey c List.mem_cons_self) hrun

end DevicetreeHeader.Source
