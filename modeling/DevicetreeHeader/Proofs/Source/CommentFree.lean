import DevicetreeHeader.Proofs.Source.CommentPasses

/-!
# Texts without comment marks

A text without `//` and without `/*` has no comments, and stripping leaves it as it is
(`strip_eq_self`). Such texts are put together with care for the seams: a text without a slash may
stand before any of them (`commentFree_append_of_not_mem`), and a character that is neither a slash
nor a star may stand between any two (`commentFree_append_cons`).
-/

set_option autoImplicit false
set_option relaxedAutoImplicit false

namespace DevicetreeHeader.Source.Comment

/-- No comment starts in the text. -/
def CommentFree (text : Text) : Prop :=
  ¬ lineMark <:+: text ∧ ¬ opener <:+: text

instance (text : Text) : Decidable (CommentFree text) :=
  inferInstanceAs (Decidable (_ ∧ _))

theorem strip_eq_self {text : Text} (hfree : CommentFree text) : strip text = text := by
  rw [strip, removeBlocks_eq_self hfree.2, removeLines_eq_self hfree.1]

theorem commentFree_nil : CommentFree [] := by
  decide

theorem commentFree_cons {c : Char} (hc : c ≠ '/') {rest : Text} :
    CommentFree (c :: rest) ↔ CommentFree rest := by
  have hline : ¬ lineMark <+: c :: rest := by
    intro hstarts
    exact hc (List.cons_prefix_cons.mp hstarts).1.symm
  have hblock : ¬ opener <+: c :: rest := by
    intro hstarts
    exact hc (List.cons_prefix_cons.mp hstarts).1.symm
  rw [CommentFree, CommentFree, List.infix_cons_iff, List.infix_cons_iff, or_iff_right hline,
    or_iff_right hblock]

theorem commentFree_append_of_not_mem {text : Text} (hslash : '/' ∉ text) {rest : Text} :
    CommentFree (text ++ rest) ↔ CommentFree rest := by
  induction text with
  | nil => rfl
  | cons c text ih =>
    rw [List.mem_cons, not_or] at hslash
    rw [List.cons_append, commentFree_cons (Ne.symm hslash.1), ih hslash.2]

theorem commentFree_of_not_mem {text : Text} (hslash : '/' ∉ text) : CommentFree text := by
  rw [← List.append_nil text]
  exact (commentFree_append_of_not_mem hslash).mpr commentFree_nil

/-- A character that is no part of a mark keeps the texts on its two sides apart. -/
theorem commentFree_append_cons {c : Char} (hslash : c ≠ '/') (hstar : c ≠ '*') {text rest : Text} :
    CommentFree (text ++ c :: rest) ↔ CommentFree text ∧ CommentFree rest := by
  have hlineMark : c ∉ lineMark := by simp [lineMark, hslash]
  have hopener : c ∉ opener := by simp [opener, hslash, hstar]
  rw [CommentFree, Text.infix_append_cons hlineMark, Text.infix_append_cons hopener, not_or, not_or]
  exact and_and_and_comm

end DevicetreeHeader.Source.Comment
