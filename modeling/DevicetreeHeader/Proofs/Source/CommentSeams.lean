import DevicetreeHeader.Proofs.Source.CommentParts
import DevicetreeHeader.Proofs.Text.Runs
import Mathlib.Data.List.Infix

/-!
# Comments across seams

Two texts are put together. If the block pass closes every comment that it opens in the first one
(`Closed`), it comes to the seam between comments, and what it does behind the seam does not depend
on what stands before it. Only a `/` kept at the end of the first text could open a comment together
with a star behind the seam; two texts for which this is not so are `Apart`. The parts of texts that
are apart are put together like the texts (`parts_append`), and so is what the block pass leaves
(`removeBlocks_append`).

The line pass starts anew at every line end (`removeLines_append_newline`), and a line comment takes
nothing with it of what stands before it (`removeLines_append_comment`).
-/

set_option autoImplicit false
set_option relaxedAutoImplicit false

namespace DevicetreeHeader.Source.Comment

open Text (cut? cut?_eq_none_iff cut?_eq_some_iff)

/-! ### The block pass -/

/-- The block pass closes every comment that it opens in the text: it gets through the text over
closed comments and over characters that open none. -/
inductive Closed : Text → Prop
  | nil : Closed []
  | comment {inside body after : Text} (hclose : cut? closer inside = some (body, after))
      (hafter : Closed after) : Closed (opener ++ inside)
  | cons {c : Char} {rest : Text} (hstarts : ¬ opener <+: c :: rest) (hrest : Closed rest) :
      Closed (c :: rest)

/-- No comment opens across the seam: the first text does not end in a slash that the block pass
keeps, or the second does not begin with a star. -/
def Apart (before after : Text) : Prop :=
  ¬ ((parts before).getLast? = some (.kept '/') ∧ after.head? = some '*')

deriving instance DecidableEq for Part

instance (before after : Text) : Decidable (Apart before after) :=
  inferInstanceAs (Decidable (¬ _))

theorem eq_cons_of_parts_eq_cons {c : Char} {text : Text} {after : List Part}
    (hparts : parts text = .kept c :: after) : ∃ rest, text = c :: rest :=
  ⟨after.flatMap Part.text, by rw [← flatMap_text_parts text, hparts]; rfl⟩

/-- An opener that is never closed stays in the text, and nowhere else does the block pass keep a
slash and a star side by side. -/
theorem closed_iff (text : Text) : Closed text ↔ ¬ [Part.kept '/', .kept '*'] <:+: parts text := by
  constructor
  · intro hclosed
    induction hclosed with
    | nil => simp [parts]
    | comment hclose _ ih =>
      rw [parts_of_closed hclose, List.infix_cons_iff, not_or]
      exact ⟨by simp, ih⟩
    | @cons c rest hstarts _ ih =>
      rw [parts_cons hstarts, List.infix_cons_iff, not_or]
      refine ⟨?_, ih⟩
      rintro ⟨after, hafter⟩
      obtain ⟨hslash, hstar⟩ := List.cons_eq_cons.mp hafter
      obtain rfl := Part.kept.inj hslash
      obtain ⟨inside, rfl⟩ := eq_cons_of_parts_eq_cons hstar.symm
      exact hstarts ⟨inside, rfl⟩
  · intro hmarks
    induction text using blockInduction with
    | nil => exact .nil
    | closed inside body after hclose ih =>
      rw [parts_of_closed hclose, List.infix_cons_iff, not_or] at hmarks
      exact .comment hclose (ih hmarks.2)
    | unclosed inside hclose =>
      rw [parts_of_not_closed hclose] at hmarks
      exact absurd ⟨[], inside.map .kept, rfl⟩ hmarks
    | cons c rest hstarts ih =>
      rw [parts_cons hstarts, List.infix_cons_iff, not_or] at hmarks
      exact .cons hstarts (ih hmarks.2)

instance (text : Text) : Decidable (Closed text) :=
  decidable_of_iff' _ (closed_iff text)

theorem closed_of_no_opener {text : Text} (hopener : ¬ opener <:+: text) : Closed text := by
  induction text with
  | nil => exact .nil
  | cons c rest ih =>
    rw [List.infix_cons_iff, not_or] at hopener
    exact .cons hopener.1 (ih hopener.2)

theorem Apart.of_head? {before after : Text} (hafter : after.head? ≠ some '*') :
    Apart before after :=
  fun hmeet ↦ hafter hmeet.2

theorem Apart.of_parts_eq_cons {before shorter after : Text} {part : Part}
    (hparts : parts before = part :: parts shorter) (hapart : Apart before after) :
    Apart shorter after := by
  intro hmeet
  refine hapart ⟨?_, hmeet.2⟩
  rw [hparts, List.getLast?_cons, hmeet.1, Option.getD_some]

/-- Where no comment opens in a text, none opens when something that stands apart is put behind
it. -/
theorem Apart.not_opener_prefix {c : Char} {rest after : Text} (hapart : Apart (c :: rest) after)
    (hstarts : ¬ opener <+: c :: rest) : ¬ opener <+: c :: (rest ++ after) := by
  rintro ⟨inside, hinside⟩
  obtain ⟨rfl, hstar⟩ := List.cons_eq_cons.mp hinside
  cases rest with
  | nil =>
    refine hapart ⟨by rw [parts_cons hstarts, parts]; rfl, ?_⟩
    rw [← List.nil_append after, ← hstar]
    rfl
  | cons d rest =>
    obtain ⟨rfl, -⟩ := List.cons_eq_cons.mp hstar
    exact hstarts ⟨rest, rfl⟩

/-- The parts of a closed text and of what stands apart from it are the parts of both together. -/
theorem parts_append {before : Text} (hbefore : Closed before) {after : Text}
    (hapart : Apart before after) : parts (before ++ after) = parts before ++ parts after := by
  induction hbefore with
  | nil => simp [parts]
  | comment hclose _ ih =>
    have hparts := parts_of_closed hclose
    rw [List.append_assoc, parts_of_closed (Text.cut?_append_of_eq_some hclose after),
      ih (hapart.of_parts_eq_cons hparts), hparts, List.cons_append]
  | cons hstarts _ ih =>
    have hparts := parts_cons hstarts
    rw [List.cons_append, parts_cons (hapart.not_opener_prefix hstarts),
      ih (hapart.of_parts_eq_cons hparts), hparts, List.cons_append]

theorem Closed.append {before after : Text} (hbefore : Closed before) (hafter : Closed after)
    (hapart : Apart before after) : Closed (before ++ after) := by
  induction hbefore with
  | nil => exact hafter
  | comment hclose _ ih =>
    rw [List.append_assoc]
    exact .comment (Text.cut?_append_of_eq_some hclose after)
      (ih (hapart.of_parts_eq_cons (parts_of_closed hclose)))
  | cons hstarts _ ih =>
    exact .cons (hapart.not_opener_prefix hstarts)
      (ih (hapart.of_parts_eq_cons (parts_cons hstarts)))

theorem removeBlocks_append {before : Text} (hbefore : Closed before) {after : Text}
    (hapart : Apart before after) :
    removeBlocks (before ++ after) = removeBlocks before ++ removeBlocks after := by
  rw [removeBlocks_eq_filterMap, parts_append hbefore hapart, List.filterMap_append,
    ← removeBlocks_eq_filterMap, ← removeBlocks_eq_filterMap]

theorem removeBlocks_append_left {before : Text} (hslash : '/' ∉ before) (after : Text) :
    removeBlocks (before ++ after) = before ++ removeBlocks after := by
  induction before with
  | nil => rfl
  | cons c before ih =>
    rw [List.mem_cons, not_or] at hslash
    have hstarts : ¬ opener <+: c :: (before ++ after) :=
      fun hopener ↦ hslash.1 (List.cons_prefix_cons.mp hopener).1
    rw [List.cons_append, removeBlocks_cons hstarts, ih hslash.2, List.cons_append]

/-- Nothing is removed behind a character that is in no mark if there are no slashes there, since a
comment that is not closed before it is not closed at all. -/
theorem removeBlocks_append_right {c : Char} (hopener : c ∉ opener) (hcloser : c ∉ closer)
    {after : Text} (hslash : '/' ∉ c :: after) (before : Text) :
    removeBlocks (before ++ c :: after) = removeBlocks before ++ c :: after := by
  induction before using blockInduction with
  | nil =>
    rw [List.nil_append, ← List.append_nil (c :: after), removeBlocks_append_left hslash]
    simp [removeBlocks]
  | closed inside body rest hclose ih =>
    rw [List.append_assoc, removeBlocks_of_closed (Text.cut?_append_of_eq_some hclose _), ih,
      removeBlocks_of_closed hclose]
  | unclosed inside hclose =>
    have hopen : cut? closer (inside ++ c :: after) = none := by
      have hmark : closer ≠ [] := List.cons_ne_nil _ _
      rw [cut?_eq_none_iff hmark, Text.infix_append_cons hcloser, not_or]
      refine ⟨(cut?_eq_none_iff hmark).mp hclose, fun hlater ↦ ?_⟩
      exact hslash (List.mem_cons_of_mem c (hlater.subset (by simp [closer])))
    rw [List.append_assoc, removeBlocks_of_not_closed hopen, removeBlocks_of_not_closed hclose,
      List.append_assoc]
  | cons d rest hstarts ih =>
    have hlong : ¬ opener <+: d :: (rest ++ c :: after) := by
      rwa [← List.cons_append, Text.startsWith_append_cons hopener]
    rw [List.cons_append, removeBlocks_cons hlong, ih, removeBlocks_cons hstarts, List.cons_append]

/-- A comment ends in a slash, so that any other character at the end of a text is kept there. -/
theorem getLast?_removeBlocks {text : Text} (htext : text.getLast? ≠ some '/') :
    (removeBlocks text).getLast? ≠ some '/' := by
  rw [removeBlocks_eq_filterMap]
  rw [← flatMap_text_parts text] at htext
  rcases List.eq_nil_or_concat (parts text) with hparts | ⟨front, part, hparts⟩
  · simp [hparts]
  · cases part with
    | kept c => simpa [hparts, Part.text, Part.kept?] using htext
    | deleted body => simp [hparts, Part.text, closer] at htext

/-! ### The line pass -/

/-- What is left of a line after the characters before its end have been dropped. -/
theorem dropWhile_append_newline (line rest : Text) :
    (line ++ '\n' :: rest).dropWhile (· ≠ '\n') = line.dropWhile (· ≠ '\n') ++ '\n' :: rest := by
  rw [List.dropWhile_append]
  split
  · rename_i hempty
    rw [List.isEmpty_iff.mp hempty]
    exact Text.dropWhile_of_head? (Text.head?_cons_of_eq_false (by decide))
  · rfl

/-- The line pass starts anew at every line end. -/
theorem removeLines_append_newline (before after : Text) :
    removeLines (before ++ '\n' :: after) = removeLines before ++ '\n' :: removeLines after := by
  have hend : ¬ lineMark <+: '\n' :: after := by simp [lineMark]
  induction before using lineInduction with
  | nil => simp [removeLines, removeLines_cons hend]
  | comment rest ih =>
    rw [List.append_assoc, removeLines_comment, removeLines_comment, dropWhile_append_newline, ih]
  | cons c rest hstarts ih =>
    have hlong : ¬ lineMark <+: c :: rest ++ '\n' :: after := by
      rwa [Text.startsWith_append_cons (by decide)]
    rw [List.cons_append] at hlong ⊢
    rw [removeLines_cons hlong, ih, removeLines_cons hstarts, List.cons_append]

/-- With a slash before it the first line comment would start earlier. -/
theorem getLast?_of_cut?_lineMark {text before comment : Text}
    (hcut : cut? lineMark text = some (before, comment)) : before.getLast? ≠ some '/' := by
  intro hlast
  have hmark : lineMark ≠ [] := List.cons_ne_nil _ _
  obtain ⟨htext, hfirst⟩ := (cut?_eq_some_iff hmark).mp hcut
  obtain ⟨shorter, rfl⟩ := List.getLast?_eq_some_iff.mp hlast
  have hleast := hfirst shorter ('/' :: comment) (by simp [htext, lineMark])
  rw [List.length_append, List.length_singleton] at hleast
  omega

/-- A line comment at the end of a text takes nothing with it of what stands before it, unless that
ends in a slash, with which the comment would start earlier. -/
theorem removeLines_append_comment {before comment : Text} (hbefore : before.getLast? ≠ some '/')
    (hcomment : '\n' ∉ comment) :
    removeLines (before ++ (lineMark ++ comment)) = removeLines before := by
  have hdrop : ∀ line : Text, '\n' ∉ line → line.dropWhile (· ≠ '\n') = [] := by
    intro line hline
    rw [← List.append_nil line]
    refine Text.dropWhile_append_of_head? (fun c hc ↦ ?_) (by simp)
    rw [decide_eq_true_eq]
    rintro rfl
    exact hline hc
  induction before using lineInduction with
  | nil => rw [List.nil_append, removeLines_comment, hdrop comment hcomment]
  | comment rest ih =>
    rw [List.append_assoc, removeLines_comment, removeLines_comment, List.dropWhile_append]
    split
    · rename_i hempty
      rw [hdrop (lineMark ++ comment) (by simp [lineMark, hcomment]), List.isEmpty_iff.mp hempty]
    · refine ih fun hslash ↦ hbefore ?_
      rw [← List.takeWhile_append_dropWhile (p := (· ≠ '\n')) (l := rest), ← List.append_assoc,
        List.getLast?_append, hslash, Option.some_or]
  | cons c rest hstarts ih =>
    have hlong : ¬ lineMark <+: c :: (rest ++ (lineMark ++ comment)) := by
      rintro ⟨tail, htail⟩
      obtain ⟨rfl, hslash⟩ := List.cons_eq_cons.mp htail
      cases rest with
      | nil => exact hbefore rfl
      | cons d rest =>
        obtain ⟨rfl, -⟩ := List.cons_eq_cons.mp hslash
        exact hstarts ⟨rest, rfl⟩
    rw [List.cons_append, removeLines_cons hlong, removeLines_cons hstarts]
    congr 1
    refine ih fun hslash ↦ hbefore ?_
    rw [List.getLast?_cons, hslash, Option.getD_some]

end DevicetreeHeader.Source.Comment
