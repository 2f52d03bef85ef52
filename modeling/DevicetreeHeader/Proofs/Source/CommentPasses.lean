import DevicetreeHeader.Proofs.Text.Marker
import DevicetreeHeader.Proofs.Text.Runs
import DevicetreeHeader.Source.Comment

/-!
# The passes over comments

One equation for each step of the two passes, in terms of the marks that they look for. The scanner
of a block comment, which remembers only whether the last character was a star, finds the first `*/`
after the opener and never one that overlaps it (`afterBlock?_eq_cut?`). `blockInduction` and
`lineInduction` follow the steps of a pass through a text.
-/

set_option autoImplicit false
set_option relaxedAutoImplicit false

namespace DevicetreeHeader.Source.Comment

open Text (cut? cut?_cons cut?_append_self append_of_cut?)

/-- The mark that opens a block comment. -/
def opener : Text :=
  ['/', '*']

/-- The mark that closes a block comment. -/
def closer : Text :=
  ['*', '/']

/-- The mark that starts a line comment. -/
def lineMark : Text :=
  ['/', '/']

theorem cut?_opener (rest : Text) : cut? opener (opener ++ rest) = some ([], rest) :=
  cut?_append_self (List.cons_ne_nil _ _) rest

theorem cut?_lineMark (rest : Text) : cut? lineMark (lineMark ++ rest) = some ([], rest) :=
  cut?_append_self (List.cons_ne_nil _ _) rest

/-! ### The block pass -/

theorem length_after_cut? {marker text : Text} {cut : Text × Text}
    (hcut : cut? marker text = some cut) : cut.1.length + cut.2.length ≤ text.length := by
  rw [append_of_cut? hcut, List.length_append, List.length_append]
  omega

/-- The scanner of a block comment goes on after the first `*/`. The star that it remembers stands
before the text that is left to read. -/
theorem afterBlock?_eq_cut? (text : Text) :
    afterBlock? false text = (cut? closer text).map Prod.snd ∧
      afterBlock? true text = (cut? closer ('*' :: text)).map Prod.snd := by
  induction text with
  | nil => exact ⟨rfl, rfl⟩
  | cons c rest ih =>
    have hfalse : afterBlock? false (c :: rest) = (cut? closer (c :: rest)).map Prod.snd := by
      by_cases hc : c = '*'
      · subst hc
        exact ih.2
      · have hstarts : ¬ closer <+: c :: rest := by
          rintro ⟨tail, htail⟩
          exact hc (List.cons_eq_cons.mp htail).1.symm
        rw [cut?_cons hstarts, Option.map_map]
        exact Eq.trans (by simp [afterBlock?, hc]) ih.1
    refine ⟨hfalse, ?_⟩
    by_cases hc : c = '/'
    · subst hc
      exact (congrArg (Option.map Prod.snd) (cut?_append_self (List.cons_ne_nil _ _) rest)).symm
    · have hstarts : ¬ closer <+: '*' :: c :: rest := by
        rintro ⟨tail, htail⟩
        exact hc (List.cons_eq_cons.mp (List.cons_eq_cons.mp htail).2).1.symm
      rw [cut?_cons hstarts, Option.map_map]
      exact Eq.trans (by simp [afterBlock?, hc]) hfalse

theorem removeBlocks_of_closed {inside body after : Text}
    (hclose : cut? closer inside = some (body, after)) :
    removeBlocks (opener ++ inside) = removeBlocks after := by
  have hscan : afterBlock? false inside = some after := by
    rw [(afterBlock?_eq_cut? inside).1, hclose]
    rfl
  rw [opener, List.cons_append, List.cons_append, List.nil_append, removeBlocks]
  split
  · rename_i hafter
    rw [Option.some.inj (hscan.symm.trans hafter)]
  · rename_i hnone
    simp [hscan] at hnone

theorem removeBlocks_of_not_closed {inside : Text} (hclose : cut? closer inside = none) :
    removeBlocks (opener ++ inside) = opener ++ inside := by
  have hscan : afterBlock? false inside = none := by
    rw [(afterBlock?_eq_cut? inside).1, hclose]
    rfl
  rw [opener, List.cons_append, List.cons_append, List.nil_append, removeBlocks]
  split
  · rename_i hafter
    simp [hscan] at hafter
  · rfl

theorem removeBlocks_cons {c : Char} {rest : Text} (hstarts : ¬ opener <+: c :: rest) :
    removeBlocks (c :: rest) = c :: removeBlocks rest := by
  rw [removeBlocks.eq_def]
  split
  · rename_i after htext
    exact absurd ⟨after, htext.symm⟩ hstarts
  · rename_i d tail _ htext
    obtain ⟨rfl, rfl⟩ := List.cons_eq_cons.mp htext
    rfl
  · rename_i htext
    simp at htext

/-- The steps of the block pass: over a closed comment, at an opener that is never closed, and over
any other character. -/
theorem blockInduction {motive : Text → Prop} (nil : motive [])
    (closed : ∀ inside body after, cut? closer inside = some (body, after) → motive after →
      motive (opener ++ inside))
    (unclosed : ∀ inside, cut? closer inside = none → motive (opener ++ inside))
    (cons : ∀ c rest, ¬ opener <+: c :: rest → motive rest → motive (c :: rest)) (text : Text) :
    motive text := by
  induction hlength : text.length using Nat.strongRecOn generalizing text with
  | _ length ih =>
    cases text with
    | nil => exact nil
    | cons c rest =>
      by_cases hstarts : opener <+: c :: rest
      · obtain ⟨inside, hinside⟩ := hstarts
        rw [← hinside]
        cases hclose : cut? closer inside with
        | none => exact unclosed inside hclose
        | some cut =>
          refine closed inside cut.1 cut.2 hclose (ih cut.2.length ?_ cut.2 rfl)
          have hshort := length_after_cut? hclose
          have hopened := congrArg List.length hinside
          rw [List.length_append] at hopened
          simp only [opener, List.length_cons, List.length_nil] at hopened hlength
          omega
      · exact cons c rest hstarts (ih rest.length (by simp [← hlength]) rest rfl)

theorem removeBlocks_sublist (text : Text) : (removeBlocks text).Sublist text := by
  induction text using blockInduction with
  | nil => simp [removeBlocks]
  | closed inside body after hclose ih =>
    rw [removeBlocks_of_closed hclose, append_of_cut? hclose, ← List.append_assoc,
      ← List.append_assoc]
    exact ih.trans (List.sublist_append_right _ after)
  | unclosed inside hclose => exact (removeBlocks_of_not_closed hclose).symm ▸ List.Sublist.refl _
  | cons c rest hstarts ih =>
    rw [removeBlocks_cons hstarts]
    exact ih.cons_cons c

theorem removeBlocks_eq_self {text : Text} (hmark : ¬ opener <:+: text) :
    removeBlocks text = text := by
  induction text with
  | nil => simp [removeBlocks]
  | cons c rest ih =>
    rw [List.infix_cons_iff, not_or] at hmark
    rw [removeBlocks_cons hmark.1, ih hmark.2]

/-! ### The line pass -/

theorem removeLines_cons {c : Char} {rest : Text} (hstarts : ¬ lineMark <+: c :: rest) :
    removeLines (c :: rest) = c :: removeLines rest := by
  rw [removeLines.eq_def]
  split
  · rename_i after htext
    exact absurd ⟨after, htext.symm⟩ hstarts
  · rename_i d tail _ htext
    obtain ⟨rfl, rfl⟩ := List.cons_eq_cons.mp htext
    rfl
  · rename_i htext
    simp at htext

theorem removeLines_comment (rest : Text) :
    removeLines (lineMark ++ rest) = removeLines (rest.dropWhile (· ≠ '\n')) := by
  rw [lineMark, List.cons_append, List.cons_append, List.nil_append, removeLines]

/-- The steps of the line pass: over a line comment up to the end of its line, and over any other
character. -/
theorem lineInduction {motive : Text → Prop} (nil : motive [])
    (comment : ∀ rest, motive (rest.dropWhile (· ≠ '\n')) → motive (lineMark ++ rest))
    (cons : ∀ c rest, ¬ lineMark <+: c :: rest → motive rest → motive (c :: rest)) (text : Text) :
    motive text := by
  induction hlength : text.length using Nat.strongRecOn generalizing text with
  | _ length ih =>
    cases text with
    | nil => exact nil
    | cons c rest =>
      by_cases hstarts : lineMark <+: c :: rest
      · obtain ⟨after, hafter⟩ := hstarts
        rw [← hafter]
        refine comment after (ih _ ?_ _ rfl)
        have hshort := (List.dropWhile_sublist (fun c : Char ↦ decide (c ≠ '\n'))
          (l := after)).length_le
        have hopened := congrArg List.length hafter
        rw [List.length_append] at hopened
        simp only [lineMark, List.length_cons, List.length_nil] at hopened hlength
        omega
      · exact cons c rest hstarts (ih rest.length (by simp [← hlength]) rest rfl)

theorem removeLines_sublist (text : Text) : (removeLines text).Sublist text := by
  induction text using lineInduction with
  | nil => simp [removeLines]
  | comment rest ih =>
    rw [removeLines_comment]
    exact ih.trans ((List.dropWhile_sublist _).trans (List.sublist_append_right lineMark rest))
  | cons c rest hstarts ih =>
    rw [removeLines_cons hstarts]
    exact ih.cons_cons c

/-- A comment goes up to the end of its line, so that any other character that the pass leaves first
stood first. -/
theorem eq_cons_of_removeLines_eq_cons {c : Char} {text out : Text} (hc : c ≠ '\n')
    (hout : removeLines text = c :: out) : ∃ rest, text = c :: rest ∧ removeLines rest = out := by
  induction text using lineInduction with
  | nil => simp [removeLines] at hout
  | comment rest ih =>
    rw [removeLines_comment] at hout
    obtain ⟨later, hlater, -⟩ := ih hout
    have hend : ∀ d ∈ (rest.dropWhile (· ≠ '\n')).head?, decide (d ≠ '\n') = false :=
      Text.head?_dropWhile rest
    rw [hlater] at hend
    exact absurd hc (of_decide_eq_false (hend c rfl))
  | cons d rest hstarts _ =>
    rw [removeLines_cons hstarts] at hout
    obtain ⟨rfl, hrest⟩ := List.cons_eq_cons.mp hout
    exact ⟨rest, rfl, hrest⟩

theorem not_lineMark_infix_removeLines (text : Text) : ¬ lineMark <:+: removeLines text := by
  induction text using lineInduction with
  | nil => simp [removeLines, lineMark]
  | comment rest ih => rwa [removeLines_comment]
  | cons c rest hstarts ih =>
    rw [removeLines_cons hstarts, List.infix_cons_iff]
    rintro (⟨out, hout⟩ | hrest)
    · obtain ⟨rfl, hslash⟩ := List.cons_eq_cons.mp hout
      obtain ⟨later, rfl, -⟩ := eq_cons_of_removeLines_eq_cons (by decide) hslash.symm
      exact hstarts ⟨later, rfl⟩
    · exact ih hrest

theorem removeLines_eq_self {text : Text} (hmark : ¬ lineMark <:+: text) :
    removeLines text = text := by
  induction text with
  | nil => simp [removeLines]
  | cons c rest ih =>
    rw [List.infix_cons_iff, not_or] at hmark
    rw [removeLines_cons hmark.1, ih hmark.2]

/-- What stands in the text that the pass leaves stood in the text, up to its comments. -/
theorem exists_append_of_removeLines_eq_append {text before out : Text}
    (hout : removeLines text = before ++ out) :
    ∃ before' rest, text = before' ++ rest ∧ removeLines rest = out := by
  induction text using lineInduction generalizing before with
  | nil =>
    obtain ⟨-, rfl⟩ := List.append_eq_nil_iff.mp (hout.symm.trans (by simp [removeLines]))
    exact ⟨[], [], rfl, by simp [removeLines]⟩
  | comment rest ih =>
    rw [removeLines_comment] at hout
    obtain ⟨before', later, hlater, hremoved⟩ := ih hout
    refine ⟨lineMark ++ (rest.takeWhile (· ≠ '\n') ++ before'), later, ?_, hremoved⟩
    rw [List.append_assoc, List.append_assoc, ← hlater, List.takeWhile_append_dropWhile]
  | cons c rest hstarts ih =>
    cases before with
    | nil => exact ⟨[], c :: rest, rfl, hout⟩
    | cons d before =>
      rw [removeLines_cons hstarts, List.cons_append] at hout
      obtain ⟨rfl, hrest⟩ := List.cons_eq_cons.mp hout
      obtain ⟨before', later, rfl, hremoved⟩ := ih hrest
      exact ⟨c :: before', later, rfl, hremoved⟩

/-- A mark in what the pass leaves, and all after it, stood in the text. -/
theorem exists_mark_of_removeLines_eq {c d : Char} (hc : c ≠ '\n') (hd : d ≠ '\n')
    {text before out : Text} (hout : removeLines text = before ++ ([c, d] ++ out)) :
    ∃ before' rest, text = before' ++ ([c, d] ++ rest) ∧ removeLines rest = out := by
  obtain ⟨before', marked, rfl, hmarked⟩ := exists_append_of_removeLines_eq_append hout
  obtain ⟨second, rfl, hsecond⟩ := eq_cons_of_removeLines_eq_cons hc hmarked
  obtain ⟨rest, rfl, hrest⟩ := eq_cons_of_removeLines_eq_cons hd hsecond
  exact ⟨before', rest, rfl, hrest⟩

end DevicetreeHeader.Source.Comment
