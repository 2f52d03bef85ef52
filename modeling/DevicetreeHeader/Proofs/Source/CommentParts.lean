import DevicetreeHeader.Proofs.Source.CommentPasses

/-!
# Comments met by the block pass

The block pass takes a text apart into comments and single characters (`parts`). The parts together
are the text (`flatMap_text_parts`) and the characters are what the pass leaves
(`removeBlocks_eq_filterMap`).

Nothing is put in the place of a comment, so that the characters on both sides of it meet. A text
that the pass left holds a closed block comment exactly if a `/` and a `*` met over comments, with a
`*/` somewhere after them (`hasBlock_removeBlocks_iff`). The pass changes nothing exactly if there
is no such comment to begin with (`removeBlocks_eq_self_iff`).
-/

set_option autoImplicit false
set_option relaxedAutoImplicit false

namespace DevicetreeHeader.Source.Comment

open Text (cut? cut?_append_self cut?_eq_none_iff append_of_cut?)

/-! ### The parts of a text -/

/-- What the block pass meets: a character that it keeps, or a comment with what stands in it. -/
inductive Part where
  | kept (c : Char)
  | deleted (body : Text)

namespace Part

/-- The text of a part. -/
def text : Part → Text
  | kept c => [c]
  | deleted body => opener ++ (body ++ closer)

/-- What is left of a part. -/
def kept? : Part → Option Char
  | kept c => some c
  | deleted _ => none

end Part

/-- The parts of a text. From a `/*` that is never closed on, every character is kept. -/
def parts : Text → List Part
  | '/' :: '*' :: inside =>
    match _h : cut? closer inside with
    | some (body, after) => .deleted body :: parts after
    | none => ('/' :: '*' :: inside).map .kept
  | c :: rest => .kept c :: parts rest
  | [] => []
termination_by text => text.length
decreasing_by
  · have := length_after_cut? _h
    simp only [List.length_cons]
    simp only at this
    omega
  · simp

theorem parts_of_closed {inside body after : Text}
    (hclose : cut? closer inside = some (body, after)) :
    parts (opener ++ inside) = .deleted body :: parts after := by
  rw [opener, List.cons_append, List.cons_append, List.nil_append, parts]
  split
  · rename_i hcut
    obtain ⟨rfl, rfl⟩ := Prod.mk.inj (Option.some.inj (hclose.symm.trans hcut))
    rfl
  · rename_i hcut
    simp [hclose] at hcut

theorem parts_of_not_closed {inside : Text} (hclose : cut? closer inside = none) :
    parts (opener ++ inside) = (opener ++ inside).map .kept := by
  rw [opener, List.cons_append, List.cons_append, List.nil_append, parts]
  split
  · rename_i hcut
    simp [hclose] at hcut
  · rfl

theorem parts_cons {c : Char} {rest : Text} (hstarts : ¬ opener <+: c :: rest) :
    parts (c :: rest) = .kept c :: parts rest := by
  rw [parts.eq_def]
  split
  · rename_i inside htext
    exact absurd ⟨inside, htext.symm⟩ hstarts
  · rename_i d tail _ htext
    obtain ⟨rfl, rfl⟩ := List.cons_eq_cons.mp htext
    rfl
  · rename_i htext
    simp at htext

/-- No character is lost between the parts. -/
theorem flatMap_text_parts (text : Text) : (parts text).flatMap Part.text = text := by
  induction text using blockInduction with
  | nil => simp [parts]
  | closed inside body after hclose ih =>
    rw [parts_of_closed hclose, List.flatMap_cons, ih, append_of_cut? hclose, Part.text]
    simp
  | unclosed inside hclose =>
    rw [parts_of_not_closed hclose, List.flatMap_map]
    exact List.flatMap_singleton' _
  | cons c rest hstarts ih =>
    rw [parts_cons hstarts, List.flatMap_cons, ih]
    rfl

/-- The block pass leaves the characters among the parts. -/
theorem removeBlocks_eq_filterMap (text : Text) :
    removeBlocks text = (parts text).filterMap Part.kept? := by
  induction text using blockInduction with
  | nil => simp [parts, removeBlocks]
  | closed inside body after hclose ih =>
    rw [removeBlocks_of_closed hclose, parts_of_closed hclose, ih]
    rfl
  | unclosed inside hclose =>
    rw [removeBlocks_of_not_closed hclose, parts_of_not_closed hclose, List.filterMap_map]
    exact List.filterMap_some.symm
  | cons c rest hstarts ih =>
    rw [removeBlocks_cons hstarts, parts_cons hstarts, ih]
    rfl

/-! ### Closed comments -/

/-- The text holds a block comment that is closed: a `/*` and a `*/` somewhere after it. -/
def HasBlock (text : Text) : Prop :=
  ∃ before body after, text = before ++ (opener ++ (body ++ (closer ++ after)))

theorem not_hasBlock_nil : ¬ HasBlock [] := by
  rintro ⟨before, body, after, htext⟩
  simp [opener] at htext

theorem hasBlock_of_closed {inside body after : Text}
    (hclose : cut? closer inside = some (body, after)) : HasBlock (opener ++ inside) :=
  ⟨[], body, after, by rw [append_of_cut? hclose, List.nil_append]⟩

/-- A `*/` after some `/*` stands after the first two characters. -/
theorem not_hasBlock_of_not_closed {inside : Text} (hclose : cut? closer inside = none) :
    ¬ HasBlock (opener ++ inside) := by
  rintro ⟨before, body, after, htext⟩
  refine (cut?_eq_none_iff (List.cons_ne_nil _ _)).mp hclose ?_
  refine ⟨(before ++ opener).drop 2 ++ body, after, ?_⟩
  have hdrop := congrArg (List.drop 2) htext
  have hlong : 2 ≤ (before ++ opener).length := by simp [opener]
  rw [← List.append_assoc before, List.drop_append_of_le_length hlong] at hdrop
  simp only [List.append_assoc] at hdrop ⊢
  exact hdrop.symm

theorem hasBlock_cons_iff {c : Char} {rest : Text} :
    HasBlock (c :: rest) ↔
      (∃ inside, c :: rest = opener ++ inside ∧ closer <:+: inside) ∨ HasBlock rest := by
  constructor
  · rintro ⟨before, body, after, htext⟩
    cases before with
    | nil => exact Or.inl ⟨_, htext, body, after, List.append_assoc _ _ _⟩
    | cons d before => exact Or.inr ⟨before, body, after, (List.cons_eq_cons.mp htext).2⟩
  · rintro (⟨inside, htext, body, after, rfl⟩ | ⟨before, body, after, rfl⟩)
    · exact ⟨[], body, after, by rw [htext, List.append_assoc, List.nil_append]⟩
    · exact ⟨c :: before, body, after, rfl⟩

/-- The block pass leaves a text as it is exactly if no block comment in it is closed. -/
theorem removeBlocks_eq_self_iff (text : Text) : removeBlocks text = text ↔ ¬ HasBlock text := by
  induction text using blockInduction with
  | nil => simp [removeBlocks, not_hasBlock_nil]
  | closed inside body after hclose _ =>
    refine iff_of_false (fun hself ↦ ?_) (not_not_intro (hasBlock_of_closed hclose))
    have hshort := (removeBlocks_sublist after).length_le
    have hinside := length_after_cut? hclose
    rw [removeBlocks_of_closed hclose] at hself
    rw [hself, List.length_append] at hshort
    simp only [opener, List.length_cons, List.length_nil] at hshort hinside
    omega
  | unclosed inside hclose =>
    exact iff_of_true (removeBlocks_of_not_closed hclose) (not_hasBlock_of_not_closed hclose)
  | cons c rest hstarts ih =>
    have hhere : ¬ ∃ inside, c :: rest = opener ++ inside ∧ closer <:+: inside := by
      rintro ⟨inside, htext, -⟩
      exact hstarts ⟨inside, htext.symm⟩
    have hrest : HasBlock (c :: rest) ↔ HasBlock rest :=
      hasBlock_cons_iff.trans (or_iff_right hhere)
    rw [removeBlocks_cons hstarts, List.cons_inj_right, ih, hrest]

/-! ### What meets over a comment -/

/-- Comments, one or more and nothing between them, stand right between a kept `/` and a kept `*`.
The parts after the star are `after`. -/
def MeetsBefore (text : Text) (after : List Part) : Prop :=
  ∃ before comments, parts text = before ++ .kept '/' :: (comments ++ .kept '*' :: after) ∧
    comments ≠ [] ∧ ∀ part ∈ comments, part.kept? = none

theorem MeetsBefore.cons {text shorter : Text} {after : List Part} {part : Part}
    (hparts : parts text = part :: parts shorter) (hmeets : MeetsBefore shorter after) :
    MeetsBefore text after := by
  obtain ⟨before, comments, hshorter, hne, hdeleted⟩ := hmeets
  exact ⟨part :: before, comments, by rw [hparts, hshorter, List.cons_append], hne, hdeleted⟩

/-- A star that the pass leaves first, of a text that does not start with it, stands after
comments. -/
theorem parts_of_removeBlocks_eq_cons {c : Char} {text out : Text}
    (hout : removeBlocks text = c :: out) (hhead : ∀ rest, text ≠ c :: rest) :
    ∃ comments after, parts text = comments ++ .kept c :: after ∧ comments ≠ [] ∧
      (∀ part ∈ comments, part.kept? = none) ∧ after.filterMap Part.kept? = out := by
  rw [removeBlocks_eq_filterMap, List.filterMap_eq_cons_iff] at hout
  obtain ⟨comments, part, after, hparts, hdeleted, hpart, hafter⟩ := hout
  cases part with
  | deleted body => simp [Part.kept?] at hpart
  | kept d =>
    obtain rfl : d = c := Option.some.inj hpart
    refine ⟨comments, after, hparts, ?_, hdeleted, hafter⟩
    rintro rfl
    refine hhead (after.flatMap Part.text) ?_
    rw [← flatMap_text_parts text, hparts]
    rfl

/-- A closed block comment in what the block pass leaves starts where a `/` and a `*` met. -/
theorem hasBlock_removeBlocks_iff (text : Text) :
    HasBlock (removeBlocks text) ↔
      ∃ after, MeetsBefore text after ∧ closer <:+: after.filterMap Part.kept? := by
  constructor
  · intro hblock
    induction text using blockInduction with
    | nil => exact absurd (by simpa [removeBlocks] using hblock) not_hasBlock_nil
    | closed inside body after hclose ih =>
      rw [removeBlocks_of_closed hclose] at hblock
      obtain ⟨later, hmeets, hcloser⟩ := ih hblock
      exact ⟨later, hmeets.cons (parts_of_closed hclose), hcloser⟩
    | unclosed inside hclose =>
      rw [removeBlocks_of_not_closed hclose] at hblock
      exact absurd hblock (not_hasBlock_of_not_closed hclose)
    | cons c rest hstarts ih =>
      rw [removeBlocks_cons hstarts] at hblock
      rcases hasBlock_cons_iff.mp hblock with ⟨inside, hinside, hcloser⟩ | hrest
      · obtain ⟨rfl, hstar⟩ := List.cons_eq_cons.mp hinside
        obtain ⟨comments, after, hparts, hne, hdeleted, hafter⟩ :=
          parts_of_removeBlocks_eq_cons hstar fun tail htail ↦ hstarts ⟨tail, by rw [htail]; rfl⟩
        exact ⟨after, ⟨[], comments, by rw [parts_cons hstarts, hparts]; rfl, hne, hdeleted⟩,
          hafter ▸ hcloser⟩
      · obtain ⟨later, hmeets, hcloser⟩ := ih hrest
        exact ⟨later, hmeets.cons (parts_cons hstarts), hcloser⟩
  · rintro ⟨after, ⟨before, comments, hparts, -, hdeleted⟩, body, last, hcloser⟩
    refine ⟨before.filterMap Part.kept?, body, last, ?_⟩
    have hslash : Part.kept? (.kept '/') = some '/' := rfl
    have hstar : Part.kept? (.kept '*') = some '*' := rfl
    rw [removeBlocks_eq_filterMap, hparts, List.filterMap_append, List.filterMap_cons_some hslash,
      List.filterMap_append, List.filterMap_eq_nil_iff.mpr hdeleted,
      List.filterMap_cons_some hstar, ← hcloser, List.append_assoc body]
    rfl

end DevicetreeHeader.Source.Comment
