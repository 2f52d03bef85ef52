import DevicetreeHeader.Proofs.Source.Opening

/-!
# Nested blocks

A block in the body of another one ends that body, for a body reaches to the first closing brace.
`nestedSource` is a block with one nested block in it, and with arbitrary text before, inside and
after the nested one. What is read depends on the first character after the inner brace. If it is a
semicolon then the outer block is read, cut short before the inner brace. If it is not, then the
inner brace closes nothing, and no block opens between it and the outer one, so that no block is
read at all (`blocks_nestedSource`).
-/

set_option autoImplicit false
set_option relaxedAutoImplicit false

namespace DevicetreeHeader.Source

open Text (Word)

/-- A block with a nested block in its body, up to the brace that closes the nested one. -/
def nestedFront (label type before inner : Text) : Text :=
  label ++ ": ".toList ++ type ++ " \x7b".toList ++ before ++ '{' :: inner

/-- A block with a nested block in its body, and with more of the body after that one. -/
def nestedSource (label type before inner after : Text) : Text :=
  nestedFront label type before inner ++ '}' :: (after ++ "\x7d;".toList)

variable {label type before inner after : Text}

theorem opens_nestedFront (hlabel : Word label) (htype : Word type) (before inner : Text) :
    Block.Opens (nestedFront label type before inner) ⟨label, type, before ++ '{' :: inner⟩ :=
  ⟨hlabel, htype, [], [' '], [' '], by decide, by decide, by decide, by simp [nestedFront]⟩

theorem brace_not_mem_nestedFront (hlabel : Word label) (htype : Word type) (hbefore : '}' ∉ before)
    (hinner : '}' ∉ inner) : '}' ∉ nestedFront label type before inner := by
  have hlabel' : '}' ∉ label := Text.not_mem_of_word hlabel (by decide)
  have htype' : '}' ∉ type := Text.not_mem_of_word htype (by decide)
  simp [nestedFront, hlabel', htype', hbefore, hinner]

/-- Where no brace is opened there is nothing to close. -/
theorem blocks_append_closing_of_not_mem (hopening : '{' ∉ after) (hclosing : '}' ∉ after) :
    blocks (after ++ "\x7d;".toList) = [] := by
  have hnone : Block.ofPiece? after = none := by
    rw [Option.eq_none_iff_forall_ne_some]
    intro block hblock
    obtain ⟨front, here, rfl, ⟨-, -, gap₁, gap₂, gap₃, -, -, -, rfl⟩, -⟩ :=
      Block.ofPiece?_eq_some_iff.mp hblock
    simp at hopening
  have hsemicolon : blocks [';'] = [] := blocks_of_not_mem (by decide)
  have hread := blocks_append_brace hclosing [';']
  rw [hnone, hsemicolon] at hread
  exact hread

/-- A nested block with a semicolon after its brace ends the outer block, which keeps all that
stands before that brace. Without the semicolon the outer block is lost as a whole. What stands
after the brace is lost in both cases. -/
theorem blocks_nestedSource (hlabel : Word label) (htype : Word type) (hbefore : '}' ∉ before)
    (hinner : '}' ∉ inner) (hopening : '{' ∉ after) (hclosing : '}' ∉ after) :
    blocks (nestedSource label type before inner after) =
      if after.head? = some ';' then [⟨label, type, before ++ '{' :: inner⟩] else [] := by
  have hopens := opens_nestedFront hlabel htype before inner
  have hfront := brace_not_mem_nestedFront hlabel htype hbefore hinner
  rw [nestedSource]
  split
  · rename_i hhead
    obtain ⟨rest, rfl⟩ := List.head?_eq_some_iff.mp hhead
    have hrest : blocks (rest ++ "\x7d;".toList) = [] :=
      blocks_append_closing_of_not_mem (List.not_mem_of_not_mem_cons hopening)
        (List.not_mem_of_not_mem_cons hclosing)
    rw [List.cons_append, blocks_append_of_opens hopens hfront, hrest]
  · rename_i hhead
    have hhead' : (after ++ "\x7d;".toList).head? ≠ some ';' := by
      cases after with
      | nil => decide
      | cons c after => exact hhead
    rw [blocks_append_brace hfront, if_neg hhead',
      blocks_append_closing_of_not_mem hopening hclosing]
    rfl

/-- The body before the nested block may look like the start of another block, and what stands after
it like a whole assignment. -/
theorem blocks_nestedSource_bus :
    (Word "soc".toList ∧ Word "bus".toList ∧ '}' ∉ " a = <1>; uart: serial ".toList ∧
      '}' ∉ " b = <2>; ".toList ∧ '{' ∉ "; c = <3>; ".toList ∧ '}' ∉ "; c = <3>; ".toList) ∧
    blocks (nestedSource "soc".toList "bus".toList " a = <1>; uart: serial ".toList
        " b = <2>; ".toList "; c = <3>; ".toList) =
      [⟨"soc".toList, "bus".toList, " a = <1>; uart: serial \x7b b = <2>; ".toList⟩] := by
  have hwords : Word "soc".toList ∧ Word "bus".toList := by decide
  have hbraces : '}' ∉ " a = <1>; uart: serial ".toList ∧ '}' ∉ " b = <2>; ".toList ∧
      '{' ∉ "; c = <3>; ".toList ∧ '}' ∉ "; c = <3>; ".toList := by decide
  obtain ⟨hlabel, htype⟩ := hwords
  obtain ⟨hbefore, hinner, hopening, hclosing⟩ := hbraces
  refine ⟨⟨hlabel, htype, hbefore, hinner, hopening, hclosing⟩, ?_⟩
  rw [blocks_nestedSource hlabel htype hbefore hinner hopening hclosing]
  rfl

/-- A nested block without a semicolon takes the outer block with it. -/
theorem blocks_nestedSource_ne :
    (Word "soc".toList ∧ Word "bus".toList) ∧
    (∀ part ∈ [" a = <1>; child ".toList, " b = <2>; ".toList, " c = <3>; ".toList],
      '{' ∉ part ∧ '}' ∉ part) ∧
    blocks (nestedSource "soc".toList "bus".toList " a = <1>; child ".toList " b = <2>; ".toList
        " c = <3>; ".toList) ≠
      [⟨"soc".toList, "bus".toList, " a = <1>; child \x7b b = <2>; ".toList⟩] := by
  have hnone : blocks (nestedSource "soc".toList "bus".toList " a = <1>; child ".toList
      " b = <2>; ".toList " c = <3>; ".toList) = [] := by
    decide +kernel
  refine ⟨by decide, by decide, ?_⟩
  rw [hnone]
  exact List.ne_cons_self

end DevicetreeHeader.Source
