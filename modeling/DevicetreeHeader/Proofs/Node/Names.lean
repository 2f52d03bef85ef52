import DevicetreeHeader.Proofs.Node.Reading
import DevicetreeHeader.Proofs.Source.AssignmentReading
import DevicetreeHeader.Proofs.Source.Opening

/-!
# The names in a node

Whatever the source, a node that is read from it has words for its label and its type, and each of
its keys is a run: not empty and without white space (`named_of_mem_ofSource`).
-/

set_option autoImplicit false
set_option relaxedAutoImplicit false

namespace DevicetreeHeader

open Text (Word isBlank isInk)

namespace Source

/-- A non-empty text without white space. -/
def Run (text : Text) : Prop :=
  text ≠ [] ∧ ∀ c ∈ text, isBlank c = false

namespace Assignment

/-- A key before an equals sign of its run is a run, the part that was read already being one. -/
theorem run_of_inRun? {before text rest : Text} {assignment : Assignment}
    (hbefore : ∀ c ∈ before, isBlank c = false)
    (hfound : inRun? before text = some (assignment, rest)) : Run assignment.key := by
  induction text generalizing before with
  | nil => simp [inRun?] at hfound
  | cons c text ih =>
    rw [inRun?] at hfound
    split at hfound
    · simp at hfound
    · rename_i hc
      split at hfound
      · rename_i found hlater
        obtain rfl := Option.some.inj hfound
        exact ih (List.forall_mem_cons.mpr ⟨by simpa using hc, hbefore⟩) hlater
      · split at hfound
        · rename_i hequals
          obtain ⟨value, -, hpair⟩ := Option.map_eq_some_iff.mp hfound
          obtain ⟨rfl, -⟩ := Prod.mk.inj hpair
          rw [Bool.and_eq_true, Bool.not_eq_true', List.isEmpty_eq_false_iff] at hequals
          exact ⟨by simpa using hequals.2, fun d hd ↦ hbefore d (List.mem_reverse.mp hd)⟩
        · simp at hfound

theorem run_of_afterRun? {c : Char} (hc : isBlank c = false) {text rest : Text}
    {assignment : Assignment} (hfound : afterRun? (c :: text) = some (assignment, rest)) :
    Run assignment.key := by
  unfold afterRun? at hfound
  split at hfound
  · obtain ⟨value, -, hpair⟩ := Option.map_eq_some_iff.mp hfound
    obtain ⟨rfl, -⟩ := Prod.mk.inj hpair
    refine ⟨?_, fun d hd ↦ ?_⟩
    · rw [List.takeWhile_cons_of_pos (by simp [isInk, hc])]
      exact List.cons_ne_nil _ _
    · simpa [isInk] using Text.mem_takeWhile hd
  · simp at hfound

theorem run_of_ofRun? {c : Char} (hc : isBlank c = false) {text rest : Text}
    {assignment : Assignment} (hfound : ofRun? (c :: text) = some (assignment, rest)) :
    Run assignment.key := by
  rw [ofRun?, Option.orElse_eq_orElse, Option.orElse_eq_or, Option.or_eq_some_iff] at hfound
  rcases hfound with hafter | ⟨-, hinside⟩
  · exact run_of_afterRun? hc hafter
  · exact run_of_inRun? (by simp) hinside

end Assignment

/-- The keys of a body are runs. -/
theorem run_of_mem_assignments (body : Text) :
    ∀ assignment ∈ assignments body, Run assignment.key := by
  induction body using assignments.induct with
  | case1 => simp [assignments]
  | case2 c rest hc ih =>
    rw [assignments_cons_of_isBlank hc]
    exact ih
  | case3 c rest hc assignment after hrun ih =>
    rw [Bool.not_eq_true] at hc
    rw [assignments_of_ofRun? hc hrun, List.forall_mem_cons]
    exact ⟨Assignment.run_of_ofRun? hc hrun, ih⟩
  | case4 c rest hc hrun ih =>
    rw [assignments, if_neg hc]
    split
    · rename_i hfound
      simp [hrun] at hfound
    · exact ih

/-- The labels and the types of blocks are words. -/
theorem word_of_mem_blocks {text : Text} {block : Block} (hblock : block ∈ blocks text) :
    Word block.label ∧ Word block.type := by
  rw [blocks_eq_filterMap, List.mem_filterMap] at hblock
  obtain ⟨piece, -, hpiece⟩ := hblock
  obtain ⟨before, here, -, ⟨hlabel, htype, -⟩, -⟩ := Block.ofPiece?_eq_some_iff.mp hpiece
  exact ⟨hlabel, htype⟩

end Source

namespace Node

/-- A node with words for label and type, and with runs for keys. -/
structure Named (node : Node) : Prop where
  label : Word node.label
  type : Word node.type
  key : ∀ property ∈ node.properties, Source.Run property.1

theorem named_of_mem_ofSource {text : Text} {node : Node} (hnode : node ∈ ofSource text) :
    node.Named := by
  obtain ⟨block, hblock, rfl⟩ := List.mem_map.mp hnode
  obtain ⟨hlabel, htype⟩ := Source.word_of_mem_blocks hblock
  refine ⟨hlabel, htype, fun property hproperty ↦ ?_⟩
  obtain ⟨assignment, hassignment, rfl⟩ := exists_of_mem_properties hproperty
  exact Source.run_of_mem_assignments block.body assignment hassignment

end Node

end DevicetreeHeader
