import DevicetreeHeader.Node

/-!
# The properties of a node

Reading a block writes the classified assignments of its body under their keys, one after the other
(`ofBlock_eq`), so that every property comes from an assignment (`exists_of_mem_properties`). The
events that are reported on the way have no part in it.
-/

set_option autoImplicit false
set_option relaxedAutoImplicit false

namespace DevicetreeHeader.Node

open Source (Assignment Block assignments)

/-- An assignment with its value classified. -/
def classified (assignment : Assignment) : Text × Value :=
  (assignment.key, Value.classify assignment.value)

theorem properties_foldl_add (label : Text) (read : List Assignment) (start : Reading) :
    (read.foldl (Reading.add label) start).properties =
      start.properties.putAll (read.map classified) := by
  induction read generalizing start with
  | nil => rfl
  | cons assignment read ih =>
    rw [List.foldl_cons, ih, List.map_cons, Keyed.putAll, Keyed.putAll, List.foldl_cons]
    rfl

theorem ofBlock_eq (block : Block) :
    ofBlock block =
      ⟨block.label, block.type, Keyed.ofList ((assignments block.body).map classified)⟩ :=
  congrArg (Node.mk block.label block.type)
    (properties_foldl_add block.label (assignments block.body) {})

/-- Every property of a node is an assignment of its body. -/
theorem exists_of_mem_properties {block : Block} {property : Text × Value}
    (hproperty : property ∈ (ofBlock block).properties) :
    ∃ assignment ∈ assignments block.body, classified assignment = property := by
  rw [ofBlock_eq] at hproperty
  exact List.mem_map.mp (Keyed.mem_of_mem_ofList hproperty)

end DevicetreeHeader.Node
