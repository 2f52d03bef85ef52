import DevicetreeHeader.Proofs.Header.Grouping

/-!
# A header is a partition of its nodes

A header has one section for each type of its nodes, in the order in which the types occur first,
and in it the definitions of the nodes of this type in their order. Nothing is lost and nothing is
added: the definitions of all sections are those of all nodes (`perm_definitions`). So a header
depends on no more than the order of the types and the nodes of each type
(`ofNodes_stable_partition`).
-/

set_option autoImplicit false
set_option relaxedAutoImplicit false

namespace DevicetreeHeader.Header

theorem mem_types {nodes : List Node} {type : Text} :
    type ∈ types nodes ↔ ∃ node ∈ nodes, node.type = type := by
  rw [types, List.mem_eraseDups, List.mem_map]

variable (options : Options)

theorem map_type_sections (nodes : List Node) :
    (ofNodes options nodes).sections.map Section.type = types nodes := by
  rw [sections_ofNodes, List.map_map]
  exact List.map_id _

/-- The definitions of all sections are those of all nodes. -/
theorem perm_definitions (nodes : List Node) :
    ((ofNodes options nodes).sections.flatMap Section.definitions).Perm
      (nodes.flatMap (Definition.ofNode options)) := by
  have htypes : ∀ node ∈ nodes, node.type ∈ types nodes :=
    fun node hnode ↦ mem_types.mpr ⟨node, hnode, rfl⟩
  have hnodes : ((types nodes).flatMap fun type ↦ nodes.filter (·.type = type)).Perm nodes :=
    perm_flatMap_filter Node.type (nodup_types nodes) htypes
  have hsections : (ofNodes options nodes).sections.flatMap Section.definitions =
      ((types nodes).flatMap fun type ↦ nodes.filter (·.type = type)).flatMap
        (Definition.ofNode options) := by
    rw [sections_ofNodes, List.flatMap_map, List.flatMap_assoc]
    rfl
  rw [hsections]
  exact hnodes.flatMap_right _

theorem length_definitions (nodes : List Node) :
    ((ofNodes options nodes).sections.flatMap Section.definitions).length =
      (nodes.flatMap Node.properties).length := by
  rw [(perm_definitions options nodes).length_eq, List.length_flatMap, List.length_flatMap]
  simp only [Definition.ofNode, List.length_map]

/-- A header depends on the order of the types and on the nodes of each type. -/
theorem ofNodes_congr {nodes others : List Node} (htypes : types others = types nodes)
    (hnodes : ∀ type, others.filter (·.type = type) = nodes.filter (·.type = type)) :
    ofNodes options others = ofNodes options nodes := by
  have hdefinitions : definitionsOf options others = definitionsOf options nodes := by
    funext type
    rw [definitionsOf, hnodes, definitionsOf]
  have hsections : (ofNodes options others).sections = (ofNodes options nodes).sections := by
    rw [sections_ofNodes, sections_ofNodes, htypes, hdefinitions]
  exact congrArg (Header.mk · options.includeGuard) hsections

/-- The sections of a header are the types of its nodes, each once and in the order of their first
occurrences; each has a definition for every property of every node of its type, in their order; and
there are no other definitions. The header is the same for nodes that are interleaved in another
way. -/
theorem ofNodes_stable_partition (nodes : List Node) :
    ((ofNodes options nodes).sections.map Section.type).Nodup ∧
    (∀ type, type ∈ (ofNodes options nodes).sections.map Section.type ↔
      ∃ node ∈ nodes, node.type = type) ∧
    ((ofNodes options nodes).sections.map Section.type).Pairwise (fun first second ↦
      (nodes.map Node.type).idxOf first < (nodes.map Node.type).idxOf second) ∧
    (∀ part ∈ (ofNodes options nodes).sections, part.definitions =
      (nodes.filter (·.type = part.type)).flatMap fun node ↦ node.properties.map fun property ↦
        ⟨options.macroPrefix ++ '_' :: macroSegment node.label ++ '_' :: macroSegment property.1,
          property.2.rendered⟩) ∧
    ((ofNodes options nodes).sections.flatMap Section.definitions).length =
      (nodes.flatMap Node.properties).length ∧
    ∀ others : List Node,
      (others.map Node.type).eraseDups = (nodes.map Node.type).eraseDups →
      (∀ type, others.filter (·.type = type) = nodes.filter (·.type = type)) →
      ofNodes options others = ofNodes options nodes ∧
        (ofNodes options others).text = (ofNodes options nodes).text := by
  rw [map_type_sections]
  refine ⟨nodup_types nodes, fun type ↦ mem_types, pairwise_idxOf_eraseDups _, ?_,
    length_definitions options nodes, ?_⟩
  · intro part hpart
    rw [sections_ofNodes] at hpart
    obtain ⟨type, -, rfl⟩ := List.mem_map.mp hpart
    rfl
  · intro others htypes hnodes
    have hheader := ofNodes_congr options htypes hnodes
    exact ⟨hheader, congrArg text hheader⟩

/-- Two types, whose nodes stand apart in the first list and together in the second. -/
def interleavedNodes : List Node × List Node :=
  let pin : Node := ⟨['a'], ['g'], [(['p'], .integer 1)]⟩
  let baud : Node := ⟨['u'], ['t'], [(['b'], .integer 9600), (['x', '-'], .token [])]⟩
  let empty : Node := ⟨['b'], ['g'], []⟩
  ([pin, baud, empty], [pin, empty, baud])

theorem ofNodes_interleavedNodes :
    interleavedNodes.2 ≠ interleavedNodes.1 ∧
    (interleavedNodes.2.map Node.type).eraseDups = (interleavedNodes.1.map Node.type).eraseDups ∧
    (∀ type, interleavedNodes.2.filter (·.type = type) =
      interleavedNodes.1.filter (·.type = type)) ∧
    ofNodes {} interleavedNodes.2 = ofNodes {} interleavedNodes.1 := by
  have htypes : (interleavedNodes.2.map Node.type).eraseDups =
      (interleavedNodes.1.map Node.type).eraseDups := by decide
  have hnodes : ∀ type, interleavedNodes.2.filter (·.type = type) =
      interleavedNodes.1.filter (·.type = type) := by
    intro type
    by_cases htype : ['g'] = type
    · subst htype
      decide
    · simp [interleavedNodes, List.filter_cons, htype]
  exact ⟨by decide, htypes, hnodes,
    ((ofNodes_stable_partition {} interleavedNodes.1).2.2.2.2.2 _ htypes hnodes).1⟩

end DevicetreeHeader.Header
