import DevicetreeHeader.Header.Basic
import DevicetreeHeader.Proofs.Keyed.FirstOccurrence

/-!
# Grouping nodes by type

After any number of nodes the groups are a function of these nodes alone: their types in the order
of first occurrence, and under each type the definitions of its nodes in order (`groups`). Adding a
node leads from the groups of some nodes to those of one node more (`addNode_groups`), and so the
sections of a header are the groups of all its nodes (`sections_ofNodes`).
-/

set_option autoImplicit false
set_option relaxedAutoImplicit false

namespace DevicetreeHeader.Header

/-- The definitions of the nodes of one type. -/
def definitionsOf (options : Options) (nodes : List Node) (type : Text) : List Definition :=
  (nodes.filter (·.type = type)).flatMap (Definition.ofNode options)

/-- The types of nodes, each once. -/
def types (nodes : List Node) : List Text :=
  (nodes.map Node.type).eraseDups

/-- The definitions of nodes under their types. -/
def groups (options : Options) (nodes : List Node) : Keyed (List Definition) :=
  .tabulate (types nodes) (definitionsOf options nodes)

theorem nodup_types (nodes : List Node) : (types nodes).Nodup :=
  nodup_eraseDups _

variable (options : Options)

theorem definitionsOf_concat (nodes : List Node) (node : Node) (type : Text) :
    definitionsOf options (nodes ++ [node]) type =
      if type = node.type then
        definitionsOf options nodes node.type ++ Definition.ofNode options node
      else definitionsOf options nodes type := by
  rw [definitionsOf, List.filter_append, List.flatMap_append, ← definitionsOf]
  by_cases htype : type = node.type
  · subst htype
    simp
  · simp [htype, Ne.symm htype]

/-- There are no definitions under a type that no node has. -/
theorem definitionsOf_of_not_mem {nodes : List Node} {type : Text} (htype : type ∉ types nodes) :
    definitionsOf options nodes type = [] := by
  have hnone : nodes.filter (·.type = type) = [] := by
    rw [List.filter_eq_nil_iff]
    intro node hnode heq
    rw [decide_eq_true_eq] at heq
    exact htype (List.mem_eraseDups.mpr (List.mem_map.mpr ⟨node, hnode, heq⟩))
  rw [definitionsOf, hnone, List.flatMap_nil]

theorem addNode_groups (nodes : List Node) (node : Node) :
    addNode options (groups options nodes) node = groups options (nodes ++ [node]) := by
  have hold : ((groups options nodes).get? node.type).getD [] =
      definitionsOf options nodes node.type := by
    rw [groups, Keyed.get?_tabulate]
    split
    · rfl
    · rename_i htype
      rw [definitionsOf_of_not_mem options htype, Option.getD_none]
  have htypes : types (nodes ++ [node]) =
      if node.type ∈ types nodes then types nodes else types nodes ++ [node.type] := by
    rw [types, List.map_append, List.map_singleton, eraseDups_concat]
    rfl
  have hdefinitions : definitionsOf options (nodes ++ [node]) = fun type ↦
      if type = node.type then
        definitionsOf options nodes node.type ++ Definition.ofNode options node
      else definitionsOf options nodes type :=
    funext (definitionsOf_concat options nodes node)
  rw [addNode, hold, groups, groups, Keyed.put_tabulate (nodup_types nodes), htypes, hdefinitions]

/-- Adding nodes one after the other leads from the groups of some to those of all. -/
theorem foldl_addNode_groups (done nodes : List Node) :
    nodes.foldl (addNode options) (groups options done) = groups options (done ++ nodes) := by
  induction nodes generalizing done with
  | nil => rw [List.append_nil, List.foldl_nil]
  | cons node nodes ih =>
    rw [List.foldl_cons, addNode_groups, ih, List.append_assoc, List.singleton_append]

/-- A header has a section for each type of its nodes, with the definitions of the nodes of that
type. -/
theorem sections_ofNodes (nodes : List Node) : (ofNodes options nodes).sections =
    (types nodes).map fun type ↦ ⟨type, definitionsOf options nodes type⟩ := by
  have hgroups : nodes.foldl (addNode options) [] = groups options nodes :=
    foldl_addNode_groups options [] nodes
  rw [ofNodes, hgroups, groups, Keyed.tabulate, List.map_map]
  rfl

end DevicetreeHeader.Header
