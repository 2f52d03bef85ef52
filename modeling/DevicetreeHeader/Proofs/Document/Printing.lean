import DevicetreeHeader.Proofs.Node.Reading
import DevicetreeHeader.Proofs.Source.AssignmentReading
import DevicetreeHeader.Proofs.Source.Opening
import DevicetreeHeader.Proofs.Value.Spelling

/-!
# Printing nodes

A list of nodes is printed as a source under a layout, which chooses every stretch of white space by
itself (`NodeLayout.print`, `printNodes`). Only the white space after a key may not be left out,
since a key may end in anything but white space.

Reading what was printed gives the nodes again, under every layout, if the nodes can be printed at
all (`Node.Printable`). The steps follow the stages of reading: no comment starts in a printed
source (`commentFree_printNodes`), each node is a block (`blocks_print_append`), its body holds the
assignments of its properties (`assignments_printProperties_append`), and each value is read back
from its spelling (`ofBlock_printBody`).
-/

set_option autoImplicit false
set_option relaxedAutoImplicit false

namespace DevicetreeHeader

open Source (Assignment Block assignments blocks)
open Source.Comment (CommentFree commentFree_nil commentFree_cons commentFree_append_cons
  commentFree_append_of_not_mem commentFree_of_not_mem)
open Text (Word Blank isWord isBlank not_mem_of_word not_mem_of_blank)

/-! ### Layouts -/

/-- White space that may be left out. -/
def Gap :=
  {gap : Text // Blank gap}

/-- White space that keeps two texts apart. -/
def Space :=
  {space : Text // Blank space ∧ space ≠ []}

/-- No white space. -/
def Gap.empty : Gap :=
  ⟨[], Text.blank_nil⟩

/-- One space. -/
def Space.single : Space :=
  ⟨[' '], by decide⟩

/-- The white space of a printed property. -/
structure PropertyLayout where
  beforeKey : Gap := .empty
  afterKey : Space := .single
  beforeValue : Gap := .empty
  afterValue : Gap := .empty

/-- The white space of a printed node. -/
structure NodeLayout where
  beforeLabel : Gap := .empty
  beforeColon : Gap := .empty
  beforeType : Gap := .empty
  beforeBrace : Gap := .empty
  /-- The white space of its properties, by their positions. -/
  property : Nat → PropertyLayout := fun _ ↦ {}
  beforeEnd : Gap := .empty
  afterEnd : Gap := .empty

/-- A property as an assignment. -/
def PropertyLayout.print (layout : PropertyLayout) (property : Text × Value) : Text :=
  layout.beforeKey.1 ++ (property.1 ++ (layout.afterKey.1 ++ '=' :: (layout.beforeValue.1 ++
    (property.2.spelling ++ layout.afterValue.1) ++ [';'])))

/-- Properties one after the other, each under the layout of its position. -/
def printProperties (layout : Nat → PropertyLayout) : Keyed Value → Text
  | [] => []
  | property :: properties =>
    (layout 0).print property ++ printProperties (fun i ↦ layout (i + 1)) properties

/-- The body of a node. -/
def NodeLayout.printBody (layout : NodeLayout) (properties : Keyed Value) : Text :=
  printProperties layout.property properties ++ layout.beforeEnd.1

/-- The head of a node and its body, without the end. -/
def NodeLayout.printOpen (layout : NodeLayout) (node : Node) : Text :=
  node.label ++ (layout.beforeColon.1 ++ ':' :: (layout.beforeType.1 ++ (node.type ++
    (layout.beforeBrace.1 ++ '{' :: layout.printBody node.properties))))

/-- A node as a block. -/
def NodeLayout.print (layout : NodeLayout) (node : Node) : Text :=
  layout.beforeLabel.1 ++ (layout.printOpen node ++ '}' :: ';' :: layout.afterEnd.1)

/-- Nodes one after the other, each under the layout of its position. -/
def printNodes (layout : Nat → NodeLayout) : List Node → Text
  | [] => []
  | node :: nodes => (layout 0).print node ++ printNodes (fun i ↦ layout (i + 1)) nodes

/-! ### What can be printed -/

/-- A text that can be a key: not empty, without white space, and it neither closes the body nor
starts a comment. -/
structure PrintableKey (key : Text) : Prop where
  ne_nil : key ≠ []
  ink : ∀ c ∈ key, isBlank c = false
  brace : '}' ∉ key
  commentFree : CommentFree key

instance (key : Text) : Decidable (PrintableKey key) :=
  have : Decidable (∀ c ∈ key, isBlank c = false) := List.decidableBAll _ key
  decidable_of_iff (key ≠ [] ∧ (∀ c ∈ key, isBlank c = false) ∧ '}' ∉ key ∧ CommentFree key)
    ⟨fun ⟨hne, hink, hbrace, hfree⟩ ↦ ⟨hne, hink, hbrace, hfree⟩,
      fun h ↦ ⟨h.ne_nil, h.ink, h.brace, h.commentFree⟩⟩

/-- A property that can be printed. -/
def PrintableProperty (property : Text × Value) : Prop :=
  PrintableKey property.1 ∧ property.2.Printable

instance (property : Text × Value) : Decidable (PrintableProperty property) :=
  inferInstanceAs (Decidable (_ ∧ _))

/-- A node that can be printed. -/
structure Node.Printable (node : Node) : Prop where
  label : Word node.label
  type : Word node.type
  property : ∀ property ∈ node.properties, PrintableProperty property
  keys : node.properties.keys.Nodup

/-! ### Properties -/

theorem brace_not_mem_gap (gap : Gap) : '}' ∉ gap.1 :=
  not_mem_of_blank gap.2 (by decide)

theorem slash_not_mem_gap (gap : Gap) : '/' ∉ gap.1 :=
  not_mem_of_blank gap.2 (by decide)

/-- White space keeps what stands before it from making a mark with what stands after it. -/
theorem commentFree_append_space {text rest : Text} (htext : CommentFree text) (space : Space)
    (hrest : CommentFree rest) : CommentFree (text ++ (space.1 ++ rest)) := by
  obtain ⟨_, hblank, hne⟩ := space
  obtain ⟨c, gap, rfl⟩ := List.exists_cons_of_ne_nil hne
  have hc : ∀ d, isBlank d = false → c ≠ d := by
    rintro d hd rfl
    exact absurd (hblank c List.mem_cons_self) (by simp [hd])
  have hgap : '/' ∉ gap := by
    intro hmem
    exact absurd (hblank '/' (List.mem_cons_of_mem c hmem)) (by decide)
  exact (commentFree_append_cons (hc '/' (by decide)) (hc '*' (by decide))).mpr
    ⟨htext, (commentFree_append_of_not_mem hgap).mpr hrest⟩

section Properties

variable {property : Text × Value}

theorem brace_not_mem_print (layout : PropertyLayout) (hproperty : PrintableProperty property) :
    '}' ∉ layout.print property := by
  have hspace : '}' ∉ layout.afterKey.1 := not_mem_of_blank layout.afterKey.2.1 (by decide)
  have hvalue := (Value.spelled_spelling hproperty.2).not_mem.2
  simp [PropertyLayout.print, brace_not_mem_gap, hspace, hproperty.1.brace, hvalue]

theorem commentFree_print_append (layout : PropertyLayout) (hproperty : PrintableProperty property)
    {rest : Text} (hrest : CommentFree rest) : CommentFree (layout.print property ++ rest) := by
  have hvalue : CommentFree (layout.beforeValue.1 ++
      (property.2.spelling ++ layout.afterValue.1)) := by
    rw [commentFree_append_of_not_mem (slash_not_mem_gap _)]
    exact (Value.spelled_spelling hproperty.2).commentFree_append
      (commentFree_of_not_mem (slash_not_mem_gap _))
  have hassigned : CommentFree ('=' :: (layout.beforeValue.1 ++
      (property.2.spelling ++ layout.afterValue.1) ++ ';' :: rest)) := by
    rw [commentFree_cons (by decide), commentFree_append_cons (by decide) (by decide)]
    exact ⟨hvalue, hrest⟩
  have hkey := commentFree_append_space hproperty.1.commentFree layout.afterKey hassigned
  simpa [PropertyLayout.print, commentFree_append_of_not_mem (slash_not_mem_gap _)] using hkey

theorem assignments_print_append (layout : PropertyLayout) (hproperty : PrintableProperty property)
    (rest : Text) :
    assignments (layout.print property ++ rest) =
      ⟨property.1, property.2.spelling⟩ :: assignments rest := by
  have hspelled := Value.spelled_spelling hproperty.2
  have htrimmed := Text.trimmed_between layout.beforeValue.2 layout.afterValue.2 hspelled.ne_nil
    hspelled.isBlank_head? hspelled.isBlank_getLast?
  have hne : layout.beforeValue.1 ++ (property.2.spelling ++ layout.afterValue.1) ≠ [] := by
    simp [hspelled.ne_nil]
  have hend : ';' ∉ layout.beforeValue.1 ++ (property.2.spelling ++ layout.afterValue.1) := by
    have hgap : ∀ gap : Gap, ';' ∉ gap.1 := fun gap ↦ not_mem_of_blank gap.2 (by decide)
    simp [hgap, hspelled.not_mem.1]
  have hread := Source.assignments_append hproperty.1.ne_nil hproperty.1.ink layout.afterKey.2.1
    layout.afterKey.2.2 hne hend rest
  rw [htrimmed] at hread
  rw [PropertyLayout.print, List.append_assoc,
    Source.assignments_append_of_blank layout.beforeKey.2, ← hread]
  simp

end Properties

section Bodies

variable {properties : Keyed Value}

theorem brace_not_mem_printProperties (layout : Nat → PropertyLayout)
    (hproperties : ∀ property ∈ properties, PrintableProperty property) :
    '}' ∉ printProperties layout properties := by
  induction properties generalizing layout with
  | nil => exact List.not_mem_nil
  | cons property properties ih =>
    rw [List.forall_mem_cons] at hproperties
    rw [printProperties, List.mem_append, not_or]
    exact ⟨brace_not_mem_print (layout 0) hproperties.1, ih _ hproperties.2⟩

theorem commentFree_printProperties_append (layout : Nat → PropertyLayout)
    (hproperties : ∀ property ∈ properties, PrintableProperty property) {rest : Text}
    (hrest : CommentFree rest) : CommentFree (printProperties layout properties ++ rest) := by
  induction properties generalizing layout with
  | nil => exact hrest
  | cons property properties ih =>
    rw [List.forall_mem_cons] at hproperties
    rw [printProperties, List.append_assoc]
    exact commentFree_print_append (layout 0) hproperties.1 (ih _ hproperties.2)

/-- The assignments of printed properties are their keys with the spellings of their values. -/
theorem assignments_printProperties_append (layout : Nat → PropertyLayout)
    (hproperties : ∀ property ∈ properties, PrintableProperty property) (rest : Text) :
    assignments (printProperties layout properties ++ rest) =
      properties.map (fun property ↦ ⟨property.1, property.2.spelling⟩) ++ assignments rest := by
  induction properties generalizing layout with
  | nil => rfl
  | cons property properties ih =>
    rw [List.forall_mem_cons] at hproperties
    rw [printProperties, List.append_assoc, assignments_print_append (layout 0) hproperties.1,
      ih _ hproperties.2]
    rfl

end Bodies

/-! ### Nodes -/

section Nodes

variable {node : Node}

/-- A node is read back from its block. -/
theorem ofBlock_printBody (layout : NodeLayout) (hnode : node.Printable) :
    Node.ofBlock ⟨node.label, node.type, layout.printBody node.properties⟩ = node := by
  have hread : assignments (layout.printBody node.properties) =
      node.properties.map fun property ↦ ⟨property.1, property.2.spelling⟩ := by
    rw [NodeLayout.printBody, assignments_printProperties_append _ hnode.property,
      Source.assignments_of_blank layout.beforeEnd.2, List.append_nil]
  have hclassified : (assignments (layout.printBody node.properties)).map Node.classified =
      node.properties := by
    have hread_each : ∀ property ∈ node.properties,
        Node.classified ⟨property.1, property.2.spelling⟩ = id property := by
      intro property hproperty
      rw [Node.classified, Value.classify_spelling (hnode.property property hproperty).2]
      rfl
    rw [hread, List.map_map]
    exact (List.map_congr_left hread_each).trans (List.map_id _)
  rw [Node.ofBlock_eq, hclassified, Keyed.ofList_of_nodup hnode.keys]

theorem blocks_print_append (layout : NodeLayout) (hnode : node.Printable) (rest : Text) :
    blocks (layout.print node ++ rest) =
      ⟨node.label, node.type, layout.printBody node.properties⟩ :: blocks rest := by
  have hopens : Block.Opens (layout.printOpen node)
      ⟨node.label, node.type, layout.printBody node.properties⟩ :=
    ⟨hnode.label, hnode.type, _, _, _, layout.beforeColon.2, layout.beforeType.2,
      layout.beforeBrace.2, rfl⟩
  have hbrace : '}' ∉ layout.printOpen node := by
    have hlabel : '}' ∉ node.label := not_mem_of_word hnode.label (by decide)
    have htype : '}' ∉ node.type := not_mem_of_word hnode.type (by decide)
    have hbody := brace_not_mem_printProperties layout.property hnode.property
    simp [NodeLayout.printOpen, NodeLayout.printBody, brace_not_mem_gap, hlabel, htype, hbody]
  have hsplit : layout.print node ++ rest = layout.beforeLabel.1 ++
      (layout.printOpen node ++ '}' :: ';' :: (layout.afterEnd.1 ++ rest)) := by
    simp [NodeLayout.print]
  rw [hsplit, Source.blocks_append_of_blank layout.beforeLabel.2,
    Source.blocks_append_of_opens hopens hbrace,
    Source.blocks_append_of_blank layout.afterEnd.2]

theorem commentFree_printNode_append (layout : NodeLayout) (hnode : node.Printable) {rest : Text}
    (hrest : CommentFree rest) : CommentFree (layout.print node ++ rest) := by
  have hend : CommentFree (layout.beforeEnd.1 ++ '}' :: ';' :: (layout.afterEnd.1 ++ rest)) := by
    rw [commentFree_append_of_not_mem (slash_not_mem_gap _), commentFree_cons (by decide),
      commentFree_cons (by decide), commentFree_append_of_not_mem (slash_not_mem_gap _)]
    exact hrest
  have hbody := commentFree_printProperties_append layout.property hnode.property hend
  have hlabel : '/' ∉ node.label := not_mem_of_word hnode.label (by decide)
  have htype : '/' ∉ node.type := not_mem_of_word hnode.type (by decide)
  simpa [NodeLayout.print, NodeLayout.printOpen, NodeLayout.printBody, commentFree_cons,
    commentFree_append_of_not_mem, slash_not_mem_gap, hlabel, htype] using hbody

end Nodes

/-! ### Documents -/

section Documents

variable {nodes : List Node}

theorem commentFree_printNodes (layout : Nat → NodeLayout)
    (hnodes : ∀ node ∈ nodes, node.Printable) : CommentFree (printNodes layout nodes) := by
  induction nodes generalizing layout with
  | nil => exact commentFree_nil
  | cons node nodes ih =>
    rw [List.forall_mem_cons] at hnodes
    exact commentFree_printNode_append (layout 0) hnodes.1 (ih _ hnodes.2)

theorem map_ofBlock_blocks_printNodes (layout : Nat → NodeLayout)
    (hnodes : ∀ node ∈ nodes, node.Printable) :
    (blocks (printNodes layout nodes)).map Node.ofBlock = nodes := by
  induction nodes generalizing layout with
  | nil => rfl
  | cons node nodes ih =>
    rw [List.forall_mem_cons] at hnodes
    rw [printNodes, blocks_print_append (layout 0) hnodes.1, List.map_cons,
      ofBlock_printBody (layout 0) hnodes.1, ih _ hnodes.2]

/-- Nodes that can be printed are read back from what was printed, under every layout. -/
theorem ofSource_printNodes (layout : Nat → NodeLayout)
    (hnodes : ∀ node ∈ nodes, node.Printable) :
    Node.ofSource (printNodes layout nodes) = nodes := by
  rw [Node.ofSource, Source.Comment.strip_eq_self (commentFree_printNodes layout hnodes)]
  exact map_ofBlock_blocks_printNodes layout hnodes

/-- A node with keys that hold signs of an assignment, an opening brace and a slash at the end. -/
def led : Node where
  label := "led0".toList
  type := "gpio".toList
  properties := [("a=1;\x7b".toList, .integer 13), ("b/".toList, .quoted [' ']),
    ("c".toList, .token "007".toList), ("d".toList, .token "&x".toList)]

/-- A layout with a line for each property. -/
def linewise : NodeLayout where
  property := fun i ↦
    { beforeKey := if i = 0 then ⟨"\n  ".toList, by decide⟩ else ⟨"\n\t".toList, by decide⟩ }
  beforeEnd := ⟨['\n'], by decide⟩

/-- Neither the signs in a key nor the lines of the layout keep the node from being read back. -/
theorem ofSource_printNodes_led :
    led.Printable ∧ Node.ofSource (printNodes (fun _ ↦ linewise) [led]) = [led] := by
  have hled : led.Printable := ⟨by decide, by decide, by decide, by decide⟩
  exact ⟨hled, ofSource_printNodes _ (List.forall_mem_singleton.mpr hled)⟩

example : linewise.print led =
    "led0:gpio\x7b\n  a=1;\x7b =<13>;\n\tb/ =\" \";\n\tc =007;\n\td =<&x>;\n\x7d;".toList := by
  decide

end Documents

end DevicetreeHeader
