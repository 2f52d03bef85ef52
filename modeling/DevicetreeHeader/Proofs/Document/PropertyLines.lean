import DevicetreeHeader.Proofs.Header.Grouping
import DevicetreeHeader.Proofs.Header.Lines
import DevicetreeHeader.Proofs.Header.MacroSegment
import DevicetreeHeader.Proofs.Node.Names

/-!
# A line for each property

A document is meant to have one line for each property of each node (`documentLines`), and then the
number of its lines can be told from the nodes. Whatever the source is, nothing but a value can get
in the way: labels, types and keys have no line ends, nor have the prefix and the guard if they are
set without. A value, however, may be spread over several lines in the source, and then it is so in
the document, too. The document is as it is meant to be exactly if no property has such a value
(`lines_convert`).
-/

set_option autoImplicit false
set_option relaxedAutoImplicit false

namespace DevicetreeHeader

open Header (openingLines closingLines typeLine sectionLines types definitionsOf)
open Text (unlines)

/-! ### The lines of nodes -/

/-- The line of a property. -/
def propertyLine (options : Options) (node : Node) (property : Text × Value) : Text :=
  "#define ".toList ++ (options.macroPrefix ++ '_' :: macroSegment node.label ++ '_' ::
    macroSegment property.1) ++ ' ' :: property.2.rendered

/-- The lines of a document: the banner, the guard, and for each type an empty line, the line of the
type and a line for each property of each node of that type. -/
def documentLines (options : Options) (nodes : List Node) : List Text :=
  Header.banner :: (openingLines options.includeGuard ++
    (types nodes).flatMap (fun type ↦ [] :: typeLine type ::
      (nodes.filter (·.type = type)).flatMap fun node ↦
        node.properties.map (propertyLine options node)) ++
    closingLines options.includeGuard)

/-- A document with the lines of its nodes, which are one, two and the number of macros for each
section, and four for a guard. -/
structure OneLineEach (options : Options) (text : Text) : Prop where
  lines : Text.lines (convert options text) = documentLines options (Node.ofSource text)
  length : (Text.lines (convert options text)).length =
    1 + ((Header.ofNodes options (Node.ofSource text)).sections.map fun part ↦
      2 + part.definitions.length).sum + if options.includeGuard.isSome then 4 else 0

section Writing

variable (options : Options)

theorem map_line_definitionsOf (nodes : List Node) (type : Text) :
    (definitionsOf options nodes type).map Definition.line =
      (nodes.filter (·.type = type)).flatMap fun node ↦
        node.properties.map (propertyLine options node) := by
  rw [definitionsOf, List.map_flatMap]
  congr 1
  funext node
  rw [Definition.ofNode, List.map_map]
  rfl

theorem lines_ofNodes (nodes : List Node) :
    (Header.ofNodes options nodes).lines = documentLines options nodes := by
  have hsection : ∀ type, sectionLines ⟨type, definitionsOf options nodes type⟩ =
      [] :: typeLine type :: (nodes.filter (·.type = type)).flatMap fun node ↦
        node.properties.map (propertyLine options node) := by
    intro type
    rw [sectionLines, map_line_definitionsOf]
  rw [Header.lines, Header.sections_ofNodes, List.flatMap_map, documentLines]
  simp only [hsection]
  rfl

/-- A document is always written line by line. -/
theorem convert_eq_unlines (text : Text) :
    convert options text = unlines (documentLines options (Node.ofSource text)) := by
  rw [convert, Header.text_eq_unlines, lines_ofNodes]

end Writing

/-! ### The line ends in them -/

section Reading

variable {options : Options} (hfirst : '\n' ∉ options.macroPrefix)
  (hguard : ∀ guard ∈ options.includeGuard, '\n' ∉ guard)

include hfirst in
/-- The name of a macro has no line end. -/
theorem newline_mem_propertyLine_iff {node : Node} (hnode : node.Named) {property : Text × Value}
    (hproperty : property ∈ node.properties) :
    '\n' ∈ propertyLine options node property ↔ '\n' ∈ property.2.rendered := by
  have hlabel : '\n' ∉ macroSegment node.label :=
    newline_not_mem_macroSegment (Text.not_mem_of_word hnode.label (by decide))
  have hkey : '\n' ∉ macroSegment property.1 := by
    refine newline_not_mem_macroSegment fun hmem ↦ ?_
    exact absurd ((hnode.key property hproperty).2 '\n' hmem) (by decide)
  show '\n' ∈ "#define ".toList ++ (options.macroPrefix ++ '_' :: macroSegment node.label ++
    '_' :: macroSegment property.1) ++ ' ' :: property.2.rendered ↔ _
  simp [hfirst, hlabel, hkey]

include hguard in
/-- A line that was written has a line end only if it is that of a property. -/
theorem exists_propertyLine_of_newline_mem {nodes : List Node} (hnodes : ∀ node ∈ nodes, node.Named)
    {line : Text} (hline : line ∈ documentLines options nodes) (hbreak : '\n' ∈ line) :
    ∃ node ∈ nodes, ∃ property ∈ node.properties, line = propertyLine options node property := by
  rw [documentLines, List.mem_cons, List.mem_append, List.mem_append, List.mem_flatMap] at hline
  rcases hline with rfl | (hopening | ⟨type, htype, hsection⟩) | hclosing
  · exact absurd hbreak (by decide)
  · cases hset : options.includeGuard with
    | none => simp [hset, openingLines] at hopening
    | some guard =>
      have hplain := hguard guard hset
      rcases (by simpa [hset, openingLines] using hopening) with rfl | rfl
      · simp [hplain] at hbreak
      · simp [hplain] at hbreak
  · rw [List.mem_cons, List.mem_cons, List.mem_flatMap] at hsection
    rcases hsection with rfl | rfl | ⟨node, hnode, hproperty⟩
    · simp at hbreak
    · obtain ⟨node, hnode, rfl⟩ := List.mem_map.mp (List.mem_eraseDups.mp htype)
      have hplain : '\n' ∉ node.type := Text.not_mem_of_word (hnodes node hnode).type (by decide)
      simp [typeLine, hplain] at hbreak
    · obtain ⟨property, hmem, rfl⟩ := List.mem_map.mp hproperty
      exact ⟨node, (List.mem_filter.mp hnode).1, property, hmem, rfl⟩
  · cases hset : options.includeGuard with
    | none => simp [hset, closingLines] at hclosing
    | some guard =>
      have hplain := hguard guard hset
      rcases (by simpa [hset, closingLines] using hclosing) with rfl | rfl
      · simp at hbreak
      · simp [hplain] at hbreak

theorem propertyLine_mem_documentLines {nodes : List Node} {node : Node} (hnode : node ∈ nodes)
    {property : Text × Value} (hproperty : property ∈ node.properties) :
    propertyLine options node property ∈ documentLines options nodes := by
  have htype : node.type ∈ types nodes :=
    List.mem_eraseDups.mpr (List.mem_map.mpr ⟨node, hnode, rfl⟩)
  have hline : propertyLine options node property ∈
      node.properties.map (propertyLine options node) := List.mem_map.mpr ⟨property, hproperty, rfl⟩
  have hof : node ∈ nodes.filter (·.type = node.type) := List.mem_filter.mpr ⟨hnode, by simp⟩
  refine List.mem_cons_of_mem _ (List.mem_append_left _ (List.mem_append_right _ ?_))
  refine List.mem_flatMap.mpr ⟨node.type, htype, ?_⟩
  exact List.mem_cons_of_mem _ (List.mem_cons_of_mem _ (List.mem_flatMap.mpr ⟨node, hof, hline⟩))

include hfirst hguard

/-- Only the value of a property can break a line that was written, and the document has one line
for each property exactly if no value does. -/
theorem lines_convert (text : Text) :
    Text.lines (convert options text) =
        (documentLines options (Node.ofSource text)).flatMap (List.splitOn '\n') ∧
      (∀ line ∈ documentLines options (Node.ofSource text), '\n' ∈ line →
        ∃ node ∈ Node.ofSource text, ∃ property ∈ node.properties,
          line = propertyLine options node property ∧ '\n' ∈ property.2.rendered) ∧
      (OneLineEach options text ↔ ∀ node ∈ Node.ofSource text, ∀ property ∈ node.properties,
        '\n' ∉ property.2.rendered) := by
  have hnamed : ∀ node ∈ Node.ofSource text, node.Named :=
    fun node hnode ↦ Node.named_of_mem_ofSource hnode
  have hbreak : ∀ line ∈ documentLines options (Node.ofSource text), '\n' ∈ line →
      ∃ node ∈ Node.ofSource text, ∃ property ∈ node.properties,
        line = propertyLine options node property ∧ '\n' ∈ property.2.rendered := by
    intro line hline hmem
    obtain ⟨node, hnode, property, hproperty, rfl⟩ :=
      exists_propertyLine_of_newline_mem hguard hnamed hline hmem
    exact ⟨node, hnode, property, hproperty, rfl,
      (newline_mem_propertyLine_iff hfirst (hnamed node hnode) hproperty).mp hmem⟩
  have hcount : (documentLines options (Node.ofSource text)).length =
      1 + ((Header.ofNodes options (Node.ofSource text)).sections.map fun part ↦
        2 + part.definitions.length).sum + if options.includeGuard.isSome then 4 else 0 := by
    rw [← lines_ofNodes, Header.length_lines]
    rfl
  have hlines : Text.lines (convert options text) =
      (documentLines options (Node.ofSource text)).flatMap (List.splitOn '\n') := by
    rw [convert_eq_unlines, Text.lines_unlines]
  refine ⟨hlines, hbreak, ?_, ?_⟩
  · intro heach node hnode property hproperty hmem
    have hlength := heach.length
    rw [convert_eq_unlines, ← hcount, Text.length_lines_unlines_eq_iff] at hlength
    exact hlength _ (propertyLine_mem_documentLines hnode hproperty)
      ((newline_mem_propertyLine_iff hfirst (hnamed node hnode) hproperty).mpr hmem)
  · intro hvalues
    have hplain : ∀ line ∈ documentLines options (Node.ofSource text), '\n' ∉ line := by
      intro line hline hmem
      obtain ⟨node, hnode, property, hproperty, -, hvalue⟩ := hbreak line hline hmem
      exact hvalues node hnode property hproperty hvalue
    rw [Text.flatMap_splitOn hplain] at hlines
    exact ⟨hlines, by rw [hlines, hcount]⟩

end Reading

/-- A source with line ends wherever there may be any but in a value. -/
def spreadSource : Text :=
  "a\n:\nt\n\x7b\nk\n=\n<1>\n;\n\x7d;\n".toList

/-- The line ends of a source do not get into the document, with or without a guard, unless they
stand in a value. -/
theorem oneLineEach_spreadSource :
    '\n' ∉ "BOARD".toList ∧ (∀ guard ∈ some "BOARD_H".toList, '\n' ∉ guard) ∧
      OneLineEach ⟨"BOARD".toList, some "BOARD_H".toList⟩ spreadSource := by
  have hnodes : Node.ofSource spreadSource = [⟨['a'], ['t'], [(['k'], .integer 1)]⟩] := by
    decide +kernel
  have hfirst : '\n' ∉ "BOARD".toList := by decide
  have hguard : ∀ guard ∈ some "BOARD_H".toList, '\n' ∉ guard := by simp
  refine ⟨hfirst, hguard, (lines_convert hfirst hguard spreadSource).2.2.mpr ?_⟩
  rw [hnodes]
  decide

/-- A token of two lines makes a definition of two lines. -/
theorem not_oneLineEach_of_broken_token :
    ¬ OneLineEach {} "a: t \x7b k = x\ny; \x7d;".toList := by
  have hnodes : Node.ofSource "a: t \x7b k = x\ny; \x7d;".toList =
      [⟨['a'], ['t'], [(['k'], .token ['x', '\n', 'y'])]⟩] := by
    decide +kernel
  intro heach
  have hlength := heach.length
  rw [convert, hnodes] at hlength
  exact absurd hlength (by decide)

end DevicetreeHeader
