import DevicetreeHeader.Node
import DevicetreeHeader.Text.Uppercase

/-!
# Headers

A header defines one macro for each property of each node. The nodes of one type share a section,
and the sections follow the first occurrences of the types. A macro is named after the prefix, the
label and the key.

`Header.ofNodes` builds a header, `Header.collisions` finds the names that it defines twice, and
`Header.text` is its document, the concatenation of `Header.pieces`.
-/

set_option autoImplicit false
set_option relaxedAutoImplicit false

namespace DevicetreeHeader

/-- A label or a key as a segment of a macro name: in upper case, with underscores for hyphens. -/
def macroSegment (name : Text) : Text :=
  (Text.upper name).map fun c ↦ if c = '-' then '_' else c

/-- One macro with its value. -/
structure Definition where
  name : Text
  value : Text
  deriving DecidableEq, Repr

namespace Definition

/-- The line of a definition. -/
def line (definition : Definition) : Text :=
  "#define ".toList ++ definition.name ++ ' ' :: definition.value

/-- The definitions that a node makes. -/
def ofNode (options : Options) (node : Node) : List Definition :=
  node.properties.map fun property ↦
    { name := options.macroPrefix ++ '_' :: macroSegment node.label ++ '_' ::
        macroSegment property.1
      value := property.2.rendered }

end Definition

/-- The definitions of the nodes of one type. -/
structure Section where
  type : Text
  definitions : List Definition
  deriving DecidableEq, Repr

/-- A document of macro definitions. -/
structure Header where
  sections : List Section
  guard : Option Text := none
  deriving DecidableEq, Repr

namespace Header

/-- The first line of every header. -/
def banner : Text :=
  "/* Auto-generated devicetree header */".toList

/-- Adds the definitions of a node to those of its type. -/
def addNode (options : Options) (groups : Keyed (List Definition)) (node : Node) :
    Keyed (List Definition) :=
  groups.put node.type ((groups.get? node.type).getD [] ++ Definition.ofNode options node)

/-- The header of a list of nodes. -/
def ofNodes (options : Options) (nodes : List Node) : Header where
  sections := (nodes.foldl (addNode options) []).map fun group ↦ ⟨group.1, group.2⟩
  guard := options.includeGuard

/-- The names that a header defines, in order. -/
def names (header : Header) : List Text :=
  header.sections.flatMap fun part ↦ part.definitions.map Definition.name

/-- Counts one more definition of a name. -/
def countName (counts : Keyed Nat) (name : Text) : Keyed Nat :=
  counts.put name ((counts.get? name).getD 0 + 1)

/-- The names that are defined more than once, in the order of their first definitions. -/
def collisions (header : Header) : List Text :=
  (header.names.foldl countName []).filterMap fun entry ↦
    if 1 < entry.2 then some entry.1 else none

/-- The pieces of a section: an empty line, its type, and a line for each definition. -/
def sectionPieces (part : Section) : List Text :=
  ["\n/** ".toList, part.type, " **/".toList] ++
    part.definitions.flatMap (fun definition ↦ [['\n'], definition.line]) ++ [['\n']]

/-- The pieces of the document in the order in which they are written. -/
def pieces (header : Header) : List Text :=
  banner ::
    (match header.guard with
      | some guard => ["\n#ifndef ".toList, guard, "\n#define ".toList, guard]
      | none => []) ++
    [['\n']] ++ header.sections.flatMap sectionPieces ++
    (match header.guard with
      | some guard => ["\n#endif /* ".toList, guard, " */".toList, ['\n']]
      | none => [])

/-- The document. -/
def text (header : Header) : Text :=
  header.pieces.flatten

end Header

/-- The document for a source text. -/
def convert (options : Options) (text : Text) : Text :=
  (Header.ofNodes options (Node.ofSource text)).text

end DevicetreeHeader
