import DevicetreeHeader.Header.Basic
import DevicetreeHeader.Proofs.Text.Lines

/-!
# The lines of a header

A header is written line by line (`text_eq_unlines`): the banner, two lines that open the guard, for
each section an empty line, the line of its type and a line for each definition, and an empty line
and one that closes the guard. The document is put together from pieces in which the line ends stand
at the start as often as at the end of what they separate.
-/

set_option autoImplicit false
set_option relaxedAutoImplicit false

namespace DevicetreeHeader.Header

open Text (unlines)

/-- The lines that open the guard. -/
def openingLines : Option Text → List Text
  | some guard => ["#ifndef ".toList ++ guard, "#define ".toList ++ guard]
  | none => []

/-- The lines that close the guard. -/
def closingLines : Option Text → List Text
  | some guard => [[], "#endif /* ".toList ++ guard ++ " */".toList]
  | none => []

/-- The line of the type of a section. -/
def typeLine (type : Text) : Text :=
  ['/', '*', '*', ' '] ++ type ++ [' ', '*', '*', '/']

/-- The lines of a section. -/
def sectionLines (part : Section) : List Text :=
  [] :: typeLine part.type :: part.definitions.map Definition.line

/-- The lines of a header. -/
def lines (header : Header) : List Text :=
  banner :: (openingLines header.guard ++ header.sections.flatMap sectionLines ++
    closingLines header.guard)

/-- Line ends before the definitions and one after them all are one before them all and line ends
after the definitions. -/
theorem flatten_definitions (definitions : List Definition) :
    (definitions.flatMap fun definition ↦ [['\n'], definition.line]).flatten ++ ['\n'] =
      '\n' :: unlines (definitions.map Definition.line) := by
  induction definitions with
  | nil => rfl
  | cons definition definitions ih =>
    rw [List.flatMap_cons, List.flatten_append, List.append_assoc, ih, List.map_cons,
      Text.unlines_cons]
    simp

theorem flatten_sectionPieces (part : Section) :
    (sectionPieces part).flatten = unlines (sectionLines part) := by
  rw [sectionPieces, List.append_assoc, List.flatten_append, List.flatten_append,
    List.flatten_singleton, flatten_definitions, sectionLines, Text.unlines_cons, Text.unlines_cons,
    typeLine]
  simp

theorem flatten_sections (sections : List Section) :
    (sections.flatMap sectionPieces).flatten = unlines (sections.flatMap sectionLines) := by
  induction sections with
  | nil => rfl
  | cons part sections ih =>
    rw [List.flatMap_cons, List.flatten_append, flatten_sectionPieces, ih, List.flatMap_cons,
      Text.unlines_append]

/-- A header is written line by line. -/
theorem text_eq_unlines (header : Header) : header.text = unlines header.lines := by
  rw [text, pieces, List.flatten_append, List.flatten_append, List.flatten_append,
    List.flatten_cons, lines, Text.unlines_cons, Text.unlines_append, Text.unlines_append,
    ← flatten_sections]
  cases header.guard with
  | none => simp [openingLines, closingLines, unlines]
  | some guard => simp [openingLines, closingLines, unlines]

/-- The banner, two lines and the definitions of each section, and four lines of a guard. -/
theorem length_lines (header : Header) : header.lines.length =
    1 + (header.sections.map fun part ↦ 2 + part.definitions.length).sum +
      if header.guard.isSome then 4 else 0 := by
  have hsections : header.sections.map (fun part ↦ (sectionLines part).length) =
      header.sections.map fun part ↦ 2 + part.definitions.length := by
    refine List.map_congr_left fun part _ ↦ ?_
    rw [sectionLines, List.length_cons, List.length_cons, List.length_map]
    omega
  rw [lines, List.length_cons, List.length_append, List.length_append, List.length_flatMap,
    hsections]
  cases header.guard with
  | none =>
    rw [openingLines, closingLines, Option.isSome_none, if_neg Bool.false_ne_true, List.length_nil]
    omega
  | some guard =>
    rw [openingLines, closingLines, Option.isSome_some, if_pos rfl, List.length_cons,
      List.length_cons, List.length_cons, List.length_cons, List.length_nil]
    omega

end DevicetreeHeader.Header
