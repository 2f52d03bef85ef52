import DevicetreeHeader.Proofs.Header.Lines
import DevicetreeHeader.Proofs.Text.Marker
import Mathlib.Data.List.Basic

/-!
# Reading a header back

A document is read back line by line (`ofText?`). Its empty lines cut it into paragraphs: the banner
with the lines that open a guard, one paragraph for each section, and the line that closes the
guard. No other line is empty, so that the paragraphs of a header are the same whatever its values
look like (`splitOn_lines`), and the first paragraph tells whether the last one belongs to a guard.
Within a line, the first space behind `#define ` ends the name.

A header is plain if nothing in it can be taken for the end of a line or of a name. A plain header
is what is read from its document, and so no two of them have the same document
(`text_determines_header`).
-/

set_option autoImplicit false
set_option relaxedAutoImplicit false

namespace DevicetreeHeader

open Text (cut?)

/-! ### Plain headers -/

/-- A definition on one line, with the first space behind its name. -/
structure Definition.Plain (definition : Definition) : Prop where
  name : '\n' ∉ definition.name
  space : ' ' ∉ definition.name
  value : '\n' ∉ definition.value

/-- A section with its type on one line. -/
structure Section.Plain (part : Section) : Prop where
  type : '\n' ∉ part.type
  definitions : ∀ definition ∈ part.definitions, definition.Plain

/-- A header with its guard on one line. -/
structure Header.Plain (header : Header) : Prop where
  guard : ∀ guard ∈ header.guard, '\n' ∉ guard
  sections : ∀ part ∈ header.sections, part.Plain

instance (definition : Definition) : Decidable definition.Plain :=
  decidable_of_iff ('\n' ∉ definition.name ∧ ' ' ∉ definition.name ∧ '\n' ∉ definition.value)
    ⟨fun ⟨hname, hspace, hvalue⟩ ↦ ⟨hname, hspace, hvalue⟩, fun h ↦ ⟨h.name, h.space, h.value⟩⟩

instance (part : Section) : Decidable part.Plain :=
  decidable_of_iff ('\n' ∉ part.type ∧ ∀ definition ∈ part.definitions, definition.Plain)
    ⟨fun ⟨htype, hdefinitions⟩ ↦ ⟨htype, hdefinitions⟩, fun h ↦ ⟨h.type, h.definitions⟩⟩

instance (header : Header) : Decidable header.Plain :=
  decidable_of_iff ((∀ guard ∈ header.guard, '\n' ∉ guard) ∧ ∀ part ∈ header.sections, part.Plain)
    ⟨fun ⟨hguard, hsections⟩ ↦ ⟨hguard, hsections⟩, fun h ↦ ⟨h.guard, h.sections⟩⟩

namespace Definition

/-- The definition of a line. -/
def ofLine? (line : Text) : Option Definition :=
  ((line.dropPrefix? "#define ".toList).bind (cut? [' '])).map fun cut ↦ ⟨cut.1, cut.2⟩

theorem line_eq (definition : Definition) :
    definition.line = "#define ".toList ++ definition.name ++ ' ' :: definition.value :=
  rfl

theorem ofLine?_line {definition : Definition} (hspace : ' ' ∉ definition.name) :
    ofLine? definition.line = some definition := by
  rw [ofLine?, line_eq, List.append_assoc, List.dropPrefix?_append_of_beq _ (beq_self_eq_true _),
    Option.bind_some, Text.cut?_append_cons hspace]
  rfl

theorem newline_not_mem_line {definition : Definition} (hplain : definition.Plain) :
    '\n' ∉ definition.line := by
  simp [line_eq, hplain.name, hplain.value]

end Definition

namespace Header

/-! ### Paragraphs -/

/-- The lines of a section behind the empty one. -/
def sectionParagraph (part : Section) : List Text :=
  typeLine part.type :: part.definitions.map Definition.line

/-- The paragraphs of a header behind the first. -/
def laterParagraphs (header : Header) : List (List Text) :=
  header.sections.map sectionParagraph ++
    header.guard.toList.map fun guard ↦ ["#endif /* ".toList ++ guard ++ " */".toList]

/-- Empty lines stand between the paragraphs of a header. -/
theorem lines_eq_paragraphs (header : Header) : header.lines =
    (banner :: openingLines header.guard) ++ header.laterParagraphs.flatMap ([] :: ·) := by
  have hsections : header.sections.flatMap sectionLines =
      (header.sections.map sectionParagraph).flatMap ([] :: ·) := by
    rw [List.flatMap_map]
    rfl
  rw [lines, laterParagraphs, List.flatMap_append, ← hsections]
  cases header.guard <;> simp [closingLines]

theorem splitOn_paragraphs {first : List Text} {later : List (List Text)} (hfirst : [] ∉ first)
    (hlater : ∀ paragraph ∈ later, [] ∉ paragraph) :
    (first ++ later.flatMap ([] :: ·)).splitOn [] = first :: later := by
  induction later generalizing first with
  | nil => rw [List.flatMap_nil, List.append_nil, List.splitOn_eq_singleton hfirst]
  | cons paragraph later ih =>
    rw [List.forall_mem_cons] at hlater
    rw [List.flatMap_cons, List.cons_append, List.splitOn_append_cons_self_of_not_mem hfirst,
      ih hlater.1 hlater.2]

/-- The empty lines of a header are those between its paragraphs. -/
theorem splitOn_lines (header : Header) : header.lines.splitOn [] =
    (banner :: openingLines header.guard) :: header.laterParagraphs := by
  rw [lines_eq_paragraphs]
  refine splitOn_paragraphs ?_ fun paragraph hparagraph ↦ ?_
  · have hbanner : banner ≠ [] := by decide
    cases header.guard <;> simp [openingLines, hbanner.symm]
  · rcases List.mem_append.mp hparagraph with hpart | hclosing
    · obtain ⟨part, -, rfl⟩ := List.mem_map.mp hpart
      simp [sectionParagraph, typeLine, Definition.line_eq]
    · obtain ⟨guard, -, rfl⟩ := List.mem_map.mp hclosing
      simp

theorem newline_not_mem_lines {header : Header} (hplain : header.Plain) :
    ∀ line ∈ header.lines, '\n' ∉ line := by
  have hguard : ∀ line ∈ openingLines header.guard ++ closingLines header.guard, '\n' ∉ line := by
    cases hset : header.guard with
    | none => simp [openingLines, closingLines]
    | some guard => simp [openingLines, closingLines, hplain.guard guard hset]
  intro line hline
  rw [lines, List.mem_cons, List.mem_append, List.mem_append, List.mem_flatMap] at hline
  rcases hline with rfl | (hopening | ⟨part, hpart, hsection⟩) | hclosing
  · decide
  · exact hguard line (List.mem_append_left _ hopening)
  · rw [sectionLines, List.mem_cons, List.mem_cons, List.mem_map] at hsection
    have hplain := hplain.sections part hpart
    rcases hsection with rfl | rfl | ⟨definition, hdefinition, rfl⟩
    · exact List.not_mem_nil
    · simp [typeLine, hplain.type]
    · exact Definition.newline_not_mem_line (hplain.definitions definition hdefinition)
  · exact hguard line (List.mem_append_right _ hclosing)

/-! ### Reading -/

/-- The type in the line of a type. -/
def typeOfLine? (line : Text) : Option Text :=
  (line.dropPrefix? ['/', '*', '*', ' ']).bind (·.dropSuffix? [' ', '*', '*', '/'])

/-- The section of a paragraph. -/
def sectionOfParagraph? : List Text → Option Section
  | [] => none
  | first :: rest =>
    match typeOfLine? first, rest.mapM Definition.ofLine? with
    | some type, some definitions => some ⟨type, definitions⟩
    | _, _ => none

/-- The header of its paragraphs. With a guard the first one has three lines, and the last one
closes the guard. -/
def ofParagraphs? : List (List Text) → Option Header
  | [_] :: later => (later.mapM sectionOfParagraph?).map fun sections ↦ ⟨sections, none⟩
  | [_, line, _] :: later =>
    match line.dropPrefix? "#ifndef ".toList, later.dropLast.mapM sectionOfParagraph? with
    | some guard, some sections => some ⟨sections, some guard⟩
    | _, _ => none
  | _ => none

/-- The header of a document. -/
def ofText? (text : Text) : Option Header :=
  ofParagraphs? ((Text.lines text).splitOn [])

theorem typeOfLine?_typeLine (type : Text) : typeOfLine? (typeLine type) = some type := by
  rw [typeOfLine?, typeLine, List.append_assoc,
    List.dropPrefix?_append_of_beq _ (beq_self_eq_true _), Option.bind_some,
    List.dropSuffix?_eq_some_iff]
  exact ⟨_, rfl, beq_self_eq_true _⟩

/-- A list of written items is read if every item is. -/
theorem mapM_map_eq_some {α β : Type} {write : α → β} {read : β → Option α} {items : List α}
    (hread : ∀ item ∈ items, read (write item) = some item) :
    (items.map write).mapM read = some items := by
  induction items with
  | nil => rfl
  | cons item items ih =>
    rw [List.forall_mem_cons] at hread
    rw [List.map_cons, List.mapM_cons, hread.1, ih hread.2]
    rfl

theorem sectionOfParagraph?_sectionParagraph {part : Section} (hplain : part.Plain) :
    sectionOfParagraph? (sectionParagraph part) = some part := by
  have hdefinitions : (part.definitions.map Definition.line).mapM Definition.ofLine? =
      some part.definitions :=
    mapM_map_eq_some fun definition hdefinition ↦
      Definition.ofLine?_line (hplain.definitions definition hdefinition).space
  rw [sectionParagraph, sectionOfParagraph?, typeOfLine?_typeLine, hdefinitions]

theorem ofText?_text {header : Header} (hplain : header.Plain) :
    ofText? header.text = some header := by
  have hsections : (header.sections.map sectionParagraph).mapM sectionOfParagraph? =
      some header.sections :=
    mapM_map_eq_some fun part hpart ↦
      sectionOfParagraph?_sectionParagraph (hplain.sections part hpart)
  rw [ofText?, text_eq_unlines, Text.lines_unlines,
    Text.flatMap_splitOn (newline_not_mem_lines hplain), splitOn_lines, laterParagraphs]
  obtain ⟨sections, guard⟩ := header
  cases guard with
  | none => simp [ofParagraphs?, openingLines, hsections]
  | some guard =>
    have hguard : ("#ifndef ".toList ++ guard).dropPrefix? "#ifndef ".toList = some guard :=
      List.dropPrefix?_append_of_beq _ (beq_self_eq_true _)
    simp only [openingLines, Option.toList_some, List.map_cons, List.map_nil, ofParagraphs?, hguard,
      List.dropLast_concat, hsections]

/-- A plain header is what is read from its document, and no other plain header has this
document. -/
theorem text_determines_header {header : Header} (hplain : header.Plain) :
    ofText? header.text = some header ∧
      ∀ other : Header, other.Plain → other.text = header.text → other = header := by
  have hread := ofText?_text hplain
  refine ⟨hread, fun other hother htext ↦ ?_⟩
  have hread' := ofText?_text hother
  rw [htext, hread] at hread'
  exact (Option.some.inj hread').symm

/-- A header with a guard that looks like a comment, a section without definitions, and definitions
without a name, without a value, and with a value that looks like other lines. -/
def crowdedHeader : Header where
  sections :=
    [⟨"t **/".toList, []⟩,
      ⟨[], [⟨[], "#define A /** t **/".toList⟩, ⟨"#endif".toList, []⟩]⟩]
  guard := some "*/ #define".toList

/-- The same sections without the guard make another document. -/
theorem text_determines_crowdedHeader :
    crowdedHeader.Plain ∧ { crowdedHeader with guard := none }.Plain ∧
    ofText? crowdedHeader.text = some crowdedHeader ∧
    { crowdedHeader with guard := none }.text ≠ crowdedHeader.text := by
  have hplain : crowdedHeader.Plain := by decide
  have hother : { crowdedHeader with guard := none }.Plain := by decide
  obtain ⟨hread, hunique⟩ := text_determines_header hplain
  exact ⟨hplain, hother, hread, fun htext ↦ absurd (hunique _ hother htext) (by decide)⟩

end Header

end DevicetreeHeader
