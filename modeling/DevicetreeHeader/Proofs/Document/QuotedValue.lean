import DevicetreeHeader.Proofs.Document.PropertyLines
import DevicetreeHeader.Proofs.Source.CommentFree
import DevicetreeHeader.Proofs.Source.CommentParts
import DevicetreeHeader.Proofs.Source.CommentSeams
import DevicetreeHeader.Proofs.Value.Spelling

/-!
# Quoted values

A source with one node and one property, whose value stands between double quotes
(`quotedSource`), is followed through all stages up to the document. What stands between the quotes
is source text like any other for the passes over comments. A closed block comment is taken out of
it; if there is a `//` in what is left then the rest of the source goes with it, and no node
remains. Otherwise the content gets into the document as the block pass leaves it.
-/

set_option autoImplicit false
set_option relaxedAutoImplicit false

namespace DevicetreeHeader

open Source (assignments blocks)
open Source.Comment
open Text (Word Blank unlines isBlank isWord cut?)

/-! ### Names in ASCII -/

/-- A non-empty text of ASCII letters, digits and the given marks. -/
def Name (marks : List Char) (name : Text) : Prop :=
  name ≠ [] ∧ ∀ c ∈ name, c.isAlphanum = true ∨ c ∈ marks

instance (marks : List Char) (name : Text) : Decidable (Name marks name) :=
  @instDecidableAnd _ _ inferInstance (List.decidableBAll _ name)

theorem Name.ascii {name : Text} (hname : Name ['_', '-'] name) : ∀ c ∈ name, c.toNat < 0x80 := by
  intro c hc
  rcases hname.2 c hc with halphanum | hmark
  · exact Nat.lt_of_le_of_lt (Text.toNat_of_isAlphanum halphanum).2 (by decide)
  · rw [List.mem_pair] at hmark
    rcases hmark with rfl | rfl
    · decide
    · decide

theorem Name.hyphenated {name : Text} (hname : Name ['_'] name) : Name ['_', '-'] name := by
  refine ⟨hname.1, fun c hc ↦ ?_⟩
  rcases hname.2 c hc with halphanum | hmark
  · exact Or.inl halphanum
  · exact Or.inr (List.mem_cons.mpr (Or.inl (List.mem_singleton.mp hmark)))

theorem Name.word {name : Text} (hname : Name ['_'] name) : Word name := by
  refine ⟨hname.1, fun c hc ↦ ?_⟩
  rw [isWord, if_pos (hname.hyphenated.ascii c hc), Bool.or_eq_true, beq_iff_eq]
  simpa using hname.2 c hc

/-- A name is without white space, and neither starts a comment nor closes a body. -/
theorem Name.apart {name : Text} (hname : Name ['_', '-'] name) :
    ∀ c ∈ name, isBlank c = false ∧ c ≠ '/' ∧ c ≠ '}' := by
  intro c hc
  rcases hname.2 c hc with halphanum | hmark
  · have hword : isWord c = true := by
      rw [isWord, if_pos (hname.ascii c hc), halphanum, Bool.true_or]
    have hpoint := Text.toNat_of_isAlphanum halphanum
    refine ⟨Text.isBlank_of_isWord hword, ?_, ?_⟩
    · rintro rfl
      exact absurd hpoint.1 (by decide)
    · rintro rfl
      exact absurd hpoint.2 (by decide)
  · rw [List.mem_pair] at hmark
    rcases hmark with rfl | rfl
    · decide
    · decide

/-! ### The source -/

/-- The source of one property up to the value. -/
def quotedFront (label type key : Text) : Text :=
  label ++ ": ".toList ++ type ++ " \x7b ".toList ++ key ++ " = ".toList

/-- The source of one property with a value between double quotes. -/
def quotedSource (label type key content : Text) : Text :=
  quotedFront label type key ++ '"' :: (content ++ '"' :: "; \x7d;".toList)

/-- The body of the node of such a source. -/
def quotedBody (key content : Text) : Text :=
  ' ' :: (key ++ " = ".toList ++ '"' :: (content ++ '"' :: "; ".toList))

/-- The document with the one section and the one macro of such a source. -/
def quotedDocument (label type key content : Text) : Text :=
  unlines [Header.banner, [], "/** ".toList ++ type ++ " **/".toList,
    "#define DT_".toList ++ label.map (fun c ↦ if c = '-' then '_' else c.toUpper) ++
      '_' :: key.map (fun c ↦ if c = '-' then '_' else c.toUpper) ++
      ' ' :: '"' :: (content ++ ['"'])]

section Stages

variable {label type key : Text} (hlabel : Name ['_'] label) (htype : Name ['_'] type)
  (hkey : Name ['_', '-'] key)
include hlabel htype hkey

theorem not_mem_quotedFront :
    '/' ∉ quotedFront label type key ∧ '}' ∉ quotedFront label type key := by
  have hfree : ∀ {name : Text}, Name ['_', '-'] name → '/' ∉ name ∧ '}' ∉ name := by
    intro name hname
    exact ⟨fun hmem ↦ (hname.apart '/' hmem).2.1 rfl, fun hmem ↦ (hname.apart '}' hmem).2.2 rfl⟩
  obtain ⟨hlabel, hlabel'⟩ := hfree hlabel.hyphenated
  obtain ⟨htype, htype'⟩ := hfree htype.hyphenated
  obtain ⟨hkey, hkey'⟩ := hfree hkey
  simp [quotedFront, hlabel, htype, hkey, hlabel', htype', hkey']

/-- The block pass works on the content alone. -/
theorem removeBlocks_quotedSource (content : Text) :
    removeBlocks (quotedSource label type key content) =
      quotedSource label type key (removeBlocks content) := by
  have hfront := (not_mem_quotedFront hlabel htype hkey).1
  have hquote : ¬ opener <+: '"' :: (content ++ '"' :: "; \x7d;".toList) := by simp [opener]
  rw [quotedSource, removeBlocks_append_left hfront, removeBlocks_cons hquote,
    removeBlocks_append_right (by decide) (by decide) (by decide), quotedSource]

theorem removeLines_quotedSource {content : Text} (hmark : ¬ lineMark <:+: content) :
    removeLines (quotedSource label type key content) = quotedSource label type key content := by
  have hfront := (not_mem_quotedFront hlabel htype hkey).1
  have hback : ¬ lineMark <:+: "; \x7d;".toList := by decide
  refine removeLines_eq_self ?_
  rw [quotedSource, Text.infix_append_cons (by decide), Text.infix_append_cons (by decide), not_or,
    not_or]
  exact ⟨fun hmem ↦ hfront (hmem.subset List.mem_cons_self), hmark, hback⟩

/-- A line comment in the content takes the end of the node with it. -/
theorem not_mem_removeLines_quotedSource {content : Text} (hline : '\n' ∉ content)
    (hbrace : '}' ∉ content) (hmark : lineMark <:+: content) :
    '}' ∉ removeLines (quotedSource label type key content) := by
  have hfront := (not_mem_quotedFront hlabel htype hkey).2
  have hne : lineMark ≠ [] := List.cons_ne_nil _ _
  cases hcut : cut? lineMark content with
  | none => exact absurd hmark ((Text.cut?_eq_none_iff hne).mp hcut)
  | some cut =>
    obtain ⟨before, comment⟩ := cut
    have hcontent := Text.append_of_cut? hcut
    rw [hcontent] at hline hbrace
    simp only [List.mem_append, not_or] at hline hbrace
    have hslash : (quotedFront label type key ++ '"' :: before).getLast? ≠ some '/' := by
      have hbefore := getLast?_of_cut?_lineMark hcut
      rw [List.getLast?_append, List.getLast?_cons, Option.some_or]
      cases hlast : before.getLast? with
      | none => simp
      | some c => simpa [hlast] using hbefore
    have hsplit : quotedSource label type key content =
        (quotedFront label type key ++ '"' :: before) ++
          (lineMark ++ (comment ++ '"' :: "; \x7d;".toList)) := by
      simp [quotedSource, hcontent]
    have hrest : '\n' ∉ comment ++ '"' :: "; \x7d;".toList := by simp [hline.2.2]
    rw [hsplit, removeLines_append_comment hslash hrest]
    intro hmem
    have hkept := (removeLines_sublist _).subset hmem
    simp [hfront, hbrace.1] at hkept

omit hlabel htype in
/-- The body holds one assignment, with the quotes in its value. -/
theorem assignments_quotedBody {content : Text} (hend : ';' ∉ content) :
    assignments (quotedBody key content) = [⟨key, '"' :: (content ++ ['"'])⟩] := by
  have hspace : Blank [' '] := by decide
  have hink : ∀ c ∈ key, isBlank c = false := fun c hc ↦ (hkey.apart c hc).1
  have hvalue : ';' ∉ [' '] ++ ('"' :: (content ++ ['"']) ++ []) := by simp [hend]
  have hfirst : ∀ c ∈ ('"' :: (content ++ ['"'])).head?, isBlank c = false :=
    Text.head?_cons_of_eq_false (by decide)
  have hlast : ∀ c ∈ ('"' :: (content ++ ['"'])).getLast?, isBlank c = false := by
    intro c hc
    rw [← List.cons_append, List.getLast?_concat, Option.mem_some_iff] at hc
    rw [← hc]
    decide
  have hsplit : quotedBody key content = [' '] ++ (key ++ ([' '] ++ '=' ::
      ([' '] ++ ('"' :: (content ++ ['"']) ++ []) ++ ';' :: [' ']))) := by
    simp [quotedBody]
  rw [hsplit, Source.assignments_append_of_blank hspace,
    Source.assignments_append hkey.1 hink hspace (List.cons_ne_nil _ _) (by simp) hvalue,
    Text.trimmed_between hspace Text.blank_nil (List.cons_ne_nil _ _) hfirst hlast,
    Source.assignments_of_blank hspace]

/-- The source holds one block. -/
theorem blocks_quotedSource {content : Text} (hbrace : '}' ∉ content) :
    blocks (quotedSource label type key content) = [⟨label, type, quotedBody key content⟩] := by
  have hspace : Blank [' '] := by decide
  have hopens : Source.Block.Opens
      (label ++ ([] ++ ':' :: ([' '] ++ (type ++ ([' '] ++ '{' :: quotedBody key content)))))
      ⟨label, type, quotedBody key content⟩ :=
    ⟨hlabel.word, htype.word, [], [' '], [' '], by decide, hspace, hspace, rfl⟩
  have hfront := (not_mem_quotedFront hlabel htype hkey).2
  have hpiece : '}' ∉
      label ++ ([] ++ ':' :: ([' '] ++ (type ++ ([' '] ++ '{' :: quotedBody key content)))) := by
    simp only [quotedFront, List.mem_append, not_or] at hfront
    simp [quotedBody, hfront, hbrace]
  have hsplit : quotedSource label type key content =
      label ++ ([] ++ ':' :: ([' '] ++ (type ++ ([' '] ++ '{' :: quotedBody key content)))) ++
        '}' :: ';' :: [] := by
    simp [quotedSource, quotedFront, quotedBody]
  rw [hsplit, Source.blocks_append_of_opens hopens hpiece,
    Source.blocks_of_not_mem List.not_mem_nil]

/-- The nodes of the source: none if a line comment in the content hides the end of the node. -/
theorem ofSource_quotedSource {content : Text} (hline : '\n' ∉ content) (hend : ';' ∉ content)
    (hbrace : '}' ∉ content) : Node.ofSource (quotedSource label type key content) =
      if lineMark <:+: removeBlocks content then []
      else [⟨label, type, [(key, .quoted (removeBlocks content))]⟩] := by
  have hkept := removeBlocks_sublist content
  have hline' : '\n' ∉ removeBlocks content := fun hmem ↦ hline (hkept.subset hmem)
  have hend' : ';' ∉ removeBlocks content := fun hmem ↦ hend (hkept.subset hmem)
  have hbrace' : '}' ∉ removeBlocks content := fun hmem ↦ hbrace (hkept.subset hmem)
  rw [Node.ofSource, strip, removeBlocks_quotedSource hlabel htype hkey]
  split
  · rename_i hmark
    rw [Source.blocks_of_not_mem
      (not_mem_removeLines_quotedSource hlabel htype hkey hline' hbrace' hmark), List.map_nil]
  · rename_i hmark
    rw [removeLines_quotedSource hlabel htype hkey hmark,
      blocks_quotedSource hlabel htype hkey hbrace', List.map_singleton, Node.ofBlock_eq,
      assignments_quotedBody hkey hend', List.map_singleton, Node.classified,
      Value.classify_quoted]
    rfl

omit htype in
theorem unlines_documentLines_quoted (content : Text) :
    unlines (documentLines {} [⟨label, type, [(key, .quoted content)]⟩]) =
      quotedDocument label type key content := by
  have hsection : Header.types [⟨label, type, [(key, .quoted content)]⟩] = [type] := by
    simp [Header.types, List.eraseDups_cons]
  have hline : propertyLine {} ⟨label, type, [(key, .quoted content)]⟩ (key, .quoted content) =
      "#define DT_".toList ++ label.map (fun c ↦ if c = '-' then '_' else c.toUpper) ++
        '_' :: key.map (fun c ↦ if c = '-' then '_' else c.toUpper) ++
        ' ' :: '"' :: (content ++ ['"']) := by
    rw [← macroSegment_of_ascii hlabel.hyphenated.ascii, ← macroSegment_of_ascii hkey.ascii]
    show "#define ".toList ++ ("DT".toList ++ '_' :: macroSegment label ++ '_' ::
      macroSegment key) ++ ' ' :: ('"' :: content ++ ['"']) = _
    simp
  have htype : Header.typeLine type = "/** ".toList ++ type ++ " **/".toList := by
    simp [Header.typeLine]
  rw [documentLines, hsection, quotedDocument, ← hline, ← htype]
  simp [Header.openingLines, Header.closingLines]

end Stages

theorem unlines_banner_ne_quotedDocument (label type key content : Text) :
    unlines [Header.banner] ≠ quotedDocument label type key content := by
  intro heq
  have hlines := congrArg List.length heq
  rw [quotedDocument, Text.unlines_cons, Text.unlines_cons] at hlines
  simp [unlines] at hlines

/-- A document shows the content that it was made with. -/
theorem quotedDocument_inj {label type key first second : Text}
    (heq : quotedDocument label type key first = quotedDocument label type key second) :
    first = second := by
  simpa [quotedDocument, unlines] using heq

/-- A quoted value gets into the document without its closed block comments, unless a line comment
in what is left of it hides the end of the node. It gets there as it is exactly if it holds neither
a closed block comment nor a `//`. Nothing is asked of double quotes and opening braces in it. -/
theorem convert_quotedSource {label type key content : Text} (hlabel : Name ['_'] label)
    (htype : Name ['_'] type) (hkey : Name ['_', '-'] key) (hline : '\n' ∉ content)
    (hend : ';' ∉ content) (hbrace : '}' ∉ content) :
    convert {} (quotedSource label type key content) =
        (if lineMark <:+: removeBlocks content then unlines [Header.banner]
        else quotedDocument label type key (removeBlocks content)) ∧
      (convert {} (quotedSource label type key content) = quotedDocument label type key content ↔
        ¬ lineMark <:+: content ∧ ¬ HasBlock content) := by
  have hconvert : convert {} (quotedSource label type key content) =
      if lineMark <:+: removeBlocks content then unlines [Header.banner]
      else quotedDocument label type key (removeBlocks content) := by
    rw [convert_eq_unlines, ofSource_quotedSource hlabel htype hkey hline hend hbrace]
    split
    · rfl
    · exact unlines_documentLines_quoted hlabel hkey (removeBlocks content)
  refine ⟨hconvert, ?_⟩
  rw [hconvert, ← removeBlocks_eq_self_iff]
  constructor
  · intro hsame
    split at hsame
    · exact absurd hsame (unlines_banner_ne_quotedDocument label type key content)
    · rename_i hmark
      have hself := quotedDocument_inj hsame
      rw [hself] at hmark
      exact ⟨hmark, hself⟩
  · rintro ⟨hmark, hself⟩
    rw [hself, if_neg hmark]

/-- A path, and a comment that is opened and never closed, are no comments. -/
theorem convert_quotedSource_path :
    (Name ['_'] "uart0".toList ∧ Name ['_'] "serial".toList ∧
      Name ['_', '-'] "current-path".toList ∧ '\n' ∉ "/soc/uart /* open".toList ∧
      ';' ∉ "/soc/uart /* open".toList ∧ '}' ∉ "/soc/uart /* open".toList) ∧
    convert {} (quotedSource "uart0".toList "serial".toList "current-path".toList
        "/soc/uart /* open".toList) =
      quotedDocument "uart0".toList "serial".toList "current-path".toList
        "/soc/uart /* open".toList := by
  have hnames : Name ['_'] "uart0".toList ∧ Name ['_'] "serial".toList ∧
      Name ['_', '-'] "current-path".toList := by decide +kernel
  have hcontent : '\n' ∉ "/soc/uart /* open".toList ∧ ';' ∉ "/soc/uart /* open".toList ∧
      '}' ∉ "/soc/uart /* open".toList := by decide
  obtain ⟨hlabel, htype, hkey⟩ := hnames
  obtain ⟨hline, hend, hbrace⟩ := hcontent
  have hmark : ¬ lineMark <:+: "/soc/uart /* open".toList := by decide +kernel
  have hblock : ¬ HasBlock "/soc/uart /* open".toList := by
    refine (removeBlocks_eq_self_iff _).mp ?_
    decide +kernel
  exact ⟨⟨hlabel, htype, hkey, hline, hend, hbrace⟩,
    (convert_quotedSource hlabel htype hkey hline hend hbrace).2.mpr ⟨hmark, hblock⟩⟩

/-- Two slashes in a string hide the end of the node. -/
theorem convert_quotedSource_slashes :
    (Name ['_'] ['a'] ∧ Name ['_'] ['t'] ∧ Name ['_', '-'] ['k']) ∧
    ('"' ∉ "x//y".toList ∧ ';' ∉ "x//y".toList ∧ '{' ∉ "x//y".toList ∧ '}' ∉ "x//y".toList ∧
      '\n' ∉ "x//y".toList) ∧
    convert {} (quotedSource ['a'] ['t'] ['k'] "x//y".toList) ≠
      quotedDocument ['a'] ['t'] ['k'] "x//y".toList := by
  have hnodes : Node.ofSource (quotedSource ['a'] ['t'] ['k'] "x//y".toList) = [] := by
    decide +kernel
  refine ⟨by decide, by decide, ?_⟩
  rw [convert, hnodes]
  exact unlines_banner_ne_quotedDocument _ _ _ _

end DevicetreeHeader
