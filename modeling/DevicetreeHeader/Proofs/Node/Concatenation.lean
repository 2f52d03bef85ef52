import DevicetreeHeader.Node
import DevicetreeHeader.Proofs.Source.CommentSeams
import DevicetreeHeader.Proofs.Source.Opening

/-!
# Concatenating sources

A source that is complete in itself (`Source.Complete`) may stand before any other source. It
consists of whole lines, so that no line comment reaches over its end; the block pass closes every
comment that it opens in it; and what is left of it breaks off between two blocks, so that neither a
header nor a body that it starts goes on in the other source. The code of both sources is then the
code of the one and the code of the other (`strip_append`), and the search for blocks starts anew at
the seam (`blocks_append`), whatever the other source holds.

Complete sources put together are complete (`Complete.append`), and so the nodes of any number of
them are the nodes of each in turn (`ofSource_flatten`).
-/

set_option autoImplicit false
set_option relaxedAutoImplicit false

namespace DevicetreeHeader

open Text (Blank)

namespace Source

/-! ### Whole lines -/

/-- A text of whole lines: the last one has its line end, too. -/
def WholeLines (text : Text) : Prop :=
  text = [] ∨ text.getLast? = some '\n'

instance (text : Text) : Decidable (WholeLines text) :=
  inferInstanceAs (Decidable (_ ∨ _))

theorem WholeLines.append {first second : Text} (hfirst : WholeLines first)
    (hsecond : WholeLines second) : WholeLines (first ++ second) := by
  rcases hsecond with rfl | hlast
  · rwa [List.append_nil]
  · exact Or.inr (by rw [List.getLast?_append, hlast, Option.some_or])

namespace Comment

/-- The block pass deletes nothing but comments, and they end in slashes. -/
theorem wholeLines_removeBlocks {text : Text} (htext : WholeLines text) :
    WholeLines (removeBlocks text) := by
  rcases List.eq_nil_or_concat (parts text) with hparts | ⟨front, part, hparts⟩
  · exact Or.inl (by rw [removeBlocks_eq_filterMap, hparts, List.filterMap_nil])
  · have hlast : text.getLast? = some '\n' := by
      refine htext.resolve_left ?_
      rintro rfl
      simp [parts] at hparts
    rw [← flatMap_text_parts text, hparts] at hlast
    cases part with
    | deleted body => simp [Part.text, closer] at hlast
    | kept c =>
      right
      rw [removeBlocks_eq_filterMap, hparts]
      simpa [Part.text, Part.kept?] using hlast

theorem Apart.of_wholeLines {before : Text} (hbefore : WholeLines before) (after : Text) :
    Apart before after := by
  rintro ⟨hslash, -⟩
  obtain ⟨front, hparts⟩ := List.getLast?_eq_some_iff.mp hslash
  have htext := flatMap_text_parts before
  rw [hparts, List.flatMap_append] at htext
  rcases hbefore with rfl | hlast
  · simp [Part.text] at htext
  · rw [← htext] at hlast
    simp [Part.text] at hlast

theorem removeLines_append_of_wholeLines {before : Text} (hbefore : WholeLines before)
    (after : Text) : removeLines (before ++ after) = removeLines before ++ removeLines after := by
  rcases hbefore with rfl | hlast
  · simp [removeLines]
  · obtain ⟨front, rfl⟩ := List.getLast?_eq_some_iff.mp hlast
    rw [List.append_assoc, List.singleton_append, removeLines_append_newline,
      removeLines_append_newline]
    simp [removeLines]

theorem strip_append {first : Text} (hlines : WholeLines first) (hclosed : Closed first)
    (second : Text) : strip (first ++ second) = strip first ++ strip second := by
  rw [strip, removeBlocks_append hclosed (.of_wholeLines hlines second),
    removeLines_append_of_wholeLines (wholeLines_removeBlocks hlines), ← strip, ← strip]

end Comment

/-! ### Between two blocks -/

/-- A code that breaks off between two blocks: it is blank, or a closed body comes last in it. -/
def BetweenBlocks (code : Text) : Prop :=
  Blank code ∨ ∃ front gap, Blank gap ∧ code = front ++ '}' :: ';' :: gap

theorem BetweenBlocks.append {first second : Text} (hfirst : BetweenBlocks first)
    (hsecond : BetweenBlocks second) : BetweenBlocks (first ++ second) := by
  rcases hsecond with hblank | ⟨front, gap, hgap, rfl⟩
  · rcases hfirst with hblank' | ⟨front, gap, hgap, rfl⟩
    · exact Or.inl fun c hc ↦ (List.mem_append.mp hc).elim (hblank' c) (hblank c)
    · refine Or.inr ⟨front, gap ++ second, ?_, by simp⟩
      exact fun c hc ↦ (List.mem_append.mp hc).elim (hgap c) (hblank c)
  · exact Or.inr ⟨first ++ front, gap, hgap, by simp⟩

theorem blocks_of_blank {gap : Text} (hgap : Blank gap) : blocks gap = [] :=
  blocks_of_not_mem (Text.not_mem_of_blank hgap (by decide))

/-- A semicolon behind a closing brace ends a block or nothing; no block goes on after it. -/
theorem blocks_append_closing (front rest : Text) :
    blocks (front ++ '}' :: ';' :: rest) = blocks (front ++ ['}', ';']) ++ blocks rest := by
  have hsemicolon : ∀ rest, blocks (';' :: rest) = blocks rest :=
    blocks_cons_of_not_isWord (by decide) (by decide)
  induction hlength : front.length using Nat.strongRecOn generalizing front with
  | _ length ih =>
    by_cases hbrace : '}' ∈ front
    · obtain ⟨piece, later, rfl, hpiece⟩ := List.eq_append_cons_of_mem hbrace
      have hlater := ih later.length (by simp [← hlength]; omega) later rfl
      have hhead : (later ++ '}' :: ';' :: rest).head? = (later ++ ['}', ';']).head? := by
        cases later <;> rfl
      rw [List.append_assoc, List.cons_append, blocks_append_brace hpiece, hhead, hlater,
        List.append_assoc, List.cons_append, blocks_append_brace hpiece, List.append_assoc]
    · rw [blocks_append_brace hbrace, blocks_append_brace hbrace, hsemicolon, hsemicolon,
        blocks_of_not_mem List.not_mem_nil, List.append_nil]
      rfl

theorem blocks_append {code : Text} (hcode : BetweenBlocks code) (rest : Text) :
    blocks (code ++ rest) = blocks code ++ blocks rest := by
  rcases hcode with hblank | ⟨front, gap, hgap, rfl⟩
  · rw [blocks_append_of_blank hblank, blocks_of_blank hblank, List.nil_append]
  · rw [List.append_assoc, List.cons_append, List.cons_append, blocks_append_closing,
      blocks_append_of_blank hgap, blocks_append_closing front gap, blocks_of_blank hgap,
      List.append_nil]

/-! ### Complete sources -/

open Comment (Closed strip strip_append)

/-- A source to which nothing need be added: it has whole lines, its block comments are closed, and
its code breaks off between two blocks. -/
structure Complete (text : Text) : Prop where
  wholeLines : WholeLines text
  closed : Closed text
  betweenBlocks : BetweenBlocks (strip text)

theorem complete_nil : Complete [] where
  wholeLines := Or.inl rfl
  closed := .nil
  betweenBlocks := Or.inl (by simp [strip, Comment.removeBlocks, Comment.removeLines, Blank])

/-- Complete sources put together are complete. -/
theorem Complete.append {first second : Text} (hfirst : Complete first)
    (hsecond : Complete second) : Complete (first ++ second) where
  wholeLines := hfirst.wholeLines.append hsecond.wholeLines
  closed := hfirst.closed.append hsecond.closed (.of_wholeLines hfirst.wholeLines second)
  betweenBlocks := by
    rw [strip_append hfirst.wholeLines hfirst.closed]
    exact hfirst.betweenBlocks.append hsecond.betweenBlocks

theorem Complete.nodes_append {first : Text} (hfirst : Complete first) (second : Text) :
    Node.ofSource (first ++ second) = Node.ofSource first ++ Node.ofSource second := by
  rw [Node.ofSource, strip_append hfirst.wholeLines hfirst.closed,
    blocks_append hfirst.betweenBlocks, List.map_append, ← Node.ofSource, ← Node.ofSource]

end Source

open Source (Complete)
open Source.Comment (strip strip_append)

/-- The code and the nodes of a complete source, and of any text behind it, are those of the one and
then those of the other. -/
theorem ofSource_append {first : Text} (hfirst : Complete first) (second : Text) :
    strip (first ++ second) = strip first ++ strip second ∧
      Node.ofSource (first ++ second) = Node.ofSource first ++ Node.ofSource second :=
  ⟨strip_append hfirst.wholeLines hfirst.closed second, hfirst.nodes_append second⟩

/-- A source with a block in a comment, a body that is closed in a line comment, and blank lines at
its end. -/
def completeSource : Text :=
  "/* a: t \x7b \x7d; */ b: t \x7b k = <1>;\n\x7d; // c: t \x7b \x7d;\n\n".toList

/-- A source that begins like the rest of a block, and in which a comment is left open. -/
def brokenSource : Text :=
  "k = <2>; \x7d; d: u \x7b k = <3>; \x7d; /* e: u \x7b".toList

/-- A broken source gives no nodes away to a complete one before it, and takes none from it. -/
theorem ofSource_append_broken : Complete completeSource ∧
    strip (completeSource ++ brokenSource) = strip completeSource ++ strip brokenSource ∧
    Node.ofSource (completeSource ++ brokenSource) =
      Node.ofSource completeSource ++ Node.ofSource brokenSource := by
  have hcode : strip completeSource = " b: t \x7b k = <1>;\n\x7d; \n\n".toList := by
    decide +kernel
  have hcomplete : Complete completeSource :=
    ⟨by decide, by decide +kernel, Or.inr ⟨" b: t \x7b k = <1>;\n".toList, " \n\n".toList,
      by decide, hcode⟩⟩
  exact ⟨hcomplete, ofSource_append hcomplete brokenSource⟩

/-- Complete sources in a row are complete together, and their nodes are the nodes of each. -/
theorem ofSource_flatten {sources : List Text} (hsources : ∀ source ∈ sources, Complete source) :
    Complete sources.flatten ∧ Node.ofSource sources.flatten = sources.flatMap Node.ofSource := by
  induction sources with
  | nil => exact ⟨Source.complete_nil, by decide +kernel⟩
  | cons source sources ih =>
    rw [List.forall_mem_cons] at hsources
    obtain ⟨hcomplete, hnodes⟩ := ih hsources.2
    rw [List.flatten_cons, List.flatMap_cons, ← hnodes]
    exact ⟨hsources.1.append hcomplete, hsources.1.nodes_append sources.flatten⟩

end DevicetreeHeader
