import DevicetreeHeader.Proofs.Keyed.FirstOccurrence
import DevicetreeHeader.Proofs.Node.Names
import DevicetreeHeader.Proofs.Source.CommentPasses
import DevicetreeHeader.Proofs.Source.Excerpts
import Mathlib.Algebra.Group.Int.Defs

/-!
# Well-formed nodes

Whatever the source, the nodes that are read from it are well formed (`wellFormed_of_mem_ofSource`).
Their labels and types are words and their keys distinct runs; an integer fits into a signed word of
64 bits and is not negative; and a key and the content of a value hold nothing that would have ended
them: no closing brace, no `//`, and in a content no semicolon either.

Keys and contents are excerpts of the code, which is the reason for all of the last part. The
classification of a value takes something off at its ends at most (`classify_cases`).
-/

set_option autoImplicit false
set_option relaxedAutoImplicit false

namespace DevicetreeHeader

open Source.Comment (lineMark strip)

/-- A text as it may stand in a body: without a closing brace and without `//`. -/
def BodyText (text : Text) : Prop :=
  '}' ∉ text ∧ ¬ lineMark <:+: text

instance (text : Text) : Decidable (BodyText text) :=
  inferInstanceAs (Decidable (_ ∧ _))

theorem BodyText.of_infix {text longer : Text} (hlonger : BodyText longer)
    (hstretch : text <:+: longer) : BodyText text :=
  ⟨fun hmem ↦ hlonger.1 (hstretch.subset hmem), fun hmark ↦ hlonger.2 (hmark.trans hstretch)⟩

theorem bodyText_of_mem_blocks {text : Text} {block : Source.Block}
    (hblock : block ∈ Source.blocks (strip text)) : BodyText block.body := by
  obtain ⟨hstretch, hbrace⟩ := Source.excerpt_of_mem_blocks hblock
  exact ⟨hbrace, fun hmark ↦
    Source.Comment.not_lineMark_infix_removeLines _ (hmark.trans hstretch)⟩

namespace Value

/-- An integer that a signed word of 64 bits can hold and that is not negative, or a content that
could stand in a value. -/
def WellFormed : Value → Prop
  | integer number => 0 ≤ number ∧ number < 2 ^ 63
  | quoted content | token content => ';' ∉ content ∧ BodyText content

theorem infix_of_cell? {raw content : Text} (hcell : cell? raw = some content) :
    content <:+: raw := by
  unfold cell? at hcell
  split at hcell
  · rename_i rest
    obtain ⟨-, hcontent⟩ := Option.ite_none_right_eq_some.mp hcell
    rw [← Option.some.inj hcontent]
    exact (List.dropLast_prefix rest).isInfix.trans (List.suffix_cons '<' rest).isInfix
  · cases hcell

theorem le_largest_of_decimal? {text : Text} {number : Nat}
    (hdecimal : decimal? text = some number) :
    number ≤ largest := by
  unfold decimal? at hdecimal
  obtain ⟨-, hsmall⟩ := Option.ite_none_right_eq_some.mp hdecimal
  obtain ⟨hle, hnumber⟩ := Option.ite_none_right_eq_some.mp hsmall
  rwa [Option.some.inj hnumber] at hle

/-- Classifying gives an integer of a signed word, or an excerpt of the raw text. -/
theorem classify_cases (raw : Text) :
    (∃ number : Nat, number ≤ largest ∧ classify raw = integer number) ∨
      ∃ content, content <:+: raw ∧
        (classify raw = quoted content ∨ classify raw = token content) := by
  unfold classify
  split
  · rename_i content hcell
    split
    · rename_i number hdecimal
      exact Or.inl ⟨number, le_largest_of_decimal? hdecimal, rfl⟩
    · exact Or.inr ⟨content, infix_of_cell? hcell, Or.inr rfl⟩
  · split
    · refine Or.inr ⟨raw.tail.dropLast, ?_, Or.inl rfl⟩
      exact (List.dropLast_prefix raw.tail).isInfix.trans (List.tail_suffix raw).isInfix
    · exact Or.inr ⟨raw, List.infix_rfl, Or.inr rfl⟩

theorem wellFormed_classify {raw : Text} (hsemicolon : ';' ∉ raw) (hraw : BodyText raw) :
    (classify raw).WellFormed := by
  rcases classify_cases raw with ⟨number, hle, hvalue⟩ | ⟨content, hstretch, hvalue⟩
  · rw [hvalue]
    exact ⟨Int.natCast_nonneg number, Int.ofNat_lt.mpr (Nat.lt_succ_of_le hle)⟩
  · have hcontent : ';' ∉ content ∧ BodyText content :=
      ⟨fun hmem ↦ hsemicolon (hstretch.subset hmem), hraw.of_infix hstretch⟩
    rcases hvalue with hquoted | htoken
    · rw [hquoted]
      exact hcontent
    · rw [htoken]
      exact hcontent

end Value

namespace Node

/-- A node with words for its names, distinct runs for its keys, and nothing in its keys and values
that could not stand in a body. -/
structure WellFormed (node : Node) : Prop extends Named node where
  nodup : node.properties.keys.Nodup
  keyText : ∀ property ∈ node.properties, BodyText property.1
  value : ∀ property ∈ node.properties, property.2.WellFormed

theorem nodup_keys_ofBlock (block : Source.Block) : (ofBlock block).properties.keys.Nodup := by
  rw [ofBlock_eq, Keyed.keys_ofList]
  exact nodup_eraseDups _

/-- Every node that is read from a text is well formed. -/
theorem wellFormed_of_mem_ofSource {text : Text} {node : Node} (hnode : node ∈ ofSource text) :
    node.WellFormed := by
  have hnamed := named_of_mem_ofSource hnode
  obtain ⟨block, hblock, rfl⟩ := List.mem_map.mp hnode
  have hbody := bodyText_of_mem_blocks hblock
  refine ⟨hnamed, nodup_keys_ofBlock block, fun property hproperty ↦ ?_,
    fun property hproperty ↦ ?_⟩
  · obtain ⟨assignment, hassignment, rfl⟩ := exists_of_mem_properties hproperty
    exact hbody.of_infix (Source.excerpt_of_mem_assignments _ _ hassignment).key
  · obtain ⟨assignment, hassignment, rfl⟩ := exists_of_mem_properties hproperty
    have hexcerpt := Source.excerpt_of_mem_assignments _ _ hassignment
    exact Value.wellFormed_classify hexcerpt.semicolon (hbody.of_infix hexcerpt.value)

/-- A source with a stray brace, an equals sign in a key and another in a comment, a number with
leading zeros, a value on two lines, a lone double quote, and text that assigns nothing. -/
def untidySource : Text :=
  "\x7d; é1:t\x7bk=/*=*/a=<007>; k = \"x\ny\" z; #c=\"; q\x7d; u".toList

/-- The node of an untidy source. -/
def untidyNode : Node where
  label := "é1".toList
  type := "t".toList
  properties :=
    [("k=a".toList, .integer 7), ("k".toList, .token "\"x\ny\" z".toList),
      ("#c".toList, .quoted [])]

theorem wellFormed_untidyNode :
    untidyNode ∈ ofSource untidySource ∧ untidyNode.WellFormed := by
  have hmem : untidyNode ∈ ofSource untidySource := by decide +kernel
  exact ⟨hmem, wellFormed_of_mem_ofSource hmem⟩

end Node

end DevicetreeHeader
