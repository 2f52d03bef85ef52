import DevicetreeHeader.Header.Basic
import DevicetreeHeader.Proofs.Source.CommentSeams

/-!
# Stripping a stripped text

A stripped text has no `//` in it, and the line pass puts no `/*` and no `*/` together that were
apart before. What a second stripping may still find is a block comment that the first one made, of
a `/` and a `*` that met where a comment was deleted. The second stripping changes the text exactly
if there is one (`strip_strip_eq_self_iff`). Where no `/` and no `*` meet, a stripped text is free
of comments but for an opener that is never closed (`stripped_of_nothing_meets`).

A document does not depend on whether its comments were stripped beforehand as long as the stripped
text holds no closed block comment. The text `//**/* a: t { k = <1>; }; */` is one where it does.
-/

set_option autoImplicit false
set_option relaxedAutoImplicit false

namespace DevicetreeHeader

namespace Source.Comment

/-- The line pass closes no block comment that was not closed before. -/
theorem hasBlock_of_hasBlock_removeLines {text : Text} (hblock : HasBlock (removeLines text)) :
    HasBlock text := by
  obtain ⟨before, body, after, hout⟩ := hblock
  obtain ⟨before', inside, rfl, hinside⟩ :=
    exists_mark_of_removeLines_eq (by decide) (by decide) hout
  obtain ⟨body', after', rfl, -⟩ :=
    exists_mark_of_removeLines_eq (by decide) (by decide) hinside
  exact ⟨before', body', after', rfl⟩

/-! ### The second stripping -/

/-- A block comment in a stripped text starts with a slash and a star that met over comments. -/
theorem exists_meetsBefore_of_hasBlock_strip {text : Text} (hblock : HasBlock (strip text)) :
    ∃ after, MeetsBefore text after ∧ closer <:+: after.filterMap Part.kept? :=
  (hasBlock_removeBlocks_iff text).mp (hasBlock_of_hasBlock_removeLines hblock)

/-- Stripping a second time changes nothing exactly if the stripped text holds no closed block
comment. -/
theorem strip_strip_eq_self_iff (text : Text) :
    strip (strip text) = strip text ↔ ¬ HasBlock (strip text) := by
  rw [← removeBlocks_eq_self_iff]
  constructor
  · intro hself
    have hlines := removeLines_sublist (removeBlocks (strip text))
    rw [← strip, hself] at hlines
    exact (removeBlocks_sublist (strip text)).eq_of_length_le hlines.length_le
  · intro hself
    rw [strip, hself]
    exact removeLines_eq_self (not_lineMark_infix_removeLines (removeBlocks text))

/-! ### What meets nowhere -/

/-- A slash and a star meet over comments exactly if behind some kept slash the first character that
is kept is a star, and does not follow at once. -/
theorem exists_meetsBefore_iff (text : Text) :
    (∃ after, MeetsBefore text after) ↔ ∃ rest ∈ (parts text).tails,
      rest.head? = some (.kept '/') ∧ rest.tail.head? ≠ some (.kept '*') ∧
        (rest.tail.dropWhile fun part ↦ part.kept?.isNone).head? = some (.kept '*') := by
  constructor
  · rintro ⟨after, before, comments, hparts, hne, hdeleted⟩
    refine ⟨.kept '/' :: (comments ++ .kept '*' :: after),
      (List.mem_tails _ _).mpr ⟨before, hparts.symm⟩, rfl, ?_, ?_⟩
    · obtain ⟨part, later, rfl⟩ := List.exists_cons_of_ne_nil hne
      intro hstar
      have hkept := hdeleted part List.mem_cons_self
      rw [List.tail_cons, List.cons_append, List.head?_cons, Option.some.injEq] at hstar
      simp [hstar, Part.kept?] at hkept
    · have hcomments : ∀ part ∈ comments, part.kept?.isNone = true :=
        fun part hpart ↦ Option.isNone_iff_eq_none.mpr (hdeleted part hpart)
      rw [List.tail_cons, List.dropWhile_append_of_pos hcomments]
      rfl
  · rintro ⟨rest, hrest, hslash, hnext, hstar⟩
    obtain ⟨tail, rfl⟩ := List.head?_eq_some_iff.mp hslash
    obtain ⟨before, hparts⟩ := (List.mem_tails _ _).mp hrest
    obtain ⟨after, hafter⟩ := List.head?_eq_some_iff.mp hstar
    rw [List.tail_cons] at hnext hafter
    have hsplit := List.takeWhile_append_dropWhile (p := fun part : Part ↦ part.kept?.isNone)
      (l := tail)
    rw [hafter] at hsplit
    refine ⟨after, before, tail.takeWhile fun part ↦ part.kept?.isNone, ?_, ?_, ?_⟩
    · rw [hsplit, hparts]
    · intro hnone
      rw [hnone, List.nil_append] at hsplit
      exact hnext (by rw [← hsplit]; rfl)
    · intro part hpart
      exact Option.isNone_iff_eq_none.mp (List.all_eq_true.mp List.all_takeWhile part hpart)

instance (text : Text) : Decidable (∃ after, MeetsBefore text after) :=
  decidable_of_iff' _ (exists_meetsBefore_iff text)

end Source.Comment

/-! ### The document of a stripped text -/

open Source.Comment (strip HasBlock MeetsBefore Part closer removeBlocks_eq_self_iff)

/-- Stripping beforehand changes a stripped text exactly if it holds a closed block comment, which
starts with a slash and a star that met over deleted comments. If it holds none, neither the nodes
nor their events nor the document depend on whether the comments were stripped beforehand. -/
theorem convert_strip (text : Text) :
    (HasBlock (strip text) ↔ strip (strip text) ≠ strip text) ∧
      (HasBlock (strip text) →
        ∃ after, MeetsBefore text after ∧ closer <:+: after.filterMap Part.kept?) ∧
      (¬ HasBlock (strip text) →
        Node.ofSource (strip text) = Node.ofSource text ∧
          Node.sourceEvents (strip text) = Node.sourceEvents text ∧
          ∀ options, convert options (strip text) = convert options text) := by
  have hself := Source.Comment.strip_strip_eq_self_iff text
  refine ⟨⟨fun hblock hsame ↦ hself.mp hsame hblock, fun hchanged ↦ ?_⟩,
    Source.Comment.exists_meetsBefore_of_hasBlock_strip, fun hblock ↦ ?_⟩
  · exact Classical.not_not.mp fun hblock ↦ hchanged (hself.mpr hblock)
  have hstrip := hself.mpr hblock
  have hnodes : Node.ofSource (strip text) = Node.ofSource text := by
    rw [Node.ofSource, hstrip, ← Node.ofSource]
  refine ⟨hnodes, ?_, fun options ↦ ?_⟩
  · rw [Node.sourceEvents, hstrip, ← Node.sourceEvents]
  · rw [convert, convert, hnodes]

/-- A comment inside a key leaves no comment. -/
theorem convert_strip_of_split_key :
    ¬ HasBlock (strip "a: t { k/* key */1 = <1>; }; // end".toList) ∧
      ∀ options, convert options (strip "a: t { k/* key */1 = <1>; }; // end".toList) =
        convert options "a: t { k/* key */1 = <1>; }; // end".toList := by
  have hblock : ¬ HasBlock (strip "a: t { k/* key */1 = <1>; }; // end".toList) := by
    refine (removeBlocks_eq_self_iff _).mp ?_
    decide +kernel
  exact ⟨hblock, ((convert_strip _).2.2 hblock).2.2⟩

/-- An empty comment stands between a slash and a star. When they have met they open a comment that
hides the block. -/
theorem convert_strip_ne :
    convert {} (strip "//**/* a: t { k = <1>; }; */".toList) ≠
      convert {} "//**/* a: t { k = <1>; }; */".toList := by
  have hstripped : Node.ofSource (strip "//**/* a: t { k = <1>; }; */".toList) = [] := by
    decide +kernel
  have hnodes : Node.ofSource "//**/* a: t { k = <1>; }; */".toList =
      [⟨['a'], ['t'], [(['k'], .integer 1)]⟩] := by
    decide +kernel
  rw [convert, convert, hstripped, hnodes]
  decide

open Source.Comment (lineMark)

/-- A stripped text holds no `//`. If no slash and no star of the text met over comments, it holds
no closed block comment either, stripping it once more changes nothing, and the nodes are the same
whether or not the comments were stripped beforehand. -/
theorem stripped_of_nothing_meets (text : Text) :
    ¬ lineMark <:+: strip text ∧
      ((¬ ∃ after, MeetsBefore text after) →
        ¬ HasBlock (strip text) ∧ strip (strip text) = strip text ∧
          Node.ofSource (strip text) = Node.ofSource text) := by
  refine ⟨Source.Comment.not_lineMark_infix_removeLines _, fun hmeets ↦ ?_⟩
  have hblock : ¬ HasBlock (strip text) := by
    intro hblock
    obtain ⟨after, hafter, -⟩ := Source.Comment.exists_meetsBefore_of_hasBlock_strip hblock
    exact hmeets ⟨after, hafter⟩
  have hstrip := (Source.Comment.strip_strip_eq_self_iff text).mpr hblock
  exact ⟨hblock, hstrip, by rw [Node.ofSource, hstrip, ← Node.ofSource]⟩

/-- Comments between a slash and a digit and between a bracket and a star, a stray closer, and an
opener that is never closed and has a line comment behind it. -/
def seamedSource : Text :=
  "a: t \x7b k = 1//* of *//**/2; j = </* p */*>*/; \x7d; /* // end".toList

theorem stripped_seamedSource : (¬ ∃ after, MeetsBefore seamedSource after) ∧
    strip seamedSource = "a: t \x7b k = 1/2; j = <*>*/; \x7d; /* ".toList ∧
    ¬ HasBlock (strip seamedSource) ∧ strip (strip seamedSource) = strip seamedSource ∧
    Node.ofSource (strip seamedSource) = Node.ofSource seamedSource := by
  have hmeets : ¬ ∃ after, MeetsBefore seamedSource after := by decide +kernel
  exact ⟨hmeets, by decide +kernel, (stripped_of_nothing_meets seamedSource).2 hmeets⟩

end DevicetreeHeader
