import DevicetreeHeader.Header.Basic
import DevicetreeHeader.Proofs.Source.CommentSeams

/-!
# Inserting a comment

A comment put into a source changes neither the nodes nor the document (`SameCode`), wherever it is
put: between two tokens, inside one, inside a string, on a line that is commented out.
What stands before it must not leave a block comment open, since the new comment would be part of
that one. What stands on the two sides of a block comment must not make a new opener when it meets,
and what stands before a line comment must not end in a slash, or the comment would start earlier.
-/

set_option autoImplicit false
set_option relaxedAutoImplicit false

namespace DevicetreeHeader

namespace Source.Comment

open Text (cut?)

/-- A body without `*/` in it ends at the first `*/` after it. -/
theorem cut?_closer_append {body : Text} (hbody : ¬ closer <:+: body) (after : Text) :
    cut? closer (body ++ (closer ++ after)) = some (body, after) := by
  induction body with
  | nil => exact Text.cut?_append_self (List.cons_ne_nil _ _) after
  | cons c body ih =>
    rw [List.infix_cons_iff, not_or] at hbody
    have hlong : ¬ closer <+: c :: (body ++ (closer ++ after)) := by
      rintro ⟨tail, htail⟩
      obtain ⟨rfl, hslash⟩ := List.cons_eq_cons.mp htail
      cases body with
      | nil => exact absurd (List.cons_eq_cons.mp hslash).1 (by decide)
      | cons d body =>
        obtain ⟨rfl, -⟩ := List.cons_eq_cons.mp hslash
        exact hbody.1 ⟨body, rfl⟩
    rw [List.cons_append, Text.cut?_cons hlong, ih hbody.2]
    rfl

section Insertion

variable {before body : Text} (hbefore : Closed before) (after : Text)
include hbefore

theorem strip_insert_block (hbody : ¬ closer <:+: body) (hapart : Apart before after) :
    strip (before ++ (opener ++ (body ++ (closer ++ after)))) = strip (before ++ after) := by
  have hopener : Apart before (opener ++ (body ++ (closer ++ after))) :=
    .of_head? (by simp [opener])
  rw [strip, strip, removeBlocks_append hbefore hopener,
    removeBlocks_of_closed (cut?_closer_append hbody after), removeBlocks_append hbefore hapart]

/-- The block pass passes over a line comment that holds no opener. -/
theorem removeBlocks_append_lineComment (hbody : ¬ opener <:+: lineMark ++ body) :
    removeBlocks (before ++ (lineMark ++ body ++ '\n' :: after)) =
      removeBlocks before ++ (lineMark ++ body ++ '\n' :: removeBlocks after) := by
  have hmark : Apart before (lineMark ++ body ++ '\n' :: after) := .of_head? (by simp [lineMark])
  have hend : Apart (lineMark ++ body) ('\n' :: after) := .of_head? (by simp)
  have hstarts : ¬ opener <+: '\n' :: after := by simp [opener]
  rw [removeBlocks_append hbefore hmark, removeBlocks_append (closed_of_no_opener hbody) hend,
    removeBlocks_eq_self hbody, removeBlocks_cons hstarts]

theorem strip_insert_line (hline : '\n' ∉ body) (hbody : ¬ opener <:+: lineMark ++ body)
    (hslash : before.getLast? ≠ some '/') :
    strip (before ++ (lineMark ++ body ++ '\n' :: after)) = strip (before ++ '\n' :: after) := by
  have hend : Apart before ('\n' :: after) := .of_head? (by simp)
  have hstarts : ¬ opener <+: '\n' :: after := by simp [opener]
  calc strip (before ++ (lineMark ++ body ++ '\n' :: after))
      = removeLines (removeBlocks before ++ (lineMark ++ body)) ++
          '\n' :: removeLines (removeBlocks after) := by
        rw [strip, removeBlocks_append_lineComment hbefore after hbody, ← List.append_assoc,
          removeLines_append_newline]
    _ = removeLines (removeBlocks before) ++ '\n' :: removeLines (removeBlocks after) := by
        rw [removeLines_append_comment (getLast?_removeBlocks hslash) hline]
    _ = strip (before ++ '\n' :: after) := by
        rw [strip, removeBlocks_append hbefore hend, removeBlocks_cons hstarts,
          removeLines_append_newline]

end Insertion

end Source.Comment

open Source.Comment

/-- Two sources that differ in their comments alone: stripping them leaves the same text, and they
are not told apart by their nodes, by the events of reading them or by any document of theirs. -/
structure SameCode (first second : Text) : Prop where
  strip : strip first = strip second
  nodes : Node.ofSource first = Node.ofSource second
  events : Node.sourceEvents first = Node.sourceEvents second
  document : ∀ options, convert options first = convert options second

theorem sameCode_of_strip_eq {first second : Text} (hstrip : strip first = strip second) :
    SameCode first second := by
  have hnodes : Node.ofSource first = Node.ofSource second := by
    rw [Node.ofSource, hstrip, ← Node.ofSource]
  refine ⟨hstrip, hnodes, ?_, fun options ↦ ?_⟩
  · rw [Node.sourceEvents, hstrip, ← Node.sourceEvents]
  · rw [convert, hnodes, ← convert]

/-- A block comment or a line comment may be put behind a closed text, whatever stands before and
after it, in the comment itself, and on its line. -/
theorem sameCode_insert_comment {before : Text} (hbefore : Closed before) (body after : Text) :
    (¬ closer <:+: body → Apart before after →
      SameCode (before ++ (opener ++ (body ++ (closer ++ after)))) (before ++ after)) ∧
    ('\n' ∉ body → ¬ opener <:+: lineMark ++ body → before.getLast? ≠ some '/' →
      SameCode (before ++ (lineMark ++ body ++ '\n' :: after)) (before ++ '\n' :: after)) := by
  constructor
  · intro hbody hapart
    exact sameCode_of_strip_eq (strip_insert_block hbefore after hbody hapart)
  · intro hline hbody hslash
    exact sameCode_of_strip_eq (strip_insert_line hbefore after hline hbody hslash)

/-- A source up to the middle of a string, with a comment in the string. -/
def openString : Text :=
  "a: t \x7b k = \"x/*/ **/y".toList

/-- The rest of the source, with a comment that is never closed. -/
def closeString : Text :=
  "\"; \x7d; /* end".toList

/-- A comment of stars and slashes may be put into the string. -/
theorem sameCode_insert_comment_in_string :
    Closed openString ∧ Apart openString closeString ∧
    (¬ closer <:+: "/ * /".toList ∧ ¬ opener <:+: lineMark ++ "/ * /".toList) ∧
    SameCode (openString ++ (opener ++ ("/ * /".toList ++ (closer ++ closeString))))
      (openString ++ closeString) ∧
    SameCode (openString ++ (lineMark ++ "/ * /".toList ++ '\n' :: closeString))
      (openString ++ '\n' :: closeString) := by
  have hbefore : Closed openString := by decide +kernel
  have hapart : Apart openString closeString := by decide +kernel
  have hcloser : ¬ closer <:+: "/ * /".toList := by decide
  have hopener : ¬ opener <:+: lineMark ++ "/ * /".toList := by decide
  obtain ⟨hblock, hline⟩ := sameCode_insert_comment hbefore "/ * /".toList closeString
  exact ⟨hbefore, hapart, ⟨hcloser, hopener⟩, hblock hcloser hapart,
    hline (by decide) hopener (by decide)⟩

/-- A slash and a star that are not apart make an opener when the comment between them is left
out. -/
example : strip "//**/* b */".toList = "/* b */".toList ∧ strip "/* b */".toList = [] := by
  decide +kernel

end DevicetreeHeader
