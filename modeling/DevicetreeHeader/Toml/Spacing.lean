import DevicetreeHeader.Text.Basic

/-!
# Spaces, line ends and comments of TOML

Spaces and tabs separate what stands in a line. A line ends with a line feed, before which a
carriage return may stand, and a comment may precede its end. No control character other than the
tab may stand in a comment.
-/

set_option autoImplicit false
set_option relaxedAutoImplicit false

namespace DevicetreeHeader.Toml

/-- Whether a character is a space or a tab. -/
def isSpace (c : Char) : Bool :=
  c == ' ' || c == '\t'

/-- Whether a character may stand in a comment or, as itself, in a string: no control character of
ASCII other than the tab. -/
def isPlain (c : Char) : Bool :=
  c == '\t' || (0x20 ≤ c.toNat && c.toNat != 0x7F)

/-- The text after the spaces at its start. -/
def skipSpaces (text : Text) : Text :=
  text.dropWhile isSpace

/-- The text after a given character. -/
def symbol? (c : Char) : Text → Option Text
  | first :: rest => if first = c then some rest else none
  | [] => none

/-- The text after the line end at its start. -/
def newline? : Text → Option Text
  | '\n' :: rest => some rest
  | '\r' :: '\n' :: rest => some rest
  | _ => none

/-- The text after a comment at its start, or the text itself. -/
def skipComment : Text → Text
  | '#' :: rest => rest.dropWhile isPlain
  | text => text

/-- The text after the end of a line of which only spaces and a comment may be left. The end of the
text ends a line too. -/
def lineEnd? (text : Text) : Option Text :=
  match skipComment (skipSpaces text) with
  | [] => some []
  | rest => newline? rest

theorem length_skipSpaces (text : Text) : (skipSpaces text).length ≤ text.length :=
  (List.dropWhile_sublist isSpace).length_le

theorem length_skipComment (text : Text) : (skipComment text).length ≤ text.length := by
  unfold skipComment
  split
  · exact Nat.le_succ_of_le (List.dropWhile_sublist isPlain).length_le
  · exact Nat.le_refl _

theorem length_newline? {text rest : Text} (h : newline? text = some rest) :
    rest.length < text.length := by
  unfold newline? at h
  split at h
  · simp only [Option.some.injEq] at h
    rw [← h, List.length_cons]
    exact Nat.lt_succ_self _
  · simp only [Option.some.injEq] at h
    rw [← h, List.length_cons, List.length_cons]
    exact Nat.lt_succ_of_lt (Nat.lt_succ_self _)
  · cases h

/-- The text after the spaces, line ends and comments at its start. -/
def skipLines (text : Text) : Text :=
  match _h : newline? (skipComment (skipSpaces text)) with
  | some rest => skipLines rest
  | none => skipSpaces text
termination_by text.length
decreasing_by
  have := length_newline? _h
  have := length_skipComment (skipSpaces text)
  have := length_skipSpaces text
  omega

end DevicetreeHeader.Toml
