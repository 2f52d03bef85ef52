import DevicetreeHeader.Text.Blank
import DevicetreeHeader.Text.WordChar

/-!
# Blocks

A block is `label : type { body };` with blanks allowed around the colon and before the opening
brace. The body reaches to the first closing brace, which a semicolon has to follow at once; a
nested block therefore cuts its parent short. Text that forms no block is passed over.

The text is cut at its closing braces. A piece whose closing brace a semicolon follows yields the
block that starts at its leftmost opening, and no other piece yields one.
-/

set_option autoImplicit false
set_option relaxedAutoImplicit false

namespace DevicetreeHeader.Source

open Text

/-- A labelled block as it stands in the source. -/
structure Block where
  label : Text
  type : Text
  /-- Everything between the braces. -/
  body : Text
  deriving DecidableEq, Repr

namespace Block

/-- The type and the body that follow a label: a colon, a word and an opening brace with blanks
between them, and everything after the brace. -/
def typed? (text : Text) : Option (Text × Text) :=
  match text.dropWhile isBlank with
  | ':' :: afterColon =>
    let start := afterColon.dropWhile isBlank
    match start.takeWhile isWord, (start.dropWhile isWord).dropWhile isBlank with
    | c :: word, '{' :: body => some (c :: word, body)
    | _, _ => none
  | _ => none

/-- The block that starts at the leftmost opening of a piece of text without closing brace. -/
def ofPiece? : Text → Option Block
  | [] => none
  | c :: rest =>
    if isWord c then
      match typed? (rest.dropWhile isWord) with
      | some (type, body) => some ⟨c :: rest.takeWhile isWord, type, body⟩
      | none => ofPiece? (rest.dropWhile isWord)
    else ofPiece? rest
termination_by text => text.length
decreasing_by
  · have := (List.dropWhile_sublist isWord (l := rest)).length_le
    simp only [List.length_cons]
    omega
  · simp

/-- The blocks of a text that has been cut at its closing braces. -/
def ofPieces : List Text → List Block
  | piece :: (';' :: rest) :: pieces =>
    (ofPiece? piece).toList ++ ofPieces ((';' :: rest) :: pieces)
  | _ :: pieces => ofPieces pieces
  | [] => []

end Block

/-- The blocks of a text without comments, in order. -/
def blocks (text : Text) : List Block :=
  Block.ofPieces (text.splitOn '}')

end DevicetreeHeader.Source
