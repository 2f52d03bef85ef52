import DevicetreeHeader.Toml.Number
import DevicetreeHeader.Toml.Table

/-!
# Keys and values of TOML

A key is bare or quoted, and dots join keys. Values nest: an array may span lines and end with a
comma, an inline table may not. `value?` takes the number of levels that may still be nested, and
reads a value with its arrays and inline tables down to that depth.
-/

set_option autoImplicit false
set_option relaxedAutoImplicit false

namespace DevicetreeHeader.Toml

/-- Whether a character may stand in a key without quotes. -/
def isBare (c : Char) : Bool :=
  c.isAlphanum || c == '_' || c == '-'

/-- The key without dots at the start of a text, and the text after it. -/
def simpleKey? : Text → Option (Text × Text)
  | '"' :: rest => basic? rest
  | '\'' :: rest => literal? rest
  | text =>
    match text.takeWhile isBare with
    | [] => none
    | key => some (key, text.dropWhile isBare)

/-- The number of levels down to which values and keys may nest. -/
def deepest : Nat :=
  79

/-- The keys joined by dots at the start of a text, with spaces around them, and the text after
them. -/
def joinedKeys? (text : Text) : Option (List Text × Text) := do
  let (key, rest) ← simpleKey? (skipSpaces text)
  match skipSpaces rest with
  | '.' :: more =>
    if more.length < text.length then
      let (keys, after) ← joinedKeys? more
      return (key :: keys, after)
    else none
  | after => return ([key], after)
termination_by text.length

/-- The dotted key at the start of a text, and the text after it. -/
def dottedKey? (text : Text) : Option (List Text × Text) := do
  let (keys, rest) ← joinedKeys? text
  if keys.length ≤ deepest then some (keys, rest) else none

/-- The text after the elements of an array whose opening bracket has been read. -/
def elements? (value? : Text → Option (Item × Text)) (text : Text) : Option Text :=
  match skipLines text with
  | ']' :: rest => some rest
  | start => do
    let (_, after) ← value? start
    match skipLines after with
    | ']' :: rest => some rest
    | ',' :: rest => if rest.length < text.length then elements? value? rest else none
    | _ => none
termination_by text.length

/-- The text after the pairs of an inline table, of which there is at least one more. -/
def pairs? (value? : Text → Option (Item × Text)) (members : Keyed Item) (text : Text) :
    Option Text := do
  let (keys, rest) ← dottedKey? text
  let (item, rest) ← value? (skipSpaces (← symbol? '=' rest))
  let members ← Item.assign keys item members
  match skipSpaces rest with
  | '}' :: rest => return rest
  | ',' :: rest => if rest.length < text.length then pairs? value? members rest else none
  | _ => none
termination_by text.length

/-- The text after an inline table whose opening brace has been read. -/
def inlineTable? (value? : Text → Option (Item × Text)) (text : Text) : Option Text :=
  match skipSpaces text with
  | '}' :: rest => some rest
  | start => pairs? value? [] start

/-- The value at the start of a text, nested at most so deep, and the text after it. -/
def value? (depth : Nat) (text : Text) : Option (Item × Text) :=
  match quotation? text with
  | some (content, rest) => some (.string content, rest)
  | none =>
    match depth, text with
    | depth + 1, '[' :: rest => (elements? (value? depth) rest).map fun rest ↦ (.closed, rest)
    | depth + 1, '{' :: rest => (inlineTable? (value? depth) rest).map fun rest ↦ (.closed, rest)
    | _, _ => (scalar? text).map fun rest ↦ (.closed, rest)

end DevicetreeHeader.Toml
