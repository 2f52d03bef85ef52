import DevicetreeHeader.Toml.Value

/-!
# Documents of TOML

A document is a sequence of lines. A line names a table, or a new table of an array, or assigns a
value to a key of the table named last; it may also be empty. `items?` reads a whole document as a
table of items and gives nothing if any line is malformed or contradicts an earlier one.
-/

set_option autoImplicit false
set_option relaxedAutoImplicit false

namespace DevicetreeHeader.Toml

/-- What a line says. -/
inductive Statement
  /-- Nothing. -/
  | empty
  /-- The following assignments belong to a table, in an array of tables if `array` is set. -/
  | table (array : Bool) (path : List Text)
  /-- A dotted key has a value. -/
  | assign (path : List Text) (item : Item)

/-- The statement at the start of a line, and the text after it. -/
def statement? (line : Text) : Option (Statement × Text) :=
  match skipSpaces line with
  | '[' :: '[' :: text => do
    let (path, rest) ← dottedKey? text
    return (.table true path, ← symbol? ']' (← symbol? ']' rest))
  | '[' :: text => do
    let (path, rest) ← dottedKey? text
    return (.table false path, ← symbol? ']' rest)
  | [] => some (.empty, [])
  | c :: text =>
    if c = '#' ∨ c = '\n' ∨ c = '\r' then some (.empty, c :: text)
    else do
      let (path, rest) ← dottedKey? (c :: text)
      let (item, rest) ← value? deepest (skipSpaces (← symbol? '=' rest))
      return (.assign path item, rest)

/-- The statements of the lines of a text. -/
def statements? (text : Text) : Option (List Statement) :=
  if text.isEmpty then some []
  else do
    let (statement, rest) ← statement? text
    let next ← lineEnd? rest
    if next.length < text.length then
      return statement :: (← statements? next)
    else none
termination_by text.length

/-- A document that has been read in part. -/
structure Draft where
  root : Keyed Item := []
  /-- The table named last, by its path from the root. -/
  current : List Text := []

/-- The draft after one more statement. -/
def Draft.add? (draft : Draft) : Statement → Option Draft
  | .empty => some draft
  | .table array path =>
    (Item.makeTable array path draft.root).map fun root ↦ { root, current := path }
  | .assign path item =>
    (Item.within (Item.assign path item) draft.current draft.root).map fun root ↦
      { draft with root }

/-- The text without a byte order mark at its start. -/
def withoutMark : Text → Text
  | '\uFEFF' :: rest => rest
  | text => text

/-- The items of a document. -/
def items? (text : Text) : Option (Keyed Item) := do
  let statements ← statements? (withoutMark text)
  let draft ← statements.foldlM Draft.add? {}
  return draft.root

end DevicetreeHeader.Toml
