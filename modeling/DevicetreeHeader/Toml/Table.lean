import DevicetreeHeader.Keyed

/-!
# Tables of TOML

A document is a table of items under keys. A table is written once: by a header, by the dotted keys
of one table, or as an inline table, which is closed. A header may still name a table that only
exists because a longer header named something inside it (`Origin.implied`), and it may name a table
inside one that dotted keys made. Nothing is ever assigned twice.

Items are kept as far as their use asks: the content of strings and the tables that may still grow.
-/

set_option autoImplicit false
set_option relaxedAutoImplicit false

namespace DevicetreeHeader.Toml

/-- What a table has been made by. -/
inductive Origin
  /-- A header of its own. -/
  | header
  /-- A header of a table inside it. -/
  | implied
  /-- A dotted key. -/
  | dotted
  deriving DecidableEq, Repr

/-- What stands under a key. -/
inductive Item
  /-- A string. -/
  | string (content : Text)
  /-- A number, a truth value, a date, an array or an inline table. -/
  | closed
  /-- A table that is not inline. -/
  | table (origin : Origin) (members : List (Text × Item))
  /-- An array of tables with headers, by the last of them: the others are closed. -/
  | tables (last : List (Text × Item))

namespace Item

/-- Assigns an item to a dotted key of a table. The tables on the way are made by dotted keys, here
or before; only on the way to such a table may one be passed that a header has implied. -/
def assign : List Text → Item → Keyed Item → Option (Keyed Item)
  | [], _, _ => none
  | [key], item, members =>
    if (members.get? key).isSome then none else some (members.put key item)
  | step :: key :: path, item, members =>
    match members.get? step with
    | none =>
      (assign (key :: path) item []).map fun inner ↦ members.put step (table .dotted inner)
    | some (table .dotted inner) =>
      (assign (key :: path) item inner).map fun inner ↦ members.put step (table .dotted inner)
    | some (table .implied inner) =>
      if path.isEmpty then none
      else (assign (key :: path) item inner).map fun inner ↦
        members.put step (table .implied inner)
    | some (tables last) =>
      if path.isEmpty then none
      else (assign (key :: path) item last).map fun last ↦ members.put step (tables last)
    | some _ => none

/-- Makes the table that a header names. With `array` set it is a new last table of an array. -/
def makeTable (array : Bool) : List Text → Keyed Item → Option (Keyed Item)
  | [], _ => none
  | [key], members =>
    match array, members.get? key with
    | false, none => some (members.put key (table .header []))
    | false, some (table .implied inner) => some (members.put key (table .header inner))
    | true, none => some (members.put key (tables []))
    | true, some (tables _) => some (members.put key (tables []))
    | _, _ => none
  | step :: key :: path, members =>
    match members.get? step with
    | none =>
      (makeTable array (key :: path) []).map fun inner ↦ members.put step (table .implied inner)
    | some (table origin inner) =>
      (makeTable array (key :: path) inner).map fun inner ↦ members.put step (table origin inner)
    | some (tables last) =>
      (makeTable array (key :: path) last).map fun last ↦ members.put step (tables last)
    | some _ => none

/-- Changes the members of the table that a header has named. -/
def within (change : Keyed Item → Option (Keyed Item)) :
    List Text → Keyed Item → Option (Keyed Item)
  | [], members => change members
  | step :: path, members =>
    match members.get? step with
    | some (table origin inner) =>
      (within change path inner).map fun inner ↦ members.put step (table origin inner)
    | some (tables last) =>
      (within change path last).map fun last ↦ members.put step (tables last)
    | _ => none

end Item

end DevicetreeHeader.Toml
