import DevicetreeHeader.Text.Basic

/-!
# Values

A raw value is classified by its outer characters. A cell `<...>` of decimal digits is an integer if
it is at most `Value.largest`, any other cell a token of its content; what stands between double
quotes is a quoted text; everything else is a token as it stands. Nothing is unescaped.

In a definition an integer is written in decimal, a token that looks like the name of a macro as it
is, and every other text between double quotes.
-/

set_option autoImplicit false
set_option relaxedAutoImplicit false

namespace DevicetreeHeader

/-- A classified property value. -/
inductive Value
  /-- A decimal cell. -/
  | integer (number : Int)
  /-- The content of a pair of double quotes. -/
  | quoted (content : Text)
  /-- Anything else; of a cell, its content. -/
  | token (content : Text)
  deriving DecidableEq, Repr

namespace Value

/-- The largest integer of a cell: signed words of 64 bits hold no larger one. -/
def largest : Nat :=
  9223372036854775807

/-- The content of a cell `<...>`. -/
def cell? : Text → Option Text
  | '<' :: rest => if rest.getLast? = some '>' then some rest.dropLast else none
  | _ => none

/-- The number that a non-empty text of decimal digits denotes, if it is not too large. -/
def decimal? (text : Text) : Option Nat :=
  if !text.isEmpty && text.all Char.isDigit then
    let number := Nat.ofDigitChars 10 text 0
    if number ≤ largest then some number else none
  else none

/-- The value of a raw text. A double quote that stands alone opens and closes the empty text. -/
def classify (raw : Text) : Value :=
  match cell? raw with
  | some content =>
    match decimal? content with
    | some number => integer number
    | none => token content
  | none =>
    if raw.head? = some '"' ∧ raw.getLast? = some '"' then quoted raw.tail.dropLast
    else token raw

/-- Whether a text looks like the name of a macro: capital letters, digits and underscores of ASCII,
and at least one. -/
def isMacroName (text : Text) : Bool :=
  !text.isEmpty && text.all fun c ↦ c.isUpper || c.isDigit || c == '_'

/-- Whether a value is a token that looks like the name of a macro. -/
def isMacroLike : Value → Bool
  | token content => isMacroName content
  | _ => false

/-- The right-hand side of a definition. -/
def rendered : Value → Text
  | integer number => Text.ofInt number
  | quoted content => '"' :: content ++ ['"']
  | token content => if isMacroName content then content else '"' :: content ++ ['"']

end Value

end DevicetreeHeader
