import DevicetreeHeader.Toml.Quotation

/-!
# Numbers, dates and truth values of TOML

The configuration reads none of these, but a document that holds a malformed one is refused. The
scanners of this module therefore only give the text after what they recognise.

An integer has to fit a signed word of 64 bits, and a positive float has to be below the bound from
which on doubles round to infinity. A date has to exist in the calendar; the sixtieth second of a
minute is allowed.
-/

set_option autoImplicit false
set_option relaxedAutoImplicit false

namespace DevicetreeHeader.Toml

/-- The digits at the start of a text and the text after them. Between two digits an underscore may
stand; the digit before the text is known to be one. -/
def moreDigits (isDigit : Char → Bool) : Text → Text × Text
  | '_' :: digit :: rest =>
    if isDigit digit then prepend digit (moreDigits isDigit rest) else ([], '_' :: digit :: rest)
  | digit :: rest =>
    if isDigit digit then prepend digit (moreDigits isDigit rest) else ([], digit :: rest)
  | [] => ([], [])

/-- At least one digit, with underscores between digits, and the text after them. -/
def digits? (isDigit : Char → Bool) : Text → Option (Text × Text)
  | digit :: rest =>
    if isDigit digit then some (prepend digit (moreDigits isDigit rest)) else none
  | [] => none

/-- Whether a text starts with a minus sign, and the text after its sign. -/
def sign : Text → Bool × Text
  | '-' :: rest => (true, rest)
  | '+' :: rest => (false, rest)
  | text => (false, text)

/-- The digits of a decimal numeral without superfluous zeros, and the text after them. -/
def decimal? : Text → Option (Text × Text)
  | '0' :: rest => some (['0'], rest)
  | text => digits? Char.isDigit text

/-- The text after a numeral in a given base, if its number is at most `bound`. -/
def numeral? (base bound : Nat) (isDigit : Char → Bool) (text : Text) : Option Text := do
  let (digits, rest) ← digits? isDigit text
  let number := (← digits.mapM hexDigit?).foldl (fun value digit ↦ base * value + digit) 0
  if number ≤ bound then some rest else none

/-- The largest integer: signed words of 64 bits hold no larger one. -/
def largest : Nat :=
  9223372036854775807

/-- The text after an integer. -/
def integer? (text : Text) : Option Text :=
  match text with
  | '0' :: 'x' :: rest => numeral? 16 largest (fun c ↦ (hexDigit? c).isSome) rest
  | '0' :: 'o' :: rest => numeral? 8 largest (fun c ↦ '0' ≤ c && c ≤ '7') rest
  | '0' :: 'b' :: rest => numeral? 2 largest (fun c ↦ c == '0' || c == '1') rest
  | _ => do
    let (negative, start) := sign text
    let (digits, rest) ← decimal? start
    let bound := if negative then largest + 1 else largest
    if Nat.ofDigitChars 10 digits 0 ≤ bound then some rest else none

/-- Whether `digits · 10 ^ exponent` rounds to infinity as a double: half a unit above the largest
double is the bound. Numbers far from it are told by their counts of digits alone. -/
def overflows (digits : Nat) (exponent : Int) : Bool :=
  let bound := (Nat.pow 2 54 - 1) * Nat.pow 2 970
  let size : Int := (Text.ofNat digits).length + exponent
  if digits = 0 || size < 300 then false
  else if 320 < size then true
  else if 0 ≤ exponent then bound ≤ digits * Nat.pow 10 exponent.toNat
  else bound * Nat.pow 10 (-exponent).toNat ≤ digits

/-- The digits of a fraction, and the text after it. -/
def fraction? (text : Text) : Option (Text × Text) := do
  digits? Char.isDigit (← symbol? '.' text)

/-- An exponent, and the text after it. -/
def exponent? (text : Text) : Option (Int × Text) := do
  let (negative, start) := sign (← symbol? 'e' text <|> symbol? 'E' text)
  let (digits, rest) ← digits? Char.isDigit start
  let size : Int := Nat.ofDigitChars 10 digits 0
  return (if negative then -size else size, rest)

/-- The text after a float. -/
def float? (text : Text) : Option Text := do
  let (negative, start) := sign text
  match start with
  | 'i' :: 'n' :: 'f' :: rest => return rest
  | 'n' :: 'a' :: 'n' :: rest => return rest
  | _ =>
    let (whole, after) ← decimal? start
    let (shift, exponent, rest) ←
      match fraction? after with
      | some (part, rest) =>
        let (exponent, rest) := (exponent? rest).getD (0, rest)
        some (part, exponent, rest)
      | none => (exponent? after).map fun found ↦ ([], found)
    let digits := Nat.ofDigitChars 10 (whole ++ shift) 0
    if !negative && overflows digits (exponent - shift.length) then none else some rest

/-- A number of exactly `count` digits between two bounds, and the text after it. -/
def fixed? (count low high : Nat) (text : Text) : Option (Nat × Text) :=
  let digits := text.take count
  let number := Nat.ofDigitChars 10 digits 0
  if digits.length = count ∧ digits.all Char.isDigit ∧ low ≤ number ∧ number ≤ high then
    some (number, text.drop count)
  else none

/-- The number of days of a month. -/
def daysOfMonth (year month : Nat) : Nat :=
  if month = 2 then
    if year % 4 = 0 ∧ (year % 100 ≠ 0 ∨ year % 400 = 0) then 29 else 28
  else if month = 4 ∨ month = 6 ∨ month = 9 ∨ month = 11 then 30
  else 31

/-- The text after a date. -/
def date? (text : Text) : Option Text := do
  let (year, rest) ← fixed? 4 0 9999 text
  let (month, rest) ← fixed? 2 1 12 (← symbol? '-' rest)
  let (_, rest) ← fixed? 2 1 (daysOfMonth year month) (← symbol? '-' rest)
  return rest

/-- The text after a time of the day. -/
def time? (text : Text) : Option Text := do
  let (_, rest) ← fixed? 2 0 23 text
  let (_, rest) ← fixed? 2 0 59 (← symbol? ':' rest)
  let (_, rest) ← fixed? 2 0 60 (← symbol? ':' rest)
  match symbol? '.' rest with
  | some (digit :: more) =>
    if digit.isDigit then return more.dropWhile Char.isDigit else return rest
  | _ => return rest

/-- The text after an offset from universal time. -/
def offset? (text : Text) : Option Text :=
  match text with
  | 'Z' :: rest => some rest
  | 'z' :: rest => some rest
  | c :: rest =>
    if c = '+' ∨ c = '-' then do
      let (_, rest) ← fixed? 2 0 23 rest
      let (_, rest) ← fixed? 2 0 59 (← symbol? ':' rest)
      return rest
    else none
  | [] => none

/-- The text after a time that may stand behind a date and may have an offset. -/
def timeOfDate? (text : Text) : Option Text :=
  match text with
  | c :: rest =>
    if c = 'T' ∨ c = 't' ∨ c = ' ' then
      (time? rest).map fun after ↦ (offset? after).getD after
    else none
  | [] => none

/-- The text after a date, a time, or both. -/
def dateTime? (text : Text) : Option Text :=
  match date? text with
  | some rest => some ((timeOfDate? rest).getD rest)
  | none => time? text

/-- The text after a truth value. -/
def boolean? : Text → Option Text
  | 't' :: 'r' :: 'u' :: 'e' :: rest => some rest
  | 'f' :: 'a' :: 'l' :: 's' :: 'e' :: rest => some rest
  | _ => none

/-- The text after a value that is neither a string nor composed of others. -/
def scalar? (text : Text) : Option Text :=
  dateTime? text <|> float? text <|> integer? text <|> boolean? text

end DevicetreeHeader.Toml
