import DevicetreeHeader.Toml.Spacing

/-!
# Strings of TOML

A basic string stands between double quotes and knows escapes, a literal string between single
quotes and knows none. Either may span lines between tripled quotes; then a line end right after the
opening is dropped, and up to two quotes may stand before the closing ones.
-/

set_option autoImplicit false
set_option relaxedAutoImplicit false

namespace DevicetreeHeader.Toml

/-- The value of a hexadecimal digit. -/
def hexDigit? (c : Char) : Option Nat :=
  if c.isDigit then some (c.toNat - '0'.toNat)
  else if 'a' ≤ c && c ≤ 'f' then some (c.toNat - 'a'.toNat + 10)
  else if 'A' ≤ c && c ≤ 'F' then some (c.toNat - 'A'.toNat + 10)
  else none

/-- The character with a hexadecimal code point; surrogates and numbers that are too large denote
none. -/
def codePoint? (digits : Text) : Option Char := do
  let point := (← digits.mapM hexDigit?).foldl (fun value digit ↦ 16 * value + digit) 0
  if point.isValidChar then some (Char.ofNat point) else none

/-- The character that a backslash and a letter denote. -/
def escaped? : Char → Option Char
  | 'b' => some '\x08'
  | 't' => some '\t'
  | 'n' => some '\n'
  | 'f' => some '\x0c'
  | 'r' => some '\r'
  | '"' => some '"'
  | '\\' => some '\\'
  | _ => none

/-- Puts a character before what has been read. -/
def prepend (c : Char) (read : Text × Text) : Text × Text :=
  (c :: read.1, read.2)

/-- The rest of a basic string whose opening quote has been read, and the text after it. -/
def basic? : Text → Option (Text × Text)
  | [] => none
  | '"' :: rest => some ([], rest)
  | '\\' :: 'u' :: d₁ :: d₂ :: d₃ :: d₄ :: rest => do
    let c ← codePoint? [d₁, d₂, d₃, d₄]
    prepend c <$> basic? rest
  | '\\' :: 'U' :: d₁ :: d₂ :: d₃ :: d₄ :: d₅ :: d₆ :: d₇ :: d₈ :: rest => do
    let c ← codePoint? [d₁, d₂, d₃, d₄, d₅, d₆, d₇, d₈]
    prepend c <$> basic? rest
  | '\\' :: letter :: rest => do
    let c ← escaped? letter
    prepend c <$> basic? rest
  | c :: rest => if isPlain c then prepend c <$> basic? rest else none

/-- The rest of a literal string whose opening quote has been read, and the text after it. -/
def literal? : Text → Option (Text × Text)
  | [] => none
  | '\'' :: rest => some ([], rest)
  | c :: rest => if isPlain c then prepend c <$> literal? rest else none

/-- The quotes before the closing of a string over several lines, and the text after the closing,
at the start of a text. -/
def closing? (quote : Char) : Text → Option (Text × Text)
  | a :: b :: c :: rest =>
    if a = quote ∧ b = quote ∧ c = quote then
      match rest with
      | d :: e :: after =>
        if d = quote ∧ e = quote then some ([quote, quote], after)
        else if d = quote then some ([quote], e :: after)
        else some ([], rest)
      | [d] => if d = quote then some ([quote], []) else some ([], rest)
      | [] => some ([], [])
    else none
  | _ => none

/-- The rest of a basic string over several lines, and the text after it. With `skipping` set, a
backslash at the end of a line has been read, and the spaces and line ends after it are dropped. -/
def basicLines? (skipping : Bool) (text : Text) : Option (Text × Text) :=
  match closing? '"' text with
  | some found => some found
  | none =>
    match text with
    | [] => none
    | '\r' :: '\n' :: rest =>
      if skipping then basicLines? true rest else prepend '\n' <$> basicLines? false rest
    | '\\' :: 'u' :: d₁ :: d₂ :: d₃ :: d₄ :: rest => do
      let c ← codePoint? [d₁, d₂, d₃, d₄]
      prepend c <$> basicLines? false rest
    | '\\' :: 'U' :: d₁ :: d₂ :: d₃ :: d₄ :: d₅ :: d₆ :: d₇ :: d₈ :: rest => do
      let c ← codePoint? [d₁, d₂, d₃, d₄, d₅, d₆, d₇, d₈]
      prepend c <$> basicLines? false rest
    | '\\' :: letter :: rest =>
      if (newline? (skipSpaces (letter :: rest))).isSome then basicLines? true (letter :: rest)
      else do
        let c ← escaped? letter
        prepend c <$> basicLines? false rest
    | c :: rest =>
      if skipping && (isSpace c || c == '\n') then basicLines? true rest
      else if isPlain c || c == '\n' then prepend c <$> basicLines? false rest
      else none

/-- The rest of a literal string over several lines, and the text after it. -/
def literalLines? (text : Text) : Option (Text × Text) :=
  match closing? '\'' text with
  | some found => some found
  | none =>
    match text with
    | [] => none
    | '\r' :: '\n' :: rest => prepend '\n' <$> literalLines? rest
    | c :: rest => if isPlain c || c == '\n' then prepend c <$> literalLines? rest else none

/-- The text without the line end at its start, if there is one. -/
def skipNewline (text : Text) : Text :=
  (newline? text).getD text

/-- The string at the start of a text, and the text after it. -/
def quotation? : Text → Option (Text × Text)
  | '"' :: '"' :: '"' :: rest => basicLines? false (skipNewline rest)
  | '"' :: rest => basic? rest
  | '\'' :: '\'' :: '\'' :: rest => literalLines? (skipNewline rest)
  | '\'' :: rest => literal? rest
  | _ => none

/-- How a string is written: between double quotes, with an escape for a quote, a backslash and a
control character. A string that needs no escape is written like this in every configuration file.
For any other string TOML has further forms (literal strings, strings over several lines, short
escapes), and the writer of a file may prefer one of these. -/
def written (content : Text) : Text :=
  '"' :: content.flatMap writtenChar ++ ['"']
where
  /-- How a string shows one character. -/
  writtenChar (c : Char) : Text :=
    if c = '"' ∨ c = '\\' then ['\\', c]
    else if isPlain c && c != '\t' then [c]
    else ['\\', 'u', '0', '0', Nat.digitChar (c.toNat / 16), Nat.digitChar (c.toNat % 16)]

end DevicetreeHeader.Toml
