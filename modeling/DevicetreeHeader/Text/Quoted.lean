import DevicetreeHeader.Text.Invisible

/-!
# Quoted texts

The form in which log lines show a text: between double quotes, with a backslash before a quote and
a backslash, short escapes for the null character, tab, line feed and carriage return, and the
hexadecimal code point of any other invisible character.
-/

set_option autoImplicit false
set_option relaxedAutoImplicit false

namespace DevicetreeHeader.Text

/-- How a quotation shows one character. -/
def quotedChar : Char → Text
  | '\x00' => ['\\', '0']
  | '\t' => ['\\', 't']
  | '\n' => ['\\', 'n']
  | '\r' => ['\\', 'r']
  | '"' => ['\\', '"']
  | '\\' => ['\\', '\\']
  | c => if isInvisible c then ['\\', 'u', '{'] ++ Nat.toDigits 16 c.toNat ++ ['}'] else [c]

/-- A text between double quotes. -/
def quoted (text : Text) : Text :=
  '"' :: text.flatMap quotedChar ++ ['"']

end DevicetreeHeader.Text
