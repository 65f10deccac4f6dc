import AbiBindings.Text.Unprintable

/-!
# Quoted text

`quoted` writes a text between double quotes, one line whatever it holds: quotes and backslashes
are escaped, the usual controls have their letters, and unprintable characters are spelled by
number as `\\u` with the hexadecimal code point in braces.
-/

namespace AbiBindings.Text

/-- Hexadecimal digits of a number, without leading zeros. -/
def hexDigits (n : Nat) : String := String.ofList (Nat.toDigits 16 n)

/-- One character of quoted text. -/
def quotedChar (c : Char) : String :=
  match c with
  | '\x00' => "\\0"
  | '\t' => "\\t"
  | '\r' => "\\r"
  | '\n' => "\\n"
  | '"' => "\\\""
  | '\\' => "\\\\"
  | c => if isUnprintable c then r"\u{" ++ hexDigits c.toNat ++ r"}" else c.toString

/-- A text between quotes, with escapes. -/
def quoted (s : String) : String := "\"" ++ String.join (s.toList.map quotedChar) ++ "\""

end AbiBindings.Text
