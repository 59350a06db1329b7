import Custody.Text.Graphic

/-!
# Text in quotation marks

How a message cites a text it cannot trust: between quotation marks, with the marks themselves,
backslashes and the common control characters escaped, and every other character that is not shown
as itself written as its code point in hexadecimal.
-/

namespace Custody.Text

/-- The lowercase hexadecimal digits of a number, without leading zeros. -/
def hexDigits (n : Nat) : String := String.ofList (Nat.toDigits 16 n)

/-- The form of one character inside quotation marks. -/
def escaped (c : Char) : String :=
  match c with
  | '"' => "\\\""
  | '\\' => "\\\\"
  | '\n' => "\\n"
  | '\r' => "\\r"
  | '\t' => "\\t"
  | '\x00' => "\\0"
  | c => if isGraphic c then c.toString else "\\u\x7b" ++ hexDigits c.toNat ++ "\x7d"

/-- A text between quotation marks. -/
def quoted (text : String) : String :=
  "\"" ++ String.join (text.toList.map escaped) ++ "\""

end Custody.Text
