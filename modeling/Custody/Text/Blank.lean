/-!
# Blanks around a word, and numbers in words

How a variable's value is read: blanks on both sides do not count (`trim`), the case of the letters
a to z does not count (`foldCase`), and a whole number is one or more decimal digits after at most
one plus sign (`natural?`).
-/

namespace Custody.Text

/-- The Unicode property White_Space. -/
def isBlank (c : Char) : Bool :=
  let point := c.toNat
  (0x9 ≤ point && point ≤ 0xD) || point == 0x20 || point == 0x85 || point == 0xA0 ||
    point == 0x1680 || (0x2000 ≤ point && point ≤ 0x200A) || point == 0x2028 || point == 0x2029 ||
    point == 0x202F || point == 0x205F || point == 0x3000

/-- A text without the blanks at its ends. -/
def trim (text : String) : String :=
  String.ofList (((text.toList.dropWhile isBlank).reverse.dropWhile isBlank).reverse)

/-- A text with A to Z replaced by a to z. -/
def foldCase (text : String) : String := String.ofList (text.toList.map Char.toLower)

/-- A text with a to z replaced by A to Z. -/
def raiseCase (text : String) : String := String.ofList (text.toList.map Char.toUpper)

/-- The number written by decimal digits, most significant first. -/
def ofDigits (digits : List Char) : Nat :=
  digits.foldl (fun n d => 10 * n + (d.toNat - '0'.toNat)) 0

/-- The number that one or more decimal digits write. -/
def digits? (text : List Char) : Option Nat :=
  if text.isEmpty || !text.all Char.isDigit then none else some (ofDigits text)

/-- The number that a text writes: decimal digits after at most one plus sign. -/
def natural? (text : String) : Option Nat :=
  match text.toList with
  | '+' :: rest => digits? rest
  | rest => digits? rest

end Custody.Text
