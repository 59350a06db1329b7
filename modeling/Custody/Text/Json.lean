import Custody.Text.Blank

/-!
# JSON documents

A reader of JSON in two stages, each linear in the text: tokens, then a machine with a stack of
open brackets, so that the depth of nesting is not limited.

A text is kept as its code units (`Json.text`). An escape may name half of a surrogate pair, and
a pair that is not complete is an error only where the text is used (`Json.textOf?`); a document
that carries one in a place nobody reads is well formed. Likewise a number is kept as it is
written, and has a value only where one is asked for (`Json.naturalOf?`).
-/

namespace Custody.Text

/-- A JSON value. -/
inductive Json
  | null
  | bool (value : Bool)
  | number (written : List Char)
  | text (units : List Nat)
  | list (items : List Json)
  | record (fields : List (List Nat × Json))

namespace Json

/-! ## Tokens -/

/-- A token. -/
inductive Token
  | openList
  | closeList
  | openRecord
  | closeRecord
  | comma
  | colon
  | scalar (value : Json)

/-- The value of a hexadecimal digit. -/
def hexValue? (c : Char) : Option Nat :=
  if '0' ≤ c ∧ c ≤ '9' then some (c.toNat - 0x30)
  else if 'a' ≤ c ∧ c ≤ 'f' then some (c.toNat - 0x57)
  else if 'A' ≤ c ∧ c ≤ 'F' then some (c.toNat - 0x37)
  else none

/-- The unit that four hexadecimal digits name. -/
def hexUnit? (a b c d : Char) : Option Nat := do
  let a ← hexValue? a
  let b ← hexValue? b
  let c ← hexValue? c
  let d ← hexValue? d
  return ((a * 16 + b) * 16 + c) * 16 + d

/-- The unit that a short escape stands for. -/
def shortEscape? : Char → Option Nat
  | '"' => some 0x22
  | '\\' => some 0x5C
  | '/' => some 0x2F
  | 'b' => some 0x08
  | 'f' => some 0x0C
  | 'n' => some 0x0A
  | 'r' => some 0x0D
  | 't' => some 0x09
  | _ => none

/-- Reads the rest of a text after its opening quotation mark; `units` are those read, last
first. -/
def readText (units : List Nat) : List Char → Option (List Nat × List Char)
  | [] => none
  | '"' :: rest => some (units.reverse, rest)
  | '\\' :: 'u' :: a :: b :: c :: d :: rest =>
    match hexUnit? a b c d with
    | some unit => readText (unit :: units) rest
    | none => none
  | '\\' :: c :: rest =>
    match shortEscape? c with
    | some unit => readText (unit :: units) rest
    | none => none
  | c :: rest => if c.toNat < 0x20 then none else readText (c.toNat :: units) rest

/-- Splits off the decimal digits in front; there has to be one. -/
def readDigits (text : List Char) : Option (List Char × List Char) :=
  if (text.takeWhile Char.isDigit).isEmpty then none
  else some (text.takeWhile Char.isDigit, text.dropWhile Char.isDigit)

/-- Splits off a fraction, if there is one. -/
def readFraction : List Char → Option (List Char × List Char)
  | '.' :: rest => (readDigits rest).map fun (digits, rest) => ('.' :: digits, rest)
  | rest => some ([], rest)

/-- Splits off an exponent, if there is one. -/
def readExponent : List Char → Option (List Char × List Char)
  | 'e' :: '+' :: rest | 'E' :: '+' :: rest =>
    (readDigits rest).map fun (digits, rest) => ('e' :: '+' :: digits, rest)
  | 'e' :: '-' :: rest | 'E' :: '-' :: rest =>
    (readDigits rest).map fun (digits, rest) => ('e' :: '-' :: digits, rest)
  | 'e' :: rest | 'E' :: rest => (readDigits rest).map fun (digits, rest) => ('e' :: digits, rest)
  | rest => some ([], rest)

/-- Splits off a number without its sign: no zero in front of other digits, then a fraction and an
exponent. -/
def readNumber (text : List Char) : Option (List Char × List Char) := do
  let (whole, rest) ← readDigits text
  if whole.head? = some '0' ∧ whole.length ≠ 1 then none
  let (fraction, rest) ← readFraction rest
  let (exponent, rest) ← readExponent rest
  return (whole ++ fraction ++ exponent, rest)

/-- Reads the first token of a text that does not begin with a blank. -/
def readToken : List Char → Option (Token × List Char)
  | '[' :: rest => some (.openList, rest)
  | ']' :: rest => some (.closeList, rest)
  | '\x7b' :: rest => some (.openRecord, rest)
  | '\x7d' :: rest => some (.closeRecord, rest)
  | ',' :: rest => some (.comma, rest)
  | ':' :: rest => some (.colon, rest)
  | 'n' :: 'u' :: 'l' :: 'l' :: rest => some (.scalar .null, rest)
  | 't' :: 'r' :: 'u' :: 'e' :: rest => some (.scalar (.bool true), rest)
  | 'f' :: 'a' :: 'l' :: 's' :: 'e' :: rest => some (.scalar (.bool false), rest)
  | '"' :: rest => (readText [] rest).map fun (units, rest) => (.scalar (.text units), rest)
  | '-' :: rest =>
    (readNumber rest).map fun (written, rest) => (.scalar (.number ('-' :: written)), rest)
  | rest => (readNumber rest).map fun (written, rest) => (.scalar (.number written), rest)

/-- Whether a character may stand between tokens. -/
def isSpace (c : Char) : Bool := c == ' ' || c == '\n' || c == '\t' || c == '\r'

/-- Reads all tokens; `tokens` are those read, last first. A token takes a character or more, so the
length of the text bounds their number. -/
def readTokens : Nat → List Token → List Char → Option (List Token)
  | 0, _, _ => none
  | bound + 1, tokens, chars =>
    match chars.dropWhile isSpace with
    | [] => some tokens.reverse
    | c :: rest =>
      match readToken (c :: rest) with
      | some (token, rest) => readTokens bound (token :: tokens) rest
      | none => none

/-- The tokens of a text. -/
def tokens? (text : List Char) : Option (List Token) := readTokens (text.length + 1) [] text

/-! ## Values -/

/-- An open bracket with what stands inside it so far, last first. -/
inductive Frame
  | list (items : List Json)
  | record (fields : List (List Nat × Json)) (key : List Nat)

/-- What the machine waits for. -/
inductive Awaited
  /-- A value. -/
  | value
  /-- The first item of a list or its end. -/
  | firstItem
  /-- The first key of a record or its end; the fields are those read. -/
  | firstKey
  /-- A key after a comma, with the fields before it, last first. -/
  | key (fields : List (List Nat × Json))
  /-- The colon after a key. -/
  | colon (fields : List (List Nat × Json)) (key : List Nat)
  /-- A comma or the end of the innermost bracket. -/
  | more
  /-- Nothing: the document is this value. -/
  | finished (value : Json)

/-- The machine: the open brackets, innermost first, and what it waits for. -/
structure Machine where
  /-- The open brackets. -/
  frames : List Frame
  /-- What comes next. -/
  awaited : Awaited

/-- Puts a value where the machine waits for one. -/
def Machine.accept (value : Json) : List Frame → Machine
  | [] => ⟨[], .finished value⟩
  | .list items :: frames => ⟨.list (value :: items) :: frames, .more⟩
  | .record fields key :: frames => ⟨.record ((key, value) :: fields) key :: frames, .more⟩

/-- Starts a value with a token. -/
def Machine.start (frames : List Frame) : Token → Option Machine
  | .openList => some ⟨.list [] :: frames, .firstItem⟩
  | .openRecord => some ⟨frames, .firstKey⟩
  | .scalar value => some (accept value frames)
  | _ => none

/-- One token. -/
def Machine.step (machine : Machine) (token : Token) : Option Machine :=
  match machine.awaited, token, machine.frames with
  | .value, token, frames => start frames token
  | .firstItem, .closeList, .list _ :: frames => some (accept (.list []) frames)
  | .firstItem, token, frames => start frames token
  | .firstKey, .closeRecord, frames => some (accept (.record []) frames)
  | .firstKey, .scalar (.text key), frames => some ⟨frames, .colon [] key⟩
  | .key fields, .scalar (.text key), frames => some ⟨frames, .colon fields key⟩
  | .colon fields key, .colon, frames => some ⟨.record fields key :: frames, .value⟩
  | .more, .comma, .list items :: frames => some ⟨.list items :: frames, .value⟩
  | .more, .comma, .record fields _ :: frames => some ⟨frames, .key fields⟩
  | .more, .closeList, .list items :: frames => some (accept (.list items.reverse) frames)
  | .more, .closeRecord, .record fields _ :: frames => some (accept (.record fields.reverse) frames)
  | _, _, _ => none

/-- The value that a text writes, if it is a JSON document. -/
def read? (text : String) : Option Json := do
  let tokens ← tokens? text.toList
  let machine ← tokens.foldlM Machine.step ⟨[], .value⟩
  match machine.awaited with
  | .finished value => some value
  | _ => none

/-! ## Reading values -/

/-- Joins the halves of surrogate pairs. A half without the other is an error. -/
def joinUnits? : List Nat → Option (List Char)
  | [] => some []
  | high :: rest =>
    if 0xD800 ≤ high ∧ high ≤ 0xDBFF then
      match rest with
      | low :: rest =>
        if 0xDC00 ≤ low ∧ low ≤ 0xDFFF then
          (joinUnits? rest).map
            (Char.ofNat (0x10000 + (high - 0xD800) * 0x400 + (low - 0xDC00)) :: ·)
        else none
      | [] => none
    else if 0xDC00 ≤ high ∧ high ≤ 0xDFFF then none
    else (joinUnits? rest).map (Char.ofNat high :: ·)

/-- The text that units make. -/
def unitsText? (units : List Nat) : Option String := (joinUnits? units).map String.ofList

/-- The text of a value, if it is one. -/
def textOf? : Json → Option String
  | text units => unitsText? units
  | _ => none

/-- The number of a value, if it is written as a whole number that is not negative and fits in 64
bits. -/
def naturalOf? : Json → Option UInt64
  | number written =>
    match digits? written with
    | some n => if n < UInt64.size then some (UInt64.ofNat n) else none
    | none => none
  | _ => none

/-- The one of several named things that a value names, by its name alone or as a record that
gives the name the value null. -/
def choiceOf? {α : Type} (named : List (String × α)) : Json → Option α
  | text units => do named.lookup (← unitsText? units)
  | record [(key, null)] => do named.lookup (← unitsText? key)
  | _ => none

end Json

end Custody.Text
