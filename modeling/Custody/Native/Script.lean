import Custody.Native.Backend

/-!
# Scripted libraries

A native library whose answers are written down in advance, and which notes every call. It
stands in for the real one where the use of the interface is examined, with answers that a real
library would not give.

A script gives a list of answers for each entry point. They are played in order, the last one
again and again; an entry point without answers succeeds and does nothing.
-/

namespace Custody

/-- One written answer. -/
structure Line where
  /-- The status. -/
  status : Int32
  /-- What goes into the slot for a new handle; zero leaves the slot as it is. -/
  handle : Address
  /-- What goes to the start of the buffer. -/
  written : Bytes
  deriving DecidableEq

/-- A scripted library. -/
structure Script where
  /-- The answers that are left, by the name of the entry point. -/
  lines : List (String × List Line)
  /-- The calls so far, the last one first. -/
  log : List String
  deriving DecidableEq

namespace Script

/-! ## The text of a call -/

/-- A handle. -/
def addressText (address : Address) : String := "0x" ++ Text.hexDigits address.toNat

/-- A whole number. -/
def numberText (n : Int32) : String := toString n.toInt

/-- A name. -/
def nameText : Option Bytes → String
  | none => "null"
  | some name => Text.utf8DecodeLossy (Call.nameBytes name)

/-- A window to read. -/
def inputText : Option InputWindow → String
  | none => "null"
  | some w => "in[" ++ numberText w.offset ++ "," ++ numberText w.len ++ "," ++ w.data.hex ++ "]"

/-- A window to write. -/
def outputText : Option OutputWindow → String
  | none => "null"
  | some w =>
    "out[" ++ numberText w.offset ++ "," ++ numberText w.len ++ "," ++ toString w.size ++ "]"

/-- The arguments of a call, apart from a slot. -/
def arguments : Call → List String
  | .version | .keyAllocate _ | .signatureAllocate _ | .faultsAvailable | .faultsReset => []
  | .digestAllocate name length _ => [nameText name, numberText length]
  | .digestFeedByte handle byte => [addressText handle, toString byte.toNat]
  | .digestFeed handle data | .signatureFeed handle data | .signatureVerify handle data =>
    [addressText handle, inputText data]
  | .digestLength handle | .digestReset handle | .digestDispose handle | .keyDispose handle |
    .keyType handle | .secretLength handle | .signatureDispose handle => [addressText handle]
  | .digestFinish handle out | .keyEncodePublic handle out | .keyEncodePrivate handle out |
    .encapsulate handle out | .signatureSign handle out => [addressText handle, outputText out]
  | .keyGenerate handle type => [addressText handle, numberText type]
  | .keyDecodePublic handle type data | .keyDecodePrivate handle type data =>
    [addressText handle, numberText type, inputText data]
  | .decapsulate handle ciphertext out =>
    [addressText handle, inputText ciphertext, outputText out]
  | .signatureInitSign handle key | .signatureInitVerify handle key =>
    [addressText handle, addressText key]
  | .pbkdf2 digest password salt iterations out =>
    [nameText digest, inputText password, inputText salt, numberText iterations, outputText out]
  | .hkdf digest material salt info out =>
    [nameText digest, inputText material, inputText salt, inputText info, outputText out]
  | .scrypt password salt n r p out =>
    [inputText password, inputText salt, numberText n, numberText r, numberText p, outputText out]
  | .faultSet flag on => [numberText flag, numberText on]
  | .drain capacity => [toString (capacity.getD 0)]

/-- The name under which a call is scripted and noted. The question for the length of the
diagnostics has a name of its own. -/
def callName : Call → String
  | .drain none => "errors_pending"
  | call => call.symbol.shortName

/-- A call in the notes. -/
def callText (call : Call) : String :=
  callName call ++ "(" ++ ",".intercalate (arguments call) ++ ")"

/-! ## Playing -/

/-- The answer of an entry point without answers. -/
def blank : Line := ⟨0, 0, []⟩

/-- The next answer for a name, and the answers left. -/
def next (name : String) : List (String × List Line) → Line × List (String × List Line)
  | [] => (blank, [])
  | (other, lines) :: rest =>
    if other = name then
      match lines with
      | [] => (blank, (other, lines) :: rest)
      | [line] => (line, (other, [line]) :: rest)
      | line :: lines => (line, (other, lines) :: rest)
    else
      let (line, rest) := next name rest
      (line, (other, lines) :: rest)

/-- Whether a call has a buffer to write to. -/
def hasBuffer : Call → Bool
  | .drain capacity => capacity.isSome
  | call => call.output?.isSome

/-- Plays the next answer and notes the call. -/
def submit (call : Call) : StateM Script Reply := fun script =>
  let (line, lines) := next (callName call) script.lines
  let handle := if line.handle = 0 then none else some line.handle
  (⟨line.status, handle, if hasBuffer call then line.written else []⟩,
    ⟨lines, callText call :: script.log⟩)

/-- The entry points of a scripted library. -/
def backend : Backend Script := ⟨.dispatch, fun _ => submit⟩

end Script

end Custody
