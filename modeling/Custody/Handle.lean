import Custody.Text.Quoted

/-!
# Handles, key types, backends and fault flags

The words that the native library and its users share. An address is any 64-bit number and may
be zero; a handle is an address that is not.
-/

namespace Custody

/-- An address as the native library passes it; zero means that there is none. -/
abbrev Address := UInt64

/-- The address of a native context. -/
structure Handle where
  /-- The address. -/
  address : Address
  /-- It is not zero. -/
  ne_zero : address ≠ 0
  deriving DecidableEq

namespace Handle

/-- The handle at an address, unless that is zero. -/
def ofAddress? (address : Address) : Option Handle :=
  if h : address ≠ 0 then some ⟨address, h⟩ else none

/-- A handle in hexadecimal, as messages and labels show it. -/
def text (handle : Handle) : String := "0x" ++ Text.hexDigits handle.address.toNat

/-- A handle in the form of debugging output. -/
def debug (handle : Handle) : String := "NativeHandle(" ++ toString handle.address.toNat ++ ")"

end Handle

/-- The two ways to reach the native library. -/
inductive BackendKind
  /-- Entry points found by name while the program runs. -/
  | dynamic
  /-- Entry points bound in advance. -/
  | dispatch
  deriving DecidableEq, Repr

namespace BackendKind

/-- The name of a way in configuration and reports. -/
def name : BackendKind → String
  | dynamic => "dynamic"
  | dispatch => "dispatch"

/-- A way in the form of debugging output. -/
def debug : BackendKind → String
  | dynamic => "Dynamic"
  | dispatch => "Dispatch"

/-- Every way with its name. -/
def named : List (String × BackendKind) := [dynamic, dispatch].map fun k => (k.name, k)

end BackendKind

/-- The key algorithms. -/
inductive KeyType
  /-- Signatures. -/
  | ed25519
  /-- Key agreement. -/
  | x25519
  deriving DecidableEq, Repr

namespace KeyType

/-- The name of a key algorithm. -/
def name : KeyType → String
  | ed25519 => "Ed25519"
  | x25519 => "X25519"

/-- The number of a key algorithm in native calls. -/
def number : KeyType → Int32
  | ed25519 => 1
  | x25519 => 2

/-- The key algorithm that a number means. -/
def ofNumber? (number : Int32) : Option KeyType :=
  if number = 1 then some ed25519 else if number = 2 then some x25519 else none

/-- Every key algorithm with its name. -/
def named : List (String × KeyType) := [ed25519, x25519].map fun k => (k.name, k)

@[simp] theorem ofNumber?_number (type : KeyType) : ofNumber? type.number = some type := by
  cases type <;> decide

end KeyType

/-- The faults that can be raised in the native library. Each makes one branch fail that is hard to
reach otherwise. -/
inductive FaultFlag
  /-- The length of a digest does not fit in 32 bits. -/
  | int32Overflow1
  /-- The length of an encoded key does not fit in 32 bits. -/
  | int32Overflow2
  /-- The length of a signature or an encapsulation does not fit in 32 bits. -/
  | int32Overflow3
  /-- An input cannot be read. -/
  | failedAccess1
  /-- An output cannot be written. -/
  | failedAccess2
  /-- A name cannot be read. -/
  | failedAccess3
  /-- A signature cannot be read. -/
  | failedAccess4
  /-- Key material moves while it is decoded. -/
  | pointerChange
  /-- Feeding a digest fails. -/
  | nativeError1
  /-- Finishing a digest fails. -/
  | nativeError2
  /-- Signing or verifying fails. -/
  | nativeError3
  /-- Key derivation fails. -/
  | nativeError4
  /-- A signature is longer than announced. -/
  | lenChange1
  /-- Creating a digest context fails. -/
  | failedCreate1
  /-- Creating a key spec or a signature context fails. -/
  | failedCreate2
  /-- Initialising a digest context fails. -/
  | failedInit1
  /-- Setting the output length of a digest fails. -/
  | failedSet1
  deriving DecidableEq, Repr

namespace FaultFlag

/-- Every flag, in the order of its number. -/
def all : List FaultFlag :=
  [int32Overflow1, int32Overflow2, int32Overflow3, failedAccess1, failedAccess2, failedAccess3,
    failedAccess4, pointerChange, nativeError1, nativeError2, nativeError3, nativeError4,
    lenChange1, failedCreate1, failedCreate2, failedInit1, failedSet1]

/-- The number of a flag in native calls. -/
def number : FaultFlag → Int32
  | int32Overflow1 => 0
  | int32Overflow2 => 1
  | int32Overflow3 => 2
  | failedAccess1 => 3
  | failedAccess2 => 4
  | failedAccess3 => 5
  | failedAccess4 => 6
  | pointerChange => 7
  | nativeError1 => 8
  | nativeError2 => 9
  | nativeError3 => 10
  | nativeError4 => 11
  | lenChange1 => 12
  | failedCreate1 => 13
  | failedCreate2 => 14
  | failedInit1 => 15
  | failedSet1 => 16

/-- The flag that a number means. -/
def ofNumber? (number : Int32) : Option FaultFlag := all.find? (·.number = number)

/-- The name of a flag. -/
def name : FaultFlag → String
  | int32Overflow1 => "Int32Overflow1"
  | int32Overflow2 => "Int32Overflow2"
  | int32Overflow3 => "Int32Overflow3"
  | failedAccess1 => "FailedAccess1"
  | failedAccess2 => "FailedAccess2"
  | failedAccess3 => "FailedAccess3"
  | failedAccess4 => "FailedAccess4"
  | pointerChange => "PointerChange"
  | nativeError1 => "NativeError1"
  | nativeError2 => "NativeError2"
  | nativeError3 => "NativeError3"
  | nativeError4 => "NativeError4"
  | lenChange1 => "LenChange1"
  | failedCreate1 => "FailedCreate1"
  | failedCreate2 => "FailedCreate2"
  | failedInit1 => "FailedInit1"
  | failedSet1 => "FailedSet1"

/-- Every flag with its name. -/
def named : List (String × FaultFlag) := all.map fun flag => (flag.name, flag)

@[simp] theorem ofNumber?_number (flag : FaultFlag) : ofNumber? flag.number = some flag := by
  cases flag <;> decide +kernel

end FaultFlag

end Custody
