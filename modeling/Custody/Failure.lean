import Custody.Status

/-!
# Failures

The errors of the library by their cause, with the words for each (`Failure.message`), the
context that a caller may put in front (`Failure.withContext`), and what to do about it
(`Failure.errorClass`, `Failure.retriable`). `statusMeaning` reads a native status: a length or
truth value, a failure, or a status that the contract does not define, which is no failure of a
call but of the contract, and ends the operation (`Abort.panicked`).
-/

namespace Custody

/-- Why a file could not be read. -/
structure IoFault where
  /-- Whether the reading was only interrupted. -/
  interrupted : Bool
  /-- The words of the operating system. -/
  text : String
  deriving DecidableEq, Repr

/-- An error, by its cause. -/
inductive Failure
  /-- The native library refused with a defined status, which is of some kind. -/
  | native (kind : FailureKind) (code : ErrorCode) (detail : String)
  /-- An argument was refused before the native library was called. -/
  | invalidArgument (detail : String)
  /-- The native library broke its contract. -/
  | contractViolation (detail : String)
  /-- No backend can be used. -/
  | backendUnavailable (detail : String)
  /-- A setting has no meaning. -/
  | config (detail : String)
  /-- A file could not be read. -/
  | io (fault : IoFault)
  /-- A document is malformed. -/
  | serialization (detail : String)
  deriving DecidableEq, Repr

namespace Failure

/-- The failure that a code reports, in its own words. -/
def ofCode (code : ErrorCode) : Failure := native code.kind code code.message

/-- The kind of failure, if the native library reported it. -/
def kind? : Failure → Option FailureKind
  | native kind .. => some kind
  | _ => none

/-- The name of the cause in reports. -/
def causeName : Failure → String
  | native .. => "Native"
  | invalidArgument _ => "InvalidArgument"
  | contractViolation _ => "ContractViolation"
  | backendUnavailable _ => "BackendUnavailable"
  | config _ => "Config"
  | io _ => "Io"
  | serialization _ => "Serialization"

/-- The message of a failure. -/
def message : Failure → String
  | native kind code detail =>
    kind.text ++ ": " ++ detail ++ " (native code " ++ toString code.status.toInt ++ ")"
  | invalidArgument detail => "invalid argument: " ++ detail
  | contractViolation detail => "contract violation: " ++ detail
  | backendUnavailable detail => "native backend unavailable: " ++ detail
  | config detail => "configuration error: " ++ detail
  | io fault => "file I/O error: " ++ fault.text
  | serialization detail => "serialization error: " ++ detail

/-- A failure with the operation it came from in front of its detail. Failures of files and
documents stay as they are. -/
def withContext (context : String) : Failure → Failure
  | native kind code detail => native kind code (context ++ ": " ++ detail)
  | invalidArgument detail => invalidArgument (context ++ ": " ++ detail)
  | contractViolation detail => contractViolation (context ++ ": " ++ detail)
  | backendUnavailable detail => backendUnavailable (context ++ ": " ++ detail)
  | config detail => config (context ++ ": " ++ detail)
  | other => other

/-- What a caller can do about a failure. -/
def errorClass : Failure → ErrorClass
  | native kind .. => kind.errorClass
  | invalidArgument _ | config _ | serialization _ => .inputValidation
  | contractViolation _ => .contractViolation
  | backendUnavailable _ | io _ => .resourceFailure

/-- Whether the same call could succeed when it is repeated. -/
def retriable : Failure → Bool
  | native kind .. => kind.retriable
  | io fault => fault.interrupted
  | _ => false

/-- A failure in one line, for an operator. -/
def summary : Failure → String
  | native kind _ detail => kind.text ++ ": " ++ detail
  | invalidArgument detail => "rejected before the native call: " ++ detail
  | contractViolation detail => "native contract broken: " ++ detail
  | backendUnavailable detail => "no usable native backend: " ++ detail
  | config detail => "bad configuration: " ++ detail
  | io fault => "I/O failure: " ++ fault.text
  | serialization detail => "malformed data: " ++ detail

end Failure

/-- What ends an operation early. -/
inductive Abort
  /-- A failure that the caller can handle. -/
  | failed (failure : Failure)
  /-- A broken assumption, on which the operation gives up. -/
  | panicked (message : String)
  deriving DecidableEq, Repr

/-- An early end with the operation in front of a failure's detail. -/
def Abort.withContext (context : String) : Abort → Abort
  | failed failure => failed (failure.withContext context)
  | panicked message => panicked message

/-- Whether a failure with this code carries the text of the native library. -/
def ErrorCode.wantsDiagnostics (code : ErrorCode) : Bool := code.kind = .wrappedNativeError

/-- What a failure with this code says, given the text of the native library. -/
def ErrorCode.detail (code : ErrorCode) (diagnostics : String) : String :=
  if code.wantsDiagnostics && !diagnostics.isEmpty then code.message ++ ": " ++ diagnostics
  else code.message

/-- The meaning of a native status, given the text of the native library. -/
def statusMeaning (status : Int32) (diagnostics : String) : Except Abort Nat :=
  if 0 ≤ status then .ok status.toInt.toNat
  else match ErrorCode.ofStatus? status with
    | some code => .error (.failed (.native code.kind code (code.detail diagnostics)))
    | none => .error (.panicked
        ("unmapped native status code " ++ toString status.toInt ++ ": native contract mismatch"))

end Custody
