import Custody.Failure
import Custody.Native.Call
import Custody.Text.Utf8

/-!
# Backends

A backend holds the entry points of a native library, each a state transformer on calls. Nothing
else is known of the library: its state `σ` is a parameter, so that all that follows holds of
any library behind the interface.

`Backend.check` gives a status its meaning. On a negative status it first takes the pending
diagnostics from the library, whatever the status turns out to be.
-/

namespace Custody

/-- An operation on a state that may end early. What it did to the state until then stays done. -/
abbrev Act (σ α : Type) := ExceptT Abort (StateM σ) α

namespace Act

variable {σ α : Type}

/-- An operation that only acts on the state. -/
def ofState (action : StateM σ α) : Act σ α := fun s => let (a, s) := action s; (.ok a, s)

/-- An operation that ends with a result known in advance. -/
def ofExcept (result : Except Abort α) : Act σ α := fun s => (result, s)

/-- An operation that ends early. -/
def fail (failure : Failure) : Act σ α := ofExcept (.error (.failed failure))

/-- An operation that ends with a value or a failure known in advance. -/
def orFail : Except Failure α → Act σ α
  | .ok a => ofExcept (.ok a)
  | .error failure => fail failure

/-- The outcome of an operation as a value; it does not end early any more. -/
def outcome (act : Act σ α) : StateM σ (Except Abort α) := act

/-- An operation whose early end names what was attempted. -/
def during (context : String) (act : Act σ α) : Act σ α := fun s =>
  match act s with
  | (.ok a, s) => (.ok a, s)
  | (.error abort, s) => (.error (abort.withContext context), s)

end Act

/-- An entry point of a native library with state `σ`. -/
abbrev EntryPoint (σ : Type) := Call → StateM σ Reply

/-- The entry points of a native library. -/
structure Backend (σ : Type) where
  /-- How they were reached. -/
  kind : BackendKind
  /-- The entry points. -/
  entry : Symbol → EntryPoint σ

namespace Backend

variable {σ : Type}

/-- Makes a call. -/
def submit (backend : Backend σ) (call : Call) : StateM σ Reply := backend.entry call.symbol call

/-- The pending diagnostics, which the library then forgets. The text is read into zero bytes,
and ends where the library says that it stopped. -/
def takeDiagnostics (backend : Backend σ) : StateM σ String := do
  let pending ← backend.submit (.drain none)
  if pending.status ≤ 0 then return ""
  else
    let size := pending.status.toInt.toNat
    let taken ← backend.submit (.drain (some size))
    let length := min size taken.status.toInt.toNat
    return Text.utf8DecodeLossy ((Bytes.zeros length).patch 0 taken.written)

/-- **The meaning of a status.** -/
def check (backend : Backend σ) (status : Int32) : Act σ Nat :=
  if 0 ≤ status then .ofExcept (statusMeaning status "")
  else do
    let diagnostics ← Act.ofState backend.takeDiagnostics
    .ofExcept (statusMeaning status diagnostics)

end Backend

end Custody
