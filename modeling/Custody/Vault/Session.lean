import Custody.Native.Arguments
import Custody.Native.Backend
import Custody.Service.Selection
import Custody.Vault.Answer

/-!
# Sessions with the vault

The native library together with what it takes from outside, as the state of a backend. It has one
function for each entry point (`Session.entry`), which sees its arguments and not the name under
which it was called. The entry points bound in advance and those found by name are these functions.
-/

namespace Custody

/-- The native library and what it will take from outside. -/
structure Session where
  /-- The library. -/
  vault : Vault
  /-- What the `n`-th call may take. -/
  supply : Nat → Supply
  /-- The number of calls so far. -/
  calls : Nat

namespace Session

/-- A session before its first call. -/
def start (supply : Nat → Supply) : Session := ⟨.empty, supply, 0⟩

/-- Makes a call. -/
def submit (call : Call) : StateM Session Reply := fun session =>
  let (reply, vault) := session.vault.answer (session.supply session.calls) call
  (reply, { session with vault := vault, calls := session.calls + 1 })

/-- An entry point, which takes its arguments for those of a call of its own. It does nothing with
arguments of another kind. -/
def entry (symbol : Symbol) : EntryPoint Session := fun call =>
  match symbol.call? call.arguments with
  | some own => submit own
  | none => pure (.bare 0)

/-- The entry points as they are bound in advance. -/
def bound : Backend Session := ⟨.dispatch, entry⟩

/-- The entry points as the library exports them. -/
def exported : Exports Session := fun name => (Symbol.ofName? name).map entry

/-- A call that reaches the entry point that it is for is answered. -/
@[simp] theorem entry_symbol (call : Call) : entry call.symbol call = submit call := by
  rw [entry, Symbol.call?_arguments]

@[simp] theorem submit_bound (call : Call) : bound.submit call = submit call := entry_symbol call

@[simp] theorem exported_name (symbol : Symbol) : exported symbol.name = some (entry symbol) := by
  rw [exported, Symbol.ofName?_name, Option.map_some]

end Session

end Custody
