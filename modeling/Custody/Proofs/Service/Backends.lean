import Custody.Proofs.Service.Calls
import Custody.Proofs.Service.Selection
import Custody.Vault.Session

/-!
# Backends cannot be told apart

A program reaches the native library through six services, and what it can do with each is put a
question to it (`Question`): make a service call, make a native call as it stands, ask for the
meaning of a status, or ask how the service was reached. Only the answer to the last depends on
anything but the entry points (`Question.put_congr`), and this carries over to whole conversations
with all six services (`Services.converse_congr`).

A look-up that finds the entry points bound in advance ends with these as its own, whichever of them
share their arguments, and therefore the two backends differ in what they say of themselves and in
nothing else (`Session.backends_indistinguishable`).

The conversation is the test: whatever a program puts to the services, in whatever order and with
whatever it has learned before, the answers of the two backends are the same but for the kind. Since
an answer is a function of the entry points, of the kind and of the state, the proof is short. What
it rests on is that a complete look-up has put each entry point under the symbol that it was looked
up for (`bindings_eq`), a fact about the tables of names: what is looked up is what the library
gives, name for name (`lookedUp_eq_exported`).
-/

namespace Custody

variable {σ : Type}

/-! ## Questions -/

/-- What a program can do with a service. -/
inductive Question
  /-- Make a service call. -/
  | service (call : ServiceCall)
  /-- Make a native call as it stands. -/
  | native (call : Call)
  /-- Ask for the meaning of a status. -/
  | check (status : Int32)
  /-- Ask how the service was reached. -/
  | kind

/-- What a program sees of a service. -/
inductive Answer
  /-- What came of a service call. -/
  | served (served : Served)
  /-- The reply to a native call. -/
  | replied (reply : Reply)
  /-- The meaning of a status. -/
  | meant (outcome : Except Abort Nat)
  /-- How the service was reached. -/
  | kind (kind : BackendKind)

/-- An answer as another kind of backend would give it: that tells its own kind. -/
def Answer.under (kind : BackendKind) : Answer → Answer
  | .kind _ => .kind kind
  | other => other

/-- Puts a question to a service. -/
def Question.put (backend : Backend σ) : Question → StateM σ Answer
  | service call => do return .served (← call.serve backend)
  | native call => do return .replied (← backend.submit call)
  | check status => do return .meant (← (backend.check status).outcome)
  | kind => return .kind backend.kind

/-- **Holds a conversation** with services: puts each question to the service that it is for. -/
def Services.converse (services : Services σ) : List (Port × Question) → StateM σ (List Answer)
  | [] => return []
  | (port, question) :: rest => do
    let answer ← question.put (port.of services)
    let answers ← converse services rest
    return answer :: answers

/-! ## What an answer depends on -/

section Congr

variable {backend other : Backend σ}

/-- A service call depends on the entry points. -/
theorem ServiceCall.serve_congr (h : backend.entry = other.entry) (call : ServiceCall) :
    call.serve backend = call.serve other := by
  obtain ⟨kind, entry⟩ := backend
  obtain ⟨kind', entry'⟩ := other
  obtain rfl : entry = entry' := h
  cases call <;> rfl

/-- **An answer depends on the entry points**, but for the kind that it may tell. -/
theorem Question.put_congr (h : backend.entry = other.entry) (question : Question) (state : σ) :
    question.put backend state
      = ((question.put other state).1.under backend.kind, (question.put other state).2) := by
  obtain ⟨kind, entry⟩ := backend
  obtain ⟨kind', entry'⟩ := other
  obtain rfl : entry = entry' := h
  cases question with
  | service call =>
    show (let (served, after) := call.serve ⟨kind, entry⟩ state; (Answer.served served, after)) = _
    have hentry : Backend.entry ⟨kind, entry⟩ = Backend.entry ⟨kind', entry⟩ := rfl
    rw [ServiceCall.serve_congr hentry call]
    rfl
  | native call => rfl
  | check status => rfl
  | kind => rfl

/-- **A conversation depends on the entry points**, but for the kinds that are told in it. -/
theorem Services.converse_congr (h : backend.entry = other.entry)
    (questions : List (Port × Question)) (state : σ) :
    (Services.ofBackend backend).converse questions state
      = (((Services.ofBackend other).converse questions state).1.map (Answer.under backend.kind),
        ((Services.ofBackend other).converse questions state).2) := by
  induction questions generalizing state with
  | nil => rfl
  | cons first rest ih =>
    obtain ⟨port, question⟩ := first
    have hfirst := question.put_congr h state
    rw [← port.of_ofBackend backend, ← port.of_ofBackend other] at hfirst
    show (let (answer, after) := question.put (port.of (Services.ofBackend backend)) state
      let (answers, last) := (Services.ofBackend backend).converse rest after
      (answer :: answers, last)) = _
    rw [hfirst, port.of_ofBackend backend]
    dsimp only
    rw [ih]
    rfl

end Congr

/-! ## The two backends -/

namespace Session

/-- The version of the library is the one that is expected, and asking for it changes nothing. -/
theorem entry_version (session : Session) : entry .version .version session
    = (.bare interfaceVersion.toInt32, { session with calls := session.calls + 1 }) := rfl

/-- **The two backends cannot be told apart.** Where each name leads to the entry point that is
bound in advance for it, the look-up succeeds, and in every conversation from the same session on
the answers are the same, but for the kind where that is asked for, and so is the session at the
end. -/
theorem backends_indistinguishable (lookup : Exports Session)
    (hlookup : ∀ symbol ∈ Symbol.all, lookup symbol.name = some (bound.entry symbol))
    (session : Session) : ∃ resolved after, probe lookup session = (.ok resolved, after)
      ∧ after.vault = session.vault
      ∧ ∀ questions start, (Services.ofBackend resolved.backend).converse questions start
        = (((Services.ofBackend bound).converse questions start).1.map (Answer.under .dynamic),
          ((Services.ofBackend bound).converse questions start).2) :=
  ⟨⟨⟨.dynamic, bound.entry⟩, interfaceVersion, "custom lookup"⟩, _,
    probe_of_complete (fun symbol => hlookup symbol symbol.mem_all) (entry_version session)
      (by decide), rfl, Services.converse_congr rfl⟩

/-- Questions to three services. -/
def exampleQuestions : List (Port × Question) :=
  [(.digest, .kind), (.keySpec, .service (.allocate .keyAllocate)),
    (.faults, .service .faultsAvailable), (.kem, .native (.secretLength 1))]

/-- What the library exports is found, and a conversation with it goes as one with the entry points
bound in advance, in which a container is made that has no key. -/
theorem backends_indistinguishable_exported :
    (∀ symbol ∈ Symbol.all, exported symbol.name = some (bound.entry symbol))
      ∧ (∃ resolved after, probe exported (start fun _ => Vault.supplyOf 1) = (.ok resolved, after)
        ∧ after.vault = .empty
        ∧ ∀ questions start, (Services.ofBackend resolved.backend).converse questions start
          = (((Services.ofBackend bound).converse questions start).1.map (Answer.under .dynamic),
            ((Services.ofBackend bound).converse questions start).2))
      ∧ ((Services.ofBackend bound).converse exampleQuestions (start fun _ => Vault.supplyOf 1)).1
        = [.kind .dispatch, .served ⟨.ok (.handle ⟨1, by decide⟩), []⟩,
          .served ⟨.ok (.truth true), []⟩,
          .replied (.bare ErrorCode.keySpecHasNullKey.status)] := by
  refine ⟨fun symbol _ => exported_name symbol, ?_, ?_⟩
  · exact backends_indistinguishable exported (fun symbol _ => exported_name symbol)
      (start fun _ => Vault.supplyOf 1)
  · rfl

end Session

end Custody
