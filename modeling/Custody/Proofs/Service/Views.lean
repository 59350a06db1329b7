import Custody.Service.Basic

/-!
# Views that actions leave as they are

Of a state, somebody may look at a part only: at some of the calls that were made, say, or at the
things under some names. Here are the rules by which actions are put together that leave such a view
as it is (`Preserves`). If neither the call of a request nor the calls that fetch the diagnostics
change what somebody sees, no request does, whatever its outcome (`Overlooks`).

The rules do not ask what the view is. They serve for the calls that set faults
(`Recorded.switches`), for the things on a shelf, and for whatever else is read off a state; an
action that changes more than the view keeps has no rule here and needs none.
-/

namespace Custody

variable {τ γ α β : Type}

/-- **An action that leaves a view of the state as it is.** -/
def Preserves (view : τ → γ) (act : StateM τ α) : Prop := ∀ state, view (act state).2 = view state

namespace Preserves

variable {view : τ → γ}

theorem pure (a : α) : Preserves view (Pure.pure a) := fun _ => rfl

/-- One action after another. -/
theorem bind {act : StateM τ α} {rest : α → StateM τ β} (h : Preserves view act)
    (hrest : ∀ a, Preserves view (rest a)) : Preserves view (act >>= rest) := fun state =>
  (hrest _ _).trans (h state)

/-- An action that may end early, and another that comes after it. -/
theorem andThen {ε : Type} {act : ExceptT ε (StateM τ) α} {rest : α → ExceptT ε (StateM τ) β}
    (h : Preserves view act) (hrest : ∀ a, Preserves view (rest a)) :
    Preserves view (act >>= rest : ExceptT ε (StateM τ) β) := by
  have hcont : ∀ result : Except ε α, Preserves view (ExceptT.bindCont rest result) := by
    intro result
    cases result with
    | ok a => exact hrest a
    | error setback => exact fun _ => rfl
  exact bind h hcont

/-- An action that cannot fail. -/
theorem ofState {act : StateM τ α} (h : Preserves view act) : Preserves view (Act.ofState act) := h

theorem ofExcept (result : Except Abort α) :
    Preserves view (Act.ofExcept result : Act τ α) := fun _ => rfl

theorem fail (failure : Failure) : Preserves view (Act.fail failure : Act τ α) := ofExcept _

/-- A failure that is told with what was attempted. -/
theorem during {act : Act τ α} (h : Preserves view act) (context : String) :
    Preserves view (act.during context) := by
  intro state
  have hact := h state
  unfold Act.during
  split
  · rename_i heq
    rwa [heq] at hact
  · rename_i heq
    rwa [heq] at hact

end Preserves

/-- **A view that no request changes.** -/
structure Overlooks (backend : Backend τ) (view : τ → γ) : Prop where
  /-- The call of a request leaves it as it is. -/
  request : ∀ {request : Request} {call : Call}, request.call = .ok call →
    Preserves view (backend.submit call)
  /-- So do the calls that fetch the diagnostics. -/
  drain : ∀ capacity, Preserves view (backend.submit (.drain capacity))

namespace Overlooks

open Preserves

variable {backend : Backend τ} {view : τ → γ} (h : Overlooks backend view)

include h

/-- The diagnostics are fetched with two calls, neither of which changes the view. -/
theorem takeDiagnostics : Preserves view backend.takeDiagnostics := by
  refine bind (h.drain _) fun pending => ?_
  split
  · exact pure _
  · exact bind (h.drain _) fun _ => pure _

/-- On a negative status the diagnostics are fetched, and else nothing is done. -/
theorem check (status : Int32) : Preserves view (backend.check status) := by
  unfold Backend.check
  split
  · exact ofExcept _
  · exact andThen (ofState h.takeDiagnostics) fun _ => ofExcept _

/-- A check whose failure tells of the request fetches the same. -/
theorem checkFor (request : Request) (status : Int32) :
    Preserves view (backend.checkFor request status) := by
  unfold Backend.checkFor
  split
  · exact h.check status
  · exact during (h.check status) _

/-- **A request makes its call** or, if it has no form, none. -/
theorem exchange (request : Request) : Preserves view (backend.exchange request) := by
  unfold Backend.exchange
  split
  · exact pure _
  · rename_i call hcall
    exact bind (h.request hcall) fun reply =>
      bind (h.checkFor request reply.status) fun _ => pure _

/-- A request for a number. -/
theorem number (request : Request) : Preserves view (backend.number request) :=
  andThen (ofState (h.exchange request)) fun _ => ofExcept _

/-- A request that is only to be carried out. -/
theorem perform (request : Request) : Preserves view (backend.perform request) :=
  andThen (h.number request) fun _ => pure _

/-- A request that fills a buffer. -/
theorem fill (request : Nat → Request) (before : Bytes) :
    Preserves view (backend.fill request before) :=
  bind (h.exchange _) fun _ => pure _

/-- A request for a new context. -/
theorem allocate (request : Request) : Preserves view (backend.allocate request) := by
  refine andThen (ofState (h.exchange request)) fun result => andThen (ofExcept _) fun _ => ?_
  split
  · exact pure _
  · exact fail _

/-- The type of a key, whose number is checked when it has been reported. -/
theorem keyType (handle : Address) : Preserves view (backend.keyType handle) := by
  refine andThen (h.number _) fun raw => ?_
  split
  · exact pure _
  · exact fail _

/-- A verdict on a signature, whose number is checked in the same way. -/
theorem verify (handle : Address) (signature : Bytes) :
    Preserves view (backend.verify handle signature) := by
  refine andThen (h.number _) fun truth => ?_
  split
  · exact pure _
  · exact pure _
  · exact fail _

end Overlooks

end Custody
