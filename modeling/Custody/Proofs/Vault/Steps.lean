import Custody.Vault.Answer

/-!
# How steps end

A call of the vault is a chain of steps that work on one state. What is proved of a call is proved
along its chain, and `Step.Ends` is the form that it takes: from a given state the step either
passes, with a value and a state of which one thing is known, or fails, with a code and a state of
which another is. The two sides are kept apart because a failure keeps the state that it finds.

There is one rule for each way of putting steps together. A rule for a step that comes first asks
what is to hold if it fails, and goes on with what is known once it has passed: that a check of the
library gave a value, that a condition holds, that a fault is not raised. So the shape of a proof is
the shape of the entry point, and a new property of calls needs no rules of its own.

The last section says when a call is granted, step by step, as equivalences that rewrite
(`Step.on_look_eq_ok_iff` and its companions).
-/

namespace Custody.Vault

variable {α β : Type} {vault : Vault} {state after : CallState} {code : ErrorCode}
  {flag : FaultFlag}

namespace Step

/-! ## The primitive steps -/

section Exec

variable {check : Vault → Check α} {step : Step α} {rest : α → Step β}

@[simp] theorem exec_pure (a : α) (state : CallState) :
    (pure a : Step α).exec state = (.ok a, state) := rfl

@[simp] theorem exec_look (state : CallState) :
    (look check).exec state = (check state.vault, state) := rfl

@[simp] theorem exec_change (f : Vault → Vault) (state : CallState) :
    (change f).exec state = (.ok (), { state with vault := f state.vault }) := rfl

@[simp] theorem exec_store (bytes : Bytes) (state : CallState) :
    (store bytes).exec state = (.ok (), { state with written := state.written ++ bytes }) := rfl

@[simp] theorem exec_handOut (address : Address) (state : CallState) :
    (handOut address).exec state = (.ok (), { state with handle := some address }) := rfl

@[simp] theorem exec_fail (code : ErrorCode) (state : CallState) :
    (fail code : Step α).exec state = (.error code, state) := rfl

/-- **A chain of steps**: the rest begins where the first step has ended, if that has passed. -/
theorem exec_bind (step : Step α) (rest : α → Step β) (state : CallState) :
    (step >>= rest).exec state = match step.exec state with
      | (.ok a, after) => (rest a).exec after
      | (.error code, after) => (.error code, after) := by
  have hunfold : (step >>= rest).exec state
      = ExceptT.bindCont rest (step.exec state).1 (step.exec state).2 := rfl
  rw [hunfold]
  cases step.exec state with
  | mk result after => cases result <;> rfl

/-- The rest takes over where a step has passed. -/
theorem exec_bind_of_ok {a : α} (h : step.exec state = (.ok a, after)) :
    (step >>= rest).exec state = (rest a).exec after := by rw [exec_bind, h]

/-- **A failure is the end**, in the state that the step has left. -/
theorem exec_bind_of_error (h : step.exec state = (.error code, after)) :
    (step >>= rest).exec state = (.error code, after) := by rw [exec_bind, h]

/-- Nothing is undone: where a context has been made and a later step fails, the call ends with the
context in the library, and with its address in the caller's slot. -/
example (vault : Vault) (address : Address) (context : Context) (code : ErrorCode) :
    settle ((allocate address context >>= fun _ => fail code).on vault)
      = (⟨code.status, some address, []⟩, vault.set address context) := rfl

end Exec

/-! ## What holds when a step ends -/

/-- **How a step ends**, from a state: it passes, and then one thing holds of its value and of the
state that it leaves, or it fails, and then another holds of its code and of that state. -/
structure Ends (step : Step α) (state : CallState) (passes : α → CallState → Prop)
    (fails : ErrorCode → CallState → Prop) : Prop where
  /-- What holds if it passes. -/
  of_ok : ∀ {a after}, step.exec state = (.ok a, after) → passes a after
  /-- What holds if it fails. -/
  of_error : ∀ {code after}, step.exec state = (.error code, after) → fails code after

namespace Ends

variable {step : Step α} {rest : α → Step β} {passes : β → CallState → Prop}
  {fails : ErrorCode → CallState → Prop}

/-- A step that passes. -/
theorem passed {step : Step β} {b : β} (hstep : step.exec state = (.ok b, after))
    (h : passes b after) : step.Ends state passes fails := by
  constructor
  · intro a after' ha
    cases hstep.symm.trans ha
    exact h
  · intro code after' hcode
    cases hstep.symm.trans hcode

/-- A step that fails. -/
theorem failed {step : Step β} (hstep : step.exec state = (.error code, after))
    (h : fails code after) : step.Ends state passes fails := by
  constructor
  · intro a after' ha
    cases hstep.symm.trans ha
  · intro code' after' hcode
    cases hstep.symm.trans hcode
    exact h

/-- A look at the library is all there is. -/
theorem looked {check : Vault → Check β}
    (hfails : ∀ code, check state.vault = .error code → fails code state)
    (h : ∀ b, check state.vault = .ok b → passes b state) :
    (Step.look check).Ends state passes fails := by
  cases hcheck : check state.vault with
  | ok b => exact passed (by rw [exec_look, hcheck]) (h b hcheck)
  | error code => exact failed (by rw [exec_look, hcheck]) (hfails code hcheck)

/-! ### Chains -/

/-- A chain of steps ends as the rest does after the first step. -/
theorem bind (h : step.Ends state (fun a after => (rest a).Ends after passes fails) fails) :
    (step >>= rest).Ends state passes fails := by
  cases hstep : step.exec state with
  | mk result after =>
    cases result with
    | error code => exact failed (exec_bind_of_error hstep) (h.of_error hstep)
    | ok a =>
      have hrest : (rest a).Ends after passes fails := h.of_ok hstep
      exact ⟨fun hb => hrest.of_ok ((exec_bind_of_ok hstep).symm.trans hb),
        fun hcode => hrest.of_error ((exec_bind_of_ok hstep).symm.trans hcode)⟩

/-- A chain whose first step passes. -/
theorem bind_passed {a : α} (hstep : step.exec state = (.ok a, after))
    (h : (rest a).Ends after passes fails) : (step >>= rest).Ends state passes fails :=
  bind (passed hstep h)

/-- A look at the library comes first. -/
theorem look {check : Vault → Check α}
    (hfails : ∀ code, check state.vault = .error code → fails code state)
    (h : ∀ a, check state.vault = .ok a → (rest a).Ends state passes fails) :
    (Step.look check >>= rest).Ends state passes fails := bind (looked hfails h)

/-- A condition that has to hold. It is known from there on. -/
theorem demand {condition : Bool} {rest : Unit → Step β}
    (hfails : condition = false → fails code state)
    (h : condition = true → (rest ()).Ends state passes fails) :
    (Step.demand condition code >>= rest).Ends state passes fails := by
  cases condition with
  | true => exact bind_passed rfl (h rfl)
  | false => exact bind (failed rfl (hfails rfl))

/-- A value that has to be there. It is known from there on. -/
theorem need {value : Option α} (hfails : value = none → fails code state)
    (h : ∀ a, value = some a → (rest a).Ends state passes fails) :
    (Step.need value code >>= rest).Ends state passes fails := by
  cases value with
  | some a => exact bind_passed rfl (h a rfl)
  | none => exact bind (failed rfl (hfails rfl))

/-- A fault that must not be raised. That it is not is known from there on. -/
theorem unraised {rest : Unit → Step β}
    (hfails : state.vault.raised flag = true → fails code state)
    (h : state.vault.raised flag = false → (rest ()).Ends state passes fails) :
    (Step.unraised flag code >>= rest).Ends state passes fails := by
  cases hraised : state.vault.raised flag with
  | false => exact bind_passed (by simp [Step.unraised, hraised, Check.demand]) (h hraised)
  | true =>
    exact bind (failed (by simp [Step.unraised, hraised, Check.demand]) (hfails hraised))

/-- A choice, of which each side may use what it knows. -/
theorem ite {condition : Prop} [Decidable condition] {yes no : Step β}
    (hyes : condition → yes.Ends state passes fails)
    (hno : ¬ condition → no.Ends state passes fails) :
    (if condition then yes else no).Ends state passes fails := by
  split
  · exact hyes ‹_›
  · exact hno ‹_›

/-- It depends on a fault how the call goes on. -/
theorem isRaised {yes no : Step β}
    (hyes : state.vault.raised flag = true → yes.Ends state passes fails)
    (hno : state.vault.raised flag = false → no.Ends state passes fails) :
    (Step.isRaised flag >>= fun raised => if raised then yes else no).Ends state passes fails :=
  look nofun fun _ hraised => by
    cases hraised
    exact ite hyes fun hraised => hno (Bool.eq_false_iff.mpr hraised)

/-- The library is changed first. -/
theorem change {f : Vault → Vault} {rest : Unit → Step β}
    (h : (rest ()).Ends { state with vault := f state.vault } passes fails) :
    (Step.change f >>= rest).Ends state passes fails := bind_passed rfl h

theorem put {address : Address} {context : Context} {rest : Unit → Step β}
    (h : (rest ()).Ends { state with vault := state.vault.set address context } passes fails) :
    (Step.put address context >>= rest).Ends state passes fails := change h

theorem store {bytes : Bytes} {rest : Unit → Step β}
    (h : (rest ()).Ends { state with written := state.written ++ bytes } passes fails) :
    (Step.store bytes >>= rest).Ends state passes fails := bind_passed rfl h

theorem handOut {address : Address} {rest : Unit → Step β}
    (h : (rest ()).Ends { state with handle := some address } passes fails) :
    (Step.handOut address >>= rest).Ends state passes fails := bind_passed rfl h

/-- Random bytes are drawn first. -/
theorem draw {seed : Option Key32} {rest : Key32 → Step β}
    (hfails : seed = none → fails .nativeError
      { state with vault := state.vault.push "system random source failed" })
    (h : ∀ half, seed = some half → (rest half).Ends state passes fails) :
    (Step.draw seed >>= rest).Ends state passes fails := by
  cases seed with
  | some half => exact bind_passed rfl (h half rfl)
  | none => exact bind (failed rfl (hfails rfl))

/-! ### Last steps -/

protected theorem pure {b : β} (h : passes b state) : (pure b : Step β).Ends state passes fails :=
  passed rfl h

protected theorem failSaying {line : String}
    (h : fails code { state with vault := state.vault.push line }) :
    (failSaying code line : Step β).Ends state passes fails := failed rfl h

end Ends

end Step

/-! ## Grants and refusals -/

/-- The grant of a call that only reports a status. -/
def report (vault : Vault) (status : Int32) : Grant := ⟨⟨vault, none, []⟩, status⟩

/-- The grant of a call that reports how many bytes it writes, and writes them. -/
def deliver (vault : Vault) (written : Bytes) : Grant :=
  ⟨⟨vault, none, written⟩, Int32.ofNat written.length⟩

/-- The grant of a call that makes a context. -/
def allocated (vault : Vault) (address : Address) (context : Context) : Grant :=
  ⟨⟨vault.set address context, some address, []⟩, 0⟩

/-- A context that was made is at its address. -/
theorem get?_allocated (vault : Vault) (address : Address) (context : Context) :
    (vault.allocated address context).vault.contexts.get? address = some context :=
  Heap.get?_put_self ..

/-- The refusal of a call that has done nothing. -/
def refused (vault : Vault) (code : ErrorCode) : Refusal := ⟨⟨vault, none, []⟩, code⟩

namespace Step

section On

variable {check : Vault → Check α} {step : Step Int32} {rest : α → Step Int32}
  {next : Unit → Step Int32} {grant : Grant} {refusal : Refusal}

/-- **A verdict that grants** is that of a step that passes. -/
theorem on_eq_ok_iff : step.on vault = .ok grant ↔
    step.exec (.start vault) = (.ok grant.status, grant.toCallState) := by
  unfold on
  split
  · rename_i status state hstep
    rw [hstep]
    constructor
    · rintro ⟨⟩
      rfl
    · intro h
      cases h
      rfl
  · rename_i code state hstep
    rw [hstep]
    exact ⟨nofun, nofun⟩

/-- **A verdict that refuses** is that of a step that fails, with the state in which it does. -/
theorem on_eq_error_iff : step.on vault = .error refusal ↔
    step.exec (.start vault) = (.error refusal.code, refusal.toCallState) := by
  unfold on
  split
  · rename_i status state hstep
    rw [hstep]
    exact ⟨nofun, nofun⟩
  · rename_i code state hstep
    rw [hstep]
    constructor
    · rintro ⟨⟩
      rfl
    · intro h
      cases h
      rfl

/-- What holds when a call passes holds of its grant. -/
theorem Ends.of_on_ok {passes : Int32 → CallState → Prop} {fails : ErrorCode → CallState → Prop}
    (h : step.Ends (.start vault) passes fails) (hgrant : step.on vault = .ok grant) :
    passes grant.status grant.toCallState := h.of_ok (on_eq_ok_iff.mp hgrant)

/-- What holds when a call fails holds of its refusal. -/
theorem Ends.of_on_error {passes : Int32 → CallState → Prop} {fails : ErrorCode → CallState → Prop}
    (h : step.Ends (.start vault) passes fails) (hrefusal : step.on vault = .error refusal) :
    fails refusal.code refusal.toCallState := h.of_error (on_eq_error_iff.mp hrefusal)

/-! ### When a call is granted -/

/-- Steps that end alike give the same verdict. -/
theorem on_congr {other : Step Int32} {vault' : Vault}
    (h : step.exec (.start vault) = other.exec (.start vault')) :
    step.on vault = other.on vault' := by
  rw [on, on, h]

/-- A first step that leaves the call as it began. -/
theorem on_bind_eq_ok {gives : α → Prop} {fails : ErrorCode → CallState → Prop} {step : Step α}
    (h : step.Ends (.start vault) (fun a after => after = .start vault ∧ gives a) fails)
    (hgrant : (step >>= rest).on vault = .ok grant) :
    ∃ a, gives a ∧ (rest a).on vault = .ok grant := by
  cases hstep : step.exec (.start vault) with
  | mk result after =>
    cases result with
    | error code =>
      have hexec := on_eq_ok_iff.mp hgrant
      cases (exec_bind_of_error hstep).symm.trans hexec
    | ok a =>
      obtain ⟨rfl, ha⟩ := h.of_ok hstep
      exact ⟨a, ha, (on_congr (exec_bind_of_ok hstep)).symm.trans hgrant⟩

/-- A check that passes leaves the verdict to what comes after it. -/
theorem on_look_of_ok {a : α} (h : check vault = .ok a) :
    (look check >>= rest).on vault = (rest a).on vault :=
  on_congr (exec_bind_of_ok (congrArg (·, CallState.start vault) h))

/-- A check that fails is a refusal by itself. -/
theorem on_look_of_error (h : check vault = .error code) :
    (look check >>= rest).on vault = .error (vault.refused code) :=
  on_eq_error_iff.mpr (exec_bind_of_error (congrArg (·, CallState.start vault) h))

@[simp] theorem on_look_eq_ok_iff : (look check >>= rest).on vault = .ok grant ↔
    ∃ a, check vault = .ok a ∧ (rest a).on vault = .ok grant := by
  cases hcheck : check vault with
  | ok a => simp [on_look_of_ok hcheck]
  | error code => simp [on_look_of_error hcheck]

@[simp] theorem on_looked_eq_ok_iff {check : Vault → Check Int32} :
    (look check).on vault = .ok grant ↔
      ∃ status, check vault = .ok status ∧ vault.report status = grant := by
  cases hcheck : check vault with
  | ok status =>
    have hon : (look check).on vault = .ok (vault.report status) :=
      on_eq_ok_iff.mpr (congrArg (·, CallState.start vault) hcheck)
    simp [hon]
  | error code =>
    have hon : (look check).on vault = .error (vault.refused code) :=
      on_eq_error_iff.mpr (congrArg (·, CallState.start vault) hcheck)
    simp [hon]

@[simp] theorem on_demand_eq_ok_iff {condition : Bool} :
    (demand condition code >>= next).on vault = .ok grant ↔
      condition = true ∧ (next ()).on vault = .ok grant := by
  cases condition with
  | true => exact (and_iff_right rfl).symm
  | false => exact ⟨nofun, nofun⟩

@[simp] theorem on_need_eq_ok_iff {value : Option α} :
    (need value code >>= rest).on vault = .ok grant ↔
      ∃ a, value = some a ∧ (rest a).on vault = .ok grant := by
  cases value with
  | some a =>
    constructor
    · exact fun h => ⟨a, rfl, h⟩
    · rintro ⟨_, ⟨⟩, h⟩
      exact h
  | none => exact ⟨nofun, nofun⟩

/-- A value that is there is used from there on. -/
theorem on_need_of_some {value : Option α} {a : α} (h : value = some a) :
    (need value code >>= rest).on vault = (rest a).on vault := by
  subst h
  rfl

/-- A value that is not there is a refusal. -/
theorem on_need_of_none {value : Option α} (h : value = none) :
    (need value code >>= rest).on vault = .error (vault.refused code) := by
  subst h
  rfl

/-- A fault that is not raised is passed over. -/
theorem on_unraised_of_false (h : vault.raised flag = false) :
    (unraised flag code >>= next).on vault = (next ()).on vault :=
  on_look_of_ok (by rw [h]; rfl)

/-- A fault that is raised is a refusal. -/
theorem on_unraised_of_true (h : vault.raised flag = true) :
    (unraised flag code >>= next).on vault = .error (vault.refused code) :=
  on_look_of_error (by rw [h]; rfl)

@[simp] theorem on_unraised_eq_ok_iff : (unraised flag code >>= next).on vault = .ok grant ↔
    vault.raised flag = false ∧ (next ()).on vault = .ok grant := by
  have h : (unraised flag code >>= next).on vault
      = (demand (!vault.raised flag) code >>= next).on vault := rfl
  rw [h, on_demand_eq_ok_iff, Bool.not_eq_true']

/-- Random bytes that the system has are used from there on. -/
theorem on_draw_of_some {seed : Option Key32} {rest : Key32 → Step Int32} {half : Key32}
    (h : seed = some half) : (draw seed >>= rest).on vault = (rest half).on vault := by
  subst h
  rfl

@[simp] theorem on_draw_eq_ok_iff {seed : Option Key32} {rest : Key32 → Step Int32} :
    (draw seed >>= rest).on vault = .ok grant ↔
      ∃ half, seed = some half ∧ (rest half).on vault = .ok grant := by
  cases seed with
  | some half =>
    constructor
    · exact fun h => ⟨half, rfl, h⟩
    · rintro ⟨_, ⟨⟩, h⟩
      exact h
  | none => exact ⟨nofun, nofun⟩

@[simp] theorem on_isRaised {rest : Bool → Step Int32} :
    (isRaised flag >>= rest).on vault = (rest (vault.raised flag)).on vault := rfl

@[simp] theorem on_put {address : Address} {context : Context} :
    (put address context >>= next).on vault = (next ()).on (vault.set address context) := rfl

@[simp] theorem on_pure {status : Int32} :
    (pure status : Step Int32).on vault = .ok (vault.report status) := rfl

@[simp] theorem on_deliver {bytes : Bytes} : (deliver bytes).on vault = .ok (vault.deliver bytes) :=
  rfl

/-- The window is written before the context is put in place. -/
@[simp] theorem on_deliver_put {bytes : Bytes} {address : Address} {context : Context} :
    (deliver bytes >>= fun written => put address context >>= fun _ => pure written).on vault
      = .ok ((vault.set address context).deliver bytes) := rfl

@[simp] theorem on_allocate {address : Address} {context : Context} :
    (allocate address context).on vault = .ok (vault.allocated address context) := rfl

/-- A failure with a line grants nothing. -/
@[simp] theorem on_failSaying_ne_ok {line : String} :
    (failSaying code line).on vault ≠ .ok grant := nofun

end On

end Step

end Custody.Vault
