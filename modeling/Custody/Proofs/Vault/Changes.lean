import Custody.Proofs.Vault.Effects

/-!
# What a call changes

What all calls have in common, read off the effects that a call can have (`Vault.Effect`) and off
what a failure leaves behind (`Vault.Residue`).

A call that is granted never reports a negative status, and one that fails always does, so that the
status tells which it was. A call changes one context at most, and only if that is of the kind that
the call is for (`Vault.frame_answer`). Only the three calls that allocate put a context where there
was none, and only the three that dispose take one away, and only one of their own kind
(`Vault.kindAt_answer`). So the vault is a library in the sense of `Library` (`Library.vault`).

A reader who wants to know what a call can do to a context, a fault or the diagnostics finds it
here, in terms of the answer to the call. The entry points themselves are not looked into any more:
everything follows from the effect of a call that is granted and from what a call that fails leaves
behind.
-/

namespace Custody

open Held

namespace Call

variable {call : Call}

theorem sets?_of_makes? {domain : Domain} (h : call.makes? = some domain) (flag : FaultFlag) :
    call.sets? flag = none := by
  cases call with
  | digestAllocate | keyAllocate | signatureAllocate => rfl
  | _ => cases h

theorem sets?_of_frees? {freed : Address × Domain} (h : call.frees? = some freed)
    (flag : FaultFlag) : call.sets? flag = none := by
  cases call with
  | digestDispose | keyDispose | signatureDispose => rfl
  | _ => cases h

/-- A call may change the context that it frees. -/
theorem changes?_of_frees? {freed : Address × Domain} (h : call.frees? = some freed) :
    call.changes? = some freed := by
  cases call with
  | digestDispose | keyDispose | signatureDispose => exact h
  | _ => cases h

end Call

namespace Vault

variable {vault : Vault} {supply : Supply} {call : Call} {grant : Grant} {refusal : Refusal}
  {code : ErrorCode} {status : Int32} {after : CallState} {handle address : Address}
  {domain : Domain} {freed : Address × Domain}

/-- The library with other diagnostics. -/
def saying (vault : Vault) (lines : List String) : Vault := { vault with diagnostics := lines }

/-! ## Calls that are granted -/

theorem effect_of_verdict (h : vault.verdict supply call = .ok grant) :
    Effect vault supply call grant.status grant.toCallState :=
  (conforms_entry vault supply call).of_on_ok h

namespace Effect

theorem nonneg (h : Effect vault supply call status after) : 0 ≤ status := by
  cases h with
  | reports hstatus | puts hstatus | drains hstatus => exact hstatus
  | makes | frees | faults => exact Int32.le_refl 0

/-- **No context changes** but the one that the call is for, if that is of the right kind, and the
one that it hands out. -/
theorem frame (h : Effect vault supply call status after)
    (hne : after.vault.contexts.get? address ≠ vault.contexts.get? address) :
    after.handle = some address
      ∨ ∃ domain, call.changes? = some (address, domain) ∧ vault.kindAt address = some domain := by
  cases h with
  | reports | faults | drains => exact absurd rfl hne
  | @puts _ _ handle context _ _ hchanges hkind =>
    by_cases heq : address = handle
    · subst heq
      exact .inr ⟨context.domain, hchanges, hkind⟩
    · exact absurd ((Heap.get?_put ..).trans (if_neg heq)) hne
  | makes =>
    by_cases heq : address = supply.address
    · exact .inl (congrArg some heq.symm)
    · exact absurd ((Heap.get?_put ..).trans (if_neg heq)) hne
  | @frees freed hfrees hkind =>
    by_cases heq : address = freed.1
    · subst heq
      exact .inr ⟨freed.2, Call.changes?_of_frees? hfrees, hkind⟩
    · exact absurd ((Heap.get?_erase ..).trans (if_neg heq)) hne

/-- A call that makes a context hands it out. -/
theorem made (h : Effect vault supply call status after) (hmakes : call.makes? = some domain) :
    status = 0 ∧ ∃ context : Context, context.domain = domain
      ∧ after = ⟨vault.set supply.address context, some supply.address, []⟩ := by
  cases h with
  | @makes context hcontext =>
    exact ⟨rfl, context, Option.some.inj (hcontext.symm.trans hmakes), rfl⟩
  | reports _ hnone => cases hnone.symm.trans hmakes
  | puts _ hcall => cases hcall.makes.symm.trans hmakes
  | frees hfrees => cases (Call.makes?_of_frees? hfrees).symm.trans hmakes
  | faults hnone => cases hnone.symm.trans hmakes
  | drains _ hcall =>
    subst hcall
    cases hmakes

/-- A call that makes no context hands nothing out. -/
theorem handle_eq_none (h : Effect vault supply call status after) (hmakes : call.makes? = none) :
    after.handle = none := by
  cases h with
  | makes hsome => cases hmakes.symm.trans hsome
  | _ => rfl

/-- A call that frees a context takes it away. -/
theorem kindAt_of_frees? (h : Effect vault supply call status after)
    (hfrees : call.frees? = some freed) (address : Address) :
    after.vault.kindAt address
      = if freed.1 = address ∧ vault.kindAt address = some freed.2 then none
        else vault.kindAt address := by
  cases h with
  | @frees other hother hkind =>
    obtain rfl := Option.some.inj (hother.symm.trans hfrees)
    rw [kindAt_free]
    by_cases heq : address = other.1
    · rw [if_pos heq, if_pos ⟨heq.symm, heq ▸ hkind⟩]
    · rw [if_neg heq, if_neg fun h => heq h.1.symm]
  | reports _ _ hkept =>
    rw [if_neg]
    rintro ⟨rfl, hkind⟩
    exact hkept freed hfrees hkind
  | puts _ hcall => cases hcall.frees.symm.trans hfrees
  | makes hmakes => cases (Call.frees?_of_makes? hmakes).symm.trans hfrees
  | faults _ hnone => cases hnone.symm.trans hfrees
  | drains _ hcall =>
    subst hcall
    cases hfrees

/-- A call that neither makes nor frees a context leaves every kind as it is. -/
theorem kindAt_eq (h : Effect vault supply call status after) (hmakes : call.makes? = none)
    (hfrees : call.frees? = none) (address : Address) :
    after.vault.kindAt address = vault.kindAt address := by
  cases h with
  | reports | faults | drains => rfl
  | puts _ _ _ hkind => exact kindAt_set hkind address
  | makes hsome => cases hmakes.symm.trans hsome
  | frees hsome => cases hfrees.symm.trans hsome

/-- **What a call does to a fault.** -/
theorem raised (h : Effect vault supply call status after) (flag : FaultFlag) :
    after.vault.raised flag = (call.sets? flag).getD (vault.raised flag) := by
  cases h with
  | reports _ _ _ hsets => rw [hsets]; rfl
  | puts _ hcall => rw [hcall.sets]; rfl
  | makes hmakes => rw [Call.sets?_of_makes? hmakes]; rfl
  | frees hfrees => rw [Call.sets?_of_frees? hfrees]; rfl
  | faults _ _ hraised => exact hraised flag
  | drains _ hcall => rw [hcall]; rfl

/-- No call but `drain` touches the diagnostics, if it is granted. -/
theorem diagnostics (h : Effect vault supply call status after)
    (hdrain : ∀ capacity, call ≠ .drain capacity) :
    after.vault.diagnostics = vault.diagnostics := by
  cases h with
  | drains _ hcall => exact absurd hcall (hdrain _)
  | _ => rfl

end Effect

/-! ## Calls that fail -/

theorem residue_of_verdict (h : vault.verdict supply call = .error refusal) :
    Residue vault supply call refusal.code refusal.toCallState :=
  (conforms_entry vault supply call).of_on_error h

/-- **A failure leaves one line of diagnostics at most**, and nothing is handed out. -/
theorem Residue.exists_line (h : Residue vault supply call code after) :
    ∃ line : Option String,
      after = ⟨vault.saying (vault.diagnostics ++ line.toList), none, after.written⟩ := by
  cases h with
  | silent => exact ⟨none, by rw [Option.toList_none, List.append_nil]; rfl⟩
  | @saying _ line => exact ⟨some line, rfl⟩
  | spilt => exact ⟨some nonContributory, rfl⟩

/-! ## Disposal -/

/-- The grant that comes of disposing of a context of a kind. A handle that has none is passed
over. -/
def disposed (vault : Vault) (handle : Address) (domain : Domain) : Grant :=
  if vault.kindAt handle = some domain then report (vault.free handle) 0 else vault.report 0

theorem on_dispose {own : Context → Bool}
    (hown : (vault.contexts.get? handle).any own = true ↔ vault.kindAt handle = some domain) :
    (Step.dispose own handle).on vault = .ok (vault.disposed handle domain) := by
  show Except.ok (report (if (vault.contexts.get? handle).any own then vault.free handle else vault)
    0) = _
  by_cases hkind : vault.kindAt handle = some domain
  · rw [disposed, if_pos hkind, if_pos (hown.mpr hkind)]
  · rw [disposed, if_neg hkind, if_neg (mt hown.mp hkind)]

/-- **A disposal is always granted.** -/
theorem verdict_disposal (vault : Vault) (supply : Supply) (domain : Domain) (handle : Address) :
    vault.verdict supply (domain.disposal handle) = .ok (vault.disposed handle domain) := by
  cases domain with
  | digest => exact on_dispose any_isDigest_iff
  | keySpec => exact on_dispose any_isKey_iff
  | signature => exact on_dispose any_isSignature_iff

/-- Setting a fault that there is is always granted. -/
theorem verdict_faultSet (vault : Vault) (supply : Supply) (flag : FaultFlag) (on : Int32) :
    vault.verdict supply (.faultSet flag.number on)
      = .ok ((vault.withFault flag (on ≠ 0)).report 0) := by
  rw [verdict, entry, faultSet, FaultFlag.ofNumber?_number]
  rfl

/-! ## Answers -/

theorem answer_of_ok (h : vault.verdict supply call = .ok grant) :
    vault.answer supply call = (⟨grant.status, grant.handle, grant.written⟩, grant.vault) := by
  rw [answer, h]
  rfl

/-- **A call that fails leaves contexts and faults as they are**, hands nothing out, and adds one
line to the diagnostics at most. -/
theorem answer_of_error (h : vault.verdict supply call = .error refusal) :
    ∃ line : Option String, vault.answer supply call
      = (⟨refusal.code.status, none, refusal.written⟩,
        vault.saying (vault.diagnostics ++ line.toList)) := by
  obtain ⟨line, hafter⟩ := (residue_of_verdict h).exists_line
  have hhandle : refusal.handle = none := congrArg CallState.handle hafter
  have hvault : refusal.vault = vault.saying (vault.diagnostics ++ line.toList) :=
    congrArg CallState.vault hafter
  refine ⟨line, ?_⟩
  rw [answer, h, settle, hhandle, hvault]

/-- **A call that is granted has no negative status.** -/
theorem status_nonneg_of_ok (h : vault.verdict supply call = .ok grant) :
    0 ≤ (vault.answer supply call).1.status := by
  rw [answer_of_ok h]
  exact (effect_of_verdict h).nonneg

theorem status_of_error (h : vault.verdict supply call = .error refusal) :
    (vault.answer supply call).1.status = refusal.code.status := by
  rw [answer, h]
  rfl

/-- A call that fails hands nothing out. -/
theorem handle_of_error (h : vault.verdict supply call = .error refusal) :
    (vault.answer supply call).1.handle = none := by
  obtain ⟨line, hanswer⟩ := answer_of_error h
  rw [hanswer]

/-- A call that fails leaves the contexts as they are. -/
theorem contexts_of_error (h : vault.verdict supply call = .error refusal) :
    (vault.answer supply call).2.contexts = vault.contexts := by
  obtain ⟨line, hanswer⟩ := answer_of_error h
  rw [hanswer]
  rfl

/-- Only a call that makes a context hands something out. -/
theorem handle_answer_eq_none (hmakes : call.makes? = none) :
    (vault.answer supply call).1.handle = none := by
  cases hverdict : vault.verdict supply call with
  | error refusal => exact handle_of_error hverdict
  | ok grant =>
    rw [answer_of_ok hverdict]
    exact (effect_of_verdict hverdict).handle_eq_none hmakes

/-- A call that makes a context hands it out. -/
theorem handle_answer_of_makes? (h : vault.verdict supply call = .ok grant)
    (hmakes : call.makes? = some domain) :
    (vault.answer supply call).1.handle = some supply.address := by
  obtain ⟨-, context, -, hafter⟩ := (effect_of_verdict h).made hmakes
  rw [answer_of_ok h]
  exact congrArg CallState.handle hafter

/-- **An address that is handed out is that of a new context.** -/
theorem made_of_handle (h : (vault.answer supply call).1.handle = some handle) :
    handle = supply.address ∧ ∃ context : Context, call.makes? = some context.domain
      ∧ vault.verdict supply call = .ok (vault.allocated handle context) := by
  cases hverdict : vault.verdict supply call with
  | error refusal =>
    rw [handle_of_error hverdict] at h
    cases h
  | ok grant =>
    obtain ⟨after, status⟩ := grant
    have heffect : Effect vault supply call status after := effect_of_verdict hverdict
    rw [answer_of_ok hverdict] at h
    cases hmakes : call.makes? with
    | none => cases (heffect.handle_eq_none hmakes).symm.trans h
    | some domain =>
      obtain ⟨rfl, context, rfl, rfl⟩ := heffect.made hmakes
      cases h
      exact ⟨rfl, context, rfl, rfl⟩

/-- A call that is refused without a word leaves the library as it is. -/
theorem answer_of_refused (h : vault.verdict supply call = .error (vault.refused code)) :
    vault.answer supply call = (.bare code.status, vault) := by
  rw [answer, h]
  rfl

/-- **A negative status is that of a refusal.** -/
theorem exists_refusal_of_neg (h : (vault.answer supply call).1.status < 0) :
    ∃ refusal, vault.verdict supply call = .error refusal := by
  cases hverdict : vault.verdict supply call with
  | error refusal => exact ⟨refusal, rfl⟩
  | ok grant => exact absurd (status_nonneg_of_ok hverdict) (Int32.not_le.mpr h)

/-- A status that is not negative is that of a grant. -/
theorem exists_grant_of_nonneg (h : 0 ≤ (vault.answer supply call).1.status) :
    ∃ grant, vault.verdict supply call = .ok grant := by
  cases hverdict : vault.verdict supply call with
  | ok grant => exact ⟨grant, rfl⟩
  | error refusal =>
    rw [status_of_error hverdict] at h
    exact absurd h (Int32.not_le.mpr (status_neg refusal.code))

/-- **A call changes the context that it is for**, if that is of the right kind, and the one that
it hands out, and no other. -/
theorem frame_answer (hne : (vault.answer supply call).2.contexts.get? address
      ≠ vault.contexts.get? address) :
    (vault.answer supply call).1.handle = some address
      ∨ ∃ domain, call.changes? = some (address, domain) ∧ vault.kindAt address = some domain := by
  cases hverdict : vault.verdict supply call with
  | error refusal =>
    obtain ⟨line, hanswer⟩ := answer_of_error hverdict
    rw [hanswer] at hne
    exact absurd rfl hne
  | ok grant =>
    rw [answer_of_ok hverdict] at hne ⊢
    exact (effect_of_verdict hverdict).frame hne

/-- **The vault makes and frees the contexts that a call says, and no others.** -/
theorem kindAt_answer (supply : Supply) (call : Call) (vault : Vault) (address : Address) :
    (vault.answer supply call).2.kindAt address
      = call.kindAfter (vault.answer supply call).1 address (vault.kindAt address) := by
  cases hverdict : vault.verdict supply call with
  | error refusal =>
    -- Nothing is made, and a disposal is never refused.
    obtain ⟨line, hanswer⟩ := answer_of_error hverdict
    have hfrees : call.frees? = none := by
      cases call with
      | digestDispose handle =>
        cases (verdict_disposal vault supply .digest handle).symm.trans hverdict
      | keyDispose handle =>
        cases (verdict_disposal vault supply .keySpec handle).symm.trans hverdict
      | signatureDispose handle =>
        cases (verdict_disposal vault supply .signature handle).symm.trans hverdict
      | _ => rfl
    have hgranted : call.granted? (vault.answer supply call).1 = none := by
      rw [hanswer]
      cases hmakes : call.makes? <;> simp [Call.granted?, hmakes]
    rw [Call.kindAfter, hgranted, hfrees, hanswer]
    rfl
  | ok grant =>
    have heffect := effect_of_verdict hverdict
    rw [answer_of_ok hverdict]
    cases hmakes : call.makes? with
    | some domain =>
      obtain ⟨-, context, rfl, hafter⟩ := heffect.made hmakes
      have hhandle : grant.handle = some supply.address := congrArg CallState.handle hafter
      have hvault : grant.vault = vault.set supply.address context :=
        congrArg CallState.vault hafter
      rw [hhandle, hvault, Call.kindAfter, Call.granted?, hmakes]
      show ((vault.contexts.put supply.address context).get? address).map Context.domain
        = if address = supply.address then some context.domain else vault.kindAt address
      rw [Heap.get?_put]
      split
      · rfl
      · rfl
    | none =>
      rw [Call.kindAfter, Call.granted?_of_makes? hmakes]
      cases hfrees : call.frees? with
      | some freed => exact heffect.kindAt_of_frees? hfrees address
      | none => exact heffect.kindAt_eq hmakes hfrees address

/-- A disposal leaves no context of its kind behind the handle. -/
theorem kindAt_answer_disposal (supply : Supply) (domain : Domain) (handle : Address)
    (vault : Vault) :
    (vault.answer supply (domain.disposal handle)).2.kindAt handle ≠ some domain := by
  have hfrees := domain.frees?_disposal handle
  rw [kindAt_answer, Call.kindAfter, Call.granted?_of_makes? (Call.makes?_of_frees? hfrees), hfrees]
  show (if handle = handle ∧ vault.kindAt handle = some domain then none else _) ≠ _
  split
  case isTrue => exact (Option.some_ne_none domain).symm
  case isFalse hkind =>
    intro hleft
    exact hkind ⟨rfl, hleft⟩

/-- A call of the vault that makes a context reports success. -/
theorem status_of_granted? {made : Address × Domain}
    (h : call.granted? (vault.answer supply call).1 = some made) :
    0 ≤ (vault.answer supply call).1.status := by
  cases hverdict : vault.verdict supply call with
  | ok grant => exact status_nonneg_of_ok hverdict
  | error refusal =>
    obtain ⟨line, hanswer⟩ := answer_of_error hverdict
    rw [hanswer] at h
    cases hmakes : call.makes? <;> simp [Call.granted?, hmakes] at h

end Vault

/-- **The vault as a library**, however its entry points are reached. -/
def Library.vault (kind : BackendKind) : Library Session where
  backend := ⟨kind, fun _ => Session.submit⟩
  kindAt session := session.vault.kindAt
  faithful call session address := Vault.kindAt_answer _ call session.vault address
  announced _ _ _ h := Vault.status_of_granted? h

end Custody
