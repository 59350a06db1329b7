import Custody.Proofs.Vault.Changes
import Mathlib.Data.List.Induction

/-!
# What raises and clears faults

For each fault the library keeps one bit, and two calls set it: `faultSet` for the fault of a
number, `faultsReset` for all of them (`Call.sets?`). No other call touches it, whether it is
granted or refused (`Vault.raised_answer`). So a fault is raised at some point of a run exactly if
the last call before that set it, and set it to be raised (`Library.raised_afterAll`).

The record of the calls that set a fault is a list of truth values, one list for each fault
(`switches`). The bit is the last of them, and it is not raised where there is none, as in a library
that has just been started.
-/

namespace Custody

/-- **What the calls of a log set a fault to**, the oldest first. -/
def switches {σ : Type} (log : List (Note σ)) (flag : FaultFlag) : List Bool :=
  log.filterMap (·.call.sets? flag)

/-- Whether a fault is raised that the calls of a log have set, and that was not raised before. -/
def lastOn {σ : Type} (log : List (Note σ)) (flag : FaultFlag) : Bool :=
  (switches log flag).getLast?.getD false

section Logs

variable {σ : Type} (log later : List (Note σ)) (note : Note σ) (flag : FaultFlag)

theorem switches_append : switches (log ++ later) flag = switches log flag ++ switches later flag :=
  List.filterMap_append

theorem switches_snoc :
    switches (log ++ [note]) flag = switches log flag ++ (note.call.sets? flag).toList := by
  rw [switches_append]
  cases hsets : note.call.sets? flag with
  | none => simp [switches, hsets]
  | some on => simp [switches, hsets]

/-- The last call counts, if it sets the fault. -/
theorem lastOn_snoc :
    lastOn (log ++ [note]) flag = (note.call.sets? flag).getD (lastOn log flag) := by
  rw [lastOn, switches_snoc]
  cases note.call.sets? flag with
  | none => rw [Option.toList_none, List.append_nil]; rfl
  | some on => simp

end Logs

namespace Vault

variable {vault : Vault} {supply : Supply} {call : Call} {refusal : Refusal}

/-- A call that is refused sets no fault. -/
theorem sets?_of_error (h : vault.verdict supply call = .error refusal) (flag : FaultFlag) :
    call.sets? flag = none := by
  cases call with
  | faultSet number on =>
    cases hnumber : FaultFlag.ofNumber? number with
    | none => rw [Call.sets?_faultSet, hnumber, if_neg nofun]
    | some other =>
      have hverdict : vault.verdict supply (.faultSet number on)
          = .ok ((vault.withFault other (on ≠ 0)).report 0) := by
        rw [verdict, entry, faultSet, hnumber]
        rfl
      cases hverdict.symm.trans h
  | faultsReset => cases h
  | _ => rfl

/-- **What a call does to a fault**, granted or refused. -/
theorem raised_answer (vault : Vault) (supply : Supply) (call : Call) (flag : FaultFlag) :
    (vault.answer supply call).2.raised flag = (call.sets? flag).getD (vault.raised flag) := by
  cases hverdict : vault.verdict supply call with
  | ok grant =>
    rw [answer_of_ok hverdict]
    exact (effect_of_verdict hverdict).raised flag
  | error refusal =>
    obtain ⟨line, hanswer⟩ := answer_of_error hverdict
    rw [hanswer, sets?_of_error hverdict]
    rfl

end Vault

namespace Library

/-- **A fault is raised if the last call that set it raised it**, at the end of a run from a library
in which none is raised, and as every call of the run finds it. -/
theorem raised_afterAll (kind : BackendKind) (session : Session)
    (hstart : ∀ flag, session.vault.raised flag = false) (calls : List Call) (flag : FaultFlag) :
    ((Library.vault kind).afterAll ⟨session, []⟩ calls).state.vault.raised flag =
        lastOn ((Library.vault kind).afterAll ⟨session, []⟩ calls).log flag ∧
      ∀ before note later,
        ((Library.vault kind).afterAll ⟨session, []⟩ calls).log = before ++ note :: later →
          note.before.vault.raised flag = lastOn before flag := by
  induction calls using List.reverseRecOn with
  | nil => exact ⟨hstart flag, fun before note later h => by cases before <;> cases h⟩
  | append_singleton calls call ih =>
    rw [afterAll_append]
    generalize (Library.vault kind).afterAll ⟨session, []⟩ calls = recorded at ih
    obtain ⟨hraised, hseen⟩ := ih
    have hlog : ((Library.vault kind).afterAll recorded [call]).log =
        recorded.log ++ [(Library.vault kind).note recorded.state call] := log_after _ _ _
    rw [hlog]
    constructor
    · rw [lastOn_snoc, ← hraised]
      exact Vault.raised_answer ..
    · intro before note later hsplit
      rcases List.eq_nil_or_concat later with rfl | ⟨rest, last, rfl⟩
      · obtain ⟨rfl, hnote⟩ := List.append_inj' hsplit rfl
        cases hnote
        exact hraised
      · rw [List.concat_eq_append, ← List.cons_append, ← List.append_assoc] at hsplit
        exact hseen before note rest (List.append_inj_left' hsplit rfl)

end Library

end Custody
