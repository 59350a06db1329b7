import Custody.Proofs.Vault.Alike
import Custody.Proofs.Vault.History

/-!
# Calls that fail

A call that ends with a negative status leaves contexts and faults as they are, hands nothing out,
and adds one line to the diagnostics at most (`Vault.Spared`).

Two runs that differ in such calls alone are set side by side, place by place (`Place`): either
both make the call, or one of them does and fails. They need not get the same from outside in
calls that fail. The libraries stay alike throughout (`Vault.Alike`), so that calls which both
runs make get the same answers, except those that take the diagnostics
(`Vault.failures_leave_no_trace`).

The first half of the theorem is about a single call. Steps work on the library in place, and one
that fails undoes nothing of those before it; so the first half is a fact about every entry point,
and comes from `Vault.Residue`. The second half does not follow from the first alone, because the
diagnostics do differ when a call is left out; it needs in addition that no call but `drain` reads
them (`Vault.Alike`). A call that fails in both runs may even take different things from outside in
the two, and it is seen that it fails with the same code.
-/

namespace Custody.Vault

variable {α β : Type} {vault other : Vault} {supply supply' : Supply} {call : Call}

/-! ## One call -/

/-- **A call that leaves no trace** but in the diagnostics. -/
structure Spared (vault : Vault) (answer : Reply × Vault) : Prop where
  /-- The contexts are as they were, and so is everything in them. -/
  contexts : answer.2.contexts = vault.contexts
  /-- The faults are as they were. -/
  raised : answer.2.raised = vault.raised
  /-- Nothing is handed out. -/
  handle : answer.1.handle = none
  /-- There is one more line of diagnostics at most. -/
  diagnostics : ∃ line : Option String, answer.2.diagnostics = vault.diagnostics ++ line.toList

/-- **A call that fails leaves no trace** but in the diagnostics. -/
theorem spared_of_neg (h : (vault.answer supply call).1.status < 0) :
    Spared vault (vault.answer supply call) := by
  obtain ⟨refusal, hrefusal⟩ := exists_refusal_of_neg h
  -- The refusal holds whatever the steps before the failing one have done. That this is no more
  -- than a line of diagnostics is known of each entry point.
  obtain ⟨line, hanswer⟩ := answer_of_error hrefusal
  rw [hanswer]
  exact ⟨rfl, rfl, rfl, line, rfl⟩

namespace Alike

theorem of_neg (h : (vault.answer supply call).1.status < 0) :
    Alike vault (vault.answer supply call).2 :=
  ⟨(spared_of_neg h).contexts, (spared_of_neg h).raised⟩

end Alike

/-! ## Codes -/

/-- **Two steps that fail with one code**, if both fail, from a state. -/
structure Step.Concur (state : CallState) (step other : Step α) : Prop where
  /-- The codes are the same. -/
  codes : ∀ {code code' after after'}, step.exec state = (.error code, after) →
    other.exec state = (.error code', after') → code = code'

namespace Step.Concur

variable {state : CallState} {rest rest' : α → Step β}

theorem refl (step : Step α) : Concur state step step := by
  constructor
  intro code code' after after' h h'
  cases h.symm.trans h'
  rfl

/-- The first step is the same for both. -/
theorem bind {step : Step α} (h : ∀ a after, Concur after (rest a) (rest' a)) :
    Concur state (step >>= rest) (step >>= rest') := by
  cases hstep : step.exec state with
  | mk result middle =>
    cases result with
    | error code =>
      refine ⟨fun hcode hcode' => ?_⟩
      cases (exec_bind_of_error hstep).symm.trans hcode
      cases (exec_bind_of_error hstep).symm.trans hcode'
      rfl
    | ok a =>
      exact ⟨fun hcode hcode' => (h a middle).codes ((exec_bind_of_ok hstep).symm.trans hcode)
        ((exec_bind_of_ok hstep).symm.trans hcode')⟩

theorem ite {condition : Prop} [Decidable condition] {yes no yes' no' : Step α}
    (hyes : Concur state yes yes') (hno : Concur state no no') :
    Concur state (if condition then yes else no) (if condition then yes' else no') := by
  split
  · exact hyes
  · exact hno

/-- Both fail with one code only. -/
theorem of_ends (code : ErrorCode) {step other : Step α}
    (h : step.Ends state (fun _ _ => True) fun failed _ => failed = code)
    (h' : other.Ends state (fun _ _ => True) fun failed _ => failed = code) :
    Concur state step other :=
  ⟨fun hcode hcode' => (h.of_error hcode).trans (h'.of_error hcode').symm⟩

/-- Making a context does not fail. -/
theorem allocate (address address' : Address) (context : Context) :
    Concur state (Step.allocate address context) (Step.allocate address' context) := by
  have hpasses (address : Address) : (Step.allocate address context).Ends state (fun _ _ => True)
      fun failed _ => failed = .nativeError :=
    Ends.put (Ends.handOut (Ends.pure trivial))
  exact of_ends _ (hpasses address) (hpasses address')

end Step.Concur

open Step in
/-- Whatever is drawn, what comes of it fails as the system does. -/
theorem ends_draw {state : CallState} {rest : Key32 → Step α} (seed : Option Key32)
    (h : ∀ half, (rest half).Ends state (fun _ _ => True) fun failed _ => failed = .nativeError) :
    (draw seed >>= rest).Ends state (fun _ _ => True) fun failed _ => failed = .nativeError :=
  Ends.draw (fun _ => rfl) fun half _ => h half

open Step in
/-- **What a call takes from outside has no part in the code with which it fails.** -/
theorem concur_entry (state : CallState) (supply supply' : Supply) (call : Call) :
    Concur state (entry supply call) (entry supply' call) := by
  cases call with
  | digestAllocate name length slot =>
    exact .bind fun _ _ => .bind fun _ _ => .bind fun _ _ => .bind fun _ _ => .bind fun _ _ =>
      .bind fun _ _ => .bind fun _ _ => .allocate _ _ _
  | keyAllocate slot | signatureAllocate slot =>
    exact .bind fun _ _ => .bind fun _ _ => .allocate _ _ _
  | keyGenerate handle type =>
    have hput (seed : Option Key32) (type : KeyType) (state : CallState) :
        (draw seed >>= fun half => put handle (.key (some (.ofPrivate type half))) >>= fun _ =>
          pure (0 : Int32)).Ends state (fun _ _ => True) fun failed _ => failed = .nativeError :=
      ends_draw seed fun _ => Ends.put (Ends.pure trivial)
    exact .bind fun _ _ => .bind fun type state =>
      .of_ends _ (hput _ type state) (hput _ type state)
  | encapsulate handle out =>
    -- Whether there is a secret may depend on the seed, but there is one code if there is none.
    refine .bind fun key _ => .bind fun _ _ => .bind fun _ state =>
      .ite (.of_ends .nativeError ?_ ?_) (.refl _)
    · exact ends_draw _ fun _ => Ends.store (Ends.kemSecret (fun _ => rfl) fun _ _ =>
        Ends.store (Ends.pure trivial))
    · exact ends_draw _ fun _ => Ends.store (Ends.kemSecret (fun _ => rfl) fun _ _ =>
        Ends.store (Ends.pure trivial))
  | _ => exact .refl _

theorem status_eq_of_neg (h : (vault.answer supply call).1.status < 0)
    (h' : (vault.answer supply' call).1.status < 0) :
    (vault.answer supply' call).1.status = (vault.answer supply call).1.status := by
  obtain ⟨refusal, hrefusal⟩ := exists_refusal_of_neg h
  obtain ⟨refusal', hrefusal'⟩ := exists_refusal_of_neg h'
  rw [status_of_error hrefusal, status_of_error hrefusal']
  exact congrArg ErrorCode.status ((concur_entry _ supply supply' call).codes
    (Step.on_eq_error_iff.mp hrefusal) (Step.on_eq_error_iff.mp hrefusal')).symm

/-! ## Two runs side by side -/

/-- A place in two runs that are set side by side. -/
inductive Place
  /-- Both make the call, each with what it gets from outside. -/
  | both (call : Call) (supply supply' : Supply)
  /-- Only the first makes the call. -/
  | first (supply : Supply) (call : Call)
  /-- Only the second makes the call. -/
  | second (supply : Supply) (call : Call)

namespace Place

/-- What the first run does there. -/
def first? : Place → Option (Supply × Call)
  | both call supply _ | first supply call => some (supply, call)
  | second .. => none

/-- What the second run does there. -/
def second? : Place → Option (Supply × Call)
  | both call _ supply | second supply call => some (supply, call)
  | first .. => none

/-- The first run. -/
def firsts (places : List Place) : List (Supply × Call) := places.filterMap first?

/-- The second run. -/
def seconds (places : List Place) : List (Supply × Call) := places.filterMap second?

/-- **The runs differ in calls that fail alone**, by their replies: a call that only one of them
makes fails, and one that both make gets the same from outside, unless it fails in both. -/
def ApartInFailures : List Place → List Reply → List Reply → Prop
  | [], [], [] => True
  | both _ supply supply' :: places, reply :: replies, reply' :: replies' =>
    (0 ≤ reply.status ∨ 0 ≤ reply'.status → supply = supply')
      ∧ ApartInFailures places replies replies'
  | first .. :: places, reply :: replies, replies' =>
    reply.status < 0 ∧ ApartInFailures places replies replies'
  | second .. :: places, replies, reply' :: replies' =>
    reply'.status < 0 ∧ ApartInFailures places replies replies'
  | _, _, _ => False

/-- The calls that both runs make, each with its reply in either. -/
def shared : List Place → List Reply → List Reply → List (Call × Reply × Reply)
  | both call _ _ :: places, reply :: replies, reply' :: replies' =>
    (call, reply, reply') :: shared places replies replies'
  | first .. :: places, _ :: replies, replies' => shared places replies replies'
  | second .. :: places, replies, _ :: replies' => shared places replies replies'
  | _, _, _ => []

end Place

open Place

/-- **Two runs answer alike**: where both make a call, other than to take the diagnostics, they
report the same status, and on a success they give the same reply; and they leave libraries that
are alike. -/
structure Matched (places : List Place) (run run' : List Reply × Vault) : Prop where
  /-- The replies are the same. -/
  replies : ∀ entry ∈ shared places run.1 run'.1, (∀ capacity, entry.1 ≠ .drain capacity) →
    entry.2.2.status = entry.2.1.status ∧ (0 ≤ entry.2.1.status → entry.2.2 = entry.2.1)
  /-- The libraries are alike. -/
  after : Alike run.2 run'.2

/-- A call that both runs make, on libraries that are alike. -/
theorem Alike.both (h : Alike vault other)
    (hsupply : 0 ≤ (vault.answer supply call).1.status
      ∨ 0 ≤ (other.answer supply' call).1.status → supply = supply') :
    Alike (vault.answer supply call).2 (other.answer supply' call).2
      ∧ ((∀ capacity, call ≠ .drain capacity) →
        (other.answer supply' call).1.status = (vault.answer supply call).1.status
        ∧ (0 ≤ (vault.answer supply call).1.status →
          (other.answer supply' call).1 = (vault.answer supply call).1)) := by
  by_cases hsame : supply = supply'
  · subst hsame
    refine ⟨h.answer supply call, fun hdrain => ?_⟩
    have hreply : (other.answer supply call).1 = (vault.answer supply call).1 :=
      h.reply hdrain supply
    exact ⟨congrArg Reply.status hreply, fun _ => hreply⟩
  · -- They get different things from outside, so that the call fails in both.
    obtain ⟨hfirst, hsecond⟩ := not_or.mp (mt hsupply hsame)
    have hneg : (vault.answer supply call).1.status < 0 := Int32.not_le.mp hfirst
    have hneg' : (other.answer supply' call).1.status < 0 := Int32.not_le.mp hsecond
    refine ⟨((Alike.of_neg hneg).symm.trans h).trans (.of_neg hneg'), fun hdrain => ?_⟩
    have hreply : (other.answer supply' call).1 = (vault.answer supply' call).1 :=
      h.reply hdrain supply'
    refine ⟨?_, fun hpos => absurd hpos hfirst⟩
    rw [hreply] at hneg' ⊢
    exact status_eq_of_neg hneg hneg'

/-- **Two runs that differ in calls that fail alone answer alike.** -/
theorem Alike.run {places : List Place} (h : Alike vault other)
    (hplaces : ApartInFailures places (vault.run (firsts places)).1
      (other.run (seconds places)).1) :
    Matched places (vault.run (firsts places)) (other.run (seconds places)) := by
  induction places generalizing vault other with
  | nil => exact ⟨List.forall_mem_nil _, h⟩
  | cons place places ih =>
    cases place with
    | both call supply supply' =>
      obtain ⟨hsupply, hrest⟩ := hplaces
      obtain ⟨halike, hreply⟩ := h.both hsupply
      have hmatched := ih halike hrest
      exact ⟨List.forall_mem_cons.mpr ⟨hreply, hmatched.replies⟩, hmatched.after⟩
    | first supply call =>
      obtain ⟨hneg, hrest⟩ := hplaces
      have hmatched := ih ((Alike.of_neg hneg).symm.trans h) hrest
      exact ⟨hmatched.replies, hmatched.after⟩
    | second supply call =>
      obtain ⟨hneg, hrest⟩ := hplaces
      have hmatched := ih (h.trans (.of_neg hneg)) hrest
      exact ⟨hmatched.replies, hmatched.after⟩

/-- **Failures leave no trace.** A call that ends with a negative status changes no context and no
fault, hands nothing out, and adds one line to the diagnostics at most. Two runs from one library
that differ in such calls alone answer alike: where both make a call, other than to take the
diagnostics, they report the same status, and on a success they write and hand out the same; and
in the end the libraries differ in their diagnostics alone. -/
theorem failures_leave_no_trace (vault : Vault) :
    (∀ supply call, (vault.answer supply call).1.status < 0 →
      Spared vault (vault.answer supply call))
    ∧ ∀ places,
      ApartInFailures places (vault.run (firsts places)).1 (vault.run (seconds places)).1 →
      Matched places (vault.run (firsts places)) (vault.run (seconds places)) :=
  ⟨fun _ _ => spared_of_neg, fun _ => (Alike.refl vault).run⟩

/-- Two runs in which one byte is hashed. In the first, the digest is asked for in a window that is
too short for it, and in the second a byte is fed under a fault, which is then cleared. -/
def examplePlaces : List Place :=
  [.both (.digestAllocate (some (Text.utf8 "SHA-256")) 0 true) (supplyOf 1) (supplyOf 1),
    .first (supplyOf 1) (.digestFinish 1 (some ⟨31, 0, 31⟩)),
    .both (.digestFeedByte 1 0x61) (supplyOf 1) (supplyOf 1),
    .both (.faultSet 8 1) (supplyOf 1) (supplyOf 1),
    .second (supplyOf 1) (.digestFeedByte 1 0x62),
    .both .faultsReset (supplyOf 1) (supplyOf 1),
    .both (.digestFinish 1 (some ⟨32, 0, 32⟩)) (supplyOf 1) (supplyOf 1),
    .both (.drain none) (supplyOf 1) (supplyOf 1)]

/-- In the two runs the digest is the same, and only the diagnostics tell them apart. -/
theorem failures_leave_no_trace_examplePlaces :
    ApartInFailures examplePlaces (empty.run (firsts examplePlaces)).1
      (empty.run (seconds examplePlaces)).1
    ∧ Matched examplePlaces (empty.run (firsts examplePlaces)) (empty.run (seconds examplePlaces))
    ∧ (empty.answer (supplyOf 1) (.digestFeedByte 1 0)).1.status < 0
    ∧ Spared empty (empty.answer (supplyOf 1) (.digestFeedByte 1 0)) := by
  have hplaces : ApartInFailures examplePlaces (empty.run (firsts examplePlaces)).1
      (empty.run (seconds examplePlaces)).1 :=
    ⟨fun _ => rfl, by decide +kernel, fun _ => rfl, fun _ => rfl, by decide +kernel, fun _ => rfl,
      fun _ => rfl, fun _ => rfl, trivial⟩
  have hneg : (empty.answer (supplyOf 1) (.digestFeedByte 1 0)).1.status < 0 := by decide +kernel
  obtain ⟨hspared, hmatched⟩ := failures_leave_no_trace empty
  exact ⟨hplaces, hmatched _ hplaces, hneg, hspared _ _ hneg⟩

end Custody.Vault
