import Custody.Held.Basic

/-!
# Libraries under observation

What a native library is asked for, call by call. A call may make a context, free one, and be
made with others, each of which has to be of a certain kind (`Call.targets`). `Library` is a
native library whose contexts can be seen from outside, and which makes and frees the contexts
that its calls say and no others.

To see the calls, the entry points are wrapped (`Backend.recorded`): each of them notes the
call, the reply and the library as the call found it. Whether a program uses its contexts as it
should can then be read off the notes: every call was made with contexts that were there and of
the right kind (`Library.Proper`).

The address of a context that was freed may be handed out again. A context is therefore known by
the note of the call that made it, and it is freed once if, up to the moment when its address is
handed out again, one call frees it (`Library.freed_once`).
-/

namespace Custody

open Held

/-! ## What a call does to contexts -/

namespace Call

/-- The kind of context that a call makes. -/
def makes? : Call → Option Domain
  | digestAllocate .. => some .digest
  | keyAllocate _ => some .keySpec
  | signatureAllocate _ => some .signature
  | _ => none

/-- The context that a call frees, with the kind that it has to be of. -/
def frees? : Call → Option (Address × Domain)
  | digestDispose handle => some (handle, .digest)
  | keyDispose handle => some (handle, .keySpec)
  | signatureDispose handle => some (handle, .signature)
  | _ => none

/-- **The contexts that a call is made with**, each with the kind that it has to be of. -/
def targets : Call → List (Address × Domain)
  | digestFeedByte handle _ | digestFeed handle _ | digestLength handle | digestFinish handle _ |
    digestReset handle | digestDispose handle => [(handle, .digest)]
  | keyDispose handle | keyGenerate handle _ | keyDecodePublic handle _ _ |
    keyDecodePrivate handle _ _ | keyEncodePublic handle _ | keyEncodePrivate handle _ |
    keyType handle | encapsulate handle _ | decapsulate handle _ _ | secretLength handle =>
    [(handle, .keySpec)]
  | signatureDispose handle | signatureFeed handle _ | signatureSign handle _ |
    signatureVerify handle _ => [(handle, .signature)]
  | signatureInitSign handle key | signatureInitVerify handle key =>
    [(handle, .signature), (key, .keySpec)]
  | _ => []

/-- The context that a call has made, by its reply. -/
def granted? (call : Call) (reply : Reply) : Option (Address × Domain) :=
  call.makes?.bind fun domain => reply.handle.map (·, domain)

/-- What is at an address after a call, given what was there before. -/
def kindAfter (call : Call) (reply : Reply) (address : Address) (kind : Option Domain) :
    Option Domain :=
  match call.granted? reply with
  | some (made, domain) => if address = made then some domain else kind
  | none =>
    match call.frees? with
    | some freed => if freed.1 = address ∧ kind = some freed.2 then none else kind
    | none => kind

/-- A call is made with the context that it frees. -/
theorem mem_targets_of_frees? {call : Call} {freed : Address × Domain}
    (h : call.frees? = some freed) :
    freed ∈ call.targets := by
  cases call <;> simp_all [frees?, targets]

/-- A call that frees a context makes none. -/
theorem makes?_of_frees? {call : Call} {freed : Address × Domain} (h : call.frees? = some freed) :
    call.makes? = none := by
  cases call <;> simp_all [frees?, makes?]

/-- A call that makes a context frees none. -/
theorem frees?_of_makes? {call : Call} {domain : Domain} (h : call.makes? = some domain) :
    call.frees? = none := by
  cases call <;> simp_all [frees?, makes?]

/-- A call that makes no context grants none. -/
theorem granted?_of_makes? {call : Call} (h : call.makes? = none) (reply : Reply) :
    call.granted? reply = none := by
  rw [granted?, h]
  rfl

end Call

namespace Held.Domain

variable (domain : Domain) (handle : Address)

@[simp] theorem frees?_disposal : (domain.disposal handle).frees? = some (handle, domain) := by
  cases domain <;> rfl

@[simp] theorem targets_disposal : (domain.disposal handle).targets = [(handle, domain)] := by
  cases domain <;> rfl

end Held.Domain

/-! ## Libraries -/

/-- **A native library whose contexts can be seen.** -/
structure Library (σ : Type) where
  /-- Its entry points. -/
  backend : Backend σ
  /-- The kind of the context at an address, if there is one. -/
  kindAt : σ → Address → Option Domain
  /-- A call makes and frees the contexts that it says and no others. -/
  faithful : ∀ call state address, kindAt (backend.submit call state).2 address
    = call.kindAfter (backend.submit call state).1 address (kindAt state address)
  /-- A call that makes a context succeeds. -/
  announced : ∀ call state made, call.granted? (backend.submit call state).1 = some made →
    0 ≤ (backend.submit call state).1.status

/-- A call with its reply, and the library as the call found it. -/
structure Note (σ : Type) where
  /-- The library before the call. -/
  before : σ
  /-- The call. -/
  call : Call
  /-- The reply. -/
  reply : Reply

/-- The context that the call has made. -/
def Note.granted? {σ : Type} (note : Note σ) : Option (Address × Domain) :=
  note.call.granted? note.reply

/-- A native library with the notes of all calls so far. -/
structure Recorded (σ : Type) where
  /-- The library. -/
  state : σ
  /-- The calls so far, the oldest first. -/
  log : List (Note σ)

/-- Entry points that note every call. -/
def Backend.recorded {σ : Type} (backend : Backend σ) : Backend (Recorded σ) where
  kind := backend.kind
  entry symbol call recorded :=
    let (reply, state) := backend.entry symbol call recorded.state
    (reply, ⟨state, recorded.log ++ [⟨recorded.state, call, reply⟩]⟩)

namespace Library

variable {σ : Type} (library : Library σ)

/-- The services of a library, with every call noted. -/
def services : Services (Recorded σ) := .ofBackend library.backend.recorded

/-- The kind of the context at an address. -/
def recordedAt (recorded : Recorded σ) : Address → Option Domain := library.kindAt recorded.state

/-- **New contexts come at new addresses**: no address is zero, and none has a context already. -/
def Fresh (log : List (Note σ)) : Prop :=
  ∀ note ∈ log, ∀ made ∈ note.granted?, made.1 ≠ 0 ∧ library.kindAt note.before made.1 = none

/-- **Every call is made with contexts that are there**, and that are of the kind that it
expects. -/
def Proper (log : List (Note σ)) : Prop :=
  ∀ note ∈ log, ∀ target ∈ note.call.targets, library.kindAt note.before target.1 = some target.2

instance (log : List (Note σ)) : Decidable (library.Fresh log) :=
  inferInstanceAs (Decidable (∀ note ∈ log, ∀ made ∈ note.granted?, _))

instance (log : List (Note σ)) : Decidable (library.Proper log) :=
  inferInstanceAs (Decidable (∀ note ∈ log, ∀ target ∈ note.call.targets, _))

/-! ## Runs of calls -/

/-- The library after a call. -/
def after (recorded : Recorded σ) (call : Call) : Recorded σ :=
  (library.backend.recorded.submit call recorded).2

/-- The library after several calls, one after the other. -/
def afterAll (recorded : Recorded σ) (calls : List Call) : Recorded σ :=
  calls.foldl library.after recorded

/-- The note of a call. -/
def note (state : σ) (call : Call) : Note σ := ⟨state, call, (library.backend.submit call state).1⟩

/-- The notes of several calls. -/
def trace : σ → List Call → List (Note σ)
  | _, [] => []
  | state, call :: rest =>
    library.note state call :: trace (library.backend.submit call state).2 rest

section Calls

variable (recorded : Recorded σ) (call : Call)

@[simp] theorem log_after :
    (library.after recorded call).log = recorded.log ++ [library.note recorded.state call] := rfl

@[simp] theorem state_after :
    (library.after recorded call).state = (library.backend.submit call recorded.state).2 := rfl

/-- **A call changes the kinds as its reply says.** -/
theorem recordedAt_after (address : Address) :
    library.recordedAt (library.after recorded call) address
    = call.kindAfter (library.note recorded.state call).reply address
        (library.recordedAt recorded address) := library.faithful call recorded.state address

theorem afterAll_append (first second : List Call) : library.afterAll recorded (first ++ second)
    = library.afterAll (library.afterAll recorded first) second := List.foldl_append

/-- The notes of a run come after those that were there. -/
theorem log_afterAll (calls : List Call) :
    (library.afterAll recorded calls).log = recorded.log ++ library.trace recorded.state calls := by
  induction calls generalizing recorded with
  | nil => exact (List.append_nil _).symm
  | cons call calls ih =>
    have hrest := ih (library.after recorded call)
    rw [log_after, List.append_assoc] at hrest
    exact hrest

end Calls

section Predicates

variable {library} {log later : List (Note σ)} {note : Note σ}

/-- Freshness is a matter of each note. -/
theorem fresh_append : library.Fresh (log ++ later) ↔ library.Fresh log ∧ library.Fresh later :=
  List.forall_mem_append

/-- Propriety is a matter of each note. -/
theorem proper_append : library.Proper (log ++ later) ↔ library.Proper log ∧ library.Proper later :=
  List.forall_mem_append

/-- One call is proper if each context it is made with is there, of its kind. -/
theorem proper_singleton : library.Proper [note] ↔
    ∀ target ∈ note.call.targets, library.kindAt note.before target.1 = some target.2 :=
  List.forall_mem_singleton

/-- A first note is fresh if what it grants is new. -/
theorem fresh_cons : library.Fresh (note :: log) ↔
    (∀ made ∈ note.granted?, made.1 ≠ 0 ∧ library.kindAt note.before made.1 = none)
      ∧ library.Fresh log := List.forall_mem_cons

/-- A first note is proper if its contexts are there. -/
theorem proper_cons : library.Proper (note :: log) ↔
    (∀ target ∈ note.call.targets, library.kindAt note.before target.1 = some target.2)
      ∧ library.Proper log := List.forall_mem_cons

end Predicates

end Library

/-! ## Freed once -/

/-- Whether a call has made a context at an address. -/
def Note.makesAt {σ : Type} (note : Note σ) (address : Address) : Bool :=
  note.granted?.any fun made => made.1 = address

/-- **How often a context is freed** before its address is handed out again. -/
def timesFreed {σ : Type} (log : List (Note σ)) (made : Address × Domain) : Nat :=
  (log.takeWhile fun note => !note.makesAt made.1).countP fun note => note.call.frees? = some made

/-- **Every context is freed exactly once.** -/
def FreedOnce {σ : Type} (log : List (Note σ)) : Prop :=
  ∀ before note later made, log = before ++ note :: later → note.granted? = some made →
    timesFreed later made = 1

namespace Call

variable {call : Call} {reply : Reply} {address : Address} {kind : Option Domain}
  {made : Address × Domain}

/-- An address that is not handed out and not freed keeps what is there. -/
theorem kindAfter_of_ne (hgrant : ∀ domain, call.granted? reply ≠ some (address, domain))
    (hfree : ∀ domain, call.frees? ≠ some (address, domain)) :
    call.kindAfter reply address kind = kind := by
  unfold kindAfter
  split
  · rename_i other domain heq
    refine if_neg ?_
    rintro rfl
    exact hgrant domain heq
  · split
    · rename_i freed heq
      refine if_neg ?_
      rintro ⟨rfl, -⟩
      exact hfree freed.2 heq
    · rfl

/-- Where there is nothing, nothing comes but by being handed out. -/
theorem kindAfter_none (hgrant : ∀ domain, call.granted? reply ≠ some (address, domain)) :
    call.kindAfter reply address none = none := by
  unfold kindAfter
  split
  · rename_i other domain heq
    refine if_neg ?_
    rintro rfl
    exact hgrant domain heq
  · split
    · exact if_neg (by simp)
    · rfl

/-- A context that is made is there. -/
theorem kindAfter_of_granted? (h : call.granted? reply = some made) :
    call.kindAfter reply made.1 kind = some made.2 := by
  rw [kindAfter, h]
  exact if_pos rfl

/-- A context that is freed is gone. -/
theorem kindAfter_of_frees? (h : call.frees? = some made) :
    call.kindAfter reply made.1 (some made.2) = none := by
  rw [kindAfter, granted?_of_makes? (makes?_of_frees? h), h]
  exact if_pos ⟨rfl, rfl⟩

end Call

namespace Library

variable {σ : Type} {library : Library σ} {state : σ} {calls : List Call} {made : Address × Domain}

/-- What is not made at an address is not granted there. -/
theorem granted?_ne_of_makesAt {note : Note σ} {address : Address}
    (h : note.makesAt address = false)
    (domain : Domain) : note.granted? ≠ some (address, domain) := by
  intro heq
  simp [Note.makesAt, heq] at h

/-- A context that is gone is not freed again. -/
theorem timesFreed_of_gone (hgone : library.kindAt state made.1 = none)
    (hproper : library.Proper (library.trace state calls)) :
    timesFreed (library.trace state calls) made = 0 := by
  induction calls generalizing state with
  | nil => rfl
  | cons call calls ih =>
    obtain ⟨hcall, hrest⟩ := proper_cons.mp hproper
    rw [trace, timesFreed, List.takeWhile_cons]
    cases hmakes : (library.note state call).makesAt made.1 with
    | true => rfl
    | false =>
      -- The call that frees it would be made with a context that is not there.
      have hfrees : call.frees? ≠ some made := by
        intro h
        have hkind := hcall made (Call.mem_targets_of_frees? h)
        rw [show library.kindAt state made.1 = some made.2 from hkind] at hgone
        cases hgone
      have hgone' : library.kindAt (library.backend.submit call state).2 made.1 = none := by
        rw [library.faithful, hgone]
        exact Call.kindAfter_none (granted?_ne_of_makesAt hmakes)
      have hcount := ih hgone' hrest
      rw [timesFreed] at hcount
      simp [hcount, note, hfrees]

/-- **A context that is there in the beginning and not in the end is freed once.** -/
theorem timesFreed_of_there (hthere : library.kindAt state made.1 = some made.2)
    (hfresh : library.Fresh (library.trace state calls))
    (hproper : library.Proper (library.trace state calls)) {log : List (Note σ)}
    (hgone : library.recordedAt (library.afterAll ⟨state, log⟩ calls) made.1 = none) :
    timesFreed (library.trace state calls) made = 1 := by
  induction calls generalizing state log with
  | nil =>
    rw [show library.recordedAt (library.afterAll ⟨state, log⟩ []) made.1 = some made.2 from hthere]
      at hgone
    cases hgone
  | cons call calls ih =>
    obtain ⟨hcall, hrest⟩ := proper_cons.mp hproper
    obtain ⟨hnew, hlater⟩ := fresh_cons.mp hfresh
    -- While it is there, its address is not handed out.
    have hgrant : ∀ domain, (library.note state call).granted? ≠ some (made.1, domain) := by
      intro domain h
      have hkind := (hnew _ h).2
      rw [show library.kindAt state made.1 = none from hkind] at hthere
      cases hthere
    have hmakes : (library.note state call).makesAt made.1 = false := by
      rw [Note.makesAt, Option.any_eq_false]
      intro other hother
      exact decide_eq_false fun h => hgrant other.2 (h ▸ hother)
    rw [trace, timesFreed, List.takeWhile_cons, hmakes]
    by_cases hfrees : call.frees? = some made
    · -- The first call that frees it is the only one.
      have hgone' : library.kindAt (library.backend.submit call state).2 made.1 = none := by
        rw [library.faithful, hthere]
        exact Call.kindAfter_of_frees? hfrees
      have hcount := timesFreed_of_gone hgone' hrest
      rw [timesFreed] at hcount
      simp [hcount, note, hfrees]
    · have hother : ∀ domain, call.frees? ≠ some (made.1, domain) := by
        intro domain h
        have hkind := hcall _ (Call.mem_targets_of_frees? h)
        rw [show library.kindAt state made.1 = some domain from hkind] at hthere
        obtain rfl := Option.some.inj hthere
        exact hfrees h
      have hthere' : library.kindAt (library.backend.submit call state).2 made.1 = some made.2 := by
        rw [library.faithful, hthere]
        exact Call.kindAfter_of_ne hgrant hother
      have hcount := ih hthere' hlater hrest hgone
      rw [timesFreed] at hcount
      simp [hcount, note, hfrees]

/-- **Every context is freed once** by the time that its address has no context any more. -/
theorem freed_once {log before later : List (Note σ)} {note : Note σ}
    (hfresh : library.Fresh (library.trace state calls))
    (hproper : library.Proper (library.trace state calls))
    (hsplit : library.trace state calls = before ++ note :: later)
    (hmade : note.granted? = some made)
    (hgone : library.recordedAt (library.afterAll ⟨state, log⟩ calls) made.1 = none) :
    timesFreed later made = 1 := by
  induction calls generalizing state log before with
  | nil =>
    rw [trace] at hsplit
    cases before <;> cases hsplit
  | cons call calls ih =>
    have hfresh' := (fresh_cons.mp hfresh).2
    have hproper' := (proper_cons.mp hproper).2
    rw [trace] at hsplit
    cases before with
    | nil =>
      -- This is the call that makes it, and from here on it is there until it is freed.
      obtain ⟨rfl, rfl⟩ := List.cons.inj hsplit
      refine timesFreed_of_there ?_ hfresh' hproper' hgone
      rw [library.faithful]
      exact Call.kindAfter_of_granted? hmade
    | cons first before =>
      exact ih hfresh' hproper' (List.cons.inj hsplit).2 hgone

/-- When no context is left, each has been freed once. -/
theorem freedOnce_of_gone {log : List (Note σ)} (hcalls : log = library.trace state calls)
    (hfresh : library.Fresh log) (hproper : library.Proper log)
    (hgone : ∀ address, library.recordedAt (library.afterAll ⟨state, []⟩ calls) address = none) :
    FreedOnce log := by
  subst hcalls
  intro before note later made hsplit hmade
  exact freed_once hfresh hproper hsplit hmade (hgone made.1)

end Library

end Custody
