import Custody.Proofs.Service.Outcomes
import Custody.Proofs.Text.Utf8

/-!
# What a status means, in any contexts

A status of the native library is read by `Backend.check`. What comes of it is said once for every
library and every status (`Backend.Reads`): a status from 0 up is its own meaning and leaves the
library alone; on any other the diagnostics are taken before anything else is decided, and then
either the status is that of a code, and the code fails with its words, or the contract is broken.

On its way to the caller a failure is put into contexts, each in front of what was told before.
`Failure.withContexts` is that, for any number of them, and it changes the words of the failure and
nothing else (`Failure.Rewords`). Both halves together are `meaning_kept_in_contexts`.

The kind of a failure stands beside its code, and is read off the code where the failure is made
(`Backend.Reads`); contexts copy both. So a caller who looks at the kind and one who looks at the
code of a failure come to the same class and to the same advice, however many contexts lie in
between.
-/

namespace Custody

variable {σ α : Type}

/-! ## Words in contexts -/

/-- **The words for something in contexts**: the last context stands first, the words themselves
stand last. -/
def inContexts (contexts : List String) (words : String) : String :=
  ": ".intercalate (contexts.reverse ++ [words])

theorem inContexts_nil (words : String) : inContexts [] words = words :=
  String.intercalate_singleton

/-- The first context stands next to the words, and all others in front of the two. -/
theorem inContexts_cons (context : String) (contexts : List String) (words : String) :
    inContexts (context :: contexts) words = inContexts contexts (context ++ ": " ++ words) := by
  rw [inContexts, inContexts, List.reverse_cons, List.append_assoc, List.singleton_append]
  by_cases hnone : contexts.reverse = []
  · rw [hnone, List.nil_append, List.nil_append, String.intercalate_cons_cons,
      String.intercalate_singleton, String.intercalate_singleton]
  · rw [String.intercalate_append_of_ne_nil hnone (List.cons_ne_nil _ _),
      String.intercalate_append_of_ne_nil hnone (List.cons_ne_nil _ _),
      String.intercalate_cons_cons, String.intercalate_singleton, String.intercalate_singleton]

/-! ## Failures in contexts -/

namespace Failure

/-- The code of a failure, if the native library reported it. -/
def code? : Failure → Option ErrorCode
  | native _ code _ => some code
  | _ => none

/-- The words of a failure that contexts stand in front of. Failures of files and documents have
none: their words are not those of this library. -/
def detail? : Failure → Option String
  | native _ _ detail | invalidArgument detail | contractViolation detail
  | backendUnavailable detail | config detail => some detail
  | io _ | serialization _ => none

/-- A failure with other words for its detail. -/
def mapDetail (reword : String → String) : Failure → Failure
  | native kind code detail => native kind code (reword detail)
  | invalidArgument detail => invalidArgument (reword detail)
  | contractViolation detail => contractViolation (reword detail)
  | backendUnavailable detail => backendUnavailable (reword detail)
  | config detail => config (reword detail)
  | io fault => io fault
  | serialization detail => serialization detail

/-- **A failure in contexts**, put into one after the other. -/
def withContexts (contexts : List String) (failure : Failure) : Failure :=
  contexts.foldl (fun failure context => failure.withContext context) failure

/-- **The same failure in other words**: what it is and what to do about it stays. -/
structure Rewords (reword : String → String) (failure told : Failure) : Prop where
  /-- The cause is the same. -/
  cause : told.causeName = failure.causeName
  /-- The code is the same, if there is one. -/
  code : told.code? = failure.code?
  /-- So is the kind. -/
  kind : told.kind? = failure.kind?
  /-- A caller can do the same about it. -/
  errorClass : told.errorClass = failure.errorClass
  /-- The call could succeed when it is repeated, or not, as before. -/
  retriable : told.retriable = failure.retriable
  /-- The words are the other ones. -/
  detail : told.detail? = failure.detail?.map reword
  /-- Without words there is no difference at all. -/
  same : failure.detail? = none → told = failure

theorem rewords_mapDetail (reword : String → String) (failure : Failure) :
    failure.Rewords reword (failure.mapDetail reword) := by
  cases failure with
  | native | invalidArgument | contractViolation | backendUnavailable | config =>
    exact ⟨rfl, rfl, rfl, rfl, rfl, rfl, nofun⟩
  | io | serialization => exact ⟨rfl, rfl, rfl, rfl, rfl, rfl, fun _ => rfl⟩

theorem withContext_eq_mapDetail (context : String) (failure : Failure) :
    failure.withContext context = failure.mapDetail (context ++ ": " ++ ·) := by
  cases failure <;> rfl

theorem mapDetail_id (failure : Failure) : failure.mapDetail id = failure := by
  cases failure <;> rfl

theorem mapDetail_mapDetail (inner outer : String → String) (failure : Failure) :
    (failure.mapDetail inner).mapDetail outer = failure.mapDetail (outer ∘ inner) := by
  cases failure <;> rfl

/-- **Contexts change the words only.** -/
theorem withContexts_eq_mapDetail (contexts : List String) (failure : Failure) :
    failure.withContexts contexts = failure.mapDetail (inContexts contexts) := by
  induction contexts generalizing failure with
  | nil =>
    have hwords : inContexts [] = id := funext inContexts_nil
    rw [hwords, mapDetail_id]
    rfl
  | cons context contexts ih =>
    have hwords : inContexts contexts ∘ (context ++ ": " ++ ·) = inContexts (context :: contexts) :=
      funext fun words => (inContexts_cons context contexts words).symm
    calc failure.withContexts (context :: contexts)
      _ = (failure.withContext context).withContexts contexts := rfl
      _ = (failure.withContext context).mapDetail (inContexts contexts) := ih _
      _ = failure.mapDetail (inContexts contexts ∘ (context ++ ": " ++ ·)) := by
        rw [withContext_eq_mapDetail, mapDetail_mapDetail]
      _ = failure.mapDetail (inContexts (context :: contexts)) := by rw [hwords]

end Failure

/-! ## Operations in contexts -/

/-- An early end in contexts. A panic stays as it is. -/
def Abort.withContexts (contexts : List String) : Abort → Abort
  | failed failure => failed (failure.withContexts contexts)
  | panicked message => panicked message

namespace Act

variable {act : Act σ α} {state : σ}

/-- An operation in contexts, put into one after the other. -/
def duringAll (contexts : List String) (act : Act σ α) : Act σ α :=
  contexts.foldl (fun act context => act.during context) act

theorem during_eq (context : String) : act.during context state
    = ((act state).1.mapError (Abort.withContext context), (act state).2) := by
  unfold during
  split
  · rename_i heq
    rw [heq]
    rfl
  · rename_i heq
    rw [heq]
    rfl

/-- **An operation in contexts does what it did**, and its early end is told in them. -/
theorem duringAll_eq (contexts : List String) : act.duringAll contexts state
    = ((act state).1.mapError (Abort.withContexts contexts), (act state).2) := by
  induction contexts generalizing act with
  | nil =>
    have hnil : Abort.withContexts [] = id := funext fun abort => by cases abort <;> rfl
    rw [hnil]
    cases hact : act state with
    | mk result after => cases result <;> exact hact
  | cons context contexts ih =>
    have hstep : (act.duringAll (context :: contexts)) state
        = (act.during context).duringAll contexts state := rfl
    rw [hstep, ih, during_eq]
    cases (act state).1 with
    | ok a => rfl
    | error abort => cases abort <;> rfl

end Act

/-! ## The meaning of a status -/

theorem ErrorCode.status_lt_zero (code : ErrorCode) : code.status < 0 := by
  cases code <;> decide

/-- **No two codes have the same status.** -/
theorem ErrorCode.status_injective : Function.Injective ErrorCode.status := by
  intro code other h
  have hcode := ofStatus?_status code
  rw [h, ofStatus?_status] at hcode
  exact (Option.some.inj hcode).symm

/-- The text of the library stands behind the words of a wrapped native error, if it says
something, and nowhere else. -/
theorem ErrorCode.detail_eq (code : ErrorCode) (text : String) : code.detail text
    = if code.kind = .wrappedNativeError ∧ text ≠ "" then code.message ++ ": " ++ text
      else code.message := by
  by_cases hkind : code.kind = .wrappedNativeError
  · by_cases htext : text = ""
    · rw [if_neg fun h => h.2 htext, htext, detail]
      simp
    · rw [if_pos ⟨hkind, htext⟩]
      exact detail_of_wants (decide_eq_true hkind) htext
  · rw [if_neg fun h => hkind h.1]
    exact detail_of_not_wants (decide_eq_false hkind) text

namespace Backend

variable (backend : Backend σ) (status : Int32) (state : σ)

theorem check_of_nonneg (h : 0 ≤ status) :
    backend.check status state = (.ok status.toInt.toNat, state) := by
  rw [check, if_pos h, Act.ofExcept, statusMeaning, if_pos h]

/-- The status of a code is its failure, with the diagnostics that are taken. -/
theorem check_status (code : ErrorCode) : backend.check code.status state
    = (.error (.failed (.native code.kind code (code.detail (backend.takeDiagnostics state).1))),
        (backend.takeDiagnostics state).2) := by
  rw [backend.check_of_neg code.status_lt_zero, Abort.ofStatus_status]

/-- Any other status below 0 is a panic, with the diagnostics taken all the same. -/
theorem check_of_unmapped (hneg : status < 0) (hcode : ∀ code : ErrorCode, code.status ≠ status) :
    backend.check status state = (.error (.panicked
        ("unmapped native status code " ++ toString status.toInt ++ ": native contract mismatch")),
      (backend.takeDiagnostics state).2) := by
  have hnone : ErrorCode.ofStatus? status = none :=
    Option.eq_none_iff_forall_ne_some.mpr fun code hsome =>
      hcode code (ErrorCode.ofStatus?_eq_some_iff.mp hsome)
  rw [backend.check_of_neg hneg, Abort.ofStatus, hnone]

/-- **The text says nothing** exactly if the library announces none or hands none over. Whatever
bytes it hands over otherwise, some are shown. -/
theorem takeDiagnostics_eq_empty_iff :
    let pending := backend.submit (.drain none) state
    let taken := backend.submit (.drain (some pending.1.status.toInt.toNat)) pending.2
    (backend.takeDiagnostics state).1 = "" ↔ pending.1.status ≤ 0 ∨ taken.1.status ≤ 0 := by
  intro pending taken
  have htake := backend.takeDiagnostics_eq state
  dsimp only at htake
  rw [htake]
  by_cases hpending : pending.1.status ≤ 0
  · rw [if_pos hpending]
    exact iff_of_true rfl (.inl hpending)
  · rw [if_neg hpending, Text.utf8DecodeLossy_eq_empty_iff, ← List.length_eq_zero_iff,
      Bytes.length_patch _ _ _ (Nat.zero_le _), Bytes.length_zeros, or_iff_right hpending]
    have hsize : (0 : Int) < pending.1.status.toInt :=
      Int.not_le.mp fun h => hpending (Int32.le_iff_toInt_le.mpr h)
    rw [Int32.le_iff_toInt_le]
    show min pending.1.status.toInt.toNat taken.1.status.toInt.toNat = 0 ↔ taken.1.status.toInt ≤ 0
    omega

/-- **A status read as the contract has it**, whatever the library does when it is asked for its
diagnostics. -/
structure Reads : Prop where
  /-- A status from 0 up is the number that it is, and the library is left alone. -/
  ok : 0 ≤ status → backend.check status state = (.ok status.toInt.toNat, state)
  /-- Below 0 the diagnostics are taken, whatever else comes of it. -/
  drained : status < 0 → (backend.check status state).2 = (backend.takeDiagnostics state).2
  /-- The reading gives up exactly on a status below 0 that is not that of a code. -/
  panicked : ∀ message, (backend.check status state).1 = .error (.panicked message)
    ↔ status < 0 ∧ (∀ code : ErrorCode, code.status ≠ status) ∧ message =
      "unmapped native status code " ++ toString status.toInt ++ ": native contract mismatch"
  /-- It fails exactly on the status of a code, which is the only one with that status. The failure
  has the kind of the code, and its words are those of the code, with the text behind them if the
  error is a wrapped one and the text says something. -/
  failed : ∀ failure, (backend.check status state).1 = .error (.failed failure)
    ↔ ∃ code : ErrorCode, (∀ other : ErrorCode, other.status = status ↔ other = code)
      ∧ failure = .native code.kind code
        (if code.kind = .wrappedNativeError ∧ (backend.takeDiagnostics state).1 ≠ ""
          then code.message ++ ": " ++ (backend.takeDiagnostics state).1 else code.message)

theorem reads_of_nonneg (h : 0 ≤ status) : backend.Reads status state := by
  have hcheck := backend.check_of_nonneg status state h
  refine ⟨fun _ => hcheck, fun hneg => absurd h (Int32.not_le.mpr hneg), fun message => ?_,
    fun failure => ?_⟩
  · rw [hcheck]
    exact ⟨nofun, fun hpanic => absurd h (Int32.not_le.mpr hpanic.1)⟩
  · rw [hcheck]
    refine ⟨nofun, ?_⟩
    rintro ⟨code, hcode, -⟩
    obtain rfl := (hcode code).mpr rfl
    exact absurd h (Int32.not_le.mpr code.status_lt_zero)

theorem reads_status (code : ErrorCode) : backend.Reads code.status state := by
  have hcheck := backend.check_status state code
  refine ⟨fun h => absurd h (Int32.not_le.mpr code.status_lt_zero), fun _ => by rw [hcheck],
    fun message => ?_, fun failure => ?_⟩
  · rw [hcheck]
    exact ⟨nofun, fun hpanic => absurd rfl (hpanic.2.1 code)⟩
  · rw [hcheck, code.detail_eq]
    constructor
    · rintro ⟨⟩
      exact ⟨code, fun other => ErrorCode.status_injective.eq_iff, rfl⟩
    · rintro ⟨other, hother, rfl⟩
      obtain rfl : code = other := (hother code).mp rfl
      rfl

theorem reads_of_unmapped (hneg : status < 0) (hcode : ∀ code : ErrorCode, code.status ≠ status) :
    backend.Reads status state := by
  have hcheck := backend.check_of_unmapped status state hneg hcode
  refine ⟨fun h => absurd h (Int32.not_le.mpr hneg), fun _ => by rw [hcheck], fun message => ?_,
    fun failure => ?_⟩
  · rw [hcheck]
    constructor
    · rintro ⟨⟩
      exact ⟨hneg, hcode, rfl⟩
    · rintro ⟨-, -, rfl⟩
      rfl
  · rw [hcheck]
    refine ⟨nofun, ?_⟩
    rintro ⟨code, hunique, -⟩
    exact absurd ((hunique code).mpr rfl) (hcode code)

/-- **Every status is read so.** -/
theorem reads : backend.Reads status state := by
  by_cases hstatus : 0 ≤ status
  · exact backend.reads_of_nonneg status state hstatus
  by_cases hcode : ∃ code : ErrorCode, code.status = status
  · obtain ⟨code, rfl⟩ := hcode
    exact backend.reads_status state code
  · exact backend.reads_of_unmapped status state (Int32.not_le.mp hstatus) fun code h =>
      hcode ⟨code, h⟩

end Backend

/-- **The meaning of a status is kept in any contexts.** Every status of every library is read as
the contract has it; contexts around the reading change nothing but the words of a failure; and so
do contexts around any failure at all: cause, code, kind, class and the use of a repetition stay,
the words stand behind the contexts, the last of these first, and a failure of a file or a document
stays as it is. -/
theorem meaning_kept_in_contexts (backend : Backend σ) (status : Int32) (state : σ)
    (contexts : List String) :
    backend.Reads status state
    ∧ (backend.check status).duringAll contexts state
      = ((backend.check status state).1.mapError (Abort.withContexts contexts),
          (backend.check status state).2)
    ∧ ∀ failure : Failure,
      failure.Rewords (inContexts contexts) (failure.withContexts contexts) := by
  refine ⟨backend.reads status state, Act.duringAll_eq contexts, fun failure => ?_⟩
  rw [failure.withContexts_eq_mapDetail]
  exact failure.rewords_mapDetail _

example : (Failure.ofCode .nameNotFound).withContexts ["digest FOO", "self-test"]
    = .native .nameNotFound .nameNotFound "self-test: digest FOO: name not found" := by
  decide +kernel

end Custody
