import Custody.Proofs.Vault.Checks
import Custody.Proofs.Vault.Steps
import Mathlib.Algebra.Group.Int.Defs

/-!
# Which check of a derivation comes first

A derivation has a dozen checks over five or six arguments, and several of them can fail at once.
Here the checks of each derivation stand in a list, in terms of the arguments and the raised faults
alone: an entry says when the call ends there, whatever holds of the others, and with which status
(`Exit`). The status of a call is that of the first entry in its list at which it ends, and a call
that passes the whole list fills its window with the derived key
(`derivations_end_at_first_exit`).

The list of a call is put together from those of its steps. A step keeps to a list of exits when it
refuses the call at the first one that is taken and passes if there is none (`KeepsTo`), and what
comes of two lists in a row is what comes of the first, and then of the second
(`atFirstExit_append`).

The entries of a list mention no other entry, so that a list can be compared with a table of codes
in a manual row by row. Exits of the same status may stand at several places, as they do for windows
that are read one after the other.
-/

namespace Custody.Vault

open Derive Step

/-! ## Exits -/

/-- A place where a call may end. -/
structure Exit where
  /-- Whether the arguments and the faults end the call here, if it comes this far. -/
  taken : Bool
  /-- The status that it then has. -/
  status : Int32

/-- The exit with the status of a code. -/
def Exit.of (taken : Bool) (code : ErrorCode) : Exit := ⟨taken, code.status⟩

/-- **What comes of a list of exits**: `ended` with the status of the first one that is taken, or
`passed` if there is none. -/
def AtFirstExit (exits : List Exit) (ended : Int32 → Prop) (passed : Prop) : Prop :=
  match exits.find? (·.taken) with
  | some exit => ended exit.status
  | none => passed

section Exits

variable {exits others : List Exit} {ended ended' : Int32 → Prop} {passed passed' : Prop}

theorem atFirstExit_append :
    AtFirstExit (exits ++ others) ended passed
      ↔ AtFirstExit exits ended (AtFirstExit others ended passed) := by
  unfold AtFirstExit
  rw [List.find?_append]
  cases exits.find? (·.taken) with
  | none => exact Iff.rfl
  | some exit => exact Iff.rfl

theorem AtFirstExit.mono (h : AtFirstExit exits ended passed)
    (hended : ∀ status, ended status → ended' status) (hpassed : passed → passed') :
    AtFirstExit exits ended' passed' := by
  unfold AtFirstExit at h ⊢
  cases hfirst : exits.find? (·.taken) with
  | none =>
    rw [hfirst] at h
    exact hpassed h
  | some exit =>
    rw [hfirst] at h
    exact hended _ h

/-- An exit that is taken comes before all that follow. -/
theorem atFirstExit_cons_of_taken {exit : Exit} (htaken : exit.taken = true)
    (h : ended exit.status) : AtFirstExit (exit :: exits) ended passed := by
  unfold AtFirstExit
  rw [List.find?_cons_of_pos htaken]
  exact h

/-- An exit that is not taken plays no part. -/
theorem atFirstExit_cons_of_not_taken {exit : Exit} (htaken : exit.taken = false)
    (h : AtFirstExit exits ended passed) : AtFirstExit (exit :: exits) ended passed := by
  unfold AtFirstExit
  rw [List.find?_cons_of_neg (by simp [htaken])]
  exact h

end Exits

/-! ## Steps that keep to a list -/

section Steps

variable {α β : Type} {vault : Vault} {exits others : List Exit} {step : Step α}
  {known : α → Prop} {passed : Reply → Prop} {code : ErrorCode}

/-- **What comes of a step keeps to a list of exits**: the step fails at the first one that is
taken, with nothing written, and if there is none it passes, with a value of which something is
known, and leaves the call as it began. -/
def KeepsTo (vault : Vault) (exits : List Exit) (result : Check α × CallState)
    (known : α → Prop) : Prop :=
  AtFirstExit exits
    (fun status => ∃ code after, result = (.error code, after) ∧ code.status = status
      ∧ after.written = [])
    (∃ a, result = (.ok a, .start vault) ∧ known a)

/-- **The exits of a chain of steps** are those of the first step and then those of the rest. -/
theorem KeepsTo.bind {rest : α → Step β} {known' : β → Prop}
    (hstep : KeepsTo vault exits (step.exec (.start vault)) known)
    (hrest : ∀ a, known a → KeepsTo vault others ((rest a).exec (.start vault)) known') :
    KeepsTo vault (exits ++ others) ((step >>= rest).exec (.start vault)) known' := by
  refine atFirstExit_append.mpr (AtFirstExit.mono hstep ?_ ?_)
  · rintro status ⟨code, after, hcode, hstatus⟩
    exact ⟨code, after, exec_bind_of_error hcode, hstatus⟩
  · rintro ⟨a, hok, ha⟩
    rw [exec_bind_of_ok hok]
    exact hrest a ha

/-- A step with one exit comes before the rest. -/
theorem KeepsTo.bind_cons {exit : Exit} {rest : α → Step β} {known' : β → Prop}
    (hstep : KeepsTo vault [exit] (step.exec (.start vault)) known)
    (hrest : ∀ a, known a → KeepsTo vault others ((rest a).exec (.start vault)) known') :
    KeepsTo vault (exit :: others) ((step >>= rest).exec (.start vault)) known' :=
  hstep.bind hrest

/-- **A call ends at the first of its exits that is taken**, with the status that belongs to it and
with nothing written. If there is none, something else is known of the reply. -/
def EndsAtFirst (exits : List Exit) (passed : Reply → Prop) (reply : Reply) : Prop :=
  AtFirstExit exits (fun status => reply.status = status ∧ reply.written = []) (passed reply)

/-- A call ends at the exits of its first step, and then at those of the rest. -/
theorem KeepsTo.settle {rest : α → Step Int32}
    (hstep : KeepsTo vault exits (step.exec (.start vault)) known)
    (hrest : ∀ a, known a → EndsAtFirst others passed (settle ((rest a).on vault)).1) :
    EndsAtFirst (exits ++ others) passed (settle ((step >>= rest).on vault)).1 := by
  refine atFirstExit_append.mpr (AtFirstExit.mono hstep ?_ ?_)
  · rintro status ⟨code, after, hcode, hstatus⟩
    rw [on, exec_bind_of_error hcode]
    exact hstatus
  · rintro ⟨a, hok, ha⟩
    rw [on_congr (exec_bind_of_ok hok)]
    exact hrest a ha

/-- A call whose first step has one exit. -/
theorem KeepsTo.settle_cons {exit : Exit} {rest : α → Step Int32}
    (hstep : KeepsTo vault [exit] (step.exec (.start vault)) known)
    (hrest : ∀ a, known a → EndsAtFirst others passed (Vault.settle ((rest a).on vault)).1) :
    EndsAtFirst (exit :: others) passed (Vault.settle ((step >>= rest).on vault)).1 :=
  hstep.settle hrest

theorem keepsTo_demand {condition taken : Bool} (code : ErrorCode) (h : taken = !condition) :
    KeepsTo vault [.of taken code] ((demand condition code).exec (.start vault))
      (fun _ => condition = true) := by
  subst h
  cases condition with
  | true => exact atFirstExit_cons_of_not_taken rfl ⟨(), rfl, rfl⟩
  | false => exact atFirstExit_cons_of_taken rfl ⟨_, _, rfl, rfl, rfl⟩

theorem keepsTo_need (value : Option α) (code : ErrorCode) :
    KeepsTo vault [.of value.isNone code] ((need value code).exec (.start vault))
      (fun a => value = some a) := by
  cases value with
  | none => exact atFirstExit_cons_of_taken rfl ⟨_, _, rfl, rfl, rfl⟩
  | some a => exact atFirstExit_cons_of_not_taken rfl ⟨a, rfl, rfl⟩

/-- A condition under which a step ends is an exit in front of those that are left. -/
theorem keepsTo_cons {failing : Prop} [Decidable failing] {taken : Bool}
    {result : Check α × CallState} (htaken : taken = decide failing)
    (hfails : failing → ∃ after, result = (.error code, after) ∧ after.written = [])
    (hpasses : ¬failing → KeepsTo vault exits result known) :
    KeepsTo vault (.of taken code :: exits) result known := by
  subst htaken
  by_cases h : failing
  · obtain ⟨after, hresult, hwritten⟩ := hfails h
    exact atFirstExit_cons_of_taken (decide_eq_true h) ⟨_, _, hresult, rfl, hwritten⟩
  · exact atFirstExit_cons_of_not_taken (decide_eq_false h) (hpasses h)

/-- A check in front of other checks of the same argument. -/
theorem keepsTo_check {failing : Prop} [Decidable failing] {taken : Bool} {rest : Check α}
    (htaken : taken = decide failing)
    (h : ¬failing → KeepsTo vault exits (rest, .start vault) known) :
    KeepsTo vault (.of taken code :: exits) (if failing then .error code else rest, .start vault)
      known := by
  refine keepsTo_cons htaken (fun hfails => ?_) fun hpasses => ?_
  · rw [if_pos hfails]
    exact ⟨_, rfl, rfl⟩
  · rw [if_neg hpasses]
    exact h hpasses

/-- A condition under which the call ends with a line for the diagnostics, in front of other
steps. -/
theorem keepsTo_ite {failing : Prop} [Decidable failing] {taken : Bool} {line : String}
    {rest : Step α} (htaken : taken = decide failing)
    (h : ¬failing → KeepsTo vault exits (rest.exec (.start vault)) known) :
    KeepsTo vault (.of taken code :: exits)
      ((if failing then failSaying code line else rest).exec (.start vault)) known := by
  refine keepsTo_cons htaken (fun hfails => ?_) fun hpasses => ?_
  · rw [if_pos hfails]
    exact ⟨_, rfl, rfl⟩
  · rw [if_neg hpasses]
    exact h hpasses

/-- A fault with which the call ends, in front of other steps. -/
theorem settle_isRaised {flag : FaultFlag} {line : String} {rest : Step Int32}
    (h : EndsAtFirst others passed (settle (rest.on vault)).1) :
    EndsAtFirst (.of (vault.raised flag) code :: others) passed (settle ((isRaised flag >>=
      fun raised => if raised then failSaying code line else rest).on vault)).1 := by
  rw [on_isRaised]
  cases hraised : vault.raised flag with
  | true => exact atFirstExit_cons_of_taken rfl ⟨rfl, rfl⟩
  | false => exact atFirstExit_cons_of_not_taken rfl h

/-- No check is left. -/
theorem keepsTo_pass {a : α} (h : known a) : KeepsTo vault [] (.ok a, .start vault) known :=
  ⟨a, rfl, h⟩

end Steps

/-! ## The checks of the arguments -/

section Arguments

variable (vault : Vault)

/-- The exits over bytes to read. -/
def inputExits (window : Option InputWindow) : List Exit :=
  [.of window.isNone .inputIsNull,
    .of (window.any (·.offset < 0)) .inputOffsetNegative,
    .of (window.any (·.len < 0)) .inputLenNegative,
    .of (window.any fun w => (w.data.length : Int) < w.offset.toInt + w.len.toInt) .inputOutOfRange,
    .of (vault.raised .failedAccess1) .failedAccessInput]

/-- The exits over a window to fill. -/
def outputExits (out : Option OutputWindow) : List Exit :=
  [.of out.isNone .outputIsNull,
    .of (out.any (·.offset < 0)) .outputOffsetNegative,
    .of (out.any (·.len < 0)) .outputLenNegative,
    .of (out.any fun w => (w.size : Int) < w.offset.toInt + w.len.toInt) .outputOutOfRange,
    .of (vault.raised .failedAccess2) .failedAccessOutput]

/-- The text of a name, if it is one. -/
def nameText (name : Option Bytes) : Option String :=
  name.bind fun bytes => Text.utf8Decode? (Call.nameBytes bytes)

/-- The exits over a name. -/
def nameExits (name : Option Bytes) : List Exit :=
  [.of name.isNone .nameIsNull,
    .of (vault.raised .failedAccess3) .nameAccessFailed,
    .of (nameText name).isNone .nameNotFound]

/-- The digest that a name means, in a table of digests. -/
def namedDigest (lookup : String → Option MacDigest) (name : Option Bytes) : Option MacDigest :=
  (nameText name).bind lookup

/-- The exit over the digest that a name means. -/
def digestExits (lookup : String → Option MacDigest) (name : Option Bytes) : List Exit :=
  [.of (namedDigest lookup name).isNone .kdfUnknownDigest]

/-- The exit over a salt, where there has to be one. -/
def saltExits (salt : Option InputWindow) : List Exit :=
  [.of (salt.any (·.len = 0)) .kdfSaltEmpty]

/-- The exits over the costs of scrypt. -/
def costExits (n r p : Int32) : List Exit :=
  [.of (n < 2) .scryptNTooSmall,
    .of (¬n.toInt.toNat.isPowerOfTwo) .scryptNNotPow2,
    .of (r ≤ 0) .scryptRNotPositive,
    .of (p ≤ 0) .scryptPNotPositive,
    .of (2 ^ 30 < 128 * r.toInt * n.toInt) .nativeError,
    .of (16 * r.toInt ≤ n.toInt.toNat.log2 ∨ 2 ^ 30 ≤ r.toInt * p.toInt) .nativeError]

/-- The exits of a derivation from a password that has a window to fill. That the window is empty
ends the call as well, and is no failure. -/
def passwordExits (out : Option OutputWindow) : List Exit :=
  [.of (out.any (2 ^ 20 < ·.len.toInt)) .kdfOutputTooLong,
    ⟨out.any (·.len = 0), 0⟩,
    .of (vault.raised .nativeError4) .nativeError]

/-! ## The exits of each derivation -/

/-- The exits of PBKDF2, in order. -/
def pbkdf2Exits (digest : Option Bytes) (password salt : Option InputWindow) (iterations : Int32)
    (out : Option OutputWindow) : List Exit :=
  vault.inputExits password ++ vault.inputExits salt ++ saltExits salt
    ++ [.of (iterations ≤ 0) .kdfIterNotPositive] ++ vault.nameExits digest
    ++ digestExits MacDigest.ofName? digest ++ vault.outputExits out ++ vault.passwordExits out

/-- The exits of HKDF, in order. Here the injected fault comes before the limit. -/
def hkdfExits (digest : Option Bytes) (material salt info : Option InputWindow)
    (out : Option OutputWindow) : List Exit :=
  vault.inputExits material ++ vault.inputExits salt ++ vault.inputExits info
    ++ vault.nameExits digest ++ digestExits hkdfDigest? digest ++ vault.outputExits out
    ++ [.of (vault.raised .nativeError4) .nativeError,
      .of ((namedDigest hkdfDigest? digest).any fun named =>
        out.any (((255 * named.size : Nat) : Int) < ·.len.toInt)) .kdfOutputTooLong]

/-- The exits of scrypt, in order. -/
def scryptExits (password salt : Option InputWindow) (n r p : Int32) (out : Option OutputWindow) :
    List Exit :=
  vault.inputExits password ++ vault.inputExits salt ++ saltExits salt ++ costExits n r p
    ++ vault.outputExits out ++ vault.passwordExits out

/-! ## The steps keep to their exits -/

/-- A sum of lengths that are not negative, as a number of 32 bits with a sign and as a position. -/
theorem lt_add_iff {size : Nat} {offset len : Int32} (hoffset : ¬offset < 0) (hlen : ¬len < 0) :
    (size : Int) < offset.toInt + len.toInt ↔ size < offset.toInt.toNat + len.toInt.toNat := by
  rw [Int32.lt_iff_toInt_lt] at hoffset hlen
  have : (0 : Int32).toInt = 0 := rfl
  omega

theorem keepsTo_input (window : Option InputWindow) :
    KeepsTo vault (vault.inputExits window) ((look (·.input window)).exec (.start vault))
      fun data => ∃ w, window = some w ∧ w.InRange ∧ data = w.addressed := by
  cases window with
  | none => exact atFirstExit_cons_of_taken rfl ⟨_, _, rfl, rfl, rfl⟩
  | some w =>
    refine atFirstExit_cons_of_not_taken rfl ?_
    refine keepsTo_check rfl fun hoffset => keepsTo_check rfl fun hlen => ?_
    refine keepsTo_check (decide_eq_decide.mpr (lt_add_iff hoffset hlen)) fun hrange => ?_
    refine keepsTo_check Bool.decide_eq_true.symm fun _ => keepsTo_pass ⟨w, rfl, ?_, rfl⟩
    exact ⟨Int32.not_lt.mp hoffset, Int32.not_lt.mp hlen, Nat.not_lt.mp hrange⟩

theorem keepsTo_span (out : Option OutputWindow) :
    KeepsTo vault (vault.outputExits out) ((look (·.span out)).exec (.start vault)) fun span =>
      ∃ w, out = some w ∧ w.InRange ∧ vault.raised .failedAccess2 = false ∧ span = w.width := by
  cases out with
  | none => exact atFirstExit_cons_of_taken rfl ⟨_, _, rfl, rfl, rfl⟩
  | some w =>
    refine atFirstExit_cons_of_not_taken rfl ?_
    refine keepsTo_check rfl fun hoffset => keepsTo_check rfl fun hlen => ?_
    refine keepsTo_check (decide_eq_decide.mpr (lt_add_iff hoffset hlen)) fun hrange => ?_
    refine keepsTo_check Bool.decide_eq_true.symm fun haccess =>
      keepsTo_pass ⟨w, rfl, ?_, Bool.not_eq_true _ ▸ haccess, rfl⟩
    exact ⟨Int32.not_lt.mp hoffset, Int32.not_lt.mp hlen, Nat.not_lt.mp hrange⟩

theorem keepsTo_readName (name : Option Bytes) :
    KeepsTo vault (vault.nameExits name) ((look (·.readName name)).exec (.start vault))
      (nameText name = some ·) := by
  cases name with
  | none => exact atFirstExit_cons_of_taken rfl ⟨_, _, rfl, rfl, rfl⟩
  | some bytes =>
    refine atFirstExit_cons_of_not_taken rfl ?_
    rw [exec_look]
    show KeepsTo vault _ (Check.demand (!vault.raised .failedAccess3) .nameAccessFailed >>= fun _ =>
      Check.need (nameText (some bytes)) .nameNotFound, CallState.start vault) _
    cases hraised : vault.raised .failedAccess3 with
    | true => exact atFirstExit_cons_of_taken rfl ⟨_, _, rfl, rfl, rfl⟩
    | false => exact atFirstExit_cons_of_not_taken rfl (keepsTo_need _ .nameNotFound)

theorem keepsTo_lookup {name : Option Bytes} {text : String} (htext : nameText name = some text)
    (lookup : String → Option MacDigest) :
    KeepsTo vault (digestExits lookup name)
      ((need (lookup text) .kdfUnknownDigest).exec (.start vault))
      (namedDigest lookup name = some ·) := by
  have hnamed : namedDigest lookup name = lookup text := by
    rw [namedDigest, htext, Option.bind_some]
  rw [digestExits, hnamed]
  exact keepsTo_need (lookup text) .kdfUnknownDigest

theorem keepsTo_salt {w : InputWindow} (h : w.InRange) :
    KeepsTo vault (saltExits (some w))
      ((demand (!w.addressed.isEmpty) .kdfSaltEmpty).exec (.start vault)) fun _ => True := by
  have hlen : w.len = 0 ↔ w.addressed = [] := by
    obtain ⟨-, hlen, hrange⟩ := h
    rw [← List.length_eq_zero_iff, InputWindow.addressed, Bytes.window, List.length_take,
      List.length_drop, ← Int32.toInt_inj]
    have : (0 : Int32).toInt = 0 := rfl
    rw [Int32.le_iff_toInt_le] at hlen
    omega
  refine (keepsTo_demand .kdfSaltEmpty ?_).mono (fun _ => id) (.imp fun _ h => ⟨h.1, trivial⟩)
  rw [Bool.not_not, Bool.eq_iff_iff, List.isEmpty_iff]
  exact decide_eq_true_iff.trans hlen

/-- A number that its logarithm gives back is a power of two. -/
theorem shiftLeft_log2_eq_iff {n : Nat} : 1 <<< n.log2 = n ↔ n.isPowerOfTwo := by
  rw [Nat.one_shiftLeft]
  constructor
  · exact fun h => ⟨n.log2, h.symm⟩
  · rintro ⟨k, rfl⟩
    rw [Nat.log2_two_pow]

theorem keepsTo_cost (n r p : Int32) :
    KeepsTo vault (costExits n r p) ((scryptCost n r p).exec (.start vault))
      (· = ⟨n.toInt.toNat, r.toInt.toNat, p.toInt.toNat⟩) := by
  have htwo : (2 : Int32).toInt = 2 := rfl
  have hzero : (0 : Int32).toInt = 0 := rfl
  refine (keepsTo_demand .scryptNTooSmall ?_).bind_cons fun _ hn => ?_
  · simp [← Int32.not_le]
  refine (keepsTo_demand .scryptNNotPow2 ?_).bind_cons fun _ _ => ?_
  · simp [shiftLeft_log2_eq_iff]
  refine (keepsTo_demand .scryptRNotPositive ?_).bind_cons fun _ hr => ?_
  · simp [← Int32.not_le]
  refine (keepsTo_demand .scryptPNotPositive ?_).bind_cons fun _ hp => ?_
  · simp [← Int32.not_le]
  -- the last two checks are on products, of numbers that are not negative by now
  rw [decide_eq_true_iff, Int32.le_iff_toInt_le] at hn
  rw [decide_eq_true_iff, Int32.lt_iff_toInt_lt] at hr hp
  obtain ⟨n', hn'⟩ := Int.eq_ofNat_of_zero_le (show 0 ≤ n.toInt by omega)
  obtain ⟨r', hr'⟩ := Int.eq_ofNat_of_zero_le (show 0 ≤ r.toInt by omega)
  obtain ⟨p', hp'⟩ := Int.eq_ofNat_of_zero_le (show 0 ≤ p.toInt by omega)
  simp only [hn', hr', hp', Int.toNat_natCast]
  unfold scryptMemoryLimit scryptBlockLimit
  refine keepsTo_ite ?_ fun _ => keepsTo_ite ?_ fun _ => keepsTo_pass rfl
  · rw [decide_eq_decide]
    exact_mod_cast Iff.rfl
  · rw [decide_eq_decide]
    exact_mod_cast Iff.rfl

/-- The length of a window inside its buffer is no less than 0. -/
theorem toInt_len {w : OutputWindow} (h : w.InRange) : w.len.toInt = w.width := by
  have := Int32.le_iff_toInt_le.mp h.2.1
  have : (0 : Int32).toInt = 0 := rfl
  unfold OutputWindow.width
  omega

theorem len_eq_zero_iff {w : OutputWindow} (h : w.InRange) : w.len = 0 ↔ w.width = 0 := by
  rw [← Int32.toInt_inj, toInt_len h]
  exact Int.natCast_eq_zero

theorem width_lt (w : OutputWindow) : w.width < wordLimit := by
  have := Int32.toInt_lt w.len
  unfold OutputWindow.width wordLimit
  omega

/-- **A derivation fills its window**: the call reports how many bytes the window has, and the key
of that length is stored in all of it. -/
def Fills (out : Option OutputWindow) (key : Nat → Bytes) (reply : Reply) : Prop :=
  ∃ w, out = some w ∧ reply.status = w.len ∧ (key w.width).length = w.width
    ∧ Delivered w (key w.width) reply

/-- A call that delivers a key of the length of its window. -/
theorem fills_deliver {w : OutputWindow} {key : Nat → Bytes} (h : w.InRange)
    (haccess : vault.raised .failedAccess2 = false) (hlength : (key w.width).length = w.width) :
    Fills (some w) key (settle ((Step.deliver (key w.width)).on vault)).1 := by
  have hroom : vault.admits (key w.width).length (some w) = .ok true :=
    admits_some_iff.mpr ⟨h, haccess, Nat.le_of_eq hlength, rfl⟩
  have hdelivered := vault.delivered_of_admits hroom (by rw [hlength]; exact width_lt w) none
  refine ⟨w, rfl, Int32.toInt_inj.mp (hdelivered.status.trans ?_), hlength, hdelivered⟩
  rw [hlength, toInt_len h]

/-- The end of a derivation from a password. -/
theorem derivePassword_endsAtFirst {w : OutputWindow} (h : w.InRange)
    (haccess : vault.raised .failedAccess2 = false) {fill : Nat → Bytes} (complaint : String)
    (hlength : (fill w.width).length = w.width) :
    EndsAtFirst (vault.passwordExits (some w)) (Fills (some w) fill)
      (settle ((derivePassword fill complaint w.width).on vault)).1 := by
  refine (keepsTo_demand .kdfOutputTooLong ?_).settle_cons fun _ _ => ?_
  · rw [Option.any_some, toInt_len h, ← decide_not, decide_eq_decide, Nat.not_le,
      passwordOutputLimit]
    exact_mod_cast Iff.rfl
  have hempty : (some w).any (·.len = 0) = decide (w.width = 0) :=
    decide_eq_decide.mpr (len_eq_zero_iff h)
  by_cases hwidth : w.width = 0
  · rw [if_pos hwidth]
    exact atFirstExit_cons_of_taken (hempty.trans (decide_eq_true hwidth)) ⟨rfl, rfl⟩
  · rw [if_neg hwidth]
    refine atFirstExit_cons_of_not_taken (hempty.trans (decide_eq_false hwidth)) ?_
    exact settle_isRaised (fills_deliver vault h haccess hlength)

end Arguments

/-! ## Derivations -/

/-- The bytes that a call reads through a window. -/
def bytesOf (window : Option InputWindow) : Bytes := (window.map (·.addressed)).getD []

section Derivations

variable (vault : Vault)

theorem derivePbkdf2_endsAtFirst (digest : Option Bytes) (password salt : Option InputWindow)
    (iterations : Int32) (out : Option OutputWindow) :
    EndsAtFirst (vault.pbkdf2Exits digest password salt iterations out)
      (fun reply => ∃ named, namedDigest MacDigest.ofName? digest = some named ∧
        Fills out (pbkdf2 named (bytesOf password) (bytesOf salt) iterations.toInt.toNat) reply)
      (settle ((derivePbkdf2 digest password salt iterations out).on vault)).1 := by
  simp only [pbkdf2Exits, List.append_assoc]
  refine (vault.keepsTo_input password).settle ?_
  rintro _ ⟨pw, rfl, -, rfl⟩
  refine (vault.keepsTo_input salt).settle ?_
  rintro _ ⟨sw, rfl, hsalt, rfl⟩
  refine (vault.keepsTo_salt hsalt).settle fun _ _ => ?_
  refine (keepsTo_demand .kdfIterNotPositive ?_).settle fun _ _ => ?_
  · simp [← Int32.not_le]
  refine (vault.keepsTo_readName digest).settle fun text htext => ?_
  refine (vault.keepsTo_lookup htext _).settle fun named hnamed => ?_
  refine (vault.keepsTo_span out).settle ?_
  rintro _ ⟨w, rfl, hrange, haccess, rfl⟩
  exact (derivePassword_endsAtFirst vault hrange haccess _ (length_pbkdf2 ..)).mono (fun _ => id)
    fun hfills => ⟨named, hnamed, hfills⟩

theorem deriveHkdf_endsAtFirst (digest : Option Bytes) (material salt info : Option InputWindow)
    (out : Option OutputWindow) :
    EndsAtFirst (vault.hkdfExits digest material salt info out)
      (fun reply => ∃ named, namedDigest hkdfDigest? digest = some named ∧
        Fills out (hkdf named (bytesOf material) (bytesOf salt) (bytesOf info)) reply)
      (settle ((deriveHkdf digest material salt info out).on vault)).1 := by
  simp only [hkdfExits, List.append_assoc]
  refine (vault.keepsTo_input material).settle ?_
  rintro _ ⟨mw, rfl, -, rfl⟩
  refine (vault.keepsTo_input salt).settle ?_
  rintro _ ⟨sw, rfl, -, rfl⟩
  refine (vault.keepsTo_input info).settle ?_
  rintro _ ⟨iw, rfl, -, rfl⟩
  refine (vault.keepsTo_readName digest).settle fun text htext => ?_
  refine (vault.keepsTo_lookup htext _).settle fun named hnamed => ?_
  refine (vault.keepsTo_span out).settle ?_
  rintro _ ⟨w, rfl, hrange, haccess, rfl⟩
  refine settle_isRaised ((keepsTo_demand .kdfOutputTooLong ?_).settle_cons fun _ _ => ?_)
  · rw [hnamed, Option.any_some, Option.any_some, toInt_len hrange, ← decide_not, decide_eq_decide,
      Nat.not_le, hkdfLimit]
    exact_mod_cast Iff.rfl
  · exact ⟨named, hnamed, fills_deliver vault hrange haccess (length_hkdf ..)⟩

theorem deriveScrypt_endsAtFirst (password salt : Option InputWindow) (n r p : Int32)
    (out : Option OutputWindow) :
    EndsAtFirst (vault.scryptExits password salt n r p out)
      (Fills out (scrypt (bytesOf password) (bytesOf salt) n.toInt.toNat r.toInt.toNat
        p.toInt.toNat))
      (settle ((deriveScrypt password salt n r p out).on vault)).1 := by
  simp only [scryptExits, List.append_assoc]
  refine (vault.keepsTo_input password).settle ?_
  rintro _ ⟨pw, rfl, -, rfl⟩
  refine (vault.keepsTo_input salt).settle ?_
  rintro _ ⟨sw, rfl, hsalt, rfl⟩
  refine (vault.keepsTo_salt hsalt).settle fun _ _ => ?_
  refine (vault.keepsTo_cost n r p).settle ?_
  rintro _ rfl
  refine (vault.keepsTo_span out).settle ?_
  rintro _ ⟨w, rfl, hrange, haccess, rfl⟩
  exact derivePassword_endsAtFirst vault hrange haccess _ (length_scrypt ..)

end Derivations

/-- **A derivation ends at the first of its exits.** For all arguments and all raised faults, the
status of a call is that of the first entry in its list that applies, whatever else is wrong with
the call. If none applies, the call fills its window with the derived key. -/
theorem derivations_end_at_first_exit (vault : Vault) (supply : Supply) :
    (∀ digest password salt iterations out,
      EndsAtFirst (vault.pbkdf2Exits digest password salt iterations out)
        (fun reply => ∃ named, namedDigest MacDigest.ofName? digest = some named ∧
          Fills out (pbkdf2 named (bytesOf password) (bytesOf salt) iterations.toInt.toNat) reply)
        (vault.answer supply (.pbkdf2 digest password salt iterations out)).1) ∧
    (∀ digest material salt info out,
      EndsAtFirst (vault.hkdfExits digest material salt info out)
        (fun reply => ∃ named, namedDigest hkdfDigest? digest = some named ∧
          Fills out (hkdf named (bytesOf material) (bytesOf salt) (bytesOf info)) reply)
        (vault.answer supply (.hkdf digest material salt info out)).1) ∧
    (∀ password salt n r p out,
      EndsAtFirst (vault.scryptExits password salt n r p out)
        (Fills out (scrypt (bytesOf password) (bytesOf salt) n.toInt.toNat r.toInt.toNat
          p.toInt.toNat))
        (vault.answer supply (.scrypt password salt n r p out)).1) :=
  ⟨vault.derivePbkdf2_endsAtFirst, vault.deriveHkdf_endsAtFirst, vault.deriveScrypt_endsAtFirst⟩

/-- No rounds and no window either: the rounds are checked first, and the name before the window. -/
example :
    ((empty.pbkdf2Exits none (some ⟨[1], 0, 1⟩) (some ⟨[2], 0, 1⟩) 0 none).find? (·.taken)).map
      (·.status) = some ErrorCode.kdfIterNotPositive.status := by decide

end Custody.Vault
