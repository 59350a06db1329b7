import Custody.Proofs.Vault.Checks
import Custody.Proofs.Vault.Kinds
import Custody.Proofs.Vault.Steps

/-!
# What calls do

Everything that a call can do to the library is said here once, and proved of every entry point in
one pass over them (`Vault.conforms_entry`).

A call that is granted does one of six things (`Vault.Effect`): it only reports, it puts another
context of the same kind in place of the one it is for, it makes a context, frees one, sets faults,
or takes the diagnostics. Which of these it can be is fixed by the call.

A call that fails ends in the state in which the step that failed has found it. It is a fact about
the entry points, and not about steps, that this is the state in which the call began, but for the
line that goes with the code (`Vault.Residue`): each of them does all that can fail before it
changes a context or a fault, and before it hands an address out. The one thing that comes too
early is the ciphertext of an encapsulation, which has its own case.

The proofs follow the entry points step by step. A check adds what is known once it has passed, and
the last step has to be one of the effects of the call.

There are as many lemmas as there are functions with a chain of their own, and one line for each
check in them. Where an entry point of the library is changed, it is its lemma here that has to be
changed with it, and hardly anything else.
-/

namespace Custody

open Held

/-! ## What a call is for -/

/-- **The context that a call may change**, with the kind that it has to be of. -/
def Call.changes? : Call → Option (Address × Domain)
  | digestFeedByte handle _ | digestFeed handle _ | digestFinish handle _ | digestReset handle |
    digestDispose handle => some (handle, .digest)
  | keyDispose handle | keyGenerate handle _ | keyDecodePublic handle _ _ |
    keyDecodePrivate handle _ _ => some (handle, .keySpec)
  | signatureDispose handle | signatureInitSign handle _ | signatureInitVerify handle _ |
    signatureFeed handle _ | signatureSign handle _ | signatureVerify handle _ =>
    some (handle, .signature)
  | _ => none

/-- **What a call sets a fault to**, if it sets it. -/
def Call.sets? : Call → FaultFlag → Option Bool
  | faultSet number on, flag =>
    if FaultFlag.ofNumber? number = some flag then some (on ≠ 0) else none
  | faultsReset, _ => some false
  | _, _ => none

/-- A call that sets a fault sets the one whose number it names, if there is one. -/
theorem Call.sets?_faultSet (number on : Int32) (flag : FaultFlag) : (faultSet number on).sets? flag
    = if FaultFlag.ofNumber? number = some flag then some (decide (on ≠ 0)) else none := rfl

/-- **A call that neither makes nor frees a context**, and sets no fault. -/
structure Call.Ordinary (call : Call) : Prop where
  /-- It makes no context. -/
  makes : call.makes? = none
  /-- It frees none. -/
  frees : call.frees? = none
  /-- It sets no fault. -/
  sets : ∀ flag, call.sets? flag = none

namespace Vault

open Hash

variable {α β : Type} {vault : Vault} {supply : Supply} {call : Call} {code : ErrorCode}
  {line : String} {status : Int32} {written : Bytes} {handle : Address} {context : Context}
  {flag : FaultFlag}

/-- **A line of diagnostics.** -/
structure IsLine (line : String) : Prop where
  /-- It says something. -/
  something : 0 < line.length
  /-- It is short. -/
  short : line.length ≤ 100

/-- **What a call that is granted does**, by its status and the state in which it ends. -/
inductive Effect (vault : Vault) (supply : Supply) (call : Call) : Int32 → CallState → Prop
  /-- It leaves the library as it is. So does a call that frees a context where there is none of the
  right kind. -/
  | reports {status : Int32} {written : Bytes} (hstatus : 0 ≤ status)
    (hmakes : call.makes? = none)
    (hfrees : ∀ freed, call.frees? = some freed → vault.kindAt freed.1 ≠ some freed.2)
    (hsets : ∀ flag, call.sets? flag = none) :
    Effect vault supply call status ⟨vault, none, written⟩
  /-- It puts a context in place of the one it is for, which is of the same kind. -/
  | puts {status : Int32} {written : Bytes} {handle : Address} {context : Context}
    (hstatus : 0 ≤ status) (hcall : call.Ordinary)
    (hchanges : call.changes? = some (handle, context.domain))
    (hkind : vault.kindAt handle = some context.domain) :
    Effect vault supply call status ⟨vault.set handle context, none, written⟩
  /-- It makes a context, and hands its address out. -/
  | makes {context : Context} (hmakes : call.makes? = some context.domain) :
    Effect vault supply call 0 ⟨vault.set supply.address context, some supply.address, []⟩
  /-- It frees the context it is for. -/
  | frees {freed : Address × Domain} (hfrees : call.frees? = some freed)
    (hkind : vault.kindAt freed.1 = some freed.2) :
    Effect vault supply call 0 ⟨vault.free freed.1, none, []⟩
  /-- It raises faults or clears them. -/
  | faults {raised : FaultFlag → Bool} (hmakes : call.makes? = none) (hfrees : call.frees? = none)
    (hraised : ∀ flag, raised flag = (call.sets? flag).getD (vault.raised flag)) :
    Effect vault supply call 0 ⟨{ vault with raised := raised }, none, []⟩
  /-- It takes the diagnostics. -/
  | drains {capacity : Nat} {status : Int32} {written : Bytes} (hstatus : 0 ≤ status)
    (hcall : call = .drain (some capacity)) :
    Effect vault supply call status ⟨{ vault with diagnostics := [] }, none, written⟩

/-- **What a call that fails leaves behind**, by its code and the state in which it ends. -/
inductive Residue (vault : Vault) (supply : Supply) (call : Call) : ErrorCode → CallState → Prop
  /-- Nothing at all, where the code does not ask for the text of the library. -/
  | silent {code : ErrorCode} (hcode : code.wantsDiagnostics = false) :
    Residue vault supply call code (.start vault)
  /-- A line of diagnostics, where the code asks for that text. -/
  | saying {code : ErrorCode} {line : String} (hcode : code.wantsDiagnostics = true)
    (hline : IsLine line) : Residue vault supply call code (.start (vault.push line))
  /-- A line of diagnostics and a ciphertext that carries no secret. -/
  | spilt {handle : Address} {w : OutputWindow} {key : KeyMaterial} {seed : Key32}
    (hcall : call = .encapsulate handle (some w)) (hseed : supply.seed = some seed)
    (hkey : vault.keyOfType .x25519 handle = .ok key)
    (hraised : vault.raised .int32Overflow3 = false)
    (hadmits : vault.admits (ciphertextLength + secretLength) (some w) = .ok true)
    (hsecret : kemSecret? (Curve.X25519.agree seed key.publicHalf) (Curve.X25519.publicKey seed)
      key.publicHalf = none) :
    Residue vault supply call .nativeError
      ⟨vault.push nonContributory, none, (Curve.X25519.publicKey seed).bytes⟩

/-- An ordinary call may only report. -/
theorem Effect.reported (hcall : call.Ordinary) (hstatus : 0 ≤ status) :
    Effect vault supply call status ⟨vault, none, written⟩ :=
  .reports hstatus hcall.makes (fun _ hfrees => absurd (hcall.frees ▸ hfrees) nofun) hcall.sets

/-- **A step that does what a call may do**: started in the library as the call finds it, it ends in
one of the effects of the call, or fails and leaves no more than a failure of the call does. -/
def Conforms (vault : Vault) (supply : Supply) (call : Call) (step : Step Int32) : Prop :=
  step.Ends (.start vault) (Effect vault supply call) (Residue vault supply call)

/-! ## Statuses and lines -/

/-- A number that a word can hold is no negative status. -/
theorem ofNat_nonneg {n : Nat} (h : n < wordLimit) : 0 ≤ Int32.ofNat n := by
  unfold wordLimit at h
  rw [Int32.le_iff_toInt_le, Int32.toInt_ofNat_of_lt (by omega)]
  exact Int.natCast_nonneg n

/-- **Every code is a negative status.** -/
theorem status_neg (code : ErrorCode) : code.status < 0 := by
  cases code <;> decide

/-- A digest of a length that fits into a word fits into one. -/
theorem length_digest_lt {context : DigestContext} (h : context.length < wordLimit) :
    context.digest.length < wordLimit := by
  rw [DigestContext.digest, Algorithm.length_digest]
  cases context.algorithm with
  | blake3 => exact h
  | _ => simp [Algorithm.fixedLength?, wordLimit]

/-- A secret has 32 bytes. -/
theorem length_of_kemSecret? {shared ciphertext recipient : Key32} {secret : Bytes}
    (h : kemSecret? shared ciphertext recipient = some secret) : secret.length = secretLength := by
  unfold kemSecret? at h
  split at h
  · cases h
  · cases h
    exact Derive.length_hkdf ..

theorem IsLine.ne_empty (h : IsLine line) : line ≠ "" := by
  rintro rfl
  exact absurd h.something (by decide)

theorem isLine_nonContributory : IsLine nonContributory := ⟨by decide, by decide⟩

/-- The name of an algorithm is short. -/
theorem length_of_ofName? {name : String} {algorithm : Algorithm}
    (h : Algorithm.ofName? name = some algorithm) : name.length ≤ 12 := by
  have hraised : (Text.raiseCase name).length = name.length := by
    rw [Text.raiseCase, String.length_ofList, List.length_map, String.length_toList]
  rw [← hraised]
  refine Nat.not_lt.mp fun hlong => ?_
  have hnot (names : List String) (hnames : ∀ short ∈ names, short.length ≤ 12) :
      Text.raiseCase name ∉ names := fun hmem => absurd hlong (Nat.not_lt.mpr (hnames _ hmem))
  have hlast : Text.raiseCase name ≠ "BLAKE3" := fun heq =>
    hnot ["BLAKE3"] (by decide) (by simp [heq])
  dsimp only [Algorithm.ofName?] at h
  rw [if_neg (hnot _ (by decide)), if_neg (hnot _ (by decide)), if_neg (hnot _ (by decide)),
    if_neg (hnot _ (by decide)), if_neg (hnot _ (by decide)), if_neg hlast] at h
  cases h

/-- A number from a word takes at most ten digits. -/
theorem length_toString_le (n : Int32) : (toString n.toInt.toNat).length ≤ 10 := by
  have hlt := n.toInt_lt
  exact (Nat.length_repr_le_iff (by decide)).mpr (by omega)

/-! ## Steps -/

/-- The secret is derived from the shared point, if that depends on the keys. -/
theorem Step.Ends.kemSecret {shared ciphertext recipient : Key32} {rest : Bytes → Step Int32}
    {state : CallState} {passes : Int32 → CallState → Prop} {fails : ErrorCode → CallState → Prop}
    (hfails : kemSecret? shared ciphertext recipient = none →
      fails .nativeError { state with vault := state.vault.push nonContributory })
    (h : ∀ secret, kemSecret? shared ciphertext recipient = some secret →
      (rest secret).Ends state passes fails) :
    (Vault.kemSecret shared ciphertext recipient >>= rest).Ends state passes fails := by
  unfold Vault.kemSecret
  cases hsecret : kemSecret? shared ciphertext recipient with
  | some secret => exact Step.Ends.bind_passed rfl (h secret hsecret)
  | none => exact Step.Ends.bind (Step.Ends.failSaying (hfails hsecret))

namespace Conforms

open Check

variable {rest : α → Step Int32} {next : Unit → Step Int32}

/-- A look at the library comes first, while it is as the call has found it. -/
theorem look {check : Vault → Check α} {codes : List ErrorCode}
    (hcodes : (check vault).FailsIn codes) (hsilent : ∀ code ∈ codes, code.wantsDiagnostics = false)
    (h : ∀ a, check vault = .ok a → Conforms vault supply call (rest a)) :
    Conforms vault supply call (Step.look check >>= rest) :=
  Step.Ends.look (fun code hcode => .silent (hsilent code (hcodes code hcode))) h

/-- A condition with a code that says nothing. -/
theorem demand {condition : Bool} (hcode : code.wantsDiagnostics = false)
    (h : condition = true → Conforms vault supply call (next ())) :
    Conforms vault supply call (Step.demand condition code >>= next) :=
  Step.Ends.demand (fun _ => .silent hcode) h

/-- A value that has to be there, with such a code. -/
theorem need {value : Option α} (hcode : code.wantsDiagnostics = false)
    (h : ∀ a, value = some a → Conforms vault supply call (rest a)) :
    Conforms vault supply call (Step.need value code >>= rest) :=
  Step.Ends.need (fun _ => .silent hcode) h

/-- A fault with such a code. -/
theorem unraised (hcode : code.wantsDiagnostics = false)
    (h : vault.raised flag = false → Conforms vault supply call (next ())) :
    Conforms vault supply call (Step.unraised flag code >>= next) :=
  Step.Ends.unraised (fun _ => .silent hcode) h

/-- A choice by a fault. -/
theorem isRaised {yes no : Step Int32} (hyes : Conforms vault supply call yes)
    (hno : Conforms vault supply call no) :
    Conforms vault supply call (Step.isRaised flag >>= fun raised => if raised then yes else no) :=
  Step.Ends.isRaised (fun _ => hyes) fun _ => hno

/-- A choice, of which each side may use what it knows. -/
theorem ite {condition : Prop} [Decidable condition] {yes no : Step Int32}
    (hyes : condition → Conforms vault supply call yes)
    (hno : ¬ condition → Conforms vault supply call no) :
    Conforms vault supply call (if condition then yes else no) := Step.Ends.ite hyes hno

/-- **A failure that says something** has a line for it, and with this line it ends. -/
theorem saying (hcode : code.wantsDiagnostics = true) (hline : IsLine line) :
    Conforms vault supply call (Step.failSaying code line) :=
  Step.Ends.failSaying (.saying hcode hline)

/-- Random bytes are drawn before anything is changed. -/
theorem draw {seed : Option Key32} {rest : Key32 → Step Int32}
    (h : ∀ half, seed = some half → Conforms vault supply call (rest half)) :
    Conforms vault supply call (Step.draw seed >>= rest) :=
  Step.Ends.draw (fun _ => .saying rfl ⟨by decide, by decide⟩) h

/-! ### Last steps -/

/-- A call that changes nothing reports a status. -/
theorem report (hcall : call.Ordinary) (hstatus : 0 ≤ status) :
    Conforms vault supply call (pure status) := Step.Ends.pure (.reported hcall hstatus)

/-- Bytes are written to the window, and their number is reported. -/
theorem deliver (hcall : call.Ordinary) (hlimit : written.length < wordLimit) :
    Conforms vault supply call (Step.deliver written) :=
  Step.Ends.store (Step.Ends.pure (.reported hcall (ofNat_nonneg hlimit)))

/-- **A context is put in its place**, where there was one of its kind. -/
theorem put (context : Context) (hcall : call.Ordinary)
    (hchanges : call.changes? = some (handle, context.domain))
    (hkind : vault.kindAt handle = some context.domain) (hstatus : 0 ≤ status) :
    Conforms vault supply call (Step.put handle context >>= fun _ => pure status) :=
  Step.Ends.put (Step.Ends.pure (.puts hstatus hcall hchanges hkind))

/-- The window is written first. -/
theorem deliver_put (context : Context) (hcall : call.Ordinary)
    (hchanges : call.changes? = some (handle, context.domain))
    (hkind : vault.kindAt handle = some context.domain) (hlimit : written.length < wordLimit) :
    Conforms vault supply call
      (Step.deliver written >>= fun length => Step.put handle context >>= fun _ => pure length) :=
  Step.Ends.bind (Step.Ends.store (Step.Ends.pure (Step.Ends.put
    (Step.Ends.pure (.puts (ofNat_nonneg hlimit) hcall hchanges hkind)))))

/-- **A context is made** and its address handed out. -/
theorem allocate (context : Context) (hmakes : call.makes? = some context.domain) :
    Conforms vault supply call (Step.allocate supply.address context) :=
  Step.Ends.put (Step.Ends.handOut (Step.Ends.pure (.makes hmakes)))

/-- A handle that has no context of the kind is passed over. -/
theorem dispose {own : Context → Bool} {domain : Domain}
    (hown : (vault.contexts.get? handle).any own = true ↔ vault.kindAt handle = some domain)
    (hfrees : call.frees? = some (handle, domain)) (hsets : ∀ flag, call.sets? flag = none) :
    Conforms vault supply call (Step.dispose own handle) := by
  refine Step.Ends.change (Step.Ends.pure ?_)
  show Effect vault supply call 0
    ⟨if (vault.contexts.get? handle).any own then vault.free handle else vault, none, []⟩
  by_cases hkind : vault.kindAt handle = some domain
  · rw [if_pos (hown.mpr hkind)]
    exact .frees hfrees hkind
  · rw [if_neg (mt hown.mp hkind)]
    refine .reports (Int32.le_refl 0) (Call.makes?_of_frees? hfrees) (fun freed h => ?_) hsets
    obtain rfl : (handle, domain) = freed := Option.some.inj (hfrees ▸ h)
    exact hkind

/-! ### Digests -/

/-- The length of a digest, or a line that says why it cannot be had. -/
theorem digestLengthFor {name : String} {algorithm : Algorithm} {rest : Nat → Step Int32}
    (hname : Algorithm.ofName? name = some algorithm) (asked : Int32)
    (h : ∀ length, Conforms vault supply call (rest length)) :
    Conforms vault supply call (Vault.digestLengthFor name algorithm asked >>= rest) := by
  refine Step.Ends.bind ?_
  unfold Vault.digestLengthFor
  split
  · refine Step.Ends.ite (fun _ => Step.Ends.failSaying (.saying rfl ?_)) fun _ =>
      Step.Ends.pure (h _)
    have hshort := length_of_ofName? hname
    have hrest : " is not an XOF, output length is fixed".length = 38 := by decide
    exact ⟨by rw [String.length_append]; omega, by rw [String.length_append]; omega⟩
  · exact Step.Ends.isRaised (fun _ => Step.Ends.failSaying (.saying rfl ⟨by decide, by decide⟩))
      fun _ => Step.Ends.pure (h _)

/-- A new digest. -/
theorem digestAllocate (hmakes : call.makes? = some .digest) (name : Option Bytes) (asked : Int32)
    (slot : Bool) :
    Conforms vault supply call (Vault.digestAllocate supply.address name asked slot) :=
  demand rfl fun _ => look (.readName vault name) (by decide) fun _ _ =>
    need rfl fun _ halgorithm => demand rfl fun _ => unraised rfl fun _ => unraised rfl fun _ =>
      digestLengthFor halgorithm asked fun _ => allocate (.digest _) hmakes

/-- Bytes are fed to a digest, which stays one. -/
theorem digestFeedBytes {context : DigestContext} (hcall : call.Ordinary)
    (hchanges : call.changes? = some (handle, .digest)) (hkind : vault.kindAt handle = some .digest)
    (data : Bytes) : Conforms vault supply call (Vault.digestFeedBytes handle context data) :=
  isRaised (saying rfl ⟨by decide, by decide⟩)
    (put (.digest _) hcall hchanges hkind (Int32.le_refl 0))

/-- The length of a digest is reported. -/
theorem digestLength (hcall : call.Ordinary) (context : DigestContext) :
    Conforms vault supply call (Step.look (·.reportedLength context)) := by
  refine Step.Ends.looked (fun code hcode => ?_) fun length hlength => .reported hcall ?_
  · obtain rfl := List.mem_singleton.mp (FailsIn.reportedLength vault context code hcode)
    exact .silent rfl
  obtain ⟨-, hlimit, rfl⟩ := reportedLength_eq_ok_iff.mp hlength
  exact ofNat_nonneg hlimit

/-- A digest is written to the window and begun again. The bytes are there before the context is
changed, and nothing fails in between. -/
theorem digestFinish (hcall : call.Ordinary) (hchanges : call.changes? = some (handle, .digest))
    (out : Option OutputWindow) : Conforms vault supply call (Vault.digestFinish handle out) := by
  refine look (.digestAt vault handle) (by decide) fun context hcontext =>
    look (.reportedLength vault context) (by decide) fun length hlength =>
      look (.admits vault _ out) (by decide) fun _ _ => ite (fun _ => isRaised
        (saying rfl ⟨by decide, by decide⟩) ?_) fun _ => ?_
  · obtain ⟨-, hlimit, -⟩ := reportedLength_eq_ok_iff.mp hlength
    exact deliver_put (.digest _) hcall hchanges (kindAt_of_digestAt hcontext)
      (length_digest_lt hlimit)
  · obtain ⟨-, hlimit, rfl⟩ := reportedLength_eq_ok_iff.mp hlength
    exact report hcall (ofNat_nonneg hlimit)

/-! ### Keys -/

/-- A half of a key is put into its container when it has been found right. -/
theorem keyDecode (hcall : call.Ordinary) (hchanges : call.changes? = some (handle, .keySpec))
    (make : KeyType → Key32 → KeyMaterial) {wrongLength : ErrorCode}
    (hlength : wrongLength.wantsDiagnostics = false) (type : Int32) (window : Option InputWindow) :
    Conforms vault supply call (Vault.keyDecode make wrongLength handle type window) :=
  look (.containerAt vault handle) (by decide) fun _ hmaterial => need rfl fun _ _ =>
    look (.input vault window) (by decide) fun _ _ => need hlength fun _ _ => unraised rfl fun _ =>
      put (.key _) hcall hchanges (kindAt_of_containerAt hmaterial) (Int32.le_refl 0)

/-- A half of a key is written to the window. -/
theorem keyEncode (hcall : call.Ordinary) (half : Key32) (out : Option OutputWindow) :
    Conforms vault supply call (Vault.keyEncode half out) := by
  have hlimit : half.bytes.length < wordLimit := by rw [half.length_eq]; decide
  exact unraised rfl fun _ => look (.admits vault _ out) (by decide) fun _ _ =>
    ite (fun _ => deliver hcall hlimit) fun _ => report hcall (ofNat_nonneg hlimit)

/-! ### Key encapsulation -/

/-- The ciphertext is stored before it is known whether there is a secret. -/
theorem encapsulate (vault : Vault) (supply : Supply) (handle : Address)
    (out : Option OutputWindow) :
    Conforms vault supply (.encapsulate handle out) (Vault.encapsulate supply.seed handle out) := by
  have hcall : (Call.encapsulate handle out).Ordinary := ⟨rfl, rfl, fun _ => rfl⟩
  refine look (.keyOfType vault _ handle) (by decide) fun key hkey => unraised rfl fun hraised =>
    look (.admits vault _ out) (by decide) fun admitted hadmits =>
      ite (fun hadmitted => draw fun seed hseed => ?_) fun _ => report hcall (by decide)
  subst hadmitted
  refine Step.Ends.store (Step.Ends.kemSecret (fun hsecret => ?_) fun secret hsecret =>
    Step.Ends.store (Step.Ends.pure (.reported hcall (by decide))))
  cases out with
  | none => cases hadmits
  | some w => exact .spilt rfl hseed hkey hraised hadmits hsecret

/-- A secret is opened, and written only when there is one. -/
theorem decapsulate (hcall : call.Ordinary) (window : Option InputWindow)
    (out : Option OutputWindow) :
    Conforms vault supply call (Vault.decapsulate handle window out) := by
  refine look (.keyOfType vault _ handle) (by decide) fun key _ => need rfl fun half _ =>
    look (.input vault window) (by decide) fun _ _ => need rfl fun ciphertext _ =>
      look (.admits vault _ out) (by decide) fun _ _ =>
        ite (fun _ => ?_) fun _ => report hcall (by decide)
  refine Step.Ends.kemSecret (fun _ => .saying rfl isLine_nonContributory) fun secret hsecret =>
    deliver hcall ?_
  rw [length_of_kemSecret? hsecret]
  decide

/-! ### Signatures -/

/-- A signature is written to the window, and the context begun again. -/
theorem signatureSign (hcall : call.Ordinary)
    (hchanges : call.changes? = some (handle, .signature)) (out : Option OutputWindow) :
    Conforms vault supply call (Vault.signatureSign handle out) := by
  refine look (.signatureAt vault handle) (by decide) fun context hcontext => need rfl fun seed _ =>
    unraised rfl fun _ => look (.admits vault _ out) (by decide) fun _ _ => ite (fun _ => isRaised
      (saying rfl ⟨by decide, by decide⟩) (unraised rfl fun _ => ?_)) fun _ =>
        report hcall (by decide)
  refine deliver_put (.signature _) hcall hchanges (kindAt_of_signatureAt hcontext) ?_
  rw [Curve.Ed25519.length_sign]
  decide

/-- A signature is checked, and the context begun again whatever the verdict. -/
theorem signatureVerify (hcall : call.Ordinary)
    (hchanges : call.changes? = some (handle, .signature)) (window : Option InputWindow) :
    Conforms vault supply call (Vault.signatureVerify handle window) := by
  refine look (.signatureAt vault handle) (by decide) fun context hcontext => need rfl fun key _ =>
    look (.read .signature vault.raised window) (by decide) fun signature _ => isRaised
      (saying rfl ⟨by decide, by decide⟩)
      (put (.signature _) hcall hchanges (kindAt_of_signatureAt hcontext) ?_)
  split <;> decide

/-! ### Derivation -/

/-- Bytes are derived into a window that is not too long for them. -/
theorem derivePassword (hcall : call.Ordinary) {fill : Nat → Bytes}
    (hfill : ∀ n, (fill n).length = n) {complaint : String} (hcomplaint : IsLine complaint)
    (span : Nat) : Conforms vault supply call (Vault.derivePassword fill complaint span) := by
  refine demand rfl fun hlimit => ite (fun _ => report hcall (by decide)) fun _ =>
    isRaised (saying rfl hcomplaint) (deliver hcall ?_)
  have hspan : span ≤ passwordOutputLimit := of_decide_eq_true hlimit
  rw [hfill]
  exact Nat.lt_of_le_of_lt hspan (by decide)

theorem derivePbkdf2 (hcall : call.Ordinary) (digest : Option Bytes)
    (password salt : Option InputWindow) (iterations : Int32) (out : Option OutputWindow) :
    Conforms vault supply call (Vault.derivePbkdf2 digest password salt iterations out) :=
  look (.input vault password) (by decide) fun _ _ =>
    look (.input vault salt) (by decide) fun _ _ => demand rfl fun _ => demand rfl fun _ =>
      look (.readName vault digest) (by decide) fun _ _ => need rfl fun _ _ =>
        look (.span vault out) (by decide) fun _ _ =>
          derivePassword hcall (Derive.length_pbkdf2 _ _ _ _) ⟨by decide, by decide⟩ _

theorem deriveHkdf (hcall : call.Ordinary) (digest : Option Bytes)
    (material salt info : Option InputWindow) (out : Option OutputWindow) :
    Conforms vault supply call (Vault.deriveHkdf digest material salt info out) := by
  refine look (.input vault material) (by decide) fun _ _ =>
    look (.input vault salt) (by decide) fun _ _ => look (.input vault info) (by decide) fun _ _ =>
      look (.readName vault digest) (by decide) fun _ _ => need rfl fun digest _ =>
        look (.span vault out) (by decide) fun span _ =>
          isRaised (saying rfl ⟨by decide, by decide⟩) (demand rfl fun hlimit => deliver hcall ?_)
  have hspan : span ≤ Derive.hkdfLimit digest := of_decide_eq_true hlimit
  rw [Derive.length_hkdf]
  refine Nat.lt_of_le_of_lt hspan ?_
  cases digest <;> decide

/-- Parameters of scrypt are found in range, or refused with a line that names them. -/
theorem scryptCost {rest : ScryptCost → Step Int32} (n r p : Int32)
    (h : ∀ cost, Conforms vault supply call (rest cost)) :
    Conforms vault supply call (Vault.scryptCost n r p >>= rest) := by
  refine Step.Ends.bind (Step.Ends.demand (fun _ => .silent rfl) fun _ =>
    Step.Ends.demand (fun _ => .silent rfl) fun _ =>
      Step.Ends.demand (fun _ => .silent rfl) fun _ =>
        Step.Ends.demand (fun _ => .silent rfl) fun _ => Step.Ends.ite
        (fun _ => Step.Ends.failSaying (.saying rfl ?_)) fun _ => Step.Ends.ite
          (fun _ => Step.Ends.failSaying (.saying rfl ⟨by decide, by decide⟩)) fun _ =>
            Step.Ends.pure (h _))
  have hr := length_toString_le r
  have hn := length_toString_le n
  have hconstants : "scrypt memory cost 128 * ".length = 25 ∧ " * ".length = 3
      ∧ " exceeds ".length = 9 ∧ (toString scryptMemoryLimit).length = 10
      ∧ " bytes".length = 6 := by decide
  constructor
  · simp only [String.length_append]
    omega
  · simp only [String.length_append]
    omega

theorem deriveScrypt (hcall : call.Ordinary) (password salt : Option InputWindow) (n r p : Int32)
    (out : Option OutputWindow) :
    Conforms vault supply call (Vault.deriveScrypt password salt n r p out) :=
  look (.input vault password) (by decide) fun _ _ =>
    look (.input vault salt) (by decide) fun _ _ => demand rfl fun _ =>
      scryptCost n r p fun _ => look (.span vault out) (by decide) fun _ _ =>
        derivePassword hcall (Derive.length_scrypt _ _ _ _ _) ⟨by decide, by decide⟩ _

/-! ### Faults and diagnostics -/

/-- A fault is set or cleared when its number is known. -/
theorem faultSet (vault : Vault) (supply : Supply) (number on : Int32) :
    Conforms vault supply (.faultSet number on) (Vault.faultSet number on) := by
  refine need rfl fun flag hflag =>
    Step.Ends.change (Step.Ends.pure (.faults rfl rfl fun other => ?_))
  rw [Call.sets?_faultSet, hflag]
  by_cases heq : other = flag
  · rw [if_pos heq, if_pos (congrArg some heq.symm)]
    rfl
  · rw [if_neg heq, if_neg fun h => heq (Option.some.inj h).symm]
    rfl

/-- The diagnostics are taken, or their length is asked for. -/
theorem drain (vault : Vault) (supply : Supply) (capacity : Option Nat) :
    Conforms vault supply (.drain capacity) (Vault.drain capacity) := by
  have hstatus (n : Nat) : 0 ≤ lengthStatus n :=
    ofNat_nonneg (Nat.lt_of_le_of_lt (Nat.min_le_right _ _) (by decide))
  cases capacity with
  | none => exact Step.Ends.passed rfl (.reports (hstatus _) rfl nofun fun _ => rfl)
  | some capacity =>
    exact Step.Ends.look nofun fun _ _ => Step.Ends.store (Step.Ends.change
      (Step.Ends.pure (.drains (hstatus _) rfl)))

end Conforms

/-! ## Entry points -/

/-- **Every entry point does what its call may do**, in whatever state it finds the library. -/
theorem conforms_entry (vault : Vault) (supply : Supply) (call : Call) :
    Conforms vault supply call (entry supply call) := by
  cases call with
  | version => exact .report ⟨rfl, rfl, fun _ => rfl⟩ (by decide)
  | digestAllocate name length slot => exact .digestAllocate rfl name length slot
  | digestFeedByte handle byte =>
    exact .look (.digestAt vault handle) (by decide) fun _ hcontext =>
      .digestFeedBytes ⟨rfl, rfl, fun _ => rfl⟩ rfl (kindAt_of_digestAt hcontext) _
  | digestFeed handle data =>
    exact .look (.digestAt vault handle) (by decide) fun _ hcontext =>
      .look (.input vault data) (by decide) fun _ _ =>
        .digestFeedBytes ⟨rfl, rfl, fun _ => rfl⟩ rfl (kindAt_of_digestAt hcontext) _
  | digestLength handle =>
    exact .look (.digestAt vault handle) (by decide) fun context _ =>
      .digestLength ⟨rfl, rfl, fun _ => rfl⟩ context
  | digestFinish handle out => exact .digestFinish ⟨rfl, rfl, fun _ => rfl⟩ rfl out
  | digestReset handle =>
    exact .look (.digestAt vault handle) (by decide) fun _ hcontext =>
      .put (.digest _) ⟨rfl, rfl, fun _ => rfl⟩ rfl (kindAt_of_digestAt hcontext) (Int32.le_refl 0)
  | digestDispose handle => exact .dispose any_isDigest_iff rfl fun _ => rfl
  | keyAllocate slot =>
    exact .demand rfl fun _ => .unraised rfl fun _ => .allocate (.key none) rfl
  | keyDispose handle => exact .dispose any_isKey_iff rfl fun _ => rfl
  | keyGenerate handle type =>
    exact .look (.containerAt vault handle) (by decide) fun _ hmaterial =>
      .need rfl fun _ _ => .draw fun _ _ => .put (.key _) ⟨rfl, rfl, fun _ => rfl⟩ rfl
        (kindAt_of_containerAt hmaterial) (Int32.le_refl 0)
  | keyDecodePublic handle type data | keyDecodePrivate handle type data =>
    exact .keyDecode ⟨rfl, rfl, fun _ => rfl⟩ rfl _ rfl type data
  | keyEncodePublic handle out =>
    exact .look (.keyAt vault handle) (by decide) fun _ _ =>
      .keyEncode ⟨rfl, rfl, fun _ => rfl⟩ _ out
  | keyEncodePrivate handle out =>
    exact .look (.keyAt vault handle) (by decide) fun _ _ => .need rfl fun _ _ =>
      .keyEncode ⟨rfl, rfl, fun _ => rfl⟩ _ out
  | keyType handle =>
    exact .look (.keyAt vault handle) (by decide) fun key _ => .report ⟨rfl, rfl, fun _ => rfl⟩
      (by cases key.type <;> decide)
  | encapsulate handle out => exact .encapsulate vault supply handle out
  | decapsulate handle ciphertext out =>
    exact .decapsulate ⟨rfl, rfl, fun _ => rfl⟩ ciphertext out
  | secretLength handle =>
    exact .look (.keyOfType vault _ handle) (by decide) fun _ _ =>
      .report ⟨rfl, rfl, fun _ => rfl⟩ (by decide)
  | signatureAllocate slot =>
    exact .demand rfl fun _ => .unraised rfl fun _ => .allocate (.signature _) rfl
  | signatureDispose handle => exact .dispose any_isSignature_iff rfl fun _ => rfl
  | signatureInitSign handle key =>
    exact .look (.signatureAt vault handle) (by decide) fun _ hcontext =>
      .look (.keyOfType vault _ key) (by decide) fun _ _ => .need rfl fun _ _ =>
        .put (.signature _) ⟨rfl, rfl, fun _ => rfl⟩ rfl (kindAt_of_signatureAt hcontext)
          (Int32.le_refl 0)
  | signatureInitVerify handle key =>
    exact .look (.signatureAt vault handle) (by decide) fun _ hcontext =>
      .look (.keyOfType vault _ key) (by decide) fun _ _ =>
        .put (.signature _) ⟨rfl, rfl, fun _ => rfl⟩ rfl (kindAt_of_signatureAt hcontext)
          (Int32.le_refl 0)
  | signatureFeed handle data =>
    exact .look (.signatureAt vault handle) (by decide) fun _ hcontext => .demand rfl fun _ =>
      .look (.input vault data) (by decide) fun _ _ =>
        .put (.signature _) ⟨rfl, rfl, fun _ => rfl⟩ rfl (kindAt_of_signatureAt hcontext)
          (Int32.le_refl 0)
  | signatureSign handle out => exact .signatureSign ⟨rfl, rfl, fun _ => rfl⟩ rfl out
  | signatureVerify handle signature =>
    exact .signatureVerify ⟨rfl, rfl, fun _ => rfl⟩ rfl signature
  | pbkdf2 digest password salt iterations out =>
    exact .derivePbkdf2 ⟨rfl, rfl, fun _ => rfl⟩ digest password salt iterations out
  | hkdf digest material salt info out =>
    exact .deriveHkdf ⟨rfl, rfl, fun _ => rfl⟩ digest material salt info out
  | scrypt password salt n r p out =>
    exact .deriveScrypt ⟨rfl, rfl, fun _ => rfl⟩ password salt n r p out
  | faultsAvailable => exact .report ⟨rfl, rfl, fun _ => rfl⟩ (by decide)
  | faultSet flag on => exact .faultSet vault supply flag on
  | faultsReset => exact Step.Ends.change (Step.Ends.pure (.faults rfl rfl fun _ => rfl))
  | drain capacity => exact .drain vault supply capacity

end Vault

end Custody
