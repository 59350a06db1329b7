import Custody.Proofs.Vault.History

/-!
# The key in a container

A container holds the key that the latest call that succeeded put into it, as a whole: the type,
the public half and the private half, if there is one, all come from that call, and nothing of an
older key is left. So the public half is always the one that belongs to the private half, and an
imported public key never meets the private half of the key that was there before.

What a run put into a container is read off its transcript (`Vault.lastPut?`), and every container
is in keeping with it (`Vault.Kept`). The key can be exported as it is (`Vault.Exports`), so a half
that was imported comes out again (`Vault.keys_as_they_were_put`).

The transcript has everything that a call took from outside beside its reply, since a key that was
generated depends on the seed. The private half of a key is 32 bytes that are never computed from
anything; the public half is a function of it and of the type. That an encoded public half alone
gives a key without a private one is the case that has to be kept apart
(`KeyPart.consistent_of_decoded?`).
-/

namespace Custody

open Held Vault

/-! ## Halves -/

namespace KeyPart

/-- The key that half of a key makes. -/
def material : KeyPart → KeyType → Key32 → KeyMaterial
  | publicHalf => .ofPublic
  | privateHalf => .ofPrivate

/-- The code for half of a key that has the wrong length. -/
def lengthCode : KeyPart → ErrorCode
  | publicHalf => .encodedPublicKeyLen
  | privateHalf => .encodedPrivateKeyLen

/-- The key that the bytes in a window make, if they are half of a key of the type with a number. -/
def decoded? (part : KeyPart) (type : Int32) (window : Option InputWindow) :
    Option KeyMaterial := do
  return part.material (← KeyType.ofNumber? type) (← Key32.ofBytes? (← window).addressed)

end KeyPart

namespace Vault.KeyMaterial

/-- Half of a key, if it is known. -/
def half? (key : KeyMaterial) : KeyPart → Option Key32
  | .publicHalf => some key.publicHalf
  | .privateHalf => key.privateHalf

/-- **The halves belong together**: where the private half is known, the public half is the one that
is derived from it. -/
def Consistent (key : KeyMaterial) : Prop :=
  ∀ half, key.privateHalf = some half → key.publicHalf = key.type.publicKey half

theorem consistent_ofPublic (type : KeyType) (half : Key32) : (ofPublic type half).Consistent :=
  nofun

theorem consistent_ofPrivate (type : KeyType) (half : Key32) :
    (ofPrivate type half).Consistent := by
  rintro _ ⟨⟩
  rfl

theorem consistent_material (part : KeyPart) (type : KeyType) (half : Key32) :
    (part.material type half).Consistent := by
  cases part with
  | publicHalf => exact consistent_ofPublic type half
  | privateHalf => exact consistent_ofPrivate type half

end Vault.KeyMaterial

/-! ## What a call puts into a container -/

/-- **What a call that succeeds puts into the container at an address**: a key, or nothing where the
container is handed out. -/
def Call.puts? (handle : Address) (supply : Supply) (reply : Reply) :
    Call → Option (Option KeyMaterial)
  | keyAllocate _ => if reply.handle = some handle then some none else none
  | keyGenerate other type =>
    if other = handle then
      some ((KeyType.ofNumber? type).bind fun kind => supply.seed.map (.ofPrivate kind))
    else none
  | keyDecodePublic other type window =>
    if other = handle then some (KeyPart.publicHalf.decoded? type window) else none
  | keyDecodePrivate other type window =>
    if other = handle then some (KeyPart.privateHalf.decoded? type window) else none
  | _ => none

theorem KeyPart.consistent_of_decoded? {part : KeyPart} {type : Int32}
    {window : Option InputWindow} {key : KeyMaterial} (h : part.decoded? type window = some key) :
    key.Consistent := by
  simp only [decoded?, Option.bind_eq_bind, Option.bind_eq_some_iff, Option.pure_def,
    Option.some.injEq] at h
  obtain ⟨kind, -, w, -, half, -, rfl⟩ := h
  exact KeyMaterial.consistent_material part kind half

/-- The halves of a key that is put into a container belong together. -/
theorem Call.consistent_of_puts? {handle : Address} {supply : Supply} {reply : Reply} {call : Call}
    {key : KeyMaterial} (h : call.puts? handle supply reply = some (some key)) :
    key.Consistent := by
  cases call with
  | keyAllocate slot => simp [puts?] at h
  | keyGenerate other type =>
    have hkey := Option.some.inj (Option.ite_none_right_eq_some.mp h).2
    obtain ⟨kind, -, hkey⟩ := Option.bind_eq_some_iff.mp hkey
    obtain ⟨seed, -, rfl⟩ := Option.map_eq_some_iff.mp hkey
    exact KeyMaterial.consistent_ofPrivate kind seed
  | keyDecodePublic other type window =>
    exact KeyPart.consistent_of_decoded? (Option.some.inj (Option.ite_none_right_eq_some.mp h).2)
  | keyDecodePrivate other type window =>
    exact KeyPart.consistent_of_decoded? (Option.some.inj (Option.ite_none_right_eq_some.mp h).2)
  | _ => cases h

/-- A call that does not change the container at an address, and does not hand it out, puts nothing
into it. -/
theorem Call.puts?_eq_none {handle : Address} {supply : Supply} {reply : Reply} {call : Call}
    (hchanges : call.changes? ≠ some (handle, .keySpec)) (hhandle : reply.handle ≠ some handle) :
    call.puts? handle supply reply = none := by
  have hne : ∀ other, some (other, Domain.keySpec) ≠ some (handle, .keySpec) → other ≠ handle := by
    rintro other hother rfl
    exact hother rfl
  cases call with
  | keyAllocate slot => exact if_neg hhandle
  | keyGenerate other type => exact if_neg (hne other hchanges)
  | keyDecodePublic other type window => exact if_neg (hne other hchanges)
  | keyDecodePrivate other type window => exact if_neg (hne other hchanges)
  | _ => rfl

namespace Vault

open Check Step

variable {vault : Vault} {handle : Address} {supply : Supply} {call : Call} {grant : Grant}
  {material : Option KeyMaterial} {key : KeyMaterial} {w : OutputWindow}

/-! ## When the calls for keys are granted -/

theorem keyAllocate_eq_ok {address : Address} {slot : Bool}
    (h : (keyAllocate address slot).on vault = .ok grant) :
    vault.allocated address (.key none) = grant := by
  simp only [keyAllocate, on_demand_eq_ok_iff, on_unraised_eq_ok_iff, on_allocate,
    Except.ok.injEq] at h
  exact h.2.2

theorem keyGenerate_eq_ok_iff {seed : Option Key32} {type : Int32} :
    (keyGenerate seed handle type).on vault = .ok grant ↔
      (∃ material, vault.contexts.get? handle = some (.key material))
        ∧ ∃ kind, KeyType.ofNumber? type = some kind ∧ ∃ half, seed = some half
        ∧ (vault.set handle (.key (some (.ofPrivate kind half)))).report 0 = grant := by
  simp only [keyGenerate, on_look_eq_ok_iff, on_need_eq_ok_iff, on_draw_eq_ok_iff, on_put, on_pure,
    containerAt_eq_ok_iff, exists_and_right, Except.ok.injEq]

theorem verdict_decodeCall (part : KeyPart) {type : Int32} {window : InputWindow} :
    vault.verdict supply (Request.decodeCall handle type window part)
      = (keyDecode part.material part.lengthCode handle type (some window)).on vault := by
  cases part <;> rfl

theorem verdict_encodeCall (h : vault.contexts.get? handle = some (.key (some key)))
    (part : KeyPart) (out : Option OutputWindow) :
    vault.verdict supply (Request.encodeCall handle out part)
      = (Step.need (key.half? part) .keySpecHasNullKey >>= fun half => keyEncode half out).on
        vault := by
  have hkey : vault.keyAt handle = .ok key := keyAt_eq_ok_iff.mpr h
  cases part with
  | publicHalf => exact on_look_of_ok hkey
  | privateHalf => exact on_look_of_ok hkey

/-- Half of a key is decoded into a container when its type is known and the window holds 32 bytes
that can be read, and nothing goes wrong afterwards. -/
theorem keyDecode_eq_ok_iff {make : KeyType → Key32 → KeyMaterial} {code : ErrorCode} {type : Int32}
    {window : Option InputWindow} : (keyDecode make code handle type window).on vault = .ok grant ↔
      (∃ material, vault.contexts.get? handle = some (.key material))
        ∧ ∃ kind, KeyType.ofNumber? type = some kind
        ∧ ∃ data, vault.input window = .ok data
        ∧ ∃ half, Key32.ofBytes? data = some half ∧ vault.raised .pointerChange = false
        ∧ (vault.set handle (.key (some (make kind half)))).report 0 = grant := by
  simp only [keyDecode, on_look_eq_ok_iff, on_need_eq_ok_iff, on_unraised_eq_ok_iff, on_put,
    on_pure, containerAt_eq_ok_iff, exists_and_right, Except.ok.injEq]

/-- What is decoded is what the call puts into the container. -/
theorem exists_decoded?_of_keyDecode (part : KeyPart) {type : Int32} {window : Option InputWindow}
    (h : (keyDecode part.material part.lengthCode handle type window).on vault = .ok grant) :
    ∃ key, part.decoded? type window = some key
      ∧ grant.vault.contexts.get? handle = some (.key (some key)) := by
  obtain ⟨-, kind, hkind, data, hdata, half, hhalf, -, rfl⟩ := keyDecode_eq_ok_iff.mp h
  obtain ⟨w, rfl, -, -, rfl⟩ := input_eq_ok_iff.mp hdata
  refine ⟨part.material kind half, ?_, get?_set_self⟩
  simp [KeyPart.decoded?, hkind, hhalf]

/-! ## One call -/

/-- A call for the container at an address, other than to free it, that is granted leaves in it the
key that it puts there. -/
theorem get?_grant_key (hverdict : vault.verdict supply call = .ok grant)
    (hchanges : call.changes? = some (handle, .keySpec)) (hdispose : call ≠ .keyDispose handle)
    (reply : Reply) : ∃ key, call.puts? handle supply reply = some (some key)
      ∧ grant.vault.contexts.get? handle = some (.key (some key)) := by
  cases call with
  | keyGenerate other type =>
    obtain rfl : other = handle := congrArg Prod.fst (Option.some.inj hchanges)
    obtain ⟨-, kind, hkind, half, hhalf, rfl⟩ := keyGenerate_eq_ok_iff.mp hverdict
    refine ⟨.ofPrivate kind half, ?_, get?_set_self⟩
    simp [Call.puts?, hkind, hhalf]
  | keyDecodePublic other type window =>
    obtain rfl : other = handle := congrArg Prod.fst (Option.some.inj hchanges)
    obtain ⟨key, hkey, hafter⟩ := exists_decoded?_of_keyDecode .publicHalf hverdict
    exact ⟨key, (if_pos rfl).trans (congrArg some hkey), hafter⟩
  | keyDecodePrivate other type window =>
    obtain rfl : other = handle := congrArg Prod.fst (Option.some.inj hchanges)
    obtain ⟨key, hkey, hafter⟩ := exists_decoded?_of_keyDecode .privateHalf hverdict
    exact ⟨key, (if_pos rfl).trans (congrArg some hkey), hafter⟩
  | keyDispose other =>
    obtain rfl : other = handle := congrArg Prod.fst (Option.some.inj hchanges)
    exact absurd rfl hdispose
  | _ => cases hchanges

/-- A call that frees a container leaves none there. -/
theorem get?_keyDispose : (vault.answer supply (.keyDispose handle)).2.contexts.get? handle
    ≠ some (.key material) :=
  fun h => kindAt_answer_disposal supply .keySpec handle vault
    (congrArg (Option.map Context.domain) h)

/-- A container that has just been handed out has no key. -/
theorem puts?_of_handle (hhandle : (vault.answer supply call).1.handle = some handle)
    (hcontext : (vault.answer supply call).2.contexts.get? handle = some (.key material)) :
    call.puts? handle supply (vault.answer supply call).1 = some material := by
  obtain ⟨rfl, made, hmakes, hverdict⟩ := made_of_handle hhandle
  rw [answer_of_ok hverdict] at hcontext ⊢
  obtain rfl : made = .key material := Option.some.inj ((get?_allocated ..).symm.trans hcontext)
  cases call with
  | keyAllocate slot =>
    have hempty : some (Context.key none) = some (.key material) := by
      rw [← get?_allocated vault supply.address, keyAllocate_eq_ok hverdict, get?_allocated]
    cases hempty
    exact if_pos rfl
  | _ => cases hmakes

/-! ## A run -/

/-- **The transcript of a run of calls**: each call with what it took from outside and what came
back. -/
def transcript (calls : List (Supply × Call)) (vault : Vault) : List ((Supply × Call) × Reply) :=
  calls.zip (vault.run calls).1

/-- What the latest call that succeeded put into the container at an address. -/
def lastPut? (handle : Address) (transcript : List ((Supply × Call) × Reply)) :
    Option (Option KeyMaterial) :=
  transcript.reverse.findSome? fun ((supply, call), reply) =>
    if 0 ≤ reply.status then call.puts? handle supply reply else none

variable {entries : List ((Supply × Call) × Reply)}

theorem lastPut?_concat (handle : Address) (entries : List ((Supply × Call) × Reply))
    (supply : Supply) (call : Call) (reply : Reply) :
    lastPut? handle (entries ++ [((supply, call), reply)])
      = (if 0 ≤ reply.status then call.puts? handle supply reply else none).or
        (lastPut? handle entries) := by
  simp only [lastPut?, List.reverse_concat, List.findSome?_cons]
  cases (if 0 ≤ reply.status then call.puts? handle supply reply else none) with
  | none => rfl
  | some material => rfl

/-- The halves of the key that was put into a container belong together. -/
theorem consistent_of_lastPut? (h : lastPut? handle entries = some (some key)) :
    key.Consistent := by
  obtain ⟨⟨⟨supply, call⟩, reply⟩, -, hput⟩ := List.exists_of_findSome?_eq_some h
  exact Call.consistent_of_puts? (Option.ite_none_right_eq_some.mp hput).2

/-- **A container is in keeping with the transcript**: it holds what was last put into it. -/
def Kept (handle : Address) (entries : List ((Supply × Call) × Reply)) (vault : Vault) : Prop :=
  ∀ material, vault.contexts.get? handle = some (.key material) →
    lastPut? handle entries = some material

namespace Kept

/-- **A call leaves a container in keeping** with the transcript. -/
theorem answer (h : Kept handle entries vault) (supply : Supply) (call : Call) :
    Kept handle (entries ++ [((supply, call), (vault.answer supply call).1)])
      (vault.answer supply call).2 := by
  intro material hcontext
  rw [lastPut?_concat]
  cases hverdict : vault.verdict supply call with
  | error refusal =>
    rw [contexts_of_error hverdict] at hcontext
    rw [status_of_error hverdict, if_neg (Int32.not_le.mpr (status_neg refusal.code))]
    exact h material hcontext
  | ok grant =>
    rw [if_pos (status_nonneg_of_ok hverdict)]
    by_cases hchanges : call.changes? = some (handle, .keySpec)
    · have hdispose : call ≠ .keyDispose handle := by
        rintro rfl
        exact get?_keyDispose hcontext
      obtain ⟨key, hput, hafter⟩ := get?_grant_key hverdict hchanges hdispose
        (vault.answer supply call).1
      rw [answer_of_ok hverdict] at hcontext
      obtain rfl := Context.key.inj (Option.some.inj (hafter.symm.trans hcontext))
      rw [hput]
      rfl
    · by_cases hhandle : (vault.answer supply call).1.handle = some handle
      · rw [puts?_of_handle hhandle hcontext]
        rfl
      · rw [Call.puts?_eq_none hchanges hhandle]
        exact h material (get?_of_get?_answer hcontext hhandle hchanges)

/-- **A run leaves a container in keeping** with its transcript. -/
theorem after (h : Kept handle entries vault) (calls : List (Supply × Call)) :
    Kept handle (entries ++ vault.transcript calls) (vault.after calls) := by
  induction calls generalizing vault entries with
  | nil =>
    rw [transcript, List.zip_nil_left, List.append_nil]
    exact h
  | cons first calls ih =>
    have hstep : vault.transcript (first :: calls)
        = (first, (vault.answer first.1 first.2).1)
          :: (vault.answer first.1 first.2).2.transcript calls := rfl
    rw [hstep, List.append_cons]
    exact ih (h.answer first.1 first.2)

/-- In the beginning there are no containers. -/
theorem start (handle : Address) : Kept handle [] empty := nofun

end Kept

/-- **The halves of every key belong together**, in every run from the beginning. -/
theorem consistent_after {calls : List (Supply × Call)}
    (h : (empty.after calls).contexts.get? handle = some (.key (some key))) : key.Consistent :=
  consistent_of_lastPut? ((Kept.start handle).after calls (some key) h)

/-! ## Exports -/

/-- **A window that half of a key can be written to.** -/
structure Writable (vault : Vault) (w : OutputWindow) : Prop where
  /-- The window lies in its buffer. -/
  inRange : w.InRange
  /-- It has room for half of a key. -/
  wide : 32 ≤ w.width
  /-- It can be accessed. -/
  accessible : vault.raised .failedAccess2 = false
  /-- The length can be reported. -/
  countable : vault.raised .int32Overflow2 = false

/-- **A container exports a key**: its type, the halves that are known, and no private half where
none is known. -/
structure Exports (vault : Vault) (handle : Address) (key : KeyMaterial) : Prop where
  /-- The type is reported. -/
  type : ∀ supply, (vault.answer supply (.keyType handle)).1 = .bare key.type.number
  /-- A half that is known is written to every window that it can be written to. -/
  writes : ∀ part half, key.half? part = some half → ∀ supply w, vault.Writable w →
    Delivered w half.bytes (vault.answer supply (Request.encodeCall handle (some w) part)).1
  /-- Nothing is written to any other. -/
  writable : ∀ part supply w,
    0 ≤ (vault.answer supply (Request.encodeCall handle (some w) part)).1.status → vault.Writable w
  /-- A private half that is not known is missing. -/
  missing : key.privateHalf = none → ∀ supply out,
    (vault.answer supply (.keyEncodePrivate handle out)).1
      = .bare ErrorCode.keySpecHasNullKey.status

theorem keyEncode_eq_ok_iff {half : Key32} :
    (keyEncode half (some w)).on vault = .ok grant
      ↔ vault.Writable w ∧ vault.deliver half.bytes = grant := by
  simp only [keyEncode, on_unraised_eq_ok_iff, on_look_eq_ok_iff, half.length_eq]
  constructor
  · rintro ⟨hcount, admitted, hadmits, hgrant⟩
    obtain ⟨hrange, haccess, hwide, rfl⟩ := admits_some_iff.mp hadmits
    exact ⟨⟨hrange, hwide, haccess, hcount⟩, Except.ok.inj hgrant⟩
  · rintro ⟨⟨hrange, hwide, haccess, hcount⟩, rfl⟩
    exact ⟨hcount, true, admits_some_iff.mpr ⟨hrange, haccess, hwide, rfl⟩, rfl⟩

/-- **A container exports the key that it holds.** -/
theorem exports_of_get? (h : vault.contexts.get? handle = some (.key (some key))) :
    Exports vault handle key where
  type supply := by
    have hgrant : vault.verdict supply (.keyType handle) = .ok (vault.report key.type.number) :=
      on_look_of_ok (keyAt_eq_ok_iff.mpr h)
    rw [answer_of_ok hgrant]
    rfl
  writes part half hhalf supply w hw := by
    have hgrant : vault.verdict supply (Request.encodeCall handle (some w) part)
        = .ok (vault.deliver half.bytes) := by
      rw [verdict_encodeCall h, hhalf]
      exact keyEncode_eq_ok_iff.mpr ⟨hw, rfl⟩
    rw [answer_of_ok hgrant]
    refine delivered_of_admits vault (admits_some_iff.mpr ⟨hw.inRange, hw.accessible, ?_, rfl⟩)
      ?_ none
    · rw [half.length_eq]
      exact hw.wide
    · rw [half.length_eq]
      decide
  writable part supply w hstatus := by
    obtain ⟨grant, hgrant⟩ := exists_grant_of_nonneg hstatus
    rw [verdict_encodeCall h] at hgrant
    obtain ⟨half, -, hgrant⟩ := on_need_eq_ok_iff.mp hgrant
    exact (keyEncode_eq_ok_iff.mp hgrant).1
  missing hnone supply out := by
    have hrefused : vault.verdict supply (.keyEncodePrivate handle out)
        = .error (vault.refused .keySpecHasNullKey) :=
      (verdict_encodeCall h .privateHalf out).trans (on_need_of_none hnone)
    rw [answer_of_refused hrefused]

/-! ## Imports -/

/-- **What comes of half of a key that is imported**, when the bytes can be read. -/
structure Imports (vault : Vault) (handle : Address) (part : KeyPart) (type : KeyType)
    (data : Bytes) (answered : Reply × Vault) : Prop where
  /-- Thirty-two bytes are taken, and the key that they make is exported from then on. -/
  taken : ∀ half : Key32, half.bytes = data → vault.raised .pointerChange = false →
    answered.1 = .bare 0 ∧ Exports answered.2 handle (part.material type half)
  /-- When something goes wrong between reading them and storing them, the old key is kept. -/
  moved : data.length = 32 → vault.raised .pointerChange = true →
    answered = (.bare ErrorCode.unexpectedPointerChange.status, vault)
  /-- Another number of bytes is refused by the code for the half, and the old key is kept. -/
  refused : data.length ≠ 32 → answered = (.bare part.lengthCode.status, vault)

/-- **An import into a container.** -/
theorem imports_of_get? (h : vault.contexts.get? handle = some (.key material)) {w : InputWindow}
    (hrange : w.InRange) (haccess : vault.raised .failedAccess1 = false) (part : KeyPart)
    (type : KeyType) (supply : Supply) : Imports vault handle part type w.addressed
      (vault.answer supply (Request.decodeCall handle type.number w part)) := by
  -- The first steps pass, and what is left depends on the bytes alone.
  have hverdict : vault.verdict supply (Request.decodeCall handle type.number w part)
      = (Step.need (Key32.ofBytes? w.addressed) part.lengthCode >>= fun half =>
        unraised .pointerChange .unexpectedPointerChange >>= fun _ =>
        put handle (.key (some (part.material type half))) >>= fun _ => pure 0).on vault := by
    rw [verdict_decodeCall, keyDecode, on_look_of_ok (containerAt_eq_ok_iff.mpr h),
      on_need_of_some (KeyType.ofNumber?_number type),
      on_look_of_ok (input_eq_ok_iff.mpr ⟨w, rfl, hrange, haccess, rfl⟩)]
  refine ⟨fun half hhalf hmoves => ?_, fun hlength hmoves => ?_, fun hlength => ?_⟩
  · rw [on_need_of_some (hhalf ▸ Key32.ofBytes?_bytes half), on_unraised_of_false hmoves]
      at hverdict
    rw [answer_of_ok hverdict]
    exact ⟨rfl, exports_of_get? get?_set_self⟩
  · rw [on_need_of_some (dif_pos hlength), on_unraised_of_true hmoves] at hverdict
    exact answer_of_refused hverdict
  · rw [on_need_of_none (dif_neg hlength)] at hverdict
    exact answer_of_refused hverdict

/-! ## Keys as they were put -/

/-- **A container holds the key that was last put into it, and exports it.** In every run from the
beginning, and for every container in it:

* what it holds, type and halves alike, is what the latest call that succeeded in generating or
  decoding a key into it put there, or nothing if there was none since it was handed out;
* the halves of its key belong together, and the key is exported as it is;
* after a public key was decoded into it no private half is left, and none is exported;
* half of a key that is decoded into it and can be read is taken if it has 32 bytes, and the key
  that it makes is exported afterwards; else the code for that half is reported, and the key that
  was there is kept. -/
theorem keys_as_they_were_put (calls : List (Supply × Call)) (handle : Address) :
    let vault := empty.after calls
    let entries := empty.transcript calls
    (∀ material, vault.contexts.get? handle = some (.key material) →
      lastPut? handle entries = some material)
    ∧ (∀ key, vault.contexts.get? handle = some (.key (some key)) →
      key.Consistent ∧ Exports vault handle key)
    ∧ (∀ supply type window,
      0 ≤ (vault.answer supply (.keyDecodePublic handle type window)).1.status →
      ∃ key, (vault.answer supply (.keyDecodePublic handle type window)).2.contexts.get? handle
          = some (.key (some key))
        ∧ key.privateHalf = none
        ∧ Exports (vault.answer supply (.keyDecodePublic handle type window)).2 handle key)
    ∧ ∀ material, vault.contexts.get? handle = some (.key material) →
      ∀ part type (w : InputWindow) supply, w.InRange → vault.raised .failedAccess1 = false →
      Imports vault handle part type w.addressed
        (vault.answer supply (Request.decodeCall handle type.number w part)) := by
  intro vault entries
  have hkept : Kept handle entries vault := (Kept.start handle).after calls
  refine ⟨hkept, fun key hkey => ⟨consistent_after hkey, exports_of_get? hkey⟩, ?_, ?_⟩
  · intro supply type window hstatus
    obtain ⟨grant, hgrant⟩ := exists_grant_of_nonneg hstatus
    rw [answer_of_ok hgrant]
    obtain ⟨-, kind, -, data, -, half, -, -, rfl⟩ := keyDecode_eq_ok_iff.mp hgrant
    exact ⟨_, get?_set_self, rfl, exports_of_get? get?_set_self⟩
  · intro material hcontext part type w supply hrange haccess
    exact imports_of_get? hcontext hrange haccess part type supply

/-- A run in which a key for signatures is generated in a container, a public key for agreement is
put in its place, and then three bytes are refused. -/
def exampleKeys : List (Supply × Call) :=
  [(supplyOf 1, .keyAllocate true), (supplyOf 1, .keyGenerate 1 1),
    (supplyOf 1, .keyDecodePublic 1 2 (some ⟨(Key32.ofNat 5).bytes, 0, 32⟩)),
    (supplyOf 1, .keyDecodePrivate 1 1 (some ⟨[1, 2, 3], 0, 3⟩))]

/-- Only the public key is left, and it is exported. A private key that is then decoded in its place
is exported, and so is the public key that belongs to it. -/
theorem keys_as_they_were_put_exampleKeys :
    lastPut? 1 (empty.transcript exampleKeys) = some (some (.ofPublic .x25519 (.ofNat 5)))
    ∧ Exports (empty.after exampleKeys) 1 (.ofPublic .x25519 (.ofNat 5))
    ∧ Exports ((empty.after exampleKeys).answer (supplyOf 1)
        (.keyDecodePrivate 1 1 (some ⟨(Key32.ofNat 7).bytes, 0, 32⟩))).2 1
      (.ofPrivate .ed25519 (.ofNat 7)) := by
  obtain ⟨hlast, hexports, -, himports⟩ := keys_as_they_were_put exampleKeys 1
  have hcontext : (empty.after exampleKeys).contexts.get? 1
      = some (.key (some (.ofPublic .x25519 (.ofNat 5)))) := by decide +kernel
  have himport := himports _ hcontext .privateHalf .ed25519 ⟨(Key32.ofNat 7).bytes, 0, 32⟩
    (supplyOf 1) (by decide +kernel) (by decide +kernel)
  exact ⟨hlast _ hcontext, (hexports _ hcontext).2,
    (himport.taken (.ofNat 7) (by decide +kernel) (by decide +kernel)).2⟩

end Vault

end Custody
