import Custody.Proofs.Vault.Keys

/-!
# Sealing and opening a secret

Encapsulation agrees on a point with the public half of a key and a seed that is used once;
decapsulation agrees on one with the private half and the ciphertext, which is the public key of the
seed. That both come to the same point is what key agreement is for. The rest is up to the vault:
the public half in a container is the one that belongs to the private half, both sides bind the
secret to the same keys in the same order, and the ciphertext is what comes first in the window.

So wherever a secret was sealed, a container that holds the private half opens it
(`Vault.opens_of_seals`), in any window that has room for it.

Nothing is assumed of the curve but that the two secrets at hand agree (`Agree`), which is what the
symmetry of the agreement says at this one point. Where the agreement gives an all-zero value there
is no secret on either side, and nothing was sealed.
-/

namespace Custody.Vault

open Curve Check Step

variable {vault : Vault} {handle : Address} {supply : Supply} {grant : Grant}
  {key peer : KeyMaterial} {seed half : Key32} {secret : Bytes} {w : OutputWindow}

/-! ## Keys that belong together -/

/-- **A private half opens what is sealed to a key**: it is in a key for agreement with the same
public half. -/
structure KeyMaterial.Opens (key : KeyMaterial) (half : Key32) (peer : KeyMaterial) : Prop where
  /-- The key is for agreement. -/
  type : key.type = .x25519
  /-- The private half is in it. -/
  privateHalf : key.privateHalf = some half
  /-- So is the key that is sealed to. -/
  peerType : peer.type = .x25519
  /-- The public halves are the same. -/
  publicHalf : peer.publicHalf = key.publicHalf

/-- **Two secrets agree**: each of them makes the same of the public key of the other. -/
def Agree (seed half : Key32) : Prop :=
  X25519.agree seed (X25519.publicKey half) = X25519.agree half (X25519.publicKey seed)

/-- The secret that is sealed to a key with a seed. -/
def sealed? (seed : Key32) (peer : KeyMaterial) : Option Bytes :=
  kemSecret? (X25519.agree seed peer.publicHalf) (X25519.publicKey seed) peer.publicHalf

/-- The secret that a key opens a ciphertext to. -/
def opened? (half : Key32) (key : KeyMaterial) (ciphertext : Key32) : Option Bytes :=
  kemSecret? (X25519.agree half ciphertext) ciphertext key.publicHalf

/-- **A key opens what is sealed to it**, also where that is nothing. -/
theorem opened?_eq_sealed? (h : key.Opens half peer) (hconsistent : key.Consistent)
    (hagree : Agree seed half) :
    opened? half key (X25519.publicKey seed) = sealed? seed peer := by
  have hpublic : key.publicHalf = X25519.publicKey half := by
    rw [hconsistent half h.privateHalf, h.type]
    rfl
  rw [opened?, sealed?, h.publicHalf, hpublic, hagree]

theorem length_of_sealed? (h : sealed? seed peer = some secret) : secret.length = secretLength :=
  length_of_kemSecret? h

/-! ## When the calls are granted -/

/-- A key for agreement in a container. -/
theorem keyOfType_x25519 (hkey : vault.contexts.get? handle = some (.key (some key)))
    (htype : key.type = .x25519) : vault.keyOfType .x25519 handle = .ok key :=
  keyOfType_eq_ok_iff.mpr ⟨hkey, htype⟩

/-- The last steps of an encapsulation. Where there is no secret, the ciphertext has been stored by
then. -/
theorem on_store_kemSecret (shared ciphertext recipient : Key32) :
    (store ciphertext.bytes >>= fun _ => kemSecret shared ciphertext recipient >>= fun secret =>
      store secret >>= fun _ => pure (Int32.ofNat (ciphertextLength + secretLength))).on vault
      = match kemSecret? shared ciphertext recipient with
        | some secret => .ok (vault.deliver (ciphertext.bytes ++ secret))
        | none => .error ⟨⟨vault.push nonContributory, none, ciphertext.bytes⟩, .nativeError⟩ := by
  unfold kemSecret
  cases hsecret : kemSecret? shared ciphertext recipient with
  | none => rfl
  | some secret =>
    have hlength : (ciphertext.bytes ++ secret).length = ciphertextLength + secretLength := by
      rw [List.length_append, Key32.length_eq, length_of_kemSecret? hsecret]
      rfl
    show _ = Except.ok (vault.deliver (ciphertext.bytes ++ secret))
    rw [Vault.deliver, hlength]
    rfl

/-- **What becomes of an encapsulation when all its checks have passed** and a seed is there. -/
theorem on_encapsulate_of_admitted {drawn : Option Key32} (hseed : drawn = some seed)
    (hpeer : vault.keyOfType .x25519 handle = .ok peer)
    (hraised : vault.raised .int32Overflow3 = false)
    (hadmits : vault.admits (ciphertextLength + secretLength) (some w) = .ok true) :
    (encapsulate drawn handle (some w)).on vault = match sealed? seed peer with
      | some secret => .ok (vault.deliver ((X25519.publicKey seed).bytes ++ secret))
      | none => .error
        ⟨⟨vault.push nonContributory, none, (X25519.publicKey seed).bytes⟩, .nativeError⟩ := by
  unfold encapsulate sealed?
  rw [on_look_of_ok hpeer, on_unraised_of_false hraised, on_look_of_ok hadmits, if_pos rfl,
    on_draw_of_some hseed]
  generalize X25519.agree seed peer.publicHalf = shared
  exact on_store_kemSecret shared _ _

/-- A secret is sealed in a window that has room for it and for the ciphertext. -/
theorem encapsulate_some_eq_ok_iff {drawn : Option Key32}
    (hpeer : vault.contexts.get? handle = some (.key (some peer))) (htype : peer.type = .x25519) :
    (encapsulate drawn handle (some w)).on vault = .ok grant ↔
      vault.raised .int32Overflow3 = false
      ∧ vault.admits (ciphertextLength + secretLength) (some w) = .ok true
      ∧ ∃ seed, drawn = some seed ∧ ∃ secret, sealed? seed peer = some secret
        ∧ vault.deliver ((X25519.publicKey seed).bytes ++ secret) = grant := by
  have hkey : vault.keyOfType .x25519 handle = .ok peer := keyOfType_x25519 hpeer htype
  constructor
  · intro hgrant
    have hsteps := hgrant
    rw [encapsulate, on_look_of_ok hkey, on_unraised_eq_ok_iff, on_look_eq_ok_iff] at hsteps
    obtain ⟨hraised, admitted, hadmits, hdraw⟩ := hsteps
    obtain rfl : admitted = true := (admits_some_iff.mp hadmits).2.2.2
    rw [if_pos rfl, on_draw_eq_ok_iff] at hdraw
    obtain ⟨seed, rfl, -⟩ := hdraw
    rw [on_encapsulate_of_admitted rfl hkey hraised hadmits] at hgrant
    cases hsecret : sealed? seed peer with
    | none =>
      rw [hsecret] at hgrant
      cases hgrant
    | some secret =>
      rw [hsecret] at hgrant
      exact ⟨hraised, hadmits, seed, rfl, secret, hsecret, Except.ok.inj hgrant⟩
  · rintro ⟨hraised, hadmits, seed, rfl, secret, hsecret, rfl⟩
    rw [on_encapsulate_of_admitted rfl hkey hraised hadmits, hsecret]

/-- The lengths are reported where there is a key for agreement and no fault. -/
theorem encapsulate_none_eq_ok_iff {drawn : Option Key32}
    (hpeer : vault.contexts.get? handle = some (.key (some peer))) (htype : peer.type = .x25519) :
    (encapsulate drawn handle none).on vault = .ok grant ↔
      vault.raised .int32Overflow3 = false ∧ vault.report 64 = grant := by
  rw [encapsulate, on_look_of_ok (keyOfType_x25519 hpeer htype), on_unraised_eq_ok_iff,
    on_look_of_ok (admits_none _)]
  exact and_congr_right fun _ => ⟨Except.ok.inj, congrArg _⟩

theorem reportSecretLength_eq_ok (hkey : vault.contexts.get? handle = some (.key (some key)))
    (htype : key.type = .x25519) :
    (reportSecretLength handle).on vault = .ok (vault.report 32) := by
  rw [reportSecretLength, on_look_of_ok (keyOfType_x25519 hkey htype)]
  rfl

/-- A ciphertext is opened by a container with the private half, when it can be read and there is
room for the secret. -/
theorem decapsulate_eq_ok (hkey : vault.contexts.get? handle = some (.key (some key)))
    (htype : key.type = .x25519) (hhalf : key.privateHalf = some half) {ciphertext : Key32}
    {data : InputWindow} (hrange : data.InRange) (hdata : data.addressed = ciphertext.bytes)
    (haccess : vault.raised .failedAccess1 = false)
    (hadmits : vault.admits secretLength (some w) = .ok true)
    (hsecret : opened? half key ciphertext = some secret) :
    (decapsulate handle (some data) (some w)).on vault = .ok (vault.deliver secret) := by
  have hinput : vault.input (some data) = .ok ciphertext.bytes :=
    input_eq_ok_iff.mpr ⟨data, rfl, hrange, haccess, hdata.symm⟩
  rw [decapsulate, on_look_of_ok (keyOfType_x25519 hkey htype), on_need_of_some hhalf,
    on_look_of_ok hinput, on_need_of_some (Key32.ofBytes?_bytes ciphertext), on_look_of_ok hadmits,
    if_pos rfl, kemSecret, show kemSecret? _ _ _ = some secret from hsecret]
  rfl

/-! ## Sealing and opening -/

/-- **A container opens a ciphertext**: from every window that addresses it, into every window that
has room for the secret. -/
def OpensTo (vault : Vault) (handle : Address) (ciphertext secret : Bytes) : Prop :=
  ∀ supply (data : InputWindow) (w : OutputWindow),
    data.InRange → data.addressed = ciphertext → w.InRange → 32 ≤ w.width →
    (vault.answer supply (.decapsulate handle (some data) (some w))).1.status = 32
      ∧ Delivered w secret (vault.answer supply (.decapsulate handle (some data) (some w))).1

/-- **What a container opens.** -/
theorem opensTo_of_opened? (hkey : vault.contexts.get? handle = some (.key (some key)))
    (htype : key.type = .x25519) (hhalf : key.privateHalf = some half)
    (hinput : vault.raised .failedAccess1 = false) (houtput : vault.raised .failedAccess2 = false)
    {ciphertext : Key32} (hsecret : opened? half key ciphertext = some secret) :
    vault.OpensTo handle ciphertext.bytes secret := by
  intro supply data w hrange hdata hwrange hwide
  have hadmits : vault.admits secretLength (some w) = .ok true :=
    admits_some_iff.mpr ⟨hwrange, houtput, hwide, rfl⟩
  have hlength : secret.length = secretLength := length_of_kemSecret? hsecret
  have hgrant : vault.verdict supply (.decapsulate handle (some data) (some w))
      = .ok (vault.deliver secret) :=
    decapsulate_eq_ok hkey htype hhalf hrange hdata hinput hadmits hsecret
  rw [answer_of_ok hgrant]
  rw [← hlength] at hadmits
  refine ⟨?_, delivered_of_admits vault hadmits ?_ none⟩
  · rw [Vault.deliver, hlength]
    rfl
  · rw [hlength]
    decide

/-- **What a call that seals a secret writes**: the ciphertext, and after it the secret. -/
theorem delivered_of_encapsulate (hpeer : vault.contexts.get? handle = some (.key (some peer)))
    (htype : peer.type = .x25519)
    (hstatus : 0 ≤ (vault.answer supply (.encapsulate handle (some w))).1.status) :
    (vault.answer supply (.encapsulate handle (some w))).1.status = 64
      ∧ ∃ seed, supply.seed = some seed ∧ ∃ secret, sealed? seed peer = some secret
        ∧ Delivered w ((X25519.publicKey seed).bytes ++ secret)
          (vault.answer supply (.encapsulate handle (some w))).1 := by
  obtain ⟨grant, hgrant⟩ := exists_grant_of_nonneg hstatus
  rw [answer_of_ok hgrant]
  obtain ⟨-, hadmits, seed, hseed, secret, hsecret, rfl⟩ :=
    (encapsulate_some_eq_ok_iff hpeer htype).mp hgrant
  have hlength : ((X25519.publicKey seed).bytes ++ secret).length
      = ciphertextLength + secretLength := by
    rw [List.length_append, Key32.length_eq, length_of_sealed? hsecret]
    rfl
  rw [← hlength] at hadmits
  refine ⟨?_, seed, hseed, secret, hsecret, delivered_of_admits vault hadmits ?_ none⟩
  · rw [Vault.deliver, hlength]
    rfl
  · rw [hlength]
    decide

end Custody.Vault
