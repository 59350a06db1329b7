import Custody.Held.Derivation
import Custody.Held.Digest
import Custody.Held.Signature
import Custody.Proofs.Service.Calls

/-!
# Bytes that are handed out

A program that wants bytes has to say how many before it gets them: it makes a buffer of zeros, and
the library writes to it and reports how much. Where the length comes from a call of its own, the
two answers of the library need not agree. Of the buffer no more must be handed out than was
written, or zeros pass for a digest, a signature or a key.

`fetch` sees to that for every operation that hands out one string of bytes (`Output`): the last
call of such an operation is the one that filled its buffer, and the bytes are what this call
reported as written (`Output.handed_of_ok`). Sealing a secret has a buffer of its own, of which it
hands out both parts whole, whatever was reported (`KeySpec.sealed_of_ok`). What it hands out is
written if and only if the whole buffer is; `secret_ends_in_zeros` is a library that fills it in
part.

Nothing is assumed of the library. Its entry points may answer anything (`Backend`), and the daemon
may take its turns at any time.
-/

namespace Custody.Held

variable {σ α : Type} (backend : Backend σ)

/-- The services of any library, with every call noted. -/
abbrev noted : Services (Recorded σ) := .ofBackend backend.recorded

/-- What is in a buffer of `size` zeros after a call that wrote to it. -/
def bufferAfter (size : Nat) (reply : Reply) : Bytes := (Bytes.zeros size).patch 0 reply.written

@[simp] theorem length_bufferAfter (size : Nat) (reply : Reply) :
    (bufferAfter size reply).length = size := by
  rw [bufferAfter, Bytes.length_patch _ _ _ (Nat.zero_le _), Bytes.length_zeros]

/-- How many bytes a reply says that it has written. -/
def reported (reply : Reply) : Nat := reply.status.toInt.toNat

/-- **The last call in a log** is that of a request, and it succeeded. -/
structure LastCall (log : List (Note σ)) (request : Request) (note : Note σ) : Prop where
  /-- It is noted last. -/
  last : log.getLast? = some note
  /-- It is the call that the request stands for. -/
  call : request.call = .ok note.call
  /-- It succeeded. -/
  nonneg : 0 ≤ note.reply.status

/-! ## Filling a buffer -/

/-- **A buffer is filled by one call**, the last one that is made. -/
theorem lastCall_of_fill {requests : Nat → Request} {before : Bytes} {world : World (Recorded σ)}
    {n : Nat}
    (h : (native (noted backend) (backend.recorded.fill requests before) world).1.1 = .ok n) :
    ∃ note, LastCall (native (noted backend) (backend.recorded.fill requests before)
        world).2.native.log (requests before.length) note ∧ n = reported note.reply ∧
      (native (noted backend) (backend.recorded.fill requests before) world).1.2 =
        before.patch 0 note.reply.written := by
  -- The daemon's turns come before the call and are over when it is made.
  let recorded := (World.pause (noted backend) world).2.native
  obtain ⟨call, hcall, hstatus, hn⟩ : ∃ call, (requests before.length).call = .ok call ∧
      0 ≤ (backend.recorded.submit call recorded).1.status ∧
      (backend.recorded.submit call recorded).1.status.toInt.toNat = n :=
    Backend.exchange_of_outcome _ h
  obtain ⟨drains, hlog, -, hnone⟩ := backend.log_exchange hcall recorded
  rw [hnone hstatus] at hlog
  refine ⟨⟨recorded.state, call, (backend.submit call recorded.state).1⟩,
    ⟨?_, hcall, hstatus⟩, hn.symm, ?_⟩
  · show ((backend.recorded.exchange (requests before.length) recorded).2.log).getLast? = _
    rw [hlog, List.getLast?_concat]
  · show before.patch 0 (backend.recorded.exchange (requests before.length) recorded).1.written = _
    rw [backend.recorded.exchange_of_nonneg hcall hstatus]
    rfl

/-- **Something made of a buffer** of zeros once the library has filled it. -/
def ofBuffer (requests : Nat → Request) (size : Nat) (make : Nat → Bytes → α) :
    Work (Recorded σ) α := do
  let (result, buffer) ←
    Act.ofState (native (noted backend) (backend.recorded.fill requests (Bytes.zeros size)))
  let written ← Act.ofExcept result
  return make written buffer

/-- Where something comes of it, the last call is the one that filled the buffer. -/
theorem ofBuffer_ok {requests : Nat → Request} {size : Nat} {make : Nat → Bytes → α}
    {world : World (Recorded σ)} {result : α}
    (h : (ofBuffer backend requests size make world).1 = .ok result) :
    ∃ note, LastCall (ofBuffer backend requests size make world).2.native.log (requests size) note ∧
      result = make (reported note.reply) (bufferAfter size note.reply) := by
  let act := native (noted backend) (backend.recorded.fill requests (Bytes.zeros size))
  have hfilled : Act.ofState act world = (.ok (act world).1, (act world).2) := rfl
  have hmade : ofBuffer backend requests size make world =
      ((act world).1.1.map fun n => make n (act world).1.2, (act world).2) := by
    rw [ofBuffer, Act.bind_of_ok hfilled]
    cases hresult : (act world).1.1 <;> simp only [hresult] <;> rfl
  rw [hmade] at h ⊢
  cases hresult : (act world).1.1 with
  | error abort =>
    rw [hresult] at h
    cases h
  | ok n =>
    obtain ⟨note, hlast, rfl, hbuffer⟩ := lastCall_of_fill backend hresult
    rw [hresult] at h
    refine ⟨note, ?_, ?_⟩
    · rwa [Bytes.length_zeros] at hlast
    · rw [← Except.ok.inj h, hbuffer]
      rfl

/-! ## Operations that hand out bytes -/

/-- An operation that hands out one string of bytes. -/
inductive Output
  /-- The digest of what was fed. -/
  | hashed (digest : Digest)
  /-- An encoded half of a key. -/
  | half (key : KeySpec) (part : KeyPart)
  /-- The signature of what was fed. -/
  | signature (signer : Signer)
  /-- The secret that a ciphertext carries. -/
  | opened (key : KeySpec) (ciphertext : Bytes)
  /-- A key from a password by iterated hashing. -/
  | pbkdf2 (digest : String) (password salt : Bytes) (iterations length : Nat)
  /-- A key from key material. -/
  | hkdf (digest : String) (material salt info : Bytes) (length : Nat)
  /-- A key from a password at a cost. -/
  | scrypt (password salt : Bytes) (n r p length : Nat)

namespace Output

/-- The operation itself. -/
def get (services : Services σ) : Output → Work σ Bytes
  | hashed digest => digest.finish services
  | half key part => key.encode services part
  | signature signer => signer.sign services
  | opened key ciphertext => key.decapsulate services ciphertext
  | pbkdf2 digest password salt iterations length =>
    Held.pbkdf2 services digest password salt iterations length
  | hkdf digest material salt info length => Held.hkdf services digest material salt info length
  | scrypt password salt n r p length => Held.scrypt services password salt n r p length

/-- The request that fills its buffer, for the size of the buffer. -/
def request : Output → Nat → Request
  | hashed digest => .digestFinish digest.handle
  | half key part => .keyEncode key.handle part
  | signature signer => .signatureSign signer.owner.handle.address
  | opened key ciphertext => .decapsulate key.handle ciphertext
  | pbkdf2 digest password salt iterations _ => .pbkdf2 digest password salt iterations
  | hkdf digest material salt info _ => .hkdf digest material salt info
  | scrypt password salt n r p _ => .scrypt password salt n r p

/-- The size of its buffer: what the library says, or what was asked for. -/
def size (services : Services σ) : Output → Work σ Nat
  | hashed digest => digest.length services
  | half key part => ask services (services.keySpec.number (.keyEncodedLength key.handle part))
  | signature signer =>
    ask services (services.signature.number (.signatureLength signer.owner.handle.address))
  | opened key _ => ask services (services.kem.number (.secretLength key.handle))
  | pbkdf2 _ _ _ _ length | hkdf _ _ _ _ length | scrypt _ _ _ _ _ length => pure length

/-- **Every such operation** finds out a size and fetches so many bytes. -/
theorem get_eq (output : Output) : output.get (noted backend) = (do
    let size ← output.size (noted backend)
    fetch (noted backend) backend.recorded output.request size) := by
  cases output <;> rfl

/-- **What is handed out**: of a buffer of some size, as much as the last call reports, which is the
one that filled the buffer. -/
structure Handed (output : Output) (bytes : Bytes) (log : List (Note σ)) (size : Nat)
    (note : Note σ) : Prop where
  /-- The call that filled the buffer is the last one. -/
  last : LastCall log (output.request size) note
  /-- The bytes are the first of the buffer. -/
  taken : bytes = (bufferAfter size note.reply).take (reported note.reply)
  /-- There are no more of them than the call reports. -/
  length_le : bytes.length ≤ reported note.reply

theorem handed_of_ok {output : Output} {world : World (Recorded σ)} {bytes : Bytes}
    (h : (output.get (noted backend) world).1 = .ok bytes) :
    ∃ size note, Handed output bytes (output.get (noted backend) world).2.native.log size note := by
  rw [get_eq] at h ⊢
  obtain ⟨size, -, hrest⟩ := Act.exists_of_bind_ok h
  rw [hrest] at h ⊢
  change (ofBuffer backend output.request size (fun written buffer => buffer.take written) _).1 =
    .ok bytes at h
  obtain ⟨note, hlast, rfl⟩ := ofBuffer_ok backend h
  exact ⟨size, note, hlast, rfl, List.length_take_le ..⟩

end Output

/-! ## Sealed secrets -/

/-- **What is handed out with a sealed secret**: the whole of a buffer, in two parts, whatever the
last call reports, which is the one that filled it. -/
structure Sealed (key : KeySpec) (handed : Encapsulated) (log : List (Note σ)) (total : Nat)
    (note : Note σ) : Prop where
  /-- The call that filled the buffer is the last one. -/
  last : LastCall log (.encapsulate key.handle total) note
  /-- The two parts make up the buffer. -/
  whole : handed.ciphertext ++ handed.secret = bufferAfter total note.reply
  /-- No more is handed out than the call reports exactly if it reports no less than the buffer. -/
  length_le_iff : handed.ciphertext.length + handed.secret.length ≤ reported note.reply ↔
    total ≤ reported note.reply

/-- Once the two lengths are known, the buffer is filled and cut in two. -/
theorem KeySpec.sealed_of_lengths {key : KeySpec} {total secret : Nat}
    {world : World (Recorded σ)} {handed : Encapsulated}
    (h : (ofBuffer backend (.encapsulate key.handle) total
      (fun _ both => ⟨both.take (total - secret), both.drop (total - secret)⟩) world).1 =
        .ok handed) :
    ∃ note, Sealed key handed (ofBuffer backend (.encapsulate key.handle) total
      (fun _ both => (⟨both.take (total - secret), both.drop (total - secret)⟩ : Encapsulated))
      world).2.native.log total note := by
  obtain ⟨note, hlast, rfl⟩ := ofBuffer_ok backend h
  refine ⟨note, hlast, List.take_append_drop .., ?_⟩
  rw [← List.length_append, List.take_append_drop, length_bufferAfter]

theorem KeySpec.sealed_of_ok {key : KeySpec} {world : World (Recorded σ)} {handed : Encapsulated}
    (h : (key.encapsulate (noted backend) world).1 = .ok handed) :
    ∃ total note, Sealed key handed (key.encapsulate (noted backend) world).2.native.log total
      note := by
  obtain ⟨total, -, htotal⟩ := Act.exists_of_bind_ok h
  have h := (congrArg Prod.fst htotal).symm.trans h
  obtain ⟨secret, -, hsecret⟩ := Act.exists_of_bind_ok h
  have h := (congrArg Prod.fst hsecret).symm.trans h
  have hworld : key.encapsulate (noted backend) world = _ := htotal.trans hsecret
  rw [hworld]
  refine ⟨total, ?_⟩
  by_cases hshort : total < secret
  · rw [if_pos hshort] at h
    cases h
  · rw [if_neg hshort] at h ⊢
    exact sealed_of_lengths backend h

/-! ## What every library has written -/

/-- **Only what a library says that it has written is handed out**, by every operation that hands
out one string of bytes, whatever the library answers and whenever the daemon takes its turns.
Sealing a secret hands out a whole buffer, and keeps to what was written exactly if that is the
whole buffer. -/
theorem handed_out_is_reported (backend : Backend σ) :
    (∀ (output : Output) (world : World (Recorded σ)) (bytes : Bytes),
      (output.get (noted backend) world).1 = .ok bytes →
        ∃ size note, output.Handed bytes (output.get (noted backend) world).2.native.log size
          note) ∧
    ∀ (key : KeySpec) (world : World (Recorded σ)) (handed : Encapsulated),
      (key.encapsulate (noted backend) world).1 = .ok handed →
        ∃ total note, Sealed key handed
          (key.encapsulate (noted backend) world).2.native.log total note :=
  ⟨fun _ _ _ h => Output.handed_of_ok backend h, fun _ _ _ h => KeySpec.sealed_of_ok backend h⟩

/-- The replies of a library that fills part of a buffer. -/
def partialReply : Call → Reply
  | .keyAllocate _ => ⟨0, some 16, []⟩
  | .secretLength _ => .bare 32
  | .encapsulate _ none => .bare 64
  | .encapsulate _ (some _) => ⟨48, none, List.replicate 48 0xaa⟩
  | .decapsulate _ _ _ => ⟨16, none, List.replicate 16 0xbb⟩
  | _ => .bare 0

/-- A library that fills part of a buffer. -/
def partialBackend : Backend Unit := ⟨.dispatch, fun _ call => pure (partialReply call)⟩

/-- The world of that library before its first step. -/
def partialStart : World (Recorded Unit) := ⟨⟨(), []⟩, .empty, [], []⟩

/-- A key in its care. -/
def partialKey : KeySpec :=
  ⟨⟨⟨0, 0⟩, 0, 0, (Handle.ofAddress? 16).get rfl, "Reference(KeySpec) 0x10"⟩⟩

/-- The world with that key. -/
def partialWorld : World (Recorded Unit) :=
  (KeySpec.decode (noted partialBackend) .publicHalf .x25519 [0] partialStart).2

/-- A secret that this library opens is cut to the 16 bytes that it reports. With one that it seals
the whole buffer is handed out. -/
theorem handed_out_is_reported_partialWorld :
    (Output.get (noted partialBackend) (.opened partialKey [1]) partialWorld).1 =
        .ok (List.replicate 16 0xbb) ∧
      (∃ size note, Output.Handed (.opened partialKey [1]) (List.replicate 16 0xbb)
        (Output.get (noted partialBackend) (.opened partialKey [1]) partialWorld).2.native.log
        size note) ∧
      ∃ total note, Sealed partialKey
        ⟨List.replicate 32 0xaa, List.replicate 16 0xaa ++ List.replicate 16 0⟩
        (partialKey.encapsulate (noted partialBackend) partialWorld).2.native.log total note :=
  ⟨rfl, (handed_out_is_reported partialBackend).1 (.opened partialKey [1]) partialWorld _ rfl,
    (handed_out_is_reported partialBackend).2 partialKey partialWorld _ rfl⟩

/-- **A secret that ends in zeros.** Of the 64 bytes that are handed out with it the library has
reported 48; the rest is what the buffer held before. -/
theorem secret_ends_in_zeros :
    (KeySpec.decode (noted partialBackend) .publicHalf .x25519 [0] partialStart).1 =
        .ok partialKey ∧
      (partialKey.encapsulate (noted partialBackend) partialWorld).1 =
        .ok ⟨List.replicate 32 0xaa, List.replicate 16 0xaa ++ List.replicate 16 0⟩ ∧
      (partialKey.encapsulate (noted partialBackend) partialWorld).2.native.log.getLast?.map
        (fun note => reported note.reply) = some 48 :=
  ⟨rfl, rfl, rfl⟩

end Custody.Held
