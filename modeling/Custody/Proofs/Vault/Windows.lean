import Custody.Proofs.Vault.Precedence
import Custody.Proofs.Vault.Queries

/-!
# What a call sees of a buffer

A buffer comes to a call with an offset and a length, and the call sees nothing of it but the window
that these make. Two calls have the same windows when they differ in their buffers alone, and
corresponding windows lie in their buffers, those to read from address the same bytes and those to
write to have the same length (`SameWindows`). Such calls have the same answer, whatever surrounds
their windows (`answer_of_sameWindows`), and what a call writes fits into its window, so that it
changes nothing outside of it (`storedAt_answer`).

The relation between calls is an inductive type with one constructor for each entry point that has a
window, and the proof that such calls are the same steps has one case for each. From then on nothing
has to be said about single calls: what the steps are is what the answer depends on.
-/

namespace Custody.Vault

variable {vault : Vault}

/-! ## Windows that are the same -/

/-- **Windows that address the same bytes**, wherever these are. -/
inductive SameBytes : Option InputWindow → Option InputWindow → Prop
  | intro {w w' : InputWindow} (hrange : w.InRange) (hrange' : w'.InRange)
    (hbytes : w.addressed = w'.addressed) : SameBytes (some w) (some w')

/-- **Windows of the same length**, in whatever buffers. -/
inductive SameRoom : Option OutputWindow → Option OutputWindow → Prop
  | intro {w w' : OutputWindow} (hrange : w.InRange) (hrange' : w'.InRange)
    (hlen : w.len = w'.len) : SameRoom (some w) (some w')

/-- Of a window that lies in its buffer, only access can fail. -/
theorem read_of_inRange {role : InputRole} {raised : FaultFlag → Bool} {w : InputWindow}
    (h : w.InRange) : InputWindow.read role raised (some w)
      = if raised role.fault then .error role.inaccessible else .ok w.addressed := by
  obtain ⟨hoffset, hlen, hrange⟩ := h
  rw [InputWindow.read, if_neg (Int32.not_lt.mpr hoffset), if_neg (Int32.not_lt.mpr hlen),
    if_neg (Nat.not_lt.mpr hrange)]

/-- A window in range is refused only if it cannot be accessed. -/
theorem room_of_inRange {raised : FaultFlag → Bool} {w : OutputWindow} (h : w.InRange) :
    w.room raised = if raised .failedAccess2 then .error .failedAccessOutput else .ok w.width := by
  obtain ⟨hoffset, hlen, hrange⟩ := h
  rw [OutputWindow.room, if_neg (Int32.not_lt.mpr hoffset), if_neg (Int32.not_lt.mpr hlen),
    if_neg (Nat.not_lt.mpr hrange)]

section Windows

variable {data data' : Option InputWindow} {out out' : Option OutputWindow}

/-- Windows with the same bytes are read alike. -/
theorem SameBytes.read (h : SameBytes data data') (role : InputRole) (raised : FaultFlag → Bool) :
    InputWindow.read role raised data = InputWindow.read role raised data' := by
  obtain ⟨hrange, hrange', hbytes⟩ := h
  rw [read_of_inRange hrange, read_of_inRange hrange', hbytes]

/-- Windows with the same bytes give the same bytes to be processed. -/
theorem SameBytes.input (h : SameBytes data data') (vault : Vault) :
    vault.input data = vault.input data' :=
  h.read .data vault.raised

/-- Windows of the same room admit the same. -/
theorem SameRoom.room {w w' : OutputWindow} (h : SameRoom (some w) (some w'))
    (raised : FaultFlag → Bool) : w.room raised = w'.room raised := by
  obtain ⟨hrange, hrange', hlen⟩ := h
  rw [room_of_inRange hrange, room_of_inRange hrange', OutputWindow.width, OutputWindow.width, hlen]

/-- Windows of the same room are too small for the same numbers of bytes. -/
theorem SameRoom.admits (h : SameRoom out out') (vault : Vault) (needed : Nat) :
    vault.admits needed out = vault.admits needed out' := by
  have hroom := h
  obtain ⟨-, -, -⟩ := h
  rw [Vault.admits, Vault.admits, OutputWindow.admits, OutputWindow.admits, hroom.room]

theorem SameRoom.inRange {w : OutputWindow} (h : SameRoom out out')
    (hout : out = some w ∨ out' = some w) : w.InRange := by
  obtain ⟨hrange, hrange', -⟩ := h
  obtain ⟨⟨⟩⟩ | ⟨⟨⟩⟩ := hout
  · exact hrange
  · exact hrange'

/-- Windows of the same room fix the same number of bytes. -/
theorem SameRoom.span (h : SameRoom out out') (vault : Vault) :
    vault.span out = vault.span out' := by
  have hroom := h
  obtain ⟨-, -, -⟩ := h
  exact hroom.room vault.raised

end Windows

/-! ## Calls with the same windows -/

/-- **Calls that differ in their buffers alone**, and there only outside of the windows to read
from, and in what is in the windows to write to. -/
inductive SameWindows : Call → Call → Prop
  | digestFeed (handle : Address) {data data' : Option InputWindow} (hdata : SameBytes data data') :
    SameWindows (.digestFeed handle data) (.digestFeed handle data')
  | digestFinish (handle : Address) {out out' : Option OutputWindow} (hout : SameRoom out out') :
    SameWindows (.digestFinish handle out) (.digestFinish handle out')
  | keyDecodePublic (handle : Address) (type : Int32) {data data' : Option InputWindow}
    (hdata : SameBytes data data') :
    SameWindows (.keyDecodePublic handle type data) (.keyDecodePublic handle type data')
  | keyDecodePrivate (handle : Address) (type : Int32) {data data' : Option InputWindow}
    (hdata : SameBytes data data') :
    SameWindows (.keyDecodePrivate handle type data) (.keyDecodePrivate handle type data')
  | keyEncodePublic (handle : Address) {out out' : Option OutputWindow}
    (hout : SameRoom out out') :
    SameWindows (.keyEncodePublic handle out) (.keyEncodePublic handle out')
  | keyEncodePrivate (handle : Address) {out out' : Option OutputWindow}
    (hout : SameRoom out out') :
    SameWindows (.keyEncodePrivate handle out) (.keyEncodePrivate handle out')
  | encapsulate (handle : Address) {out out' : Option OutputWindow} (hout : SameRoom out out') :
    SameWindows (.encapsulate handle out) (.encapsulate handle out')
  | decapsulate (handle : Address) {data data' : Option InputWindow}
    {out out' : Option OutputWindow} (hdata : SameBytes data data') (hout : SameRoom out out') :
    SameWindows (.decapsulate handle data out) (.decapsulate handle data' out')
  | signatureFeed (handle : Address) {data data' : Option InputWindow}
    (hdata : SameBytes data data') :
    SameWindows (.signatureFeed handle data) (.signatureFeed handle data')
  | signatureSign (handle : Address) {out out' : Option OutputWindow} (hout : SameRoom out out') :
    SameWindows (.signatureSign handle out) (.signatureSign handle out')
  | signatureVerify (handle : Address) {data data' : Option InputWindow}
    (hdata : SameBytes data data') :
    SameWindows (.signatureVerify handle data) (.signatureVerify handle data')
  | pbkdf2 (digest : Option Bytes) {password password' salt salt' : Option InputWindow}
    (iterations : Int32) {out out' : Option OutputWindow} (hpassword : SameBytes password password')
    (hsalt : SameBytes salt salt') (hout : SameRoom out out') :
    SameWindows (.pbkdf2 digest password salt iterations out)
      (.pbkdf2 digest password' salt' iterations out')
  | hkdf (digest : Option Bytes) {material material' salt salt' info info' : Option InputWindow}
    {out out' : Option OutputWindow} (hmaterial : SameBytes material material')
    (hsalt : SameBytes salt salt') (hinfo : SameBytes info info') (hout : SameRoom out out') :
    SameWindows (.hkdf digest material salt info out) (.hkdf digest material' salt' info' out')
  | scrypt {password password' salt salt' : Option InputWindow} (n r p : Int32)
    {out out' : Option OutputWindow} (hpassword : SameBytes password password')
    (hsalt : SameBytes salt salt') (hout : SameRoom out out') :
    SameWindows (.scrypt password salt n r p out) (.scrypt password' salt' n r p out')

section SameWindows

variable {supply supply' : Supply} {call call' : Call}

/-- **Calls with the same windows are the same steps.** -/
theorem entry_of_sameWindows (h : SameWindows call call') (hseed : supply.seed = supply'.seed) :
    entry supply call = entry supply' call' := by
  cases h with
  | digestFeed handle hdata => simp only [entry, digestFeed, hdata.input]
  | digestFinish handle hout => simp only [entry, digestFinish, hout.admits]
  | keyDecodePublic handle type hdata =>
    simp only [entry, keyDecodePublic, keyDecode, hdata.input]
  | keyDecodePrivate handle type hdata =>
    simp only [entry, keyDecodePrivate, keyDecode, hdata.input]
  | keyEncodePublic handle hout => simp only [entry, keyEncodePublic, keyEncode, hout.admits]
  | keyEncodePrivate handle hout => simp only [entry, keyEncodePrivate, keyEncode, hout.admits]
  | encapsulate handle hout => simp only [entry, encapsulate, hout.admits, hseed]
  | decapsulate handle hdata hout => simp only [entry, decapsulate, hdata.input, hout.admits]
  | signatureFeed handle hdata => simp only [entry, signatureFeed, hdata.input]
  | signatureSign handle hout => simp only [entry, signatureSign, hout.admits]
  | signatureVerify handle hdata => simp only [entry, signatureVerify, hdata.read]
  | pbkdf2 digest iterations hpassword hsalt hout =>
    simp only [entry, derivePbkdf2, hpassword.input, hsalt.input, hout.span]
  | hkdf digest hmaterial hsalt hinfo hout =>
    simp only [entry, deriveHkdf, hmaterial.input, hsalt.input, hinfo.input, hout.span]
  | scrypt n r p hpassword hsalt hout =>
    simp only [entry, deriveScrypt, hpassword.input, hsalt.input, hout.span]

/-- **Calls with the same windows have the same answer**, and leave the same library behind. -/
theorem answer_of_sameWindows (h : SameWindows call call') (hseed : supply.seed = supply'.seed) :
    vault.answer supply call = vault.answer supply' call' := by
  rw [answer, verdict, entry_of_sameWindows h hseed, ← verdict, ← answer]

/-- The windows that such calls write to lie in their buffers. -/
theorem SameWindows.inRange (h : SameWindows call call') {w : OutputWindow}
    (hout : call.output? = some w ∨ call'.output? = some w) : w.InRange := by
  cases h with
  | digestFinish _ hroom | keyEncodePublic _ hroom | keyEncodePrivate _ hroom
  | encapsulate _ hroom | signatureSign _ hroom => exact hroom.inRange hout
  | decapsulate _ _ hroom => exact hroom.inRange hout
  | pbkdf2 _ _ _ _ hroom | scrypt _ _ _ _ _ hroom => exact hroom.inRange hout
  | hkdf _ _ _ _ hroom => exact hroom.inRange hout
  | _ => obtain ⟨⟨⟩⟩ | ⟨⟨⟩⟩ := hout

end SameWindows

/-! ## What is written -/

/-- A call that is foretold writes no more than its window holds. -/
theorem Foretold.length_written_le {step : Supply → Option OutputWindow → Step Int32}
    (h : Foretold vault step) (supply : Supply) (w : OutputWindow) :
    (settle ((step supply (some w)).on vault)).1.written.length ≤ w.width := by
  cases h with
  | refused code h =>
    rw [h]
    exact Nat.zero_le _
  | admitted needed late hlimit hlate h =>
    rw [h]
    cases hadmits : vault.admits needed (some w) with
    | error code =>
      rw [Step.on_look_of_error hadmits]
      exact Nat.zero_le _
    | ok admitted =>
      obtain ⟨-, -, hroom, rfl⟩ := admits_some_iff.mp hadmits
      rw [Step.on_look_of_ok hadmits, if_pos rfl]
      cases hend : (late supply).on vault with
      | error refusal => exact Nat.le_trans ((hlate supply).of_on_error hend).2 hroom
      | ok grant => exact Nat.le_trans (Nat.le_of_eq ((hlate supply).of_on_ok hend).2.2) hroom

/-- So does a derivation. -/
theorem EndsAtFirst.length_written_le {exits : List Exit} {passed : Reply → Prop} {reply : Reply}
    {n : Nat} (h : EndsAtFirst exits passed reply)
    (hpassed : passed reply → reply.written.length ≤ n) : reply.written.length ≤ n := by
  unfold EndsAtFirst AtFirstExit at h
  split at h
  · rw [h.2]
    exact Nat.zero_le _
  · exact hpassed h

/-- What fills a window is no longer than the window. -/
theorem Fills.length_written_le {w : OutputWindow} {key : Nat → Bytes} {reply : Reply}
    (h : Fills (some w) key reply) : reply.written.length ≤ w.width := by
  obtain ⟨_, ⟨⟩, -, -, hdelivered⟩ := h
  rw [hdelivered.written]
  exact hdelivered.room

/-- **A call writes no more than its window holds**, also if it fails. -/
theorem length_written_le {supply : Supply} {call : Call} {w : OutputWindow}
    (hmeasured : vault.Measured) (hout : call.output? = some w) :
    (vault.answer supply call).1.written.length ≤ w.width := by
  have hquery (query : Query) :
      (vault.answer supply (query.call (some w))).1.written.length ≤ w.width :=
    (foretold hmeasured query).length_written_le supply w
  -- What derives keys cannot be asked for a length, and has its own account of how it ends.
  cases call with
  | digestFinish handle out =>
    cases hout
    exact hquery (.digestFinish handle)
  | keyEncodePublic handle out =>
    cases hout
    exact hquery (.keyEncodePublic handle)
  | keyEncodePrivate handle out =>
    cases hout
    exact hquery (.keyEncodePrivate handle)
  | encapsulate handle out =>
    cases hout
    exact hquery (.encapsulate handle)
  | decapsulate handle ciphertext out =>
    cases hout
    exact hquery (.decapsulate handle ciphertext)
  | signatureSign handle out =>
    cases hout
    exact hquery (.signatureSign handle)
  | pbkdf2 digest password salt iterations out =>
    cases hout
    refine (vault.derivePbkdf2_endsAtFirst digest password salt iterations _).length_written_le ?_
    rintro ⟨_, -, hfills⟩
    exact hfills.length_written_le
  | hkdf digest material salt info out =>
    cases hout
    refine (vault.deriveHkdf_endsAtFirst digest material salt info _).length_written_le ?_
    rintro ⟨_, -, hfills⟩
    exact hfills.length_written_le
  | scrypt password salt n r p out =>
    cases hout
    exact (vault.deriveScrypt_endsAtFirst password salt n r p _).length_written_le
      Fills.length_written_le
  | _ => cases hout

/-- **A call changes nothing outside of its window.** -/
theorem storedAt_answer {supply : Supply} {call : Call} {w : OutputWindow} {buffer : Bytes}
    (hmeasured : vault.Measured) (hout : call.output? = some w) (hrange : w.InRange)
    (hbuffer : buffer.length = w.size) :
    Bytes.StoredAt w.start (vault.answer supply call).1.written buffer
      (w.store buffer (vault.answer supply call).1.written) := by
  have hfits : (vault.answer supply call).1.written.length ≤ w.width :=
    length_written_le hmeasured hout
  refine Bytes.storedAt_patch ?_
  rw [hbuffer]
  exact Nat.le_trans (Nat.add_le_add_left hfits _) hrange.2.2

end Custody.Vault
