import Custody.Vault.Answer

/-!
# When checks pass

What a call looks at before it changes anything is read by checks, and what is known of the call
from there on is what made them pass. For every check there is a lemma that says when it does, in
terms of the contexts, the faults and the windows of the call, so that no proof about a call has to
look into a check. A chain of checks passes when each of them does (`Check.bind_eq_ok_iff`).

A window to write to is what a call promises to stay in. That bytes were delivered to it, with their
number for a status, with room for them, and with nothing else in the buffer changed, is one
predicate (`Delivered`), and it holds wherever the window was admitted
(`delivered_of_admits`).
-/

namespace Custody

/-! ## Buffers -/

/-- **Bytes were stored in a buffer** from a position on, and nothing else in it was changed. -/
structure Bytes.StoredAt (start : Nat) (stored before after : Bytes) : Prop where
  /-- The buffer has the size that it had. -/
  length : after.length = before.length
  /-- The bytes are there. -/
  there : after.window start stored.length = stored
  /-- All other bytes are as they were. -/
  elsewhere : ∀ i, i < start ∨ start + stored.length ≤ i → after[i]? = before[i]?

/-- Bytes that fit into a buffer are stored in it. -/
theorem Bytes.storedAt_patch {buffer stored : Bytes} {start : Nat}
    (h : start + stored.length ≤ buffer.length) :
    StoredAt start stored buffer (buffer.patch start stored) := by
  have hbefore : (buffer.take start).length = start := List.length_take_of_le (by omega)
  have hwhole : stored.take (buffer.length - start) = stored := List.take_of_length_le (by omega)
  refine ⟨Bytes.length_patch _ _ _ (by omega), ?_, fun i hi => ?_⟩
  · rw [Bytes.window, Bytes.patch, hwhole, List.append_assoc, List.drop_left' hbefore,
      List.take_left]
  · rw [Bytes.patch, hwhole]
    obtain hi | hi := hi
    · rw [List.append_assoc, List.getElem?_append_left (by omega), List.getElem?_take_of_lt hi]
    · rw [List.getElem?_append_right (by simp; omega), List.getElem?_drop]
      congr 1
      simp
      omega

namespace Vault

variable {α β : Type} {vault : Vault} {handle : Address} {code : ErrorCode}

/-! ## Chains -/

namespace Check

/-- **A chain of checks passes** when the first passes and then the rest does. -/
theorem bind_eq_ok_iff {check : Check α} {rest : α → Check β} {b : β} :
    (check >>= rest) = .ok b ↔ ∃ a, check = .ok a ∧ rest a = .ok b := by
  cases check with
  | error code =>
    constructor
    · intro h
      cases h
    · rintro ⟨_, h, -⟩
      cases h
  | ok a =>
    constructor
    · exact fun h => ⟨a, rfl, h⟩
    · rintro ⟨_, ⟨⟩, h⟩
      exact h

@[simp] theorem pure_eq_ok_iff {a b : α} : (pure a : Check α) = .ok b ↔ a = b := by
  constructor
  · rintro ⟨⟩
    rfl
  · rintro rfl
    rfl

/-- A condition passes if it holds. -/
@[simp] theorem demand_eq_ok_iff {condition : Bool} {passed : Unit} :
    demand condition code = .ok passed ↔ condition = true := by
  cases condition with
  | true => exact ⟨fun _ => rfl, fun _ => rfl⟩
  | false => exact ⟨nofun, nofun⟩

/-- A value that has to be there passes if it is. -/
@[simp] theorem need_eq_ok_iff {value : Option α} {a : α} :
    need value code = .ok a ↔ value = some a := by
  cases value with
  | none => exact ⟨nofun, nofun⟩
  | some b =>
    constructor
    · rintro ⟨⟩
      rfl
    · rintro ⟨⟩
      rfl

end Check

open Check

/-! ## Contexts -/

/-- There is a digest behind a handle. -/
theorem digestAt_eq_ok_iff {context : DigestContext} :
    vault.digestAt handle = .ok context ↔ vault.contexts.get? handle = some (.digest context) := by
  unfold digestAt
  split
  · simp [*]
  · rename_i hother
    exact ⟨nofun, fun h => absurd h (hother context)⟩

/-- There is a key container behind a handle, with a key in it or without. -/
theorem containerAt_eq_ok_iff {material : Option KeyMaterial} :
    vault.containerAt handle = .ok material
      ↔ vault.contexts.get? handle = some (.key material) := by
  unfold containerAt
  split
  · simp [*]
  · rename_i hother
    exact ⟨nofun, fun h => absurd h (hother material)⟩

/-- There is a signature context behind a handle. -/
theorem signatureAt_eq_ok_iff {context : SignatureContext} :
    vault.signatureAt handle = .ok context
      ↔ vault.contexts.get? handle = some (.signature context) := by
  unfold signatureAt
  split
  · simp [*]
  · rename_i hother
    exact ⟨nofun, fun h => absurd h (hother context)⟩

/-- There is a key container behind a handle, and a key in it. -/
theorem keyAt_eq_ok_iff {key : KeyMaterial} :
    vault.keyAt handle = .ok key ↔ vault.contexts.get? handle = some (.key (some key)) := by
  simp [keyAt, bind_eq_ok_iff, containerAt_eq_ok_iff]

/-- There is a key of the right type in the container behind a handle. -/
theorem keyOfType_eq_ok_iff {type : KeyType} {key : KeyMaterial} :
    vault.keyOfType type handle = .ok key
      ↔ vault.contexts.get? handle = some (.key (some key)) ∧ key.type = type := by
  simp only [keyOfType, bind_eq_ok_iff, keyAt_eq_ok_iff, demand_eq_ok_iff, pure_eq_ok_iff,
    decide_eq_true_eq]
  constructor
  · rintro ⟨_, hkey, -, htype, rfl⟩
    exact ⟨hkey, htype⟩
  · rintro ⟨hkey, htype⟩
    exact ⟨key, hkey, (), htype, rfl⟩

/-! ## Windows -/

/-- A window is read when it is there, lies in its buffer and can be accessed. -/
theorem read_eq_ok_iff {role : InputRole} {raised : FaultFlag → Bool} {window : Option InputWindow}
    {data : Bytes} : InputWindow.read role raised window = .ok data ↔
      ∃ w, window = some w ∧ w.InRange ∧ raised role.fault = false ∧ data = w.addressed := by
  cases window with
  | none => exact ⟨nofun, nofun⟩
  | some w => simp [InputWindow.read_eq_ok_iff]

/-- **Bytes are read** from a window that is there, lies in its buffer and can be accessed; they are
those that it addresses. -/
theorem input_eq_ok_iff {window : Option InputWindow} {data : Bytes} :
    vault.input window = .ok data ↔ ∃ w, window = some w ∧ w.InRange
      ∧ vault.raised .failedAccess1 = false ∧ data = w.addressed := by
  rw [input, read_eq_ok_iff]
  rfl

/-- Bytes are written where there is a window that lies in its buffer, can be accessed and has
room for them. -/
theorem admits_some_iff {needed : Nat} {w : OutputWindow} {admitted : Bool} :
    vault.admits needed (some w) = .ok admitted ↔ w.InRange
      ∧ vault.raised .failedAccess2 = false ∧ needed ≤ w.width ∧ admitted = true := by
  rw [admits, OutputWindow.admits]
  cases hroom : w.room vault.raised with
  | error code =>
    refine ⟨nofun, fun h => ?_⟩
    rw [OutputWindow.room_eq_ok_iff.mpr ⟨h.1, h.2.1, rfl⟩] at hroom
    cases hroom
  | ok room =>
    obtain ⟨hrange, haccess, rfl⟩ := OutputWindow.room_eq_ok_iff.mp hroom
    show (if w.width < needed then _ else _) = _ ↔ _
    split
    · rename_i hshort
      exact ⟨nofun, fun h => absurd h.2.2.1 (Nat.not_le.mpr hshort)⟩
    · rename_i hlong
      constructor
      · rintro ⟨⟩
        exact ⟨hrange, haccess, Nat.not_lt.mp hlong, rfl⟩
      · rintro ⟨-, -, -, rfl⟩
        rfl

/-- Without a window nothing is written. -/
@[simp] theorem admits_none (needed : Nat) : vault.admits needed none = .ok false := rfl

/-- **A reply delivers bytes to a window**: it reports how many there are, and stores them at the
start of the window, where there is room for them. -/
structure Delivered (w : OutputWindow) (bytes : Bytes) (reply : Reply) : Prop where
  /-- The status is their number. -/
  status : reply.status.toInt = bytes.length
  /-- They are written. -/
  written : reply.written = bytes
  /-- The window has room for them. -/
  room : bytes.length ≤ w.width
  /-- They are stored, and nothing else is changed. -/
  stored : ∀ buffer : Bytes, buffer.length = w.size →
    Bytes.StoredAt w.start bytes buffer (w.store buffer reply.written)

/-- What is delivered through a window that admits it is all there, with its number reported. -/
theorem delivered_of_admits (vault : Vault) {w : OutputWindow} {bytes : Bytes}
    (h : vault.admits bytes.length (some w) = .ok true) (hlimit : bytes.length < wordLimit)
    (handle : Option Address) : Delivered w bytes ⟨Int32.ofNat bytes.length, handle, bytes⟩ := by
  obtain ⟨⟨-, -, hsize⟩, -, hroom, -⟩ := admits_some_iff.mp h
  unfold wordLimit at hlimit
  exact ⟨Int32.toInt_ofNat_of_lt (by omega), rfl, hroom, fun buffer hbuffer =>
    Bytes.storedAt_patch (by omega)⟩

/-! ## Lengths -/

/-- The length of a digest is reported if a word can hold it and no fault says otherwise. -/
theorem reportedLength_eq_ok_iff {context : DigestContext} {length : Int32} :
    vault.reportedLength context = .ok length ↔ vault.raised .int32Overflow1 = false
      ∧ context.length < wordLimit ∧ Int32.ofNat context.length = length := by
  simp only [reportedLength, bind_eq_ok_iff, demand_eq_ok_iff, pure_eq_ok_iff, Bool.not_eq_true',
    decide_eq_true_eq]
  constructor
  · rintro ⟨-, hraised, -, hlimit, hlength⟩
    exact ⟨hraised, hlimit, hlength⟩
  · rintro ⟨hraised, hlimit, hlength⟩
    exact ⟨(), hraised, (), hlimit, hlength⟩

/-! ## When checks fail -/

/-- **A check that fails with one of a few codes**, if it fails. -/
def Check.FailsIn (codes : List ErrorCode) (check : Check α) : Prop :=
  ∀ code, check = .error code → code ∈ codes

namespace Check.FailsIn

variable {codes more : List ErrorCode}

theorem ok (a : α) : FailsIn codes (.ok a : Check α) := nofun

theorem error (h : code ∈ codes) : FailsIn codes (.error code : Check α) := by
  rintro _ ⟨⟩
  exact h

theorem ite {condition : Prop} [Decidable condition] {yes no : Check α} (hyes : FailsIn codes yes)
    (hno : FailsIn codes no) : FailsIn codes (if condition then yes else no) := by
  split
  · exact hyes
  · exact hno

/-- What comes after a check fails with codes of its own. -/
theorem bind {check : Check α} {rest : α → Check β} (h : FailsIn codes check)
    (hrest : ∀ a, FailsIn codes (rest a)) : FailsIn codes (check >>= rest) := by
  cases check with
  | error code => exact error (h code rfl)
  | ok a => exact hrest a

theorem demand (condition : Bool) (h : code ∈ codes) :
    FailsIn codes (Check.demand condition code) := ite (ok ()) (error h)

theorem need (value : Option α) (h : code ∈ codes) : FailsIn codes (Check.need value code) := by
  cases value with
  | none => exact error h
  | some a => exact ok a

/-! ### Windows and names -/

/-- A window to read from, whatever the bytes are for. -/
theorem read (role : InputRole) (raised : FaultFlag → Bool) (window : Option InputWindow) :
    FailsIn [role.absent, .inputOffsetNegative, .inputLenNegative, role.outOfRange,
      role.inaccessible] (InputWindow.read role raised window) := by
  cases window with
  | none => exact error (by simp)
  | some w =>
    exact ite (error (by simp)) (ite (error (by simp)) (ite (error (by simp))
      (ite (error (by simp)) (ok _))))

/-- A window is refused for its offset, its length, its range or its access. -/
theorem room (raised : FaultFlag → Bool) (w : OutputWindow)
    (hoffset : .outputOffsetNegative ∈ codes) (hlen : .outputLenNegative ∈ codes)
    (hrange : .outputOutOfRange ∈ codes) (haccess : .failedAccessOutput ∈ codes) :
    FailsIn codes (w.room raised) :=
  ite (error hoffset) (ite (error hlen) (ite (error hrange) (ite (error haccess) (ok _))))

variable (vault)

/-- The five ways in which the bytes to be processed may not be there. -/
theorem input (window : Option InputWindow) :
    FailsIn [.inputIsNull, .inputOffsetNegative, .inputLenNegative, .inputOutOfRange,
      .failedAccessInput] (vault.input window) := read .data _ window

/-- The ways in which a window may be refused, one of them being that it is too small. -/
theorem admits (needed : Nat) (out : Option OutputWindow) :
    FailsIn [.outputOffsetNegative, .outputLenNegative, .outputOutOfRange, .failedAccessOutput,
      .outputTooSmall] (vault.admits needed out) := by
  cases out with
  | none => exact ok _
  | some w =>
    exact bind (room vault.raised w (by decide) (by decide) (by decide) (by decide))
      fun _ => ite (error (by decide)) (ok _)

/-- Where the window fixes the number of bytes, it has to be there, and cannot be too small. -/
theorem span (out : Option OutputWindow) :
    FailsIn [.outputIsNull, .outputOffsetNegative, .outputLenNegative, .outputOutOfRange,
      .failedAccessOutput] (vault.span out) := by
  cases out with
  | none => exact error (by decide)
  | some w => exact room vault.raised w (by decide) (by decide) (by decide) (by decide)

/-- A name is not there, cannot be accessed, or is not known. -/
theorem readName (name : Option Bytes) :
    FailsIn [.nameIsNull, .nameAccessFailed, .nameNotFound] (vault.readName name) :=
  bind (need name (by decide)) fun _ => bind (demand _ (by decide)) fun _ => need _ (by decide)

/-- A length that no word can hold is the only one that is not reported. -/
theorem reportedLength (context : DigestContext) :
    FailsIn [.outputTooLongInt32] (vault.reportedLength context) :=
  bind (demand _ (by decide)) fun _ => bind (demand _ (by decide)) fun _ => ok _

/-! ### Contexts -/

/-- A handle behind which there is no digest is not valid. -/
theorem digestAt (handle : Address) : FailsIn [.invalidHandle] (vault.digestAt handle) := by
  unfold Vault.digestAt
  split
  · exact ok _
  · exact error (by decide)

/-- A handle behind which there is no key container is not valid. -/
theorem containerAt (handle : Address) : FailsIn [.invalidHandle] (vault.containerAt handle) := by
  unfold Vault.containerAt
  split
  · exact ok _
  · exact error (by decide)

/-- A handle behind which there is no signature context is not valid. -/
theorem signatureAt (handle : Address) : FailsIn [.invalidHandle] (vault.signatureAt handle) := by
  unfold Vault.signatureAt
  split
  · exact ok _
  · exact error (by decide)

/-- A container without a key has a code of its own. -/
theorem keyAt (handle : Address) :
    FailsIn [.invalidHandle, .keySpecHasNullKey] (vault.keyAt handle) :=
  bind (fun code hcode => List.mem_append_left [_] (containerAt vault handle code hcode))
    fun _ => need _ (by decide)

/-- A key of another type has a code of its own. -/
theorem keyOfType (type : KeyType) (handle : Address) :
    FailsIn [.invalidHandle, .keySpecHasNullKey, .incorrectKeyType]
      (vault.keyOfType type handle) :=
  bind (fun code hcode => List.mem_append_left [_] (keyAt vault handle code hcode))
    fun _ => bind (demand _ (by decide)) fun _ => ok _

end Check.FailsIn

end Vault

end Custody
