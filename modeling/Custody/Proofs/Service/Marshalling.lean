import Custody.Proofs.Service.Calls
import Custody.Proofs.Text.Utf8
import Mathlib.Data.List.TakeWhile

/-!
# Marshalling never truncates

The arguments of a service method are strings, slices and natural numbers of any size; those of a
native call are bytes up to a zero byte and signed words of 32 bits. A method checks the arguments
that may have no form in the native interface (`Method.arguments`) one after the other, and either
all of them fit and its one native call conveys each argument as it was given
(`Method.Conveys`), or the first that does not fit ends it before any call
(`Method.marshalled`).

The rules of `Checked` follow a chain of checks from its front, one rule for each way to check an
argument, so that a method's own chain is read off its arguments.

That nothing is truncated means that the number in the native call is the number that the caller
gave, as integers, and not just the same up to a power of two. A number that does not fit into a
signed word is refused with a failure that names it. A name is refused if it has a zero byte, since
the library would read it up to there and no further.
-/

namespace Custody

variable {σ α β : Type}

/-! ## Arguments -/

/-- An argument that may have no form in the native interface. -/
inductive Argument
  /-- A name. -/
  | name (text : String)
  /-- A number that is an input; `what` names it in the failure. -/
  | number (what : String) (n : Nat)
  /-- The size of a buffer to be written. -/
  | size (n : Nat)

namespace Argument

/-- An argument that has a form in the native interface. -/
def Fits : Argument → Prop
  | name text => '\x00' ∉ text.toList
  | number _ n | size n => (n : Int) ≤ Int32.maxValue.toInt

/-- **The failure of an argument** that does not fit. -/
def refusal : Argument → Failure
  | name text => .invalidArgument ("name " ++ Text.quoted text ++ " contains a NUL byte")
  | number what n => .native .sizeOverflow .inputTooLongInt32
      (what ++ " " ++ toString n ++ " exceeds i32" ++ ": " ++ ErrorCode.inputTooLongInt32.message)
  | size n => .native .sizeOverflow .outputTooLongInt32 ("output length" ++ " " ++ toString n
      ++ " exceeds i32" ++ ": " ++ ErrorCode.outputTooLongInt32.message)

/-- **The kind of that failure**: a number or a size overflows, and what is wrong with a name is
none of the kinds that the native library reports. -/
def refusalKind? : Argument → Option FailureKind
  | name _ => none
  | number .. | size _ => some .sizeOverflow

theorem kind?_refusal (argument : Argument) :
    argument.refusal.kind? = argument.refusalKind? := by
  cases argument <;> rfl

end Argument

/-! ## What conveys an argument -/

/-- A word with the value of a number. -/
def Conveyed (n : Nat) (word : Int32) : Prop := word.toInt = n

/-- The bytes of a name, which does not end before its last byte. -/
def Spelled (name : String) (bytes : Bytes) : Prop :=
  bytes = Text.utf8 name ∧ Call.nameBytes bytes = bytes

/-- A window onto a part of the data. -/
structure InputWindow.Shows (w : InputWindow) (data : Bytes) (offset len : Nat) : Prop where
  /-- The data. -/
  data : w.data = data
  /-- Where the part starts. -/
  offset : Conveyed offset w.offset
  /-- How many bytes it has. -/
  len : Conveyed len w.len

/-- A window onto all of a buffer of a size. -/
structure OutputWindow.Spans (w : OutputWindow) (n : Nat) : Prop where
  /-- The size of the buffer. -/
  size : w.size = n
  /-- It starts at the start. -/
  offset : Conveyed 0 w.offset
  /-- It ends at the end. -/
  len : Conveyed n w.len

/-! ## Chains of checks -/

/-- **A result of checked arguments**: a value where all of them fit, and otherwise the failure of
the first that does not. -/
def Checked (arguments : List Argument) (Good : α → Prop) : Except Failure α → Prop
  | .ok a => (∀ argument ∈ arguments, argument.Fits) ∧ Good a
  | .error failure => ∃ before argument later, arguments = before ++ argument :: later
      ∧ (∀ earlier ∈ before, earlier.Fits) ∧ ¬ argument.Fits ∧ failure = argument.refusal

namespace Checked

variable {arguments : List Argument} {Good : β → Prop}

/-- Without arguments there is nothing to check. -/
theorem ok {Good : α → Prop} {a : α} (h : Good a) : Checked [] Good (.ok a) :=
  ⟨List.forall_mem_nil _, h⟩

/-- **A check at the front**, of one argument. -/
theorem bind {argument : Argument} {Formed : α → Prop} {check : Except Failure α}
    {rest : α → Except Failure β} (hcheck : Checked [argument] Formed check)
    (hrest : ∀ a, Formed a → Checked arguments Good (rest a)) :
    Checked (argument :: arguments) Good (check >>= rest) := by
  cases check with
  | error failure =>
    obtain ⟨before, misfit, later, hargument, hbefore, hmisfit, rfl⟩ := hcheck
    refine ⟨before, misfit, later ++ arguments, ?_, hbefore, hmisfit, rfl⟩
    rw [← List.singleton_append, hargument, List.append_assoc, List.cons_append]
  | ok a =>
    have hfits : argument.Fits := hcheck.1 argument (List.mem_singleton_self _)
    have hchecked := hrest a hcheck.2
    show Checked (argument :: arguments) Good (rest a)
    cases hresult : rest a with
    | ok b =>
      rw [hresult] at hchecked
      exact ⟨List.forall_mem_cons.mpr ⟨hfits, hchecked.1⟩, hchecked.2⟩
    | error failure =>
      rw [hresult] at hchecked
      obtain ⟨before, misfit, later, harguments, hbefore, hmisfit⟩ := hchecked
      exact ⟨argument :: before, misfit, later, by rw [harguments, List.cons_append],
        List.forall_mem_cons.mpr ⟨hfits, hbefore⟩, hmisfit⟩

/-- A check that fails where its argument does not fit. -/
theorem of_not_fits (argument : Argument) {Formed : α → Prop} (h : ¬ argument.Fits) :
    Checked [argument] Formed (.error argument.refusal) :=
  ⟨[], argument, [], rfl, List.forall_mem_nil _, h, rfl⟩

/-- A check that gives a value where its argument fits. -/
theorem of_fits (argument : Argument) {Formed : α → Prop} {a : α} (h : argument.Fits)
    (ha : Formed a) : Checked [argument] Formed (.ok a) :=
  ⟨List.forall_mem_singleton.mpr h, ha⟩

end Checked

namespace Request

/-! ## The checks -/

theorem checked_nameArgument (text : String) :
    Checked [.name text] (Spelled text) (nameArgument text) := by
  by_cases h : '\x00' ∈ text.toList
  · rw [nameArgument, if_pos h]
    exact Checked.of_not_fits (.name text) (not_not_intro h)
  · rw [nameArgument, if_neg h]
    refine Checked.of_fits (.name text) h ⟨rfl, ?_⟩
    refine List.takeWhile_eq_self_iff.mpr fun byte hbyte => decide_eq_true ?_
    rintro rfl
    exact Text.zero_notMem_utf8 h hbyte

/-- A number fits in a signed word of 32 bits where it is below the limit of these. -/
theorem lt_wordLimit_iff {n : Nat} : n < wordLimit ↔ (n : Int) ≤ Int32.maxValue.toInt := by
  show n < 0x80000000 ↔ (n : Int) ≤ 0x7fffffff
  omega

/-- A number below the limit keeps its value. -/
theorem conveyed_ofNat {n : Nat} (h : n < wordLimit) : Conveyed n (Int32.ofNat n) :=
  Int32.toInt_ofNat_of_lt h

theorem checked_inputNumber (what : String) (n : Nat) :
    Checked [.number what n] (Conveyed n) (inputNumber what n) := by
  by_cases h : n < wordLimit
  · rw [inputNumber, numberArgument, if_pos h]
    exact Checked.of_fits (.number what n) (lt_wordLimit_iff.mp h) (conveyed_ofNat h)
  · rw [inputNumber, numberArgument, if_neg h]
    exact Checked.of_not_fits (.number what n) (h ∘ lt_wordLimit_iff.mpr)

theorem checked_outputArgument (size : Nat) :
    Checked [.size size] (OutputWindow.Spans · size) (outputArgument size) := by
  by_cases h : size < wordLimit
  · rw [outputArgument, numberArgument, if_pos h]
    exact Checked.of_fits (.size size) (lt_wordLimit_iff.mp h)
      ⟨rfl, rfl, conveyed_ofNat h⟩
  · rw [outputArgument, numberArgument, if_neg h]
    exact Checked.of_not_fits (.size size) (h ∘ lt_wordLimit_iff.mpr)

end Request

namespace Checked

open Request

variable {arguments : List Argument} {Good : β → Prop}

/-! ## Rules for the checks -/

theorem name {text : String} {rest : Bytes → Except Failure β}
    (h : ∀ bytes, Spelled text bytes → Checked arguments Good (rest bytes)) :
    Checked (.name text :: arguments) Good (nameArgument text >>= rest) :=
  bind (checked_nameArgument text) h

theorem number {what : String} {n : Nat} {rest : Int32 → Except Failure β}
    (h : ∀ word, Conveyed n word → Checked arguments Good (rest word)) :
    Checked (.number what n :: arguments) Good (inputNumber what n >>= rest) :=
  bind (checked_inputNumber what n) h

/-- A part of the data has two numbers. -/
theorem part {data : Bytes} {offset len : Nat} {rest : InputWindow → Except Failure β}
    (h : ∀ w : InputWindow, w.Shows data offset len → Checked arguments Good (rest w)) :
    Checked (.number "input offset" offset :: .number "input length" len :: arguments) Good
      (partArgument data offset len >>= rest) := by
  rw [partArgument, bind_assoc]
  refine number fun start hstart => ?_
  rw [bind_assoc]
  exact number fun width hwidth => h ⟨data, start, width⟩ ⟨rfl, hstart, hwidth⟩

/-- All of the data starts at 0, which fits. -/
theorem whole {data : Bytes} {rest : InputWindow → Except Failure β}
    (h : ∀ w : InputWindow, w.Shows data 0 data.length → Checked arguments Good (rest w)) :
    Checked (.number "input length" data.length :: arguments) Good
      (wholeArgument data >>= rest) := by
  rw [wholeArgument, partArgument, bind_assoc]
  show Checked _ Good ((inputNumber "input length" data.length >>= _) >>= rest)
  rw [bind_assoc]
  exact number fun width hwidth => h ⟨data, 0, width⟩ ⟨rfl, rfl, hwidth⟩

theorem output {size : Nat} {rest : OutputWindow → Except Failure β}
    (h : ∀ w : OutputWindow, w.Spans size → Checked arguments Good (rest w)) :
    Checked (.size size :: arguments) Good (outputArgument size >>= rest) :=
  bind (checked_outputArgument size) h

end Checked

/-! ## Methods -/

/-- **The methods** for digests, keys, key encapsulation, key derivation and signatures. They are
the requests (`Request`) as a caller makes them: where a request has a size, a method has the slice
to be written, `out`. -/
inductive Method
  | digestAllocate (name : String) (outputLength : Nat)
  | digestFeedByte (handle : Address) (byte : UInt8)
  | digestFeed (handle : Address) (data : Bytes) (offset len : Nat)
  | digestLength (handle : Address)
  | digestFinish (handle : Address) (out : Bytes)
  | digestReset (handle : Address)
  | keyAllocate
  | keyGenerate (handle : Address) (type : KeyType)
  | keyDecode (handle : Address) (part : KeyPart) (type : KeyType) (data : Bytes)
  | keyEncodedLength (handle : Address) (part : KeyPart)
  | keyEncode (handle : Address) (part : KeyPart) (out : Bytes)
  | keyType (handle : Address)
  | encapsulatedLength (key : Address)
  | encapsulate (key : Address) (out : Bytes)
  | decapsulate (key : Address) (ciphertext out : Bytes)
  | secretLength (key : Address)
  | pbkdf2 (digest : String) (password salt : Bytes) (iterations : Nat) (out : Bytes)
  | hkdf (digest : String) (material salt info out : Bytes)
  | scrypt (password salt : Bytes) (n r p : Nat) (out : Bytes)
  | signatureAllocate
  | signatureInitSign (handle key : Address)
  | signatureInitVerify (handle key : Address)
  | signatureFeed (handle : Address) (data : Bytes) (offset len : Nat)
  | signatureLength (handle : Address)
  | signatureSign (handle : Address) (out : Bytes)
  | signatureVerify (handle : Address) (signature : Bytes)
  /-- Frees a context of a domain. -/
  | dispose (domain : Held.Domain) (handle : Address)

namespace Method

/-- The service call of a method. -/
def call : Method → ServiceCall
  | digestAllocate name outputLength => .allocate (.digestAllocate name outputLength)
  | digestFeedByte handle byte => .perform (.digestFeedByte handle byte)
  | digestFeed handle data offset len => .perform (.digestFeed handle data offset len)
  | digestLength handle => .number (.digestLength handle)
  | digestFinish handle out => .fill (.digestFinish handle) out
  | digestReset handle => .perform (.digestReset handle)
  | keyAllocate => .allocate .keyAllocate
  | keyGenerate handle type => .perform (.keyGenerate handle type)
  | keyDecode handle part type data => .perform (.keyDecode handle part type data)
  | keyEncodedLength handle part => .number (.keyEncodedLength handle part)
  | keyEncode handle part out => .fill (.keyEncode handle part) out
  | keyType handle => .keyType handle
  | encapsulatedLength key => .number (.encapsulatedLength key)
  | encapsulate key out => .fill (.encapsulate key) out
  | decapsulate key ciphertext out => .fill (.decapsulate key ciphertext) out
  | secretLength key => .number (.secretLength key)
  | pbkdf2 digest password salt iterations out =>
    .fill (.pbkdf2 digest password salt iterations) out
  | hkdf digest material salt info out => .fill (.hkdf digest material salt info) out
  | scrypt password salt n r p out => .fill (.scrypt password salt n r p) out
  | signatureAllocate => .allocate .signatureAllocate
  | signatureInitSign handle key => .perform (.signatureInitSign handle key)
  | signatureInitVerify handle key => .perform (.signatureInitVerify handle key)
  | signatureFeed handle data offset len => .perform (.signatureFeed handle data offset len)
  | signatureLength handle => .number (.signatureLength handle)
  | signatureSign handle out => .fill (.signatureSign handle) out
  | signatureVerify handle signature => .verify handle signature
  | dispose domain handle => .dispose domain handle

/-- **The arguments that a method checks**, in its order. -/
def arguments : Method → List Argument
  | digestAllocate name outputLength => [.name name, .number "XOF length" outputLength]
  | digestFeed _ _ offset len | signatureFeed _ _ offset len =>
    [.number "input offset" offset, .number "input length" len]
  | digestFinish _ out | keyEncode _ _ out | encapsulate _ out | signatureSign _ out =>
    [.size out.length]
  | keyDecode _ _ _ data => [.number "input length" data.length]
  | decapsulate _ ciphertext out => [.number "input length" ciphertext.length, .size out.length]
  | pbkdf2 digest password salt iterations out =>
    [.name digest, .number "iterations" iterations, .number "input length" password.length,
      .number "input length" salt.length, .size out.length]
  | hkdf digest material salt info out =>
    [.name digest, .number "input length" material.length, .number "input length" salt.length,
      .number "input length" info.length, .size out.length]
  | scrypt password salt n r p out =>
    [.number "scrypt N" n, .number "scrypt r" r, .number "scrypt p" p,
      .number "input length" password.length, .number "input length" salt.length,
      .size out.length]
  | signatureVerify _ signature => [.number "input length" signature.length]
  | _ => []

/-- **The native call of a method**, with every argument as the caller gave it. -/
inductive Conveys : Method → Call → Prop
  | digestAllocate {name : String} {outputLength : Nat} {bytes : Bytes} {word : Int32}
    (hname : Spelled name bytes) (hlength : Conveyed outputLength word) :
    Conveys (.digestAllocate name outputLength) (.digestAllocate (some bytes) word true)
  | digestFeedByte {handle : Address} {byte : UInt8} :
    Conveys (.digestFeedByte handle byte) (.digestFeedByte handle byte)
  | digestFeed {handle : Address} {data : Bytes} {offset len : Nat} {w : InputWindow}
    (hdata : w.Shows data offset len) :
    Conveys (.digestFeed handle data offset len) (.digestFeed handle (some w))
  | digestLength {handle : Address} : Conveys (.digestLength handle) (.digestLength handle)
  | digestFinish {handle : Address} {out : Bytes} {w : OutputWindow} (hout : w.Spans out.length) :
    Conveys (.digestFinish handle out) (.digestFinish handle (some w))
  | digestReset {handle : Address} : Conveys (.digestReset handle) (.digestReset handle)
  | keyAllocate : Conveys .keyAllocate (.keyAllocate true)
  | keyGenerate {handle : Address} {type : KeyType} :
    Conveys (.keyGenerate handle type) (.keyGenerate handle type.number)
  | keyDecodePublic {handle : Address} {type : KeyType} {data : Bytes} {w : InputWindow}
    (hdata : w.Shows data 0 data.length) :
    Conveys (.keyDecode handle .publicHalf type data)
      (.keyDecodePublic handle type.number (some w))
  | keyDecodePrivate {handle : Address} {type : KeyType} {data : Bytes} {w : InputWindow}
    (hdata : w.Shows data 0 data.length) :
    Conveys (.keyDecode handle .privateHalf type data)
      (.keyDecodePrivate handle type.number (some w))
  | keyPublicLength {handle : Address} :
    Conveys (.keyEncodedLength handle .publicHalf) (.keyEncodePublic handle none)
  | keyPrivateLength {handle : Address} :
    Conveys (.keyEncodedLength handle .privateHalf) (.keyEncodePrivate handle none)
  | keyEncodePublic {handle : Address} {out : Bytes} {w : OutputWindow}
    (hout : w.Spans out.length) :
    Conveys (.keyEncode handle .publicHalf out) (.keyEncodePublic handle (some w))
  | keyEncodePrivate {handle : Address} {out : Bytes} {w : OutputWindow}
    (hout : w.Spans out.length) :
    Conveys (.keyEncode handle .privateHalf out) (.keyEncodePrivate handle (some w))
  | keyType {handle : Address} : Conveys (.keyType handle) (.keyType handle)
  | encapsulatedLength {key : Address} : Conveys (.encapsulatedLength key) (.encapsulate key none)
  | encapsulate {key : Address} {out : Bytes} {w : OutputWindow} (hout : w.Spans out.length) :
    Conveys (.encapsulate key out) (.encapsulate key (some w))
  | decapsulate {key : Address} {ciphertext out : Bytes} {c : InputWindow} {w : OutputWindow}
    (hciphertext : c.Shows ciphertext 0 ciphertext.length) (hout : w.Spans out.length) :
    Conveys (.decapsulate key ciphertext out) (.decapsulate key (some c) (some w))
  | secretLength {key : Address} : Conveys (.secretLength key) (.secretLength key)
  | pbkdf2 {digest : String} {password salt : Bytes} {iterations : Nat} {out bytes : Bytes}
    {p s : InputWindow} {word : Int32} {w : OutputWindow} (hdigest : Spelled digest bytes)
    (hpassword : p.Shows password 0 password.length) (hsalt : s.Shows salt 0 salt.length)
    (hiterations : Conveyed iterations word) (hout : w.Spans out.length) :
    Conveys (.pbkdf2 digest password salt iterations out)
      (.pbkdf2 (some bytes) (some p) (some s) word (some w))
  | hkdf {digest : String} {material salt info out bytes : Bytes} {m s i : InputWindow}
    {w : OutputWindow} (hdigest : Spelled digest bytes)
    (hmaterial : m.Shows material 0 material.length) (hsalt : s.Shows salt 0 salt.length)
    (hinfo : i.Shows info 0 info.length) (hout : w.Spans out.length) :
    Conveys (.hkdf digest material salt info out)
      (.hkdf (some bytes) (some m) (some s) (some i) (some w))
  | scrypt {password salt : Bytes} {n r p : Nat} {out : Bytes} {pw s : InputWindow}
    {nWord rWord pWord : Int32} {w : OutputWindow}
    (hpassword : pw.Shows password 0 password.length) (hsalt : s.Shows salt 0 salt.length)
    (hn : Conveyed n nWord) (hr : Conveyed r rWord) (hp : Conveyed p pWord)
    (hout : w.Spans out.length) :
    Conveys (.scrypt password salt n r p out)
      (.scrypt (some pw) (some s) nWord rWord pWord (some w))
  | signatureAllocate : Conveys .signatureAllocate (.signatureAllocate true)
  | signatureInitSign {handle key : Address} :
    Conveys (.signatureInitSign handle key) (.signatureInitSign handle key)
  | signatureInitVerify {handle key : Address} :
    Conveys (.signatureInitVerify handle key) (.signatureInitVerify handle key)
  | signatureFeed {handle : Address} {data : Bytes} {offset len : Nat} {w : InputWindow}
    (hdata : w.Shows data offset len) :
    Conveys (.signatureFeed handle data offset len) (.signatureFeed handle (some w))
  | signatureLength {handle : Address} :
    Conveys (.signatureLength handle) (.signatureSign handle none)
  | signatureSign {handle : Address} {out : Bytes} {w : OutputWindow} (hout : w.Spans out.length) :
    Conveys (.signatureSign handle out) (.signatureSign handle (some w))
  | signatureVerify {handle : Address} {signature : Bytes} {w : InputWindow}
    (hsignature : w.Shows signature 0 signature.length) :
    Conveys (.signatureVerify handle signature) (.signatureVerify handle (some w))
  | digestDispose {handle : Address} : Conveys (.dispose .digest handle) (.digestDispose handle)
  | keyDispose {handle : Address} : Conveys (.dispose .keySpec handle) (.keyDispose handle)
  | signatureDispose {handle : Address} :
    Conveys (.dispose .signature handle) (.signatureDispose handle)

/-- The native call of a method is not for diagnostics. -/
theorem Conveys.symbol_ne_drain {method : Method} {native : Call} (h : method.Conveys native) :
    native.symbol ≠ .drain := by
  cases h <;> exact Symbol.noConfusion

/-- **The checks of a method** are those of its arguments, one after the other, and the call at
their end conveys them. -/
theorem checked (method : Method) :
    Checked method.arguments method.Conveys method.call.native := by
  cases method with
  | digestAllocate =>
    exact .name fun _ hname => .number fun _ hlength => .ok (.digestAllocate hname hlength)
  | digestFeed => exact .part fun _ hdata => .ok (.digestFeed hdata)
  | digestFinish => exact .output fun _ hout => .ok (.digestFinish hout)
  | keyDecode handle part =>
    refine .whole fun _ hdata => .ok ?_
    cases part with
    | publicHalf => exact .keyDecodePublic hdata
    | privateHalf => exact .keyDecodePrivate hdata
  | keyEncodedLength handle part =>
    cases part with
    | publicHalf => exact .ok .keyPublicLength
    | privateHalf => exact .ok .keyPrivateLength
  | keyEncode handle part =>
    refine .output fun _ hout => .ok ?_
    cases part with
    | publicHalf => exact .keyEncodePublic hout
    | privateHalf => exact .keyEncodePrivate hout
  | encapsulate => exact .output fun _ hout => .ok (.encapsulate hout)
  | decapsulate =>
    exact .whole fun _ hciphertext => .output fun _ hout => .ok (.decapsulate hciphertext hout)
  | pbkdf2 =>
    exact .name fun _ hdigest => .number fun _ hiterations => .whole fun _ hpassword =>
      .whole fun _ hsalt => .output fun _ hout =>
        .ok (.pbkdf2 hdigest hpassword hsalt hiterations hout)
  | hkdf =>
    exact .name fun _ hdigest => .whole fun _ hmaterial => .whole fun _ hsalt =>
      .whole fun _ hinfo => .output fun _ hout => .ok (.hkdf hdigest hmaterial hsalt hinfo hout)
  | scrypt =>
    exact .number fun _ hn => .number fun _ hr => .number fun _ hp => .whole fun _ hpassword =>
      .whole fun _ hsalt => .output fun _ hout => .ok (.scrypt hpassword hsalt hn hr hp hout)
  | signatureFeed => exact .part fun _ hdata => .ok (.signatureFeed hdata)
  | signatureSign => exact .output fun _ hout => .ok (.signatureSign hout)
  | signatureVerify => exact .whole fun _ hsignature => .ok (.signatureVerify hsignature)
  | dispose domain =>
    cases domain with
    | digest => exact .ok .digestDispose
    | keySpec => exact .ok .keyDispose
    | signature => exact .ok .signatureDispose
  | digestFeedByte => exact .ok .digestFeedByte
  | digestLength => exact .ok .digestLength
  | digestReset => exact .ok .digestReset
  | keyAllocate => exact .ok .keyAllocate
  | keyGenerate => exact .ok .keyGenerate
  | keyType => exact .ok .keyType
  | encapsulatedLength => exact .ok .encapsulatedLength
  | secretLength => exact .ok .secretLength
  | signatureAllocate => exact .ok .signatureAllocate
  | signatureInitSign => exact .ok .signatureInitSign
  | signatureInitVerify => exact .ok .signatureInitVerify
  | signatureLength => exact .ok .signatureLength

/-- A method makes a request, unless it frees a context. -/
theorem asks_or_dispose (method : Method) : (∃ request, method.call.asks = .inl request)
    ∨ ∃ domain handle, method = .dispose domain handle := by
  cases method
  case dispose domain handle => exact .inr ⟨domain, handle, rfl⟩
  all_goals exact .inl ⟨_, rfl⟩

/-! ## The native calls of a method -/

variable (backend : Backend σ) (method : Method) (state : σ)

/-- **What comes of the arguments of a method**, with every native call noted. -/
inductive Marshalled : Prop
  /-- All arguments fit. One native call conveys them, and no other is made but for diagnostics,
  where it fails. -/
  | conveyed (native : Call) (drains : List (Note σ))
    (hfits : ∀ argument ∈ method.arguments, argument.Fits)
    (hconveys : method.Conveys native)
    (hnative : native.symbol ≠ .drain)
    (hlog : (method.call.serve backend.recorded ⟨state, []⟩).2.log
      = ⟨state, native, (backend.submit native state).1⟩ :: drains)
    (hdrains : ∀ note ∈ drains, note.call.symbol = .drain)
    (hquiet : 0 ≤ (backend.submit native state).1.status → drains = [])
  /-- An argument does not fit, and all before it do. The method fails by that argument; there is no
  native call, and library and buffer are as they were. -/
  | refused (before : List Argument) (argument : Argument) (later : List Argument)
    (harguments : method.arguments = before ++ argument :: later)
    (hbefore : ∀ earlier ∈ before, earlier.Fits)
    (hmisfit : ¬ argument.Fits)
    (hkind : argument.refusal.kind? = argument.refusalKind?)
    (hserve : method.call.serve backend.recorded ⟨state, []⟩
      = (⟨.error (.failed argument.refusal), method.call.buffer⟩, ⟨state, []⟩))

/-- **Marshalling never truncates.** -/
theorem marshalled : method.Marshalled backend state := by
  have hchecked := method.checked
  cases hnative : method.call.native with
  | error failure =>
    rw [hnative] at hchecked
    obtain ⟨before, argument, later, harguments, hbefore, hmisfit, rfl⟩ := hchecked
    refine .refused before argument later harguments hbefore hmisfit argument.kind?_refusal ?_
    obtain ⟨request, hasks⟩ | ⟨domain, handle, rfl⟩ := method.asks_or_dispose
    · have hcall : request.call = .error argument.refusal := by
        rw [← hnative, ServiceCall.native, hasks]
      exact ServiceCall.serve_of_error backend.recorded hasks
        (Library.exchange_of_error _ _ _ hcall)
    · cases hnative
  | ok native =>
    rw [hnative] at hchecked
    obtain ⟨hfits, hconveys⟩ := hchecked
    obtain ⟨request, hasks⟩ | ⟨domain, handle, rfl⟩ := method.asks_or_dispose
    · have hcall : request.call = .ok native := by rw [← hnative, ServiceCall.native, hasks]
      obtain ⟨drains, hlog, hdrains, hquiet⟩ := backend.log_exchange hcall ⟨state, []⟩
      refine .conveyed native drains hfits hconveys hconveys.symbol_ne_drain ?_ hdrains hquiet
      rw [ServiceCall.serve_snd backend.recorded hasks, hlog, List.nil_append]
    · cases hnative
      exact .conveyed _ [] hfits hconveys hconveys.symbol_ne_drain rfl (List.forall_mem_nil _)
        fun _ => rfl

end Method

end Custody
