import Custody.Proofs.Vault.History

/-!
# Digests of what was fed

A digest context that is allocated and not freed gathers what is fed to it, through everything
else that goes on in the library: calls for other contexts, questions for the length, faults that
are raised and cleared, and calls that fail. A digest that is written is that of the bytes gathered
since the context was allocated, reset or last wrote a digest
(`Vault.digest_of_what_was_fed`), and the context starts afresh with it.

What each call does to the context is said once (`Vault.get?_answer_digest`); the rest follows by
induction over the run.

The reference is the list of bytes that successful calls have fed, read off the notes of the run
from its end (`gathered`). Failing calls leave no bytes there, and neither do calls for another
context. The hash itself is not looked into: it is a function of the algorithm, the length and the
message, and the statement is that the message is the right one.
-/

namespace Custody

open Hash

/-! ## Algorithms -/

namespace Hash.Algorithm

/-- The algorithm that the bytes behind a pointer name. -/
def named? (name : Option Bytes) : Option Algorithm :=
  name.bind fun bytes => (Text.utf8Decode? (Call.nameBytes bytes)).bind ofName?

/-- **The output length** of a context: what the algorithm fixes, or else what the caller asks for,
with 32 for one who does not ask. -/
def outputLength (algorithm : Algorithm) (asked : Int32) : Nat :=
  algorithm.fixedLength?.getD (if asked = 0 then Vault.defaultLength else asked.toInt.toNat)

/-- A digest of the output length has that length. -/
theorem length_digest_outputLength (algorithm : Algorithm) (asked : Int32) (message : Bytes) :
    (algorithm.digest (algorithm.outputLength asked) message).length
      = algorithm.outputLength asked := by
  rw [length_digest, outputLength]
  cases algorithm.fixedLength? <;> rfl

end Hash.Algorithm

/-! ## Calls -/

namespace Call

/-- What a call feeds to the digest at an address. -/
def feedsDigest (handle : Address) : Call → Bytes
  | digestFeedByte other byte => if other = handle then [byte] else []
  | digestFeed other (some window) => if other = handle then window.addressed else []
  | _ => []

/-- Whether a call starts the digest at an address afresh. -/
def restartsDigest (handle : Address) : Call → Bool
  | digestReset other | digestFinish other (some _) => other = handle
  | _ => false

/-- A call that does not change the digest at an address neither feeds nor restarts it. -/
theorem feedsDigest_of_changes? {handle : Address} {call : Call}
    (h : call.changes? ≠ some (handle, .digest)) :
    call.feedsDigest handle = [] ∧ call.restartsDigest handle = false := by
  have hne : ∀ other, some (other, Held.Domain.digest) ≠ some (handle, .digest) →
      other ≠ handle := by
    rintro other hother rfl
    exact hother rfl
  cases call with
  | digestFeedByte other byte => exact ⟨if_neg (hne other h), rfl⟩
  | digestFeed other window =>
    cases window with
    | none => exact ⟨rfl, rfl⟩
    | some window => exact ⟨if_neg (hne other h), rfl⟩
  | digestFinish other out =>
    cases out with
    | none => exact ⟨rfl, rfl⟩
    | some w => exact ⟨rfl, decide_eq_false (hne other h)⟩
  | digestReset other => exact ⟨rfl, decide_eq_false (hne other h)⟩
  | _ => exact ⟨rfl, rfl⟩

end Call

namespace Vault

open Check Step

variable {vault : Vault} {handle : Address} {supply : Supply} {call : Call} {grant : Grant}
  {context : DigestContext}

/-! ## When the calls for digests are granted -/

theorem digestLengthFor_ends (vault : Vault) (name : String) (algorithm : Algorithm)
    (asked : Int32) : (digestLengthFor name algorithm asked).Ends (.start vault)
      (fun length after => after = .start vault ∧ length = algorithm.outputLength asked)
      fun _ _ => True := by
  unfold digestLengthFor Algorithm.outputLength
  split
  · rename_i fixed hfixed
    rw [hfixed]
    exact Ends.ite (fun _ => Ends.failSaying trivial) fun _ => Ends.pure ⟨rfl, rfl⟩
  · rename_i hfixed
    rw [hfixed]
    exact Ends.isRaised (fun _ => Ends.failSaying trivial) fun _ => Ends.pure ⟨rfl, rfl⟩

/-- What an allocation that is granted does. -/
theorem digestAllocate_eq_ok {address : Address} {name : Option Bytes} {asked : Int32} {slot : Bool}
    (h : (digestAllocate address name asked slot).on vault = .ok grant) :
    ∃ algorithm, Algorithm.named? name = some algorithm
      ∧ grant
        = vault.allocated address (.digest ⟨algorithm, algorithm.outputLength asked, []⟩) := by
  simp only [digestAllocate, readName, on_demand_eq_ok_iff, on_look_eq_ok_iff, on_need_eq_ok_iff,
    on_unraised_eq_ok_iff, bind_eq_ok_iff, need_eq_ok_iff] at h
  obtain ⟨-, text, ⟨bytes, hname, _, -, htext⟩, algorithm, halgorithm, -, -, -, hlength⟩ := h
  obtain ⟨_, rfl, hgrant⟩ := on_bind_eq_ok (digestLengthFor_ends vault text algorithm asked) hlength
  refine ⟨algorithm, ?_, (Except.ok.inj hgrant).symm⟩
  rw [Algorithm.named?, hname, Option.bind_some, htext, Option.bind_some, halgorithm]

theorem digestFeedBytes_eq_ok_iff {data : Bytes} :
    (digestFeedBytes handle context data).on vault = .ok grant ↔ vault.raised .nativeError1 = false
      ∧ (vault.set handle (.digest (context.feed data))).report 0 = grant := by
  rw [digestFeedBytes, on_isRaised]
  cases vault.raised .nativeError1 with
  | true => exact ⟨nofun, nofun⟩
  | false => exact ⟨fun h => ⟨rfl, Except.ok.inj h⟩, fun h => congrArg _ h.2⟩

theorem digestFeedByte_eq_ok_iff {byte : UInt8} :
    (digestFeedByte handle byte).on vault = .ok grant ↔
      ∃ context, vault.contexts.get? handle = some (.digest context)
        ∧ vault.raised .nativeError1 = false
        ∧ (vault.set handle (.digest (context.feed [byte]))).report 0 = grant := by
  simp only [digestFeedByte, on_look_eq_ok_iff, digestAt_eq_ok_iff, digestFeedBytes_eq_ok_iff]

theorem digestFeed_eq_ok_iff {window : Option InputWindow} :
    (digestFeed handle window).on vault = .ok grant ↔
      ∃ context, vault.contexts.get? handle = some (.digest context)
        ∧ ∃ data, vault.input window = .ok data ∧ vault.raised .nativeError1 = false
        ∧ (vault.set handle (.digest (context.feed data))).report 0 = grant := by
  simp only [digestFeed, on_look_eq_ok_iff, digestAt_eq_ok_iff, digestFeedBytes_eq_ok_iff]

theorem digestLength_eq_ok_iff : (digestLength handle).on vault = .ok grant ↔
    ∃ context, vault.contexts.get? handle = some (.digest context)
      ∧ ∃ length, vault.reportedLength context = .ok length ∧ vault.report length = grant := by
  simp only [digestLength, on_look_eq_ok_iff, digestAt_eq_ok_iff, on_looked_eq_ok_iff]

theorem digestReset_eq_ok_iff : (digestReset handle).on vault = .ok grant ↔
    ∃ context, vault.contexts.get? handle = some (.digest context)
      ∧ (vault.set handle (.digest context.fresh)).report 0 = grant := by
  simp only [digestReset, on_look_eq_ok_iff, digestAt_eq_ok_iff, on_put, on_pure, Except.ok.injEq]

/-- A question for the length is answered without a change. -/
theorem digestFinish_none_eq_ok (h : (digestFinish handle none).on vault = .ok grant) :
    ∃ length, vault.report length = grant := by
  simp only [digestFinish, on_look_eq_ok_iff, admits_none] at h
  obtain ⟨_, -, length, -, _, hnone, hgrant⟩ := h
  cases hnone
  exact ⟨length, Except.ok.inj hgrant⟩

theorem digestFinish_some_eq_ok_iff {w : OutputWindow} :
    (digestFinish handle (some w)).on vault = .ok grant ↔
      ∃ context, vault.contexts.get? handle = some (.digest context)
        ∧ vault.raised .int32Overflow1 = false ∧ context.length < wordLimit
        ∧ vault.admits context.length (some w) = .ok true ∧ vault.raised .nativeError2 = false
        ∧ (vault.set handle (.digest context.fresh)).deliver context.digest = grant := by
  simp only [digestFinish, on_look_eq_ok_iff, digestAt_eq_ok_iff, reportedLength_eq_ok_iff]
  constructor
  · rintro ⟨context, hcontext, length, ⟨hraised, hlimit, -⟩, admitted, hadmitted, hgrant⟩
    obtain rfl : admitted = true := (admits_some_iff.mp hadmitted).2.2.2
    rw [if_pos rfl, on_isRaised] at hgrant
    split at hgrant
    · cases hgrant
    · rename_i hnative
      exact ⟨context, hcontext, hraised, hlimit, hadmitted, Bool.eq_false_iff.mpr hnative,
        Except.ok.inj hgrant⟩
  · rintro ⟨context, hcontext, hraised, hlimit, hadmitted, hnative, rfl⟩
    refine ⟨context, hcontext, _, ⟨hraised, hlimit, rfl⟩, true, hadmitted, ?_⟩
    rw [if_pos rfl, on_isRaised, hnative]
    rfl

/-! ## One call -/

/-- What a call that succeeds makes of a digest. -/
def DigestContext.under (context : DigestContext) (handle : Address) (call : Call) :
    DigestContext :=
  if call.restartsDigest handle then context.fresh else context.feed (call.feedsDigest handle)

@[simp] theorem DigestContext.feed_nil (context : DigestContext) : context.feed [] = context := by
  rw [DigestContext.feed, List.append_nil]

/-- A call for the digest at an address, other than to free it, that is granted. -/
theorem get?_grant_digest (hcontext : vault.contexts.get? handle = some (.digest context))
    (hverdict : vault.verdict supply call = .ok grant)
    (hchanges : call.changes? = some (handle, .digest)) (hdispose : call ≠ .digestDispose handle) :
    grant.vault.contexts.get? handle = some (.digest (context.under handle call)) := by
  have hsame : ∀ {other}, vault.contexts.get? handle = some (.digest other) → other = context :=
    fun h => Context.digest.inj (Option.some.inj (h.symm.trans hcontext))
  cases call with
  | digestFeedByte other byte =>
    obtain rfl : other = handle := congrArg Prod.fst (Option.some.inj hchanges)
    obtain ⟨_, hother, -, rfl⟩ := digestFeedByte_eq_ok_iff.mp hverdict
    obtain rfl := hsame hother
    simp [DigestContext.under, Call.restartsDigest, Call.feedsDigest, report, get?_set_self]
  | digestFeed other window =>
    obtain rfl : other = handle := congrArg Prod.fst (Option.some.inj hchanges)
    obtain ⟨_, hother, data, hdata, -, rfl⟩ := digestFeed_eq_ok_iff.mp hverdict
    obtain rfl := hsame hother
    obtain ⟨w, rfl, -, -, rfl⟩ := input_eq_ok_iff.mp hdata
    simp [DigestContext.under, Call.restartsDigest, Call.feedsDigest, report, get?_set_self]
  | digestFinish other out =>
    obtain rfl : other = handle := congrArg Prod.fst (Option.some.inj hchanges)
    cases out with
    | none =>
      -- Only the length is asked for, and the digest goes on.
      obtain ⟨length, rfl⟩ := digestFinish_none_eq_ok hverdict
      simpa [DigestContext.under, Call.restartsDigest, Call.feedsDigest, report] using hcontext
    | some w =>
      obtain ⟨_, hother, -, -, -, -, rfl⟩ := digestFinish_some_eq_ok_iff.mp hverdict
      obtain rfl := hsame hother
      simp [DigestContext.under, Call.restartsDigest, deliver, get?_set_self]
  | digestReset other =>
    obtain rfl : other = handle := congrArg Prod.fst (Option.some.inj hchanges)
    obtain ⟨_, hother, rfl⟩ := digestReset_eq_ok_iff.mp hverdict
    obtain rfl := hsame hother
    simp [DigestContext.under, Call.restartsDigest, report, get?_set_self]
  | digestDispose other =>
    obtain rfl : other = handle := congrArg Prod.fst (Option.some.inj hchanges)
    exact absurd rfl hdispose
  | _ => cases hchanges

/-- **What a call does to a digest**, unless it frees it or its address is handed out again: a call
that fails does nothing to it, and one that succeeds feeds it, or starts it afresh. -/
theorem get?_answer_digest (hcontext : vault.contexts.get? handle = some (.digest context))
    (hhandle : (vault.answer supply call).1.handle ≠ some handle)
    (hdispose : call ≠ .digestDispose handle) :
    (vault.answer supply call).2.contexts.get? handle = some (.digest
      (if 0 ≤ (vault.answer supply call).1.status then context.under handle call
        else context)) := by
  cases hverdict : vault.verdict supply call with
  | error refusal =>
    obtain ⟨line, hanswer⟩ := answer_of_error hverdict
    rw [hanswer, if_neg (Int32.not_le.mpr (status_neg refusal.code))]
    exact hcontext
  | ok grant =>
    by_cases hchanges : call.changes? = some (handle, .digest)
    · rw [answer_of_ok hverdict, if_pos (effect_of_verdict hverdict).nonneg]
      exact get?_grant_digest hcontext hverdict hchanges hdispose
    · obtain ⟨hfeeds, hrestarts⟩ := Call.feedsDigest_of_changes? hchanges
      have hunder : context.under handle call = context := by
        simp [DigestContext.under, hfeeds, hrestarts]
      rw [hunder, ite_self]
      exact get?_answer hcontext hhandle hchanges

/-! ## A run -/

/-- What was fed to the digest at an address since the latest call that started it afresh. -/
def digestMessage (handle : Address) (notes : List (Note Vault)) : Bytes :=
  gathered (·.restartsDigest handle) (·.feedsDigest handle) (succeeded notes)

theorem digestMessage_concat (handle : Address) (notes : List (Note Vault)) (vault : Vault)
    (supply : Supply) (call : Call) : digestMessage handle (notes ++ [vault.note supply call])
      = if 0 ≤ (vault.answer supply call).1.status then
          if call.restartsDigest handle then []
          else digestMessage handle notes ++ call.feedsDigest handle
        else digestMessage handle notes := gathered_succeeded_concat ..

/-- The context at an address is kept by a run: it is not freed, and its address is not handed out
again. -/
def KeepsDigest (handle : Address) (notes : List (Note Vault)) : Prop :=
  ∀ note ∈ notes, note.reply.handle ≠ some handle ∧ note.call ≠ .digestDispose handle

instance (handle : Address) (notes : List (Note Vault)) : Decidable (KeepsDigest handle notes) :=
  inferInstanceAs (Decidable (∀ note ∈ notes, _))

/-- **A digest gathers what is fed to it** for as long as it is there. -/
theorem get?_after_digest {algorithm : Algorithm} {length : Nat} {calls : List (Supply × Call)}
    (notes : List (Note Vault))
    (hcontext : vault.contexts.get? handle
      = some (.digest ⟨algorithm, length, digestMessage handle notes⟩))
    (hkept : KeepsDigest handle (vault.history calls)) :
    (vault.after calls).contexts.get? handle = some (.digest
      ⟨algorithm, length, digestMessage handle (notes ++ vault.history calls)⟩) := by
  induction calls generalizing vault notes with
  | nil =>
    rw [history, List.append_nil]
    exact hcontext
  | cons first calls ih =>
    obtain ⟨supply, call⟩ := first
    obtain ⟨⟨hhandle, hdispose⟩, hrest⟩ := List.forall_mem_cons.mp hkept
    have hnext : (vault.answer supply call).2.contexts.get? handle = some (.digest
        ⟨algorithm, length, digestMessage handle (notes ++ [vault.note supply call])⟩) := by
      rw [get?_answer_digest hcontext hhandle hdispose, digestMessage_concat]
      unfold DigestContext.under
      split
      · split
        · rfl
        · rfl
      · rfl
    rw [history, List.append_cons]
    exact ih _ hnext hrest

/-! ## Digests -/

/-- The context that an allocation hands out, with nothing fed to it yet. -/
theorem get?_of_digestAllocate {opened : Vault} {name : Option Bytes} {asked : Int32} {slot : Bool}
    {opening : Reply}
    (hopen : vault.answer supply (.digestAllocate name asked slot) = (opening, opened))
    (hhandle : opening.handle = some handle) :
    ∃ algorithm, Algorithm.named? name = some algorithm
      ∧ opened.contexts.get? handle
        = some (.digest ⟨algorithm, algorithm.outputLength asked, []⟩) := by
  cases hverdict : vault.verdict supply (.digestAllocate name asked slot) with
  | error refusal =>
    obtain ⟨line, hanswer⟩ := answer_of_error hverdict
    rw [hanswer] at hopen
    cases hopen
    cases hhandle
  | ok grant =>
    rw [answer_of_ok hverdict] at hopen
    cases hopen
    obtain ⟨algorithm, hname, rfl⟩ := digestAllocate_eq_ok hverdict
    cases hhandle
    exact ⟨algorithm, hname, Heap.get?_put_self ..⟩

/-- The output length is what is reported when it is asked for. -/
theorem status_digestLength (hcontext : vault.contexts.get? handle = some (.digest context))
    (hstatus : 0 ≤ (vault.answer supply (.digestLength handle)).1.status) :
    (vault.answer supply (.digestLength handle)).1.status.toInt = context.length := by
  obtain ⟨grant, hgrant⟩ := exists_grant_of_nonneg hstatus
  rw [answer_of_ok hgrant]
  obtain ⟨_, hother, length, hlength, rfl⟩ := digestLength_eq_ok_iff.mp hgrant
  obtain rfl := Context.digest.inj (Option.some.inj (hother.symm.trans hcontext))
  obtain ⟨-, hlimit, rfl⟩ := reportedLength_eq_ok_iff.mp hlength
  unfold wordLimit at hlimit
  exact Int32.toInt_ofNat_of_lt (by omega)

/-- **A digest is written** where a context of its output length is asked for it. -/
theorem delivered_digestFinish {algorithm : Algorithm} {asked : Int32} {message : Bytes}
    {w : OutputWindow} (hcontext : vault.contexts.get? handle
      = some (.digest ⟨algorithm, algorithm.outputLength asked, message⟩))
    (hstatus : 0 ≤ (vault.answer supply (.digestFinish handle (some w))).1.status) :
    Delivered w (algorithm.digest (algorithm.outputLength asked) message)
        (vault.answer supply (.digestFinish handle (some w))).1
      ∧ (vault.answer supply (.digestFinish handle (some w))).2.contexts.get? handle
        = some (.digest ⟨algorithm, algorithm.outputLength asked, []⟩) := by
  obtain ⟨grant, hgrant⟩ := exists_grant_of_nonneg hstatus
  rw [answer_of_ok hgrant]
  obtain ⟨_, hother, -, hlimit, hadmits, -, rfl⟩ := digestFinish_some_eq_ok_iff.mp hgrant
  obtain rfl := Context.digest.inj (Option.some.inj (hother.symm.trans hcontext))
  have hlength := algorithm.length_digest_outputLength asked message
  refine ⟨delivered_of_admits vault ?_ ?_ none, get?_set_self⟩
  · rw [hlength]
    exact hadmits
  · rw [hlength]
    exact hlimit

/-- **A digest that is written is that of what was fed.** A context is allocated for an algorithm by
its name, and kept by whatever is called afterwards. Where the digest is then asked for in a window
and no failure is reported, the status is the output length, which is also what is reported when
that is asked for. The digest of the bytes gathered since the latest fresh start is stored in the
window, where there is room for it, and nothing else in the buffer is changed; for BLAKE3, it is
the beginning of any longer output. The context is then as it was when it was allocated. -/
theorem digest_of_what_was_fed {vault opened closed : Vault} {supply supply' : Supply}
    {name : Option Bytes} {asked : Int32} {slot : Bool} {handle : Address} {opening reply : Reply}
    {calls : List (Supply × Call)} {w : OutputWindow}
    (hopen : vault.answer supply (.digestAllocate name asked slot) = (opening, opened))
    (hhandle : opening.handle = some handle) (hkept : KeepsDigest handle (opened.history calls))
    (hfinish : (opened.after calls).answer supply' (.digestFinish handle (some w))
      = (reply, closed))
    (hstatus : 0 ≤ reply.status) :
    ∃ algorithm, Algorithm.named? name = some algorithm ∧
      let length := algorithm.outputLength asked
      let message := digestMessage handle (opened.history calls)
      reply.status.toInt = length
      ∧ (∀ supply, 0 ≤ ((opened.after calls).answer supply (.digestLength handle)).1.status →
        ((opened.after calls).answer supply (.digestLength handle)).1.status.toInt = length)
      ∧ Delivered w (algorithm.digest length message) reply
      ∧ (algorithm = .blake3 → ∀ longer, length ≤ longer →
        algorithm.digest length message = (algorithm.digest longer message).take length)
      ∧ closed.contexts.get? handle = opened.contexts.get? handle := by
  obtain ⟨algorithm, hname, hopened⟩ := get?_of_digestAllocate hopen hhandle
  have hcontext : (opened.after calls).contexts.get? handle = some (.digest
      ⟨algorithm, algorithm.outputLength asked, digestMessage handle (opened.history calls)⟩) :=
    get?_after_digest [] hopened hkept
  have hgranted :
      0 ≤ ((opened.after calls).answer supply' (.digestFinish handle (some w))).1.status := by
    rw [hfinish]
    exact hstatus
  obtain ⟨hdelivered, hclosed⟩ := delivered_digestFinish hcontext hgranted
  rw [hfinish] at hdelivered hclosed
  refine ⟨algorithm, hname, ?_, fun _ => status_digestLength hcontext, hdelivered, ?_,
    hclosed.trans hopened.symm⟩
  · rw [hdelivered.status, Algorithm.length_digest_outputLength]
  · rintro rfl longer hlonger
    exact (Blake3.take_hash _ hlonger).symm

/-- A run between the allocation of a digest context at 1 and the question for its digest: it is
fed twice, in between a digest is asked for in a window that is too short, another context is
allocated, and a byte is fed under a fault. -/
def exampleFeeds : List (Supply × Call) :=
  [(supplyOf 1, .digestFeed 1 (some ⟨[0x7a, 0x61, 0x62], 1, 2⟩)),
    (supplyOf 1, .digestFinish 1 (some ⟨31, 0, 31⟩)), (supplyOf 2, .keyAllocate true),
    (supplyOf 1, .digestFinish 1 none), (supplyOf 1, .faultSet 8 1),
    (supplyOf 1, .digestFeedByte 1 0x7a), (supplyOf 1, .faultsReset),
    (supplyOf 1, .digestFeedByte 1 0x63)]

/-- The library when the context has been allocated. -/
def exampleOpened : Vault :=
  (empty.answer (supplyOf 1) (.digestAllocate (some (Text.utf8 "sha-256")) 0 true)).2

/-- The digest that is written is that of the three bytes that were fed without a failure. -/
theorem digest_of_what_was_fed_exampleFeeds :
    digestMessage 1 (exampleOpened.history exampleFeeds) = [0x61, 0x62, 0x63]
    ∧ ∃ algorithm, Algorithm.named? (some (Text.utf8 "sha-256")) = some algorithm
      ∧ Delivered ⟨40, 4, 32⟩ (algorithm.digest (algorithm.outputLength 0)
          (digestMessage 1 (exampleOpened.history exampleFeeds)))
        ((exampleOpened.after exampleFeeds).answer (supplyOf 1)
          (.digestFinish 1 (some ⟨40, 4, 32⟩))).1 := by
  have hhandle : (empty.answer (supplyOf 1)
      (.digestAllocate (some (Text.utf8 "sha-256")) 0 true)).1.handle = some 1 := by decide +kernel
  have hkept : KeepsDigest 1 (exampleOpened.history exampleFeeds) := by decide +kernel
  have hstatus : 0 ≤ ((exampleOpened.after exampleFeeds).answer (supplyOf 1)
      (.digestFinish 1 (some ⟨40, 4, 32⟩))).1.status := by decide +kernel
  obtain ⟨algorithm, hname, -, -, hdelivered, -⟩ :=
    digest_of_what_was_fed rfl hhandle hkept rfl hstatus
  exact ⟨by decide +kernel, algorithm, hname, hdelivered⟩

end Vault

end Custody
