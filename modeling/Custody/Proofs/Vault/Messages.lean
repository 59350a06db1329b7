import Custody.Proofs.Text.Utf8
import Custody.Proofs.Vault.Changes

/-!
# What the vault says

A call that is refused leaves a line of diagnostics exactly where its code asks for the text of the
library, and no call that is granted leaves one (`Vault.went_answer`). Which calls say what is part
of what a failure leaves behind (`Vault.Residue`); here it is put in terms of the reply, as the
caller sees it, and of the text that the caller can take.

A line says something, and it is short enough for its length to be a status (`Vault.IsLine`).

The line is pushed by the step that fails, just before it does, and so a call pushes at most one. A
call that asks for the text of the library and has pushed none would leave its caller with the text
of an earlier failure, or with nothing; that this cannot happen is the other half of the statement.
-/

namespace Custody.Vault

variable {vault : Vault}

/-- **How a call went**: its status, and the lines that it adds to the diagnostics. -/
inductive Went : Int32 → List String → Prop
  /-- It was granted. -/
  | well {status : Int32} (hstatus : 0 ≤ status) : Went status []
  /-- It was refused with a code that does not ask for the text of the library. -/
  | silent {code : ErrorCode} (hcode : code.wantsDiagnostics = false) : Went code.status []
  /-- It was refused with a code that asks for that text. -/
  | saying {code : ErrorCode} {line : String} (hcode : code.wantsDiagnostics = true)
    (hline : IsLine line) : Went code.status [line]

/-- A call that succeeds adds no line. -/
theorem Went.eq_nil {status : Int32} {lines : List String} (h : Went status lines)
    (hstatus : 0 ≤ status) : lines = [] := by
  cases h with
  | well => rfl
  | silent => rfl
  | @saying code => exact absurd hstatus (Int32.not_le.mpr (status_neg code))

/-- **Every call but `drain` adds to the diagnostics what goes with its status**: one line where
that asks for the text of the library, and none otherwise. -/
theorem went_answer {call : Call} (hdrain : ∀ capacity, call ≠ .drain capacity) (vault : Vault)
    (supply : Supply) : ∃ lines,
      (vault.answer supply call).2.diagnostics = vault.diagnostics ++ lines
        ∧ Went (vault.answer supply call).1.status lines := by
  cases hverdict : vault.verdict supply call with
  | ok grant =>
    have heffect := effect_of_verdict hverdict
    rw [answer_of_ok hverdict]
    refine ⟨[], ?_, .well heffect.nonneg⟩
    rw [List.append_nil]
    exact heffect.diagnostics hdrain
  | error refusal =>
    obtain ⟨state, code⟩ := refusal
    have hresidue : Residue vault supply call code state := residue_of_verdict hverdict
    rw [answer, hverdict]
    cases hresidue with
    | silent hcode => exact ⟨[], (List.append_nil _).symm, .silent hcode⟩
    | saying hcode hline => exact ⟨_, rfl, .saying hcode hline⟩
    | spilt =>
      exact ⟨[nonContributory], rfl, @Went.saying .nativeError _ rfl isLine_nonContributory⟩

/-- A library with the diagnostics that it has. -/
theorem saying_diagnostics {lines : List String} (h : vault.diagnostics = lines) :
    vault.saying lines = vault := by
  rw [← h]
  rfl

/-! ## The text of the diagnostics -/

/-- There is no text without lines. -/
theorem pending_of_nil (h : vault.diagnostics = []) : vault.pending = [] := by
  rw [pending, h, String.intercalate_nil, Text.utf8_eq_flatMap]
  rfl

/-- One line is the text as it is. -/
theorem pending_of_line {line : String} (h : vault.diagnostics = [line]) :
    vault.pending = Text.utf8 line := by
  rw [pending, h, String.intercalate_singleton]

/-- The bytes of a line are some, and few. -/
theorem IsLine.length_utf8 {line : String} (h : IsLine line) :
    0 < (Text.utf8 line).length ∧ (Text.utf8 line).length ≤ 400 := by
  have hle : (Text.utf8 line).length ≤ 4 * line.length := Text.length_utf8_le line
  refine ⟨List.length_pos_iff.mpr fun hnil => ?_, by have := h.short; omega⟩
  have hread : Text.utf8DecodeLossy (Text.utf8 line) = line := Text.utf8DecodeLossy_utf8 line
  have hpos : 0 < line.length := h.something
  rw [hnil, Text.utf8DecodeLossy, Text.utf8Units] at hread
  rw [← hread] at hpos
  exact absurd hpos (by decide)

end Custody.Vault
