import Custody.Registry.Basic

/-!
# The layers of settings

`Settings.fromLookup` reads a file and three variables one after the other and stops at the first
that cannot be read. Here each of the four is a layer: it may be absent, or in error, or have a
value (`Option (Except Failure α)`). What the settings come to is then said field by field
(`Settings.merged`), each from the uppermost layer that has a value for it, and what goes wrong is
the first of a list (`Settings.faults`): the file, the preference, the time between sweeps, and last
the settings that result. `Settings.fromLookup_eq` proves that the reading step by step comes to
just that.

The time between sweeps is the only field that the last check can still refuse
(`Settings.validate_merged_iff`): a file is valid or in error, so is what lies beneath it, and no
variable changes the name of the daemon's thread.

Settings that are valid can still not be used. A registry gives its thread the name that it finds
in them, and a name with a zero byte makes it give up (`Registry.start`), which `Settings.validate`
does not look for. `Settings.layers_decide` says that a file is the only place such a name comes
from, and that nothing else keeps a registry from starting with settings that were loaded;
`Settings.zero_byte_passes` is such a file.
-/

namespace Custody

/-! ## Layers -/

section Layers

variable {α : Type}

/-- The value of a layer, if it has one, else what lies beneath. -/
def topmost (layer : Option (Except Failure α)) (beneath : α) : α :=
  match layer with
  | some (.ok value) => value
  | _ => beneath

/-- What is wrong with a layer. -/
def faultOf : Option (Except Failure α) → Option Failure
  | some (.error failure) => some failure
  | _ => none

/-- What a reading that found `fault` first comes to. -/
def outcome (fault : Option Failure) (value : α) : Except Failure α :=
  fault.elim (.ok value) .error

@[simp] theorem outcome_none (value : α) : outcome none value = .ok value := rfl

@[simp] theorem outcome_some (failure : Failure) (value : α) :
    outcome (some failure) value = .error failure := rfl

theorem outcome_eq_error_iff {fault : Option Failure} {value : α} {failure : Failure} :
    outcome fault value = .error failure ↔ fault = some failure := by
  cases fault <;> simp

theorem outcome_eq_ok_iff {fault : Option Failure} {value result : α} :
    outcome fault value = .ok result ↔ fault = none ∧ value = result := by
  cases fault <;> simp

/-- One reading after another: the first fault counts. -/
theorem outcome_bind {β : Type} {first second : Option Failure} {value : α} {result : β}
    {next : α → Except Failure β} (h : next value = outcome second result) :
    outcome first value >>= next = outcome (first.or second) result := by
  cases first
  · exact h
  · rfl

/-- A layer that takes the place of what lies beneath, as a reading. -/
theorem outcome_faultOf (layer : Option (Except Failure α)) (beneath : α) :
    outcome (faultOf layer) (topmost layer beneath) = layer.getD (.ok beneath) := by
  rcases layer with _ | (_ | _) <;> rfl

/-- A record with what a layer sets in it, as a reading. -/
def amend {β : Type} (layer : Option (Except Failure α)) (set : α → β) (record : β) :
    Except Failure β :=
  match layer with
  | none => .ok record
  | some read => read.map set

/-- A layer that sets one field takes the place of what the field held. -/
theorem amend_eq {β : Type} (layer : Option (Except Failure α)) (set : α → β) (record : β)
    (field : β → α) (hset : set (field record) = record) :
    amend layer set record = outcome (faultOf layer) (set (topmost layer (field record))) := by
  rcases layer with _ | (_ | _)
  · exact congrArg Except.ok hset.symm
  · rfl
  · rfl

end Layers

namespace Settings

/-! ## The file -/

/-- **What is wrong with a file.** It cannot be read, its bytes are no text, the text does not write
settings, or the settings that it writes are refused. -/
inductive FileFault : Except IoFault Bytes → Failure → Prop
  /-- It cannot be read. -/
  | unread (fault : IoFault) : FileFault (.error fault) (.io fault)
  /-- Its bytes are no text. -/
  | notText {data : Bytes} (h : Text.utf8Decode? data = none) :
      FileFault (.ok data) (.io ⟨false, "stream did not contain valid UTF-8"⟩)
  /-- The text does not write settings. -/
  | malformed {data : Bytes} {text : String} {failure : Failure}
      (ht : Text.utf8Decode? data = some text) (h : ofText text = .error failure) :
      FileFault (.ok data) failure
  /-- The settings are refused. -/
  | refused {data : Bytes} {text : String} {settings : Settings} {failure : Failure}
      (ht : Text.utf8Decode? data = some text) (hs : ofText text = .ok settings)
      (h : settings.validate = .error failure) : FileFault (.ok data) failure

/-- **A file that can be used**: text that writes valid settings. -/
def Writes (contents : Except IoFault Bytes) (settings : Settings) : Prop :=
  ∃ data text, contents = .ok data ∧ Text.utf8Decode? data = some text ∧
    ofText text = .ok settings ∧ settings.Valid

theorem ofContents_ok_none {data : Bytes} (h : Text.utf8Decode? data = none) :
    ofContents (.ok data) = .error (.io ⟨false, "stream did not contain valid UTF-8"⟩) := by
  simp [ofContents, h, bind, Except.bind]

theorem ofContents_ok_some {data : Bytes} {text : String} (h : Text.utf8Decode? data = some text) :
    ofContents (.ok data) =
      (ofText text).bind fun settings => settings.validate.bind fun _ => .ok settings := by
  simp [ofContents, h, bind, Except.bind, pure, Except.pure]

theorem FileFault.ofContents_eq {contents : Except IoFault Bytes} {failure : Failure}
    (h : FileFault contents failure) : ofContents contents = .error failure := by
  cases h with
  | unread fault => rfl
  | notText ht => exact ofContents_ok_none ht
  | malformed ht h => rw [ofContents_ok_some ht, h]; rfl
  | refused ht hs h => simp [ofContents_ok_some ht, hs, h, Except.bind]

theorem Writes.ofContents_eq {contents : Except IoFault Bytes} {settings : Settings}
    (h : Writes contents settings) : ofContents contents = .ok settings := by
  obtain ⟨data, text, rfl, ht, hs, hv⟩ := h
  simp [ofContents_ok_some ht, hs, (validate_eq_ok_iff _).2 hv, Except.bind]

/-- Every file has something wrong with it or can be used. -/
theorem faulty_or_writes (contents : Except IoFault Bytes) :
    (∃ failure, FileFault contents failure) ∨ ∃ settings, Writes contents settings := by
  rcases contents with fault | data
  · exact .inl ⟨_, .unread fault⟩
  · cases ht : Text.utf8Decode? data with
    | none => exact .inl ⟨_, .notText ht⟩
    | some text =>
      cases hs : ofText text with
      | error failure => exact .inl ⟨_, .malformed ht hs⟩
      | ok settings =>
        cases hv : settings.validate with
        | error failure => exact .inl ⟨_, .refused ht hs hv⟩
        | ok _ => exact .inr ⟨settings, data, text, rfl, ht, hs, (validate_eq_ok_iff _).1 hv⟩

/-- A file comes to a failure for one of four reasons. -/
theorem ofContents_eq_error_iff {contents : Except IoFault Bytes} {failure : Failure} :
    ofContents contents = .error failure ↔ FileFault contents failure := by
  refine ⟨fun h => ?_, FileFault.ofContents_eq⟩
  obtain ⟨other, hf⟩ | ⟨settings, hw⟩ := faulty_or_writes contents
  · obtain rfl : other = failure := by simpa [hf.ofContents_eq] using h
    exact hf
  · simp [hw.ofContents_eq] at h

/-- A file comes to settings if it writes them and they are valid. -/
theorem ofContents_eq_ok_iff {contents : Except IoFault Bytes} {settings : Settings} :
    ofContents contents = .ok settings ↔ Writes contents settings := by
  refine ⟨fun h => ?_, Writes.ofContents_eq⟩
  obtain ⟨failure, hf⟩ | ⟨other, hw⟩ := faulty_or_writes contents
  · simp [hf.ofContents_eq] at h
  · obtain rfl : other = settings := by simpa [hw.ofContents_eq] using h
    exact hw

/-! ## The variables -/

theorem valid_default : default.Valid := ⟨by decide, by decide⟩

/-- No word at all means the preference that is there without one. -/
theorem ofWord_empty : Preference.ofWord "" = .ok .auto := rfl

section Lookup

variable (readFile : String → Except IoFault Bytes) (lookup : String → Option String)

/-- The file that is to be read, if its name is not empty. -/
def namedFile : Option String := (lookup fileVariable).filter (· ≠ "")

/-- The layer of the file. -/
def fileLayer : Option (Except Failure Settings) :=
  (namedFile lookup).map fun path => ofContents (readFile path)

/-- The layer of the variable for the preference. -/
def backendLayer : Option (Except Failure Preference) :=
  (lookup backendVariable).map Preference.ofWord

/-- The layer of the variable for the time between sweeps. -/
def intervalLayer : Option (Except Failure UInt64) := (lookup intervalVariable).map intervalOfWord

/-- The layer of the variable for the library's file, which is never in error. An empty name is
no file. -/
def libraryLayer : Option (Option String) :=
  (lookup libraryVariable).map fun path => if path = "" then none else some path

/-- What lies beneath the single variables: the file, else the defaults. -/
def ground : Settings := topmost (fileLayer readFile lookup) default

/-- **The settings of all layers**, each field from the uppermost that has a value for it. -/
def merged : Settings where
  backend := topmost (backendLayer lookup) (ground readFile lookup).backend
  sweepIntervalMs := topmost (intervalLayer lookup) (ground readFile lookup).sweepIntervalMs
  daemonName := (ground readFile lookup).daemonName
  nativeLibrary := (libraryLayer lookup).getD (ground readFile lookup).nativeLibrary

/-- **Everything that can be wrong**, in the order in which it counts. -/
def faults : List (Option Failure) :=
  [faultOf (fileLayer readFile lookup), faultOf (backendLayer lookup),
    faultOf (intervalLayer lookup), faultOf (some (merged readFile lookup).validate)]

/-- The first thing that is wrong. -/
def firstFault : Option Failure := (faults readFile lookup).findSome? id

/-! ## Reading the layers -/

theorem base_eq : base readFile (lookup fileVariable) =
    outcome (faultOf (fileLayer readFile lookup)) (ground readFile lookup) := by
  rw [ground, outcome_faultOf, fileLayer, namedFile]
  cases lookup fileVariable with
  | none => rfl
  | some path => by_cases h : path = "" <;> simp [base, h, Option.filter_some]

/-- The reading, with its layers by their names. -/
theorem fromLookup_eq_amend : fromLookup readFile lookup = (do
    let settings ← base readFile (lookup fileVariable)
    let settings ← amend (backendLayer lookup)
      (fun backend => { settings with backend := backend }) settings
    let settings ← amend (intervalLayer lookup)
      (fun ms => { settings with sweepIntervalMs := ms }) settings
    let settings : Settings :=
      { settings with nativeLibrary := (libraryLayer lookup).getD settings.nativeLibrary }
    settings.validate
    return settings) := by
  unfold fromLookup backendLayer intervalLayer libraryLayer
  cases lookup backendVariable <;> cases lookup intervalVariable <;>
    cases lookup libraryVariable <;> rfl

theorem validate_eq (settings : Settings) : (do settings.validate; return settings) =
    outcome (faultOf (some settings.validate)) settings := by
  cases h : settings.validate <;> rfl

theorem firstFault_eq : firstFault readFile lookup =
    (faultOf (fileLayer readFile lookup)).or ((faultOf (backendLayer lookup)).or
      ((faultOf (intervalLayer lookup)).or
        (faultOf (some (merged readFile lookup).validate)))) := by
  simp only [firstFault, faults, List.findSome?_cons, id, List.findSome?_nil]
  cases faultOf (fileLayer readFile lookup) <;> cases faultOf (backendLayer lookup) <;>
    cases faultOf (intervalLayer lookup) <;>
    cases faultOf (some (merged readFile lookup).validate) <;> rfl

/-- **Reading the layers one after the other** gives all of them together, or the first thing that
is wrong. -/
theorem fromLookup_eq : fromLookup readFile lookup =
    outcome (firstFault readFile lookup) (merged readFile lookup) := by
  rw [firstFault_eq, fromLookup_eq_amend, base_eq]
  refine outcome_bind ?_
  rw [amend_eq _ _ _ Settings.backend rfl]
  refine outcome_bind ?_
  rw [amend_eq _ _ _ Settings.sweepIntervalMs rfl]
  refine outcome_bind ?_
  exact validate_eq _

/-! ## What is known of the layers -/

/-- The layer of a named file is in error for one of four reasons. -/
theorem faultOf_fileLayer_iff {path : String} (h : namedFile lookup = some path)
    {failure : Failure} :
    faultOf (fileLayer readFile lookup) = some failure ↔ FileFault (readFile path) failure := by
  rw [← ofContents_eq_error_iff, fileLayer, h, Option.map_some]
  cases ofContents (readFile path) <;> simp [faultOf]

/-- The layer of a named file has the settings that the file writes. -/
theorem fileLayer_eq_ok_iff {path : String} (h : namedFile lookup = some path)
    {settings : Settings} :
    fileLayer readFile lookup = some (.ok settings) ↔ Writes (readFile path) settings := by
  rw [← ofContents_eq_ok_iff, fileLayer, h, Option.map_some, Option.some_inj]

/-- Beneath the variables lie the settings of a file that can be used, or the defaults. -/
theorem ground_cases : ground readFile lookup = default ∨
    ∃ path, namedFile lookup = some path ∧ Writes (readFile path) (ground readFile lookup) := by
  cases hn : namedFile lookup with
  | none => left; simp [ground, fileLayer, hn, topmost]
  | some path =>
    cases hc : ofContents (readFile path) with
    | error failure => left; simp [ground, fileLayer, hn, hc, topmost]
    | ok settings =>
      have hg : ground readFile lookup = settings := by simp [ground, fileLayer, hn, hc, topmost]
      exact .inr ⟨path, rfl, hg ▸ ofContents_eq_ok_iff.1 hc⟩

theorem valid_ground : (ground readFile lookup).Valid := by
  obtain h | ⟨path, -, data, text, -, -, -, hv⟩ := ground_cases readFile lookup
  · exact h ▸ valid_default
  · exact hv

/-- **All that the last check can find** is a time between sweeps of zero in its variable. -/
theorem validate_merged_iff {failure : Failure} :
    faultOf (some (merged readFile lookup).validate) = some failure ↔
      intervalLayer lookup = some (.ok 0) ∧
        failure = .config "sweep_interval_ms must be greater than zero" := by
  have hg := valid_ground readFile lookup
  have hms : (merged readFile lookup).sweepIntervalMs = 0 ↔
      intervalLayer lookup = some (.ok 0) := by
    change topmost (intervalLayer lookup) _ = 0 ↔ _
    rcases intervalLayer lookup with _ | (_ | ms)
    · simpa [topmost] using hg.1
    · simpa [topmost] using hg.1
    · simp [topmost]
  have hname : (merged readFile lookup).daemonName ≠ "" := hg.2
  rw [← hms, validate, if_neg hname]
  split
  case isTrue h =>
    exact ⟨fun hf => ⟨h, (Option.some.inj hf).symm⟩, fun hf => congrArg some hf.2.symm⟩
  case isFalse h => simp [h, faultOf]

/-- The settings of all layers are valid where nothing is wrong. -/
theorem valid_merged (h : firstFault readFile lookup = none) :
    (merged readFile lookup).Valid := by
  have hlast : faultOf (some (merged readFile lookup).validate) = none := by
    simp only [firstFault_eq, Option.or_eq_none_iff] at h
    exact h.2.2.2
  rw [← validate_eq_ok_iff]
  cases hv : (merged readFile lookup).validate with
  | error failure => simp [hv, faultOf] at hlast
  | ok _ => rfl

theorem load_eq : load readFile lookup =
    (firstFault readFile lookup).elim (merged readFile lookup) fun _ => default := by
  rw [load, fromLookup_eq]
  cases firstFault readFile lookup <;> rfl

/-- Loading never fails: what is loaded is valid, whatever the variables and the file. -/
theorem valid_load : (load readFile lookup).Valid := by
  rw [load_eq]
  cases h : firstFault readFile lookup with
  | none => exact valid_merged readFile lookup h
  | some failure => exact valid_default

/-- The thread's name in settings that were loaded is the default one, or from a file. -/
theorem daemonName_load : (load readFile lookup).daemonName = default.daemonName ∨
    ∃ path settings, namedFile lookup = some path ∧ Writes (readFile path) settings ∧
      (load readFile lookup).daemonName = settings.daemonName := by
  rw [load_eq]
  cases firstFault readFile lookup with
  | some failure => exact .inl rfl
  | none =>
    have hname : (merged readFile lookup).daemonName = (ground readFile lookup).daemonName := rfl
    rw [Option.elim_none, hname]
    obtain h | ⟨path, hn, hw⟩ := ground_cases readFile lookup
    · exact .inl (by rw [h])
    · exact .inr ⟨path, _, hn, hw, rfl⟩

/-- A registry does not start with valid settings for one reason only. -/
theorem start_of_valid {ε : Type} {settings : Settings} (h : settings.Valid) :
    (Registry.start settings : Except Abort (Registry ε)) =
      if '\x00' ∈ settings.daemonName.toList then
        .error (.panicked (Registry.nameComplaint settings.daemonName))
      else .ok .empty := by
  rw [Registry.start, (validate_eq_ok_iff settings).2 h]

/-! ## What the layers decide -/

/-- **How settings are put together from a source of variables**, whatever it says and whatever the
file holds that it names. -/
structure Layered : Prop where
  /-- Reading them fails with the first thing that is wrong, and with nothing else. -/
  fails : ∀ failure, fromLookup readFile lookup = .error failure ↔
    firstFault readFile lookup = some failure
  /-- Where nothing is wrong, it gives the settings of all layers, and nothing else. -/
  gives : ∀ settings, fromLookup readFile lookup = .ok settings ↔
    firstFault readFile lookup = none ∧ merged readFile lookup = settings
  /-- What can be wrong with a file. -/
  file : ∀ path failure, namedFile lookup = some path →
    (faultOf (fileLayer readFile lookup) = some failure ↔ FileFault (readFile path) failure)
  /-- What a file sets. -/
  writes : ∀ path settings, namedFile lookup = some path →
    (fileLayer readFile lookup = some (.ok settings) ↔ Writes (readFile path) settings)
  /-- What the last check can find. -/
  last : ∀ failure, faultOf (some (merged readFile lookup).validate) = some failure ↔
    intervalLayer lookup = some (.ok 0) ∧
      failure = .config "sweep_interval_ms must be greater than zero"
  /-- An empty name is no file of settings, an empty preference the one that needs no word, and an
  empty name of the library's file no file. -/
  empties : (lookup fileVariable = some "" → fileLayer readFile lookup = none) ∧
    (lookup backendVariable = some "" → backendLayer lookup = some (.ok .auto)) ∧
    (lookup libraryVariable = some "" → libraryLayer lookup = some none)
  /-- The settings that are given are valid. -/
  valid : ∀ settings, fromLookup readFile lookup = .ok settings → settings.Valid
  /-- What is loaded is what is given, and the defaults where that fails. -/
  loads : load readFile lookup =
    (firstFault readFile lookup).elim (merged readFile lookup) fun _ => default
  /-- What is loaded is valid. -/
  usable : (load readFile lookup).Valid
  /-- A registry starts with what is loaded unless the thread's name has a zero byte in it, and
  then it gives up; it never refuses. -/
  starts : ∀ ε : Type, (Registry.start (load readFile lookup) : Except Abort (Registry ε)) =
    if '\x00' ∈ (load readFile lookup).daemonName.toList then
      .error (.panicked (Registry.nameComplaint (load readFile lookup).daemonName))
    else .ok .empty
  /-- Only a file can give the thread such a name. -/
  zeroByte : '\x00' ∈ (load readFile lookup).daemonName.toList →
    ∃ path settings, namedFile lookup = some path ∧ Writes (readFile path) settings ∧
      (load readFile lookup).daemonName = settings.daemonName

/-- **The layers decide the settings** field by field, the first thing that is wrong decides the
failure, and settings that were loaded are valid. They start a registry unless a file named its
thread with a zero byte. -/
theorem layers_decide : Layered readFile lookup where
  fails failure := by rw [fromLookup_eq, outcome_eq_error_iff]
  gives settings := by rw [fromLookup_eq, outcome_eq_ok_iff]
  file _ _ h := faultOf_fileLayer_iff readFile lookup h
  writes _ _ h := fileLayer_eq_ok_iff readFile lookup h
  last _ := validate_merged_iff readFile lookup
  empties := by
    refine ⟨fun h => ?_, fun h => ?_, fun h => ?_⟩
    · simp [fileLayer, namedFile, h, Option.filter_some]
    · rw [backendLayer, h, Option.map_some, ofWord_empty]
    · simp [libraryLayer, h]
  valid settings h := by
    rw [fromLookup_eq, outcome_eq_ok_iff] at h
    exact h.2 ▸ valid_merged readFile lookup h.1
  loads := load_eq readFile lookup
  usable := valid_load readFile lookup
  starts _ := start_of_valid (valid_load readFile lookup)
  zeroByte h := by
    obtain hd | hf := daemonName_load readFile lookup
    · rw [hd] at h
      exact absurd h (by decide)
    · exact hf

end Lookup

/-- A file that gives the daemon's thread a name of one zero byte, in the list form. -/
def zeroByteFile : Bytes := Text.utf8 "[\"auto\", 500, \"\\u0000\"]"

/-- A source of variables that names a file of settings, and nothing else. -/
def fileAlone (name : String) : Option String :=
  if name = fileVariable then some "settings.json" else none

/-- **A name that no check looks at.** The settings in this file are loaded as they are, and a
registry that is started with them gives up. -/
theorem zero_byte_passes :
    load (fun _ => .ok zeroByteFile) fileAlone = ⟨.auto, 500, "\x00", none⟩ ∧
      (Registry.start (load (fun _ => .ok zeroByteFile) fileAlone) : Except Abort (Registry Unit)) =
        .error (.panicked "thread name may not contain interior null bytes: NulError(0, [0])") := by
  have h : load (fun _ => .ok zeroByteFile) fileAlone = ⟨.auto, 500, "\x00", none⟩ := by
    decide +kernel
  have hname : Registry.nameComplaint "\x00" =
      "thread name may not contain interior null bytes: NulError(0, [0])" := by decide +kernel
  refine ⟨h, ?_⟩
  rw [h, start_of_valid ⟨by decide, by decide⟩, if_pos (by decide), hname]

end Settings

end Custody
