import Custody.Failure
import Custody.Text.Blank
import Custody.Text.Json
import Custody.Text.Utf8

/-!
# Settings

What an operator can set: the way to reach the native library, how often leaked owners are
looked for, the name of the thread that does so, and the library's file. Settings come in three
layers. A file that the variable `Settings.fileVariable` names takes the place of the defaults,
and single variables then override single fields (`Settings.fromLookup`). A layer that cannot be
read is an error, and the settings that result have to be valid (`Settings.Valid`).
-/

namespace Custody

/-- Which way to reach the native library an operator wants. -/
inductive Preference
  /-- Entry points found by name, if they are there; else those bound in advance. -/
  | auto
  /-- Entry points found by name; the others only if that fails. -/
  | dynamic
  /-- Entry points bound in advance. -/
  | dispatch
  deriving DecidableEq, Repr

namespace Preference

/-- The name of a preference. -/
def name : Preference → String
  | auto => "auto"
  | dynamic => "dynamic"
  | dispatch => "dispatch"

/-- Every preference with its name. -/
def named : List (String × Preference) := [auto, dynamic, dispatch].map fun p => (p.name, p)

/-- The preference that a word means. Blanks around it and the case of its letters do not count. -/
def ofWord (word : String) : Except Failure Preference :=
  match Text.foldCase (Text.trim word) with
  | "auto" | "" => .ok auto
  | "dynamic" | "ffi" => .ok dynamic
  | "dispatch" | "static" => .ok dispatch
  | other => .error (.config
      ("unknown backend \"" ++ other ++ "\" (expected auto, dynamic or dispatch)"))

end Preference

/-- What an operator can set. -/
structure Settings where
  /-- The way to reach the native library. -/
  backend : Preference
  /-- Milliseconds between two sweeps for leaked owners. -/
  sweepIntervalMs : UInt64
  /-- The name of the thread that releases leaked owners. -/
  daemonName : String
  /-- The file of the native library; without one, entry points are looked up in the running
  process. -/
  nativeLibrary : Option String
  deriving DecidableEq

namespace Settings

/-- The settings where nothing is set. -/
def default : Settings := ⟨.auto, 500, "tether-reclaim", none⟩

instance : Inhabited Settings := ⟨default⟩

/-- Whole seconds between two sweeps. -/
def sweepIntervalSecs (settings : Settings) : UInt64 := settings.sweepIntervalMs / 1000

/-- **Settings that can be used**: sweeps are some time apart, and the thread has a name. -/
def Valid (settings : Settings) : Prop :=
  settings.sweepIntervalMs ≠ 0 ∧ settings.daemonName ≠ ""

/-- Refuses settings that cannot be used. -/
def validate (settings : Settings) : Except Failure Unit :=
  if settings.sweepIntervalMs = 0 then
    .error (.config "sweep_interval_ms must be greater than zero")
  else if settings.daemonName = "" then .error (.config "daemon_thread_name is empty")
  else .ok ()

theorem validate_eq_ok_iff (settings : Settings) :
    settings.validate = .ok () ↔ settings.Valid := by
  unfold validate Valid
  split
  · simp_all
  · split <;> simp_all

/-! ## The file -/

/-- The fields as a file names them, in the order that the list form takes. Each is how a value
changes the settings, if it is a value for the field. -/
def fields : List (String × (Text.Json → Settings → Option Settings)) :=
  [("backend", fun value settings => do
      return { settings with backend := ← Text.Json.choiceOf? Preference.named value }),
   ("sweep_interval_ms", fun value settings => do
      return { settings with sweepIntervalMs := ← Text.Json.naturalOf? value }),
   ("daemon_thread_name", fun value settings => do
      return { settings with daemonName := ← Text.Json.textOf? value }),
   ("native_library", fun value settings =>
      match value with
      | .null => some { settings with nativeLibrary := none }
      | value => do return { settings with nativeLibrary := some (← Text.Json.textOf? value) })]

/-- Reads the record form: fields in any order, each at most once; others are passed over.
`seen` holds the names of the fields that were given. -/
def ofRecord? : List String → Settings → List (List Nat × Text.Json) → Option Settings
  | _, settings, [] => some settings
  | seen, settings, (key, value) :: rest => do
    let key ← Text.Json.unitsText? key
    match fields.lookup key with
    | none => ofRecord? seen settings rest
    | some set =>
      if key ∈ seen then none
      else ofRecord? (key :: seen) (← set value settings) rest

/-- Reads the list form: values in the order of the fields, as many as are given. -/
def ofItems? : List (String × (Text.Json → Settings → Option Settings)) → Settings →
    List Text.Json → Option Settings
  | _, settings, [] => some settings
  | [], _, _ :: _ => none
  | (_, set) :: more, settings, value :: rest => do ofItems? more (← set value settings) rest

/-- The settings that a document writes. What it leaves out is as in the defaults. -/
def ofJson? : Text.Json → Option Settings
  | .record given => ofRecord? [] default given
  | .list items => ofItems? fields default items
  | _ => none

/-- The settings that a text writes, valid or not. -/
def ofText (text : String) : Except Failure Settings :=
  match (Text.Json.read? text).bind ofJson? with
  | some settings => .ok settings
  | none => .error (.serialization "malformed settings")

/-- The settings in a file's contents, which have to be text and valid. -/
def ofContents (contents : Except IoFault Bytes) : Except Failure Settings := do
  let data ← match contents with
    | .ok data => .ok data
    | .error fault => .error (.io fault)
  let text ← match Text.utf8Decode? data with
    | some text => .ok text
    | none => .error (.io ⟨false, "stream did not contain valid UTF-8"⟩)
  let settings ← ofText text
  settings.validate
  return settings

/-! ## Variables -/

/-- The variable that names the settings file. -/
def fileVariable : String := "TETHER_CONFIG"

/-- The variable that overrides the preference. -/
def backendVariable : String := "TETHER_BACKEND"

/-- The variable that overrides the time between sweeps. -/
def intervalVariable : String := "TETHER_SWEEP_INTERVAL_MS"

/-- The variable that overrides the library's file. -/
def libraryVariable : String := "TETHER_NATIVE_LIB"

/-- The time between sweeps that a variable's value writes. -/
def intervalOfWord (word : String) : Except Failure UInt64 :=
  match Text.natural? (Text.trim word) with
  | some n =>
    if n < UInt64.size then .ok (UInt64.ofNat n)
    else .error (.config (intervalVariable ++ " is not a number: " ++ word))
  | none => .error (.config (intervalVariable ++ " is not a number: " ++ word))

/-- The file named by a path that is not empty, else the defaults. -/
def base (readFile : String → Except IoFault Bytes) : Option String → Except Failure Settings
  | none => .ok default
  | some path => if path = "" then .ok default else ofContents (readFile path)

/-- **The settings of a source of variables**: the file's or the default ones, with those fields
replaced whose variable is set. -/
def fromLookup (readFile : String → Except IoFault Bytes) (lookup : String → Option String) :
    Except Failure Settings := do
  let settings ← base readFile (lookup fileVariable)
  let settings ← match lookup backendVariable with
    | none => .ok settings
    | some word => (Preference.ofWord word).map fun backend => { settings with backend := backend }
  let settings ← match lookup intervalVariable with
    | none => .ok settings
    | some word => (intervalOfWord word).map fun ms => { settings with sweepIntervalMs := ms }
  let settings := match lookup libraryVariable with
    | none => settings
    | some path => { settings with nativeLibrary := if path = "" then none else some path }
  settings.validate
  return settings

/-- The settings of a source of variables, or the default ones where those are in error. -/
def load (readFile : String → Except IoFault Bytes) (lookup : String → Option String) : Settings :=
  match fromLookup readFile lookup with
  | .ok settings => settings
  | .error _ => default

end Settings

end Custody
