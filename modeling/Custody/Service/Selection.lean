import Custody.Service.Basic
import Custody.Settings

/-!
# Selection of a backend

Entry points can be bound in advance or looked up by name, each by a name of its own (`bindings`). A
look-up counts only if every name is found and the library has the right version (`probe`); where it
does not count, the entry points bound in advance are used, and the report says why (`select`).
-/

namespace Custody

variable {σ : Type}

/-- The entry points of a library by name. -/
abbrev Exports (σ : Type) := String → Option (EntryPoint σ)

/-- No entry points. -/
def Exports.none : Exports σ := fun _ => Option.none

/-- A backend whose entry points were looked up by name. -/
structure Resolved (σ : Type) where
  /-- The entry points. -/
  backend : Backend σ
  /-- The version that the library reports. -/
  version : UInt32
  /-- Where they were looked up. -/
  source : String

/-- The failure of a look-up. -/
def unresolved (name : String) : Failure :=
  .backendUnavailable ("symbol " ++ name ++ " did not resolve")

/-- The failure of a library of another version. -/
def wrongVersion (version : UInt32) : Failure :=
  .backendUnavailable ("native interface version " ++ toString version.toNat ++ ", expected " ++
    toString interfaceVersion.toNat)

/-- The entry point of a library under a name. -/
def Exports.resolve (lookup : Exports σ) (name : String) : Except Failure (EntryPoint σ) :=
  match lookup name with
  | some entry => .ok entry
  | .none => .error (unresolved name)

/-- The name that the version is looked up by. -/
def versionName : String := "tether_interface_version"

/-- **The names that all other entry points are looked up by**, in the order in which they are. -/
def bindings : List (Symbol × String) :=
  [(.digestAllocate, "tether_md_allocate"), (.digestFeedByte, "tether_md_update_byte"),
    (.digestFeed, "tether_md_update"), (.digestLength, "tether_md_output_len"),
    (.digestFinish, "tether_md_finalize"), (.digestReset, "tether_md_reset"),
    (.digestDispose, "tether_md_dispose"), (.keyAllocate, "tether_spec_allocate"),
    (.keyDispose, "tether_spec_dispose"), (.keyGenerate, "tether_spec_generate"),
    (.keyDecodePublic, "tether_spec_decode_public"),
    (.keyDecodePrivate, "tether_spec_decode_private"),
    (.keyEncodePublic, "tether_spec_encode_public"),
    (.keyEncodePrivate, "tether_spec_encode_private"), (.keyType, "tether_spec_key_type"),
    (.encapsulate, "tether_kem_encapsulate"), (.decapsulate, "tether_kem_decapsulate"),
    (.secretLength, "tether_kem_secret_len"), (.signatureAllocate, "tether_sig_allocate"),
    (.signatureDispose, "tether_sig_dispose"), (.signatureInitSign, "tether_sig_init_sign"),
    (.signatureInitVerify, "tether_sig_init_verify"), (.signatureFeed, "tether_sig_update"),
    (.signatureSign, "tether_sig_sign"), (.signatureVerify, "tether_sig_verify"),
    (.pbkdf2, "tether_kdf_pbkdf2"), (.hkdf, "tether_kdf_hkdf"), (.scrypt, "tether_kdf_scrypt"),
    (.faultsAvailable, "tether_ops_available"), (.faultSet, "tether_ops_set"),
    (.faultsReset, "tether_ops_reset"), (.drain, "tether_errors_drain")]

/-- The version is looked up by the name under which it is exported. -/
theorem versionName_eq : versionName = Symbol.version.name := by decide

/-- So is every other entry point, in the order in which the library names them. -/
theorem bindings_eq : bindings = Symbol.all.tail.map fun symbol => (symbol, symbol.name) := by
  decide +kernel

/-- **Names are looked up as the library gives them**, in the same order and none left out. -/
theorem lookedUp_eq_exported : versionName :: bindings.map Prod.snd = Symbol.exported := by
  rw [versionName_eq, bindings_eq, Symbol.exported_eq, List.map_map]
  rfl

/-- Binds entry points one after the other, to those bound before; the first that is missing ends
it. -/
def Exports.bindAll (lookup : Exports σ) :
    List (Symbol × String) → (Symbol → EntryPoint σ) → Except Failure (Symbol → EntryPoint σ)
  | [], bound => .ok bound
  | (symbol, name) :: rest, bound => do
    let entry ← lookup.resolve name
    bindAll lookup rest fun other => if other = symbol then entry else bound other

/-- **Looks up every entry point.** The version comes first, and a library of another version
fails by that even where entry points are missing. -/
def probe (lookup : Exports σ) : Act σ (Resolved σ) := do
  let entry ← Act.orFail (lookup.resolve versionName)
  let reply ← Act.ofState (entry .version)
  let version := reply.status.toUInt32
  if version ≠ interfaceVersion then .fail (wrongVersion version)
  else
    let entries ← Act.orFail (lookup.bindAll bindings fun _ => entry)
    return ⟨⟨.dynamic, entries⟩, version, "custom lookup"⟩

/-- Looks up every entry point in a library, whose name goes into the failure. -/
def probeLibrary (source : String) (lookup : Exports σ) : Act σ (Resolved σ) := do
  let resolved ← (probe lookup).during source
  return { resolved with source := source }

/-- Looks up every entry point in the running process. -/
def probeProcess (lookup : Exports σ) : Act σ (Resolved σ) := probeLibrary "process image" lookup

/-- Looks up every entry point in the library at a path, if the loader can open it. -/
def probeFile (path : String) (library : Except String (Exports σ)) : Act σ (Resolved σ) :=
  match library with
  | .ok lookup => probeLibrary path lookup
  | .error complaint => .fail (.backendUnavailable (path ++ ": " ++ complaint))

/-- What was selected, and why. -/
structure SelectionReport where
  /-- The backend in use. -/
  backend : BackendKind
  /-- The backend that was asked for. -/
  requested : Preference
  /-- What came of the look-up, or why there was none. -/
  probe : String
  /-- The version of the interface. -/
  interfaceVersion : UInt32
  deriving DecidableEq

/-- The selected services with the report. -/
structure Selection (σ : Type) where
  /-- The services. -/
  services : Services σ
  /-- The report. -/
  report : SelectionReport

namespace Selection

/-- The selection of a backend with the account of the look-up. -/
def ofBackend (requested : Preference) (backend : Backend σ) (account : String) : Selection σ :=
  ⟨.ofBackend backend, ⟨backend.kind, requested, account, interfaceVersion⟩⟩

/-- What is said of a look-up that counts. -/
def account (resolved : Resolved σ) : String :=
  "resolved from " ++ resolved.source ++ ", interface version " ++ toString resolved.version.toNat

end Selection

/-- **Selects a backend.** The look-up is made only where it is wanted. A panic in it is not
caught. -/
def select (requested : Preference) (bound : Backend σ) (resolve : Act σ (Resolved σ)) :
    Act σ (Selection σ) :=
  match requested with
  | .dispatch => return .ofBackend requested bound "not attempted, dispatch requested"
  | _ => fun s =>
    match resolve s with
    | (.ok resolved, s) =>
      (.ok (.ofBackend requested resolved.backend (Selection.account resolved)), s)
    | (.error (.failed failure), s) => (.ok (.ofBackend requested bound failure.message), s)
    | (.error (.panicked message), s) => (.error (.panicked message), s)

end Custody
