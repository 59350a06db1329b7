/-!
# Entry points by name

The native library has a fixed set of entry points, each with a name under which it is exported
(`Symbol.name`), and a version of the whole set (`interfaceVersion`). It also gives a list of these
names (`Symbol.exported`).
-/

namespace Custody

/-- The version of the native interface. It changes with every signature and status code. -/
def interfaceVersion : UInt32 := 4

/-- The entry points of the native library. -/
inductive Symbol
  | version
  | digestAllocate
  | digestFeedByte
  | digestFeed
  | digestLength
  | digestFinish
  | digestReset
  | digestDispose
  | keyAllocate
  | keyDispose
  | keyGenerate
  | keyDecodePublic
  | keyDecodePrivate
  | keyEncodePublic
  | keyEncodePrivate
  | keyType
  | encapsulate
  | decapsulate
  | secretLength
  | signatureAllocate
  | signatureDispose
  | signatureInitSign
  | signatureInitVerify
  | signatureFeed
  | signatureSign
  | signatureVerify
  | pbkdf2
  | hkdf
  | scrypt
  | faultsAvailable
  | faultSet
  | faultsReset
  | drain
  deriving DecidableEq, Repr

namespace Symbol

/-- Every entry point, in the order in which they are looked up. -/
def all : List Symbol :=
  [version, digestAllocate, digestFeedByte, digestFeed, digestLength, digestFinish, digestReset,
    digestDispose, keyAllocate, keyDispose, keyGenerate, keyDecodePublic, keyDecodePrivate,
    keyEncodePublic, keyEncodePrivate, keyType, encapsulate, decapsulate, secretLength,
    signatureAllocate, signatureDispose, signatureInitSign, signatureInitVerify, signatureFeed,
    signatureSign, signatureVerify, pbkdf2, hkdf, scrypt, faultsAvailable, faultSet, faultsReset,
    drain]

/-- The name of an entry point inside the library. -/
def shortName : Symbol → String
  | version => "interface_version"
  | digestAllocate => "md_allocate"
  | digestFeedByte => "md_update_byte"
  | digestFeed => "md_update"
  | digestLength => "md_output_len"
  | digestFinish => "md_finalize"
  | digestReset => "md_reset"
  | digestDispose => "md_dispose"
  | keyAllocate => "spec_allocate"
  | keyDispose => "spec_dispose"
  | keyGenerate => "spec_generate"
  | keyDecodePublic => "spec_decode_public"
  | keyDecodePrivate => "spec_decode_private"
  | keyEncodePublic => "spec_encode_public"
  | keyEncodePrivate => "spec_encode_private"
  | keyType => "spec_key_type"
  | encapsulate => "kem_encapsulate"
  | decapsulate => "kem_decapsulate"
  | secretLength => "kem_secret_len"
  | signatureAllocate => "sig_allocate"
  | signatureDispose => "sig_dispose"
  | signatureInitSign => "sig_init_sign"
  | signatureInitVerify => "sig_init_verify"
  | signatureFeed => "sig_update"
  | signatureSign => "sig_sign"
  | signatureVerify => "sig_verify"
  | pbkdf2 => "kdf_pbkdf2"
  | hkdf => "kdf_hkdf"
  | scrypt => "kdf_scrypt"
  | faultsAvailable => "ops_available"
  | faultSet => "ops_set"
  | faultsReset => "ops_reset"
  | drain => "errors_drain"

/-- The name under which an entry point is exported. -/
def name (symbol : Symbol) : String := "tether_" ++ symbol.shortName

/-- **The names that the library gives for its entry points**, in the order of `all`. -/
def exported : List String :=
  ["tether_interface_version", "tether_md_allocate", "tether_md_update_byte", "tether_md_update",
    "tether_md_output_len", "tether_md_finalize", "tether_md_reset", "tether_md_dispose",
    "tether_spec_allocate", "tether_spec_dispose", "tether_spec_generate",
    "tether_spec_decode_public", "tether_spec_decode_private", "tether_spec_encode_public",
    "tether_spec_encode_private", "tether_spec_key_type", "tether_kem_encapsulate",
    "tether_kem_decapsulate", "tether_kem_secret_len", "tether_sig_allocate", "tether_sig_dispose",
    "tether_sig_init_sign", "tether_sig_init_verify", "tether_sig_update", "tether_sig_sign",
    "tether_sig_verify", "tether_kdf_pbkdf2", "tether_kdf_hkdf", "tether_kdf_scrypt",
    "tether_ops_available", "tether_ops_set", "tether_ops_reset", "tether_errors_drain"]

/-- The library gives for each entry point the name under which it exports it. -/
theorem exported_eq : exported = all.map name := by decide +kernel

/-- The entry point that a short name means. -/
def ofShortName? (name : String) : Option Symbol := all.find? (·.shortName = name)

/-- The entry point that is exported under a name. -/
def ofName? (name : String) : Option Symbol := all.find? (·.name = name)

theorem mem_all (symbol : Symbol) : symbol ∈ all := by cases symbol <;> decide

@[simp] theorem ofName?_name (symbol : Symbol) : ofName? symbol.name = some symbol := by
  cases symbol <;> decide +kernel

end Symbol

end Custody
