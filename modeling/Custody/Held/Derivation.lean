import Custody.Held.Basic

/-!
# Derived keys

Keys from passwords and from key material. There is no context to own here.
-/

namespace Custody.Held

variable {σ : Type} (services : Services σ)

/-- A key of a length from a password by iterated hashing. -/
def pbkdf2 (digest : String) (password salt : Bytes) (iterations length : Nat) : Work σ Bytes :=
  fetch services services.kdf (.pbkdf2 digest password salt iterations) length

/-- A key of a length from key material. -/
def hkdf (digest : String) (material salt info : Bytes) (length : Nat) : Work σ Bytes :=
  fetch services services.kdf (.hkdf digest material salt info) length

/-- A key of a length from a password at a cost. -/
def scrypt (password salt : Bytes) (n r p length : Nat) : Work σ Bytes :=
  fetch services services.kdf (.scrypt password salt n r p) length

end Custody.Held
