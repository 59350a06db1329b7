import Custody.Held.Derivation
import Custody.Held.Digest
import Custody.Held.Fault
import Custody.Held.Signature
import Custody.Setback

/-!
# Shelves

Held things under names, over one world, and a language of operations on them (`Operation`). A
program over the native library is a list of operations, and `Shelf.run` says what it does.

A name is given to one thing at a time: the thing that had it before is dropped when the name is
given away.
-/

namespace Custody.Held

variable {σ α : Type}

/-- A held thing. -/
inductive Item
  | digest (digest : Digest)
  | key (key : KeySpec)
  | signer (signer : Signer)
  | verifier (verifier : Verifier)
  | guard (guard : Guard)

/-- A thing goes without being disposed of. -/
def Item.drop (services : Services σ) : Item → Work σ Unit
  | digest d => abandon services d.owner
  | key k => abandon services k.owner
  | signer s => abandon services s.owner
  | verifier v => abandon services v.owner
  | guard g => g.clear services

/-- A thing goes at once. -/
def Item.dispose (services : Services σ) : Item → Work σ Unit
  | digest d => Held.dispose services d.owner
  | key k => Held.dispose services k.owner
  | signer s => Held.dispose services s.owner
  | verifier v => Held.dispose services v.owner
  | guard g => g.clear services

/-- An operation on named things. -/
inductive Operation
  /-- A digest. -/
  | digestCreate (name algorithm : String) (outputLength : Nat)
  /-- Feeds a part of some data to a digest. -/
  | digestFeed (name : String) (data : Bytes) (offset len : Nat)
  /-- Feeds one byte to a digest. -/
  | digestFeedByte (name : String) (byte : UInt8)
  /-- The length of a digest. -/
  | digestLength (name : String)
  /-- The digest of what was fed. -/
  | digestFinish (name : String)
  /-- The same into a buffer. -/
  | digestFinishInto (name : String) (before : Bytes)
  /-- Starts a digest afresh. -/
  | digestReset (name : String)
  /-- The name of an algorithm. -/
  | digestAlgorithm (name : String)
  /-- The digest of some bytes. -/
  | digestOnce (algorithm : String) (data : Bytes)
  /-- The digest of some bytes, where the body may panic between feeding and finishing. -/
  | digestWithin (algorithm : String) (data : Bytes) (panics : Option String)
  /-- A fresh key. -/
  | keyGenerate (name : String) (type : KeyType)
  /-- A key from an encoded half. -/
  | keyDecode (name : String) (part : KeyPart) (type : KeyType) (encoded : Bytes)
  /-- An encoded half of a key. -/
  | keyEncode (name : String) (part : KeyPart)
  /-- The algorithm of a key. -/
  | keyType (name : String)
  /-- Seals a secret to a key. -/
  | encapsulate (key : String)
  /-- Opens a sealed secret. -/
  | decapsulate (key : String) (ciphertext : Bytes)
  /-- A signer for a key. -/
  | signerCreate (name key : String)
  /-- Feeds a part of some data to a signer. -/
  | signerFeed (name : String) (data : Bytes) (offset len : Nat)
  /-- The signature of what was fed. -/
  | sign (name : String)
  /-- A verifier for a key. -/
  | verifierCreate (name key : String)
  /-- Feeds a part of some data to a verifier. -/
  | verifierFeed (name : String) (data : Bytes) (offset len : Nat)
  /-- Whether a signature is one of what was fed. -/
  | verify (name : String) (signature : Bytes)
  /-- A key from a password by iterated hashing. -/
  | pbkdf2 (digest : String) (password salt : Bytes) (iterations length : Nat)
  /-- A key from key material. -/
  | hkdf (digest : String) (material salt info : Bytes) (length : Nat)
  /-- A key from a password at a cost. -/
  | scrypt (password salt : Bytes) (n r p length : Nat)
  /-- Asks whether faults can be raised. -/
  | faultsRequired
  /-- Raises or clears a fault. -/
  | faultSet (flag : FaultFlag) (on : Bool)
  /-- Clears every fault. -/
  | faultsReset
  /-- Raises a fault until the guard of that name goes. -/
  | faultRaise (name : String) (flag : FaultFlag)
  /-- Disposes of a thing. -/
  | dispose (name : String)
  /-- Drops a thing. -/
  | drop (name : String)
  /-- Lends a thing to a body that asks one thing of it. -/
  | lend (name : String) (data : Bytes)
  /-- A thing in the form of debugging output. -/
  | debug (name : String)
  /-- Asks the registry for a sweep. -/
  | sweep
  /-- The world in the form of debugging output. -/
  | debugWorld

/-- What an operation gives. -/
inductive Answer
  | done
  | bytes (bytes : Bytes)
  | number (n : Nat)
  | truth (b : Bool)
  | text (s : String)
  | keyType (type : KeyType)
  | sealed (both : Encapsulated)
  | filled (result : Except Abort Nat) (buffer : Bytes)

/-- Named things over a world. -/
structure Shelf (σ : Type) where
  /-- The world. -/
  world : World σ
  /-- The things by name. -/
  items : List (String × Item)

namespace Shelf

/-- A step on named things. -/
abbrev Step (σ α : Type) := ExceptT Setback (StateM (Shelf σ)) α

/-- A step on the world alone. -/
def work (act : Work σ α) : Step σ α := fun shelf =>
  let (result, world) := act shelf.world
  (result.mapError .aborted, { shelf with world := world })

/-- A step that finds nothing of the right kind under a name. -/
def missing : Step σ α := throw (.absent .object)

/-- The thing under a name. -/
def item (name : String) : Step σ Item := fun shelf =>
  match shelf.items.lookup name with
  | some item => (.ok item, shelf)
  | none => (.error (.absent .object), shelf)

/-- The digest under a name. -/
def digest (name : String) : Step σ Digest := do
  match ← item name with
  | .digest d => return d
  | _ => missing

/-- The key under a name. -/
def key (name : String) : Step σ KeySpec := do
  match ← item name with
  | .key k => return k
  | _ => missing

/-- The signer under a name. -/
def signer (name : String) : Step σ Signer := do
  match ← item name with
  | .signer s => return s
  | _ => missing

/-- The verifier under a name. -/
def verifier (name : String) : Step σ Verifier := do
  match ← item name with
  | .verifier v => return v
  | _ => missing

/-- Takes the thing under a name off the shelf. -/
def take (name : String) : Step σ Item := do
  let found ← item name
  modify fun shelf => { shelf with items := shelf.items.filter (·.1 ≠ name) }
  return found

/-- Gives a name to a thing. -/
def place (services : Services σ) (name : String) (new : Item) : Step σ Unit := do
  let old := (← get).items.lookup name
  modify fun shelf => { shelf with items := (name, new) :: shelf.items.filter (·.1 ≠ name) }
  match old with
  | none => return ()
  | some old => work (old.drop services)

/-- What the body asks of a thing that is lent to it. -/
def lendItem (services : Services σ) (data : Bytes) : Item → Step σ Answer
  | .digest d => work (Held.lend services d.owner (return .text d.algorithm))
  | .key k => work (Held.lend services k.owner (return .keyType (← k.type services)))
  | .signer s => work (Held.lend services s.owner (return .bytes (← s.sign services)))
  | .verifier v => work (Held.lend services v.owner (return .truth (← v.verify services data)))
  | .guard g => do
    work (g.clear services)
    missing

/-- A thing in the form of debugging output. -/
def debugItem (found : Item) : Step σ Answer := do
  let registry := (← get).world.registry
  match found with
  | .digest d => return .text (d.debug (registry.isDisposed d.owner))
  | .key k => return .text (k.debug (registry.isDisposed k.owner))
  | .signer s => return .text (s.debug (registry.isDisposed s.owner))
  | .verifier v => return .text (v.debug (registry.isDisposed v.owner))
  | .guard _ => missing

/-- A world in the form of debugging output. -/
def debugWorld (services : Services σ) (world : World σ) : String :=
  "Context \x7b backend: " ++ services.kind.debug ++ ", live_owners: " ++
    toString world.registry.liveCount ++ " \x7d"

/-- The body of a digest that may panic between feeding and finishing. -/
def feedAndFinish (services : Services σ) (data : Bytes) (panics : Option String)
    (digest : Digest) : Work σ Bytes := do
  digest.feed services data
  match panics with
  | some message => .ofExcept (.error (.panicked message))
  | none => digest.finish services

/-- **What an operation does.** -/
def run (services : Services σ) : Operation → Step σ Answer
  | .digestCreate name algorithm outputLength => do
    place services name (.digest (← work (Digest.create services algorithm outputLength)))
    return .done
  | .digestFeed name data offset len => do
    work ((← digest name).feedRange services data offset len)
    return .done
  | .digestFeedByte name byte => do
    work ((← digest name).feedByte services byte)
    return .done
  | .digestLength name => return .number (← work ((← digest name).length services))
  | .digestFinish name => return .bytes (← work ((← digest name).finish services))
  | .digestFinishInto name before => do
    let digest ← digest name
    let (result, buffer) ← work (Act.ofState (digest.finishInto services before))
    return .filled result buffer
  | .digestReset name => do
    work ((← digest name).reset services)
    return .done
  | .digestAlgorithm name => return .text (← digest name).algorithm
  | .digestOnce algorithm data => return .bytes (← work (Digest.once services algorithm data))
  | .digestWithin algorithm data panics =>
    return .bytes (← work (Digest.within services algorithm (feedAndFinish services data panics)))
  | .keyGenerate name type => do
    place services name (.key (← work (KeySpec.generate services type)))
    return .done
  | .keyDecode name part type encoded => do
    place services name (.key (← work (KeySpec.decode services part type encoded)))
    return .done
  | .keyEncode name part => return .bytes (← work ((← key name).encode services part))
  | .keyType name => return .keyType (← work ((← key name).type services))
  | .encapsulate name => return .sealed (← work ((← key name).encapsulate services))
  | .decapsulate name ciphertext =>
    return .bytes (← work ((← key name).decapsulate services ciphertext))
  | .signerCreate name keyName => do
    let key ← key keyName
    place services name (.signer (← work (Signer.create services key)))
    return .done
  | .signerFeed name data offset len => do
    work ((← signer name).feedRange services data offset len)
    return .done
  | .sign name => return .bytes (← work ((← signer name).sign services))
  | .verifierCreate name keyName => do
    let key ← key keyName
    place services name (.verifier (← work (Verifier.create services key)))
    return .done
  | .verifierFeed name data offset len => do
    work ((← verifier name).feedRange services data offset len)
    return .done
  | .verify name signature => return .truth (← work ((← verifier name).verify services signature))
  | .pbkdf2 digest password salt iterations length =>
    return .bytes (← work (Held.pbkdf2 services digest password salt iterations length))
  | .hkdf digest material salt info length =>
    return .bytes (← work (Held.hkdf services digest material salt info length))
  | .scrypt password salt n r p length =>
    return .bytes (← work (Held.scrypt services password salt n r p length))
  | .faultsRequired => do
    work (requireFaults services)
    return .done
  | .faultSet flag on => do
    work (setFault services flag on)
    return .done
  | .faultsReset => do
    work (resetFaults services)
    return .done
  | .faultRaise name flag => do
    place services name (.guard (← work (Guard.raise services flag)))
    return .done
  | .dispose name => do
    let item ← take name
    work (item.dispose services)
    return .done
  | .drop name => do
    let item ← take name
    work (item.drop services)
    return .done
  | .lend name data => do lendItem services data (← take name)
  | .debug name => do debugItem (← item name)
  | .sweep => return .number (← work (Held.sweep services))
  | .debugWorld => return .text (debugWorld services (← get).world)

/-- Waits until the daemon has taken every notice. -/
def settle (services : Services σ) (shelf : Shelf σ) : Shelf σ :=
  { shelf with world := (World.flush services shelf.world).2 }

/-- Drops the things under several names, one after the other, until one of them ends early. -/
def dropAll (services : Services σ) : List String → Step σ Unit
  | [] => pure ()
  | name :: rest => do
    work ((← take name).drop services)
    modify (settle services)
    dropAll services rest

/-- Drops everything in the order of the names. -/
def clear (services : Services σ) : Step σ Unit := do
  dropAll services (((← get).items.map (·.1)).mergeSort fun a b => a ≤ b)

end Shelf

end Custody.Held
