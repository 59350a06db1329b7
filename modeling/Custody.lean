import Custody.Held.Shelf
import Custody.Host
import Custody.Native.Script
import Custody.Proofs.Commons.Operations
import Custody.Proofs.Commons.Sweeps
import Custody.Proofs.Estate.Schedules
import Custody.Proofs.Held.Blameless
import Custody.Proofs.Held.Constructors
import Custody.Proofs.Held.Crowd
import Custody.Proofs.Held.Guards
import Custody.Proofs.Held.Handed
import Custody.Proofs.Held.Ranges
import Custody.Proofs.Held.Sealed
import Custody.Proofs.Service.Backends
import Custody.Proofs.Service.Marshalling
import Custody.Proofs.Service.Meanings
import Custody.Proofs.Settings.Layers
import Custody.Proofs.SlotTable.Occupancy
import Custody.Proofs.Vault.Costs
import Custody.Proofs.Vault.Digests
import Custody.Proofs.Vault.Failures
import Custody.Proofs.Vault.Keys
import Custody.Proofs.Vault.Outputs
import Custody.Proofs.Vault.Signatures
import Custody.Registry.House
import Custody.Service.Selection
import Custody.Vault.Session
