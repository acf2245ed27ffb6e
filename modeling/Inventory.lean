import Inventory.Identity
import Inventory.LockApi.Agent
import Inventory.Main
import Inventory.Proofs.Accounting
import Inventory.Proofs.Acquisition
import Inventory.Proofs.AddressGrammar
import Inventory.Proofs.Adoption
import Inventory.Proofs.Batches
import Inventory.Proofs.DeadKeys
import Inventory.Proofs.DistinctAddresses
import Inventory.Proofs.Expiry
import Inventory.Proofs.Failures
import Inventory.Proofs.Flight
import Inventory.Proofs.Horizon
import Inventory.Proofs.Lag
import Inventory.Proofs.LeaseMinutes
import Inventory.Proofs.LocationGrammar
import Inventory.Proofs.LockMessages
import Inventory.Proofs.MacNormalForms
import Inventory.Proofs.MapOrder
import Inventory.Proofs.MaximalRuns
import Inventory.Proofs.MessageIds
import Inventory.Proofs.NameGrammar
import Inventory.Proofs.NameParts
import Inventory.Proofs.NumberedNames
import Inventory.Proofs.Offsets
import Inventory.Proofs.Parents
import Inventory.Proofs.PartIds
import Inventory.Proofs.Release
import Inventory.Proofs.Renewal
import Inventory.Proofs.Revocation
import Inventory.Proofs.Rollback
import Inventory.Proofs.Secrecy
import Inventory.Proofs.Settings
import Inventory.Proofs.Spelling
import Inventory.Proofs.SplitNames
import Inventory.Proofs.VersionFields
import Inventory.Record.Fru
import Inventory.Record.Identifiers
import Inventory.Record.Reservation
import Inventory.Reservation.World
import Inventory.Resolver
