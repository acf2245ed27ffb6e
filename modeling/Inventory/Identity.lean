-- One error for everything that can go wrong with the identity of a
-- component. Errors of the parts turn into it by themselves.
import Inventory.Endpoint.Error
import Inventory.Fru
import Inventory.Json.Token
import Inventory.Reservation.Config
import Inventory.Reservation.Lease

namespace Inventory

inductive IdentityError
  | mac (cause : Mac.Error)
  | hostname (cause : Hostname.Error)
  | xname (cause : Xname.Error)
  | endpoint (cause : Endpoint.Error)
  | batch (cause : Endpoint.BatchError)
  | fruId (cause : Fru.Error)
  | reservation (cause : Reservation.Error)
  | config (cause : Reservation.Config.Error)
  | serialization (cause : Json.Cause)

namespace IdentityError

/-- The error of the part says it all; only a refused document is introduced. -/
def message : IdentityError → String
  | .mac e => e.message
  | .hostname e => e.message
  | .xname e => e.message
  | .endpoint e => e.message
  | .batch e => e.message
  | .fruId e => e.message
  | .reservation e => e.message
  | .config e => e.message
  | .serialization e => s!"Serialization error: {e.text}"

instance : MonadLift (Except Mac.Error) (Except IdentityError) := ⟨Except.mapError mac⟩

instance : MonadLift (Except Hostname.Error) (Except IdentityError) := ⟨Except.mapError hostname⟩

instance : MonadLift (Except Xname.Error) (Except IdentityError) := ⟨Except.mapError xname⟩

instance : MonadLift (Except Endpoint.Error) (Except IdentityError) := ⟨Except.mapError endpoint⟩

instance : MonadLift (Except Endpoint.BatchError) (Except IdentityError) :=
  ⟨Except.mapError batch⟩

instance : MonadLift (Except Fru.Error) (Except IdentityError) := ⟨Except.mapError fruId⟩

instance : MonadLift (Except Reservation.Error) (Except IdentityError) :=
  ⟨Except.mapError reservation⟩

instance : MonadLift (Except Reservation.Config.Error) (Except IdentityError) :=
  ⟨Except.mapError config⟩

instance : MonadLift (Except Json.Cause) (Except IdentityError) :=
  ⟨Except.mapError serialization⟩

end IdentityError

end Inventory
