-- Why an endpoint cannot be resolved.
import Inventory.Hostname
import Inventory.Mac
import Inventory.Xname

namespace Inventory.Endpoint

/-- Why there is no controller id. -/
inductive IdFault
  | unreadable (cause : Xname.Error)
  | notController (id : Xname)
  | nothingGiven
  | notDerivable (fqdn : String)
deriving DecidableEq

def IdFault.message : IdFault → String
  | .unreadable cause => cause.message
  | .notController id => s!"{id} is a {id.kind}, not a controller"
  | .nothingGiven => "no ID, FQDN, or Hostname given"
  | .notDerivable fqdn => s!"no ID given and none can be derived from {fqdn}"

/-- Two fields that contradict each other. -/
inductive Conflict
  | hostname (given fqdn : String)
  | domain (given fqdn : Hostname)
  | domainTwice (hostname domain : Hostname)
  | notTheController (hostname : Hostname) (id : Xname)
deriving DecidableEq

def Conflict.message : Conflict → String
  | .hostname given fqdn => s!"hostname {given} does not match FQDN {fqdn}"
  | .domain given fqdn => s!"domain {given} does not match FQDN {fqdn}"
  | .domainTwice name given =>
    s!"hostname {name} already carries a domain, and domain {given} was also given"
  | .notTheController name id =>
    s!"hostname {name} without a domain must be the controller ID {id}"

/-- Why a text is no address. -/
inductive AddressFault
  | hostOrPort
  | name (cause : Hostname.Error)
  | ip
deriving DecidableEq

def AddressFault.message : AddressFault → String
  | .hostOrPort => "malformed host or port"
  | .name cause => cause.message
  | .ip => "invalid IP address syntax"

inductive Error
  | invalidId (cause : IdFault)
  | conflictingAddress (cause : Conflict)
  | invalidAddress (address : String) (cause : AddressFault)
  | invalidMac (cause : Mac.Error)
deriving DecidableEq

def Error.message : Error → String
  | .invalidId cause => s!"Invalid endpoint ID: {cause.message}"
  | .conflictingAddress cause => s!"Conflicting endpoint address: {cause.message}"
  | .invalidAddress address cause => s!"Invalid endpoint address {address}: {cause.message}"
  | .invalidMac cause => s!"Invalid endpoint MAC address: {cause.message}"

/-- The error and what is behind it, from the outside in. -/
def Error.trail (e : Error) : List String :=
  e.message :: match e with
    | .invalidMac cause => [cause.message]
    | _ => []

/-- The kinds of refusal, without what they carry. -/
inductive ErrorKind
  | invalidId
  | conflictingAddress
  | invalidAddress
  | invalidMac
deriving DecidableEq, Repr

def Error.kind : Error → ErrorKind
  | .invalidId _ => .invalidId
  | .conflictingAddress _ => .conflictingAddress
  | .invalidAddress _ _ => .invalidAddress
  | .invalidMac _ => .invalidMac

/-- The refusal of a batch: the place of the first entry that is refused, and why. -/
structure BatchError where
  index : Nat
  cause : Error
deriving DecidableEq

def BatchError.message (e : BatchError) : String :=
  s!"Endpoint {e.index} rejected: {e.cause.message}"

end Inventory.Endpoint
