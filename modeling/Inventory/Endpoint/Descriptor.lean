-- Resolved endpoints: which controller answers, and at which address.
import Inventory.Endpoint.Spec
import Inventory.Ip.Literal
import Inventory.Mac
import Inventory.Xname

namespace Inventory

open Text

/-- Where a controller answers: at an IP literal, or at a host name with the domain after it.
A literal may carry a domain for the record only. -/
inductive Address
  | ip (literal : IpLiteral) (domain : Option String)
  | dns (host : String) (domain : Option String)
deriving DecidableEq

namespace Address

/-- The whole name of the host. -/
def fqdn : Address → String
  | ip literal _ => literal.text
  | dns host none => host
  | dns host (some domain) => host ++ "." ++ domain

/-- The host without its domain. -/
def hostname : Address → String
  | ip literal _ => literal.text
  | dns host _ => host

/-- The domain, empty if there is none. -/
def domain : Address → String
  | ip _ domain | dns _ domain => domain.getD ""

end Address

/-- The identity and the address of a controller, settled. -/
structure Descriptor where
  id : Xname
  address : Address
  port : Option UInt16
  mac : Option Mac
  ip : Option Ip
  enabled : Bool
  credentials : Credentials
deriving DecidableEq

namespace Descriptor

def kind (d : Descriptor) : Kind := d.id.kind

/-- Host and port, as a URL needs them. -/
def hostPort (d : Descriptor) : String := withPort d.address.fqdn d.port

/-- The descriptor in one line for readers. -/
def text (d : Descriptor) : String := s!"{d.id} ({d.kind}) at {d.hostPort}"

instance : ToString Descriptor := ⟨text⟩

/-- The descriptor in a log line, with every field and without the password. -/
def shown (d : Descriptor) : String :=
  showRecord "EndpointDescriptor"
    [("id", quoteText d.id.text), ("hms_type", d.kind.name),
      ("fqdn", quoteText d.address.fqdn), ("hostname", quoteText d.address.hostname),
      ("domain", quoteText d.address.domain),
      ("port", showOption (d.port.map fun p => String.ofList (decimal p.toNat))),
      ("mac_addr", showOption (d.mac.map fun m => quoteText m.text)),
      ("ip_addr", showOption (d.ip.map fun a => quoteText a.text)),
      ("enabled", showBool d.enabled), ("credentials", d.credentials.shown)]

end Descriptor

end Inventory
