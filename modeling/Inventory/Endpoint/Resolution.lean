-- Resolution of endpoints. The address comes from the FQDN, else from the
-- hostname and the domain, else from the id; the id is the one given, or the
-- name that the address starts with. Fields that are given have to agree.
import Inventory.Endpoint.Descriptor
import Inventory.Endpoint.Error

namespace Inventory.Endpoint

open Text

/-! ## Hosts -/

/-- A host: an IP literal or a DNS name. -/
inductive Host
  | ip (literal : IpLiteral)
  | name (name : Hostname)
deriving DecidableEq

namespace Host

def text : Host → String
  | ip literal => literal.text
  | name n => n.text

/-- Reads a literal if it is one, else a name. -/
def parse (host : String) : Except Error Host :=
  match IpLiteral.ofChars? host.toList with
  | some literal => .ok (.ip literal)
  | none =>
    match Hostname.parse host with
    | .ok n => .ok (.name n)
    | .error e => .error (.invalidAddress host (.name e))

end Host

/-! ## Addresses -/

/-- An address, its port, and what it says about the id: the name that the id may be read from,
and whether this name has to be the id because it stands alone. -/
structure Placement where
  address : Address
  port : Option UInt16 := none
  name : Option String := none
  standsAlone : Option Hostname := none

/-- Every supplied hostname has to be one of the names that the FQDN gives the host. -/
def checkHostname (given : Option Host) (fqdn : String) (names : List String) :
    Except Error Unit :=
  match given with
  | none => .ok ()
  | some h =>
    if h.text ∈ names then .ok () else .error (.conflictingAddress (.hostname h.text fqdn))

/-- The address that an FQDN names. Hostname and domain have to agree with a DNS name; with an
IP literal only the hostname has to. -/
def placeFqdn (fqdn : String) (hostname : Option String) (domain : Option Hostname) :
    Except Error Placement := do
  let (host, port) ← match splitHostPort? fqdn.toList with
    | some found => Except.ok found
    | none => Except.error (.invalidAddress fqdn .hostOrPort)
  let host ← Host.parse (String.ofList host)
  let given ← match hostname with
    | some h => (Host.parse h).map some
    | none => Except.ok none
  match host with
  | .ip literal => do
    checkHostname given literal.text [literal.text]
    return { address := .ip literal (domain.map Hostname.text), port }
  | .name n => do
    checkHostname given n.text [n.shortName, n.text]
    match domain with
    | some d =>
      if d.text = n.domain?.getD "" then Except.ok ()
      else Except.error (.conflictingAddress (.domain d n))
    | none => Except.ok ()
    return { address := .dns n.shortName n.domain?, port, name := some n.shortName }

/-- The address that a hostname names when there is no FQDN. -/
def placeHostname (hostname : String) (domain : Option Hostname) : Except Error Placement := do
  match ← Host.parse hostname, domain with
  | .ip literal, domain => return { address := .ip literal (domain.map Hostname.text) }
  | .name n, none =>
    return { address := .dns n.text none, name := some n.text, standsAlone := some n }
  | .name n, some d =>
    if n.isQualified then Except.error (.conflictingAddress (.domainTwice n d))
    else
      match n.withDomain d with
      | .ok _ => return { address := .dns n.text (some d.text), name := some n.text }
      | .error e => Except.error (.invalidAddress n.text (.name e))

/-- Reads the id of a controller. -/
def controller (id : String) : Except Error Xname :=
  match Xname.parse id with
  | .error e => .error (.invalidId (.unreadable e))
  | .ok x => if x.isController then .ok x else .error (.invalidId (.notController x))

/-- The address of a controller whose id is all that is known of it. -/
def placeId (id : Option String) (domain : Option Hostname) : Except Error Placement :=
  match id with
  | none => .error (.invalidId .nothingGiven)
  | some id => do
    let x ← controller id
    return { address := .dns x.text (domain.map Hostname.text) }

/-! ## The other fields -/

/-- A domain may start with dots. -/
def readDomain (domain : String) : Except Error Hostname :=
  match Hostname.parse (String.ofList (domain.toList.dropWhile (· == '.'))) with
  | .ok d => .ok d
  | .error e => .error (.invalidAddress domain (.name e))

def readMac (mac : String) : Except Error Mac :=
  match Mac.ofText mac with
  | .ok m => .ok m
  | .error e => .error (.invalidMac e)

/-- An IP address may stand in brackets. -/
def readIp (ip : String) : Except Error Ip :=
  match Ip.ofChars? (dropEndWhile (· == ']') (ip.toList.dropWhile (· == '['))) with
  | some a => .ok a
  | none => .error (.invalidAddress ip .ip)

/-- Reads a field if it is there. -/
def readOptional {α : Type} (read : String → Except Error α) :
    Option String → Except Error (Option α)
  | none => .ok none
  | some text => (read text).map some

/-! ## Resolution -/

/-- The address, from the first row that has what it needs. -/
def place (id fqdn hostname : Option String) (domain : Option Hostname) :
    Except Error Placement :=
  match fqdn, hostname with
  | some f, h => placeFqdn f h domain
  | none, some h => placeHostname h domain
  | none, none => placeId id domain

/-- The controller: the id given, else the name in the address. -/
def identify (id : Option String) (p : Placement) : Except Error Xname :=
  match id, p.name with
  | some id, _ => controller id
  | none, some name => controller name
  | none, none => .error (.invalidId (.notDerivable p.address.fqdn))

/-- A hostname that stands alone has to be the id. -/
def checkAlone (p : Placement) (id : Xname) : Except Error Unit :=
  match p.standsAlone with
  | none => .ok ()
  | some n =>
    match Xname.parse n.text with
    | .ok x => if x = id then .ok () else .error (.conflictingAddress (.notTheController n id))
    | .error _ => .error (.conflictingAddress (.notTheController n id))

/-- Resolves an endpoint. The first fault in this order is the one reported: domain, address, id,
the hostname that stands alone, hardware address, IP address. -/
def resolve (spec : EndpointSpec) : Except Error Descriptor := do
  let id := nonBlank spec.id
  let domain ← readOptional readDomain (nonBlank spec.domain)
  let placement ← place id (nonBlank spec.fqdn) (nonBlank spec.hostname) domain
  let x ← identify id placement
  checkAlone placement x
  let mac ← readOptional readMac (nonBlank spec.macAddr)
  let ip ← readOptional readIp (nonBlank spec.ipAddr)
  return {
    id := x
    address := placement.address
    port := placement.port
    mac
    ip
    enabled := spec.enabled.getD true
    credentials := ⟨spec.user.getD "", spec.password.getD ""⟩ }

/-- Resolves entries from an index on; the first one refused refuses the batch. -/
def resolveFrom (index : Nat) : List EndpointSpec → Except BatchError (List Descriptor)
  | [] => .ok []
  | spec :: rest =>
    match resolve spec with
    | .error cause => .error ⟨index, cause⟩
    | .ok d => (resolveFrom (index + 1) rest).map (d :: ·)

def resolveAll (specs : List EndpointSpec) : Except BatchError (List Descriptor) :=
  resolveFrom 0 specs

end Inventory.Endpoint
