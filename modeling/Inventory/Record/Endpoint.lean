-- JSON forms of endpoints. Passwords are read and never written.
import Inventory.Endpoint.Descriptor
import Inventory.Json
import Inventory.Json.Decoder

namespace Inventory

open Json (Decoder RecordField optionalField optionalMember)

namespace Credentials

def json (c : Credentials) : Json := .object [("User", .text c.user)]

def userField : RecordField String :=
  { name := "User", decode := Decoder.text, fallback := some "" }

def passwordField : RecordField String :=
  { name := "Password", decode := Decoder.text, fallback := some "" }

def decoder : Decoder Credentials := fun r => do
  let row ← r.row [userField.column, passwordField.column]
  return ⟨← userField.get row, ← passwordField.get row⟩

end Credentials

namespace EndpointSpec

def json (s : EndpointSpec) : Json :=
  .object (optionalMember "ID" .text s.id
    ++ optionalMember "FQDN" .text s.fqdn
    ++ optionalMember "Hostname" .text s.hostname
    ++ optionalMember "Domain" .text s.domain
    ++ optionalMember "User" .text s.user
    ++ optionalMember "MACAddr" .text s.macAddr
    ++ optionalMember "IPAddress" .text s.ipAddr
    ++ optionalMember "Enabled" .bool s.enabled)

def idField : RecordField (Option String) := optionalField "ID" Decoder.text

def fqdnField : RecordField (Option String) := optionalField "FQDN" Decoder.text

def hostnameField : RecordField (Option String) := optionalField "Hostname" Decoder.text

def domainField : RecordField (Option String) := optionalField "Domain" Decoder.text

def userField : RecordField (Option String) := optionalField "User" Decoder.text

def passwordField : RecordField (Option String) := optionalField "Password" Decoder.text

def macAddrField : RecordField (Option String) := optionalField "MACAddr" Decoder.text

def ipAddrField : RecordField (Option String) := optionalField "IPAddress" Decoder.text

def enabledField : RecordField (Option Bool) := optionalField "Enabled" Decoder.bool

def decoder : Decoder EndpointSpec := fun r => do
  let row ← r.row [idField.column, fqdnField.column, hostnameField.column, domainField.column,
    userField.column, passwordField.column, macAddrField.column, ipAddrField.column,
    enabledField.column]
  return {
    id := ← idField.get row
    fqdn := ← fqdnField.get row
    hostname := ← hostnameField.get row
    domain := ← domainField.get row
    user := ← userField.get row
    password := ← passwordField.get row
    macAddr := ← macAddrField.get row
    ipAddr := ← ipAddrField.get row
    enabled := ← enabledField.get row }

end EndpointSpec

/-! ## Documents -/

/-- The document in which loaders hand in endpoints. -/
structure EndpointList where
  endpoints : List EndpointSpec
deriving DecidableEq

namespace EndpointList

def json (l : EndpointList) : Json :=
  .object [("RedfishEndpoints", .list (l.endpoints.map EndpointSpec.json))]

def endpointsField : RecordField (List EndpointSpec) :=
  { name := "RedfishEndpoints", decode := Decoder.list EndpointSpec.decoder, fallback := some [] }

def decoder : Decoder EndpointList := fun r => do
  let row ← r.row [endpointsField.column]
  return ⟨← endpointsField.get row⟩

end EndpointList

/-! ## Descriptors -/

def Descriptor.json (d : Descriptor) : Json :=
  .object ([("ID", .text d.id.text), ("Type", .text d.kind.name),
      ("FQDN", .text d.address.fqdn), ("Hostname", .text d.address.hostname),
      ("Domain", .text d.address.domain)]
    ++ optionalMember "Port" (fun p => .number p.toNat) d.port
    ++ optionalMember "MACAddr" (fun m => .text m.text) d.mac
    ++ optionalMember "IPAddress" (fun a => .text a.text) d.ip
    ++ [("Enabled", .bool d.enabled), ("User", .text d.credentials.user)])

end Inventory
