-- JSON forms of identifiers: a text each, and an object for a message id.
import Inventory.Architecture
import Inventory.Hostname
import Inventory.Json
import Inventory.Json.Decoder
import Inventory.Mac
import Inventory.MessageId
import Inventory.NaturalOrder
import Inventory.Xname

namespace Inventory

open Json (Decoder RecordField decode optionalField)

/-! ## Texts -/

def Mac.json (m : Mac) : Json := .text m.text

def Mac.decoder : Decoder Mac := Decoder.ofText fun s => (Mac.ofText s).toOption

def Hostname.json (h : Hostname) : Json := .text h.text

def Hostname.decoder : Decoder Hostname := Decoder.ofText fun s => (Hostname.parse s).toOption

def Xname.json (x : Xname) : Json := .text x.text

def Xname.decoder : Decoder Xname := Decoder.ofText fun s => (Xname.parse s).toOption

def ResourceId.json (r : ResourceId) : Json := .text r.text

def ResourceId.decoder : Decoder ResourceId := fun r => (Decoder.text r).map ResourceId.mk

/-! ## Names of a choice -/

def Kind.json (k : Kind) : Json := .text k.name

def Kind.decoder : Decoder Kind := Decoder.choice Kind.ofName?

def Architecture.json (a : Architecture) : Json := .text a.name

def Architecture.decoder : Decoder Architecture := Decoder.choice Architecture.ofName?

/-! ## Message ids -/

namespace MessageId

def json (m : MessageId) : Json :=
  .object [("registry", .text m.registry), ("version", .text m.version),
    ("message", .text m.message)]

def registryField : RecordField String := { name := "registry", decode := Decoder.text }

def versionField : RecordField String := { name := "version", decode := Decoder.text }

def messageField : RecordField String := { name := "message", decode := Decoder.text }

def decoder : Decoder MessageId := fun r => do
  let row ← r.row [registryField.column, versionField.column, messageField.column]
  return ⟨← registryField.get row, ← versionField.get row, ← messageField.get row⟩

end MessageId

end Inventory
