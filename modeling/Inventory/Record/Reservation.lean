-- JSON forms of leases, keys, refusals and settings of reservations.
import Inventory.Json
import Inventory.Json.Decoder
import Inventory.Reservation.Config
import Inventory.Reservation.Lease
import Inventory.Timestamp

namespace Inventory

open Json (Decoder RecordField optionalField optionalMember)

def Timestamp.decoder : Decoder Timestamp := Decoder.ofText Timestamp.parse?

namespace Reservation

def Model.json (m : Model) : Json := .text m.name

def Model.decoder : Decoder Model := Decoder.choice Model.ofName?

/-- The field that names the component. -/
def idField : RecordField String := { name := "ID", decode := Decoder.text }

namespace Lease

def json (l : Lease Timestamp) : Json :=
  .object ([("ID", .text l.id), ("ReservationKey", .text l.key)]
    ++ optionalMember "DeputyKey" .text l.deputy
    ++ [("ExpirationTime", .text l.expiration.text)])

def keyField : RecordField String := { name := "ReservationKey", decode := Decoder.text }

def deputyField : RecordField (Option String) := optionalField "DeputyKey" Decoder.text

def expirationField : RecordField Timestamp :=
  { name := "ExpirationTime", decode := Timestamp.decoder }

def decoder : Decoder (Lease Timestamp) := fun r => do
  let row ← r.row [idField.column, keyField.column, deputyField.column, expirationField.column]
  return ⟨← idField.get row, ← keyField.get row, ← deputyField.get row,
    ← expirationField.get row⟩

end Lease

namespace OwnerKey

def json (k : OwnerKey) : Json := .object [("ID", .text k.id), ("Key", .text k.key)]

def keyField : RecordField String := { name := "Key", decode := Decoder.text }

def decoder : Decoder OwnerKey := fun r => do
  let row ← r.row [idField.column, keyField.column]
  return ⟨← idField.get row, ← keyField.get row⟩

end OwnerKey

namespace Refusal

def json (f : Refusal) : Json := .object [("ID", .text f.id), ("Reason", .text f.reason)]

def reasonField : RecordField String := { name := "Reason", decode := Decoder.text }

def decoder : Decoder Refusal := fun r => do
  let row ← r.row [idField.column, reasonField.column]
  return ⟨← idField.get row, ← reasonField.get row⟩

end Refusal

namespace Config

def json (c : Config) : Json :=
  .object [("base_url", .text c.baseUrl), ("path", .text c.path),
    ("service_name", .text c.serviceName),
    ("renew_interval_secs", .number c.renewIntervalSecs.toNat),
    ("renew_margin_secs", .number c.renewMarginSecs.toNat),
    ("lease_duration_secs", .number c.leaseDurationSecs.toNat),
    ("timeout_secs", .number c.timeoutSecs.toNat)]

/-- A setting that has its default where it is left out. -/
def textField (name default : String) : RecordField String :=
  { name, decode := Decoder.text, fallback := some default }

def secondsField (name : String) (default : UInt64) : RecordField UInt64 :=
  { name, decode := Decoder.word, fallback := some default }

def baseUrlField : RecordField String := textField "base_url" ({} : Config).baseUrl

def pathField : RecordField String := textField "path" ({} : Config).path

def serviceNameField : RecordField String := textField "service_name" ({} : Config).serviceName

def renewIntervalField : RecordField UInt64 :=
  secondsField "renew_interval_secs" ({} : Config).renewIntervalSecs

def renewMarginField : RecordField UInt64 :=
  secondsField "renew_margin_secs" ({} : Config).renewMarginSecs

def leaseDurationField : RecordField UInt64 :=
  secondsField "lease_duration_secs" ({} : Config).leaseDurationSecs

def timeoutField : RecordField UInt64 := secondsField "timeout_secs" ({} : Config).timeoutSecs

def decoder : Decoder Config := fun r => do
  let row ← r.row [baseUrlField.column, pathField.column, serviceNameField.column,
    renewIntervalField.column, renewMarginField.column, leaseDurationField.column,
    timeoutField.column]
  return {
    baseUrl := ← baseUrlField.get row
    path := ← pathField.get row
    serviceName := ← serviceNameField.get row
    renewIntervalSecs := ← renewIntervalField.get row
    renewMarginSecs := ← renewMarginField.get row
    leaseDurationSecs := ← leaseDurationField.get row
    timeoutSecs := ← timeoutField.get row }

end Config

end Reservation

end Inventory
