-- Bodies of the lock API. Requests name components or keys, the model and the
-- length of the lease in minutes; answers list leases, ids and refusals, and
-- every section of an answer may be left out.
import Inventory.Record.Reservation
import Inventory.Reservation.Service

namespace Inventory.LockApi

open Json (Decoder RecordField)
open Reservation

/-! ## Requests -/

/-- The length of a lease in minutes: whole seconds rounded up, and one at least. -/
def minutes (d : Duration) : Nat := max 1 ((wholeSeconds d + 59) / 60)

def createBody (r : CreateRequest) : Json :=
  .object [("ComponentIDs", .list (r.ids.map .text)), ("ProcessingModel", r.model.json),
    ("ReservationDuration", .number (minutes r.duration))]

def renewBody (r : RenewRequest) : Json :=
  .object [("ReservationKeys", .list (r.keys.map OwnerKey.json)),
    ("ProcessingModel", r.model.json), ("ReservationDuration", .number (minutes r.duration))]

def releaseBody (r : ReleaseRequest) : Json :=
  .object [("ReservationKeys", .list (r.keys.map OwnerKey.json)),
    ("ProcessingModel", r.model.json)]

/-! ## Answers -/

def failureField : RecordField (List Refusal) :=
  { name := "Failure", decode := Decoder.list Refusal.decoder, fallback := some [] }

def grantedField : RecordField (List (Lease Timestamp)) :=
  { name := "Success", decode := Decoder.list Lease.decoder, fallback := some [] }

/-- The answer to a request for locks. -/
def grantDecoder : Decoder (Grant Timestamp) := fun r => do
  let row ← r.row [grantedField.column, failureField.column]
  return ⟨← grantedField.get row, ← failureField.get row⟩

def countField (name : String) : RecordField UInt64 :=
  { name, decode := Decoder.word, fallback := some 0 }

/-- The counts of an answer have to be naturals, and nothing else is done with them. -/
def countsDecoder : Decoder Unit := fun r => do
  let _ ← r.row [(countField "Total").column, (countField "Success").column,
    (countField "Failure").column]
  return ()

def componentIdsField : RecordField (List String) :=
  { name := "ComponentIDs", decode := Decoder.list Decoder.text, fallback := some [] }

def componentsDecoder : Decoder (List String) := fun r => do
  let row ← r.row [componentIdsField.column]
  componentIdsField.get row

def countsField : RecordField Unit :=
  { name := "Counts", decode := countsDecoder, fallback := some () }

def succeededField : RecordField (List String) :=
  { name := "Success", decode := componentsDecoder, fallback := some [] }

/-- The answer to a request about held locks. -/
def outcomeDecoder : Decoder Outcome := fun r => do
  let row ← r.row [countsField.column, succeededField.column, failureField.column]
  return ⟨← succeededField.get row, ← failureField.get row⟩

end Inventory.LockApi
