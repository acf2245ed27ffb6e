-- JSON forms of part records. A field without a value is left out.
import Inventory.Fru
import Inventory.Json
import Inventory.Json.Decoder

namespace Inventory

open Json (Decoder RecordField optionalField optionalMember)

namespace FruInfo

def json (f : FruInfo) : Json :=
  .object (optionalMember "Manufacturer" .text f.manufacturer
    ++ optionalMember "Model" .text f.model
    ++ optionalMember "PartNumber" .text f.partNumber
    ++ optionalMember "SerialNumber" .text f.serialNumber)

def manufacturerField : RecordField (Option String) := optionalField "Manufacturer" Decoder.text

def modelField : RecordField (Option String) := optionalField "Model" Decoder.text

def partNumberField : RecordField (Option String) := optionalField "PartNumber" Decoder.text

def serialNumberField : RecordField (Option String) := optionalField "SerialNumber" Decoder.text

def decoder : Decoder FruInfo := fun r => do
  let row ← r.row [manufacturerField.column, modelField.column, partNumberField.column,
    serialNumberField.column]
  return ⟨← manufacturerField.get row, ← modelField.get row, ← partNumberField.get row,
    ← serialNumberField.get row⟩

end FruInfo

namespace MemoryFruInfo

def json (f : MemoryFruInfo) : Json :=
  .object (optionalMember "Manufacturer" .text f.manufacturer
    ++ optionalMember "PartNumber" .text f.partNumber
    ++ optionalMember "SerialNumber" .text f.serialNumber
    ++ optionalMember "MemoryDeviceType" .text f.deviceType)

def deviceTypeField : RecordField (Option String) := optionalField "MemoryDeviceType" Decoder.text

def decoder : Decoder MemoryFruInfo := fun r => do
  let row ← r.row [FruInfo.manufacturerField.column, FruInfo.partNumberField.column,
    FruInfo.serialNumberField.column, deviceTypeField.column]
  return ⟨← FruInfo.manufacturerField.get row, ← FruInfo.partNumberField.get row,
    ← FruInfo.serialNumberField.get row, ← deviceTypeField.get row⟩

end MemoryFruInfo

end Inventory
