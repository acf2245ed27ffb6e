-- Ids of field-replaceable units. An id names a part wherever it is put in:
-- its type, its maker, its part number and its serial number, joined by dots.
-- A part that cannot be named so gets a substitute named for its location.
import Inventory.Text.Ascii

namespace Inventory

open Text

namespace Fru

/-- The longest id, in bytes. -/
def maxSize : Nat := 255

/-- The id of a part that has no id of its own. -/
def substitute (component : String) : String := "FRUIDfor" ++ component

/-- Why a part has no id of its own, with the substitute to use. -/
inductive Error
  | missingSerial (fallback : String)
  | missingIdentity (fallback : String)
  | tooLong (size : Nat) (fallback : String)
deriving DecidableEq, Repr

def Error.fallback : Error → String
  | .missingSerial fallback | .missingIdentity fallback | .tooLong _ fallback => fallback

def Error.message : Error → String
  | .missingSerial fallback => s!"No serial number for {fallback}"
  | .missingIdentity fallback => s!"No manufacturer or part number for {fallback}"
  | .tooLong size fallback =>
    s!"FRU id is {size} characters, limit is {maxSize}; using {fallback}"

/-- Builds an id from the letters and digits of its fields. The serial number has to be there, and
one of maker and part number. -/
def build (type component manufacturer part serial : String) : Except Error String :=
  match alphanumeric serial with
  | none => .error (.missingSerial (substitute component))
  | some serial =>
    match [manufacturer, part].filterMap alphanumeric with
    | [] => .error (.missingIdentity (substitute component))
    | identity =>
      let id := ".".intercalate (type :: identity ++ [serial])
      if maxSize < id.utf8ByteSize then .error (.tooLong id.utf8ByteSize (substitute component))
      else .ok id

/-- The id, or the substitute. -/
def orSubstitute : Except Error String → String
  | .ok id => id
  | .error e => e.fallback

end Fru

/-! ## Records of parts -/

/-- What most resources say about the part they are. -/
structure FruInfo where
  manufacturer : Option String := none
  model : Option String := none
  partNumber : Option String := none
  serialNumber : Option String := none
deriving DecidableEq, Repr

/-- What a memory module says about itself. -/
structure MemoryFruInfo where
  manufacturer : Option String := none
  partNumber : Option String := none
  serialNumber : Option String := none
  deviceType : Option String := none
deriving DecidableEq, Repr

namespace Fru

def ofInfo (type component : String) (info : FruInfo) : Except Error String :=
  build type component (info.manufacturer.getD "") (info.partNumber.getD "")
    (info.serialNumber.getD "")

def ofMemory (component : String) (info : MemoryFruInfo) : Except Error String :=
  build "Memory" component (info.manufacturer.getD "") (info.partNumber.getD "")
    (info.serialNumber.getD "")

end Fru

end Inventory
