-- Decoders: what a reading says, if it says what is asked for. Every decoder
-- goes from left to right and gives the first cause for refusal.
import Inventory.Json.Reading

namespace Inventory.Json

abbrev Decoder (α : Type) := Reading → Except Cause α

namespace Reading

/-- Why a reading is refused where another kind of value is wanted. A scalar is read to its end
before it is refused, a list or an object is not. -/
def refusal : Reading → Cause
  | .number n => n.refusal
  | .text (.error c) => c
  | .broken fault => fault.read
  | _ => .mismatched

/-- Passes over a value, which only has to be whole. -/
def pass : Reading → Except Cause Unit
  | .broken fault | .list _ (.broken fault) | .object _ (.broken fault) => .error fault.skip
  | _ => .ok ()

end Reading

/-- A list or an object has to be closed. -/
def Ending.done : Ending → Except Cause Unit
  | .closed => .ok ()
  | .broken fault => .error fault.read

/-! ## Scalars and lists -/

namespace Decoder

def text : Decoder String
  | .text read => read
  | r => .error r.refusal

def bool : Decoder Bool
  | .bool b => .ok b
  | r => .error r.refusal

/-- A natural below a bound, written as an integer. -/
def naturalBelow (bound : Nat) : Decoder Nat
  | .number n =>
    match n.natural? with
    | some v => if v < bound then .ok v else .error n.refusal
    | none => .error n.refusal
  | r => .error r.refusal

def word : Decoder UInt64 := fun r => (naturalBelow UInt64.size r).map UInt64.ofNat

/-- Null is nothing. -/
def optional {α : Type} (d : Decoder α) : Decoder (Option α)
  | .null => .ok none
  | r => (d r).map some

def null : Decoder Unit
  | .null => .ok ()
  | r => .error r.refusal

/-- Every item, then the bracket. -/
def items {α : Type} (d : Decoder α) : List Reading → Except Cause (List α)
  | [] => .ok []
  | r :: rest => do
    let a ← d r
    let as ← items d rest
    return a :: as

def list {α : Type} (d : Decoder α) : Decoder (List α)
  | .list rs ending => do
    let as ← items d rs
    ending.done
    return as
  | r => .error r.refusal

/-- A text that another reader accepts. -/
def ofText {α : Type} (read : String → Option α) : Decoder α := fun r => do
  match read (← text r) with
  | some a => .ok a
  | none => .error .mismatched

/-- One of some names: the name itself, or an object whose only member has that name and the
value null. -/
def choice {α : Type} (ofName : String → Option α) : Decoder α
  | .text read => do
    match ofName (← read) with
    | some a => .ok a
    | none => .error .mismatched
  | .object [] .closed => .error .malformed
  | .object [] (.broken fault) => .error fault.read
  | .object ((key, value) :: more) ending => do
    match ofName (← key) with
    | none => .error .mismatched
    | some a => do
      null value
      if more.isEmpty then ending.done else Except.error .malformed
      return a
  | .broken fault => .error fault.choose
  | _ => .error .malformed

end Decoder

/-! ## Records -/

/-- A field of a record without the type of its values. -/
structure Column where
  name : String
  check : Reading → Except Cause Unit
  required : Bool

/-- The values found for the fields of a record. -/
abbrev Row := List (String × Reading)

/-- A field of a record: its name, what its values are, and the value of a record without it. -/
structure RecordField (α : Type) where
  name : String
  decode : Decoder α
  fallback : Option α := none

namespace RecordField

def column {α : Type} (f : RecordField α) : Column :=
  ⟨f.name, fun r => (f.decode r).map fun _ => (), f.fallback.isNone⟩

def get {α : Type} (f : RecordField α) (row : Row) : Except Cause α :=
  match row.lookup f.name with
  | some r => f.decode r
  | none =>
    match f.fallback with
    | some a => .ok a
    | none => .error .mismatched

end RecordField

/-- A field whose value may be left out or null. -/
def optionalField {α : Type} (name : String) (d : Decoder α) : RecordField (Option α) :=
  ⟨name, Decoder.optional d, some none⟩

namespace Column

/-- Goes through the members of an object. A name that is no field is passed over with its value;
a field that comes twice is refused before its value is looked at. -/
def members (columns : List Column) (row : Row) : List (Key × Reading) → Except Cause Row
  | [] => .ok row
  | (key, value) :: rest => do
    let name ← key
    match columns.find? (·.name = name) with
    | none => do
      value.pass
      members columns row rest
    | some column =>
      if (row.lookup name).isSome then .error .mismatched
      else do
        column.check value
        members columns (row ++ [(name, value)]) rest

/-- Goes through the items of a list, which are the fields in their order. Fields at the end may
be left out if they need no value. -/
def items (row : Row) : List Column → List Reading → Ending → Except Cause Row
  | [], [], ending => do
    ending.done
    return row
  | [], _ :: _, _ => .error .malformed
  | column :: columns, [], ending => do
    ending.done
    if column.required then Except.error .mismatched else items row columns [] ending
  | column :: columns, r :: rs, ending => do
    column.check r
    items (row ++ [(column.name, r)]) columns rs ending

end Column

/-- Reads a record, written as an object or as the list of its fields. -/
def Reading.row (columns : List Column) : Reading → Except Cause Row
  | .object ms ending => do
    let row ← Column.members columns [] ms
    ending.done
    if columns.any fun c => c.required && (row.lookup c.name).isNone then
      Except.error .mismatched
    else Except.ok row
  | .list rs ending => Column.items [] columns rs ending
  | r => .error r.refusal

/-! ## Whole texts -/

/-- Decodes a text that holds one value and nothing else. -/
def decode {α : Type} (d : Decoder α) (text : String) : Except Cause α := do
  let document := Document.ofText text
  let a ← d document.value
  if document.trailing then Except.error .malformed else Except.ok a

end Inventory.Json
