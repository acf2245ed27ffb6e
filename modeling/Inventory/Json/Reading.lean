-- What is found in a JSON text, read from left to right. The reading of a
-- text that breaks off is a value all the same: its last part is broken, and
-- nothing comes after that part. So a decoder that goes through a reading in
-- order meets the faults of the text where they stand.
import Inventory.Json.Token

namespace Inventory.Json

/-- How a list or an object ends: with its bracket, or in a fault. -/
inductive Ending
  | closed
  | broken (fault : Fault)
deriving DecidableEq, Repr

/-- The name of a member, or why it has none. -/
abbrev Key := Except Cause String

inductive Reading
  | null
  | bool (b : Bool)
  | number (n : Numeral)
  | text (read : Except Cause String)
  | list (items : List Reading) (ending : Ending)
  | object (members : List (Key × Reading)) (ending : Ending)
  | broken (fault : Fault)

/-- The reading of a whole text: its value, and whether something follows it. -/
structure Document where
  value : Reading
  trailing : Bool

/-! ## Reading token by token -/

/-- A list or an object that is not closed yet; a member waits for its value. -/
inductive Frame
  | list (items : List Reading)
  | object (members : List (Key × Reading))
  | member (members : List (Key × Reading)) (key : Key)

/-- What the next token is read as. -/
inductive Place
  | value
  | firstItem
  | firstKey
  | key
  | colon
  | next
deriving DecidableEq, Repr

/-- What a token leads to: more tokens, a whole value, or a value that breaks off. -/
inductive Step
  | going (place : Place) (frames : List Frame)
  | whole (value : Reading)
  | cut (value : Reading)

/-- Puts a whole value where it belongs. -/
def deliver (v : Reading) : List Frame → Step
  | [] => .whole v
  | .list items :: frames => .going .next (.list (items ++ [v]) :: frames)
  | .member members key :: frames => .going .next (.object (members ++ [(key, v)]) :: frames)
  | .object members :: frames => .going .next (.object members :: frames)

/-- Closes all frames around a value that breaks off; who skips one of them meets its fault. -/
def unwind (skip : Cause) (v : Reading) : List Frame → Reading
  | [] => v
  | .list items :: frames =>
    unwind skip (.list (items ++ [v]) (.broken (.plain skip))) frames
  | .member members key :: frames =>
    unwind skip (.object (members ++ [(key, v)]) (.broken (.plain skip))) frames
  | .object members :: frames =>
    unwind skip (.object members (.broken (.plain skip))) frames

def cutAt (fault : Fault) (frames : List Frame) : Reading :=
  unwind fault.skip (.broken fault) frames

/-- The innermost frame ends in a fault, where a comma or its bracket should be. -/
def cutFrame (c : Cause) : List Frame → Reading
  | .list items :: frames => unwind c (.list items (.broken (.plain c))) frames
  | .object members :: frames => unwind c (.object members (.broken (.plain c))) frames
  | frames => cutAt (.plain c) frames

/-- A member without a name: what it is called is a fault, and so is its value. -/
def cutKey (fault : Fault) : List Frame → Reading
  | .object members :: frames =>
    cutAt fault (.member members (.error fault.read) :: frames)
  | frames => cutAt fault frames

/-- Why a number is refused where something else is wanted. -/
def Numeral.refusal (n : Numeral) : Cause := if n.isHuge then .malformed else .mismatched

/-- A token where a value should be. -/
def stepValue (frames : List Frame) : Token → Step
  | .null => deliver .null frames
  | .bool b => deliver (.bool b) frames
  | .number n => deliver (.number n) frames
  | .text read => deliver (.text read) frames
  | .openList => .going .firstItem (.list [] :: frames)
  | .openObject => .going .firstKey (.object [] :: frames)
  | .broken fault | .brokenText fault => .cut (cutAt fault frames)
  | .comma | .colon | .closeList | .closeObject => .cut (cutAt (.plain .malformed) frames)

/-- A token where the name of a member should be: anything but a text is a fault. -/
def stepKey (frames : List Frame) (t : Token) : Step :=
  match t with
  | .text read =>
    match frames with
    | .object members :: frames => .going .colon (.member members read :: frames)
    | frames => .cut (cutAt (.plain .malformed) frames)
  | .brokenText fault => .cut (cutKey fault frames)
  | _ => .cut (cutKey (.plain .malformed) frames)

/-- A token after a value: a comma, or the bracket of the frame. -/
def stepNext (frames : List Frame) (t : Token) : Step :=
  match frames, t with
  | .list _ :: _, .comma => .going .value frames
  | .object _ :: _, .comma => .going .key frames
  | .list items :: outer, .closeList => deliver (.list items .closed) outer
  | .object members :: outer, .closeObject => deliver (.object members .closed) outer
  | _, _ => .cut (cutFrame .malformed frames)

def step (place : Place) (frames : List Frame) (t : Token) : Step :=
  match place, t with
  | .value, _ => stepValue frames t
  | .firstItem, .closeList => stepNext frames t
  | .firstItem, _ => stepValue frames t
  | .firstKey, .closeObject => stepNext frames t
  | .firstKey, _ => stepKey frames t
  | .key, _ => stepKey frames t
  | .colon, .colon => .going .value frames
  | .colon, _ => .cut (cutAt (.plain .malformed) frames)
  | .next, _ => stepNext frames t

/-- The text ends before the value does. -/
def stop (place : Place) (frames : List Frame) : Reading :=
  match place with
  | .value | .colon => cutAt (.plain .truncated) frames
  | .key => cutKey (.plain .truncated) frames
  | .firstItem | .firstKey | .next => cutFrame .truncated frames

def build (place : Place) (frames : List Frame) : List Token → Document
  | [] => ⟨stop place frames, false⟩
  | t :: rest =>
    match step place frames t with
    | .going place frames => build place frames rest
    | .whole v => ⟨v, !rest.isEmpty⟩
    | .cut v => ⟨v, false⟩

/-- Reads a text. -/
def Document.ofText (text : String) : Document := build .value [] (tokens text)

end Inventory.Json
