-- Location names ("xnames") spell out where a component sits: one letter and
-- one number for each level, from the cabinet inwards. Case and leading zeros
-- do not matter, so each location has one canonical text.
import Inventory.Text.Blank
import Inventory.Text.Number
import Inventory.Xname.Kind

namespace Inventory

open Text

/-- One level of a location. -/
structure Segment where
  letter : Char
  number : UInt32
deriving DecidableEq

namespace Segment

def toChars (s : Segment) : List Char := s.letter :: decimal s.number.toNat

/-- A small letter, and digits whose value has 32 bits. -/
def ofParts? (letter : Char) (digits : List Char) : Option Segment :=
  if letter.isLower then (decimalBelow? UInt32.size digits).map (⟨letter, UInt32.ofNat ·⟩) else none

/-- Cuts a text before every character that is no digit, so that each piece is such a character
and the digits after it. Digits at the front belong to no piece and are returned apart. -/
def pieces : List Char → List Char × List (Char × List Char)
  | [] => ([], [])
  | c :: cs =>
    let (digits, rest) := pieces cs
    if c.isDigit then (c :: digits, rest) else ([], (c, digits) :: rest)

/-- Reads one or more segments. -/
def ofChars? (cs : List Char) : Option (List Segment) :=
  match pieces cs with
  | ([], p :: ps) => (p :: ps).mapM fun piece => ofParts? piece.1 piece.2
  | _ => none

end Segment

/-- A location of a known kind. -/
structure Xname where
  segments : List Segment
  kind : Kind
  shape_eq : segments.map Segment.letter = kind.shape
deriving DecidableEq

namespace Xname

inductive Error
  | malformed (text : String)
  | unknownType (text : String)
deriving DecidableEq, Repr

def Error.message : Error → String
  | .malformed text => s!"Malformed xname: {text}"
  | .unknownType text => s!"Unrecognized component type for xname: {text}"

/-- The location that these segments lead to, if their letters have a kind. -/
def ofSegments? (segments : List Segment) : Option Xname :=
  match h : Kind.ofShape? (segments.map Segment.letter) with
  | none => none
  | some kind => some ⟨segments, kind, by
      have := List.find?_some h
      simpa using (of_decide_eq_true this).symm⟩

/-- Reads a location, blanks around it and capitals allowed. -/
def parse (text : String) : Except Error Xname :=
  match Segment.ofChars? ((trimChars text.toList).map Char.toLower) with
  | none => .error (.malformed text)
  | some segments =>
    match ofSegments? segments with
    | none => .error (.unknownType text)
    | some x => .ok x

/-- The canonical text: small letters, numbers without leading zeros. -/
def text (x : Xname) : String := String.ofList (x.segments.flatMap Segment.toChars)

instance : ToString Xname := ⟨text⟩

def isController (x : Xname) : Bool := x.kind.isController

/-- The component that this one sits in. A cabinet sits in none. -/
def parent? (x : Xname) : Option Xname := ofSegments? x.segments.dropLast

/-- The canonical text of a location, or the text without blanks around it. -/
def normalize (s : String) : String :=
  match parse s with
  | .ok x => x.text
  | .error _ => trim s

end Xname

end Inventory
