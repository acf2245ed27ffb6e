-- JSON values and their texts: in one line, and laid out with one item a
-- line. Members keep the order they are given in.
import Inventory.Text.Number

namespace Inventory

open Text

/-- A value of a document that the inventory writes. Its numbers are naturals. -/
inductive Json
  | null
  | bool (b : Bool)
  | number (n : Nat)
  | text (s : String)
  | list (items : List Json)
  | object (members : List (String × Json))

namespace Json

/-! ## Texts of scalars -/

/-- A character of a text between quotes. Quotes, backslashes and controls are escaped. -/
def escaped (c : Char) : List Char :=
  if c = '"' then ['\\', '"']
  else if c = '\\' then ['\\', '\\']
  else if c = '\x08' then ['\\', 'b']
  else if c = '\t' then ['\\', 't']
  else if c = '\n' then ['\\', 'n']
  else if c = '\x0c' then ['\\', 'f']
  else if c = '\r' then ['\\', 'r']
  else if c.toNat < 32 then ['\\', 'u'] ++ hexDigits 4 c.toNat
  else [c]

def quoted (s : String) : List Char := '"' :: s.toList.flatMap escaped ++ ['"']

def boolChars (b : Bool) : List Char := if b then "true".toList else "false".toList

/-! ## One line -/

mutual

/-- The text without blanks. -/
def compact : Json → List Char
  | null => "null".toList
  | bool b => boolChars b
  | number n => decimal n
  | text s => quoted s
  | list items => '[' :: compactItems items ++ [']']
  | object members => '\x7b' :: compactMembers members ++ ['\x7d']

def compactItems : List Json → List Char
  | [] => []
  | [item] => compact item
  | item :: rest => compact item ++ ',' :: compactItems rest

def compactMembers : List (String × Json) → List Char
  | [] => []
  | [(name, value)] => quoted name ++ ':' :: compact value
  | (name, value) :: rest => quoted name ++ ':' :: compact value ++ ',' :: compactMembers rest

end

def compactText (j : Json) : String := String.ofList (compact j)

/-! ## One item a line -/

/-- A new line, indented by two blanks a level. -/
def newLine (depth : Nat) : List Char := '\n' :: List.replicate (2 * depth) ' '

mutual

/-- The text with every item and member on a line of its own, one level further in. -/
def pretty (depth : Nat) : Json → List Char
  | null => "null".toList
  | bool b => boolChars b
  | number n => decimal n
  | text s => quoted s
  | list [] => ['[', ']']
  | list (item :: rest) =>
    '[' :: newLine (depth + 1) ++ pretty (depth + 1) item ++ prettyItems (depth + 1) rest
      ++ newLine depth ++ [']']
  | object [] => ['\x7b', '\x7d']
  | object ((name, value) :: rest) =>
    '\x7b' :: newLine (depth + 1) ++ quoted name ++ [':', ' '] ++ pretty (depth + 1) value
      ++ prettyMembers (depth + 1) rest ++ newLine depth ++ ['\x7d']

/-- The items after the first. -/
def prettyItems (depth : Nat) : List Json → List Char
  | [] => []
  | item :: rest => ',' :: newLine depth ++ pretty depth item ++ prettyItems depth rest

/-- The members after the first. -/
def prettyMembers (depth : Nat) : List (String × Json) → List Char
  | [] => []
  | (name, value) :: rest =>
    ',' :: newLine depth ++ quoted name ++ [':', ' '] ++ pretty depth value
      ++ prettyMembers depth rest

end

def prettyText (j : Json) : String := String.ofList (pretty 0 j)

/-! ## Order of members -/

mutual

/-- The value with the members of every object in the order of their names. -/
def sorted : Json → Json
  | list items => list (sortedItems items)
  | object members =>
    object ((sortedMembers members).mergeSort fun a b => decide (a.1 ≤ b.1))
  | j => j

def sortedItems : List Json → List Json
  | [] => []
  | item :: rest => sorted item :: sortedItems rest

def sortedMembers : List (String × Json) → List (String × Json)
  | [] => []
  | (name, value) :: rest => (name, sorted value) :: sortedMembers rest

end

/-! ## Records -/

/-- A member that is left out when there is no value. -/
def optionalMember {α : Type} (name : String) (encode : α → Json) :
    Option α → List (String × Json)
  | none => []
  | some a => [(name, encode a)]

end Json

end Inventory
