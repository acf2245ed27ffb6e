-- DNS names of management controllers: labels of letters, digits and inner
-- hyphens, joined by dots and kept in small letters. The type holds checked
-- names only, so a name that exists is a valid one.
import Inventory.Text.Blank
import Inventory.Text.Ascii
import Inventory.Text.Utf8
import Inventory.Text.Quoted

namespace Inventory

open Text

namespace Hostname

/-! ## What can be wrong with a name -/

inductive Error
  | empty
  | tooLong (size : Nat)
  | labelTooLong (label : String)
  | invalidCharacter (name : String) (c : Char)
  | invalidLabelFormat (label : String)
  | numericLabel (label : String)
deriving DecidableEq, Repr

def Error.message : Error → String
  | .empty => "DNS name is empty"
  | .tooLong size => s!"DNS name exceeds maximum length of 253 characters: {size}"
  | .labelTooLong label => s!"Label exceeds maximum length of 63 characters: {label}"
  | .invalidCharacter name c => s!"Invalid character {quoteChar c} in DNS name: {name}"
  | .invalidLabelFormat label => s!"Label cannot start or end with hyphen: {label}"
  | .numericLabel label => s!"Top-level label cannot be all numeric: {label}"

def isLabelChar (c : Char) : Bool := c.isAlphanum || c == '-'

/-- The first fault of a label in the name it stands in. -/
def labelFault? (name label : List Char) : Option Error :=
  if label = [] then some .empty
  else if 63 < utf8Size label then some (.labelTooLong (String.ofList label))
  else match label.find? (!isLabelChar ·) with
  | some c => some (.invalidCharacter (String.ofList name) c)
  | none =>
    if label.head? = some '-' ∨ label.getLast? = some '-' then
      some (.invalidLabelFormat (String.ofList label))
    else none

def labels (name : List Char) : List (List Char) := name.splitOn '.'

/-- The first fault of a name: its size, then its labels from left to right, then a last label
of digits only. -/
def fault? (name : List Char) : Option Error :=
  if name = [] then some .empty
  else if 253 < utf8Size name then some (.tooLong (utf8Size name))
  else match (labels name).findSome? (labelFault? name) with
  | some e => some e
  | none =>
    let top := (labels name).getLastD []
    if top.all Char.isDigit then some (.numericLabel (String.ofList top)) else none

end Hostname

/-! ## Names -/

/-- A DNS name without faults, in small letters. -/
structure Hostname where
  text : String
  faultless : Hostname.fault? text.toList = none
  small : text.toList.map Char.toLower = text.toList

namespace Hostname

instance : DecidableEq Hostname := fun a b =>
  if h : a.text = b.text then
    isTrue (by cases a; cases b; cases h; rfl)
  else isFalse fun e => h (by rw [e])

instance : ToString Hostname := ⟨text⟩

/-- One dot at the end marks an absolute name and is left out. -/
def dropRootDot (cs : List Char) : List Char :=
  if cs.getLast? = some '.' then cs.dropLast else cs

/-- The text that a name is checked as: trimmed, without root dot, in small letters. -/
def folded (text : String) : List Char :=
  (dropRootDot (trimChars text.toList)).map Char.toLower

theorem folded_small (text : String) : (folded text).map Char.toLower = folded text := by
  simp only [folded, List.map_map, Function.comp_def, toLower_toLower]

/-- Reads a name, or says what its first fault is. -/
def parse (text : String) : Except Error Hostname :=
  match h : fault? (folded text) with
  | some e => .error e
  | none => .ok ⟨String.ofList (folded text), by simpa using h, by simpa using folded_small text⟩

/-! ## Parts of a name -/

/-- The first label. -/
def shortName (h : Hostname) : String := String.ofList (h.text.toList.takeWhile (· != '.'))

/-- What stands after the first dot. -/
def domain? (h : Hostname) : Option String :=
  match h.text.toList.dropWhile (· != '.') with
  | [] => none
  | _ :: rest => some (String.ofList rest)

/-- More than one label. -/
def isQualified (h : Hostname) : Bool := h.text.toList.contains '.'

/-- The name with a domain after it, checked again as a whole. -/
def withDomain (h d : Hostname) : Except Error Hostname := parse (h.text ++ "." ++ d.text)

end Hostname

end Inventory
