-- Hardware addresses. An address is a 48-bit value; a layout says how its
-- twelve hex digits stand in a text. `parse` finds both, and the canonical
-- text is the small colon form.
import Inventory.Text.Blank
import Inventory.Text.Ascii
import Inventory.Text.Number

namespace Inventory

open Text

/-- A 48-bit hardware address. -/
structure Mac where
  value : Nat
  value_lt : value < 0x1000000000000
deriving DecidableEq

namespace Mac

/-! ## Values -/

/-- Six octets, the first counting most. -/
def octets (m : Mac) : List Nat := lastDigits 256 6 m.value

def ofNat? (n : Nat) : Option Mac := if h : n < 0x1000000000000 then some ⟨n, h⟩ else none

/-- The address of six octets, the first counting most. -/
def ofOctets (o : Vector UInt8 6) : Mac :=
  ⟨((((o[0].toNat * 256 + o[1].toNat) * 256 + o[2].toNat) * 256 + o[3].toNat) * 256
    + o[4].toNat) * 256 + o[5].toNat, by
    have h (b : UInt8) : b.toNat < 256 := b.toNat_lt
    have := h o[0]; have := h o[1]; have := h o[2]; have := h o[3]; have := h o[4]; have := h o[5]
    omega⟩

/-- Addresses are ordered by value. -/
instance : Ord Mac where
  compare a b := compare a.value b.value

instance : LE Mac where
  le a b := a.value ≤ b.value

instance (a b : Mac) : Decidable (a ≤ b) := inferInstanceAs (Decidable (a.value ≤ b.value))

def sort (ms : List Mac) : List Mac := ms.mergeSort fun a b => a ≤ b

def isBroadcast (m : Mac) : Bool := m.value == 0xFFFFFFFFFFFF

/-- The lowest bit of the first octet marks a group address. -/
def isMulticast (m : Mac) : Bool := m.value / 0x10000000000 % 2 == 1

def isUnicast (m : Mac) : Bool := !m.isMulticast

/-- The address `delta` further on, if that value still has 48 bits. -/
def offset? (m : Mac) (delta : Int) : Option Mac :=
  match (m.value : Int) + delta with
  | .ofNat n => ofNat? n
  | .negSucc _ => none

/-! ## Layouts -/

/-- How the twelve digits of an address are written. -/
inductive Layout
  | colon
  | dash
  | dottedOctets
  | dottedQuads
  | bare
deriving DecidableEq, Repr

/-- How many digits stand together. -/
def Layout.width : Layout → Nat
  | .colon | .dash | .dottedOctets => 2
  | .dottedQuads => 4
  | .bare => 12

/-- What is written between two groups. -/
def Layout.mark : Layout → Char
  | .colon | .bare => ':'
  | .dash => '-'
  | .dottedOctets | .dottedQuads => '.'

/-- The layout that an address is written in when it was read in this one: a bare address gets
colons. -/
def Layout.written : Layout → Layout
  | .bare => .colon
  | layout => layout

/-- The first separator that occurs, of colon, dash and dot, settles the layout. -/
def Layout.split? (cs : List Char) : Option (Layout × List (List Char)) :=
  if ':' ∈ cs then some (.colon, cs.splitOn ':')
  else if '-' ∈ cs then some (.dash, cs.splitOn '-')
  else if '.' ∈ cs then
    let groups := cs.splitOn '.'
    if groups.length = 6 then some (.dottedOctets, groups)
    else if groups.length = 3 then some (.dottedQuads, groups)
    else none
  else some (.bare, [cs])

/-- A group of a layout: as many hex digits as it asks for. -/
def Layout.isGroup (layout : Layout) (group : List Char) : Bool :=
  group.length == layout.width && group.all isHex

/-! ## Reading -/

inductive Error
  | invalidFormat (text : String)
  | outOfRange (text : String) (delta : Int)
deriving DecidableEq, Repr

def Error.message : Error → String
  | .invalidFormat text => s!"Invalid MAC address format: {text}"
  | .outOfRange text delta => s!"MAC address {text} offset by {delta} leaves the 48-bit range"

/-- Twelve digits in groups of equal width, and the layout they stand in. -/
def ofChars? (cs : List Char) : Option (Mac × Layout) := do
  let (layout, groups) ← Layout.split? cs
  if groups.length * layout.width = 12 ∧ groups.all layout.isGroup then
    let m ← ofNat? (hexValue groups.flatten)
    return (m, layout)
  else none

/-- Reads an address in any layout, blanks around it allowed. -/
def parse (text : String) : Except Error (Mac × Layout) :=
  match ofChars? (trimChars text.toList) with
  | some found => .ok found
  | none => .error (.invalidFormat text)

def ofText (text : String) : Except Error Mac := (parse text).map Prod.fst

/-! ## Writing -/

def toChars (m : Mac) (layout : Layout) : List Char :=
  let groups := match layout.written with
    | .dottedQuads => (lastDigits 65536 3 m.value).map (hexDigits 4)
    | _ => m.octets.map (hexDigits 2)
  [layout.written.mark].intercalate groups

/-- The address in a layout, with small digits. -/
def write (m : Mac) (layout : Layout) : String := String.ofList (m.toChars layout)

/-- The canonical text: six pairs of small digits joined by colons. -/
def text (m : Mac) : String := m.write .colon

instance : ToString Mac := ⟨text⟩

/-! ## Texts in canonical form -/

/-- The canonical text, or the reason why there is none. -/
def verify (s : String) : Except Error String := (ofText s).map text

/-- The canonical text, or the text itself where it is no address. -/
def normalize (s : String) : String :=
  match ofText s with
  | .ok m => m.text
  | .error _ => s

/-- The canonical text, or nothing where the text is no address. -/
def normalizeValid (s : String) : String :=
  match ofText s with
  | .ok m => m.text
  | .error _ => ""

/-! ## Offsets and order of texts -/

/-- Moves an address by `delta` and writes it as it was written: in its own layout, and in
capitals if the text has capitals and no small letters. -/
def offset (s : String) (delta : Int) : Except Error String := do
  let (m, layout) ← parse s
  match m.offset? delta with
  | none => .error (.outOfRange s delta)
  | some moved => .ok (if isUpperCased s then upper (moved.write layout) else moved.write layout)

/-- Orders two texts by the values they stand for; the left one is read first. -/
def compareTexts (a b : String) : Except Error Ordering := do
  let x ← ofText a
  let y ← ofText b
  return compare x y

end Mac

end Inventory
