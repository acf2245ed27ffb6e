-- IP addresses and their texts. Version 4 is four decimal octets without
-- leading zeros. Version 6 is eight groups of hex digits, where one run of
-- zero groups may be left out and the last two groups may be four octets.
import Inventory.Text.Number

namespace Inventory

open Text

namespace Ip

/-! ## Version 4 -/

structure V4 where
  octets : List UInt8
  length_eq : octets.length = 4
deriving DecidableEq

/-- A decimal below 256 without leading zeros. -/
def octet? (cs : List Char) : Option UInt8 :=
  if cs.head? = some '0' ∧ cs ≠ ['0'] then none
  else (decimalBelow? 256 cs).map UInt8.ofNat

def V4.ofChars? (cs : List Char) : Option V4 := do
  let octets ← (cs.splitOn '.').mapM octet?
  if h : octets.length = 4 then some ⟨octets, h⟩ else none

def V4.toChars (a : V4) : List Char :=
  ['.'].intercalate (a.octets.map fun o => decimal o.toNat)

/-! ## Version 6 -/

structure V6 where
  groups : List UInt16
  length_eq : groups.length = 8
deriving DecidableEq

/-- One to four hex digits. -/
def group? (cs : List Char) : Option UInt16 :=
  if cs ≠ [] ∧ cs.length ≤ 4 ∧ cs.all isHex then some (UInt16.ofNat (hexValue cs)) else none

/-- Four octets as two groups. -/
def V4.groups (a : V4) : List UInt16 :=
  match a.octets.map fun o => o.toNat with
  | [w, x, y, z] => [UInt16.ofNat (256 * w + x), UInt16.ofNat (256 * y + z)]
  | _ => []

/-- Groups between colons. If `dotted`, the last piece may be four octets. -/
def groups? (dotted : Bool) : List (List Char) → Option (List UInt16)
  | [] => some []
  | [piece] =>
    if dotted && piece.contains '.' then (V4.ofChars? piece).map V4.groups
    else (group? piece).map fun g => [g]
  | piece :: rest => do
    let g ← group? piece
    let gs ← groups? dotted rest
    return g :: gs

/-- What stands before and after the first double colon. -/
def cutDouble? : List Char → Option (List Char × List Char)
  | [] => none
  | ':' :: ':' :: rest => some ([], rest)
  | c :: rest => (cutDouble? rest).map fun p => (c :: p.1, p.2)

/-- The groups on one side of a double colon, where there may be none. -/
def side? (dotted : Bool) (cs : List Char) : Option (List UInt16) :=
  if cs = [] then some [] else groups? dotted (cs.splitOn ':')

/-- Eight groups, or fewer around a double colon, which stands for at least one zero group. -/
def V6.ofChars? (cs : List Char) : Option V6 :=
  match cutDouble? cs with
  | none => do
    let groups ← groups? true (cs.splitOn ':')
    if h : groups.length = 8 then some ⟨groups, h⟩ else none
  | some (front, back) => do
    let front ← side? false front
    let back ← side? true back
    if h : front.length + back.length < 8 then
      some ⟨front ++ List.replicate (8 - (front.length + back.length)) 0 ++ back, by
        simp; omega⟩
    else none

/-- How many zero groups stand at an index and right after it. -/
def zerosAt (groups : List UInt16) (i : Nat) : Nat :=
  ((groups.drop i).takeWhile (· == 0)).length

/-- Start and length of the first longest run of zero groups. -/
def longestZeros (groups : List UInt16) : Nat × Nat :=
  (List.range groups.length).foldl
    (fun best i => if best.2 < zerosAt groups i then (i, zerosAt groups i) else best) (0, 0)

/-- Hex groups without leading zeros, joined by colons. -/
def groupChars (groups : List UInt16) : List Char :=
  [':'].intercalate (groups.map fun g => hex g.toNat)

/-- The version 4 address that the groups after `::ffff` spell out. -/
def V6.mapped? (a : V6) : Option V4 :=
  match a.groups with
  | [0, 0, 0, 0, 0, 0xFFFF, x, y] =>
    some ⟨[UInt8.ofNat (x.toNat / 256), UInt8.ofNat (x.toNat % 256),
      UInt8.ofNat (y.toNat / 256), UInt8.ofNat (y.toNat % 256)], rfl⟩
  | _ => none

/-- All groups in hex, but for the first longest run of two or more zero groups. -/
def V6.shortened (a : V6) : List Char :=
  let (start, length) := longestZeros a.groups
  if 1 < length then
    groupChars (a.groups.take start) ++ [':', ':'] ++ groupChars (a.groups.drop (start + length))
  else groupChars a.groups

/-- The canonical text: mapped addresses with dots, all others shortened. -/
def V6.toChars (a : V6) : List Char :=
  match a.mapped? with
  | some v4 => "::ffff:".toList ++ v4.toChars
  | none => a.shortened

end Ip

/-! ## Either version -/

inductive Ip
  | v4 (address : Ip.V4)
  | v6 (address : Ip.V6)
deriving DecidableEq

namespace Ip

def ofChars? (cs : List Char) : Option Ip :=
  match V4.ofChars? cs with
  | some a => some (.v4 a)
  | none => (V6.ofChars? cs).map .v6

def toChars : Ip → List Char
  | .v4 a => a.toChars
  | .v6 a => a.toChars

def text (a : Ip) : String := String.ofList a.toChars

instance : ToString Ip := ⟨text⟩

end Ip

end Inventory
