-- IP literals as they stand in addresses of hosts: version 6 in brackets and
-- with an optional zone, and an optional port after the host.
import Inventory.Ip
import Inventory.Text.Blank
import Inventory.Text.Delimited

namespace Inventory

open Text

/-- An IP address with the zone it belongs to. Only version 6 has zones. -/
inductive IpLiteral
  | v4 (address : Ip.V4)
  | v6 (address : Ip.V6) (zone : Option String)
deriving DecidableEq

namespace IpLiteral

/-- Reads a host as a literal. Brackets around it are left out, whatever their number; a zone
follows the first percent sign and is not empty. -/
def ofChars? (host : List Char) : Option IpLiteral :=
  let inner := dropEndWhile (· == ']') (host.dropWhile (· == '['))
  match cutFirst? '%' inner with
  | none =>
    (Ip.ofChars? inner).map fun
      | .v4 a => .v4 a
      | .v6 a => .v6 a none
  | some (ip, zone) =>
    match Ip.ofChars? ip with
    | some (.v6 a) => if zone = [] then none else some (.v6 a (some (String.ofList zone)))
    | _ => none

def toChars : IpLiteral → List Char
  | .v4 a => a.toChars
  | .v6 a none => '[' :: a.toChars ++ [']']
  | .v6 a (some zone) => '[' :: a.toChars ++ '%' :: zone.toList ++ [']']

/-- The canonical text: small digits, zeros left out, version 6 in brackets. -/
def text (l : IpLiteral) : String := String.ofList l.toChars

instance : ToString IpLiteral := ⟨text⟩

end IpLiteral

/-! ## Hosts with ports -/

/-- A port number with 16 bits; a plus sign and leading zeros are allowed. -/
def port? (cs : List Char) : Option UInt16 := (signedDecimalBelow? 65536 cs).map UInt16.ofNat

/-- Cuts an address into host and port. A host in brackets may have a port after the bracket. Any
other host has a port after its only colon, and none if it has more than one. -/
def splitHostPort? : List Char → Option (List Char × Option UInt16)
  | '[' :: rest =>
    match cutFirst? ']' rest with
    | some (host, []) => some (host, none)
    | some (host, ':' :: port) => (port? port).map fun p => (host, some p)
    | _ => none
  | cs =>
    if cs.count ':' = 1 then
      match cutFirst? ':' cs with
      | some (host, port) => (port? port).map fun p => (host, some p)
      | none => none
    else some (cs, none)

/-- Writes a host with its port, if there is one. -/
def withPort (host : String) : Option UInt16 → String
  | none => host
  | some port => host ++ ":" ++ String.ofList (decimal port.toNat)

/-- The canonical text of an IP literal with an optional port; nothing for any other host. -/
def canonicalAddress? (addr : String) : Option String := do
  let (host, port) ← splitHostPort? (trimChars addr.toList)
  let literal ← IpLiteral.ofChars? host
  return withPort literal.text port

end Inventory
