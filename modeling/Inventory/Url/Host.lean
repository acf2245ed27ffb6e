-- Hosts of URLs. On the web a host is a name or an address; names are written
-- in ASCII, and a name that ends in a number is an address of four octets.
-- Elsewhere a host is an address in brackets or any text.
import Inventory.Idn
import Inventory.Ip
import Inventory.Url.Percent

namespace Inventory.Url

open Text

/-- An address in brackets. -/
def bracketed? (host : List Char) : Option (List Char) :=
  match host with
  | '[' :: rest =>
    if rest.getLast? = some ']' then
      (Ip.V6.ofChars? rest.dropLast).map fun a => '[' :: a.shortened ++ [']']
    else none
  | _ => none

/-! ## Addresses of four octets -/

/-- A part of a dotted number: decimal, octal after a zero, or hex after `0x`. -/
def numberPart? (part : List Char) : Option Nat :=
  match part with
  | '0' :: x :: digits =>
    if x = 'x' ∨ x = 'X' then if digits.all isHex then some (hexValue digits) else none
    else
      let digits := x :: digits
      if digits.all fun c => '0' ≤ c && c ≤ '7' then
        some (digits.foldl (fun n c => 8 * n + (c.toNat - 48)) 0)
      else none
  | _ => if part ≠ [] ∧ part.all Char.isDigit then some (decimalValue part) else none

/-- The parts of a host between dots; one dot at the end does not count. -/
def hostParts (host : List Char) : List (List Char) :=
  let parts := host.splitOn '.'
  if parts.getLast? = some [] ∧ 1 < parts.length then parts.dropLast else parts

def endsInNumber (host : List Char) : Bool :=
  let last := (hostParts host).getLastD []
  (last ≠ [] ∧ last.all Char.isDigit) || (numberPart? last).isSome

/-- Up to four numbers, the last of which fills all octets that are left. -/
def dottedNumber? (host : List Char) : Option Nat := do
  let numbers ← (hostParts host).mapM numberPart?
  let last ← numbers.getLast?
  let front := numbers.dropLast
  let room := Nat.pow 256 (4 - front.length)
  if 4 < numbers.length ∨ front.any (255 < ·) ∨ room ≤ last then none
  else some (front.foldl (fun n octet => 256 * n + octet) 0 * room + last)

def dotted (n : Nat) : List Char := ['.'].intercalate ((lastDigits 256 4 n).map decimal)

/-! ## Reading -/

def forbiddenInName (c : Char) : Bool :=
  c.toNat ≤ 32 || c.toNat = 127 || "#/:<>?@[\\]^|%".toList.contains c

/-- A host on the web. -/
def webHost? (host : List Char) : Option (List Char) :=
  if host.head? = some '[' then bracketed? host
  else do
    let name ← Idn.toAscii? forbiddenInName (← decodedText? host)
    if name = [] then none
    else if endsInNumber name then (dottedNumber? name).map dotted
    else some name

def forbiddenInText (c : Char) : Bool :=
  ['\x00', '\t', '\n', '\r'].contains c || " #/:<>?@[\\]^|".toList.contains c

/-- A host elsewhere. -/
def textHost? (host : List Char) : Option (List Char) :=
  if host.head? = some '[' then bracketed? host
  else if host.any forbiddenInText then none
  else some (percentEncode isPlain host)

end Inventory.Url
