-- Numbers as JSON texts write them. Only naturals are ever wanted, but a
-- number of another kind has to fit a double before it is refused for its
-- kind: its digits are read into a word of 64 bits and a power of ten, and the
-- product of the two is rounded as doubles are.
import Inventory.Text.Number

namespace Inventory.Json

open Text

/-- A number as it is written: digits before the point, after it, and in the exponent. -/
structure Numeral where
  negative : Bool
  whole : List Char
  fraction : Option (List Char)
  exponent : Option (Bool × List Char)
deriving DecidableEq, Repr

/-! ## Rounding -/

/-- The nearest number with 53 significant bits; of two that are equally near, the one whose last
bit is zero. -/
def round53 (n : Nat) : Nat :=
  let unit := Nat.pow 2 (n.log2 - 52)
  let below := n / unit
  let twice := 2 * (n % unit)
  if unit < twice ∨ (twice = unit ∧ below % 2 = 1) then (below + 1) * unit else below * unit

namespace Numeral

/-- The natural that a numeral writes without sign, point and exponent. -/
def natural? (n : Numeral) : Option Nat :=
  if n.negative || n.fraction.isSome || n.exponent.isSome then none
  else some (decimalValue n.whole)

/-! ## Magnitude -/

/-- Appends digits to a word while they fit, and gives those that are left. -/
def takeDigits (word : Nat) : List Char → Nat × List Char
  | [] => (word, [])
  | c :: rest =>
    let next := 10 * word + (c.toNat - 48)
    if next < UInt64.size then takeDigits next rest else (word, c :: rest)

/-- The digits as a word and a power of ten. Digits before the point that do not fit still count
as tens; digits after it that do not fit are dropped. -/
def significand (n : Numeral) : Nat × Int :=
  let fraction := n.fraction.getD []
  let (word, left) := takeDigits 0 n.whole
  let (word, dropped) := takeDigits word fraction
  (word, (left.length : Int) - (fraction.length - dropped.length : Nat))

def exponentValue (n : Numeral) : Int :=
  match n.exponent with
  | none => 0
  | some (negative, digits) =>
    if negative then -(decimalValue digits : Int) else decimalValue digits

/-- The magnitude is no double: word and power of ten are rounded, and so is their product, which
has to stay below 2^1024. The largest power of ten among the doubles is the 308th. -/
def isHuge (n : Numeral) : Bool :=
  let (word, scale) := n.significand
  let power := scale + n.exponentValue
  if word = 0 ∨ power < 0 then false
  else
    308 < power
      || Nat.pow 2 1024 ≤ round53 (round53 word * round53 (Nat.pow 10 power.toNat))

end Numeral

end Inventory.Json
