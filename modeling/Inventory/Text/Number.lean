-- Numbers in texts: decimals of any length, decimals below a bound, and hex
-- digits of a fixed width.

namespace Inventory.Text

/-! ## Decimals -/

/-- The decimal digits of a number, without leading zeros. -/
def decimal (n : Nat) : List Char := Nat.toDigits 10 n

/-- The value of a run of decimal digits, leading zeros allowed. -/
def decimalValue (digits : List Char) : Nat := Nat.ofDigitChars 10 digits 0

/-- Reads one or more digits whose value is below the bound. -/
def decimalBelow? (bound : Nat) (cs : List Char) : Option Nat :=
  if cs ≠ [] ∧ cs.all Char.isDigit ∧ decimalValue cs < bound then some (decimalValue cs) else none

/-- As `decimalBelow?`, with one plus sign allowed in front. -/
def signedDecimalBelow? (bound : Nat) : List Char → Option Nat
  | '+' :: cs => decimalBelow? bound cs
  | cs => decimalBelow? bound cs

theorem decimalValue_decimal (n : Nat) : decimalValue (decimal n) = n :=
  Nat.ofDigitChars_toDigits (by decide) (by decide)

/-! ## Hex digits -/

/-- The small hex digit of a value below 16. -/
def hexDigit (n : Nat) : Char :=
  if n < 10 then Char.ofNat (48 + n) else Char.ofNat (87 + n)

/-- The value of a hex digit of either case. -/
def hexValue? (c : Char) : Option Nat :=
  if c.isDigit then some (c.toNat - 48)
  else if 'a' ≤ c ∧ c ≤ 'f' then some (c.toNat - 87)
  else if 'A' ≤ c ∧ c ≤ 'F' then some (c.toNat - 55)
  else none

def isHex (c : Char) : Bool := (hexValue? c).isSome

/-- The value of a run of hex digits, the first digit counting most. -/
def hexValue (digits : List Char) : Nat :=
  digits.foldl (fun acc c => 16 * acc + (hexValue? c).getD 0) 0

/-- The last `count` digits of a number in some base, the first digit counting most. -/
def lastDigits (base : Nat) : Nat → Nat → List Nat
  | 0, _ => []
  | count + 1, n => lastDigits base count (n / base) ++ [n % base]

/-- The last `width` hex digits of a number. -/
def hexDigits (width n : Nat) : List Char := (lastDigits 16 width n).map hexDigit

/-- The hex digits of a number, without leading zeros. -/
def hex (n : Nat) : List Char := (Nat.toDigits 16 n)

theorem lastDigits_length (base count n : Nat) : (lastDigits base count n).length = count := by
  induction count generalizing n with
  | zero => rfl
  | succ count ih => simp [lastDigits, ih]

theorem hexDigits_length (width n : Nat) : (hexDigits width n).length = width := by
  simp [hexDigits, lastDigits_length]

end Inventory.Text
