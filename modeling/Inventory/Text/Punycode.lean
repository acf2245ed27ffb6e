-- Punycode: a label with characters beyond ASCII as a code of ASCII letters,
-- digits and hyphens. The characters are written as the differences between
-- their code points, in ascending order, with digits of a varying base.

namespace Inventory.Text.Punycode

/-! ## Digits -/

/-- The 36 digits are the small letters and then the decimal digits. -/
def digit (n : Nat) : Char := if n < 26 then Char.ofNat (97 + n) else Char.ofNat (22 + n)

/-- The value of a digit; a letter of either case counts. -/
def digitValue? (c : Char) : Option Nat :=
  if c.isDigit then some (c.toNat - 22)
  else if 'a' ≤ c ∧ c ≤ 'z' then some (c.toNat - 97)
  else if 'A' ≤ c ∧ c ≤ 'Z' then some (c.toNat - 65)
  else none

/-- The least value of a digit that is not the last, at the `k`-th position. -/
def threshold (bias k : Nat) : Nat := min 26 (max 1 (36 * (k + 1) - bias))

theorem threshold_bounds (bias k : Nat) : 0 < threshold bias k ∧ threshold bias k < 36 := by
  unfold threshold
  omega

/-- The digits of a difference. The last one is below its threshold, and may be zero. -/
def digitsOf (bias k n : Nat) : List Char :=
  let t := threshold bias k
  if n < t then [digit n]
  else digit (t + (n - t) % (36 - t)) :: digitsOf bias (k + 1) ((n - t) / (36 - t))
termination_by n
decreasing_by
  have := threshold_bounds bias k
  have := Nat.div_le_self (n - threshold bias k) (36 - threshold bias k)
  omega

/-- Divides by 35 until the value is below 456, and counts the divisions. -/
def damp : Nat → Nat → Nat → Nat
  | 0, k, delta => 36 * k + 36 * delta / (delta + 38)
  | fuel + 1, k, delta =>
    if delta ≤ 455 then 36 * k + 36 * delta / (delta + 38) else damp fuel (k + 1) (delta / 35)

/-- The bias after a difference: small differences are likely to follow a small one. -/
def adapt (delta size : Nat) (first : Bool) : Nat :=
  let delta := if first then delta / 700 else delta / 2
  damp delta.log2 0 (delta + delta / size)

/-! ## Writing -/

structure State where
  delta : Nat
  bias : Nat
  written : Nat
  out : List Char

/-- Passes over the characters of a label for one code point: those below it count, and the point
itself is written. -/
def pass (point ascii : Nat) (s : State) (c : Char) : State :=
  if c.toNat < point then { s with delta := s.delta + 1 }
  else if c.toNat = point then
    { delta := 0
      bias := adapt s.delta (s.written + 1) (s.written == ascii)
      written := s.written + 1
      out := s.out ++ digitsOf s.bias 0 s.delta }
  else s

/-- Writes the code points of a label that are at least `from_`, in ascending order. -/
def writePoints (label : List Char) (ascii : Nat) : List Nat → Nat → State → List Char
  | [], _, s => s.out
  | point :: points, from_, s =>
    let s := { s with delta := s.delta + (point - from_) * (s.written + 1) }
    let s := label.foldl (pass point ascii) s
    writePoints label ascii points (point + 1) { s with delta := s.delta + 1 }

def encode (label : List Char) : List Char :=
  let plain := label.filter fun c => c.toNat < 128
  let points := ((label.map Char.toNat).filter (128 ≤ ·)).mergeSort.eraseDups
  let start : State := ⟨0, 72, plain.length, if plain = [] then [] else plain ++ ['-']⟩
  writePoints label plain.length points 128 start

/-! ## Reading -/

/-- Reads the digits of a difference, which is added to `n`, and gives the sum and what follows.
The weight of a digit and the sum have to stay below 2^32. -/
def readDigits (bias k weight n : Nat) : List Char → Option (Nat × List Char)
  | [] => none
  | c :: rest => do
    let d ← digitValue? c
    let t := threshold bias k
    let n := n + d * weight
    let weight := weight * (36 - t)
    if UInt32.size ≤ n then none
    else if d < t then some (n, rest)
    else if UInt32.size ≤ weight then none
    else readDigits bias (k + 1) weight n rest

/-- What has been read: the last code point, and the index behind it. -/
structure Reader where
  bias : Nat := 72
  point : Nat := 128
  index : Nat := 0
  plain : List Char

/-- Puts the code points of the differences where they belong. Every difference has a digit, so the
length of the code is fuel enough. -/
def readPoints : Nat → Reader → List Char → Option (List Char)
  | _, r, [] => some r.plain
  | 0, _, _ :: _ => none
  | fuel + 1, r, code => do
    let (n, rest) ← readDigits r.bias 0 1 r.index code
    let size := r.plain.length + 1
    let point := r.point + n / size
    let index := n % size
    if point < 0xD800 ∨ (0xDFFF < point ∧ point < 0x110000) then
      readPoints fuel
        { bias := adapt (n - r.index) size (r.index == 0)
          point := point
          index := index + 1
          plain := r.plain.insertIdx index (Char.ofNat point) } rest
    else none

/-- The label that a code stands for. The last hyphen ends its ASCII characters, if it has any. -/
def decode? (code : List Char) : Option (List Char) :=
  let differences := (code.reverse.takeWhile (· != '-')).reverse
  match code.reverse.dropWhile (· != '-') with
  | [] => readPoints code.length { plain := [] } code
  | ['-'] => none
  | _ :: plain => readPoints code.length { plain := plain.reverse } differences

end Inventory.Text.Punycode
