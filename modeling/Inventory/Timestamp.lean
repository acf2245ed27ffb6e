-- Points in time as leases state them: date and time of day in UTC. The
-- reader is generous about blanks, signs and leading zeros, and takes any
-- offset below a day; the written form is one.
import Inventory.Text.Blank
import Inventory.Text.Number

namespace Inventory

open Text

/-- A date and a time of day in UTC. Second 60 is a leap second. -/
structure Timestamp where
  year : Int
  month : Nat
  day : Nat
  hour : Nat
  minute : Nat
  second : Nat
  nano : Nat
deriving DecidableEq, Repr

namespace Timestamp

/-! ## Calendar -/

def isLeap (year : Int) : Bool :=
  year % 4 == 0 && (year % 100 != 0 || year % 400 == 0)

def daysIn (year : Int) (month : Nat) : Nat :=
  if month = 2 then (if isLeap year then 29 else 28)
  else if month ∈ [4, 6, 9, 11] then 30
  else 31

def minYear : Int := -262143

def maxYear : Int := 262142

/-- The date exists, its year is in range and the time of day is one. -/
def isValid (t : Timestamp) : Bool :=
  minYear ≤ t.year && t.year ≤ maxYear && 1 ≤ t.month && t.month ≤ 12
    && 1 ≤ t.day && t.day ≤ daysIn t.year t.month
    && t.hour < 24 && t.minute < 60 && t.second ≤ 60 && t.nano < 1000000000

def previousDay (t : Timestamp) : Timestamp :=
  if 1 < t.day then { t with day := t.day - 1 }
  else if 1 < t.month then { t with month := t.month - 1, day := daysIn t.year (t.month - 1) }
  else { t with year := t.year - 1, month := 12, day := 31 }

def nextDay (t : Timestamp) : Timestamp :=
  if t.day < daysIn t.year t.month then { t with day := t.day + 1 }
  else if t.month < 12 then { t with month := t.month + 1, day := 1 }
  else { t with year := t.year + 1, month := 1, day := 1 }

/-- The UTC time of a local time that is `offset` minutes ahead of UTC, less than a day. -/
def toUtc (t : Timestamp) (offset : Int) : Timestamp :=
  let minutes : Int := t.hour * 60 + t.minute - offset
  let dated :=
    if minutes < 0 then t.previousDay else if 1440 ≤ minutes then t.nextDay else t
  let minutes := (minutes % 1440).toNat
  { dated with hour := minutes / 60, minute := minutes % 60 }

/-! ## Reading -/

def skipBlanks (cs : List Char) : List Char := cs.dropWhile isBlank

/-- Reads digits, one at least and at most `width` if a width is given. -/
def digits? (width : Option Nat) (cs : List Char) : Option (List Char × List Char) :=
  let digits := ((width.elim cs fun w => cs.take w)).takeWhile Char.isDigit
  if digits = [] then none else some (digits, cs.drop digits.length)

/-- Reads a number of at most two digits after blanks. -/
def number? (cs : List Char) : Option (Nat × List Char) :=
  (digits? (some 2) (skipBlanks cs)).map fun p => (decimalValue p.1, p.2)

/-- Reads a year after blanks: four digits at most, or any number of them after a sign. -/
def year? (cs : List Char) : Option (Int × List Char) :=
  match skipBlanks cs with
  | '-' :: rest => (digits? none rest).map fun p => (-(decimalValue p.1 : Int), p.2)
  | '+' :: rest => (digits? none rest).map fun p => ((decimalValue p.1 : Int), p.2)
  | rest => (digits? (some 4) rest).map fun p => ((decimalValue p.1 : Int), p.2)

/-- Reads a mark after blanks. -/
def mark? (mark : Char) (cs : List Char) : Option (List Char) :=
  match skipBlanks cs with
  | c :: rest => if c = mark then some rest else none
  | [] => none

/-- Reads a fraction of a second in nanoseconds, if there is one. Digits after the ninth are left
out. -/
def fraction? : List Char → Option (Nat × List Char)
  | '.' :: cs => do
    let (digits, rest) ← digits? (some 9) cs
    let nano := decimalValue (digits ++ List.replicate (9 - digits.length) '0')
    return (nano, rest.dropWhile Char.isDigit)
  | cs => some (0, cs)

/-- The hours and minutes of an offset, with colons and blanks between them. -/
def offsetMinutes? : List Char → Option (Int × List Char)
  | h₁ :: h₂ :: cs =>
    match cs.dropWhile fun c => c = ':' || isBlank c with
    | m₁ :: m₂ :: rest =>
      let minutes := decimalValue [m₁, m₂]
      if [h₁, h₂, m₁, m₂].all Char.isDigit && minutes < 60 then
        some (decimalValue [h₁, h₂] * 60 + minutes, rest)
      else none
    | _ => none
  | _ => none

/-- Reads an offset from UTC in minutes. -/
def offset? : List Char → Option (Int × List Char)
  | 'Z' :: rest | 'z' :: rest => some (0, rest)
  | '+' :: rest => offsetMinutes? rest
  | '-' :: rest | '\u2212' :: rest => (offsetMinutes? rest).map fun p => (-p.1, p.2)
  | u :: t :: c :: rest =>
    if [u.toUpper, t.toUpper, c.toUpper] = ['U', 'T', 'C'] then some (0, rest) else none
  | _ => none

/-- Reads a date, a `T` or a blank, a time of day and an offset. -/
def ofChars? (cs : List Char) : Option Timestamp := do
  let (year, cs) ← year? cs
  let (month, cs) ← number? (← mark? '-' cs)
  let (day, cs) ← number? (← mark? '-' cs)
  let cs ← match cs with
    | 'T' :: rest | 't' :: rest | ' ' :: rest => some rest
    | _ => none
  let (hour, cs) ← number? cs
  let (minute, cs) ← number? (← mark? ':' cs)
  let (second, cs) ← number? (← mark? ':' cs)
  let (nano, cs) ← fraction? cs
  let (offset, cs) ← offset? (skipBlanks cs)
  let written : Timestamp := ⟨year, month, day, hour, minute, second, nano⟩
  let utc := written.toUtc offset
  if (skipBlanks cs).isEmpty && offset.natAbs < 1440 && written.isValid && utc.isValid then
    some utc
  else none

def parse? (text : String) : Option Timestamp := ofChars? text.toList

/-! ## Writing -/

/-- A number in decimal, filled up with zeros to a width. -/
def padded (width n : Nat) : List Char :=
  let digits := decimal n
  List.replicate (width - digits.length) '0' ++ digits

/-- A year of more than four digits, or before year 0, has a sign. -/
def yearChars (year : Int) : List Char :=
  if 0 ≤ year ∧ year ≤ 9999 then padded 4 year.toNat
  else (if year < 0 then '-' else '+') :: padded 4 year.natAbs

/-- As many of nine digits as are needed, three at a time. -/
def fractionChars (nano : Nat) : List Char :=
  if nano = 0 then []
  else if nano % 1000000 = 0 then '.' :: padded 3 (nano / 1000000)
  else if nano % 1000 = 0 then '.' :: padded 6 (nano / 1000)
  else '.' :: padded 9 nano

def toChars (t : Timestamp) : List Char :=
  yearChars t.year ++ '-' :: padded 2 t.month ++ '-' :: padded 2 t.day
    ++ 'T' :: padded 2 t.hour ++ ':' :: padded 2 t.minute ++ ':' :: padded 2 t.second
    ++ fractionChars t.nano ++ ['Z']

def text (t : Timestamp) : String := String.ofList t.toChars

instance : ToString Timestamp := ⟨text⟩

end Timestamp

end Inventory
