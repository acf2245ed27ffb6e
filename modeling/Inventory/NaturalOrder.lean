-- Natural order of resource names. A name is cut into runs, the longest
-- stretches of digits only or of no digits. Two runs of digits compare by
-- value, any other two as texts, and equal runs leave it to the plain texts.

namespace Inventory.NaturalOrder

/-- Cuts a text into its runs. -/
def runs : List Char → List (List Char)
  | [] => []
  | c :: cs =>
    match runs cs with
    | (d :: run) :: rest =>
      if c.isDigit = d.isDigit then (c :: d :: run) :: rest else [c] :: (d :: run) :: rest
    | rest => [c] :: rest

def isDigitRun (run : List Char) : Bool := run.head?.any Char.isDigit

/-- Orders texts by code point; a proper beginning comes first. -/
def compareChars : List Char → List Char → Ordering
  | [], [] => .eq
  | [], _ :: _ => .lt
  | _ :: _, [] => .gt
  | a :: as, b :: bs => (compare a.toNat b.toNat).then (compareChars as bs)

/-- Orders runs of digits by value: without leading zeros the longer run is the larger, and runs
of one length compare as texts. -/
def compareValues (a b : List Char) : Ordering :=
  let a := a.dropWhile (· == '0')
  let b := b.dropWhile (· == '0')
  (compare a.length b.length).then (compareChars a b)

def compareRun (a b : List Char) : Ordering :=
  if isDigitRun a && isDigitRun b then compareValues a b else compareChars a b

/-- The first run that differs decides; a list of runs that ends first comes first. -/
def compareRuns : List (List Char) → List (List Char) → Ordering
  | [], [] => .eq
  | [], _ :: _ => .lt
  | _ :: _, [] => .gt
  | a :: as, b :: bs => (compareRun a b).then (compareRuns as bs)

/-- Compares two names run by run, and as plain texts if all runs are equal. -/
def compareNames (a b : String) : Ordering :=
  (compareRuns (runs a.toList) (runs b.toList)).then (compareChars a.toList b.toList)

/-- Sorts names in natural order. -/
def sortNames (names : List String) : List String :=
  names.mergeSort fun a b => compareNames a b != .gt

end Inventory.NaturalOrder

namespace Inventory

/-- The name of a discovered resource. Names are ordered naturally. -/
structure ResourceId where
  text : String
deriving DecidableEq, Repr

namespace ResourceId

instance : Ord ResourceId where
  compare a b := NaturalOrder.compareNames a.text b.text

def sort (ids : List ResourceId) : List ResourceId :=
  ids.mergeSort fun a b => compare a b != .gt

end ResourceId

end Inventory
