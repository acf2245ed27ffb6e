-- Tables of code points as texts. A table is a run of words between spaces and
-- line ends; `C0` is one code point, and `C0-D6` all from the first to the
-- last.
import Inventory.Text.Blank
import Inventory.Text.Delimited
import Inventory.Text.Number

namespace Inventory.Text

/-- The words of a table. -/
def tableWords (table : String) : List (List Char) :=
  ((table.toList.map fun c => if c = '\n' then ' ' else c).splitOn ' ').filter (· ≠ [])

/-- The first and the last code point of a word. -/
def codeRange (word : List Char) : Nat × Nat :=
  match cutFirst? '-' word with
  | some (first, last) => (hexValue first, hexValue last)
  | none => (hexValue word, hexValue word)

/-- The closed ranges of a table. -/
def codeRanges (table : String) : List (Nat × Nat) := (tableWords table).map codeRange

end Inventory.Text
