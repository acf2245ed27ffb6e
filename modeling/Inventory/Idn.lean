-- Host names beyond ASCII, and the names in ASCII that stand for them.
import Inventory.Idn.Direction
import Inventory.Idn.Label

namespace Inventory.Idn

open Text

/-- The ASCII form of a name: its characters are mapped and composed, and each of its labels is
written as a code if it needs one. Some characters of ASCII may be forbidden in names, in whatever
way they are written. -/
def toAscii? (forbidden : Char → Bool) (name : List Char) : Option (List Char) := do
  let mapped ← mapped? name
  let labels ← ((composed mapped).splitOn '.').mapM plainLabel?
  if labels.any (·.any forbidden) then none
  else if labels.all labelFits && directionsFit labels then
    some (['.'].intercalate (labels.map asciiLabel))
  else none

end Inventory.Idn
