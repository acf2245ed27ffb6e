-- Processor architecture of a system, told from its maker, its model and the
-- description of its board.
import Inventory.Text.Blank
import Inventory.Text.Ascii

namespace Inventory

open Text

inductive Architecture
  | x86
  | arm
  | unknown
deriving DecidableEq, Repr

namespace Architecture

def all : List Architecture := [x86, arm, unknown]

def name : Architecture → String
  | x86 => "X86"
  | arm => "ARM"
  | unknown => "UNKNOWN"

def ofName? (s : String) : Option Architecture := all.find? (·.name = s)

instance : ToString Architecture := ⟨name⟩

theorem ofName?_name (a : Architecture) : ofName? a.name = some a := by cases a <;> decide

/-! ## Known systems -/

def crayX86Models : List String := ["ex235a", "ex420", "ex425", "ex255a", "ex4252"]

def crayArmModels : List String := ["ex254n"]

def crayX86Boards : List String := ["bardpeaknc", "cnc", "wnc", "parrypeaknc", "antero"]

def crayArmBoards : List String := ["blancapeaknc"]

def foxconnArmModels : List String := ["hpe cray supercomputing xd224"]

/-- Tells the architecture. The model wins over the description of the board. -/
def ofSystem (manufacturer model description : String) : Architecture :=
  let maker := lower (trim manufacturer)
  let model := lower (trim model)
  let board := lower (trim description)
  if maker = "cray" ∨ maker = "hpe" then
    if model ∈ crayX86Models then x86
    else if model ∈ crayArmModels then arm
    else if board ∈ crayX86Boards then x86
    else if board ∈ crayArmBoards then arm
    else unknown
  else if maker = "foxconn" ∧ model ∈ foxconnArmModels then arm
  else unknown

end Architecture

end Inventory
