-- Kinds of components. The letters of a location name, read in order, are its
-- shape, and each of sixteen shapes belongs to one kind.

namespace Inventory

/-- What stands at a location. -/
inductive Kind
  | cabinet
  | cabinetBMC
  | cabinetPDUController
  | cabinetPDU
  | cabinetPDUOutlet
  | chassis
  | chassisBMC
  | computeModule
  | nodeBMC
  | node
  | memory
  | processor
  | nodeEnclosure
  | routerModule
  | routerBMC
  | hsnBoard
deriving DecidableEq, Repr

namespace Kind

def all : List Kind :=
  [cabinet, cabinetBMC, cabinetPDUController, cabinetPDU, cabinetPDUOutlet, chassis, chassisBMC,
    computeModule, nodeBMC, node, memory, processor, nodeEnclosure, routerModule, routerBMC,
    hsnBoard]

/-- The letters of the segments that lead to a component of this kind. -/
def shape : Kind → List Char
  | cabinet => ['x']
  | cabinetBMC => ['x', 'b']
  | cabinetPDUController => ['x', 'm']
  | cabinetPDU => ['x', 'm', 'p']
  | cabinetPDUOutlet => ['x', 'm', 'p', 'j']
  | chassis => ['x', 'c']
  | chassisBMC => ['x', 'c', 'b']
  | computeModule => ['x', 'c', 's']
  | nodeBMC => ['x', 'c', 's', 'b']
  | node => ['x', 'c', 's', 'b', 'n']
  | memory => ['x', 'c', 's', 'b', 'n', 'd']
  | processor => ['x', 'c', 's', 'b', 'n', 'p']
  | nodeEnclosure => ['x', 'c', 's', 'e']
  | routerModule => ['x', 'c', 'r']
  | routerBMC => ['x', 'c', 'r', 'b']
  | hsnBoard => ['x', 'c', 'r', 'e']

def ofShape? (letters : List Char) : Option Kind := all.find? (·.shape = letters)

def name : Kind → String
  | cabinet => "Cabinet"
  | cabinetBMC => "CabinetBMC"
  | cabinetPDUController => "CabinetPDUController"
  | cabinetPDU => "CabinetPDU"
  | cabinetPDUOutlet => "CabinetPDUOutlet"
  | chassis => "Chassis"
  | chassisBMC => "ChassisBMC"
  | computeModule => "ComputeModule"
  | nodeBMC => "NodeBMC"
  | node => "Node"
  | memory => "Memory"
  | processor => "Processor"
  | nodeEnclosure => "NodeEnclosure"
  | routerModule => "RouterModule"
  | routerBMC => "RouterBMC"
  | hsnBoard => "HSNBoard"

def ofName? (s : String) : Option Kind := all.find? (·.name = s)

instance : ToString Kind := ⟨name⟩

/-- Controllers answer management requests for the components around them. -/
def isController : Kind → Bool
  | cabinetBMC | cabinetPDUController | chassisBMC | nodeBMC | routerBMC => true
  | _ => false

theorem ofShape?_shape (k : Kind) : ofShape? k.shape = some k := by cases k <;> decide

theorem ofName?_name (k : Kind) : ofName? k.name = some k := by cases k <;> decide

end Kind

end Inventory
