-- Leases on components, the keys that prove them, and what a lock service
-- answers to a request. `τ` is the type of wall clock readings: a lease only
-- carries the one it was given, and no rule looks at it.
import Inventory.Text.Quoted

namespace Inventory.Reservation

open Text

/-- A granted lock on one component. -/
structure Lease (τ : Type) where
  id : String
  key : String
  deputy : Option String
  expiration : τ
deriving DecidableEq

/-- What proves the ownership of a lock. -/
structure OwnerKey where
  id : String
  key : String
deriving DecidableEq, Repr

def Lease.ownerKey {τ : Type} (l : Lease τ) : OwnerKey := ⟨l.id, l.key⟩

/-- Why a service refuses one component. -/
structure Refusal where
  id : String
  reason : String
deriving DecidableEq, Repr

def Refusal.text (r : Refusal) : String := r.id ++ ": " ++ r.reason

/-- A rigid request is done for all its members or for none, a flexible one for those it can be
done for. -/
inductive Model
  | rigid
  | flexible
deriving DecidableEq, Repr

namespace Model

def all : List Model := [rigid, flexible]

def name : Model → String
  | rigid => "rigid"
  | flexible => "flexible"

def ofName? (s : String) : Option Model := all.find? (·.name = s)

theorem ofName?_name (m : Model) : ofName? m.name = some m := by cases m <;> decide

end Model

/-- The answer to a request for locks. -/
structure Grant (τ : Type) where
  granted : List (Lease τ) := []
  failed : List Refusal := []
deriving DecidableEq

/-- The answer to a request about held locks. -/
structure Outcome where
  succeeded : List String := []
  failed : List Refusal := []
deriving DecidableEq, Repr

/-! ## Errors -/

inductive Error
  | alreadyHeld (ids : List String)
  | alreadyReleased (ids : List String)
  | rejected (refusals : List Refusal)
  | service (text : String)
deriving DecidableEq, Repr

def Error.message : Error → String
  | .alreadyHeld ids => s!"Components already held by this client: {quoteList ids}"
  | .alreadyReleased ids => s!"Components not held by this client: {quoteList ids}"
  | .rejected refusals =>
    let reasons := ", ".intercalate (refusals.map Refusal.text)
    s!"Reservation refused for {refusals.length} component(s): {reasons}"
  | .service text => s!"Reservation service error: {text}"

end Inventory.Reservation
