-- The lock table: at most one lock for each id, with the key that owns it and
-- the instant it ends at. A lock is live before that instant and dead from it
-- on; dead locks stay in the table until the next request for new locks.
-- `create` and `renew` take it that every time can be reckoned; `createWithin`
-- and `renewWithin` do the same under clocks that end.
import Inventory.Keyed
import Inventory.Reservation.Service

namespace Inventory.Reservation

structure Lock where
  key : String
  deadline : Instant
deriving DecidableEq, Repr

/-- `issued` counts the leases granted so far, so that each gets keys of its own. -/
structure LockTable where
  locks : Keyed Lock
  issued : Nat

/-- What a table writes on the leases it grants: the keys of the `n`-th lease, and what the wall
clock reads at an instant. -/
structure Issuer (τ : Type) where
  key : String → Nat → String
  deputy : String → Nat → String
  expiration : Instant → τ

/-- Writes the reading of one instant on all leases. -/
def Issuer.readingAt {τ : Type} (issuer : Issuer τ) (ending : Instant) : Issuer τ :=
  { issuer with expiration := fun _ => issuer.expiration ending }

namespace LockTable

def empty : LockTable := ⟨Keyed.empty, 0⟩

/-! ## Live locks -/

def Live (now : Instant) (lock : Lock) : Bool := now < lock.deadline

/-- The lock that is live for an id. -/
def live? (t : LockTable) (now : Instant) (id : String) : Option Lock :=
  (t.locks.get? id).filter (Live now)

def isLocked (t : LockTable) (now : Instant) (id : String) : Bool := (t.live? now id).isSome

/-- Takes the lock of an id away, and says whether there was one. -/
def revoke (t : LockTable) (id : String) : Bool × LockTable :=
  (t.locks.contains id, { t with locks := t.locks.erase id })

/-! ## New locks -/

/-- Drops the dead locks. -/
def purge (t : LockTable) (now : Instant) : LockTable :=
  { t with locks := t.locks.filter (Live now) }

/-- Grants a lock to each id that has none, one after the other. -/
def grantAll {τ : Type} (issuer : Issuer τ) (deadline : Instant) :
    List String → LockTable → List (Lease τ) × LockTable
  | [], t => ([], t)
  | id :: rest, t =>
    if t.locks.contains id then grantAll issuer deadline rest t
    else
      let n := t.issued + 1
      let lease : Lease τ :=
        ⟨id, issuer.key id n, some (issuer.deputy id n), issuer.expiration deadline⟩
      let granted :=
        grantAll issuer deadline rest ⟨t.locks.insert id ⟨lease.key, deadline⟩, n⟩
      (lease :: granted.1, granted.2)

/-- The ids of a request that are locked already, each as often as it is asked for. -/
def taken (t : LockTable) (ids : List String) : List Refusal :=
  (ids.filter t.locks.contains).map fun id => ⟨id, "Component is locked"⟩

def create {τ : Type} (issuer : Issuer τ) (now : Instant) (r : CreateRequest) (t : LockTable) :
    Grant τ × LockTable :=
  let t := t.purge now
  let failed := t.taken r.ids
  if r.model = .rigid ∧ failed ≠ [] then (⟨[], failed⟩, t)
  else
    let granted := grantAll issuer (now + r.duration) r.ids t
    (⟨granted.1, failed⟩, granted.2)

/-! ## Held locks -/

/-- Why a key does not own a live lock, if it does not. -/
def refusal? (t : LockTable) (now : Instant) (k : OwnerKey) : Option Refusal :=
  match t.locks.get? k.id with
  | none => some ⟨k.id, "Reservation not found"⟩
  | some lock =>
    if !Live now lock then some ⟨k.id, "Reservation expired"⟩
    else if lock.key ≠ k.key then some ⟨k.id, "Reservation key mismatch"⟩
    else none

/-- Does something to the lock of every key that owns a live one when its turn comes, and lists
the ids it was done for. -/
def applyKeys (f : OwnerKey → LockTable → LockTable) (now : Instant) :
    List OwnerKey → LockTable → List String × LockTable
  | [], t => ([], t)
  | k :: rest, t =>
    match t.refusal? now k with
    | some _ => applyKeys f now rest t
    | none =>
      let done := applyKeys f now rest (f k t)
      (k.id :: done.1, done.2)

/-- Treats the keys of a request: refusals are settled before anything is done. -/
def treat (f : OwnerKey → LockTable → LockTable) (now : Instant) (model : Model)
    (keys : List OwnerKey) (t : LockTable) : Outcome × LockTable :=
  let failed := keys.filterMap (t.refusal? now)
  if model = .rigid ∧ failed ≠ [] then (⟨[], failed⟩, t)
  else
    let done := applyKeys f now keys t
    (⟨done.1, failed⟩, done.2)

/-- Lets the lock of a key end at a new instant. -/
def setDeadline (deadline : Instant) (k : OwnerKey) (t : LockTable) : LockTable :=
  { t with locks := t.locks.insert k.id ⟨k.key, deadline⟩ }

def remove (k : OwnerKey) (t : LockTable) : LockTable := { t with locks := t.locks.erase k.id }

def renew (now : Instant) (r : RenewRequest) (t : LockTable) : Outcome × LockTable :=
  treat (setDeadline (now + r.duration)) now r.model r.keys t

def release (now : Instant) (r : ReleaseRequest) (t : LockTable) : Outcome × LockTable :=
  treat remove now r.model r.keys t

/-! ## Clocks that end

A request that needs a time beyond the end of a clock is not answered. It fails before it has
changed any lock, so others can go on from the table. -/

/-- Reckons the expiration of the leases unless the request is refused as a whole, and a deadline
only for an id that is granted. -/
def createWithin {τ : Type} (h : Horizon) (issuer : Issuer τ) (now : Instant) (r : CreateRequest)
    (t : LockTable) : Except Overflow (Grant τ) × LockTable :=
  let t := t.purge now
  let failed := t.taken r.ids
  if r.model = .rigid ∧ failed ≠ [] then (.ok ⟨[], failed⟩, t)
  else if ¬ h.Reads now r.duration then (.error .reading, t)
  else
    let issuer := issuer.readingAt (h.ending now r.duration)
    let granted := grantAll issuer (now + r.duration) r.ids t
    if granted.1.isEmpty ∨ h.Reaches now r.duration then (.ok ⟨granted.1, failed⟩, granted.2)
    else (.error .deadline, t)

/-- Reckons a deadline only for a key whose turn comes. -/
def renewWithin (h : Horizon) (now : Instant) (r : RenewRequest) (t : LockTable) :
    Except Overflow Outcome × LockTable :=
  let renewed := t.renew now r
  if renewed.1.succeeded.isEmpty ∨ h.Reaches now r.duration then (.ok renewed.1, renewed.2)
  else (.error .deadline, t)

/-! ## The service -/

/-- The table as a service, at one instant. -/
def service {τ : Type} (issuer : Issuer τ) (now : Instant) : Service LockTable τ where
  create r t := (t.create issuer now r).map .ok id
  renew r t := (t.renew now r).map .ok id
  release r t := (t.release now r).map .ok id

end LockTable

end Inventory.Reservation
