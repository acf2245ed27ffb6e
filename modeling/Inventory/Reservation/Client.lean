-- The client of a lock service: the leases it holds, each with the instant
-- that the client counts on it until. Every operation looks at the leases,
-- asks the service at most once, and settles the answer; settling is a
-- function of its own, since the answer may come late.
import Inventory.Keyed
import Inventory.Reservation.Config
import Inventory.Reservation.Service

namespace Inventory.Reservation

/-- A lease and the instant from which on the client no longer counts on it. -/
structure Holding (τ : Type) where
  lease : Lease τ
  deadline : Instant
deriving DecidableEq

structure Client (τ : Type) where
  config : Config
  holdings : Keyed (Holding τ)

/-- Which of some components a client holds. -/
structure CheckResult (τ : Type) where
  held : List (Lease τ)
  missing : List String
deriving DecidableEq

namespace Client

variable {σ τ : Type}

def new (config : Config) : Client τ := ⟨config, Keyed.empty⟩

/-! ## Held leases -/

def Current (now : Instant) (h : Holding τ) : Bool := now < h.deadline

/-- The lease that the client counts on for an id. -/
def current? (c : Client τ) (now : Instant) (id : String) : Option (Lease τ) :=
  ((c.holdings.get? id).filter (Current now)).map Holding.lease

def holds (c : Client τ) (now : Instant) (id : String) : Bool := (c.current? now id).isSome

/-- The client holds every one of the ids. -/
def check (c : Client τ) (now : Instant) (ids : List String) : Bool := ids.all (c.holds now)

/-- Splits ids into held leases and ids that are not held. -/
def flexCheck (c : Client τ) (now : Instant) (ids : List String) : CheckResult τ :=
  ⟨ids.filterMap (c.current? now), ids.filter fun id => !c.holds now id⟩

/-- The key of every lease that the client counts on. -/
def status (c : Client τ) (now : Instant) : List (String × String) :=
  (c.holdings.filter (Current now)).entries.map fun e => (e.1, e.2.lease.key)

/-- Takes leases in; all of them are counted on for one lease duration from now. -/
def record (c : Client τ) (now : Instant) (leases : List (Lease τ)) : Client τ :=
  { c with
    holdings := leases.foldl
      (fun m l => m.insert l.id ⟨l, now + c.config.leaseDuration⟩) c.holdings }

def forget (c : Client τ) (ids : List String) : Client τ :=
  { c with holdings := c.holdings.eraseAll ids }

/-! ## Acquiring -/

/-- What a rigid answer means: all is granted, or the request is refused and what was granted all
the same has to be given back. -/
def settleAcquire (c : Client τ) (now : Instant) (answer : Grant τ) :
    Except Error (List (Lease τ)) × Client τ × Option ReleaseRequest :=
  if answer.failed = [] then (.ok answer.granted, c.record now answer.granted, none)
  else
    (.error (.rejected answer.failed), c,
      if answer.granted.isEmpty then none
      else some ⟨answer.granted.map Lease.ownerKey, .flexible⟩)

/-- Reserves every id or none. A refusal to take leases back is not reported. -/
def acquire (service : Service σ τ) (now : Instant) (ids : List String) (c : Client τ) (s : σ) :
    Except Error (List (Lease τ)) × Client τ × σ :=
  let held := ids.filter (c.holds now)
  if held ≠ [] then (.error (.alreadyHeld held), c, s)
  else
    match service.create ⟨ids, .rigid, c.config.leaseDuration⟩ s with
    | (.error e, s) => (.error e, c, s)
    | (.ok answer, s) =>
      match c.settleAcquire now answer with
      | (result, c, none) => (result, c, s)
      | (result, c, some back) => (result, c, (service.release back s).2)

def heldRefusal (id : String) : Refusal := ⟨id, "Already held by this client"⟩

/-- Reserves what can be reserved. Ids held already are refused and left as they are. -/
def flexAcquire (service : Service σ τ) (now : Instant) (ids : List String) (c : Client τ)
    (s : σ) : Except Error (Grant τ) × Client τ × σ :=
  let held := ids.filter (c.holds now)
  let wanted := ids.filter (· ∉ held)
  let (answer, s) : Except Error (Grant τ) × σ :=
    if wanted = [] then (.ok {}, s)
    else service.create ⟨wanted, .flexible, c.config.leaseDuration⟩ s
  match answer with
  | .error e => (.error e, c, s)
  | .ok grant =>
    (.ok ⟨grant.granted, grant.failed ++ held.map heldRefusal⟩, c.record now grant.granted, s)

/-! ## Releasing -/

/-- Releases every id, or none if one is not held. Once the service has answered the client
forgets the ids, whatever the answer is. -/
def release (service : Service σ τ) (now : Instant) (ids : List String) (c : Client τ) (s : σ) :
    Except Error Unit × Client τ × σ :=
  let found := c.flexCheck now ids
  if found.missing ≠ [] then (.error (.alreadyReleased found.missing), c, s)
  else
    match service.release ⟨found.held.map Lease.ownerKey, .rigid⟩ s with
    | (.error e, s) => (.error e, c, s)
    | (.ok answer, s) =>
      (if answer.failed = [] then .ok () else .error (.rejected answer.failed), c.forget ids, s)

def missingRefusal (id : String) : Refusal := ⟨id, "Not held by this client"⟩

/-- Releases those of the ids that are held. -/
def flexRelease (service : Service σ τ) (now : Instant) (ids : List String) (c : Client τ)
    (s : σ) : Except Error Outcome × Client τ × σ :=
  let found := c.flexCheck now ids
  let missing := found.missing.map missingRefusal
  if found.held.isEmpty then (.ok ⟨[], missing⟩, c, s)
  else
    match service.release ⟨found.held.map Lease.ownerKey, .flexible⟩ s with
    | (.error e, s) => (.error e, c, s)
    | (.ok answer, s) =>
      (.ok ⟨answer.succeeded, answer.failed ++ missing⟩, c.forget (found.held.map Lease.id), s)

/-! ## Leases from elsewhere -/

/-- Takes over leases that somebody else acquired, as far as the service still knows their keys. -/
def reacquire (service : Service σ τ) (now : Instant) (leases : List (Lease τ)) (model : Model)
    (c : Client τ) (s : σ) : Except Error Outcome × Client τ × σ :=
  match service.renew ⟨leases.map Lease.ownerKey, model, c.config.leaseDuration⟩ s with
  | (.error e, s) => (.error e, c, s)
  | (.ok answer, s) =>
    (.ok answer, c.record now (leases.filter (·.id ∈ answer.succeeded)), s)

/-! ## Renewal -/

/-- The keys of all leases that end within the margin. -/
def due (c : Client τ) (now : Instant) : List OwnerKey :=
  (c.holdings.values.filter fun h => h.deadline - now ≤ c.config.renewMargin).map
    (·.lease.ownerKey)

/-- The request that a renewal of these keys sends. -/
def renewal (c : Client τ) (keys : List OwnerKey) : RenewRequest :=
  ⟨keys, .flexible, c.config.leaseDuration⟩

/-- The key that was sent for an id. -/
def sentKey? (sent : List OwnerKey) (id : String) : Option String :=
  (sent.find? (·.id = id)).map OwnerKey.key

/-- The id is held under the key that was sent for it. -/
def isSent (sent : List OwnerKey) (m : Keyed (Holding τ)) (id : String) : Bool :=
  match m.get? id with
  | some h => sentKey? sent id == some h.lease.key
  | none => false

/-- A lease that was renewed is counted on until the new deadline. -/
def extend (sent : List OwnerKey) (deadline : Instant) (expiration : τ) (m : Keyed (Holding τ))
    (id : String) : Keyed (Holding τ) :=
  match m.get? id with
  | some h =>
    if sentKey? sent id == some h.lease.key then
      m.insert id ⟨{ h.lease with expiration }, deadline⟩
    else m
  | none => m

/-- A lease that was refused is lost. -/
def lose (sent : List OwnerKey) (m : Keyed (Holding τ)) (id : String) : Keyed (Holding τ) :=
  if isSent sent m id then m.erase id else m

/-- Settles the answer to a renewal of the keys `sent`. A lease whose key is not the one that was
sent is left alone. After an error only the leases that have ended are dropped. -/
def settleRenewal (c : Client τ) (now : Instant) (expiration : τ) (sent : List OwnerKey)
    (answer : Except Error Outcome) : Client τ :=
  match answer with
  | .error _ => { c with holdings := c.holdings.filter (Current now) }
  | .ok outcome =>
    let deadline := now + c.config.leaseDuration
    let extended := outcome.succeeded.foldl (extend sent deadline expiration) c.holdings
    { c with holdings := (outcome.failed.map Refusal.id).foldl (lose sent) extended }

end Client

end Inventory.Reservation
