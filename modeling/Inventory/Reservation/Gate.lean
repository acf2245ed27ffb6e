-- A lock table behind a gate. Clients send their requests to the gate, which
-- writes each of them down and may then be out of order, give an answer that
-- was laid out for it, or let the request through to the table. No clock ends
-- here: the times that are asked for are taken to be within their reach.
import Inventory.Reservation.LockTable

namespace Inventory.Reservation

/-- A request that reached the gate, with its instant. -/
inductive Call
  | create (at_ : Instant) (request : CreateRequest)
  | renew (at_ : Instant) (request : RenewRequest)
  | release (at_ : Instant) (request : ReleaseRequest)
deriving DecidableEq, Repr

/-- How the gate behaves. -/
structure Faults where
  createDown : Bool := false
  renewDown : Bool := false
  releaseDown : Bool := false
  /-- Rigid requests for locks are passed on as flexible ones. -/
  ignoreRigid : Bool := false
  /-- Renewals wait at the gate. -/
  holdRenewals : Bool := false
deriving DecidableEq, Repr

/-- Answers laid out for later requests; each is given once, in order, and the table does not see
the request. -/
structure Script (τ : Type) where
  create : List (Except Error (Grant τ)) := []
  renew : List (Except Error Outcome) := []
  release : List (Except Error Outcome) := []

structure Gate (τ : Type) where
  table : LockTable
  faults : Faults := {}
  script : Script τ := {}
  calls : List Call := []

namespace Gate

variable {τ : Type}

def down : Error := .service "connection refused"

def log (g : Gate τ) (call : Call) : Gate τ := { g with calls := g.calls ++ [call] }

def answerCreate (issuer : Issuer τ) (now : Instant) (r : CreateRequest) (g : Gate τ) :
    Except Error (Grant τ) × Gate τ :=
  match g.script.create with
  | answer :: rest => (answer, { g with script := { g.script with create := rest } })
  | [] =>
    if g.faults.createDown then (.error down, g)
    else
      let r := if g.faults.ignoreRigid then { r with model := .flexible } else r
      let (grant, table) := g.table.create issuer now r
      (.ok grant, { g with table })

/-- Answers a renewal that is let through. -/
def answerRenew (now : Instant) (r : RenewRequest) (g : Gate τ) : Except Error Outcome × Gate τ :=
  match g.script.renew with
  | answer :: rest => (answer, { g with script := { g.script with renew := rest } })
  | [] =>
    if g.faults.renewDown then (.error down, g)
    else
      let (outcome, table) := g.table.renew now r
      (.ok outcome, { g with table })

def answerRelease (now : Instant) (r : ReleaseRequest) (g : Gate τ) :
    Except Error Outcome × Gate τ :=
  match g.script.release with
  | answer :: rest => (answer, { g with script := { g.script with release := rest } })
  | [] =>
    if g.faults.releaseDown then (.error down, g)
    else
      let (outcome, table) := g.table.release now r
      (.ok outcome, { g with table })

/-- The gate as a service, at one instant. Renewals sent through it do not wait. -/
def service (issuer : Issuer τ) (now : Instant) : Service (Gate τ) τ where
  create r g := answerCreate issuer now r (g.log (.create now r))
  renew r g := answerRenew now r (g.log (.renew now r))
  release r g := answerRelease now r (g.log (.release now r))

end Gate

end Inventory.Reservation
