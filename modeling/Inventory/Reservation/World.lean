-- Many clients at one gate, under one clock. The clock only moves when it is
-- told to, and on its way it stops at every tick. At a tick a client renews
-- the leases that are due; while such a renewal waits at the gate its client
-- does not tick.
import Inventory.Reservation.Client
import Inventory.Reservation.Gate

namespace Inventory.Reservation

/-- A client with its renewal task: the instant of its next tick, and the keys of the renewal that
waits at the gate. -/
structure Runner (τ : Type) where
  name : String
  client : Client τ
  nextTick : Instant
  waiting : Option (List OwnerKey) := none

structure World (τ : Type) where
  issuer : Issuer τ
  now : Instant
  gate : Gate τ
  runners : List (Runner τ)

/-- A tick that comes no later than this after its instant does not move the ticks after it. -/
def tickTolerance : Duration := milliseconds 5

namespace Runner

variable {τ : Type}

/-- When the tick after this one is: an interval after the instant this one was meant for, or, if
it comes late, an interval from now. -/
def followingTick (r : Runner τ) (now : Instant) : Instant :=
  (if r.nextTick + tickTolerance < now then now else r.nextTick) + r.client.config.renewInterval

/-- The gate answers the renewal that was sent. -/
def finishRenewal (issuer : Issuer τ) (now : Instant) (sent : List OwnerKey) (r : Runner τ)
    (g : Gate τ) : Runner τ × Gate τ :=
  let (answer, g) := g.answerRenew now (r.client.renewal sent)
  let expiration := issuer.expiration (now + r.client.config.leaseDuration)
  ({ r with client := r.client.settleRenewal now expiration sent answer, waiting := none }, g)

/-- Sends the keys that are due, if any. -/
def renewDue (issuer : Issuer τ) (now : Instant) (r : Runner τ) (g : Gate τ) :
    Runner τ × Gate τ :=
  let sent := r.client.due now
  if sent.isEmpty then (r, g)
  else
    let g := g.log (.renew now (r.client.renewal sent))
    if g.faults.holdRenewals then ({ r with waiting := some sent }, g)
    else r.finishRenewal issuer now sent g

/-- One tick. -/
def tick (issuer : Issuer τ) (now : Instant) (r : Runner τ) (g : Gate τ) : Runner τ × Gate τ :=
  renewDue issuer now { r with nextTick := r.followingTick now } g

/-- The runner ticks at this instant or before it. -/
def ticksBy (target : Instant) (r : Runner τ) : Bool :=
  r.waiting.isNone && r.nextTick ≤ target

end Runner

namespace World

variable {τ : Type}

def new (issuer : Issuer τ) : World τ := ⟨issuer, 0, { table := LockTable.empty }, []⟩

/-! ## The clock -/

/-- Puts a runner in the place of the one with its name. -/
def putRunner (w : World τ) (r : Runner τ) : World τ :=
  { w with runners := w.runners.map fun old => if old.name = r.name then r else old }

/-- The runner that ticks first, up to an instant; of two, the one that was created first. -/
def firstTicking? (w : World τ) (target : Instant) : Option (Runner τ) :=
  (w.runners.filter (Runner.ticksBy target)).foldl
    (fun best r => match best with
      | none => some r
      | some b => if r.nextTick < b.nextTick then some r else some b)
    none

/-- Lets a runner tick, at its instant or now if that has passed. -/
def tick (w : World τ) (r : Runner τ) : World τ :=
  let now := max w.now r.nextTick
  let (r, gate) := r.tick w.issuer now w.gate
  putRunner { w with now, gate } r

/-- Runs the ticks up to an instant, as many as the fuel allows. -/
def runTicks (target : Instant) : Nat → World τ → World τ
  | 0, w => w
  | fuel + 1, w =>
    match w.firstTicking? target with
    | none => w
    | some r => runTicks target fuel (w.tick r)

/-- No more ticks than this come up to an instant: a runner's ticks are an interval apart. -/
def tickBound (w : World τ) (target : Instant) : Nat :=
  w.runners.foldr (fun r n => (target - r.nextTick) / r.client.config.renewInterval + 1 + n) 0

/-- Moves the clock to an instant that is not in the past, through every tick on the way. -/
def runTo (w : World τ) (target : Instant) : World τ :=
  let w := runTicks target (w.tickBound target) w
  { w with now := max w.now target }

def advance (w : World τ) (d : Duration) : World τ := w.runTo (w.now + d)

/-- Runs the ticks that are due now. -/
def settle (w : World τ) : World τ := w.runTo w.now

/-! ## The gate -/

/-- The gate answers the renewal of a runner, if one waits. -/
def letThrough (w : World τ) (r : Runner τ) : World τ :=
  match r.waiting with
  | none => w
  | some sent =>
    let (r, gate) := r.finishRenewal w.issuer w.now sent w.gate
    putRunner { w with gate } r

/-- Changes how the gate behaves. Renewals that no longer have to wait are answered. -/
def setFaults (w : World τ) (faults : Faults) : World τ :=
  let w := { w with gate := { w.gate with faults } }
  if faults.holdRenewals then w else (w.runners.foldl letThrough w).settle

/-- Lays out an answer for a later request. -/
def addScript (w : World τ) (f : Script τ → Script τ) : World τ :=
  { w with gate := { w.gate with script := f w.gate.script } }

/-- Does something to the table without the gate seeing it. -/
def onTable {α : Type} (w : World τ) (f : LockTable → α × LockTable) : α × World τ :=
  let (a, table) := f w.gate.table
  (a, { w with gate := { w.gate with table } })

/-! ## The clients -/

/-- A client ends; its leases are not released. Clients end between renewals: one that waits at the
gate is taken away with its client, where a renewal task that is told to stop would still see it
through. -/
def removeClient (w : World τ) (name : String) : World τ :=
  { w with runners := w.runners.filter (·.name ≠ name) }

/-- A client starts. Its first tick is at once. -/
def addClient (w : World τ) (name : String) (config : Config) : World τ :=
  let w := w.removeClient name
  let r : Runner τ := ⟨name, Client.new config, w.now, none⟩
  settle { w with runners := w.runners ++ [r] }

/-- A client does something at the gate, at this instant. -/
def onClient {α : Type} (w : World τ) (r : Runner τ)
    (f : Service (Gate τ) τ → Instant → Client τ → Gate τ → α × Client τ × Gate τ) :
    α × World τ :=
  let (a, client, gate) := f (Gate.service w.issuer w.now) w.now r.client w.gate
  (a, putRunner { w with gate } { r with client })

end World

end Inventory.Reservation
