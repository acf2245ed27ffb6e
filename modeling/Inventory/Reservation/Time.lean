-- Time as the reservations see it: instants of one clock that never runs
-- backwards, and durations between them, both counted in nanoseconds. Clocks
-- do not go on for ever: an instant beyond the last one overflows.

namespace Inventory.Reservation

abbrev Instant := Nat

abbrev Duration := Nat

def milliseconds (n : Nat) : Duration := n * 1000000

def seconds (n : Nat) : Duration := n * 1000000000

/-- Whole seconds; a fraction is dropped. -/
def wholeSeconds (d : Duration) : Nat := d / 1000000000

/-! ## The end of the clocks -/

/-- How far two clocks go: the one that locks end by, and the wall clock, which moves along with it
and whose readings are written on leases. -/
structure Horizon where
  /-- The last instant that a lock can end at. -/
  deadline : Instant
  /-- The last instant that the wall clock has a reading for. -/
  reading : Instant
  /-- The longest time that can be added to a reading. -/
  span : Duration

/-- A time that cannot be reckoned: the sum is beyond the end of its clock. -/
inductive Overflow
  | reading
  | deadline
deriving DecidableEq, Repr

def Overflow.message : Overflow → String
  | .reading => "`DateTime + TimeDelta` overflowed"
  | .deadline => "overflow when adding duration to instant"

namespace Horizon

/-- The clocks of a machine that counts seconds in 64 bits, where the instants begin `uptime` after
its start and `wall` after the start of 1970. The wall clock has readings up to the end of the year
262142, and adds times whose milliseconds fit in 64 bits. -/
def ofMachine (uptime wall : Duration) : Horizon where
  deadline := seconds 9223372036854775808 - 1 - uptime
  reading := seconds 8210266876800 - 1 - wall
  span := milliseconds 9223372036854775807

/-- The instant whose reading a lease carries: its end, or its start if it is too long for the
wall clock to add. -/
def ending (h : Horizon) (now : Instant) (d : Duration) : Instant :=
  if d ≤ h.span then now + d else now

/-- The wall clock has a reading for a lease of this length. -/
def Reads (h : Horizon) (now : Instant) (d : Duration) : Prop := h.ending now d ≤ h.reading

/-- A lock can end this much later. -/
def Reaches (h : Horizon) (now : Instant) (d : Duration) : Prop := now + d ≤ h.deadline

instance (h : Horizon) (now : Instant) (d : Duration) : Decidable (h.Reads now d) :=
  Nat.decLe _ _

instance (h : Horizon) (now : Instant) (d : Duration) : Decidable (h.Reaches now d) :=
  Nat.decLe _ _

end Horizon

end Inventory.Reservation
