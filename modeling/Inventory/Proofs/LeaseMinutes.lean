-- Lengths of leases in whole minutes. A length is rounded up from its whole seconds, so
-- it is the shortest that lasts, but for a fraction of a second after a full minute: this
-- fraction is lost, and the lease asked for ends too soon.
import Inventory.Proofs.Exchanges

namespace Inventory.LockApi

open Reservation

variable {a : Agent} {url : String} {request : HttpRequest} {d : Duration} {m n : Nat}

/-! ## Shortest lengths -/

/-- The minutes last for the duration, and fewer do not, unless they are none. -/
structure IsShortest (d : Duration) (m : Nat) : Prop where
  pos : 1 ≤ m
  lasts : d ≤ seconds (60 * m)
  least : ∀ k, 1 ≤ k → d ≤ seconds (60 * k) → m ≤ k

/-- The seconds that a duration fills or begins. -/
def begunSeconds (d : Duration) : Nat := (d + 999999999) / 1000000000

theorem le_seconds_iff : d ≤ seconds n ↔ begunSeconds d ≤ n := by
  unfold begunSeconds seconds Duration at *
  omega

theorem isShortest_iff : IsShortest d m ↔ m = max 1 ((begunSeconds d + 59) / 60) := by
  constructor
  · rintro ⟨hpos, hlasts, hleast⟩
    rw [le_seconds_iff] at hlasts
    have hle := hleast (max 1 ((begunSeconds d + 59) / 60)) (Nat.le_max_left ..)
      (le_seconds_iff.2 (by omega))
    omega
  · rintro rfl
    refine ⟨Nat.le_max_left .., le_seconds_iff.2 (by omega), fun k hk hlasts => ?_⟩
    rw [le_seconds_iff] at hlasts
    omega

/-- A minute or more is over to the second, and a fraction of a second goes on. -/
def PassesMinute (d : Duration) : Prop :=
  0 < wholeSeconds d ∧ wholeSeconds d % 60 = 0 ∧ d ≠ seconds (wholeSeconds d)

theorem begunSeconds_eq (d : Duration) :
    begunSeconds d = wholeSeconds d + if d = seconds (wholeSeconds d) then 0 else 1 := by
  unfold begunSeconds wholeSeconds seconds Duration at *
  split <;> omega

/-- Only a fraction of a second after a full minute makes a difference. -/
theorem isShortest_minutes_iff : IsShortest d (minutes d) ↔ ¬ PassesMinute d := by
  rw [isShortest_iff, begunSeconds_eq]
  unfold minutes PassesMinute
  by_cases hwhole : d = seconds (wholeSeconds d)
  · rw [if_pos hwhole, Nat.add_zero]
    exact ⟨fun _ h => h.2.2 hwhole, fun _ => rfl⟩
  · rw [if_neg hwhole]
    simp only [ne_eq, hwhole, not_false_iff, and_true]
    omega

/-- What is lost there is the fraction and no more. -/
theorem minutes_of_passesMinute (h : PassesMinute d) :
    seconds (60 * minutes d) < d ∧ d < seconds (60 * minutes d + 1) := by
  obtain ⟨hpos, hfull, hfraction⟩ := h
  have hminutes : 60 * minutes d = wholeSeconds d := by
    unfold minutes
    omega
  rw [hminutes]
  unfold seconds wholeSeconds Duration at *
  omega

/-! ## Machine words -/

/-- The minutes as a machine with 64 bits finds them: divided, with one more for what is left. -/
def machineMinutes (secs : UInt64) : UInt64 :=
  max 1 (if secs % 60 = 0 then secs / 60 else secs / 60 + 1)

theorem toNat_max (a b : UInt64) : (max a b).toNat = max a.toNat b.toNat := by
  change (if a ≤ b then b else a).toNat = _
  split
  · rename_i h
    rw [UInt64.le_iff_toNat_le] at h
    omega
  · rename_i h
    rw [UInt64.le_iff_toNat_le] at h
    omega

/-- No step goes beyond 64 bits. -/
theorem machineMinutes_toNat (secs : UInt64) :
    (machineMinutes secs).toNat = max 1 ((secs.toNat + 59) / 60) := by
  have hlt : secs.toNat < 2 ^ 64 := secs.toNat_lt
  have hone : (1 : UInt64).toNat = 1 := rfl
  have hmod : secs % 60 = 0 ↔ secs.toNat % 60 = 0 := by
    rw [← UInt64.toNat_inj, UInt64.toNat_mod]
    rfl
  have hdiv : (secs / 60).toNat = secs.toNat / 60 := UInt64.toNat_div secs 60
  rw [machineMinutes, toNat_max]
  by_cases hfull : secs % 60 = 0
  · rw [if_pos hfull, hdiv]
    rw [hmod] at hfull
    omega
  · rw [if_neg hfull, UInt64.toNat_add, hdiv]
    rw [hmod] at hfull
    omega

/-! ## Lengths that are asked for -/

/-- The request names a length. -/
def AsksMinutes (m : Nat) (request : HttpRequest) : Prop :=
  ∃ members, request.body = .object members ∧
    members.lookup "ReservationDuration" = some (.number m)

theorem asksMinutes_create {r : CreateRequest} (h : a.Sends url (createBody r) request) :
    AsksMinutes (minutes r.duration) request := ⟨_, h.carries, rfl⟩

theorem asksMinutes_renew {r : RenewRequest} (h : a.Sends url (renewBody r) request) :
    AsksMinutes (minutes r.duration) request := ⟨_, h.carries, rfl⟩

/-- What the length that a request names has to do with the duration that was asked for. -/
structure LengthOf (d : Duration) (m : Nat) : Prop where
  pos : 1 ≤ m
  machine : m = (machineMinutes (UInt64.ofNat (wholeSeconds d))).toNat
  shortest : IsShortest d m ↔ ¬ PassesMinute d
  loss : PassesMinute d → seconds (60 * m) < d ∧ d < seconds (60 * m + 1)

theorem lengthOf_minutes (h : wholeSeconds d < UInt64.size) : LengthOf d (minutes d) where
  pos := Nat.le_max_left ..
  machine := by rw [machineMinutes_toNat, UInt64.toNat_ofNat_of_lt' h, minutes]
  shortest := isShortest_minutes_iff
  loss := minutes_of_passesMinute

def AsksLengthOf (d : Duration) (request : HttpRequest) : Prop :=
  ∃ m, AsksMinutes m request ∧ LengthOf d m

/-- The calls that ask for leases ask for one minute at least, and within 64 bits. The length is
the shortest that lasts for the duration, unless this goes on for a fraction of a second after a
full minute; then the fraction is what is missing. -/
theorem lease_length_shortest_iff {σ : Type} (a : Agent) (peer : Peer σ) (s : σ) :
    (∀ r : CreateRequest, wholeSeconds r.duration < UInt64.size →
      IsExchange peer s a.createUrl (AsksLengthOf r.duration) (fun _ _ => True)
        ((a.service peer.recorded).create r (s, []))) ∧
    (∀ r : RenewRequest, wholeSeconds r.duration < UInt64.size →
      IsExchange peer s a.renewUrl (AsksLengthOf r.duration) (fun _ _ => True)
        ((a.service peer.recorded).renew r (s, []))) :=
  ⟨fun _ h => isExchange_post (fun _ hsends => ⟨_, asksMinutes_create hsends, lengthOf_minutes h⟩)
      fun _ _ => trivial,
    fun _ h => isExchange_post (fun _ hsends => ⟨_, asksMinutes_renew hsends, lengthOf_minutes h⟩)
      fun _ _ => trivial⟩

/-- A peer that no request reaches. -/
def silent : Peer Unit := fun _ _ => (.unreachable, ())

/-- A minute and a second are two minutes. -/
theorem lease_length_shortest_iff_second :
    wholeSeconds (seconds 61) < UInt64.size ∧ Reaches loopback.createUrl ∧
    ∃ request, ((loopback.service silent.recorded).create
      ⟨["x0"], .rigid, seconds 61⟩ ((), [])).2.2 = [request] ∧
      AsksMinutes 2 request ∧ IsShortest (seconds 61) 2 := by
  have hsecs : wholeSeconds (seconds 61) < UInt64.size := by decide
  obtain ⟨hreaches, -, -⟩ := reaches_loopback
  obtain ⟨hcreate, -⟩ := lease_length_shortest_iff loopback silent ()
  obtain ⟨request, ⟨m, hasks, hlength⟩, hsent, -⟩ :=
    (hcreate ⟨["x0"], .rigid, seconds 61⟩ hsecs).1 hreaches
  obtain rfl : m = 2 := hlength.machine.trans (by decide)
  have hfull : ¬ PassesMinute (seconds 61) := by
    unfold PassesMinute
    decide
  exact ⟨hsecs, hreaches, request, congrArg Prod.snd hsent, hasks, hlength.shortest.2 hfull⟩

/-- Half a second more than a minute is a minute, which is over before. -/
theorem fraction_lost :
    ∃ request, ((loopback.service silent.recorded).create
      ⟨["x0"], .rigid, milliseconds 60500⟩ ((), [])).2.2 = [request] ∧
      AsksMinutes 1 request ∧ seconds (60 * 1) < milliseconds 60500 := by
  obtain ⟨hreaches, -, -⟩ := reaches_loopback
  have hexchange : IsExchange silent () loopback.createUrl (AsksMinutes 1) (fun _ _ => True)
      ((loopback.service silent.recorded).create ⟨["x0"], .rigid, milliseconds 60500⟩ ((), [])) :=
    isExchange_post (d := grantDecoder) (fun _ => asksMinutes_create) fun _ _ => trivial
  obtain ⟨request, hasks, hsent, -⟩ := hexchange.1 hreaches
  exact ⟨request, congrArg Prod.snd hsent, hasks, by decide⟩

end Inventory.LockApi
