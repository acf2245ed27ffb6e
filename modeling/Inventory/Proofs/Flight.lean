-- Renewals in flight. Until the answer to a renewal comes, its client may give
-- leases up and acquire them anew, so the answer can be about leases that are
-- gone. Whatever such an answer says, it only touches a lease whose key is the
-- one that was sent.
import Inventory.Proofs.Clock

namespace Inventory.Reservation

variable {τ : Type} {issuer : Issuer τ} {now : Instant} {sent : List OwnerKey} {name : String}
  {r r' s : Runner τ} {g g' : Gate τ} {e : Event τ} {w w' : World τ}

/-! ## Answers of any kind -/

/-- What settling the answer to a renewal leaves alone: no lease comes in, no key changes, and a
lease that has not ended stays as it is unless its key is one of those that were sent. -/
structure Harmless (sent : List OwnerKey) (now : Instant) (before after : Client τ) : Prop where
  keys : ∀ id held', after.holdings.get? id = some held' →
    ∃ held, before.holdings.get? id = some held ∧ held.lease.ownerKey = held'.lease.ownerKey
  touched : ∀ id held, before.holdings.get? id = some held → now < held.deadline →
    after.holdings.get? id ≠ some held → ⟨id, held.lease.key⟩ ∈ sent

/-- What a client counts on under a key that was not sent, it goes on to count on. -/
theorem Harmless.mem_status {before after : Client τ} {k : OwnerKey}
    (h : Harmless sent now before after) (hk : (k.id, k.key) ∈ before.status now)
    (hnot : k ∉ sent) : (k.id, k.key) ∈ after.status now := by
  obtain ⟨held, hget, hl, hkey⟩ := Client.mem_status_iff.1 hk
  refine Client.mem_status_iff.2 ⟨held, ?_, hl, hkey⟩
  by_contra htouched
  have hsent := h.touched k.id held hget hl htouched
  rw [show held.lease.key = k.key from hkey] at hsent
  exact hnot hsent

/-- No client is harmed by the answer to a renewal, whatever the answer is and whatever was sent. -/
theorem Client.settleRenewal_harmless (c : Client τ) (now : Instant) (expiration : τ)
    (sent : List OwnerKey) (answer : Except Error Outcome) :
    Harmless sent now c (c.settleRenewal now expiration sent answer) := by
  refine ⟨fun id held' hget => settleRenewal_keeps_keys hget, ?_⟩
  intro id held hget hl htouched
  by_contra hnot
  apply htouched
  cases answer with
  | error =>
    rw [get?_settleRenewal_error, hget]
    simpa [Current] using hl
  | ok outcome =>
    have hother : sentKey? sent id ≠ some held.lease.key := fun h => hnot (mem_of_sentKey? h)
    refine get?_settleRenewal_ok.2 ⟨held, hget, ?_⟩
    rw [if_neg hother]

/-! ## While the answer is awaited -/

/-- The event can happen while a renewal of the client is in flight: the client does not end or
start anew, and the answer does not come. -/
def Event.Meanwhile (name : String) : Event τ → Prop
  | .start other _ => other ≠ name
  | .stop other => other ≠ name
  | .answer other => other ≠ name
  | _ => True

/-- A renewal of these keys waits at the gate for the client of that name. -/
def World.InFlight (w : World τ) (name : String) (sent : List OwnerKey) : Prop :=
  ∃ r ∈ w.runners, r.name = name ∧ r.waiting = some sent

/-- Whatever a client does meanwhile, its renewal goes on waiting, with the keys it was sent with. -/
theorem Turn.waiting (hwait : r.waiting = some sent) (he : e.Meanwhile r.name)
    (h : Turn issuer now r g e r' g') : r'.waiting = some sent := by
  cases h with
  | tick hfree =>
    rw [hwait] at hfree
    cases hfree
  | answer => exact absurd rfl he
  | _ => exact hwait

theorem World.InFlight.step (hn : w.Named) (h : w.InFlight name sent) (he : e.Meanwhile name)
    (hstep : Step w e w') : w'.InFlight name sent := by
  obtain ⟨r, hr, rfl, hwait⟩ := h
  cases hstep with
  | @turn _ s s' g hs hturn =>
    by_cases hname : r.name = s.name
    · obtain rfl : r = s := hn.eq hs hr hname
      exact ⟨s', World.mem_putRunner_self hr hturn.name, hturn.name, hturn.waiting hwait he⟩
    · have hstays : r ∈ (({ w with gate := g } : World τ).putRunner s').runners :=
        (World.mem_putRunner_iff hs hturn.name).2 (Or.inr ⟨hr, hname⟩)
      exact ⟨r, hstays, rfl, hwait⟩
  | start other config =>
    refine ⟨r, List.mem_append_left _ (List.mem_filter.2 ⟨hr, ?_⟩), rfl, hwait⟩
    simpa using Ne.symm he
  | stop other =>
    refine ⟨r, List.mem_filter.2 ⟨hr, ?_⟩, rfl, hwait⟩
    simpa using Ne.symm he
  | _ => exact ⟨r, hr, rfl, hwait⟩

theorem World.InFlight.reaches (hn : w.Named) (h : w.InFlight name sent)
    (hrun : Reaches (fun _ e => e.Meanwhile name) w w') : w'.InFlight name sent := by
  have hkeep : w'.Named ∧ w'.InFlight name sent := by
    refine hrun.keeps (P := fun w => w.Named ∧ w.InFlight name sent) ?_ ⟨hn, h⟩
    rintro w e w' ⟨hn, h⟩ he hstep
    exact ⟨hstep.named hn, h.step hn he hstep⟩
  exact hkeep.2

/-! ## Sending and answering -/

/-- A tick sends what is due, and the renewal waits while the gate holds renewals back. -/
theorem Runner.tick_waiting (hhold : g.faults.holdRenewals = true)
    (hdue : r.client.due now ≠ []) :
    (r.tick issuer now g).1.waiting = some (r.client.due now) := by
  unfold tick renewDue
  simp [Gate.log, hhold, hdue]

theorem World.inFlight_tick (hr : r ∈ w.runners) (hhold : w.gate.faults.holdRenewals = true)
    (hdue : r.client.due (max w.now r.nextTick) ≠ []) :
    (w.tick r).InFlight r.name (r.client.due (max w.now r.nextTick)) := by
  have hname : (r.tick w.issuer (max w.now r.nextTick) w.gate).1.name = r.name :=
    (Runner.tick_ticks ..).name
  exact ⟨_, mem_putRunner_self hr hname, hname, Runner.tick_waiting hhold hdue⟩

/-- The next renewal that the gate answers gets this answer. -/
def World.answering (w : World τ) (answer : Except Error Outcome) : World τ :=
  w.addScript fun script => { script with renew := answer :: script.renew }

/-- The answer that the gate gives to a renewal that waits is settled with the keys it was sent
with. -/
theorem World.mem_letThrough_answering (hs : s ∈ w.runners) (hwait : s.waiting = some sent)
    (answer : Except Error Outcome) :
    { s with
      client := s.client.settleRenewal w.now
        (w.issuer.expiration (w.now + s.client.config.leaseDuration)) sent answer
      waiting := none } ∈ ((w.answering answer).letThrough s).runners := by
  unfold letThrough
  rw [hwait]
  exact mem_putRunner_self hs rfl

/-- A client sends the keys that are due, and the renewal waits. Whatever the client, the others
and the clock do meanwhile, the renewal goes on waiting, and whatever it is answered in the end,
the answer is harmless to the client as it is by then. -/
theorem stale_answer_harmless (hn : w.Named) (hr : r ∈ w.runners)
    (hhold : w.gate.faults.holdRenewals = true)
    (hdue : r.client.due (max w.now r.nextTick) ≠ [])
    (hflight : Reaches (fun _ e => e.Meanwhile r.name) (w.tick r) w') :
    ∃ s ∈ w'.runners, s.name = r.name ∧
      s.waiting = some (r.client.due (max w.now r.nextTick)) ∧
      ∀ answer, ∃ s' ∈ ((w'.answering answer).letThrough s).runners, s'.name = r.name ∧
        Harmless (r.client.due (max w.now r.nextTick)) w'.now s.client s'.client := by
  have hsent := World.inFlight_tick hr hhold hdue
  obtain ⟨s, hs, hname, hwait⟩ := hsent.reaches (hn.tick r) hflight
  refine ⟨s, hs, hname, hwait, fun answer => ?_⟩
  exact ⟨_, World.mem_letThrough_answering hs hwait answer, hname,
    Client.settleRenewal_harmless ..⟩

namespace World

/-- A client is about to renew two leases, and the gate holds renewals back. -/
def sending : World Unit := (acquired.2.setFaults { holdRenewals := true }).advance (seconds 29)

def sender : Runner Unit := sending.runners.head (by decide)

/-- The renewal is on its way. -/
def renewing : World Unit := sending.tick sender

/-- The client releases one of the leases meanwhile. -/
def released : Except Error Unit × World Unit :=
  renewing.onClient (renewing.runners.head (by decide)) fun service now =>
    Client.release service now ["x0"]

/-- It acquires the lease anew, and has it under another key. -/
def reacquired : Except Error (List (Lease Unit)) × World Unit :=
  released.2.onClient (released.2.runners.head (by decide)) fun service now =>
    Client.acquire service now ["x0"]

theorem renewing_reaches : Reaches (fun _ e => e.Meanwhile "a") renewing reacquired.2 := by
  have hreleased : Step renewing (.release "a" ["x0"] released.1) released.2 :=
    onClient_step (List.head_mem _) .release
  have hreacquired : Step released.2 (.acquire "a" ["x0"] reacquired.1) reacquired.2 :=
    onClient_step (List.head_mem _) .acquire
  exact (Reaches.step hreleased trivial).trans (.step hreacquired trivial)

end World

/-- The answer is about a lease that has been given up and acquired anew. The client goes on to
count on the lease, be it even that the answer refuses it. -/
theorem stale_answer_harmless_reacquired :
    ∃ s ∈ World.reacquired.2.runners,
      s.waiting = some [⟨"x0", "x0:rk:#1"⟩, ⟨"x1", "x1:rk:#2"⟩] ∧
      ∀ answer, ∃ s' ∈ ((World.reacquired.2.answering answer).letThrough s).runners,
        s'.name = "a" ∧ ("x0", "x0:rk:#3") ∈ s'.client.status World.reacquired.2.now := by
  have hnamed : World.sending.Named := by
    unfold World.Named
    decide
  have hstatus : ∀ s ∈ World.reacquired.2.runners, s.name = "a" →
      ("x0", "x0:rk:#3") ∈ s.client.status World.reacquired.2.now := by decide
  have hsender : World.sender ∈ World.sending.runners := List.head_mem _
  have hdue : World.sender.client.due (max World.sending.now World.sender.nextTick) =
      [⟨"x0", "x0:rk:#1"⟩, ⟨"x1", "x1:rk:#2"⟩] := by decide
  obtain ⟨s, hs, hname, hwait, hanswer⟩ := stale_answer_harmless hnamed hsender (by decide)
    (by decide) World.renewing_reaches
  rw [hdue] at hwait hanswer
  refine ⟨s, hs, hwait, fun answer => ?_⟩
  obtain ⟨s', hs', hname', hharmless⟩ := hanswer answer
  have hkept := hharmless.mem_status (k := ⟨"x0", "x0:rk:#3"⟩) (hstatus s hs hname) (by decide)
  exact ⟨s', hs', hname', hkept⟩

end Inventory.Reservation
