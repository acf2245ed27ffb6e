-- Answers that take their time. The table counts a lease from the instant at
-- which it treats the request, the client from the instant at which it has the
-- answer. So a client counts on every lease for too long, by just the time
-- that the answer took.
import Inventory.Proofs.Exclusion

namespace Inventory.Reservation

variable {τ : Type} {issuer : Issuer τ} {treated back : Instant} {c c' : Client τ}
  {t t' : LockTable} {k : OwnerKey}

/-! ## How long a lease is counted on -/

/-- The client counts on the key until one instant, and its lock lasts until another. -/
structure Lasts (c : Client τ) (t : LockTable) (k : OwnerKey) (counted locked : Instant) :
    Prop where
  status : ∀ at_, (k.id, k.key) ∈ c.status at_ ↔ at_ < counted
  check : ∀ at_, c.check at_ [k.id] = true ↔ at_ < counted
  owns : ∀ at_, t.Owns at_ k ↔ at_ < locked

theorem lasts_of_get? {held : Holding τ} {lock : Lock}
    (hheld : c.holdings.get? k.id = some held) (hkey : held.lease.key = k.key)
    (hlock : t.locks.get? k.id = some lock) (hlocked : lock.key = k.key) :
    Lasts c t k held.deadline lock.deadline where
  status at_ := by simp [Client.mem_status_iff, hheld, hkey]
  check at_ := by simp [Client.check, Client.holds_iff, hheld]
  owns at_ := by simp [LockTable.owns_iff, hlock, hlocked]

/-- The client reports the key, in its status or when it is asked for the id. -/
def Client.Reports (c : Client τ) (at_ : Instant) (k : OwnerKey) : Prop :=
  (k.id, k.key) ∈ c.status at_ ∨ c.check at_ [k.id] = true

/-- A client that stops counting on a key no later than its lock ends never reports a dead one. -/
theorem Lasts.reports_owned_iff {counted locked : Instant} (h : Lasts c t k counted locked) :
    (∀ at_, c.Reports at_ k → t.Owns at_ k) ↔ counted ≤ locked := by
  simp only [Client.Reports, h.status, h.check, h.owns, or_self]
  constructor
  · intro hlive
    by_contra hlate
    exact Nat.lt_irrefl _ (hlive locked (Nat.lt_of_not_le hlate))
  · intro hle at_ hcounted
    exact Nat.lt_of_lt_of_le hcounted hle

/-! ## Leases that come in -/

/-- The ways in which a lease comes in: the table treats the request of the client at one instant,
and the client, whatever it holds by then, takes the answer in at another. -/
inductive TakesIn (issuer : Issuer τ) (treated back : Instant) (c : Client τ) (t : LockTable) :
    OwnerKey → Client τ → LockTable → Prop
  | acquired {ids : List String} {model : Model} {l : Lease τ}
    (hall : (t.create issuer treated ⟨ids, model, c.config.leaseDuration⟩).1.failed = [])
    (hl : l ∈ (t.create issuer treated ⟨ids, model, c.config.leaseDuration⟩).1.granted) :
    TakesIn issuer treated back c t l.ownerKey
      (c.settleAcquire back
        (t.create issuer treated ⟨ids, model, c.config.leaseDuration⟩).1).2.1
      (t.create issuer treated ⟨ids, model, c.config.leaseDuration⟩).2
  | flexAcquired {ids : List String} {model : Model} {l : Lease τ}
    (hl : l ∈ (t.create issuer treated ⟨ids, model, c.config.leaseDuration⟩).1.granted) :
    TakesIn issuer treated back c t l.ownerKey
      (c.record back (t.create issuer treated ⟨ids, model, c.config.leaseDuration⟩).1.granted)
      (t.create issuer treated ⟨ids, model, c.config.leaseDuration⟩).2
  | reacquired {leases : List (Lease τ)} {model : Model} {l : Lease τ} {done : Outcome}
    {t' : LockTable} (hone : (leases.map Lease.id).Nodup) (hl : l ∈ leases)
    (hrenew : t.renew treated ⟨leases.map Lease.ownerKey, model, c.config.leaseDuration⟩ =
      (done, t'))
    (hdone : l.id ∈ done.succeeded) :
    TakesIn issuer treated back c t l.ownerKey
      (c.record back (leases.filter (·.id ∈ done.succeeded))) t'
  | renewed {sent : List OwnerKey} {expiration : τ} {k : OwnerKey}
    (hone : (sent.map OwnerKey.id).Nodup) (hk : k ∈ sent) (hhas : c.Has k)
    (hdone : k.id ∈ (t.renew treated (c.renewal sent)).1.succeeded) :
    TakesIn issuer treated back c t k
      (c.settleRenewal back expiration sent (.ok (t.renew treated (c.renewal sent)).1))
      (t.renew treated (c.renewal sent)).2

theorem Client.settleAcquire_of_all {answer : Grant τ} (h : answer.failed = []) :
    (c.settleAcquire back answer).2.1 = c.record back answer.granted := by
  unfold settleAcquire
  rw [if_pos h]

/-- A renewal with one key for an id that is done for the key sets its deadline. -/
theorem LockTable.get?_renew_of_done {keys : List OwnerKey} {model : Model} {d : Duration}
    (hone : (keys.map OwnerKey.id).Nodup) (hk : k ∈ keys)
    (hdone : k.id ∈ (t.renew treated ⟨keys, model, d⟩).1.succeeded) :
    t.Owns treated k ∧
      (t.renew treated ⟨keys, model, d⟩).2.locks.get? k.id = some ⟨k.key, treated + d⟩ := by
  have hf := treats_setDeadline (treated + d)
  unfold renew at hdone ⊢
  by_cases ha : t.Accepts treated model keys
  · obtain ⟨key, hmem, howns⟩ := (mem_treat_succeeded_iff hf ha).1 hdone
    have hself : (⟨k.id, key⟩ : OwnerKey) = k := List.inj_on_of_nodup_map hone hmem hk rfl
    rw [hself] at howns
    exact ⟨howns, get?_treat_of_mem hf ha hk howns⟩
  · rw [treat_of_not_accepts ha] at hdone
    cases hdone

/-- A lease that was granted is held once it is taken in, whatever else was granted with it. -/
theorem lasts_of_granted {q : CreateRequest} {l : Lease τ}
    (hq : q.duration = c.config.leaseDuration) (hl : l ∈ (t.create issuer treated q).1.granted) :
    Lasts (c.record back (t.create issuer treated q).1.granted) (t.create issuer treated q).2
      l.ownerKey (back + c.config.leaseDuration) (treated + c.config.leaseDuration) := by
  have hgrants := LockTable.create_grants issuer treated q t
  have hlock := hgrants.locked l hl
  rw [hq] at hlock
  exact lasts_of_get? (k := l.ownerKey) (Client.get?_record_of_distinct hgrants.distinct hl) rfl
    hlock rfl

/-- A lease that comes in lasts for one duration from two instants: at the client from when the
answer is back, at the table from when the request was treated. -/
theorem TakesIn.lasts (h : TakesIn issuer treated back c t k c' t') :
    Lasts c' t' k (back + c.config.leaseDuration) (treated + c.config.leaseDuration) := by
  cases h with
  | acquired hall hl =>
    rw [Client.settleAcquire_of_all hall]
    exact lasts_of_granted rfl hl
  | flexAcquired hl => exact lasts_of_granted rfl hl
  | @reacquired leases model l done _ hone hl hrenew hdone =>
    have hkeys : ((leases.map Lease.ownerKey).map OwnerKey.id).Nodup := by
      rw [List.map_map]
      exact hone
    have hadopted : l ∈ leases.filter (·.id ∈ done.succeeded) := by simp [hl, hdone]
    have hlock := (LockTable.get?_renew_of_done hkeys (List.mem_map.2 ⟨l, hl, rfl⟩)
      (by rw [hrenew]; exact hdone)).2
    rw [hrenew] at hlock
    exact lasts_of_get? (k := l.ownerKey)
      (Client.get?_record_of_distinct (hone.sublist (List.filter_sublist.map _)) hadopted) rfl
      hlock rfl
  | @renewed sent expiration _ hone hk hhas hdone =>
    obtain ⟨held, hheld, hkey⟩ := hhas
    obtain ⟨howns, hlock⟩ := LockTable.get?_renew_of_done hone hk hdone
    have hself : (⟨k.id, held.lease.key⟩ : OwnerKey) = k := by rw [hkey]
    have hget : (c.settleRenewal back expiration sent
        (.ok (t.renew treated (c.renewal sent)).1)).holdings.get? k.id =
          some (Client.renewed (back + c.config.leaseDuration) expiration held) := by
      refine (get?_renewal hone).2 ⟨held, hheld, ?_⟩
      rw [hself, if_pos hk]
      exact ⟨howns, rfl⟩
    exact lasts_of_get? hget hkey hlock rfl

/-- A client counts on a lease for as long after its lock has ended as the answer took to come
back. So it never reports a dead lock if and only if the answer took no time. -/
theorem reports_only_live_iff (h : TakesIn issuer treated back c t k c' t') :
    Lasts c' t' k (back + c.config.leaseDuration) (treated + c.config.leaseDuration) ∧
      ((∀ at_, c'.Reports at_ k → t'.Owns at_ k) ↔ back ≤ treated) := by
  refine ⟨h.lasts, ?_⟩
  rw [h.lasts.reports_owned_iff]
  exact Nat.add_le_add_iff_right

/-- The answer to a request for one lease comes ten seconds after it was treated. -/
theorem reports_only_live_iff_grant :
    let answer := LockTable.empty.create Issuer.numbered 0 ⟨["x0"], .rigid, seconds 60⟩
    let after := ((Client.new {} : Client Unit).settleAcquire (seconds 10) answer.1).2.1
    Lasts after answer.2 ⟨"x0", "x0:rk:#1"⟩ (seconds 70) (seconds 60) ∧
      ¬ ∀ at_, after.Reports at_ ⟨"x0", "x0:rk:#1"⟩ → answer.2.Owns at_ ⟨"x0", "x0:rk:#1"⟩ := by
  intro answer after
  let l : Lease Unit := ⟨"x0", "x0:rk:#1", some "x0:dk:#1", ()⟩
  have hall : answer.1.failed = [] := by decide
  have hl : l ∈ answer.1.granted := by decide
  have hin : TakesIn Issuer.numbered 0 (seconds 10) (Client.new {}) LockTable.empty l.ownerKey
      after answer.2 := .acquired hall hl
  obtain ⟨hlasts, hlive⟩ := reports_only_live_iff hin
  have hlate : ¬ seconds 10 ≤ 0 := by decide
  exact ⟨hlasts, fun hreports => hlate (hlive.1 hreports)⟩

/-- A renewal is treated after fifty seconds, and its answer is back eight seconds later. By then
the client counts on the lease for eight seconds too many, and reports it when its lock has
ended. -/
theorem late_renewal_reports_dead :
    let grant := LockTable.empty.create Issuer.numbered 0 ⟨["x0"], .rigid, seconds 60⟩
    let before : Client Unit := (Client.new {}).record 0 grant.1.granted
    let sent := before.due (seconds 50)
    let answer := grant.2.renew (seconds 50) (before.renewal sent)
    let after := before.settleRenewal (seconds 58) () sent (.ok answer.1)
    sent = [⟨"x0", "x0:rk:#1"⟩] ∧ answer.1 = ⟨["x0"], []⟩ ∧
      after.status (seconds 115) = [("x0", "x0:rk:#1")] ∧
      after.check (seconds 115) ["x0"] = true ∧
      ¬ answer.2.Owns (seconds 115) ⟨"x0", "x0:rk:#1"⟩ := by
  decide

end Inventory.Reservation
