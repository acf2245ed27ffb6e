-- Leases taken over from somebody else. The table answers a renewal by ids, and
-- the client takes every lease in whose id is among them. So a key that the
-- table refused is taken in all the same when another key for its id was renewed
-- and stands before it.
import Inventory.Proofs.Exclusion

namespace Inventory.Reservation

variable {τ : Type} {issuer : Issuer τ} {now : Instant} {c c' : Client τ} {t t' : LockTable}
  {leases : List (Lease τ)} {l : Lease τ} {model : Model} {answer : Outcome} {id key : String}
  {d : Duration}

/-- The lease that is taken in for an id: the last one. -/
def lastFor (leases : List (Lease τ)) (id : String) : Option (Lease τ) :=
  leases.reverse.find? fun l => l.id = id

theorem mem_of_lastFor (h : lastFor leases id = some l) : l ∈ leases ∧ l.id = id := by
  unfold lastFor at h
  exact ⟨List.mem_reverse.1 (List.mem_of_find?_eq_some h), by simpa using List.find?_some h⟩

theorem exists_lastFor (h : id ∈ leases.map Lease.id) : ∃ l, lastFor leases id = some l := by
  obtain ⟨l, hl, rfl⟩ := List.mem_map.1 h
  rw [← Option.isSome_iff_exists, lastFor, List.find?_isSome]
  exact ⟨l, List.mem_reverse.2 hl, decide_eq_true rfl⟩

/-! ## What was renewed -/

namespace LockTable

/-- A key owns the lock of an id that was renewed if it owned it before and the lock was renewed
for some time. -/
theorem owns_renew_iff {r : RenewRequest} (hrenew : t.renew now r = (answer, t'))
    (hid : id ∈ answer.succeeded) :
    t'.Owns now ⟨id, key⟩ ↔ 0 < r.duration ∧ t.Owns now ⟨id, key⟩ := by
  have hf := treats_setDeadline (now + r.duration)
  unfold renew at hrenew
  by_cases ha : t.Accepts now r.model r.keys
  · rw [← congrArg (fun out => out.1.succeeded) hrenew] at hid
    obtain ⟨owner, hsent, howner⟩ := (mem_treat_succeeded_iff hf ha).1 hid
    have hafter := get?_treat_of_mem hf ha hsent howner
    rw [hrenew] at hafter
    obtain ⟨lock, hget, hlive, hkey⟩ := owns_iff.1 howner
    simp only [owns_iff, hafter, hget, Option.some.injEq, exists_eq_left', hlive, hkey, true_and,
      Nat.lt_add_right_iff_pos]
  · rw [treat_of_not_accepts ha] at hrenew
    cases hrenew
    cases hid

/-- A renewal that is done for an id was accepted, and one of the leases owns the lock of the id. -/
theorem owner_of_renewed
    (hrenew : t.renew now ⟨leases.map Lease.ownerKey, model, d⟩ = (answer, t'))
    (hid : id ∈ answer.succeeded) :
    t.Accepts now model (leases.map Lease.ownerKey) ∧
      ∃ l ∈ leases, l.id = id ∧ t.Owns now l.ownerKey := by
  have hf := treats_setDeadline (now + d)
  unfold renew at hrenew
  by_cases ha : t.Accepts now model (leases.map Lease.ownerKey)
  · rw [← congrArg (fun out => out.1.succeeded) hrenew] at hid
    obtain ⟨owner, hsent, howns⟩ := (mem_treat_succeeded_iff hf ha).1 hid
    obtain ⟨l, hl, he⟩ := List.mem_map.1 hsent
    exact ⟨ha, l, hl, congrArg OwnerKey.id he, he ▸ howns⟩
  · rw [treat_of_not_accepts ha] at hrenew
    cases hrenew
    cases hid

/-- Of leases that were all accepted, or of which no two are for one id, the last one for an id
that was renewed owns its lock. -/
theorem owns_lastFor (hcase : model = .rigid ∨ (leases.map Lease.id).Nodup)
    (hrenew : t.renew now ⟨leases.map Lease.ownerKey, model, d⟩ = (answer, t'))
    (hid : id ∈ answer.succeeded) (hlast : lastFor leases id = some l) :
    t.Owns now l.ownerKey := by
  obtain ⟨hl, rfl⟩ := mem_of_lastFor hlast
  obtain ⟨ha, owner, howner, hsame, howns⟩ := owner_of_renewed hrenew hid
  rcases hcase with rfl | hone
  · exact accepts_rigid_iff.1 ha _ (List.mem_map.2 ⟨l, hl, rfl⟩)
  · rwa [List.inj_on_of_nodup_map hone hl howner hsame.symm]

end LockTable

/-! ## What is taken in -/

/-- The client holds a key that it took in because its id was renewed. -/
def Adopted (answer : Outcome) (c' : Client τ) (k : OwnerKey) : Prop :=
  k.id ∈ answer.succeeded ∧ c'.Has k

/-- The table answers every request to take leases over. -/
theorem reacquire_eq_ok_iff :
    c.reacquire (LockTable.service issuer now) now leases model t = (.ok answer, c', t') ↔
      t.renew now ⟨leases.map Lease.ownerKey, model, c.config.leaseDuration⟩ = (answer, t') ∧
        c' = c.record now (leases.filter (·.id ∈ answer.succeeded)) := by
  have hanswer (r : RenewRequest) : (LockTable.service issuer now).renew r t =
      (.ok (t.renew now r).1, (t.renew now r).2) := rfl
  unfold Client.reacquire
  rw [hanswer]
  generalize t.renew now _ = renewed
  obtain ⟨done, after⟩ := renewed
  simp only [Prod.mk.injEq, Except.ok.injEq]
  constructor
  · rintro ⟨rfl, rfl, rfl⟩
    exact ⟨⟨rfl, rfl⟩, rfl⟩
  · rintro ⟨⟨rfl, rfl⟩, rfl⟩
    exact ⟨rfl, rfl, rfl⟩

/-- Of the leases for an id that was renewed, the client has the last one. -/
theorem has_record_renewed_iff (hid : id ∈ answer.succeeded) (hlast : lastFor leases id = some l) :
    (c.record now (leases.filter (·.id ∈ answer.succeeded))).Has ⟨id, key⟩ ↔ l.key = key := by
  have hfound : ((leases.filter (·.id ∈ answer.succeeded)).reverse.find? fun m => m.id = id) =
      some l := by
    rw [← List.filter_reverse, List.find?_filter, ← hlast, lastFor]
    congr 1
    funext m
    by_cases hm : m.id = id <;> simp [hm, hid]
  rw [Client.Has, Client.get?_record, hfound]
  simp

/-- An id that was renewed is adopted under the key of its last lease, so the table knows what was
adopted if it knew these keys and renewed them for some time. -/
theorem owns_adopted_iff
    (hrenew : t.renew now ⟨leases.map Lease.ownerKey, model, c.config.leaseDuration⟩ =
      (answer, t')) :
    (∀ k, Adopted answer (c.record now (leases.filter (·.id ∈ answer.succeeded))) k →
        t'.Owns now k) ↔
      ∀ id ∈ answer.succeeded, 0 < c.config.leaseDuration ∧
        ∀ l, lastFor leases id = some l → t.Owns now l.ownerKey := by
  have hlast {id : String} (hid : id ∈ answer.succeeded) : ∃ l, lastFor leases id = some l := by
    obtain ⟨-, l, hl, hself, -⟩ := LockTable.owner_of_renewed hrenew hid
    exact exists_lastFor (List.mem_map.2 ⟨l, hl, hself⟩)
  constructor
  · intro hknown id hid
    obtain ⟨l, hl⟩ := hlast hid
    have hhas : (c.record now (leases.filter (·.id ∈ answer.succeeded))).Has ⟨id, l.key⟩ :=
      (has_record_renewed_iff hid hl).2 rfl
    obtain ⟨hd, howns⟩ := (LockTable.owns_renew_iff hrenew hid).1 (hknown ⟨id, l.key⟩ ⟨hid, hhas⟩)
    refine ⟨hd, fun m hm => ?_⟩
    obtain ⟨-, rfl⟩ := mem_of_lastFor hm
    rwa [Option.some.inj (hm.symm.trans hl)] at howns ⊢
  · rintro hlasts ⟨id, key⟩ ⟨hid, hhas⟩
    obtain ⟨l, hl⟩ := hlast hid
    obtain ⟨hd, howns⟩ := hlasts id hid
    obtain rfl : l.key = key := (has_record_renewed_iff hid hl).1 hhas
    obtain ⟨-, rfl⟩ := mem_of_lastFor hl
    exact (LockTable.owns_renew_iff hrenew hid).2 ⟨hd, howns l hl⟩

/-- The table knows every key that a client adopts if and only if, as soon as anything is adopted,
leases last for some time and of the leases presented for an id that was renewed the last one has
the key that the table knows. For leases that last it knows them all if the client asks for all or
none, or if no two of the leases are for one id. -/
theorem adopts_recognized_iff
    (h : c.reacquire (LockTable.service issuer now) now leases model t = (.ok answer, c', t')) :
    ((∀ k, Adopted answer c' k → t'.Owns now k) ↔
      ∀ id ∈ answer.succeeded, 0 < c.config.leaseDuration ∧
        ∀ l, lastFor leases id = some l → t.Owns now l.ownerKey) ∧
    (0 < c.config.leaseDuration → model = .rigid ∨ (leases.map Lease.id).Nodup →
      ∀ k, Adopted answer c' k → t'.Owns now k) := by
  obtain ⟨hrenew, rfl⟩ := reacquire_eq_ok_iff.1 h
  refine ⟨owns_adopted_iff hrenew, fun hd hcase => (owns_adopted_iff hrenew).2 ?_⟩
  exact fun id hid => ⟨hd, fun l hl => LockTable.owns_lastFor hcase hrenew hid hl⟩

/-- A table in which two ids are locked. -/
def LockTable.handedOver : LockTable :=
  (LockTable.empty.create Issuer.numbered 0 ⟨["x0", "x1"], .rigid, seconds 60⟩).2

/-- One of two leases has a key that the table does not know; the other one is taken over. -/
theorem adopts_recognized_iff_stale :
    let presented : List (Lease Unit) := [⟨"x0", "x0:rk:#1", none, ()⟩, ⟨"x1", "x1:rk:#9", none, ()⟩]
    let answer : Outcome := ⟨["x0"], [⟨"x1", "Reservation key mismatch"⟩]⟩
    let out := (Client.new {}).reacquire (LockTable.service Issuer.numbered 0) 0 presented .flexible
      LockTable.handedOver
    out.1 = .ok answer ∧ out.2.1.status 0 = [("x0", "x0:rk:#1")] ∧
      ∀ k, Adopted answer out.2.1 k → out.2.2.Owns 0 k := by
  intro presented answer out
  have hok : out.1 = .ok answer := rfl
  exact ⟨hok, rfl, (adopts_recognized_iff (Prod.ext hok rfl)).2 (by decide) (Or.inr (by decide))⟩

/-- Of two keys for one id the table knows the first and refuses the second, and the client holds
the second. -/
theorem forged_key_adopted :
    let presented : List (Lease Unit) := [⟨"x0", "x0:rk:#1", none, ()⟩, ⟨"x0", "forged", none, ()⟩]
    let answer : Outcome := ⟨["x0"], [⟨"x0", "Reservation key mismatch"⟩]⟩
    let out := (Client.new {}).reacquire (LockTable.service Issuer.numbered 0) 0 presented .flexible
      LockTable.handedOver
    out.1 = .ok answer ∧ out.2.1.status 0 = [("x0", "forged")] ∧
      Adopted answer out.2.1 ⟨"x0", "forged"⟩ ∧ ¬ out.2.2.Owns 0 ⟨"x0", "forged"⟩ := by
  intro presented answer out
  have hheld : out.2.1.Has ⟨"x0", "forged"⟩ :=
    ⟨⟨⟨"x0", "forged", none, ()⟩, seconds 60⟩, by decide, rfl⟩
  exact ⟨rfl, rfl, ⟨by decide, hheld⟩, by decide⟩

end Inventory.Reservation
