-- Breaking locks. The table says that a lock was held as soon as one stands for
-- the id, and a lock that has ended stands until the next request for locks. So
-- what it says is wrong just where a key of the id is refused for its lock has
-- ended.
import Inventory.Proofs.DeadKeys

namespace Inventory.Reservation

variable {τ : Type} {issuer : Issuer τ}

/-! ## Locks that have ended -/

namespace LockTable

variable {now : Instant} {t : LockTable} {id : String} {k : OwnerKey} {lock : Lock}
  {keys : List OwnerKey} {model : Model}

/-- A lock stands for the id, and it has ended. -/
def Lapsed (t : LockTable) (now : Instant) (id : String) : Prop :=
  ∃ lock, t.locks.get? id = some lock ∧ lock.deadline ≤ now

theorem isLocked_iff :
    t.isLocked now id = true ↔ ∃ lock, t.locks.get? id = some lock ∧ now < lock.deadline := by
  simp only [isLocked, Option.isSome_iff_exists, live?_eq_some_iff]

/-- Breaking a lock finds one that is live or one that has ended. -/
theorem revoke_eq_true_iff (now : Instant) :
    (t.revoke id).1 = true ↔ t.isLocked now id = true ∨ t.Lapsed now id := by
  rw [isLocked_iff, Lapsed, revoke, Keyed.contains, Option.isSome_iff_exists]
  constructor
  · rintro ⟨lock, hget⟩
    by_cases hlive : now < lock.deadline
    · exact Or.inl ⟨lock, hget, hlive⟩
    · exact Or.inr ⟨lock, hget, Nat.not_lt.1 hlive⟩
  · rintro (⟨lock, hget, -⟩ | ⟨lock, hget, -⟩) <;> exact ⟨lock, hget⟩

theorem Lapsed.not_isLocked (h : t.Lapsed now id) : ¬ t.isLocked now id = true := by
  obtain ⟨lock, hget, hended⟩ := h
  rw [isLocked_iff]
  rintro ⟨same, hsame, hlive⟩
  cases hget.symm.trans hsame
  exact Nat.not_lt.2 hended hlive

theorem revoke_eq_isLocked_iff :
    ((t.revoke id).1 = true ↔ t.isLocked now id = true) ↔ ¬ t.Lapsed now id := by
  rw [revoke_eq_true_iff now]
  constructor
  · intro htrue hlapsed
    exact hlapsed.not_isLocked (htrue.1 (Or.inr hlapsed))
  · intro hnone
    exact or_iff_left hnone

/-- A release of the key alone is refused, and the reason is that the lock has ended. -/
def Expired (t : LockTable) (now : Instant) (k : OwnerKey) : Prop :=
  (t.release now ⟨[k], .flexible⟩).1.failed = [⟨k.id, "Reservation expired"⟩]

/-- That a lock has ended is said before its key is looked at. -/
theorem expired_iff : t.Expired now k ↔ t.Lapsed now k.id := by
  rw [Expired, release, treat_failed, Lapsed, List.filterMap_cons, List.filterMap_nil]
  unfold refusal?
  cases t.locks.get? k.id with
  | none => simp
  | some lock =>
    by_cases hlive : now < lock.deadline
    · by_cases hkey : lock.key = k.key <;> simp [Live, hlive, Nat.not_le.2 hlive, hkey]
    · simp [Live, hlive, Nat.not_lt.1 hlive]

/-- Right after a request for locks that last no lock stands that has ended. -/
theorem not_lapsed_create {r : CreateRequest} (hlasts : 0 < r.duration) :
    ¬ (t.create issuer now r).2.Lapsed now id := by
  rintro ⟨lock, hget, hended⟩
  apply Nat.not_lt.2 hended
  have hgrants := create_grants issuer now r t
  by_cases hid : id ∈ (t.create issuer now r).1.granted.map Lease.id
  · obtain ⟨l, hl, rfl⟩ := List.mem_map.1 hid
    cases (hgrants.locked l hl).symm.trans hget
    exact Nat.lt_add_of_pos_right hlasts
  · rw [hgrants.others id hid, get?_purge] at hget
    exact (live?_eq_some_iff.1 hget).2

/-- A lock that stands after a request about held locks has the key of the one that stood before. -/
theorem exists_lock_of_treat {f : OwnerKey → LockTable → LockTable}
    {after : OwnerKey → Option Lock} (hf : Treats f after)
    (h : (treat f now model keys t).2.locks.get? id = some lock) :
    ∃ before, t.locks.get? id = some before ∧ before.key = lock.key := by
  by_cases hsent : t.Accepts now model keys ∧
      ∃ live, t.live? now id = some live ∧ ⟨id, live.key⟩ ∈ keys
  · obtain ⟨ha, live, hlive, hmem⟩ := hsent
    rw [get?_treat_of_mem hf ha hmem ⟨live, hlive, rfl⟩] at h
    exact ⟨live, (live?_eq_some_iff.1 hlive).1, (hf.key _ _ h).symm⟩
  · by_cases ha : t.Accepts now model keys
    · rw [get?_treat_of_not_mem hf fun live hlive hmem => hsent ⟨ha, live, hlive, hmem⟩] at h
      exact ⟨lock, h, rfl⟩
    · rw [treat_of_not_accepts ha] at h
      exact ⟨lock, h, rfl⟩

end LockTable

/-! ## Runs -/

namespace History

variable {s s' : History τ} {began : Instant} {id : String}

/-- Every lock that stands was granted, under its key. -/
def Sourced (s : History τ) : Prop :=
  ∀ id lock, s.table.locks.get? id = some lock → ∃ l ∈ s.granted, l.id = id ∧ l.key = lock.key

theorem Sourced.step (h : Sourced s) (hstep : Step issuer s s') : Sourced s' := by
  intro id lock hget
  cases hstep with
  | create r =>
    have hgrants := LockTable.create_grants issuer s.now r s.table
    by_cases hid : id ∈ (s.table.create issuer s.now r).1.granted.map Lease.id
    · obtain ⟨l, hl, rfl⟩ := List.mem_map.1 hid
      cases (hgrants.locked l hl).symm.trans hget
      exact ⟨l, List.mem_append_right _ hl, rfl, rfl⟩
    · rw [hgrants.others id hid, LockTable.get?_purge] at hget
      obtain ⟨l, hl, hsource⟩ := h id lock (LockTable.live?_eq_some_iff.1 hget).1
      exact ⟨l, List.mem_append_left _ hl, hsource⟩
  | renew =>
    obtain ⟨before, hbefore, hkey⟩ :=
      LockTable.exists_lock_of_treat (LockTable.treats_setDeadline _) hget
    rw [← hkey]
    exact h id before hbefore
  | release =>
    obtain ⟨before, hbefore, hkey⟩ := LockTable.exists_lock_of_treat LockTable.treats_remove hget
    rw [← hkey]
    exact h id before hbefore
  | revoke other =>
    dsimp only [LockTable.revoke] at hget
    rw [Keyed.get?_erase] at hget
    split at hget
    · cases hget
    · exact h id lock hget
  | wait => exact h id lock hget

theorem sourced_of_continues (hrun : Continues issuer (start began) s) : Sourced s := by
  induction hrun with
  | refl =>
    intro id lock hget
    cases hget
  | tail _ hstep ih => exact ih.step hstep

/-- In a run, the locks that have ended and still stand are those of keys that were granted and are
refused as expired. -/
theorem lapsed_iff (hrun : Continues issuer (start began) s) :
    s.table.Lapsed s.now id ↔
      ∃ l ∈ s.granted, l.id = id ∧ s.table.Expired s.now l.ownerKey := by
  constructor
  · intro hlapsed
    have ⟨lock, hget, _⟩ := hlapsed
    obtain ⟨l, hl, rfl, -⟩ := sourced_of_continues hrun id lock hget
    exact ⟨l, hl, rfl, LockTable.expired_iff.2 hlapsed⟩
  · rintro ⟨l, -, rfl, hexpired⟩
    exact LockTable.expired_iff.1 hexpired

/-- Breaking the lock of an id reports that one was held where the id is locked, and also where a
key that was granted for it is refused as expired. So the report is true if and only if no key of
the id is refused so; and it is true of every id right after a request for locks that last. -/
theorem revoke_truthful_iff (hrun : Continues issuer (start began) s) (id : String) :
    ((s.table.revoke id).1 = true ↔ s.table.isLocked s.now id = true ∨
        ∃ l ∈ s.granted, l.id = id ∧ s.table.Expired s.now l.ownerKey) ∧
      (((s.table.revoke id).1 = true ↔ s.table.isLocked s.now id = true) ↔
        ¬ ∃ l ∈ s.granted, l.id = id ∧ s.table.Expired s.now l.ownerKey) ∧
      ∀ r, 0 < r.duration →
        (((s.table.create issuer s.now r).2.revoke id).1 = true ↔
          (s.table.create issuer s.now r).2.isLocked s.now id = true) := by
  rw [← lapsed_iff hrun]
  refine ⟨LockTable.revoke_eq_true_iff s.now, LockTable.revoke_eq_isLocked_iff, fun r hlasts => ?_⟩
  exact LockTable.revoke_eq_isLocked_iff.2 (LockTable.not_lapsed_create hlasts)

/-- The lock of an id has ended. Breaking it reports that one was held, unless another id has been
locked meanwhile. -/
theorem revoke_truthful_iff_lapsed :
    let other : CreateRequest := ⟨["x1"], .rigid, seconds 60⟩
    let later := (lapsed.table.create Issuer.numbered lapsed.now other).2
    (lapsed.table.revoke "x0").1 = true ∧ (later.revoke "x0").1 = false ∧
      ¬ ((lapsed.table.revoke "x0").1 = true ↔ lapsed.table.isLocked lapsed.now "x0" = true) ∧
      ((later.revoke "x0").1 = true ↔ later.isLocked lapsed.now "x0" = true) := by
  intro other later
  have hexpired : ∃ l ∈ lapsed.granted, l.id = "x0" ∧ lapsed.table.Expired lapsed.now l.ownerKey :=
    ⟨⟨"x0", "x0:rk:#1", some "x0:dk:#1", ()⟩, by decide, rfl, rfl⟩
  obtain ⟨hreport, htruth, hafter⟩ := revoke_truthful_iff lapsed_continues "x0"
  exact ⟨hreport.2 (Or.inr hexpired), by decide, fun h => htruth.1 h hexpired,
    hafter other (by decide)⟩

/-- A lock that ended a minute after it was granted is reported as held when it is broken. -/
theorem revoke_reports_lapsed :
    Continues .numbered (start 0) lapsed ∧ (lapsed.table.revoke "x0").1 = true ∧
      lapsed.table.isLocked lapsed.now "x0" = false :=
  ⟨lapsed_continues, by decide, by decide⟩

end History

end Inventory.Reservation
