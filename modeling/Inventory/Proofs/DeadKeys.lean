-- The life of a key at the table. Whatever is asked of the table, and however
-- much time passes, at most one key for an id is accepted, and a key that was
-- given out and is refused once is refused for good.
import Inventory.Proofs.Exclusion

namespace Inventory.Reservation

variable {τ : Type} {issuer : Issuer τ}

/-! ## Accepted and refused keys -/

namespace LockTable

variable {now later : Instant} {t : LockTable} {k : OwnerKey} {keys : List OwnerKey} {model : Model}

/-- A renewal or a release of the key alone is done. -/
def Honours (t : LockTable) (now : Instant) (k : OwnerKey) : Prop :=
  (∃ model d, k.id ∈ (t.renew now ⟨[k], model, d⟩).1.succeeded) ∨
    ∃ model, k.id ∈ (t.release now ⟨[k], model⟩).1.succeeded

/-- Every renewal and every release refuses the key, whatever else they are asked for. -/
def Refuses (t : LockTable) (now : Instant) (k : OwnerKey) : Prop :=
  ∃ refusal : Refusal, refusal.id = k.id ∧ ∀ keys model, k ∈ keys →
    (∀ d, refusal ∈ (t.renew now ⟨keys, model, d⟩).1.failed) ∧
      refusal ∈ (t.release now ⟨keys, model⟩).1.failed

section Treat

variable {f : OwnerKey → LockTable → LockTable} {after : OwnerKey → Option Lock}

/-- A key for which a request is done alone owns its lock. -/
theorem owns_of_mem_treat (hf : Treats f after)
    (h : k.id ∈ (treat f now model [k] t).1.succeeded) : t.Owns now k := by
  by_cases ha : t.Accepts now model [k]
  · obtain ⟨key, hmem, howns⟩ := (mem_treat_succeeded_iff hf ha).1 h
    rwa [List.mem_singleton.1 hmem] at howns
  · rw [treat_of_not_accepts ha] at h
    cases h

/-- No request about held locks makes a key own a lock. -/
theorem owns_of_owns_treat (hf : Treats f after) (h : (treat f now model keys t).2.Owns now k) :
    t.Owns now k := by
  by_cases hsent : ∃ lock, t.live? now k.id = some lock ∧ ⟨k.id, lock.key⟩ ∈ keys
  · obtain ⟨lock, hlive, hmem⟩ := hsent
    refine ⟨lock, hlive, ?_⟩
    by_cases ha : t.Accepts now model keys
    · -- What a request leaves of a lock still has the key of the lock.
      obtain ⟨left, hleft, hkey⟩ := h
      rw [live?_eq_some_iff, get?_treat_of_mem hf ha hmem ⟨lock, hlive, rfl⟩] at hleft
      rw [← hkey, hf.key _ _ hleft.1]
    · rw [treat_of_not_accepts ha] at h
      obtain ⟨same, hsame, hkey⟩ := h
      rwa [Option.some.inj (hlive.symm.trans hsame)]
  · refine (Owns.congr (live?_congr (get?_treat_of_not_mem hf ?_))).1 h
    intro lock hlive hmem
    exact hsent ⟨lock, hlive, hmem⟩

end Treat

theorem honours_iff : t.Honours now k ↔ t.Owns now k := by
  constructor
  · rintro (⟨model, d, h⟩ | ⟨model, h⟩)
    · exact owns_of_mem_treat (treats_setDeadline _) h
    · exact owns_of_mem_treat treats_remove h
  · intro h
    refine Or.inr ⟨.flexible, ?_⟩
    exact (mem_treat_succeeded_iff treats_remove accepts_flexible).2
      ⟨k.key, List.mem_singleton.2 rfl, h⟩

theorem refuses_iff : t.Refuses now k ↔ ¬ t.Owns now k := by
  constructor
  · rintro ⟨refusal, -, h⟩ howns
    have hfailed := (h [k] .flexible (List.mem_singleton.2 rfl)).2
    rw [release, treat_failed, refusals_eq_nil_iff.2] at hfailed
    · cases hfailed
    · intro other hother
      rwa [List.mem_singleton.1 hother]
  · intro hno
    obtain ⟨refusal, hrefusal, hid⟩ := exists_refusal hno
    refine ⟨refusal, hid, fun keys model hk => ?_⟩
    have hmem : refusal ∈ keys.filterMap (t.refusal? now) :=
      List.mem_filterMap.2 ⟨k, hk, hrefusal⟩
    refine ⟨fun d => ?_, ?_⟩
    · rwa [renew, treat_failed]
    · rwa [release, treat_failed]

/-- Time makes no key own a lock. -/
theorem Owns.earlier (h : t.Owns later k) (hle : now ≤ later) : t.Owns now k := by
  rw [owns_iff] at h ⊢
  obtain ⟨lock, hget, hl, hkey⟩ := h
  exact ⟨lock, hget, Nat.lt_of_le_of_lt hle hl, hkey⟩

/-- Breaking a lock makes no key own one. -/
theorem owns_of_owns_revoke {id : String} (h : (t.revoke id).2.Owns now k) : t.Owns now k := by
  rw [owns_iff] at h ⊢
  obtain ⟨lock, hget, hrest⟩ := h
  unfold revoke at hget
  rw [Keyed.get?_erase] at hget
  split at hget
  · cases hget
  · exact ⟨lock, hget, hrest⟩

/-- A request for locks makes no key own one, but for the keys it gives out. -/
theorem owns_of_owns_create {r : CreateRequest} (h : (t.create issuer now r).2.Owns now k) :
    t.Owns now k ∨ ∃ l ∈ (t.create issuer now r).1.granted, l.ownerKey = k := by
  have hgrants := create_grants issuer now r t
  by_cases hid : k.id ∈ (t.create issuer now r).1.granted.map Lease.id
  · obtain ⟨l, hl, hlid⟩ := List.mem_map.1 hid
    refine Or.inr ⟨l, hl, ?_⟩
    obtain ⟨lock, hget, -, hkey⟩ := owns_iff.1 h
    rw [← hlid, hgrants.locked l hl] at hget
    cases hget
    unfold Lease.ownerKey
    rw [hlid, show l.key = k.key from hkey]
  · refine Or.inl ?_
    obtain ⟨lock, hlive, hkey⟩ := h
    rw [live?_eq_some_iff, hgrants.others _ hid, get?_purge] at hlive
    exact ⟨lock, hlive.1, hkey⟩

end LockTable

/-! ## What the table has been asked for -/

/-- A table in use: the instant, and every lease that it has granted so far. -/
structure History (τ : Type) where
  now : Instant
  table : LockTable
  granted : List (Lease τ)

namespace History

/-- Nothing has been asked for yet. -/
def start (began : Instant) : History τ := ⟨began, LockTable.empty, []⟩

/-- One request, with any model and any duration, a lock that is broken, or time that passes. -/
inductive Step (issuer : Issuer τ) (s : History τ) : History τ → Prop
  | create (r : CreateRequest) :
    Step issuer s ⟨s.now, (s.table.create issuer s.now r).2,
      s.granted ++ (s.table.create issuer s.now r).1.granted⟩
  | renew (r : RenewRequest) : Step issuer s { s with table := (s.table.renew s.now r).2 }
  | release (r : ReleaseRequest) : Step issuer s { s with table := (s.table.release s.now r).2 }
  | revoke (id : String) : Step issuer s { s with table := (s.table.revoke id).2 }
  | wait (d : Duration) : Step issuer s { s with now := s.now + d }

/-- One history is continued by another. -/
def Continues (issuer : Issuer τ) : History τ → History τ → Prop :=
  Relation.ReflTransGen (Step issuer)

variable {s s' : History τ} {k : OwnerKey}

theorem Step.issued_le (h : Step issuer s s') : s.table.issued ≤ s'.table.issued := by
  cases h with
  | create r => exact (LockTable.create_grants issuer s.now r s.table).issued
  | renew =>
    exact Nat.le_of_eq (LockTable.issued_treat (LockTable.treats_setDeadline _)).symm
  | release => exact Nat.le_of_eq (LockTable.issued_treat LockTable.treats_remove).symm
  | revoke => exact Nat.le_refl _
  | wait => exact Nat.le_refl _

/-- The key was given out, and owns no lock any more. -/
def Dead (issuer : Issuer τ) (k : OwnerKey) (s : History τ) : Prop :=
  Issued issuer s.table k ∧ ¬ s.table.Owns s.now k

theorem Dead.step (hd : issuer.Distinct) (h : Dead issuer k s) (hstep : Step issuer s s') :
    Dead issuer k s' := by
  obtain ⟨hissued, hno⟩ := h
  refine ⟨hissued.mono hstep.issued_le, fun howns => hno ?_⟩
  cases hstep with
  | create r =>
    rcases LockTable.owns_of_owns_create howns with hbefore | ⟨l, hl, rfl⟩
    · exact hbefore
    · -- Keys that are given out now are new, so `k` is none of them.
      have hfresh := (LockTable.create_grants issuer s.now r s.table).fresh l hl
      exact absurd hfresh (hissued.not_after hd)
  | renew => exact LockTable.owns_of_owns_treat (LockTable.treats_setDeadline _) howns
  | release => exact LockTable.owns_of_owns_treat LockTable.treats_remove howns
  | revoke => exact LockTable.owns_of_owns_revoke howns
  | wait => exact howns.earlier (Nat.le_add_right ..)

theorem Dead.continues (hd : issuer.Distinct) (h : Dead issuer k s)
    (hrun : Continues issuer s s') : Dead issuer k s' := by
  induction hrun with
  | refl => exact h
  | tail _ hstep ih => exact ih.step hd hstep

/-- Every key that was granted is one of those given out. -/
def Recorded (issuer : Issuer τ) (s : History τ) : Prop :=
  ∀ l ∈ s.granted, Issued issuer s.table l.ownerKey

theorem Recorded.step (h : Recorded issuer s) (hstep : Step issuer s s') :
    Recorded issuer s' := by
  have hle := hstep.issued_le
  cases hstep with
  | create r =>
    intro l hl
    rcases List.mem_append.1 hl with hl | hl
    · exact (h l hl).mono hle
    · obtain ⟨i, -, hi, hkey⟩ := (LockTable.create_grants issuer s.now r s.table).fresh l hl
      exact ⟨i, hi, hkey⟩
  | _ => exact fun l hl => (h l hl).mono hle

theorem recorded_of_continues {began : Instant} (hrun : Continues issuer (start began) s) :
    Recorded issuer s := by
  induction hrun with
  | refl =>
    intro l hl
    cases hl
  | tail _ hstep ih => exact ih.step hstep

/-- At most one of the keys granted for an id is accepted. Locks are granted, at most one for an
id, only where no key is accepted. And a key that was granted and is refused, be it that its lock
has ended, was released or was broken, is refused ever after. -/
theorem dead_key_stays_dead {began : Instant} (hd : issuer.Distinct)
    (hrun : Continues issuer (start began) s) :
    (∀ l ∈ s.granted, ∀ m ∈ s.granted, l.id = m.id → s.table.Honours s.now l.ownerKey →
        s.table.Honours s.now m.ownerKey → l.key = m.key) ∧
      (∀ r, ((s.table.create issuer s.now r).1.granted.map Lease.id).Nodup ∧
        ∀ l ∈ (s.table.create issuer s.now r).1.granted,
          ∀ key, ¬ s.table.Honours s.now ⟨l.id, key⟩) ∧
      ∀ l ∈ s.granted, s.table.Refuses s.now l.ownerKey →
        ∀ s', Continues issuer s s' → s'.table.Refuses s'.now l.ownerKey := by
  refine ⟨?_, ?_, ?_⟩
  · intro l _ m _ hid hl hm
    rw [LockTable.honours_iff] at hl hm
    unfold Lease.ownerKey at hl hm
    rw [← hid] at hm
    exact hl.key_unique hm
  · intro r
    have hgrants := LockTable.create_grants issuer s.now r s.table
    refine ⟨hgrants.distinct, fun l hl key hkey => ?_⟩
    obtain ⟨lock, hlive, -⟩ := LockTable.honours_iff.1 hkey
    have hfree := hgrants.free l hl
    rw [LockTable.get?_purge, hlive] at hfree
    cases hfree
  · intro l hl hrefused s' hafter
    rw [LockTable.refuses_iff] at hrefused ⊢
    have hdead : Dead issuer l.ownerKey s := ⟨recorded_of_continues hrun l hl, hrefused⟩
    exact (hdead.continues hd hafter).2

/-- A lease of one minute was granted a minute ago. -/
def lapsed : History Unit :=
  let answer := LockTable.empty.create Issuer.numbered 0 ⟨["x0"], .rigid, seconds 60⟩
  ⟨seconds 60, answer.2, answer.1.granted⟩

theorem lapsed_continues : Continues .numbered (start 0) lapsed :=
  .tail (.single (.create ⟨["x0"], .rigid, seconds 60⟩)) (.wait (seconds 60))

/-- The lock ends, and its key stays refused when the id is locked again under another key. -/
theorem dead_key_stays_dead_lapsed :
    let again : CreateRequest := ⟨["x0"], .flexible, seconds 60⟩
    let t := (lapsed.table.create Issuer.numbered lapsed.now again).2
    lapsed.table.Refuses (seconds 60) ⟨"x0", "x0:rk:#1"⟩ ∧
      t.Honours (seconds 60) ⟨"x0", "x0:rk:#2"⟩ ∧ t.Refuses (seconds 60) ⟨"x0", "x0:rk:#1"⟩ := by
  intro again t
  have hrefused : lapsed.table.Refuses lapsed.now ⟨"x0", "x0:rk:#1"⟩ :=
    LockTable.refuses_iff.2 (by decide)
  have hl : (⟨"x0", "x0:rk:#1", some "x0:dk:#1", ()⟩ : Lease Unit) ∈ lapsed.granted := by decide
  refine ⟨hrefused, LockTable.honours_iff.2 (by decide), ?_⟩
  exact (dead_key_stays_dead Issuer.numbered_distinct lapsed_continues).2.2 _ hl hrefused _
    (.single (.create again))

end History

end Inventory.Reservation
