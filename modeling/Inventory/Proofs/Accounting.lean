-- Flexible calls account for what they were asked. An id ends up on one side of
-- the answer and not on the other, also when it is asked for twice or when its
-- lease has ended or been revoked; and the client and the table change by just
-- what the answer says.
import Inventory.Proofs.Models
import Inventory.Proofs.Release

namespace Inventory.Reservation

variable {τ : Type} {issuer : Issuer τ} {now : Instant} {c c' : Client τ} {t t' : LockTable}
  {id : String} {ids done failed : List String} {g g' : Gate τ} {w : World τ} {r : Runner τ}

/-- Every id that was asked for is done or failed and not both, no other id is mentioned, and none
is done twice. -/
structure Accounts (ids done failed : List String) : Prop where
  split : ∀ id ∈ ids, id ∈ done ↔ id ∉ failed
  asked : ∀ id, id ∈ done ∨ id ∈ failed → id ∈ ids
  once : done.Nodup

/-- Ids are accounted for when one property of the id decides its side. -/
theorem accounts_of_iff {P : String → Prop} (hdone : ∀ id, id ∈ done ↔ id ∈ ids ∧ P id)
    (hfailed : ∀ id, id ∈ failed ↔ id ∈ ids ∧ ¬ P id) (honce : done.Nodup) :
    Accounts ids done failed where
  split id hid := by
    rw [hdone, hfailed, and_iff_right hid, and_iff_right hid, not_not]
  asked id := by
    rw [hdone, hfailed]
    rintro (h | h) <;> exact h.1
  once := honce

/-! ## Acquiring -/

/-- What a flexible request for leases leaves behind. The client holds what it held and the leases
it was granted, which were free and which it did not hold; and the live locks are those of before
and those of the leases. -/
structure Client.AcquiresFree (c : Client τ) (now : Instant) (ids : List String) (t : LockTable)
    (grant : Grant τ) (c' : Client τ) (t' : LockTable) : Prop where
  accounts : Accounts ids (grant.granted.map Lease.id) (grant.failed.map Refusal.id)
  held : ∀ id ∈ ids, c.holds now id = true →
    heldRefusal id ∈ grant.failed ∧ c'.holdings.get? id = c.holdings.get? id
  free : ∀ l ∈ grant.granted, c.holds now l.id = false ∧ t.isLocked now l.id = false
  gained : ∀ l ∈ grant.granted,
    c'.holdings.get? l.id = some ⟨l, now + c.config.leaseDuration⟩
  kept : ∀ id, id ∉ grant.granted.map Lease.id → c'.holdings.get? id = c.holdings.get? id
  locks : ∀ id lock, t'.live? now id = some lock ↔
    t.live? now id = some lock ∨
      ∃ l ∈ grant.granted, l.id = id ∧ lock = ⟨l.key, now + c.config.leaseDuration⟩

/-- The request that a client makes of the ids that it does not hold. -/
def Client.flexRequest (c : Client τ) (now : Instant) (ids : List String) : CreateRequest :=
  ⟨c.wanted now ids, .flexible, c.config.leaseDuration⟩

/-- Refusals of ids, whatever the reason, are refusals of those ids. -/
theorem map_id_map {refuse : String → Refusal} (h : ∀ id, (refuse id).id = id)
    (ids : List String) : (ids.map refuse).map Refusal.id = ids := by
  rw [List.map_map]
  exact List.map_id'' h ids

/-- An id is granted if nobody has it, be it the client itself or another. -/
theorem Client.acquiresFree {answer : Grant τ}
    (h : LockTable.GrantsFree now (c.flexRequest now ids) t (answer, t')) :
    c.AcquiresFree now ids t
      ⟨answer.granted, answer.failed ++ (ids.filter (c.holds now)).map heldRefusal⟩
      (c.record now answer.granted) t' := by
  have hgranted (id : String) : id ∈ answer.granted.map Lease.id ↔
      id ∈ ids ∧ (c.holds now id = false ∧ t.isLocked now id = false) := by
    rw [h.free, ← and_assoc]
    exact and_congr_left' (mem_wanted_iff.trans (by rw [Bool.not_eq_true]))
  have hfailed (id : String) :
      id ∈ (answer.failed ++ (ids.filter (c.holds now)).map heldRefusal).map Refusal.id ↔
        id ∈ ids ∧ ¬ (c.holds now id = false ∧ t.isLocked now id = false) := by
    rw [List.map_append, map_id_map fun _ => rfl, List.mem_append, h.refused, List.mem_filter,
      List.mem_filter]
    have hwanted : id ∈ (c.flexRequest now ids).ids ↔ id ∈ ids ∧ ¬ c.holds now id = true :=
      mem_wanted_iff
    rw [hwanted]
    cases c.holds now id <;> simp
  have hfree {l : Lease τ} (hl : l ∈ answer.granted) :=
    ((hgranted l.id).1 (List.mem_map.2 ⟨l, hl, rfl⟩)).2
  refine ⟨accounts_of_iff hgranted hfailed h.once, fun id hid hheld => ⟨?_, ?_⟩,
    fun l hl => hfree hl, fun l hl => get?_record_of_distinct h.once hl,
    fun id hid => get?_record_of_not_mem hid, h.locks⟩
  · exact List.mem_append_right _ (List.mem_map_of_mem (List.mem_filter.2 ⟨hid, hheld⟩))
  · refine get?_record_of_not_mem fun hmem => ?_
    rw [((hgranted id).1 hmem).2.1] at hheld
    cases hheld

/-- Where nothing is asked for, nothing is granted. -/
theorem LockTable.grantsFree_nil {r : CreateRequest} (h : r.ids = []) :
    GrantsFree now r t ((⟨[], []⟩ : Grant τ), t) := by
  constructor <;> simp [h]

/-- A flexible request for locks is passed on as it is. -/
theorem Gate.create_flexible_ok {r : CreateRequest} {answer : Grant τ} (hs : g.script = {})
    (hflexible : r.model = .flexible)
    (h : (service issuer now).create r g = (.ok answer, g')) :
    g.table.create issuer now r = (answer, g'.table) := by
  have hsame : ({ r with model := .flexible } : CreateRequest) = r := by rw [← hflexible]
  simp only [service, answerCreate, log, hs] at h
  split at h <;> cases h
  by_cases hrigid : g.faults.ignoreRigid = true <;> simp [hrigid, hsame]

/-- A request for locks fails only while the gate lets none through. -/
theorem Gate.createDown_of_error {r : CreateRequest} {e : Error} (hs : g.script = {})
    (h : (service issuer now).create r g = (.error e, g')) : g.faults.createDown = true := by
  simp only [service, answerCreate, log, hs] at h
  split at h
  · assumption
  · cases h

theorem Client.flexAcquire_acquiresFree {grant : Grant τ} (hs : g.script = {})
    (hlasts : 0 < c.config.leaseDuration)
    (h : c.flexAcquire (Gate.service issuer now) now ids g = (.ok grant, c', g')) :
    c.AcquiresFree now ids g.table grant c' g'.table := by
  cases flexAcquire_flexAcquires h with
  | idle hnone => exact acquiresFree (LockTable.grantsFree_nil hnone)
  | granted hcreate =>
    have hflexible : ¬ g.table.Blocked now (c.flexRequest now ids) := fun hb => by cases hb.1
    have hgrants : LockTable.GrantsFree now (c.flexRequest now ids) g.table
        (g.table.create issuer now (c.flexRequest now ids)) :=
      LockTable.grantsFree_create hlasts hflexible
    rw [Gate.create_flexible_ok (r := c.flexRequest now ids) hs rfl hcreate] at hgrants
    exact acquiresFree hgrants

/-! ## Releasing -/

/-- What a flexible request to release ids leaves behind. The client holds none of them, the locks
under the keys that it counted on are gone, and all the rest is as before. -/
structure Client.ReleasesHeld (c : Client τ) (now : Instant) (ids : List String) (t : LockTable)
    (outcome : Outcome) (c' : Client τ) (t' : LockTable) : Prop where
  accounts : Accounts ids outcome.succeeded (outcome.failed.map Refusal.id)
  succeeded : ∀ id, id ∈ outcome.succeeded ↔
    ∃ key, c.Gives now ids ⟨id, key⟩ ∧ t.Owns now ⟨id, key⟩
  missing : ∀ id ∈ ids, c.holds now id = false → missingRefusal id ∈ outcome.failed
  forgotten : ∀ id ∈ ids, c'.holds now id = false
  gone : ∀ k, c.Gives now ids k → ¬ t'.Owns now k
  kept : ∀ id, id ∉ ids → c'.holdings.get? id = c.holdings.get? id
  locks : ∀ id lock, t'.live? now id = some lock ↔
    t.live? now id = some lock ∧ ¬ c.Gives now ids ⟨id, lock.key⟩

/-- No lock is taken away twice. -/
theorem LockTable.nodup_applyKeys_remove (keys : List OwnerKey) (t : LockTable) :
    (applyKeys remove now keys t).1.Nodup := by
  induction keys generalizing t with
  | nil => exact List.nodup_nil
  | cons k rest ih =>
    unfold applyKeys
    split
    · exact ih t
    · refine List.nodup_cons.2 ⟨?_, ih _⟩
      rw [mem_applyKeys_iff treats_remove]
      rintro ⟨key, -, lock, hlock, -⟩
      rw [live?_eq_some_iff, treats_remove.get?, if_pos rfl] at hlock
      cases hlock.1

/-- The locks that are live after a flexible release. -/
theorem LockTable.live?_release_iff {keys : List OwnerKey} {lock : Lock} :
    (t.release now ⟨keys, .flexible⟩).2.live? now id = some lock ↔
      t.live? now id = some lock ∧ ⟨id, lock.key⟩ ∉ keys := by
  by_cases hsent : ∃ live, t.live? now id = some live ∧ ⟨id, live.key⟩ ∈ keys
  · obtain ⟨live, hlive, hmem⟩ := hsent
    have hgone := get?_treat_of_mem treats_remove accepts_flexible hmem ⟨live, hlive, rfl⟩
    rw [hlive, live?_eq_some_iff, release, hgone]
    constructor
    · rintro ⟨hnone, -⟩
      cases hnone
    · rintro ⟨hsame, hnot⟩
      cases hsame
      exact absurd hmem hnot
  · have hsame : (t.release now ⟨keys, .flexible⟩).2.live? now id = t.live? now id :=
      live?_congr (get?_treat_of_not_mem treats_remove fun live hlive hmem =>
        hsent ⟨live, hlive, hmem⟩)
    rw [hsame]
    exact (and_iff_left_of_imp fun hlive hmem => hsent ⟨lock, hlive, hmem⟩).symm

/-- The client holds an id if it counts on some key for it, and then on no other. -/
theorem Client.gives_unique {a b : String} (ha : c.Gives now ids ⟨id, a⟩)
    (hb : c.Gives now ids ⟨id, b⟩) : a = b := by
  obtain ⟨-, hina⟩ := ha
  obtain ⟨-, hinb⟩ := hb
  obtain ⟨held, hget, -, rfl⟩ := mem_status_iff.1 hina
  obtain ⟨same, hsame, -, rfl⟩ := mem_status_iff.1 hinb
  rw [Option.some.inj (hget.symm.trans hsame)]

theorem Client.exists_gives_iff :
    (∃ key, c.Gives now ids ⟨id, key⟩) ↔ id ∈ ids ∧ c.holds now id = true := by
  rw [holds_iff]
  constructor
  · rintro ⟨key, hid, hstatus⟩
    obtain ⟨held, hget, hlive, -⟩ := mem_status_iff.1 hstatus
    exact ⟨hid, held, hget, hlive⟩
  · rintro ⟨hid, held, hget, hlive⟩
    exact ⟨held.lease.key, hid, mem_status_iff.2 ⟨held, hget, hlive, rfl⟩⟩

/-- The table releases what the client counts on for the ids. -/
def Client.give (c : Client τ) (now : Instant) (ids : List String) (t : LockTable) :
    Outcome × LockTable :=
  t.release now ⟨(c.flexCheck now ids).held.map Lease.ownerKey, .flexible⟩

theorem Client.mem_missing_iff :
    id ∈ (c.flexCheck now ids).missing ↔ id ∈ ids ∧ ¬ c.holds now id = true := by
  simp only [flexCheck, List.mem_filter, Bool.not_eq_true, Bool.not_eq_true']

/-- An id is released if the key that the client counts on owns its lock. -/
theorem Client.mem_give_succeeded_iff (hc : c.InPlace) :
    id ∈ (c.give now ids t).1.succeeded ↔
      ∃ key, c.Gives now ids ⟨id, key⟩ ∧ t.Owns now ⟨id, key⟩ := by
  simp only [gives_iff hc]
  exact LockTable.mem_treat_succeeded_iff LockTable.treats_remove LockTable.accepts_flexible

theorem Client.mem_give_failed_iff (hc : c.InPlace) :
    id ∈ (c.give now ids t).1.failed.map Refusal.id ↔
      ∃ key, c.Gives now ids ⟨id, key⟩ ∧ ¬ t.Owns now ⟨id, key⟩ := by
  simp only [gives_iff hc]
  rw [give, LockTable.release, LockTable.treat_failed, LockTable.mem_refusals_id_iff]

theorem Client.nodup_give_succeeded : (c.give now ids t).1.succeeded.Nodup := by
  rw [give, LockTable.release, LockTable.treat_of_accepts LockTable.accepts_flexible]
  exact LockTable.nodup_applyKeys_remove _ t

/-- The refused ids are those that the client does not hold and those whose lock is not its own. -/
theorem Client.not_given_iff (hc : c.InPlace) :
    id ∈ ((c.give now ids t).1.failed ++
        (c.flexCheck now ids).missing.map missingRefusal).map Refusal.id ↔
      id ∈ ids ∧ ¬ ∃ key, c.Gives now ids ⟨id, key⟩ ∧ t.Owns now ⟨id, key⟩ := by
  rw [List.map_append, map_id_map fun _ => rfl, List.mem_append, mem_give_failed_iff hc,
    mem_missing_iff]
  constructor
  · rintro (⟨key, hkey, hno⟩ | ⟨hid, hno⟩)
    · refine ⟨hkey.1, ?_⟩
      rintro ⟨other, hother, howns⟩
      rw [gives_unique hother hkey] at howns
      exact hno howns
    · refine ⟨hid, ?_⟩
      rintro ⟨key, hkey, -⟩
      exact hno (exists_gives_iff.1 ⟨key, hkey⟩).2
  · rintro ⟨hid, hno⟩
    by_cases hheld : c.holds now id = true
    · obtain ⟨key, hkey⟩ := exists_gives_iff.2 ⟨hid, hheld⟩
      exact Or.inl ⟨key, hkey, fun howns => hno ⟨key, hkey, howns⟩⟩
    · exact Or.inr ⟨hid, hheld⟩

/-- Once the client has forgotten what it held of the ids, it holds none of them. -/
theorem Client.not_holds_forget_held (hc : c.InPlace) (hid : id ∈ ids) :
    (c.forget ((c.flexCheck now ids).held.map Lease.id)).holds now id = false := by
  by_cases hheld : c.holds now id = true
  · exact (not_holds_forget_iff hheld).2 ((mem_held_ids_iff hc).2 ⟨hid, hheld⟩)
  · rw [← Bool.not_eq_true, holds_iff]
    rintro ⟨held, hget, hlive⟩
    rw [get?_forget] at hget
    split at hget
    · cases hget
    · exact hheld (holds_iff.2 ⟨held, hget, hlive⟩)

theorem Client.releasesHeld (hc : c.InPlace) :
    c.ReleasesHeld now ids t
      ⟨(c.give now ids t).1.succeeded,
        (c.give now ids t).1.failed ++ (c.flexCheck now ids).missing.map missingRefusal⟩
      (c.forget ((c.flexCheck now ids).held.map Lease.id)) (c.give now ids t).2 where
  accounts := by
    refine accounts_of_iff (fun id => ?_) (fun id => not_given_iff hc) nodup_give_succeeded
    rw [mem_give_succeeded_iff hc]
    exact (and_iff_right_of_imp fun ⟨_, hkey, _⟩ => hkey.1).symm
  succeeded id := mem_give_succeeded_iff hc
  missing id hid hnot := by
    have hmissing : id ∈ (c.flexCheck now ids).missing :=
      mem_missing_iff.2 ⟨hid, by rw [hnot]; exact Bool.false_ne_true⟩
    exact List.mem_append_right _ (List.mem_map_of_mem hmissing)
  forgotten id hid := not_holds_forget_held hc hid
  gone k hk howns :=
    (LockTable.owns_release_iff.1 howns).2 ⟨LockTable.accepts_flexible, (gives_iff hc).1 hk⟩
  kept id hid := by
    rw [get?_forget, if_neg]
    exact fun hmem => hid ((mem_held_ids_iff hc).1 hmem).1
  locks id lock := by
    rw [give, LockTable.live?_release_iff, gives_iff hc]

theorem Client.flexRelease_releasesHeld {outcome : Outcome} (hs : g.script = {}) (hc : c.InPlace)
    (h : c.flexRelease (Gate.service issuer now) now ids g = (.ok outcome, c', g')) :
    c.ReleasesHeld now ids g.table outcome c' g'.table := by
  have hheld : c.ReleasesHeld now ids g.table _ _ _ := releasesHeld hc
  cases flexRelease_flexReleases h with
  | idle hnone =>
    rw [give, hnone] at hheld
    exact hheld
  | answered hrelease =>
    obtain ⟨rfl, htable⟩ := Gate.release_ok hs hrelease
    rw [htable]
    exact hheld

/-! ## Both calls -/

/-- In every world, whatever has happened to the locks, a flexible call that is answered accounts
for every id: what is granted is all that changes when leases of some duration are asked for, and
what the client counted on for the ids is all that goes when they are released. A call is answered
unless the gate is out of order. -/
theorem flexible_calls_account (h : Reaches (fun _ _ => True) (World.new issuer) w)
    (hr : r ∈ w.runners) (ids : List String) :
    (0 < r.client.config.leaseDuration → ∀ grant c g,
      r.client.flexAcquire (Gate.service w.issuer w.now) w.now ids w.gate = (.ok grant, c, g) →
        r.client.AcquiresFree w.now ids w.gate.table grant c g.table) ∧
    (∀ outcome c g,
      r.client.flexRelease (Gate.service w.issuer w.now) w.now ids w.gate = (.ok outcome, c, g) →
        r.client.ReleasesHeld w.now ids w.gate.table outcome c g.table) ∧
    (∀ e c g,
      r.client.flexAcquire (Gate.service w.issuer w.now) w.now ids w.gate = (.error e, c, g) →
        w.gate.faults.createDown = true) ∧
    ∀ e c g,
      r.client.flexRelease (Gate.service w.issuer w.now) w.now ids w.gate = (.error e, c, g) →
        w.gate.faults.releaseDown = true := by
  have hw := orderly_of_reaches h
  refine ⟨fun hlasts _ _ _ => Client.flexAcquire_acquiresFree hw.script hlasts,
    fun _ _ _ => Client.flexRelease_releasesHeld hw.script (hw.inPlace r hr),
    fun e c g hcall => ?_, fun e c g hcall => ?_⟩
  · cases Client.flexAcquire_flexAcquires hcall with
    | failed hcreate => exact Gate.createDown_of_error hw.script hcreate
  · cases Client.flexRelease_flexReleases hcall with
    | failed hrelease => exact Gate.releaseDown_of_error hw.script hrelease

/-- A client has two leases, and the lock of one has been revoked. It asks for that id, and twice
for another one; and it releases that id, one that it does not hold, and twice its other lease. -/
theorem flexible_calls_account_revoked :
    let service := Gate.service World.revoked.issuer World.revoked.now
    let asked := World.holder.client.flexAcquire service World.revoked.now ["x0", "x2", "x2"]
      World.revoked.gate
    let given := World.holder.client.flexRelease service World.revoked.now
      ["x0", "x1", "x3", "x1"] World.revoked.gate
    let grant : Grant Unit :=
      ⟨[⟨"x2", "x2:rk:#3", some "x2:dk:#3", ()⟩], [Client.heldRefusal "x0"]⟩
    let outcome : Outcome :=
      ⟨["x1"], [⟨"x0", "Reservation not found"⟩, Client.missingRefusal "x3"]⟩
    (asked.1 = .ok grant ∧
      World.holder.client.AcquiresFree World.revoked.now ["x0", "x2", "x2"]
        World.revoked.gate.table grant asked.2.1 asked.2.2.table) ∧
      given.1 = .ok outcome ∧
        World.holder.client.ReleasesHeld World.revoked.now ["x0", "x1", "x3", "x1"]
          World.revoked.gate.table outcome given.2.1 given.2.2.table := by
  intro service asked given grant outcome
  have hasked : asked.1 = .ok grant := rfl
  have hgiven : given.1 = .ok outcome := rfl
  have hmem : World.holder ∈ World.revoked.runners := List.head_mem _
  refine ⟨⟨hasked, ?_⟩, hgiven, ?_⟩
  · exact (flexible_calls_account World.revoked_reaches hmem ["x0", "x2", "x2"]).1 (by decide)
      grant asked.2.1 asked.2.2 (Prod.ext hasked rfl)
  · exact (flexible_calls_account World.revoked_reaches hmem ["x0", "x1", "x3", "x1"]).2.1
      outcome given.2.1 given.2.2 (Prod.ext hgiven rfl)

end Inventory.Reservation
