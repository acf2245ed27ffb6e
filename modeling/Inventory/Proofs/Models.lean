-- The two models of a request, exactly. A rigid request with a member that is
-- refused does nothing; every other request is done for the members that can be
-- had, in their order, and lists the rest as refused.
import Inventory.Proofs.Expiry
import Inventory.Proofs.Rollback

namespace Inventory.Reservation.LockTable

variable {τ : Type} {issuer : Issuer τ} {now deadline : Instant} {t t' : LockTable} {id : String}
  {ids : List String} {k : OwnerKey} {keys : List OwnerKey} {model : Model}

theorem isLocked_eq_false_iff : t.isLocked now id = false ↔ t.live? now id = none := by
  rw [isLocked, Option.isSome_eq_false_iff, Option.isNone_iff_eq_none]

/-! ## New locks -/

/-- The request for locks is all or nothing, and one of its ids is locked. -/
def Blocked (t : LockTable) (now : Instant) (r : CreateRequest) : Prop :=
  r.model = .rigid ∧ ∃ id ∈ r.ids, t.isLocked now id = true

theorem contains_purge : (t.purge now).locks.contains = t.isLocked now := by
  funext id
  rw [Keyed.contains, get?_purge, isLocked]

theorem taken_purge (ids : List String) :
    ((t.purge now).taken ids).map Refusal.id = ids.filter (t.isLocked now) := by
  rw [taken, contains_purge, List.map_map]
  exact List.map_id _

theorem blocked_iff {r : CreateRequest} :
    t.Blocked now r ↔ r.model = .rigid ∧ (t.purge now).taken r.ids ≠ [] := by
  have hnone : (t.purge now).taken r.ids = [] ↔ ∀ id ∈ r.ids, ¬ t.isLocked now id = true := by
    rw [← List.map_eq_nil_iff, taken_purge, List.filter_eq_nil_iff]
  rw [Blocked, ne_eq, hnone]
  simp only [not_forall, not_not, exists_prop]

theorem create_of_blocked {r : CreateRequest} (h : t.Blocked now r) :
    t.create issuer now r = (⟨[], (t.purge now).taken r.ids⟩, t.purge now) := by
  unfold create
  exact if_pos (blocked_iff.1 h)

theorem create_of_not_blocked {r : CreateRequest} (h : ¬ t.Blocked now r) :
    t.create issuer now r =
      (⟨(grantAll issuer (now + r.duration) r.ids (t.purge now)).1, (t.purge now).taken r.ids⟩,
        (grantAll issuer (now + r.duration) r.ids (t.purge now)).2) := by
  unfold create
  exact if_neg fun hb => h (blocked_iff.2 hb)

/-- Each id without a lock is granted one. -/
theorem mem_grantAll (hid : id ∈ ids) (hfree : t.locks.get? id = none) :
    id ∈ (grantAll issuer deadline ids t).1.map Lease.id := by
  induction ids generalizing t with
  | nil => cases hid
  | cons other rest ih =>
    unfold grantAll
    split
    · rename_i hlocked
      rcases List.mem_cons.1 hid with rfl | hid
      · rw [Keyed.contains, hfree] at hlocked
        cases hlocked
      · exact ih hid hfree
    · rw [List.map_cons, List.mem_cons]
      by_cases hne : id = other
      · exact Or.inl hne
      · refine Or.inr (ih ((List.mem_cons.1 hid).resolve_left hne) ?_)
        rw [Keyed.get?_insert, if_neg hne, hfree]

/-- What a request for locks does when it is not blocked: every id that is free is locked once, and
every mention of an id that is locked is refused. -/
structure GrantsFree (now : Instant) (r : CreateRequest) (t : LockTable)
    (out : Grant τ × LockTable) : Prop where
  once : (out.1.granted.map Lease.id).Nodup
  free : ∀ id, id ∈ out.1.granted.map Lease.id ↔ id ∈ r.ids ∧ t.isLocked now id = false
  refused : out.1.failed.map Refusal.id = r.ids.filter (t.isLocked now)
  locks : ∀ id lock, out.2.live? now id = some lock ↔
    t.live? now id = some lock ∨
      ∃ l ∈ out.1.granted, l.id = id ∧ lock = ⟨l.key, now + r.duration⟩

theorem live?_granted {r : CreateRequest} {l : Lease τ} (hd : 0 < r.duration)
    (hl : l ∈ (t.create issuer now r).1.granted) :
    (t.create issuer now r).2.live? now l.id = some ⟨l.key, now + r.duration⟩ :=
  live?_eq_some_iff.2
    ⟨(create_grants issuer now r t).locked l hl, Nat.lt_add_of_pos_right hd⟩

theorem grantsFree_create {r : CreateRequest} (hd : 0 < r.duration) (h : ¬ t.Blocked now r) :
    GrantsFree now r t (t.create issuer now r) where
  once := (create_grants issuer now r t).distinct
  free id := by
    rw [isLocked_eq_false_iff, ← get?_purge]
    constructor
    · intro hmem
      obtain ⟨l, hl, rfl⟩ := List.mem_map.1 hmem
      exact ⟨(create_grants issuer now r t).asked l hl, (create_grants issuer now r t).free l hl⟩
    · rintro ⟨hid, hfree⟩
      rw [create_of_not_blocked h]
      exact mem_grantAll hid hfree
  refused := by
    rw [create_of_not_blocked h]
    exact taken_purge r.ids
  locks id lock := by
    by_cases hid : id ∈ (t.create issuer now r).1.granted.map Lease.id
    · obtain ⟨l, hl, rfl⟩ := List.mem_map.1 hid
      have hnone : t.live? now l.id = none := by
        rw [← get?_purge]
        exact (create_grants issuer now r t).free l hl
      rw [live?_granted hd hl, hnone]
      constructor
      · intro hlock
        exact Or.inr ⟨l, hl, rfl, (Option.some.inj hlock).symm⟩
      · rintro (hlock | ⟨m, hm, hmid, rfl⟩)
        · cases hlock
        · rw [List.inj_on_of_nodup_map (create_grants issuer now r t).distinct hm hl hmid]
    · rw [live?_create_of_not_mem hid]
      refine (or_iff_left ?_).symm
      rintro ⟨l, hl, rfl, -⟩
      exact hid (List.mem_map.2 ⟨l, hl, rfl⟩)

/-! ## Held locks -/

/-- What a request about held locks does when it is accepted: it splits its keys into those that
own a live lock and those that do not, and the locks of the former become `after`. -/
structure Splits (now : Instant) (keys : List OwnerKey) (after : OwnerKey → Option Lock)
    (t : LockTable) (out : Outcome × LockTable) : Prop where
  succeeded : out.1.succeeded = (keys.filter fun k => t.Owns now k).map OwnerKey.id
  refused : out.1.failed.map Refusal.id = (keys.filter fun k => ¬ t.Owns now k).map OwnerKey.id
  treated : ∀ k ∈ keys, k.id ∈ out.1.succeeded → out.2.locks.get? k.id = after k
  others : ∀ id, id ∉ out.1.succeeded → out.2.locks.get? id = t.locks.get? id

section Treat

variable {f : OwnerKey → LockTable → LockTable} {after : OwnerKey → Option Lock}

/-- With one key for an id no key waits for another, so each finds the lock that was there when the
request came. -/
theorem applyKeys_of_distinct (hf : Treats f after) (hone : (keys.map OwnerKey.id).Nodup) :
    (applyKeys f now keys t).1 = (keys.filter fun k => t.Owns now k).map OwnerKey.id := by
  induction keys generalizing t with
  | nil => rfl
  | cons k rest ih =>
    obtain ⟨hnot, hrest⟩ := List.nodup_cons.1 hone
    unfold applyKeys
    by_cases ho : t.Owns now k
    · have hsame : rest.filter (fun k' => (f k t).Owns now k') =
          rest.filter fun k' => t.Owns now k' := by
        refine List.filter_congr fun k' hk' => decide_eq_decide.2 (hf.owns_of_ne ?_)
        exact fun hid => hnot (List.mem_map.2 ⟨k', hk', hid⟩)
      rw [refusal?_eq_none_iff.2 ho]
      dsimp only
      rw [ih hrest, hsame, List.filter_cons, if_pos (decide_eq_true ho), List.map_cons]
    · obtain ⟨refusal, hrefusal, -⟩ := exists_refusal ho
      rw [hrefusal]
      dsimp only
      rw [ih hrest, List.filter_cons, if_neg fun h => ho (of_decide_eq_true h)]

/-- The refused ids are those of the keys that own nothing, in their order. -/
theorem refused_ids (t : LockTable) (now : Instant) (keys : List OwnerKey) :
    (keys.filterMap (t.refusal? now)).map Refusal.id =
      (keys.filter fun k => ¬ t.Owns now k).map OwnerKey.id := by
  rw [List.map_filterMap, ← List.filterMap_eq_map, List.filterMap_filter]
  refine List.filterMap_congr fun k _ => ?_
  rw [refusal?_map_id]
  by_cases ho : t.Owns now k <;> simp [ho]

theorem splits_treat (hf : Treats f after) (hone : (keys.map OwnerKey.id).Nodup)
    (h : t.Accepts now model keys) : Splits now keys after t (treat f now model keys t) where
  succeeded := by
    rw [treat_of_accepts h]
    exact applyKeys_of_distinct hf hone
  refused := by
    rw [treat_failed]
    exact refused_ids t now keys
  treated k hk hdone := by
    obtain ⟨key, hmem, howns⟩ := (mem_treat_succeeded_iff hf h).1 hdone
    have hself : (⟨k.id, key⟩ : OwnerKey) = k := List.inj_on_of_nodup_map hone hmem hk rfl
    exact get?_treat_of_mem hf h hk (hself ▸ howns)
  others id hid := by
    refine get?_treat_of_not_mem hf fun lock hlive hmem => hid ?_
    exact (mem_treat_succeeded_iff hf h).2 ⟨lock.key, hmem, lock, hlive, rfl⟩

end Treat

/-! ## Both models -/

/-- What the models promise for a request for locks: a rigid one with a locked id is granted nothing
and touches no live lock; any other, for some time, locks exactly the ids that are free. -/
structure GrantsExactly (now : Instant) (r : CreateRequest) (t : LockTable)
    (out : Grant τ × LockTable) : Prop where
  blocked : t.Blocked now r → out.1.granted = [] ∧ Agree now t out.2
  granted : 0 < r.duration → ¬ t.Blocked now r → GrantsFree now r t out

/-- What they promise for a request about held locks: a rigid one with a refused key does nothing
and touches no live lock; any other, with one key for an id, is done for exactly the keys that own
a live lock, whose locks become `after`. -/
structure TreatsExactly (now : Instant) (model : Model) (keys : List OwnerKey)
    (after : OwnerKey → Option Lock) (t : LockTable) (out : Outcome × LockTable) : Prop where
  refused : ¬ t.Accepts now model keys → out.1.succeeded = [] ∧ Agree now t out.2
  treated : (keys.map OwnerKey.id).Nodup → t.Accepts now model keys →
    Splits now keys after t out

theorem grantsExactly_create (issuer : Issuer τ) (now : Instant) (r : CreateRequest)
    (t : LockTable) : GrantsExactly now r t (t.create issuer now r) where
  blocked h := by
    rw [create_of_blocked h]
    exact ⟨rfl, agree_purge t now⟩
  granted hd h := grantsFree_create hd h

theorem treatsExactly_treat {f : OwnerKey → LockTable → LockTable}
    {after : OwnerKey → Option Lock} (hf : Treats f after) (now : Instant) (model : Model)
    (keys : List OwnerKey) (t : LockTable) :
    TreatsExactly now model keys after t (treat f now model keys t) where
  refused h := by
    rw [treat_of_not_accepts h]
    exact ⟨rfl, fun _ => rfl⟩
  treated hone h := splits_treat hf hone h

end Inventory.Reservation.LockTable
