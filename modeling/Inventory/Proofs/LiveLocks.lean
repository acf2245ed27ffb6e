-- The laws of the lock table: what each request does to the lock of one id.
-- They speak of the lock that stands for an id and of the lock that is live for
-- it, so a proof about a request never opens the request again.
import Mathlib.Logic.Function.Defs
import Inventory.Reservation.LockTable

namespace Inventory.Reservation

/-! ## Keys -/

/-- The issuer writes no key twice. -/
def Issuer.Distinct {τ : Type} (issuer : Issuer τ) : Prop :=
  ∀ id, Function.Injective (issuer.key id)

/-- An issuer that writes the number of the lease at the end of its keys. -/
def Issuer.numbered : Issuer Unit :=
  ⟨fun id n => id ++ ":rk:#" ++ toString n, fun id n => id ++ ":dk:#" ++ toString n, fun _ => ()⟩

theorem Issuer.numbered_distinct : Issuer.numbered.Distinct := by
  intro id m n h
  simp only [numbered, String.append_right_inj] at h
  have hnumber := congrArg (fun s => Nat.ofDigitChars 10 s.toList 0) h
  simpa using hnumber

namespace LockTable

variable {τ : Type} {now later deadline : Instant} {t t' : LockTable} {id : String} {lock : Lock}
  {k : OwnerKey} {keys : List OwnerKey} {model : Model}

/-! ## Live locks -/

theorem live?_eq_some_iff :
    t.live? now id = some lock ↔ t.locks.get? id = some lock ∧ now < lock.deadline := by
  simp [live?, Option.filter_eq_some_iff, Live]

theorem live?_congr (h : t'.locks.get? id = t.locks.get? id) : t'.live? now id = t.live? now id := by
  unfold live?
  rw [h]

/-- A live lock stays live until its deadline. -/
theorem live?_until (h : t.live? now id = some lock) (hl : later < lock.deadline) :
    t.live? later id = some lock :=
  live?_eq_some_iff.2 ⟨(live?_eq_some_iff.1 h).1, hl⟩

theorem isLocked_of_live? (h : t.live? now id = some lock) : t.isLocked now id = true := by
  simp [isLocked, h]

/-- The key owns the lock that is live for its id. -/
def Owns (t : LockTable) (now : Instant) (k : OwnerKey) : Prop :=
  ∃ lock, t.live? now k.id = some lock ∧ lock.key = k.key

theorem Owns.congr (h : t'.live? now k.id = t.live? now k.id) : t'.Owns now k ↔ t.Owns now k := by
  unfold Owns
  rw [h]

/-- Of two keys for one id, at most one owns its lock. -/
theorem Owns.key_unique {a b : String} (ha : t.Owns now ⟨id, a⟩) (hb : t.Owns now ⟨id, b⟩) :
    a = b := by
  obtain ⟨la, hla, rfl⟩ := ha
  obtain ⟨lb, hlb, rfl⟩ := hb
  rw [Option.some.inj (hla.symm.trans hlb)]

theorem owns_iff :
    t.Owns now k ↔ ∃ lock, t.locks.get? k.id = some lock ∧ now < lock.deadline ∧
      lock.key = k.key := by
  simp [Owns, live?_eq_some_iff, and_assoc]

theorem refusal?_eq_none_iff : t.refusal? now k = none ↔ t.Owns now k := by
  rw [owns_iff]
  unfold refusal?
  cases t.locks.get? k.id with
  | none => simp
  | some lock =>
    by_cases hl : now < lock.deadline
    · by_cases hk : lock.key = k.key <;> simp [Live, hl, hk]
    · simp [Live, hl]

instance : Decidable (t.Owns now k) := decidable_of_iff _ refusal?_eq_none_iff

theorem refusal?_id {r : Refusal} (h : t.refusal? now k = some r) : r.id = k.id := by
  unfold refusal? at h
  split at h
  · cases h; rfl
  · split at h
    · cases h; rfl
    · split at h <;> cases h
      rfl

theorem exists_refusal (h : ¬ t.Owns now k) : ∃ r, t.refusal? now k = some r ∧ r.id = k.id := by
  rw [← refusal?_eq_none_iff] at h
  obtain ⟨r, hr⟩ := Option.ne_none_iff_exists'.1 h
  exact ⟨r, hr, refusal?_id hr⟩

/-- The refused ids of a request are those with a key that owns no live lock. -/
theorem mem_refusals_id_iff :
    id ∈ (keys.filterMap (t.refusal? now)).map Refusal.id ↔
      ∃ key, ⟨id, key⟩ ∈ keys ∧ ¬ t.Owns now ⟨id, key⟩ := by
  simp only [List.mem_map, List.mem_filterMap]
  constructor
  · rintro ⟨r, ⟨⟨kid, key⟩, hk, hr⟩, rfl⟩
    have hid : r.id = kid := refusal?_id hr
    subst hid
    exact ⟨key, hk, fun ho => by rw [refusal?_eq_none_iff.2 ho] at hr; cases hr⟩
  · rintro ⟨key, hk, ho⟩
    obtain ⟨r, hr, hid⟩ := exists_refusal ho
    exact ⟨r, ⟨_, hk, hr⟩, hid⟩

theorem refusals_eq_nil_iff :
    keys.filterMap (t.refusal? now) = [] ↔ ∀ k ∈ keys, t.Owns now k := by
  simp [List.filterMap_eq_nil_iff, refusal?_eq_none_iff]

/-! ## Requests about held locks -/

section Treat

/-- What treating a key does: the lock of its id becomes `after`, a lock under the same key if
there is one left, and no other lock changes. -/
structure Treats (f : OwnerKey → LockTable → LockTable) (after : OwnerKey → Option Lock) :
    Prop where
  get? : ∀ k t id, (f k t).locks.get? id = if id = k.id then after k else t.locks.get? id
  key : ∀ k lock, after k = some lock → lock.key = k.key
  issued : ∀ k t, (f k t).issued = t.issued

theorem treats_setDeadline (deadline : Instant) :
    Treats (setDeadline deadline) fun k => some ⟨k.key, deadline⟩ where
  get? k t id := by rw [setDeadline, Keyed.get?_insert]
  key k lock h := by rw [← Option.some.inj h]
  issued _ _ := rfl

theorem treats_remove : Treats remove fun _ => none where
  get? k t id := by rw [remove, Keyed.get?_erase]
  key _ _ h := by cases h
  issued _ _ := rfl

variable {f : OwnerKey → LockTable → LockTable} {after : OwnerKey → Option Lock}

theorem Treats.live?_of_ne (hf : Treats f after) (h : id ≠ k.id) :
    (f k t).live? now id = t.live? now id :=
  live?_congr (by rw [hf.get?, if_neg h])

theorem Treats.owns_of_ne (hf : Treats f after) {k' : OwnerKey} (h : k'.id ≠ k.id) :
    (f k t).Owns now k' ↔ t.Owns now k' :=
  Owns.congr (hf.live?_of_ne h)

/-- Only the key that was treated can own what treating leaves. -/
theorem Treats.key_of_owns (hf : Treats f after) {key : String}
    (h : (f k t).Owns now ⟨k.id, key⟩) : key = k.key := by
  obtain ⟨lock, hlock, rfl⟩ := h
  rw [live?_eq_some_iff, hf.get?, if_pos rfl] at hlock
  exact hf.key k lock hlock.1

/-- The lock of an id after a request: what treating leaves of it if its key is among those that
were sent, and the lock itself if not. -/
theorem get?_applyKeys (hf : Treats f after) (keys : List OwnerKey) (t : LockTable) (id : String) :
    (applyKeys f now keys t).2.locks.get? id =
      match t.live? now id with
      | some lock => if ⟨id, lock.key⟩ ∈ keys then after ⟨id, lock.key⟩ else t.locks.get? id
      | none => t.locks.get? id := by
  induction keys generalizing t with
  | nil => cases t.live? now id <;> simp [applyKeys]
  | cons k rest ih =>
    unfold applyKeys
    split
    · rename_i r hr
      have hno : ¬ t.Owns now k := fun ho => by rw [refusal?_eq_none_iff.2 ho] at hr; cases hr
      rw [ih t]
      cases hlive : t.live? now id with
      | none => rfl
      | some lock =>
        have hne : (⟨id, lock.key⟩ : OwnerKey) ≠ k := by
          rintro rfl
          exact hno ⟨lock, hlive, rfl⟩
        simp [hne]
    · rename_i hr
      obtain ⟨lock, hlive, hkey⟩ := refusal?_eq_none_iff.1 hr
      simp only [ih (f k t)]
      by_cases hid : id = k.id
      · subst hid
        have hk : (⟨k.id, lock.key⟩ : OwnerKey) = k := by rw [hkey]
        have hget : (f k t).locks.get? k.id = after k := by rw [hf.get?, if_pos rfl]
        simp only [hlive, hk, List.mem_cons_self, if_true]
        cases hafter : (f k t).live? now k.id with
        | none => exact hget
        | some left =>
          -- What is left has the key of `k`, so treating it again changes nothing.
          have hleft : left.key = k.key := hf.key_of_owns ⟨left, hafter, rfl⟩
          simp only [hleft, hget, ite_self]
      · have hne (key : String) : (⟨id, key⟩ : OwnerKey) ≠ k := fun h => hid (by rw [← h])
        rw [hf.live?_of_ne hid, hf.get?, if_neg hid]
        cases t.live? now id <;> simp [hne]

/-- The ids that a request is done for are those with a key that owns a live lock. -/
theorem mem_applyKeys_iff (hf : Treats f after) (keys : List OwnerKey) (t : LockTable)
    (id : String) :
    id ∈ (applyKeys f now keys t).1 ↔ ∃ key, ⟨id, key⟩ ∈ keys ∧ t.Owns now ⟨id, key⟩ := by
  induction keys generalizing t with
  | nil => simp [applyKeys]
  | cons k rest ih =>
    unfold applyKeys
    split
    · rename_i r hr
      have hno : ¬ t.Owns now k := fun ho => by rw [refusal?_eq_none_iff.2 ho] at hr; cases hr
      rw [ih t]
      constructor
      · rintro ⟨key, hmem, ho⟩
        exact ⟨key, List.mem_cons_of_mem _ hmem, ho⟩
      · rintro ⟨key, hmem, ho⟩
        rcases List.mem_cons.1 hmem with rfl | hmem
        · exact absurd ho hno
        · exact ⟨key, hmem, ho⟩
    · rename_i hr
      have hown : t.Owns now k := refusal?_eq_none_iff.1 hr
      simp only [List.mem_cons, ih (f k t)]
      by_cases hid : id = k.id
      · subst hid
        simp only [true_or, true_iff]
        exact ⟨k.key, Or.inl rfl, hown⟩
      · have hne (key : String) : (⟨id, key⟩ : OwnerKey) ≠ k := fun h => hid (by rw [← h])
        have hiff (key : String) : (f k t).Owns now ⟨id, key⟩ ↔ t.Owns now ⟨id, key⟩ :=
          hf.owns_of_ne hid
        simp [hid, hne, hiff]

theorem issued_applyKeys (hf : Treats f after) (keys : List OwnerKey) (t : LockTable) :
    (applyKeys f now keys t).2.issued = t.issued := by
  induction keys generalizing t with
  | nil => rfl
  | cons k rest ih =>
    unfold applyKeys
    split
    · exact ih t
    · rw [ih (f k t), hf.issued]

/-- The table does what the request asks for, at least for some of its keys. -/
def Accepts (t : LockTable) (now : Instant) (model : Model) (keys : List OwnerKey) : Prop :=
  model = .rigid → ∀ k ∈ keys, t.Owns now k

theorem accepts_flexible : t.Accepts now .flexible keys := fun h => by cases h

theorem accepts_rigid_iff : t.Accepts now .rigid keys ↔ ∀ k ∈ keys, t.Owns now k :=
  ⟨fun h => h rfl, fun h _ => h⟩

theorem treat_of_accepts (h : t.Accepts now model keys) :
    treat f now model keys t =
      (⟨(applyKeys f now keys t).1, keys.filterMap (t.refusal? now)⟩,
        (applyKeys f now keys t).2) := by
  unfold treat
  rw [if_neg]
  rintro ⟨hm, hr⟩
  exact hr (refusals_eq_nil_iff.2 (h hm))

/-- A rigid request with a refused key does nothing. -/
theorem treat_of_not_accepts (h : ¬ t.Accepts now model keys) :
    treat f now model keys t = (⟨[], keys.filterMap (t.refusal? now)⟩, t) := by
  unfold treat
  rw [if_pos]
  unfold Accepts at h
  rw [Classical.not_imp] at h
  exact ⟨h.1, fun hr => h.2 (refusals_eq_nil_iff.1 hr)⟩

theorem treat_failed :
    (treat f now model keys t).1.failed = keys.filterMap (t.refusal? now) := by
  by_cases h : t.Accepts now model keys
  · rw [treat_of_accepts h]
  · rw [treat_of_not_accepts h]

theorem get?_treat_of_mem (hf : Treats f after) (h : t.Accepts now model keys) (hk : k ∈ keys)
    (ho : t.Owns now k) : (treat f now model keys t).2.locks.get? k.id = after k := by
  obtain ⟨lock, hlive, hkey⟩ := ho
  have hself : (⟨k.id, lock.key⟩ : OwnerKey) = k := by rw [hkey]
  simp only [treat_of_accepts h, get?_applyKeys hf, hlive, hself, hk, if_true]

/-- A lock whose key was not sent stays what it is. -/
theorem get?_treat_of_not_mem (hf : Treats f after)
    (h : ∀ lock, t.live? now id = some lock → ⟨id, lock.key⟩ ∉ keys) :
    (treat f now model keys t).2.locks.get? id = t.locks.get? id := by
  by_cases ha : t.Accepts now model keys
  · rw [treat_of_accepts ha, get?_applyKeys hf]
    cases hlive : t.live? now id with
    | none => rfl
    | some lock => simp [h lock hlive]
  · rw [treat_of_not_accepts ha]

theorem mem_treat_succeeded_iff (hf : Treats f after) (h : t.Accepts now model keys) :
    id ∈ (treat f now model keys t).1.succeeded ↔
      ∃ key, ⟨id, key⟩ ∈ keys ∧ t.Owns now ⟨id, key⟩ := by
  rw [treat_of_accepts h]
  exact mem_applyKeys_iff hf keys t id

theorem issued_treat (hf : Treats f after) : (treat f now model keys t).2.issued = t.issued := by
  by_cases h : t.Accepts now model keys
  · rw [treat_of_accepts h, issued_applyKeys hf]
  · rw [treat_of_not_accepts h]

end Treat

/-- After a release every key owns what it owned before, but for the keys that were released. -/
theorem owns_release_iff :
    (t.release now ⟨keys, model⟩).2.Owns now k ↔
      t.Owns now k ∧ ¬ (t.Accepts now model keys ∧ k ∈ keys) := by
  unfold release
  by_cases ha : t.Accepts now model keys
  · simp only [ha, true_and]
    constructor
    · intro hafter
      -- A released lock is gone, so the lock that is left has a key that was not sent.
      have hsame : ∀ lock, t.live? now k.id = some lock → ⟨k.id, lock.key⟩ ∉ keys := by
        intro lock hlive hmem
        have hgone := get?_treat_of_mem treats_remove ha hmem ⟨lock, hlive, rfl⟩
        obtain ⟨left, hleft, _⟩ := hafter
        rw [live?_eq_some_iff, hgone] at hleft
        cases hleft.1
      have ho := (Owns.congr (live?_congr (get?_treat_of_not_mem treats_remove hsame))).1 hafter
      refine ⟨ho, ?_⟩
      obtain ⟨lock, hlive, hkey⟩ := ho
      have hself : (⟨k.id, lock.key⟩ : OwnerKey) = k := by rw [hkey]
      exact hself ▸ hsame lock hlive
    · rintro ⟨ho, hnot⟩
      refine (Owns.congr (live?_congr (get?_treat_of_not_mem treats_remove ?_))).2 ho
      intro lock hlive hmem
      have hkey : lock.key = k.key := Owns.key_unique ⟨lock, hlive, rfl⟩ ho
      rw [hkey] at hmem
      exact hnot hmem
  · simp [treat_of_not_accepts ha, ha]

/-! ## Requests for new locks -/

/-- The key was given out for the id, later than the first `n` leases. -/
def IssuedAfter (issuer : Issuer τ) (n : Nat) (t : LockTable) (k : OwnerKey) : Prop :=
  ∃ i, n < i ∧ i ≤ t.issued ∧ k.key = issuer.key k.id i

/-- What granting locks to some of the ids does. -/
structure Grants (issuer : Issuer τ) (deadline : Instant) (ids : List String) (t : LockTable)
    (leases : List (Lease τ)) (t' : LockTable) : Prop where
  locked : ∀ l ∈ leases, t'.locks.get? l.id = some ⟨l.key, deadline⟩
  free : ∀ l ∈ leases, t.locks.get? l.id = none
  asked : ∀ l ∈ leases, l.id ∈ ids
  distinct : (leases.map Lease.id).Nodup
  others : ∀ id, id ∉ leases.map Lease.id → t'.locks.get? id = t.locks.get? id
  fresh : ∀ l ∈ leases, IssuedAfter issuer t.issued t' l.ownerKey
  issued : t.issued ≤ t'.issued

variable {issuer : Issuer τ} {ids : List String} {leases : List (Lease τ)}

theorem grants_nil : Grants issuer deadline ids t [] t := by
  constructor <;> simp

theorem Grants.skip (g : Grants issuer deadline ids t leases t') :
    Grants issuer deadline (id :: ids) t leases t' :=
  { g with asked := fun l hl => List.mem_cons_of_mem _ (g.asked l hl) }

/-- A lock is granted to one id, and then to some of the others. -/
theorem Grants.cons {l : Lease τ} (hfree : t.locks.get? l.id = none)
    (hkey : l.key = issuer.key l.id (t.issued + 1))
    (g : Grants issuer deadline ids ⟨t.locks.insert l.id ⟨l.key, deadline⟩, t.issued + 1⟩ leases t') :
    Grants issuer deadline (l.id :: ids) t (l :: leases) t' := by
  have hget (other : String) : (t.locks.insert l.id ⟨l.key, deadline⟩).get? other =
      if other = l.id then some ⟨l.key, deadline⟩ else t.locks.get? other :=
    Keyed.get?_insert ..
  -- The rest of the request finds the id locked, so it is not granted again.
  have hne : ∀ m ∈ leases, m.id ≠ l.id := by
    intro m hm he
    have := g.free m hm
    simp [hget, he] at this
  have hnew : l.id ∉ leases.map Lease.id := by
    rw [List.mem_map]
    rintro ⟨m, hm, he⟩
    exact hne m hm he
  have hissued : t.issued + 1 ≤ t'.issued := g.issued
  refine ⟨?_, ?_, ?_, ?_, ?_, ?_, ?_⟩
  · rw [List.forall_mem_cons]
    refine ⟨?_, g.locked⟩
    rw [g.others _ hnew, hget, if_pos rfl]
  · rw [List.forall_mem_cons]
    refine ⟨hfree, fun m hm => ?_⟩
    have := g.free m hm
    rwa [hget, if_neg (hne m hm)] at this
  · rw [List.forall_mem_cons]
    exact ⟨List.mem_cons_self, fun m hm => List.mem_cons_of_mem _ (g.asked m hm)⟩
  · rw [List.map_cons, List.nodup_cons]
    exact ⟨hnew, g.distinct⟩
  · intro other ho
    rw [List.map_cons, List.mem_cons, not_or] at ho
    rw [g.others other ho.2, hget, if_neg ho.1]
  · rw [List.forall_mem_cons]
    refine ⟨⟨t.issued + 1, by omega, hissued, hkey⟩, fun m hm => ?_⟩
    obtain ⟨i, h₁, h₂, h₃⟩ := g.fresh m hm
    exact ⟨i, Nat.lt_of_succ_lt h₁, h₂, h₃⟩
  · omega

theorem grantAll_grants (issuer : Issuer τ) (deadline : Instant) (ids : List String)
    (t : LockTable) :
    Grants issuer deadline ids t (grantAll issuer deadline ids t).1
      (grantAll issuer deadline ids t).2 := by
  induction ids generalizing t with
  | nil => exact grants_nil
  | cons id rest ih =>
    unfold grantAll
    split
    · exact (ih t).skip
    · rename_i hc
      have hfree : t.locks.get? id = none := by simpa [Keyed.contains] using hc
      exact Grants.cons (l := ⟨id, issuer.key id (t.issued + 1), _, _⟩) hfree rfl (ih _)

theorem get?_purge : (t.purge now).locks.get? id = t.live? now id := Keyed.get?_filter ..

/-- A request for locks works on the table without its dead locks. -/
theorem create_grants (issuer : Issuer τ) (now : Instant) (r : CreateRequest) (t : LockTable) :
    Grants issuer (now + r.duration) r.ids (t.purge now) (t.create issuer now r).1.granted
      (t.create issuer now r).2 := by
  unfold create
  dsimp only
  split
  · exact grants_nil
  · exact grantAll_grants ..

theorem not_mem_granted (r : CreateRequest) (h : t.live? now id = some lock) :
    id ∉ (t.create issuer now r).1.granted.map Lease.id := by
  rw [List.mem_map]
  rintro ⟨l, hl, rfl⟩
  have := (create_grants issuer now r t).free l hl
  rw [get?_purge, h] at this
  cases this

/-- No request for locks touches a live one. -/
theorem live?_create (r : CreateRequest) (h : t.live? now id = some lock) :
    (t.create issuer now r).2.live? now id = some lock := by
  rw [live?_eq_some_iff, (create_grants issuer now r t).others id (not_mem_granted r h), get?_purge]
  exact ⟨h, (live?_eq_some_iff.1 h).2⟩

/-- Giving new locks back touches no lock that was live before. -/
theorem live?_create_release (r : CreateRequest) (h : t.live? now id = some lock) :
    ((t.create issuer now r).2.release now
      ⟨(t.create issuer now r).1.granted.map Lease.ownerKey, model⟩).2.live? now id =
        some lock := by
  rw [← live?_create r h]
  apply live?_congr
  apply get?_treat_of_not_mem treats_remove
  intro other _ hmem
  obtain ⟨l, hl, he⟩ := List.mem_map.1 hmem
  refine not_mem_granted r h (List.mem_map.2 ⟨l, hl, ?_⟩)
  exact congrArg OwnerKey.id he

end LockTable

end Inventory.Reservation
