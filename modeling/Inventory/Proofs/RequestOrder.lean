-- The order of a request. The table changes the locks that it tests while it goes
-- through a request, yet the order shows in nothing but the order of the answer
-- and the numbers of new leases.
import Mathlib.Data.List.Perm.Basic
import Mathlib.Logic.Equiv.Basic
import Inventory.Proofs.Models

namespace Inventory.Reservation

variable {τ : Type} {issuer : Issuer τ} {now deadline : Instant}

/-- The same answer in another order. -/
structure Grant.Reordered (g g' : Grant τ) : Prop where
  granted : g.granted.Perm g'.granted
  failed : g.failed.Perm g'.failed

structure Outcome.Reordered (o o' : Outcome) : Prop where
  succeeded : o.succeeded.Perm o'.succeeded
  failed : o.failed.Perm o'.failed

/-- An issuer that numbers its leases otherwise. -/
def Issuer.renumbered (issuer : Issuer τ) (rename : Equiv.Perm ℕ) : Issuer τ where
  key id n := issuer.key id (rename n)
  deputy id n := issuer.deputy id (rename n)
  expiration := issuer.expiration

/-- Where the numbers are the same, so is what is written. -/
theorem Issuer.sameFrom_renumbered {n : ℕ} {rename : Equiv.Perm ℕ}
    (h : ∀ i, n < i → rename i = i) : issuer.SameFrom n (issuer.renumbered rename) n where
  key id i hi := congrArg (issuer.key id) (h (n + i) (Nat.lt_add_of_pos_right hi)).symm
  deputy id i hi := congrArg (issuer.deputy id) (h (n + i) (Nat.lt_add_of_pos_right hi)).symm
  expiration _ := rfl

namespace LockTable

variable {t t' : LockTable} {id : String} {ids ids' : List String} {keys keys' : List OwnerKey}
  {model : Model}

/-- Two tables with the same locks that have granted as many leases. -/
structure Same (t t' : LockTable) : Prop where
  locks : SameLocks t t'
  issued : t.issued = t'.issued

theorem Same.refl (t : LockTable) : Same t t := ⟨fun _ => rfl, rfl⟩

theorem Same.trans {t'' : LockTable} (h : Same t t') (h' : Same t' t'') : Same t t'' :=
  ⟨fun id => (h.locks id).trans (h'.locks id), h.issued.trans h'.issued⟩

/-! ## Held locks -/

section Treat

variable {f : OwnerKey → LockTable → LockTable} {after : OwnerKey → Option Lock}

theorem SameLocks.refusal?_eq (h : SameLocks t t') : t.refusal? now = t'.refusal? now := by
  funext k
  unfold refusal?
  rw [h k.id]

theorem SameLocks.accepts_iff (h : SameLocks t t') (hperm : keys.Perm keys') :
    t.Accepts now model keys ↔ t'.Accepts now model keys' := by
  simp only [Accepts, (h.agree now).owns_iff, hperm.mem_iff]

theorem SameLocks.get?_applyKeys (hf : Treats f after) (h : SameLocks t t')
    (hperm : keys.Perm keys') :
    SameLocks (applyKeys f now keys t).2 (applyKeys f now keys' t').2 := by
  intro id
  rw [LockTable.get?_applyKeys hf, LockTable.get?_applyKeys hf, h.agree now id, h id]
  simp only [hperm.mem_iff]

/-- With one key for an id, a request about held locks is done for the same ids in any order, and
leaves the same locks. -/
theorem Same.treat (now : Instant) (model : Model) (hf : Treats f after) (h : Same t t')
    (hperm : keys.Perm keys') (hone : (keys.map OwnerKey.id).Nodup) :
    (LockTable.treat f now model keys t).1.Reordered (LockTable.treat f now model keys' t').1 ∧
      Same (LockTable.treat f now model keys t).2 (LockTable.treat f now model keys' t').2 := by
  have hrefused : (keys.filterMap (t.refusal? now)).Perm (keys'.filterMap (t'.refusal? now)) := by
    rw [h.locks.refusal?_eq]
    exact hperm.filterMap _
  by_cases ha : t.Accepts now model keys
  · have hone' : (keys'.map OwnerKey.id).Nodup := (hperm.map _).nodup_iff.1 hone
    rw [treat_of_accepts ha, treat_of_accepts ((h.locks.accepts_iff hperm).1 ha)]
    refine ⟨⟨?_, hrefused⟩, h.locks.get?_applyKeys hf hperm, ?_⟩
    · dsimp only
      rw [applyKeys_of_distinct hf hone, applyKeys_of_distinct hf hone']
      simp only [(h.locks.agree now).owns_iff]
      exact (hperm.filter _).map _
    · dsimp only
      rw [issued_applyKeys hf, issued_applyKeys hf, h.issued]
  · rw [treat_of_not_accepts ha, treat_of_not_accepts (mt (h.locks.accepts_iff hperm).2 ha)]
    exact ⟨⟨.nil, hrefused⟩, h⟩

end Treat

/-! ## New locks -/

/-- The next lease for an id. -/
def nextLease (issuer : Issuer τ) (deadline : Instant) (t : LockTable) (id : String) : Lease τ :=
  ⟨id, issuer.key id (t.issued + 1), some (issuer.deputy id (t.issued + 1)),
    issuer.expiration deadline⟩

/-- The table with the lock of a new lease. -/
def lockNew (t : LockTable) (deadline : Instant) (l : Lease τ) : LockTable :=
  ⟨t.locks.insert l.id ⟨l.key, deadline⟩, t.issued + 1⟩

theorem issued_lockNew (l : Lease τ) : (t.lockNew deadline l).issued = t.issued + 1 := rfl

theorem contains_lockNew (l : Lease τ) :
    (t.lockNew deadline l).locks.contains id = (id == l.id || t.locks.contains id) := by
  unfold lockNew Keyed.contains
  rw [Keyed.get?_insert]
  by_cases hid : id = l.id <;> simp [hid]

/-- Locks of different ids may be put in in any order. -/
theorem lockNew_comm {l m : Lease τ} (hne : l.id ≠ m.id) :
    Same ((t.lockNew deadline l).lockNew deadline m)
      ((t.lockNew deadline m).lockNew deadline l) := by
  refine ⟨fun id => ?_, rfl⟩
  simp only [lockNew, Keyed.get?_insert]
  by_cases hl : id = l.id
  · simp [hl, hne]
  · simp [hl]

theorem grantAll_of_locked (h : t.locks.contains id = true) :
    grantAll issuer deadline (id :: ids) t = grantAll issuer deadline ids t := by
  rw [grantAll, if_pos h]

theorem grantAll_of_free (h : t.locks.contains id = false) :
    grantAll issuer deadline (id :: ids) t =
      (nextLease issuer deadline t id ::
          (grantAll issuer deadline ids
            (t.lockNew deadline (nextLease issuer deadline t id))).1,
        (grantAll issuer deadline ids
          (t.lockNew deadline (nextLease issuer deadline t id))).2) := by
  rw [grantAll, if_neg (by rw [h]; exact Bool.false_ne_true)]
  rfl

/-- The leases granted differ in their order only, and the tables in nothing. -/
structure SameLeases (out out' : List (Lease τ) × LockTable) : Prop where
  leases : out.1.Perm out'.1
  table : Same out.2 out'.2

namespace SameLeases

variable {out out' out'' : List (Lease τ) × LockTable}

theorem refl (out : List (Lease τ) × LockTable) : SameLeases out out :=
  ⟨.refl out.1, .refl out.2⟩

theorem trans (h : SameLeases out out') (h' : SameLeases out' out'') : SameLeases out out'' :=
  ⟨h.leases.trans h'.leases, h.table.trans h'.table⟩

theorem cons (l : Lease τ) (h : SameLeases out out') :
    SameLeases (l :: out.1, out.2) (l :: out'.1, out'.2) :=
  ⟨h.leases.cons l, h.table⟩

end SameLeases

theorem issued_grantAll (issuer : Issuer τ) (deadline : Instant) (ids : List String)
    (t : LockTable) :
    (grantAll issuer deadline ids t).2.issued =
      t.issued + (grantAll issuer deadline ids t).1.length := by
  induction ids generalizing t with
  | nil => rfl
  | cons id rest ih =>
    cases h : t.locks.contains id with
    | true =>
      rw [grantAll_of_locked h, ih]
    | false =>
      rw [grantAll_of_free h]
      dsimp only
      rw [ih, List.length_cons, issued_lockNew, Nat.add_assoc, Nat.add_comm 1]

/-- After two tables with the same locks the same leases are granted, by issuers that write the
same from there on. -/
theorem Same.grantAll {issuer' : Issuer τ} (h : Same t t')
    (hkeys : issuer.SameFrom t.issued issuer' t'.issued) (deadline : Instant) (ids : List String) :
    SameLeases (grantAll issuer deadline ids t) (grantAll issuer' deadline ids t') := by
  obtain ⟨hleases, hlocks, -⟩ := h.locks.grantAll deadline ids hkeys
  refine ⟨.of_eq hleases, hlocks, ?_⟩
  rw [issued_grantAll, issued_grantAll, hleases, h.issued]

/-- Two free ids that change places get each other's numbers, and the leases after them are the
same. -/
theorem grantAll_swap_of_free {a b : String} (hne : a ≠ b) (ha : t.locks.contains a = false)
    (hb : t.locks.contains b = false) (issuer : Issuer τ) :
    SameLeases (grantAll issuer deadline (a :: b :: ids) t)
      (grantAll (issuer.renumbered (Equiv.swap (t.issued + 1) (t.issued + 2))) deadline
        (b :: a :: ids) t) := by
  have hkeys : issuer.SameFrom (t.issued + 2)
      (issuer.renumbered (Equiv.swap (t.issued + 1) (t.issued + 2))) (t.issued + 2) :=
    Issuer.sameFrom_renumbered fun i hi => Equiv.swap_apply_of_ne_of_ne (by omega) (by omega)
  generalize hother : issuer.renumbered (Equiv.swap (t.issued + 1) (t.issued + 2)) = other
    at hkeys ⊢
  have hfirst : nextLease other deadline t b =
      nextLease issuer deadline (t.lockNew deadline (nextLease issuer deadline t a)) b := by
    subst hother
    simp [nextLease, Issuer.renumbered, lockNew]
  have hsecond : nextLease other deadline (t.lockNew deadline (nextLease other deadline t b)) a =
      nextLease issuer deadline t a := by
    subst hother
    simp [nextLease, Issuer.renumbered, lockNew]
  have hb' : (t.lockNew deadline (nextLease issuer deadline t a)).locks.contains b = false := by
    rw [contains_lockNew, hb]
    simp [nextLease, hne.symm]
  have ha' : (t.lockNew deadline (nextLease other deadline t b)).locks.contains a = false := by
    rw [contains_lockNew, ha]
    simp [nextLease, hne]
  rw [grantAll_of_free ha, grantAll_of_free hb', grantAll_of_free hb, grantAll_of_free ha',
    hsecond, hfirst]
  have hids : (nextLease issuer deadline t a).id ≠
      (nextLease issuer deadline (t.lockNew deadline (nextLease issuer deadline t a)) b).id := hne
  generalize nextLease issuer deadline t a = la at hids ⊢
  generalize nextLease issuer deadline (t.lockNew deadline la) b = lb at hids ⊢
  have hswapped : Same ((t.lockNew deadline la).lockNew deadline lb) _ := lockNew_comm hids
  obtain ⟨hleases, hafter⟩ := hswapped.grantAll hkeys deadline ids
  exact ⟨(List.Perm.swap lb la _).trans ((hleases.cons la).cons lb), hafter⟩

/-- An id that is locked is passed over, so it makes no difference when its turn comes. -/
theorem grantAll_swap_of_locked {a b : String} (ha : t.locks.contains a = true) :
    grantAll issuer deadline (a :: b :: ids) t = grantAll issuer deadline (b :: a :: ids) t := by
  rw [grantAll_of_locked ha]
  cases hb : t.locks.contains b with
  | true => rw [grantAll_of_locked hb, grantAll_of_locked hb, grantAll_of_locked ha]
  | false =>
    have ha' : (t.lockNew deadline (nextLease issuer deadline t b)).locks.contains a = true := by
      rw [contains_lockNew, ha, Bool.or_true]
    rw [grantAll_of_free hb, grantAll_of_free hb, grantAll_of_locked ha']

/-! ## Numbers that change places -/

/-- The numbers that change are among those of so many leases to come. -/
def Renumbers (t : LockTable) (count : ℕ) (rename : Equiv.Perm ℕ) : Prop :=
  ∀ i, rename i ≠ i → t.issued < i ∧ i ≤ t.issued + count

theorem renumbers_refl (t : LockTable) (count : ℕ) : t.Renumbers count (Equiv.refl ℕ) :=
  fun _ hne => absurd rfl hne

/-- The same leases are granted to the one list of ids and to the other, but that their numbers
change places. -/
def GrantsRenumbered (issuer : Issuer τ) (deadline : Instant) (t : LockTable)
    (ids ids' : List String) : Prop :=
  ∃ rename, t.Renumbers ids.length rename ∧
    SameLeases (grantAll issuer deadline ids t)
      (grantAll (issuer.renumbered rename) deadline ids' t)

theorem grantsRenumbered_of_eq
    (h : grantAll issuer deadline ids t = grantAll issuer deadline ids' t) :
    GrantsRenumbered issuer deadline t ids ids' := by
  refine ⟨Equiv.refl ℕ, t.renumbers_refl _, ?_⟩
  rw [h]
  exact .refl _

theorem GrantsRenumbered.cons_of_locked (hlocked : t.locks.contains id = true)
    (h : GrantsRenumbered issuer deadline t ids ids') :
    GrantsRenumbered issuer deadline t (id :: ids) (id :: ids') := by
  obtain ⟨rename, hrename, hsame⟩ := h
  refine ⟨rename, fun i hi => ?_, ?_⟩
  · obtain ⟨hlow, hhigh⟩ := hrename i hi
    exact ⟨hlow, Nat.le_trans hhigh (Nat.add_le_add_left (Nat.le_succ _) _)⟩
  · rw [grantAll_of_locked hlocked, grantAll_of_locked hlocked]
    exact hsame

theorem GrantsRenumbered.cons_of_free (hfree : t.locks.contains id = false)
    (h : GrantsRenumbered issuer deadline (t.lockNew deadline (nextLease issuer deadline t id))
      ids ids') :
    GrantsRenumbered issuer deadline t (id :: ids) (id :: ids') := by
  obtain ⟨rename, hrename, hsame⟩ := h
  -- The number of the first lease is none of those that change.
  have hkept : rename (t.issued + 1) = t.issued + 1 := by
    by_contra hne
    exact absurd (hrename _ hne).1 (Nat.lt_irrefl _)
  have hlease : nextLease (issuer.renumbered rename) deadline t id =
      nextLease issuer deadline t id := by
    simp [nextLease, Issuer.renumbered, hkept]
  refine ⟨rename, fun i hi => ?_, ?_⟩
  · obtain ⟨hlow, hhigh⟩ := hrename i hi
    rw [issued_lockNew] at hlow hhigh
    rw [List.length_cons]
    omega
  · rw [grantAll_of_free hfree, grantAll_of_free hfree, hlease]
    exact hsame.cons (nextLease issuer deadline t id)

theorem grantsRenumbered_swap (issuer : Issuer τ) (deadline : Instant) (t : LockTable)
    (a b : String) (ids : List String) :
    GrantsRenumbered issuer deadline t (a :: b :: ids) (b :: a :: ids) := by
  by_cases hne : a = b
  · exact grantsRenumbered_of_eq (by rw [hne])
  cases ha : t.locks.contains a with
  | true => exact grantsRenumbered_of_eq (grantAll_swap_of_locked ha)
  | false =>
    cases hb : t.locks.contains b with
    | true => exact grantsRenumbered_of_eq (grantAll_swap_of_locked hb).symm
    | false =>
      refine ⟨Equiv.swap (t.issued + 1) (t.issued + 2), fun i hi => ?_,
        grantAll_swap_of_free hne ha hb issuer⟩
      have hmoved : i = t.issued + 1 ∨ i = t.issued + 2 := (Equiv.swap_apply_ne_self_iff.1 hi).2
      rw [List.length_cons, List.length_cons]
      omega

/-- Permuted ids are granted the same leases, but that their numbers change places. The induction is
on the permutation; only its swaps renumber anything. -/
theorem grantsRenumbered_of_perm (hperm : ids.Perm ids') (issuer : Issuer τ)
    (deadline : Instant) (t : LockTable) : GrantsRenumbered issuer deadline t ids ids' := by
  induction hperm generalizing issuer t with
  | nil => exact grantsRenumbered_of_eq rfl
  | cons id _ ih =>
    cases h : t.locks.contains id with
    | true => exact (ih issuer t).cons_of_locked h
    | false => exact (ih issuer _).cons_of_free h
  | swap a b rest => exact grantsRenumbered_swap issuer deadline t b a rest
  | trans hfirst _ ih ih' =>
    obtain ⟨rename, hrename, hsame⟩ := ih issuer t
    obtain ⟨rename', hrename', hsame'⟩ := ih' (issuer.renumbered rename) t
    refine ⟨rename'.trans rename, fun i hi => ?_, hsame.trans hsame'⟩
    by_cases hi' : rename' i = i
    · rw [Equiv.trans_apply, hi'] at hi
      exact hrename i hi
    · rw [hfirst.length_eq]
      exact hrename' i hi'

/-! ## Requests for locks -/

/-- Of different ids those are granted that are free. -/
theorem map_id_grantAll (hone : ids.Nodup) :
    (grantAll issuer deadline ids t).1.map Lease.id = ids.filter (!t.locks.contains ·) := by
  induction ids generalizing t with
  | nil => rfl
  | cons id rest ih =>
    obtain ⟨hnot, hrest⟩ := List.nodup_cons.1 hone
    cases h : t.locks.contains id with
    | true => rw [grantAll_of_locked h, ih hrest, List.filter_cons_of_neg (by rw [h]; simp)]
    | false =>
      rw [grantAll_of_free h, List.map_cons, ih hrest, List.filter_cons_of_pos (by rw [h]; rfl)]
      refine congrArg (id :: ·) (List.filter_congr fun other hother => ?_)
      have hne : other ≠ id := fun he => hnot (he ▸ hother)
      rw [contains_lockNew]
      simp [nextLease, hne]

/-- Two answers to a request for locks that grant the same ids, refuse the same ids and leave the
same ids locked until the same instants. -/
structure SameIds (out out' : Grant τ × LockTable) : Prop where
  granted : (out.1.granted.map Lease.id).Perm (out'.1.granted.map Lease.id)
  failed : out.1.failed.Perm out'.1.failed
  deadlines : ∀ id,
    (out.2.locks.get? id).map Lock.deadline = (out'.2.locks.get? id).map Lock.deadline

theorem taken_perm (hperm : ids.Perm ids') : (t.taken ids).Perm (t.taken ids') :=
  (hperm.filter _).map _

theorem blocked_perm {r : CreateRequest} (hperm : r.ids.Perm ids') :
    t.Blocked now r ↔ t.Blocked now { r with ids := ids' } := by
  simp only [Blocked, hperm.mem_iff]

theorem failed_create {r : CreateRequest} :
    (t.create issuer now r).1.failed = (t.purge now).taken r.ids := by
  by_cases hb : t.Blocked now r
  · rw [create_of_blocked hb]
  · rw [create_of_not_blocked hb]

theorem map_deadline_create {r : CreateRequest} :
    ((t.create issuer now r).2.locks.get? id).map Lock.deadline =
      if id ∈ (t.create issuer now r).1.granted.map Lease.id then some (now + r.duration)
      else (t.live? now id).map Lock.deadline := by
  have hgrants := create_grants issuer now r t
  split
  · rename_i hmem
    obtain ⟨l, hl, rfl⟩ := List.mem_map.1 hmem
    rw [hgrants.locked l hl, Option.map_some]
  · rename_i hmem
    rw [hgrants.others id hmem, get?_purge]

/-- The order of different ids makes no difference to which of them are locked. -/
theorem create_perm_ids {r : CreateRequest} (hone : r.ids.Nodup) (hperm : r.ids.Perm ids') :
    SameIds (t.create issuer now r) (t.create issuer now { r with ids := ids' }) := by
  have hgranted : ((t.create issuer now r).1.granted.map Lease.id).Perm
      ((t.create issuer now { r with ids := ids' }).1.granted.map Lease.id) := by
    by_cases hb : t.Blocked now r
    · rw [create_of_blocked hb, create_of_blocked ((blocked_perm hperm).1 hb)]
    · rw [create_of_not_blocked hb, create_of_not_blocked (mt (blocked_perm hperm).2 hb)]
      dsimp only
      rw [map_id_grantAll hone, map_id_grantAll (hperm.nodup_iff.1 hone)]
      exact hperm.filter _
  refine ⟨hgranted, ?_, fun id => ?_⟩
  · rw [failed_create, failed_create]
    exact taken_perm hperm
  · rw [map_deadline_create, map_deadline_create]
    simp only [hgranted.mem_iff]

/-- The order of the ids makes no difference but to the numbers of the new leases. -/
theorem create_perm {r : CreateRequest} (hperm : r.ids.Perm ids') (issuer : Issuer τ) :
    ∃ rename, t.Renumbers r.ids.length rename ∧
      (t.create issuer now r).1.Reordered
        (t.create (issuer.renumbered rename) now { r with ids := ids' }).1 ∧
      Same (t.create issuer now r).2
        (t.create (issuer.renumbered rename) now { r with ids := ids' }).2 := by
  by_cases hb : t.Blocked now r
  · refine ⟨Equiv.refl ℕ, t.renumbers_refl _, ?_⟩
    rw [create_of_blocked hb, create_of_blocked ((blocked_perm hperm).1 hb)]
    exact ⟨⟨.nil, taken_perm hperm⟩, .refl _⟩
  · obtain ⟨rename, hrename, hleases, hafter⟩ :=
      grantsRenumbered_of_perm hperm issuer (now + r.duration) (t.purge now)
    refine ⟨rename, hrename, ?_⟩
    rw [create_of_not_blocked hb, create_of_not_blocked (mt (blocked_perm hperm).2 hb)]
    exact ⟨⟨hleases, taken_perm hperm⟩, hafter⟩

end LockTable

end Inventory.Reservation
