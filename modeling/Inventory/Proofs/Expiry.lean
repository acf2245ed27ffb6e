-- Dead locks are not seen. Only a request for locks clears them away, yet the
-- table answers every request, and goes on, as a table that drops each lock at
-- its deadline.
import Inventory.Proofs.LiveLocks

namespace Inventory.Reservation

variable {τ : Type} {issuer issuer' : Issuer τ} {now later start : Instant}

/-! ## Tables with the same live locks -/

/-- What two issuers write on the leases after these counts is the same. -/
structure Issuer.SameFrom (issuer : Issuer τ) (n : Nat) (issuer' : Issuer τ) (n' : Nat) :
    Prop where
  key : ∀ id i, 0 < i → issuer.key id (n + i) = issuer'.key id (n' + i)
  deputy : ∀ id i, 0 < i → issuer.deputy id (n + i) = issuer'.deputy id (n' + i)
  expiration : ∀ deadline, issuer.expiration deadline = issuer'.expiration deadline

theorem Issuer.SameFrom.refl (issuer : Issuer τ) (n : Nat) : issuer.SameFrom n issuer n :=
  ⟨fun _ _ _ => rfl, fun _ _ _ => rfl, fun _ => rfl⟩

theorem Issuer.SameFrom.next {n n' : Nat} (h : issuer.SameFrom n issuer' n') :
    issuer.SameFrom (n + 1) issuer' (n' + 1) where
  key id i hi := by
    rw [Nat.add_assoc, Nat.add_assoc]
    exact h.key id (1 + i) (by omega)
  deputy id i hi := by
    rw [Nat.add_assoc, Nat.add_assoc]
    exact h.deputy id (1 + i) (by omega)
  expiration := h.expiration

namespace LockTable

variable {t t' : LockTable}

/-- Two tables have the same live locks. -/
def Agree (now : Instant) (t t' : LockTable) : Prop := ∀ id, t.live? now id = t'.live? now id

theorem live?_later (hle : now ≤ later) (id : String) :
    t.live? later id = (t.live? now id).filter (Live later) := by
  ext lock
  simp only [live?_eq_some_iff, Option.filter_eq_some_iff, Live, decide_eq_true_eq]
  constructor
  · rintro ⟨hget, hlive⟩
    exact ⟨⟨hget, Nat.lt_of_le_of_lt hle hlive⟩, hlive⟩
  · rintro ⟨⟨hget, -⟩, hlive⟩
    exact ⟨hget, hlive⟩

/-- Time takes the same locks from both. -/
theorem Agree.mono (h : Agree now t t') (hle : now ≤ later) : Agree later t t' := by
  intro id
  rw [live?_later hle, live?_later hle, h id]

theorem agree_purge (t : LockTable) (now : Instant) : Agree now t (t.purge now) := by
  intro id
  rw [live?, live?, get?_purge, live?, Option.filter_filter]
  simp

theorem Agree.owns_iff (h : Agree now t t') (k : OwnerKey) : t.Owns now k ↔ t'.Owns now k :=
  Owns.congr (h k.id)

/-! ## Requests about held locks -/

section Treat

variable {f : OwnerKey → LockTable → LockTable} {after : OwnerKey → Option Lock}

theorem refusal?_map_id (k : OwnerKey) :
    (t.refusal? now k).map Refusal.id = if t.Owns now k then none else some k.id := by
  by_cases ho : t.Owns now k
  · rw [if_pos ho, refusal?_eq_none_iff.2 ho, Option.map_none]
  · obtain ⟨r, hr, hid⟩ := exists_refusal ho
    rw [if_neg ho, hr, Option.map_some, hid]

/-- The same ids are refused in the same order; a dead lock only gives another reason. -/
theorem Agree.refused_eq (h : Agree now t t') (keys : List OwnerKey) :
    (keys.filterMap (t.refusal? now)).map Refusal.id =
      (keys.filterMap (t'.refusal? now)).map Refusal.id := by
  simp only [List.map_filterMap, refusal?_map_id, h.owns_iff]

theorem Agree.accepts_iff (h : Agree now t t') (model : Model) (keys : List OwnerKey) :
    t.Accepts now model keys ↔ t'.Accepts now model keys := by
  simp only [Accepts, h.owns_iff]

theorem Agree.treated (hf : Treats f after) (h : Agree now t t') (k : OwnerKey) :
    Agree now (f k t) (f k t') := by
  intro id
  by_cases hid : id = k.id
  · apply live?_congr
    rw [hf.get?, hf.get?, if_pos hid, if_pos hid]
  · rw [hf.live?_of_ne hid, hf.live?_of_ne hid, h id]

theorem Agree.applyKeys (hf : Treats f after) (keys : List OwnerKey) (h : Agree now t t') :
    (applyKeys f now keys t).1 = (applyKeys f now keys t').1 ∧
      Agree now (applyKeys f now keys t).2 (applyKeys f now keys t').2 := by
  induction keys generalizing t t' with
  | nil => exact ⟨rfl, h⟩
  | cons k rest ih =>
    unfold LockTable.applyKeys
    by_cases ho : t.Owns now k
    · rw [refusal?_eq_none_iff.2 ho, refusal?_eq_none_iff.2 ((h.owns_iff k).1 ho)]
      obtain ⟨hdone, hafter⟩ := ih (h.treated hf k)
      exact ⟨congrArg (k.id :: ·) hdone, hafter⟩
    · have ho' : ¬ t'.Owns now k := fun ho' => ho ((h.owns_iff k).2 ho')
      obtain ⟨r, hr, -⟩ := exists_refusal ho
      obtain ⟨r', hr', -⟩ := exists_refusal ho'
      rw [hr, hr']
      exact ih h

theorem Agree.treat (hf : Treats f after) (model : Model) (keys : List OwnerKey)
    (h : Agree now t t') :
    (treat f now model keys t).1.succeeded = (treat f now model keys t').1.succeeded ∧
      Agree now (treat f now model keys t).2 (treat f now model keys t').2 := by
  by_cases ha : t.Accepts now model keys
  · rw [treat_of_accepts ha, treat_of_accepts ((h.accepts_iff model keys).1 ha)]
    exact h.applyKeys hf keys
  · have ha' : ¬ t'.Accepts now model keys := fun ha' => ha ((h.accepts_iff model keys).2 ha')
    rw [treat_of_not_accepts ha, treat_of_not_accepts ha']
    exact ⟨rfl, h⟩

end Treat

/-! ## Requests for new locks -/

/-- Two tables hold the same locks, be they live or dead. -/
def SameLocks (t t' : LockTable) : Prop := ∀ id, t.locks.get? id = t'.locks.get? id

theorem SameLocks.agree (h : SameLocks t t') (now : Instant) : Agree now t t' :=
  fun id => live?_congr (h id)

/-- Once the dead locks are cleared away, only the live ones are left to differ. -/
theorem Agree.purge (h : Agree now t t') : SameLocks (t.purge now) (t'.purge now) := by
  intro id
  rw [get?_purge, get?_purge, h id]

theorem SameLocks.contains_eq (h : SameLocks t t') : t.locks.contains = t'.locks.contains := by
  funext id
  rw [Keyed.contains, Keyed.contains, h id]

theorem SameLocks.grantAll (deadline : Instant) (ids : List String) (h : SameLocks t t')
    (hkeys : issuer.SameFrom t.issued issuer' t'.issued) :
    (grantAll issuer deadline ids t).1 = (grantAll issuer' deadline ids t').1 ∧
      SameLocks (grantAll issuer deadline ids t).2 (grantAll issuer' deadline ids t').2 ∧
      issuer.SameFrom (grantAll issuer deadline ids t).2.issued issuer'
        (grantAll issuer' deadline ids t').2.issued := by
  induction ids generalizing t t' with
  | nil => exact ⟨rfl, h, hkeys⟩
  | cons id rest ih =>
    unfold LockTable.grantAll
    rw [h.contains_eq]
    split
    · exact ih h hkeys
    · dsimp only
      rw [hkeys.key id 1 Nat.one_pos, hkeys.deputy id 1 Nat.one_pos, hkeys.expiration]
      have hnext : SameLocks
          ⟨t.locks.insert id ⟨issuer'.key id (t'.issued + 1), deadline⟩, t.issued + 1⟩
          ⟨t'.locks.insert id ⟨issuer'.key id (t'.issued + 1), deadline⟩, t'.issued + 1⟩ := by
        intro other
        rw [Keyed.get?_insert, Keyed.get?_insert, h other]
      obtain ⟨hleases, hlocks, hafter⟩ := ih hnext hkeys.next
      exact ⟨congrArg _ hleases, hlocks, hafter⟩

/-! ## One request -/

/-- What a client asks the table for. -/
inductive Request
  | create (r : CreateRequest)
  | renew (r : RenewRequest)
  | release (r : ReleaseRequest)
  | isLocked (id : String)

/-- What a client goes by in an answer: the leases, the ids, and not the reasons of refusals. -/
inductive Answer (τ : Type)
  | granted (leases : List (Lease τ)) (failed : List String)
  | treated (succeeded failed : List String)
  | locked (yes : Bool)
deriving DecidableEq

/-- The answer to a request, and the table after it. -/
def serve (issuer : Issuer τ) (now : Instant) : Request → LockTable → Answer τ × LockTable
  | .create r, t =>
    let (grant, t) := t.create issuer now r
    (.granted grant.granted (grant.failed.map Refusal.id), t)
  | .renew r, t =>
    let (outcome, t) := t.renew now r
    (.treated outcome.succeeded (outcome.failed.map Refusal.id), t)
  | .release r, t =>
    let (outcome, t) := t.release now r
    (.treated outcome.succeeded (outcome.failed.map Refusal.id), t)
  | .isLocked id, t => (.locked (t.isLocked now id), t)

/-- The answers of a table that has dropped each lock whose deadline has come, before it looks at
the request and after it. -/
def serveEagerly (issuer : Issuer τ) (now : Instant) (r : Request) (t : LockTable) :
    Answer τ × LockTable :=
  (serve issuer now r (t.purge now)).map id (purge · now)

/-- Two tables that no client can tell apart: they have the same live locks, and they will write
the same keys. -/
structure Alike (issuer issuer' : Issuer τ) (now : Instant) (t t' : LockTable) : Prop where
  agree : Agree now t t'
  keys : issuer.SameFrom t.issued issuer' t'.issued

theorem Alike.mono (h : Alike issuer issuer' now t t') (hle : now ≤ later) :
    Alike issuer issuer' later t t' := ⟨h.agree.mono hle, h.keys⟩

theorem Alike.create (r : CreateRequest) (h : Alike issuer issuer' now t t') :
    (t.create issuer now r).1 = (t'.create issuer' now r).1 ∧
      Alike issuer issuer' now (t.create issuer now r).2 (t'.create issuer' now r).2 := by
  have hlocks := h.agree.purge
  have htaken : (t.purge now).taken r.ids = (t'.purge now).taken r.ids := by
    rw [taken, taken, hlocks.contains_eq]
  unfold LockTable.create
  dsimp only
  rw [htaken]
  split
  · exact ⟨rfl, hlocks.agree now, h.keys⟩
  · obtain ⟨hleases, hafter, hkeys⟩ := hlocks.grantAll (now + r.duration) r.ids h.keys
    exact ⟨congrArg (Grant.mk · _) hleases, hafter.agree now, hkeys⟩

theorem Alike.treat {f : OwnerKey → LockTable → LockTable} {after : OwnerKey → Option Lock}
    (hf : Treats f after) (model : Model) (keys : List OwnerKey)
    (h : Alike issuer issuer' now t t') :
    (LockTable.treat f now model keys t).1.succeeded =
        (LockTable.treat f now model keys t').1.succeeded ∧
      (LockTable.treat f now model keys t).1.failed.map Refusal.id =
        (LockTable.treat f now model keys t').1.failed.map Refusal.id ∧
      Alike issuer issuer' now (LockTable.treat f now model keys t).2
        (LockTable.treat f now model keys t').2 := by
  obtain ⟨hdone, hafter⟩ := h.agree.treat hf model keys
  refine ⟨hdone, ?_, hafter, ?_⟩
  · rw [treat_failed, treat_failed, h.agree.refused_eq]
  · rw [issued_treat hf, issued_treat hf]
    exact h.keys

/-- Tables that no client can tell apart give the same answer, and still cannot be told apart. -/
theorem Alike.serve (r : Request) (h : Alike issuer issuer' now t t') :
    (serve issuer now r t).1 = (serve issuer' now r t').1 ∧
      Alike issuer issuer' now (serve issuer now r t).2 (serve issuer' now r t').2 := by
  cases r with
  | create r =>
    obtain ⟨hgrant, hafter⟩ := h.create r
    simp only [LockTable.serve, hgrant]
    exact ⟨trivial, hafter⟩
  | renew r =>
    obtain ⟨hdone, hfailed, hafter⟩ :=
      h.treat (treats_setDeadline (now + r.duration)) r.model r.keys
    simp only [LockTable.serve, renew, hdone, hfailed]
    exact ⟨trivial, hafter⟩
  | release r =>
    obtain ⟨hdone, hfailed, hafter⟩ := h.treat treats_remove r.model r.keys
    simp only [LockTable.serve, release, hdone, hfailed]
    exact ⟨trivial, hafter⟩
  | isLocked id =>
    refine ⟨?_, h⟩
    rw [LockTable.serve, LockTable.serve, isLocked, isLocked, h.agree id]

/-- It makes no difference to a table that its dead locks are cleared away. -/
theorem Alike.purged (h : Alike issuer issuer' now t t') :
    Alike issuer issuer' now t (t'.purge now) :=
  ⟨fun id => (h.agree id).trans (agree_purge t' now id), h.keys⟩

theorem Alike.serveEagerly (r : Request) (h : Alike issuer issuer' now t t') :
    (LockTable.serve issuer now r t).1 = (serveEagerly issuer' now r t').1 ∧
      Alike issuer issuer' now (LockTable.serve issuer now r t).2
        (LockTable.serveEagerly issuer' now r t').2 := by
  obtain ⟨hanswer, hafter⟩ := h.purged.serve r
  exact ⟨hanswer, hafter.purged⟩

/-! ## Runs -/

variable {step step' : Instant → Request → LockTable → Answer τ × LockTable}
  {requests : List (Instant × Request)}

/-- The answers to requests that come one after the other, each at its instant, and the table
after the last of them. -/
def replay (step : Instant → Request → LockTable → Answer τ × LockTable) :
    List (Instant × Request) → LockTable → List (Answer τ) × LockTable
  | [], t => ([], t)
  | (now, r) :: rest, t =>
    let (answer, t) := step now r t
    let (answers, t) := replay step rest t
    (answer :: answers, t)

/-- The instants at which something happens, from the start on. -/
def instants (start : Instant) (requests : List (Instant × Request)) : List Instant :=
  start :: requests.map Prod.fst

/-- What one request preserves, a run of them does. -/
theorem Alike.replay
    (hstep : ∀ {now t t'} (r : Request), Alike issuer issuer' now t t' →
      (step now r t).1 = (step' now r t').1 ∧
        Alike issuer issuer' now (step now r t).2 (step' now r t').2)
    (hclock : (instants start requests).Pairwise (· ≤ ·)) (h : Alike issuer issuer' start t t') :
    (replay step requests t).1 = (replay step' requests t').1 ∧
      ∀ later, (∀ instant ∈ instants start requests, instant ≤ later) →
        Alike issuer issuer' later (replay step requests t).2 (replay step' requests t').2 := by
  induction requests generalizing start t t' with
  | nil => exact ⟨rfl, fun later hlater => h.mono (hlater start List.mem_cons_self)⟩
  | cons request rest ih =>
    obtain ⟨now, r⟩ := request
    obtain ⟨hstart, hrest⟩ := List.pairwise_cons.1 hclock
    obtain ⟨hanswer, hafter⟩ := hstep r (h.mono (hstart now List.mem_cons_self))
    obtain ⟨hanswers, hend⟩ := ih hrest hafter
    refine ⟨List.cons_eq_cons.2 ⟨hanswer, hanswers⟩, fun later hlater => hend later ?_⟩
    exact fun instant hmem => hlater instant (List.mem_cons_of_mem start hmem)

/-- Two tables with the same live locks, which will write the same keys, give the same answers to
any run of requests, and have the same live locks ever after. So does a table that drops each lock
at its deadline, and what that table still holds is what is live. -/
theorem dead_locks_unseen (hagree : Agree start t t')
    (hkeys : issuer.SameFrom t.issued issuer' t'.issued)
    (hclock : (instants start requests).Pairwise (· ≤ ·)) :
    (replay (serve issuer) requests t).1 = (replay (serve issuer') requests t').1 ∧
      (replay (serve issuer) requests t).1 = (replay (serveEagerly issuer) requests t).1 ∧
      ∀ later, (∀ instant ∈ instants start requests, instant ≤ later) → ∀ id,
        (replay (serve issuer) requests t).2.live? later id =
            (replay (serve issuer') requests t').2.live? later id ∧
          (replay (serve issuer) requests t).2.live? later id =
            ((replay (serveEagerly issuer) requests t).2.purge later).locks.get? id := by
  have hself : Alike issuer issuer start t t := ⟨fun _ => rfl, .refl issuer t.issued⟩
  obtain ⟨hanswers, hend⟩ := Alike.replay Alike.serve hclock ⟨hagree, hkeys⟩
  obtain ⟨heager, hdropped⟩ := Alike.replay Alike.serveEagerly hclock hself
  refine ⟨hanswers, heager, fun later hlater id => ⟨(hend later hlater).agree id, ?_⟩⟩
  rw [get?_purge]
  exact (hdropped later hlater).agree id

/-- The lock of `x0` has just ended and is still in the table; that of `x1` has a minute left. -/
def leftover : LockTable :=
  let t := (LockTable.empty.create Issuer.numbered 0 ⟨["x0"], .rigid, seconds 60⟩).2
  (t.create Issuer.numbered 0 ⟨["x1"], .rigid, seconds 120⟩).2

/-- Requests at the very deadline, some for no time at all and some that name an id twice. -/
def lastMinute : List (Instant × Request) :=
  [(seconds 60,
      .renew ⟨[⟨"x0", "x0:rk:#1"⟩, ⟨"x1", "x1:rk:#2"⟩, ⟨"x1", "x1:rk:#2"⟩], .flexible, 0⟩),
    (seconds 60, .create ⟨["x0", "x0", "x1"], .rigid, 0⟩),
    (seconds 61, .release ⟨[⟨"x0", "x0:rk:#3"⟩, ⟨"x1", "x1:rk:#2"⟩], .flexible⟩),
    (seconds 61, .isLocked "x1")]

/-- A table from which the lock that has ended was cleared away answers alike. -/
theorem dead_locks_unseen_leftover :
    (leftover.locks.contains "x0" = true ∧
        (leftover.purge (seconds 60)).locks.contains "x0" = false) ∧
      (replay (serve .numbered) lastMinute leftover).1 =
        [.treated ["x1"] ["x0"],
          .granted
            [⟨"x0", "x0:rk:#3", some "x0:dk:#3", ()⟩, ⟨"x1", "x1:rk:#4", some "x1:dk:#4", ()⟩] [],
          .treated [] ["x0", "x1"], .locked false] ∧
      (replay (serve .numbered) lastMinute leftover).1 =
        (replay (serve .numbered) lastMinute (leftover.purge (seconds 60))).1 := by
  refine ⟨by decide, by decide, ?_⟩
  exact (dead_locks_unseen (agree_purge leftover (seconds 60)) (.refl .numbered leftover.issued)
    (by decide)).1

end LockTable

end Inventory.Reservation
