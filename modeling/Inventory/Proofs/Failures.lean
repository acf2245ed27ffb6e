-- Calls that fail. Whatever a service answers, an operation that ends in an
-- error leaves its client as it was, but for a release that the service has
-- refused. What a client can refuse by itself it does not ask the service for.
import Inventory.Proofs.Runs

namespace Inventory.Reservation

variable {σ τ : Type} {service : Service σ τ} {now : Instant} {c c' : Client τ} {s s' : σ}
  {ids : List String} {e : Error} {expiration : τ}

/-! ## Requests written down -/

/-- The service, with every request that reaches it written down. -/
def Service.recorded (service : Service σ τ) : Service (σ × List Request) τ where
  create r s := ((service.create r s.1).1, (service.create r s.1).2, s.2 ++ [.create r])
  renew r s := ((service.renew r s.1).1, (service.renew r s.1).2, s.2 ++ [.renew r])
  release r s := ((service.release r s.1).1, (service.release r s.1).2, s.2 ++ [.release r])

namespace Client

/-! ## Acquiring and taking over -/

/-- A client that holds one of the ids refuses to acquire them by itself. -/
theorem acquire_of_holds (hheld : ∃ id ∈ ids, c.holds now id = true) :
    c.acquire service now ids s = (.error (.alreadyHeld (ids.filter (c.holds now))), c, s) := by
  have hsome : ids.filter (c.holds now) ≠ [] := by
    obtain ⟨id, hid, hholds⟩ := hheld
    exact fun hnone => List.filter_eq_nil_iff.1 hnone id hid hholds
  unfold acquire
  exact if_pos hsome

/-- An acquire that ends with ids said to be held either asked nothing or passes on what the
service said. -/
theorem acquire_error (h : c.acquire service now ids s = (.error e, c', s')) :
    c' = c ∧ ∀ held, e = .alreadyHeld held →
      s' = s ∨ (service.create ⟨ids, .rigid, c.config.leaseDuration⟩ s).1 = .error e := by
  cases acquire_acquires h with
  | alreadyHeld => exact ⟨rfl, fun _ _ => Or.inl rfl⟩
  | failed _ hcreate => exact ⟨rfl, fun _ _ => Or.inr (by rw [hcreate])⟩
  | refused =>
    refine ⟨rfl, fun held he => ?_⟩
    cases he

theorem flexAcquire_error (h : c.flexAcquire service now ids s = (.error e, c', s')) : c' = c := by
  cases flexAcquire_flexAcquires h
  rfl

theorem reacquire_error {leases : List (Lease τ)} {model : Model}
    (h : c.reacquire service now leases model s = (.error e, c', s')) : c' = c := by
  unfold reacquire at h
  split at h <;> cases h
  rfl

/-! ## Releasing -/

/-- A client that does not hold one of the ids refuses to release them by itself. -/
theorem release_of_not_holds (hmissing : ∃ id ∈ ids, c.holds now id = false) :
    c.release service now ids s =
      (.error (.alreadyReleased (ids.filter fun id => !c.holds now id)), c, s) := by
  have hsome : ids.filter (fun id => !c.holds now id) ≠ [] := by
    obtain ⟨id, hid, hnot⟩ := hmissing
    exact fun hnone => List.filter_eq_nil_iff.1 hnone id hid (by rw [hnot]; rfl)
  unfold release
  exact if_pos hsome

/-- Only a release that the service has refused makes a client forget what it did not give back. -/
theorem release_error (h : c.release service now ids s = (.error e, c', s'))
    (hrefused : ∀ refusals, e ≠ .rejected refusals) :
    c' = c ∧ ∀ missing, e = .alreadyReleased missing →
      s' = s ∨ (service.release ⟨(c.flexCheck now ids).held.map Lease.ownerKey, .rigid⟩ s).1 =
        .error e := by
  -- How the call ended is matched against the error, so the result is named first.
  generalize hout : c.release service now ids s = out at h
  cases release_releases hout with
  | missing =>
    cases h
    exact ⟨rfl, fun _ _ => Or.inl rfl⟩
  | failed _ hrelease =>
    cases h
    exact ⟨rfl, fun _ _ => Or.inr (by rw [hrelease])⟩
  | @answered answer =>
    have hresult := congrArg Prod.fst h
    by_cases hall : answer.failed = []
    · rw [if_pos hall] at hresult
      cases hresult
    · rw [if_neg hall] at hresult
      exact absurd (Except.error.inj hresult).symm (hrefused answer.failed)

theorem flexRelease_error (h : c.flexRelease service now ids s = (.error e, c', s')) : c' = c := by
  cases flexRelease_flexReleases h
  rfl

/-! ## Renewal -/

/-- A tick at any service: what is due is sent, if anything is, and the answer is settled. -/
def renewDue (service : Service σ τ) (now : Instant) (expiration : τ) (c : Client τ) (s : σ) :
    Client τ × σ :=
  if (c.due now).isEmpty then (c, s)
  else
    let (answer, s) := service.renew (c.renewal (c.due now)) s
    (c.settleRenewal now expiration (c.due now) answer, s)

/-- After a renewal that failed the leases are those that have not ended. -/
theorem settleRenewal_error_iff {sent : List OwnerKey} {id : String} {h : Holding τ} :
    (c.settleRenewal now expiration sent (.error e)).holdings.get? id = some h ↔
      c.holdings.get? id = some h ∧ now < h.deadline := by
  rw [get?_settleRenewal_error, Option.filter_eq_some_iff, Current, decide_eq_true_eq]

theorem renewDue_error {id : String} {h : Holding τ} (hlive : now < h.deadline)
    (herror : (service.renew (c.renewal (c.due now)) s).1 = .error e) :
    (c.renewDue service now expiration s).1.holdings.get? id = some h ↔
      c.holdings.get? id = some h := by
  unfold renewDue
  split
  · exact Iff.rfl
  · dsimp only
    rw [herror, settleRenewal_error_iff]
    exact and_iff_left hlive

end Client

/-- A tick whose renewal need not wait is a tick at the gate. -/
theorem Runner.client_tick (issuer : Issuer τ) (now : Instant) (r : Runner τ) {g : Gate τ}
    (hopen : g.faults.holdRenewals = false) :
    (r.tick issuer now g).1.client =
      (r.client.renewDue (Gate.service issuer now) now
        (issuer.expiration (now + r.client.config.leaseDuration)) g).1 := by
  unfold tick renewDue Client.renewDue
  -- When the next tick comes is no part of what is compared.
  generalize r.followingTick now = next
  by_cases hnone : (r.client.due now).isEmpty = true
  · simp only [hnone, if_true]
  · simp [hnone, Gate.log, hopen, Gate.service, finishRenewal]

/-! ## All operations -/

/-- What the failure of a call does to a client: nothing, but for a release that the service has
refused. Where the client finds by itself that ids are held already, or are not held, it asks the
service for nothing, and no other error says so unless the service gave it. -/
structure FailuresHarmless (service : Service σ τ) (now : Instant) (c : Client τ) (s : σ) :
    Prop where
  acquire : ∀ ids e c' s', c.acquire service now ids s = (.error e, c', s') → c' = c
  flexAcquire : ∀ ids e c' s', c.flexAcquire service now ids s = (.error e, c', s') → c' = c
  flexRelease : ∀ ids e c' s', c.flexRelease service now ids s = (.error e, c', s') → c' = c
  reacquire : ∀ leases model e c' s',
    c.reacquire service now leases model s = (.error e, c', s') → c' = c
  release : ∀ ids e c' s', c.release service now ids s = (.error e, c', s') →
    (∀ refusals, e ≠ .rejected refusals) → c' = c
  held : ∀ ids calls, (∃ id ∈ ids, c.holds now id = true) →
    c.acquire service.recorded now ids (s, calls) =
      (.error (.alreadyHeld (ids.filter (c.holds now))), c, s, calls)
  alreadyHeld : ∀ ids calls held c' s' calls',
    c.acquire service.recorded now ids (s, calls) = (.error (.alreadyHeld held), c', s', calls') →
      calls' = calls ∨
        (service.create ⟨ids, .rigid, c.config.leaseDuration⟩ s).1 = .error (.alreadyHeld held)
  missing : ∀ ids calls, (∃ id ∈ ids, c.holds now id = false) →
    c.release service.recorded now ids (s, calls) =
      (.error (.alreadyReleased (ids.filter fun id => !c.holds now id)), c, s, calls)
  alreadyReleased : ∀ ids calls missing c' s' calls',
    c.release service.recorded now ids (s, calls) =
        (.error (.alreadyReleased missing), c', s', calls') →
      calls' = calls ∨
        (service.release ⟨(c.flexCheck now ids).held.map Lease.ownerKey, .rigid⟩ s).1 =
          .error (.alreadyReleased missing)
  tick : ∀ expiration e, (service.renew (c.renewal (c.due now)) s).1 = .error e →
    ∀ id h, now < h.deadline →
      ((c.renewDue service now expiration s).1.holdings.get? id = some h ↔
        c.holdings.get? id = some h)
  late : ∀ sent expiration e id h, now < h.deadline →
    ((c.settleRenewal now expiration sent (.error e)).holdings.get? id = some h ↔
      c.holdings.get? id = some h)

/-- Whatever the service, a call that fails leaves all that the client holds as it was; of a release
this is so unless the service has refused it. After a renewal that failed, at once or late, every
lease that has not ended is what it was. -/
theorem failed_calls_harmless (service : Service σ τ) (now : Instant) (c : Client τ) (s : σ) :
    FailuresHarmless service now c s where
  acquire _ _ _ _ h := (Client.acquire_error h).1
  flexAcquire _ _ _ _ := Client.flexAcquire_error
  flexRelease _ _ _ _ := Client.flexRelease_error
  reacquire _ _ _ _ _ := Client.reacquire_error
  release _ _ _ _ h hrefused := (Client.release_error h hrefused).1
  held _ _ := Client.acquire_of_holds
  alreadyHeld ids calls held c' s' calls' h := by
    rcases (Client.acquire_error h).2 held rfl with hsame | hpassed
    · exact Or.inl (congrArg Prod.snd hsame)
    · exact Or.inr hpassed
  missing _ _ := Client.release_of_not_holds
  alreadyReleased ids calls missing c' s' calls' h := by
    rcases (Client.release_error h nofun).2 missing rfl with hsame | hpassed
    · exact Or.inl (congrArg Prod.snd hsame)
    · exact Or.inr hpassed
  tick _ _ herror _ _ hlive := Client.renewDue_error hlive herror
  late sent expiration e id h hlive := by
    rw [Client.settleRenewal_error_iff]
    exact and_iff_left hlive

/-- A gate that lets nothing through, and a client with one lease. -/
def Gate.shut : Gate Unit where
  table := LockTable.empty
  faults := { createDown := true, renewDown := true, releaseDown := true }

def Client.oneLease : Client Unit := (Client.new {}).record 0 [⟨"x0", "x0:rk:#1", none, ()⟩]

/-- The client cannot acquire another lease, does not ask for the one that it has, and keeps that
one at a tick at which it is due and cannot be renewed. -/
theorem failed_calls_harmless_shut :
    let now := seconds 45
    let gate := Gate.service Issuer.numbered now
    let c := Client.oneLease
    let acquired := c.acquire gate now ["x1"] Gate.shut
    let ticked := (⟨"a", c, now, none⟩ : Runner Unit).tick .numbered now Gate.shut
    (acquired.1 = .error Gate.down ∧ acquired.2.1 = c) ∧
      c.acquire gate.recorded now ["x1", "x0"] (Gate.shut, []) =
        (.error (.alreadyHeld ["x0"]), c, Gate.shut, []) ∧
      c.release gate.recorded now ["x1", "x0"] (Gate.shut, []) =
        (.error (.alreadyReleased ["x1"]), c, Gate.shut, []) ∧
      c.due now = [⟨"x0", "x0:rk:#1"⟩] ∧
      ticked.1.client.holdings.get? "x0" = some ⟨⟨"x0", "x0:rk:#1", none, ()⟩, seconds 60⟩ := by
  intro now gate c acquired ticked
  have hharmless := failed_calls_harmless gate now c Gate.shut
  have hdown : acquired.1 = .error Gate.down := rfl
  refine ⟨⟨hdown, hharmless.acquire ["x1"] _ _ acquired.2.2 (Prod.ext hdown rfl)⟩,
    hharmless.held ["x1", "x0"] [] ⟨"x0", by decide, by decide⟩,
    hharmless.missing ["x1", "x0"] [] ⟨"x1", by decide, by decide⟩, by decide, ?_⟩
  have hclient : (⟨"a", c, now, none⟩ : Runner Unit).client = c := rfl
  rw [Runner.client_tick _ _ _ rfl, hclient]
  generalize Issuer.numbered.expiration _ = expiration
  have herror : (gate.renew (c.renewal (c.due now)) Gate.shut).1 = .error Gate.down := rfl
  have hkept := (hharmless.tick expiration Gate.down herror "x0"
    ⟨⟨"x0", "x0:rk:#1", none, ()⟩, seconds 60⟩ (by decide)).2 (by decide)
  unfold gate at hkept
  exact hkept

end Inventory.Reservation
