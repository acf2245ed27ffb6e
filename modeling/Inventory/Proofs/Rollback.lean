-- Acquiring without a trace. A rigid request that fails leaves the client and
-- the live locks as they were, also where the gate had it granted in part:
-- what was granted is given back under the keys it was granted with.
import Inventory.Proofs.Runs

namespace Inventory.Reservation

variable {τ : Type} {issuer : Issuer τ} {now : Instant}

/-! ## Locks given back -/

namespace LockTable

variable {t : LockTable} {r : CreateRequest} {id : String} {model : Model}

/-- A request for locks changes nothing for the ids that it is not granted. -/
theorem live?_create_of_not_mem (h : id ∉ (t.create issuer now r).1.granted.map Lease.id) :
    (t.create issuer now r).2.live? now id = t.live? now id := by
  have hget : (t.create issuer now r).2.locks.get? id = t.live? now id := by
    rw [(create_grants issuer now r t).others id h, get?_purge]
  ext lock
  rw [live?_eq_some_iff, hget]
  constructor
  · exact And.left
  · intro hlive
    exact ⟨hlive, (live?_eq_some_iff.1 hlive).2⟩

/-- The lock of an id that was granted is live under the key it was granted with, if at all. -/
theorem ownerKey_mem_of_live?_create {lock : Lock}
    (h : id ∈ (t.create issuer now r).1.granted.map Lease.id)
    (hlive : (t.create issuer now r).2.live? now id = some lock) :
    ⟨id, lock.key⟩ ∈ (t.create issuer now r).1.granted.map Lease.ownerKey := by
  obtain ⟨l, hl, rfl⟩ := List.mem_map.1 h
  have hlock := (live?_eq_some_iff.1 hlive).1
  rw [(create_grants issuer now r t).locked l hl] at hlock
  cases hlock
  exact List.mem_map.2 ⟨l, hl, rfl⟩

/-- Once all that was granted is given back, the live locks are those of before. -/
theorem live?_give_back (t : LockTable) (r : CreateRequest) (id : String) :
    ((t.create issuer now r).2.release now
      ⟨(t.create issuer now r).1.granted.map Lease.ownerKey, .flexible⟩).2.live? now id =
        t.live? now id := by
  by_cases hid : id ∈ (t.create issuer now r).1.granted.map Lease.id
  · have hbefore : t.live? now id = none := by
      obtain ⟨l, hl, rfl⟩ := List.mem_map.1 hid
      rw [← get?_purge]
      exact (create_grants issuer now r t).free l hl
    rw [hbefore, Option.eq_none_iff_forall_not_mem]
    intro left hleft
    -- A lock that is left has a key that owned it before, and that key was given back.
    obtain ⟨⟨lock, hlive, hkey⟩, hnot⟩ :=
      owns_release_iff (k := ⟨id, left.key⟩).1 ⟨left, hleft, rfl⟩
    refine hnot ⟨accepts_flexible, ?_⟩
    rw [← show lock.key = left.key from hkey]
    exact ownerKey_mem_of_live?_create hid hlive
  · rw [← live?_create_of_not_mem hid]
    apply live?_congr
    apply get?_treat_of_not_mem treats_remove
    intro lock _ hmem
    obtain ⟨l, hl, he⟩ := List.mem_map.1 hmem
    exact hid (List.mem_map.2 ⟨l, hl, congrArg OwnerKey.id he⟩)

end LockTable

/-! ## What the gate writes down -/

namespace Gate

variable {g g' : Gate τ}

/-- The requests written down between two states of the gate. -/
def callsSince (g g' : Gate τ) : List Call := g'.calls.drop g.calls.length

theorem create_calls {r : CreateRequest} {answer : Except Error (Grant τ)} (hs : g.script = {})
    (h : (service issuer now).create r g = (answer, g')) :
    g'.calls = g.calls ++ [.create now r] := by
  simp only [service, answerCreate, log, hs] at h
  split at h <;> cases h <;> rfl

theorem release_calls {r : ReleaseRequest} {answer : Except Error Outcome} (hs : g.script = {})
    (h : (service issuer now).release r g = (answer, g')) :
    g'.calls = g.calls ++ [.release now r] := by
  simp only [service, answerRelease, log, hs] at h
  split at h <;> cases h <;> rfl

/-- A release fails only while the gate lets none through. -/
theorem releaseDown_of_error {r : ReleaseRequest} {e : Error} (hs : g.script = {})
    (h : (service issuer now).release r g = (.error e, g')) : g.faults.releaseDown = true := by
  simp only [service, answerRelease, log, hs] at h
  split at h
  · assumption
  · cases h

end Gate

/-! ## Acquiring -/

variable {c c' : Client τ} {g g' : Gate τ} {ids : List String} {e : Error}

/-- When acquiring fails, whatever the reason, the client holds what it held, and the live locks
are what they were, provided that the gate let the release through if one was sent. -/
theorem acquire_failure_traceless (hs : g.script = {})
    (hcall : c.acquire (Gate.service issuer now) now ids g = (.error e, c', g'))
    (hback : ∀ q, .release now q ∈ g.callsSince g' → g.faults.releaseDown = false) :
    c' = c ∧ ∀ id, g'.table.live? now id = g.table.live? now id := by
  cases Client.acquire_acquires hcall with
  | alreadyHeld => exact ⟨rfl, fun _ => rfl⟩
  | failed _ hcreate =>
    rw [Gate.create_error hs hcreate]
    exact ⟨rfl, fun _ => rfl⟩
  | @refused answer g₁ _ hcreate =>
    obtain ⟨model, hanswer, htable⟩ := Gate.create_ok hs hcreate
    have halike := Gate.create_alike hs hcreate
    refine ⟨rfl, fun id => ?_⟩
    split
    · rename_i hempty
      rw [htable]
      apply LockTable.live?_create_of_not_mem
      rw [← hanswer, List.isEmpty_iff.1 hempty]
      exact List.not_mem_nil
    · rename_i hsome
      rw [if_neg hsome] at hback
      cases hrelease : (Gate.service issuer now).release
          ⟨answer.granted.map Lease.ownerKey, .flexible⟩ g₁ with
      | mk result g₂ =>
        rw [hrelease] at hback
        have hs₁ : g₁.script = {} := halike.script.trans hs
        have hcalls : .release now ⟨answer.granted.map Lease.ownerKey, .flexible⟩ ∈
            g.callsSince g₂ := by
          rw [Gate.callsSince, Gate.release_calls hs₁ hrelease,
            Gate.create_calls hs hcreate,
            List.append_assoc, List.drop_left]
          simp
        have hup : g₁.faults.releaseDown = false := by
          rw [halike.faults]
          exact hback _ hcalls
        cases result with
        | error =>
          rw [Gate.releaseDown_of_error hs₁ hrelease] at hup
          cases hup
        | ok =>
          dsimp only
          rw [(Gate.release_ok hs₁ hrelease).2, htable, hanswer]
          exact LockTable.live?_give_back ..

/-- A gate that passes rigid requests on as flexible ones, and a table with one lock. -/
def Gate.lenient : Gate Unit where
  table := (LockTable.empty.create Issuer.numbered 0 ⟨["x0"], .rigid, seconds 60⟩).2
  faults := { ignoreRigid := true }

/-- A lock that was granted along with a refusal is given back. -/
theorem acquire_failure_traceless_lenient :
    let after := (Client.new {}).acquire (Gate.service Issuer.numbered 0) 0 ["x1", "x0", "x1"]
      Gate.lenient
    after.1 = .error (.rejected [⟨"x0", "Component is locked"⟩]) ∧
      .release 0 ⟨[⟨"x1", "x1:rk:#2"⟩], .flexible⟩ ∈ Gate.lenient.callsSince after.2.2 ∧
      after.2.1 = Client.new {} ∧
      ∀ id, after.2.2.table.live? 0 id = Gate.lenient.table.live? 0 id := by
  intro after
  have hrejected : after.1 = .error (.rejected [⟨"x0", "Component is locked"⟩]) := rfl
  have hsent : .release 0 ⟨[⟨"x1", "x1:rk:#2"⟩], .flexible⟩ ∈
      Gate.lenient.callsSince after.2.2 := by decide
  exact ⟨hrejected, hsent,
    acquire_failure_traceless rfl (Prod.ext hrejected rfl) fun _ _ => rfl⟩

end Inventory.Reservation
