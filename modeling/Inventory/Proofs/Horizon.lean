-- Requests under clocks that end. Where every time that a request needs can be
-- reckoned, it is answered exactly as its model has it; where one cannot, it is
-- not answered and no live lock is touched.
import Inventory.Proofs.Models

namespace Inventory.Reservation

variable {τ : Type} {issuer : Issuer τ} {h : Horizon} {now : Instant} {d : Duration}

/-! ## Times that can be reckoned -/

/-- A time from now on stays on this side of all that ends. -/
structure Horizon.Covers (h : Horizon) (now : Instant) (d : Duration) : Prop where
  span : d ≤ h.span
  reading : now + d ≤ h.reading
  deadline : now + d ≤ h.deadline

theorem Horizon.Covers.ending_eq (hc : h.Covers now d) : h.ending now d = now + d :=
  if_pos hc.span

theorem Horizon.Covers.reads (hc : h.Covers now d) : h.Reads now d := by
  rw [Horizon.Reads, hc.ending_eq]
  exact hc.reading

/-- The clocks of a machine cover all that ends before 2^63 seconds from its start, and before the
year 262143. -/
theorem Horizon.covers_ofMachine {uptime wall : Duration}
    (hup : uptime + now + d < seconds 9223372036854775808)
    (hwall : wall + now + d < seconds 8210266876800) : (ofMachine uptime wall).Covers now d := by
  unfold seconds at hup hwall
  refine ⟨?_, ?_, ?_⟩
  all_goals
    simp only [ofMachine, seconds, milliseconds]
    unfold Duration Instant at *
    omega

namespace LockTable

variable {t : LockTable} {r : CreateRequest} {deadline : Instant} {ids : List String}

/-- The times that a request for locks needs can be reckoned: none if it is blocked; else its
expiration, and a deadline too unless all its ids are locked. -/
def CreateFits (h : Horizon) (now : Instant) (r : CreateRequest) (t : LockTable) : Prop :=
  t.Blocked now r ∨ h.Reads now r.duration ∧
    (h.Reaches now r.duration ∨ ∀ id ∈ r.ids, t.isLocked now id = true)

/-- The times that a renewal needs can be reckoned: a deadline, unless it is refused or none of its
keys owns a live lock. -/
def RenewFits (h : Horizon) (now : Instant) (r : RenewRequest) (t : LockTable) : Prop :=
  ¬ t.Accepts now r.model r.keys ∨ h.Reaches now r.duration ∨ ∀ k ∈ r.keys, ¬ t.Owns now k

theorem grantAll_eq_nil_iff :
    (grantAll issuer deadline ids t).1 = [] ↔ ∀ id ∈ ids, t.locks.contains id = true := by
  induction ids with
  | nil => simp [grantAll]
  | cons id rest ih =>
    unfold grantAll
    split
    · rename_i hlocked
      rw [ih, List.forall_mem_cons]
      exact (and_iff_right hlocked).symm
    · rename_i hfree
      constructor
      · intro hnil
        cases hnil
      · intro hall
        exact absurd (hall id List.mem_cons_self) hfree

theorem createWithin_of_fits (hfits : CreateFits h now r t) :
    t.createWithin h issuer now r =
      (t.create (issuer.readingAt (h.ending now r.duration)) now r).map .ok id := by
  by_cases hb : t.Blocked now r
  · rw [create_of_blocked hb]
    unfold createWithin
    exact if_pos (blocked_iff.1 hb)
  · obtain ⟨hreads, hdue⟩ := hfits.resolve_left hb
    rw [create_of_not_blocked hb]
    unfold createWithin
    dsimp only
    rw [if_neg fun hm => hb (blocked_iff.2 hm), if_neg (not_not_intro hreads), if_pos]
    · rfl
    · rw [List.isEmpty_iff, grantAll_eq_nil_iff, contains_purge]
      exact hdue.symm

/-- A request for locks that needs a time beyond a clock's end changes nothing but that the dead
locks are cleared away. -/
theorem createWithin_of_not_fits (issuer : Issuer τ) (hfits : ¬ CreateFits h now r t) :
    t.createWithin h issuer now r =
      (.error (if h.Reads now r.duration then .deadline else .reading), t.purge now) := by
  obtain ⟨hb, hlate⟩ := not_or.1 hfits
  unfold createWithin
  dsimp only
  rw [if_neg fun hm => hb (blocked_iff.2 hm)]
  by_cases hreads : h.Reads now r.duration
  · rw [if_neg (not_not_intro hreads), if_pos hreads, if_neg]
    rw [List.isEmpty_iff, grantAll_eq_nil_iff, contains_purge]
    exact fun hdue => hlate ⟨hreads, hdue.symm⟩
  · rw [if_pos hreads, if_neg hreads]

theorem createFits_of_ok {grant : Grant τ} (hok : (t.createWithin h issuer now r).1 = .ok grant) :
    t.CreateFits h now r := by
  by_contra hno
  rw [createWithin_of_not_fits issuer hno] at hok
  cases hok

theorem renew_succeeded_eq_nil_iff {r : RenewRequest} :
    (t.renew now r).1.succeeded = [] ↔
      ¬ t.Accepts now r.model r.keys ∨ ∀ k ∈ r.keys, ¬ t.Owns now k := by
  have hf := treats_setDeadline (now + r.duration)
  by_cases ha : t.Accepts now r.model r.keys
  · rw [or_iff_right (not_not_intro ha), List.eq_nil_iff_forall_not_mem]
    constructor
    · intro hnone k hk ho
      exact hnone k.id ((mem_treat_succeeded_iff hf ha).2 ⟨k.key, hk, ho⟩)
    · intro hnone id hid
      obtain ⟨key, hk, ho⟩ := (mem_treat_succeeded_iff hf ha).1 hid
      exact hnone _ hk ho
  · rw [renew, treat_of_not_accepts ha]
    exact iff_of_true rfl (Or.inl ha)

theorem renewFits_iff {r : RenewRequest} :
    RenewFits h now r t ↔
      (t.renew now r).1.succeeded.isEmpty = true ∨ h.Reaches now r.duration := by
  rw [List.isEmpty_iff, renew_succeeded_eq_nil_iff, or_assoc, RenewFits]
  exact or_congr_right or_comm

theorem renewWithin_of_fits {r : RenewRequest} (hfits : RenewFits h now r t) :
    t.renewWithin h now r = (t.renew now r).map .ok id := if_pos (renewFits_iff.1 hfits)

/-- A renewal that needs an instant beyond the clock's end changes nothing. -/
theorem renewWithin_of_not_fits {r : RenewRequest} (hfits : ¬ RenewFits h now r t) :
    t.renewWithin h now r = (.error .deadline, t) := if_neg fun hdue => hfits (renewFits_iff.2 hdue)

theorem renewFits_of_ok {r : RenewRequest} {outcome : Outcome}
    (hok : (t.renewWithin h now r).1 = .ok outcome) : t.RenewFits h now r := by
  by_contra hno
  rw [renewWithin_of_not_fits hno] at hok
  cases hok

/-- A request that is not answered touches no live lock. -/
theorem unanswered_harmless (h : Horizon) (issuer : Issuer τ) (now : Instant) (t : LockTable) :
    (∀ r o, (t.createWithin h issuer now r).1 = .error o →
      Agree now t (t.createWithin h issuer now r).2) ∧
    ∀ r o, (t.renewWithin h now r).1 = .error o → Agree now t (t.renewWithin h now r).2 := by
  refine ⟨fun r o hlate => ?_, fun r o hlate => ?_⟩
  · by_cases hfits : t.CreateFits h now r
    · rw [createWithin_of_fits hfits] at hlate
      cases hlate
    · rw [createWithin_of_not_fits issuer hfits]
      exact agree_purge t now
  · by_cases hfits : t.RenewFits h now r
    · rw [renewWithin_of_fits hfits] at hlate
      cases hlate
    · rw [renewWithin_of_not_fits hfits]
      exact fun _ => rfl

/-! ## As if no clock ended -/

theorem grantAll_readingAt (issuer : Issuer τ) (deadline : Instant) (ids : List String)
    (t : LockTable) :
    grantAll (issuer.readingAt deadline) deadline ids t = grantAll issuer deadline ids t := by
  induction ids generalizing t with
  | nil => rfl
  | cons id rest ih =>
    unfold grantAll
    dsimp only
    rw [ih, ih]
    rfl

/-- Within the reach of the clocks a request for locks is answered as if they did not end. -/
theorem createWithin_of_covers (hc : h.Covers now r.duration) :
    t.createWithin h issuer now r = (t.create issuer now r).map .ok id := by
  have hfits : t.CreateFits h now r := Or.inr ⟨hc.reads, Or.inl hc.deadline⟩
  rw [createWithin_of_fits hfits, hc.ending_eq]
  unfold create
  dsimp only
  rw [grantAll_readingAt]

theorem renewWithin_of_covers {r : RenewRequest} (hc : h.Covers now r.duration) :
    t.renewWithin h now r = (t.renew now r).map .ok id :=
  renewWithin_of_fits (Or.inr (Or.inl hc.deadline))

/-! ## Expirations -/

theorem expiration_of_mem_grantAll {l : Lease τ} (hl : l ∈ (grantAll issuer deadline ids t).1) :
    l.expiration = issuer.expiration deadline := by
  induction ids generalizing t with
  | nil => cases hl
  | cons id rest ih =>
    unfold grantAll at hl
    split at hl
    · exact ih hl
    · rcases List.mem_cons.1 hl with rfl | hl
      · rfl
      · exact ih hl

theorem expiration_of_mem_create {l : Lease τ} (hl : l ∈ (t.create issuer now r).1.granted) :
    l.expiration = issuer.expiration (now + r.duration) := by
  by_cases hb : t.Blocked now r
  · rw [create_of_blocked hb] at hl
    cases hl
  · rw [create_of_not_blocked hb] at hl
    exact expiration_of_mem_grantAll hl

/-- A lease carries the reading of its end, or of now if its time is too long to be added. -/
theorem expiration_createWithin {grant : Grant τ} {l : Lease τ}
    (hok : (t.createWithin h issuer now r).1 = .ok grant) (hl : l ∈ grant.granted) :
    l.expiration = issuer.expiration (h.ending now r.duration) := by
  rw [createWithin_of_fits (createFits_of_ok hok)] at hok
  have hgrant : (t.create (issuer.readingAt (h.ending now r.duration)) now r).1 = grant :=
    Except.ok.inj hok
  rw [← hgrant] at hl
  exact expiration_of_mem_create hl

/-! ## Both models -/

/-- The request is answered, and the answer and the table after it are as they should be. -/
def Answers {α : Type} (right : α × LockTable → Prop) (out : Except Overflow α × LockTable) :
    Prop :=
  ∃ answer, out.1 = .ok answer ∧ right (answer, out.2)

theorem answers_of_right {α : Type} {right : α × LockTable → Prop} {out : α × LockTable}
    (hright : right out) : Answers right (out.map .ok id) := ⟨out.1, rfl, hright⟩

/-- Requests are answered exactly as the models have it if and only if the times they need can be
reckoned. A release needs none. -/
theorem models_exact_iff (h : Horizon) (issuer : Issuer τ) (now : Instant) (t : LockTable) :
    (∀ r, Answers (GrantsExactly now r t) (t.createWithin h issuer now r) ↔
      t.CreateFits h now r) ∧
    (∀ r, Answers
        (TreatsExactly now r.model r.keys (fun k => some ⟨k.key, now + r.duration⟩) t)
        (t.renewWithin h now r) ↔
      t.RenewFits h now r) ∧
    ∀ r, TreatsExactly now r.model r.keys (fun _ => none) t (t.release now r) := by
  refine ⟨fun r => ⟨?_, fun hfits => ?_⟩, fun r => ⟨?_, fun hfits => ?_⟩, fun r => ?_⟩
  · rintro ⟨grant, hok, -⟩
    exact createFits_of_ok hok
  · rw [createWithin_of_fits hfits]
    exact answers_of_right (grantsExactly_create ..)
  · rintro ⟨outcome, hok, -⟩
    exact renewFits_of_ok hok
  · rw [renewWithin_of_fits hfits]
    exact answers_of_right (treatsExactly_treat (treats_setDeadline _) ..)
  · exact treatsExactly_treat treats_remove ..

/-- One lock has just ended and one is live. A request for both, and a renewal of both, is answered;
a renewal for 2^63 seconds is not. -/
theorem models_exact_iff_leftover :
    let h := Horizon.ofMachine 0 (seconds 1735689600)
    let now := seconds 60
    let held : List OwnerKey := [⟨"x0", "x0:rk:#1"⟩, ⟨"x1", "x1:rk:#2"⟩]
    let asked : CreateRequest := ⟨["x0", "x0", "x1"], .flexible, seconds 60⟩
    let renewed (d : Duration) (k : OwnerKey) : Option Lock := some ⟨k.key, now + d⟩
    let forever := seconds 9223372036854775808
    Answers (GrantsExactly now asked leftover)
        (leftover.createWithin h Issuer.numbered now asked) ∧
      Answers (TreatsExactly now .flexible held (renewed (seconds 60)) leftover)
        (leftover.renewWithin h now ⟨held, .flexible, seconds 60⟩) ∧
      ¬ Answers (TreatsExactly now .flexible held (renewed forever) leftover)
        (leftover.renewWithin h now ⟨held, .flexible, forever⟩) := by
  intro h now held asked renewed forever
  have hminute : h.Covers now (seconds 60) := Horizon.covers_ofMachine (by decide) (by decide)
  obtain ⟨hcreate, hrenew, -⟩ := models_exact_iff h Issuer.numbered now leftover
  refine ⟨(hcreate asked).2 ?_, (hrenew ⟨held, .flexible, seconds 60⟩).2 ?_,
    fun hright => ?_⟩
  · exact Or.inr ⟨hminute.reads, Or.inl hminute.deadline⟩
  · exact Or.inr (Or.inl hminute.deadline)
  · rcases (hrenew ⟨held, .flexible, forever⟩).1 hright with hrefused | hreaches | hnone
    · exact hrefused accepts_flexible
    · exact absurd hreaches (by decide)
    · exact hnone ⟨"x1", "x1:rk:#2"⟩ (by decide) (by decide)

/-- A lease that would end after the year 262142: its id is free, and yet there is no answer. -/
theorem overlong_create_unanswered :
    let h := Horizon.ofMachine 0 (seconds 1735689600)
    let asked : CreateRequest := ⟨["x0"], .rigid, seconds 9000000000000⟩
    0 < asked.duration ∧ empty.isLocked 0 "x0" = false ∧
      (empty.createWithin h Issuer.numbered 0 asked).1 = .error .reading ∧
      ¬ Answers (GrantsExactly 0 asked empty) (empty.createWithin h Issuer.numbered 0 asked) := by
  intro h asked
  have hlate : (empty.createWithin h Issuer.numbered 0 asked).1 = .error .reading := rfl
  refine ⟨by decide, rfl, hlate, ?_⟩
  rintro ⟨grant, hok, -⟩
  rw [hlate] at hok
  cases hok

end LockTable

end Inventory.Reservation
