-- What releasing leaves behind. A client forgets what it released, so a lock
-- that the table keeps under a forgotten key belongs to nobody until it ends.
-- A flexible release leaves none; a rigid one may, when it is refused.
import Inventory.Proofs.Clock

namespace Inventory.Reservation

variable {τ : Type} {issuer : Issuer τ} {now : Instant} {c : Client τ} {k : OwnerKey}
  {ids : List String} {w w' : World τ} {r r' : Runner τ} {g g' : Gate τ}

/-! ## Reachable worlds -/

/-- Whatever happens, every client keeps its leases under their ids, and the gate asks the table. -/
structure Orderly (w : World τ) : Prop where
  script : w.gate.script = {}
  inPlace : ∀ r ∈ w.runners, r.client.InPlace

theorem orderly_new (issuer : Issuer τ) : Orderly (World.new issuer) where
  script := rfl
  inPlace _ hr := by cases hr

theorem Orderly.step {e : Event τ} (h : Orderly w) (hstep : Step w e w') : Orderly w' := by
  refine ⟨hstep.script h.script, ?_⟩
  cases hstep with
  | @turn _ r r' g hr hturn =>
    intro s hs
    rcases (World.mem_putRunner_iff (w := { w with gate := g }) hr hturn.name).1 hs with rfl | hs
    · exact hturn.inPlace (h.inPlace r hr)
    · exact h.inPlace s hs.1
  | start name config =>
    intro r hr
    rcases List.mem_append.1 hr with hr | hr
    · exact h.inPlace r (List.mem_of_mem_filter hr)
    · cases List.mem_singleton.1 hr
      intro id held hg
      cases hg
  | stop => exact fun r hr => h.inPlace r (List.mem_of_mem_filter hr)
  | _ => exact h.inPlace

theorem orderly_of_reaches {allowed : World τ → Event τ → Prop}
    (h : Reaches allowed (World.new issuer) w) : Orderly w :=
  h.keeps (fun hw _ hstep => hw.step hstep) (orderly_new issuer)

/-! ## Orphans -/

/-- The client counted on the key before and does not hold its id after, and the table has the id
locked under the key all the same. -/
def Orphaned (now : Instant) (before after : Client τ) (t : LockTable) (k : OwnerKey) : Prop :=
  (k.id, k.key) ∈ before.status now ∧ after.holds now k.id = false ∧ t.Owns now k

/-- The service has answered a rigid release. -/
def Answered (result : Except Error Unit) : Prop :=
  result = .ok () ∨ ∃ refusals, result = .error (.rejected refusals)

/-- The client counts on the key, and it is to be released. -/
def Client.Gives (c : Client τ) (now : Instant) (ids : List String) (k : OwnerKey) : Prop :=
  k.id ∈ ids ∧ (k.id, k.key) ∈ c.status now

theorem Client.gives_iff (hc : c.InPlace) :
    c.Gives now ids k ↔ k ∈ (c.flexCheck now ids).held.map Lease.ownerKey := by
  rw [mem_held_keys_iff hc, Gives, mem_status_iff]

/-- Of the ids that a client forgets it holds none, and of the others those it held. -/
theorem Client.not_holds_forget_iff {id : String} (h : c.holds now id = true) :
    (c.forget ids).holds now id = false ↔ id ∈ ids := by
  obtain ⟨held, hg, hl⟩ := holds_iff.1 h
  rw [← Bool.not_eq_true, holds_iff]
  simp only [get?_forget]
  by_cases hid : id ∈ ids
  · simp [hid]
  · simp [hid, hg, hl]

theorem not_orphaned_self {t : LockTable} : ¬ Orphaned now c c t k := by
  rintro ⟨hstatus, hnot, _⟩
  rw [Client.holds_of_mem_status hstatus] at hnot
  cases hnot

/-- Releasing a client's keys and forgetting their ids leaves a lock behind when the table refused
the request for the sake of another key. -/
theorem orphaned_release_iff {t : LockTable} {model : Model} {forgotten : List String}
    (hc : c.InPlace) (hids : ∀ id, c.holds now id = true → (id ∈ forgotten ↔ id ∈ ids)) :
    Orphaned now c (c.forget forgotten)
        (t.release now ⟨(c.flexCheck now ids).held.map Lease.ownerKey, model⟩).2 k ↔
      c.Gives now ids k ∧ t.Owns now k ∧
        ¬ t.Accepts now model ((c.flexCheck now ids).held.map Lease.ownerKey) := by
  unfold Orphaned
  rw [LockTable.owns_release_iff, ← Client.gives_iff hc]
  constructor
  · rintro ⟨hstatus, hforgot, howns, hnot⟩
    have hheld := Client.holds_of_mem_status hstatus
    have hid : k.id ∈ ids := (hids _ hheld).1 ((Client.not_holds_forget_iff hheld).1 hforgot)
    exact ⟨⟨hid, hstatus⟩, howns, fun ha => hnot ⟨ha, hid, hstatus⟩⟩
  · rintro ⟨⟨hid, hstatus⟩, howns, hnot⟩
    have hheld := Client.holds_of_mem_status hstatus
    exact ⟨hstatus, (Client.not_holds_forget_iff hheld).2 ((hids _ hheld).2 hid), howns,
      fun ha => hnot ha.1⟩

/-- A flexible release leaves no lock behind. A rigid one that was answered leaves none if and only
if the table knows all of the keys to be released or none of them. -/
theorem release_orphans (h : Reaches (fun _ _ => True) (World.new issuer) w) (hr : r ∈ w.runners)
    (ids : List String) :
    (∀ outcome c g, r.client.flexRelease (Gate.service w.issuer w.now) w.now ids w.gate =
        (.ok outcome, c, g) → ∀ k, ¬ Orphaned w.now r.client c g.table k) ∧
      ∀ result c g, r.client.release (Gate.service w.issuer w.now) w.now ids w.gate =
        (result, c, g) → Answered result →
          ((∀ k, ¬ Orphaned w.now r.client c g.table k) ↔
            (∀ k, r.client.Gives w.now ids k → w.gate.table.Owns w.now k) ∨
              ∀ k, r.client.Gives w.now ids k → ¬ w.gate.table.Owns w.now k) := by
  have hw := orderly_of_reaches h
  have hc := hw.inPlace r hr
  constructor
  · intro outcome c g hcall k
    cases Client.flexRelease_flexReleases hcall with
    | idle => exact not_orphaned_self
    | answered hrelease =>
      obtain ⟨_, htable⟩ := Gate.release_ok hw.script hrelease
      have hids : ∀ id, r.client.holds w.now id = true →
          (id ∈ (r.client.flexCheck w.now ids).held.map Lease.id ↔ id ∈ ids) := by
        intro id hheld
        rw [Client.mem_held_ids_iff hc]
        exact and_iff_left hheld
      rw [htable, orphaned_release_iff hc hids]
      exact fun horphan => horphan.2.2 LockTable.accepts_flexible
  · intro result c g hcall hanswered
    cases Client.release_releases hcall with
    | missing =>
      rcases hanswered with he | ⟨_, he⟩ <;> cases he
    | failed _ hrelease =>
      obtain ⟨rfl, _⟩ := Gate.release_error hw.script hrelease
      rcases hanswered with he | ⟨_, he⟩ <;> cases he
    | answered _ hrelease =>
      obtain ⟨_, htable⟩ := Gate.release_ok hw.script hrelease
      have haccepts : w.gate.table.Accepts w.now .rigid
          ((r.client.flexCheck w.now ids).held.map Lease.ownerKey) ↔
            ∀ k, r.client.Gives w.now ids k → w.gate.table.Owns w.now k := by
        rw [LockTable.accepts_rigid_iff]
        simp only [Client.gives_iff hc]
      simp only [htable, orphaned_release_iff hc fun _ _ => Iff.rfl, haccepts]
      constructor
      · intro hnone
        by_cases hall : ∀ k, r.client.Gives w.now ids k → w.gate.table.Owns w.now k
        · exact Or.inl hall
        · exact Or.inr fun k hgives howns => hnone k ⟨hgives, howns, hall⟩
      · rintro (hall | hno) k ⟨hgives, howns, hnot⟩
        · exact hnot hall
        · exact hno k hgives howns

/-- A client has two leases, and the lock of one has been revoked. -/
def World.revoked : World Unit := (acquired.2.onTable fun t => t.revoke "x0").2

def World.holder : Runner Unit := revoked.runners.head (by decide)

theorem World.revoked_reaches : Reaches (fun _ _ => True) (World.new .numbered) revoked := by
  have hpair : Reaches (fun _ _ => True) (World.new .numbered) pair :=
    pair_reaches (fun _ _ _ => trivial) fun _ _ _ => trivial
  exact (hpair.trans (.step acquired_step trivial)).trans (.step (.revoke "x0") trivial)

theorem release_orphans_revoked :
    let after := World.holder.client.flexRelease
      (Gate.service World.revoked.issuer World.revoked.now) World.revoked.now ["x0", "x1"]
      World.revoked.gate
    after.1 = .ok ⟨["x1"], [⟨"x0", "Reservation not found"⟩]⟩ ∧
      ∀ k, ¬ Orphaned World.revoked.now World.holder.client after.2.1 after.2.2.table k := by
  intro after
  have hok : after.1 = .ok ⟨["x1"], [⟨"x0", "Reservation not found"⟩]⟩ := rfl
  exact ⟨hok, (release_orphans World.revoked_reaches (List.head_mem _) ["x0", "x1"]).1 _ _ _
    (Prod.ext hok rfl)⟩

/-- A rigid release that was refused for the sake of one id leaves the lock of another behind. -/
theorem rejected_release_orphans :
    let after := World.holder.client.release
      (Gate.service World.revoked.issuer World.revoked.now) World.revoked.now ["x0", "x1"]
      World.revoked.gate
    Reaches (fun _ _ => True) (World.new .numbered) World.revoked ∧
      World.holder ∈ World.revoked.runners ∧ Answered after.1 ∧
      Orphaned World.revoked.now World.holder.client after.2.1 after.2.2.table
        ⟨"x1", "x1:rk:#2"⟩ := by
  intro after
  have hrejected : after.1 = .error (.rejected [⟨"x0", "Reservation not found"⟩]) := rfl
  exact ⟨World.revoked_reaches, List.head_mem _, Or.inr ⟨_, hrejected⟩, by decide, by decide,
    by decide⟩

end Inventory.Reservation
