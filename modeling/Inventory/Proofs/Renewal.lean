-- Renewal in time. Where every tick comes at its instant and nothing is out of
-- order, a client whose ticks are closer together than its margin, and than
-- its leases are long, never loses a lease: each of them ends after the next
-- tick, and that tick renews it if it ends before the one that follows.
import Inventory.Proofs.Exclusion

namespace Inventory.Reservation

variable {τ : Type} {issuer : Issuer τ} {now : Instant} {r r' : Runner τ} {g g' : Gate τ}
  {c : Client τ} {t : LockTable} {k : OwnerKey} {id : String} {e : Event τ} {w w' : World τ}

/-! ## Keeping up -/

/-- A client with these settings looks after its leases often enough: a lease outlives the time
between two ticks, and is within the margin at the last tick before it ends. -/
def Config.KeepsUp (c : Config) : Prop :=
  max 1 c.renewIntervalSecs.toNat ≤ c.renewMarginSecs.toNat ∧
    max 1 c.renewIntervalSecs.toNat < c.leaseDurationSecs.toNat

instance (c : Config) : Decidable c.KeepsUp := inferInstanceAs (Decidable (_ ∧ _))

theorem Config.KeepsUp.le_margin {c : Config} (h : c.KeepsUp) : c.renewInterval ≤ c.renewMargin :=
  Nat.mul_le_mul_right _ h.1

theorem Config.KeepsUp.lt_duration {c : Config} (h : c.KeepsUp) :
    c.renewInterval < c.leaseDuration :=
  Nat.mul_lt_mul_of_pos_right h.2 (by decide)

/-- The client ticks in rhythm, and counts on every lease beyond its next tick. -/
structure InTime (now : Instant) (r : Runner τ) : Prop where
  free : r.waiting = none
  notLate : now ≤ r.nextTick
  soon : r.nextTick ≤ now + r.client.config.renewInterval
  ahead : r.client.config.KeepsUp → ∀ id h, r.client.holdings.get? id = some h →
    r.nextTick < h.deadline

/-- Leases that are taken in outlive the next tick. -/
theorem InTime.changes (h : InTime now r) (hchanges : r.client.Changes now c) :
    InTime now { r with client := c } where
  free := h.free
  notLate := h.notLate
  soon := by
    dsimp only
    rw [hchanges.config]
    exact h.soon
  ahead hkeeps id held hget := by
    rw [hchanges.config] at hkeeps
    cases hchanges with
    | same => exact h.ahead hkeeps id held hget
    | record leases =>
      by_cases hid : id ∈ leases.map Lease.id
      · obtain ⟨l, _, _, hr⟩ := Client.get?_record_of_mem r.client now hid
        cases hr.symm.trans hget
        have hlasts : now + r.client.config.renewInterval < now + r.client.config.leaseDuration :=
          Nat.add_lt_add_left hkeeps.lt_duration now
        exact Nat.lt_of_le_of_lt h.soon hlasts
      · rw [Client.get?_record_of_not_mem hid] at hget
        exact h.ahead hkeeps id held hget
    | forget ids =>
      rw [Client.get?_forget] at hget
      split at hget
      · cases hget
      · exact h.ahead hkeeps id held hget

/-- A lease that is not due ends after the tick that follows. -/
theorem Client.not_due {held : Holding τ} (hkeeps : c.config.KeepsUp) (hc : c.InPlace)
    (hget : c.holdings.get? id = some held) (hnot : ⟨id, held.lease.key⟩ ∉ c.due now) :
    now + c.config.renewInterval < held.deadline := by
  have hmargin : ¬ held.deadline - now ≤ c.config.renewMargin :=
    fun hle => hnot ((mem_due_iff hc).2 ⟨held, hget, rfl, hle⟩)
  have hless : c.config.renewInterval < held.deadline - now :=
    Nat.lt_of_le_of_lt hkeeps.le_margin (Nat.lt_of_not_le hmargin)
  rw [Nat.add_comm]
  exact Nat.add_lt_of_lt_sub hless

/-! ## What a renewal does -/

/-- After a renewal of what is due, every lease ends after the tick that follows. -/
theorem renewal_ahead {expiration : τ} {held' : Holding τ} (hkeeps : c.config.KeepsUp)
    (hc : c.InPlace)
    (hget : (c.settleRenewal now expiration (c.due now)
      (.ok (t.renew now (c.renewal (c.due now))).1)).holdings.get? id = some held') :
    now + c.config.renewInterval < held'.deadline := by
  obtain ⟨held, hheld, hcase⟩ := (get?_renewal (Client.due_distinct hc)).1 hget
  by_cases hmem : ⟨id, held.lease.key⟩ ∈ c.due now
  · rw [if_pos hmem] at hcase
    rw [hcase.2]
    exact Nat.add_lt_add_left hkeeps.lt_duration now
  · rw [if_neg hmem] at hcase
    rw [hcase]
    exact Client.not_due hkeeps hc hheld hmem

/-- A renewal of what is due drops no lease whose key owns its lock. -/
theorem has_renewal {expiration : τ} (hc : c.InPlace) (h : c.Has k) (howns : t.Owns now k) :
    (c.settleRenewal now expiration (c.due now)
      (.ok (t.renew now (c.renewal (c.due now))).1)).Has k := by
  obtain ⟨held, hget, hkey⟩ := h
  have hself : (⟨k.id, held.lease.key⟩ : OwnerKey) = k := by rw [hkey]
  by_cases hmem : ⟨k.id, held.lease.key⟩ ∈ c.due now
  · refine ⟨Client.renewed (now + c.config.leaseDuration) expiration held,
      (get?_renewal (Client.due_distinct hc)).2 ⟨held, hget, ?_⟩, hkey⟩
    rw [if_pos hmem, hself]
    exact ⟨howns, rfl⟩
  · refine ⟨held, (get?_renewal (Client.due_distinct hc)).2 ⟨held, hget, ?_⟩, hkey⟩
    rw [if_neg hmem]

/-- What a tick does while nothing is out of order: what is due is renewed, if anything is. -/
theorem ticks_renew {next : Instant} {out : Runner τ × Gate τ} (hs : g.script = {})
    (hf : g.faults = {}) (h : Runner.Ticks issuer now next r g out) :
    (r.client.due now = [] ∧ out.1 = { r with nextTick := next }) ∨
      ∃ expiration, out.1 =
        { r with
          client := r.client.settleRenewal now expiration (r.client.due now)
            (.ok (g.table.renew now (r.client.renewal (r.client.due now))).1)
          nextTick := next
          waiting := none } := by
  cases h with
  | idle hnone => exact Or.inl ⟨hnone, rfl⟩
  | held hhold =>
    rw [hf] at hhold
    cases hhold
  | @sent g' halike htable =>
    refine Or.inr ⟨issuer.expiration (now + r.client.config.leaseDuration), ?_⟩
    unfold Runner.finishRenewal
    dsimp only
    cases hanswer : g'.answerRenew now (r.client.renewal (r.client.due now)) with
    | mk answer g'' =>
      cases answer with
      | error e =>
        have hdown := (Gate.answerRenew_error (halike.script.trans hs) hanswer).1
        rw [halike.faults, hf] at hdown
        cases hdown
      | ok outcome =>
        rw [(Gate.answerRenew_ok (halike.script.trans hs) hanswer).1, htable]

/-! ## Runs without disturbance -/

/-- The event comes from the clients and the clock, on time, and no call fails or has to wait. -/
def World.Smooth (w : World τ) : Event τ → Prop
  | .wait d => w.OnTime (.wait d)
  | .reacquire .. | .answer .. | .faults .. | .revoke .. | .direct .. => False
  | _ => True

theorem World.Smooth.ordinary (h : w.Smooth e) : e.Ordinary := by
  cases e <;> trivial

theorem World.Timely.smooth (h : w.Timely e) : w.Smooth e := by
  cases e <;> trivial

/-- At its instant a tick puts off the end of every lease that comes too soon. -/
theorem InTime.ticks {out : Runner τ × Gate τ} (hs : g.script = {}) (hf : g.faults = {})
    (hsound : Sound now g.table r) (h : InTime now r)
    (ht : Runner.Ticks issuer now (now + r.client.config.renewInterval) r g out) :
    InTime now out.1 := by
  rcases ticks_renew hs hf ht with ⟨hnone, hout⟩ | ⟨expiration, hout⟩
  · rw [hout]
    refine ⟨h.free, Nat.le_add_right .., Nat.le_refl _, fun hkeeps id held hget => ?_⟩
    refine Client.not_due hkeeps hsound.inPlace hget ?_
    rw [hnone]
    exact List.not_mem_nil
  · rw [hout]
    refine ⟨rfl, Nat.le_add_right .., ?_, fun hkeeps id held hget => ?_⟩
    · dsimp only
      rw [Client.settleRenewal_config]
    · exact renewal_ahead (Client.settleRenewal_config ▸ hkeeps) hsound.inPlace hget

/-- Every turn in a run without disturbance keeps the client ahead of its leases. -/
theorem Turn.inTime (hs : g.script = {}) (hf : g.faults = {}) (hsound : Sound now g.table r)
    (h : InTime now r) (hsmooth : w.Smooth e) (hturn : Turn issuer now r g e r' g') :
    InTime now r' := by
  cases hturn with
  | acquire hcall => exact h.changes (Client.acquire_changes hcall)
  | flexAcquire hcall => exact h.changes (Client.flexAcquire_changes hcall)
  | release hcall => exact h.changes (Client.release_changes hcall)
  | flexRelease hcall => exact h.changes (Client.flexRelease_changes hcall)
  | tick _ hdue =>
    have ht := Runner.tick_ticks issuer now r g
    rw [Runner.followingTick_of_le h.notLate, Nat.le_antisymm hdue h.notLate] at ht
    exact h.ticks hs hf hsound ht
  | reacquire => exact hsmooth.elim
  | answer => exact hsmooth.elim

/-- Clients and table agree, nothing is out of order, and every client is in time. -/
structure Steady (w : World τ) : Prop where
  coherent : Coherent w
  faults : w.gate.faults = {}
  inTime : ∀ r ∈ w.runners, InTime w.now r

theorem steady_new (issuer : Issuer τ) : Steady (World.new issuer) where
  coherent := coherent_new issuer
  faults := rfl
  inTime _ hr := by cases hr

theorem Steady.step (hd : w.issuer.Distinct) (h : Steady w) (hsmooth : w.Smooth e)
    (hstep : Step w e w') : Steady w' := by
  refine ⟨h.coherent.step hd hsmooth.ordinary hstep, ?_, ?_⟩
  · cases hstep with
    | turn _ hturn => exact (hturn.alike h.coherent.script).faults.trans h.faults
    | faults => exact hsmooth.elim
    | _ => exact h.faults
  · cases hstep with
    | @turn _ r r' g hr hturn =>
      intro s hs
      rcases (World.mem_putRunner_iff (w := { w with gate := g }) hr hturn.name).1 hs with rfl | hs
      · exact hturn.inTime h.coherent.script h.faults (h.coherent.sound r hr) (h.inTime r hr)
          hsmooth
      · exact h.inTime s hs.1
    | start name config =>
      intro r hr
      rcases List.mem_append.1 hr with hr | hr
      · exact h.inTime r (List.mem_of_mem_filter hr)
      · cases List.mem_singleton.1 hr
        refine ⟨rfl, Nat.le_refl _, Nat.le_add_right .., fun _ id held hget => ?_⟩
        cases hget
    | stop => exact fun r hr => h.inTime r (List.mem_of_mem_filter hr)
    | wait d =>
      intro r hr
      have hr' := h.inTime r hr
      refine ⟨hr'.free, hsmooth r hr hr'.free, ?_, hr'.ahead⟩
      exact Nat.le_trans hr'.soon (Nat.add_le_add_right (Nat.le_add_right ..) _)
    | faults => exact hsmooth.elim
    | revoke => exact hsmooth.elim
    | direct => exact hsmooth.elim

/-! ## One lease through a run -/

/-- The call gave the client the lease. -/
def Event.Grants (name : String) (l : Lease τ) : Event τ → Prop
  | .acquire caller _ (.ok leases) => caller = name ∧ l ∈ leases
  | .flexAcquire caller _ (.ok grant) => caller = name ∧ l ∈ grant.granted
  | _ => False

/-- The client gives the id back, or ends. -/
def Event.Ends (name id : String) : Event τ → Prop
  | .release caller ids (.ok _) => caller = name ∧ id ∈ ids
  | .flexRelease caller _ (.ok outcome) => caller = name ∧ id ∈ outcome.succeeded
  | .start caller _ => caller = name
  | .stop caller => caller = name
  | _ => False

/-- A turn in which the client is granted a lease leaves it with that lease. -/
theorem Turn.has_granted {name : String} {l : Lease τ} (hs : g.script = {})
    (hl : e.Grants name l) (hturn : Turn issuer now r g e r' g') :
    r.name = name ∧ r'.client.Has l.ownerKey := by
  have hrecord : ∀ {q : CreateRequest},
      l ∈ (g.table.create issuer now q).1.granted →
        (r.client.record now (g.table.create issuer now q).1.granted).Has l.ownerKey := by
    intro q hmem
    have hdistinct := (LockTable.create_grants issuer now q g.table).distinct
    exact ⟨_, Client.get?_record_of_distinct hdistinct hmem, rfl⟩
  cases hturn with
  | acquire hcall =>
    cases Client.acquire_acquires hcall with
    | granted _ hcreate =>
      obtain ⟨_, rfl, _⟩ := Gate.create_ok hs hcreate
      exact ⟨hl.1, hrecord hl.2⟩
    | _ => exact hl.elim
  | flexAcquire hcall =>
    cases Client.flexAcquire_flexAcquires hcall with
    | granted hcreate =>
      obtain ⟨_, rfl, _⟩ := Gate.create_ok hs hcreate
      exact ⟨hl.1, hrecord hl.2⟩
    | idle => cases hl.2
    | failed => exact hl.elim
  | _ => exact hl.elim

/-- What a client keeps when it takes in leases for ids that it does not hold. -/
theorem has_record_other {q : CreateRequest} (hhas : c.Has k) (hnot : k.id ∉ q.ids) :
    (c.record now (t.create issuer now q).1.granted).Has k := by
  obtain ⟨held, hget, hkey⟩ := hhas
  refine ⟨held, ?_, hkey⟩
  rw [Client.get?_record_of_not_mem]
  · exact hget
  · intro hmem
    obtain ⟨l, hl, hid⟩ := List.mem_map.1 hmem
    exact hnot (hid ▸ (LockTable.create_grants issuer now q t).asked l hl)

theorem has_forget_other {ids : List String} (hhas : c.Has k) (hnot : k.id ∉ ids) :
    (c.forget ids).Has k := by
  obtain ⟨held, hget, hkey⟩ := hhas
  exact ⟨held, by rw [Client.get?_forget, if_neg hnot, hget], hkey⟩

/-- The table accepts the keys that a client counts on. -/
theorem Sound.owns_held {ids : List String} (hsound : Sound now t r)
    (hk : k ∈ (r.client.flexCheck now ids).held.map Lease.ownerKey) : t.Owns now k := by
  obtain ⟨_, held, hget, hl, hkey⟩ := (Client.mem_held_keys_iff hsound.inPlace).1 hk
  exact ⟨_, hsound.backed k.id held hget hl, hkey⟩

/-- A turn in which the client does not give an id back leaves it with the key, if that owns a lock
which the client counts on. -/
theorem Turn.has_kept (hs : g.script = {}) (hf : g.faults = {}) (hsound : Sound now g.table r)
    (hholds : r.client.holds now k.id = true) (hhas : r.client.Has k)
    (howns : g.table.Owns now k) (hsmooth : w.Smooth e) (hends : ¬ e.Ends r.name k.id)
    (hturn : Turn issuer now r g e r' g') : r'.client.Has k := by
  cases hturn with
  | acquire hcall =>
    cases Client.acquire_acquires hcall with
    | granted hfree hcreate =>
      obtain ⟨_, rfl, _⟩ := Gate.create_ok hs hcreate
      exact has_record_other hhas fun hid => List.filter_eq_nil_iff.1 hfree k.id hid hholds
    | _ => exact hhas
  | flexAcquire hcall =>
    cases Client.flexAcquire_flexAcquires hcall with
    | granted hcreate =>
      obtain ⟨_, rfl, _⟩ := Gate.create_ok hs hcreate
      exact has_record_other hhas fun hid => (Client.mem_wanted_iff.1 hid).2 hholds
    | _ => exact hhas
  | @release ids _ _ _ hcall =>
    cases Client.release_releases hcall with
    | answered hheld hrelease =>
      -- All that is to be released is locked, so the table refuses nothing.
      obtain ⟨rfl, _⟩ := Gate.release_ok hs hrelease
      have hdone : (g.table.release now
          ⟨(r.client.flexCheck now ids).held.map Lease.ownerKey, .rigid⟩).1.failed = [] := by
        unfold LockTable.release
        rw [LockTable.treat_failed, LockTable.refusals_eq_nil_iff]
        exact fun _ hk => hsound.owns_held hk
      rw [if_pos hdone] at hends
      exact has_forget_other hhas fun hid => hends ⟨rfl, hid⟩
    | _ => exact hhas
  | @flexRelease ids _ _ _ hcall =>
    cases Client.flexRelease_flexReleases hcall with
    | answered hrelease =>
      obtain ⟨rfl, _⟩ := Gate.release_ok hs hrelease
      refine has_forget_other hhas fun hid => hends ⟨rfl, ?_⟩
      have hkey : k ∈ (r.client.flexCheck now ids).held.map Lease.ownerKey := by
        obtain ⟨held, hget, hkey⟩ := hhas
        obtain ⟨held', hget', hl⟩ := Client.holds_iff.1 hholds
        cases hget.symm.trans hget'
        refine (Client.mem_held_keys_iff hsound.inPlace).2 ⟨?_, held, hget, hl, hkey⟩
        exact ((Client.mem_held_ids_iff hsound.inPlace).1 hid).1
      exact (LockTable.mem_treat_succeeded_iff LockTable.treats_remove
        LockTable.accepts_flexible).2 ⟨k.key, hkey, howns⟩
    | _ => exact hhas
  | tick =>
    rcases ticks_renew hs hf (Runner.tick_ticks issuer now r g) with ⟨_, hout⟩ | ⟨_, hout⟩
    · rw [hout]
      exact hhas
    · rw [hout]
      exact has_renewal hsound.inPlace hhas howns
  | reacquire => exact hsmooth.elim
  | answer => exact hsmooth.elim

/-- The client of that name keeps up and has the key. -/
def Keeping (name : String) (k : OwnerKey) (w : World τ) : Prop :=
  ∃ r ∈ w.runners, r.name = name ∧ r.client.config.KeepsUp ∧ r.client.Has k

/-- In a steady world a client that keeps up counts on all it has. -/
theorem Steady.counts (h : Steady w) (hr : r ∈ w.runners) (hkeeps : r.client.config.KeepsUp)
    (hhas : r.client.Has k) : (k.id, k.key) ∈ r.client.status w.now ∧ w.gate.table.Owns w.now k := by
  obtain ⟨held, hget, hkey⟩ := hhas
  have hin := h.inTime r hr
  have hl : w.now < held.deadline := Nat.lt_of_le_of_lt hin.notLate (hin.ahead hkeeps k.id held hget)
  have hstatus : (k.id, k.key) ∈ r.client.status w.now :=
    Client.mem_status_iff.2 ⟨held, hget, hl, hkey⟩
  exact ⟨hstatus, h.coherent.owns_of_mem_status hr hstatus⟩

theorem Keeping.step {name : String} (h : Steady w) (hk : Keeping name k w)
    (hsmooth : w.Smooth e) (hends : ¬ e.Ends name k.id) (hstep : Step w e w') :
    Keeping name k w' := by
  obtain ⟨r, hr, rfl, hkeeps, hhas⟩ := hk
  obtain ⟨hstatus, howns⟩ := h.counts hr hkeeps hhas
  cases hstep with
  | @turn _ s s' g hs hturn =>
    have hmem := fun other => World.mem_putRunner_iff (w := { w with gate := g }) (s := other) hs
      hturn.name
    by_cases hname : r.name = s.name
    · obtain rfl : r = s := h.coherent.named.eq hs hr hname
      refine ⟨s', (hmem s').2 (Or.inl rfl), hturn.name, hturn.config ▸ hkeeps, ?_⟩
      exact hturn.has_kept h.coherent.script h.faults (h.coherent.sound r hr)
        (Client.holds_of_mem_status hstatus) hhas howns hsmooth hends
    · exact ⟨r, (hmem r).2 (Or.inr ⟨hr, hname⟩), rfl, hkeeps, hhas⟩
  | start name config =>
    refine ⟨r, List.mem_append_left _ (List.mem_filter.2 ⟨hr, ?_⟩), rfl, hkeeps, hhas⟩
    exact decide_eq_true fun he => hends he.symm
  | stop name =>
    refine ⟨r, List.mem_filter.2 ⟨hr, ?_⟩, rfl, hkeeps, hhas⟩
    exact decide_eq_true fun he => hends he.symm
  | wait => exact ⟨r, hr, rfl, hkeeps, hhas⟩
  | faults => exact hsmooth.elim
  | revoke => exact hsmooth.elim
  | direct => exact hsmooth.elim

theorem Event.Grants.smooth {name : String} {l : Lease τ} (h : e.Grants name l) : w.Smooth e := by
  cases e <;> trivial

/-- The client that was granted a lease has it right after. -/
theorem Keeping.start {name : String} {l : Lease τ} (h : Steady w)
    (hconfig : ∀ r ∈ w.runners, r.name = name → r.client.config.KeepsUp)
    (hl : e.Grants name l) (hstep : Step w e w') : Keeping name l.ownerKey w' := by
  cases hstep with
  | @turn _ r r' g hr hturn =>
    obtain ⟨hname, hhas⟩ := hturn.has_granted h.coherent.script hl
    have hmem := (World.mem_putRunner_iff (w := { w with gate := g }) hr hturn.name).2 (Or.inl rfl)
    exact ⟨r', hmem, hturn.name.trans hname, hturn.config ▸ hconfig r hr hname, hhas⟩
  | _ => exact hl.elim

/-- A lease that was granted to a client that keeps up, and that it has not given back, is in its
status and locked for as long as the client lives, under the key it was granted with. -/
theorem lease_never_lapses {w₀ w₁ w₂ : World τ} {name : String} {l : Lease τ}
    (hd : issuer.Distinct) (hbefore : Reaches World.Smooth (World.new issuer) w₀)
    (hconfig : ∀ r ∈ w₀.runners, r.name = name → r.client.config.KeepsUp)
    (hstep : Step w₀ e w₁) (hl : e.Grants name l)
    (hafter : Reaches (fun w e => w.Smooth e ∧ ¬ e.Ends name l.id) w₁ w₂) :
    ∃ r ∈ w₂.runners, r.name = name ∧ (l.id, l.key) ∈ r.client.status w₂.now ∧
      w₂.gate.table.isLocked w₂.now l.id = true := by
  have hkeep : ∀ {w e w'}, w.issuer = issuer ∧ Steady w → w.Smooth e → Step w e w' →
      w'.issuer = issuer ∧ Steady w' := by
    rintro w e w' ⟨rfl, hw⟩ hsmooth hstep
    exact ⟨hstep.issuer, hw.step hd hsmooth hstep⟩
  have hw₀ : w₀.issuer = issuer ∧ Steady w₀ := hbefore.keeps hkeep ⟨rfl, steady_new issuer⟩
  have hw₁ : w₁.issuer = issuer ∧ Steady w₁ := hkeep hw₀ hl.smooth hstep
  have hk₁ : Keeping name l.ownerKey w₁ := Keeping.start hw₀.2 hconfig hl hstep
  obtain ⟨⟨_, hw₂⟩, r, hr, hname, hkeeps, hhas⟩ :
      (w₂.issuer = issuer ∧ Steady w₂) ∧ Keeping name l.ownerKey w₂ := by
    refine hafter.keeps (P := fun w => (w.issuer = issuer ∧ Steady w) ∧ Keeping name l.ownerKey w)
      ?_ ⟨hw₁, hk₁⟩
    rintro w e w' ⟨hw, hk⟩ ⟨hsmooth, hends⟩ hstep
    exact ⟨hkeep hw hsmooth hstep, hk.step hw.2 hsmooth hends hstep⟩
  obtain ⟨hstatus, _, hlive, _⟩ := hw₂.counts hr hkeeps hhas
  exact ⟨r, hr, hname, hstatus, LockTable.isLocked_of_live? hlive⟩

theorem World.Timely.not_ends {name : String} (h : w.Timely e) : ¬ e.Ends name id := by
  intro hends
  cases e <;> trivial

/-- A lease of one minute, an hour and more after it was granted. -/
theorem lease_never_lapses_hour :
    let w := World.acquired.2.advance (seconds 4000)
    ∃ r ∈ w.runners, r.name = "a" ∧ ("x1", "x1:rk:#2") ∈ r.client.status w.now ∧
      w.gate.table.isLocked w.now "x1" = true := by
  intro w
  have hgranted : World.acquired.1 = .ok [⟨"x0", "x0:rk:#1", some "x0:dk:#1", ()⟩,
      ⟨"x1", "x1:rk:#2", some "x1:dk:#2", ()⟩] := rfl
  have hl : (Event.acquire World.first.name ["x0", "x1"] World.acquired.1).Grants "a"
      ⟨"x1", "x1:rk:#2", some "x1:dk:#2", ()⟩ := by
    rw [hgranted]
    exact ⟨rfl, by decide⟩
  refine lease_never_lapses Issuer.numbered_distinct
    (World.pair_reaches (fun _ _ h => h.smooth) fun _ _ _ => trivial) (by decide)
    World.acquired_step hl ?_
  exact (World.advance_timely (World.acquired_step.named World.pair_named) _).mono
    fun _ _ h => ⟨h.smooth, h.not_ends⟩

end Inventory.Reservation
