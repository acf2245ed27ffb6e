-- The clock's own operations. Each is a run in which no tick is passed over:
-- the fuel lasts until nothing is left to tick, since every tick takes one
-- from the number of ticks that are still to come.
import Mathlib.Algebra.Order.BigOperators.Group.List
import Mathlib.Algebra.Order.Ring.Nat
import Inventory.Proofs.Runs

namespace Inventory.Reservation

variable {τ : Type} {target : Instant}

/-! ## The ticks to come -/

namespace Runner

variable {issuer : Issuer τ} {now : Instant} {r : Runner τ} {g : Gate τ}

theorem ticksBy_iff : r.ticksBy target = true ↔ r.waiting = none ∧ r.nextTick ≤ target := by
  simp [ticksBy]

/-- How often a runner ticks up to an instant, if nothing holds it up. -/
def ticksLeft (target : Instant) (r : Runner τ) : Nat :=
  if r.ticksBy target then (target - r.nextTick) / r.client.config.renewInterval + 1 else 0

theorem ticksLeft_pos (h : r.ticksBy target = true) : 0 < r.ticksLeft target := by
  unfold ticksLeft
  rw [if_pos h]
  exact Nat.succ_pos _

theorem ticksLeft_le :
    r.ticksLeft target ≤ (target - r.nextTick) / r.client.config.renewInterval + 1 := by
  unfold ticksLeft
  split
  · exact Nat.le_refl _
  · exact Nat.zero_le _

/-- A tick takes one from the ticks to come. -/
theorem ticksLeft_tick (h : r.ticksBy target = true) :
    (r.tick issuer now g).1.ticksLeft target < r.ticksLeft target := by
  have ht := tick_ticks issuer now r g
  have hle : r.nextTick + r.client.config.renewInterval ≤ r.followingTick now := le_followingTick
  generalize r.followingTick now = next at ht hle
  generalize r.tick issuer now g = out at ht ⊢
  by_cases hby : out.1.ticksBy target = true
  · have hnext : next ≤ target := ht.nextTick ▸ (ticksBy_iff.1 hby).2
    have hpos : 0 < r.client.config.renewInterval := Config.renewInterval_pos _
    have hroom : target - next + r.client.config.renewInterval ≤ target - r.nextTick := by
      generalize r.client.config.renewInterval = interval at hle
      simp only [Instant, Duration] at *
      omega
    unfold ticksLeft
    rw [if_pos h, if_pos hby, ht.config, ht.nextTick, ← Nat.add_div_right _ hpos]
    exact Nat.lt_succ_of_le (Nat.div_le_div_right hroom)
  · unfold ticksLeft
    rw [if_neg hby]
    exact ticksLeft_pos h

end Runner

namespace World

variable {w : World τ} {r s : Runner τ} {rs : List (Runner τ)} {best : Option (Runner τ)}

/-- The one of two that ticks first. -/
def sooner (best : Option (Runner τ)) (r : Runner τ) : Option (Runner τ) :=
  match best with
  | none => some r
  | some b => if r.nextTick < b.nextTick then some r else some b

theorem firstTicking?_eq (w : World τ) (target : Instant) :
    w.firstTicking? target = (w.runners.filter (Runner.ticksBy target)).foldl sooner none := rfl

theorem foldl_sooner_some (rs : List (Runner τ)) (b : Runner τ) :
    ∃ r, rs.foldl sooner (some b) = some r ∧ (r = b ∨ r ∈ rs) ∧ r.nextTick ≤ b.nextTick ∧
      ∀ s ∈ rs, r.nextTick ≤ s.nextTick := by
  induction rs generalizing b with
  | nil => exact ⟨b, rfl, Or.inl rfl, Nat.le_refl _, by simp⟩
  | cons s rs ih =>
    rw [List.foldl_cons]
    by_cases h : s.nextTick < b.nextTick
    · obtain ⟨r, hr, hmem, hle, hall⟩ := ih s
      refine ⟨r, by simpa [sooner, h] using hr, Or.inr ?_, Nat.le_trans hle (Nat.le_of_lt h), ?_⟩
      · rcases hmem with rfl | hmem
        · exact List.mem_cons_self
        · exact List.mem_cons_of_mem _ hmem
      · exact List.forall_mem_cons.2 ⟨hle, hall⟩
    · obtain ⟨r, hr, hmem, hle, hall⟩ := ih b
      refine ⟨r, by simpa [sooner, h] using hr, ?_, hle, ?_⟩
      · rcases hmem with rfl | hmem
        · exact Or.inl rfl
        · exact Or.inr (List.mem_cons_of_mem _ hmem)
      · exact List.forall_mem_cons.2 ⟨Nat.le_trans hle (Nat.not_lt.1 h), hall⟩

/-- No runner ticks before the first one. -/
theorem firstTicking?_some (h : w.firstTicking? target = some r) :
    r ∈ w.runners ∧ r.ticksBy target = true ∧
      ∀ s ∈ w.runners, s.ticksBy target = true → r.nextTick ≤ s.nextTick := by
  rw [firstTicking?_eq] at h
  cases hrs : w.runners.filter (Runner.ticksBy target) with
  | nil =>
    rw [hrs] at h
    cases h
  | cons b rs =>
    rw [hrs, List.foldl_cons] at h
    obtain ⟨first, hfirst, hmem, hle, hall⟩ := foldl_sooner_some rs b
    obtain rfl : first = r := Option.some.inj (hfirst.symm.trans h)
    have hin : first ∈ w.runners.filter (Runner.ticksBy target) := by
      rw [hrs, List.mem_cons]
      exact hmem
    rw [List.mem_filter] at hin
    refine ⟨hin.1, hin.2, fun s hs hby => ?_⟩
    have hs' : s ∈ b :: rs := by
      rw [← hrs, List.mem_filter]
      exact ⟨hs, hby⟩
    rcases List.mem_cons.1 hs' with rfl | hs'
    · exact hle
    · exact hall s hs'

theorem firstTicking?_eq_none_iff :
    w.firstTicking? target = none ↔ ∀ r ∈ w.runners, ¬ r.ticksBy target = true := by
  rw [firstTicking?_eq]
  cases hrs : w.runners.filter (Runner.ticksBy target) with
  | nil => simpa [List.filter_eq_nil_iff] using hrs
  | cons b rs =>
    obtain ⟨first, hfirst, _⟩ := foldl_sooner_some rs b
    have hb : b ∈ w.runners.filter (Runner.ticksBy target) := by
      rw [hrs]
      exact List.mem_cons_self
    rw [List.mem_filter] at hb
    rw [List.foldl_cons]
    have hsome : rs.foldl sooner (sooner none b) = some first := hfirst
    simp only [hsome, reduceCtorEq, false_iff, not_forall, not_not]
    exact ⟨b, hb.1, hb.2⟩

/-- How many ticks come up to an instant. -/
def ticksLeft (w : World τ) (target : Instant) : Nat :=
  (w.runners.map (Runner.ticksLeft target)).sum

theorem ticksLeft_le_tickBound (w : World τ) (target : Instant) :
    w.ticksLeft target ≤ w.tickBound target := by
  unfold ticksLeft tickBound
  induction w.runners with
  | nil => exact Nat.le_refl _
  | cons r rs ih =>
    rw [List.map_cons, List.sum_cons, List.foldr_cons]
    exact Nat.add_le_add Runner.ticksLeft_le ih

theorem ticksLeft_tick (hn : w.Named) (hr : r ∈ w.runners) (hby : r.ticksBy target = true) :
    (w.tick r).ticksLeft target < w.ticksLeft target := by
  unfold ticksLeft tick putRunner
  dsimp only
  rw [List.map_map]
  have hname : (r.tick w.issuer (max w.now r.nextTick) w.gate).1.name = r.name :=
    (Runner.tick_ticks ..).name
  have hless : (r.tick w.issuer (max w.now r.nextTick) w.gate).1.ticksLeft target <
      r.ticksLeft target := Runner.ticksLeft_tick hby
  generalize (r.tick w.issuer (max w.now r.nextTick) w.gate).1 = r' at hname hless
  apply List.sum_lt_sum
  · intro s hs
    dsimp only [Function.comp]
    split
    · rename_i hs'
      rw [hn.eq hr hs (hs'.trans hname)]
      exact Nat.le_of_lt hless
    · exact Nat.le_refl _
  · refine ⟨r, hr, ?_⟩
    dsimp only [Function.comp]
    rw [if_pos hname.symm]
    exact hless

theorem Named.tick (hn : w.Named) (r : Runner τ) : (w.tick r).Named := by
  unfold Named World.tick
  rw [names_putRunner]
  exact hn

/-- The fuel that a runner ticks with lasts until the last tick. -/
theorem runTicks_ends {fuel : Nat} (hn : w.Named) (hfuel : w.ticksLeft target ≤ fuel) :
    (runTicks target fuel w).firstTicking? target = none := by
  induction fuel generalizing w with
  | zero =>
    rw [runTicks, firstTicking?_eq_none_iff]
    intro r hr hby
    have hpos : 0 < w.ticksLeft target :=
      Nat.lt_of_lt_of_le (Runner.ticksLeft_pos hby)
        (List.le_sum_of_mem (List.mem_map.2 ⟨r, hr, rfl⟩))
    omega
  | succ fuel ih =>
    unfold runTicks
    cases h : w.firstTicking? target with
    | none => exact h
    | some r =>
      obtain ⟨hr, hby, _⟩ := firstTicking?_some h
      have hless : (w.tick r).ticksLeft target < w.ticksLeft target := ticksLeft_tick hn hr hby
      exact ih (hn.tick r) (by omega)

/-! ## Runs of the clock -/

/-- The event does not pass a tick over. -/
def OnTime (w : World τ) : Event τ → Prop
  | .wait d => ∀ r ∈ w.runners, r.waiting = none → w.now + d ≤ r.nextTick
  | _ => True

/-- An event of the clock that comes on time. -/
def Timely (w : World τ) : Event τ → Prop
  | .tick _ => True
  | .wait d => w.OnTime (.wait d)
  | _ => False

theorem wait_now (w : World τ) (target : Instant) :
    (w.wait (target - w.now)).now = max w.now target := by
  unfold wait
  dsimp only
  rw [Nat.add_comm, Nat.sub_add_eq_max, Nat.max_comm]

/-- Up to the first tick the clock moves at once. -/
theorem wait_timely (h : ∀ r ∈ w.runners, r.waiting = none → target ≤ r.nextTick) :
    Reaches Timely w (w.wait (target - w.now)) := by
  by_cases hpast : target ≤ w.now
  · rw [Nat.sub_eq_zero_of_le hpast]
    exact .refl w
  · refine .step (.wait _) ?_
    intro r hr hfree
    rw [Nat.add_sub_cancel' (Nat.le_of_not_le hpast)]
    exact h r hr hfree

theorem tick_timely (h : w.firstTicking? target = some r) : Reaches Timely w (w.tick r) := by
  obtain ⟨hr, hby, hfirst⟩ := firstTicking?_some h
  obtain ⟨hfree, hle⟩ := Runner.ticksBy_iff.1 hby
  have hwait : Reaches Timely w (w.wait (r.nextTick - w.now)) := by
    apply wait_timely
    intro s hs hsfree
    by_cases hsby : s.nextTick ≤ target
    · exact hfirst s hs (Runner.ticksBy_iff.2 ⟨hsfree, hsby⟩)
    · exact Nat.le_trans hle (Nat.le_of_not_le hsby)
  have hdue : r.nextTick ≤ (w.wait (r.nextTick - w.now)).now := by
    rw [wait_now]
    exact Nat.le_max_right ..
  refine hwait.trans ?_
  unfold tick
  rw [← wait_now]
  have hstep : Step (w.wait (r.nextTick - w.now)) (.tick r.name) _ := .turn hr (.tick hfree hdue)
  exact .step hstep trivial

theorem runTicks_timely (target : Instant) (fuel : Nat) (w : World τ) :
    Reaches Timely w (runTicks target fuel w) := by
  induction fuel generalizing w with
  | zero => exact .refl w
  | succ fuel ih =>
    unfold runTicks
    cases h : w.firstTicking? target with
    | none => exact .refl w
    | some r => exact (tick_timely h).trans (ih _)

/-- Moving the clock lets every tick on the way happen at its instant. -/
theorem runTo_timely (hn : w.Named) (target : Instant) : Reaches Timely w (w.runTo target) := by
  refine (runTicks_timely target (w.tickBound target) w).trans ?_
  have hends := runTicks_ends hn (ticksLeft_le_tickBound w target)
  unfold runTo
  generalize runTicks target (w.tickBound target) w = w' at hends ⊢
  have hwait : Reaches Timely w' (w'.wait (target - w'.now)) := by
    apply wait_timely
    intro r hr hfree
    by_contra hlate
    exact firstTicking?_eq_none_iff.1 hends r hr
      (Runner.ticksBy_iff.2 ⟨hfree, Nat.le_of_not_le hlate⟩)
  dsimp only
  rw [← wait_now]
  exact hwait

theorem advance_timely (hn : w.Named) (d : Duration) : Reaches Timely w (w.advance d) :=
  runTo_timely hn _

theorem settle_timely (hn : w.Named) : Reaches Timely w w.settle := runTo_timely hn _

/-! ## Runs of the other operations -/

section Runs

variable {allowed : World τ → Event τ → Prop}

/-- A client starts, and ticks at once. -/
theorem addClient_reaches (hn : w.Named) (hclock : ∀ w e, Timely w e → allowed w e)
    {name : String} {config : Config} (hstart : allowed w (.start name config)) :
    Reaches allowed w (w.addClient name config) :=
  (Reaches.step (.start name config) hstart).trans
    ((settle_timely (hn.enrol name config)).mono hclock)

/-- A call of a client is one event. -/
theorem onClient_step {α : Type} {e : α → Event τ} (hr : r ∈ w.runners)
    {f : Service (Gate τ) τ → Instant → Client τ → Gate τ → α × Client τ × Gate τ}
    (h : ∀ {a c g}, f (Gate.service w.issuer w.now) w.now r.client w.gate = (a, c, g) →
      Turn w.issuer w.now r w.gate (e a) { r with client := c } g) :
    Step w (e (w.onClient r f).1) (w.onClient r f).2 :=
  .turn hr (h rfl)

/-- The gate answers a renewal if one waits. -/
theorem letThrough_reaches (hr : r ∈ w.runners) (ha : ∀ w, allowed w (.answer r.name)) :
    Reaches allowed w (w.letThrough r) := by
  unfold letThrough
  split
  · exact .refl w
  · rename_i sent hsent
    exact .step (.turn hr (.answer hsent)) (ha w)

theorem mem_letThrough (hs : s ∈ w.runners) (hne : s.name ≠ r.name) :
    s ∈ (w.letThrough r).runners := by
  unfold letThrough
  split
  · exact hs
  · exact List.mem_map.2 ⟨s, hs, if_neg hne⟩

theorem Named.letThrough (hn : w.Named) (r : Runner τ) : (w.letThrough r).Named := by
  unfold World.letThrough
  split
  · exact hn
  · unfold Named
    rw [names_putRunner]
    exact hn

/-- Runners of different names are let through one after the other. -/
theorem foldl_letThrough_reaches (hn : w.Named) (hrs : ∀ r ∈ rs, r ∈ w.runners)
    (hnames : (rs.map Runner.name).Nodup) (ha : ∀ w name, allowed w (.answer name)) :
    Reaches allowed w (rs.foldl letThrough w) ∧ (rs.foldl letThrough w).Named := by
  induction rs generalizing w with
  | nil => exact ⟨.refl w, hn⟩
  | cons r rs ih =>
    rw [List.map_cons, List.nodup_cons] at hnames
    have hrest : ∀ s ∈ rs, s ∈ (w.letThrough r).runners := by
      intro s hs
      refine mem_letThrough (hrs s (List.mem_cons_of_mem _ hs)) fun he => hnames.1 ?_
      exact List.mem_map.2 ⟨s, hs, he⟩
    obtain ⟨hreach, hnamed⟩ := ih (hn.letThrough r) hrest hnames.2
    exact ⟨(letThrough_reaches (hrs r List.mem_cons_self) fun w => ha w _).trans hreach, hnamed⟩

/-- The gate changes, and answers the renewals that need not wait any longer. -/
theorem setFaults_reaches (hn : w.Named) (hclock : ∀ w e, Timely w e → allowed w e)
    (ha : ∀ w name, allowed w (.answer name)) {faults : Faults}
    (hfaults : allowed w (.faults faults)) : Reaches allowed w (w.setFaults faults) := by
  refine (Reaches.step (.faults faults) hfaults).trans ?_
  unfold setFaults
  dsimp only
  split
  · exact .refl _
  · have hnamed : ({ w with gate := { w.gate with faults } } : World τ).Named := hn
    obtain ⟨hreach, hafter⟩ := foldl_letThrough_reaches hnamed (fun r hr => hr) hn ha
    exact hreach.trans ((settle_timely hafter).mono hclock)

theorem named_new (issuer : Issuer τ) : (World.new issuer).Named := List.nodup_nil

/-- Two clients at one table. -/
def pair : World Unit := ((World.new .numbered).addClient "a" {}).addClient "b" {}

/-- The client that was there first. -/
def first : Runner Unit := pair.runners.head (by decide)

theorem first_mem : first ∈ pair.runners := List.head_mem _

theorem pair_named : pair.Named := by
  unfold Named
  decide

theorem pair_reaches {allowed : World Unit → Event Unit → Prop}
    (hclock : ∀ w e, Timely w e → allowed w e)
    (hstart : ∀ w name config, allowed w (.start name config)) :
    Reaches allowed (World.new .numbered) pair := by
  have hone : Reaches allowed (World.new .numbered) ((World.new .numbered).addClient "a" {}) :=
    addClient_reaches (named_new _) hclock (hstart _ _ _)
  exact hone.trans (addClient_reaches (by unfold Named; decide) hclock (hstart _ _ _))

/-- The first of the two acquires two leases. -/
def acquired : Except Error (List (Lease Unit)) × World Unit :=
  pair.onClient first fun service now => Client.acquire service now ["x0", "x1"]

theorem acquired_step : Step pair (.acquire first.name ["x0", "x1"] acquired.1) acquired.2 :=
  onClient_step first_mem .acquire

end Runs

end World

end Inventory.Reservation
