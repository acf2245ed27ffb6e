-- Runs of a world: what can happen in it, one event after the other. Time and
-- ticks are events of their own here, so a run may stop anywhere between two of
-- them; the operations that move the clock are runs of many such events.
import Mathlib.Data.List.Nodup
import Mathlib.Logic.Relation
import Inventory.Proofs.Holdings
import Inventory.Proofs.LiveLocks
import Inventory.Reservation.World

namespace Inventory.Reservation

variable {τ : Type}

/-! ## The gate -/

namespace Gate

variable {issuer : Issuer τ} {now : Instant} {g g' : Gate τ}

/-- The gate behaves as before: nothing else is laid out and nothing else is out of order. -/
structure Alike (g g' : Gate τ) : Prop where
  script : g'.script = g.script
  faults : g'.faults = g.faults

theorem Alike.refl (g : Gate τ) : Alike g g := ⟨rfl, rfl⟩

theorem Alike.trans {g'' : Gate τ} (h : Alike g g') (h' : Alike g' g'') : Alike g g'' :=
  ⟨h'.script.trans h.script, h'.faults.trans h.faults⟩

theorem create_alike {r : CreateRequest} {answer : Except Error (Grant τ)} (hs : g.script = {})
    (h : (service issuer now).create r g = (answer, g')) : Alike g g' := by
  simp only [service, answerCreate, log, hs] at h
  split at h <;> cases h <;> exact ⟨hs.symm, rfl⟩

theorem answerRenew_alike (r : RenewRequest) (hs : g.script = {}) :
    Alike g (g.answerRenew now r).2 := by
  simp only [answerRenew, hs]
  split
  · exact .refl g
  · exact ⟨hs.symm, rfl⟩

theorem renew_alike {r : RenewRequest} {answer : Except Error Outcome} (hs : g.script = {})
    (h : (service issuer now).renew r g = (answer, g')) : Alike g g' := by
  simp only [service, answerRenew, log, hs] at h
  split at h <;> cases h <;> exact ⟨hs.symm, rfl⟩

theorem release_alike {r : ReleaseRequest} {answer : Except Error Outcome} (hs : g.script = {})
    (h : (service issuer now).release r g = (answer, g')) : Alike g g' := by
  simp only [service, answerRelease, log, hs] at h
  split at h <;> cases h <;> exact ⟨hs.symm, rfl⟩

/-- A request for locks that is answered has reached the table, maybe as a flexible one. -/
theorem create_ok {r : CreateRequest} {answer : Grant τ} (hs : g.script = {})
    (h : (service issuer now).create r g = (.ok answer, g')) :
    ∃ model, answer = (g.table.create issuer now { r with model }).1 ∧
      g'.table = (g.table.create issuer now { r with model }).2 := by
  simp only [service, answerCreate, log, hs] at h
  split at h
  · cases h
  · cases h
    by_cases hrigid : g.faults.ignoreRigid = true
    · exact ⟨.flexible, by simp [hrigid]⟩
    · exact ⟨r.model, by simp [hrigid]⟩

theorem create_error {r : CreateRequest} {e : Error} (hs : g.script = {})
    (h : (service issuer now).create r g = (.error e, g')) : g'.table = g.table := by
  simp only [service, answerCreate, log, hs] at h
  split at h
  · cases h
    rfl
  · cases h

theorem release_ok {r : ReleaseRequest} {answer : Outcome} (hs : g.script = {})
    (h : (service issuer now).release r g = (.ok answer, g')) :
    answer = (g.table.release now r).1 ∧ g'.table = (g.table.release now r).2 := by
  simp only [service, answerRelease, log, hs] at h
  split at h
  · cases h
  · cases h
    exact ⟨rfl, rfl⟩

theorem release_error {r : ReleaseRequest} {e : Error} (hs : g.script = {})
    (h : (service issuer now).release r g = (.error e, g')) : e = down ∧ g'.table = g.table := by
  simp only [service, answerRelease, log, hs] at h
  split at h
  · cases h
    exact ⟨rfl, rfl⟩
  · cases h

theorem answerRenew_ok {r : RenewRequest} {answer : Outcome} (hs : g.script = {})
    (h : g.answerRenew now r = (.ok answer, g')) :
    answer = (g.table.renew now r).1 ∧ g'.table = (g.table.renew now r).2 := by
  simp only [answerRenew, hs] at h
  split at h
  · cases h
  · cases h
    exact ⟨rfl, rfl⟩

theorem answerRenew_error {r : RenewRequest} {e : Error} (hs : g.script = {})
    (h : g.answerRenew now r = (.error e, g')) :
    g.faults.renewDown = true ∧ g'.table = g.table := by
  simp only [answerRenew, hs] at h
  split at h
  · rename_i hdown
    cases h
    exact ⟨hdown, rfl⟩
  · cases h

end Gate

/-! ## Events -/

/-- A request to the table that does not come through the gate. -/
inductive Request
  | create (r : CreateRequest)
  | renew (r : RenewRequest)
  | release (r : ReleaseRequest)

/-- What can happen in a world. The call of a client stands there with its result. -/
inductive Event (τ : Type)
  | start (name : String) (config : Config)
  | stop (name : String)
  | acquire (name : String) (ids : List String) (result : Except Error (List (Lease τ)))
  | flexAcquire (name : String) (ids : List String) (result : Except Error (Grant τ))
  | release (name : String) (ids : List String) (result : Except Error Unit)
  | flexRelease (name : String) (ids : List String) (result : Except Error Outcome)
  | reacquire (name : String) (leases : List (Lease τ)) (model : Model)
    (result : Except Error Outcome)
  | tick (name : String)
  | answer (name : String)
  | wait (d : Duration)
  | faults (faults : Faults)
  | revoke (id : String)
  | direct (request : Request)

/-- What a request does to the table. -/
def Request.serve (issuer : Issuer τ) (now : Instant) (t : LockTable) : Request → LockTable
  | .create r => (t.create issuer now r).2
  | .renew r => (t.renew now r).2
  | .release r => (t.release now r).2

namespace World

/-- A client is there that has not ticked yet. -/
def enrol (w : World τ) (name : String) (config : Config) : World τ :=
  let w := w.removeClient name
  { w with runners := w.runners ++ [⟨name, Client.new config, w.now, none⟩] }

/-- Time passes, and nothing else happens. -/
def wait (w : World τ) (d : Duration) : World τ := { w with now := w.now + d }

end World

/-- What one client does at an instant, with its runner and the gate before and after. A client
ticks when its instant has come, and while it waits at the gate it does not. -/
inductive Turn (issuer : Issuer τ) (now : Instant) (r : Runner τ) (g : Gate τ) :
    Event τ → Runner τ → Gate τ → Prop
  | acquire {ids : List String} {result : Except Error (List (Lease τ))} {c : Client τ}
    {g' : Gate τ} (h : r.client.acquire (Gate.service issuer now) now ids g = (result, c, g')) :
    Turn issuer now r g (.acquire r.name ids result) { r with client := c } g'
  | flexAcquire {ids : List String} {result : Except Error (Grant τ)} {c : Client τ} {g' : Gate τ}
    (h : r.client.flexAcquire (Gate.service issuer now) now ids g = (result, c, g')) :
    Turn issuer now r g (.flexAcquire r.name ids result) { r with client := c } g'
  | release {ids : List String} {result : Except Error Unit} {c : Client τ} {g' : Gate τ}
    (h : r.client.release (Gate.service issuer now) now ids g = (result, c, g')) :
    Turn issuer now r g (.release r.name ids result) { r with client := c } g'
  | flexRelease {ids : List String} {result : Except Error Outcome} {c : Client τ} {g' : Gate τ}
    (h : r.client.flexRelease (Gate.service issuer now) now ids g = (result, c, g')) :
    Turn issuer now r g (.flexRelease r.name ids result) { r with client := c } g'
  | reacquire {leases : List (Lease τ)} {model : Model} {result : Except Error Outcome}
    {c : Client τ} {g' : Gate τ}
    (h : r.client.reacquire (Gate.service issuer now) now leases model g = (result, c, g')) :
    Turn issuer now r g (.reacquire r.name leases model result) { r with client := c } g'
  | tick (hfree : r.waiting = none) (hdue : r.nextTick ≤ now) :
    Turn issuer now r g (.tick r.name) (r.tick issuer now g).1 (r.tick issuer now g).2
  | answer {sent : List OwnerKey} (hsent : r.waiting = some sent) :
    Turn issuer now r g (.answer r.name) (r.finishRenewal issuer now sent g).1
      (r.finishRenewal issuer now sent g).2

/-- One event. -/
inductive Step : World τ → Event τ → World τ → Prop
  | turn {w : World τ} {e : Event τ} {r r' : Runner τ} {g : Gate τ} (hr : r ∈ w.runners)
    (h : Turn w.issuer w.now r w.gate e r' g) :
    Step w e (({ w with gate := g } : World τ).putRunner r')
  | start {w : World τ} (name : String) (config : Config) :
    Step w (.start name config) (w.enrol name config)
  | stop {w : World τ} (name : String) : Step w (.stop name) (w.removeClient name)
  | wait {w : World τ} (d : Duration) : Step w (.wait d) (w.wait d)
  | faults {w : World τ} (faults : Faults) :
    Step w (.faults faults) { w with gate := { w.gate with faults } }
  | revoke {w : World τ} (id : String) :
    Step w (.revoke id) (w.onTable fun t => t.revoke id).2
  | direct {w : World τ} (request : Request) :
    Step w (.direct request) (w.onTable fun t => ((), request.serve w.issuer w.now t)).2

/-- One world comes out of another by allowed events. -/
def Reaches (allowed : World τ → Event τ → Prop) : World τ → World τ → Prop :=
  Relation.ReflTransGen fun w w' => ∃ e, allowed w e ∧ Step w e w'

namespace Reaches

variable {allowed allowed' : World τ → Event τ → Prop} {w w' w'' : World τ} {e : Event τ}

theorem refl (w : World τ) : Reaches allowed w w := Relation.ReflTransGen.refl

theorem trans (h : Reaches allowed w w') (h' : Reaches allowed w' w'') : Reaches allowed w w'' :=
  Relation.ReflTransGen.trans h h'

theorem step (h : Step w e w') (ha : allowed w e) : Reaches allowed w w' :=
  Relation.ReflTransGen.single ⟨e, ha, h⟩

theorem mono (hsub : ∀ w e, allowed w e → allowed' w e) (h : Reaches allowed w w') :
    Reaches allowed' w w' := by
  induction h with
  | refl => exact refl w
  | tail _ hlast ih =>
    obtain ⟨e, ha, hstep⟩ := hlast
    exact ih.trans (step hstep (hsub _ e ha))

/-- What every allowed event keeps holds after every run. -/
theorem keeps {P : World τ → Prop}
    (hkeep : ∀ {w e w'}, P w → allowed w e → Step w e w' → P w')
    (h : Reaches allowed w w') (hw : P w) : P w' := by
  induction h with
  | refl => exact hw
  | tail _ hlast ih =>
    obtain ⟨e, ha, hstep⟩ := hlast
    exact hkeep ih ha hstep

end Reaches

/-! ## Runners -/

namespace Runner

variable {issuer : Issuer τ} {now : Instant} {r : Runner τ} {g : Gate τ} {sent : List OwnerKey}

/-- A tick moves the next one and sends what is due, if anything is. The instant of the next one is
a parameter, so that no proof about a tick has to look into it. -/
inductive Ticks (issuer : Issuer τ) (now next : Instant) (r : Runner τ) (g : Gate τ) :
    Runner τ × Gate τ → Prop
  | idle (hnone : r.client.due now = []) :
    Ticks issuer now next r g ({ r with nextTick := next }, g)
  | held {g' : Gate τ} (hhold : g.faults.holdRenewals = true) (halike : Gate.Alike g g')
    (htable : g'.table = g.table) :
    Ticks issuer now next r g
      ({ r with nextTick := next, waiting := some (r.client.due now) }, g')
  | sent {g' : Gate τ} (halike : Gate.Alike g g') (htable : g'.table = g.table) :
    Ticks issuer now next r g
      (({ r with nextTick := next } : Runner τ).finishRenewal issuer now (r.client.due now) g')

theorem tick_ticks (issuer : Issuer τ) (now : Instant) (r : Runner τ) (g : Gate τ) :
    Ticks issuer now (r.followingTick now) r g (r.tick issuer now g) := by
  unfold tick renewDue
  dsimp only
  split
  · rename_i hnone
    exact .idle (List.isEmpty_iff.1 hnone)
  · split
    · rename_i hhold
      exact .held hhold ⟨rfl, rfl⟩ rfl
    · exact .sent ⟨rfl, rfl⟩ rfl

theorem finishRenewal_config :
    (r.finishRenewal issuer now sent g).1.client.config = r.client.config :=
  Client.settleRenewal_config

/-- The gate answers a renewal from the table or not at all, and goes on as before. -/
theorem finishRenewal_alike (hs : g.script = {}) :
    Gate.Alike g (r.finishRenewal issuer now sent g).2 := by
  have h : Gate.Alike g (g.answerRenew now (r.client.renewal sent)).2 :=
    Gate.answerRenew_alike _ hs
  exact h

section Ticks

variable {next : Instant} {out : Runner τ × Gate τ}

theorem Ticks.name (h : Ticks issuer now next r g out) : out.1.name = r.name := by
  cases h <;> rfl

theorem Ticks.config (h : Ticks issuer now next r g out) :
    out.1.client.config = r.client.config := by
  cases h with
  | idle => rfl
  | held => rfl
  | sent => exact finishRenewal_config

theorem Ticks.inPlace (hc : r.client.InPlace) (h : Ticks issuer now next r g out) :
    out.1.client.InPlace := by
  cases h with
  | sent => exact Client.settleRenewal_inPlace hc
  | _ => exact hc

theorem Ticks.nextTick (h : Ticks issuer now next r g out) : out.1.nextTick = next := by
  cases h <;> rfl

end Ticks

/-- A tick that is not late keeps the rhythm. -/
theorem followingTick_of_le (h : now ≤ r.nextTick) :
    r.followingTick now = r.nextTick + r.client.config.renewInterval := by
  unfold followingTick
  rw [if_neg (Nat.not_lt.2 (Nat.le_add_right_of_le h))]

theorem le_followingTick : r.nextTick + r.client.config.renewInterval ≤ r.followingTick now := by
  unfold followingTick
  split
  · rename_i hlate
    exact Nat.add_le_add_right (Nat.le_of_lt (Nat.lt_of_le_of_lt (Nat.le_add_right ..) hlate)) _
  · exact Nat.le_refl _

end Runner

namespace Turn

variable {issuer : Issuer τ} {now : Instant} {e : Event τ} {r r' : Runner τ} {g g' : Gate τ}

theorem name (h : Turn issuer now r g e r' g') : r'.name = r.name := by
  cases h with
  | tick => exact (Runner.tick_ticks issuer now r g).name
  | _ => rfl

theorem config (h : Turn issuer now r g e r' g') : r'.client.config = r.client.config := by
  cases h with
  | acquire h => exact (Client.acquire_changes h).config
  | flexAcquire h => exact (Client.flexAcquire_changes h).config
  | release h => exact (Client.release_changes h).config
  | flexRelease h => exact (Client.flexRelease_changes h).config
  | reacquire h => exact (Client.reacquire_changes h).config
  | tick => exact (Runner.tick_ticks issuer now r g).config
  | answer => exact Runner.finishRenewal_config

theorem inPlace (hc : r.client.InPlace) (h : Turn issuer now r g e r' g') : r'.client.InPlace := by
  cases h with
  | acquire h => exact (Client.acquire_changes h).inPlace hc
  | flexAcquire h => exact (Client.flexAcquire_changes h).inPlace hc
  | release h => exact (Client.release_changes h).inPlace hc
  | flexRelease h => exact (Client.flexRelease_changes h).inPlace hc
  | reacquire h => exact (Client.reacquire_changes h).inPlace hc
  | tick => exact (Runner.tick_ticks issuer now r g).inPlace hc
  | answer => exact Client.settleRenewal_inPlace hc

theorem alike (hs : g.script = {}) (h : Turn issuer now r g e r' g') : Gate.Alike g g' := by
  cases h with
  | acquire h =>
    cases Client.acquire_acquires h with
    | alreadyHeld => exact .refl g
    | failed _ hcreate => exact Gate.create_alike hs hcreate
    | granted _ hcreate => exact Gate.create_alike hs hcreate
    | refused _ hcreate =>
      have halike := Gate.create_alike hs hcreate
      split
      · exact halike
      · exact halike.trans (Gate.release_alike (halike.script.trans hs) (Prod.eta _).symm)
  | flexAcquire h =>
    cases Client.flexAcquire_flexAcquires h with
    | idle => exact .refl g
    | failed hcreate => exact Gate.create_alike hs hcreate
    | granted hcreate => exact Gate.create_alike hs hcreate
  | release h =>
    cases Client.release_releases h with
    | missing => exact .refl g
    | failed _ hrelease => exact Gate.release_alike hs hrelease
    | answered _ hrelease => exact Gate.release_alike hs hrelease
  | flexRelease h =>
    cases Client.flexRelease_flexReleases h with
    | idle => exact .refl g
    | failed hrelease => exact Gate.release_alike hs hrelease
    | answered hrelease => exact Gate.release_alike hs hrelease
  | reacquire h =>
    unfold Client.reacquire at h
    split at h
    · rename_i hrenew
      cases h
      exact Gate.renew_alike hs hrenew
    · rename_i hrenew
      cases h
      exact Gate.renew_alike hs hrenew
  | tick =>
    have ht := Runner.tick_ticks issuer now r g
    generalize r.tick issuer now g = out at ht ⊢
    cases ht with
    | idle => exact .refl g
    | held _ halike => exact halike
    | sent halike => exact halike.trans (Runner.finishRenewal_alike (halike.script.trans hs))
  | answer => exact Runner.finishRenewal_alike hs

end Turn

namespace World

variable {w : World τ} {r r' s : Runner τ} {g : Gate τ}

theorem mem_putRunner_iff (hr : r ∈ w.runners) (hname : r'.name = r.name) :
    s ∈ (w.putRunner r').runners ↔ s = r' ∨ s ∈ w.runners ∧ s.name ≠ r.name := by
  simp only [putRunner, List.mem_map, hname]
  constructor
  · rintro ⟨old, hold, rfl⟩
    split
    · exact Or.inl rfl
    · rename_i hne
      exact Or.inr ⟨hold, hne⟩
  · rintro (rfl | ⟨hs, hne⟩)
    · exact ⟨r, hr, if_pos rfl⟩
    · exact ⟨s, hs, if_neg hne⟩

theorem mem_putRunner_self (hr : r ∈ w.runners) (hname : r'.name = r.name) :
    r' ∈ (w.putRunner r').runners :=
  (mem_putRunner_iff hr hname).2 (Or.inl rfl)

theorem names_putRunner : (w.putRunner r').runners.map Runner.name = w.runners.map Runner.name := by
  simp only [putRunner, List.map_map]
  apply List.map_congr_left
  intro old _
  simp only [Function.comp]
  split
  · rename_i h
    exact h.symm
  · rfl

/-- No two clients have one name. -/
def Named (w : World τ) : Prop := (w.runners.map Runner.name).Nodup

theorem Named.eq (hn : w.Named) (hr : r ∈ w.runners) (hs : s ∈ w.runners)
    (h : s.name = r.name) : s = r :=
  List.inj_on_of_nodup_map hn hs hr h

theorem Named.removeClient (hn : w.Named) (name : String) : (w.removeClient name).Named :=
  hn.sublist (List.filter_sublist.map _)

theorem Named.enrol (hn : w.Named) (name : String) (config : Config) :
    (w.enrol name config).Named := by
  unfold Named World.enrol
  rw [List.map_append, List.nodup_append]
  refine ⟨hn.removeClient name, List.nodup_singleton _, ?_⟩
  intro other hother new hnew he
  obtain ⟨r, hr, rfl⟩ := List.mem_map.1 hother
  have hne : r.name ≠ name := by simpa using (List.mem_filter.1 hr).2
  exact hne (he.trans (List.mem_singleton.1 hnew))

end World

namespace Step

variable {w w' : World τ} {e : Event τ}

theorem issuer (h : Step w e w') : w'.issuer = w.issuer := by
  cases h <;> rfl

theorem named (h : Step w e w') (hn : w.Named) : w'.Named := by
  cases h with
  | turn =>
    unfold World.Named
    rw [World.names_putRunner]
    exact hn
  | start name config => exact hn.enrol name config
  | stop name => exact hn.removeClient name
  | _ => exact hn

/-- No event lays an answer out, so the gate never stops asking the table. -/
theorem script (h : Step w e w') (hs : w.gate.script = {}) : w'.gate.script = {} := by
  cases h with
  | turn _ h => exact (h.alike hs).script.trans hs
  | _ => exact hs

end Step

end Inventory.Reservation
