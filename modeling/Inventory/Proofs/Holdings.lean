-- The laws of a client's holdings: what taking leases in, forgetting them and
-- settling a renewal do to the holding of one id, and what each operation of a
-- client asks its service and makes of the answer.
import Mathlib.Data.List.Nodup
import Inventory.Reservation.Client

namespace Inventory.Reservation.Client

variable {σ τ : Type} {c : Client τ} {now deadline : Instant} {id : String} {l : Lease τ}
  {leases : List (Lease τ)} {sent : List OwnerKey} {expiration : τ}

/-! ## Counting on a lease -/

theorem current?_eq_some_iff :
    c.current? now id = some l ↔
      ∃ h, c.holdings.get? id = some h ∧ now < h.deadline ∧ h.lease = l := by
  simp [current?, Option.filter_eq_some_iff, Current, and_assoc]

theorem holds_iff :
    c.holds now id = true ↔ ∃ h, c.holdings.get? id = some h ∧ now < h.deadline := by
  simp only [holds, Option.isSome_iff_exists, current?_eq_some_iff]
  constructor
  · rintro ⟨_, h, hg, hl, _⟩
    exact ⟨h, hg, hl⟩
  · rintro ⟨h, hg, hl⟩
    exact ⟨h.lease, h, hg, hl, rfl⟩

theorem mem_status_iff {p : String × String} :
    p ∈ c.status now ↔
      ∃ h, c.holdings.get? p.1 = some h ∧ now < h.deadline ∧ h.lease.key = p.2 := by
  simp only [status, List.mem_map, Prod.exists]
  constructor
  · rintro ⟨id, h, hm, rfl⟩
    rw [← Keyed.get?_eq_some_iff, Keyed.get?_filter, Option.filter_eq_some_iff] at hm
    exact ⟨h, hm.1, by simpa [Current] using hm.2, rfl⟩
  · rintro ⟨h, hg, hl, hk⟩
    refine ⟨p.1, h, ?_, by rw [hk]⟩
    rw [← Keyed.get?_eq_some_iff, Keyed.get?_filter, Option.filter_eq_some_iff]
    exact ⟨hg, by simpa [Current] using hl⟩

theorem holds_of_mem_status {k : OwnerKey} (h : (k.id, k.key) ∈ c.status now) :
    c.holds now k.id = true := by
  obtain ⟨held, hg, hl, _⟩ := mem_status_iff.1 h
  exact holds_iff.2 ⟨held, hg, hl⟩

/-- Every holding stands under the id of its lease. -/
def InPlace (c : Client τ) : Prop := ∀ id h, c.holdings.get? id = some h → h.lease.id = id

/-- The keys of a request about leases that the client counts on. -/
theorem mem_held_keys_iff {ids : List String} {k : OwnerKey} (hc : c.InPlace) :
    k ∈ (c.flexCheck now ids).held.map Lease.ownerKey ↔
      k.id ∈ ids ∧ ∃ h, c.holdings.get? k.id = some h ∧ now < h.deadline ∧ h.lease.key = k.key := by
  simp only [flexCheck, List.mem_map, List.mem_filterMap, current?_eq_some_iff]
  constructor
  · rintro ⟨l, ⟨id, hid, h, hg, hl, rfl⟩, rfl⟩
    have hp : h.lease.id = id := hc id h hg
    subst hp
    exact ⟨hid, h, hg, hl, rfl⟩
  · rintro ⟨hid, h, hg, hl, hk⟩
    refine ⟨h.lease, ⟨k.id, hid, h, hg, hl, rfl⟩, ?_⟩
    rw [Lease.ownerKey, hc k.id h hg, hk]

theorem mem_held_ids_iff {ids : List String} (hc : c.InPlace) :
    id ∈ (c.flexCheck now ids).held.map Lease.id ↔ id ∈ ids ∧ c.holds now id = true := by
  simp only [flexCheck, List.mem_map, List.mem_filterMap, current?_eq_some_iff, holds_iff]
  constructor
  · rintro ⟨_, ⟨other, hid, h, hg, hl, rfl⟩, rfl⟩
    rw [hc other h hg]
    exact ⟨hid, h, hg, hl⟩
  · rintro ⟨hid, h, hg, hl⟩
    exact ⟨h.lease, ⟨id, hid, h, hg, hl, rfl⟩, hc id h hg⟩

/-! ## Taking in and forgetting -/

/-- Of several leases for one id the last one is taken in. -/
theorem get?_record :
    (c.record now leases).holdings.get? id =
      ((leases.reverse.find? fun l => l.id = id).map
        fun l => ⟨l, now + c.config.leaseDuration⟩).or (c.holdings.get? id) := by
  unfold record
  dsimp only
  generalize now + c.config.leaseDuration = deadline
  generalize c.holdings = m
  induction leases generalizing m with
  | nil => simp
  | cons l leases ih =>
    rw [List.foldl_cons, ih, Keyed.get?_insert, List.reverse_cons, List.find?_append]
    cases leases.reverse.find? (fun l => l.id = id) with
    | some _ => simp
    | none =>
      by_cases h : id = l.id
      · simp [h]
      · simp [h, Ne.symm h]

theorem get?_record_of_not_mem (h : id ∉ leases.map Lease.id) :
    (c.record now leases).holdings.get? id = c.holdings.get? id := by
  have hnone : leases.reverse.find? (fun l => l.id = id) = none := by
    rw [List.find?_eq_none]
    intro l hl he
    exact h (List.mem_map.2 ⟨l, List.mem_reverse.1 hl, by simpa using he⟩)
  rw [get?_record, hnone]
  rfl

/-- The holding of an id that was taken in is one of the leases. -/
theorem get?_record_of_mem (c : Client τ) (now : Instant) (h : id ∈ leases.map Lease.id) :
    ∃ l ∈ leases, l.id = id ∧
      (c.record now leases).holdings.get? id = some ⟨l, now + c.config.leaseDuration⟩ := by
  obtain ⟨l, hl, rfl⟩ := List.mem_map.1 h
  have hsome : (leases.reverse.find? fun m => m.id = l.id).isSome := by
    rw [List.find?_isSome]
    exact ⟨l, List.mem_reverse.2 hl, by simp⟩
  obtain ⟨m, hm⟩ := Option.isSome_iff_exists.1 hsome
  refine ⟨m, List.mem_reverse.1 (List.mem_of_find?_eq_some hm), ?_, ?_⟩
  · simpa using List.find?_some hm
  · rw [get?_record, hm]
    rfl

/-- Of leases for different ids, each is held once they are taken in. -/
theorem get?_record_of_distinct (hone : (leases.map Lease.id).Nodup) (hl : l ∈ leases) :
    (c.record now leases).holdings.get? l.id = some ⟨l, now + c.config.leaseDuration⟩ := by
  obtain ⟨m, hm, hid, hget⟩ := get?_record_of_mem c now (List.mem_map.2 ⟨l, hl, rfl⟩)
  rwa [List.inj_on_of_nodup_map hone hm hl hid] at hget

theorem get?_forget {ids : List String} :
    (c.forget ids).holdings.get? id = if id ∈ ids then none else c.holdings.get? id :=
  Keyed.get?_eraseAll ..

theorem record_inPlace (hc : c.InPlace) : (c.record now leases).InPlace := by
  intro id h hg
  by_cases hid : id ∈ leases.map Lease.id
  · obtain ⟨l, _, hl, hr⟩ := get?_record_of_mem c now hid
    rw [hr] at hg
    rw [← Option.some.inj hg, hl]
  · rw [get?_record_of_not_mem hid] at hg
    exact hc id h hg

theorem forget_inPlace {ids : List String} (hc : c.InPlace) : (c.forget ids).InPlace := by
  intro id h hg
  rw [get?_forget] at hg
  split at hg
  · cases hg
  · exact hc id h hg

/-! ## Settling a renewal -/

theorem sentKey?_eq_some_iff {key : String} (hd : (sent.map OwnerKey.id).Nodup) :
    sentKey? sent id = some key ↔ ⟨id, key⟩ ∈ sent := by
  induction sent with
  | nil => simp [sentKey?]
  | cons k sent ih =>
    rw [List.map_cons, List.nodup_cons] at hd
    unfold sentKey? at ih ⊢
    rw [List.find?_cons]
    by_cases hk : k.id = id
    · subst hk
      have hnot : (⟨k.id, key⟩ : OwnerKey) ∉ sent := fun hm => hd.1 (List.mem_map.2 ⟨_, hm, rfl⟩)
      simp only [decide_true, Option.map_some, Option.some.injEq, List.mem_cons, hnot, or_false]
      constructor
      · rintro rfl
        rfl
      · intro h
        rw [← h]
    · have hne : (⟨id, key⟩ : OwnerKey) ≠ k := fun h => hk (by rw [← h])
      simp only [hk, decide_false, List.mem_cons, hne, false_or]
      exact ih hd.2

/-- The key that counts as sent for an id was sent, also where several were sent for it. -/
theorem mem_of_sentKey? {key : String} (h : sentKey? sent id = some key) : ⟨id, key⟩ ∈ sent := by
  unfold sentKey? at h
  obtain ⟨k, hfind, rfl⟩ := Option.map_eq_some_iff.1 h
  have hid : k.id = id := by simpa using List.find?_some hfind
  subst hid
  exact List.mem_of_find?_eq_some hfind

/-- A holding after a renewal of its lease. -/
def renewed (deadline : Instant) (expiration : τ) (h : Holding τ) : Holding τ :=
  ⟨{ h.lease with expiration }, deadline⟩

theorem get?_extend (m : Keyed (Holding τ)) (other : String) :
    (extend sent deadline expiration m other).get? id =
      (m.get? id).map fun h =>
        if sentKey? sent id = some h.lease.key ∧ id = other then renewed deadline expiration h
        else h := by
  unfold extend
  by_cases hid : id = other
  · subst hid
    cases hg : m.get? id with
    | none => simp [hg]
    | some h =>
      by_cases hk : sentKey? sent id = some h.lease.key
      · simp [hk, Keyed.get?_insert, renewed]
      · simp [hk, hg]
  · simp only [hid, and_false, if_false, Option.map_id']
    split
    · split
      · rw [Keyed.get?_insert, if_neg hid]
      · rfl
    · rfl

/-- Every holding with the key that was sent is renewed, and no other. -/
theorem get?_foldl_extend (ids : List String) (m : Keyed (Holding τ)) :
    (ids.foldl (extend sent deadline expiration) m).get? id =
      (m.get? id).map fun h =>
        if sentKey? sent id = some h.lease.key ∧ id ∈ ids then renewed deadline expiration h
        else h := by
  induction ids generalizing m with
  | nil => simp
  | cons other ids ih =>
    rw [List.foldl_cons, ih, get?_extend, Option.map_map]
    congr 1
    funext h
    have hkey : (renewed deadline expiration h).lease.key = h.lease.key := rfl
    have htwice : renewed deadline expiration (renewed deadline expiration h) =
        renewed deadline expiration h := rfl
    dsimp only [Function.comp]
    grind

theorem isSent_iff {m : Keyed (Holding τ)} :
    isSent sent m id = true ↔
      ∃ h, m.get? id = some h ∧ sentKey? sent id = some h.lease.key := by
  unfold isSent
  cases m.get? id <;> simp

theorem get?_lose (m : Keyed (Holding τ)) (other : String) {h : Holding τ} :
    (lose sent m other).get? id = some h ↔
      m.get? id = some h ∧ ¬ (sentKey? sent id = some h.lease.key ∧ id = other) := by
  unfold lose
  split
  · rename_i hs
    obtain ⟨held, hg, hk⟩ := isSent_iff.1 hs
    rw [Keyed.get?_erase]
    by_cases hid : id = other
    · subst hid
      simp only [if_true, hg, Option.some.injEq, and_true, reduceCtorEq, false_iff, not_and]
      rintro rfl hno
      exact hno hk
    · simp [hid]
  · rename_i hs
    constructor
    · intro hg
      refine ⟨hg, ?_⟩
      rintro ⟨hk, rfl⟩
      exact hs (isSent_iff.2 ⟨h, hg, hk⟩)
    · exact And.left

/-- Every holding with the key that was sent is dropped, and no other. -/
theorem get?_foldl_lose (ids : List String) (m : Keyed (Holding τ)) {h : Holding τ} :
    (ids.foldl (lose sent) m).get? id = some h ↔
      m.get? id = some h ∧ ¬ (sentKey? sent id = some h.lease.key ∧ id ∈ ids) := by
  induction ids generalizing m with
  | nil => simp
  | cons other ids ih =>
    rw [List.foldl_cons, ih, get?_lose, List.mem_cons]
    by_cases hk : sentKey? sent id = some h.lease.key
    · simp only [hk, true_and, not_or, and_assoc]
    · simp only [hk, false_and, not_false_eq_true, and_true]

/-- What is held after an answer to a renewal. -/
theorem get?_settleRenewal_ok {outcome : Outcome} {h' : Holding τ} :
    (c.settleRenewal now expiration sent (.ok outcome)).holdings.get? id = some h' ↔
      ∃ h, c.holdings.get? id = some h ∧
        if sentKey? sent id = some h.lease.key then
          id ∉ outcome.failed.map Refusal.id ∧
            h' = if id ∈ outcome.succeeded then
              renewed (now + c.config.leaseDuration) expiration h else h
        else h' = h := by
  unfold settleRenewal
  dsimp only
  rw [get?_foldl_lose, get?_foldl_extend]
  cases c.holdings.get? id with
  | none => simp
  | some h =>
    simp only [Option.map_some, Option.some.injEq, exists_eq_left']
    by_cases hk : sentKey? sent id = some h.lease.key
    · have hkey : (renewed (now + c.config.leaseDuration) expiration h).lease.key = h.lease.key :=
        rfl
      grind
    · simp only [hk, false_and, if_false]
      constructor
      · rintro ⟨rfl, _⟩
        rfl
      · rintro rfl
        exact ⟨rfl, fun hno => hk hno.1⟩

theorem get?_settleRenewal_error {e : Error} :
    (c.settleRenewal now expiration sent (.error e)).holdings.get? id =
      (c.holdings.get? id).filter (Current now) :=
  Keyed.get?_filter ..

/-- No answer to a renewal adds a holding or changes its key. -/
theorem settleRenewal_keeps_keys {answer : Except Error Outcome} {h' : Holding τ}
    (hg : (c.settleRenewal now expiration sent answer).holdings.get? id = some h') :
    ∃ h, c.holdings.get? id = some h ∧ h.lease.ownerKey = h'.lease.ownerKey := by
  cases answer with
  | error e =>
    rw [get?_settleRenewal_error, Option.filter_eq_some_iff] at hg
    exact ⟨h', hg.1, rfl⟩
  | ok outcome =>
    obtain ⟨h, hh, hc⟩ := get?_settleRenewal_ok.1 hg
    refine ⟨h, hh, ?_⟩
    split at hc
    · rw [hc.2]
      split <;> rfl
    · rw [hc]

theorem settleRenewal_inPlace {answer : Except Error Outcome} (hc : c.InPlace) :
    (c.settleRenewal now expiration sent answer).InPlace := by
  intro id h' hg
  obtain ⟨h, hh, hk⟩ := settleRenewal_keeps_keys hg
  have hid := congrArg OwnerKey.id hk
  rw [← hc id h hh]
  exact hid.symm

theorem settleRenewal_config {answer : Except Error Outcome} :
    (c.settleRenewal now expiration sent answer).config = c.config := by
  cases answer <;> rfl

theorem mem_values_iff {h : Holding τ} :
    h ∈ c.holdings.values ↔ ∃ id, c.holdings.get? id = some h := by
  simp [Keyed.values, Keyed.get?_eq_some_iff]

theorem mem_due_iff {k : OwnerKey} (hc : c.InPlace) :
    k ∈ c.due now ↔
      ∃ h, c.holdings.get? k.id = some h ∧ h.lease.key = k.key ∧
        h.deadline - now ≤ c.config.renewMargin := by
  simp only [due, List.mem_map, List.mem_filter, mem_values_iff, decide_eq_true_eq]
  constructor
  · rintro ⟨h, ⟨⟨id, hg⟩, hm⟩, rfl⟩
    refine ⟨h, ?_, rfl, hm⟩
    rwa [← hc id h hg] at hg
  · rintro ⟨h, hg, hk, hm⟩
    refine ⟨h, ⟨⟨k.id, hg⟩, hm⟩, ?_⟩
    rw [Lease.ownerKey, hc k.id h hg, hk]

/-- A renewal is sent with one key for an id. -/
theorem due_distinct (hc : c.InPlace) : ((c.due now).map OwnerKey.id).Nodup := by
  have hids : c.holdings.values.map (fun h => h.lease.id) = c.holdings.entries.map Prod.fst := by
    unfold Keyed.values
    rw [List.map_map]
    apply List.map_congr_left
    rintro ⟨id, h⟩ he
    exact hc id h (Keyed.get?_eq_some_iff.2 he)
  have hall : (c.holdings.values.map fun h => h.lease.id).Nodup := by
    rw [hids]
    exact c.holdings.distinct
  unfold due
  rw [List.map_map]
  exact hall.sublist (List.filter_sublist.map _)

/-! ## The operations -/

variable {service : Service σ τ} {s : σ} {ids : List String}

/-- How acquiring ids can end. -/
inductive Acquires (service : Service σ τ) (now : Instant) (ids : List String) (c : Client τ)
    (s : σ) : Except Error (List (Lease τ)) × Client τ × σ → Prop
  | alreadyHeld (hheld : ids.filter (c.holds now) ≠ []) :
    Acquires service now ids c s (.error (.alreadyHeld (ids.filter (c.holds now))), c, s)
  | failed {e : Error} {s' : σ} (hfree : ids.filter (c.holds now) = [])
    (hcreate : service.create ⟨ids, .rigid, c.config.leaseDuration⟩ s = (.error e, s')) :
    Acquires service now ids c s (.error e, c, s')
  | granted {answer : Grant τ} {s' : σ} (hfree : ids.filter (c.holds now) = [])
    (hcreate : service.create ⟨ids, .rigid, c.config.leaseDuration⟩ s = (.ok answer, s'))
    (hall : answer.failed = []) :
    Acquires service now ids c s (.ok answer.granted, c.record now answer.granted, s')
  | refused {answer : Grant τ} {s' : σ} (hfree : ids.filter (c.holds now) = [])
    (hcreate : service.create ⟨ids, .rigid, c.config.leaseDuration⟩ s = (.ok answer, s'))
    (hsome : answer.failed ≠ []) :
    Acquires service now ids c s
      (.error (.rejected answer.failed), c,
        if answer.granted.isEmpty then s'
        else (service.release ⟨answer.granted.map Lease.ownerKey, .flexible⟩ s').2)

theorem acquire_acquires {out : Except Error (List (Lease τ)) × Client τ × σ}
    (h : c.acquire service now ids s = out) : Acquires service now ids c s out := by
  subst h
  unfold acquire
  dsimp only
  split
  · rename_i hheld
    exact .alreadyHeld hheld
  · rename_i hfree
    rw [ne_eq, Decidable.not_not] at hfree
    split
    · rename_i hcreate
      exact .failed hfree hcreate
    · rename_i answer s' hcreate
      by_cases hall : answer.failed = []
      · simp only [settleAcquire, hall, if_true]
        exact .granted hfree hcreate hall
      · have h := Acquires.refused hfree hcreate hall
        by_cases hempty : answer.granted.isEmpty = true
        · simpa only [settleAcquire, hall, if_false, hempty, if_true] using h
        · simpa only [settleAcquire, hall, if_false, hempty, Bool.false_eq_true] using h

/-- The ids of a flexible request that the client does not hold. -/
def wanted (c : Client τ) (now : Instant) (ids : List String) : List String :=
  ids.filter (· ∉ ids.filter (c.holds now))

theorem mem_wanted_iff : id ∈ c.wanted now ids ↔ id ∈ ids ∧ ¬ c.holds now id = true := by
  unfold wanted
  rw [List.mem_filter, decide_eq_true_eq, List.mem_filter]
  constructor
  · rintro ⟨hid, hno⟩
    exact ⟨hid, fun hh => hno ⟨hid, hh⟩⟩
  · rintro ⟨hid, hno⟩
    exact ⟨hid, fun hh => hno hh.2⟩

/-- How acquiring what can be had can end. -/
inductive FlexAcquires (service : Service σ τ) (now : Instant) (ids : List String) (c : Client τ)
    (s : σ) : Except Error (Grant τ) × Client τ × σ → Prop
  | idle (hnone : c.wanted now ids = []) :
    FlexAcquires service now ids c s
      (.ok ⟨[], (ids.filter (c.holds now)).map heldRefusal⟩, c, s)
  | failed {e : Error} {s' : σ}
    (hcreate : service.create ⟨c.wanted now ids, .flexible, c.config.leaseDuration⟩ s =
      (.error e, s')) :
    FlexAcquires service now ids c s (.error e, c, s')
  | granted {answer : Grant τ} {s' : σ}
    (hcreate : service.create ⟨c.wanted now ids, .flexible, c.config.leaseDuration⟩ s =
      (.ok answer, s')) :
    FlexAcquires service now ids c s
      (.ok ⟨answer.granted, answer.failed ++ (ids.filter (c.holds now)).map heldRefusal⟩,
        c.record now answer.granted, s')

theorem flexAcquire_flexAcquires {out : Except Error (Grant τ) × Client τ × σ}
    (h : c.flexAcquire service now ids s = out) : FlexAcquires service now ids c s out := by
  subst h
  have hwanted : ids.filter (fun id => decide (id ∉ ids.filter (c.holds now))) =
      c.wanted now ids := rfl
  unfold flexAcquire
  simp only [hwanted]
  by_cases hnone : c.wanted now ids = []
  · simp only [hnone, if_true]
    exact .idle hnone
  · simp only [hnone, if_false]
    split
    · rename_i e he
      exact .failed (Prod.ext he rfl)
    · rename_i grant he
      exact .granted (Prod.ext he rfl)

/-- How releasing ids can end. -/
inductive Releases (service : Service σ τ) (now : Instant) (ids : List String) (c : Client τ)
    (s : σ) : Except Error Unit × Client τ × σ → Prop
  | missing (hmissing : (c.flexCheck now ids).missing ≠ []) :
    Releases service now ids c s (.error (.alreadyReleased (c.flexCheck now ids).missing), c, s)
  | failed {e : Error} {s' : σ} (hheld : (c.flexCheck now ids).missing = [])
    (hrelease : service.release ⟨(c.flexCheck now ids).held.map Lease.ownerKey, .rigid⟩ s =
      (.error e, s')) :
    Releases service now ids c s (.error e, c, s')
  | answered {answer : Outcome} {s' : σ} (hheld : (c.flexCheck now ids).missing = [])
    (hrelease : service.release ⟨(c.flexCheck now ids).held.map Lease.ownerKey, .rigid⟩ s =
      (.ok answer, s')) :
    Releases service now ids c s
      (if answer.failed = [] then .ok () else .error (.rejected answer.failed), c.forget ids, s')

theorem release_releases {out : Except Error Unit × Client τ × σ}
    (h : c.release service now ids s = out) : Releases service now ids c s out := by
  subst h
  unfold release
  dsimp only
  split
  · rename_i hmissing
    exact .missing hmissing
  · rename_i hheld
    rw [ne_eq, Decidable.not_not] at hheld
    split
    · rename_i hrelease
      exact .failed hheld hrelease
    · rename_i hrelease
      exact .answered hheld hrelease

/-- How releasing what is held can end. -/
inductive FlexReleases (service : Service σ τ) (now : Instant) (ids : List String) (c : Client τ)
    (s : σ) : Except Error Outcome × Client τ × σ → Prop
  | idle (hnone : (c.flexCheck now ids).held = []) :
    FlexReleases service now ids c s
      (.ok ⟨[], (c.flexCheck now ids).missing.map missingRefusal⟩, c, s)
  | failed {e : Error} {s' : σ}
    (hrelease : service.release ⟨(c.flexCheck now ids).held.map Lease.ownerKey, .flexible⟩ s =
      (.error e, s')) :
    FlexReleases service now ids c s (.error e, c, s')
  | answered {answer : Outcome} {s' : σ}
    (hrelease : service.release ⟨(c.flexCheck now ids).held.map Lease.ownerKey, .flexible⟩ s =
      (.ok answer, s')) :
    FlexReleases service now ids c s
      (.ok ⟨answer.succeeded,
          answer.failed ++ (c.flexCheck now ids).missing.map missingRefusal⟩,
        c.forget ((c.flexCheck now ids).held.map Lease.id), s')

theorem flexRelease_flexReleases {out : Except Error Outcome × Client τ × σ}
    (h : c.flexRelease service now ids s = out) : FlexReleases service now ids c s out := by
  subst h
  unfold flexRelease
  dsimp only
  split
  · rename_i hnone
    exact .idle (List.isEmpty_iff.1 hnone)
  · split
    · rename_i hrelease
      exact .failed hrelease
    · rename_i hrelease
      exact .answered hrelease

/-- What an operation can make of a client. -/
inductive Changes (now : Instant) (c : Client τ) : Client τ → Prop
  | same : Changes now c c
  | record (leases : List (Lease τ)) : Changes now c (c.record now leases)
  | forget (ids : List String) : Changes now c (c.forget ids)

section Changes

variable {c' : Client τ} {s' : σ}

theorem Changes.config (h : c.Changes now c') : c'.config = c.config := by
  cases h <;> rfl

theorem Changes.inPlace (hc : c.InPlace) (h : c.Changes now c') : c'.InPlace := by
  cases h with
  | same => exact hc
  | record => exact record_inPlace hc
  | forget => exact forget_inPlace hc

theorem acquire_changes {result : Except Error (List (Lease τ))}
    (h : c.acquire service now ids s = (result, c', s')) : c.Changes now c' := by
  cases acquire_acquires h <;> constructor

theorem flexAcquire_changes {result : Except Error (Grant τ)}
    (h : c.flexAcquire service now ids s = (result, c', s')) : c.Changes now c' := by
  cases flexAcquire_flexAcquires h <;> constructor

theorem release_changes {result : Except Error Unit}
    (h : c.release service now ids s = (result, c', s')) : c.Changes now c' := by
  cases release_releases h <;> constructor

theorem flexRelease_changes {result : Except Error Outcome}
    (h : c.flexRelease service now ids s = (result, c', s')) : c.Changes now c' := by
  cases flexRelease_flexReleases h <;> constructor

theorem reacquire_changes {result : Except Error Outcome} {model : Model}
    (h : c.reacquire service now leases model s = (result, c', s')) : c.Changes now c' := by
  unfold reacquire at h
  split at h <;> cases h <;> constructor

end Changes

end Inventory.Reservation.Client
