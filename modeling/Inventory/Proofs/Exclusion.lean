-- Mutual exclusion. While nobody breaks a lock, every lease that a client
-- counts on is a lock that the table holds under its key until the very same
-- instant, and no two clients keep a key in common; not even in a renewal that
-- still waits at the gate.
import Inventory.Proofs.Clock

namespace Inventory.Reservation

variable {τ : Type} {issuer : Issuer τ} {now : Instant} {r r' s : Runner τ} {t t' : LockTable}
  {k : OwnerKey} {c : Client τ}

/-! ## Keys in the hands of a client -/

/-- The client has a lease under the key; it need not count on it any more. -/
def Client.Has (c : Client τ) (k : OwnerKey) : Prop :=
  ∃ h, c.holdings.get? k.id = some h ∧ h.lease.key = k.key

/-- The client may still act on the key. -/
def Runner.Mine (r : Runner τ) (k : OwnerKey) : Prop :=
  r.client.Has k ∨ ∃ sent, r.waiting = some sent ∧ k ∈ sent

theorem Client.has_record {leases : List (Lease τ)} (h : (c.record now leases).Has k) :
    c.Has k ∨ k ∈ leases.map Lease.ownerKey := by
  obtain ⟨held, hg, hk⟩ := h
  by_cases hid : k.id ∈ leases.map Lease.id
  · obtain ⟨l, hl, hlid, hr⟩ := get?_record_of_mem c now hid
    rw [hr] at hg
    cases hg
    refine Or.inr (List.mem_map.2 ⟨l, hl, ?_⟩)
    unfold Lease.ownerKey
    rw [hlid, hk]
  · rw [get?_record_of_not_mem hid] at hg
    exact Or.inl ⟨held, hg, hk⟩

theorem Client.has_forget {ids : List String} (h : (c.forget ids).Has k) : c.Has k := by
  obtain ⟨held, hg, hk⟩ := h
  rw [get?_forget] at hg
  split at hg
  · cases hg
  · exact ⟨held, hg, hk⟩

theorem Client.has_settleRenewal {expiration : τ} {sent : List OwnerKey}
    {answer : Except Error Outcome} (h : (c.settleRenewal now expiration sent answer).Has k) :
    c.Has k := by
  obtain ⟨held, hg, hk⟩ := h
  obtain ⟨before, hb, hkey⟩ := settleRenewal_keeps_keys hg
  exact ⟨before, hb, (congrArg OwnerKey.key hkey).trans hk⟩

theorem Client.has_held {ids : List String} (hc : c.InPlace)
    (h : k ∈ (c.flexCheck now ids).held.map Lease.ownerKey) : c.Has k := by
  obtain ⟨_, held, hg, _, hk⟩ := (mem_held_keys_iff hc).1 h
  exact ⟨held, hg, hk⟩

theorem Client.has_due (hc : c.InPlace) (h : k ∈ c.due now) : c.Has k := by
  obtain ⟨held, hg, hk, _⟩ := (mem_due_iff hc).1 h
  exact ⟨held, hg, hk⟩

/-! ## One client -/

/-- The table holds what the client counts on. -/
structure Sound (now : Instant) (t : LockTable) (r : Runner τ) : Prop where
  inPlace : r.client.InPlace
  distinct : ∀ sent, r.waiting = some sent → (sent.map OwnerKey.id).Nodup
  backed : ∀ id h, r.client.holdings.get? id = some h → now < h.deadline →
    t.live? now id = some ⟨h.lease.key, h.deadline⟩

/-- A turn of a client leaves alone the locks under keys of others, and the keys that come into
its hands are new ones. -/
structure Tame (issuer : Issuer τ) (now : Instant) (r : Runner τ) (t : LockTable) (r' : Runner τ)
    (t' : LockTable) : Prop where
  sound : Sound now t' r'
  kept : ∀ id lock, t.live? now id = some lock → ¬ r.Mine ⟨id, lock.key⟩ →
    t'.live? now id = some lock
  fresh : ∀ k, r'.Mine k → r.Mine k ∨ LockTable.IssuedAfter issuer t.issued t' k
  issued : t.issued ≤ t'.issued

theorem Sound.later {later : Instant} (h : Sound now t r) (hle : now ≤ later) :
    Sound later t r where
  inPlace := h.inPlace
  distinct := h.distinct
  backed id held hg hl :=
    LockTable.live?_until (h.backed id held hg (Nat.lt_of_le_of_lt hle hl)) hl

/-- Nothing has happened to the table. -/
theorem Tame.idle (h : Sound now t r') (hmine : ∀ k, r'.Mine k → r.Mine k) :
    Tame issuer now r t r' t where
  sound := h
  kept _ _ hlive _ := hlive
  fresh k hk := Or.inl (hmine k hk)
  issued := Nat.le_refl _

/-- Locks were asked for that the client does not get. -/
theorem Tame.refused (h : Sound now t r)
    (hkept : ∀ id lock, t.live? now id = some lock → t'.live? now id = some lock)
    (hissued : t.issued ≤ t'.issued) : Tame issuer now r t r t' where
  sound := ⟨h.inPlace, h.distinct, fun id held hg hl => hkept id _ (h.backed id held hg hl)⟩
  kept id lock hlive _ := hkept id lock hlive
  fresh _ hk := Or.inl hk
  issued := hissued

theorem Tame.granted {q : CreateRequest} (h : Sound now t r)
    (hq : q.duration = r.client.config.leaseDuration) :
    Tame issuer now r t { r with client := r.client.record now (t.create issuer now q).1.granted }
      (t.create issuer now q).2 := by
  have hg := LockTable.create_grants issuer now q t
  refine ⟨?_, ?_, ?_, ?_⟩
  · refine ⟨Client.record_inPlace h.inPlace, h.distinct, fun id held hget hl => ?_⟩
    by_cases hid : id ∈ (t.create issuer now q).1.granted.map Lease.id
    · obtain ⟨l, hmem, hlid, hr⟩ := Client.get?_record_of_mem r.client now hid
      cases hr.symm.trans hget
      rw [LockTable.live?_eq_some_iff, ← hlid, hg.locked l hmem, hq]
      exact ⟨rfl, hl⟩
    · rw [Client.get?_record_of_not_mem hid] at hget
      exact LockTable.live?_create q (h.backed id held hget hl)
  · intro id lock hlive _
    exact LockTable.live?_create q hlive
  · rintro k (hk | hk)
    · rcases Client.has_record hk with hold | hnew
      · exact Or.inl (Or.inl hold)
      · obtain ⟨l, hmem, rfl⟩ := List.mem_map.1 hnew
        exact Or.inr (hg.fresh l hmem)
    · exact Or.inl (Or.inr hk)
  · exact hg.issued

/-- A lock whose key is not sent is left alone. -/
theorem kept_of_treat {f : OwnerKey → LockTable → LockTable} {after : OwnerKey → Option Lock}
    (hf : LockTable.Treats f after) {model : Model} {keys : List OwnerKey} {id : String}
    {lock : Lock} (hlive : t.live? now id = some lock) (hkey : ⟨id, lock.key⟩ ∉ keys) :
    (LockTable.treat f now model keys t).2.live? now id = some lock := by
  rw [← hlive]
  apply LockTable.live?_congr
  apply LockTable.get?_treat_of_not_mem hf
  intro other hother
  cases hlive.symm.trans hother
  exact hkey

theorem Tame.released {ids : List String} {keys : List OwnerKey} {model : Model}
    (h : Sound now t r) (hhas : ∀ k ∈ keys, r.client.Has k) (hids : ∀ k ∈ keys, k.id ∈ ids) :
    Tame issuer now r t { r with client := r.client.forget ids }
      (t.release now ⟨keys, model⟩).2 := by
  refine ⟨?_, ?_, ?_, ?_⟩
  · refine ⟨Client.forget_inPlace h.inPlace, h.distinct, fun id held hget hl => ?_⟩
    rw [Client.get?_forget] at hget
    split at hget
    · cases hget
    · rename_i hid
      exact kept_of_treat LockTable.treats_remove (h.backed id held hget hl)
        fun hmem => hid (hids _ hmem)
  · intro id lock hlive hno
    exact kept_of_treat LockTable.treats_remove hlive fun hmem => hno (Or.inl (hhas _ hmem))
  · rintro k (hk | hk)
    · exact Or.inl (Or.inl (Client.has_forget hk))
    · exact Or.inl (Or.inr hk)
  · exact Nat.le_of_eq (LockTable.issued_treat LockTable.treats_remove).symm

/-- What the table answers to a renewal with one key for an id: the keys it knows are renewed, the
others refused, and none is passed over. -/
theorem renew_answer {id key : String} {sent : List OwnerKey} (c : Client τ) (t : LockTable)
    (now : Instant) (hdistinct : (sent.map OwnerKey.id).Nodup) (hmem : ⟨id, key⟩ ∈ sent) :
    (id ∉ (t.renew now (c.renewal sent)).1.failed.map Refusal.id ↔ t.Owns now ⟨id, key⟩) ∧
      (t.Owns now ⟨id, key⟩ → id ∈ (t.renew now (c.renewal sent)).1.succeeded) := by
  have hone : ∀ other, ⟨id, other⟩ ∈ sent → other = key := fun other hother =>
    congrArg OwnerKey.key (List.inj_on_of_nodup_map hdistinct hother hmem rfl)
  unfold LockTable.renew
  refine ⟨?_, fun howns => ?_⟩
  · rw [LockTable.treat_failed, LockTable.mem_refusals_id_iff]
    constructor
    · intro hnone
      by_contra hno
      exact hnone ⟨key, hmem, hno⟩
    · rintro howns ⟨other, hother, hno⟩
      rw [hone other hother] at hno
      exact hno howns
  · exact (LockTable.mem_treat_succeeded_iff (LockTable.treats_setDeadline _)
      LockTable.accepts_flexible).2 ⟨key, hmem, howns⟩

/-- What is held once the answer of the table to a renewal is back: a lease whose key was sent is
renewed if the key owned its lock, and dropped if not. -/
theorem get?_renewal {back : Instant} {id : String} {sent : List OwnerKey} {expiration : τ}
    {held' : Holding τ} (hdistinct : (sent.map OwnerKey.id).Nodup) :
    (c.settleRenewal back expiration sent
        (.ok (t.renew now (c.renewal sent)).1)).holdings.get? id = some held' ↔
      ∃ held, c.holdings.get? id = some held ∧
        if ⟨id, held.lease.key⟩ ∈ sent then
          t.Owns now ⟨id, held.lease.key⟩ ∧
            held' = Client.renewed (back + c.config.leaseDuration) expiration held
        else held' = held := by
  rw [Client.get?_settleRenewal_ok]
  refine exists_congr fun held => and_congr_right fun _ => ?_
  simp only [Client.sentKey?_eq_some_iff hdistinct]
  by_cases hmem : ⟨id, held.lease.key⟩ ∈ sent
  · obtain ⟨hfailed, hdone⟩ := renew_answer c t now hdistinct hmem
    simp only [if_pos hmem, hfailed]
    refine and_congr_right fun howns => ?_
    rw [if_pos (hdone howns)]
  · simp only [if_neg hmem]

/-- A renewal that the table answers. The client has either lost the key meanwhile, or the lease
and its lock end together again. -/
theorem Tame.renewed {sent : List OwnerKey} {expiration : τ} (h : Sound now t r)
    (hmine : ∀ k ∈ sent, r.Mine k) (hdistinct : (sent.map OwnerKey.id).Nodup) :
    Tame issuer now r t
      { r with
        client := r.client.settleRenewal now expiration sent
          (.ok (t.renew now (r.client.renewal sent)).1)
        waiting := none }
      (t.renew now (r.client.renewal sent)).2 := by
  have hf := LockTable.treats_setDeadline (now + r.client.config.leaseDuration)
  refine ⟨?_, ?_, ?_, ?_⟩
  · refine ⟨Client.settleRenewal_inPlace h.inPlace, (by simp), fun id held' hget hl => ?_⟩
    obtain ⟨held, hheld, hcase⟩ := (get?_renewal hdistinct).1 hget
    by_cases hmem : ⟨id, held.lease.key⟩ ∈ sent
    · rw [if_pos hmem] at hcase
      obtain ⟨howns, rfl⟩ := hcase
      rw [LockTable.live?_eq_some_iff]
      exact ⟨LockTable.get?_treat_of_mem hf LockTable.accepts_flexible hmem howns, hl⟩
    · rw [if_neg hmem] at hcase
      subst hcase
      exact kept_of_treat hf (h.backed id held' hheld hl) hmem
  · intro id lock hlive hno
    exact kept_of_treat hf hlive fun hmem => hno (hmine _ hmem)
  · rintro k (hk | ⟨_, hw, _⟩)
    · exact Or.inl (Or.inl (Client.has_settleRenewal hk))
    · cases hw
  · exact Nat.le_of_eq (LockTable.issued_treat hf).symm

/-- The gate answers a renewal, or it is out of order. -/
theorem finishRenewal_tame {g : Gate τ} {sent : List OwnerKey} (hs : g.script = {})
    (h : Sound now g.table r) (hmine : ∀ k ∈ sent, r.Mine k)
    (hdistinct : (sent.map OwnerKey.id).Nodup) :
    Tame issuer now r g.table (r.finishRenewal issuer now sent g).1
      (r.finishRenewal issuer now sent g).2.table := by
  unfold Runner.finishRenewal
  dsimp only
  cases hanswer : g.answerRenew now (r.client.renewal sent) with
  | mk answer g' =>
    cases answer with
    | error e =>
      rw [(Gate.answerRenew_error hs hanswer).2]
      refine Tame.idle ⟨Client.settleRenewal_inPlace h.inPlace, (by simp), ?_⟩ ?_
      · intro id held hget hl
        rw [Client.get?_settleRenewal_error, Option.filter_eq_some_iff] at hget
        exact h.backed id held hget.1 hl
      · rintro k (hk | ⟨_, hw, _⟩)
        · exact Or.inl (Client.has_settleRenewal hk)
        · cases hw
    | ok outcome =>
      obtain ⟨rfl, htable⟩ := Gate.answerRenew_ok hs hanswer
      rw [htable]
      exact Tame.renewed h hmine hdistinct

theorem ticks_tame {g : Gate τ} {next : Instant} {out : Runner τ × Gate τ} (hs : g.script = {})
    (hsound : Sound now g.table r) (h : Runner.Ticks issuer now next r g out) :
    Tame issuer now r g.table out.1 out.2.table := by
  have hdue : ∀ k ∈ r.client.due now, r.client.Has k :=
    fun k hk => Client.has_due hsound.inPlace hk
  have hdistinct : ((r.client.due now).map OwnerKey.id).Nodup :=
    Client.due_distinct hsound.inPlace
  cases h with
  | idle => exact Tame.idle ⟨hsound.inPlace, hsound.distinct, hsound.backed⟩ fun k hk => hk
  | held _ _ htable =>
    rw [htable]
    refine Tame.idle ⟨hsound.inPlace, ?_, hsound.backed⟩ ?_
    · rintro sent hw
      cases hw
      exact hdistinct
    · rintro k (hk | ⟨sent, hw, hmem⟩)
      · exact Or.inl hk
      · cases hw
        exact Or.inl (hdue k hmem)
  | sent halike htable =>
    rw [← htable] at hsound ⊢
    have hsound' : Sound now _ { r with nextTick := next } :=
      ⟨hsound.inPlace, hsound.distinct, hsound.backed⟩
    -- The new instant of the tick is no part of what `Tame` says about the runner before.
    have h : Tame issuer now _ _ _ _ :=
      finishRenewal_tame (halike.script.trans hs) hsound' (fun k hk => Or.inl (hdue k hk)) hdistinct
    exact ⟨h.sound, h.kept, h.fresh, h.issued⟩

/-- Nobody but the clients, the clock and the gate has a part in the event, and no lease comes from
elsewhere. -/
def Event.Ordinary : Event τ → Prop
  | .reacquire .. | .revoke .. | .direct .. => False
  | _ => True

theorem World.Timely.ordinary (w : World τ) (e : Event τ) (h : w.Timely e) : e.Ordinary := by
  cases e <;> trivial

theorem Tame.of_eq (h : Sound now t r) (he : t' = t) : Tame issuer now r t r t' := by
  subst he
  exact Tame.idle h fun _ hk => hk

theorem Turn.tame {e : Event τ} {g g' : Gate τ} (hs : g.script = {}) (hsound : Sound now g.table r)
    (ho : e.Ordinary) (h : Turn issuer now r g e r' g') :
    Tame issuer now r g.table r' g'.table := by
  cases h with
  | acquire h =>
    cases Client.acquire_acquires h with
    | alreadyHeld => exact Tame.of_eq hsound rfl
    | failed _ hcreate => exact Tame.of_eq hsound (Gate.create_error hs hcreate)
    | granted _ hcreate =>
      obtain ⟨_, rfl, htable⟩ := Gate.create_ok hs hcreate
      rw [htable]
      exact Tame.granted hsound rfl
    | @refused answer g₁ _ hcreate =>
      obtain ⟨model, hanswer, htable⟩ := Gate.create_ok hs hcreate
      have hs₁ : g₁.script = {} := (Gate.create_alike hs hcreate).script.trans hs
      have hissued : g.table.issued ≤ g₁.table.issued := by
        rw [htable]
        exact (LockTable.create_grants ..).issued
      have hnothing : Tame issuer now r g.table r g₁.table := by
        refine Tame.refused hsound (fun id lock hlive => ?_) hissued
        rw [htable]
        exact LockTable.live?_create _ hlive
      -- What was granted all the same is given back, or stays locked if the gate is out of order.
      split
      · exact hnothing
      · cases hrelease : (Gate.service issuer now).release
            ⟨answer.granted.map Lease.ownerKey, .flexible⟩ g₁ with
        | mk result g₂ =>
          cases result with
          | error =>
            rw [(Gate.release_error hs₁ hrelease).2]
            exact hnothing
          | ok =>
            rw [(Gate.release_ok hs₁ hrelease).2]
            refine Tame.refused hsound (fun id lock hlive => ?_) ?_
            · rw [htable, hanswer]
              exact LockTable.live?_create_release _ hlive
            · exact hissued.trans_eq (LockTable.issued_treat LockTable.treats_remove).symm
  | flexAcquire h =>
    cases Client.flexAcquire_flexAcquires h with
    | idle => exact Tame.of_eq hsound rfl
    | failed hcreate => exact Tame.of_eq hsound (Gate.create_error hs hcreate)
    | granted hcreate =>
      obtain ⟨_, rfl, htable⟩ := Gate.create_ok hs hcreate
      rw [htable]
      exact Tame.granted hsound rfl
  | release h =>
    cases Client.release_releases h with
    | missing => exact Tame.of_eq hsound rfl
    | failed _ hrelease => exact Tame.of_eq hsound (Gate.release_error hs hrelease).2
    | answered _ hrelease =>
      rw [(Gate.release_ok hs hrelease).2]
      refine Tame.released hsound (fun k hk => Client.has_held hsound.inPlace hk) fun k hk => ?_
      exact ((Client.mem_held_keys_iff hsound.inPlace).1 hk).1
  | flexRelease h =>
    cases Client.flexRelease_flexReleases h with
    | idle => exact Tame.of_eq hsound rfl
    | failed hrelease => exact Tame.of_eq hsound (Gate.release_error hs hrelease).2
    | answered hrelease =>
      rw [(Gate.release_ok hs hrelease).2]
      refine Tame.released hsound (fun k hk => Client.has_held hsound.inPlace hk) fun k hk => ?_
      obtain ⟨l, hl, rfl⟩ := List.mem_map.1 hk
      exact List.mem_map.2 ⟨l, hl, rfl⟩
  | reacquire => exact ho.elim
  | tick => exact ticks_tame hs hsound (Runner.tick_ticks issuer now r g)
  | @answer sent hsent =>
    exact finishRenewal_tame hs hsound (fun k hk => Or.inr ⟨sent, hsent, hk⟩)
      (hsound.distinct sent hsent)

/-! ## All clients -/

/-- The key is one of those given out so far. -/
def Issued (issuer : Issuer τ) (t : LockTable) (k : OwnerKey) : Prop :=
  ∃ n, n ≤ t.issued ∧ k.key = issuer.key k.id n

theorem Issued.mono (h : Issued issuer t k) (hle : t.issued ≤ t'.issued) : Issued issuer t' k := by
  obtain ⟨n, hn, hk⟩ := h
  exact ⟨n, Nat.le_trans hn hle, hk⟩

theorem Issued.not_after (hd : issuer.Distinct) (h : Issued issuer t k) :
    ¬ LockTable.IssuedAfter issuer t.issued t' k := by
  obtain ⟨n, hn, hk⟩ := h
  rintro ⟨i, hi, _, hk'⟩
  have := hd k.id (hk.symm.trans hk')
  omega

/-- Clients and table agree, and every key is in the hands of one client at most. -/
structure Coherent (w : World τ) : Prop where
  named : w.Named
  script : w.gate.script = {}
  sound : ∀ r ∈ w.runners, Sound w.now w.gate.table r
  issued : ∀ r ∈ w.runners, ∀ k, r.Mine k → Issued w.issuer w.gate.table k
  apart : ∀ r ∈ w.runners, ∀ s ∈ w.runners, r.name ≠ s.name → ∀ k, r.Mine k → ¬ s.Mine k

theorem coherent_new (issuer : Issuer τ) : Coherent (World.new issuer) where
  named := List.nodup_nil
  script := rfl
  sound _ hr := by cases hr
  issued _ hr := by cases hr
  apart _ hr := by cases hr

variable {w w' : World τ}

/-- Fewer clients are as coherent as all of them. -/
theorem Coherent.removeClient (h : Coherent w) (name : String) :
    Coherent (w.removeClient name) where
  named := h.named.removeClient name
  script := h.script
  sound r hr := h.sound r (List.mem_of_mem_filter hr)
  issued r hr := h.issued r (List.mem_of_mem_filter hr)
  apart r hr s hs := h.apart r (List.mem_of_mem_filter hr) s (List.mem_of_mem_filter hs)

theorem not_mine_new {name : String} {config : Config} {next : Instant} :
    ¬ (⟨name, Client.new config, next, none⟩ : Runner τ).Mine k := by
  rintro (⟨_, hg, _⟩ | ⟨_, hw, _⟩)
  · cases hg
  · cases hw

theorem Coherent.enrol (h : Coherent w) (name : String) (config : Config) :
    Coherent (w.enrol name config) := by
  have hrest := h.removeClient name
  have hmem : ∀ r ∈ (w.enrol name config).runners,
      r ∈ (w.removeClient name).runners ∨ r = ⟨name, Client.new config, w.now, none⟩ := by
    intro r hr
    rcases List.mem_append.1 hr with hr | hr
    · exact Or.inl hr
    · exact Or.inr (List.mem_singleton.1 hr)
  refine ⟨?_, ?_, ?_, ?_, ?_⟩
  · exact h.named.enrol name config
  · exact h.script
  · intro r hr
    rcases hmem r hr with hr | rfl
    · exact hrest.sound r hr
    · refine ⟨?_, ?_, ?_⟩
      · intro id held hg
        cases hg
      · intro sent hw
        cases hw
      · intro id held hg
        cases hg
  · intro r hr k hk
    rcases hmem r hr with hr | rfl
    · exact hrest.issued r hr k hk
    · exact absurd hk not_mine_new
  · intro r hr s hs hne k hk hk'
    rcases hmem r hr with hr | rfl
    · rcases hmem s hs with hs | rfl
      · exact hrest.apart r hr s hs hne k hk hk'
      · exact not_mine_new hk'
    · exact not_mine_new hk

/-- What another client counts on is not touched by a tame turn. -/
theorem Coherent.sound_other (h : Coherent w) (hr : r ∈ w.runners) (hs : s ∈ w.runners)
    (hne : s.name ≠ r.name) (ht : Tame w.issuer w.now r w.gate.table r' t') :
    Sound w.now t' s := by
  have hsound := h.sound s hs
  refine ⟨hsound.inPlace, hsound.distinct, fun id held hg hl => ?_⟩
  refine ht.kept id _ (hsound.backed id held hg hl) fun hmine => ?_
  exact h.apart r hr s hs hne.symm _ hmine (Or.inl ⟨held, hg, rfl⟩)

theorem Coherent.putRunner (hd : w.issuer.Distinct) (h : Coherent w) (hr : r ∈ w.runners)
    (hname : r'.name = r.name) {g : Gate τ} (halike : Gate.Alike w.gate g)
    (ht : Tame w.issuer w.now r w.gate.table r' g.table) :
    Coherent (({ w with gate := g } : World τ).putRunner r') := by
  have hmem : ∀ s, s ∈ (({ w with gate := g } : World τ).putRunner r').runners →
      s = r' ∨ s ∈ w.runners ∧ s.name ≠ r.name :=
    fun s hs => (World.mem_putRunner_iff (w := { w with gate := g }) hr hname).1 hs
  -- A key that came into the client's hands just now is in nobody else's.
  have hapart : ∀ s ∈ w.runners, s.name ≠ r.name → ∀ k, r'.Mine k → ¬ s.Mine k := by
    intro s hs hne k hk hk'
    rcases ht.fresh k hk with hold | hnew
    · exact h.apart r hr s hs hne.symm k hold hk'
    · exact (h.issued s hs k hk').not_after hd hnew
  refine ⟨?_, ?_, ?_, ?_, ?_⟩
  · unfold World.Named
    rw [World.names_putRunner]
    exact h.named
  · exact halike.script.trans h.script
  · intro s hs
    rcases hmem s hs with rfl | ⟨hs, hne⟩
    · exact ht.sound
    · exact h.sound_other hr hs hne ht
  · intro s hs k hk
    rcases hmem s hs with rfl | ⟨hs, hne⟩
    · rcases ht.fresh k hk with hold | ⟨i, _, hi, hkey⟩
      · exact (h.issued r hr k hold).mono ht.issued
      · exact ⟨i, hi, hkey⟩
    · exact (h.issued s hs k hk).mono ht.issued
  · intro a ha b hb hne k hk hk'
    rcases hmem a ha with rfl | ⟨ha', hane⟩
    · rcases hmem b hb with rfl | ⟨hb', hbne⟩
      · exact hne rfl
      · exact hapart b hb' hbne k hk hk'
    · rcases hmem b hb with rfl | ⟨hb', hbne⟩
      · exact hapart a ha' hane k hk' hk
      · exact h.apart a ha' b hb' hne k hk hk'

/-- No ordinary event breaks the agreement. -/
theorem Coherent.step {e : Event τ} (hd : w.issuer.Distinct) (h : Coherent w) (ho : e.Ordinary)
    (hstep : Step w e w') : Coherent w' := by
  cases hstep with
  | turn hr hturn =>
    have ht := hturn.tame h.script (h.sound _ hr) ho
    exact h.putRunner hd hr hturn.name (hturn.alike h.script) ht
  | start name config => exact h.enrol name config
  | stop name => exact h.removeClient name
  | wait d =>
    exact ⟨h.named, h.script, fun r hr => (h.sound r hr).later (Nat.le_add_right ..), h.issued,
      h.apart⟩
  | faults => exact ⟨h.named, h.script, h.sound, h.issued, h.apart⟩
  | revoke => exact ho.elim
  | direct => exact ho.elim

theorem coherent_of_reaches {allowed : World τ → Event τ → Prop} (hd : issuer.Distinct)
    (ho : ∀ w e, allowed w e → e.Ordinary) (h : Reaches allowed (World.new issuer) w) :
    w.issuer = issuer ∧ Coherent w := by
  refine h.keeps (P := fun w => w.issuer = issuer ∧ Coherent w) ?_ ⟨rfl, coherent_new issuer⟩
  rintro w e w' ⟨rfl, hw⟩ ha hstep
  exact ⟨hstep.issuer, hw.step hd (ho w e ha) hstep⟩

/-- What a client reports is locked for it. -/
theorem Coherent.owns_of_mem_status (h : Coherent w) (hr : r ∈ w.runners) {p : String × String}
    (hp : p ∈ r.client.status w.now) : w.gate.table.Owns w.now ⟨p.1, p.2⟩ := by
  obtain ⟨held, hg, hl, hk⟩ := Client.mem_status_iff.1 hp
  exact ⟨_, (h.sound r hr).backed p.1 held hg hl, hk⟩

/-- In every run, what clients report is locked for them under the key they report, and no two of
them report the same id. -/
theorem status_exclusive (hd : issuer.Distinct)
    (h : Reaches (fun _ e => e.Ordinary) (World.new issuer) w) :
    (∀ r ∈ w.runners, ∀ p ∈ r.client.status w.now, w.gate.table.Owns w.now ⟨p.1, p.2⟩) ∧
      w.runners.Pairwise fun r s => ∀ id keyOfR keyOfS, (id, keyOfR) ∈ r.client.status w.now →
        (id, keyOfS) ∉ s.client.status w.now := by
  obtain ⟨_, hw⟩ := coherent_of_reaches hd (fun _ _ ho => ho) h
  refine ⟨fun r hr p hp => hw.owns_of_mem_status hr hp, ?_⟩
  have hnames : w.runners.Pairwise fun r s => r.name ≠ s.name := List.pairwise_map.1 hw.named
  refine hnames.imp_of_mem fun {r s} hr hs hne id keyOfR keyOfS hpr hps => ?_
  -- Both keys own the same lock, so they are one key in two hands.
  have hr' := hw.owns_of_mem_status hr hpr
  have hs' := hw.owns_of_mem_status hs hps
  obtain rfl : keyOfR = keyOfS := hr'.key_unique hs'
  obtain ⟨heldR, hgR, _, hkR⟩ := Client.mem_status_iff.1 hpr
  obtain ⟨heldS, hgS, _, hkS⟩ := Client.mem_status_iff.1 hps
  exact hw.apart r hr s hs hne ⟨id, keyOfR⟩ (Or.inl ⟨heldR, hgR, hkR⟩) (Or.inl ⟨heldS, hgS, hkS⟩)

/-- One of two clients has leases, which have been renewed meanwhile. -/
theorem status_exclusive_pair :
    let w := World.acquired.2.advance (seconds 75)
    (w.runners.map fun r => r.client.status w.now) =
        [[("x0", "x0:rk:#1"), ("x1", "x1:rk:#2")], []] ∧
      (∀ r ∈ w.runners, ∀ p ∈ r.client.status w.now, w.gate.table.Owns w.now ⟨p.1, p.2⟩) ∧
      w.runners.Pairwise fun r s => ∀ id keyOfR keyOfS, (id, keyOfR) ∈ r.client.status w.now →
        (id, keyOfS) ∉ s.client.status w.now := by
  intro w
  have hpair : Reaches (fun _ e => e.Ordinary) (World.new .numbered) World.pair :=
    World.pair_reaches World.Timely.ordinary fun _ _ _ => trivial
  have hadvance : Reaches (fun _ e => e.Ordinary) World.acquired.2 w :=
    (World.advance_timely (World.acquired_step.named World.pair_named) _).mono
      World.Timely.ordinary
  refine ⟨by decide, ?_⟩
  exact status_exclusive Issuer.numbered_distinct
    ((hpair.trans (.step World.acquired_step trivial)).trans hadvance)

end Inventory.Reservation
