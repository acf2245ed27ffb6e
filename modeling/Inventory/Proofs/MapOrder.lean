-- The order of a client's map. A client reads the keys of a renewal from a map
-- that has no order, and each time it may come in another one. All that the
-- client and the table go on from is the same whatever that order is.
import Inventory.Proofs.Release
import Inventory.Proofs.RequestOrder

namespace Inventory.Reservation

variable {τ : Type} {issuer : Issuer τ} {now : Instant} {expiration : τ} {c c' : Client τ}
  {r r' : Runner τ} {g g' : Gate τ} {sent sent' : List OwnerKey}

/-! ## The same state -/

/-- Two clients with the same settings that hold the same, in whatever order. -/
structure Client.Same (c c' : Client τ) : Prop where
  config : c.config = c'.config
  holdings : ∀ id, c.holdings.get? id = c'.holdings.get? id

structure Runner.Same (r r' : Runner τ) : Prop where
  name : r.name = r'.name
  client : r.client.Same r'.client
  nextTick : r.nextTick = r'.nextTick
  waiting : Option.Rel List.Perm r.waiting r'.waiting

/-- Two gates that behave alike in front of the same locks, whatever they have written down. -/
structure Gate.Same (g g' : Gate τ) : Prop where
  table : g.table.Same g'.table
  faults : g.faults = g'.faults
  script : g.script = g'.script

theorem Gate.Same.refl (g : Gate τ) : g.Same g := ⟨.refl g.table, rfl, rfl⟩

/-- The same answer to a renewal, in whatever order. -/
inductive SameAnswer : Except Error Outcome → Except Error Outcome → Prop
  | error (e : Error) : SameAnswer (.error e) (.error e)
  | ok {o o' : Outcome} (h : o.Reordered o') : SameAnswer (.ok o) (.ok o')

theorem SameAnswer.refl (answer : Except Error Outcome) : SameAnswer answer answer := by
  cases answer with
  | error e => exact .error e
  | ok o => exact .ok ⟨.refl _, .refl _⟩

namespace Client

/-! ## What is sent -/

theorem Same.entries_perm (h : c.Same c') : c.holdings.entries.Perm c'.holdings.entries := by
  refine (List.perm_ext_iff_of_nodup (.of_map _ c.holdings.distinct)
    (.of_map _ c'.holdings.distinct)).2 ?_
  rintro ⟨id, held⟩
  rw [← Keyed.get?_eq_some_iff, ← Keyed.get?_eq_some_iff, h.holdings id]

/-- Two clients that hold the same send the same keys. -/
theorem Same.due_perm (h : c.Same c') (now : Instant) : (c.due now).Perm (c'.due now) := by
  unfold due
  rw [h.config]
  exact ((h.entries_perm.map _).filter _).map _

/-- A holding that ends within the margin. -/
def Ends (c : Client τ) (now : Instant) (e : String × Holding τ) : Bool :=
  e.2.deadline - now ≤ c.config.renewMargin

theorem due_eq (c : Client τ) (now : Instant) :
    c.due now = (c.holdings.entries.filter (c.Ends now)).map (·.2.lease.ownerKey) := by
  unfold due Keyed.values
  rw [List.filter_map, List.map_map]
  rfl

/-- The client with its holdings in another order. -/
def reordered (c : Client τ) (entries : List (String × Holding τ))
    (hperm : entries.Perm c.holdings.entries) : Client τ :=
  ⟨c.config, entries, (hperm.map Prod.fst).nodup_iff.2 c.holdings.distinct⟩

theorem same_reordered {entries : List (String × Holding τ)}
    (hperm : entries.Perm c.holdings.entries) : c.Same (c.reordered entries hperm) := by
  refine ⟨rfl, fun id => ?_⟩
  ext held
  rw [Keyed.get?_eq_some_iff, Keyed.get?_eq_some_iff]
  exact hperm.mem_iff.symm

/-- The keys that are due may come in any order, each from a map that holds the same. -/
theorem exists_same_due (hperm : sent.Perm (c.due now)) : ∃ c', c.Same c' ∧ c'.due now = sent := by
  rw [due_eq] at hperm
  obtain ⟨ending, rfl, hending⟩ :=
    (congrFun (congrFun (List.eq_map_comp_perm _) sent) _).mpr hperm
  have hentries : (ending ++ c.holdings.entries.filter (!c.Ends now ·)).Perm c.holdings.entries :=
    (hending.append_right _).trans (List.filter_append_perm ..)
  refine ⟨c.reordered _ hentries, same_reordered hentries, ?_⟩
  have hends : ending.filter (c.Ends now) = ending :=
    List.filter_eq_self.2 fun e he => (List.mem_filter.1 (hending.mem_iff.1 he)).2
  have hothers : (c.holdings.entries.filter (!c.Ends now ·)).filter (c.Ends now) = [] := by
    rw [List.filter_eq_nil_iff]
    intro e he
    simpa using (List.mem_filter.1 he).2
  rw [due_eq]
  have hfilter : (ending ++ c.holdings.entries.filter (!c.Ends now ·)).filter (c.Ends now) =
      ending := by
    rw [List.filter_append, hends, hothers, List.append_nil]
  exact congrArg _ hfilter

/-- What counts as sent for an id does not depend on the order of the keys. -/
theorem sentKey?_perm (hperm : sent.Perm sent') (hone : (sent.map OwnerKey.id).Nodup) :
    sentKey? sent = sentKey? sent' := by
  funext id
  ext key
  rw [sentKey?_eq_some_iff hone, sentKey?_eq_some_iff ((hperm.map _).nodup_iff.1 hone),
    hperm.mem_iff]

/-! ## What is made of the answer -/

theorem settleRenewal_same {answer answer' : Except Error Outcome} (h : c.Same c')
    (hsent : sentKey? sent = sentKey? sent') (hanswer : SameAnswer answer answer') :
    (c.settleRenewal now expiration sent answer).Same
      (c'.settleRenewal now expiration sent' answer') := by
  refine ⟨?_, fun id => ?_⟩
  · rw [settleRenewal_config, settleRenewal_config, h.config]
  · cases hanswer with
    | error e => rw [get?_settleRenewal_error, get?_settleRenewal_error, h.holdings id]
    | ok horder =>
      ext held
      rw [get?_settleRenewal_ok, get?_settleRenewal_ok, h.holdings id, h.config, hsent]
      simp only [horder.succeeded.mem_iff, (horder.failed.map Refusal.id).mem_iff]

end Client

/-! ## The gate -/

theorem Gate.Same.log (h : g.Same g') (call call' : Call) : (g.log call).Same (g'.log call') :=
  ⟨h.table, h.faults, h.script⟩

/-- However the keys of a renewal are ordered, the gate gives the same answer. -/
theorem Gate.Same.answerRenew (now : Instant) (h : g.Same g') (hc : c.Same c')
    (hperm : sent.Perm sent') (hone : (sent.map OwnerKey.id).Nodup) :
    SameAnswer (g.answerRenew now (c.renewal sent)).1 (g'.answerRenew now (c'.renewal sent')).1 ∧
      (g.answerRenew now (c.renewal sent)).2.Same (g'.answerRenew now (c'.renewal sent')).2 := by
  unfold Gate.answerRenew
  rw [← h.script, ← h.faults]
  cases g.script.renew with
  | cons answer rest => exact ⟨.refl answer, h.table, rfl, rfl⟩
  | nil =>
    by_cases hdown : g.faults.renewDown = true
    · simp only [hdown, if_true]
      exact ⟨.error down, h⟩
    · simp only [hdown]
      have hf := LockTable.treats_setDeadline (now + c.config.leaseDuration)
      obtain ⟨hanswer, htable⟩ := h.table.treat now .flexible hf hperm hone
      rw [Client.renewal, Client.renewal, ← hc.config]
      exact ⟨.ok hanswer, htable, rfl, rfl⟩

theorem Runner.finishRenewal_same (hr : r.Same r') (hg : g.Same g') (hperm : sent.Perm sent')
    (hone : (sent.map OwnerKey.id).Nodup) :
    (r.finishRenewal issuer now sent g).1.Same (r'.finishRenewal issuer now sent' g').1 ∧
      (r.finishRenewal issuer now sent g).2.Same (r'.finishRenewal issuer now sent' g').2 := by
  obtain ⟨hanswer, hafter⟩ := hg.answerRenew now hr.client hperm hone
  refine ⟨⟨hr.name, ?_, hr.nextTick, .none⟩, hafter⟩
  unfold finishRenewal
  dsimp only
  rw [hr.client.config]
  exact Client.settleRenewal_same hr.client (Client.sentKey?_perm hperm hone) hanswer

theorem Runner.Same.followingTick (h : r.Same r') (now : Instant) :
    r.followingTick now = r'.followingTick now := by
  unfold Runner.followingTick
  rw [h.nextTick, h.client.config]

/-- What is due is sent the same way whatever order the holdings come in. -/
theorem Runner.Same.renewDue (hc : r.client.InPlace) (h : r.Same r') (hg : g.Same g') :
    (r.renewDue issuer now g).1.Same (r'.renewDue issuer now g').1 ∧
      (r.renewDue issuer now g).2.Same (r'.renewDue issuer now g').2 := by
  have hdue := h.client.due_perm now
  have hlog := hg.log (.renew now (r.client.renewal (r.client.due now)))
    (.renew now (r'.client.renewal (r'.client.due now)))
  unfold Runner.renewDue
  dsimp only
  rw [hdue.isEmpty_eq, hlog.faults]
  split
  · exact ⟨h, hg⟩
  · split
    · exact ⟨⟨h.name, h.client, h.nextTick, .some hdue⟩, hlog⟩
    · exact Runner.finishRenewal_same h hlog hdue (Client.due_distinct hc)

/-- A tick goes the same way whatever order the holdings come in. -/
theorem Runner.Same.tick (hc : r.client.InPlace) (h : r.Same r') (hg : g.Same g') :
    (r.tick issuer now g).1.Same (r'.tick issuer now g').1 ∧
      (r.tick issuer now g).2.Same (r'.tick issuer now g').2 := by
  have hnext : ({ r with nextTick := r.followingTick now } : Runner τ).Same
      { r' with nextTick := r'.followingTick now } :=
    ⟨h.name, h.client, h.followingTick now, h.waiting⟩
  exact hnext.renewDue hc hg

theorem Runner.exists_same_due (hperm : sent.Perm (r.client.due now)) :
    ∃ r' : Runner τ, r.Same r' ∧ r'.client.due now = sent := by
  obtain ⟨c', hsame, hdue⟩ := Client.exists_same_due hperm
  refine ⟨{ r with client := c' }, ⟨rfl, hsame, rfl, ?_⟩, hdue⟩
  cases r.waiting with
  | none => exact .none
  | some sent => exact .some (.refl sent)

/-- The order of a request makes no difference. However the ids of a request for locks are ordered,
the same are granted and refused and the same are locked until the same instants, and the leases
are the same but that their numbers change places; a renewal or a release is done for the same ids
and refused for the same ids, and leaves the same locks. The keys that are due may come from the
client's map in any order, and a tick leaves the same client and the same table. -/
theorem order_irrelevant (issuer : Issuer τ) :
    (∀ (now : Instant) (t : LockTable) (r : CreateRequest) (ids' : List String),
      r.ids.Nodup → r.ids.Perm ids' →
        LockTable.SameIds (t.create issuer now r) (t.create issuer now { r with ids := ids' }) ∧
        ∃ rename, t.Renumbers r.ids.length rename ∧
          (t.create issuer now r).1.Reordered
            (t.create (issuer.renumbered rename) now { r with ids := ids' }).1 ∧
          (t.create issuer now r).2.Same
            (t.create (issuer.renumbered rename) now { r with ids := ids' }).2) ∧
    (∀ (now : Instant) (t : LockTable) (model : Model) (keys keys' : List OwnerKey),
      (keys.map OwnerKey.id).Nodup → keys.Perm keys' →
        (∀ duration,
          (t.renew now ⟨keys, model, duration⟩).1.Reordered
            (t.renew now ⟨keys', model, duration⟩).1 ∧
          (t.renew now ⟨keys, model, duration⟩).2.Same
            (t.renew now ⟨keys', model, duration⟩).2) ∧
        (t.release now ⟨keys, model⟩).1.Reordered (t.release now ⟨keys', model⟩).1 ∧
        (t.release now ⟨keys, model⟩).2.Same (t.release now ⟨keys', model⟩).2) ∧
    ∀ (w : World τ) (r : Runner τ) (now : Instant),
      Reaches (fun _ _ => True) (World.new issuer) w → r ∈ w.runners →
        (∀ sent, sent.Perm (r.client.due now) →
          ∃ r' : Runner τ, r.Same r' ∧ r'.client.due now = sent) ∧
        ∀ r', r.Same r' →
          (r.tick issuer now w.gate).1.Same (r'.tick issuer now w.gate).1 ∧
          (r.tick issuer now w.gate).2.Same (r'.tick issuer now w.gate).2 := by
  refine ⟨fun now t r ids' hone hperm => ?_, fun now t model keys keys' hone hperm => ?_,
    fun w r now hreach hr => ?_⟩
  · exact ⟨LockTable.create_perm_ids hone hperm, LockTable.create_perm hperm issuer⟩
  · have hsame := LockTable.Same.refl t
    exact ⟨fun duration => hsame.treat now model (LockTable.treats_setDeadline _) hperm hone,
      hsame.treat now model LockTable.treats_remove hperm hone⟩
  · have hc := (orderly_of_reaches hreach).inPlace r hr
    exact ⟨fun sent => Runner.exists_same_due, fun r' h => h.tick hc (.refl w.gate)⟩

/-- The client with two leases. -/
def World.acquirer : Runner Unit := acquired.2.runners.head (by decide)

theorem World.acquired_reaches :
    Reaches (fun _ _ => True) (World.new .numbered) acquired.2 := by
  have hpair : Reaches (fun _ _ => True) (World.new .numbered) pair :=
    pair_reaches (fun _ _ _ => trivial) fun _ _ _ => trivial
  exact hpair.trans (.step acquired_step trivial)

/-- One lock has just ended and one is live; and a client has two leases, and both are due. -/
theorem order_irrelevant_leftover :
    let t := LockTable.leftover
    let now := seconds 60
    let asked : CreateRequest := ⟨["x2", "x1", "x0"], .flexible, seconds 60⟩
    let turned : CreateRequest := ⟨["x0", "x1", "x2"], .flexible, seconds 60⟩
    let keys : List OwnerKey := [⟨"x0", "x0:rk:#1"⟩, ⟨"x1", "x1:rk:#2"⟩]
    let tick := fun r : Runner Unit => r.tick .numbered (seconds 31) World.acquired.2.gate
    ((t.create Issuer.numbered now asked).1.granted.map Lease.key = ["x2:rk:#3", "x0:rk:#4"] ∧
      (t.create Issuer.numbered now turned).1.granted.map Lease.key = ["x0:rk:#3", "x2:rk:#4"] ∧
      LockTable.SameIds (t.create Issuer.numbered now asked)
        (t.create Issuer.numbered now turned)) ∧
    (t.release now ⟨keys, .flexible⟩).1.Reordered
      (t.release now ⟨keys.reverse, .flexible⟩).1 ∧
    ∃ r', r'.client.due (seconds 31) = [⟨"x1", "x1:rk:#2"⟩, ⟨"x0", "x0:rk:#1"⟩] ∧
      (tick World.acquirer).1.Same (tick r').1 ∧ (tick World.acquirer).2.Same (tick r').2 := by
  intro t now asked turned keys tick
  obtain ⟨hcreate, htreat, htick⟩ := order_irrelevant Issuer.numbered
  have hids : asked.ids.Perm turned.ids := by decide
  have hkeys : keys.Perm keys.reverse := by decide
  obtain ⟨hevery, hsame⟩ := htick World.acquired.2 World.acquirer (seconds 31)
    World.acquired_reaches (List.head_mem _)
  obtain ⟨r', hr', hdue⟩ := hevery [⟨"x1", "x1:rk:#2"⟩, ⟨"x0", "x0:rk:#1"⟩] (by decide)
  exact ⟨⟨by decide, by decide, (hcreate now t asked turned.ids (by decide) hids).1⟩,
    (htreat now t .flexible keys keys.reverse (by decide) hkeys).2.1, r', hdue, hsame r' hr'⟩

end Inventory.Reservation
