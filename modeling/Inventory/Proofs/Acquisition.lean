-- What a client that asked for locks holds afterwards. A rigid request counts
-- as granted when the answer refuses nothing; whether it grants everything is
-- up to the service.
import Inventory.Proofs.Holdings
import Inventory.Proofs.LiveLocks

namespace Inventory.Reservation.Client

variable {σ τ : Type} {service : Service σ τ} {now : Instant} {ids : List String}
  {c c' : Client τ} {s s' : σ} {leases : List (Lease τ)} {id : String}

theorem check_iff : c.check now ids = true ↔ ∀ id ∈ ids, c.holds now id = true := List.all_eq_true

/-- Leases that last are counted on once they are taken in. -/
theorem holds_record_of_mem (hlasts : 0 < c.config.leaseDuration) (h : id ∈ leases.map Lease.id) :
    (c.record now leases).holds now id = true := by
  obtain ⟨l, _, _, hget⟩ := get?_record_of_mem c now h
  exact holds_iff.2 ⟨_, hget, Nat.lt_add_of_pos_right hlasts⟩

theorem holds_record_of_not_mem (h : id ∉ leases.map Lease.id) :
    (c.record now leases).holds now id = c.holds now id := by
  unfold holds current?
  rw [get?_record_of_not_mem h]

/-- Acquiring succeeds with what the service grants, provided that the answer refuses nothing. The
client then holds every id if and only if each of them is among the leases granted. -/
theorem check_acquire_iff (hlasts : 0 < c.config.leaseDuration)
    (h : c.acquire service now ids s = (.ok leases, c', s')) :
    service.create ⟨ids, .rigid, c.config.leaseDuration⟩ s = (.ok ⟨leases, []⟩, s') ∧
      (c'.check now ids = true ↔ ∀ id ∈ ids, id ∈ leases.map Lease.id) := by
  cases acquire_acquires h with
  | @granted answer _ hfree hcreate hall =>
    obtain ⟨granted, failed⟩ := answer
    dsimp only at hall
    subst hall
    refine ⟨hcreate, ?_⟩
    rw [check_iff]
    constructor
    · intro hcheck id hid
      by_cases hmem : id ∈ granted.map Lease.id
      · exact hmem
      · have hheld := hcheck id hid
        rw [holds_record_of_not_mem hmem] at hheld
        exact absurd hheld (List.filter_eq_nil_iff.1 hfree id hid)
    · intro hcover id hid
      exact holds_record_of_mem hlasts (hcover id hid)

/-- The table grants all that is asked for. -/
theorem check_acquire_table :
    let before : Client Unit := Client.new {}
    let after := before.acquire (LockTable.service .numbered 0) 0 ["x0"] LockTable.empty
    after.1 = .ok [⟨"x0", "x0:rk:#1", some "x0:dk:#1", ()⟩] ∧ after.2.1.check 0 ["x0"] = true := by
  intro before after
  have h : after = (.ok [⟨"x0", "x0:rk:#1", some "x0:dk:#1", ()⟩], after.2) := rfl
  exact ⟨congrArg Prod.fst h, (check_acquire_iff (by decide) h).2.2 (by decide)⟩

/-- A service that answers every request and does nothing. -/
def silent : Service Unit τ where
  create _ s := (.ok {}, s)
  renew _ s := (.ok {}, s)
  release _ s := (.ok {}, s)

/-- An answer that neither grants nor refuses passes for a success. -/
theorem acquire_silent :
    ∃ c' : Client Unit, (Client.new {}).acquire silent 0 ["x0"] () = (.ok [], c', ()) ∧
      0 < c'.config.leaseDuration ∧ c'.check 0 ["x0"] = false :=
  ⟨Client.new {}, rfl, by decide, by decide⟩

end Inventory.Reservation.Client
