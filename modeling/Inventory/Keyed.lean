-- Finite maps from ids to values: a list of entries in which no id stands
-- twice. The view is `get?`; each operation says what it does to it.

namespace Inventory

structure Keyed (α : Type) where
  entries : List (String × α)
  distinct : (entries.map Prod.fst).Nodup

namespace Keyed

variable {α : Type}

def empty : Keyed α := ⟨[], by simp⟩

instance : Inhabited (Keyed α) := ⟨empty⟩

def get? (m : Keyed α) (id : String) : Option α := m.entries.lookup id

def contains (m : Keyed α) (id : String) : Bool := (m.get? id).isSome

theorem distinct_filter (p : String × α → Bool) (m : Keyed α) :
    ((m.entries.filter p).map Prod.fst).Nodup :=
  m.distinct.sublist (List.filter_sublist.map Prod.fst)

/-- Keeps the entries whose values satisfy `p`. -/
def filter (p : α → Bool) (m : Keyed α) : Keyed α :=
  ⟨m.entries.filter fun e => p e.2, distinct_filter _ m⟩

def erase (m : Keyed α) (id : String) : Keyed α :=
  ⟨m.entries.filter fun e => e.1 != id, distinct_filter _ m⟩

def eraseAll (m : Keyed α) (ids : List String) : Keyed α := ids.foldl erase m

/-- Puts a value in, in place of the one with the same id if there is one. -/
def insert (m : Keyed α) (id : String) (a : α) : Keyed α :=
  ⟨(m.erase id).entries ++ [(id, a)], by
    rw [List.map_append, List.nodup_append]
    refine ⟨(m.erase id).distinct, by simp, ?_⟩
    intro x hx y hy hxy
    simp only [List.map_cons, List.map_nil, List.mem_singleton] at hy
    subst hxy hy
    simp [erase] at hx⟩

def values (m : Keyed α) : List α := m.entries.map Prod.snd

/-! ## The view -/

theorem lookup_eq_some_iff {l : List (String × α)} (h : (l.map Prod.fst).Nodup) {id : String}
    {a : α} : l.lookup id = some a ↔ (id, a) ∈ l := by
  induction l with
  | nil => simp
  | cons e l ih =>
    obtain ⟨k, v⟩ := e
    rw [List.map_cons, List.nodup_cons] at h
    by_cases hk : id = k
    · subst hk
      have hn (b : α) : (id, b) ∉ l := fun hb => h.1 (List.mem_map.2 ⟨_, hb, rfl⟩)
      simp [hn a, eq_comm]
    · have hb : (id == k) = false := by simp [hk]
      simp [List.lookup_cons, hb, hk, ih h.2]

theorem get?_eq_some_iff {m : Keyed α} {id : String} {a : α} :
    m.get? id = some a ↔ (id, a) ∈ m.entries :=
  lookup_eq_some_iff m.distinct

@[simp] theorem get?_empty (id : String) : (empty : Keyed α).get? id = none := rfl

theorem get?_filter (p : α → Bool) (m : Keyed α) (id : String) :
    (m.filter p).get? id = (m.get? id).filter p := by
  ext a
  rw [get?_eq_some_iff, Option.filter_eq_some_iff, get?_eq_some_iff]
  simp [filter]

theorem get?_erase (m : Keyed α) (id other : String) :
    (m.erase id).get? other = if other = id then none else m.get? other := by
  ext a
  by_cases h : other = id
  · simp [h, get?_eq_some_iff, erase]
  · simp [h, get?_eq_some_iff, erase]

theorem get?_insert (m : Keyed α) (id : String) (a : α) (other : String) :
    (m.insert id a).get? other = if other = id then some a else m.get? other := by
  ext b
  rw [get?_eq_some_iff]
  by_cases h : other = id
  · simp [h, insert, erase, eq_comm]
  · simp [h, insert, erase, get?_eq_some_iff]

theorem get?_eraseAll (m : Keyed α) (ids : List String) (other : String) :
    (m.eraseAll ids).get? other = if other ∈ ids then none else m.get? other := by
  induction ids generalizing m with
  | nil => simp [eraseAll]
  | cons id ids ih =>
    have h := ih (m.erase id)
    rw [eraseAll, List.foldl_cons, ← eraseAll, h, get?_erase]
    by_cases h₁ : other ∈ ids <;> by_cases h₂ : other = id <;> simp [h₁, h₂]

end Keyed

end Inventory
