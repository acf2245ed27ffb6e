-- Runs of names. Cutting a name into runs is the library's splitting into groups
-- of one kind, so two texts that meet in different kinds are cut on their own, and
-- a number with no digits around it is a run of its own.
import Mathlib.Data.List.SplitBy
import Inventory.NaturalOrder
import Inventory.Proofs.Numerals

namespace Inventory.NaturalOrder

open Text

variable {c d : Char} {cs ds run : List Char} {rest : List (List Char)}

/-! ## Groups of one kind -/

/-- Both are digits, or neither is. -/
def sameKind (c d : Char) : Bool := c.isDigit == d.isDigit

theorem exists_splitBy_cons (d : Char) (ds : List Char) :
    ∃ run rest, (d :: ds).splitBy sameKind = (d :: run) :: rest := by
  have hjoin := List.flatten_splitBy sameKind (d :: ds)
  have hne := List.nil_notMem_splitBy sameKind (d :: ds)
  rcases h : (d :: ds).splitBy sameKind with _ | ⟨_ | ⟨e, run⟩, rest⟩
  · rw [h] at hjoin
    cases hjoin
  · rw [h] at hne
    exact absurd List.mem_cons_self hne
  · rw [h] at hjoin
    obtain rfl : e = d := (List.cons.inj hjoin).1
    exact ⟨run, rest, rfl⟩

theorem splitBy_cons_of_same (hkind : sameKind c d = true)
    (h : (d :: ds).splitBy sameKind = (d :: run) :: rest) :
    (c :: d :: ds).splitBy sameKind = (c :: d :: run) :: rest := by
  rw [List.splitBy_eq_iff] at h ⊢
  obtain ⟨hjoin, hne, hsame, hbreak⟩ := h
  refine ⟨by rw [hjoin]; simp, by simpa using hne, ?_, ?_⟩
  · rw [List.forall_mem_cons] at hsame ⊢
    exact ⟨List.isChain_cons_cons.2 ⟨hkind, hsame.1⟩, hsame.2⟩
  · -- The first group ends in the same character as before.
    cases rest with
    | nil => exact List.isChain_singleton _
    | cons next rest =>
      rw [List.isChain_cons_cons] at hbreak ⊢
      simpa using hbreak

theorem splitBy_cons_of_different (hkind : sameKind c d = false) (ds : List Char) :
    (c :: d :: ds).splitBy sameKind = [c] :: (d :: ds).splitBy sameKind := by
  apply List.splitBy_append_cons (l := [c])
  simpa using hkind

theorem runs_eq_splitBy (cs : List Char) : runs cs = cs.splitBy sameKind := by
  induction cs with
  | nil => rfl
  | cons c cs ih =>
    rw [runs, ih]
    cases cs with
    | nil => rfl
    | cons d ds =>
      obtain ⟨run, rest, hsplit⟩ := exists_splitBy_cons d ds
      rw [hsplit]
      dsimp only
      split
      · rename_i hkind
        exact (splitBy_cons_of_same (beq_iff_eq.2 hkind) hsplit).symm
      · rename_i hkind
        rw [splitBy_cons_of_different (beq_eq_false_iff_ne.2 hkind), hsplit]

/-! ## Where texts meet -/

/-- Texts that meet in different kinds have no run in common. -/
theorem runs_append {front back : List Char}
    (h : ∀ c, front.getLast? = some c → ∀ d, back.head? = some d → c.isDigit ≠ d.isDigit) :
    runs (front ++ back) = runs front ++ runs back := by
  rw [runs_eq_splitBy, runs_eq_splitBy, runs_eq_splitBy]
  apply List.splitBy_append
  intro c hc d hd
  exact beq_eq_false_iff_ne.2 (h c hc d hd)

theorem runs_of_digits {digits : List Char} (hne : digits ≠ [])
    (h : ∀ c ∈ digits, c.isDigit = true) : runs digits = [digits] := by
  rw [runs_eq_splitBy]
  apply List.splitBy_of_isChain hne
  apply List.Pairwise.isChain
  apply List.pairwise_of_forall_mem_list
  intro c hc d hd
  simp [sameKind, h c hc, h d hd]

/-- A number with no digits around it is a run of its own. -/
theorem runs_number {front digits back : List Char} {n : Nat}
    (hfront : ∀ c, front.getLast? = some c → c.isDigit = false) (h : IsDecimal digits n)
    (hback : ∀ c, back.head? = some c → c.isDigit = false) :
    runs (front ++ digits ++ back) = runs front ++ digits :: runs back := by
  rw [List.append_assoc, runs_append, runs_append, runs_of_digits h.nonempty h.isDigit]
  · rfl
  · intro c hc d hd
    rw [h.isDigit c (List.mem_of_mem_getLast? hc), hback d hd]
    decide
  · intro c hc d hd
    rw [List.head?_append_of_ne_nil _ h.nonempty] at hd
    rw [hfront c hc, h.isDigit d (List.mem_of_mem_head? hd)]
    decide

end Inventory.NaturalOrder
