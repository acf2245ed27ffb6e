-- Natural order is a total order. Runs are ordered by three keys, names by
-- their runs and then as plain texts, so two names tie only if they are one, and
-- a list of names can be put in order in one way only.
import Mathlib.Data.List.Basic
import Mathlib.Order.Compare
import Inventory.NaturalOrder
import Inventory.Proofs.Texts

namespace Inventory

open Std (LawfulEqCmp LawfulEqOrd OrientedCmp TransCmp TransOrd)

/-- Things are in order when what is taken from them is. -/
theorem transCmp_on {α β : Type} (f : α → β) (cmp : β → β → Ordering) [TransCmp cmp] :
    TransCmp fun a b => cmp (f a) (f b) where
  eq_swap {a _} := (OrientedCmp.eq_swap : cmp (f a) (f _) = _)
  isLE_trans hab hbc := (TransCmp.isLE_trans hab hbc : (cmp (f _) (f _)).isLE = true)

namespace NaturalOrder

/-! ## Texts -/

theorem compareChars_eq : compareChars = List.compareLex (compareOn Char.toNat) := by
  funext as bs
  induction as generalizing bs with
  | nil => cases bs <;> rfl
  | cons a as ih =>
    cases bs with
    | nil => rfl
    | cons b bs =>
      rw [compareChars, ih bs, List.compareLex_cons_cons, compareOn]

instance lawfulEqCmp_toNat : LawfulEqCmp (compareOn Char.toNat) where
  compare_self := Std.ReflOrd.compare_self
  eq_of_compare h := Char.toNat_inj.1 (LawfulEqOrd.eq_of_compare h)

instance : TransCmp compareChars := by
  rw [compareChars_eq]
  infer_instance

instance : LawfulEqCmp compareChars := by
  rw [compareChars_eq]
  infer_instance

theorem compareChars_eq_lt_iff {as bs : List Char} : compareChars as bs = .lt ↔ as < bs := by
  induction as generalizing bs with
  | nil => cases bs <;> simp [compareChars]
  | cons a as ih =>
    cases bs with
    | nil => simp [compareChars]
    | cons b bs =>
      rw [compareChars, Ordering.then_eq_lt, Nat.compare_eq_lt, Nat.compare_eq_eq, Char.toNat_inj,
        ih, List.cons_lt_cons_iff]
      rfl

/-- Texts are compared by code point. -/
theorem compare_eq_compareChars (s t : String) :
    compare s t = compareChars s.toList t.toList := by
  change compareOfLessAndEq s t = _
  unfold compareOfLessAndEq
  split
  · rename_i hlt
    exact (compareChars_eq_lt_iff.2 hlt).symm
  rename_i hnot
  split
  · rename_i heq
    rw [heq]
    exact Std.ReflCmp.compare_self.symm
  · rename_i hne
    cases h : compareChars s.toList t.toList with
    | lt => exact absurd (compareChars_eq_lt_iff.1 h) hnot
    | eq => exact absurd (String.toList_inj.1 (LawfulEqCmp.eq_of_compare h)) hne
    | gt => rfl

/-! ## Runs -/

/-- Where a run stands among runs of other kinds: with the texts before all digits, with the
digits, or with the texts after them. -/
def rank : List Char → Nat
  | [] => 0
  | c :: _ => if c.isDigit then 1 else if c.toNat < 48 then 0 else 2

/-- A run of digits without its leading zeros, and any other run as it is. -/
def face (run : List Char) : List Char :=
  if isDigitRun run then run.dropWhile (· == '0') else run

/-- How many digits a run of digits has after its leading zeros. -/
def weight (run : List Char) : Nat := if isDigitRun run then (face run).length else 0

theorem isDigitRun_iff {run : List Char} : isDigitRun run = true ↔ rank run = 1 := by
  cases run with
  | nil => simp [isDigitRun, rank]
  | cons c cs =>
    by_cases hc : c.isDigit = true
    · simp [isDigitRun, rank, hc]
    · by_cases hlow : c.toNat < 48 <;> simp [isDigitRun, rank, hc, hlow]

theorem toNat_lt_of_rank_lt {c d : Char} {cs ds : List Char} (h : rank (c :: cs) < rank (d :: ds)) :
    c.toNat < d.toNat := by
  simp only [rank, Text.isDigit_iff] at h
  grind

/-- Texts of different ranks differ at their first characters. -/
theorem compareChars_of_rank_lt {a b : List Char} (h : rank a < rank b) :
    compareChars a b = .lt ∧ compareChars b a = .gt := by
  cases b with
  | nil => exact absurd h (Nat.not_lt_zero _)
  | cons d ds =>
    cases a with
    | nil => exact ⟨rfl, rfl⟩
    | cons c cs =>
      have hlt := toNat_lt_of_rank_lt h
      constructor
      · rw [compareChars, Nat.compare_eq_lt.2 hlt, Ordering.lt_then]
      · rw [compareChars, Nat.compare_eq_gt.2 hlt, Ordering.gt_then]

/-- Runs are ordered by rank, then by the number of digits, then as texts. -/
theorem compareRun_eq : compareRun =
    compareLex (compareOn rank)
      (compareLex (compareOn weight) fun a b => compareChars (face a) (face b)) := by
  funext a b
  by_cases hrank : rank a = rank b
  · have hsame : compareOn rank a b = .eq := Nat.compare_eq_eq.2 hrank
    rw [compareLex, hsame, Ordering.eq_then, compareLex, compareOn]
    by_cases hdigits : rank a = 1
    · have ha : isDigitRun a = true := isDigitRun_iff.2 hdigits
      have hb : isDigitRun b = true := isDigitRun_iff.2 (hrank ▸ hdigits)
      simp only [compareRun, compareValues, weight, face, ha, hb, Bool.and_true, if_true]
    · have ha : isDigitRun a = false := by rwa [← Bool.not_eq_true, isDigitRun_iff]
      have hb : isDigitRun b = false := by rwa [← Bool.not_eq_true, isDigitRun_iff, ← hrank]
      simp [compareRun, weight, face, ha, hb]
  · have htext : compareRun a b = compareChars a b := by
      rw [compareRun, if_neg]
      rw [Bool.and_eq_true, isDigitRun_iff, isDigitRun_iff]
      omega
    rw [htext, compareLex, compareOn]
    rcases Nat.lt_or_gt_of_ne hrank with hlt | hgt
    · rw [(compareChars_of_rank_lt hlt).1, Nat.compare_eq_lt.2 hlt, Ordering.lt_then]
    · rw [(compareChars_of_rank_lt hgt).2, Nat.compare_eq_gt.2 hgt, Ordering.gt_then]

instance : TransCmp compareRun := by
  have := transCmp_on face compareChars
  rw [compareRun_eq]
  infer_instance

theorem compareRuns_eq : compareRuns = List.compareLex compareRun := by
  funext as bs
  induction as generalizing bs with
  | nil => cases bs <;> rfl
  | cons a as ih =>
    cases bs with
    | nil => rfl
    | cons b bs => rw [compareRuns, ih bs, List.compareLex_cons_cons]

instance : TransCmp compareRuns := by
  rw [compareRuns_eq]
  infer_instance

/-! ## Names -/

theorem compareNames_eq : compareNames =
    compareLex (fun a b => compareRuns (runs a.toList) (runs b.toList))
      fun a b => compareChars a.toList b.toList := rfl

instance : TransCmp compareNames := by
  have := transCmp_on (fun name : String => runs name.toList) compareRuns
  have := transCmp_on String.toList compareChars
  rw [compareNames_eq]
  infer_instance

instance : LawfulEqCmp compareNames where
  eq_of_compare h :=
    -- Where all runs tie, the plain texts decide.
    String.toList_inj.1 (LawfulEqCmp.eq_of_compare (Ordering.then_eq_eq.1 h).2)

end NaturalOrder

/-! ## Resources -/

open NaturalOrder (compareNames)

instance : TransOrd ResourceId := transCmp_on ResourceId.text compareNames

instance : LawfulEqOrd ResourceId where
  compare_self {a} := (Std.ReflCmp.compare_self : compareNames a.text a.text = .eq)
  eq_of_compare {a b} h := by
    have htie : compareNames a.text b.text = .eq := h
    have htext : a.text = b.text := LawfulEqCmp.eq_of_compare htie
    cases a
    cases b
    exact congrArg ResourceId.mk htext

/-- Names are in a total order: comparing them the other way round gives the reverse, a name ties
with itself only, and what is not greater than a name that is not greater than a third one is not
greater than that. Resources are in the order of their names. -/
theorem NaturalOrder.compareNames_linear (a b c : String) :
    compareNames a b = (compareNames b a).swap ∧
      (compareNames a b = .eq ↔ a = b) ∧
      (compareNames a b ≠ .gt → compareNames b c ≠ .gt → compareNames a c ≠ .gt) ∧
      TransOrd ResourceId ∧ LawfulEqOrd ResourceId := by
  refine ⟨OrientedCmp.eq_swap, LawfulEqCmp.compare_eq_iff_eq, ?_, inferInstance, inferInstance⟩
  intro hab hbc
  exact TransCmp.le_trans hab hbc

/-- Names whose numbers differ in leading zeros only are in order as well. -/
theorem NaturalOrder.compareNames_linear_zeros :
    compareNames "x001" "x01" ≠ .gt ∧ compareNames "x01" "x1" ≠ .gt ∧
      compareNames "x001" "x1" ≠ .gt := by
  have h₁ : compareNames "x001" "x01" ≠ .gt := by decide
  have h₂ : compareNames "x01" "x1" ≠ .gt := by decide
  exact ⟨h₁, h₂, (compareNames_linear "x001" "x01" "x1").2.2.1 h₁ h₂⟩

namespace NaturalOrder

/-! ## Sorting -/

/-- No name is greater than one that comes later. -/
def InOrder (names : List String) : Prop := names.Pairwise fun a b => compareNames a b ≠ .gt

theorem inOrder_sortNames (names : List String) : InOrder (sortNames names) := by
  have hsorted : (sortNames names).Pairwise fun a b => (compareNames a b != .gt) = true := by
    apply List.pairwise_mergeSort
    · intro a b c hab hbc
      rw [bne_iff_ne] at hab hbc ⊢
      exact TransCmp.le_trans hab hbc
    · intro a b
      have hswap : compareNames b a = (compareNames a b).swap := OrientedCmp.eq_swap
      rw [hswap]
      cases compareNames a b <;> rfl
  unfold InOrder
  simpa using hsorted

/-- Names that are in order both ways round are one, so there is one way to put names in order. -/
theorem InOrder.eq_of_perm {names others : List String} (h : InOrder names) (h' : InOrder others)
    (hperm : names.Perm others) : names = others := by
  apply List.Perm.eq_of_pairwise _ h h' hperm
  intro a b _ _ hab hba
  have hswap : compareNames b a = (compareNames a b).swap := OrientedCmp.eq_swap
  cases htie : compareNames a b with
  | lt => exact absurd (by rw [hswap, htie]; rfl) hba
  | eq => exact LawfulEqCmp.eq_of_compare htie
  | gt => exact absurd htie hab

theorem eq_sortNames_iff {names sorted : List String} :
    sorted = sortNames names ↔ sorted.Perm names ∧ InOrder sorted := by
  constructor
  · rintro rfl
    exact ⟨List.mergeSort_perm _ _, inOrder_sortNames names⟩
  · rintro ⟨hperm, horder⟩
    exact horder.eq_of_perm (inOrder_sortNames names) (hperm.trans (List.mergeSort_perm _ _).symm)

theorem sort_resources (names : List String) :
    ResourceId.sort (names.map ResourceId.mk) = (sortNames names).map ResourceId.mk := by
  symm
  apply List.map_mergeSort
  intro a _ b _
  rfl

/-- A sorted list has the names of the unsorted one, each before all that are greater. It does not
depend on the order that they were in, and resources are sorted as their names are. -/
theorem sorting_canonical (names : List String) :
    (sortNames names).Perm names ∧
      (sortNames names).Pairwise (fun a b => compareNames a b = .lt ∨ compareNames a b = .eq) ∧
      (∀ others : List String, others.Perm names → sortNames others = sortNames names) ∧
      (ResourceId.sort (names.map ResourceId.mk)).map ResourceId.text = sortNames names := by
  obtain ⟨hperm, horder⟩ := eq_sortNames_iff.1 (rfl : sortNames names = _)
  refine ⟨hperm, horder.imp ?_, ?_, ?_⟩
  · intro a b hab
    cases h : compareNames a b with
    | lt => exact .inl rfl
    | eq => exact .inr rfl
    | gt => exact absurd h hab
  · intro others hothers
    obtain ⟨hperm', horder'⟩ := eq_sortNames_iff.1 (rfl : sortNames others = _)
    exact eq_sortNames_iff.2 ⟨hperm'.trans hothers, horder'⟩
  · rw [sort_resources, List.map_map]
    exact List.map_id _

theorem sorting_canonical_zeros :
    ["a1", "a001", "a01"].Perm ["a01", "a1", "a001"] ∧
      sortNames ["a1", "a001", "a01"] = sortNames ["a01", "a1", "a001"] := by
  have hperm : ["a1", "a001", "a01"].Perm ["a01", "a1", "a001"] := by decide
  exact ⟨hperm, (sorting_canonical ["a01", "a1", "a001"]).2.2.1 _ hperm⟩

end NaturalOrder

end Inventory
