-- Names with numbers in them. Digits are compared without being read, by how many
-- they are and then as texts, and that is the order of their values. So the first
-- numbers that two names differ in decide between them.
import Inventory.Proofs.NameOrder
import Inventory.Proofs.NameRuns

namespace Inventory.NaturalOrder

open Text

variable {ms ns : List Char} {m n : Nat}

/-! ## Digits in order -/

/-- As many digits are in order as the numbers that they spell. -/
theorem compareChars_of_digits (hlen : ms.length = ns.length) (hm : ∀ c ∈ ms, c.isDigit = true)
    (hn : ∀ c ∈ ns, c.isDigit = true) :
    compareChars ms ns = compare (decimalValue ms) (decimalValue ns) := by
  induction ms generalizing ns with
  | nil =>
    obtain rfl := List.length_eq_zero_iff.1 hlen.symm
    rfl
  | cons c ms ih =>
    obtain ⟨d, ns, rfl⟩ := List.exists_cons_of_length_eq_add_one hlen.symm
    rw [List.forall_mem_cons] at hm hn
    have hlen : ms.length = ns.length := Nat.succ.inj hlen
    have hfirst : compare c.toNat d.toNat = compare (c.toNat - 48) (d.toNat - 48) := by
      have hc := (isDigit_iff.1 hm.1).1
      have hd := (isDigit_iff.1 hn.1).1
      rw [← cmp_eq_compare, ← cmp_eq_compare, ← cmp_add_right (c.toNat - 48) _ 48,
        Nat.sub_add_cancel hc, Nat.sub_add_cancel hd]
    have hvalues := compare_mul_add (c.toNat - 48) (d.toNat - 48) (hlen ▸ decimalValue_lt hm.2)
      (decimalValue_lt hn.2)
    rw [compareChars, ih hlen hm.2 hn.2, hfirst, ← hvalues, decimalValue_cons, decimalValue_cons,
      hlen]

/-- Of two numbers, the one with fewer digits is the smaller if the other has no leading zero. -/
theorem decimalValue_lt_of_length_lt (hlen : ms.length < ns.length)
    (hm : ∀ c ∈ ms, c.isDigit = true) (hn : ∀ c ∈ ns, c.isDigit = true)
    (hzero : ns.head? ≠ some '0') : decimalValue ms < decimalValue ns := by
  cases ns with
  | nil => exact absurd hlen (Nat.not_lt_zero _)
  | cons d ns =>
    have hd : d ≠ '0' := by simpa using hzero
    calc decimalValue ms < 10 ^ ms.length := decimalValue_lt hm
      _ ≤ 10 ^ ns.length := Nat.pow_le_pow_right (by decide) (Nat.le_of_lt_succ hlen)
      _ ≤ decimalValue (d :: ns) := le_decimalValue (hn d List.mem_cons_self) hd

theorem compare_length_then_chars (hm : ∀ c ∈ ms, c.isDigit = true)
    (hn : ∀ c ∈ ns, c.isDigit = true) (hzero : ms.head? ≠ some '0')
    (hzero' : ns.head? ≠ some '0') :
    (compare ms.length ns.length).then (compareChars ms ns) =
      compare (decimalValue ms) (decimalValue ns) := by
  rcases Nat.lt_trichotomy ms.length ns.length with hlt | heq | hgt
  · rw [Nat.compare_eq_lt.2 hlt, Ordering.lt_then, eq_comm, Nat.compare_eq_lt]
    exact decimalValue_lt_of_length_lt hlt hm hn hzero'
  · rw [Nat.compare_eq_eq.2 heq, Ordering.eq_then]
    exact compareChars_of_digits heq hm hn
  · rw [Nat.compare_eq_gt.2 hgt, Ordering.gt_then, eq_comm, Nat.compare_eq_gt]
    exact decimalValue_lt_of_length_lt hgt hn hm hzero

theorem head?_dropWhile_zero_ne (digits : List Char) :
    (digits.dropWhile (· == '0')).head? ≠ some '0' := by
  intro h
  have hfirst := List.head?_dropWhile_not (· == '0') digits
  rw [h] at hfirst
  cases hfirst

/-! ## Runs of digits -/

/-- Runs of digits are in the order of their values, whatever their lengths. -/
theorem compareValues_eq (hm : IsDecimal ms m) (hn : IsDecimal ns n) :
    compareValues ms ns = compare m n := by
  rw [← hm.value, ← hn.value, ← decimalValue_dropWhile_zero ms, ← decimalValue_dropWhile_zero ns]
  apply compare_length_then_chars
  · intro c hc
    exact hm.isDigit c ((List.dropWhile_sublist _).subset hc)
  · intro c hc
    exact hn.isDigit c ((List.dropWhile_sublist _).subset hc)
  · exact head?_dropWhile_zero_ne ms
  · exact head?_dropWhile_zero_ne ns

theorem isDigitRun_of_isDecimal (h : IsDecimal ms m) : isDigitRun ms = true := by
  obtain ⟨c, cs, rfl⟩ := List.exists_cons_of_ne_nil h.nonempty
  exact h.isDigit c List.mem_cons_self

theorem compareRun_of_digits (hm : IsDecimal ms m) (hn : IsDecimal ns n) :
    compareRun ms ns = compare m n := by
  rw [compareRun, isDigitRun_of_isDecimal hm, isDigitRun_of_isDecimal hn]
  exact compareValues_eq hm hn

/-- Runs that two names have in common at their beginnings do not decide. -/
theorem compareRuns_append (as bs cs : List (List Char)) :
    compareRuns (as ++ bs) (as ++ cs) = compareRuns bs cs := by
  induction as with
  | nil => rfl
  | cons a as ih =>
    have hself : compareRun a a = .eq := Std.ReflCmp.compare_self
    rw [List.cons_append, List.cons_append, compareRuns, hself, Ordering.eq_then, ih]

/-! ## Names -/

section

variable {front back back' digits digits' : String}

/-- Two names that are alike up to a number each are in the order of these numbers if they differ,
however many digits there are, whatever zeros lead and whatever follows. -/
theorem numbers_decide (hfront : ∀ c, front.toList.getLast? = some c → c.isDigit = false)
    (hm : IsDecimal digits.toList m) (hn : IsDecimal digits'.toList n) (hne : m ≠ n)
    (hback : ∀ c, back.toList.head? = some c → c.isDigit = false)
    (hback' : ∀ c, back'.toList.head? = some c → c.isDigit = false) :
    compareNames (front ++ digits ++ back) (front ++ digits' ++ back') = compare m n := by
  unfold compareNames
  simp only [String.toList_append]
  rw [runs_number hfront hm hback, runs_number hfront hn hback', compareRuns_append, compareRuns,
    compareRun_of_digits hm hn]
  rcases Nat.lt_or_gt_of_ne hne with hlt | hgt
  · rw [Nat.compare_eq_lt.2 hlt, Ordering.lt_then, Ordering.lt_then]
  · rw [Nat.compare_eq_gt.2 hgt, Ordering.gt_then, Ordering.gt_then]

theorem numbers_decide_outlets :
    IsDecimal "0099999999999999999999999".toList 99999999999999999999999 ∧
      IsDecimal "100000000000000000000000".toList 100000000000000000000000 ∧
      compareNames ("OUTLET" ++ "0099999999999999999999999" ++ "/b")
        ("OUTLET" ++ "100000000000000000000000" ++ "") = .lt := by
  have hm : IsDecimal "0099999999999999999999999".toList 99999999999999999999999 :=
    ⟨by decide, List.all_eq_true.1 (by decide +kernel), by decide +kernel⟩
  have hn : IsDecimal "100000000000000000000000".toList 100000000000000000000000 :=
    ⟨by decide, List.all_eq_true.1 (by decide +kernel), by decide +kernel⟩
  refine ⟨hm, hn, ?_⟩
  rw [numbers_decide _ hm hn (by decide)]
  · decide
  · rintro c ⟨⟩
    decide
  · rintro c ⟨⟩
  · rintro c ⟨⟩
    decide

end

end Inventory.NaturalOrder
