-- Numbers written out and read back: decimals without leading zeros, hex
-- without leading zeros, and hex digits of a fixed width.
import Mathlib.Data.List.Basic
import Mathlib.Order.Compare
import Mathlib.Tactic.IntervalCases
import Inventory.Proofs.Texts
import Inventory.Text.Number

namespace Inventory.Text

variable {n bound width : Nat} {c : Char}

/-! ## Decimals -/

theorem decimal_ne_nil : decimal n ≠ [] := Nat.toDigits_ne_nil

theorem isDigit_of_mem_decimal (h : c ∈ decimal n) : c.isDigit = true :=
  Nat.isDigit_of_mem_toDigits (by decide) (by decide) h

/-- One or more digits that spell a number. Zeros may lead. -/
structure IsDecimal (digits : List Char) (n : Nat) : Prop where
  nonempty : digits ≠ []
  isDigit : ∀ c ∈ digits, c.isDigit = true
  value : decimalValue digits = n

theorem isDecimal_decimal (n : Nat) : IsDecimal (decimal n) n where
  nonempty := decimal_ne_nil
  isDigit _ := isDigit_of_mem_decimal
  value := decimalValue_decimal n

theorem decimalBelow?_eq_some_iff {cs : List Char} :
    decimalBelow? bound cs = some n ↔ IsDecimal cs n ∧ n < bound := by
  unfold decimalBelow?
  constructor
  · intro h
    split at h
    · rename_i hdigits
      obtain ⟨hne, hall, hlt⟩ := hdigits
      cases h
      exact ⟨⟨hne, List.all_eq_true.1 hall, rfl⟩, hlt⟩
    · cases h
  · rintro ⟨⟨hne, hall, rfl⟩, hlt⟩
    exact if_pos ⟨hne, List.all_eq_true.2 hall, hlt⟩

theorem decimalBelow?_decimal (h : n < bound) : decimalBelow? bound (decimal n) = some n :=
  decimalBelow?_eq_some_iff.2 ⟨isDecimal_decimal n, h⟩

theorem isDigit_of_decimalBelow? {cs : List Char} (h : decimalBelow? bound cs = some n) :
    cs.all Char.isDigit = true :=
  List.all_eq_true.2 (decimalBelow?_eq_some_iff.1 h).1.isDigit

theorem isDigit_or_plus_of_signedDecimalBelow? {cs : List Char}
    (h : signedDecimalBelow? bound cs = some n) (hc : c ∈ cs) : c.isDigit = true ∨ c = '+' := by
  unfold signedDecimalBelow? at h
  split at h
  · rcases List.mem_cons.1 hc with rfl | hc
    · exact .inr rfl
    · exact .inl (List.all_eq_true.1 (isDigit_of_decimalBelow? h) c hc)
  · exact .inl (List.all_eq_true.1 (isDigit_of_decimalBelow? h) c hc)

/-- A decimal has no sign in front. -/
theorem signedDecimalBelow?_decimal (h : n < bound) :
    signedDecimalBelow? bound (decimal n) = some n := by
  unfold signedDecimalBelow?
  split
  · rename_i digits hd
    have hplus : '+'.isDigit = true := isDigit_of_mem_decimal (n := n) (hd ▸ List.mem_cons_self)
    cases hplus
  · exact decimalBelow?_decimal h

/-- Only zero starts with a zero. -/
theorem eq_zero_of_head?_decimal (h : (decimal n).head? = some '0') : n = 0 := by
  induction n using Nat.strongRecOn with
  | ind n ih =>
    unfold decimal at h ih
    by_cases hn : n < 10
    · rw [Nat.toDigits_of_lt_base hn] at h
      interval_cases n
      · rfl
      all_goals cases h
    · rw [Nat.toDigits_of_base_le (by decide) (by omega),
        List.head?_append_of_ne_nil _ Nat.toDigits_ne_nil] at h
      have := ih (n / 10) (by omega) h
      omega

/-! ## Values of digits -/

theorem decimalValue_cons (c : Char) (digits : List Char) :
    decimalValue (c :: digits) = 10 ^ digits.length * (c.toNat - 48) + decimalValue digits := by
  unfold decimalValue
  rw [Nat.ofDigitChars_cons, Nat.ofDigitChars_eq_ofDigitChars_zero, Nat.mul_zero, Nat.zero_add]
  rfl

theorem decimalValue_lt {digits : List Char} (h : ∀ c ∈ digits, c.isDigit = true) :
    decimalValue digits < 10 ^ digits.length := by
  induction digits with
  | nil => simp [decimalValue]
  | cons c digits ih =>
    rw [List.forall_mem_cons, isDigit_iff] at h
    have hrest := ih h.2
    have hfirst : 10 ^ digits.length * (c.toNat - 48) ≤ 10 ^ digits.length * 9 := by
      apply Nat.mul_le_mul_left
      omega
    rw [decimalValue_cons, List.length_cons, Nat.pow_succ]
    omega

/-- Leading zeros do not count. -/
theorem decimalValue_dropWhile_zero (digits : List Char) :
    decimalValue (digits.dropWhile (· == '0')) = decimalValue digits := by
  induction digits with
  | nil => rfl
  | cons c digits ih =>
    by_cases hc : c = '0'
    · subst hc
      rw [List.dropWhile_cons_of_pos (by decide), ih, decimalValue_cons]
      simp
    · rw [List.dropWhile_cons_of_neg (by simp [hc])]

/-- Without a leading zero, a number is at least the power that its first digit stands for. -/
theorem le_decimalValue {digits : List Char} (hdigit : c.isDigit = true) (hzero : c ≠ '0') :
    10 ^ digits.length ≤ decimalValue (c :: digits) := by
  have hne : c.toNat ≠ 48 := by
    intro h
    exact hzero (Char.toNat_inj.1 h)
  rw [isDigit_iff] at hdigit
  have hfirst : 10 ^ digits.length * 1 ≤ 10 ^ digits.length * (c.toNat - 48) := by
    apply Nat.mul_le_mul_left
    omega
  rw [decimalValue_cons]
  omega

/-! ## Numbers in order -/

/-- The last digit decides where the rest of two numbers is the same. -/
theorem compare_div_mod (base m n : Nat) :
    (compare (m / base) (n / base)).then (compare (m % base) (n % base)) = compare m n := by
  rcases Nat.lt_trichotomy (m / base) (n / base) with hlt | heq | hgt
  · rw [Nat.compare_eq_lt.2 hlt, Nat.compare_eq_lt.2 (Nat.lt_of_div_lt_div hlt), Ordering.lt_then]
  · rw [Nat.compare_eq_eq.2 heq, Ordering.eq_then]
    have hm := Nat.div_add_mod m base
    have hn := Nat.div_add_mod n base
    rw [heq] at hm
    rw [← cmp_eq_compare, ← cmp_eq_compare, ← cmp_add_left (base * (n / base)), hm, hn]
  · rw [Nat.compare_eq_gt.2 hgt, Nat.compare_eq_gt.2 (Nat.lt_of_div_lt_div hgt), Ordering.gt_then]

theorem compare_mul_add {base v w : Nat} (x y : Nat) (hv : v < base) (hw : w < base) :
    compare (base * x + v) (base * y + w) = (compare x y).then (compare v w) := by
  have hbase : 0 < base := Nat.zero_lt_of_lt hv
  rw [← compare_div_mod base, Nat.mul_add_div hbase, Nat.mul_add_div hbase, Nat.mul_add_mod,
    Nat.mul_add_mod, Nat.div_eq_of_lt hv, Nat.div_eq_of_lt hw, Nat.mod_eq_of_lt hv,
    Nat.mod_eq_of_lt hw, Nat.add_zero, Nat.add_zero]

/-! ## Hex digits -/

theorem hexValue?_digitChar (h : n < 16) : hexValue? n.digitChar = some n := by
  interval_cases n <;> rfl

theorem hexDigit_eq (h : n < 16) : hexDigit n = n.digitChar := by
  interval_cases n <;> rfl

theorem isHex_digitChar (h : n < 16) : isHex n.digitChar = true := by
  rw [isHex, hexValue?_digitChar h, Option.isSome_some]

theorem isHex_of_isDigit (h : c.isDigit = true) : isHex c = true := by
  rw [isHex, hexValue?, if_pos h, Option.isSome_some]

theorem isHex_ranges (h : isHex c = true) :
    48 ≤ c.toNat ∧ c.toNat ≤ 57 ∨ 97 ≤ c.toNat ∧ c.toNat ≤ 102 ∨ 65 ≤ c.toNat ∧ c.toNat ≤ 70 := by
  unfold isHex hexValue? at h
  split at h
  case isTrue hdigit => exact Or.inl (isDigit_iff.1 hdigit)
  split at h
  case isTrue hsmall => exact Or.inr (Or.inl hsmall)
  split at h
  case isTrue hcapital => exact Or.inr (Or.inr hcapital)
  cases h

theorem isAlphanum_of_isHex (h : isHex c = true) : c.isAlphanum = true := by
  have hranges := isHex_ranges h
  rw [isAlphanum_iff, isUpper_iff, isLower_iff, isDigit_iff]
  omega

theorem not_mem_of_isHex {cs : List Char} (h : ∀ d ∈ cs, isHex d = true) (hc : isHex c = false) :
    c ∉ cs := by
  intro hmem
  rw [h c hmem] at hc
  cases hc

theorem hexValue_concat (digits : List Char) (c : Char) :
    hexValue (digits ++ [c]) = 16 * hexValue digits + (hexValue? c).getD 0 := by
  simp [hexValue, List.foldl_append]

theorem hexValue_hex (n : Nat) : hexValue (hex n) = n := by
  induction n using Nat.strongRecOn with
  | ind n ih =>
    unfold hex at ih ⊢
    by_cases hn : n < 16
    · rw [Nat.toDigits_of_lt_base hn, ← List.nil_append [_], hexValue_concat,
        hexValue?_digitChar hn]
      simp [hexValue]
    · rw [Nat.toDigits_of_base_le (by decide) (by omega), hexValue_concat,
        ih (n / 16) (by omega), hexValue?_digitChar (Nat.mod_lt n (by decide)), Option.getD_some]
      omega

theorem hex_ne_nil : hex n ≠ [] := Nat.toDigits_ne_nil

theorem isHex_of_mem_hex (h : c ∈ hex n) : isHex c = true := by
  induction n using Nat.strongRecOn with
  | ind n ih =>
    unfold hex at ih h
    by_cases hn : n < 16
    · rw [Nat.toDigits_of_lt_base hn, List.mem_singleton] at h
      exact h ▸ isHex_digitChar hn
    · rw [Nat.toDigits_of_base_le (by decide) (by omega), List.mem_append, List.mem_singleton] at h
      rcases h with h | rfl
      · exact ih (n / 16) (by omega) h
      · exact isHex_digitChar (Nat.mod_lt n (by decide))

theorem length_hex_le_iff (h : 0 < width) : (hex n).length ≤ width ↔ n < 16 ^ width :=
  Nat.length_toDigits_le_iff (by decide) h

/-! ## Hex digits of a fixed width -/

theorem lastDigits_add (base a b n : Nat) :
    lastDigits base (a + b) n = lastDigits base a (n / base ^ b) ++ lastDigits base b n := by
  induction b generalizing n with
  | zero => simp [lastDigits]
  | succ b ih =>
    rw [← Nat.add_assoc, lastDigits, ih, lastDigits, Nat.div_div_eq_div_mul, Nat.pow_succ',
      List.append_assoc]

theorem lastDigits_mod (base count n : Nat) :
    lastDigits base count (n % base ^ count) = lastDigits base count n := by
  induction count generalizing n with
  | zero => rfl
  | succ count ih =>
    rw [lastDigits, lastDigits, Nat.pow_succ', Nat.mod_mul_right_div_self, ih,
      Nat.mod_mul_right_mod]

theorem lt_of_mem_lastDigits {base count n d : Nat} (hbase : 0 < base)
    (h : d ∈ lastDigits base count n) : d < base := by
  induction count generalizing n with
  | zero => cases h
  | succ count ih =>
    rcases List.mem_append.1 h with h | h
    · exact ih h
    · exact List.mem_singleton.1 h ▸ Nat.mod_lt n hbase

theorem isHex_of_mem_hexDigits (h : c ∈ hexDigits width n) : isHex c = true := by
  obtain ⟨d, hd, rfl⟩ := List.mem_map.1 h
  have hlt := lt_of_mem_lastDigits (by decide) hd
  exact hexDigit_eq hlt ▸ isHex_digitChar hlt

theorem hexValue_hexDigits (width n : Nat) : hexValue (hexDigits width n) = n % 16 ^ width := by
  induction width generalizing n with
  | zero => simp [hexDigits, lastDigits, hexValue, Nat.mod_one]
  | succ width ih =>
    have hlt : n % 16 < 16 := Nat.mod_lt n (by decide)
    unfold hexDigits at ih ⊢
    rw [lastDigits, List.map_append, List.map_singleton, hexValue_concat, ih, hexDigit_eq hlt,
      hexValue?_digitChar hlt, Option.getD_some, Nat.pow_succ', Nat.mod_mul]
    omega

/-- Groups of hex digits in a row are the digits of the whole number. -/
theorem flatten_hexDigits (width count n : Nat) :
    ((lastDigits (16 ^ width) count n).map (hexDigits width)).flatten =
      hexDigits (width * count) n := by
  induction count generalizing n with
  | zero => rfl
  | succ count ih =>
    rw [lastDigits, List.map_append, List.flatten_append, ih, List.map_singleton,
      List.flatten_singleton]
    unfold hexDigits
    rw [lastDigits_mod, Nat.mul_succ, lastDigits_add, List.map_append]

end Inventory.Text
