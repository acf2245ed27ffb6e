-- The order of hardware addresses. Octets, values, canonical texts and any two
-- spellings compare alike, since digits of a fixed number are in the order of
-- the numbers that they make up.
import Mathlib.Order.Compare
import Mathlib.Order.Monotone.Basic
import Mathlib.Tactic.IntervalCases
import Inventory.Proofs.HardwareAddresses
import Inventory.Proofs.NameOrder

namespace Inventory

open Text

/-! ## Lists in order -/

section

variable {α β : Type} {cmp : α → α → Ordering}

/-- Beginnings of one length decide before what follows them. -/
theorem compareLex_append {as cs : List α} (h : as.length = cs.length) (bs ds : List α) :
    List.compareLex cmp (as ++ bs) (cs ++ ds) =
      (List.compareLex cmp as cs).then (List.compareLex cmp bs ds) := by
  induction as generalizing cs with
  | nil =>
    obtain rfl := List.length_eq_zero_iff.1 h.symm
    rfl
  | cons a as ih =>
    cases cs with
    | nil => cases h
    | cons c cs =>
      rw [List.cons_append, List.cons_append, List.compareLex_cons_cons, List.compareLex_cons_cons,
        ih (Nat.succ.inj h), Ordering.then_assoc]

theorem compareLex_map {cmp' : β → β → Ordering} {f : α → β} {as bs : List α}
    (h : ∀ a ∈ as, ∀ b ∈ bs, cmp' (f a) (f b) = cmp a b) :
    List.compareLex cmp' (as.map f) (bs.map f) = List.compareLex cmp as bs := by
  induction as generalizing bs with
  | nil => cases bs <;> rfl
  | cons a as ih =>
    cases bs with
    | nil => rfl
    | cons b bs =>
      rw [List.map_cons, List.map_cons, List.compareLex_cons_cons, List.compareLex_cons_cons,
        h a List.mem_cons_self b List.mem_cons_self,
        ih fun a ha b hb => h a (List.mem_cons_of_mem _ ha) b (List.mem_cons_of_mem _ hb)]

/-- Groups of one width are in order as they are when a mark stands between them. -/
theorem compareLex_intercalate {mark : α} (hmark : cmp mark mark = .eq) {width : Nat}
    {gs hs : List (List α)} (hcount : gs.length = hs.length)
    (hg : ∀ g ∈ gs, g.length = width) (hh : ∀ h ∈ hs, h.length = width) :
    List.compareLex cmp ([mark].intercalate gs) ([mark].intercalate hs) =
      List.compareLex (List.compareLex cmp) gs hs := by
  induction gs generalizing hs with
  | nil =>
    obtain rfl := List.length_eq_zero_iff.1 hcount.symm
    rfl
  | cons g gs ih =>
    obtain ⟨h, hs, rfl⟩ := List.exists_cons_of_length_eq_add_one hcount.symm
    have hwidth : g.length = h.length := by rw [hg g List.mem_cons_self, hh h List.mem_cons_self]
    have hrest := ih (Nat.succ.inj hcount) (fun g hmem => hg g (List.mem_cons_of_mem _ hmem))
      fun h hmem => hh h (List.mem_cons_of_mem _ hmem)
    rw [List.compareLex_cons_cons, ← hrest]
    cases gs with
    | nil =>
      obtain rfl := List.length_eq_zero_iff.1 (Nat.succ.inj hcount).symm
      rw [List.intercalate_singleton, List.intercalate_singleton, List.intercalate_nil]
      exact Ordering.then_eq.symm
    | cons g' gs =>
      obtain ⟨h', hs, rfl⟩ := List.exists_cons_of_length_eq_add_one (Nat.succ.inj hcount).symm
      rw [List.intercalate_cons_cons, List.intercalate_cons_cons, List.append_assoc,
        List.append_assoc, compareLex_append hwidth, List.singleton_append, List.singleton_append,
        List.compareLex_cons_cons, hmark, Ordering.eq_then]

end

/-! ## Numbers in order -/

namespace Text

variable {base count m n : Nat}

/-- Digits of a fixed number are in the order of the numbers that they make up. -/
theorem compareLex_lastDigits (hm : m < base ^ count) (hn : n < base ^ count) :
    List.compareLex compare (lastDigits base count m) (lastDigits base count n) = compare m n := by
  induction count generalizing m n with
  | zero =>
    obtain rfl : m = 0 := by simpa using hm
    obtain rfl : n = 0 := by simpa using hn
    rfl
  | succ count ih =>
    rw [Nat.pow_succ'] at hm hn
    have hlength : (lastDigits base count (m / base)).length =
        (lastDigits base count (n / base)).length := by
      rw [lastDigits_length, lastDigits_length]
    have hlast : List.compareLex compare [m % base] [n % base] = compare (m % base) (n % base) := by
      rw [List.compareLex_cons_cons]
      exact Ordering.then_eq
    rw [lastDigits, lastDigits, compareLex_append hlength, ih (Nat.div_lt_of_lt_mul hm)
      (Nat.div_lt_of_lt_mul hn), hlast, compare_div_mod]

theorem toNat_hexDigit (h : n < 16) : (hexDigit n).toNat = if n < 10 then 48 + n else 87 + n := by
  interval_cases n <;> rfl

theorem compare_hexDigit (hm : m < 16) (hn : n < 16) :
    compareOn Char.toNat (hexDigit m) (hexDigit n) = compare m n := by
  have hmono : StrictMonoOn (fun n => (hexDigit n).toNat) (Set.Iio 16) := by
    intro a ha b hb hlt
    simp only [toNat_hexDigit ha, toNat_hexDigit hb]
    split <;> split <;> omega
  rw [compareOn, ← cmp_eq_compare, ← cmp_eq_compare]
  exact hmono.cmp_map_eq hm hn

theorem compareLex_hexDigits {width : Nat} (hm : m < 16 ^ width) (hn : n < 16 ^ width) :
    List.compareLex (compareOn Char.toNat) (hexDigits width m) (hexDigits width n) =
      compare m n := by
  rw [hexDigits, hexDigits, compareLex_map, compareLex_lastDigits hm hn]
  intro a ha b hb
  exact compare_hexDigit (lt_of_mem_lastDigits (by decide) ha) (lt_of_mem_lastDigits (by decide) hb)

/-- Bytes shifted in one by one make up the number whose last bytes they are. -/
theorem foldl_lastDigits (count n : Nat) :
    (lastDigits 256 count n).foldl (fun value octet => value <<< 8 ||| octet) 0 =
      n % 256 ^ count := by
  induction count generalizing n with
  | zero => simp [lastDigits, Nat.mod_one]
  | succ count ih =>
    have hlt : n % 256 < 2 ^ 8 := Nat.mod_lt n (by decide)
    have hpow : 256 ^ (count + 1) = 256 * 256 ^ count := Nat.pow_succ'
    rw [lastDigits, List.foldl_append, ih, List.foldl_cons, List.foldl_nil,
      ← Nat.shiftLeft_add_eq_or_of_lt hlt, Nat.shiftLeft_eq, hpow, Nat.mod_mul]
    omega

theorem lastDigits_mul_add {d : Nat} (h : d < base) (count n : Nat) :
    lastDigits base (count + 1) (n * base + d) = lastDigits base count n ++ [d] := by
  have hdiv : (n * base + d) / base = n := by
    rw [Nat.mul_comm, Nat.mul_add_div (Nat.zero_lt_of_lt h), Nat.div_eq_of_lt h, Nat.add_zero]
  have hmod : (n * base + d) % base = d := by
    rw [Nat.mul_comm, Nat.mul_add_mod, Nat.mod_eq_of_lt h]
  rw [lastDigits, hdiv, hmod]

end Text

namespace Mac

variable {x y : Mac} {layout : Layout} {s t : String}

/-! ## Octets and values -/

theorem octets_ofOctets (o : Vector UInt8 6) : (ofOctets o).octets = o.toList.map UInt8.toNat := by
  have hlt (b : UInt8) : b.toNat < 256 := b.toNat_lt
  obtain ⟨⟨l⟩, hsize⟩ := o
  match l, hsize with
  | [a, b, c, d, e, f], _ =>
    change lastDigits 256 6 (((((a.toNat * 256 + b.toNat) * 256 + c.toNat) * 256 + d.toNat) * 256
      + e.toNat) * 256 + f.toNat) = _
    rw [lastDigits_mul_add (hlt f), lastDigits_mul_add (hlt e), lastDigits_mul_add (hlt d),
      lastDigits_mul_add (hlt c), lastDigits_mul_add (hlt b)]
    simp [lastDigits, Nat.mod_eq_of_lt (hlt a)]

theorem compare_octets (x y : Mac) : compare x.octets y.octets = compare x.value y.value :=
  compareLex_lastDigits x.value_lt y.value_lt

theorem value_eq_foldl (x : Mac) :
    x.value = x.octets.foldl (fun value octet => value <<< 8 ||| octet) 0 := by
  rw [octets, foldl_lastDigits]
  exact (Nat.mod_eq_of_lt x.value_lt).symm

theorem map_value_ofNat? (n : Nat) :
    (ofNat? n).map value = if n < 0x1000000000000 then some n else none := by
  unfold ofNat?
  split <;> rfl

/-! ## Texts -/

/-- Texts in one layout are in the order of the values. -/
theorem compare_toChars (x y : Mac) (layout : Layout) :
    List.compareLex (compareOn Char.toNat) (x.toChars layout) (y.toChars layout) =
      compare x.value y.value := by
  have hwidth (m : Mac) : ∀ g ∈ m.groups layout, g.length = layout.written.width := by
    intro g hg
    obtain ⟨n, _, rfl⟩ := List.mem_map.1 hg
    exact hexDigits_length _ n
  have hcount : (x.groups layout).length = (y.groups layout).length := by
    rw [groups, groups, List.length_map, List.length_map, lastDigits_length, lastDigits_length]
  have hmark : compareOn Char.toNat layout.written.mark layout.written.mark = .eq :=
    Std.ReflCmp.compare_self
  have hvalue (m : Mac) :
      m.value < (16 ^ layout.written.width) ^ (12 / layout.written.width) := by
    have hpow : (16 ^ layout.written.width) ^ (12 / layout.written.width) = 0x1000000000000 := by
      cases layout <;> rfl
    exact hpow ▸ m.value_lt
  rw [toChars_eq, toChars_eq, compareLex_intercalate hmark hcount (hwidth x) (hwidth y), groups,
    groups, compareLex_map, compareLex_lastDigits (hvalue x) (hvalue y)]
  intro m hm n hn
  have hpos : 0 < 16 ^ layout.written.width := Nat.pow_pos (by decide)
  exact compareLex_hexDigits (lt_of_mem_lastDigits hpos hm) (lt_of_mem_lastDigits hpos hn)

theorem compareTexts_of_ofText (hx : ofText s = .ok x) (hy : ofText t = .ok y) :
    compareTexts s t = .ok (compare x y) := by
  rw [compareTexts, hx, hy]
  rfl

theorem compare_text (x y : Mac) : compare x.text y.text = compare x.value y.value := by
  rw [NaturalOrder.compare_eq_compareChars, NaturalOrder.compareChars_eq, text, text, write, write,
    String.toList_ofList, String.toList_ofList, compare_toChars]

/-- Addresses have one order. Their octets, their values, their texts and any spellings of them
compare alike, a value is the octets shifted together, and every value of 48 bits, and no other,
belongs to an address. -/
theorem orders_agree (x y : Mac) :
    (compare x y = compare x.octets y.octets ∧ compare x y = compare x.value y.value ∧
      compare x y = compare x.text y.text ∧
      ∀ s t, ofText s = .ok x → ofText t = .ok y → compareTexts s t = .ok (compare x y)) ∧
    (∀ o : Vector UInt8 6, (ofOctets o).octets = o.toList.map UInt8.toNat) ∧
    x.value = x.octets.foldl (fun value octet => value <<< 8 ||| octet) 0 ∧
    (∀ n, (ofNat? n).map value = if n < 0x1000000000000 then some n else none) ∧
    ofNat? x.value = some x := by
  have htexts : ∀ s t, ofText s = .ok x → ofText t = .ok y →
      compareTexts s t = .ok (compare x y) := fun s t => compareTexts_of_ofText
  refine ⟨⟨(compare_octets x y).symm, rfl, (compare_text x y).symm, htexts⟩, octets_ofOctets,
    value_eq_foldl x, map_value_ofNat?, ofNat?_eq_some x.value_lt⟩

/-- Capitals and the layout do not count, and the last octet decides. -/
theorem orders_agree_spellings :
    compareTexts "A4-BF-01-2E-7F-AA" "a4bf.012e.7fab" = .ok .lt ∧
      compare "a4:bf:01:2e:7f:aa" "a4:bf:01:2e:7f:ab" = .lt := by
  have hs : ofText "A4-BF-01-2E-7F-AA" = .ok ⟨0xA4BF012E7FAA, by decide⟩ := by decide +kernel
  have ht : ofText "a4bf.012e.7fab" = .ok ⟨0xA4BF012E7FAB, by decide⟩ := by decide +kernel
  obtain ⟨⟨_, _, htext, htexts⟩, _⟩ :=
    orders_agree ⟨0xA4BF012E7FAA, by decide⟩ ⟨0xA4BF012E7FAB, by decide⟩
  exact ⟨htexts _ _ hs ht, htext.symm⟩

end Mac

end Inventory
