-- The texts that are hardware addresses: twelve hex digits, set in one of five
-- layouts. A text is read as the address and the layout that it spells, and
-- every other text is refused.
import Mathlib.Data.List.Basic
import Mathlib.Data.List.Induction
import Mathlib.Data.Nat.Digits.Defs
import Inventory.Proofs.HardwareAddresses

namespace Inventory

/-! ## Hex digits -/

namespace Text

variable {c : Char} {digits : List Char}

/-- The hex digits in the order of their values. -/
def smallHexDigits : List Char := "0123456789abcdef".toList

/-- A hex digit, in either case. -/
def IsHexDigit (c : Char) : Prop := c.toLower ∈ smallHexDigits

instance : DecidablePred IsHexDigit :=
  fun c => inferInstanceAs (Decidable (c.toLower ∈ smallHexDigits))

/-- The place of a digit among the hex digits. -/
def digitValue (c : Char) : Nat := smallHexDigits.idxOf c.toLower

/-- The number that digits spell, the first digit counting most. -/
def bigEndian (digits : List Char) : Nat := Nat.ofDigits 16 (digits.reverse.map digitValue)

theorem mem_of_isHex (h : isHex c = true) : c ∈ smallHexDigits ++ "ABCDEF".toList := by
  have hranges := isHex_ranges h
  rw [← Char.ofNat_toNat c]
  generalize c.toNat = n at hranges
  rcases hranges with ⟨hlow, hhigh⟩ | ⟨hlow, hhigh⟩ | ⟨hlow, hhigh⟩ <;> interval_cases n <;> decide

theorem isHex_iff : isHex c = true ↔ IsHexDigit c := by
  constructor
  · intro h
    have hall : (smallHexDigits ++ "ABCDEF".toList).all (IsHexDigit ·) = true := by decide
    exact of_decide_eq_true (List.all_eq_true.1 hall c (mem_of_isHex h))
  · intro h
    by_cases hupper : c.isUpper = true
    · rw [isUpper_iff] at hupper
      revert h
      rw [← Char.ofNat_toNat c]
      generalize c.toNat = n at hupper
      obtain ⟨hlow, hhigh⟩ := hupper
      interval_cases n <;> decide
    · have hsmall : c.toLower = c := dif_neg fun hcapital => hupper (isUpper_iff.2 hcapital)
      have hall : smallHexDigits.all isHex = true := by decide
      rw [IsHexDigit, hsmall] at h
      exact List.all_eq_true.1 hall c h

theorem hexValue?_of_isHex (h : isHex c = true) : hexValue? c = some (digitValue c) := by
  have hall : (smallHexDigits ++ "ABCDEF".toList).all (fun c => hexValue? c = some (digitValue c))
      = true := by decide
  exact of_decide_eq_true (List.all_eq_true.1 hall c (mem_of_isHex h))

theorem hexValue_eq_bigEndian (h : ∀ c ∈ digits, isHex c = true) :
    hexValue digits = bigEndian digits := by
  induction digits using List.reverseRecOn with
  | nil => rfl
  | append_singleton digits c ih =>
    have hinit := ih fun c hc => h c (List.mem_append_left _ hc)
    have hlast := hexValue?_of_isHex (h c (by simp))
    rw [hexValue_concat, hinit, hlast, Option.getD_some, bigEndian, bigEndian,
      List.reverse_append, List.reverse_singleton, List.singleton_append, List.map_cons,
      Nat.ofDigits_cons, Nat.add_comm]

theorem digitValue_lt (h : ∀ c ∈ digits, IsHexDigit c) :
    ∀ v ∈ digits.reverse.map digitValue, v < 16 := by
  intro v hv
  obtain ⟨c, hc, rfl⟩ := List.mem_map.1 hv
  exact List.idxOf_lt_length_of_mem (h c (List.mem_reverse.1 hc))

theorem bigEndian_lt (h : ∀ c ∈ digits, IsHexDigit c) : bigEndian digits < 16 ^ digits.length := by
  have hbound := Nat.ofDigits_lt_base_pow_length (by decide) (digitValue_lt h)
  rwa [List.length_map, List.length_reverse] at hbound

theorem hexDigit_digitValue (h : IsHexDigit c) : hexDigit (digitValue c) = c.toLower := by
  have hall : smallHexDigits.all (fun c => hexDigit (smallHexDigits.idxOf c) = c) = true := by
    decide
  exact of_decide_eq_true (List.all_eq_true.1 hall _ h)

/-- Only the case of the digits is lost in the number that they spell. -/
theorem map_toLower_eq_of_bigEndian {digits' : List Char} (h : ∀ c ∈ digits, IsHexDigit c)
    (h' : ∀ c ∈ digits', IsHexDigit c) (hlength : digits.length = digits'.length)
    (hvalue : bigEndian digits = bigEndian digits') :
    digits.map Char.toLower = digits'.map Char.toLower := by
  have hsmall (cs : List Char) (hcs : ∀ c ∈ cs, IsHexDigit c) :
      cs.map Char.toLower = (cs.map digitValue).map hexDigit := by
    rw [List.map_map]
    exact List.map_congr_left fun c hc => (hexDigit_digitValue (hcs c hc)).symm
  have hreversed : digits.reverse.map digitValue = digits'.reverse.map digitValue :=
    Nat.ofDigits_inj_of_len_eq (by decide) (by simpa using hlength) (digitValue_lt h)
      (digitValue_lt h') hvalue
  rw [List.map_reverse, List.map_reverse, List.reverse_inj] at hreversed
  rw [hsmall digits h, hsmall digits' h', hreversed]

end Text

namespace Mac

open Text

variable {layout : Layout} {groups : List (List Char)} {cs : List Char} {d : Vector Char 12}

/-! ## Digits in a layout -/

/-- Twelve digits as six pairs. -/
def pairs (d : Vector Char 12) : List (List Char) :=
  [[d[0], d[1]], [d[2], d[3]], [d[4], d[5]], [d[6], d[7]], [d[8], d[9]], [d[10], d[11]]]

/-- Twelve digits as three groups of four. -/
def quads (d : Vector Char 12) : List (List Char) :=
  [[d[0], d[1], d[2], d[3]], [d[4], d[5], d[6], d[7]], [d[8], d[9], d[10], d[11]]]

/-- Twelve digits as they stand in a layout. -/
def Layout.set : Layout → Vector Char 12 → List Char
  | .colon, d => [':'].intercalate (pairs d)
  | .dash, d => ['-'].intercalate (pairs d)
  | .dottedOctets, d => ['.'].intercalate (pairs d)
  | .dottedQuads, d => ['.'].intercalate (quads d)
  | .bare, d => d.toList

/-- The groups that a layout cuts the digits into. -/
def Layout.parts : Layout → Vector Char 12 → List (List Char)
  | .colon, d | .dash, d | .dottedOctets, d => pairs d
  | .dottedQuads, d => quads d
  | .bare, d => [d.toList]

/-- A text that is twelve hex digits in a layout. -/
structure Spells (cs : List Char) (layout : Layout) (d : Vector Char 12) : Prop where
  digits : ∀ c ∈ d.toList, IsHexDigit c
  set : cs = layout.set d

theorem Layout.set_eq (layout : Layout) (d : Vector Char 12) :
    layout.set d = [layout.mark].intercalate (layout.parts d) := by
  cases layout <;> first | rfl | exact (List.intercalate_singleton ..).symm

theorem exists_digits (h : cs.length = 12) : ∃ d : Vector Char 12, cs = d.toList :=
  ⟨⟨cs.toArray, by simp [h]⟩, by simp⟩

theorem exists_pairs (hcount : groups.length = 6) (hwidth : ∀ g ∈ groups, g.length = 2) :
    ∃ d, groups = pairs d := by
  match groups, hcount with
  | [g₁, g₂, g₃, g₄, g₅, g₆], _ =>
    simp only [List.forall_mem_cons, List.length_eq_two] at hwidth
    obtain ⟨⟨a, b, rfl⟩, ⟨c, d, rfl⟩, ⟨e, f, rfl⟩, ⟨g, h, rfl⟩, ⟨i, j, rfl⟩, ⟨k, l, rfl⟩, -⟩ :=
      hwidth
    exact ⟨#v[a, b, c, d, e, f, g, h, i, j, k, l], rfl⟩

theorem exists_quads (hcount : groups.length = 3) (hwidth : ∀ g ∈ groups, g.length = 4) :
    ∃ d, groups = quads d := by
  have hfour (g : List Char) (h : g.length = 4) : ∃ a b c d, g = [a, b, c, d] := by
    match g, h with
    | [a, b, c, d], _ => exact ⟨a, b, c, d, rfl⟩
  match groups, hcount with
  | [g₁, g₂, g₃], _ =>
    obtain ⟨a, b, c, d, rfl⟩ := hfour g₁ (hwidth _ (by simp))
    obtain ⟨e, f, g, h, rfl⟩ := hfour g₂ (hwidth _ (by simp))
    obtain ⟨i, j, k, l, rfl⟩ := hfour g₃ (hwidth _ (by simp))
    exact ⟨#v[a, b, c, d, e, f, g, h, i, j, k, l], rfl⟩

/-- Groups of the right number and width are twelve digits, cut as the layout cuts them. -/
theorem Layout.exists_parts (hcount : groups.length * layout.width = 12)
    (hwidth : ∀ g ∈ groups, g.length = layout.width) : ∃ d, groups = layout.parts d := by
  cases layout with
  | colon | dash | dottedOctets =>
    have hsix : groups.length = 6 := Nat.eq_of_mul_eq_mul_right (by decide : 0 < 2) hcount
    exact exists_pairs hsix hwidth
  | dottedQuads =>
    have hthree : groups.length = 3 := Nat.eq_of_mul_eq_mul_right (by decide : 0 < 4) hcount
    exact exists_quads hthree hwidth
  | bare =>
    have hone : groups.length = 1 := Nat.eq_of_mul_eq_mul_right (by decide : 0 < 12) hcount
    obtain ⟨g, rfl⟩ := List.length_eq_one_iff.1 hone
    obtain ⟨d, rfl⟩ := exists_digits (hwidth g (by simp))
    exact ⟨d, rfl⟩

theorem length_parts (layout : Layout) (d : Vector Char 12) :
    (layout.parts d).length * layout.width = 12 := by
  cases layout <;> rfl

theorem length_of_mem_parts : ∀ g ∈ layout.parts d, g.length = layout.width := by
  cases layout <;> simp [Layout.parts, Layout.width, pairs, quads]

theorem flatten_parts (layout : Layout) (d : Vector Char 12) :
    (layout.parts d).flatten = d.toList := by
  obtain ⟨⟨l⟩, h⟩ := d
  match l, h with
  | [a, b, c, d, e, f, g, h, i, j, k, l], _ => cases layout <;> rfl

/-! ## Reading -/

theorem value_of_ofNat? {n : Nat} {m : Mac} (h : ofNat? n = some m) : m.value = n := by
  unfold ofNat? at h
  split at h
  · cases h
    rfl
  · cases h

theorem eq_intercalate_of_split? (h : Layout.split? cs = some (layout, groups)) :
    cs = [layout.mark].intercalate groups := by
  have hjoin (mark : Char) : cs = [mark].intercalate (cs.splitOn mark) :=
    (List.intercalate_splitOn ..).symm
  unfold Layout.split? at h
  split at h
  case isTrue hcolon =>
    cases h
    exact hjoin ':'
  split at h
  case isTrue hdash =>
    cases h
    exact hjoin '-'
  split at h
  case isTrue hdot =>
    dsimp only at h
    split at h
    case isTrue hsix =>
      cases h
      exact hjoin '.'
    split at h
    case isTrue hthree =>
      cases h
      exact hjoin '.'
    cases h
  cases h
  exact (List.intercalate_singleton ..).symm

theorem isHex_of_mem_parts (h : ∀ c ∈ d.toList, isHex c = true) :
    ∀ g ∈ layout.parts d, ∀ c ∈ g, isHex c = true := by
  intro g hg c hc
  apply h
  rw [← flatten_parts layout d]
  exact List.mem_flatten_of_mem hg hc

theorem split?_set (h : ∀ c ∈ d.toList, isHex c = true) :
    Layout.split? (layout.set d) = some (layout, layout.parts d) := by
  by_cases hwritten : layout.written = layout
  · rw [Layout.set_eq]
    exact Layout.split?_intercalate hwritten (length_parts layout d) (isHex_of_mem_parts h)
  · -- Bare digits hold none of the marks.
    have hfree (mark : Char) (hmark : isHex mark = false) : mark ∉ d.toList :=
      not_mem_of_isHex h hmark
    cases layout with
    | bare =>
      change Layout.split? d.toList = some (.bare, [d.toList])
      rw [Layout.split?, if_neg (hfree ':' rfl), if_neg (hfree '-' rfl), if_neg (hfree '.' rfl)]
    | colon | dash | dottedOctets | dottedQuads => exact absurd rfl hwritten

theorem exists_spells {m : Mac} (h : ofChars? cs = some (m, layout)) :
    ∃ d, Spells cs layout d ∧ m.value = bigEndian d.toList := by
  unfold ofChars? at h
  obtain ⟨⟨found, groups⟩, hsplit, h⟩ := Option.bind_eq_some_iff.1 h
  dsimp only at h
  split at h
  case isFalse => cases h
  case isTrue hgroups =>
    obtain ⟨hcount, hall⟩ := hgroups
    obtain ⟨value, hvalue, heq⟩ := Option.bind_eq_some_iff.1 h
    cases heq
    have hgroup : ∀ g ∈ groups, g.length = layout.width ∧ ∀ c ∈ g, isHex c = true := by
      intro g hg
      simpa [Layout.isGroup] using List.all_eq_true.1 hall g hg
    obtain ⟨d, rfl⟩ := Layout.exists_parts hcount fun g hg => (hgroup g hg).1
    have hhex : ∀ c ∈ d.toList, isHex c = true := by
      intro c hc
      rw [← flatten_parts layout d] at hc
      obtain ⟨g, hg, hc⟩ := List.mem_flatten.1 hc
      exact (hgroup g hg).2 c hc
    refine ⟨d, ⟨fun c hc => isHex_iff.1 (hhex c hc), ?_⟩, ?_⟩
    · rw [Layout.set_eq]
      exact eq_intercalate_of_split? hsplit
    · rw [flatten_parts, hexValue_eq_bigEndian hhex] at hvalue
      exact value_of_ofNat? hvalue

theorem ofChars?_of_spells {m : Mac} (h : Spells cs layout d)
    (hvalue : m.value = bigEndian d.toList) : ofChars? cs = some (m, layout) := by
  have hhex : ∀ c ∈ d.toList, isHex c = true := fun c hc => isHex_iff.2 (h.digits c hc)
  have hall : (layout.parts d).all layout.isGroup = true := by
    rw [List.all_eq_true]
    intro g hg
    rw [Layout.isGroup, length_of_mem_parts g hg, beq_self_eq_true, Bool.true_and,
      List.all_eq_true]
    exact isHex_of_mem_parts hhex g hg
  rw [h.set]
  simp only [ofChars?, split?_set hhex, Option.bind_eq_bind, Option.bind_some]
  rw [if_pos ⟨length_parts layout d, hall⟩, flatten_parts, hexValue_eq_bigEndian hhex, ← hvalue,
    ofNat?_eq_some m.value_lt]
  rfl

/-- Twelve digits are always an address. -/
theorem exists_value (h : ∀ c ∈ d.toList, IsHexDigit c) :
    ∃ m : Mac, m.value = bigEndian d.toList := by
  have hlt : bigEndian d.toList < 16 ^ 12 := by
    have := bigEndian_lt h
    rwa [Vector.length_toList] at this
  exact ⟨⟨_, hlt⟩, rfl⟩

theorem ofChars?_eq_none_iff : ofChars? cs = none ↔ ¬ ∃ layout d, Spells cs layout d := by
  constructor
  · rintro hnone ⟨layout, d, hspells⟩
    obtain ⟨m, hvalue⟩ := exists_value hspells.digits
    have hsome := ofChars?_of_spells hspells hvalue
    rw [hnone] at hsome
    cases hsome
  · intro hnot
    cases hfound : ofChars? cs with
    | none => rfl
    | some found =>
      obtain ⟨d, hspells, _⟩ := exists_spells hfound
      exact absurd ⟨found.2, d, hspells⟩ hnot

/-- A text is read exactly if, without the blanks around it, it is twelve hex digits in one of the
layouts. It is read as that layout and the value of the digits, and every other text is refused. -/
theorem parse_iff_spells (s : String) :
    (∀ m layout, parse s = .ok (m, layout) ↔
      ∃ d, Spells (trimChars s.toList) layout d ∧ m.value = bigEndian d.toList) ∧
    (∀ e, parse s = .error e ↔
      e = .invalidFormat s ∧ ¬ ∃ layout d, Spells (trimChars s.toList) layout d) := by
  constructor
  · intro m layout
    have hread : parse s = .ok (m, layout) ↔ ofChars? (trimChars s.toList) = some (m, layout) := by
      rw [parse]
      cases ofChars? (trimChars s.toList) <;> simp
    rw [hread]
    constructor
    · exact exists_spells
    · rintro ⟨d, hspells, hvalue⟩
      exact ofChars?_of_spells hspells hvalue
  · intro e
    rw [← ofChars?_eq_none_iff, parse]
    cases ofChars? (trimChars s.toList) <;> simp [eq_comm]

end Mac

end Inventory
