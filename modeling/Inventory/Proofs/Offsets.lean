-- Hardware addresses moved by an offset. The value moves by exactly the offset
-- or there is no such address, and the text of the new address has the layout
-- and the capitals of the old one. Two moves come to one, but for the capitals
-- that a text without letters on the way cannot hand on.
import Mathlib
import Inventory.Proofs.LetterCase
import Inventory.Proofs.MacTexts

namespace Inventory

open Text

namespace Text

variable {c : Char} {s : String}

/-! ## Capitals -/

/-- The text has letters, and all of them are capitals. -/
def Capitalized (s : String) : Prop :=
  (∃ c ∈ s.toList, c.isAlpha = true) ∧ ∀ c ∈ s.toList, c.isAlpha = true → c.isUpper = true

theorem isAlpha_iff : c.isAlpha = true ↔ c.isUpper = true ∨ c.isLower = true := by
  rw [Char.isAlpha, Bool.or_eq_true]

theorem isUpperCased_iff : isUpperCased s = true ↔ Capitalized s := by
  simp only [isUpperCased, Capitalized, Bool.and_eq_true, Bool.not_eq_true', List.any_eq_true,
    List.any_eq_false]
  constructor
  · rintro ⟨⟨c, hc, hupper⟩, hsmall⟩
    refine ⟨⟨c, hc, isAlpha_iff.2 (.inl hupper)⟩, fun d hd hletter => ?_⟩
    exact (isAlpha_iff.1 hletter).resolve_right (hsmall d hd)
  · rintro ⟨⟨c, hc, hletter⟩, hall⟩
    refine ⟨⟨c, hc, hall c hc hletter⟩, fun d hd hlower => ?_⟩
    exact Char.not_isLower_of_isUpper (hall d hd (isAlpha_iff.2 (.inr hlower))) hlower

theorem isLower_of_mem_upper (h : c ∈ (upper s).toList) : c.isLower = false := by
  rw [upper_toList, List.mem_map] at h
  obtain ⟨d, _, rfl⟩ := h
  exact Char.isLower_toUpper_eq_false d

theorem lower_upper (s : String) : lower (upper s) = lower s := by
  rw [lower, upper_toList, List.map_map]
  exact congrArg String.ofList (List.map_congr_left fun c _ => Char.toLower_toUpper_eq_toLower c)

theorem isUpper_hexDigit {n : Nat} (h : n < 16) : (hexDigit n).isUpper = false := by
  interval_cases n <;> rfl

/-- A text with its letters in capitals if those of another text are, and as it is if not. -/
def inCaseOf (s text : String) : String := if isUpperCased s then upper text else text

theorem inCaseOf_of_capitalized (h : Capitalized s) (text : String) :
    inCaseOf s text = upper text := if_pos (isUpperCased_iff.2 h)

theorem inCaseOf_of_not_capitalized (h : ¬ Capitalized s) (text : String) :
    inCaseOf s text = text := if_neg (mt isUpperCased_iff.1 h)

theorem lower_inCaseOf (s text : String) : lower (inCaseOf s text) = lower text := by
  by_cases h : Capitalized s
  · rw [inCaseOf_of_capitalized h, lower_upper]
  · rw [inCaseOf_of_not_capitalized h]

theorem not_capitalized_of_isUpper (h : ∀ c ∈ s.toList, c.isUpper = false) : ¬ Capitalized s := by
  rintro ⟨⟨c, hc, hletter⟩, hall⟩
  have hupper := hall c hc hletter
  rw [h c hc] at hupper
  cases hupper

end Text

namespace Mac

variable {m moved : Mac} {layout : Layout} {s t u : String} {a b delta : Int} {e : Error}

/-! ## Values -/

/-- The number is a value of 48 bits. -/
def InRange (n : Int) : Prop := 0 ≤ n ∧ n < 0x1000000000000

theorem inRange_value (m : Mac) : InRange m.value := by
  have := m.value_lt
  exact ⟨by omega, by omega⟩

theorem ofNat?_eq_some_iff {n : Nat} : ofNat? n = some m ↔ m.value = n := by
  constructor
  · exact value_of_ofNat?
  · rintro rfl
    exact ofNat?_eq_some m.value_lt

theorem offset?_eq_some_iff :
    m.offset? delta = some moved ↔ (moved.value : Int) = m.value + delta := by
  unfold offset?
  split
  · rename_i n hsum
    rw [ofNat?_eq_some_iff, hsum]
    exact Int.ofNat_inj.symm
  · rename_i n hsum
    rw [hsum]
    exact ⟨nofun, nofun⟩

theorem offset?_eq_none_iff : m.offset? delta = none ↔ ¬ InRange (m.value + delta) := by
  constructor
  · rintro hnone ⟨hlow, hhigh⟩
    have hlt : (m.value + delta).toNat < 0x1000000000000 := by omega
    have hsome : m.offset? delta = some ⟨_, hlt⟩ :=
      offset?_eq_some_iff.2 (Int.toNat_of_nonneg hlow)
    rw [hnone] at hsome
    cases hsome
  · intro hout
    rw [Option.eq_none_iff_forall_ne_some]
    intro moved hsome
    apply hout
    rw [← offset?_eq_some_iff.1 hsome]
    exact moved.inRange_value

/-- Two offsets on end are their sum. -/
theorem offset?_add {mid : Mac} (ha : m.offset? a = some mid) (hb : mid.offset? b = some moved) :
    m.offset? (a + b) = some moved := by
  rw [offset?_eq_some_iff] at ha hb ⊢
  omega

/-! ## Texts -/

theorem isUpper_of_mem_write {c : Char} (h : c ∈ (m.write layout).toList) : c.isUpper = false := by
  rw [write, String.toList_ofList, toChars_eq] at h
  rcases mem_intercalate h with rfl | ⟨group, hgroup, hc⟩
  · cases layout <;> rfl
  · obtain ⟨n, _, rfl⟩ := List.mem_map.1 hgroup
    obtain ⟨d, hd, rfl⟩ := List.mem_map.1 hc
    exact isUpper_hexDigit (lt_of_mem_lastDigits (by decide) hd)

theorem write_written (m : Mac) (layout : Layout) : m.write layout.written = m.write layout := by
  cases layout <;> rfl

theorem eq_of_parse_error (h : parse s = .error e) : e = .invalidFormat s := by
  unfold parse at h
  split at h
  · cases h
  · exact (Except.error.inj h).symm

/-- The case of letters makes no difference to what is read. -/
theorem parse_of_lower_eq (h : lower s = lower t) (ht : parse t = .ok (m, layout)) :
    parse s = .ok (m, layout) := by
  have hsame : ofChars? (trimChars s.toList) = ofChars? (trimChars t.toList) := by
    rw [← ofChars?_map_toLower, ← trimChars_map_toLower, ← lower_toList, h, lower_toList,
      trimChars_map_toLower, ofChars?_map_toLower]
  unfold parse at ht ⊢
  rw [hsame]
  cases hfound : ofChars? (trimChars t.toList) with
  | some found => rwa [hfound] at ht
  | none =>
    rw [hfound] at ht
    cases ht

theorem parse_inCaseOf (s : String) (m : Mac) (layout : Layout) :
    parse (inCaseOf s (m.write layout)) = .ok (m, layout.written) :=
  parse_of_lower_eq (lower_inCaseOf s _) (parse_write m layout)

/-! ## Moving -/

theorem offset_of_error (h : parse s = .error e) : offset s delta = .error e := by
  rw [offset, h]
  rfl

theorem offset_of_none (h : parse s = .ok (m, layout)) (hout : m.offset? delta = none) :
    offset s delta = .error (.outOfRange s delta) := by
  simp only [offset, h, bind, Except.bind, hout]

theorem offset_of_some (h : parse s = .ok (m, layout)) (hmoved : m.offset? delta = some moved) :
    offset s delta = .ok (inCaseOf s (moved.write layout)) := by
  simp only [offset, h, bind, Except.bind, hmoved, inCaseOf]

theorem offset_eq_ok_iff :
    offset s delta = .ok t ↔ ∃ m layout moved, parse s = .ok (m, layout) ∧
      m.offset? delta = some moved ∧ inCaseOf s (moved.write layout) = t := by
  constructor
  · intro h
    cases hparse : parse s with
    | error e =>
      rw [offset_of_error hparse] at h
      cases h
    | ok found =>
      obtain ⟨m, layout⟩ := found
      cases hmoved : m.offset? delta with
      | none =>
        rw [offset_of_none hparse hmoved] at h
        cases h
      | some moved =>
        rw [offset_of_some hparse hmoved] at h
        exact ⟨m, layout, moved, rfl, hmoved, Except.ok.inj h⟩
  · rintro ⟨m, layout, moved, hparse, hmoved, rfl⟩
    exact offset_of_some hparse hmoved

/-- The text that an address is moved to: it is read as the address so much further on, in the
layout of the old text, and has the capitals of the old text. -/
structure MovesTo (s : String) (m : Mac) (layout : Layout) (delta : Int) (t : String) : Prop where
  reads : ∃ moved : Mac, parse t = .ok (moved, layout.written) ∧
    (moved.value : Int) = m.value + delta
  capitals : Capitalized s → ∀ c ∈ t.toList, c.isLower = false
  small : ¬ Capitalized s → ∀ c ∈ t.toList, c.isUpper = false

theorem movesTo_inCaseOf (s : String) (hmoved : m.offset? delta = some moved) (layout : Layout) :
    MovesTo s m layout delta (inCaseOf s (moved.write layout)) where
  reads := ⟨moved, parse_inCaseOf s moved layout, offset?_eq_some_iff.1 hmoved⟩
  capitals h c hc := by
    rw [inCaseOf_of_capitalized h] at hc
    exact isLower_of_mem_upper hc
  small h c hc := by
    rw [inCaseOf_of_not_capitalized h] at hc
    exact isUpper_of_mem_write hc

/-- An address is moved by exactly the offset. It is refused if the text is no address, and if the
new value does not have 48 bits, and for nothing else. -/
theorem offset_exact (s : String) (delta : Int) :
    (∀ text, offset s delta = .error (.invalidFormat text) ↔
      text = s ∧ ∀ m layout, parse s ≠ .ok (m, layout)) ∧
    (∀ text d, offset s delta = .error (.outOfRange text d) ↔
      (text = s ∧ d = delta) ∧
        ∃ m layout, parse s = .ok (m, layout) ∧ ¬ InRange (m.value + delta)) ∧
    (∀ m layout, parse s = .ok (m, layout) → InRange (m.value + delta) →
      ∃ t, offset s delta = .ok t ∧ MovesTo s m layout delta t) := by
  cases hparse : parse s with
  | error e =>
    obtain rfl := eq_of_parse_error hparse
    simp [offset_of_error hparse, eq_comm]
  | ok found =>
    obtain ⟨m, layout⟩ := found
    cases hmoved : m.offset? delta with
    | none =>
      have hout := offset?_eq_none_iff.1 hmoved
      rw [offset_of_none hparse hmoved]
      refine ⟨fun text => ?_, fun text d => ?_, ?_⟩
      · simp
      · simp [hout, eq_comm]
      · rintro _ _ ⟨⟩ hin
        exact absurd hin hout
    | some moved =>
      have hin : InRange (m.value + delta) := offset?_eq_some_iff.1 hmoved ▸ moved.inRange_value
      rw [offset_of_some hparse hmoved]
      refine ⟨fun text => ?_, fun text d => ?_, ?_⟩
      · simp
      · simp [hin]
      · rintro _ _ ⟨⟩ _
        exact ⟨_, rfl, movesTo_inCaseOf s hmoved layout⟩

theorem offset_exact_edge :
    offset "ff-ff-ff-ff-ff-ff" 1 = .error (.outOfRange "ff-ff-ff-ff-ff-ff" 1) ∧
      ∃ t, offset "FFFFFFFFFFFE" 1 = .ok t ∧
        MovesTo "FFFFFFFFFFFE" ⟨0xFFFFFFFFFFFE, by decide⟩ .bare 1 t := by
  have hdash : parse "ff-ff-ff-ff-ff-ff" = .ok (⟨0xFFFFFFFFFFFF, by decide⟩, .dash) := by
    decide +kernel
  have hbare : parse "FFFFFFFFFFFE" = .ok (⟨0xFFFFFFFFFFFE, by decide⟩, .bare) := by
    decide +kernel
  constructor
  · have hout : ¬ InRange (0xFFFFFFFFFFFF + 1) := fun h => absurd h.2 (by decide)
    exact ((offset_exact _ _).2.1 _ _).2 ⟨⟨rfl, rfl⟩, _, _, hdash, hout⟩
  · have hin : InRange (0xFFFFFFFFFFFE + 1) := ⟨by decide, by decide⟩
    exact (offset_exact _ _).2.2 _ _ hbare hin

/-- Two moves on end are one move by the sum: both texts are read as one address in one layout. They
are one text unless the first one was in capitals, for these are lost with the last letter. -/
theorem offset_offset (ht : offset s a = .ok t) (hu : offset t b = .ok u) :
    ∃ w, offset s (a + b) = .ok w ∧
      (∃ m layout, parse u = .ok (m, layout) ∧ parse w = .ok (m, layout)) ∧
      normalize u = normalize w ∧ (¬ Capitalized s → u = w) := by
  obtain ⟨m, layout, mid, hparse, hmid, rfl⟩ := offset_eq_ok_iff.1 ht
  obtain ⟨_, _, moved, hagain, hmoved, rfl⟩ := offset_eq_ok_iff.1 hu
  rw [parse_inCaseOf] at hagain
  cases hagain
  rw [write_written]
  have hu := parse_inCaseOf (inCaseOf s (mid.write layout)) moved layout
  have hw := parse_inCaseOf s moved layout
  refine ⟨_, offset_of_some hparse (offset?_add hmid hmoved), ⟨_, _, hu, hw⟩, ?_, fun hsmall => ?_⟩
  · rw [normalize, normalize, ofText, ofText, hu, hw]
    rfl
  · have hmid : ¬ Capitalized (mid.write layout) :=
      not_capitalized_of_isUpper fun _ => isUpper_of_mem_write
    rw [inCaseOf_of_not_capitalized hsmall, inCaseOf_of_not_capitalized hsmall,
      inCaseOf_of_not_capitalized hmid]

theorem offset_offset_bare :
    offset "a4BF012e7faa" (-171) = .ok "a4:bf:01:2e:7e:ff" ∧
      offset "a4:bf:01:2e:7e:ff" 1 = .ok "a4:bf:01:2e:7f:00" ∧
      offset "a4BF012e7faa" (-171 + 1) = .ok "a4:bf:01:2e:7f:00" := by
  have ht : offset "a4BF012e7faa" (-171) = .ok "a4:bf:01:2e:7e:ff" := by decide +kernel
  have hu : offset "a4:bf:01:2e:7e:ff" 1 = .ok "a4:bf:01:2e:7f:00" := by decide +kernel
  have hsmall : ¬ Capitalized "a4BF012e7faa" := mt isUpperCased_iff.2 (by decide)
  obtain ⟨w, hw, _, _, hsame⟩ := offset_offset ht hu
  exact ⟨ht, hu, hsame hsmall ▸ hw⟩

/-- The text on the way has no letter to keep the capitals. -/
example :
    offset "00:00:00:00:00:0A" (-1) = .ok "00:00:00:00:00:09" ∧
      offset "00:00:00:00:00:09" 1 = .ok "00:00:00:00:00:0a" ∧
      offset "00:00:00:00:00:0A" (-1 + 1) = .ok "00:00:00:00:00:0A" := by
  decide +kernel

end Mac

end Inventory
