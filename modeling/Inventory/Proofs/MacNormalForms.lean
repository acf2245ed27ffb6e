-- Normal forms of hardware addresses. Every address has one, whatever its
-- layout, capitals and blanks: its own digits, small and in pairs, with colons
-- between them. What is no address is left alone or answered with nothing.
import Inventory.Proofs.MacOrder
import Inventory.Proofs.Offsets

namespace Inventory.Mac

open Text

variable {x y : Mac} {layout : Layout} {s t : String} {d : Vector Char 12}

/-! ## Addresses and other texts -/

/-- The text is an address, in some layout and with blanks around it. -/
def Valid (s : String) : Prop := ∃ layout d, Spells (trimChars s.toList) layout d

theorem valid_iff : Valid s ↔ ∃ m, ofText s = .ok m := by
  have hnone : ofChars? (trimChars s.toList) = none ↔ ¬ Valid s := ofChars?_eq_none_iff
  constructor
  · intro h
    cases hfound : ofChars? (trimChars s.toList) with
    | none => exact absurd h (hnone.1 hfound)
    | some found => exact ⟨found.1, by rw [ofText, parse, hfound]; rfl⟩
  · rintro ⟨m, hm⟩
    by_contra hnot
    rw [ofText, parse, hnone.2 hnot] at hm
    cases hm

theorem ofText_of_not_valid (h : ¬ Valid s) : ofText s = .error (.invalidFormat s) := by
  have hnone : ofChars? (trimChars s.toList) = none := ofChars?_eq_none_iff.2 h
  rw [ofText, parse, hnone]
  rfl

/-! ## Normal forms -/

/-- The normal form of twelve digits is the small digits in pairs, with colons between them. -/
theorem toChars_colon (hdigits : ∀ c ∈ d.toList, IsHexDigit c)
    (hvalue : x.value = bigEndian d.toList) :
    x.toChars .colon = Layout.colon.set (d.map Char.toLower) := by
  obtain ⟨d', hspells, hvalue'⟩ := exists_spells (ofChars?_toChars x .colon)
  have hsame : d'.map Char.toLower = d.map Char.toLower := by
    apply Vector.toList_inj.1
    rw [Vector.toList_map, Vector.toList_map]
    apply map_toLower_eq_of_bigEndian hspells.digits hdigits
    · rw [Vector.length_toList, Vector.length_toList]
    · rw [← hvalue', hvalue]
  -- What is written has no capitals, so its digits are small already.
  have hsmall : d'.map Char.toLower = d' := by
    apply Vector.toList_inj.1
    rw [Vector.toList_map]
    refine (List.map_congr_left fun c hc => ?_).trans (List.map_id _)
    apply toLower_eq_self
    rw [← flatten_parts .colon d'] at hc
    obtain ⟨part, hpart, hc⟩ := List.mem_flatten.1 hc
    have hwritten : c ∈ (x.write .colon).toList := by
      rw [write, String.toList_ofList, hspells.set, Layout.set_eq]
      exact mem_intercalate_of_mem hpart hc
    exact isUpper_of_mem_write hwritten
  rw [hspells.set, ← hsame, hsmall]
  rfl

theorem text_ne_empty (m : Mac) : m.text ≠ "" := by
  intro h
  have hread := m.ofText_text
  rw [h] at hread
  cases hread

theorem text_injective (h : x.text = y.text) : x = y := by
  have hread := x.ofText_text
  rw [h, ofText_text] at hread
  exact (Except.ok.inj hread).symm

theorem forms_of_ofText (h : ofText s = .ok x) :
    normalize s = x.text ∧ normalizeValid s = x.text ∧ verify s = .ok x.text := by
  refine ⟨by rw [normalize, h], by rw [normalizeValid, h], ?_⟩
  rw [verify, h]
  rfl

theorem forms_of_not_valid (h : ¬ Valid s) :
    normalize s = s ∧ normalizeValid s = "" ∧ verify s = .error (.invalidFormat s) := by
  have hread := ofText_of_not_valid h
  refine ⟨by rw [normalize, hread], by rw [normalizeValid, hread], ?_⟩
  rw [verify, hread]
  rfl

theorem verify_of_spells (h : Spells (trimChars s.toList) layout d) :
    verify s = .ok (String.ofList (Layout.colon.set (d.map Char.toLower))) := by
  obtain ⟨m, hvalue⟩ := exists_value h.digits
  have hread : ofText s = .ok m := by
    rw [ofText, parse, ofChars?_of_spells h hvalue]
    rfl
  rw [(forms_of_ofText hread).2.2, text, write, toChars_colon h.digits hvalue]

theorem compare_eq_iff : compare x y = .eq ↔ x = y := by
  cases x
  cases y
  rw [Mac.mk.injEq]
  exact Nat.compare_eq_eq

/-- Normal forms are canonical. The normal form of a normal form is itself, the three ways to ask
for it agree on what is an address and what is not, and it has the digits of the text, small and in
pairs. Two addresses have one normal form exactly if they compare as equal, in whatever layouts they
are written. -/
theorem normal_forms_canonical (s t : String) :
    normalize (normalize s) = normalize s ∧
    (∀ c, verify s = .ok c ↔ normalizeValid s = c ∧ c ≠ "") ∧
    (∀ c, verify s = .ok c → normalize s = c) ∧
    (∀ e, verify s = .error e → normalize s = s ∧ normalizeValid s = "") ∧
    (∀ layout d, Spells (trimChars s.toList) layout d →
      verify s = .ok (String.ofList (Layout.colon.set (d.map Char.toLower)))) ∧
    (Valid s → Valid t → (normalize s = normalize t ↔ compareTexts s t = .ok .eq)) := by
  by_cases hs : Valid s
  · obtain ⟨x, hx⟩ := valid_iff.1 hs
    obtain ⟨hnormal, hvalid, hverify⟩ := forms_of_ofText hx
    refine ⟨?_, fun c => ?_, fun c hc => ?_, fun e he => ?_, fun layout d hd => ?_, fun _ ht => ?_⟩
    · rw [hnormal, (forms_of_ofText x.ofText_text).1]
    · rw [hverify, hvalid, Except.ok.injEq]
      exact ⟨fun h => ⟨h, h ▸ x.text_ne_empty⟩, And.left⟩
    · rw [hverify] at hc
      rw [hnormal, Except.ok.inj hc]
    · rw [hverify] at he
      cases he
    · exact verify_of_spells hd
    · obtain ⟨y, hy⟩ := valid_iff.1 ht
      rw [hnormal, (forms_of_ofText hy).1, compareTexts_of_ofText hx hy, Except.ok.injEq,
        compare_eq_iff]
      exact ⟨text_injective, congrArg text⟩
  · obtain ⟨hnormal, hvalid, hverify⟩ := forms_of_not_valid hs
    refine ⟨by rw [hnormal, hnormal], fun c => ?_, fun c hc => ?_, fun _ _ => ⟨hnormal, hvalid⟩,
      fun layout d hd => absurd ⟨layout, d, hd⟩ hs, fun h => absurd h hs⟩
    · rw [hverify, hvalid]
      exact ⟨nofun, fun ⟨hempty, hne⟩ => absurd hempty.symm hne⟩
    · rw [hverify] at hc
      cases hc

/-- Dashes, dots, capitals and blanks are lost in the normal form, and a text in two layouts at once
has none. -/
theorem normal_forms_canonical_spellings :
    normalize " A4-BF-01-2E-7F-AA" = "a4:bf:01:2e:7f:aa" ∧
      normalize " A4-BF-01-2E-7F-AA" = normalize "a4bf.012e.7faa" ∧
      normalize "a4:bf-01:2e:7f:aa" = "a4:bf-01:2e:7f:aa" ∧
      normalizeValid "a4:bf-01:2e:7f:aa" = "" := by
  have hs : Spells (trimChars " A4-BF-01-2E-7F-AA".toList) .dash
      #v['A', '4', 'B', 'F', '0', '1', '2', 'E', '7', 'F', 'A', 'A'] :=
    ⟨List.forall_iff_forall_mem.1 (by decide), by decide +kernel⟩
  have ht : Spells (trimChars "a4bf.012e.7faa".toList) .dottedQuads
      #v['a', '4', 'b', 'f', '0', '1', '2', 'e', '7', 'f', 'a', 'a'] :=
    ⟨List.forall_iff_forall_mem.1 (by decide), by decide +kernel⟩
  have hcompare : compareTexts " A4-BF-01-2E-7F-AA" "a4bf.012e.7faa" = .ok .eq := by
    decide +kernel
  have hmixed : verify "a4:bf-01:2e:7f:aa" = .error (.invalidFormat "a4:bf-01:2e:7f:aa") := by
    decide +kernel
  obtain ⟨_, _, hnormal, _, hverify, hcanonical⟩ :=
    normal_forms_canonical " A4-BF-01-2E-7F-AA" "a4bf.012e.7faa"
  obtain ⟨_, _, _, hinvalid, _⟩ := normal_forms_canonical "a4:bf-01:2e:7f:aa" ""
  have hform : verify " A4-BF-01-2E-7F-AA" = .ok "a4:bf:01:2e:7f:aa" :=
    (hverify _ _ hs).trans (congrArg Except.ok (by decide +kernel))
  exact ⟨hnormal _ hform, (hcanonical ⟨_, _, hs⟩ ⟨_, _, ht⟩).2 hcompare, hinvalid _ hmixed⟩

end Inventory.Mac
