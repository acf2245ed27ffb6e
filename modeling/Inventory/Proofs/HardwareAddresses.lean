-- Hardware addresses written and read back. In every layout the written text
-- stands for the address it was written from, and says which layout it is in.
import Mathlib.Data.List.Basic
import Inventory.Mac
import Inventory.Proofs.Numerals
import Inventory.Proofs.Texts

namespace Inventory.Mac

open Text

variable {layout : Layout}

theorem ofNat?_eq_some {n : Nat} (h : n < 0x1000000000000) : ofNat? n = some ⟨n, h⟩ := dif_pos h

/-! ## Layouts -/

theorem not_isHex_mark : isHex layout.mark = false := by cases layout <;> rfl

/-- Groups of hex digits are found again in the text that joins them. -/
theorem Layout.split?_intercalate {parts : List (List Char)} (hwritten : layout.written = layout)
    (hlength : parts.length * layout.width = 12)
    (hhex : ∀ part ∈ parts, ∀ c ∈ part, isHex c = true) :
    split? ([layout.mark].intercalate parts) = some (layout, parts) := by
  have hfree (mark : Char) (hmark : isHex mark = false) : ∀ part ∈ parts, mark ∉ part :=
    fun part hpart => not_mem_of_isHex (hhex part hpart) hmark
  have hnot (mark : Char) (hmark : isHex mark = false) (hne : mark ≠ layout.mark) :
      mark ∉ [layout.mark].intercalate parts := by
    intro hmem
    rcases mem_intercalate hmem with h | ⟨part, hpart, hmem⟩
    · exact hne h
    · exact hfree mark hmark part hpart hmem
  have hmem : layout.mark ∈ [layout.mark].intercalate parts := by
    apply mark_mem_intercalate
    cases layout <;> simp only [Layout.width] at hlength <;> first | omega | cases hwritten
  have hsplit : ([layout.mark].intercalate parts).splitOn layout.mark = parts := by
    apply List.splitOn_intercalate _ (hfree _ not_isHex_mark)
    intro hnil
    rw [hnil, List.length_nil, Nat.zero_mul] at hlength
    cases hlength
  generalize [layout.mark].intercalate parts = cs at hnot hmem hsplit
  -- The marks that are looked for first do not occur.
  cases layout with
  | colon =>
    change ':' ∈ cs at hmem
    rw [split?, if_pos hmem]
    exact congrArg (fun found => some (colon, found)) hsplit
  | dash =>
    change '-' ∈ cs at hmem
    rw [split?, if_neg (hnot ':' rfl (by decide)), if_pos hmem]
    exact congrArg (fun found => some (dash, found)) hsplit
  | dottedOctets =>
    change '.' ∈ cs at hmem
    change cs.splitOn '.' = parts at hsplit
    have hsix : parts.length = 6 := Nat.eq_of_mul_eq_mul_right (by decide : 0 < 2) hlength
    rw [split?, if_neg (hnot ':' rfl (by decide)), if_neg (hnot '-' rfl (by decide)), if_pos hmem,
      hsplit]
    exact if_pos hsix
  | dottedQuads =>
    change '.' ∈ cs at hmem
    change cs.splitOn '.' = parts at hsplit
    have hthree : parts.length = 3 := Nat.eq_of_mul_eq_mul_right (by decide : 0 < 4) hlength
    rw [split?, if_neg (hnot ':' rfl (by decide)), if_neg (hnot '-' rfl (by decide)), if_pos hmem,
      hsplit]
    simp [hthree]
  | bare => cases hwritten

/-! ## Writing and reading -/

/-- The groups that an address is written in. -/
def groups (m : Mac) (layout : Layout) : List (List Char) :=
  (lastDigits (16 ^ layout.written.width) (12 / layout.written.width) m.value).map
    (hexDigits layout.written.width)

theorem toChars_eq (m : Mac) (layout : Layout) :
    m.toChars layout = [layout.written.mark].intercalate (m.groups layout) := by
  cases layout <;> rfl

theorem isGroup_of_mem_groups {m : Mac} {group : List Char} (h : group ∈ m.groups layout) :
    layout.written.isGroup group = true := by
  obtain ⟨n, _, rfl⟩ := List.mem_map.1 h
  simp only [Layout.isGroup, hexDigits_length, beq_self_eq_true, Bool.true_and, List.all_eq_true]
  exact fun _ => isHex_of_mem_hexDigits

theorem length_groups (m : Mac) (layout : Layout) :
    (m.groups layout).length * layout.written.width = 12 := by
  rw [groups, List.length_map, lastDigits_length]
  cases layout <;> rfl

theorem hexValue_groups (m : Mac) (layout : Layout) :
    hexValue (m.groups layout).flatten = m.value := by
  have hwidth : layout.written.width * (12 / layout.written.width) = 12 := by cases layout <;> rfl
  rw [groups, flatten_hexDigits, hwidth, hexValue_hexDigits]
  exact Nat.mod_eq_of_lt m.value_lt

theorem ofChars?_toChars (m : Mac) (layout : Layout) :
    ofChars? (m.toChars layout) = some (m, layout.written) := by
  have hwritten : layout.written.written = layout.written := by cases layout <;> rfl
  have hall : (m.groups layout).all layout.written.isGroup = true :=
    List.all_eq_true.2 fun _ => isGroup_of_mem_groups
  have hsplit : Layout.split? (m.toChars layout) = some (layout.written, m.groups layout) := by
    rw [toChars_eq]
    apply Layout.split?_intercalate hwritten (length_groups m layout)
    intro group hgroup
    have h := isGroup_of_mem_groups hgroup
    rw [Layout.isGroup, Bool.and_eq_true, List.all_eq_true] at h
    exact h.2
  simp only [ofChars?, hsplit, Option.bind_eq_bind, Option.bind_some]
  rw [if_pos ⟨length_groups m layout, hall⟩, hexValue_groups, ofNat?_eq_some m.value_lt]
  rfl

theorem isBlank_of_mem_toChars {m : Mac} {c : Char} (h : c ∈ m.toChars layout) :
    isBlank c = false := by
  rw [toChars_eq] at h
  rcases mem_intercalate h with rfl | ⟨group, hgroup, hc⟩
  · cases layout <;> rfl
  · have hall := isGroup_of_mem_groups hgroup
    rw [Layout.isGroup, Bool.and_eq_true, List.all_eq_true] at hall
    exact isBlank_of_isAlphanum (isAlphanum_of_isHex (hall.2 c hc))

theorem parse_write (m : Mac) (layout : Layout) :
    parse (m.write layout) = .ok (m, layout.written) := by
  rw [parse, write, String.toList_ofList,
    trimChars_eq_self_of_forall fun _ => isBlank_of_mem_toChars, ofChars?_toChars]

theorem ofText_text (m : Mac) : ofText m.text = .ok m := by
  rw [ofText, text, parse_write]
  rfl

theorem nonBlank_text (m : Mac) : nonBlank (some m.text) = some m.text := by
  have hmany : 2 ≤ (m.groups .colon).length := by
    have hlength : (m.groups .colon).length * 2 = 12 := length_groups m .colon
    omega
  have hmark : ':' ∈ m.toChars .colon := by
    rw [toChars_eq]
    exact mark_mem_intercalate hmany
  apply nonBlank_eq_some
  rw [text, write, String.toList_ofList]
  exact .of_forall (List.ne_nil_of_mem hmark) fun _ => isBlank_of_mem_toChars

end Inventory.Mac
