-- The texts that are locations: segments in a row, each a letter and a number,
-- whose letters are one of sixteen shapes. Every other text is refused, for its
-- form or for its letters. Capitals, blanks around the text and leading zeros do
-- not count, and the canonical text has none of them.
import Mathlib.Data.List.Basic
import Mathlib.Data.List.Forall2
import Inventory.Proofs.Locations

namespace Inventory

open Text

namespace Segment

variable {s : Segment} {cs : List Char} {segments segments' : List Segment}

/-- A segment is spelled plainly if its number starts with a zero only where it is zero. -/
def SpellsPlainly (cs : List Char) (s : Segment) : Prop :=
  Spells cs s ∧ ∀ rest, cs = s.letter :: '0' :: rest → rest = []

theorem spellsPlainly_toChars (h : s.letter.isLower = true) : SpellsPlainly s.toChars s := by
  refine ⟨spells_toChars h, fun rest hzero => ?_⟩
  have hdigits : decimal s.number.toNat = '0' :: rest := (List.cons.inj hzero).2
  have hvalue : s.number.toNat = 0 := by
    apply eq_zero_of_head?_decimal
    rw [hdigits]
    rfl
  rw [hvalue] at hdigits
  exact (List.cons.inj hdigits).2.symm

theorem InRow.imp {one two : List Char → Segment → Prop} (h : ∀ cs s, one cs s → two cs s)
    (hrow : InRow one cs segments) : InRow two cs segments := by
  obtain ⟨hne, parts, hcs, hparts⟩ := hrow
  exact ⟨hne, parts, hcs, hparts.imp h⟩

/-- A text spells one list of segments at most. -/
theorem InRow.unique (h : InRow Spells cs segments) (h' : InRow Spells cs segments') :
    segments = segments' := by
  have hread := ofChars?_eq_some_iff.2 h
  rw [ofChars?_eq_some_iff.2 h'] at hread
  exact (Option.some.inj hread).symm

end Segment

namespace Xname

open Segment (InRow Spells SpellsPlainly)

variable {s t text : String} {x y : Xname} {segments : List Segment}

/-! ## Refusals -/

theorem parse_eq_malformed_iff :
    parse s = .error (.malformed text) ↔
      text = s ∧ ¬ ∃ segments, InRow Spells (folded s) segments := by
  simp only [← Segment.ofChars?_eq_some_iff]
  cases hread : Segment.ofChars? (folded s) with
  | none => simp [parse_of_none hread, eq_comm]
  | some segments =>
    cases hkind : ofSegments? segments with
    | none => simp [parse_of_unknown hread hkind]
    | some x => simp [parse_of_known hread hkind]

theorem parse_eq_unknownType_iff :
    parse s = .error (.unknownType text) ↔
      text = s ∧ ∃ segments, InRow Spells (folded s) segments ∧
        ∀ k : Kind, k.shape ≠ segments.map Segment.letter := by
  simp only [← Segment.ofChars?_eq_some_iff, ← ofSegments?_eq_none_iff]
  cases hread : Segment.ofChars? (folded s) with
  | none => simp [parse_of_none hread]
  | some segments =>
    cases hkind : ofSegments? segments with
    | none => simp [parse_of_unknown hread hkind, hkind, eq_comm]
    | some x => simp [parse_of_known hread hkind, hkind]

/-! ## Canonical texts -/

theorem inRow_plain_text (x : Xname) : InRow SpellsPlainly x.text.toList x.segments :=
  inRow_text_of (fun _ => Segment.spellsPlainly_toChars) x

theorem text_injective (h : x.text = y.text) : x = y := by
  have hread := x.parse_text
  rw [h, parse_text] at hread
  exact (Except.ok.inj hread).symm

theorem folded_trim (s : String) : folded (trim s) = folded s := by
  rw [folded, trim_toList, trimChars_trimChars, folded]

theorem normalize_of_parse (h : parse s = .ok x) : normalize s = x.text := by
  rw [normalize, h]

theorem normalize_of_not_parse (h : ∀ x, parse s ≠ .ok x) : normalize s = trim s := by
  unfold normalize
  split
  · rename_i x hx
    exact absurd hx (h x)
  · rfl

theorem normalize_normalize (s : String) : normalize (normalize s) = normalize s := by
  by_cases h : ∃ x, parse s = .ok x
  · obtain ⟨x, hx⟩ := h
    rw [normalize_of_parse hx, normalize_of_parse x.parse_text]
  · have hnot : ∀ x, parse s ≠ .ok x := not_exists.1 h
    have hagain : ∀ x, parse (trim s) ≠ .ok x := by
      intro x hx
      rw [parse_eq_ok_iff, folded_trim, ← parse_eq_ok_iff] at hx
      exact hnot x hx
    rw [normalize_of_not_parse hnot, normalize_of_not_parse hagain, trim, trim_toList,
      trimChars_trimChars]
    rfl

/-- Exactly the texts of the grammar are read. A text whose form is wrong is malformed, one whose
letters have no kind is of no known type, and any other is the location that its letters and numbers
lead to, with plain numbers in its own text. Locations are told apart by letters and numbers alone,
their texts are read as themselves, and a normal form is its own. -/
theorem parse_exact (s t : String) :
    (∀ text, parse s = .error (.malformed text) ↔
      text = s ∧ ¬ ∃ segments, InRow Spells (folded s) segments) ∧
    (∀ text, parse s = .error (.unknownType text) ↔
      text = s ∧ ∃ segments, InRow Spells (folded s) segments ∧
        ∀ k : Kind, k.shape ≠ segments.map Segment.letter) ∧
    (∀ x, parse s = .ok x ↔ ∃ segments, InRow Spells (folded s) segments ∧
      x.kind.shape = segments.map Segment.letter ∧ InRow SpellsPlainly x.text.toList segments) ∧
    (∀ x y a b, parse s = .ok x → parse t = .ok y → InRow Spells (folded s) a →
      InRow Spells (folded t) b → (x = y ↔ a = b) ∧ (x = y ↔ x.text = y.text)) ∧
    (∀ x, parse s = .ok x → parse x.text = .ok x) ∧
    normalize (normalize s) = normalize s := by
  refine ⟨fun _ => parse_eq_malformed_iff, fun _ => parse_eq_unknownType_iff, fun x => ?_, ?_,
    fun x _ => x.parse_text, normalize_normalize s⟩
  · rw [parse_eq_ok_iff]
    constructor
    · exact fun h => ⟨x.segments, h, x.shape_eq.symm, x.inRow_plain_text⟩
    · rintro ⟨segments, hspells, _, hplain⟩
      have hown := hplain.imp fun _ _ => And.left
      rwa [x.inRow_text.unique hown]
  · intro x y a b hx hy ha hb
    obtain rfl := (parse_eq_ok_iff.1 hx).unique ha
    obtain rfl := (parse_eq_ok_iff.1 hy).unique hb
    exact ⟨⟨congrArg segments, segments_injective⟩, congrArg Xname.text, text_injective⟩

theorem parse_exact_spellings :
    ∃ x y, (parse " X0C0S01B0 " = .ok x ∧ parse "x0c0s1b0" = .ok y) ∧ x = y ∧
      parse x.text = .ok x := by
  have ha : InRow Spells (folded " X0C0S01B0 ") [⟨'x', 0⟩, ⟨'c', 0⟩, ⟨'s', 1⟩, ⟨'b', 0⟩] :=
    Segment.ofChars?_eq_some_iff.1 (by decide +kernel)
  have hb : InRow Spells (folded "x0c0s1b0") [⟨'x', 0⟩, ⟨'c', 0⟩, ⟨'s', 1⟩, ⟨'b', 0⟩] :=
    Segment.ofChars?_eq_some_iff.1 (by decide +kernel)
  have hx : parse " X0C0S01B0 " = .ok ⟨_, .nodeBMC, rfl⟩ := parse_eq_ok_iff.2 ha
  have hy : parse "x0c0s1b0" = .ok ⟨_, .nodeBMC, rfl⟩ := parse_eq_ok_iff.2 hb
  obtain ⟨_, _, _, hsame, hagain, _⟩ := parse_exact " X0C0S01B0 " "x0c0s1b0"
  exact ⟨_, _, ⟨hx, hy⟩, (hsame _ _ _ _ hx hy ha hb).1.2 rfl, hagain _ hx⟩

end Xname

end Inventory
