-- Location names written and read back. The text of a location is read as that
-- location, and it can stand as a label in the name of a host.
import Mathlib.Data.List.Basic
import Inventory.Xname
import Inventory.Proofs.Numerals
import Inventory.Proofs.Texts

namespace Inventory

open Text

/-! ## Kinds -/

namespace Kind

theorem isLower_of_mem_shape {k : Kind} {c : Char} (h : c ∈ k.shape) : c.isLower = true := by
  have : k.shape.all Char.isLower = true := by cases k <;> rfl
  exact List.all_eq_true.1 this c h

theorem shape_ne_nil (k : Kind) : k.shape ≠ [] := by cases k <;> simp [shape]

/-- No controller sits deeper than four levels. -/
theorem length_shape_le_of_isController {k : Kind} (h : k.isController = true) :
    k.shape.length ≤ 4 := by
  cases k <;> first | decide | cases h

end Kind

/-! ## Segments -/

namespace Segment

variable {s : Segment} {segments : List Segment} {cs : List Char}

/-- A segment is spelled by its letter, a small one, and the digits of its number. -/
def Spells (cs : List Char) (s : Segment) : Prop :=
  ∃ digits, cs = s.letter :: digits ∧ s.letter.isLower = true ∧ IsDecimal digits s.number.toNat

/-- The text is one or more segments in a row, each written as `one` says. -/
def InRow (one : List Char → Segment → Prop) (cs : List Char) (segments : List Segment) : Prop :=
  segments ≠ [] ∧ ∃ parts : List (List Char), cs = parts.flatten ∧ List.Forall₂ one parts segments

theorem spells_toChars (h : s.letter.isLower = true) : Spells s.toChars s :=
  ⟨_, rfl, h, isDecimal_decimal _⟩

theorem ofParts?_eq_some_iff {letter : Char} {digits : List Char} :
    ofParts? letter digits = some s ↔ Spells (letter :: digits) s := by
  constructor
  · intro h
    unfold ofParts? at h
    split at h
    · rename_i hletter
      obtain ⟨n, hn, rfl⟩ := Option.map_eq_some_iff.1 h
      obtain ⟨hdecimal, hlt⟩ := decimalBelow?_eq_some_iff.1 hn
      refine ⟨digits, rfl, hletter, ?_⟩
      rwa [UInt32.toNat_ofNat_of_lt' hlt]
    · cases h
  · rintro ⟨_, heq, hletter, hdecimal⟩
    cases heq
    rw [ofParts?, if_pos hletter,
      decimalBelow?_eq_some_iff.2 ⟨hdecimal, s.number.toNat_lt⟩, Option.map_some,
      UInt32.ofNat_toNat]

theorem pieces_append_digits {digits : List Char} (h : ∀ c ∈ digits, c.isDigit = true)
    (cs : List Char) : pieces (digits ++ cs) = (digits ++ (pieces cs).1, (pieces cs).2) := by
  induction digits with
  | nil => rfl
  | cons c digits ih =>
    rw [List.cons_append, pieces, ih fun d hd => h d (List.mem_cons_of_mem c hd)]
    exact if_pos (h c List.mem_cons_self)

theorem not_isDigit_of_isLower {c : Char} (h : c.isLower = true) : c.isDigit = false := by
  rw [← Bool.not_eq_true, isDigit_iff]
  rw [isLower_iff] at h
  omega

/-- A text is cut before every character that is no digit. -/
theorem pieces_flatMap {ps : List (Char × List Char)}
    (h : ∀ p ∈ ps, p.1.isDigit = false ∧ ∀ c ∈ p.2, c.isDigit = true) :
    pieces (ps.flatMap fun p => p.1 :: p.2) = ([], ps) := by
  induction ps with
  | nil => rfl
  | cons p ps ih =>
    obtain ⟨hletter, hdigits⟩ := h p List.mem_cons_self
    rw [List.flatMap_cons, List.cons_append, pieces, pieces_append_digits hdigits,
      ih fun q hq => h q (List.mem_cons_of_mem p hq)]
    simp [hletter]

/-- The pieces of a text make it up. -/
theorem pieces_flatten (cs : List Char) :
    (pieces cs).1 ++ (pieces cs).2.flatMap (fun piece => piece.1 :: piece.2) = cs := by
  induction cs with
  | nil => rfl
  | cons c cs ih =>
    rw [pieces]
    dsimp only
    split
    · rw [List.cons_append, ih]
    · rw [List.flatMap_cons, List.nil_append, List.cons_append, ih]

/-- Segments in a row are told apart by their letters. -/
theorem exists_pieces {parts : List (List Char)} (h : List.Forall₂ Spells parts segments) :
    ∃ ps : List (Char × List Char), parts = ps.map (fun p => p.1 :: p.2) ∧
      (∀ p ∈ ps, p.1.isDigit = false ∧ ∀ c ∈ p.2, c.isDigit = true) ∧
      List.Forall₂ (fun p s => ofParts? p.1 p.2 = some s) ps segments := by
  induction h with
  | nil => exact ⟨[], rfl, List.forall_mem_nil _, .nil⟩
  | @cons part s parts segments hpart _ ih =>
    obtain ⟨ps, rfl, hps, hread⟩ := ih
    obtain ⟨digits, rfl, hletter, hdecimal⟩ := hpart
    refine ⟨(s.letter, digits) :: ps, rfl, List.forall_mem_cons.2 ⟨?_, hps⟩, .cons ?_ hread⟩
    · exact ⟨not_isDigit_of_isLower hletter, hdecimal.isDigit⟩
    · exact ofParts?_eq_some_iff.2 ⟨digits, rfl, hletter, hdecimal⟩

/-- Exactly the texts of segments in a row are read, as the segments that they spell. -/
theorem ofChars?_eq_some_iff : ofChars? cs = some segments ↔ InRow Spells cs segments := by
  constructor
  · intro h
    unfold ofChars? at h
    split at h
    · rename_i p ps hpieces
      have hparts := mapM_eq_some_iff.1 h
      refine ⟨?_, (p :: ps).map fun p => p.1 :: p.2, ?_, ?_⟩
      · rintro rfl
        cases hparts
      · have hcs := pieces_flatten cs
        rw [hpieces, List.nil_append] at hcs
        rw [← List.flatMap_def, hcs]
      · rw [List.forall₂_map_left_iff]
        exact hparts.imp fun _ _ => ofParts?_eq_some_iff.1
    · cases h
  · rintro ⟨hne, parts, rfl, hparts⟩
    obtain ⟨ps, rfl, hps, hread⟩ := exists_pieces hparts
    rw [ofChars?, ← List.flatMap_def, pieces_flatMap hps]
    cases ps with
    | nil =>
      cases hread
      exact absurd rfl hne
    | cons p ps => exact mapM_eq_some_iff.2 hread

theorem inRow_toChars {one : List Char → Segment → Prop} (h : ∀ s ∈ segments, one s.toChars s)
    (hne : segments ≠ []) : InRow one (segments.flatMap toChars) segments := by
  refine ⟨hne, segments.map toChars, List.flatMap_def .., ?_⟩
  rw [List.forall₂_map_left_iff]
  exact List.forall₂_same.2 h

/-- Segments are spelled with small letters and digits only. -/
theorem InRow.isLower_or_isDigit {c : Char} (h : InRow Spells cs segments) (hc : c ∈ cs) :
    c.isLower = true ∨ c.isDigit = true := by
  obtain ⟨_, parts, rfl, hparts⟩ := h
  obtain ⟨part, hpart, hc⟩ := List.mem_flatten.1 hc
  obtain ⟨s, digits, rfl, hletter, hdecimal⟩ := exists_of_forall₂ hparts part hpart
  rcases List.mem_cons.1 hc with rfl | hc
  · exact .inl hletter
  · exact .inr (hdecimal.isDigit c hc)

/-- A level takes one letter and at most ten digits. -/
theorem length_flatMap_le (segments : List Segment) :
    (segments.flatMap toChars).length ≤ segments.length * 11 := by
  induction segments with
  | nil => exact Nat.le_refl 0
  | cons s segments ih =>
    have hdigits : (decimal s.number.toNat).length ≤ 10 :=
      (Nat.length_toDigits_le_iff (by decide) (by decide)).2
        (Nat.lt_trans s.number.toNat_lt (by decide))
    rw [List.flatMap_cons, List.length_append, toChars, List.length_cons, List.length_cons]
    omega

end Segment

/-! ## Locations -/

namespace Xname

variable {x : Xname} {c : Char} {s : String} {segments : List Segment}

/-! ### Segments with a kind -/

theorem isLower_of_mem_segments {s : Segment} (h : s ∈ x.segments) : s.letter.isLower = true :=
  Kind.isLower_of_mem_shape (x.shape_eq ▸ List.mem_map_of_mem h)

theorem length_segments (x : Xname) : x.segments.length = x.kind.shape.length := by
  rw [← x.shape_eq, List.length_map]

theorem segments_ne_nil (x : Xname) : x.segments ≠ [] := by
  intro h
  have := x.shape_eq
  rw [h] at this
  exact x.kind.shape_ne_nil this.symm

theorem ofSegments?_eq_some_iff : ofSegments? segments = some x ↔ x.segments = segments := by
  constructor
  · intro h
    unfold ofSegments? at h
    split at h
    · cases h
    · cases h
      rfl
  · rintro rfl
    have hkind : Kind.ofShape? (x.segments.map Segment.letter) = some x.kind := by
      rw [x.shape_eq, Kind.ofShape?_shape]
    unfold ofSegments?
    split
    · rename_i hnone
      rw [hkind] at hnone
      cases hnone
    · rename_i kind hsome
      rw [hkind] at hsome
      cases hsome
      rfl

theorem ofSegments?_segments (x : Xname) : ofSegments? x.segments = some x :=
  ofSegments?_eq_some_iff.2 rfl

theorem ofSegments?_eq_none_iff :
    ofSegments? segments = none ↔ ∀ k : Kind, k.shape ≠ segments.map Segment.letter := by
  constructor
  · intro hnone k hshape
    have hsome : ofSegments? segments = some ⟨segments, k, hshape.symm⟩ :=
      ofSegments?_eq_some_iff.2 rfl
    rw [hnone] at hsome
    cases hsome
  · intro hnot
    rw [Option.eq_none_iff_forall_ne_some]
    intro x hx
    rw [ofSegments?_eq_some_iff] at hx
    exact hnot x.kind (by rw [← x.shape_eq, hx])

/-- The segments of a location are all of it. -/
theorem segments_injective {y : Xname} (h : x.segments = y.segments) : x = y := by
  have hx := x.ofSegments?_segments
  rw [h, ofSegments?_segments] at hx
  exact (Option.some.inj hx).symm

/-! ### Reading -/

/-- A text as it is read: without the blanks around it and in small letters. -/
def folded (s : String) : List Char := (trimChars s.toList).map Char.toLower

theorem parse_of_none (h : Segment.ofChars? (folded s) = none) :
    parse s = .error (.malformed s) := by
  unfold folded at h
  rw [parse, h]

theorem parse_of_unknown (h : Segment.ofChars? (folded s) = some segments)
    (hkind : ofSegments? segments = none) : parse s = .error (.unknownType s) := by
  unfold folded at h
  rw [parse, h]
  simp only [hkind]

theorem parse_of_known (h : Segment.ofChars? (folded s) = some segments)
    (hkind : ofSegments? segments = some x) : parse s = .ok x := by
  unfold folded at h
  rw [parse, h]
  simp only [hkind]

/-- Exactly the texts that spell the segments of a location are read as it. -/
theorem parse_eq_ok_iff : parse s = .ok x ↔ Segment.InRow Segment.Spells (folded s) x.segments := by
  rw [← Segment.ofChars?_eq_some_iff]
  cases hread : Segment.ofChars? (folded s) with
  | none => simp [parse_of_none hread]
  | some segments =>
    rw [Option.some.injEq, eq_comm (a := segments), ← ofSegments?_eq_some_iff]
    cases hkind : ofSegments? segments with
    | none => simp [parse_of_unknown hread hkind]
    | some y => simp [parse_of_known hread hkind]

theorem isLower_or_isDigit_of_parse (h : parse s = .ok x) (hc : c ∈ folded s) :
    c.isLower = true ∨ c.isDigit = true :=
  (parse_eq_ok_iff.1 h).isLower_or_isDigit hc

/-! ### Writing -/

theorem inRow_text_of {one : List Char → Segment → Prop}
    (h : ∀ s, s.letter.isLower = true → one s.toChars s) (x : Xname) :
    Segment.InRow one x.text.toList x.segments := by
  rw [text, String.toList_ofList]
  exact Segment.inRow_toChars (fun s hs => h s (isLower_of_mem_segments hs)) x.segments_ne_nil

/-- The text spells the segments. -/
theorem inRow_text (x : Xname) : Segment.InRow Segment.Spells x.text.toList x.segments :=
  inRow_text_of (fun _ => Segment.spells_toChars) x

/-- The text is made of small letters and digits. -/
theorem isLower_or_isDigit_of_mem_text (h : c ∈ x.text.toList) :
    c.isLower = true ∨ c.isDigit = true :=
  x.inRow_text.isLower_or_isDigit h

theorem isAlphanum_of_mem_text (h : c ∈ x.text.toList) : c.isAlphanum = true :=
  isAlphanum_iff.2 (Or.inr (isLower_or_isDigit_of_mem_text h))

theorem toLower_of_mem_text (h : c ∈ x.text.toList) : c.toLower = c := by
  apply toLower_eq_self
  have hsmall := isLower_or_isDigit_of_mem_text h
  rw [isLower_iff, isDigit_iff] at hsmall
  rw [← Bool.not_eq_true, isUpper_iff]
  omega

theorem map_toLower_text (x : Xname) : x.text.toList.map Char.toLower = x.text.toList :=
  (List.map_congr_left fun _ => toLower_of_mem_text).trans (List.map_id _)

theorem isBlank_of_mem_text : ∀ c ∈ x.text.toList, isBlank c = false :=
  fun _ h => isBlank_of_isAlphanum (isAlphanum_of_mem_text h)

theorem folded_text (x : Xname) : folded x.text = x.text.toList := by
  rw [folded, trimChars_eq_self_of_forall isBlank_of_mem_text, map_toLower_text]

/-- A location is read back from its text. -/
theorem parse_text (x : Xname) : parse x.text = .ok x := by
  rw [parse_eq_ok_iff, folded_text]
  exact x.inRow_text

/-- The text starts with the letter of the outermost level. -/
theorem exists_head_text (x : Xname) : ∃ c, x.text.toList.head? = some c ∧ c.isLower = true := by
  rw [text, String.toList_ofList]
  cases hsegments : x.segments with
  | nil => exact absurd hsegments x.segments_ne_nil
  | cons s segments =>
    refine ⟨s.letter, rfl, isLower_of_mem_segments (x := x) ?_⟩
    rw [hsegments]
    exact List.mem_cons_self

theorem nonBlank_text (x : Xname) : nonBlank (some x.text) = some x.text := by
  obtain ⟨c, hc, _⟩ := x.exists_head_text
  have hne : x.text.toList ≠ [] := List.ne_nil_of_mem (List.mem_of_mem_head? hc)
  exact nonBlank_eq_some (.of_forall hne isBlank_of_mem_text)

theorem length_text_le (x : Xname) : x.text.toList.length ≤ x.kind.shape.length * 11 := by
  rw [text, String.toList_ofList, ← length_segments]
  exact Segment.length_flatMap_le x.segments

end Xname

end Inventory
