-- Ids of parts, exactly: when there is one, what it says, and when a substitute
-- stands in for it. Only letters and digits of a field count, so no field has a
-- dot in it, and an id is read back into the fields that it was built from.
import Mathlib.Data.List.Basic
import Inventory.Fru
import Inventory.Proofs.Texts

namespace Inventory.Fru

open Text

variable {type component manufacturer part serial field id fallback : String} {e : Error}
  {size : Nat}

/-! ## What is left of the fields -/

/-- The letters and digits of ASCII in a field, in order. -/
def kept (field : String) : List Char := field.toList.filter Char.isAlphanum

/-- What is left of the fields that have something left. -/
def identity (manufacturer part : String) : List (List Char) :=
  [kept manufacturer, kept part].filter (· ≠ [])

/-- The type, what is left of maker and part number, and of the serial number, with dots between. -/
def idChars (type manufacturer part serial : String) : List Char :=
  ['.'].intercalate (type.toList :: (identity manufacturer part ++ [kept serial]))

def idText (type manufacturer part serial : String) : String :=
  String.ofList (idChars type manufacturer part serial)

theorem alphanumeric_of_nil (h : kept field = []) : alphanumeric field = none := by
  unfold kept at h
  simp [alphanumeric, h]

theorem alphanumeric_of_ne_nil (h : kept field ≠ []) :
    alphanumeric field = some (String.ofList (kept field)) := by
  have hsome : String.ofList (kept field) ≠ "" := by
    rw [ne_eq, ← String.toList_inj, String.toList_ofList]
    exact h
  unfold kept at hsome ⊢
  simp [alphanumeric, hsome]

theorem filterMap_alphanumeric (fields : List String) :
    fields.filterMap alphanumeric = ((fields.map kept).filter (· ≠ [])).map String.ofList := by
  induction fields with
  | nil => rfl
  | cons field fields ih =>
    by_cases h : kept field = []
    · simp [alphanumeric_of_nil h, h, ih]
    · simp [alphanumeric_of_ne_nil h, h, ih]

theorem identity_eq_nil_iff :
    identity manufacturer part = [] ↔ kept manufacturer = [] ∧ kept part = [] := by
  simp [identity, List.filter_eq_nil_iff]

theorem ofList_intercalate (mark : Char) (parts : List (List Char)) :
    String.ofList ([mark].intercalate parts) =
      (String.singleton mark).intercalate (parts.map String.ofList) := by
  have hinverse : String.toList ∘ String.ofList = id := funext fun _ => String.toList_ofList
  rw [← String.toList_inj, String.toList_ofList, String.toList_intercalate, List.map_map, hinverse,
    List.map_id, String.toList_singleton]

theorem intercalate_identity (type manufacturer part serial : String) :
    ".".intercalate (type :: (identity manufacturer part).map String.ofList ++
      [String.ofList (kept serial)]) = idText type manufacturer part serial := by
  unfold idText idChars
  rw [ofList_intercalate]
  simp only [List.map_cons, List.map_append, List.map_nil, String.ofList_toList]
  rfl

/-- An id, or the first reason why there is none. -/
theorem build_eq (type component manufacturer part serial : String) :
    build type component manufacturer part serial =
      if kept serial = [] then .error (.missingSerial ("FRUIDfor" ++ component))
      else if identity manufacturer part = [] then
        .error (.missingIdentity ("FRUIDfor" ++ component))
      else if 255 < (idText type manufacturer part serial).utf8ByteSize then
        .error (.tooLong (idText type manufacturer part serial).utf8ByteSize
          ("FRUIDfor" ++ component))
      else .ok (idText type manufacturer part serial) := by
  unfold build
  by_cases hserial : kept serial = []
  · rw [alphanumeric_of_nil hserial, if_pos hserial]
    rfl
  have hfields : [manufacturer, part].filterMap alphanumeric =
      (identity manufacturer part).map String.ofList := filterMap_alphanumeric _
  rw [alphanumeric_of_ne_nil hserial, if_neg hserial, hfields,
    ← intercalate_identity type manufacturer part serial]
  cases identity manufacturer part <;> rfl

/-! ## Each way to end -/

theorem build_eq_missingSerial_iff :
    build type component manufacturer part serial = .error (.missingSerial fallback) ↔
      kept serial = [] ∧ fallback = "FRUIDfor" ++ component := by
  rw [build_eq]
  split_ifs <;> grind

theorem build_eq_missingIdentity_iff :
    build type component manufacturer part serial = .error (.missingIdentity fallback) ↔
      kept serial ≠ [] ∧ (kept manufacturer = [] ∧ kept part = []) ∧
        fallback = "FRUIDfor" ++ component := by
  rw [build_eq, ← identity_eq_nil_iff]
  split_ifs <;> grind

theorem build_eq_tooLong_iff :
    build type component manufacturer part serial = .error (.tooLong size fallback) ↔
      kept serial ≠ [] ∧ ¬ (kept manufacturer = [] ∧ kept part = []) ∧
        255 < (idText type manufacturer part serial).utf8ByteSize ∧
        size = (idText type manufacturer part serial).utf8ByteSize ∧
        fallback = "FRUIDfor" ++ component := by
  rw [build_eq, ← identity_eq_nil_iff]
  split_ifs <;> grind

theorem build_eq_ok_iff :
    build type component manufacturer part serial = .ok id ↔
      kept serial ≠ [] ∧ ¬ (kept manufacturer = [] ∧ kept part = []) ∧
        (idText type manufacturer part serial).utf8ByteSize ≤ 255 ∧
        id = idText type manufacturer part serial := by
  rw [build_eq, ← identity_eq_nil_iff]
  split_ifs <;> grind

theorem fallback_of_error (h : build type component manufacturer part serial = .error e) :
    e.fallback = "FRUIDfor" ++ component := by
  cases e with
  | missingSerial _ => exact (build_eq_missingSerial_iff.1 h).2
  | missingIdentity _ => exact (build_eq_missingIdentity_iff.1 h).2.2
  | tooLong _ _ => exact (build_eq_tooLong_iff.1 h).2.2.2.2

/-- A field counts for what is left of it. -/
theorem build_congr {manufacturer' part' serial' : String}
    (hmanufacturer : kept manufacturer' = kept manufacturer) (hpart : kept part' = kept part)
    (hserial : kept serial' = kept serial) :
    build type component manufacturer' part' serial' =
      build type component manufacturer part serial := by
  have hidentity : identity manufacturer' part' = identity manufacturer part := by
    rw [identity, identity, hmanufacturer, hpart]
  have htext : idText type manufacturer' part' serial' = idText type manufacturer part serial := by
    rw [idText, idText, idChars, idChars, hidentity, hserial]
  rw [build_eq, build_eq, hserial, hidentity, htext]

/-- The serial number has to be there, then the maker or the part number, and then the id has to fit
into 255 bytes. Where any of this fails, the error says so and has the substitute, which also stands
in for the id. What is no letter or digit in a field does not count. -/
theorem ids_exact (type component manufacturer part serial : String) :
    (∀ fallback, build type component manufacturer part serial = .error (.missingSerial fallback) ↔
      kept serial = [] ∧ fallback = "FRUIDfor" ++ component) ∧
    (∀ fallback, build type component manufacturer part serial =
        .error (.missingIdentity fallback) ↔
      kept serial ≠ [] ∧ (kept manufacturer = [] ∧ kept part = []) ∧
        fallback = "FRUIDfor" ++ component) ∧
    (∀ size fallback, build type component manufacturer part serial =
        .error (.tooLong size fallback) ↔
      kept serial ≠ [] ∧ ¬ (kept manufacturer = [] ∧ kept part = []) ∧
        255 < (idText type manufacturer part serial).utf8ByteSize ∧
        size = (idText type manufacturer part serial).utf8ByteSize ∧
        fallback = "FRUIDfor" ++ component) ∧
    (∀ id, build type component manufacturer part serial = .ok id ↔
      kept serial ≠ [] ∧ ¬ (kept manufacturer = [] ∧ kept part = []) ∧
        (idText type manufacturer part serial).utf8ByteSize ≤ 255 ∧
        id = idText type manufacturer part serial) ∧
    (∀ e, build type component manufacturer part serial = .error e →
      e.fallback = "FRUIDfor" ++ component ∧
        orSubstitute (build type component manufacturer part serial) = "FRUIDfor" ++ component) ∧
    ∀ manufacturer' part' serial', kept manufacturer' = kept manufacturer →
      kept part' = kept part → kept serial' = kept serial →
      build type component manufacturer' part' serial' =
        build type component manufacturer part serial := by
  refine ⟨fun _ => build_eq_missingSerial_iff, fun _ => build_eq_missingIdentity_iff,
    fun _ _ => build_eq_tooLong_iff, fun _ => build_eq_ok_iff, ?_, ?_⟩
  · intro e he
    have hfallback := fallback_of_error he
    rw [he]
    exact ⟨hfallback, hfallback⟩
  · intro manufacturer' part' serial' hmanufacturer hpart hserial
    exact build_congr hmanufacturer hpart hserial

theorem ids_exact_dots :
    orSubstitute (build "Node" "x0c0s0b0n0" "Intel Corporation" "...." "....") =
        "FRUIDforx0c0s0b0n0" ∧
      build "Node" "x0c0s0b0n0" "  HPE " "..." "SN-0001" = .ok "Node.HPE.SN0001" := by
  obtain ⟨hserial, _, _, _, hsubstitute, _⟩ :=
    ids_exact "Node" "x0c0s0b0n0" "Intel Corporation" "...." "...."
  obtain ⟨_, _, _, _, _, hsame⟩ := ids_exact "Node" "x0c0s0b0n0" "HPE" "" "SN0001"
  refine ⟨(hsubstitute _ ((hserial _).2 ⟨by decide +kernel, rfl⟩)).2, ?_⟩
  rw [hsame "  HPE " "..." "SN-0001" (by decide +kernel) (by decide +kernel) (by decide +kernel)]
  decide +kernel

/-! ## Different parts -/

section

variable {type' component' manufacturer' part' serial' id' : String}

theorem dot_not_mem_kept (field : String) : '.' ∉ kept field := by
  intro hdot
  cases (List.mem_filter.1 hdot).2

/-- No piece of an id has a dot in it. -/
theorem dot_not_mem_of_mem_pieces (htype : '.' ∉ type.toList) :
    ∀ piece ∈ type.toList :: (identity manufacturer part ++ [kept serial]), '.' ∉ piece := by
  have hidentity : ∀ piece ∈ identity manufacturer part, '.' ∉ piece := by
    intro piece hpiece
    have hfield := List.mem_of_mem_filter hpiece
    simp only [List.mem_cons, List.not_mem_nil, or_false] at hfield
    rcases hfield with rfl | rfl <;> exact dot_not_mem_kept _
  rw [List.forall_mem_cons, List.forall_mem_append, List.forall_mem_singleton]
  exact ⟨htype, hidentity, dot_not_mem_kept serial⟩

/-- A text is cut at its dots into the pieces that it was joined from. -/
theorem idText_inj (htype : '.' ∉ type.toList) (htype' : '.' ∉ type'.toList) :
    idText type manufacturer part serial = idText type' manufacturer' part' serial' ↔
      type = type' ∧ kept serial = kept serial' ∧
        identity manufacturer part = identity manufacturer' part' := by
  unfold idText idChars
  rw [String.ofList_inj, intercalate_inj (List.cons_ne_nil _ _) (List.cons_ne_nil _ _)
    (dot_not_mem_of_mem_pieces htype) (dot_not_mem_of_mem_pieces htype'), List.cons.injEq,
    String.toList_inj]
  -- The serial number is the last piece, whether there are three or four.
  have hlast : identity manufacturer part ++ [kept serial] =
      identity manufacturer' part' ++ [kept serial'] ↔
        kept serial = kept serial' ∧ identity manufacturer part = identity manufacturer' part' := by
    constructor
    · intro h
      obtain ⟨hidentity, hserial⟩ := List.append_inj' h rfl
      exact ⟨(List.cons.inj hserial).1, hidentity⟩
    · rintro ⟨hserial, hidentity⟩
      rw [hserial, hidentity]
  rw [hlast]

/-- Two ids are the same just if their types are, and what is left of their serial numbers, and what
is left of makers and part numbers, one after the other. -/
theorem ids_tell_parts_apart (htype : '.' ∉ type.toList) (htype' : '.' ∉ type'.toList)
    (h : build type component manufacturer part serial = .ok id)
    (h' : build type' component' manufacturer' part' serial' = .ok id') :
    id = id' ↔ type = type' ∧ kept serial = kept serial' ∧
      [kept manufacturer, kept part].filter (· ≠ []) =
        [kept manufacturer', kept part'].filter (· ≠ []) := by
  rw [(build_eq_ok_iff.1 h).2.2.2, (build_eq_ok_iff.1 h').2.2.2]
  exact idText_inj htype htype'

theorem ids_tell_parts_apart_slid :
    ∃ id id', build "Node" "x0c0s0b0n0" "Intel" "" "S-1" = .ok id ∧
      build "Node" "x0c0s0b0n1" "" "In tel" "S1" = .ok id' ∧ id = id' := by
  have h : build "Node" "x0c0s0b0n0" "Intel" "" "S-1" = .ok "Node.Intel.S1" := by decide +kernel
  have h' : build "Node" "x0c0s0b0n1" "" "In tel" "S1" = .ok "Node.Intel.S1" := by decide +kernel
  exact ⟨_, _, h, h', (ids_tell_parts_apart (by decide) (by decide) h h').2
    ⟨rfl, by decide +kernel, by decide +kernel⟩⟩

/-- What stands behind a dot in a type is taken for a maker. -/
example : build "Node.Intel" "x0c0s0b0n0" "P1" "" "S1" =
    build "Node" "x0c0s0b0n0" "Intel" "P1" "S1" := by
  decide +kernel

end

end Inventory.Fru
