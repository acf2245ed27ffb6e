-- The way from a location to its cabinet. Every beginning of a shape is a shape,
-- so each step up leaves out the last segment and nothing else, and the steps end
-- at the first segment, which is always a cabinet. A step can also be taken on the
-- text alone, which is read, cut and read again.
import Mathlib.Data.List.Basic
import Inventory.Proofs.LocationGrammar

namespace Inventory

/-! ## Shapes -/

namespace Kind

/-- A shape without its last letter is a shape, unless it was the only one. -/
theorem exists_shape_dropLast {k : Kind} (h : 2 ≤ k.shape.length) :
    ∃ outer : Kind, outer.shape = k.shape.dropLast := by
  cases k with
  | cabinet => exact absurd h (by decide)
  | cabinetBMC | cabinetPDUController | chassis => exact ⟨.cabinet, rfl⟩
  | cabinetPDU => exact ⟨.cabinetPDUController, rfl⟩
  | cabinetPDUOutlet => exact ⟨.cabinetPDU, rfl⟩
  | chassisBMC | computeModule | routerModule => exact ⟨.chassis, rfl⟩
  | nodeBMC | nodeEnclosure => exact ⟨.computeModule, rfl⟩
  | node => exact ⟨.nodeBMC, rfl⟩
  | memory | processor => exact ⟨.node, rfl⟩
  | routerBMC | hsnBoard => exact ⟨.routerModule, rfl⟩

theorem take_one_shape (k : Kind) : k.shape.take 1 = cabinet.shape := by cases k <;> rfl

end Kind

namespace Xname

variable {x p a : Xname} {n : Nat}

/-! ## One step up -/

/-- A step up leaves out the last segment. -/
theorem parent?_eq_some_iff : x.parent? = some p ↔ p.segments = x.segments.dropLast :=
  ofSegments?_eq_some_iff

theorem exists_parent (h : 2 ≤ x.segments.length) : ∃ p, x.parent? = some p := by
  rw [length_segments] at h
  obtain ⟨k, hk⟩ := Kind.exists_shape_dropLast h
  refine ⟨⟨x.segments.dropLast, k, ?_⟩, parent?_eq_some_iff.2 rfl⟩
  rw [hk, ← x.shape_eq, List.map_dropLast]

theorem length_segments_pos (x : Xname) : 0 < x.segments.length :=
  List.length_pos_iff.2 x.segments_ne_nil

theorem parent?_eq_none_iff : x.parent? = none ↔ x.segments.length = 1 := by
  constructor
  · intro hnone
    have hpos := x.length_segments_pos
    by_contra hne
    obtain ⟨p, hp⟩ := exists_parent (x := x) (by omega)
    rw [hnone] at hp
    cases hp
  · intro hone
    rw [Option.eq_none_iff_forall_ne_some]
    intro p hp
    have hlength := congrArg List.length (parent?_eq_some_iff.1 hp)
    have hpos := p.length_segments_pos
    rw [List.length_dropLast] at hlength
    omega

/-- The text of a component is the text of the one around it, and its own segment. -/
theorem text_of_parent? (h : x.parent? = some p) :
    ∃ last, x.segments = p.segments ++ [last] ∧ x.text = p.text ++ String.ofList last.toChars := by
  obtain ⟨last, hsegments⟩ : ∃ last, x.segments = p.segments ++ [last] :=
    ⟨x.segments.getLast x.segments_ne_nil,
      by rw [parent?_eq_some_iff.1 h, List.dropLast_append_getLast]⟩
  refine ⟨last, hsegments, ?_⟩
  rw [text, hsegments, List.flatMap_append, String.ofList_append, List.flatMap_singleton, text]

theorem ne_text_of_parent? (h : x.parent? = some p) : p.text ≠ x.text := by
  intro heq
  have hlength := congrArg List.length (parent?_eq_some_iff.1 h)
  rw [text_injective heq, List.length_dropLast] at hlength
  have hpos := x.length_segments_pos
  omega

/-- The kind of the component around one is that of the shape without its last letter. -/
theorem ofShape?_dropLast_of_parent? (h : x.parent? = some p) :
    Kind.ofShape? x.kind.shape.dropLast = some p.kind := by
  rw [← x.shape_eq, ← List.map_dropLast, ← parent?_eq_some_iff.1 h, p.shape_eq,
    Kind.ofShape?_shape]

/-! ## A step on the text -/

/-- The component around the one that a text names, found from the text alone: the last of its
segments is left out, and what is left is written and read again. Anything that fails is no
component. -/
def parentOfText? (id : String) : Option Xname :=
  match Segment.ofChars? (folded id) with
  | none => none
  | some segments =>
    if segments.dropLast.isEmpty then none
    else (parse (String.ofList (segments.dropLast.flatMap Segment.toChars))).toOption

/-- Nothing fails on the text of a location but the step out of a cabinet. -/
theorem parentOfText?_text (x : Xname) : parentOfText? x.text = x.parent? := by
  have hread : Segment.ofChars? (folded x.text) = some x.segments :=
    Segment.ofChars?_eq_some_iff.2 (parse_eq_ok_iff.1 x.parse_text)
  rw [parentOfText?, hread]
  cases hp : x.parent? with
  | none =>
    have hone := parent?_eq_none_iff.1 hp
    have hnil : x.segments.dropLast = [] := by
      rw [← List.length_eq_zero_iff, List.length_dropLast, hone]
    simp [hnil]
  | some p =>
    have hwritten : (parse p.text).toOption = some p := by rw [p.parse_text]; rfl
    simp only [← parent?_eq_some_iff.1 hp, List.isEmpty_iff, if_neg p.segments_ne_nil]
    exact hwritten

/-! ## All steps up -/

/-- The component so many steps up. -/
def ancestor? : Nat → Xname → Option Xname
  | 0, x => some x
  | n + 1, x => x.parent?.bind (ancestor? n)

/-- Each step up leaves out one segment more. -/
theorem ancestor?_eq_some_iff :
    x.ancestor? n = some a ↔ a.segments = x.segments.take (x.segments.length - n) := by
  induction n generalizing x with
  | zero =>
    rw [ancestor?, Nat.sub_zero, List.take_length, Option.some.injEq]
    exact ⟨fun h => h ▸ rfl, fun h => (segments_injective h).symm⟩
  | succ n ih =>
    have hstep (p : Xname) (hp : x.parent? = some p) :
        p.segments.take (p.segments.length - n) =
          x.segments.take (x.segments.length - (n + 1)) := by
      rw [parent?_eq_some_iff.1 hp, List.length_dropLast, List.dropLast_eq_take, List.take_take]
      exact congrArg (x.segments.take ·) (by omega)
    rw [ancestor?, Option.bind_eq_some_iff]
    constructor
    · rintro ⟨p, hp, ha⟩
      rw [ih.1 ha, hstep p hp]
    · intro ha
      have hpos := a.length_segments_pos
      rw [ha, List.length_take] at hpos
      obtain ⟨p, hp⟩ := exists_parent (x := x) (by omega)
      exact ⟨p, hp, ih.2 (ha.trans (hstep p hp).symm)⟩

/-- One step short of all, only the first segment is left, and it is a cabinet. -/
theorem exists_cabinet (x : Xname) :
    ∃ first c, x.segments.head? = some first ∧ x.ancestor? (x.segments.length - 1) = some c ∧
      c.segments = [first] ∧ c.kind = .cabinet := by
  obtain ⟨first, rest, hsegments⟩ := List.exists_cons_of_ne_nil x.segments_ne_nil
  have hshape : [first].map Segment.letter = Kind.cabinet.shape := by
    rw [← x.kind.take_one_shape, ← x.shape_eq, hsegments]
    rfl
  refine ⟨first, ⟨[first], .cabinet, hshape⟩, by rw [hsegments]; rfl, ?_, rfl, rfl⟩
  rw [ancestor?_eq_some_iff, hsegments]
  simp

/-- A location of one segment sits in nothing. Any other sits in the location whose text leaves out
the last segment, a shorter text that it starts with, and whose kind is that of the shape so
shortened. One step less than there are segments leads to the cabinet that the first segment names.
The step on the text alone is the same step. -/
theorem parents_reach_cabinet (x : Xname) :
    (x.parent? = none ↔ x.segments.length = 1) ∧
    (x.segments.length ≠ 1 → ∃ p last, x.parent? = some p ∧
      x.segments = p.segments ++ [last] ∧ x.text = p.text ++ String.ofList last.toChars ∧
      p.text ≠ x.text ∧ Kind.ofShape? x.kind.shape.dropLast = some p.kind) ∧
    (∃ first c, x.segments.head? = some first ∧ x.ancestor? (x.segments.length - 1) = some c ∧
      c.kind = .cabinet ∧ c.text = String.ofList first.toChars) ∧
    parentOfText? x.text = x.parent? := by
  refine ⟨parent?_eq_none_iff, fun hmany => ?_, ?_, x.parentOfText?_text⟩
  · obtain ⟨p, hp⟩ := Option.ne_none_iff_exists'.1 (mt parent?_eq_none_iff.1 hmany)
    obtain ⟨last, hsegments, htext⟩ := text_of_parent? hp
    exact ⟨p, last, hp, hsegments, htext, ne_text_of_parent? hp, ofShape?_dropLast_of_parent? hp⟩
  · obtain ⟨first, c, hfirst, hc, hsegments, hkind⟩ := x.exists_cabinet
    refine ⟨first, c, hfirst, hc, hkind, ?_⟩
    rw [text, hsegments, List.flatMap_singleton]

theorem parents_reach_cabinet_memory :
    ∃ x p c, parse "x0c0s0b0n0d3" = .ok x ∧ x.segments.length ≠ 1 ∧
      (x.parent? = some p ∧ p.kind = .node) ∧ x.ancestor? 5 = some c ∧ c.text = "x0" := by
  let x : Xname :=
    ⟨[⟨'x', 0⟩, ⟨'c', 0⟩, ⟨'s', 0⟩, ⟨'b', 0⟩, ⟨'n', 0⟩, ⟨'d', 3⟩], .memory, rfl⟩
  have hx : parse x.text = .ok x := x.parse_text
  have hmany : x.segments.length ≠ 1 := by decide
  obtain ⟨_, hparent, ⟨first, c, hfirst, hc, _, htext⟩, _⟩ := parents_reach_cabinet x
  obtain ⟨p, _, hp, _, _, _, hkind⟩ := hparent hmany
  refine ⟨x, p, c, hx, hmany, ⟨hp, (Option.some.inj hkind).symm⟩, hc, ?_⟩
  obtain rfl : ⟨'x', 0⟩ = first := Option.some.inj hfirst
  exact htext

end Xname

end Inventory
