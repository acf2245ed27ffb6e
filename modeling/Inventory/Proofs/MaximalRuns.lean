-- The runs of a name, told from all other pieces of it. They make up the name, each
-- is of one kind and the next is of the other, and nothing else is so. Taken off the
-- front one by one, by their sizes in bytes, they leave nothing in the end.
import Inventory.Proofs.NameRuns

namespace Inventory.NaturalOrder

open Text

variable {digits : Bool} {c : Char} {cs front back piece : List Char}
  {pieces : List (List Char)}

/-! ## Pieces of one kind -/

/-- Digits only, or no digit at all. -/
def OfKind (digits : Bool) (piece : List Char) : Prop := ∀ c ∈ piece, c.isDigit = digits

theorem ofKind_of_isChain (h : (c :: cs).IsChain (sameKind · ·)) :
    OfKind c.isDigit (c :: cs) := by
  induction cs generalizing c with
  | nil => exact List.forall_mem_singleton.2 rfl
  | cons d cs ih =>
    obtain ⟨hsame, hrest⟩ := List.isChain_cons_cons.1 h
    have hkind : c.isDigit = d.isDigit := beq_iff_eq.1 hsame
    exact List.forall_mem_cons.2 ⟨rfl, hkind ▸ ih hrest⟩

theorem isChain_sameKind_iff :
    piece.IsChain (sameKind · ·) ↔ ∃ digits, OfKind digits piece := by
  constructor
  · intro h
    cases piece with
    | nil => exact ⟨true, List.forall_mem_nil _⟩
    | cons c cs => exact ⟨c.isDigit, ofKind_of_isChain h⟩
  · rintro ⟨digits, hkind⟩
    apply List.Pairwise.isChain
    apply List.pairwise_of_forall_mem_list
    intro c hc d hd
    exact beq_iff_eq.2 ((hkind c hc).trans (hkind d hd).symm)

/-- Two pieces of one kind each are of different kinds where they differ in kind where they
meet. -/
theorem differ_iff {a b : List Char} (ha : a ≠ []) (hb : b ≠ []) (hkind : ∃ k, OfKind k a)
    (hkind' : ∃ k, OfKind k b) :
    (∃ ha hb, sameKind (a.getLast ha) (b.head hb) = false) ↔
      ∃ digits, OfKind digits a ∧ OfKind (!digits) b := by
  constructor
  · rintro ⟨ha, hb, hdiffer⟩
    obtain ⟨k, hk⟩ := hkind
    obtain ⟨k', hk'⟩ := hkind'
    have hne : k ≠ k' := by
      rw [← hk _ (List.getLast_mem ha), ← hk' _ (List.head_mem hb)]
      exact beq_eq_false_iff_ne.1 hdiffer
    refine ⟨k, hk, ?_⟩
    rwa [Bool.not_eq.2 hne]
  · rintro ⟨digits, hdigits, hother⟩
    refine ⟨ha, hb, beq_eq_false_iff_ne.2 ?_⟩
    rw [hdigits _ (List.getLast_mem ha), hother _ (List.head_mem hb)]
    exact (Bool.not_ne_self digits).symm

/-! ## Decompositions -/

/-- Pieces of a text that make it up, that are of one kind each, and of which each is as long as
its kind goes on. -/
structure Decomposes (pieces : List (List Char)) (cs : List Char) : Prop where
  joined : pieces.flatten = cs
  nonempty : ∀ piece ∈ pieces, piece ≠ []
  oneKind : ∀ piece ∈ pieces, ∃ digits, OfKind digits piece
  alternates : pieces.IsChain fun a b => ∃ digits, OfKind digits a ∧ OfKind (!digits) b

theorem decomposes_iff : Decomposes pieces cs ↔ pieces = runs cs := by
  rw [runs_eq_splitBy, eq_comm (a := pieces), List.splitBy_eq_iff]
  constructor
  · rintro ⟨hjoined, hne, hkind, halternates⟩
    refine ⟨hjoined.symm, fun h => hne [] h rfl, fun piece h => ?_, ?_⟩
    · exact isChain_sameKind_iff.2 (hkind piece h)
    · refine halternates.imp_of_mem_imp fun a b ha hb => ?_
      exact (differ_iff (hne a ha) (hne b hb) (hkind a ha) (hkind b hb)).2
  · rintro ⟨hjoined, hnil, hchain, halternates⟩
    have hne (piece : List Char) (h : piece ∈ pieces) : piece ≠ [] := fun he => hnil (he ▸ h)
    have hkind (piece : List Char) (h : piece ∈ pieces) : ∃ digits, OfKind digits piece :=
      isChain_sameKind_iff.1 (hchain piece h)
    refine ⟨hjoined.symm, hne, hkind, ?_⟩
    refine halternates.imp_of_mem_imp fun a b ha hb => ?_
    exact (differ_iff (hne a ha) (hne b hb) (hkind a ha) (hkind b hb)).1

/-! ## Taking runs off a text -/

/-- Cuts a text after a number of bytes, which has to fall between two characters. -/
def cutBytes? : Nat → List Char → Option (List Char × List Char)
  | 0, cs => some ([], cs)
  | _ + 1, [] => none
  | size + 1, c :: cs =>
    if c.utf8Size ≤ size + 1 then
      (cutBytes? (size + 1 - c.utf8Size) cs).map fun p => (c :: p.1, p.2)
    else none

theorem cutBytes?_append (front back : List Char) :
    cutBytes? (utf8Size front) (front ++ back) = some (front, back) := by
  induction front with
  | nil => simp [utf8Size, cutBytes?]
  | cons c front ih =>
    have hpos : 0 < c.utf8Size := Char.utf8Size_pos c
    obtain ⟨size, hsize⟩ : ∃ size, utf8Size (c :: front) = size + 1 :=
      Nat.exists_eq_add_one.2 (Nat.add_pos_left hpos _)
    have hle : c.utf8Size ≤ size + 1 := hsize ▸ Nat.le_add_right ..
    have hrest : size + 1 - c.utf8Size = utf8Size front := by
      rw [← hsize, utf8Size, Nat.add_sub_cancel_left]
    rw [hsize, List.cons_append, cutBytes?, if_pos hle, hrest, ih]
    rfl

/-- Where the run that a text starts with ends: before the first character of the other kind, or
at the end of the text. -/
def firstRunSize : List Char → Nat
  | [] => 0
  | c :: cs => utf8Size ((c :: cs).takeWhile (sameKind c))

/-- Takes the first run off a text until nothing is left. -/
inductive TakesOff : List Char → List (List Char) → Prop
  | done : TakesOff [] []
  | next {cs run rest : List Char} {pieces : List (List Char)} (hne : cs ≠ [])
      (hcut : cutBytes? (firstRunSize cs) cs = some (run, rest)) (h : TakesOff rest pieces) :
      TakesOff cs (run :: pieces)

/-- The cut after the first run never falls within a character. -/
theorem cutBytes?_firstRunSize (c : Char) (cs : List Char) :
    cutBytes? (firstRunSize (c :: cs)) (c :: cs) =
      some ((c :: cs).takeWhile (sameKind c), (c :: cs).dropWhile (sameKind c)) := by
  have hcut := cutBytes?_append ((c :: cs).takeWhile (sameKind c))
    ((c :: cs).dropWhile (sameKind c))
  rwa [List.takeWhile_append_dropWhile] at hcut

theorem ofKind_takeWhile (c : Char) (cs : List Char) :
    OfKind c.isDigit (cs.takeWhile (sameKind c)) := by
  intro d hd
  have hsame : sameKind c d = true := List.mem_takeWhile_imp hd
  exact (beq_iff_eq.1 hsame).symm

theorem runs_of_ofKind (hne : piece ≠ []) (h : OfKind digits piece) : runs piece = [piece] := by
  rw [runs_eq_splitBy]
  exact List.splitBy_of_isChain hne (isChain_sameKind_iff.2 ⟨digits, h⟩)

/-- The first run of a text goes on as long as its kind does, and the others are those of the
rest. -/
theorem runs_cons (c : Char) (cs : List Char) :
    runs (c :: cs) =
      (c :: cs).takeWhile (sameKind c) :: runs ((c :: cs).dropWhile (sameKind c)) := by
  have hself : sameKind c c = true := beq_self_eq_true _
  have hne : (c :: cs).takeWhile (sameKind c) ≠ [] := by
    rw [List.takeWhile_cons_of_pos hself]
    exact List.cons_ne_nil _ _
  have hkind := ofKind_takeWhile c (c :: cs)
  have happend : runs ((c :: cs).takeWhile (sameKind c) ++ (c :: cs).dropWhile (sameKind c)) =
      runs ((c :: cs).takeWhile (sameKind c)) ++ runs ((c :: cs).dropWhile (sameKind c)) := by
    apply runs_append
    intro d hd e he
    have hother := List.head?_dropWhile_not (sameKind c) (c :: cs)
    rw [he] at hother
    rw [hkind d (List.mem_of_mem_getLast? hd)]
    exact beq_eq_false_iff_ne.1 hother
  rw [List.takeWhile_append_dropWhile, runs_of_ofKind hne hkind] at happend
  exact happend

theorem takesOff_runs (cs : List Char) : TakesOff cs (runs cs) := by
  -- What is left after the first run is shorter.
  induction hlength : cs.length using Nat.strongRecOn generalizing cs with
  | ind n ih =>
    cases cs with
    | nil => exact .done
    | cons c cs =>
      have hself : sameKind c c = true := beq_self_eq_true _
      have hshorter : ((c :: cs).dropWhile (sameKind c)).length < n := by
        rw [List.dropWhile_cons_of_pos hself, ← hlength, List.length_cons]
        exact Nat.lt_succ_of_le (List.dropWhile_sublist _).length_le
      rw [runs_cons]
      exact .next (List.cons_ne_nil c cs) (cutBytes?_firstRunSize c cs) (ih _ hshorter _ rfl)

theorem TakesOff.unique {others : List (List Char)} (h : TakesOff cs pieces)
    (h' : TakesOff cs others) : pieces = others := by
  induction h generalizing others with
  | done =>
    cases h' with
    | done => rfl
    | next hne => exact absurd rfl hne
  | next hne hcut _ ih =>
    cases h' with
    | done => exact absurd rfl hne
    | next _ hcut' hrest =>
      obtain ⟨rfl, rfl⟩ := Prod.mk.inj (Option.some.inj (hcut.symm.trans hcut'))
      rw [ih hrest]

/-! ## The runs of a name -/

/-- No text has more runs than characters. -/
theorem Decomposes.length_le (h : Decomposes pieces cs) : pieces.length ≤ cs.length := by
  obtain ⟨rfl, hne, -, -⟩ := h
  induction pieces with
  | nil => exact Nat.le_refl _
  | cons piece pieces ih =>
    rw [List.forall_mem_cons] at hne
    have hfirst : 0 < piece.length := List.length_pos_iff.2 hne.1
    have hrest := ih hne.2
    rw [List.length_cons, List.flatten_cons, List.length_append]
    omega

/-- Taking runs off a name comes to an end, after no more steps than the name has characters, and
gives its runs. These decompose the name, and nothing else does. -/
theorem runs_maximal (name : String) (pieces : List (List Char)) :
    (TakesOff name.toList pieces ↔ pieces = runs name.toList) ∧
      (Decomposes pieces name.toList ↔ pieces = runs name.toList) ∧
      (runs name.toList).length ≤ name.toList.length := by
  refine ⟨⟨fun h => h.unique (takesOff_runs _), ?_⟩, decomposes_iff, ?_⟩
  · rintro rfl
    exact takesOff_runs _
  · exact (decomposes_iff.2 rfl).length_le

/-- The digits of other scripts are no digits here. -/
example : runs "OUTLET02٣b".toList = ["OUTLET".toList, "02".toList, "٣b".toList] := by decide

end Inventory.NaturalOrder
