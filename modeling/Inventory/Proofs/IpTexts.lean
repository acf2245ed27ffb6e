-- IP addresses written and read back. A version 6 text may leave out a run of
-- zero groups or spell its last two groups as octets; either way it stands for
-- the address it was written from. No text stands for addresses of both
-- versions, and none is the name of a host.
import Mathlib.Data.List.Basic
import Inventory.Ip
import Inventory.Proofs.Numerals
import Inventory.Proofs.Texts

namespace Inventory.Ip

open Text

variable {cs front back : List Char} {c : Char} {gs : List UInt16}

/-! ## Version 4 -/

theorem octet?_decimal (o : UInt8) : octet? (decimal o.toNat) = some o := by
  have hzero : ¬ ((decimal o.toNat).head? = some '0' ∧ decimal o.toNat ≠ ['0']) := by
    rintro ⟨hhead, hne⟩
    rw [eq_zero_of_head?_decimal hhead] at hne
    exact hne rfl
  rw [octet?, if_neg hzero, decimalBelow?_decimal o.toNat_lt]
  simp

theorem isDigit_of_octet? {o : UInt8} (h : octet? cs = some o) : cs.all Char.isDigit = true := by
  unfold octet? at h
  split at h
  · cases h
  obtain ⟨n, hn, _⟩ := Option.map_eq_some_iff.1 h
  exact isDigit_of_decimalBelow? hn

namespace V4

variable {a : V4}

theorem ofChars?_toChars (a : V4) : ofChars? a.toChars = some a := by
  have hfree : ∀ part ∈ a.octets.map fun o => decimal o.toNat, '.' ∉ part := by
    intro part hpart hdot
    obtain ⟨o, _, rfl⟩ := List.mem_map.1 hpart
    cases (isDigit_of_mem_decimal hdot : '.'.isDigit = true)
  have hne : (a.octets.map fun o => decimal o.toNat) ≠ [] := by
    intro hnil
    have := a.length_eq
    rw [List.map_eq_nil_iff.1 hnil] at this
    cases this
  rw [ofChars?, toChars, List.splitOn_intercalate '.' hfree hne,
    mapM_map_eq_some fun o _ => octet?_decimal o]
  simp [a.length_eq]

/-- Every piece of a text that is read is a number. -/
theorem isDigit_of_ofChars? (h : ofChars? cs = some a) :
    ∀ part ∈ cs.splitOn '.', part.all Char.isDigit = true := by
  simp only [ofChars?, Option.bind_eq_bind, Option.bind_eq_some_iff] at h
  obtain ⟨octets, hoctets, _⟩ := h
  intro part hpart
  obtain ⟨o, ho⟩ := exists_of_forall₂ (mapM_eq_some_iff.1 hoctets) part hpart
  exact isDigit_of_octet? ho

theorem isDigit_or_dot_of_ofChars? (h : ofChars? cs = some a) (hc : c ∈ cs) :
    c.isDigit = true ∨ c = '.' := by
  rcases mem_splitOn '.' hc with rfl | ⟨part, hpart, hc⟩
  · exact Or.inr rfl
  · exact Or.inl (List.all_eq_true.1 (isDigit_of_ofChars? h part hpart) c hc)

theorem colon_not_mem_of_ofChars? (h : ofChars? cs = some a) : ':' ∉ cs := by
  intro hc
  rcases isDigit_or_dot_of_ofChars? h hc with h | h <;> cases h

/-- Without a dot there is one octet only. -/
theorem ofChars?_eq_none (h : '.' ∉ cs) : ofChars? cs = none := by
  have hlength : ∀ octets, [cs].mapM octet? = some octets → octets.length ≠ 4 := by
    intro octets hoctets
    simp only [List.mapM_cons, List.mapM_nil, Option.bind_eq_bind, Option.pure_def,
      Option.bind_some, Option.bind_eq_some_iff, Option.some.injEq] at hoctets
    obtain ⟨o, _, rfl⟩ := hoctets
    simp
  simp only [ofChars?, List.splitOn_eq_singleton h, Option.bind_eq_bind, Option.bind_eq_none_iff]
  intro octets hoctets
  exact dif_neg (hlength octets hoctets)

theorem dot_mem_toChars (a : V4) : '.' ∈ a.toChars := by
  apply mark_mem_intercalate
  rw [List.length_map, a.length_eq]
  decide

theorem length_groups (a : V4) : a.groups.length = 2 := by
  obtain ⟨octets, hlength⟩ := a
  match octets, hlength with
  | [_, _, _, _], _ => rfl

end V4

/-! ## Groups -/

theorem group?_hex (g : UInt16) : group? (hex g.toNat) = some g := by
  have hlength : (hex g.toNat).length ≤ 4 := (length_hex_le_iff (by decide)).2 g.toNat_lt
  have hall : (hex g.toNat).all isHex = true := List.all_eq_true.2 fun _ => isHex_of_mem_hex
  rw [group?, if_pos ⟨hex_ne_nil, hlength, hall⟩, hexValue_hex]
  simp

theorem isHex_of_group? {g : UInt16} (h : group? cs = some g) (hc : c ∈ cs) : isHex c = true := by
  unfold group? at h
  split at h
  · rename_i hdigits
    exact List.all_eq_true.1 hdigits.2.2 c hc
  · cases h

theorem not_mem_hex {n : Nat} (h : isHex c = false) : c ∉ hex n :=
  not_mem_of_isHex (fun _ => isHex_of_mem_hex) h

theorem groups?_hex (dotted : Bool) (gs : List UInt16) :
    groups? dotted (gs.map fun g => hex g.toNat) = some gs := by
  induction gs with
  | nil => rfl
  | cons g gs ih =>
    cases gs with
    | nil =>
      have hdot : '.' ∉ hex g.toNat := not_mem_hex rfl
      simp [groups?, group?_hex, hdot]
    | cons next gs =>
      simp only [List.map_cons] at ih ⊢
      simp [groups?, group?_hex, ih]

/-- The last piece may stand for two groups, and it is all that may have dots in it. -/
theorem of_groups? {dotted : Bool} {pieces : List (List Char)}
    (h : groups? dotted pieces = some gs) :
    gs.length ≤ pieces.length + 1 ∧
      ∀ piece ∈ pieces, ∀ c ∈ piece, isHex c = true ∨ c = '.' := by
  induction pieces generalizing gs with
  | nil =>
    cases h
    exact ⟨by decide, fun _ hpiece => absurd hpiece List.not_mem_nil⟩
  | cons piece rest ih =>
    cases rest with
    | nil =>
      rw [groups?] at h
      rw [List.forall_mem_singleton]
      split at h
      · obtain ⟨v, hv, rfl⟩ := Option.map_eq_some_iff.1 h
        refine ⟨v.length_groups.le, fun c hc => ?_⟩
        exact (V4.isDigit_or_dot_of_ofChars? hv hc).imp_left isHex_of_isDigit
      · obtain ⟨g, hg, rfl⟩ := Option.map_eq_some_iff.1 h
        exact ⟨Nat.le_succ 1, fun c hc => .inl (isHex_of_group? hg hc)⟩
    | cons next rest =>
      simp only [groups?, Option.bind_eq_bind, Option.bind_eq_some_iff, Option.pure_def,
        Option.some.injEq] at h
      obtain ⟨g, hg, gs, hgs, rfl⟩ := h
      obtain ⟨hlength, hmem⟩ := ih hgs
      rw [List.forall_mem_cons]
      exact ⟨Nat.succ_le_succ hlength, fun c hc => .inl (isHex_of_group? hg hc), hmem⟩

theorem splitOn_groupChars (h : gs ≠ []) :
    (groupChars gs).splitOn ':' = gs.map fun g => hex g.toNat := by
  apply List.splitOn_intercalate
  · intro part hpart
    obtain ⟨g, _, rfl⟩ := List.mem_map.1 hpart
    exact not_mem_hex rfl
  · simpa using h

theorem groupChars_singleton (g : UInt16) : groupChars [g] = hex g.toNat := by simp [groupChars]

theorem groupChars_cons_cons (g next : UInt16) (gs : List UInt16) :
    groupChars (g :: next :: gs) = hex g.toNat ++ ':' :: groupChars (next :: gs) := by
  simp [groupChars, List.intercalate_cons_cons]

theorem groupChars_eq_nil_iff : groupChars gs = [] ↔ gs = [] := by
  constructor
  · intro h
    by_contra hne
    have hsplit := splitOn_groupChars hne
    rw [h] at hsplit
    match gs, hne with
    | g :: rest, _ => exact hex_ne_nil (List.cons.inj hsplit).1.symm
  · rintro rfl
    rfl

theorem side?_groupChars (dotted : Bool) (gs : List UInt16) :
    side? dotted (groupChars gs) = some gs := by
  unfold side?
  by_cases h : gs = []
  · rw [if_pos (groupChars_eq_nil_iff.2 h), h]
  · rw [if_neg (mt groupChars_eq_nil_iff.1 h), splitOn_groupChars h, groups?_hex]

theorem head?_groupChars (gs : List UInt16) : (groupChars gs).head? ≠ some ':' := by
  cases gs with
  | nil => exact fun h => nomatch h
  | cons g gs =>
    have hhead : (groupChars (g :: gs)).head? = (hex g.toNat).head? :=
      head?_intercalate_cons hex_ne_nil _
    intro h
    rw [hhead] at h
    exact not_mem_hex rfl (List.mem_of_mem_head? h)

/-! ## The double colon -/

theorem cutDouble?_append (h : ':' ∉ front) (cs : List Char) :
    cutDouble? (front ++ cs) = (cutDouble? cs).map fun p => (front ++ p.1, p.2) := by
  induction front with
  | nil => simp
  | cons c front ih =>
    rw [List.mem_cons, not_or] at h
    rw [List.cons_append, cutDouble?, ih h.2, Option.map_map]
    · rfl
    · rintro _ rfl _
      exact h.1 rfl

theorem cutDouble?_colon (h : cs.head? ≠ some ':') :
    cutDouble? (':' :: cs) = (cutDouble? cs).map fun p => (':' :: p.1, p.2) := by
  rw [cutDouble?]
  rintro rest - rfl
  exact h rfl

theorem cutDouble?_eq_none_of_not_mem (h : ':' ∉ cs) : cutDouble? cs = none := by
  have := cutDouble?_append h []
  rwa [List.append_nil] at this

theorem cutDouble?_groupChars (gs : List UInt16) : cutDouble? (groupChars gs) = none := by
  induction gs with
  | nil => rfl
  | cons g gs ih =>
    cases gs with
    | nil =>
      rw [groupChars_singleton]
      exact cutDouble?_eq_none_of_not_mem (not_mem_hex rfl)
    | cons next gs =>
      rw [groupChars_cons_cons, cutDouble?_append (not_mem_hex rfl),
        cutDouble?_colon (head?_groupChars _), ih]
      rfl

theorem eq_append_of_cutDouble? (h : cutDouble? cs = some (front, back)) :
    cs = front ++ ':' :: ':' :: back := by
  fun_induction cutDouble? cs generalizing front with
  | case1 => cases h
  | case2 rest =>
    cases h
    rfl
  | case3 c rest _ ih =>
    obtain ⟨⟨front, back⟩, hcut, heq⟩ := Option.map_eq_some_iff.1 h
    cases heq
    rw [ih hcut]
    rfl

/-- Behind groups the first double colon is the one that follows them. -/
theorem cutDouble?_groupChars_append (gs : List UInt16) (back : List Char) :
    cutDouble? (groupChars gs ++ ':' :: ':' :: back) = some (groupChars gs, back) := by
  induction gs with
  | nil => rfl
  | cons g gs ih =>
    cases gs with
    | nil =>
      rw [groupChars_singleton, cutDouble?_append (not_mem_hex rfl)]
      simp [cutDouble?]
    | cons next gs =>
      have hhead : (groupChars (next :: gs) ++ ':' :: ':' :: back).head? ≠ some ':' := by
        rw [List.head?_append_of_ne_nil _ (mt groupChars_eq_nil_iff.1 (List.cons_ne_nil _ _))]
        exact head?_groupChars _
      rw [groupChars_cons_cons, List.append_assoc, List.cons_append,
        cutDouble?_append (not_mem_hex rfl), cutDouble?_colon hhead, ih]
      rfl

/-! ## The longest run of zeros -/

theorem longestZeros_le (gs : List UInt16) :
    (longestZeros gs).2 ≤ zerosAt gs (longestZeros gs).1 := by
  refine List.foldlRecOn (motive := fun best : Nat × Nat => best.2 ≤ zerosAt gs best.1)
    _ _ (Nat.zero_le _) ?_
  intro best h i _
  split
  · exact Nat.le_refl _
  · exact h

/-- The zeros that are counted at an index stand there. -/
theorem take_drop_of_le_zerosAt {i n : Nat} (h : n ≤ zerosAt gs i) :
    (gs.drop i).take n = List.replicate n 0 := by
  obtain ⟨rest, hrest⟩ := List.takeWhile_prefix (l := gs.drop i) (· == 0)
  have hall := List.all_eq_true.1 (List.all_takeWhile (p := (· == 0)) (l := gs.drop i))
  rw [← hrest, List.take_append_of_le_length h, List.eq_replicate_iff]
  refine ⟨List.length_take_of_le h, fun g hg => ?_⟩
  exact eq_of_beq (hall g (List.mem_of_mem_take hg))

/-! ## Version 6 -/

namespace V6

theorem eq_of_groups_eq {a b : V6} (h : a.groups = b.groups) : a = b := by
  cases a
  cases b
  cases h
  rfl

/-- A version 4 address inside spells out the last two groups. -/
theorem groups_of_mapped? {a : V6} {v : V4} (h : a.mapped? = some v) :
    a.groups = [0, 0, 0, 0, 0, 0xFFFF] ++ v.groups := by
  have hword (x : UInt16) :
      UInt16.ofNat (256 * (UInt8.ofNat (x.toNat / 256)).toNat + (UInt8.ofNat (x.toNat % 256)).toNat)
        = x := by
    have hx := x.toNat_lt
    rw [UInt8.toNat_ofNat_of_lt' (by change _ < 256; omega),
      UInt8.toNat_ofNat_of_lt' (by change _ < 256; omega), Nat.div_add_mod, UInt16.ofNat_toNat]
  unfold mapped? at h
  split at h
  · rename_i x y hgroups
    cases h
    rw [hgroups]
    exact congrArg₂ (fun x y => [0, 0, 0, 0, 0, 0xFFFF, x, y]) (hword x).symm (hword y).symm
  · cases h

/-- A double colon stands for the zeros that are missing between its sides. -/
theorem ofChars?_of_cut {a : V6} {before after : List UInt16}
    (hcut : cutDouble? cs = some (front, back)) (hfront : side? false front = some before)
    (hback : side? true back = some after) (hlength : before.length + after.length < 8)
    (h : a.groups =
      before ++ List.replicate (8 - (before.length + after.length)) 0 ++ after) :
    ofChars? cs = some a := by
  simp only [ofChars?, hcut, hfront, hback, Option.bind_eq_bind, Option.bind_some]
  rw [dif_pos hlength]
  exact congrArg some (eq_of_groups_eq h.symm)

theorem ofChars?_mapped {a : V6} {v : V4} (h : a.groups = [0, 0, 0, 0, 0, 0xFFFF] ++ v.groups) :
    ofChars? ("::ffff:".toList ++ v.toChars) = some a := by
  have hcolon : ':' ∉ v.toChars := V4.colon_not_mem_of_ofChars? v.ofChars?_toChars
  have hcut : cutDouble? ("::ffff:".toList ++ v.toChars) =
      some ([], "ffff".toList ++ ':' :: v.toChars) := rfl
  have hsplit : ("ffff".toList ++ ':' :: v.toChars).splitOn ':' = ["ffff".toList, v.toChars] := by
    have := List.splitOn_eq_singleton hcolon
    exact (List.splitOnP_append_cons _ _ (by decide)).trans (congrArg (_ ++ ·) this)
  have hlast : groups? true [v.toChars] = some v.groups := by
    simp [groups?, V4.dot_mem_toChars, V4.ofChars?_toChars]
  have hback : side? true ("ffff".toList ++ ':' :: v.toChars) = some (0xFFFF :: v.groups) := by
    have hffff : group? "ffff".toList = some 0xFFFF := by decide
    rw [side?, if_neg (by simp), hsplit, groups?, hffff, hlast]
    · rfl
    · simp
  exact ofChars?_of_cut hcut rfl hback (by simp [V4.length_groups]) (by simp [V4.length_groups, h])

/-- The groups around a run of zeros give the address back. -/
theorem ofChars?_around {a : V6} {start count : Nat} (hcount : 0 < count)
    (h : count ≤ zerosAt a.groups start) :
    ofChars? (groupChars (a.groups.take start) ++
      ':' :: ':' :: groupChars (a.groups.drop (start + count))) = some a := by
  have hfits : start + count ≤ 8 := by
    have := (List.takeWhile_prefix (l := a.groups.drop start) (· == 0)).length_le
    rw [List.length_drop, a.length_eq] at this
    unfold zerosAt at h
    omega
  have hfront : (a.groups.take start).length = start := by
    rw [List.length_take, a.length_eq]
    omega
  have hback : (a.groups.drop (start + count)).length = 8 - (start + count) := by
    rw [List.length_drop, a.length_eq]
  have hgroups : a.groups =
      a.groups.take start ++ List.replicate count 0 ++ a.groups.drop (start + count) := by
    rw [← take_drop_of_le_zerosAt h, List.append_assoc, ← List.drop_drop, List.take_append_drop,
      List.take_append_drop]
  refine ofChars?_of_cut (cutDouble?_groupChars_append _ _) (side?_groupChars _ _)
    (side?_groupChars _ _) (by omega) ?_
  rwa [hfront, hback, show 8 - (start + (8 - (start + count))) = count by omega]

theorem ofChars?_groupChars (a : V6) : ofChars? (groupChars a.groups) = some a := by
  have hne : a.groups ≠ [] := by
    intro hnil
    have := a.length_eq
    rw [hnil] at this
    cases this
  rw [ofChars?, cutDouble?_groupChars]
  simp only [splitOn_groupChars hne, groups?_hex, Option.bind_eq_bind, Option.bind_some]
  exact dif_pos a.length_eq

theorem ofChars?_toChars (a : V6) : ofChars? a.toChars = some a := by
  unfold toChars
  split
  · rename_i v hmapped
    exact ofChars?_mapped (groups_of_mapped? hmapped)
  · unfold shortened
    dsimp only
    split
    · rename_i hrun
      rw [List.append_assoc]
      exact ofChars?_around (by omega) (longestZeros_le a.groups)
    · exact ofChars?_groupChars a

/-! ### What addresses are read from -/

/-- An address is read from pieces between colons, with or without a double colon among them. -/
theorem exists_of_ofChars? {a : V6} (h : ofChars? cs = some a) :
    (∃ gs, groups? true (cs.splitOn ':') = some gs ∧ gs.length = 8) ∨
      ∃ front back before after, cs = front ++ ':' :: ':' :: back ∧
        side? false front = some before ∧ side? true back = some after := by
  unfold ofChars? at h
  split at h
  · obtain ⟨gs, hgs, h⟩ := Option.bind_eq_some_iff.1 h
    split at h
    · rename_i hlength
      exact .inl ⟨gs, hgs, hlength⟩
    · cases h
  · rename_i front back hcut
    obtain ⟨before, hbefore, h⟩ := Option.bind_eq_some_iff.1 h
    obtain ⟨after, hafter, _⟩ := Option.bind_eq_some_iff.1 h
    exact .inr ⟨front, back, before, after, eq_append_of_cutDouble? hcut, hbefore, hafter⟩

theorem two_le_count_of_ofChars? {a : V6} (h : ofChars? cs = some a) : 2 ≤ cs.count ':' := by
  obtain ⟨gs, hgs, hlength⟩ | ⟨front, back, _, _, rfl, _, _⟩ := exists_of_ofChars? h
  · have hpieces := (of_groups? hgs).1
    rw [length_splitOn, hlength] at hpieces
    omega
  · rw [List.count_append, List.count_cons_self, List.count_cons_self]
    omega

theorem isHex_or_mark_of_ofChars? {a : V6} (h : ofChars? cs = some a) (hc : c ∈ cs) :
    isHex c = true ∨ c = ':' ∨ c = '.' := by
  have hpieces {dotted : Bool} {part : List Char} {gs : List UInt16}
      (h : groups? dotted (part.splitOn ':') = some gs) (hc : c ∈ part) :
      isHex c = true ∨ c = ':' ∨ c = '.' := by
    rcases mem_splitOn ':' hc with rfl | ⟨piece, hpiece, hc⟩
    · exact .inr (.inl rfl)
    · exact ((of_groups? h).2 piece hpiece c hc).imp_right .inr
  have hside {dotted : Bool} {part : List Char} {gs : List UInt16}
      (h : side? dotted part = some gs) (hc : c ∈ part) :
      isHex c = true ∨ c = ':' ∨ c = '.' := by
    rw [side?, if_neg (List.ne_nil_of_mem hc)] at h
    exact hpieces h hc
  obtain ⟨gs, hgs, _⟩ | ⟨front, back, _, _, rfl, hfront, hback⟩ := exists_of_ofChars? h
  · exact hpieces hgs hc
  · rw [List.mem_append, List.mem_cons, List.mem_cons] at hc
    rcases hc with hc | rfl | rfl | hc
    · exact hside hfront hc
    · exact .inr (.inl rfl)
    · exact .inr (.inl rfl)
    · exact hside hback hc

/-- Without a colon there are too few groups. -/
theorem ofChars?_eq_none (h : ':' ∉ cs) : ofChars? cs = none := by
  rw [Option.eq_none_iff_forall_ne_some]
  intro a ha
  have hcount := two_le_count_of_ofChars? ha
  rw [List.count_eq_zero.2 h] at hcount
  cases hcount

theorem colon_mem_of_ofChars? {a : V6} (h : ofChars? cs = some a) : ':' ∈ cs :=
  List.count_pos_iff.1 (Nat.lt_of_lt_of_le Nat.zero_lt_two (two_le_count_of_ofChars? h))

end V6

/-! ## Either version -/

/-- A text that is read as version 6 is not read as version 4 before. -/
theorem V4.ofChars?_of_v6 {a : V6} (h : V6.ofChars? cs = some a) : V4.ofChars? cs = none := by
  rw [Option.eq_none_iff_forall_not_mem]
  intro v hv
  exact V4.colon_not_mem_of_ofChars? hv (V6.colon_mem_of_ofChars? h)

theorem ofChars?_eq_v4_iff {a : V4} : ofChars? cs = some (.v4 a) ↔ V4.ofChars? cs = some a := by
  unfold ofChars?
  cases V4.ofChars? cs with
  | some b => simp
  | none => simp

theorem ofChars?_eq_v6_iff {a : V6} : ofChars? cs = some (.v6 a) ↔ V6.ofChars? cs = some a := by
  constructor
  · intro h
    unfold ofChars? at h
    split at h
    · cases h
    · obtain ⟨b, hb, heq⟩ := Option.map_eq_some_iff.1 h
      cases heq
      exact hb
  · intro h
    rw [ofChars?, V4.ofChars?_of_v6 h, h]
    rfl

theorem ofChars?_toChars (a : Ip) : ofChars? a.toChars = some a := by
  cases a with
  | v4 a => exact ofChars?_eq_v4_iff.2 (V4.ofChars?_toChars a)
  | v6 a => exact ofChars?_eq_v6_iff.2 (V6.ofChars?_toChars a)

theorem isHex_or_mark_of_ofChars? {a : Ip} (h : ofChars? cs = some a) (hc : c ∈ cs) :
    isHex c = true ∨ c = ':' ∨ c = '.' := by
  cases a with
  | v4 a =>
    rcases V4.isDigit_or_dot_of_ofChars? (ofChars?_eq_v4_iff.1 h) hc with h | h
    · exact Or.inl (isHex_of_isDigit h)
    · exact Or.inr (Or.inr h)
  | v6 a => exact V6.isHex_or_mark_of_ofChars? (ofChars?_eq_v6_iff.1 h) hc

theorem not_mem_of_ofChars? {a : Ip} (h : ofChars? cs = some a)
    (hc : ¬ (isHex c = true ∨ c = ':' ∨ c = '.')) : c ∉ cs :=
  fun hmem => hc (isHex_or_mark_of_ofChars? h hmem)

theorem ne_nil_of_ofChars? {a : Ip} (h : ofChars? cs = some a) : cs ≠ [] := by
  rintro rfl
  rw [ofChars?, V4.ofChars?_eq_none List.not_mem_nil, V6.ofChars?_eq_none List.not_mem_nil] at h
  cases h

theorem not_mem_toChars {a : Ip} (hc : ¬ (isHex c = true ∨ c = ':' ∨ c = '.')) : c ∉ a.toChars :=
  not_mem_of_ofChars? (ofChars?_toChars a) hc

theorem toChars_ne_nil (a : Ip) : a.toChars ≠ [] := ne_nil_of_ofChars? (ofChars?_toChars a)

theorem isBlank_of_mem_toChars {a : Ip} (h : c ∈ a.toChars) : isBlank c = false := by
  rcases isHex_or_mark_of_ofChars? (ofChars?_toChars a) h with h | rfl | rfl
  · exact isBlank_of_isAlphanum (isAlphanum_of_isHex h)
  · rfl
  · rfl

theorem isTrimmed_toChars (a : Ip) : IsTrimmed a.toChars :=
  .of_forall a.toChars_ne_nil fun _ => isBlank_of_mem_toChars

theorem nonBlank_text (a : Ip) : nonBlank (some a.text) = some a.text := by
  apply nonBlank_eq_some
  rw [text, String.toList_ofList]
  exact a.isTrimmed_toChars

end Inventory.Ip
