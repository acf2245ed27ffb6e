-- Texts in small letters. The marks that texts are cut at, blanks and digits are
-- no letters, and hex digits count the same in either case, so every reader of
-- addresses and names reads a text in small letters as it reads the text itself.
import Mathlib.Data.List.Basic
import Inventory.Proofs.Hosts

namespace Inventory

open Text

variable {cs : List Char} {m : Char} {p : Char → Bool}

namespace Text

/-! ## Characters -/

theorem toNat_toLower {c : Char} (h : c.isUpper = true) : c.toLower.toNat = c.toNat + 32 := by
  have hrange := isUpper_iff.1 h
  have hshift : ('a'.val - 'A'.val).toNat = 32 := rfl
  have hsmall : c.toLower.toNat = (c.val + ('a'.val - 'A'.val)).toNat := by
    unfold Char.toLower
    rw [dif_pos (of_decide_eq_true h)]
    rfl
  have hval : c.val.toNat = c.toNat := rfl
  rw [hsmall, UInt32.toNat_add, hshift, hval]
  omega

/-- What holds of all capitals and their small letters holds of all characters. -/
theorem toLower_congr {α : Type} {f : Char → α} (h : ∀ c, c.isUpper = true → f c.toLower = f c)
    (c : Char) : f c.toLower = f c := by
  by_cases hc : c.isUpper = true
  · exact h c hc
  · rw [toLower_eq_self (Bool.eq_false_iff.2 hc)]

theorem isDigit_toLower (c : Char) : c.toLower.isDigit = c.isDigit := by
  apply toLower_congr
  intro c hc
  have hrange := isUpper_iff.1 hc
  have hsmall := toNat_toLower hc
  rw [Bool.eq_iff_iff, isDigit_iff, isDigit_iff]
  omega

theorem isBlank_toLower (c : Char) : isBlank c.toLower = isBlank c := by
  apply toLower_congr
  intro c hc
  have hrange := isUpper_iff.1 hc
  have hsmall := toNat_toLower hc
  rw [isBlank_eq_false (by omega) (by omega), isBlank_eq_false (by omega) (by omega)]

theorem hexValue?_toLower (c : Char) : hexValue? c.toLower = hexValue? c := by
  apply toLower_congr
  intro c hc
  have hrange := isUpper_iff.1 hc
  have hsmall := toNat_toLower hc
  have hdigit {d : Char} (hd : 57 < d.toNat) : ¬ d.isDigit = true := by
    rw [isDigit_iff]
    omega
  have hle (a b : Char) : a ≤ b ↔ a.toNat ≤ b.toNat := Iff.rfl
  have ha : 'a'.toNat = 97 := rfl
  have hf : 'f'.toNat = 102 := rfl
  have hA : 'A'.toNat = 65 := rfl
  have hF : 'F'.toNat = 70 := rfl
  unfold hexValue?
  rw [if_neg (hdigit (by omega)), if_neg (hdigit (by omega))]
  simp only [hle, ha, hf, hA, hF, hsmall]
  by_cases hhex : c.toNat ≤ 70
  · rw [if_pos (by omega), if_neg (by omega), if_pos (by omega)]
    exact congrArg some (by omega)
  · rw [if_neg (by omega), if_neg (by omega), if_neg (by omega), if_neg (by omega)]

theorem isHex_toLower (c : Char) : isHex c.toLower = isHex c := by
  rw [isHex, isHex, hexValue?_toLower]

/-- A mark that is no letter is not made by the change of case. -/
theorem toLower_eq_iff {c : Char} (hm : m.isAlpha = false) : c.toLower = m ↔ c = m := by
  by_cases hc : c.isUpper = true
  · have hrange := isUpper_iff.1 hc
    have hsmall := toNat_toLower hc
    have hletter : c.toLower.isLower = true := isLower_iff.2 (by omega)
    obtain ⟨hupper, hlower⟩ := Bool.or_eq_false_iff.1 hm
    constructor
    · rintro rfl
      exact absurd hletter (Bool.eq_false_iff.1 hlower)
    · rintro rfl
      exact absurd hc (Bool.eq_false_iff.1 hupper)
  · rw [toLower_eq_self (Bool.eq_false_iff.2 hc)]

theorem beq_toLower (hm : m.isAlpha = false) (c : Char) : (c.toLower == m) = (c == m) := by
  rw [Bool.eq_iff_iff, beq_iff_eq, beq_iff_eq, toLower_eq_iff hm]

/-! ## Texts -/

theorem mem_map_toLower (hm : m.isAlpha = false) : m ∈ cs.map Char.toLower ↔ m ∈ cs := by
  simp only [List.mem_map, toLower_eq_iff hm, exists_eq_right]

theorem head?_map_toLower (hm : m.isAlpha = false) :
    (cs.map Char.toLower).head? = some m ↔ cs.head? = some m := by
  cases cs with
  | nil => rfl
  | cons c cs => simp only [List.map_cons, List.head?_cons, Option.some.injEq, toLower_eq_iff hm]

theorem getLast?_map_toLower (hm : m.isAlpha = false) :
    (cs.map Char.toLower).getLast? = some m ↔ cs.getLast? = some m := by
  rw [← List.head?_reverse, ← List.head?_reverse, ← List.map_reverse, head?_map_toLower hm]

theorem count_map_toLower (hm : m.isAlpha = false) :
    (cs.map Char.toLower).count m = cs.count m := by
  simp only [List.count_eq_countP, List.countP_map, Function.comp_def, beq_toLower hm]

theorem dropWhile_map_toLower (hp : ∀ c, p c.toLower = p c) :
    (cs.map Char.toLower).dropWhile p = (cs.dropWhile p).map Char.toLower := by
  rw [List.dropWhile_map, show p ∘ Char.toLower = p from funext hp]

theorem dropEndWhile_map_toLower (hp : ∀ c, p c.toLower = p c) :
    dropEndWhile p (cs.map Char.toLower) = (dropEndWhile p cs).map Char.toLower := by
  rw [dropEndWhile, ← List.map_reverse, dropWhile_map_toLower hp, ← List.map_reverse]
  rfl

theorem trimChars_map_toLower :
    trimChars (cs.map Char.toLower) = (trimChars cs).map Char.toLower := by
  rw [trimChars, dropWhile_map_toLower isBlank_toLower, dropEndWhile_map_toLower isBlank_toLower]
  rfl

theorem unbracketed_map_toLower :
    unbracketed (cs.map Char.toLower) = (unbracketed cs).map Char.toLower := by
  rw [unbracketed, dropWhile_map_toLower (beq_toLower rfl),
    dropEndWhile_map_toLower (beq_toLower rfl)]
  rfl

theorem cutFirst?_map_toLower (hm : m.isAlpha = false) :
    cutFirst? m (cs.map Char.toLower) =
      (cutFirst? m cs).map fun cut => (cut.1.map Char.toLower, cut.2.map Char.toLower) := by
  induction cs with
  | nil => rfl
  | cons c cs ih =>
    rw [List.map_cons, cutFirst?, cutFirst?, ih]
    simp only [toLower_eq_iff hm]
    split
    · rfl
    · rw [Option.map_map, Option.map_map]
      rfl

theorem splitOn_map_toLower (hm : m.isAlpha = false) :
    (cs.map Char.toLower).splitOn m = (cs.splitOn m).map (List.map Char.toLower) := by
  induction cs with
  | nil => rfl
  | cons c cs ih =>
    rw [List.map_cons, List.splitOn_cons_eq_if_modifyHead, List.splitOn_cons_eq_if_modifyHead, ih,
      beq_toLower hm]
    split
    · rfl
    · cases cs.splitOn m <;> rfl

/-! ## Numbers -/

theorem map_toLower_digits (h : cs.all Char.isDigit = true) : cs.map Char.toLower = cs := by
  refine (List.map_congr_left fun c hc => ?_).trans (List.map_id _)
  have hdigit := isDigit_iff.1 (List.all_eq_true.1 h c hc)
  apply toLower_eq_self
  rw [Bool.eq_false_iff, ne_eq, isUpper_iff]
  omega

theorem all_isDigit_map_toLower : (cs.map Char.toLower).all Char.isDigit = cs.all Char.isDigit := by
  rw [List.all_map, show Char.isDigit ∘ Char.toLower = Char.isDigit from funext isDigit_toLower]

theorem decimalBelow?_map_toLower (bound : Nat) :
    decimalBelow? bound (cs.map Char.toLower) = decimalBelow? bound cs := by
  by_cases h : cs.all Char.isDigit = true
  · rw [map_toLower_digits h]
  · have hnot : ¬ (cs.map Char.toLower).all Char.isDigit = true := by rwa [all_isDigit_map_toLower]
    rw [decimalBelow?, decimalBelow?, if_neg fun hd => hnot hd.2.1, if_neg fun hd => h hd.2.1]

theorem signedDecimalBelow?_cons {c : Char} (bound : Nat) (h : c ≠ '+') :
    signedDecimalBelow? bound (c :: cs) = decimalBelow? bound (c :: cs) := by
  unfold signedDecimalBelow?
  split
  · rename_i heq
    cases heq
    exact absurd rfl h
  · rfl

theorem signedDecimalBelow?_map_toLower (bound : Nat) :
    signedDecimalBelow? bound (cs.map Char.toLower) = signedDecimalBelow? bound cs := by
  cases cs with
  | nil => rfl
  | cons c cs =>
    by_cases hc : c = '+'
    · subst hc
      exact decimalBelow?_map_toLower bound
    · have hsmall : c.toLower ≠ '+' := mt (toLower_eq_iff rfl).1 hc
      rw [List.map_cons, signedDecimalBelow?_cons bound hsmall, signedDecimalBelow?_cons bound hc,
        ← List.map_cons, decimalBelow?_map_toLower]

theorem hexValue_map_toLower : hexValue (cs.map Char.toLower) = hexValue cs := by
  simp only [hexValue, List.foldl_map, hexValue?_toLower]

theorem all_isHex_map_toLower : (cs.map Char.toLower).all isHex = cs.all isHex := by
  rw [List.all_map, show isHex ∘ Char.toLower = isHex from funext isHex_toLower]

end Text

/-! ## IP addresses -/

namespace Ip

theorem octet?_map_toLower : octet? (cs.map Char.toLower) = octet? cs := by
  by_cases h : cs.all Char.isDigit = true
  · rw [map_toLower_digits h]
  · have hnone : decimalBelow? 256 cs = none := by
      rw [decimalBelow?, if_neg fun hd => h hd.2.1]
    simp only [octet?, decimalBelow?_map_toLower, hnone, Option.map_none, ite_self]

theorem V4.ofChars?_map_toLower : V4.ofChars? (cs.map Char.toLower) = V4.ofChars? cs := by
  have hread : octet? ∘ List.map Char.toLower = octet? := funext fun _ => octet?_map_toLower
  rw [V4.ofChars?, V4.ofChars?, splitOn_map_toLower rfl, List.mapM_map, hread]

theorem group?_map_toLower : group? (cs.map Char.toLower) = group? cs := by
  simp only [group?, ne_eq, List.map_eq_nil_iff, List.length_map, all_isHex_map_toLower,
    hexValue_map_toLower]

theorem groups?_map_toLower (dotted : Bool) (pieces : List (List Char)) :
    groups? dotted (pieces.map (List.map Char.toLower)) = groups? dotted pieces := by
  induction pieces with
  | nil => rfl
  | cons piece rest ih =>
    cases rest with
    | nil =>
      -- Only the last piece may be a version 4 address.
      have hdot : (piece.map Char.toLower).contains '.' = piece.contains '.' := by
        rw [Bool.eq_iff_iff, List.contains_iff_mem, List.contains_iff_mem, mem_map_toLower rfl]
      simp only [List.map_cons, List.map_nil, groups?, hdot, V4.ofChars?_map_toLower,
        group?_map_toLower]
    | cons next rest =>
      simp only [List.map_cons] at ih ⊢
      simp only [groups?, group?_map_toLower, ih]

theorem cutDouble?_cons {c : Char} (h : c ≠ ':') (cs : List Char) :
    cutDouble? (c :: cs) = (cutDouble? cs).map fun cut => (c :: cut.1, cut.2) :=
  have hfront : ':' ∉ [c] := by simpa using h.symm
  cutDouble?_append hfront cs

theorem cutDouble?_map_toLower :
    cutDouble? (cs.map Char.toLower) =
      (cutDouble? cs).map fun cut => (cut.1.map Char.toLower, cut.2.map Char.toLower) := by
  induction cs with
  | nil => rfl
  | cons c cs ih =>
    by_cases hc : c = ':'
    · subst hc
      by_cases hhead : cs.head? = some ':'
      · obtain ⟨rest, rfl⟩ := List.head?_eq_some_iff.1 hhead
        rfl
      · have hsmall : (cs.map Char.toLower).head? ≠ some ':' := mt (head?_map_toLower rfl).1 hhead
        have hcolon : ':'.toLower = ':' := rfl
        rw [List.map_cons, hcolon, cutDouble?_colon hsmall, cutDouble?_colon hhead, ih,
          Option.map_map, Option.map_map]
        rfl
    · have hsmall : c.toLower ≠ ':' := mt (toLower_eq_iff rfl).1 hc
      rw [List.map_cons, cutDouble?_cons hsmall, cutDouble?_cons hc, ih, Option.map_map,
        Option.map_map]
      rfl

theorem side?_map_toLower (dotted : Bool) :
    side? dotted (cs.map Char.toLower) = side? dotted cs := by
  simp only [side?, List.map_eq_nil_iff, splitOn_map_toLower (m := ':') rfl, groups?_map_toLower]

theorem V6.ofChars?_map_toLower : V6.ofChars? (cs.map Char.toLower) = V6.ofChars? cs := by
  rw [V6.ofChars?, V6.ofChars?, cutDouble?_map_toLower]
  cases cutDouble? cs with
  | none => simp only [Option.map_none, splitOn_map_toLower (m := ':') rfl, groups?_map_toLower]
  | some cut => simp only [Option.map_some, side?_map_toLower]

theorem ofChars?_map_toLower : ofChars? (cs.map Char.toLower) = ofChars? cs := by
  rw [ofChars?, ofChars?, V4.ofChars?_map_toLower, V6.ofChars?_map_toLower]

end Ip

/-- Only in a zone do small letters and capitals differ. -/
theorem IpLiteral.ofChars?_map_toLower (h : '%' ∉ cs) :
    ofChars? (cs.map Char.toLower) = ofChars? cs := by
  have hsmall : '%' ∉ cs.map Char.toLower := mt (mem_map_toLower rfl).1 h
  rw [ofChars?_of_not_mem hsmall, ofChars?_of_not_mem h, unbracketed_map_toLower,
    Ip.ofChars?_map_toLower]

/-! ## Hosts with ports -/

theorem port?_map_toLower : port? (cs.map Char.toLower) = port? cs := by
  rw [port?, port?, signedDecimalBelow?_map_toLower]

theorem splitHostPort?_map_toLower :
    splitHostPort? (cs.map Char.toLower) =
      (splitHostPort? cs).map fun found => (found.1.map Char.toLower, found.2) := by
  by_cases hhead : cs.head? = some '['
  · obtain ⟨rest, rfl⟩ := List.head?_eq_some_iff.1 hhead
    rw [List.map_cons, show '['.toLower = '[' from rfl, splitHostPort?_open, splitHostPort?_open,
      cutFirst?_map_toLower rfl]
    cases cutFirst? ']' rest with
    | none => rfl
    | some cut =>
      simp only [Option.map_some, Option.bind_some, List.map_eq_nil_iff,
        head?_map_toLower (m := ':') rfl, ← List.map_tail, port?_map_toLower]
      split
      · rfl
      · split
        · rw [Option.map_map]
          rfl
        · rfl
  · have hsmall : (cs.map Char.toLower).head? ≠ some '[' := mt (head?_map_toLower rfl).1 hhead
    rw [splitHostPort?_of_head hsmall, splitHostPort?_of_head hhead, count_map_toLower rfl,
      cutFirst?_map_toLower rfl]
    split
    · cases cutFirst? ':' cs with
      | none => rfl
      | some cut =>
        simp only [Option.map_some, Option.bind_some, port?_map_toLower, Option.map_map]
        rfl
    · rfl

/-! ## Hardware addresses -/

namespace Mac

theorem Layout.split?_map_toLower :
    Layout.split? (cs.map Char.toLower) =
      (Layout.split? cs).map fun found => (found.1, found.2.map (List.map Char.toLower)) := by
  simp only [Layout.split?, mem_map_toLower (m := ':') rfl, mem_map_toLower (m := '-') rfl,
    mem_map_toLower (m := '.') rfl, splitOn_map_toLower (m := ':') rfl,
    splitOn_map_toLower (m := '-') rfl, splitOn_map_toLower (m := '.') rfl, List.length_map]
  repeat' split
  all_goals rfl

theorem Layout.isGroup_map_toLower (layout : Layout) :
    layout.isGroup (cs.map Char.toLower) = layout.isGroup cs := by
  rw [isGroup, isGroup, List.length_map, all_isHex_map_toLower]

theorem ofChars?_map_toLower : ofChars? (cs.map Char.toLower) = ofChars? cs := by
  rw [ofChars?, ofChars?, Layout.split?_map_toLower]
  cases Layout.split? cs with
  | none => rfl
  | some found =>
    have hgroup : found.1.isGroup ∘ List.map Char.toLower = found.1.isGroup :=
      funext fun _ => found.1.isGroup_map_toLower
    simp only [Option.map_some, Option.bind_eq_bind, Option.bind_some, List.length_map,
      List.all_map, hgroup, ← List.map_flatten, hexValue_map_toLower]

end Mac

/-! ## Names -/

namespace Hostname

theorem dropRootDot_map_toLower :
    dropRootDot (cs.map Char.toLower) = (dropRootDot cs).map Char.toLower := by
  simp only [dropRootDot, getLast?_map_toLower (m := '.') rfl]
  split
  · exact List.map_dropLast.symm
  · rfl

theorem map_toLower_map_toLower :
    (cs.map Char.toLower).map Char.toLower = cs.map Char.toLower := by
  simp only [List.map_map, Function.comp_def, toLower_toLower]

theorem folded_map_toLower (cs : List Char) :
    folded (String.ofList (cs.map Char.toLower)) = folded (String.ofList cs) := by
  simp only [folded, String.toList_ofList, trimChars_map_toLower, dropRootDot_map_toLower,
    map_toLower_map_toLower]

theorem parse_congr {s t : String} (h : folded s = folded t) : parse s = parse t := by
  cases ht : parse t with
  | ok n => rw [parse_eq_ok_iff, h, parse_eq_ok_iff.1 ht]
  | error e => rw [parse_eq_error_iff, h, parse_eq_error_iff.1 ht]

end Hostname

end Inventory
