-- The first fields of a version. A text is cut wherever its delimiter stands
-- first, and a text cut off behind some of its fields is cut at the same places
-- again, so cutting off twice is cutting off once.
import Mathlib.Data.List.Infix
import Inventory.MessageId

namespace Inventory.Text

variable {delim cs front back : List Char} {parts : List (List Char)} {c : Char} {n k : Nat}

/-! ## Fields around a delimiter -/

/-- The fields of a text. A delimiter counts where no other one begins before it, and what stands
behind it is cut on its own. -/
inductive SplitsInto (delim : List Char) : List Char → List (List Char) → Prop
  | last {cs : List Char} (h : ¬ delim <:+: cs) : SplitsInto delim cs [cs]
  | cut {front back : List Char} {parts : List (List Char)}
    (h : ¬ delim <:+: front ++ delim.dropLast) (hback : SplitsInto delim back parts) :
    SplitsInto delim (front ++ delim ++ back) (front :: parts)

/-- What a delimiter that begins before another one would have to fit into. -/
theorem append_dropLast_isPrefix (front delim back : List Char) :
    front ++ delim.dropLast <+: front ++ delim ++ back := by
  rw [List.append_assoc, List.prefix_append_right_inj]
  exact (List.dropLast_prefix delim).trans (List.prefix_append delim back)

theorem cutAt_drop (delim : List Char) (skip : Nat) (cs : List Char) :
    cutAt delim skip cs = cutAt delim 0 (cs.drop skip) := by
  induction cs generalizing skip with
  | nil => cases skip <;> rfl
  | cons c cs ih =>
    cases skip with
    | zero => rfl
    | succ skip => rw [cutAt, ih, List.drop_succ_cons]

theorem cutAt_of_isPrefix (hne : delim ≠ []) (back : List Char) :
    cutAt delim 0 (delim ++ back) = [] :: cutAt delim 0 back := by
  obtain ⟨d, ds, rfl⟩ := List.exists_cons_of_ne_nil hne
  rw [List.cons_append, cutAt, if_pos (by simp), cutAt_drop]
  simp

theorem cutAt_of_not_isPrefix (h : ¬ delim <+: c :: cs) :
    cutAt delim 0 (c :: cs) = (cutAt delim 0 cs).modifyHead (c :: ·) := by
  rw [cutAt, if_neg]
  rwa [List.isPrefixOf_iff_prefix]

theorem cutAt_of_not_isInfix (h : ¬ delim <:+: cs) : cutAt delim 0 cs = [cs] := by
  induction cs with
  | nil => rfl
  | cons c cs ih =>
    rw [List.infix_cons_iff, not_or] at h
    rw [cutAt_of_not_isPrefix h.1, ih h.2, List.modifyHead_cons]

theorem cutAt_append (hne : delim ≠ []) (h : ¬ delim <:+: front ++ delim.dropLast)
    (back : List Char) :
    cutAt delim 0 (front ++ delim ++ back) = front :: cutAt delim 0 back := by
  induction front with
  | nil => exact cutAt_of_isPrefix hne back
  | cons c front ih =>
    rw [List.cons_append, List.infix_cons_iff, not_or] at h
    -- A delimiter that began here would end before the one behind `front` does.
    have hnot : ¬ delim <+: c :: (front ++ delim ++ back) := by
      intro hbegins
      apply h.1
      apply List.prefix_of_prefix_length_le hbegins
      · exact append_dropLast_isPrefix (c :: front) delim back
      · simp only [List.length_cons, List.length_append, List.length_dropLast]
        omega
    rw [List.cons_append, List.cons_append, cutAt_of_not_isPrefix hnot, ih h.2,
      List.modifyHead_cons]

theorem SplitsInto.cutAt_eq (hne : delim ≠ []) (h : SplitsInto delim cs parts) :
    cutAt delim 0 cs = parts := by
  induction h with
  | last h => exact cutAt_of_not_isInfix h
  | cut h _ ih => rw [cutAt_append hne h, ih]

theorem SplitsInto.cons (hnot : ¬ delim <+: c :: cs) (h : SplitsInto delim cs parts) :
    SplitsInto delim (c :: cs) (parts.modifyHead (c :: ·)) := by
  cases h with
  | last h =>
    apply SplitsInto.last
    rw [List.infix_cons_iff, not_or]
    exact ⟨hnot, h⟩
  | @cut front back parts h hback =>
    rw [← List.cons_append, ← List.cons_append, List.modifyHead_cons]
    apply SplitsInto.cut _ hback
    rw [List.cons_append, List.infix_cons_iff, not_or]
    refine ⟨?_, h⟩
    intro hbegins
    exact hnot (hbegins.trans (append_dropLast_isPrefix (c :: front) delim back))

theorem not_isInfix_dropLast (hne : delim ≠ []) : ¬ delim <:+: delim.dropLast := by
  intro h
  have hlength := h.length_le
  have hpos := List.length_pos_iff.2 hne
  rw [List.length_dropLast] at hlength
  omega

theorem splitsInto_cutAt (hne : delim ≠ []) (skip : Nat) (cs : List Char) :
    SplitsInto delim (cs.drop skip) (cutAt delim skip cs) := by
  -- What is still skipped has no part in the fields, so the induction is on all that is left.
  fun_induction cutAt delim skip cs with
  | case1 skip =>
    rw [List.drop_nil]
    apply SplitsInto.last
    rwa [List.infix_nil]
  | case2 skip c cs ih => exact ih
  | case3 c cs hbegins ih =>
    obtain ⟨back, hback⟩ := List.isPrefixOf_iff_prefix.1 hbegins
    have hrest : cs.drop (delim.length - 1) = back := by
      obtain ⟨d, ds, rfl⟩ := List.exists_cons_of_ne_nil hne
      rw [← (List.cons.inj hback).2]
      simp
    have hcut : SplitsInto delim ([] ++ delim ++ cs.drop (delim.length - 1)) _ :=
      .cut (not_isInfix_dropLast hne) ih
    rwa [hrest, List.nil_append, hback] at hcut
  | case4 c cs hbegins ih =>
    exact SplitsInto.cons (mt List.isPrefixOf_iff_prefix.2 hbegins) ih

theorem fields_eq_iff (hne : delim ≠ []) : fields delim cs = parts ↔ SplitsInto delim cs parts := by
  unfold fields
  rw [if_neg hne]
  constructor
  · rintro rfl
    exact splitsInto_cutAt hne 0 cs
  · exact SplitsInto.cutAt_eq hne

theorem SplitsInto.ne_nil (h : SplitsInto delim cs parts) : parts ≠ [] := by
  cases h <;> exact List.cons_ne_nil _ _

theorem SplitsInto.joinFields_eq (h : SplitsInto delim cs parts) : joinFields delim parts = cs := by
  unfold joinFields
  induction h with
  | last => exact List.intercalate_singleton
  | cut _ hback ih => rw [List.intercalate_cons_of_ne_nil hback.ne_nil, ih]

/-- A text that ends behind one of its fields has the fields up to there. -/
theorem SplitsInto.take (h : SplitsInto delim cs parts) (hn : n ≠ 0) :
    SplitsInto delim (joinFields delim (parts.take n)) (parts.take n) := by
  unfold joinFields
  induction h generalizing n with
  | last h =>
    rw [List.take_of_length_le (by simp; omega), List.intercalate_singleton]
    exact .last h
  | @cut front back parts h hback ih =>
    obtain ⟨n, rfl⟩ := Nat.exists_eq_succ_of_ne_zero hn
    cases n with
    | zero =>
      rw [List.take_succ_cons, List.take_zero, List.intercalate_singleton]
      apply SplitsInto.last
      intro hinside
      exact h (hinside.trans (List.prefix_append front _).isInfix)
    | succ n =>
      have hne : parts.take (n + 1) ≠ [] := by simpa using hback.ne_nil
      rw [List.take_succ_cons, List.intercalate_cons_of_ne_nil hne]
      exact .cut h (ih (Nat.succ_ne_zero n))

/-! ## The first fields -/

/-- A text up to the end of its `n`-th field. -/
def firstFields (delim : List Char) (n : Nat) (cs : List Char) : List Char :=
  joinFields delim ((fields delim cs).take n)

theorem joinFields_nil (parts : List (List Char)) : joinFields [] parts = parts.flatten := by
  unfold joinFields
  induction parts with
  | nil => rfl
  | cons part parts ih =>
    cases parts with
    | nil => simp
    | cons next parts =>
      rw [List.intercalate_cons_cons, ih, List.append_nil, ← List.flatten_cons]

/-- An empty delimiter stands between any two characters, so the fields behind the first are the
characters. -/
theorem firstFields_nil (n : Nat) (cs : List Char) : firstFields [] n cs = cs.take (n - 1) := by
  cases n with
  | zero => rfl
  | succ n =>
    rw [firstFields, joinFields_nil, fields, if_pos rfl, List.cons_append, List.take_succ_cons,
      List.flatten_cons, List.nil_append, Nat.add_sub_cancel]
    induction cs generalizing n with
    | nil => cases n <;> simp
    | cons c cs ih =>
      cases n with
      | zero => rfl
      | succ n =>
        rw [List.map_cons, List.cons_append, List.take_succ_cons, List.flatten_cons, ih,
          List.take_succ_cons, List.singleton_append]

theorem fields_firstFields (hne : delim ≠ []) (hn : n ≠ 0) (cs : List Char) :
    fields delim (firstFields delim n cs) = (fields delim cs).take n := by
  rw [fields_eq_iff hne]
  exact ((fields_eq_iff hne).1 rfl).take hn

theorem joinFields_fields (delim cs : List Char) : joinFields delim (fields delim cs) = cs := by
  by_cases hne : delim = []
  · rw [hne, joinFields_nil, fields, if_pos rfl, List.flatten_append, List.flatten_cons,
      ← List.flatMap_def, List.flatMap_singleton']
    simp
  · exact ((fields_eq_iff hne).1 rfl).joinFields_eq

theorem joinFields_take_isPrefix (delim : List Char) (n : Nat) (parts : List (List Char)) :
    joinFields delim (parts.take n) <+: joinFields delim parts := by
  unfold joinFields
  induction parts generalizing n with
  | nil => rw [List.take_nil]
  | cons part parts ih =>
    cases n with
    | zero => exact List.nil_prefix
    | succ n =>
      rw [List.take_succ_cons]
      cases parts with
      | nil => rw [List.take_nil]
      | cons next parts =>
        rw [List.intercalate_cons_cons]
        cases n with
        | zero =>
          rw [List.take_zero, List.intercalate_singleton, List.append_assoc]
          exact List.prefix_append part _
        | succ n =>
          have hrest := ih (n + 1)
          rw [List.take_succ_cons] at hrest ⊢
          rwa [List.intercalate_cons_cons, List.prefix_append_right_inj]

theorem firstFields_isPrefix (delim : List Char) (n : Nat) (cs : List Char) :
    firstFields delim n cs <+: cs := by
  have hbegins := joinFields_take_isPrefix delim n (fields delim cs)
  rwa [joinFields_fields] at hbegins

theorem firstFields_of_length_le (h : (fields delim cs).length ≤ n) :
    firstFields delim n cs = cs := by
  unfold firstFields
  rw [List.take_of_length_le h, joinFields_fields]

/-- Fields that are left out first or later are left out all the same. -/
theorem firstFields_firstFields (delim : List Char) (n k : Nat) (cs : List Char) :
    firstFields delim k (firstFields delim n cs) = firstFields delim (min n k) cs := by
  by_cases hne : delim = []
  · rw [hne, firstFields_nil, firstFields_nil, firstFields_nil, List.take_take]
    congr 1
    omega
  · by_cases hn : n = 0
    · have hbegins := firstFields_isPrefix delim k []
      rw [hn, Nat.zero_min]
      exact List.prefix_nil.1 hbegins
    · rw [firstFields, fields_firstFields hne hn, List.take_take, Nat.min_comm]
      rfl

end Inventory.Text

namespace Inventory.MessageId

open Text

variable {version delim : String} {n : Nat}

theorem toList_versionFields (version delim : String) (n : Nat) :
    (versionFields version delim n).1.toList = firstFields delim.toList n version.toList := by
  unfold versionFields
  split
  · rename_i hnone
    rcases hnone with rfl | rfl
    · exact (List.prefix_nil.1 (firstFields_isPrefix delim.toList n [])).symm
    · rfl
  · exact String.toList_ofList

theorem versionFields_of_none (h : version = "" ∨ n = 0) :
    versionFields version delim n = ("", 0) := if_pos h

theorem count_versionFields (h : ¬ (version = "" ∨ n = 0)) :
    (versionFields version delim n).2 = min n (fields delim.toList version.toList).length := by
  unfold versionFields
  rw [if_neg h]
  exact List.length_take

/-- The first fields of a version are a beginning of it, as many of them as there are, and the whole
if all are asked for. Where the delimiter is not empty they are the fields of what they make up.
Cutting off twice is cutting off once. -/
theorem versionFields_faithful (version delim : String) (n k : Nat) :
    (versionFields version delim n).1.toList <+: version.toList ∧
    (version = "" ∨ n = 0 → versionFields version delim n = ("", 0)) ∧
    (¬ (version = "" ∨ n = 0) →
      (versionFields version delim n).2 = min n (fields delim.toList version.toList).length ∧
      ((fields delim.toList version.toList).length ≤ n →
        (versionFields version delim n).1 = version) ∧
      (delim ≠ "" → fields delim.toList (versionFields version delim n).1.toList =
        (fields delim.toList version.toList).take n)) ∧
    (versionFields (versionFields version delim n).1 delim k).1 =
      (versionFields version delim (min n k)).1 := by
  refine ⟨?_, versionFields_of_none, ?_, ?_⟩
  · rw [toList_versionFields]
    exact firstFields_isPrefix _ _ _
  · intro hsome
    refine ⟨count_versionFields hsome, ?_, ?_⟩
    · intro hall
      rw [← String.toList_inj, toList_versionFields, firstFields_of_length_le hall]
    · intro hdelim
      rw [toList_versionFields]
      apply fields_firstFields
      · exact mt String.toList_eq_nil_iff.1 hdelim
      · exact fun hn => hsome (.inr hn)
  · rw [← String.toList_inj, toList_versionFields, toList_versionFields, toList_versionFields,
      firstFields_firstFields]

/-- The second delimiter overlaps the hyphen behind it, which stays in the last field. -/
theorem versionFields_faithful_overlap :
    fields "--".toList "1--0---2".toList = ["1".toList, "0".toList, "-2".toList] ∧
      (versionFields "1--0---2" "--" 2).2 = 2 ∧
      (versionFields "1--0---2" "--" 3).1 = "1--0---2" ∧
      (versionFields (versionFields "1--0---2" "--" 2).1 "--" 7).1 =
        (versionFields "1--0---2" "--" 2).1 := by
  have hfields : fields "--".toList "1--0---2".toList =
      ["1".toList, "0".toList, "-2".toList] := by decide +kernel
  obtain ⟨_, _, htwo, hagain⟩ := versionFields_faithful "1--0---2" "--" 2 7
  obtain ⟨_, _, hall, _⟩ := versionFields_faithful "1--0---2" "--" 3 0
  rw [hfields] at htwo hall
  exact ⟨hfields, (htwo (by decide)).1, (hall (by decide)).2.1 (by decide), hagain⟩

end Inventory.MessageId
