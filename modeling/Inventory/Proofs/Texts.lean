-- Small laws of texts: ends that have nothing to drop, fields that are there,
-- texts joined by a mark, and cuts at the first mark.
import Mathlib.Data.List.Basic
import Mathlib.Data.List.Forall2
import Mathlib.Data.List.TakeWhile
import Inventory.Text.Ascii
import Inventory.Text.Blank
import Inventory.Text.Delimited
import Inventory.Text.Utf8

namespace Inventory

/-- What was read is handed on. -/
theorem ok_bind {ε α β : Type} (a : α) (next : α → Except ε β) :
    (Except.ok a >>= next) = next a := rfl

end Inventory

namespace Inventory.Text

variable {p : Char → Bool} {c mark : Char} {cs front back : List Char}

/-! ## Ends of a text -/

theorem dropWhile_eq_self (h : ∀ c, cs.head? = some c → p c = false) : cs.dropWhile p = cs := by
  cases cs with
  | nil => rfl
  | cons c cs => rw [List.dropWhile_cons_of_neg (by simp [h c rfl])]

theorem dropEndWhile_eq_self (h : ∀ c, cs.getLast? = some c → p c = false) :
    dropEndWhile p cs = cs := by
  rw [dropEndWhile, dropWhile_eq_self (by simpa using h), List.reverse_reverse]

/-- What is left does not end in a character that is dropped. -/
theorem of_getLast?_dropEndWhile (h : (dropEndWhile p cs).getLast? = some c) : p c = false := by
  rw [dropEndWhile, List.getLast?_reverse] at h
  have := List.head?_dropWhile_not p cs.reverse
  rwa [h] at this

theorem dropEndWhile_isPrefix (p : Char → Bool) (cs : List Char) : dropEndWhile p cs <+: cs := by
  rw [← List.reverse_suffix, dropEndWhile, List.reverse_reverse]
  exact List.dropWhile_suffix p

theorem dropEndWhile_append (h : ∀ c ∈ back, p c = true) :
    dropEndWhile p (cs ++ back) = dropEndWhile p cs := by
  rw [dropEndWhile, List.reverse_append, List.dropWhile_append_of_pos (by simpa using h)]
  rfl

/-- A text without the brackets around it, whatever their number. -/
def unbracketed (cs : List Char) : List Char :=
  dropEndWhile (· == ']') (cs.dropWhile (· == '['))

theorem dropWhile_beq_eq_self (h : cs.head? ≠ some mark) : cs.dropWhile (· == mark) = cs :=
  dropWhile_eq_self fun _ hc => beq_eq_false_iff_ne.2 fun he => h (he ▸ hc)

theorem dropEndWhile_beq_eq_self (h : cs.getLast? ≠ some mark) :
    dropEndWhile (· == mark) cs = cs :=
  dropEndWhile_eq_self fun _ hc => beq_eq_false_iff_ne.2 fun he => h (he ▸ hc)

theorem unbracketed_eq_self (hopen : cs.head? ≠ some '[') (hclose : cs.getLast? ≠ some ']') :
    unbracketed cs = cs := by
  rw [unbracketed, dropWhile_beq_eq_self hopen, dropEndWhile_beq_eq_self hclose]

theorem unbracketed_of_not_mem (hopen : '[' ∉ cs) (hclose : ']' ∉ cs) : unbracketed cs = cs :=
  unbracketed_eq_self (fun h => hopen (List.mem_of_mem_head? h))
    fun h => hclose (List.mem_of_mem_getLast? h)

/-- One pair of brackets is left out, also around the empty text. -/
theorem unbracketed_brackets (hopen : cs.head? ≠ some '[') (hclose : cs.getLast? ≠ some ']') :
    unbracketed ('[' :: cs ++ [']']) = cs := by
  have hinner : (cs ++ [']']).head? ≠ some '[' := by
    cases cs with
    | nil => decide
    | cons c cs => exact hopen
  rw [unbracketed, List.cons_append, List.dropWhile_cons_of_pos (by decide),
    dropWhile_beq_eq_self hinner, dropEndWhile_append_of_pos (by decide),
    dropEndWhile_beq_eq_self hclose]

theorem mem_of_mem_unbracketed (h : c ∈ unbracketed cs) : c ∈ cs := by
  unfold unbracketed dropEndWhile at h
  rw [List.mem_reverse] at h
  have hinner := (List.dropWhile_sublist _).subset h
  rw [List.mem_reverse] at hinner
  exact (List.dropWhile_sublist _).subset hinner

/-! ## Letters, digits and blanks -/

theorem isLower_iff : c.isLower = true ↔ 97 ≤ c.toNat ∧ c.toNat ≤ 122 := by
  change (decide (97 ≤ c.val) && decide (c.val ≤ 122)) = true ↔ _
  simp [UInt32.le_iff_toNat_le, ← Char.toNat_val]

theorem isUpper_iff : c.isUpper = true ↔ 65 ≤ c.toNat ∧ c.toNat ≤ 90 := by
  change decide (65 ≤ c.val ∧ c.val ≤ 90) = true ↔ _
  simp [UInt32.le_iff_toNat_le, ← Char.toNat_val]

theorem isDigit_iff : c.isDigit = true ↔ 48 ≤ c.toNat ∧ c.toNat ≤ 57 := Char.isDigit_iff_toNat

theorem isAlphanum_iff :
    c.isAlphanum = true ↔ c.isUpper = true ∨ c.isLower = true ∨ c.isDigit = true := by
  change (c.isUpper || c.isLower || c.isDigit) = true ↔ _
  rw [Bool.or_eq_true, Bool.or_eq_true, or_assoc]

theorem toLower_eq_self (h : c.isUpper = false) : c.toLower = c := by
  unfold Char.toLower
  exact dif_neg (of_decide_eq_false h)

/-- The visible characters of ASCII are not blank. -/
theorem isBlank_eq_false (h : 0x20 < c.toNat) (h' : c.toNat < 0x7F) : isBlank c = false := by
  simp only [isBlank, inRanges, blankRanges, List.any_cons, List.any_nil, Bool.or_false,
    Bool.or_eq_false_iff, Bool.and_eq_false_imp, decide_eq_true_eq, decide_eq_false_iff_not,
    Nat.not_le]
  omega

theorem isBlank_of_isAlphanum (h : c.isAlphanum = true) : isBlank c = false := by
  rw [isAlphanum_iff, isUpper_iff, isLower_iff, isDigit_iff] at h
  exact isBlank_eq_false (by omega) (by omega)

theorem utf8Size_eq_length (h : ∀ c ∈ cs, c.toNat ≤ 127) : utf8Size cs = cs.length := by
  induction cs with
  | nil => rfl
  | cons c cs ih =>
    have hone : c.utf8Size = 1 := by
      rw [Char.utf8Size_eq_one_iff, UInt32.le_iff_toNat_le]
      exact h c List.mem_cons_self
    rw [utf8Size, hone, ih fun d hd => h d (List.mem_cons_of_mem c hd), List.length_cons,
      Nat.add_comm]

theorem utf8Size_eq (cs : List Char) : utf8Size cs = (String.ofList cs).utf8ByteSize := by
  induction cs with
  | nil => rfl
  | cons c cs ih =>
    rw [utf8Size, ih, String.ofList_cons, String.utf8ByteSize_append, String.utf8ByteSize_singleton]

theorem utf8Size_toList (s : String) : utf8Size s.toList = s.utf8ByteSize := by
  rw [utf8Size_eq, String.ofList_toList]

theorem trimChars_eq_self (hhead : ∀ c, cs.head? = some c → isBlank c = false)
    (hlast : ∀ c, cs.getLast? = some c → isBlank c = false) : trimChars cs = cs := by
  rw [trimChars, dropWhile_eq_self hhead, dropEndWhile_eq_self hlast]

theorem isBlank_of_head?_trimChars (h : (trimChars cs).head? = some c) : isBlank c = false := by
  obtain ⟨rest, htrim⟩ := List.head?_eq_some_iff.1 h
  obtain ⟨tail, hdrop⟩ := dropEndWhile_isPrefix isBlank (cs.dropWhile isBlank)
  change trimChars cs ++ tail = cs.dropWhile isBlank at hdrop
  have hhead := List.head?_dropWhile_not isBlank cs
  rw [← hdrop, htrim] at hhead
  exact hhead

theorem trimChars_trimChars (cs : List Char) : trimChars (trimChars cs) = trimChars cs :=
  trimChars_eq_self (fun _ => isBlank_of_head?_trimChars) fun _ => of_getLast?_dropEndWhile

theorem trimChars_eq_self_of_forall (h : ∀ c ∈ cs, isBlank c = false) : trimChars cs = cs :=
  trimChars_eq_self (fun _ hc => h _ (List.mem_of_mem_head? hc))
    fun _ hc => h _ (List.mem_of_mem_getLast? hc)

/-- What is left of a text without blanks at its ends. -/
structure TrimsTo (cs body : List Char) : Prop where
  surrounded : ∃ front back, cs = front ++ body ++ back ∧
    (∀ c ∈ front, isBlank c = true) ∧ ∀ c ∈ back, isBlank c = true
  head : ∀ c, body.head? = some c → isBlank c = false
  last : ∀ c, body.getLast? = some c → isBlank c = false

theorem trimsTo_iff {body : List Char} : TrimsTo cs body ↔ trimChars cs = body := by
  constructor
  · rintro ⟨⟨front, back, rfl, hfront, hback⟩, hhead, hlast⟩
    rw [trimChars, List.append_assoc, List.dropWhile_append_of_pos hfront]
    cases body with
    | nil =>
      rw [List.nil_append, List.dropWhile_eq_nil_iff.2 hback]
      rfl
    | cons c rest =>
      rw [List.cons_append, List.dropWhile_cons_of_neg (by simp [hhead c rfl]), ← List.cons_append,
        dropEndWhile_append hback, dropEndWhile_eq_self hlast]
  · rintro rfl
    refine ⟨⟨cs.takeWhile isBlank, ((cs.dropWhile isBlank).reverse.takeWhile isBlank).reverse,
      ?_, fun c hc => ?_, fun c hc => ?_⟩, fun _ => isBlank_of_head?_trimChars,
      fun _ => of_getLast?_dropEndWhile⟩
    · rw [trimChars, dropEndWhile, List.append_assoc, ← List.reverse_append,
        List.takeWhile_append_dropWhile, List.reverse_reverse, List.takeWhile_append_dropWhile]
    · exact List.mem_takeWhile_imp hc
    · exact List.mem_takeWhile_imp (List.mem_reverse.1 hc)

/-- A text that is not blank and that trimming leaves as it is. -/
structure IsTrimmed (cs : List Char) : Prop where
  nonempty : cs ≠ []
  head : ∀ c, cs.head? = some c → isBlank c = false
  last : ∀ c, cs.getLast? = some c → isBlank c = false

theorem IsTrimmed.of_forall (hne : cs ≠ []) (h : ∀ c ∈ cs, isBlank c = false) : IsTrimmed cs where
  nonempty := hne
  head _ hc := h _ (List.mem_of_mem_head? hc)
  last _ hc := h _ (List.mem_of_mem_getLast? hc)

theorem IsTrimmed.trimChars_eq (h : IsTrimmed cs) : trimChars cs = cs :=
  trimChars_eq_self h.head h.last

theorem nonBlank_eq_some {s : String} (h : IsTrimmed s.toList) : nonBlank (some s) = some s := by
  have hself : trim s = s := by
    rw [trim, h.trimChars_eq, String.ofList_toList]
  have hsome : s ≠ "" := by
    rintro rfl
    exact h.nonempty rfl
  simp [nonBlank, hself, hsome]

/-! ## Joined texts -/

theorem mem_intercalate {parts : List (List Char)} (h : c ∈ [mark].intercalate parts) :
    c = mark ∨ ∃ part ∈ parts, c ∈ part := by
  induction parts with
  | nil => cases h
  | cons part parts ih =>
    cases parts with
    | nil =>
      rw [List.intercalate_singleton] at h
      exact Or.inr ⟨part, List.mem_cons_self, h⟩
    | cons next parts =>
      rw [List.intercalate_cons_cons, List.mem_append, List.mem_append, List.mem_singleton] at h
      rcases h with (h | h) | h
      · exact Or.inr ⟨part, List.mem_cons_self, h⟩
      · exact Or.inl h
      · rcases ih h with h | ⟨other, hother, h⟩
        · exact Or.inl h
        · exact Or.inr ⟨other, List.mem_cons_of_mem _ hother, h⟩

theorem mem_intercalate_of_mem {part : List Char} {parts : List (List Char)}
    (hpart : part ∈ parts) (hc : c ∈ part) : c ∈ [mark].intercalate parts := by
  induction parts with
  | nil => cases hpart
  | cons first parts ih =>
    cases parts with
    | nil =>
      rw [List.intercalate_singleton]
      exact List.mem_singleton.1 hpart ▸ hc
    | cons next parts =>
      rw [List.intercalate_cons_cons, List.mem_append, List.mem_append]
      rcases List.mem_cons.1 hpart with rfl | hpart
      · exact .inl (.inl hc)
      · exact .inr (ih hpart)

/-- A character of a text is the mark that the text is split at, or it is in one of the parts. -/
theorem mem_splitOn (mark : Char) (h : c ∈ cs) : c = mark ∨ ∃ part ∈ cs.splitOn mark, c ∈ part := by
  have hjoined : [mark].intercalate (cs.splitOn mark) = cs := List.intercalate_splitOn mark
  rw [← hjoined] at h
  exact mem_intercalate h

/-- No part has the mark in it that the text is split at. -/
theorem not_mem_of_mem_splitOn {part : List Char} (h : part ∈ cs.splitOn mark) : mark ∉ part := by
  induction cs generalizing part with
  | nil =>
    obtain rfl := List.mem_singleton.1 h
    exact List.not_mem_nil
  | cons c cs ih =>
    rw [List.splitOn_cons_eq_if_modifyHead] at h
    split at h
    · rcases List.mem_cons.1 h with rfl | h
      · exact List.not_mem_nil
      · exact ih h
    · rename_i hc
      rcases hsplit : cs.splitOn mark with _ | ⟨first, rest⟩
      · exact absurd hsplit (List.splitOn_ne_nil mark cs)
      · rw [hsplit, List.modifyHead_cons] at h
        rcases List.mem_cons.1 h with rfl | h
        · have hfirst := ih (hsplit ▸ List.mem_cons_self)
          rw [List.mem_cons, not_or]
          exact ⟨fun he => hc (beq_iff_eq.2 he.symm), hfirst⟩
        · exact ih (hsplit ▸ List.mem_cons_of_mem _ h)

theorem length_splitOn (mark : Char) (cs : List Char) :
    (cs.splitOn mark).length = cs.count mark + 1 := by
  induction cs with
  | nil => rfl
  | cons c cs ih =>
    rw [List.splitOn_cons_eq_if_modifyHead, List.count_cons]
    split
    · rw [List.length_cons, ih]
    · rw [List.length_modifyHead, ih, Nat.add_zero]

theorem intercalate_concat {parts : List (List Char)} (hne : parts ≠ []) (last : List Char) :
    [mark].intercalate (parts ++ [last]) = [mark].intercalate parts ++ mark :: last := by
  induction parts with
  | nil => exact absurd rfl hne
  | cons part parts ih =>
    cases parts with
    | nil => simp [List.intercalate_cons_cons]
    | cons next parts =>
      rw [List.cons_append, List.cons_append, List.intercalate_cons_cons, ← List.cons_append,
        ih (List.cons_ne_nil next parts), List.intercalate_cons_cons]
      simp only [List.append_assoc]

theorem head?_intercalate_cons {part : List Char} (hne : part ≠ []) (parts : List (List Char)) :
    ([mark].intercalate (part :: parts)).head? = part.head? := by
  cases parts with
  | nil => rw [List.intercalate_singleton]
  | cons next parts =>
    rw [List.intercalate_cons_cons, List.append_assoc, List.head?_append_of_ne_nil _ hne]

theorem getLast?_intercalate_concat {last : List Char} (hne : last ≠ [])
    (parts : List (List Char)) :
    ([mark].intercalate (parts ++ [last])).getLast? = last.getLast? := by
  by_cases hparts : parts = []
  · rw [hparts, List.nil_append, List.intercalate_singleton]
  · rw [intercalate_concat hparts, List.getLast?_append_of_ne_nil _ (List.cons_ne_nil _ _),
      List.getLast?_cons_of_ne_nil hne]

/-- The mark stands between two parts. -/
theorem mark_mem_intercalate {parts : List (List Char)} (h : 2 ≤ parts.length) :
    mark ∈ [mark].intercalate parts := by
  match parts, h with
  | part :: next :: rest, _ => simp [List.intercalate_cons_cons]

/-- Parts without the mark are told from the text that they are joined to. -/
theorem intercalate_inj {parts parts' : List (List Char)} (hne : parts ≠ []) (hne' : parts' ≠ [])
    (h : ∀ part ∈ parts, mark ∉ part) (h' : ∀ part ∈ parts', mark ∉ part) :
    [mark].intercalate parts = [mark].intercalate parts' ↔ parts = parts' := by
  constructor
  · intro heq
    have hsplit := congrArg (List.splitOn mark) heq
    rwa [List.splitOn_intercalate mark h hne, List.splitOn_intercalate mark h' hne'] at hsplit
  · rintro rfl
    rfl

/-! ## Parts read one by one -/

theorem mapM_eq_some_iff {α β : Type} {read : α → Option β} {parts : List α} {found : List β} :
    parts.mapM read = some found ↔ List.Forall₂ (fun part b => read part = some b) parts found := by
  induction parts generalizing found with
  | nil => simp [eq_comm]
  | cons part parts ih =>
    simp only [List.mapM_cons, Option.bind_eq_bind, Option.bind_eq_some_iff, Option.pure_def,
      Option.some.injEq, List.forall₂_cons_left_iff, ih]
    constructor
    · rintro ⟨b, hread, rest, hrest, rfl⟩
      exact ⟨b, rest, hread, hrest, rfl⟩
    · rintro ⟨b, rest, hread, hrest, rfl⟩
      exact ⟨b, hread, rest, hrest, rfl⟩

theorem mapM_map_eq_some {α β : Type} {read : α → Option β} {write : β → α} {parts : List β}
    (h : ∀ part ∈ parts, read (write part) = some part) :
    (parts.map write).mapM read = some parts := by
  rw [mapM_eq_some_iff, List.forall₂_map_left_iff]
  exact List.forall₂_same.2 h

theorem exists_of_forall₂ {α β : Type} {reads : α → β → Prop} {parts : List α} {found : List β}
    (h : List.Forall₂ reads parts found) : ∀ part ∈ parts, ∃ b, reads part b := by
  induction h with
  | nil => exact List.forall_mem_nil _
  | cons hread _ ih => exact List.forall_mem_cons.2 ⟨⟨_, hread⟩, ih⟩

/-! ## Cuts -/

theorem cutFirst?_append (h : mark ∉ front) :
    cutFirst? mark (front ++ mark :: back) = some (front, back) := by
  induction front with
  | nil => simp [cutFirst?]
  | cons c front ih =>
    rw [List.mem_cons, not_or] at h
    simp [cutFirst?, Ne.symm h.1, ih h.2]

theorem eq_append_of_cutFirst? (h : cutFirst? mark cs = some (front, back)) :
    cs = front ++ mark :: back ∧ mark ∉ front := by
  induction cs generalizing front with
  | nil => cases h
  | cons c cs ih =>
    by_cases hc : c = mark
    · rw [cutFirst?, if_pos hc] at h
      cases h
      exact ⟨by rw [hc]; rfl, List.not_mem_nil⟩
    · rw [cutFirst?, if_neg hc, Option.map_eq_some_iff] at h
      obtain ⟨⟨front, back⟩, hcut, heq⟩ := h
      cases heq
      obtain ⟨rfl, hnot⟩ := ih hcut
      exact ⟨rfl, by simp [Ne.symm hc, hnot]⟩

/-- A cut at the last mark is settled by the whole text. -/
theorem append_cons_inj_of_last {front' back' : List Char}
    (h : front ++ mark :: back = front' ++ mark :: back') (hback : mark ∉ back)
    (hback' : mark ∉ back') : front = front' ∧ back = back' := by
  obtain ⟨rest, hfront, hrest⟩ | ⟨rest, hfront, hrest⟩ := List.append_eq_append_iff.1 h
  · cases rest with
    | nil => exact ⟨by rw [hfront, List.append_nil], (List.cons.inj hrest).2⟩
    | cons c rest => exact absurd (by simp [(List.cons.inj hrest).2]) hback
  · cases rest with
    | nil => exact ⟨by rw [hfront, List.append_nil], (List.cons.inj hrest).2.symm⟩
    | cons c rest => exact absurd (by simp [(List.cons.inj hrest).2]) hback'

end Inventory.Text
