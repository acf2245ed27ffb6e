-- The grammar of DNS names. A name is its labels joined by dots; it is read
-- back from its own text, and it can be taken apart at its first dot and put
-- together again.
import Mathlib.Data.List.TakeWhile
import Inventory.Hostname
import Inventory.Proofs.Texts

namespace Inventory.Hostname

open Text

variable {name label front back : List Char} {n : Hostname} {s host domain : String} {c : Char}

/-! ## The grammar -/

/-- A label as it may stand in a name. -/
structure IsLabel (label : List Char) : Prop where
  nonempty : label ≠ []
  size : utf8Size label ≤ 63
  chars : ∀ c ∈ label, isLabelChar c = true
  head : label.head? ≠ some '-'
  last : label.getLast? ≠ some '-'

/-- The last label. -/
def topLabel (name : List Char) : List Char := (labels name).getLastD []

/-- Labels joined by dots, the last of them no number. -/
structure IsDotted (name : List Char) : Prop where
  each : ∀ label ∈ labels name, IsLabel label
  top : (topLabel name).all Char.isDigit = false

/-- Labels joined by dots that are not too long together. -/
structure IsName (name : List Char) : Prop extends IsDotted name where
  size : utf8Size name ≤ 253

theorem labelFault?_eq_none_iff : labelFault? name label = none ↔ IsLabel label := by
  unfold labelFault?
  constructor
  · intro h
    split at h
    · cases h
    rename_i hne
    split at h
    · cases h
    rename_i hsize
    split at h
    · cases h
    rename_i hfind
    split at h
    · cases h
    rename_i hhyphen
    rw [not_or] at hhyphen
    exact ⟨hne, Nat.not_lt.1 hsize, by simpa using hfind, hhyphen.1, hhyphen.2⟩
  · intro h
    have hfind : label.find? (!isLabelChar ·) = none := by simpa using h.chars
    rw [if_neg h.nonempty, if_neg (Nat.not_lt.2 h.size), hfind]
    exact if_neg (not_or.2 ⟨h.head, h.last⟩)

theorem IsDotted.ne_nil (h : IsDotted name) : name ≠ [] := by
  rintro rfl
  exact (h.each [] List.mem_cons_self).nonempty rfl

theorem fault?_eq_none_iff : fault? name = none ↔ IsName name := by
  unfold fault?
  constructor
  · intro h
    split at h
    · cases h
    split at h
    · cases h
    rename_i hsize
    split at h
    · cases h
    rename_i hlabels
    dsimp only at h
    split at h
    · cases h
    rename_i htop
    refine ⟨⟨fun label hlabel => ?_, Bool.eq_false_iff.2 htop⟩, Nat.not_lt.1 hsize⟩
    exact labelFault?_eq_none_iff.1 (List.findSome?_eq_none_iff.1 hlabels label hlabel)
  · intro h
    have hlabels : (labels name).findSome? (labelFault? name) = none := by
      rw [List.findSome?_eq_none_iff]
      exact fun label hlabel => labelFault?_eq_none_iff.2 (h.each label hlabel)
    have htop : ((labels name).getLastD []).all Char.isDigit = false := h.top
    simp only [if_neg h.ne_nil, if_neg (Nat.not_lt.2 h.size), hlabels, htop, Bool.false_eq_true,
      if_false]

theorem isName_text (n : Hostname) : IsName n.text.toList := fault?_eq_none_iff.1 n.faultless

theorem text_ne_empty (n : Hostname) : n.text ≠ "" := by
  intro h
  apply n.isName_text.ne_nil
  rw [h]
  rfl

/-! ## Dots -/

theorem IsLabel.dot_not_mem (h : IsLabel label) : '.' ∉ label := by
  intro hdot
  cases h.chars '.' hdot

theorem labels_append (front back : List Char) :
    labels (front ++ '.' :: back) = labels front ++ labels back :=
  List.splitOnP_append_cons front back (by decide)

theorem labels_eq_singleton (h : '.' ∉ name) : labels name = [name] := List.splitOn_eq_singleton h

theorem topLabel_append (front back : List Char) :
    topLabel (front ++ '.' :: back) = topLabel back := by
  have hne : labels back ≠ [] := List.splitOn_ne_nil '.' back
  simp only [topLabel, labels_append, List.getLastD_eq_getLast?,
    List.getLast?_append_of_ne_nil _ hne]

theorem topLabel_eq_self (h : '.' ∉ name) : topLabel name = name := by
  rw [topLabel, labels_eq_singleton h]
  rfl

theorem isDotted_append_iff :
    IsDotted (front ++ '.' :: back) ↔ (∀ label ∈ labels front, IsLabel label) ∧ IsDotted back := by
  constructor
  · rintro ⟨heach, htop⟩
    rw [labels_append, List.forall_mem_append] at heach
    rw [topLabel_append] at htop
    exact ⟨heach.1, heach.2, htop⟩
  · rintro ⟨hfront, hback, htop⟩
    refine ⟨?_, ?_⟩
    · rw [labels_append, List.forall_mem_append]
      exact ⟨hfront, hback⟩
    · rw [topLabel_append]
      exact htop

/-- What stands after a dot is a name again. -/
theorem IsName.of_append (h : IsName (front ++ '.' :: back)) : IsName back := by
  refine ⟨(isDotted_append_iff.1 h.toIsDotted).2, ?_⟩
  have hsize := h.size
  rw [utf8Size_append, utf8Size] at hsize
  omega

theorem IsDotted.isLabelChar_or_dot (h : IsDotted name) (hc : c ∈ name) :
    isLabelChar c = true ∨ c = '.' := by
  rcases mem_splitOn '.' hc with rfl | ⟨label, hlabel, hc⟩
  · exact Or.inr rfl
  · exact Or.inl ((h.each label hlabel).chars c hc)

theorem IsDotted.not_mem (h : IsDotted name) (hc : ¬ (isLabelChar c = true ∨ c = '.')) :
    c ∉ name := fun hmem => hc (h.isLabelChar_or_dot hmem)

theorem IsDotted.head (h : IsDotted name) : name.head? ≠ some '.' := by
  intro hdot
  obtain ⟨rest, rfl⟩ := List.head?_eq_some_iff.1 hdot
  have hempty : [] ∈ Hostname.labels ([] ++ '.' :: rest) := by
    rw [labels_append]
    exact List.mem_append_left _ List.mem_cons_self
  exact (h.each [] hempty).nonempty rfl

theorem IsDotted.last (h : IsDotted name) : name.getLast? ≠ some '.' := by
  intro hdot
  obtain ⟨rest, rfl⟩ := List.getLast?_eq_some_iff.1 hdot
  have hempty : [] ∈ Hostname.labels (rest ++ '.' :: []) := by
    rw [labels_append]
    exact List.mem_append_right _ List.mem_cons_self
  exact (h.each [] hempty).nonempty rfl

/-! ## Reading -/

theorem isBlank_of_isLabelChar (h : isLabelChar c = true) : isBlank c = false := by
  rw [isLabelChar, Bool.or_eq_true, beq_iff_eq] at h
  rcases h with h | rfl
  · exact isBlank_of_isAlphanum h
  · rfl

theorem IsDotted.isBlank_of_mem (h : IsDotted name) : ∀ c ∈ name, isBlank c = false := by
  intro c hc
  rcases h.isLabelChar_or_dot hc with hc | rfl
  · exact isBlank_of_isLabelChar hc
  · rfl

theorem IsDotted.trimChars_eq (h : IsDotted name) : trimChars name = name :=
  trimChars_eq_self_of_forall h.isBlank_of_mem

theorem IsDotted.isTrimmed (h : IsDotted name) : IsTrimmed name :=
  .of_forall h.ne_nil h.isBlank_of_mem

theorem nonBlank_text (n : Hostname) : nonBlank (some n.text) = some n.text :=
  nonBlank_eq_some n.isName_text.isTrimmed

theorem eq_of_text_eq {m n : Hostname} (h : m.text = n.text) : m = n := by
  cases m
  cases n
  cases h
  rfl

theorem parse_eq_ok_iff : parse s = .ok n ↔ n.text.toList = folded s := by
  unfold parse
  constructor
  · intro h
    split at h
    · cases h
    · cases h
      exact String.toList_ofList
  · intro h
    have hname := h ▸ n.faultless
    split
    · rename_i e hfault
      rw [hname] at hfault
      cases hfault
    · exact congrArg Except.ok (eq_of_text_eq (by simp [← h]))

theorem parse_eq_error_iff {e : Error} : parse s = .error e ↔ fault? (folded s) = some e := by
  unfold parse
  constructor
  · intro h
    split at h
    · cases h
      assumption
    · cases h
  · intro h
    split
    · rename_i e' he
      rw [h] at he
      cases he
      rfl
    · rename_i he
      rw [h] at he
      cases he

theorem folded_eq_self (h : IsDotted s.toList) (hsmall : s.toList.map Char.toLower = s.toList) :
    folded s = s.toList := by
  rw [folded, h.trimChars_eq, dropRootDot, if_neg h.last, hsmall]

/-- Labels in small letters are read as they stand, unless they are too long together. -/
theorem exists_parse_iff (h : IsDotted s.toList) (hsmall : s.toList.map Char.toLower = s.toList) :
    (∃ n, parse s = .ok n ∧ n.text = s) ↔ utf8Size s.toList ≤ 253 := by
  constructor
  · rintro ⟨n, _, rfl⟩
    exact n.isName_text.size
  · intro hsize
    refine ⟨⟨s, fault?_eq_none_iff.2 ⟨h, hsize⟩, hsmall⟩, ?_, rfl⟩
    rw [parse_eq_ok_iff, folded_eq_self h hsmall]

/-- Nothing else is looked at in a name that is too long. -/
theorem parse_of_long (h : 253 < utf8Size (folded s)) :
    parse s = .error (.tooLong (utf8Size (folded s))) := by
  have hne : folded s ≠ [] := by
    intro hnil
    rw [hnil] at h
    exact absurd h (by decide)
  rw [parse_eq_error_iff, fault?, if_neg hne, if_pos h]

theorem parse_text (n : Hostname) : parse n.text = .ok n := by
  rw [parse_eq_ok_iff, folded_eq_self n.isName_text.toIsDotted n.small]

/-! ## Joined names -/

theorem isDotted_joined (n d : Hostname) : IsDotted (n.text ++ "." ++ d.text).toList := by
  have hlist : (n.text ++ "." ++ d.text).toList = n.text.toList ++ '.' :: d.text.toList := by simp
  rw [hlist, isDotted_append_iff]
  exact ⟨n.isName_text.each, d.isName_text.toIsDotted⟩

theorem joined_small (n d : Hostname) :
    (n.text ++ "." ++ d.text).toList.map Char.toLower = (n.text ++ "." ++ d.text).toList := by
  have hdot : '.'.toLower = '.' := rfl
  simp [n.small, d.small, hdot]

theorem folded_joined (n d : Hostname) :
    folded (n.text ++ "." ++ d.text) = (n.text ++ "." ++ d.text).toList :=
  folded_eq_self (isDotted_joined n d) (joined_small n d)

/-- Two names are joined by a dot. -/
theorem withDomain_eq_ok_iff {n d joined : Hostname} :
    n.withDomain d = .ok joined ↔ joined.text = n.text ++ "." ++ d.text := by
  rw [withDomain, parse_eq_ok_iff, folded_joined, String.toList_inj]

theorem text_of_withDomain {n d joined : Hostname} (h : n.withDomain d = .ok joined) :
    joined.text = n.text ++ "." ++ d.text :=
  withDomain_eq_ok_iff.1 h

/-! ## Parts of a name -/

theorem parts_of_append (h : n.text.toList = front ++ '.' :: back) (hfront : '.' ∉ front) :
    n.shortName = String.ofList front ∧ n.domain? = some (String.ofList back) := by
  have hall : ∀ c ∈ front, (c != '.') = true := fun c hc =>
    bne_iff_ne.2 fun hdot => hfront (hdot ▸ hc)
  constructor
  · rw [shortName, h, List.takeWhile_append_of_pos hall, List.takeWhile_cons_of_neg (by decide),
      List.append_nil]
  · rw [domain?, h, List.dropWhile_append_of_pos hall, List.dropWhile_cons_of_neg (by decide)]

theorem parts_of_not_mem (h : '.' ∉ n.text.toList) : n.shortName = n.text ∧ n.domain? = none := by
  have hall : ∀ c ∈ n.text.toList, (c != '.') = true := fun c hc =>
    bne_iff_ne.2 fun hdot => h (hdot ▸ hc)
  constructor
  · rw [shortName, List.takeWhile_eq_self_iff.2 hall, String.ofList_toList]
  · rw [domain?, List.dropWhile_eq_nil_iff.2 hall]

theorem dot_not_mem_shortName (n : Hostname) : '.' ∉ n.shortName.toList := by
  rw [shortName, String.toList_ofList]
  intro hdot
  have hne : ('.' != '.') = true := List.mem_takeWhile_imp (p := (· != '.')) hdot
  cases hne

/-- A name is its first label and, if there is a dot, what stands after the first one. -/
theorem text_eq (n : Hostname) :
    n.text = match n.domain? with
      | none => n.shortName
      | some domain => n.shortName ++ "." ++ domain := by
  by_cases hdot : '.' ∈ n.text.toList
  · obtain ⟨front, back, htext, hfront⟩ := List.eq_append_cons_of_mem hdot
    obtain ⟨hshort, hdomain⟩ := parts_of_append htext hfront
    rw [hshort, hdomain, ← String.toList_inj, htext]
    simp
  · obtain ⟨hshort, hdomain⟩ := parts_of_not_mem hdot
    rw [hshort, hdomain]

theorem text_of_domain?_eq_none (h : n.domain? = none) : n.text = n.shortName :=
  n.text_eq.trans (by rw [h])

theorem domain?_eq_none_iff : n.domain? = none ↔ '.' ∉ n.text.toList := by
  constructor
  · intro hnone
    rw [text_of_domain?_eq_none hnone]
    exact n.dot_not_mem_shortName
  · intro hdot
    exact (parts_of_not_mem hdot).2

theorem text_of_domain?_eq_some (h : n.domain? = some domain) :
    n.text = n.shortName ++ "." ++ domain :=
  n.text_eq.trans (by rw [h])

theorem parts_of_text_eq (h : n.text = host ++ "." ++ domain) (hhost : '.' ∉ host.toList) :
    n.shortName = host ∧ n.domain? = some domain := by
  have htext : n.text.toList = host.toList ++ '.' :: domain.toList := by simp [h]
  simpa using parts_of_append htext hhost

/-- The domain of a name is a name. -/
theorem exists_domain (h : n.domain? = some domain) : ∃ d : Hostname, d.text = domain := by
  have hlist : n.text.toList = n.shortName.toList ++ '.' :: domain.toList := by
    simp [text_of_domain?_eq_some h]
  have hname : IsName domain.toList := IsName.of_append (hlist ▸ n.isName_text)
  have hsmall := n.small
  rw [hlist, List.map_append, List.map_cons] at hsmall
  have := List.append_inj_right hsmall (List.length_map _)
  exact ⟨⟨domain, fault?_eq_none_iff.2 hname, (List.cons.inj this).2⟩, rfl⟩

theorem isQualified_eq_false_iff : n.isQualified = false ↔ '.' ∉ n.text.toList := by
  rw [isQualified, Bool.eq_false_iff, ne_eq, List.contains_iff_mem]

end Inventory.Hostname
