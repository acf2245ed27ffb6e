-- The texts that are DNS names, after blanks at the ends, one dot at the end and
-- the case of letters are set aside. A name is spelled from its labels, the last
-- of which is no number, and every such text is read as itself.
import Mathlib.Data.List.Basic
import Inventory.Proofs.DnsNames

namespace Inventory.Hostname

open Text

variable {s : String} {cs label name t : List Char}

/-! ## The grammar -/

/-- What may stand between two dots: letters, digits and hyphens, without a hyphen at an end. -/
structure LabelText (label : List Char) : Prop where
  nonempty : label ≠ []
  size : (String.ofList label).utf8ByteSize ≤ 63
  chars : ∀ c ∈ label, c.isAlphanum = true ∨ c = '-'
  head : label.head? ≠ some '-'
  last : label.getLast? ≠ some '-'

/-- One label that has more than digits in it, or a label, a dot and such a text. -/
inductive DottedText : List Char → Prop
  | top {label : List Char} (h : LabelText label) (hnumber : ∃ c ∈ label, c.isDigit = false) :
    DottedText label
  | dot {label rest : List Char} (h : LabelText label) (hrest : DottedText rest) :
    DottedText (label ++ '.' :: rest)

/-- A name is such a text that is not too long. -/
structure NameText (name : List Char) : Prop where
  dotted : DottedText name
  size : (String.ofList name).utf8ByteSize ≤ 253

/-- The text is left of `s` without blanks at the ends, without one dot behind the last label, and
in small letters. -/
def FoldsTo (s : String) (t : List Char) : Prop :=
  ∃ body name, TrimsTo s.toList body ∧ t = name.map Char.toLower ∧
    (body = name ++ ['.'] ∨ body = name ∧ body.getLast? ≠ some '.')

/-! ## Labels and dots -/

theorem isLabelChar_iff (c : Char) : isLabelChar c = true ↔ c.isAlphanum = true ∨ c = '-' := by
  simp [isLabelChar]

theorem labelText_iff : LabelText label ↔ IsLabel label := by
  constructor
  · rintro ⟨hne, hsize, hchars, hhead, hlast⟩
    refine ⟨hne, ?_, ?_, hhead, hlast⟩
    · rwa [utf8Size_eq]
    · intro c hc
      rw [isLabelChar_iff]
      exact hchars c hc
  · rintro ⟨hne, hsize, hchars, hhead, hlast⟩
    refine ⟨hne, ?_, ?_, hhead, hlast⟩
    · rwa [← utf8Size_eq]
    · intro c hc
      rw [← isLabelChar_iff]
      exact hchars c hc

/-- A text without dots is one label, and the last one. -/
theorem isDotted_iff_of_not_mem (h : '.' ∉ name) :
    IsDotted name ↔ IsLabel name ∧ ∃ c ∈ name, c.isDigit = false := by
  have htop : (topLabel name).all Char.isDigit = false ↔ ∃ c ∈ name, c.isDigit = false := by
    simp [topLabel_eq_self h]
  constructor
  · rintro ⟨heach, hnumber⟩
    rw [labels_eq_singleton h, List.forall_mem_singleton] at heach
    exact ⟨heach, htop.1 hnumber⟩
  · rintro ⟨hlabel, hnumber⟩
    constructor
    · rwa [labels_eq_singleton h, List.forall_mem_singleton]
    · exact htop.2 hnumber

/-- A text is cut at its first dot. -/
theorem isDotted_iff_of_cut (h : '.' ∉ label) {rest : List Char} :
    IsDotted (label ++ '.' :: rest) ↔ IsLabel label ∧ IsDotted rest := by
  rw [isDotted_append_iff, labels_eq_singleton h, List.forall_mem_singleton]

theorem DottedText.isDotted (h : DottedText name) : IsDotted name := by
  induction h with
  | top h hnumber =>
    have hlabel := labelText_iff.1 h
    exact (isDotted_iff_of_not_mem hlabel.dot_not_mem).2 ⟨hlabel, hnumber⟩
  | dot h _ ih =>
    have hlabel := labelText_iff.1 h
    exact (isDotted_iff_of_cut hlabel.dot_not_mem).2 ⟨hlabel, ih⟩

theorem IsDotted.dottedText {name : List Char} (h : IsDotted name) : DottedText name := by
  by_cases hdot : '.' ∈ name
  · obtain ⟨label, rest, hname, hlabel⟩ := List.eq_append_cons_of_mem hdot
    have hshorter : rest.length < name.length := by
      simp only [hname, List.length_append, List.length_cons]
      omega
    rw [hname] at h ⊢
    obtain ⟨hfirst, hrest⟩ := (isDotted_iff_of_cut hlabel).1 h
    exact .dot (labelText_iff.2 hfirst) hrest.dottedText
  · obtain ⟨hlabel, hnumber⟩ := (isDotted_iff_of_not_mem hdot).1 h
    exact .top (labelText_iff.2 hlabel) hnumber
termination_by name.length

theorem nameText_iff : NameText name ↔ IsName name := by
  constructor
  · rintro ⟨hdotted, hsize⟩
    exact ⟨hdotted.isDotted, by rwa [utf8Size_eq]⟩
  · rintro ⟨hdotted, hsize⟩
    exact ⟨hdotted.dottedText, by rwa [← utf8Size_eq]⟩

instance : DecidablePred NameText := fun _ =>
  decidable_of_iff _ (fault?_eq_none_iff.trans nameText_iff.symm)

/-- Only the last label must not be a number. -/
example : NameText "bmc-01.3000.example.com".toList ∧ ¬ NameText "10.100.16.22".toList := by
  decide +kernel

/-! ## Folding -/

theorem dropRootDot_eq_iff :
    dropRootDot cs = name ↔ cs = name ++ ['.'] ∨ cs = name ∧ cs.getLast? ≠ some '.' := by
  unfold dropRootDot
  split
  · rename_i hdot
    obtain ⟨front, rfl⟩ := List.getLast?_eq_some_iff.1 hdot
    simp
  · rename_i hdot
    constructor
    · rintro rfl
      exact .inr ⟨rfl, hdot⟩
    · rintro (rfl | ⟨rfl, _⟩)
      · simp at hdot
      · rfl

/-- Every text is folded in one way. -/
theorem foldsTo_iff : FoldsTo s t ↔ t = folded s := by
  simp only [FoldsTo, trimsTo_iff, ← dropRootDot_eq_iff, folded]
  constructor
  · rintro ⟨_, _, rfl, rfl, rfl⟩
    rfl
  · rintro rfl
    exact ⟨_, _, rfl, rfl, rfl⟩

/-! ## Reading -/

theorem exists_parse_iff_nameText : (∃ n, parse s = .ok n) ↔ NameText (folded s) := by
  simp only [parse_eq_ok_iff, nameText_iff]
  constructor
  · rintro ⟨n, hn⟩
    rw [← hn]
    exact n.isName_text
  · intro h
    have hfaultless : fault? (String.ofList (folded s)).toList = none := by
      rw [String.toList_ofList]
      exact fault?_eq_none_iff.2 h
    have hsmall : (String.ofList (folded s)).toList.map Char.toLower =
        (String.ofList (folded s)).toList := by
      rw [String.toList_ofList]
      exact folded_small s
    exact ⟨⟨_, hfaultless, hsmall⟩, String.toList_ofList⟩

/-- Exactly the texts of the grammar are read, after they are folded. What is read is the folded
text, and this is read as itself. -/
theorem names_exact (s : String) :
    ∃ t, (∀ u, FoldsTo s u ↔ u = t) ∧ ((∃ n, parse s = .ok n) ↔ NameText t) ∧
      ∀ n, parse s = .ok n → n.text = String.ofList t ∧ parse (String.ofList t) = .ok n := by
  refine ⟨folded s, fun _ => foldsTo_iff, exists_parse_iff_nameText, ?_⟩
  intro n hn
  have htext : n.text = String.ofList (folded s) := by
    rw [← parse_eq_ok_iff.1 hn, String.ofList_toList]
  rw [← htext]
  exact ⟨rfl, n.parse_text⟩

theorem names_exact_absolute :
    ∃ n, parse " BMC-01.3000.Example.com. " = .ok n ∧ n.text = "bmc-01.3000.example.com" ∧
      parse "bmc-01.3000.example.com" = .ok n := by
  obtain ⟨t, hfolds, _, hread⟩ := names_exact " BMC-01.3000.Example.com. "
  have ht : String.ofList t = "bmc-01.3000.example.com" := by
    rw [← (hfolds _).1 (foldsTo_iff.2 rfl)]
    decide +kernel
  have hn : parse " BMC-01.3000.Example.com. " =
      .ok ⟨"bmc-01.3000.example.com", by decide +kernel, by decide +kernel⟩ := by decide +kernel
  have hagain := (hread _ hn).2
  rw [ht] at hagain
  exact ⟨_, hn, rfl, hagain⟩

/-- Only one dot at the end is left out, and no blank in front of it. -/
example : parse "example.com.." = .error .empty ∧
    parse "example.com ." = .error (.invalidCharacter "example.com " ' ') := by
  decide +kernel

end Inventory.Hostname
