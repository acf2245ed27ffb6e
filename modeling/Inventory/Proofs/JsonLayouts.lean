-- Both layouts of a value, in one line and with one item a line, are texts that the
-- grammar has for it.
import Inventory.Json
import Inventory.Proofs.JsonGrammar
import Inventory.Proofs.Numerals

namespace Inventory.Json

open Text

variable {c : Char} {cs rest : List Char} {ts : List Token}

/-! ## Values -/

/-- Induction on a value and on the values in it. -/
@[elab_as_elim]
theorem induction {P : Json → Prop} (null : P null) (bool : ∀ b, P (bool b))
    (number : ∀ n, P (number n)) (text : ∀ s, P (text s))
    (list : ∀ items, (∀ item ∈ items, P item) → P (list items))
    (object : ∀ members, (∀ m ∈ members, P m.2) → P (object members)) (j : Json) : P j := by
  refine @Json.rec P (fun items => ∀ item ∈ items, P item) (fun ms => ∀ m ∈ ms, P m.2)
    (fun m => P m.2) null bool number text list object ?_ ?_ ?_ ?_ (fun _ _ h => h) j
  · exact fun _ h => absurd h List.not_mem_nil
  · exact fun _ _ hitem hrest => List.forall_mem_cons.2 ⟨hitem, hrest⟩
  · exact fun _ h => absurd h List.not_mem_nil
  · exact fun _ _ hm hrest => List.forall_mem_cons.2 ⟨hm, hrest⟩

mutual

/-- The value as any document may have it. -/
def value : Json → Value
  | null => .null
  | bool b => .bool b
  | number n => .natural n
  | text s => .text s
  | list items => .list (itemValues items)
  | object members => .object (memberValues members)

def itemValues : List Json → List Value
  | [] => []
  | item :: rest => item.value :: itemValues rest

def memberValues : List (String × Json) → List (String × Value)
  | [] => []
  | (name, j) :: rest => (name, j.value) :: memberValues rest

end

/-! ## Tokens one by one -/

theorem Lexes.openList (h : Lexes rest ts) : Lexes ('[' :: rest) (.openList :: ts) :=
  .token .openList h

theorem Lexes.closeList (h : Lexes rest ts) : Lexes (']' :: rest) (.closeList :: ts) :=
  .token .closeList h

theorem Lexes.openObject (h : Lexes rest ts) : Lexes ('\x7b' :: rest) (.openObject :: ts) :=
  .token .openObject h

theorem Lexes.closeObject (h : Lexes rest ts) : Lexes ('\x7d' :: rest) (.closeObject :: ts) :=
  .token .closeObject h

theorem Lexes.comma (h : Lexes rest ts) : Lexes (',' :: rest) (.comma :: ts) :=
  .token .comma h

theorem Lexes.colon (h : Lexes rest ts) : Lexes (':' :: rest) (.colon :: ts) :=
  .token .colon h

theorem Lexes.newLine (depth : Nat) (h : Lexes rest ts) : Lexes (newLine depth ++ rest) ts := by
  refine .blank (Or.inr (Or.inl rfl)) ?_
  induction 2 * depth with
  | zero => exact h
  | succ n ih => exact .blank (Or.inl rfl) ih

/-! ## Texts between quotes -/

/-- A character is written as a backslash and a letter, as a control character with its number, or
as it is. -/
theorem escaped_cases (c : Char) :
    (∃ d, escaped c = ['\\', d] ∧ unescaped? d = some c) ∨
    (escaped c = ['\\', 'u'] ++ hexDigits 4 c.toNat ∧ c.toNat < 32) ∨
    (escaped c = [c] ∧ c ≠ '"' ∧ c ≠ '\\' ∧ ¬ c.toNat < 32) := by
  by_cases hshort : c ∈ ['"', '\\', '\x08', '\t', '\n', '\x0c', '\r']
  · simp only [List.mem_cons, List.not_mem_nil, or_false] at hshort
    rcases hshort with rfl | rfl | rfl | rfl | rfl | rfl | rfl <;> exact Or.inl ⟨_, rfl, rfl⟩
  · simp only [List.mem_cons, List.not_mem_nil, or_false, not_or] at hshort
    obtain ⟨hquote, hbackslash, hother⟩ := hshort
    by_cases hcontrol : c.toNat < 32
    · exact Or.inr (Or.inl ⟨by simp [escaped, hquote, hbackslash, hother, hcontrol], hcontrol⟩)
    · exact Or.inr (Or.inr ⟨by simp [escaped, hquote, hbackslash, hother, hcontrol], hquote,
        hbackslash, hcontrol⟩)

theorem Escaping.escaped {s : List Char} (h : Escaping cs s) (c : Char) :
    Escaping (escaped c ++ cs) (c :: s) := by
  rcases escaped_cases c with ⟨d, hd, hc⟩ | ⟨hunit, hc⟩ | ⟨hplain, hquote, hbackslash, hc⟩
  · rw [hd]
    exact .short hc h
  · have hvalue : hexValue (hexDigits 4 c.toNat) = c.toNat := by
      rw [hexValue_hexDigits, Nat.mod_eq_of_lt (by omega)]
    rw [hunit]
    exact .unit ⟨hexDigits_length 4 _, fun _ => isHex_of_mem_hexDigits, hvalue⟩ h
  · rw [hplain]
    exact .plain hquote hbackslash (Nat.not_lt.1 hc) h

theorem escaping_flatMap (s : List Char) : Escaping (s.flatMap escaped) s := by
  induction s with
  | nil => exact .nil
  | cons c s ih => exact ih.escaped c

theorem Lexes.text (s : String) (h : Lexes rest ts) :
    Lexes (quoted s ++ rest) (.text (.ok s) :: ts) :=
  .token (.text (escaping_flatMap s.toList)) h

/-! ## Numbers -/

theorem numeralText_decimal (n : Nat) :
    NumeralText (decimal n) ⟨false, decimal n, none, none⟩ where
  digits := ⟨decimal_ne_nil, fun _ => isDigit_of_mem_decimal⟩
  zero h := by rw [eq_zero_of_head?_decimal h]; rfl
  parts := ⟨[], [], .absent, .absent, by simp⟩

theorem endsNumber_nil : EndsNumber [] := by
  rintro c ⟨⟩

theorem endsNumber_cons (h : c ∈ [',', ']', '\x7d', '\n']) : EndsNumber (c :: rest) := by
  rintro d ⟨⟩
  simp only [List.mem_cons, List.not_mem_nil, or_false] at h
  rcases h with rfl | rfl | rfl | rfl <;> decide

/-! ## Whole values -/

/-- The characters are a text of the value wherever they stand. -/
def Spells (cs : List Char) (j : Json) : Prop :=
  ∀ {rest ts}, EndsNumber rest → Lexes rest ts → Lexes (cs ++ rest) (j.value.tokens ++ ts)

section Compact

theorem lexes_compactItems {item : Json} {items : List Json}
    (h : ∀ i ∈ item :: items, Spells (compact i) i) (hends : EndsNumber rest)
    (hrest : Lexes rest ts) :
    Lexes (compactItems (item :: items) ++ rest)
      (item.value.tokens ++ itemTokens (itemValues items) ++ ts) := by
  induction items generalizing item with
  | nil =>
    simpa only [compactItems, itemValues, itemTokens, List.append_nil] using
      h item List.mem_cons_self hends hrest
  | cons next items ih =>
    have htail := ih (fun i hi => h i (List.mem_cons_of_mem _ hi))
    have hcomma : EndsNumber (',' :: (compactItems (next :: items) ++ rest)) :=
      endsNumber_cons (by simp)
    simpa only [compactItems, itemValues, itemTokens, List.append_assoc, List.cons_append] using
      h item List.mem_cons_self hcomma htail.comma

theorem lexes_compactMembers {m : String × Json} {members : List (String × Json)}
    (h : ∀ n ∈ m :: members, Spells (compact n.2) n.2) (hends : EndsNumber rest)
    (hrest : Lexes rest ts) :
    Lexes (compactMembers (m :: members) ++ rest)
      (.text (.ok m.1) :: .colon ::
        (m.2.value.tokens ++ memberTokens (memberValues members) ++ ts)) := by
  induction members generalizing m with
  | nil =>
    simpa only [compactMembers, memberValues, memberTokens, List.append_nil, List.append_assoc,
      List.cons_append] using (h m List.mem_cons_self hends hrest).colon.text m.1
  | cons next members ih =>
    have htail := ih (fun n hn => h n (List.mem_cons_of_mem _ hn))
    have hcomma : EndsNumber (',' :: (compactMembers (next :: members) ++ rest)) :=
      endsNumber_cons (by simp)
    simpa only [compactMembers, memberValues, memberTokens, List.append_assoc,
      List.cons_append] using (h m List.mem_cons_self hcomma htail.comma).colon.text m.1

theorem spells_compact (j : Json) : Spells (compact j) j := by
  induction j using Json.induction with
  | null => exact fun _ h => .token .null h
  | bool b => exact fun _ h => .token (.bool b) h
  | number n => exact fun hends h => .number (numeralText_decimal n) hends h
  | text s => exact fun _ h => h.text s
  | list items ih =>
    intro rest ts _ h
    cases items with
    | nil => exact h.closeList.openList
    | cons item items =>
      have hclose : EndsNumber (']' :: rest) := endsNumber_cons (by simp)
      simpa only [compact, value, itemValues, Value.tokens, List.append_assoc, List.cons_append,
        List.nil_append] using (lexes_compactItems ih hclose h.closeList).openList
  | object members ih =>
    intro rest ts _ h
    cases members with
    | nil => exact h.closeObject.openObject
    | cons m members =>
      have hclose : EndsNumber ('\x7d' :: rest) := endsNumber_cons (by simp)
      simpa only [compact, value, memberValues, Value.tokens, List.append_assoc,
        List.cons_append, List.nil_append] using
        (lexes_compactMembers ih hclose h.closeObject).openObject

end Compact

section Pretty

theorem endsNumber_newLine (depth : Nat) : EndsNumber (newLine depth ++ rest) :=
  endsNumber_cons (by simp)

/-- The items after the first also say that no number goes on into them. -/
theorem lexes_prettyItems (depth : Nat) {items : List Json}
    (h : ∀ i ∈ items, Spells (pretty depth i) i) (hends : EndsNumber rest)
    (hrest : Lexes rest ts) :
    EndsNumber (prettyItems depth items ++ rest) ∧
      Lexes (prettyItems depth items ++ rest) (itemTokens (itemValues items) ++ ts) := by
  induction items with
  | nil => exact ⟨hends, hrest⟩
  | cons item items ih =>
    obtain ⟨htailEnds, htail⟩ := ih fun i hi => h i (List.mem_cons_of_mem _ hi)
    have hitem := (h item List.mem_cons_self htailEnds htail).newLine depth
    refine ⟨endsNumber_cons (by simp), ?_⟩
    simpa only [prettyItems, itemValues, itemTokens, List.append_assoc, List.cons_append] using
      hitem.comma

theorem Lexes.member {value : Json} (name : String) (depth : Nat) (hvalue : Spells cs value)
    (hends : EndsNumber rest) (h : Lexes rest ts) :
    Lexes (Json.newLine depth ++ quoted name ++ [':', ' '] ++ cs ++ rest)
      (.text (.ok name) :: .colon :: (value.value.tokens ++ ts)) := by
  have hblank := Lexes.blank (Or.inl rfl) (hvalue hends h)
  simpa only [List.append_assoc, List.cons_append, List.nil_append] using
    (hblank.colon.text name).newLine depth

theorem lexes_prettyMembers (depth : Nat) {members : List (String × Json)}
    (h : ∀ m ∈ members, Spells (pretty depth m.2) m.2) (hends : EndsNumber rest)
    (hrest : Lexes rest ts) :
    EndsNumber (prettyMembers depth members ++ rest) ∧
      Lexes (prettyMembers depth members ++ rest)
        (memberTokens (memberValues members) ++ ts) := by
  induction members with
  | nil => exact ⟨hends, hrest⟩
  | cons m members ih =>
    obtain ⟨htailEnds, htail⟩ := ih fun n hn => h n (List.mem_cons_of_mem _ hn)
    have hmember := htail.member m.1 depth (h m List.mem_cons_self) htailEnds
    refine ⟨endsNumber_cons (by simp), ?_⟩
    simpa only [prettyMembers, memberValues, memberTokens, List.append_assoc,
      List.cons_append] using hmember.comma

theorem spells_pretty (j : Json) (depth : Nat) : Spells (pretty depth j) j := by
  induction j using Json.induction generalizing depth with
  | null => exact fun _ h => .token .null h
  | bool b => exact fun _ h => .token (.bool b) h
  | number n => exact fun hends h => .number (numeralText_decimal n) hends h
  | text s => exact fun _ h => h.text s
  | list items ih =>
    intro rest ts _ h
    cases items with
    | nil => exact h.closeList.openList
    | cons item items =>
      obtain ⟨htailEnds, htail⟩ := lexes_prettyItems (depth + 1)
        (fun i hi => ih i (List.mem_cons_of_mem _ hi) _) (endsNumber_newLine depth)
        (h.closeList.newLine depth)
      have hitem := (ih item List.mem_cons_self (depth + 1) htailEnds htail).newLine (depth + 1)
      simpa only [pretty, value, itemValues, Value.tokens, List.append_assoc, List.cons_append,
        List.nil_append] using hitem.openList
  | object members ih =>
    intro rest ts _ h
    cases members with
    | nil => exact h.closeObject.openObject
    | cons m members =>
      obtain ⟨htailEnds, htail⟩ := lexes_prettyMembers (depth + 1)
        (fun n hn => ih n (List.mem_cons_of_mem _ hn) _) (endsNumber_newLine depth)
        (h.closeObject.newLine depth)
      have hmember := htail.member m.1 (depth + 1) (ih m List.mem_cons_self (depth + 1)) htailEnds
      simpa only [pretty, value, memberValues, Value.tokens, List.append_assoc,
        List.cons_append, List.nil_append] using hmember.openObject

end Pretty

/-! ## Documents -/

theorem writes_compactText (j : Json) : Writes j.compactText j.value := by
  have h := spells_compact j endsNumber_nil .nil
  rwa [List.append_nil, List.append_nil, ← String.toList_ofList (l := compact j)] at h

theorem writes_prettyText (j : Json) : Writes j.prettyText j.value := by
  have h := spells_pretty j 0 endsNumber_nil .nil
  rwa [List.append_nil, List.append_nil, ← String.toList_ofList (l := pretty 0 j)] at h

/-- A line may end after the value. -/
theorem writes_prettyLine (j : Json) : Writes (j.prettyText ++ "\n") j.value := by
  have hend : Lexes ['\n'] [] := .blank (Or.inr (Or.inl rfl)) .nil
  have h := spells_pretty j 0 (endsNumber_cons (by simp)) hend
  rw [List.append_nil] at h
  unfold Writes
  rwa [String.toList_append, prettyText, String.toList_ofList]

end Inventory.Json
