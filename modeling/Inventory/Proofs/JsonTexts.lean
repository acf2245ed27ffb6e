-- Texts of values read back. The reading of a text is that of the value that it is a
-- text of, whatever its layout, so a decoder goes through that value and nothing else.
import Inventory.Json.Decoder
import Inventory.Proofs.JsonLayouts
import Inventory.Proofs.JsonTokens

namespace Inventory.Json

open Text

/-! ## Readings of values -/

mutual

/-- What is found in a text of a value. -/
def Value.reading : Value → Reading
  | .null => .null
  | .bool b => .bool b
  | .number n => .number n
  | .text s => .text (.ok s)
  | .list items => .list (itemReadings items) .closed
  | .object members => .object (namedReadings members) .closed

def itemReadings : List Value → List Reading
  | [] => []
  | item :: rest => item.reading :: itemReadings rest

def namedReadings : List (String × Value) → List (Key × Reading)
  | [] => []
  | (name, value) :: rest => (.ok name, value.reading) :: namedReadings rest

end

/-! ## Reading token by token -/

/-- Goes on after a step. -/
def resume : Step → List Token → Document
  | .going place frames, ts => build place frames ts
  | .whole v, ts => ⟨v, !ts.isEmpty⟩
  | .cut v, _ => ⟨v, false⟩

theorem build_cons (place : Place) (frames : List Frame) (t : Token) (ts : List Token) :
    build place frames (t :: ts) = resume (step place frames t) ts := by
  rw [build]
  cases step place frames t <;> rfl

theorem tokens_cons (v : Value) : ∃ t ts, v.tokens = t :: ts ∧ t ≠ .closeList := by
  cases v with
  | list items => cases items <;> exact ⟨_, _, rfl, nofun⟩
  | object members => cases members <;> exact ⟨_, _, rfl, nofun⟩
  | _ => exact ⟨_, _, rfl, nofun⟩

/-- The first item of a list is read as a value is. -/
theorem build_firstItem (frames : List Frame) (v : Value) (ts : List Token) :
    build .firstItem frames (v.tokens ++ ts) = build .value frames (v.tokens ++ ts) := by
  obtain ⟨t, more, htokens, hne⟩ := tokens_cons v
  have hstep : step .firstItem frames t = step .value frames t := by
    cases t <;> first | rfl | exact absurd rfl hne
  rw [htokens, List.cons_append, build_cons, build_cons, hstep]

/-- The tokens of a value are read as the value, whatever is open around it. -/
def Builds (v : Value) : Prop :=
  ∀ frames ts, build .value frames (v.tokens ++ ts) = resume (deliver v.reading frames) ts

theorem build_items {items : List Value} (h : ∀ i ∈ items, Builds i) (read : List Reading)
    (frames : List Frame) (ts : List Token) :
    build .next (.list read :: frames) (itemTokens items ++ .closeList :: ts) =
      resume (deliver (.list (read ++ itemReadings items) .closed) frames) ts := by
  induction items generalizing read with
  | nil => rw [itemReadings, List.append_nil]; exact build_cons ..
  | cons item items ih =>
    have htail := ih (fun i hi => h i (List.mem_cons_of_mem _ hi)) (read ++ [item.reading])
    rw [List.append_assoc, List.singleton_append] at htail
    rw [itemTokens, List.append_assoc, List.cons_append, build_cons, itemReadings, ← htail]
    exact h item List.mem_cons_self _ _

/-- A member is read as its name and its value. -/
theorem build_member {value : Value} (h : Builds value) (name : String) {place : Place}
    (hplace : place = .key ∨ place = .firstKey) (read : List (Key × Reading))
    (frames : List Frame) (ts : List Token) :
    build place (.object read :: frames)
        (.text (.ok name) :: .colon :: (value.tokens ++ ts)) =
      build .next (.object (read ++ [(.ok name, value.reading)]) :: frames) ts := by
  have hname : step place (.object read :: frames) (.text (.ok name)) =
      .going .colon (.member read (.ok name) :: frames) := by
    rcases hplace with rfl | rfl <;> rfl
  rw [build_cons, hname]
  exact h (.member read (.ok name) :: frames) ts

theorem build_members {members : List (String × Value)} (h : ∀ m ∈ members, Builds m.2)
    (read : List (Key × Reading)) (frames : List Frame) (ts : List Token) :
    build .next (.object read :: frames) (memberTokens members ++ .closeObject :: ts) =
      resume (deliver (.object (read ++ namedReadings members) .closed) frames) ts := by
  induction members generalizing read with
  | nil => rw [namedReadings, List.append_nil]; exact build_cons ..
  | cons m members ih =>
    have htail := ih (fun n hn => h n (List.mem_cons_of_mem _ hn))
      (read ++ [(.ok m.1, m.2.reading)])
    rw [List.append_assoc, List.singleton_append,
      ← build_member (h m List.mem_cons_self) m.1 (Or.inl rfl)] at htail
    rw [memberTokens, namedReadings, ← htail]
    simp only [List.cons_append, List.append_assoc]
    exact build_cons ..

theorem builds (v : Value) : Builds v := by
  induction v using Value.induction with
  | null => exact fun _ _ => build_cons ..
  | bool b => exact fun _ _ => build_cons ..
  | number n => exact fun _ _ => build_cons ..
  | text s => exact fun _ _ => build_cons ..
  | list items ih =>
    intro frames ts
    cases items with
    | nil => exact build_cons .firstItem (.list [] :: frames) .closeList ts
    | cons item items =>
      -- The first item stands where the bracket could be, the others stand after a comma.
      have htail := build_items (fun i hi => ih i (List.mem_cons_of_mem _ hi)) [item.reading]
        frames ts
      have hitem := ih item List.mem_cons_self (.list [] :: frames)
        (itemTokens items ++ .closeList :: ts)
      rw [← build_firstItem] at hitem
      simp only [Value.tokens, List.append_assoc, List.cons_append, List.nil_append]
      exact hitem.trans htail
  | object members ih =>
    intro frames ts
    cases members with
    | nil => exact build_cons .firstKey (.object [] :: frames) .closeObject ts
    | cons m members =>
      have htail := build_members (fun n hn => ih n (List.mem_cons_of_mem _ hn))
        [(.ok m.1, m.2.reading)] frames ts
      have hmember := build_member (ih m List.mem_cons_self) m.1 (Or.inr rfl) [] frames
        (memberTokens members ++ .closeObject :: ts)
      simp only [Value.tokens, List.append_assoc, List.cons_append, List.nil_append]
      exact hmember.trans htail

/-! ## Texts -/

variable {s : String} {v : Value}

theorem Writes.ofText (h : Writes s v) : Document.ofText s = ⟨v.reading, false⟩ := by
  have hbuild := builds v [] []
  rw [List.append_nil] at hbuild
  rw [Document.ofText, h.scans.tokens]
  exact hbuild

/-- A decoder is given the reading of the value, and the text has no more than that. -/
theorem Writes.decode {α : Type} (h : Writes s v) (d : Decoder α) :
    Json.decode d s = d v.reading := by
  simp only [Json.decode, h.ofText]
  cases d v.reading <;> rfl

/-! ## Values of documents -/

/-- What is found in a text of a value. -/
def reading (j : Json) : Reading := j.value.reading

theorem reading_number (n : Nat) :
    (number n).reading = .number ⟨false, decimal n, none, none⟩ := rfl

theorem reading_text (s : String) : (text s).reading = .text (.ok s) := rfl

theorem reading_list (items : List Json) :
    (list items).reading = .list (items.map reading) .closed := by
  have hitems : itemReadings (itemValues items) = items.map reading := by
    induction items with
    | nil => rfl
    | cons item items ih =>
      rw [itemValues, itemReadings, ih]
      rfl
  rw [reading, value, Value.reading, hitems]

theorem reading_object (members : List (String × Json)) :
    (object members).reading = .object (members.map fun m => (.ok m.1, m.2.reading)) .closed := by
  have hmembers : namedReadings (memberValues members) =
      members.map fun m => (.ok m.1, m.2.reading) := by
    induction members with
    | nil => rfl
    | cons m members ih =>
      rw [memberValues, namedReadings, ih]
      rfl
  rw [reading, value, Value.reading, hmembers]

mutual

/-- Any value whose numbers are naturals. -/
def decoder : Decoder Json
  | .null => .ok .null
  | .bool b => .ok (.bool b)
  | .number n =>
    match n.natural? with
    | some v => .ok (.number v)
    | none => .error n.refusal
  | .text read => read.map .text
  | .list rs ending => do
    let items ← itemsDecoder rs
    ending.done
    return .list items
  | .object ms ending => do
    let members ← membersDecoder ms
    ending.done
    return .object members
  | .broken fault => .error fault.read

def itemsDecoder : List Reading → Except Cause (List Json)
  | [] => .ok []
  | r :: rest => do
    let item ← decoder r
    let items ← itemsDecoder rest
    return item :: items

def membersDecoder : List (Key × Reading) → Except Cause (List (String × Json))
  | [] => .ok []
  | (key, r) :: rest => do
    let name ← key
    let value ← decoder r
    let members ← membersDecoder rest
    return (name, value) :: members

end

theorem natural?_decimal (n : Nat) : (⟨false, decimal n, none, none⟩ : Numeral).natural? = some n :=
  congrArg some (decimalValue_decimal n)

theorem itemsDecoder_map {items : List Json} (h : ∀ i ∈ items, decoder i.reading = .ok i) :
    itemsDecoder (items.map reading) = .ok items := by
  induction items with
  | nil => rfl
  | cons item items ih =>
    rw [List.map_cons, itemsDecoder, h item List.mem_cons_self,
      ih fun i hi => h i (List.mem_cons_of_mem _ hi)]
    rfl

theorem membersDecoder_map {members : List (String × Json)}
    (h : ∀ m ∈ members, decoder m.2.reading = .ok m.2) :
    membersDecoder (members.map fun m => (.ok m.1, m.2.reading)) = .ok members := by
  induction members with
  | nil => rfl
  | cons m members ih =>
    rw [List.map_cons, membersDecoder, h m List.mem_cons_self,
      ih fun n hn => h n (List.mem_cons_of_mem _ hn)]
    rfl

theorem decoder_reading (j : Json) : decoder j.reading = .ok j := by
  induction j using Json.induction with
  | null => rfl
  | bool b => rfl
  | number n => simp only [reading_number, decoder, natural?_decimal]
  | text s => rfl
  | list items ih =>
    rw [reading_list, decoder, itemsDecoder_map ih]
    rfl
  | object members ih =>
    rw [reading_object, decoder, membersDecoder_map ih]
    rfl

end Inventory.Json
