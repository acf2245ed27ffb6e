-- Records in documents. The fields of a record are the members of an object that have
-- their names, in any order and among members of other names; what they say is handed
-- to the record, and where a field has no member its fallback is.
import Inventory.Proofs.JsonTexts

namespace Inventory.Json

variable {α β : Type} {members : List (String × Value)} {columns : List Column} {row : Row}
  {name other : String} {v : Value}

/-! ## Members by name -/

/-- The values of the members that have the name. -/
def named (name : String) (members : List (String × Value)) : List Value :=
  (members.filter (·.1 = name)).map Prod.snd

theorem named_cons_self : named name ((name, v) :: members) = v :: named name members := by
  simp [named]

theorem named_cons_of_ne (h : other ≠ name) :
    named name ((other, v) :: members) = named name members := by
  simp [named, h]

theorem named_append (name : String) (ms ns : List (String × Value)) :
    named name (ms ++ ns) = named name ms ++ named name ns := by
  simp [named]

theorem lookup_snoc_self (h : row.lookup name = none) (r : Reading) :
    (row ++ [(name, r)]).lookup name = some r := by
  simp [List.lookup_append, h]

theorem lookup_snoc_of_ne (h : name ≠ other) (r : Reading) :
    (row ++ [(other, r)]).lookup name = row.lookup name := by
  have hbeq : (name == other) = false := beq_eq_false_iff_ne.2 h
  simp [List.lookup_append, List.lookup_cons, hbeq]

/-! ## Going through the members -/

/-- A value is passed over whatever it is. -/
theorem pass_reading (v : Value) : v.reading.pass = .ok () := by
  cases v <;> rfl

theorem members_unknown (h : columns.find? (·.name = other) = none) :
    Column.members columns row (namedReadings ((other, v) :: members)) =
      Column.members columns row (namedReadings members) := by
  simp only [namedReadings, Column.members, ok_bind, h, pass_reading]

theorem members_known {c : Column} (h : columns.find? (·.name = other) = some c)
    (hfresh : row.lookup other = none) (hread : c.check v.reading = .ok ()) :
    Column.members columns row (namedReadings ((other, v) :: members)) =
      Column.members columns (row ++ [(other, v.reading)]) (namedReadings members) := by
  simp only [namedReadings, Column.members, ok_bind, h, hfresh, Option.isSome_none,
    Bool.false_eq_true, if_false, hread]

/-- No field has two members, every field reads its own, and none of them has been read yet. -/
structure Readable (columns : List Column) (row : Row) (members : List (String × Value)) :
    Prop where
  check : ∀ c ∈ columns, ∀ v ∈ named c.name members, c.check v.reading = .ok ()
  once : ∀ c ∈ columns, (named c.name members).length ≤ 1
  fresh : ∀ c ∈ columns, named c.name members ≠ [] → row.lookup c.name = none

theorem named_cons_of_unknown {c : Column} (hfind : columns.find? (·.name = other) = none)
    (hc : c ∈ columns) : named c.name ((other, v) :: members) = named c.name members :=
  named_cons_of_ne fun he => by simpa [he] using List.find?_eq_none.1 hfind c hc

theorem Readable.unknown (h : Readable columns row ((other, v) :: members))
    (hfind : columns.find? (·.name = other) = none) : Readable columns row members where
  check c hc := named_cons_of_unknown hfind hc ▸ h.check c hc
  once c hc := named_cons_of_unknown hfind hc ▸ h.once c hc
  fresh c hc := named_cons_of_unknown hfind hc ▸ h.fresh c hc

/-- A name that has been read does not come again. -/
theorem Readable.named_eq_nil {c : Column} (h : Readable columns row ((c.name, v) :: members))
    (hc : c ∈ columns) : named c.name members = [] := by
  have hone := h.once c hc
  rw [named_cons_self, List.length_cons] at hone
  exact List.length_eq_zero_iff.1 (by omega)

theorem Readable.known {c : Column} (h : Readable columns row ((c.name, v) :: members))
    (hc : c ∈ columns) : Readable columns (row ++ [(c.name, v.reading)]) members := by
  have hrest := h.named_eq_nil hc
  -- For the fields with other names nothing has changed.
  have hother {d : Column} (hne : d.name ≠ c.name) :
      named d.name ((c.name, v) :: members) = named d.name members := named_cons_of_ne hne.symm
  refine ⟨fun d hd w hw => ?_, fun d hd => ?_, fun d hd hne => ?_⟩
  · by_cases he : d.name = c.name
    · rw [he, hrest] at hw
      cases hw
    · exact h.check d hd w (hother he ▸ hw)
  · by_cases he : d.name = c.name
    · rw [he, hrest]
      exact Nat.zero_le 1
    · exact hother he ▸ h.once d hd
  · have he : d.name ≠ c.name := fun he => hne (he ▸ hrest)
    exact (lookup_snoc_of_ne he _).trans (h.fresh d hd (hother he ▸ hne))

/-- The members of an object are gone through, and a field is then found in the row under its
name. -/
theorem members_namedReadings (h : Readable columns row members) :
    ∃ found, Column.members columns row (namedReadings members) = .ok found ∧
      ∀ c ∈ columns, found.lookup c.name =
        (row.lookup c.name).or ((named c.name members).head?.map Value.reading) := by
  induction members generalizing row with
  | nil => exact ⟨row, rfl, fun c _ => by simp [named]⟩
  | cons m members ih =>
    obtain ⟨other, v⟩ := m
    cases hfind : columns.find? (·.name = other) with
    | none =>
      obtain ⟨found, hmembers, hlookup⟩ := ih (h.unknown hfind)
      refine ⟨found, (members_unknown hfind).trans hmembers, fun c hc => ?_⟩
      rw [named_cons_of_unknown hfind hc, hlookup c hc]
    | some column =>
      have hcolumn : column ∈ columns := List.mem_of_find?_eq_some hfind
      obtain rfl : column.name = other := by simpa using List.find?_some hfind
      have hmember : v ∈ named column.name ((column.name, v) :: members) :=
        named_cons_self ▸ List.mem_cons_self
      have hunseen := h.fresh column hcolumn (List.ne_nil_of_mem hmember)
      have hread := h.check column hcolumn v hmember
      obtain ⟨found, hmembers, hlookup⟩ := ih (h.known hcolumn)
      refine ⟨found, (members_known hfind hunseen hread).trans hmembers, fun c hc => ?_⟩
      rw [hlookup c hc]
      by_cases he : c.name = column.name
      · rw [he, named_cons_self, lookup_snoc_self hunseen, hunseen]
        rfl
      · rw [named_cons_of_ne (Ne.symm he), lookup_snoc_of_ne he]

/-- The members that have a field are all read by it. -/
theorem check_of_members {found : Row} {c : Column}
    (h : Column.members columns row (namedReadings members) = .ok found)
    (hfind : columns.find? (·.name = name) = some c) (hv : v ∈ named name members) :
    c.check v.reading = .ok () := by
  induction members generalizing row with
  | nil => cases hv
  | cons m members ih =>
    obtain ⟨other, w⟩ := m
    simp only [namedReadings, Column.members, ok_bind] at h
    by_cases he : other = name
    · subst he
      simp only [hfind] at h
      split at h
      · cases h
      · rw [named_cons_self] at hv
        cases hread : c.check w.reading with
        | error cause => rw [hread] at h; cases h
        | ok u =>
          rw [hread, ok_bind] at h
          rcases List.mem_cons.1 hv with rfl | hv
          · exact hread
          · exact ih h hv
    · rw [named_cons_of_ne he] at hv
      split at h
      · rw [pass_reading, ok_bind] at h
        exact ih h hv
      · split at h
        · cases h
        · rename_i column _ _
          cases hread : column.check w.reading with
          | error cause => rw [hread] at h; cases h
          | ok u =>
            rw [hread, ok_bind] at h
            exact ih h hv

/-! ## Fields -/

/-- What the members say for a field: its one value, or nothing where the field has a value of
its own. -/
inductive Gives (f : RecordField α) (a : α) (members : List (String × Value)) : Prop
  | given {v : Value} (hone : named f.name members = [v]) (h : f.decode v.reading = .ok a)
  | leftOut (hnone : named f.name members = []) (h : f.fallback = some a)

/-- Only the members with the name of the field count. -/
theorem Gives.congr {f : RecordField α} {a : α} {others : List (String × Value)}
    (h : Gives f a members) (hsame : named f.name others = named f.name members) :
    Gives f a others := by
  cases h with
  | given hone hread => exact .given (hsame.trans hone) hread
  | leftOut hnone hfallback => exact .leftOut (hsame.trans hnone) hfallback

/-- A field of a record and its value. -/
structure Entry where
  {Answer : Type}
  field : RecordField Answer
  value : Answer

namespace Entry

variable {e : Entry}

/-- The members give the field its value. -/
abbrev Given (members : List (String × Value)) (e : Entry) : Prop :=
  Gives e.field e.value members

/-- The field has its value in the row. -/
abbrev Holds (row : Row) (e : Entry) : Prop := e.field.get row = .ok e.value

theorem Given.once (h : e.Given members) : (named e.field.name members).length ≤ 1 := by
  cases h with
  | given hone => rw [hone]; rfl
  | leftOut hnone => rw [hnone]; exact Nat.zero_le 1

theorem Given.check (h : e.Given members) (hv : v ∈ named e.field.name members) :
    e.field.column.check v.reading = .ok () := by
  cases h with
  | given hone hread =>
    rw [hone, List.mem_singleton] at hv
    simp [RecordField.column, hv, hread, Except.map]
  | leftOut hnone =>
    rw [hnone] at hv
    cases hv

theorem Given.holds (h : e.Given members)
    (hlookup : row.lookup e.field.name = (named e.field.name members).head?.map Value.reading) :
    e.Holds row := by
  cases h with
  | given hone hread =>
    simp only [hone, List.head?_cons, Option.map_some] at hlookup
    simp only [Holds, RecordField.get, hlookup, hread]
  | leftOut hnone hfallback =>
    simp only [hnone, List.head?_nil, Option.map_none] at hlookup
    simp only [Holds, RecordField.get, hlookup, hfallback]

/-- A field that has its value is not missing. -/
theorem Holds.found (h : e.Holds row) :
    (e.field.column.required && (row.lookup e.field.column.name).isNone) = false := by
  unfold Holds RecordField.get at h
  unfold RecordField.column
  cases hlookup : row.lookup e.field.name with
  | some r => simp
  | none =>
    cases hfallback : e.field.fallback with
    | some a => simp
    | none => simp [hlookup, hfallback] at h

end Entry

/-! ## Records -/

/-- An object whose members give the fields of a record their values is read as that record,
whatever else it has. -/
theorem row_object {entries : List Entry}
    (hcolumns : entries.map (fun e => e.field.column) = columns)
    (hgiven : entries.Forall (Entry.Given members)) :
    ∃ row, (Value.object members).reading.row columns = .ok row ∧
      entries.Forall (Entry.Holds row) := by
  subst hcolumns
  rw [List.forall_iff_forall_mem] at hgiven
  have hreadable : Readable (entries.map fun e => e.field.column) [] members :=
    ⟨List.forall_mem_map.2 fun e he v hv => (hgiven e he).check hv,
      List.forall_mem_map.2 fun e he => (hgiven e he).once, fun _ _ _ => rfl⟩
  obtain ⟨row, hmembers, hlookup⟩ := members_namedReadings hreadable
  have hholds (e : Entry) (he : e ∈ entries) : e.Holds row :=
    (hgiven e he).holds (hlookup e.field.column (List.mem_map_of_mem he))
  have hfound : ((entries.map fun e => e.field.column).any fun c =>
      c.required && (row.lookup c.name).isNone) = false :=
    List.any_eq_false.2 <| List.forall_mem_map.2 fun e he =>
      Bool.eq_false_iff.1 (hholds e he).found
  refine ⟨row, ?_, List.forall_iff_forall_mem.2 hholds⟩
  simp only [Value.reading, Reading.row, hmembers, ok_bind, Ending.done, hfound,
    Bool.false_eq_true, if_false]

/-- A decoder that reads a row and then its fields gives what the entries say. -/
theorem record_object {d : Decoder α} {finish : Row → Except Cause α} {a : α}
    (columns : List Column) (entries : List Entry)
    (hdecoder : d (Value.object members).reading =
      (Value.object members).reading.row columns >>= finish)
    (hcolumns : entries.map (fun e => e.field.column) = columns)
    (hgiven : entries.Forall (Entry.Given members))
    (hfinish : ∀ row, entries.Forall (Entry.Holds row) → finish row = .ok a) :
    d (Value.object members).reading = .ok a := by
  obtain ⟨row, hrow, hholds⟩ := row_object hcolumns hgiven
  rw [hdecoder, hrow, ok_bind, hfinish row hholds]

/-- A record is not read where one of its fields cannot read its member. -/
theorem record_object_error {d : Decoder α} {finish : Row → Except Cause α} {f : RecordField β}
    {cause : Cause} (columns : List Column)
    (hdecoder : d (Value.object members).reading =
      (Value.object members).reading.row columns >>= finish)
    (hfind : columns.find? (·.name = f.name) = some f.column) (hv : v ∈ named f.name members)
    (hrefused : f.decode v.reading = .error cause) :
    ∃ cause, d (Value.object members).reading = .error cause := by
  have hbad : f.column.check v.reading ≠ .ok () := by
    simp [RecordField.column, hrefused, Except.map]
  rw [hdecoder]
  simp only [Value.reading, Reading.row]
  cases hmembers : Column.members columns [] (namedReadings members) with
  | error cause => exact ⟨cause, rfl⟩
  | ok found => exact absurd (check_of_members hmembers hfind hv) hbad

/-! ## Values of fields -/

/-- The value is a list whose items say these things in this order. -/
def IsListOf (Says : Value → α → Prop) (v : Value) (as : List α) : Prop :=
  ∃ items, v = .list items ∧ List.Forall₂ Says items as

theorem list_of_isListOf {d : Decoder α} {Says : Value → α → Prop} {as : List α}
    (hitem : ∀ item a, Says item a → d item.reading = .ok a) (h : IsListOf Says v as) :
    Decoder.list d v.reading = .ok as := by
  obtain ⟨items, rfl, hitems⟩ := h
  have hread : Decoder.items d (itemReadings items) = .ok as := by
    induction hitems with
    | nil => rfl
    | cons hvalue _ ih =>
      simp only [itemReadings, Decoder.items, hitem _ _ hvalue, ok_bind, ih]
      rfl
  simp only [Value.reading, Decoder.list, hread, ok_bind, Ending.done]
  rfl


theorem word_natural (n : UInt64) : Decoder.word (Value.natural n.toNat).reading = .ok n := by
  have hlt : n.toNat < UInt64.size := n.toNat_lt
  simp [Decoder.word, Decoder.naturalBelow, Value.natural, Value.reading, natural?_decimal, hlt,
    Except.map]

theorem word_natural_of_le {n : Nat} (h : UInt64.size ≤ n) :
    ∃ cause, Decoder.word (Value.natural n).reading = .error cause := by
  simp [Decoder.word, Decoder.naturalBelow, Value.natural, Value.reading, natural?_decimal,
    Nat.not_lt.2 h, Except.map]

end Inventory.Json
