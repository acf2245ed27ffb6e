-- Records read back from their own documents. What is written for a field is
-- its name with a value that the field reads, or nothing where the field has a
-- value of its own; a record of such fields gives back the values it was
-- written from. Passwords are not written, so they are the one thing lost.
import Inventory.Proofs.DnsNames
import Inventory.Proofs.HardwareAddresses
import Inventory.Proofs.JsonRecords
import Inventory.Proofs.Locations
import Inventory.Record.Endpoint
import Inventory.Record.Fru
import Inventory.Record.Identifiers
import Inventory.Record.Reservation

namespace Inventory

namespace Json

variable {α β : Type}

/-! ## Members -/

theorem memberValues_append (ms ns : List (String × Json)) :
    memberValues (ms ++ ns) = memberValues ms ++ memberValues ns := by
  induction ms with
  | nil => rfl
  | cons m ms ih => rw [List.cons_append, memberValues, memberValues, ih, List.cons_append]

/-- What is written for a field whose value is `a`. -/
inductive Says (f : RecordField α) (a : α) : List (String × Json) → Prop
  | given {j : Json} (h : f.decode j.reading = .ok a) : Says f a [(f.name, j)]
  | leftOut (h : f.fallback = some a) : Says f a []

/-- A field of a record, its value, and the members that are written for it. -/
structure Written extends Entry where
  members : List (String × Json)
  said : Says field value members

namespace Written

/-- A field that is always written. -/
abbrev given (f : RecordField α) (a : α) (j : Json) (h : f.decode j.reading = .ok a) : Written :=
  ⟨⟨f, a⟩, [(f.name, j)], .given h⟩

/-- A field that is never written. -/
abbrev leftOut (f : RecordField α) (a : α) (h : f.fallback = some a) : Written :=
  ⟨⟨f, a⟩, [], .leftOut h⟩

theorem says_optionalMember {f : RecordField (Option α)} {encode : α → Json}
    (h : ∀ a, f.decode (encode a).reading = .ok (some a)) (hnone : f.fallback = some none)
    (value : Option α) : Says f value (optionalMember f.name encode value) := by
  cases value with
  | none => exact .leftOut hnone
  | some a => exact .given (h a)

/-- A field that is written where it has a value. -/
abbrev optional (f : RecordField (Option α)) (encode : α → Json) (value : Option α)
    (h : ∀ a, f.decode (encode a).reading = .ok (some a)) (hnone : f.fallback = some none) :
    Written :=
  ⟨⟨f, value⟩, optionalMember f.name encode value, says_optionalMember h hnone value⟩

variable {w : Written} {written : List Written} {name : String}

theorem named_members_of_ne (h : w.field.name ≠ name) :
    named name (memberValues w.members) = [] := by
  obtain ⟨⟨f, a⟩, members, hsaid⟩ := w
  cases hsaid with
  | given => exact named_cons_of_ne h
  | leftOut => rfl

theorem given_members (w : Written) : w.Given (memberValues w.members) := by
  obtain ⟨⟨f, a⟩, members, hsaid⟩ := w
  cases hsaid with
  | given hread => exact .given named_cons_self hread
  | leftOut hfallback => exact .leftOut rfl hfallback

theorem named_flatMap_of_ne (h : ∀ w ∈ written, w.field.name ≠ name) :
    named name (memberValues (written.flatMap members)) = [] := by
  induction written with
  | nil => rfl
  | cons w written ih =>
    rw [List.flatMap_cons, memberValues_append, named_append,
      named_members_of_ne (h w List.mem_cons_self), ih fun v hv => h v (List.mem_cons_of_mem _ hv),
      List.append_nil]

/-- Fields with names of their own are each given their value by what is written for all of
them. -/
theorem given_flatMap (hnodup : (written.map fun w => w.field.name).Nodup) :
    ∀ w ∈ written, w.Given (memberValues (written.flatMap members)) := by
  induction written with
  | nil => nofun
  | cons first written ih =>
    obtain ⟨hfresh, hnodup⟩ := List.nodup_cons.1 hnodup
    have hne (w : Written) (hw : w ∈ written) : w.field.name ≠ first.field.name := fun he =>
      hfresh (List.mem_map.2 ⟨w, hw, he⟩)
    rw [List.flatMap_cons, memberValues_append]
    refine List.forall_mem_cons.2 ⟨first.given_members.congr ?_, fun w hw =>
      (ih hnodup w hw).congr ?_⟩
    · rw [named_append, named_flatMap_of_ne hne, List.append_nil]
    · rw [named_append, named_members_of_ne (hne w hw).symm, List.nil_append]

end Written

/-! ## Records -/

/-- A decoder that reads a row and then its fields gives back what the fields were written
from. -/
theorem record_reading {d : Decoder α} {finish : Row → Except Cause α} {j : Json} {a : α}
    (columns : List Column) (written : List Written)
    (hdecoder : d j.reading = j.reading.row columns >>= finish)
    (hcolumns : written.map (fun w => w.field.column) = columns)
    (hmembers : j = .object (written.foldl (fun ms w => ms ++ w.members) []))
    (hnodup : (columns.map Column.name).Nodup)
    (hfinish : ∀ row, written.Forall (fun w => w.Holds row) → finish row = .ok a) :
    d j.reading = .ok a := by
  subst hcolumns hmembers
  have hnames : (written.map fun w => w.field.name).Nodup := by
    simpa [Function.comp_def, RecordField.column] using hnodup
  have hgiven : (written.map Written.toEntry).Forall
      (Entry.Given (memberValues (written.flatMap Written.members))) :=
    List.forall_iff_forall_mem.2 <| List.forall_mem_map.2 (Written.given_flatMap hnames)
  have hvalue : (object (written.flatMap Written.members)).reading =
      (Value.object (memberValues (written.flatMap Written.members))).reading := by
    rw [reading, value]
  rw [← List.flatMap_eq_foldl, hvalue] at hdecoder ⊢
  exact record_object _ _ hdecoder (List.map_map ..) hgiven fun row h =>
    hfinish row ((List.forall_map_iff Written.toEntry).1 h)

/-! ## Scalars -/

theorem ofText_reading {read : String → Option α} {s : String} {a : α} (h : read s = some a) :
    Decoder.ofText read (text s).reading = .ok a := by
  simp only [Decoder.ofText, reading_text, Decoder.text, ok_bind, h]

theorem choice_reading {ofName : String → Option α} {s : String} {a : α} (h : ofName s = some a) :
    Decoder.choice ofName (text s).reading = .ok a := by
  simp only [Decoder.choice, reading_text, ok_bind, h]

theorem word_reading (n : UInt64) : Decoder.word (number n.toNat).reading = .ok n :=
  word_natural n

theorem list_reading {d : Decoder α} {encode : β → Json} {give : β → α}
    (h : ∀ b, d (encode b).reading = .ok (give b)) (bs : List β) :
    Decoder.list d (list (bs.map encode)).reading = .ok (bs.map give) := by
  have hitems : Decoder.items d ((bs.map encode).map reading) = .ok (bs.map give) := by
    induction bs with
    | nil => rfl
    | cons b bs ih => simp only [List.map_cons, Decoder.items, h, ok_bind, ih]; rfl
  simp only [reading_list, Decoder.list, hitems, ok_bind, Ending.done]
  rfl

/-! ## Documents -/

/-- Either layout of the document is read as the value. -/
structure ReadsAs (d : Decoder α) (j : Json) (a : α) : Prop where
  compact : decode d j.compactText = .ok a
  pretty : decode d j.prettyText = .ok a

theorem ReadsAs.of_reading {d : Decoder α} {j : Json} {a : α} (h : d j.reading = .ok a) :
    ReadsAs d j a where
  compact := ((writes_compactText j).decode d).trans h
  pretty := ((writes_prettyText j).decode d).trans h

end Json

open Json (Entry ReadsAs record_reading ofText_reading choice_reading word_reading
  list_reading)

/-! ## Identifiers -/

theorem Mac.readsAs (m : Mac) : ReadsAs decoder m.json m :=
  .of_reading (ofText_reading (by rw [m.ofText_text]; rfl))

theorem Hostname.readsAs (h : Hostname) : ReadsAs decoder h.json h :=
  .of_reading (ofText_reading (by rw [h.parse_text]; rfl))

theorem Xname.readsAs (x : Xname) : ReadsAs decoder x.json x :=
  .of_reading (ofText_reading (by rw [x.parse_text]; rfl))

theorem ResourceId.readsAs (r : ResourceId) : ReadsAs decoder r.json r :=
  .of_reading rfl

theorem Kind.readsAs (k : Kind) : ReadsAs decoder k.json k :=
  .of_reading (choice_reading k.ofName?_name)

theorem Architecture.readsAs (a : Architecture) : ReadsAs decoder a.json a :=
  .of_reading (choice_reading a.ofName?_name)

namespace MessageId

theorem readsAs (m : MessageId) : ReadsAs decoder m.json m := by
  refine .of_reading (record_reading
    [registryField.column, versionField.column, messageField.column]
    [.given registryField m.registry (.text m.registry) rfl,
      .given versionField m.version (.text m.version) rfl,
      .given messageField m.message (.text m.message) rfl] rfl rfl rfl (by decide) fun row h => ?_)
  simp only [List.Forall, Entry.Holds] at h
  simp only [h, ok_bind]
  rfl

end MessageId

/-! ## Parts -/

namespace FruInfo

theorem readsAs (f : FruInfo) : ReadsAs decoder f.json f := by
  refine .of_reading (record_reading
    [manufacturerField.column, modelField.column, partNumberField.column,
      serialNumberField.column]
    [.optional manufacturerField .text f.manufacturer (fun _ => rfl) rfl,
      .optional modelField .text f.model (fun _ => rfl) rfl,
      .optional partNumberField .text f.partNumber (fun _ => rfl) rfl,
      .optional serialNumberField .text f.serialNumber (fun _ => rfl) rfl]
    rfl rfl rfl (by decide) fun row h => ?_)
  simp only [List.Forall, Entry.Holds] at h
  simp only [h, ok_bind]
  rfl

end FruInfo

namespace MemoryFruInfo

theorem readsAs (f : MemoryFruInfo) : ReadsAs decoder f.json f := by
  refine .of_reading (record_reading
    [FruInfo.manufacturerField.column, FruInfo.partNumberField.column,
      FruInfo.serialNumberField.column, deviceTypeField.column]
    [.optional FruInfo.manufacturerField .text f.manufacturer (fun _ => rfl) rfl,
      .optional FruInfo.partNumberField .text f.partNumber (fun _ => rfl) rfl,
      .optional FruInfo.serialNumberField .text f.serialNumber (fun _ => rfl) rfl,
      .optional deviceTypeField .text f.deviceType (fun _ => rfl) rfl]
    rfl rfl rfl (by decide) fun row h => ?_)
  simp only [List.Forall, Entry.Holds] at h
  simp only [h, ok_bind]
  rfl

end MemoryFruInfo

/-! ## Reservations -/

namespace Reservation

theorem Model.readsAs (m : Model) : ReadsAs decoder m.json m :=
  .of_reading (choice_reading m.ofName?_name)

theorem OwnerKey.decoder_reading (k : OwnerKey) : decoder k.json.reading = .ok k := by
  refine record_reading [idField.column, keyField.column]
    [.given idField k.id (.text k.id) rfl, .given keyField k.key (.text k.key) rfl]
    rfl rfl rfl (by decide) fun row h => ?_
  simp only [List.Forall, Entry.Holds] at h
  simp only [h, ok_bind]
  rfl

theorem OwnerKey.readsAs (k : OwnerKey) : ReadsAs decoder k.json k :=
  .of_reading k.decoder_reading

theorem Refusal.readsAs (f : Refusal) : ReadsAs decoder f.json f := by
  refine .of_reading (record_reading [idField.column, reasonField.column]
    [.given idField f.id (.text f.id) rfl, .given reasonField f.reason (.text f.reason) rfl]
    rfl rfl rfl (by decide) fun row h => ?_)
  simp only [List.Forall, Entry.Holds] at h
  simp only [h, ok_bind]
  rfl

/-- The end of a lease is read back if its text is that of the same instant. -/
theorem Lease.readsAs (l : Lease Timestamp)
    (hend : Timestamp.parse? l.expiration.text = some l.expiration) :
    ReadsAs decoder l.json l := by
  refine .of_reading (record_reading
    [idField.column, keyField.column, deputyField.column, expirationField.column]
    [.given idField l.id (.text l.id) rfl, .given keyField l.key (.text l.key) rfl,
      .optional deputyField .text l.deputy (fun _ => rfl) rfl,
      .given expirationField l.expiration (.text l.expiration.text) (ofText_reading hend)]
    rfl rfl rfl (by decide) fun row h => ?_)
  simp only [List.Forall, Entry.Holds] at h
  simp only [h, ok_bind]
  rfl

theorem Config.readsAs (c : Config) : ReadsAs decoder c.json c := by
  refine .of_reading (record_reading
    [baseUrlField.column, pathField.column, serviceNameField.column, renewIntervalField.column,
      renewMarginField.column, leaseDurationField.column, timeoutField.column]
    [.given baseUrlField c.baseUrl (.text c.baseUrl) rfl,
      .given pathField c.path (.text c.path) rfl,
      .given serviceNameField c.serviceName (.text c.serviceName) rfl,
      .given renewIntervalField _ _ (word_reading c.renewIntervalSecs),
      .given renewMarginField _ _ (word_reading c.renewMarginSecs),
      .given leaseDurationField _ _ (word_reading c.leaseDurationSecs),
      .given timeoutField _ _ (word_reading c.timeoutSecs)] rfl rfl rfl (by decide) fun row h => ?_)
  simp only [List.Forall, Entry.Holds] at h
  simp only [h, ok_bind]
  rfl

end Reservation

/-! ## Endpoints -/

theorem Credentials.readsAs (c : Credentials) :
    ReadsAs decoder c.json { c with password := "" } := by
  refine .of_reading (record_reading [userField.column, passwordField.column]
    [.given userField c.user (.text c.user) rfl, .leftOut passwordField "" rfl]
    rfl rfl rfl (by decide) fun row h => ?_)
  simp only [List.Forall, Entry.Holds] at h
  simp only [h, ok_bind]
  rfl

namespace EndpointSpec

theorem decoder_reading (s : EndpointSpec) :
    decoder s.json.reading = .ok { s with password := none } := by
  refine record_reading
    [idField.column, fqdnField.column, hostnameField.column, domainField.column, userField.column,
      passwordField.column, macAddrField.column, ipAddrField.column, enabledField.column]
    [.optional idField .text s.id (fun _ => rfl) rfl,
      .optional fqdnField .text s.fqdn (fun _ => rfl) rfl,
      .optional hostnameField .text s.hostname (fun _ => rfl) rfl,
      .optional domainField .text s.domain (fun _ => rfl) rfl,
      .optional userField .text s.user (fun _ => rfl) rfl,
      .leftOut passwordField none rfl,
      .optional macAddrField .text s.macAddr (fun _ => rfl) rfl,
      .optional ipAddrField .text s.ipAddr (fun _ => rfl) rfl,
      .optional enabledField .bool s.enabled (fun _ => rfl) rfl]
    rfl rfl (by simp only [List.foldl_cons, List.append_nil]; rfl) (by decide) fun row h => ?_
  simp only [List.Forall, Entry.Holds] at h
  simp only [h, ok_bind]
  rfl

theorem readsAs (s : EndpointSpec) : ReadsAs decoder s.json { s with password := none } :=
  .of_reading s.decoder_reading

end EndpointSpec

theorem EndpointList.readsAs (l : EndpointList) :
    ReadsAs decoder l.json ⟨l.endpoints.map fun s => { s with password := none }⟩ := by
  refine .of_reading (record_reading [endpointsField.column]
    [.given endpointsField (l.endpoints.map fun s : EndpointSpec => { s with password := none })
      (.list (l.endpoints.map EndpointSpec.json))
      (list_reading EndpointSpec.decoder_reading l.endpoints)]
    rfl rfl rfl (by decide) fun row h => ?_)
  simp only [List.Forall, Entry.Holds] at h
  simp only [h, ok_bind]
  rfl

/-! ## All records -/

open Reservation

/-- Every record is read back from its own document, in either layout; a lease if the text of its
end is. Logins and endpoints come back without their passwords. -/
theorem records_read_back :
    (∀ m : Mac, ReadsAs Mac.decoder m.json m) ∧
    (∀ h : Hostname, ReadsAs Hostname.decoder h.json h) ∧
    (∀ x : Xname, ReadsAs Xname.decoder x.json x) ∧
    (∀ k : Kind, ReadsAs Kind.decoder k.json k) ∧
    (∀ a : Architecture, ReadsAs Architecture.decoder a.json a) ∧
    (∀ m : Model, ReadsAs Model.decoder m.json m) ∧
    (∀ r : ResourceId, ReadsAs ResourceId.decoder r.json r) ∧
    (∀ m : MessageId, ReadsAs MessageId.decoder m.json m) ∧
    (∀ f : FruInfo, ReadsAs FruInfo.decoder f.json f) ∧
    (∀ f : MemoryFruInfo, ReadsAs MemoryFruInfo.decoder f.json f) ∧
    (∀ k : OwnerKey, ReadsAs OwnerKey.decoder k.json k) ∧
    (∀ f : Refusal, ReadsAs Refusal.decoder f.json f) ∧
    (∀ c : Config, ReadsAs Config.decoder c.json c) ∧
    (∀ l : Lease Timestamp, Timestamp.parse? l.expiration.text = some l.expiration →
      ReadsAs Lease.decoder l.json l) ∧
    (∀ c : Credentials, ReadsAs Credentials.decoder c.json { c with password := "" }) ∧
    (∀ s : EndpointSpec, ReadsAs EndpointSpec.decoder s.json { s with password := none }) ∧
    (∀ l : EndpointList, ReadsAs EndpointList.decoder l.json
      ⟨l.endpoints.map fun s => { s with password := none }⟩) :=
  ⟨Mac.readsAs, Hostname.readsAs, Xname.readsAs, Kind.readsAs, Architecture.readsAs,
    Model.readsAs, ResourceId.readsAs, MessageId.readsAs, FruInfo.readsAs, MemoryFruInfo.readsAs,
    OwnerKey.readsAs, Refusal.readsAs, Config.readsAs, Lease.readsAs, Credentials.readsAs,
    EndpointSpec.readsAs, EndpointList.readsAs⟩

/-- A lease up to a second of a leap year's last February day, with a fraction. -/
def leapLease : Lease Timestamp where
  id := "x0c0s14b0"
  key := "x0c0s14b0:rk:\"1\""
  deputy := some "x0c0s14b0:dk:1"
  expiration := ⟨2024, 2, 29, 23, 59, 59, 250000000⟩

theorem records_read_back_leap :
    Timestamp.parse? leapLease.expiration.text = some leapLease.expiration ∧
      ReadsAs Lease.decoder leapLease.json leapLease := by
  have hend : Timestamp.parse? leapLease.expiration.text = some leapLease.expiration := by
    decide +kernel
  obtain ⟨-, -, -, -, -, -, -, -, -, -, -, -, -, hlease, -⟩ := records_read_back
  exact ⟨hend, hlease leapLease hend⟩

end Inventory
