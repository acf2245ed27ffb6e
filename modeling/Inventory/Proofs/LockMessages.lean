-- Bodies of the lock API, both ways. What a call asks for is read back from the body that
-- it sends, and what an answer says is what the call gives: leases, ids and refusals in
-- their order, whatever the layout of the answer and whatever else is in it.
import Inventory.Proofs.Exchanges
import Inventory.Proofs.Records

namespace Inventory.LockApi

open Json (Decoder Entry Gives IsListOf RecordField ReadsAs Value Writes named)
open Reservation

variable {α κ : Type} {v : Value} {members : List (String × Value)} {name : String}

/-! ## Requests -/

/-- What a request asks for: components or keys, the model, and the length of the leases in
minutes. -/
structure Ask (κ : Type) where
  subjects : List κ
  model : Model
  leaseMinutes : Option Nat

namespace Ask

def ofCreate (r : CreateRequest) : Ask String := ⟨r.ids, r.model, some (minutes r.duration)⟩

def ofRenew (r : RenewRequest) : Ask OwnerKey := ⟨r.keys, r.model, some (minutes r.duration)⟩

def ofRelease (r : ReleaseRequest) : Ask OwnerKey := ⟨r.keys, r.model, none⟩

/-- A natural of any size. -/
def natural : Decoder Nat
  | .number n =>
    match n.natural? with
    | some found => .ok found
    | none => .error n.refusal
  | r => .error r.refusal

def modelField : RecordField Model := { name := "ProcessingModel", decode := Model.decoder }

def minutesField : RecordField (Option Nat) := Json.optionalField "ReservationDuration" natural

/-- Reads a request whose subjects have this field. -/
def decoder (subjectsField : RecordField (List κ)) : Decoder (Ask κ) := fun r => do
  let row ← r.row [subjectsField.column, modelField.column, minutesField.column]
  return ⟨← subjectsField.get row, ← modelField.get row, ← minutesField.get row⟩

def idsField : RecordField (List String) :=
  { name := "ComponentIDs", decode := Decoder.list Decoder.text }

def keysField : RecordField (List OwnerKey) :=
  { name := "ReservationKeys", decode := Decoder.list OwnerKey.decoder }

theorem minutes_reading (n : Nat) : minutesField.decode (Json.number n).reading = .ok (some n) := by
  simp only [minutesField, Json.optionalField, Decoder.optional, natural, Json.reading_number,
    Json.natural?_decimal]
  rfl

/-- A body with the subjects, the model and perhaps a length is read back. -/
theorem body_readsAs {f : RecordField (List κ)} {items : Json} {subjects : List κ}
    (hsubjects : f.decode items.reading = .ok subjects)
    (hnodup : [f.name, modelField.name, minutesField.name].Nodup) (model : Model)
    (leaseMinutes : Option Nat) :
    ReadsAs (decoder f)
      (.object ([(f.name, items), (modelField.name, model.json)] ++
        Json.optionalMember minutesField.name .number leaseMinutes))
      ⟨subjects, model, leaseMinutes⟩ := by
  refine .of_reading (Json.record_reading [f.column, modelField.column, minutesField.column]
    [.given f subjects items hsubjects,
      .given modelField model model.json (Json.choice_reading model.ofName?_name),
      .optional minutesField .number leaseMinutes minutes_reading rfl]
    rfl rfl rfl hnodup fun row h => ?_)
  simp only [List.Forall, Entry.Holds] at h
  simp only [h, ok_bind]
  rfl

theorem ids_reading (ids : List String) :
    idsField.decode (Json.list (ids.map .text)).reading = .ok ids := by
  have hitem (s : String) : Decoder.text (Json.text s).reading = .ok (id s) := rfl
  have hread : Decoder.list Decoder.text (Json.list (ids.map .text)).reading = .ok (ids.map id) :=
    Json.list_reading hitem ids
  rwa [List.map_id] at hread

theorem keys_reading (keys : List OwnerKey) :
    keysField.decode (Json.list (keys.map OwnerKey.json)).reading = .ok keys := by
  have hread : Decoder.list OwnerKey.decoder (Json.list (keys.map OwnerKey.json)).reading =
      .ok (keys.map id) := Json.list_reading OwnerKey.decoder_reading keys
  rwa [List.map_id] at hread

theorem create_readsAs (r : CreateRequest) :
    ReadsAs (decoder idsField) (createBody r) (ofCreate r) :=
  body_readsAs (ids_reading r.ids) (by decide) r.model (some (minutes r.duration))

theorem renew_readsAs (r : RenewRequest) :
    ReadsAs (decoder keysField) (renewBody r) (ofRenew r) :=
  body_readsAs (keys_reading r.keys) (by decide) r.model (some (minutes r.duration))

theorem release_readsAs (r : ReleaseRequest) :
    ReadsAs (decoder keysField) (releaseBody r) (ofRelease r) :=
  body_readsAs (keys_reading r.keys) (by decide) r.model none

end Ask

/-! ## Values of answers -/

/-- The value is an object whose members say this; it may have others, and in any order. -/
def IsObjectOf (Says : α → List (String × Value) → Prop) (v : Value) (a : α) : Prop :=
  ∃ members, v = .object members ∧ Says a members

/-- A section says its things, or it is left out and there are none. -/
inductive Section (Says : Value → List α → Prop) (name : String) (as : List α)
    (members : List (String × Value)) : Prop
  | given {v : Value} (hone : named name members = [v]) (h : Says v as)
  | leftOut (hnone : named name members = []) (h : as = [])

theorem Section.gives {Says : Value → List α → Prop} {f : RecordField (List α)} {as : List α}
    (h : Section Says f.name as members) (hfallback : f.fallback = some [])
    (hread : ∀ v as, Says v as → f.decode v.reading = .ok as) : Gives f as members := by
  cases h with
  | given hone hvalue => exact .given hone (hread _ _ hvalue)
  | leftOut hnone hempty => exact .leftOut hnone (hempty ▸ hfallback)

/-- A text that may be left out or null. -/
inductive SaysText : List Value → Option String → Prop
  | leftOut : SaysText [] none
  | null : SaysText [.null] none
  | given (text : String) : SaysText [.text text] (some text)

theorem SaysText.gives {value : Option String} (h : SaysText (named name members) value) :
    Gives (Json.optionalField name Decoder.text) value members := by
  generalize hvalues : named name members = values at h
  cases h with
  | leftOut => exact .leftOut hvalues rfl
  | null => exact .given hvalues rfl
  | given text => exact .given hvalues rfl

/-! ## Leases, refusals and ids -/

/-- The members of a lease. The text of its end has to be one of that instant. -/
structure LeaseMembers (l : Lease Timestamp) (members : List (String × Value)) : Prop where
  id : named "ID" members = [.text l.id]
  key : named "ReservationKey" members = [.text l.key]
  deputy : SaysText (named "DeputyKey" members) l.deputy
  expiration : ∃ text, named "ExpirationTime" members = [.text text] ∧
    Timestamp.parse? text = some l.expiration

structure RefusalMembers (f : Refusal) (members : List (String × Value)) : Prop where
  id : named "ID" members = [.text f.id]
  reason : named "Reason" members = [.text f.reason]

def SaysId (v : Value) (id : String) : Prop := v = .text id

theorem lease_of_value {l : Lease Timestamp} (h : IsObjectOf LeaseMembers v l) :
    Lease.decoder v.reading = .ok l := by
  obtain ⟨members, rfl, hid, hkey, hdeputy, text, hend, hinstant⟩ := h
  have hread : Timestamp.decoder (Value.text text).reading = .ok l.expiration :=
    Json.ofText_reading (s := text) hinstant
  refine Json.record_object _ [⟨idField, l.id⟩, ⟨Lease.keyField, l.key⟩,
    ⟨Lease.deputyField, l.deputy⟩, ⟨Lease.expirationField, l.expiration⟩] rfl rfl
    ⟨.given hid rfl, .given hkey rfl, hdeputy.gives, .given hend hread⟩ fun row h => ?_
  simp only [List.Forall, Entry.Holds] at h
  simp only [h, ok_bind]
  rfl

theorem refusal_of_value {f : Refusal} (h : IsObjectOf RefusalMembers v f) :
    Refusal.decoder v.reading = .ok f := by
  obtain ⟨members, rfl, hid, hreason⟩ := h
  refine Json.record_object _ [⟨idField, f.id⟩, ⟨Refusal.reasonField, f.reason⟩] rfl rfl
    ⟨.given hid rfl, .given hreason rfl⟩ fun row h => ?_
  simp only [List.Forall, Entry.Holds] at h
  simp only [h, ok_bind]
  rfl

theorem leases_of_value {ls : List (Lease Timestamp)}
    (h : IsListOf (IsObjectOf LeaseMembers) v ls) :
    Decoder.list Lease.decoder v.reading = .ok ls :=
  Json.list_of_isListOf (fun _ _ => lease_of_value) h

theorem refusals_of_value {fs : List Refusal} (h : IsListOf (IsObjectOf RefusalMembers) v fs) :
    Decoder.list Refusal.decoder v.reading = .ok fs :=
  Json.list_of_isListOf (fun _ _ => refusal_of_value) h

theorem ids_of_value {ids : List String} (h : IsListOf SaysId v ids) :
    Decoder.list Decoder.text v.reading = .ok ids :=
  Json.list_of_isListOf (fun _ _ hid => by rw [hid]; rfl) h

theorem components_of_value {ids : List String}
    (h : IsObjectOf (Section (IsListOf SaysId) "ComponentIDs") v ids) :
    componentsDecoder v.reading = .ok ids := by
  obtain ⟨members, rfl, hids⟩ := h
  refine Json.record_object _ [⟨componentIdsField, ids⟩] rfl rfl
    (hids.gives (f := componentIdsField) rfl fun _ _ => ids_of_value) fun row h => h

/-! ## Counts -/

/-- The counts of an answer, each of which may be left out. -/
structure Counts where
  total : Option Nat := none
  success : Option Nat := none
  failure : Option Nat := none

namespace Counts

def fields (c : Counts) : List (String × Option Nat) :=
  [("Total", c.total), ("Success", c.success), ("Failure", c.failure)]

def Members (c : Counts) (members : List (String × Value)) : Prop :=
  ∀ field ∈ c.fields, named field.1 members = (field.2.map Value.natural).toList

/-- Every count has 64 bits at most. -/
def Fit (c : Counts) : Prop := ∀ field ∈ c.fields, ∀ n ∈ field.2, n < UInt64.size

theorem gives_count {count : Option Nat}
    (h : named name members = (count.map Value.natural).toList)
    (hfit : ∀ n ∈ count, n < UInt64.size) :
    Gives (countField name) (UInt64.ofNat (count.getD 0)) members := by
  cases count with
  | none => exact .leftOut h rfl
  | some n =>
    have hread := Json.word_natural (UInt64.ofNat n)
    rw [UInt64.toNat_ofNat_of_lt' (hfit n rfl)] at hread
    exact .given h hread

theorem decoder_of_fit {c : Counts} (h : IsObjectOf Members v c) (hfit : c.Fit) :
    countsDecoder v.reading = .ok () := by
  obtain ⟨members, rfl, hmembers⟩ := h
  refine Json.record_object _
    (c.fields.map fun field => ⟨countField field.1, UInt64.ofNat (field.2.getD 0)⟩) rfl rfl ?_
    fun row _ => rfl
  rw [List.forall_iff_forall_mem, List.forall_mem_map]
  exact fun field hfield => gives_count (hmembers field hfield) (hfit field hfield)

/-- One count that does not fit is enough for the counts not to be read. -/
theorem decoder_of_not_fit {c : Counts} (h : IsObjectOf Members v c) (hfit : ¬ c.Fit) :
    ∃ cause, countsDecoder v.reading = .error cause := by
  obtain ⟨members, rfl, hmembers⟩ := h
  simp only [Fit, not_forall, Nat.not_lt] at hfit
  obtain ⟨field, hfield, n, hn, hlarge⟩ := hfit
  have hfind : (c.fields.map fun field => (countField field.1).column).find? (·.name = field.1) =
      some (countField field.1).column := by
    simp only [fields, List.mem_cons, List.not_mem_nil, or_false] at hfield
    rcases hfield with rfl | rfl | rfl <;> rfl
  have hmember : Value.natural n ∈ named field.1 members := by
    rw [hmembers field hfield, hn]
    exact List.mem_singleton_self _
  obtain ⟨cause, hrefused⟩ := Json.word_natural_of_le hlarge
  exact Json.record_object_error (f := countField field.1) _ rfl hfind hmember hrefused

end Counts

/-! ## Whole answers -/

/-- The sections of an answer to a request for locks. -/
structure GrantMembers (g : Grant Timestamp) (members : List (String × Value)) : Prop where
  granted : Section (IsListOf (IsObjectOf LeaseMembers)) "Success" g.granted members
  failed : Section (IsListOf (IsObjectOf RefusalMembers)) "Failure" g.failed members

/-- The counts of an answer, if it has any. -/
inductive SaysCounts : List Value → Option Counts → Prop
  | leftOut : SaysCounts [] none
  | given {v : Value} {c : Counts} (h : IsObjectOf Counts.Members v c) : SaysCounts [v] (some c)

/-- The sections of an answer to a request about held locks. -/
structure OutcomeMembers (counts : Option Counts) (o : Outcome)
    (members : List (String × Value)) : Prop where
  counted : SaysCounts (named "Counts" members) counts
  succeeded : Section (IsObjectOf (Section (IsListOf SaysId) "ComponentIDs")) "Success"
    o.succeeded members
  failed : Section (IsListOf (IsObjectOf RefusalMembers)) "Failure" o.failed members

theorem grant_of_value {g : Grant Timestamp} (h : IsObjectOf GrantMembers v g) :
    grantDecoder v.reading = .ok g := by
  obtain ⟨members, rfl, hgranted, hfailed⟩ := h
  refine Json.record_object _ [⟨grantedField, g.granted⟩, ⟨failureField, g.failed⟩] rfl rfl
    ⟨hgranted.gives (f := grantedField) rfl fun _ _ => leases_of_value,
      hfailed.gives (f := failureField) rfl fun _ _ => refusals_of_value⟩ fun row h => ?_
  simp only [List.Forall, Entry.Holds] at h
  simp only [h, ok_bind]
  rfl

theorem outcome_of_value {counts : Option Counts} {o : Outcome}
    (h : IsObjectOf (OutcomeMembers counts) v o) (hfit : ∀ c ∈ counts, c.Fit) :
    outcomeDecoder v.reading = .ok o := by
  obtain ⟨members, rfl, hcounted, hsucceeded, hfailed⟩ := h
  have hcounts : Gives countsField () members := by
    generalize hvalues : named "Counts" members = values at hcounted
    cases hcounted with
    | leftOut => exact .leftOut hvalues rfl
    | given hc => exact .given hvalues (Counts.decoder_of_fit hc (hfit _ rfl))
  refine Json.record_object _
    [⟨countsField, ()⟩, ⟨succeededField, o.succeeded⟩, ⟨failureField, o.failed⟩] rfl rfl
    ⟨hcounts, hsucceeded.gives (f := succeededField) rfl fun _ _ => components_of_value,
      hfailed.gives (f := failureField) rfl fun _ _ => refusals_of_value⟩ fun row h => ?_
  simp only [List.Forall, Entry.Holds] at h
  simp only [h, ok_bind]
  rfl

/-- An answer with counts that do not fit is not read, whatever else it says. -/
theorem outcome_of_not_fit {counts : Option Counts} {o : Outcome}
    (h : IsObjectOf (OutcomeMembers counts) v o) (hfit : ¬ ∀ c ∈ counts, c.Fit) :
    ∃ cause, outcomeDecoder v.reading = .error cause := by
  obtain ⟨members, rfl, hcounted, -, -⟩ := h
  generalize hvalues : named "Counts" members = values at hcounted
  cases hcounted with
  | leftOut => exact absurd nofun hfit
  | given hc =>
    rename_i w c
    have hnot : ¬ c.Fit := fun hfits => hfit fun _ hc' => Option.some_inj.1 hc' ▸ hfits
    obtain ⟨cause, hrefused⟩ := Counts.decoder_of_not_fit hc hnot
    have hmember : w ∈ named "Counts" members := hvalues ▸ List.mem_singleton_self w
    exact Json.record_object_error (f := countsField)
      [countsField.column, succeededField.column, failureField.column] rfl rfl hmember hrefused

/-! ## Calls -/

/-- The request is a document that says what is asked for. -/
def AsksFor (d : Decoder α) (asked : α) (request : HttpRequest) : Prop :=
  request.method = "POST" ∧ request.contentType = ["application/json"] ∧
    Json.decode d request.body.compactText = .ok asked

/-- A success with a text of a value gives what the value says, and no other status gives
anything. -/
def Means (Says : Value → Except Reservation.Error α → Prop) (exchange : Exchange)
    (answer : Except Reservation.Error α) : Prop :=
  ∀ status text, exchange = .answered status text →
    (isSuccess status = true → ∀ v, Writes text v → Says v answer) ∧
    (isSuccess status = false → ∃ message, answer = .error (.service message))

def GivesGrant (v : Value) (answer : Except Reservation.Error (Grant Timestamp)) : Prop :=
  ∀ g, IsObjectOf GrantMembers v g → answer = .ok g

def GivesOutcome (v : Value) (answer : Except Reservation.Error Outcome) : Prop :=
  ∀ counts o, IsObjectOf (OutcomeMembers counts) v o →
    ((∀ c ∈ counts, c.Fit) → answer = .ok o) ∧
    (¬ (∀ c ∈ counts, c.Fit) → ∃ message, answer = .error (.service message))

theorem asksFor_of_readsAs {a : Agent} {url : String} {body : Json} {request : HttpRequest}
    {d : Decoder α} {asked : α} (h : ReadsAs d body asked) (hsends : a.Sends url body request) :
    AsksFor d asked request :=
  ⟨hsends.isPost, hsends.isJson, hsends.carries ▸ h.compact⟩

/-- An answer means what its decoder makes of the values that it can be a text of. -/
theorem means_answer {Says : Value → Except Reservation.Error α → Prop} {d : Decoder α}
    (url : String) (request : HttpRequest) (exchange : Exchange)
    (hok : ∀ v found, d v.reading = .ok found → Says v (.ok found))
    (herror : ∀ v cause message, d v.reading = .error cause →
      Says v (.error (.service message))) :
    Means Says exchange (Agent.answer d url request exchange) := by
  rintro status text rfl
  refine ⟨fun hstatus v hwrites => ?_, Agent.answer_of_not_isSuccess text⟩
  have hdecode := hwrites.decode d
  cases hread : d v.reading with
  | ok found =>
    rw [Agent.answer_of_decode hstatus (hdecode.trans hread)]
    exact hok v found hread
  | error cause =>
    obtain ⟨message, hanswer⟩ : ∃ message, Agent.answer d url request (.answered status text) =
        .error (.service message) := Agent.answer_of_decode_error hstatus (hdecode.trans hread)
    rw [hanswer]
    exact herror v cause message hread

theorem means_grant (url : String) (request : HttpRequest) (exchange : Exchange) :
    Means GivesGrant exchange (Agent.answer grantDecoder url request exchange) := by
  refine means_answer url request exchange (fun v found hread g hg => ?_)
    fun v cause message hread g hg => ?_
  · rw [grant_of_value hg] at hread
    cases hread
    rfl
  · rw [grant_of_value hg] at hread
    cases hread

theorem means_outcome (url : String) (request : HttpRequest) (exchange : Exchange) :
    Means GivesOutcome exchange (Agent.answer outcomeDecoder url request exchange) := by
  refine means_answer url request exchange (fun v found hread counts o ho => ?_)
    fun v cause message hread counts o ho => ?_
  · refine ⟨fun hfit => ?_, fun hnot => ?_⟩
    · rw [outcome_of_value ho hfit] at hread
      cases hread
      rfl
    · obtain ⟨cause, hcause⟩ := outcome_of_not_fit ho hnot
      rw [hcause] at hread
      cases hread
  · refine ⟨fun hfit => ?_, fun _ => ⟨message, rfl⟩⟩
    rw [outcome_of_value ho hfit] at hread
    cases hread

/-- Every call sends one request, which asks for the ids or keys in their order, the model and the
length in minutes (none to release), and gives just what a success says: the leases, ids and
refusals in their order, with other members and counts besides as long as these have 64 bits at
most. No other status gives an answer. -/
theorem messages_lose_nothing {σ : Type} (a : Agent) (peer : Peer σ) (s : σ) :
    (∀ r, IsExchange peer s a.createUrl (AsksFor (Ask.decoder Ask.idsField) (.ofCreate r))
      (Means GivesGrant) ((a.service peer.recorded).create r (s, []))) ∧
    (∀ r, IsExchange peer s a.renewUrl (AsksFor (Ask.decoder Ask.keysField) (.ofRenew r))
      (Means GivesOutcome) ((a.service peer.recorded).renew r (s, []))) ∧
    (∀ r, IsExchange peer s a.releaseUrl (AsksFor (Ask.decoder Ask.keysField) (.ofRelease r))
      (Means GivesOutcome) ((a.service peer.recorded).release r (s, []))) :=
  ⟨fun r => isExchange_post (fun _ => asksFor_of_readsAs (Ask.create_readsAs r))
      (means_grant a.createUrl),
    fun r => isExchange_post (fun _ => asksFor_of_readsAs (Ask.renew_readsAs r))
      (means_outcome a.renewUrl),
    fun r => isExchange_post (fun _ => asksFor_of_readsAs (Ask.release_readsAs r))
      (means_outcome a.releaseUrl)⟩

/-- A peer that answers everything with one document. -/
def answering (j : Json) : Peer Unit := fun _ _ => (.answered 200 j.compactText, ())

/-- A lease and a refusal, in another order than they are written here, with a member more. -/
def shuffledGrant : Json :=
  .object [("Took", .number 3),
    ("Failure", .list [.object [("Reason", .text "Locked"), ("ID", .text "x1")]]),
    ("Success", .list [.object [("ExpirationTime", .text "2025-01-01T00:00:00Z"),
      ("ReservationKey", .text "x0:rk:1"), ("ID", .text "x0")]])]

def grantOfShuffled : Grant Timestamp :=
  ⟨[⟨"x0", "x0:rk:1", none, ⟨2025, 1, 1, 0, 0, 0, 0⟩⟩], [⟨"x1", "Locked"⟩]⟩

theorem messages_lose_nothing_shuffled :
    Reaches loopback.createUrl ∧
    IsObjectOf GrantMembers shuffledGrant.value grantOfShuffled ∧
    ∃ request, AsksFor (Ask.decoder Ask.idsField) ⟨["x0", "x1"], .flexible, some 2⟩ request ∧
      (loopback.service (answering shuffledGrant).recorded).create
        ⟨["x0", "x1"], .flexible, seconds 90⟩ ((), []) = (.ok grantOfShuffled, (), [request]) := by
  obtain ⟨hreaches, -, -⟩ := reaches_loopback
  have hinstant : Timestamp.parse? "2025-01-01T00:00:00Z" = some ⟨2025, 1, 1, 0, 0, 0, 0⟩ := by
    decide +kernel
  have hlease : IsObjectOf LeaseMembers (Json.object [("ExpirationTime", .text
      "2025-01-01T00:00:00Z"), ("ReservationKey", .text "x0:rk:1"), ("ID", .text "x0")]).value
      ⟨"x0", "x0:rk:1", none, ⟨2025, 1, 1, 0, 0, 0, 0⟩⟩ :=
    ⟨_, rfl, rfl, rfl, .leftOut, _, rfl, hinstant⟩
  have hrefusal : IsObjectOf RefusalMembers (Json.object [("Reason", .text "Locked"),
      ("ID", .text "x1")]).value ⟨"x1", "Locked"⟩ := ⟨_, rfl, rfl, rfl⟩
  have hgrant : IsObjectOf GrantMembers shuffledGrant.value grantOfShuffled :=
    ⟨_, rfl, .given rfl ⟨_, rfl, .cons hlease .nil⟩, .given rfl ⟨_, rfl, .cons hrefusal .nil⟩⟩
  obtain ⟨hcreate, -, -⟩ := messages_lose_nothing loopback (answering shuffledGrant) ()
  obtain ⟨hcall, -⟩ := hcreate ⟨["x0", "x1"], .flexible, seconds 90⟩
  obtain ⟨request, hasks, hsent, hmeans⟩ := hcall hreaches
  obtain ⟨hgives, -⟩ := hmeans 200 _ rfl
  have hanswer := hgives rfl _ (Json.writes_compactText _) _ hgrant
  exact ⟨hreaches, hgrant, request, hasks, Prod.ext hanswer hsent⟩

/-- A total beyond 64 bits. -/
def largeCount : Json :=
  .object [("Counts", .object [("Total", .number 18446744073709551616)]),
    ("Success", .object [("ComponentIDs", .list [.text "x0"])])]

/-- An answer may say what was released and not be understood for the sake of its counts. -/
theorem large_count_refused :
    IsObjectOf (OutcomeMembers (some { total := some 18446744073709551616 })) largeCount.value
      ⟨["x0"], []⟩ ∧
    Writes largeCount.compactText largeCount.value ∧ isSuccess 200 = true ∧
    ∃ message, ((loopback.service (answering largeCount).recorded).release
      ⟨[⟨"x0", "x0:rk:1"⟩], .rigid⟩ ((), [])).1 = .error (.service message) := by
  have hcounts : IsObjectOf Counts.Members
      (Json.object [("Total", .number 18446744073709551616)]).value
      { total := some 18446744073709551616 } :=
    ⟨_, rfl, List.forall_mem_cons.2 ⟨rfl, List.forall_mem_cons.2 ⟨rfl,
      List.forall_mem_singleton.2 rfl⟩⟩⟩
  have houtcome : IsObjectOf (OutcomeMembers (some { total := some 18446744073709551616 }))
      largeCount.value ⟨["x0"], []⟩ :=
    ⟨_, rfl, .given hcounts, .given rfl ⟨_, rfl, .given rfl ⟨_, rfl, .cons rfl .nil⟩⟩,
      .leftOut rfl rfl⟩
  have hnot : ¬ ∀ c ∈ some { total := some 18446744073709551616 : Counts }, c.Fit := fun hfit =>
    absurd (hfit _ rfl ("Total", some 18446744073709551616) List.mem_cons_self _ rfl) (by decide)
  obtain ⟨-, -, hreaches⟩ := reaches_loopback
  have hexchange : IsExchange (answering largeCount) () loopback.releaseUrl (fun _ => True)
      (Means GivesOutcome) ((loopback.service (answering largeCount).recorded).release
        ⟨[⟨"x0", "x0:rk:1"⟩], .rigid⟩ ((), [])) :=
    isExchange_post (fun _ _ => trivial) (means_outcome loopback.releaseUrl)
  obtain ⟨_, -, -, hmeans⟩ := hexchange.1 hreaches
  have hgives := (hmeans 200 _ rfl).1 rfl _ (Json.writes_compactText _) _ _ houtcome
  exact ⟨houtcome, Json.writes_compactText _, rfl, hgives.2 hnot⟩

end Inventory.LockApi
