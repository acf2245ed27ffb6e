-- Settings from the environment and from a document. The same settings come out of both,
-- whichever of them are given, and the first number of the environment that cannot be
-- read is named.
import Inventory.Proofs.JsonRecords
import Inventory.Proofs.Numerals
import Inventory.Record.Reservation

namespace Inventory.Reservation

open Text
open Json (Decoder Entry Gives RecordField Value Writes named)

variable {lookup : String → Option String} {var value : String} {n : UInt64}

/-! ## Numbers of the environment -/

/-- Without the blanks around it, the text is a decimal below 2⁶⁴; a plus sign may stand in front
of it. -/
def SpellsSeconds (value : String) (n : Nat) : Prop :=
  ∃ digits, (TrimsTo value.toList digits ∨ TrimsTo value.toList ('+' :: digits)) ∧
    IsDecimal digits n ∧ n < UInt64.size

def IsSeconds (value : String) : Prop := ∃ n, SpellsSeconds value n

theorem SpellsSeconds.lt {n : Nat} (h : SpellsSeconds value n) : n < UInt64.size := by
  obtain ⟨_, _, -, hlt⟩ := h
  exact hlt

theorem signedDecimalBelow?_eq_some_iff {bound n : Nat} {body : List Char} :
    signedDecimalBelow? bound body = some n ↔
      ∃ digits, (body = digits ∨ body = '+' :: digits) ∧ IsDecimal digits n ∧ n < bound := by
  unfold signedDecimalBelow?
  split
  · rename_i cs
    rw [decimalBelow?_eq_some_iff]
    constructor
    · exact fun h => ⟨cs, Or.inr rfl, h⟩
    · rintro ⟨digits, rfl | hplus, h⟩
      · -- The plus sign is no digit.
        exact absurd (h.1.isDigit '+' List.mem_cons_self) (by decide)
      · rwa [(List.cons.inj hplus).2]
  · rename_i hne
    rw [decimalBelow?_eq_some_iff]
    constructor
    · exact fun h => ⟨body, Or.inl rfl, h⟩
    · rintro ⟨digits, rfl | hplus, h⟩
      · exact h
      · exact absurd hplus (hne digits)

theorem secondsOfText?_eq_some_iff :
    Config.secondsOfText? value = some n ↔ SpellsSeconds value n.toNat := by
  have hspells (m : Nat) : signedDecimalBelow? UInt64.size (trimChars value.toList) = some m ↔
      SpellsSeconds value m := by
    simp only [SpellsSeconds, trimsTo_iff, signedDecimalBelow?_eq_some_iff]
  rw [Config.secondsOfText?, Option.map_eq_some_iff, ← hspells]
  constructor
  · rintro ⟨m, hm, rfl⟩
    rwa [UInt64.toNat_ofNat_of_lt' ((hspells m).1 hm).lt]
  · exact fun h => ⟨n.toNat, h, UInt64.ofNat_toNat⟩

theorem secondsOfText?_eq_none_iff : Config.secondsOfText? value = none ↔ ¬ IsSeconds value := by
  rw [Option.eq_none_iff_forall_ne_some]
  simp only [ne_eq, secondsOfText?_eq_some_iff]
  constructor
  · rintro h ⟨m, hm⟩
    apply h (UInt64.ofNat m)
    rwa [UInt64.toNat_ofNat_of_lt' hm.lt]
  · exact fun h m hm => h ⟨m.toNat, hm⟩

example : Config.secondsOfText? " +007\n" = some 7 ∧ Config.secondsOfText? "+ 7" = none ∧
    Config.secondsOfText? "18446744073709551616" = none := by decide

/-- A number in decimal. -/
def secondsText (n : UInt64) : String := String.ofList (decimal n.toNat)

theorem spellsSeconds_secondsText (n : UInt64) : SpellsSeconds (secondsText n) n.toNat := by
  have htrim : trimChars (decimal n.toNat) = decimal n.toNat :=
    trimChars_eq_self_of_forall fun c hc =>
      isBlank_of_isAlphanum (by simp [Char.isAlphanum, isDigit_of_mem_decimal hc])
  refine ⟨decimal n.toNat, Or.inl (trimsTo_iff.2 ?_), isDecimal_decimal _, n.toNat_lt⟩
  rwa [secondsText, String.toList_ofList]

/-! ## Variables of the environment -/

/-- The variable is not set, or its text is a number of seconds. -/
def IsFine (lookup : String → Option String) (var : String) : Prop :=
  ∀ value, lookup var = some value → IsSeconds value

/-- A variable gives a number, or it is named with its text as it is. -/
theorem envSeconds_cases (lookup : String → Option String) (var : String) (default : UInt64) :
    (IsFine lookup var ∧ ∃ n, Config.envSeconds lookup var default = .ok n) ∨
    ∃ value, lookup var = some value ∧ ¬ IsSeconds value ∧
      Config.envSeconds lookup var default = .error (.invalidValue var value) := by
  unfold Config.envSeconds IsFine
  cases lookup var with
  | none => exact Or.inl ⟨nofun, default, rfl⟩
  | some value =>
    cases hread : Config.secondsOfText? value with
    | some n =>
      refine Or.inl ⟨?_, n, by simp only [hread]⟩
      rintro _ ⟨⟩
      exact ⟨n.toNat, secondsOfText?_eq_some_iff.1 hread⟩
    | none =>
      exact Or.inr ⟨value, rfl, secondsOfText?_eq_none_iff.1 hread, by simp only [hread]⟩

theorem envSeconds_given {given : Option UInt64} (h : lookup var = given.map secondsText)
    (default : UInt64) : Config.envSeconds lookup var default = .ok (given.getD default) := by
  unfold Config.envSeconds
  cases given with
  | none => rw [h]; rfl
  | some n =>
    have hread := secondsOfText?_eq_some_iff.2 (spellsSeconds_secondsText n)
    simp only [h, Option.map_some, hread, Option.getD_some]

/-- The variables for numbers, in the order in which they are read. -/
def secondsVariables : List String :=
  ["RESERVATION_RENEW_INTERVAL", "RESERVATION_RENEW_MARGIN", "RESERVATION_LEASE_DURATION",
    "RESERVATION_TIMEOUT"]

/-- The variable has this text, which is no number, and no variable before it is as bad. -/
structure FirstBad (lookup : String → Option String) (var value : String) : Prop where
  first : ∃ before after, secondsVariables = before ++ var :: after ∧
    ∀ other ∈ before, IsFine lookup other
  isSet : lookup var = some value
  bad : ¬ IsSeconds value

theorem FirstBad.mem (h : FirstBad lookup var value) : var ∈ secondsVariables := by
  obtain ⟨before, after, hvars, -⟩ := h.first
  exact hvars ▸ List.mem_append_right _ List.mem_cons_self

theorem FirstBad.not_isFine (h : FirstBad lookup var value) : ¬ IsFine lookup var := fun hfine =>
  h.bad (hfine value h.isSet)

open Classical in
/-- No two variables are the first. -/
theorem FirstBad.unique {var' value' : String} (h : FirstBad lookup var value)
    (h' : FirstBad lookup var' value') : var = var' ∧ value = value' := by
  have hfind {var value : String} (h : FirstBad lookup var value) :
      secondsVariables.find? (fun v => ¬ IsFine lookup v) = some var := by
    obtain ⟨before, after, hvars, hfine⟩ := h.first
    refine List.find?_eq_some_iff_append.2 ⟨by simpa using h.not_isFine, before, after, hvars, ?_⟩
    simpa using hfine
  obtain rfl : var = var' := Option.some_inj.1 ((hfind h).symm.trans (hfind h'))
  exact ⟨rfl, Option.some_inj.1 (h.isSet.symm.trans h'.isSet)⟩

/-- The variables are read one after the other, up to the first that is no number. -/
theorem ofEnv_cases (lookup : String → Option String) :
    ((∀ var ∈ secondsVariables, IsFine lookup var) ∧ ∃ c, Config.ofEnv lookup = .ok c) ∨
    ∃ var value, FirstBad lookup var value ∧
      Config.ofEnv lookup = .error (.invalidValue var value) := by
  rcases envSeconds_cases lookup "RESERVATION_RENEW_INTERVAL" ({} : Config).renewIntervalSecs with
    ⟨hinterval, _, hi⟩ | ⟨value, hset, hbad, herror⟩
  case inr =>
    refine Or.inr ⟨_, value, ⟨⟨[], _, rfl, nofun⟩, hset, hbad⟩, ?_⟩
    simp only [Config.ofEnv, herror]
    rfl
  rcases envSeconds_cases lookup "RESERVATION_RENEW_MARGIN" ({} : Config).renewMarginSecs with
    ⟨hmargin, _, hm⟩ | ⟨value, hset, hbad, herror⟩
  case inr =>
    have hbefore := List.forall_mem_singleton.2 hinterval
    refine Or.inr ⟨_, value, ⟨⟨_, _, rfl, hbefore⟩, hset, hbad⟩, ?_⟩
    simp only [Config.ofEnv, hi, herror]
    rfl
  rcases envSeconds_cases lookup "RESERVATION_LEASE_DURATION" ({} : Config).leaseDurationSecs with
    ⟨hduration, _, hd⟩ | ⟨value, hset, hbad, herror⟩
  case inr =>
    have hbefore := List.forall_mem_cons.2 ⟨hinterval, List.forall_mem_singleton.2 hmargin⟩
    refine Or.inr ⟨_, value, ⟨⟨_, _, rfl, hbefore⟩, hset, hbad⟩, ?_⟩
    simp only [Config.ofEnv, hi, hm, herror]
    rfl
  have hbefore := List.forall_mem_cons.2 ⟨hinterval,
    List.forall_mem_cons.2 ⟨hmargin, List.forall_mem_singleton.2 hduration⟩⟩
  rcases envSeconds_cases lookup "RESERVATION_TIMEOUT" ({} : Config).timeoutSecs with
    ⟨htimeout, _, ht⟩ | ⟨value, hset, hbad, herror⟩
  case inr =>
    refine Or.inr ⟨_, value, ⟨⟨_, [], rfl, hbefore⟩, hset, hbad⟩, ?_⟩
    simp only [Config.ofEnv, hi, hm, hd, herror]
    rfl
  refine Or.inl ⟨List.forall_mem_append.2 ⟨hbefore, List.forall_mem_singleton.2 htimeout⟩, ?_⟩
  simp only [Config.ofEnv, hi, hm, hd, ht]
  exact ⟨_, rfl⟩

/-! ## Settings that are given -/

/-- The settings that are given. -/
structure Settings where
  baseUrl : Option String := none
  path : Option String := none
  serviceName : Option String := none
  renewIntervalSecs : Option UInt64 := none
  renewMarginSecs : Option UInt64 := none
  leaseDurationSecs : Option UInt64 := none
  timeoutSecs : Option UInt64 := none

namespace Settings

variable {β : Type} {name other : String}

/-- The others have their defaults. -/
def config (s : Settings) : Config where
  baseUrl := s.baseUrl.getD ({} : Config).baseUrl
  path := s.path.getD ({} : Config).path
  serviceName := s.serviceName.getD ({} : Config).serviceName
  renewIntervalSecs := s.renewIntervalSecs.getD ({} : Config).renewIntervalSecs
  renewMarginSecs := s.renewMarginSecs.getD ({} : Config).renewMarginSecs
  leaseDurationSecs := s.leaseDurationSecs.getD ({} : Config).leaseDurationSecs
  timeoutSecs := s.timeoutSecs.getD ({} : Config).timeoutSecs

/-- One entry under the name if there is a value, and none otherwise. -/
def entry (name : String) (value : Option β) : List (String × β) := (value.map (name, ·)).toList

/-- The variables that are set. -/
def environment (s : Settings) : List (String × String) :=
  entry "RESERVATION_URL" s.baseUrl ++
  entry "RESERVATION_PATH" s.path ++
  entry "RESERVATION_SERVICE" s.serviceName ++
  entry "RESERVATION_RENEW_INTERVAL" (s.renewIntervalSecs.map secondsText) ++
  entry "RESERVATION_RENEW_MARGIN" (s.renewMarginSecs.map secondsText) ++
  entry "RESERVATION_LEASE_DURATION" (s.leaseDurationSecs.map secondsText) ++
  entry "RESERVATION_TIMEOUT" (s.timeoutSecs.map secondsText)

def secondsValue (n : UInt64) : Value := .natural n.toNat

/-- The members of the document. -/
def members (s : Settings) : List (String × Value) :=
  entry "base_url" (s.baseUrl.map .text) ++
  entry "path" (s.path.map .text) ++
  entry "service_name" (s.serviceName.map .text) ++
  entry "renew_interval_secs" (s.renewIntervalSecs.map secondsValue) ++
  entry "renew_margin_secs" (s.renewMarginSecs.map secondsValue) ++
  entry "lease_duration_secs" (s.leaseDurationSecs.map secondsValue) ++
  entry "timeout_secs" (s.timeoutSecs.map secondsValue)

/-! ## From the environment -/

theorem lookup_entry_append (name other : String) (value : Option β) (rest : List (String × β)) :
    (entry other value ++ rest).lookup name =
      if name = other then value.or (rest.lookup name) else rest.lookup name := by
  cases value with
  | none => simp [entry]
  | some b =>
    by_cases h : name = other
    · simp [entry, h]
    · have hbeq : (name == other) = false := beq_eq_false_iff_ne.2 h
      simp [entry, List.lookup_cons, h, hbeq]

theorem lookup_entry (name other : String) (value : Option β) :
    (entry other value).lookup name = if name = other then value else none := by
  simpa using lookup_entry_append name other value []

theorem ofEnv_environment (s : Settings)
    (h : ∀ var, lookup var = s.environment.lookup var) :
    Config.ofEnv lookup = .ok s.config := by
  have htexts : lookup "RESERVATION_URL" = s.baseUrl ∧ lookup "RESERVATION_PATH" = s.path ∧
      lookup "RESERVATION_SERVICE" = s.serviceName := by
    simp [h, environment, lookup_entry_append, lookup_entry]
  have hnumbers :
      lookup "RESERVATION_RENEW_INTERVAL" = s.renewIntervalSecs.map secondsText ∧
      lookup "RESERVATION_RENEW_MARGIN" = s.renewMarginSecs.map secondsText ∧
      lookup "RESERVATION_LEASE_DURATION" = s.leaseDurationSecs.map secondsText ∧
      lookup "RESERVATION_TIMEOUT" = s.timeoutSecs.map secondsText := by
    simp [h, environment, lookup_entry_append, lookup_entry]
  obtain ⟨hurl, hpath, hservice⟩ := htexts
  obtain ⟨hinterval, hmargin, hduration, htimeout⟩ := hnumbers
  simp only [Config.ofEnv, hurl, hpath, hservice, envSeconds_given hinterval,
    envSeconds_given hmargin, envSeconds_given hduration, envSeconds_given htimeout]
  rfl

/-! ## From a document -/

theorem named_entry (name other : String) (value : Option Value) :
    named name (entry other value) = if name = other then value.toList else [] := by
  cases value with
  | none => simp [entry, named]
  | some v =>
    by_cases h : name = other
    · simp [entry, named, h]
    · simp [entry, named, h, Ne.symm h]

/-- A name that comes once at most has its value wherever it stands. -/
theorem named_eq_of_perm {members others : List (String × Value)} {value : Option Value}
    (h : members.Perm others) (hothers : named name others = value.toList) :
    named name members = value.toList := by
  have hperm : (named name members).Perm (named name others) := (h.filter _).map _
  rw [hothers] at hperm
  cases value with
  | none => exact hperm.eq_nil
  | some v => exact List.perm_singleton.1 hperm

theorem gives_text {members : List (String × Value)} {given : Option String} {default : String}
    (h : named name members = (given.map Value.text).toList) :
    Gives (Config.textField name default) (given.getD default) members := by
  cases given with
  | none => exact .leftOut h rfl
  | some text => exact .given h rfl

theorem gives_seconds {members : List (String × Value)} {given : Option UInt64} {default : UInt64}
    (h : named name members = (given.map secondsValue).toList) :
    Gives (Config.secondsField name default) (given.getD default) members := by
  cases given with
  | none => exact .leftOut h rfl
  | some n => exact .given h (Json.word_natural n)

theorem decode_members (s : Settings) {members : List (String × Value)} {text : String}
    (hperm : members.Perm s.members) (h : Writes text (.object members)) :
    Json.decode Config.decoder text = .ok s.config := by
  have htext (name : String) (given : Option String) (default : String)
      (hnamed : named name s.members = (given.map Value.text).toList) :
      Gives (Config.textField name default) (given.getD default) members :=
    gives_text (named_eq_of_perm hperm hnamed)
  have hseconds (name : String) (given : Option UInt64) (default : UInt64)
      (hnamed : named name s.members = (given.map secondsValue).toList) :
      Gives (Config.secondsField name default) (given.getD default) members :=
    gives_seconds (named_eq_of_perm hperm hnamed)
  have hgiven : [⟨Config.baseUrlField, s.config.baseUrl⟩, ⟨Config.pathField, s.config.path⟩,
      ⟨Config.serviceNameField, s.config.serviceName⟩,
      ⟨Config.renewIntervalField, s.config.renewIntervalSecs⟩,
      ⟨Config.renewMarginField, s.config.renewMarginSecs⟩,
      ⟨Config.leaseDurationField, s.config.leaseDurationSecs⟩,
      ⟨Config.timeoutField, s.config.timeoutSecs⟩].Forall (Entry.Given members) := by
    refine ⟨htext _ _ _ ?_, htext _ _ _ ?_, htext _ _ _ ?_, hseconds _ _ _ ?_, hseconds _ _ _ ?_,
      hseconds _ _ _ ?_, hseconds _ _ _ ?_⟩
    all_goals simp [Settings.members, Json.named_append, named_entry]
  rw [h.decode]
  refine Json.record_object _ _ rfl rfl hgiven fun row h => ?_
  simp only [List.Forall, Entry.Holds] at h
  simp only [h, ok_bind]
  rfl

end Settings

/-! ## Both ways -/

/-- Settings that are given as variables, and those that are given as the members of a document,
in any order and layout, are the same. Reading an environment succeeds if all numbers that are set
can be read, and otherwise names the first that cannot, with its text as it is. -/
theorem environment_agrees_with_document :
    (∀ (s : Settings) (members : List (String × Value)) (text : String),
      members.Perm s.members → Writes text (.object members) →
        Config.ofEnv (fun var => s.environment.lookup var) = .ok s.config ∧
        Json.decode Config.decoder text = .ok s.config) ∧
    ∀ lookup : String → Option String,
      ((∃ c, Config.ofEnv lookup = .ok c) ↔ ∀ var ∈ secondsVariables, IsFine lookup var) ∧
      ∀ var value, Config.ofEnv lookup = .error (.invalidValue var value) ↔
        FirstBad lookup var value := by
  refine ⟨fun s members text hperm hwrites =>
    ⟨s.ofEnv_environment fun _ => rfl, s.decode_members hperm hwrites⟩, fun lookup => ?_⟩
  rcases ofEnv_cases lookup with ⟨hfine, c, hok⟩ | ⟨var, value, hfirst, herror⟩
  · refine ⟨⟨fun _ => hfine, fun _ => ⟨c, hok⟩⟩, fun var value => ⟨fun h => ?_, fun h => ?_⟩⟩
    · rw [hok] at h
      cases h
    · exact absurd (hfine var h.mem) h.not_isFine
  · refine ⟨⟨fun ⟨c, hok⟩ => ?_, fun hfine => ?_⟩, fun var' value' => ⟨fun h => ?_, fun h => ?_⟩⟩
    · rw [herror] at hok
      cases hok
    · exact absurd (hfine var hfirst.mem) hfirst.not_isFine
    · rw [herror] at h
      cases h
      exact hfirst
    · obtain ⟨rfl, rfl⟩ := hfirst.unique h
      exact herror

/-- A path and a timeout. -/
def someSettings : Settings := { path := some "/v2", timeoutSecs := some 5 }

/-- The document has them the other way around. -/
theorem environment_agrees_with_document_reversed :
    [("timeout_secs", Value.natural 5), ("path", .text "/v2")].Perm someSettings.members ∧
    Writes (Json.object [("timeout_secs", .number 5), ("path", .text "/v2")]).prettyText
      (.object [("timeout_secs", .natural 5), ("path", .text "/v2")]) ∧
    Config.ofEnv (fun var => someSettings.environment.lookup var) =
      .ok { path := "/v2", timeoutSecs := 5 } ∧
    Json.decode Config.decoder
      (Json.object [("timeout_secs", .number 5), ("path", .text "/v2")]).prettyText =
      .ok { path := "/v2", timeoutSecs := 5 } := by
  have hperm : [("timeout_secs", Value.natural 5), ("path", .text "/v2")].Perm
      someSettings.members := .swap ..
  have hwrites := Json.writes_prettyText
    (.object [("timeout_secs", .number 5), ("path", .text "/v2")])
  obtain ⟨hagree, -⟩ := environment_agrees_with_document
  exact ⟨hperm, hwrites, hagree someSettings _ _ hperm hwrites⟩

end Inventory.Reservation
