-- Capitals and blanks around a field make no difference. Two endpoints whose
-- fields read the same once they are trimmed and in small letters resolve to one
-- descriptor, or are refused for the same kind of fault.
import Inventory.Proofs.Coherence
import Inventory.Proofs.LetterCase

namespace Inventory

open Text

namespace Text

variable {cs : List Char} {c : Char} {p : Char → Bool} {field : Option String} {s : String}

/-! ## Fields -/

/-- A field as it counts: trimmed and in small letters, and absent if it is blank. -/
def foldField (field : Option String) : Option String := (nonBlank field).map lower

theorem isTrimmed_of_nonBlank (h : nonBlank field = some s) : IsTrimmed s.toList := by
  obtain ⟨hfield, hne⟩ := Option.filter_eq_some_iff.1 h
  obtain ⟨raw, _, rfl⟩ := Option.map_eq_some_iff.1 hfield
  rw [trim_toList]
  refine ⟨fun hnil => ?_, fun c hc => isBlank_of_head?_trimChars hc, fun c hc => ?_⟩
  · simp [trim, hnil] at hne
  · exact of_getLast?_dropEndWhile hc

theorem IsTrimmed.map_toLower (h : IsTrimmed cs) : IsTrimmed (cs.map Char.toLower) := by
  refine ⟨mt List.map_eq_nil_iff.1 h.nonempty, fun c hc => ?_, fun c hc => ?_⟩
  · rw [List.head?_map, Option.map_eq_some_iff] at hc
    obtain ⟨c, hc, rfl⟩ := hc
    rw [isBlank_toLower, h.head c hc]
  · rw [List.getLast?_map, Option.map_eq_some_iff] at hc
    obtain ⟨c, hc, rfl⟩ := hc
    rw [isBlank_toLower, h.last c hc]

theorem nonBlank_foldField (field : Option String) :
    nonBlank (foldField field) = foldField field := by
  unfold foldField
  cases h : nonBlank field with
  | none => rfl
  | some s =>
    apply nonBlank_eq_some
    rw [lower_toList]
    exact (isTrimmed_of_nonBlank h).map_toLower

theorem mem_of_nonBlank (h : nonBlank field = some s) (hc : c ∈ s.toList) :
    ∃ raw, field = some raw ∧ c ∈ raw.toList := by
  obtain ⟨raw, hraw, rfl⟩ := Option.map_eq_some_iff.1 (Option.filter_eq_some_iff.1 h).1
  rw [trim_toList] at hc
  have hdrop := (dropEndWhile_isPrefix isBlank _).mem hc
  exact ⟨raw, hraw, (List.dropWhile_suffix isBlank).mem hdrop⟩

/-- A mark that is no letter is in every spelling of a field or in none. -/
theorem not_mem_of_foldField_eq {a b : Option String} {m : Char} (hm : m.isAlpha = false)
    (h : foldField a = foldField b) (ha : ∀ s, nonBlank a = some s → m ∉ s.toList) :
    ∀ s, nonBlank b = some s → m ∉ s.toList := by
  intro s hs hmem
  have hfolded : foldField a = some (lower s) := by
    rw [h, foldField, hs]
    rfl
  obtain ⟨text, htext, hlower⟩ := Option.map_eq_some_iff.1 hfolded
  have hsmall : m ∈ (lower text).toList := by
    rw [hlower, lower_toList]
    exact (mem_map_toLower hm).2 hmem
  rw [lower_toList, mem_map_toLower hm] at hsmall
  exact ha text htext hsmall

end Text

/-- The endpoint with its names and addresses as they count. -/
def EndpointSpec.folded (s : EndpointSpec) : EndpointSpec :=
  { s with
    id := foldField s.id
    fqdn := foldField s.fqdn
    hostname := foldField s.hostname
    domain := foldField s.domain
    macAddr := foldField s.macAddr
    ipAddr := foldField s.ipAddr }

namespace Endpoint

variable {s t : EndpointSpec} {f : String} {id fqdn hostname field : Option String}
  {domain : Option Hostname} {cs : List Char}

/-! ## Fields -/

theorem agree_readOptional {α : Type} {read : String → Except Error α}
    (h : ∀ s, Agree (read (lower s)) (read s)) :
    Agree (readOptional read (field.map lower)) (readOptional read field) := by
  cases field with
  | none => exact .accepted none
  | some s => exact (h s).map some

theorem agree_controller (s : String) : Agree (controller (lower s)) (controller s) := by
  have hsame : (trimChars (lower s).toList).map Char.toLower =
      (trimChars s.toList).map Char.toLower := by
    rw [lower_toList, trimChars_map_toLower, Hostname.map_toLower_map_toLower]
  unfold controller Xname.parse
  rw [hsame]
  cases Segment.ofChars? ((trimChars s.toList).map Char.toLower) with
  | none => exact .refused rfl
  | some segments =>
    dsimp only
    cases Xname.ofSegments? segments with
    | none => exact .refused rfl
    | some x => exact .refl _

theorem agree_readDomain (s : String) : Agree (readDomain (lower s)) (readDomain s) := by
  have hsame : Hostname.parse (String.ofList ((lower s).toList.dropWhile (· == '.'))) =
      Hostname.parse (String.ofList (s.toList.dropWhile (· == '.'))) := by
    apply Hostname.parse_congr
    rw [lower_toList, dropWhile_map_toLower (beq_toLower rfl), Hostname.folded_map_toLower]
  unfold readDomain
  rw [hsame]
  cases Hostname.parse (String.ofList (s.toList.dropWhile (· == '.'))) with
  | ok n => exact .accepted n
  | error e => exact .refused rfl

theorem agree_readMac (s : String) : Agree (readMac (lower s)) (readMac s) := by
  unfold readMac Mac.ofText Mac.parse
  rw [lower_toList, trimChars_map_toLower, Mac.ofChars?_map_toLower]
  cases Mac.ofChars? (trimChars s.toList) with
  | some found => exact .refl _
  | none => exact .refused rfl

theorem agree_readIp (s : String) : Agree (readIp (lower s)) (readIp s) := by
  have hsame : Ip.ofChars? (unbracketed (lower s).toList) = Ip.ofChars? (unbracketed s.toList) := by
    rw [lower_toList, unbracketed_map_toLower, Ip.ofChars?_map_toLower]
  unfold unbracketed at hsame
  unfold readIp
  rw [hsame]
  cases Ip.ofChars? (dropEndWhile (· == ']') (s.toList.dropWhile (· == '['))) with
  | some a => exact .accepted a
  | none => exact .refused rfl

theorem agree_parse (h : '%' ∉ cs) :
    Agree (Host.parse (String.ofList (cs.map Char.toLower))) (Host.parse (String.ofList cs)) := by
  have hname := Hostname.parse_congr (Hostname.folded_map_toLower cs)
  unfold Host.parse
  rw [String.toList_ofList, String.toList_ofList, IpLiteral.ofChars?_map_toLower h, hname]
  cases IpLiteral.ofChars? cs with
  | some l => exact .accepted _
  | none =>
    dsimp only
    cases Hostname.parse (String.ofList cs) with
    | ok n => exact .accepted _
    | error e => exact .refused rfl

theorem agree_parse_lower (h : '%' ∉ f.toList) : Agree (Host.parse (lower f)) (Host.parse f) := by
  have hsame := agree_parse h
  rwa [String.ofList_toList] at hsame

/-! ## Rows of the table -/

theorem agree_placeFqdn (hfqdn : '%' ∉ f.toList)
    (hhostname : ∀ h, hostname = some h → '%' ∉ h.toList) :
    Agree (placeFqdn (lower f) (hostname.map lower) domain) (placeFqdn f hostname domain) := by
  unfold placeFqdn
  rw [lower_toList, splitHostPort?_map_toLower]
  cases hsplit : splitHostPort? f.toList with
  | none => exact .refused rfl
  | some found =>
    obtain ⟨host, port⟩ := found
    have hhost : '%' ∉ host := fun hzone => hfqdn (mem_of_splitHostPort? hsplit hzone)
    simp only [Option.map_some, ok_bind]
    refine (agree_parse hhost).bind fun host => ?_
    -- Names are compared as they were read, so nothing behind the readers sees the spelling.
    cases hostname with
    | none => exact .refl _
    | some h => exact ((agree_parse_lower (hhostname h rfl)).map some).bind fun _ => .refl _

theorem agree_placeHostname (h : '%' ∉ f.toList) :
    Agree (placeHostname (lower f) domain) (placeHostname f domain) :=
  (agree_parse_lower h).bind fun _ => .refl _

theorem agree_placeId : Agree (placeId (id.map lower) domain) (placeId id domain) := by
  cases id with
  | none => exact .refused rfl
  | some s => exact (agree_controller s).bind fun _ => .refl _

theorem agree_place (hfqdn : ∀ f, fqdn = some f → '%' ∉ f.toList)
    (hhostname : ∀ h, hostname = some h → '%' ∉ h.toList) :
    Agree (place (id.map lower) (fqdn.map lower) (hostname.map lower) domain)
      (place id fqdn hostname domain) := by
  cases fqdn with
  | some f => exact agree_placeFqdn (hfqdn f rfl) hhostname
  | none =>
    cases hostname with
    | some h => exact agree_placeHostname (hhostname h rfl)
    | none => exact agree_placeId

theorem agree_identify (p : Placement) :
    Agree (identify (id.map lower) p) (identify id p) := by
  cases id with
  | none => exact .refl _
  | some s => exact agree_controller s

/-! ## Resolution -/

theorem agree_locate (hfqdn : ∀ f, nonBlank s.fqdn = some f → '%' ∉ f.toList)
    (hhostname : ∀ h, nonBlank s.hostname = some h → '%' ∉ h.toList) :
    Agree (locate s.folded) (locate s) := by
  simp only [locate, EndpointSpec.folded, nonBlank_foldField]
  exact (agree_readOptional agree_readDomain).bind fun domain => agree_place hfqdn hhostname

theorem agree_describe (p : Placement) : Agree (describe s.folded p) (describe s p) := by
  simp only [describe, EndpointSpec.folded, nonBlank_foldField]
  refine (agree_identify p).bind fun x => ?_
  refine (Agree.refl _).bind fun _ => ?_
  refine (agree_readOptional agree_readMac).bind fun mac => ?_
  exact (agree_readOptional agree_readIp).bind fun ip => .refl _

/-- An endpoint resolves as its fields count, or is refused as they are. -/
theorem agree_folded (hfqdn : ∀ f, nonBlank s.fqdn = some f → '%' ∉ f.toList)
    (hhostname : ∀ h, nonBlank s.hostname = some h → '%' ∉ h.toList) :
    Agree (resolve s.folded) (resolve s) := by
  rw [resolve_eq, resolve_eq]
  exact (agree_locate hfqdn hhostname).bind agree_describe

/-- Two endpoints that differ in capitals and in blanks around their fields resolve to one
descriptor, or are refused for the same kind of fault. A zone keeps its capitals, so neither of the
fields that may hold one has a percent sign. -/
theorem resolve_respelled (h : s.folded = t.folded)
    (hfqdn : ∀ f, s.fqdn = some f → '%' ∉ f.toList)
    (hhostname : ∀ f, s.hostname = some f → '%' ∉ f.toList) : Agree (resolve s) (resolve t) := by
  have hplain {field : Option String} (hfield : ∀ f, field = some f → '%' ∉ f.toList) :
      ∀ f, nonBlank field = some f → '%' ∉ f.toList := by
    intro f hf hzone
    obtain ⟨raw, hraw, hmem⟩ := mem_of_nonBlank hf hzone
    exact hfield raw hraw hmem
  have hs := agree_folded (hplain hfqdn) (hplain hhostname)
  have ht : Agree (resolve t.folded) (resolve t) :=
    agree_folded
      (not_mem_of_foldField_eq rfl (congrArg EndpointSpec.fqdn h) (hplain hfqdn))
      (not_mem_of_foldField_eq rfl (congrArg EndpointSpec.hostname h) (hplain hhostname))
  rw [← h] at ht
  exact hs.symm.trans ht

/-- Every field in small letters. -/
def everyFieldSmall : EndpointSpec where
  id := some "x00c0s14b0"
  fqdn := some "x0c0s14b0.example.com:0443"
  hostname := some "x0c0s14b0"
  domain := some ".example.com"
  user := some "root"
  password := some "calvin"
  macAddr := some "aa-bb-cc-dd-ee-ff"
  ipAddr := some "[fd40::1]"

theorem resolve_respelled_everyField :
    everyField.folded = everyFieldSmall.folded ∧
      resolve everyFieldSmall = .ok everyFieldResolved := by
  have hfolded : everyField.folded = everyFieldSmall.folded :=
    calc
      everyField.folded = everyFieldSmall := by decide +kernel
      _ = everyFieldSmall.folded := by decide +kernel
  have hfqdn : ∀ f, everyField.fqdn = some f → '%' ∉ f.toList := by
    rintro _ ⟨⟩
    decide
  have hhostname : ∀ f, everyField.hostname = some f → '%' ∉ f.toList := by
    rintro _ ⟨⟩
    decide
  have hagree := resolve_respelled hfolded hfqdn hhostname
  rw [resolve_everyField] at hagree
  generalize resolve everyFieldSmall = r at hagree
  cases hagree
  exact ⟨hfolded, rfl⟩

end Endpoint

end Inventory
