-- Names given whole, in parts, or both ways. The host and the domain of an FQDN
-- may be given once more as fields of their own, unless the host is a number,
-- which no name of one label is. Given instead of the FQDN they come out the
-- same, as a descriptor or as a refusal.
import Inventory.Proofs.Restatement

namespace Inventory

open Text

/-! ## Labels as names -/

namespace Hostname

variable {label : List Char} {host : String} {n d : Hostname}

/-- A label has neither the dots nor the colons of a literal. -/
theorem IsLabel.literal_eq_none (h : IsLabel label) : IpLiteral.ofChars? label = none := by
  have hfree (c : Char) (hc : isLabelChar c = false) : c ∉ label := by
    intro hmem
    rw [h.chars c hmem] at hc
    cases hc
  have hip : Ip.ofChars? label = none := by
    rw [Ip.ofChars?, Ip.V4.ofChars?_eq_none h.dot_not_mem, Ip.V6.ofChars?_eq_none (hfree ':' rfl)]
    rfl
  exact IpLiteral.ofChars?_eq_none (hfree '[' rfl) (hfree ']' rfl) (hfree '%' rfl) hip

theorem IsShort.isBlank_of_mem (h : IsShort host) : ∀ c ∈ host.toList, isBlank c = false :=
  fun c hc => isBlank_of_isLabelChar (h.chars c hc)

theorem IsShort.folded_eq (h : IsShort host) : folded host = host.toList := by
  have hlast : host.toList.getLast? ≠ some '.' := fun hdot =>
    h.dot_not_mem (List.mem_of_mem_getLast? hdot)
  rw [folded, trimChars_eq_self_of_forall h.isBlank_of_mem, dropRootDot, if_neg hlast, h.small]

/-- The only fault that a label can have as a name is to be a number. -/
theorem IsShort.fault?_eq (h : IsShort host) :
    fault? host.toList =
      if host.toList.all Char.isDigit then some (.numericLabel host) else none := by
  have hsize : ¬ 253 < utf8Size host.toList := by
    have := h.size
    omega
  rw [fault?, if_neg h.nonempty, if_neg hsize, labels_eq_singleton h.dot_not_mem]
  simp only [List.findSome?_cons, labelFault?_eq_none_iff.2 h.toIsLabel, List.findSome?_nil,
    List.getLastD_cons, List.getLastD_nil, String.ofList_toList]

theorem IsShort.parse_of_number (h : IsShort host) (hnumber : host.toList.all Char.isDigit = true) :
    parse host = .error (.numericLabel host) := by
  rw [parse_eq_error_iff, h.folded_eq, h.fault?_eq, if_pos hnumber]

theorem IsShort.exists_parse (h : IsShort host) (hnumber : host.toList.all Char.isDigit = false) :
    ∃ n, parse host = .ok n ∧ n.text = host := by
  have hfault : fault? host.toList = none := by
    rw [h.fault?_eq, hnumber]
    rfl
  refine ⟨⟨host, hfault, h.small⟩, ?_, rfl⟩
  rw [parse_eq_ok_iff, h.folded_eq]

/-- What stands behind the first dot of a name, as a name. -/
theorem exists_domain?_eq (n : Hostname) : ∃ d : Option Hostname, n.domain? = d.map text := by
  cases hdomain : n.domain? with
  | none => exact ⟨none, rfl⟩
  | some domain =>
    obtain ⟨d, rfl⟩ := exists_domain hdomain
    exact ⟨some d, rfl⟩

end Hostname

namespace Endpoint

variable {spec : EndpointSpec} {d : Descriptor} {id fqdn hostname : Option String}
  {domain : Option Hostname} {f : String} {host : List Char} {port : Option UInt16}

theorem Host.parse_of_name_error {s : String} {e : Hostname.Error}
    (hliteral : IpLiteral.ofChars? s.toList = none) (hname : Hostname.parse s = .error e) :
    Host.parse s = .error (.invalidAddress s (.name e)) := by
  simp only [Host.parse, hliteral, hname]

/-! ## Whole and in parts -/

/-- The FQDN is there, and its host is a name. -/
def NamesHost (spec : EndpointSpec) : Prop :=
  ∃ f host port n, nonBlank spec.fqdn = some f ∧ splitHostPort? f.toList = some (host, port) ∧
    Host.parse (String.ofList host) = .ok (.name n)

/-- The spec with the host and the domain of a descriptor given as well. -/
def withNamesOf (spec : EndpointSpec) (d : Descriptor) : EndpointSpec :=
  { spec with
    hostname := some d.address.hostname
    domain := if d.address.domain = "" then none else some d.address.domain }

/-- A hostname that cannot be read is refused before it is compared. -/
theorem placeFqdn_of_hostname_error {found : Host} {given : String} {e : Error}
    (hsplit : splitHostPort? f.toList = some (host, port))
    (hread : Host.parse (String.ofList host) = .ok found) (hgiven : Host.parse given = .error e) :
    placeFqdn f (some given) domain = .error e := by
  rw [placeFqdn, hsplit]
  simp only [bind, Except.bind, hread, hgiven, Except.map]

/-- A name is placed by the row of the FQDN in one way only. -/
theorem Places.eq_of_name {p : Placement} {n : Hostname} (hp : Places id (some f) hostname domain p)
    (hsplit : splitHostPort? f.toList = some (host, port))
    (hread : Host.parse (String.ofList host) = .ok (.name n)) :
    p = { address := .dns n.shortName n.domain?, port, name := some n.shortName } :=
  ((placeFqdn_name_iff hsplit hread).1 (placeFqdn_eq_ok_iff.2 hp)).2.2.symm

/-- The host of a name agrees with it, if it can be read by itself. -/
theorem placeFqdn_parts {n : Hostname} (hsplit : splitHostPort? f.toList = some (host, port))
    (hread : Host.parse (String.ofList host) = .ok (.name n))
    (hdomain : n.domain? = domain.map Hostname.text) :
    placeFqdn f (some n.shortName) domain =
      if n.shortName.toList.all Char.isDigit then
        .error (.invalidAddress n.shortName (.name (.numericLabel n.shortName)))
      else .ok { address := .dns n.shortName n.domain?, port, name := some n.shortName } := by
  have hshort := n.isShort_shortName
  split
  · rename_i hnumber
    apply placeFqdn_of_hostname_error hsplit hread
    exact Host.parse_of_name_error hshort.literal_eq_none (hshort.parse_of_number hnumber)
  · rename_i hnumber
    obtain ⟨m, hm, htext⟩ := hshort.exists_parse (Bool.eq_false_iff.2 hnumber)
    rw [placeFqdn_name_iff hsplit hread]
    refine ⟨?_, ?_, rfl⟩
    · rintro _ ⟨⟩
      have hread := Host.parse_eq_name_iff.2 ⟨hshort.literal_eq_none, hm⟩
      exact ⟨.name m, hread, by simp [Host.text, htext]⟩
    · rintro dom rfl
      rw [hdomain]
      rfl

/-- A descriptor whose names are given as well is placed by the row of the FQDN. -/
theorem locate_withNamesOf {n : Hostname} (hfqdn : nonBlank spec.fqdn = some f)
    (hhost : d.address.hostname = n.shortName)
    (hsuffix : d.address.domain = (domain.map Hostname.text).getD "") :
    locate (withNamesOf spec d) = placeFqdn f (some n.shortName) domain := by
  have hshort := n.isShort_shortName
  have hhostname : nonBlank (some n.shortName) = some n.shortName :=
    nonBlank_eq_some (.of_forall hshort.nonempty hshort.isBlank_of_mem)
  have hdomain : readOptional readDomain (nonBlank (withNamesOf spec d).domain) = .ok domain := by
    rw [show (withNamesOf spec d).domain = domain.map Hostname.text from restated_domain hsuffix]
    exact readOptional_map Hostname.nonBlank_text readDomain_text domain
  have hplace : place (nonBlank spec.id) (nonBlank (withNamesOf spec d).fqdn)
      (nonBlank (withNamesOf spec d).hostname) domain =
        placeFqdn f (some n.shortName) domain := by
    simp only [withNamesOf, hhost, hfqdn, hhostname, place]
  rw [← hplace, locate, hdomain]
  rfl

/-- The names of a descriptor that came from an FQDN change nothing when they are given as well,
but for a host that is a number: by itself it is refused as a name. -/
theorem resolve_withNamesOf (h : resolve spec = .ok d) (hname : NamesHost spec) :
    resolve (withNamesOf spec d) =
      if d.address.hostname.toList.all Char.isDigit then
        .error (.invalidAddress d.address.hostname (.name (.numericLabel d.address.hostname)))
      else .ok d := by
  obtain ⟨f, host, port, n, hfqdn, hsplit, hread⟩ := hname
  obtain ⟨given, p, hr⟩ := resolve_eq_ok_iff.1 h
  obtain ⟨domain, hdomain⟩ := n.exists_domain?_eq
  have hplaced := hr.placed
  rw [hfqdn] at hplaced
  have hp := hplaced.eq_of_name hsplit hread
  have hhost : d.address.hostname = n.shortName := by
    rw [hr.address, hp]
    rfl
  have hsuffix : d.address.domain = (domain.map Hostname.text).getD "" := by
    rw [hr.address, hp, ← hdomain]
    rfl
  have hlocate : locate spec = .ok p :=
    bind_eq_ok_iff.2 ⟨given, hr.readsDomain, place_eq_ok_iff.2 hr.placed⟩
  have hdescribe : describe spec p = .ok d := by
    rw [resolve_eq, hlocate] at h
    exact h
  -- The names only matter for where the endpoint is placed.
  rw [resolve_eq, locate_withNamesOf hfqdn hhost hsuffix, placeFqdn_parts hsplit hread hdomain,
    hhost]
  split
  · rfl
  · rw [← hp]
    exact hdescribe

/-- An ID with an FQDN. -/
def idWithFqdn (fqdn : String) : EndpointSpec where
  id := some "x0c0s14b0"
  fqdn := some fqdn

/-- The same, resolved. -/
def namedResolved (host domain : String) : Descriptor where
  id := someController
  address := .dns host (some domain)
  port := none
  mac := none
  ip := none
  enabled := true
  credentials := ⟨"", ""⟩

theorem resolve_withNamesOf_rack :
    resolve (withNamesOf (idWithFqdn "Rack7.example.com") (namedResolved "rack7" "example.com")) =
      .ok (namedResolved "rack7" "example.com") := by
  have hread : ∃ n, Host.parse (String.ofList "Rack7.example.com".toList) = .ok (.name n) :=
    ⟨⟨"rack7.example.com", by decide +kernel, by decide +kernel⟩, by decide +kernel⟩
  obtain ⟨n, hread⟩ := hread
  have hname : NamesHost (idWithFqdn "Rack7.example.com") :=
    ⟨"Rack7.example.com", "Rack7.example.com".toList, none, n, by decide +kernel, by decide +kernel,
      hread⟩
  exact resolve_withNamesOf (by decide +kernel) hname

/-- A host that is a number is fine in front of a domain and no name by itself. -/
theorem number_refused_as_hostname :
    resolve (idWithFqdn "3000.example.com") = .ok (namedResolved "3000" "example.com") ∧
      resolve { idWithFqdn "3000.example.com" with
          hostname := some "3000", domain := some "example.com" } =
        .error (.invalidAddress "3000" (.name (.numericLabel "3000"))) := by
  constructor
  · decide +kernel
  · decide +kernel

/-! ## Whole or in parts -/

/-- Both rows join a label and a domain, and refuse what is not a name. -/
def joinedPlacement (n d : Hostname) (refused : String) : Except Error Placement :=
  ((n.withDomain d).map fun _ =>
    { address := .dns n.text (some d.text), name := some n.text }).mapError fun e =>
      .invalidAddress refused (.name e)

theorem placeHostname_name {n d : Hostname} (hsingle : '.' ∉ n.text.toList) :
    placeHostname n.text (some d) = joinedPlacement n d n.text := by
  have hread : Host.parse n.text = .ok (.name n) := Host.parse_text (h := .name n) trivial
  have hqualified : n.isQualified = false := Hostname.isQualified_eq_false_iff.2 hsingle
  rw [placeHostname, hread, joinedPlacement]
  simp only [bind, Except.bind, hqualified, Bool.false_eq_true, if_false]
  cases n.withDomain d <;> rfl

theorem placeFqdn_joined {n d : Hostname} (hsingle : '.' ∉ n.text.toList) :
    placeFqdn (n.text ++ "." ++ d.text) none none =
      joinedPlacement n d (n.text ++ "." ++ d.text) := by
  have hdotted := Hostname.isDotted_joined n d
  have hsplit : splitHostPort? (n.text ++ "." ++ d.text).toList =
      some ((n.text ++ "." ++ d.text).toList, none) := by
    have hopen : '[' ∉ (n.text ++ "." ++ d.text).toList := hdotted.not_mem (by decide)
    have hcolon : ':' ∉ (n.text ++ "." ++ d.text).toList := hdotted.not_mem (by decide)
    have hplain := splitHostPort?_plain (fun h => hopen (List.mem_of_mem_head? h)) hcolon none
    rwa [portChars, List.append_nil] at hplain
  cases hjoined : n.withDomain d with
  | error e =>
    have hread : Host.parse (n.text ++ "." ++ d.text) =
        .error (.invalidAddress (n.text ++ "." ++ d.text) (.name e)) :=
      Host.parse_of_name_error hdotted.literal_eq_none hjoined
    rw [placeFqdn, hsplit, joinedPlacement, hjoined]
    simp only [bind, Except.bind, String.ofList_toList, hread]
    rfl
  | ok joined =>
    have hread : Host.parse (n.text ++ "." ++ d.text) = .ok (.name joined) :=
      Host.parse_eq_name_iff.2 ⟨hdotted.literal_eq_none, hjoined⟩
    obtain ⟨hshort, hdomain⟩ :=
      Hostname.parts_of_text_eq (Hostname.text_of_withDomain hjoined) hsingle
    have hplacement : joinedPlacement n d (n.text ++ "." ++ d.text) =
        .ok { address := .dns n.text (some d.text), name := some n.text } := by
      rw [joinedPlacement, hjoined]
      rfl
    rw [← String.ofList_toList (s := n.text ++ "." ++ d.text)] at hread
    rw [hplacement, placeFqdn_name_iff hsplit hread, hshort, hdomain]
    refine ⟨?_, ?_, rfl⟩
    · rintro _ ⟨⟩
    · rintro _ ⟨⟩

/-- The two rows differ only in which text a refusal names. -/
theorem locate_agree {n d : Hostname} {fqdn hostname domain : Option String}
    (hsingle : '.' ∉ n.text.toList) (hfqdn : nonBlank fqdn = none)
    (hhostname : nonBlank hostname = none) (hdomain : nonBlank domain = none) :
    Agree (locate { spec with fqdn, hostname := some n.text, domain := some d.text })
      (locate { spec with fqdn := some (n.text ++ "." ++ d.text), hostname, domain }) := by
  have hjoined : nonBlank (some (n.text ++ "." ++ d.text)) = some (n.text ++ "." ++ d.text) :=
    nonBlank_eq_some (Hostname.isDotted_joined n d).isTrimmed
  have hparts : locate { spec with fqdn, hostname := some n.text, domain := some d.text } =
      placeHostname n.text (some d) := by
    simp only [locate, hfqdn, n.nonBlank_text, d.nonBlank_text, readOptional, readDomain_text]
    rfl
  have hwhole : locate { spec with fqdn := some (n.text ++ "." ++ d.text), hostname, domain } =
      placeFqdn (n.text ++ "." ++ d.text) none none := by
    simp only [locate, hjoined, hhostname, hdomain, readOptional]
    rfl
  rw [hparts, hwhole, placeHostname_name hsingle, placeFqdn_joined hsingle]
  unfold joinedPlacement
  cases n.withDomain d with
  | ok _ => exact .refl _
  | error _ => exact .refused rfl

/-- A hostname of one label and a domain resolve as the FQDN that they make up, or are refused as
it is. -/
theorem resolve_parts_agree {host suffix : String} {fqdn hostname domain : Option String}
    (hsingle : '.' ∉ host.toList) (hhost : ∃ n, Hostname.parse host = .ok n ∧ n.text = host)
    (hsuffix : ∃ n, Hostname.parse suffix = .ok n ∧ n.text = suffix)
    (hfqdn : nonBlank fqdn = none) (hhostname : nonBlank hostname = none)
    (hdomain : nonBlank domain = none) :
    Agree (resolve { spec with fqdn, hostname := some host, domain := some suffix })
      (resolve { spec with fqdn := some (host ++ "." ++ suffix), hostname, domain }) := by
  obtain ⟨n, _, rfl⟩ := hhost
  obtain ⟨d, _, rfl⟩ := hsuffix
  rw [resolve_eq, resolve_eq]
  exact (locate_agree hsingle hfqdn hhostname hdomain).bind fun p => .refl (describe spec p)

theorem resolve_parts_agree_rack :
    Agree (.ok (namedResolved "rack7" "example.com"))
      (resolve (idWithFqdn ("rack7" ++ "." ++ "example.com"))) := by
  have hhost : ∃ n, Hostname.parse "rack7" = .ok n ∧ n.text = "rack7" :=
    ⟨⟨"rack7", by decide +kernel, by decide +kernel⟩, by decide +kernel, rfl⟩
  have hsuffix : ∃ n, Hostname.parse "example.com" = .ok n ∧ n.text = "example.com" :=
    ⟨⟨"example.com", by decide +kernel, by decide +kernel⟩, by decide +kernel, rfl⟩
  have hblank : nonBlank (some " ") = none := by decide +kernel
  have hparts :
      resolve { idWithFqdn " " with hostname := some "rack7", domain := some "example.com" } =
        .ok (namedResolved "rack7" "example.com") := by decide +kernel
  rw [← hparts]
  exact resolve_parts_agree (by decide) hhost hsuffix hblank rfl rfl

end Endpoint

end Inventory
