-- What resolution does. Each row of the decision table is a constructor that
-- names what it has checked, and an endpoint resolves if and only if some row
-- places it and its other fields can be read.
import Mathlib.Data.List.Basic
import Inventory.Endpoint.Resolution
import Inventory.Proofs.Texts

namespace Inventory.Endpoint

open Text

variable {id fqdn hostname field : Option String} {domain : Option Hostname} {p : Placement}
  {spec : EndpointSpec} {d : Descriptor} {s : String} {x : Xname}

theorem bind_eq_ok_iff {α β : Type} {r : Except Error α} {next : α → Except Error β} {b : β} :
    (r >>= next) = .ok b ↔ ∃ a, r = .ok a ∧ next a = .ok b := by
  cases r <;> simp [bind, Except.bind]

/-! ## Fields -/

theorem controller_eq_ok_iff :
    controller s = .ok x ↔ Xname.parse s = .ok x ∧ x.isController = true := by
  unfold controller
  cases hparse : Xname.parse s with
  | error e => simp
  | ok y =>
    by_cases hy : y.isController = true
    · simp only [hy, if_true, Except.ok.injEq]
      constructor
      · rintro rfl
        exact ⟨rfl, hy⟩
      · exact And.left
    · simp only [hy, Bool.false_eq_true, if_false, Except.ok.injEq, reduceCtorEq, false_iff]
      rintro ⟨rfl, hx⟩
      exact hy hx

theorem readDomain_eq_ok_iff {n : Hostname} :
    readDomain s = .ok n ↔
      Hostname.parse (String.ofList (s.toList.dropWhile (· == '.'))) = .ok n := by
  unfold readDomain
  cases Hostname.parse (String.ofList (s.toList.dropWhile (· == '.'))) <;> simp

theorem readMac_eq_ok_iff {m : Mac} : readMac s = .ok m ↔ Mac.ofText s = .ok m := by
  unfold readMac
  cases Mac.ofText s <;> simp

theorem readIp_eq_ok_iff {a : Ip} :
    readIp s = .ok a ↔ Ip.ofChars? (unbracketed s.toList) = some a := by
  unfold readIp unbracketed
  cases Ip.ofChars? (dropEndWhile (· == ']') (s.toList.dropWhile (· == '['))) <;> simp

theorem readOptional_eq_ok_iff {α : Type} {read : String → Except Error α} {found : Option α} :
    readOptional read field = .ok found ↔
      (field.isSome ↔ found.isSome) ∧
        ∀ s a, field = some s → found = some a → read s = .ok a := by
  cases field with
  | none => cases found <;> simp [readOptional]
  | some s => cases found <;> cases hread : read s <;> simp [readOptional, hread, Except.map]

/-! ## Rows of the table -/

/-- A hostname that is given has to be one of these names. -/
def Agrees (given : Option String) (names : List String) : Prop :=
  ∀ s, given = some s → ∃ h, Host.parse s = .ok h ∧ h.text ∈ names

/-- The rows of the decision table, each with what it checks and where it places the endpoint. -/
inductive Places (id fqdn hostname : Option String) (domain : Option Hostname) :
    Placement → Prop
  | literal {f : String} {host : List Char} {port : Option UInt16} {l : IpLiteral}
      (given : fqdn = some f) (split : splitHostPort? f.toList = some (host, port))
      (read : Host.parse (String.ofList host) = .ok (.ip l))
      (agrees : Agrees hostname [l.text]) :
      Places id fqdn hostname domain { address := .ip l (domain.map Hostname.text), port }
  | name {f : String} {host : List Char} {port : Option UInt16} {n : Hostname}
      (given : fqdn = some f) (split : splitHostPort? f.toList = some (host, port))
      (read : Host.parse (String.ofList host) = .ok (.name n))
      (agrees : Agrees hostname [n.shortName, n.text])
      (within : ∀ d, domain = some d → d.text = n.domain?.getD "") :
      Places id fqdn hostname domain
        { address := .dns n.shortName n.domain?, port, name := some n.shortName }
  | hostLiteral {s : String} {l : IpLiteral} (missing : fqdn = none) (given : hostname = some s)
      (read : Host.parse s = .ok (.ip l)) :
      Places id fqdn hostname domain { address := .ip l (domain.map Hostname.text) }
  | hostAlone {s : String} {n : Hostname} (missing : fqdn = none) (given : hostname = some s)
      (read : Host.parse s = .ok (.name n)) (noDomain : domain = none) :
      Places id fqdn hostname domain
        { address := .dns n.text none, name := some n.text, standsAlone := some n }
  | hostInDomain {s : String} {n d joined : Hostname} (missing : fqdn = none)
      (given : hostname = some s) (read : Host.parse s = .ok (.name n))
      (withDomain : domain = some d) (single : n.isQualified = false)
      (joins : n.withDomain d = .ok joined) :
      Places id fqdn hostname domain
        { address := .dns n.text (some d.text), name := some n.text }
  | byId {s : String} {x : Xname} (missing : fqdn = none) (noHostname : hostname = none)
      (given : id = some s) (read : controller s = .ok x) :
      Places id fqdn hostname domain { address := .dns x.text (domain.map Hostname.text) }

theorem checkHostname_eq_ok_iff {given : Option Host} {names : List String} {done : Unit} :
    checkHostname given s names = .ok done ↔ ∀ h, given = some h → h.text ∈ names := by
  cases given with
  | none => simp [checkHostname]
  | some h => by_cases hmem : h.text ∈ names <;> simp [checkHostname, hmem]

/-- A hostname that may be missing is read, compared with the names, and then not needed. -/
theorem compare_eq_ok_iff {names : List String} {rest : Except Error Placement} :
    (do
      let given ← match hostname with
        | some h => (Host.parse h).map some
        | none => Except.ok none
      checkHostname given s names
      rest) = .ok p ↔ Agrees hostname names ∧ rest = .ok p := by
  cases hostname with
  | none => simp [bind_eq_ok_iff, checkHostname_eq_ok_iff, Agrees]
  | some h =>
    cases hread : Host.parse h <;>
      simp [bind_eq_ok_iff, checkHostname_eq_ok_iff, Agrees, hread, Except.map]

/-- A domain that may be missing is compared with the one of a name. -/
theorem within_eq_ok_iff {n : Hostname} {rest : Except Error Placement} :
    (do
      match domain with
      | some d =>
        if d.text = n.domain?.getD "" then Except.ok ()
        else Except.error (Error.conflictingAddress (.domain d n))
      | none => Except.ok ()
      rest) = .ok p ↔ (∀ d, domain = some d → d.text = n.domain?.getD "") ∧ rest = .ok p := by
  cases domain with
  | none => simp [bind, Except.bind]
  | some d => by_cases hd : d.text = n.domain?.getD "" <;> simp [hd, bind, Except.bind]

section Fqdn

variable {f : String} {host : List Char} {port : Option UInt16}

theorem exists_host_of_placeFqdn (h : placeFqdn f hostname domain = .ok p) :
    ∃ host port found, splitHostPort? f.toList = some (host, port) ∧
      Host.parse (String.ofList host) = .ok found := by
  unfold placeFqdn at h
  cases hsplit : splitHostPort? f.toList with
  | none =>
    rw [hsplit] at h
    cases h
  | some parts =>
    obtain ⟨host, port⟩ := parts
    rw [hsplit] at h
    obtain ⟨_, ⟨⟩, h⟩ := bind_eq_ok_iff.1 h
    obtain ⟨found, hread, _⟩ := bind_eq_ok_iff.1 h
    exact ⟨host, port, found, rfl, hread⟩

theorem placeFqdn_ip_iff {l : IpLiteral} (hsplit : splitHostPort? f.toList = some (host, port))
    (hread : Host.parse (String.ofList host) = .ok (.ip l)) :
    placeFqdn f hostname domain = .ok p ↔
      Agrees hostname [l.text] ∧ { address := .ip l (domain.map Hostname.text), port } = p := by
  have hfound : placeFqdn f hostname domain = .ok p ↔ Agrees hostname [l.text] ∧
      (Except.ok { address := .ip l (domain.map Hostname.text), port } : Except Error Placement) =
        .ok p := by
    rw [← compare_eq_ok_iff (s := l.text), placeFqdn, hsplit]
    simp only [bind, Except.bind, hread]
    cases hostname <;> rfl
  rw [hfound, Except.ok.injEq]

theorem placeFqdn_name_iff {n : Hostname} (hsplit : splitHostPort? f.toList = some (host, port))
    (hread : Host.parse (String.ofList host) = .ok (.name n)) :
    placeFqdn f hostname domain = .ok p ↔
      Agrees hostname [n.shortName, n.text] ∧
        (∀ d, domain = some d → d.text = n.domain?.getD "") ∧
          { address := .dns n.shortName n.domain?, port, name := some n.shortName } = p := by
  have hfound : placeFqdn f hostname domain = .ok p ↔ Agrees hostname [n.shortName, n.text] ∧
      (∀ d, domain = some d → d.text = n.domain?.getD "") ∧
        (Except.ok { address := .dns n.shortName n.domain?, port, name := some n.shortName } :
          Except Error Placement) = .ok p := by
    rw [← within_eq_ok_iff, ← compare_eq_ok_iff (s := n.text), placeFqdn, hsplit]
    simp only [bind, Except.bind, hread]
    cases hostname <;> rfl
  rw [hfound, Except.ok.injEq]

theorem placeFqdn_eq_ok_iff :
    placeFqdn f hostname domain = .ok p ↔ Places id (some f) hostname domain p := by
  constructor
  · intro h
    obtain ⟨host, port, found, hsplit, hread⟩ := exists_host_of_placeFqdn h
    cases found with
    | ip l =>
      obtain ⟨hagrees, rfl⟩ := (placeFqdn_ip_iff hsplit hread).1 h
      exact .literal rfl hsplit hread hagrees
    | name n =>
      obtain ⟨hagrees, hwithin, rfl⟩ := (placeFqdn_name_iff hsplit hread).1 h
      exact .name rfl hsplit hread hagrees hwithin
  · intro h
    cases h with
    | literal given split read agrees =>
      cases given
      exact (placeFqdn_ip_iff split read).2 ⟨agrees, rfl⟩
    | name given split read agrees within =>
      cases given
      exact (placeFqdn_name_iff split read).2 ⟨agrees, within, rfl⟩
    | hostLiteral missing | hostAlone missing | hostInDomain missing | byId missing => cases missing

end Fqdn

theorem placeHostname_eq_ok_iff :
    placeHostname s domain = .ok p ↔ Places id none (some s) domain p := by
  unfold placeHostname
  rw [bind_eq_ok_iff]
  constructor
  · rintro ⟨host, hread, h⟩
    split at h
    · cases h
      exact .hostLiteral rfl rfl hread
    · cases h
      exact .hostAlone rfl rfl hread rfl
    · split at h
      · cases h
      rename_i hsingle
      split at h
      · rename_i joined hjoins
        cases h
        exact .hostInDomain rfl rfl hread rfl (Bool.eq_false_iff.2 hsingle) hjoins
      · cases h
  · intro h
    cases h with
    | literal given | name given => cases given
    | hostLiteral _ given read =>
      cases given
      exact ⟨_, read, rfl⟩
    | hostAlone _ given read noDomain =>
      cases given
      cases noDomain
      exact ⟨_, read, rfl⟩
    | hostInDomain _ given read withDomain single joins =>
      cases given
      cases withDomain
      refine ⟨_, read, ?_⟩
      simp only [single, Bool.false_eq_true, if_false, joins]
      rfl
    | byId _ noHostname => cases noHostname

theorem placeId_eq_ok_iff : placeId id domain = .ok p ↔ Places id none none domain p := by
  constructor
  · intro h
    cases id with
    | none => cases h
    | some s =>
      obtain ⟨x, hread, h⟩ := bind_eq_ok_iff.1 h
      cases h
      exact .byId rfl rfl rfl hread
  · intro h
    cases h with
    | literal given | name given => cases given
    | hostLiteral _ given | hostAlone _ given | hostInDomain _ given => cases given
    | byId _ _ given read =>
      cases given
      exact bind_eq_ok_iff.2 ⟨_, read, rfl⟩

theorem place_eq_ok_iff :
    place id fqdn hostname domain = .ok p ↔ Places id fqdn hostname domain p := by
  unfold place
  split
  · exact placeFqdn_eq_ok_iff
  · exact placeHostname_eq_ok_iff
  · exact placeId_eq_ok_iff

/-! ## Resolution -/

theorem identify_eq_ok_iff :
    identify id p = .ok x ↔
      x.isController = true ∧ ∃ s, (id.or p.name) = some s ∧ Xname.parse s = .ok x := by
  unfold identify
  split
  · simp [controller_eq_ok_iff, and_comm]
  · rename_i hname
    simp [controller_eq_ok_iff, and_comm, hname]
  · rename_i hname
    simp [hname]

theorem checkAlone_eq_ok_iff {done : Unit} :
    checkAlone p x = .ok done ↔ ∀ n, p.standsAlone = some n → Xname.parse n.text = .ok x := by
  unfold checkAlone
  cases hname : p.standsAlone with
  | none => simp
  | some n =>
    cases hparse : Xname.parse n.text with
    | error e => simp [hparse]
    | ok y => by_cases hy : y = x <;> simp [hparse, hy]

/-- How a spec resolves: the domain and the placement that come up on the way, and what the
descriptor takes from them. -/
structure Resolves (spec : EndpointSpec) (domain : Option Hostname) (p : Placement)
    (d : Descriptor) : Prop where
  readsDomain : readOptional readDomain (nonBlank spec.domain) = .ok domain
  placed : Places (nonBlank spec.id) (nonBlank spec.fqdn) (nonBlank spec.hostname) domain p
  identified : identify (nonBlank spec.id) p = .ok d.id
  alone : checkAlone p d.id = .ok ()
  readsMac : readOptional readMac (nonBlank spec.macAddr) = .ok d.mac
  readsIp : readOptional readIp (nonBlank spec.ipAddr) = .ok d.ip
  address : d.address = p.address
  port : d.port = p.port
  enabled : d.enabled = spec.enabled.getD true
  credentials : d.credentials = ⟨spec.user.getD "", spec.password.getD ""⟩

theorem resolve_eq_ok_iff : resolve spec = .ok d ↔ ∃ domain p, Resolves spec domain p d := by
  simp only [resolve, bind_eq_ok_iff, place_eq_ok_iff]
  constructor
  · rintro ⟨domain, hdomain, p, hplaced, x, hid, _, halone, mac, hmac, ip, hip, h⟩
    cases h
    exact ⟨domain, p, hdomain, hplaced, hid, halone, hmac, hip, rfl, rfl, rfl, rfl⟩
  · rintro ⟨domain, p, h⟩
    refine ⟨domain, h.readsDomain, p, h.placed, d.id, h.identified, (), h.alone, d.mac, h.readsMac,
      d.ip, h.readsIp, ?_⟩
    rw [← h.address, ← h.port, ← h.enabled, ← h.credentials]
    rfl

/-! ## Stages -/

/-- Where a spec places its endpoint. -/
def locate (spec : EndpointSpec) : Except Error Placement := do
  let domain ← readOptional readDomain (nonBlank spec.domain)
  place (nonBlank spec.id) (nonBlank spec.fqdn) (nonBlank spec.hostname) domain

/-- The descriptor of a spec that has been placed. -/
def describe (spec : EndpointSpec) (p : Placement) : Except Error Descriptor := do
  let x ← identify (nonBlank spec.id) p
  checkAlone p x
  let mac ← readOptional readMac (nonBlank spec.macAddr)
  let ip ← readOptional readIp (nonBlank spec.ipAddr)
  return {
    id := x
    address := p.address
    port := p.port
    mac
    ip
    enabled := spec.enabled.getD true
    credentials := ⟨spec.user.getD "", spec.password.getD ""⟩ }

/-- Whatever names the host is looked at before everything else. -/
theorem resolve_eq (spec : EndpointSpec) : resolve spec = locate spec >>= describe spec :=
  (bind_assoc _ _ _).symm

/-! ## Two runs -/

/-- The same result, or refusals of the same kind. -/
inductive Agree {α : Type} : Except Error α → Except Error α → Prop
  | accepted (a : α) : Agree (.ok a) (.ok a)
  | refused {e e' : Error} (h : e.kind = e'.kind) : Agree (.error e) (.error e')

namespace Agree

variable {α β : Type} {r r' r'' : Except Error α}

theorem refl (r : Except Error α) : Agree r r := by
  cases r with
  | error e => exact .refused rfl
  | ok a => exact .accepted a

theorem symm (h : Agree r r') : Agree r' r := by
  cases h with
  | accepted a => exact .accepted a
  | refused h => exact .refused h.symm

theorem trans (h : Agree r r') (h' : Agree r' r'') : Agree r r'' := by
  cases h with
  | accepted a => exact h'
  | refused h =>
    cases h' with
    | refused h' => exact .refused (h.trans h')

theorem map (h : Agree r r') (g : α → β) : Agree (r.map g) (r'.map g) := by
  cases h with
  | accepted a => exact .accepted (g a)
  | refused h => exact .refused h

/-- Runs that agree go on to agree if every result does. -/
theorem bind {next next' : α → Except Error β} (h : Agree r r')
    (hnext : ∀ a, Agree (next a) (next' a)) : Agree (r >>= next) (r' >>= next') := by
  cases h with
  | accepted a => exact hnext a
  | refused h => exact .refused h

end Agree

end Inventory.Endpoint
