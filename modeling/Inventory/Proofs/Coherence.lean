-- Descriptors against the specs that they were made from. The fields of a
-- descriptor hold together, and no field that was given is overridden by
-- another one.
import Inventory.Proofs.Addresses
import Inventory.Proofs.HardwareAddresses

namespace Inventory.Endpoint

open Text

variable {spec : EndpointSpec} {d : Descriptor} {p : Placement} {domain : Option Hostname}
  {id fqdn hostname field : Option String} {s : String}

/-! ## Fields that hold together -/

/-- A canonical literal, which is the whole address. -/
structure IsLiteral (a : Address) : Prop where
  canonical : IpLiteral.canonical? a.fqdn = some a.fqdn
  whole : a.fqdn = a.hostname

/-- One label, and the domain behind it if there is one. -/
structure IsNamed (a : Address) : Prop where
  noLiteral : IpLiteral.canonical? a.fqdn = none
  single : '.' ∉ a.hostname.toList
  joined : a.fqdn = if a.domain = "" then a.hostname else a.hostname ++ "." ++ a.domain

/-- What holds of every descriptor, and what it has from its spec. -/
structure Coherent (spec : EndpointSpec) (d : Descriptor) : Prop where
  identity : ∃ x, Xname.parse d.id.text = .ok x ∧ x.isController = true ∧ x.text = d.id.text ∧
    x.kind = d.kind
  address : IsLiteral d.address ∨ IsNamed d.address
  macGiven : d.mac.isSome ↔ (nonBlank spec.macAddr).isSome
  macFixed : ∀ m, d.mac = some m → Mac.verify m.text = .ok m.text
  ipGiven : d.ip.isSome ↔ (nonBlank spec.ipAddr).isSome
  ipFixed : ∀ a, d.ip = some a → Ip.ofChars? a.text.toList = some a
  portGiven : d.port.isSome → (nonBlank spec.fqdn).isSome

theorem isLiteral_or_isNamed {a : Address} (h : a.Sound) : IsLiteral a ∨ IsNamed a := by
  have hsound := h
  cases h with
  | ip => exact .inl ⟨hsound.canonical?_ip, rfl⟩
  | @dns host domain short _ =>
    refine .inr ⟨hsound.canonical?_dns, short.dot_not_mem, ?_⟩
    cases domain with
    | none => rfl
    | some d => exact (if_neg d.text_ne_empty).symm

theorem ofChars?_text (a : Ip) : Ip.ofChars? a.text.toList = some a := by
  rw [Ip.text, String.toList_ofList, Ip.ofChars?_toChars]

/-- Only the rows of the FQDN know a port. -/
theorem Places.fqdn_of_port (h : Places id fqdn hostname domain p) (hport : p.port.isSome) :
    fqdn.isSome := by
  cases h with
  | literal given | name given => exact Option.isSome_iff_exists.2 ⟨_, given⟩
  | hostLiteral | hostAlone | hostInDomain | byId => cases hport

theorem resolve_coherent (h : resolve spec = .ok d) : Coherent spec d := by
  obtain ⟨domain, p, h⟩ := resolve_eq_ok_iff.1 h
  have hcontroller := (identify_eq_ok_iff.1 h.identified).1
  refine ⟨⟨d.id, d.id.parse_text, hcontroller, rfl, rfl⟩, isLiteral_or_isNamed h.sound,
    (readOptional_eq_ok_iff.1 h.readsMac).1.symm, fun m _ => ?_,
    (readOptional_eq_ok_iff.1 h.readsIp).1.symm, fun a _ => ofChars?_text a, fun hport => ?_⟩
  · rw [Mac.verify, Mac.ofText_text]
    rfl
  · rw [h.port] at hport
    exact h.placed.fqdn_of_port hport

/-- A spec with every field, most of them not in their canonical form. -/
def everyField : EndpointSpec where
  id := some "X00C0S14B0"
  fqdn := some " X0c0s14b0.Example.com:0443 "
  hostname := some "x0c0s14b0"
  domain := some ".example.com"
  user := some "root"
  password := some "calvin"
  macAddr := some "AA-BB-CC-DD-EE-FF"
  ipAddr := some "[FD40::1]"

def everyFieldResolved : Descriptor where
  id := someController
  address := .dns "x0c0s14b0" (some "example.com")
  port := some 443
  mac := some ⟨0xAABBCCDDEEFF, by decide⟩
  ip := some (.v6 ⟨[0xFD40, 0, 0, 0, 0, 0, 0, 1], rfl⟩)
  enabled := true
  credentials := ⟨"root", "calvin"⟩

theorem resolve_everyField : resolve everyField = .ok everyFieldResolved := by decide +kernel

theorem resolve_coherent_everyField : Coherent everyField everyFieldResolved :=
  resolve_coherent resolve_everyField

/-! ## Fields that were given -/

/-- Each field of a spec in the descriptor, blank fields apart. -/
structure Honours (spec : EndpointSpec) (d : Descriptor) : Prop where
  id : ∀ s, nonBlank spec.id = some s → Xname.parse s = .ok d.id
  idMissing : nonBlank spec.id = none → Xname.parse d.address.hostname = .ok d.id
  fqdn : ∀ s, nonBlank spec.fqdn = some s → ∃ host h,
    splitHostPort? s.toList = some (host, d.port) ∧ Host.parse (String.ofList host) = .ok h ∧
      h.text = d.address.fqdn
  fqdnMissing : nonBlank spec.fqdn = none → d.port = none
  hostname : ∀ s, nonBlank spec.hostname = some s → ∃ h, Host.parse s = .ok h ∧
    (h.text = d.address.hostname ∨ h.text = d.address.fqdn)
  domain : ∀ s, nonBlank spec.domain = some s → ∃ n,
    Hostname.parse (String.ofList (s.toList.dropWhile (· == '.'))) = .ok n ∧
      n.text = d.address.domain
  mac : ∀ s, nonBlank spec.macAddr = some s → ∃ m, d.mac = some m ∧ Mac.ofText s = .ok m ∧
    Mac.ofText m.text = .ok m
  ip : ∀ s, nonBlank spec.ipAddr = some s → ∃ a, d.ip = some a ∧
    Ip.ofChars? (unbracketed s.toList) = some a ∧ Ip.ofChars? a.text.toList = some a

theorem exists_of_readOptional {α : Type} {read : String → Except Error α} {found : Option α}
    (h : readOptional read field = .ok found) (hfield : field = some s) :
    ∃ a, found = some a ∧ read s = .ok a := by
  obtain ⟨hsome, hread⟩ := readOptional_eq_ok_iff.1 h
  obtain ⟨a, rfl⟩ := Option.isSome_iff_exists.1 (hsome.1 (Option.isSome_iff_exists.2 ⟨s, hfield⟩))
  exact ⟨a, rfl, hread s a hfield rfl⟩

/-- The name that the id may be read from is the host. -/
theorem Places.hostname_eq (h : Places id fqdn hostname domain p) (hname : p.name = some s) :
    p.address.hostname = s := by
  cases h with
  | literal | hostLiteral | byId => cases hname
  | name | hostAlone | hostInDomain =>
    cases hname
    rfl

theorem Places.honours_fqdn (h : Places id fqdn hostname domain p) (hgiven : fqdn = some s) :
    ∃ host h, splitHostPort? s.toList = some (host, p.port) ∧
      Host.parse (String.ofList host) = .ok h ∧ h.text = p.address.fqdn := by
  cases h with
  | literal given split read =>
    cases given.symm.trans hgiven
    exact ⟨_, _, split, read, rfl⟩
  | @name _ _ _ n given split read =>
    cases given.symm.trans hgiven
    exact ⟨_, _, split, read, (Address.fqdn_parts n).symm⟩
  | hostLiteral missing | hostAlone missing | hostInDomain missing | byId missing =>
    cases missing.symm.trans hgiven

theorem Places.honours_hostname (h : Places id fqdn hostname domain p)
    (hgiven : hostname = some s) :
    ∃ h, Host.parse s = .ok h ∧ (h.text = p.address.hostname ∨ h.text = p.address.fqdn) := by
  cases h with
  | literal _ _ _ agrees =>
    obtain ⟨h, hread, hmem⟩ := agrees s hgiven
    exact ⟨h, hread, .inl (List.mem_singleton.1 hmem)⟩
  | @name _ _ _ n _ _ _ agrees =>
    obtain ⟨h, hread, hmem⟩ := agrees s hgiven
    refine ⟨h, hread, ?_⟩
    rw [Address.fqdn_parts]
    rcases List.mem_cons.1 hmem with hshort | hmem
    · exact .inl hshort
    · exact .inr (List.mem_singleton.1 hmem)
  | hostLiteral _ given read | hostAlone _ given read | hostInDomain _ given read =>
    cases given.symm.trans hgiven
    exact ⟨_, read, .inl rfl⟩
  | byId _ noHostname => cases noHostname.symm.trans hgiven

theorem Places.honours_domain {n : Hostname} (h : Places id fqdn hostname domain p)
    (hgiven : domain = some n) : n.text = p.address.domain := by
  cases h with
  | literal | hostLiteral | byId =>
    cases hgiven
    rfl
  | name _ _ _ _ within => exact within n hgiven
  | hostAlone _ _ _ noDomain => cases noDomain.symm.trans hgiven
  | hostInDomain _ _ _ withDomain =>
    cases withDomain.symm.trans hgiven
    rfl

/-- In no row is a field overridden by another one. -/
theorem resolve_honours (h : resolve spec = .ok d) : Honours spec d := by
  obtain ⟨domain, p, h⟩ := resolve_eq_ok_iff.1 h
  obtain ⟨_, named, hnamed, hparse⟩ := identify_eq_ok_iff.1 h.identified
  refine ⟨fun s hs => ?_, fun hnone => ?_, fun s hs => ?_, fun hnone => ?_, fun s hs => ?_,
    fun s hs => ?_, fun s hs => ?_, fun s hs => ?_⟩
  · rw [hs, Option.some_or] at hnamed
    cases hnamed
    exact hparse
  · rw [hnone, Option.none_or] at hnamed
    rwa [h.address, h.placed.hostname_eq hnamed]
  · rw [h.address, h.port]
    exact h.placed.honours_fqdn hs
  · rw [h.port, ← Option.not_isSome_iff_eq_none]
    intro hport
    have := h.placed.fqdn_of_port hport
    rw [hnone] at this
    cases this
  · rw [h.address]
    exact h.placed.honours_hostname hs
  · obtain ⟨n, hn, hread⟩ := exists_of_readOptional h.readsDomain hs
    rw [h.address]
    exact ⟨n, readDomain_eq_ok_iff.1 hread, h.placed.honours_domain hn⟩
  · obtain ⟨m, hm, hread⟩ := exists_of_readOptional h.readsMac hs
    exact ⟨m, hm, readMac_eq_ok_iff.1 hread, m.ofText_text⟩
  · obtain ⟨a, ha, hread⟩ := exists_of_readOptional h.readsIp hs
    exact ⟨a, ha, readIp_eq_ok_iff.1 hread, ofChars?_text a⟩

theorem resolve_honours_everyField : Honours everyField everyFieldResolved :=
  resolve_honours resolve_everyField

end Inventory.Endpoint
