-- Descriptors resolved again. What a descriptor says, written as a spec, goes
-- through the row of the FQDN, whichever row it came from, and comes out as the
-- same descriptor.
import Inventory.Proofs.Coherence

namespace Inventory

open Text

/-- The descriptor as a spec. -/
def Descriptor.restated (d : Descriptor) : EndpointSpec where
  id := some d.id.text
  fqdn := some d.hostPort
  domain := if d.address.domain = "" then none else some d.address.domain
  user := some d.credentials.user
  password := some d.credentials.password
  macAddr := d.mac.map Mac.text
  ipAddr := d.ip.map Ip.text
  enabled := some d.enabled

namespace Endpoint

variable {spec : EndpointSpec} {d : Descriptor} {domain : Option Hostname} {id : Option String}
  {port : Option UInt16}

/-! ## Fields read back -/

/-- A field that was written is read back, if its text is kept when it is trimmed. -/
theorem readOptional_map {α : Type} {read : String → Except Error α} {write : α → String}
    (hkept : ∀ a, nonBlank (some (write a)) = some (write a)) (hread : ∀ a, read (write a) = .ok a)
    (field : Option α) : readOptional read (nonBlank (field.map write)) = .ok field := by
  cases field with
  | none => rfl
  | some a =>
    rw [Option.map_some, hkept, readOptional, hread]
    rfl

theorem readMac_text (m : Mac) : readMac m.text = .ok m := readMac_eq_ok_iff.2 m.ofText_text

theorem readIp_text (a : Ip) : readIp a.text = .ok a := by
  have hinner : unbracketed a.toChars = a.toChars :=
    unbracketed_of_not_mem (Ip.not_mem_toChars (by decide)) (Ip.not_mem_toChars (by decide))
  rw [readIp_eq_ok_iff, Ip.text, String.toList_ofList, hinner, Ip.ofChars?_toChars]

/-- A domain that is missing is written as the empty text, which no domain has. -/
theorem restated_domain (h : d.address.domain = (domain.map Hostname.text).getD "") :
    d.restated.domain = domain.map Hostname.text := by
  rw [Descriptor.restated, h]
  cases domain with
  | none => rfl
  | some n => exact if_neg n.text_ne_empty

/-! ## The row of the FQDN -/

theorem places_literal {l : IpLiteral} (hl : l.Readable)
    (hzone : ∀ zone, l.zone? = some zone → ']' ∉ zone.toList) :
    Places id (some (withPort l.text port)) none domain
      { address := .ip l (domain.map Hostname.text), port } := by
  have hsplit : splitHostPort? (withPort l.text port).toList = some (l.bare, port) :=
    Host.splitHostPort?_withPort (h := .ip l) (fun l' zone h => by cases h; exact hzone zone) port
  have hread : Host.parse (String.ofList l.bare) = .ok (.ip l) := Host.parse_bare (h := .ip l) hl
  exact .literal rfl hsplit hread fun _ h => nomatch h

theorem places_name {n : Hostname} {host : String} (hshort : n.shortName = host)
    (hdomain : n.domain? = domain.map Hostname.text) :
    Places id (some (withPort n.text port)) none domain
      { address := .dns host (domain.map Hostname.text), port, name := some host } := by
  have hsplit : splitHostPort? (withPort n.text port).toList = some (n.text.toList, port) :=
    Host.splitHostPort?_withPort (h := .name n) (fun _ _ h => nomatch h) port
  have hread : Host.parse (String.ofList n.text.toList) = .ok (.name n) :=
    Host.parse_bare (h := .name n) trivial
  rw [← hshort, ← hdomain]
  refine .name rfl hsplit hread (fun _ h => nomatch h) fun d hd => ?_
  rw [hdomain, hd]
  rfl

/-- A restated descriptor resolves to itself if its address goes through the row of the FQDN. -/
theorem resolve_restated_of_places {p : Placement} (host : Host)
    (hcontroller : d.id.isController = true) (hhost : d.address.fqdn = host.text)
    (hdomain : d.address.domain = (domain.map Hostname.text).getD "")
    (hplaced : Places (some d.id.text) (some (withPort host.text d.port)) none domain p)
    (haddress : d.address = p.address) (hport : d.port = p.port)
    (halone : p.standsAlone = none) : resolve d.restated = .ok d := by
  have hid : nonBlank d.restated.id = some d.id.text := d.id.nonBlank_text
  have hfqdn : nonBlank d.restated.fqdn = some (withPort host.text d.port) := by
    rw [Descriptor.restated, Descriptor.hostPort, hhost]
    exact host.nonBlank_withPort d.port
  refine resolve_eq_ok_iff.2 ⟨domain, p, ?_, ?_, ?_, ?_, ?_, ?_, haddress, hport, rfl, rfl⟩
  · rw [restated_domain hdomain]
    exact readOptional_map Hostname.nonBlank_text readDomain_text domain
  · rw [hid, hfqdn]
    exact hplaced
  · rw [hid, identify_eq_ok_iff]
    exact ⟨hcontroller, d.id.text, rfl, d.id.parse_text⟩
  · rw [checkAlone_eq_ok_iff, halone]
    exact fun _ h => nomatch h
  · exact readOptional_map Mac.nonBlank_text readMac_text d.mac
  · exact readOptional_map Ip.nonBlank_text readIp_text d.ip

/-- A descriptor resolves to itself, but for names that are too long and for zones that are taken
to end at a bracket in them. -/
theorem resolve_restated (h : resolve spec = .ok d)
    (hsize : IpLiteral.canonical? d.address.fqdn = none → utf8Size d.address.fqdn.toList ≤ 253)
    (hzone : ∀ l suffix zone, d.address = .ip l suffix → l.zone? = some zone →
      ']' ∉ zone.toList) : resolve d.restated = .ok d := by
  obtain ⟨_, _, h⟩ := resolve_eq_ok_iff.1 h
  have hcontroller := (identify_eq_ok_iff.1 h.identified).1
  have hsound := h.sound
  cases ha : d.address with
  | ip l suffix =>
    rw [ha] at hsound
    cases hsound with
    | ip readable =>
      refine resolve_restated_of_places (.ip l) hcontroller ?_ ?_
        (places_literal readable (hzone l _ · ha)) ha rfl rfl
      · rw [ha]
        rfl
      · rw [ha]
        rfl
  | dns host suffix =>
    rw [ha] at hsound hsize
    have hlength := hsize hsound.canonical?_dns
    obtain ⟨n, _, htext⟩ := (Hostname.exists_parse_iff hsound.isDotted hsound.small).2 hlength
    obtain ⟨hshort, hdomain⟩ := hsound.parts_of_text_eq htext
    cases hsound with
    | dns =>
      refine resolve_restated_of_places (.name n) hcontroller ?_ ?_ (places_name hshort hdomain)
        ha rfl rfl
      · rw [ha]
        exact htext.symm
      · rw [ha]
        rfl

/-- A literal with a zone, a port and a domain. -/
def inZone : EndpointSpec where
  id := some "x0c0s14b0"
  fqdn := some "[FE80::1%eth0]:443"
  domain := some "example.com"

def inZoneResolved : Descriptor where
  id := someController
  address := .ip (.v6 ⟨[0xFE80, 0, 0, 0, 0, 0, 0, 1], rfl⟩ (some "eth0")) (some "example.com")
  port := some 443
  mac := none
  ip := none
  enabled := true
  credentials := ⟨"", ""⟩

theorem resolve_restated_examples :
    resolve everyFieldResolved.restated = .ok everyFieldResolved ∧
      resolve inZoneResolved.restated = .ok inZoneResolved := by
  constructor
  · exact resolve_restated resolve_everyField (fun _ => by decide +kernel) fun _ _ _ h => nomatch h
  · have h : resolve inZone = .ok inZoneResolved := by decide +kernel
    refine resolve_restated h (fun _ => by decide +kernel) fun l suffix zone ha hzone => ?_
    cases ha
    cases hzone
    decide

end Endpoint

end Inventory
