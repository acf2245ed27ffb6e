-- What two addresses with one canonical text have in common: the IP address, its
-- zone and the port. A zone may hold colons, digits and brackets, so the end of
-- the literal is not the first closing bracket of the text. It is the last one,
-- because no port has a bracket in it.
import Inventory.Proofs.CanonicalAddresses

namespace Inventory

open Text

namespace IpLiteral

variable {l l' : IpLiteral} {port port' : Option UInt16} {a b x y : String}

/-! ## Literals -/

theorem eq_iff_ip_zone : l = l' ↔ l.ip = l'.ip ∧ l.zone? = l'.zone? := by
  cases l <;> cases l' <;> simp [ip, zone?]

theorem bare_injective (hl : l.Readable) (hl' : l'.Readable) (h : l.bare = l'.bare) : l = l' := by
  have hread : ofChars? l.bare = some l' := h ▸ ofChars?_bare hl'
  exact Option.some.inj ((ofChars?_bare hl).symm.trans hread)

/-- A version 4 literal has no zone, so its text is cut where it was put together. -/
theorem splitHostPort?_v4 (address : Ip.V4) (port : Option UInt16) :
    splitHostPort? (withPort (v4 address).text port).toList = some ((v4 address).bare, port) := by
  refine Endpoint.Host.splitHostPort?_withPort (h := .ip (v4 address)) ?_ port
  rintro _ zone ⟨⟩ hzone
  cases hzone

theorem head?_withPort_v4 (address : Ip.V4) (port : Option UInt16) :
    (withPort (v4 address).text port).toList.head? ≠ some '[' := by
  rw [withPort_toList, text, String.toList_ofList]
  exact (v4 address).head?_bare_append _

theorem head?_withPort_v6 (address : Ip.V6) (zone : Option String) (port : Option UInt16) :
    (withPort (v6 address zone).text port).toList.head? = some '[' := by
  rw [toList_withPort_v6]
  rfl

/-! ## Canonical texts -/

/-- A literal and a port are all that their text has in it. -/
theorem withPort_text_injective (hl : l.Readable) (hl' : l'.Readable)
    (h : withPort l.text port = withPort l'.text port') : l = l' ∧ port = port' := by
  cases l with
  | v4 address =>
    cases l' with
    | v4 address' =>
      have hsplit := splitHostPort?_v4 address port
      rw [h, splitHostPort?_v4] at hsplit
      obtain ⟨hbare, hport⟩ := Prod.mk.inj (Option.some.inj hsplit)
      exact ⟨bare_injective hl hl' hbare.symm, hport.symm⟩
    | v6 address' zone' =>
      exact absurd (h ▸ head?_withPort_v6 address' zone' port') (head?_withPort_v4 address port)
  | v6 address zone =>
    cases l' with
    | v4 address' =>
      exact absurd (h ▸ head?_withPort_v6 address zone port) (head?_withPort_v4 address' port')
    | v6 address' zone' =>
      have hchars := congrArg String.toList h
      rw [toList_withPort_v6, toList_withPort_v6] at hchars
      obtain ⟨hbare, hport⟩ := append_cons_inj_of_last (List.cons.inj hchars).2
        (portText_portChars port).close_not_mem (portText_portChars port').close_not_mem
      exact ⟨bare_injective hl hl' hbare, portChars_injective hport⟩

/-- Two addresses have one canonical text just if they are the same IP address, with the same zone
and the same port. -/
theorem canonicalAddress?_eq_iff_same (ha : canonicalAddress? a = some x)
    (hb : canonicalAddress? b = some y) :
    ∃ l port l' port', ReadFrom a l port ∧ ReadFrom b l' port' ∧
      (x = y ↔ l.ip = l'.ip ∧ l.zone? = l'.zone? ∧ port = port') := by
  obtain ⟨l, port, hread, rfl⟩ := canonicalAddress?_eq_some_iff.1 ha
  obtain ⟨l', port', hread', rfl⟩ := canonicalAddress?_eq_some_iff.1 hb
  refine ⟨l, port, l', port', hread, hread', ?_⟩
  rw [← and_assoc, ← eq_iff_ip_zone]
  constructor
  · exact withPort_text_injective hread.readable hread'.readable
  · rintro ⟨rfl, rfl⟩
    rfl

theorem canonicalAddress?_eq_iff_same_eth0 :
    ∃ l port l' port', ReadFrom "[FE80::1%eth0]:0443" l port ∧
      ReadFrom " [fe80:0::1%eth0]:+443" l' port' ∧
      l.ip = l'.ip ∧ l.zone? = l'.zone? ∧ port = port' := by
  have ha : canonicalAddress? "[FE80::1%eth0]:0443" = some "[fe80::1%eth0]:443" := by
    decide +kernel
  have hb : canonicalAddress? " [fe80:0::1%eth0]:+443" = some "[fe80::1%eth0]:443" := by
    decide +kernel
  obtain ⟨l, port, l', port', hread, hread', hsame⟩ := canonicalAddress?_eq_iff_same ha hb
  exact ⟨l, port, l', port', hread, hread', hsame.1 rfl⟩

/-- The same characters are a zone and a port, or a zone that looks like one. -/
example :
    canonicalAddress? "[fe80::1%a]:80" = some "[fe80::1%a]:80" ∧
      canonicalAddress? "fe80::1%a]:80" = some "[fe80::1%a]:80]" := by
  decide +kernel

end IpLiteral

end Inventory
