-- Hosts written and read back. No text is both an IP literal and a DNS name,
-- so a host with its port is read as the host it was written from.
import Mathlib.Data.List.Basic
import Inventory.Endpoint.Resolution
import Inventory.Proofs.DnsNames
import Inventory.Proofs.IpLiterals

namespace Inventory

open Text

/-! ## Names are no literals -/

namespace Hostname

variable {name : List Char}

theorem topLabel_mem (name : List Char) : topLabel name ∈ labels name := by
  have hne : labels name ≠ [] := List.splitOn_ne_nil '.' name
  rw [topLabel, List.getLastD_eq_getLast?, List.getLast?_eq_some_getLast hne]
  exact List.getLast_mem hne

/-- The last label of a name is no number, and a version 6 text has a colon. -/
theorem IsDotted.ip_eq_none (h : IsDotted name) : Ip.ofChars? name = none := by
  have hcolon : ':' ∉ name := h.not_mem (by decide)
  cases hv4 : Ip.V4.ofChars? name with
  | some a =>
    have hdigits := Ip.V4.isDigit_of_ofChars? hv4 _ (topLabel_mem name)
    rw [h.top] at hdigits
    cases hdigits
  | none => rw [Ip.ofChars?, hv4, Ip.V6.ofChars?_eq_none hcolon]; rfl

theorem IsDotted.literal_eq_none (h : IsDotted name) : IpLiteral.ofChars? name = none :=
  IpLiteral.ofChars?_eq_none (h.not_mem (by decide)) (h.not_mem (by decide))
    (h.not_mem (by decide)) h.ip_eq_none

end Hostname

namespace Endpoint.Host

variable {s : String} {h : Host} {l : IpLiteral} {n : Hostname}

/-! ## Reading -/

theorem parse_eq_ip_iff : parse s = .ok (.ip l) ↔ IpLiteral.ofChars? s.toList = some l := by
  unfold parse
  constructor
  · intro h
    split at h
    · cases h
      assumption
    · split at h <;> cases h
  · intro h
    rw [h]

theorem parse_eq_name_iff :
    parse s = .ok (.name n) ↔
      IpLiteral.ofChars? s.toList = none ∧ Hostname.parse s = .ok n := by
  unfold parse
  constructor
  · intro h
    split at h
    · cases h
    · rename_i hliteral
      split at h
      · rename_i hname
        cases h
        exact ⟨hliteral, hname⟩
      · cases h
  · rintro ⟨hliteral, hname⟩
    rw [hliteral, hname]

/-! ## Reading back -/

/-- A host without the brackets around a literal. -/
def bare : Host → List Char
  | ip l => l.bare
  | name n => n.text.toList

/-- The host is a name, or a literal that could have been read. -/
def Readable : Host → Prop
  | ip l => l.Readable
  | name _ => True

theorem readable_of_parse (hp : parse s = .ok h) : h.Readable := by
  cases h with
  | ip l => exact IpLiteral.readable_of_ofChars? (parse_eq_ip_iff.1 hp)
  | name n => trivial

theorem parse_bare (hr : h.Readable) : parse (String.ofList h.bare) = .ok h := by
  cases h with
  | ip l =>
    rw [parse_eq_ip_iff, String.toList_ofList]
    exact IpLiteral.ofChars?_bare hr
  | name n =>
    rw [parse_eq_name_iff, bare, String.ofList_toList]
    exact ⟨n.isName_text.literal_eq_none, n.parse_text⟩

/-- A host is read back from its canonical text. -/
theorem parse_text (hr : h.Readable) : parse h.text = .ok h := by
  cases h with
  | ip l =>
    rw [parse_eq_ip_iff, text, IpLiteral.text, String.toList_ofList]
    exact IpLiteral.ofChars?_toChars hr
  | name n => exact parse_eq_name_iff.2 ⟨n.isName_text.literal_eq_none, n.parse_text⟩

/-- A host has no blanks at its ends, whatever a zone has in it. -/
theorem isTrimmed_text (h : Host) : IsTrimmed h.text.toList := by
  cases h with
  | name n => exact n.isName_text.isTrimmed
  | ip l =>
    rw [text, IpLiteral.text, String.toList_ofList]
    cases l with
    | v4 a => exact Ip.isTrimmed_toChars (.v4 a)
    | v6 a zone =>
      rw [IpLiteral.toChars_v6]
      refine ⟨List.cons_ne_nil _ _, fun c hc => ?_, fun c hc => ?_⟩
      · rw [List.cons_append, List.head?_cons] at hc
        cases hc
        rfl
      · rw [List.getLast?_concat] at hc
        cases hc
        rfl

theorem isTrimmed_withPort (h : Host) (port : Option UInt16) :
    IsTrimmed (withPort h.text port).toList := by
  have htext := h.isTrimmed_text
  rw [withPort_toList]
  cases port with
  | none => rwa [portChars, List.append_nil]
  | some port =>
    refine ⟨List.append_ne_nil_of_left_ne_nil htext.nonempty _, ?_, fun c hc => ?_⟩
    · rw [List.head?_append_of_ne_nil _ htext.nonempty]
      exact htext.head
    · rw [portChars, ← List.singleton_append, ← List.append_assoc,
        List.getLast?_append_of_ne_nil _ decimal_ne_nil] at hc
      have hdigit := isDigit_of_mem_decimal (List.mem_of_mem_getLast? hc)
      exact isBlank_of_isAlphanum (isAlphanum_of_isHex (isHex_of_isDigit hdigit))

theorem nonBlank_withPort (h : Host) (port : Option UInt16) :
    nonBlank (some (withPort h.text port)) = some (withPort h.text port) :=
  nonBlank_eq_some (h.isTrimmed_withPort port)

/-- A host and its port are found again where they were put together, unless a zone has a bracket
in it. -/
theorem splitHostPort?_withPort
    (hzone : ∀ l zone, h = .ip l → l.zone? = some zone → ']' ∉ zone.toList) (port : Option UInt16) :
    splitHostPort? (withPort h.text port).toList = some (h.bare, port) := by
  rw [withPort_toList]
  cases h with
  | ip l =>
    rw [text, IpLiteral.text, String.toList_ofList]
    cases l with
    | v4 a =>
      exact splitHostPort?_plain (IpLiteral.head?_bare (.v4 a))
        (Ip.V4.colon_not_mem_of_ofChars? a.ofChars?_toChars) port
    | v6 a zone =>
      rw [IpLiteral.toChars_v6, List.append_assoc, List.singleton_append]
      exact splitHostPort?_bracketed (IpLiteral.close_not_mem_bare fun z => hzone _ z rfl) port
  | name n =>
    apply splitHostPort?_plain
    · exact fun h => n.isName_text.not_mem (by decide) (List.mem_of_mem_head? h)
    · exact n.isName_text.not_mem (by decide)

end Endpoint.Host

end Inventory
