-- Canonical texts of addresses that are read again. A literal with its port is
-- read back as it was written, and only a bracket inside its zone stops that:
-- the brackets around the literal are taken to end there, and what is left
-- behind them is no port.
import Inventory.Proofs.Hosts

namespace Inventory

open Text

namespace IpLiteral

variable {l : IpLiteral} {host : List Char} {addr c : String} {port : Option UInt16}

/-! ## What an address is read as -/

/-- The address is this literal, with this port. -/
def ReadFrom (addr : String) (l : IpLiteral) (port : Option UInt16) : Prop :=
  ∃ host, splitHostPort? (trimChars addr.toList) = some (host, port) ∧ ofChars? host = some l

theorem canonicalAddress?_eq_some_iff :
    canonicalAddress? addr = some c ↔
      ∃ l port, ReadFrom addr l port ∧ withPort l.text port = c := by
  simp only [canonicalAddress?, Option.bind_eq_bind, Option.bind_eq_some_iff, ReadFrom,
    Option.pure_def, Option.some.injEq, Prod.exists]
  constructor
  · rintro ⟨host, port, hsplit, l, hread, rfl⟩
    exact ⟨l, port, ⟨host, hsplit, hread⟩, rfl⟩
  · rintro ⟨l, port, ⟨host, hsplit, hread⟩, rfl⟩
    exact ⟨host, port, hsplit, l, hread, rfl⟩

theorem ReadFrom.readable (h : ReadFrom addr l port) : l.Readable := by
  obtain ⟨_, _, hread⟩ := h
  exact readable_of_ofChars? hread

/-- The characters of the zone, none if there is no zone. -/
def zoneChars (l : IpLiteral) : List Char := (l.zone?.getD "").toList

/-! ## Brackets in zones -/

/-- A zone is part of the host that it was read from. -/
theorem mem_of_mem_zoneChars {d : Char} (h : ofChars? host = some l) (hd : d ∈ l.zoneChars) :
    d ∈ host := by
  unfold zoneChars at hd
  cases hzone : l.zone? with
  | none =>
    rw [hzone] at hd
    cases hd
  | some zone =>
    rw [hzone, Option.getD_some] at hd
    obtain ⟨_, ip, hinner⟩ := unbracketed_of_zone? h hzone
    apply mem_of_mem_unbracketed
    rw [hinner]
    exact List.mem_append_right _ (List.mem_cons_of_mem _ hd)

theorem close_mem_bare_iff : ']' ∈ l.bare ↔ ']' ∈ l.zoneChars := by
  have hip : ']' ∉ l.ip.toChars := Ip.not_mem_toChars (by decide)
  unfold bare zoneChars
  cases l.zone? with
  | none => simp [hip]
  | some zone => simp [hip]

/-! ## Hosts in brackets -/

/-- Nothing is read where a second closing bracket follows the first one: no port has one in it. -/
theorem splitHostPort?_eq_none {front back : List Char} (hfront : ']' ∉ front)
    (hback : ']' ∈ back) : splitHostPort? ('[' :: front ++ ']' :: back) = none := by
  rw [Option.eq_none_iff_forall_ne_some]
  rintro ⟨host, port⟩ h
  obtain ⟨tail, heq, hhost, hport⟩ | ⟨hopen, _⟩ := splitHostPort?_eq_some_iff.1 h
  · have hcut : cutFirst? ']' (front ++ ']' :: back) = cutFirst? ']' (host ++ ']' :: tail) :=
      congrArg _ (List.cons.inj heq).2
    rw [cutFirst?_append hfront, cutFirst?_append hhost] at hcut
    cases hcut
    exact hport.close_not_mem hback
  · exact hopen rfl

/-- A host in brackets ends before the first closing one. -/
theorem close_not_mem_of_splitHostPort? {cs : List Char} (h : splitHostPort? cs = some (host, port))
    (hopen : cs.head? = some '[') : ']' ∉ host := by
  obtain ⟨_, _, hclose, _⟩ | ⟨hnot, _⟩ := splitHostPort?_eq_some_iff.1 h
  · exact hclose
  · exact absurd hopen hnot

/-! ## Reading again -/

theorem toList_withPort_v6 (address : Ip.V6) (zone : Option String) (port : Option UInt16) :
    (withPort (v6 address zone).text port).toList =
      '[' :: (v6 address zone).bare ++ ']' :: portChars port := by
  simp [withPort_toList, text, toChars_v6]

theorem trimChars_withPort (l : IpLiteral) (port : Option UInt16) :
    trimChars (withPort l.text port).toList = (withPort l.text port).toList :=
  ((Endpoint.Host.ip l).isTrimmed_withPort port).trimChars_eq

/-- A literal and its port are found again where they were put together. -/
theorem canonicalAddress?_of_closed (hl : l.Readable) (hclose : ']' ∉ l.zoneChars) :
    canonicalAddress? (withPort l.text port) = some (withPort l.text port) := by
  have hzone :
      ∀ l' zone, Endpoint.Host.ip l = .ip l' → l'.zone? = some zone → ']' ∉ zone.toList := by
    rintro _ zone ⟨⟩ hzone
    rwa [zoneChars, hzone] at hclose
  refine canonicalAddress?_eq_some_iff.2 ⟨l, port, ⟨l.bare, ?_, ofChars?_bare hl⟩, rfl⟩
  rw [trimChars_withPort]
  exact Endpoint.Host.splitHostPort?_withPort hzone port

/-- The literal is taken to end at the bracket in its zone. -/
theorem canonicalAddress?_of_open (hclose : ']' ∈ l.zoneChars) :
    canonicalAddress? (withPort l.text port) = none := by
  obtain ⟨front, back, hbare, hfront⟩ := List.eq_append_cons_of_mem (close_mem_bare_iff.2 hclose)
  have htext : (withPort l.text port).toList =
      '[' :: front ++ ']' :: (back ++ ']' :: portChars port) := by
    cases l with
    | v4 a => cases hclose
    | v6 a zone => simp [toList_withPort_v6, hbare]
  have hsplit : splitHostPort? (withPort l.text port).toList = none := by
    rw [htext]
    exact splitHostPort?_eq_none hfront (by simp)
  rw [canonicalAddress?, trimChars_withPort, hsplit]
  rfl

/-- A canonical address is read as itself, but for one whose zone has a closing bracket in it: that
is not read at all. No such zone is ever read from between brackets. -/
theorem canonicalAddress?_again (h : canonicalAddress? addr = some c) :
    ∃ l port, ReadFrom addr l port ∧ withPort l.text port = c ∧
      canonicalAddress? c = (if ']' ∈ l.zoneChars then none else some c) ∧
      ((trimChars addr.toList).head? = some '[' → ']' ∉ l.zoneChars) := by
  obtain ⟨l, port, hread, rfl⟩ := canonicalAddress?_eq_some_iff.1 h
  refine ⟨l, port, hread, rfl, ?_, fun hopen hclose => ?_⟩
  · split
    · rename_i hclose
      exact canonicalAddress?_of_open hclose
    · rename_i hclose
      exact canonicalAddress?_of_closed hread.readable hclose
  · obtain ⟨host, hsplit, hliteral⟩ := hread
    exact close_not_mem_of_splitHostPort? hsplit hopen (mem_of_mem_zoneChars hliteral hclose)

theorem canonicalAddress?_again_eth0 :
    canonicalAddress? "[FE80::1%eth0]:0443" = some "[fe80::1%eth0]:443" ∧
      canonicalAddress? "[fe80::1%eth0]:443" = some "[fe80::1%eth0]:443" := by
  have h : canonicalAddress? "[FE80::1%eth0]:0443" = some "[fe80::1%eth0]:443" := by decide +kernel
  obtain ⟨_, _, _, _, hagain, hbrackets⟩ := canonicalAddress?_again h
  have hclose := hbrackets (by decide +kernel)
  exact ⟨h, hagain.trans (if_neg hclose)⟩

/-- Without brackets around it a zone may have a bracket in it, and then its canonical text is not
an address. -/
theorem bracket_in_zone_unread :
    canonicalAddress? "fe80::1%a]b" = some "[fe80::1%a]b]" ∧
      canonicalAddress? "[fe80::1%a]b]" = none := by
  constructor
  · decide +kernel
  · decide +kernel

end IpLiteral

end Inventory
