-- The grammar of addresses, and the texts that are read as addresses without
-- being in it. These are the texts with a bracket that has no partner: brackets
-- around a host are left out whatever their number, so one that opens behind the
-- first and one that closes what was never opened go unnoticed.
import Inventory.Proofs.CanonicalAddresses

namespace Inventory

open Text

namespace IpLiteral

variable {cs host : List Char} {l : IpLiteral} {port : Option UInt16} {addr : String}

/-! ## The grammar -/

/-- A version 6 address, alone or with a zone. A zone is not empty and has no closing bracket. -/
inductive IsScoped : List Char → Prop
  | alone {ip : List Char} {a : Ip.V6} (h : Ip.V6.ofChars? ip = some a) : IsScoped ip
  | zone {ip zone : List Char} {a : Ip.V6} (h : Ip.V6.ofChars? ip = some a) (hne : zone ≠ [])
    (hclose : ']' ∉ zone) : IsScoped (ip ++ '%' :: zone)

/-- What may stand in brackets. -/
inductive IsHost : List Char → Prop
  | v4 {ip : List Char} {a : Ip.V4} (h : Ip.V4.ofChars? ip = some a) : IsHost ip
  | v6 {host : List Char} (h : IsScoped host) : IsHost host

/-- Version 4 with an optional port, version 6 without a port, or either version in one pair of
brackets with an optional port behind it. -/
inductive IsAddress : List Char → Prop
  | v4 {ip tail : List Char} {a : Ip.V4} {port : Option UInt16} (h : Ip.V4.ofChars? ip = some a)
    (hport : PortText tail port) : IsAddress (ip ++ tail)
  | v6 {host : List Char} (h : IsScoped host) : IsAddress host
  | brackets {host tail : List Char} {port : Option UInt16} (h : IsHost host)
    (hport : PortText tail port) : IsAddress ('[' :: host ++ ']' :: tail)

/-- A bracket without a partner: a second one that opens, or one that closes what is not open. -/
def HasStray (cs : List Char) : Prop :=
  (∃ rest, cs = '[' :: '[' :: rest) ∨ (cs.head? ≠ some '[' ∧ ']' ∈ cs)

/-! ## Hosts -/

/-- The colons of the address stand in front of any zone. -/
theorem IsScoped.two_le_count (h : IsScoped host) : 2 ≤ host.count ':' := by
  cases h with
  | alone h => exact Ip.V6.two_le_count_of_ofChars? h
  | zone h =>
    rw [List.count_append]
    exact Nat.le_add_right_of_le (Ip.V6.two_le_count_of_ofChars? h)

theorem IsHost.exists_ip (h : IsHost host) :
    ∃ ip rest a, host = ip ++ rest ∧ Ip.ofChars? ip = some a ∧ ']' ∉ rest := by
  cases h with
  | v4 h => exact ⟨_, [], _, (List.append_nil _).symm, Ip.ofChars?_eq_v4_iff.2 h, List.not_mem_nil⟩
  | v6 h =>
    cases h with
    | alone h =>
      exact ⟨_, [], _, (List.append_nil _).symm, Ip.ofChars?_eq_v6_iff.2 h, List.not_mem_nil⟩
    | zone h _ hclose =>
      exact ⟨_, _, _, rfl, Ip.ofChars?_eq_v6_iff.2 h, by simpa using hclose⟩

theorem IsHost.head?_append (h : IsHost host) (rest : List Char) :
    (host ++ rest).head? ≠ some '[' := by
  obtain ⟨ip, _, a, rfl, hip, _⟩ := h.exists_ip
  rw [List.append_assoc, List.head?_append_of_ne_nil _ (Ip.ne_nil_of_ofChars? hip)]
  exact fun hopen => Ip.not_mem_of_ofChars? hip (by decide) (List.mem_of_mem_head? hopen)

theorem IsHost.head?_ne (h : IsHost host) : host.head? ≠ some '[' := by
  have hopen := h.head?_append []
  rwa [List.append_nil] at hopen

theorem IsHost.close_not_mem (h : IsHost host) : ']' ∉ host := by
  obtain ⟨ip, rest, a, rfl, hip, hrest⟩ := h.exists_ip
  rw [List.mem_append, not_or]
  exact ⟨Ip.not_mem_of_ofChars? hip (by decide), hrest⟩

/-- Where there is no bracket to be left out, only hosts of the grammar are literals. -/
theorem exists_ofChars?_iff (hopen : host.head? ≠ some '[') (hclose : ']' ∉ host) :
    (∃ l, ofChars? host = some l) ↔ IsHost host := by
  have hinner : unbracketed host = host :=
    unbracketed_eq_self hopen fun h => hclose (List.mem_of_mem_getLast? h)
  simp only [ofChars?_eq_some_iff, hinner]
  constructor
  · rintro ⟨l, ⟨a, ha, -⟩ | ⟨ip, zone, a, rfl, hne, ha, -⟩⟩
    · cases a with
      | v4 a => exact .v4 (Ip.ofChars?_eq_v4_iff.1 ha)
      | v6 a => exact .v6 (.alone (Ip.ofChars?_eq_v6_iff.1 ha))
    · refine .v6 (.zone ha hne fun h => hclose ?_)
      exact List.mem_append_right _ (List.mem_cons_of_mem _ h)
  · intro h
    cases h with
    | v4 h => exact ⟨_, .inl ⟨_, Ip.ofChars?_eq_v4_iff.2 h, rfl⟩⟩
    | v6 h =>
      cases h with
      | alone h => exact ⟨_, .inl ⟨_, Ip.ofChars?_eq_v6_iff.2 h, rfl⟩⟩
      | zone h hne => exact ⟨_, .inr ⟨_, _, _, rfl, hne, h, rfl⟩⟩

theorem IsHost.exists_literal (h : IsHost host) : ∃ l, ofChars? host = some l :=
  (exists_ofChars?_iff h.head?_ne h.close_not_mem).2 h

/-! ## Addresses -/

theorem IsAddress.not_stray (h : IsAddress cs) : ¬ HasStray cs := by
  -- Without a bracket in front there must be none that closes.
  have hplain {cs : List Char} (hopen : cs.head? ≠ some '[') (hclose : ']' ∉ cs) :
      ¬ HasStray cs := by
    rintro (⟨rest, rfl⟩ | ⟨_, hmem⟩)
    · exact hopen rfl
    · exact hclose hmem
  cases h with
  | v4 h hport =>
    have hhost : IsHost _ := .v4 h
    refine hplain (hhost.head?_append _) ?_
    rw [List.mem_append, not_or]
    exact ⟨hhost.close_not_mem, hport.close_not_mem⟩
  | v6 h =>
    have hhost : IsHost _ := .v6 h
    exact hplain hhost.head?_ne hhost.close_not_mem
  | brackets h =>
    rintro (⟨rest, heq⟩ | ⟨hopen, _⟩)
    · exact h.head?_append _ (congrArg List.head? (List.cons.inj heq).2)
    · exact hopen rfl

/-- The address is cut into a host and a port, and the host is a literal. -/
theorem IsAddress.exists_read (h : IsAddress cs) :
    ∃ host port l, splitHostPort? cs = some (host, port) ∧ ofChars? host = some l := by
  cases h with
  | @v4 ip tail a port h hport =>
    have hcolon : ':' ∉ ip := Ip.V4.colon_not_mem_of_ofChars? h
    obtain ⟨l, hl⟩ := (IsHost.v4 h).exists_literal
    exact ⟨ip, port, l, splitHostPort?_append ((IsHost.v4 h).head?_append _) hcolon hport, hl⟩
  | v6 h =>
    have hopen : cs.head? ≠ some '[' := (IsHost.v6 h).head?_ne
    have hcount := h.two_le_count
    obtain ⟨l, hl⟩ := (IsHost.v6 h).exists_literal
    refine ⟨cs, none, l, splitHostPort?_eq_some_iff.2 (.inr ⟨hopen, [], ?_, .absent, ?_⟩), hl⟩
    · exact (List.append_nil _).symm
    · exact iff_of_false (by omega) (fun h => h rfl)
  | @brackets host tail port h hport =>
    obtain ⟨l, hl⟩ := h.exists_literal
    exact ⟨host, port, l,
      splitHostPort?_eq_some_iff.2 (.inl ⟨tail, rfl, h.close_not_mem, hport⟩), hl⟩

theorem isAddress_of_read (hstray : ¬ HasStray cs) (hsplit : splitHostPort? cs = some (host, port))
    (hread : ofChars? host = some l) : IsAddress cs := by
  obtain ⟨tail, rfl, hclose, hport⟩ | ⟨hopen, tail, rfl, hport, hcount⟩ :=
    splitHostPort?_eq_some_iff.1 hsplit
  · have hopen : host.head? ≠ some '[' := by
      intro hopen
      obtain ⟨rest, rfl⟩ := List.head?_eq_some_iff.1 hopen
      exact hstray (.inl ⟨_, rfl⟩)
    exact .brackets ((exists_ofChars?_iff hopen hclose).1 ⟨l, hread⟩) hport
  · have hclose : ']' ∉ host := fun h => hstray (.inr ⟨hopen, List.mem_append_left _ h⟩)
    have hopen : host.head? ≠ some '[' := fun h => hopen (by rw [List.head?_append, h]; rfl)
    cases (exists_ofChars?_iff hopen hclose).1 ⟨l, hread⟩ with
    | v4 h => exact .v4 h hport
    | v6 h =>
      -- A version 6 host has colons of its own, so none of them is that of a port.
      cases hport with
      | absent => exact (List.append_nil host).symm ▸ .v6 h
      | given =>
        have hone := hcount.2 nofun
        have htwo := h.two_le_count
        rw [List.count_append] at hone
        omega

/-- The texts of the grammar are the addresses that have a canonical text and no stray bracket. -/
theorem isAddress_iff (addr : String) :
    IsAddress (trimChars addr.toList) ↔
      (∃ c, canonicalAddress? addr = some c) ∧ ¬ HasStray (trimChars addr.toList) := by
  simp only [canonicalAddress?_eq_some_iff]
  constructor
  · intro h
    obtain ⟨host, port, l, hsplit, hread⟩ := h.exists_read
    exact ⟨⟨_, l, port, ⟨host, hsplit, hread⟩, rfl⟩, h.not_stray⟩
  · rintro ⟨⟨_, l, port, ⟨host, hsplit, hread⟩, _⟩, hstray⟩
    exact isAddress_of_read hstray hsplit hread

/-- Of two brackets that open and one that closes, the second is left out with the first. -/
theorem second_bracket_accepted :
    canonicalAddress? "[[::1]" = some "[::1]" ∧ ¬ IsAddress (trimChars "[[::1]".toList) := by
  constructor
  · decide +kernel
  · exact fun h => h.not_stray (.inl ⟨"::1]".toList, by decide +kernel⟩)

end IpLiteral

end Inventory
