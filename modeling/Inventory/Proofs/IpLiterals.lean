-- IP literals written and read back, with their brackets and without, and
-- hosts with ports. A zone may hold anything, but what stands behind its last
-- closing bracket is all that keeps that bracket apart from the literal's own.
import Mathlib.Data.List.Basic
import Inventory.Ip.Literal
import Inventory.Proofs.IpTexts

namespace Inventory

open Text

namespace IpLiteral

variable {l : IpLiteral} {host : List Char}

/-- The canonical text of a host that is a literal; nothing for any other host. -/
def canonical? (host : String) : Option String := (ofChars? host.toList).map text

/-- The address without its zone. -/
def ip : IpLiteral → Ip
  | v4 a => .v4 a
  | v6 a _ => .v6 a

def zone? : IpLiteral → Option String
  | v4 _ => none
  | v6 _ zone => zone

/-- The literal without brackets. -/
def bare (l : IpLiteral) : List Char :=
  match l.zone? with
  | none => l.ip.toChars
  | some zone => l.ip.toChars ++ '%' :: zone.toList

/-- A zone that can be read is not empty and does not end in a bracket. -/
def Readable (l : IpLiteral) : Prop :=
  ∀ zone, l.zone? = some zone → zone.toList ≠ [] ∧ zone.toList.getLast? ≠ some ']'

def ofIp : Ip → IpLiteral
  | .v4 a => .v4 a
  | .v6 a => .v6 a none

/-! ## Reading -/

/-- A host is a literal if, without brackets, it is an address, or a version 6 address with a zone
behind it. -/
theorem ofChars?_eq_some_iff :
    ofChars? host = some l ↔
      (∃ a, Ip.ofChars? (unbracketed host) = some a ∧ ofIp a = l) ∨
      ∃ ip zone a, unbracketed host = ip ++ '%' :: zone ∧ zone ≠ [] ∧
        Ip.V6.ofChars? ip = some a ∧ v6 a (some (String.ofList zone)) = l := by
  have hfree {cs : List Char} {a : Ip} (h : Ip.ofChars? cs = some a) : '%' ∉ cs :=
    Ip.not_mem_of_ofChars? h (by decide)
  constructor
  · intro h
    unfold ofChars? at h
    dsimp only at h
    split at h
    · obtain ⟨a, ha, rfl⟩ := Option.map_eq_some_iff.1 h
      exact .inl ⟨a, ha, by cases a <;> rfl⟩
    · rename_i ip zone hcut
      split at h
      · rename_i a ha
        split at h
        · cases h
        · rename_i hne
          exact .inr ⟨ip, zone, a, (eq_append_of_cutFirst? hcut).1, hne,
            Ip.ofChars?_eq_v6_iff.1 ha, Option.some.inj h⟩
      · cases h
  · rintro (⟨a, ha, rfl⟩ | ⟨ip, zone, a, hinner, hne, ha, rfl⟩)
    · have hcut := cutFirst?_eq_none_iff.2 (hfree ha)
      unfold unbracketed at hcut ha
      rw [ofChars?, hcut]
      simp only [ha, Option.map_some]
      cases a <;> rfl
    · have ha := Ip.ofChars?_eq_v6_iff.2 ha
      have hcut : cutFirst? '%' (unbracketed host) = some (ip, zone) := by
        rw [hinner, cutFirst?_append (hfree ha)]
      unfold unbracketed at hcut
      rw [ofChars?, hcut]
      simp only [ha, if_neg hne]

/-- A zone is what stands behind the percent sign. -/
theorem unbracketed_of_zone? {zone : String} (h : ofChars? host = some l)
    (hzone : l.zone? = some zone) :
    zone.toList ≠ [] ∧ ∃ ip, unbracketed host = ip ++ '%' :: zone.toList := by
  obtain ⟨a, _, rfl⟩ | ⟨ip, text, a, hinner, hne, _, rfl⟩ := ofChars?_eq_some_iff.1 h
  · cases a <;> cases hzone
  · cases hzone
    rw [String.toList_ofList]
    exact ⟨hne, ip, hinner⟩

theorem readable_of_ofChars? (h : ofChars? host = some l) : l.Readable := by
  intro zone hzone
  obtain ⟨hne, ip, hinner⟩ := unbracketed_of_zone? h hzone
  refine ⟨hne, fun hlast => ?_⟩
  have hend : (unbracketed host).getLast? = some ']' := by
    rw [hinner, ← List.singleton_append, ← List.append_assoc, List.getLast?_append_of_ne_nil _ hne,
      hlast]
  cases of_getLast?_dropEndWhile hend

theorem ofChars?_of_not_mem (h : '%' ∉ host) :
    ofChars? host = (Ip.ofChars? (unbracketed host)).map ofIp := by
  have hinner : cutFirst? '%' (unbracketed host) = none :=
    cutFirst?_eq_none_iff.2 (mt mem_of_mem_unbracketed h)
  unfold unbracketed at hinner ⊢
  rw [ofChars?, hinner]
  rfl

/-- Where there are neither brackets nor a zone, only an address is a literal. -/
theorem ofChars?_eq_none (hopen : '[' ∉ host) (hclose : ']' ∉ host) (hzone : '%' ∉ host)
    (hip : Ip.ofChars? host = none) : ofChars? host = none := by
  rw [ofChars?_of_not_mem hzone, unbracketed_of_not_mem hopen hclose, hip]
  rfl

/-! ## Brackets -/

theorem bare_eq_append (l : IpLiteral) : ∃ rest, l.bare = l.ip.toChars ++ rest := by
  unfold bare
  split
  · exact ⟨[], (List.append_nil _).symm⟩
  · exact ⟨_, rfl⟩

theorem head?_bare_append (l : IpLiteral) (rest : List Char) :
    (l.bare ++ rest).head? ≠ some '[' := by
  obtain ⟨zone, hbare⟩ := l.bare_eq_append
  rw [hbare, List.append_assoc, List.head?_append_of_ne_nil _ l.ip.toChars_ne_nil]
  exact fun h => Ip.not_mem_toChars (by decide) (List.mem_of_mem_head? h)

theorem head?_bare (l : IpLiteral) : l.bare.head? ≠ some '[' := by
  have h := l.head?_bare_append []
  rwa [List.append_nil] at h

theorem getLast?_bare (hl : l.Readable) : l.bare.getLast? ≠ some ']' := by
  unfold bare
  split
  · exact fun h => Ip.not_mem_toChars (by decide) (List.mem_of_mem_getLast? h)
  · rename_i zone hzone
    obtain ⟨hne, hlast⟩ := hl zone hzone
    rwa [← List.singleton_append, ← List.append_assoc, List.getLast?_append_of_ne_nil _ hne]

theorem close_not_mem_bare (h : ∀ zone, l.zone? = some zone → ']' ∉ zone.toList) :
    ']' ∉ l.bare := by
  have hip : ']' ∉ l.ip.toChars := Ip.not_mem_toChars (by decide)
  unfold bare
  split
  · exact hip
  · rename_i zone hzone
    rw [List.mem_append, List.mem_cons, not_or, not_or]
    exact ⟨hip, by decide, h zone hzone⟩

/-- What is left of a host without brackets decides which literal it is. -/
theorem ofChars?_of_bare (hl : l.Readable) (h : unbracketed host = l.bare) :
    ofChars? host = some l := by
  rw [ofChars?_eq_some_iff, h]
  cases l with
  | v4 a => exact .inl ⟨.v4 a, Ip.ofChars?_toChars (.v4 a), rfl⟩
  | v6 a zone =>
    cases zone with
    | none => exact .inl ⟨.v6 a, Ip.ofChars?_toChars (.v6 a), rfl⟩
    | some zone =>
      exact .inr ⟨a.toChars, zone.toList, a, rfl, (hl _ rfl).1, a.ofChars?_toChars, by simp⟩

theorem ofChars?_bare (hl : l.Readable) : ofChars? l.bare = some l :=
  ofChars?_of_bare hl (unbracketed_eq_self l.head?_bare (getLast?_bare hl))

theorem toChars_v6 (a : Ip.V6) (zone : Option String) :
    (v6 a zone).toChars = '[' :: (v6 a zone).bare ++ [']'] := by
  cases zone with
  | none => rfl
  | some zone => simp [toChars, bare, zone?, ip, Ip.toChars]

/-- A literal is read back from its canonical text. -/
theorem ofChars?_toChars (hl : l.Readable) : ofChars? l.toChars = some l := by
  cases l with
  | v4 a => exact ofChars?_bare hl
  | v6 a zone =>
    apply ofChars?_of_bare hl
    rw [toChars_v6]
    exact unbracketed_brackets (head?_bare _) (getLast?_bare hl)

theorem canonical?_text (hl : l.Readable) : canonical? l.text = some l.text := by
  rw [canonical?, text, String.toList_ofList, ofChars?_toChars hl]
  rfl

end IpLiteral

/-! ## Ports -/

variable {cs host : List Char}

/-- A port behind its colon, if there is one. -/
def portChars : Option UInt16 → List Char
  | none => []
  | some port => ':' :: decimal port.toNat

/-- Behind a host stands nothing, or a colon and digits that are read as a port. -/
inductive PortText : List Char → Option UInt16 → Prop
  | absent : PortText [] none
  | given {digits : List Char} {port : UInt16} (h : port? digits = some port) :
    PortText (':' :: digits) (some port)

theorem withPort_toList (host : String) (port : Option UInt16) :
    (withPort host port).toList = host.toList ++ portChars port := by
  cases port <;> simp [withPort, portChars]

theorem port?_decimal (port : UInt16) : port? (decimal port.toNat) = some port := by
  rw [port?, signedDecimalBelow?_decimal port.toNat_lt]
  simp

theorem portText_portChars (port : Option UInt16) : PortText (portChars port) port := by
  cases port with
  | none => exact .absent
  | some port => exact .given (port?_decimal port)

theorem PortText.unique {port port' : Option UInt16} (h : PortText cs port)
    (h' : PortText cs port') : port = port' := by
  cases h with
  | absent =>
    cases h'
    rfl
  | given h =>
    cases h' with
    | given h' => exact h.symm.trans h'

theorem portChars_injective {port port' : Option UInt16} (h : portChars port = portChars port') :
    port = port' :=
  (portText_portChars port).unique (h ▸ portText_portChars port')

theorem isDigit_or_plus_of_port? {c : Char} {port : UInt16} (h : port? cs = some port)
    (hc : c ∈ cs) : c.isDigit = true ∨ c = '+' := by
  obtain ⟨n, hn, _⟩ := Option.map_eq_some_iff.1 h
  exact isDigit_or_plus_of_signedDecimalBelow? hn hc

theorem PortText.colon_or_digit {c : Char} {port : Option UInt16} (h : PortText cs port)
    (hc : c ∈ cs) : c = ':' ∨ c.isDigit = true ∨ c = '+' := by
  cases h with
  | absent => cases hc
  | given h => exact (List.mem_cons.1 hc).imp_right (isDigit_or_plus_of_port? h)

theorem PortText.close_not_mem {port : Option UInt16} (h : PortText cs port) : ']' ∉ cs := by
  intro hclose
  rcases h.colon_or_digit hclose with h | h | h <;> cases h

theorem PortText.count_colon_eq_one_iff {port : Option UInt16} (h : PortText cs port) :
    cs.count ':' = 1 ↔ port ≠ none := by
  cases h with
  | absent => simp
  | @given digits port h =>
    have hcolon : ':' ∉ digits := fun hc => by
      rcases isDigit_or_plus_of_port? h hc with hc | hc <;> cases hc
    simp [List.count_eq_zero.2 hcolon]

/-- A host in brackets. -/
theorem splitHostPort?_open (rest : List Char) :
    splitHostPort? ('[' :: rest) =
      (cutFirst? ']' rest).bind fun cut =>
        if cut.2 = [] then some (cut.1, none)
        else if cut.2.head? = some ':' then (port? cut.2.tail).map fun p => (cut.1, some p)
        else none := by
  rw [splitHostPort?]
  cases cutFirst? ']' rest with
  | none => rfl
  | some cut =>
    obtain ⟨host, tail⟩ := cut
    cases tail with
    | nil => rfl
    | cons c tail =>
      by_cases hc : c = ':'
      · subst hc
        rfl
      · simp [hc]

/-- Any other host. -/
theorem splitHostPort?_of_head (h : cs.head? ≠ some '[') :
    splitHostPort? cs =
      if cs.count ':' = 1 then
        (cutFirst? ':' cs).bind fun cut => (port? cut.2).map fun p => (cut.1, some p)
      else some (cs, none) := by
  unfold splitHostPort?
  split
  · exact absurd rfl h
  · split
    · cases cutFirst? ':' cs <;> rfl
    · rfl

/-- A host in brackets ends at the first one that closes. Any other host has a port behind it just
if there is one colon. -/
theorem splitHostPort?_eq_some_iff {port : Option UInt16} :
    splitHostPort? cs = some (host, port) ↔
      (∃ tail, cs = '[' :: host ++ ']' :: tail ∧ ']' ∉ host ∧ PortText tail port) ∨
      (cs.head? ≠ some '[' ∧ ∃ tail, cs = host ++ tail ∧ PortText tail port ∧
        (cs.count ':' = 1 ↔ port ≠ none)) := by
  constructor
  · intro h
    by_cases hopen : cs.head? = some '['
    · obtain ⟨inner, rfl⟩ := List.head?_eq_some_iff.1 hopen
      rw [splitHostPort?_open, Option.bind_eq_some_iff] at h
      obtain ⟨⟨front, tail⟩, hcut, h⟩ := h
      obtain ⟨rfl, hclose⟩ := eq_append_of_cutFirst? hcut
      refine .inl ⟨tail, ?_⟩
      split at h
      · rename_i hnil
        cases hnil
        cases h
        exact ⟨rfl, hclose, .absent⟩
      · split at h
        · rename_i hcolon
          obtain ⟨digits, rfl⟩ := List.head?_eq_some_iff.1 hcolon
          obtain ⟨port, hport, heq⟩ := Option.map_eq_some_iff.1 h
          cases heq
          exact ⟨rfl, hclose, .given hport⟩
        · cases h
    · rw [splitHostPort?_of_head hopen] at h
      refine .inr ⟨hopen, ?_⟩
      split at h
      · rename_i hone
        obtain ⟨⟨front, digits⟩, hcut, h⟩ := Option.bind_eq_some_iff.1 h
        obtain ⟨port, hport, heq⟩ := Option.map_eq_some_iff.1 h
        cases heq
        exact ⟨_, (eq_append_of_cutFirst? hcut).1, .given hport, by simp [hone]⟩
      · rename_i hcount
        cases h
        exact ⟨[], (List.append_nil _).symm, .absent, by simp [hcount]⟩
  · rintro (⟨tail, rfl, hclose, hport⟩ | ⟨hopen, tail, rfl, hport, hcount⟩)
    · rw [List.cons_append, splitHostPort?_open, cutFirst?_append hclose, Option.bind_some]
      cases hport with
      | absent => rfl
      | given h => simp [h]
    · rw [splitHostPort?_of_head hopen]
      cases hport with
      | absent =>
        rw [if_neg fun hone => hcount.1 hone rfl, List.append_nil]
      | given h =>
        have hone : (host ++ ':' :: _).count ':' = 1 := hcount.2 nofun
        have hcolon : ':' ∉ host := by
          intro hmem
          have hpos := List.count_pos_iff.2 hmem
          rw [List.count_append, List.count_cons_self] at hone
          omega
        rw [if_pos hone, cutFirst?_append hcolon]
        simp [h]

theorem splitHostPort?_bracketed (h : ']' ∉ cs) (port : Option UInt16) :
    splitHostPort? ('[' :: cs ++ ']' :: portChars port) = some (cs, port) :=
  splitHostPort?_eq_some_iff.2 (.inl ⟨_, rfl, h, portText_portChars port⟩)

/-- Where a host has no colon, the colon of its port is the only one. -/
theorem splitHostPort?_append {tail : List Char} {port : Option UInt16}
    (hhead : (cs ++ tail).head? ≠ some '[') (hcolon : ':' ∉ cs) (hport : PortText tail port) :
    splitHostPort? (cs ++ tail) = some (cs, port) := by
  refine splitHostPort?_eq_some_iff.2 (.inr ⟨hhead, tail, rfl, hport, ?_⟩)
  rw [List.count_append, List.count_eq_zero.2 hcolon, Nat.zero_add]
  exact hport.count_colon_eq_one_iff

theorem splitHostPort?_plain (hhead : cs.head? ≠ some '[') (hcolon : ':' ∉ cs)
    (port : Option UInt16) : splitHostPort? (cs ++ portChars port) = some (cs, port) := by
  refine splitHostPort?_append ?_ hcolon (portText_portChars port)
  cases cs with
  | nil => cases port <;> exact nofun
  | cons c cs => exact hhead

theorem mem_of_splitHostPort? {c : Char} {port : Option UInt16}
    (h : splitHostPort? cs = some (host, port)) (hc : c ∈ host) : c ∈ cs := by
  obtain ⟨rest, rfl, _⟩ | ⟨_, rest, rfl, _⟩ := splitHostPort?_eq_some_iff.1 h <;> simp [hc]

end Inventory
