-- Names joined by a dot, and names cut at their first dot. Nothing but the size
-- of the whole can keep two names from being joined, and what is cut off behind
-- the first label is a name again.
import Inventory.Proofs.DnsNames

namespace Inventory.Hostname

open Text

variable {h d n : Hostname} {e : Error}

/-! ## Joining -/

theorem exists_withDomain_iff :
    (∃ n, h.withDomain d = .ok n) ↔ (h.text ++ "." ++ d.text).utf8ByteSize ≤ 253 := by
  rw [← utf8Size_toList, ← exists_parse_iff (isDotted_joined h d) (joined_small h d)]
  constructor
  · rintro ⟨n, hn⟩
    exact ⟨n, hn, text_of_withDomain hn⟩
  · rintro ⟨n, hn, _⟩
    exact ⟨n, hn⟩

/-- Labels that are right in two names are right in the joined one. -/
theorem withDomain_of_long (hlong : 253 < (h.text ++ "." ++ d.text).utf8ByteSize) :
    h.withDomain d = .error (.tooLong (h.text ++ "." ++ d.text).utf8ByteSize) := by
  unfold withDomain
  rw [parse_of_long, folded_joined, utf8Size_toList]
  rwa [folded_joined, utf8Size_toList]

theorem withDomain_eq_error_iff :
    h.withDomain d = .error e ↔ 253 < (h.text ++ "." ++ d.text).utf8ByteSize ∧
      e = .tooLong (h.text ++ "." ++ d.text).utf8ByteSize := by
  constructor
  · intro herror
    have hlong : 253 < (h.text ++ "." ++ d.text).utf8ByteSize := by
      by_contra hfits
      obtain ⟨n, hn⟩ := exists_withDomain_iff.2 (Nat.not_lt.1 hfits)
      rw [hn] at herror
      cases herror
    rw [withDomain_of_long hlong] at herror
    cases herror
    exact ⟨hlong, rfl⟩
  · rintro ⟨hlong, rfl⟩
    exact withDomain_of_long hlong

/-! ## Cutting -/

/-- What a name is joined to ends up behind the domain that it has, or is its domain. -/
theorem parts_of_withDomain (hn : h.withDomain d = .ok n) :
    n.shortName = h.shortName ∧
      n.domain? = some (h.domain?.elim d.text fun rest => rest ++ "." ++ d.text) := by
  apply parts_of_text_eq _ h.dot_not_mem_shortName
  rw [text_of_withDomain hn]
  cases hdomain : h.domain? with
  | none => rw [text_of_domain?_eq_none hdomain, Option.elim_none]
  | some rest =>
    rw [text_of_domain?_eq_some hdomain, Option.elim_some]
    simp only [String.append_assoc]

/-- A name of several labels is its first label, a dot and the name that its domain is. -/
theorem isQualified_iff :
    n.isQualified = true ↔
      ∃ d : Hostname, n.domain? = some d.text ∧ n.text = n.shortName ++ "." ++ d.text := by
  constructor
  · intro hdots
    cases hdomain : n.domain? with
    | none =>
      rw [isQualified_eq_false_iff.2 (domain?_eq_none_iff.1 hdomain)] at hdots
      cases hdots
    | some domain =>
      obtain ⟨d, rfl⟩ := exists_domain hdomain
      exact ⟨d, rfl, text_of_domain?_eq_some hdomain⟩
  · rintro ⟨d, _, htext⟩
    unfold isQualified
    rw [List.contains_iff_mem, htext]
    simp

/-- Two names can be joined just if the joined text is not too long, and nothing else is ever wrong
with it. The joined name begins with the first label of the one, and its domain ends in the other.
A name of several labels is its first label, a dot and its domain, which is read as itself. -/
theorem join_and_cut (h d n : Hostname) :
    ((∃ joined, h.withDomain d = .ok joined) ↔
      (h.text ++ "." ++ d.text).utf8ByteSize ≤ 253) ∧
    (∀ e, h.withDomain d = .error e ↔ 253 < (h.text ++ "." ++ d.text).utf8ByteSize ∧
      e = .tooLong (h.text ++ "." ++ d.text).utf8ByteSize) ∧
    (∀ joined, h.withDomain d = .ok joined →
      joined.text = h.text ++ "." ++ d.text ∧ joined.shortName = h.shortName ∧
      ('.' ∉ h.text.toList → joined.domain? = some d.text) ∧
      ('.' ∈ h.text.toList → ∃ rest, h.domain? = some rest ∧
        joined.domain? = some (rest ++ "." ++ d.text))) ∧
    (n.isQualified = true ↔ '.' ∈ n.text.toList) ∧
    (n.isQualified = true → '.' ∉ n.shortName.toList ∧ ∃ domain : Hostname,
      n.domain? = some domain.text ∧ n.text = n.shortName ++ "." ++ domain.text ∧
      parse domain.text = .ok domain) := by
  refine ⟨exists_withDomain_iff, ?_, ?_, List.contains_iff_mem, ?_⟩
  · intro e
    exact withDomain_eq_error_iff
  · intro joined hjoined
    obtain ⟨hshort, hdomain⟩ := parts_of_withDomain hjoined
    refine ⟨text_of_withDomain hjoined, hshort, ?_, ?_⟩
    · intro hsingle
      rwa [domain?_eq_none_iff.2 hsingle] at hdomain
    · intro hdot
      rcases hrest : h.domain? with _ | rest
      · exact absurd hdot (domain?_eq_none_iff.1 hrest)
      · rw [hrest] at hdomain
        exact ⟨rest, rfl, hdomain⟩
  · intro hdots
    obtain ⟨domain, hdomain, htext⟩ := isQualified_iff.1 hdots
    exact ⟨n.dot_not_mem_shortName, domain, hdomain, htext, domain.parse_text⟩

def rack7 : Hostname := ⟨"rack7", by decide +kernel, by decide +kernel⟩

def exampleCom : Hostname := ⟨"example.com", by decide +kernel, by decide +kernel⟩

def rack7ExampleCom : Hostname := ⟨"rack7.example.com", by decide +kernel, by decide +kernel⟩

theorem join_and_cut_rack :
    rack7.withDomain exampleCom = .ok rack7ExampleCom ∧
      rack7ExampleCom.domain? = some "example.com" ∧
      (∃ domain : Hostname, rack7ExampleCom.domain? = some domain.text ∧
        parse domain.text = .ok domain) ∧
      ∃ twice, rack7ExampleCom.withDomain exampleCom = .ok twice ∧
        twice.domain? = some "example.com.example.com" := by
  obtain ⟨_, _, hjoined, _, hcut⟩ := join_and_cut rack7 exampleCom rack7ExampleCom
  have hrack : rack7.withDomain exampleCom = .ok rack7ExampleCom := withDomain_eq_ok_iff.2 rfl
  obtain ⟨_, _, hsingle, _⟩ := hjoined _ hrack
  obtain ⟨_, domain, hdomain, _, hread⟩ := hcut (by decide +kernel)
  obtain ⟨hfits, _, hagain, _⟩ := join_and_cut rack7ExampleCom exampleCom exampleCom
  obtain ⟨twice, htwice⟩ := hfits.2 (by decide +kernel)
  obtain ⟨rest, hrest, hlonger⟩ := (hagain _ htwice).2.2.2 (by decide +kernel)
  have hself : rest = "example.com" := Option.some.inj (hrest.symm.trans (by decide +kernel))
  refine ⟨hrack, hsingle (by decide +kernel), ⟨domain, hdomain, hread⟩, twice, htwice, ?_⟩
  rw [hlonger, hself]
  rfl

/-- A first label may be a number, and is then no name of its own. -/
example : (parse "3000.example.com").toOption.map shortName = some "3000" ∧
    parse "3000" = .error (.numericLabel "3000") := by
  decide +kernel

end Inventory.Hostname
