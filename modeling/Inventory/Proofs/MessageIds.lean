-- Message ids written out and read back. A text is cut at its dots into
-- segments, and all that is lost on the way is a version of one empty segment.
import Inventory.MessageId
import Inventory.Proofs.Texts

namespace Inventory.MessageId

open Text

variable {m : MessageId} {s : String}

/-! ## Segments -/

/-- The parts of a text between its dots, without the blanks around the whole. -/
def segments (s : String) : List (List Char) := (trimChars s.toList).splitOn '.'

/-- The segments of a version, of which an empty version has none. -/
def versionSegments (m : MessageId) : List (List Char) :=
  if m.version = "" then [] else m.version.toList.splitOn '.'

theorem segments_ne_nil (s : String) : segments s ≠ [] := List.splitOn_ne_nil '.' _

theorem intercalate_segments (s : String) : ['.'].intercalate (segments s) = trimChars s.toList :=
  List.intercalate_splitOn '.'

theorem dot_not_mem_of_mem_segments {part : List Char} (h : part ∈ segments s) : '.' ∉ part :=
  not_mem_of_mem_splitOn h

theorem dot_not_mem_of_mem_versionSegments {part : List Char} (h : part ∈ m.versionSegments) :
    '.' ∉ part := by
  unfold versionSegments at h
  split at h
  · cases h
  · exact not_mem_of_mem_splitOn h

theorem intercalate_versionSegments (m : MessageId) :
    ['.'].intercalate m.versionSegments = m.version.toList := by
  unfold versionSegments
  split
  · rename_i hversion
    rw [hversion]
    rfl
  · exact List.intercalate_splitOn '.'

/-- A version is told from its segments, but one empty segment is taken for none. -/
theorem versionSegments_eq_iff {version : List (List Char)} (h : ∀ part ∈ version, '.' ∉ part)
    (hm : m.version.toList = ['.'].intercalate version) :
    m.versionSegments = version ↔ version ≠ [[]] := by
  have hsplit := List.splitOn_intercalate '.' h
  rw [← hm] at hsplit
  unfold versionSegments
  by_cases hempty : m.version = ""
  · rw [hempty] at hsplit
    rw [if_pos hempty]
    constructor
    · rintro rfl
      exact (List.cons_ne_nil _ _).symm
    · intro hne
      by_contra hsome
      exact hne (hsplit (Ne.symm hsome)).symm
  · rw [if_neg hempty]
    have hsome : version ≠ [] := by
      rintro rfl
      exact hempty (String.toList_eq_nil_iff.1 hm)
    rw [hsplit hsome]
    constructor
    · rintro - rfl
      exact hempty (String.toList_eq_nil_iff.1 hm)
    · intro _
      rfl

theorem ofSegments_concat (registry message : List Char) (version : List (List Char)) :
    ofSegments (registry :: (version ++ [message])) = ⟨String.ofList registry,
      String.ofList (['.'].intercalate version), String.ofList message⟩ := by
  cases version with
  | nil => rfl
  | cons part version =>
    rw [List.cons_append, ofSegments]
    · rw [← List.cons_append, List.dropLast_concat, List.getLastD_concat]
    · simp

theorem toList_text (hregistry : m.registry ≠ "") (hmessage : m.message ≠ "") :
    m.text.toList = ['.'].intercalate
      (m.registry.toList :: (m.versionSegments ++ [m.message.toList])) := by
  have hmark : ".".toList = ['.'] := rfl
  unfold text
  by_cases hversion : m.version = ""
  · have hnone : m.versionSegments = [] := if_pos hversion
    simp [hregistry, hmessage, hversion, hnone]
  · have hsome : m.versionSegments ≠ [] := by
      unfold versionSegments
      rw [if_neg hversion]
      exact List.splitOn_ne_nil _ _
    rw [List.intercalate_cons_of_ne_nil (by simp), intercalate_concat hsome,
      intercalate_versionSegments]
    simp [hregistry, hmessage, hversion]

/-! ## Reading back -/

/-- A registry and a message name that can be told from the text of the id. -/
structure WellFormed (m : MessageId) : Prop where
  registry_ne : m.registry ≠ ""
  message_ne : m.message ≠ ""
  registry_dotless : '.' ∉ m.registry.toList
  message_dotless : '.' ∉ m.message.toList
  head : ∀ c, m.registry.toList.head? = some c → isBlank c = false
  last : ∀ c, m.message.toList.getLast? = some c → isBlank c = false

theorem WellFormed.dot_not_mem (h : m.WellFormed) :
    ∀ part ∈ m.registry.toList :: (m.versionSegments ++ [m.message.toList]), '.' ∉ part := by
  rw [List.forall_mem_cons, List.forall_mem_append, List.forall_mem_singleton]
  exact ⟨h.registry_dotless, fun _ => dot_not_mem_of_mem_versionSegments, h.message_dotless⟩

/-- The segments of a text are those that it was joined from. -/
theorem WellFormed.segments_text (h : m.WellFormed) :
    segments m.text = m.registry.toList :: (m.versionSegments ++ [m.message.toList]) := by
  have htext := toList_text h.registry_ne h.message_ne
  have hregistry : m.registry.toList ≠ [] := mt String.toList_eq_nil_iff.1 h.registry_ne
  have hmessage : m.message.toList ≠ [] := mt String.toList_eq_nil_iff.1 h.message_ne
  have htrim : trimChars m.text.toList = m.text.toList := by
    apply trimChars_eq_self
    · intro c hc
      rw [htext, head?_intercalate_cons hregistry] at hc
      exact h.head c hc
    · intro c hc
      rw [htext, ← List.cons_append, getLast?_intercalate_concat hmessage] at hc
      exact h.last c hc
  rw [segments, htrim, htext, List.splitOn_intercalate '.' h.dot_not_mem (List.cons_ne_nil _ _)]

theorem WellFormed.parse_text (h : m.WellFormed) : parse m.text = m := by
  change ofSegments (segments m.text) = m
  rw [h.segments_text, ofSegments_concat, intercalate_versionSegments]
  simp only [String.ofList_toList]

theorem parse_trim (s : String) : parse (trim s) = parse s := by
  unfold parse
  rw [trim_toList, trimChars_trimChars]

section

variable {registry message : List Char} {version : List (List Char)}

theorem parse_of_segments (h : segments s = registry :: (version ++ [message])) :
    parse s = ⟨String.ofList registry, String.ofList (['.'].intercalate version),
      String.ofList message⟩ := by
  change ofSegments (segments s) = _
  rw [h, ofSegments_concat]

theorem wellFormed_parse (h : segments s = registry :: (version ++ [message]))
    (hregistry : registry ≠ []) (hmessage : message ≠ []) : (parse s).WellFormed := by
  have htrim := intercalate_segments s
  have hdots : ∀ part ∈ segments s, '.' ∉ part := fun _ => dot_not_mem_of_mem_segments
  rw [h] at htrim hdots
  rw [parse_of_segments h]
  refine ⟨?_, ?_, ?_, ?_, ?_, ?_⟩
  · simpa using hregistry
  · simpa using hmessage
  · simpa using hdots registry List.mem_cons_self
  · simpa using hdots message (by simp)
  · intro c hc
    have hhead : (trimChars s.toList).head? = some c := by
      rw [← htrim, head?_intercalate_cons hregistry, ← hc, String.toList_ofList]
    exact isBlank_of_head?_trimChars hhead
  · intro c hc
    have hlast : (trimChars s.toList).getLast? = some c := by
      rw [← htrim, ← List.cons_append, getLast?_intercalate_concat hmessage, ← hc,
        String.toList_ofList]
    exact of_getLast?_dropEndWhile hlast

/-- A text is written again as it was but for a version of one empty segment. -/
theorem text_parse_eq_iff (h : segments s = registry :: (version ++ [message]))
    (hregistry : registry ≠ []) (hmessage : message ≠ []) :
    (parse s).text = trim s ↔ version ≠ [[]] := by
  have hwell := wellFormed_parse h hregistry hmessage
  have hdots : ∀ part ∈ segments s, '.' ∉ part := fun _ => dot_not_mem_of_mem_segments
  have hversion : (parse s).version.toList = ['.'].intercalate version := by
    rw [parse_of_segments h, String.toList_ofList]
  have hends : (parse s).registry.toList = registry ∧ (parse s).message.toList = message := by
    rw [parse_of_segments h, String.toList_ofList, String.toList_ofList]
    exact ⟨rfl, rfl⟩
  have hmiddle : ∀ part ∈ version, '.' ∉ part := by
    intro part hpart
    exact hdots part (by simp [h, hpart])
  rw [← versionSegments_eq_iff hmiddle hversion, ← String.toList_inj, trim_toList,
    ← intercalate_segments, toList_text hwell.registry_ne hwell.message_ne,
    intercalate_inj (List.cons_ne_nil _ _) (segments_ne_nil s) hwell.dot_not_mem hdots,
    h, hends.1, hends.2]
  simp

theorem text_parse_of_single (h : segments s = [message]) : (parse s).text = trim s := by
  have hparse : parse s = ⟨"", "", String.ofList message⟩ := by
    change ofSegments (segments s) = _
    rw [h]
    rfl
  have htrim : trim s = String.ofList message := by
    rw [trim, ← intercalate_segments, h, List.intercalate_singleton]
  rw [hparse, htrim]
  unfold text
  by_cases hempty : String.ofList message = "" <;> simp [hempty]

end

theorem segments_cases (s : String) :
    (∃ message, segments s = [message]) ∨
      ∃ registry version message, segments s = registry :: (version ++ [message]) := by
  rcases h : segments s with _ | ⟨registry, rest⟩
  · exact absurd h (segments_ne_nil s)
  · rcases List.eq_nil_or_concat' rest with rfl | ⟨version, message, rfl⟩
    · exact .inl ⟨registry, rfl⟩
    · exact .inr ⟨registry, version, message, rfl⟩

/-- A message id with a registry and a message name is read back from its text, whatever its version
is. A text with a first and a last segment is read into an id whose text is read alike, and that is
the text itself, without the blanks around it, but for three segments with nothing in the middle. -/
theorem ids_round_trip (m : MessageId) (s : String) :
    (m.WellFormed → parse m.text = m) ∧
    ((segments s).head? ≠ some [] → (segments s).getLast? ≠ some [] →
      parse (parse s).text = parse s ∧
      ((parse s).text = trim s ↔
        ¬ ∃ registry message, segments s = [registry, [], message])) := by
  refine ⟨WellFormed.parse_text, ?_⟩
  intro hfirst hlast
  rcases segments_cases s with ⟨message, h⟩ | ⟨registry, version, message, h⟩
  · have htext := text_parse_of_single h
    rw [htext, parse_trim, h]
    refine ⟨rfl, iff_of_true rfl ?_⟩
    rintro ⟨_, _, heq⟩
    cases heq
  · have hregistry : registry ≠ [] := by
      rintro rfl
      exact hfirst (by rw [h]; rfl)
    have hmessage : message ≠ [] := by
      rintro rfl
      exact hlast (by rw [h, ← List.cons_append, List.getLast?_concat])
    refine ⟨(wellFormed_parse h hregistry hmessage).parse_text, ?_⟩
    rw [text_parse_eq_iff h hregistry hmessage, h, not_iff_not]
    constructor
    · rintro rfl
      exact ⟨registry, message, rfl⟩
    · rintro ⟨_, last, heq⟩
      have hrest : version ++ [message] = [[]] ++ [last] := (List.cons.inj heq).2
      exact (List.append_inj' hrest rfl).1

theorem ids_round_trip_dots :
    parse (text ⟨"Alert", ".1..0", " Shut Down"⟩) = ⟨"Alert", ".1..0", " Shut Down"⟩ ∧
      (parse " Alert...ShutDown ").text = trim " Alert...ShutDown " ∧
      (parse " Alert..ShutDown ").text ≠ trim " Alert..ShutDown " ∧
      parse (parse " Alert..ShutDown ").text = parse " Alert..ShutDown " := by
  obtain ⟨hback, hkept⟩ := ids_round_trip ⟨"Alert", ".1..0", " Shut Down"⟩ " Alert...ShutDown "
  obtain ⟨_, hlost⟩ := ids_round_trip ⟨"Alert", ".1..0", " Shut Down"⟩ " Alert..ShutDown "
  have hsegments : segments " Alert...ShutDown " =
      ["Alert".toList, [], [], "ShutDown".toList] := by decide +kernel
  have hsegments' : segments " Alert..ShutDown " = ["Alert".toList, [], "ShutDown".toList] := by
    decide +kernel
  rw [hsegments] at hkept
  rw [hsegments'] at hlost
  obtain ⟨hagain, htext⟩ := hlost (by decide) (by decide)
  refine ⟨hback ⟨by decide, by decide, by decide, by decide, ?_, ?_⟩,
    (hkept (by decide) (by decide)).2.2 ?_, ?_, hagain⟩
  · rintro c ⟨⟩
    decide
  · rintro c ⟨⟩
    decide
  · rintro ⟨_, _, ⟨⟩⟩
  · intro heq
    exact htext.1 heq ⟨_, _, rfl⟩

end Inventory.MessageId
