-- What the addresses of resolved endpoints look like. An address is a literal
-- that can be read again, or a label with the name of a domain behind it; the
-- labels and the domain are checked in every row of the table, their common
-- length is not.
import Mathlib.Data.List.Basic
import Inventory.Proofs.Hosts
import Inventory.Proofs.Locations
import Inventory.Proofs.Resolution

namespace Inventory

open Text

/-! ## Hosts that can start a name -/

namespace Hostname

variable {n : Hostname} {host : String}

/-- A label in small letters. -/
structure IsShort (host : String) : Prop extends IsLabel host.toList where
  small : host.toList.map Char.toLower = host.toList

theorem isShort_shortName (n : Hostname) : IsShort n.shortName := by
  have hfirst : n.shortName.toList ∈ labels n.shortName.toList := by
    rw [labels_eq_singleton n.dot_not_mem_shortName]
    exact List.mem_cons_self
  have hname := n.isName_text.toIsDotted
  have hsmall := n.small
  cases hdomain : n.domain? with
  | none =>
    rw [text_of_domain?_eq_none hdomain] at hname hsmall
    exact ⟨hname.each _ hfirst, hsmall⟩
  | some domain =>
    have hlist : n.text.toList = n.shortName.toList ++ '.' :: domain.toList := by
      simp [text_of_domain?_eq_some hdomain]
    rw [hlist] at hname hsmall
    rw [List.map_append] at hsmall
    exact ⟨(isDotted_append_iff.1 hname).1 _ hfirst,
      List.append_inj_left hsmall (List.length_map _)⟩

/-- A name of one label is no number. -/
theorem all_isDigit_text (h : '.' ∉ n.text.toList) : n.text.toList.all Char.isDigit = false := by
  have htop := n.isName_text.top
  rwa [topLabel_eq_self h] at htop

end Hostname

namespace Xname

variable {x : Xname}

/-- The text of a controller is short enough for a label. -/
theorem isShort_text (h : x.isController = true) : Hostname.IsShort x.text := by
  have halnum : ∀ c ∈ x.text.toList, c.isAlphanum = true := fun _ => isAlphanum_of_mem_text
  have hhyphen : '-' ∉ x.text.toList := fun hc => by cases halnum '-' hc
  have hascii : ∀ c ∈ x.text.toList, c.toNat ≤ 127 := by
    intro c hc
    have hclass := isLower_or_isDigit_of_mem_text hc
    rw [isLower_iff, isDigit_iff] at hclass
    omega
  have hlevels := Kind.length_shape_le_of_isController h
  have hlength := x.length_text_le
  obtain ⟨c, hc, _⟩ := x.exists_head_text
  refine ⟨⟨List.ne_nil_of_mem (List.mem_of_mem_head? hc), ?_, fun c hc => ?_, fun h => ?_,
    fun h => ?_⟩, ?_⟩
  · rw [utf8Size_eq_length hascii]
    omega
  · rw [Hostname.isLabelChar, halnum c hc, Bool.true_or]
  · exact hhyphen (List.mem_of_mem_head? h)
  · exact hhyphen (List.mem_of_mem_getLast? h)
  · exact x.map_toLower_text

theorem all_isDigit_text (x : Xname) : x.text.toList.all Char.isDigit = false := by
  obtain ⟨c, hc, hlower⟩ := x.exists_head_text
  rw [List.all_eq_false]
  refine ⟨c, List.mem_of_mem_head? hc, ?_⟩
  rw [Segment.not_isDigit_of_isLower hlower]
  exact Bool.false_ne_true

end Xname

/-! ## Addresses -/

namespace Address

variable {a : Address} {host : String} {suffix : Option String} {l : IpLiteral}

/-- An address of a resolved endpoint. A host without a domain is a whole name, so it is no
number. -/
inductive Sound : Address → Prop
  | ip {l : IpLiteral} {domain : Option Hostname} (readable : l.Readable) :
      Sound (.ip l (domain.map Hostname.text))
  | dns {host : String} {domain : Option Hostname} (short : Hostname.IsShort host)
      (top : domain = none → host.toList.all Char.isDigit = false) :
      Sound (.dns host (domain.map Hostname.text))

theorem fqdn_parts (n : Hostname) : fqdn (.dns n.shortName n.domain?) = n.text := by
  rw [n.text_eq]
  cases n.domain? <;> rfl

/-- A name makes a sound address of its parts. -/
theorem sound_parts (n : Hostname) : Sound (.dns n.shortName n.domain?) := by
  have hshort := n.isShort_shortName
  cases hdomain : n.domain? with
  | none =>
    have htext := Hostname.text_of_domain?_eq_none hdomain
    refine @Sound.dns _ none hshort fun _ => ?_
    rw [← htext]
    exact Hostname.all_isDigit_text (htext ▸ hshort.dot_not_mem)
  | some domain =>
    obtain ⟨d, rfl⟩ := Hostname.exists_domain hdomain
    exact @Sound.dns _ (some d) hshort fun h => nomatch h

/-- A name without dots is a sound address by itself and with a domain behind it. -/
theorem sound_single {n : Hostname} (h : '.' ∉ n.text.toList) (domain : Option Hostname) :
    Sound (.dns n.text (domain.map Hostname.text)) := by
  have hshort := n.isShort_shortName
  rw [(Hostname.parts_of_not_mem h).1] at hshort
  exact .dns hshort fun _ => Hostname.all_isDigit_text h

theorem Sound.isDotted (h : Sound (.dns host suffix)) :
    Hostname.IsDotted (fqdn (.dns host suffix)).toList := by
  cases h with
  | @dns _ domain short top =>
    have hlabels : Hostname.labels host.toList = [host.toList] :=
      Hostname.labels_eq_singleton short.dot_not_mem
    have heach : ∀ label ∈ Hostname.labels host.toList, Hostname.IsLabel label := by
      rw [hlabels]
      intro label hlabel
      rw [List.mem_singleton.1 hlabel]
      exact short.toIsLabel
    cases domain with
    | none =>
      refine ⟨heach, ?_⟩
      rw [Option.map_none, fqdn, Hostname.topLabel_eq_self short.dot_not_mem]
      exact top rfl
    | some d =>
      have hlist : (host ++ "." ++ d.text).toList = host.toList ++ '.' :: d.text.toList := by simp
      rw [Option.map_some, fqdn, hlist, Hostname.isDotted_append_iff]
      exact ⟨heach, d.isName_text.toIsDotted⟩

theorem Sound.small (h : Sound (.dns host suffix)) :
    (fqdn (.dns host suffix)).toList.map Char.toLower = (fqdn (.dns host suffix)).toList := by
  cases h with
  | @dns _ domain short _ =>
    cases domain with
    | none => exact short.small
    | some d =>
      have hdot : '.'.toLower = '.' := rfl
      simp [fqdn, short.small, d.small, hdot]

/-- A name is no literal. -/
theorem Sound.canonical?_dns (h : Sound (.dns host suffix)) :
    IpLiteral.canonical? (fqdn (.dns host suffix)) = none := by
  rw [IpLiteral.canonical?, h.isDotted.literal_eq_none]
  rfl

/-- A literal is canonical. -/
theorem Sound.canonical?_ip (h : Sound (.ip l suffix)) :
    IpLiteral.canonical? (fqdn (.ip l suffix)) = some (fqdn (.ip l suffix)) := by
  cases h with
  | ip readable => exact IpLiteral.canonical?_text readable

/-- Which of the two an address is can be told from its text. -/
theorem Sound.dns_of_canonical? (h : Sound a) (hnone : IpLiteral.canonical? a.fqdn = none) :
    ∃ host suffix, a = .dns host suffix := by
  cases a with
  | ip l suffix =>
    rw [h.canonical?_ip] at hnone
    cases hnone
  | dns host suffix => exact ⟨host, suffix, rfl⟩

/-- The parts of a sound address are those of its name. -/
theorem Sound.parts_of_text_eq {n : Hostname} (h : Sound (.dns host suffix))
    (htext : n.text = fqdn (.dns host suffix)) : n.shortName = host ∧ n.domain? = suffix := by
  cases h with
  | @dns _ domain short _ =>
    cases domain with
    | none =>
      have hdot : '.' ∉ n.text.toList := htext ▸ short.dot_not_mem
      obtain ⟨hshort, hdomain⟩ := Hostname.parts_of_not_mem hdot
      exact ⟨hshort.trans htext, hdomain⟩
    | some d => exact Hostname.parts_of_text_eq htext short.dot_not_mem

end Address

/-! ## Resolution -/

namespace Endpoint

variable {spec : EndpointSpec} {d : Descriptor} {p : Placement} {domain : Option Hostname}

/-- A name that is read as a location has no dots. -/
theorem dot_not_mem_of_parse {n : Hostname} {x : Xname} (h : Xname.parse n.text = .ok x) :
    '.' ∉ n.text.toList := by
  intro hdot
  have hmem : '.' ∈ Xname.folded n.text := by
    rwa [Xname.folded, n.isName_text.trimChars_eq, n.small]
  rcases Xname.isLower_or_isDigit_of_parse h hmem with h | h <;> cases h

/-- Every row of the table makes a sound address. -/
theorem Resolves.sound (h : Resolves spec domain p d) : d.address.Sound := by
  rw [h.address]
  have halone := h.alone
  cases h.placed with
  | literal _ _ read => exact .ip (Host.readable_of_parse read)
  | name => exact Address.sound_parts _
  | hostLiteral _ _ read => exact .ip (Host.readable_of_parse read)
  | hostAlone =>
    -- Only the check against the id says that the name has no dots.
    exact Address.sound_single (dot_not_mem_of_parse (checkAlone_eq_ok_iff.1 halone _ rfl)) none
  | @hostInDomain _ _ d _ _ _ _ _ single =>
    exact Address.sound_single (Hostname.isQualified_eq_false_iff.1 single) (some d)
  | @byId _ x _ _ _ read =>
    exact .dns (Xname.isShort_text (controller_eq_ok_iff.1 read).2) fun _ => x.all_isDigit_text

/-- A name is read back as a domain. -/
theorem readDomain_text (n : Hostname) : readDomain n.text = .ok n := by
  rw [readDomain_eq_ok_iff, dropWhile_beq_eq_self n.isName_text.head, String.ofList_toList,
    n.parse_text]

/-- The row of the id does not look at how long the whole name gets. All others do. -/
theorem Resolves.onlyId_of_long (h : Resolves spec domain p d)
    (hdns : IpLiteral.canonical? d.address.fqdn = none)
    (hlong : 253 < utf8Size d.address.fqdn.toList) :
    nonBlank spec.fqdn = none ∧ nonBlank spec.hostname = none ∧ domain.isSome := by
  have hsound := h.sound
  rw [h.address] at hdns hlong hsound
  cases h.placed with
  | literal | hostLiteral =>
    rw [hsound.canonical?_ip] at hdns
    cases hdns
  | @name _ _ _ n =>
    rw [Address.fqdn_parts] at hlong
    exact absurd n.isName_text.size (Nat.not_le.2 hlong)
  | @hostAlone _ n => exact absurd n.isName_text.size (Nat.not_le.2 hlong)
  | @hostInDomain _ n d joined _ _ _ _ _ joins =>
    have hsize := joined.isName_text.size
    rw [Hostname.text_of_withDomain joins] at hsize
    exact absurd hsize (Nat.not_le.2 hlong)
  | @byId _ x missing noHostname _ read =>
    refine ⟨missing, noHostname, ?_⟩
    cases domain with
    | none =>
      have hsize := (Xname.isShort_text (controller_eq_ok_iff.1 read).2).size
      have : 253 < utf8Size x.text.toList := hlong
      omega
    | some d => rfl

/-- An address that is no literal is a valid name if and only if it has at most 253 bytes, and only
an ID with a domain can give a longer one. -/
theorem dns_valid_iff (h : resolve spec = .ok d)
    (hdns : IpLiteral.canonical? d.address.fqdn = none) :
    ((∃ n, Hostname.parse d.address.fqdn = .ok n ∧ n.text = d.address.fqdn) ↔
        utf8Size d.address.fqdn.toList ≤ 253) ∧
      (253 < utf8Size d.address.fqdn.toList →
        nonBlank spec.fqdn = none ∧ nonBlank spec.hostname = none ∧
          (nonBlank spec.domain).isSome) := by
  obtain ⟨domain, p, h⟩ := resolve_eq_ok_iff.1 h
  have hsound := h.sound
  constructor
  · obtain ⟨host, suffix, ha⟩ := hsound.dns_of_canonical? hdns
    rw [ha] at hsound ⊢
    exact Hostname.exists_parse_iff hsound.isDotted hsound.small
  · intro hlong
    obtain ⟨hfqdn, hhostname, hdomain⟩ := h.onlyId_of_long hdns hlong
    exact ⟨hfqdn, hhostname, (readOptional_eq_ok_iff.1 h.readsDomain).1.2 hdomain⟩

/-- The controller of a node. -/
def someController : Xname := ⟨[⟨'x', 0⟩, ⟨'c', 0⟩, ⟨'s', 14⟩, ⟨'b', 0⟩], .nodeBMC, rfl⟩

/-- An ID with a domain, resolved. -/
def idInDomain (domain : Hostname) : Descriptor where
  id := someController
  address := .dns "x0c0s14b0" (some domain.text)
  port := none
  mac := none
  ip := none
  enabled := true
  credentials := ⟨"", ""⟩

/-- Any domain can be given with this ID. -/
theorem resolves_idInDomain (domain : Hostname) :
    Resolves { id := some "x0c0s14b0", domain := some domain.text } (some domain)
      { address := (idInDomain domain).address } (idInDomain domain) := by
  have hid : controller "x0c0s14b0" = .ok someController := by decide +kernel
  have hgiven : nonBlank (some "x0c0s14b0") = some "x0c0s14b0" := by decide +kernel
  have hdomain : readOptional readDomain (nonBlank (some domain.text)) = .ok (some domain) := by
    rw [domain.nonBlank_text, readOptional, readDomain_text]
    rfl
  exact ⟨hdomain, .byId rfl rfl hgiven hid, by rw [hgiven]; exact hid, rfl, rfl, rfl, rfl, rfl,
    rfl, rfl⟩

theorem dns_valid_iff_idInDomain :
    ∃ n, Hostname.parse "x0c0s14b0.example.com" = .ok n ∧ n.text = "x0c0s14b0.example.com" := by
  have h := resolves_idInDomain ⟨"example.com", by decide +kernel, by decide +kernel⟩
  exact (dns_valid_iff (resolve_eq_ok_iff.2 ⟨_, _, h⟩) h.sound.canonical?_dns).1.2
    (by decide +kernel)

/-- A name of 251 bytes. -/
def longDomain : Hostname where
  text := String.ofList (['.'].intercalate (List.replicate 4 (List.replicate 62 'a')))
  faultless := by
    rw [String.toList_ofList]
    decide +kernel
  small := by
    rw [String.toList_ofList]
    decide +kernel

/-- With nine bytes of an ID and a dot in front of it the name is too long, and still accepted. -/
theorem long_name_accepted :
    resolve { id := some "x0c0s14b0", domain := some longDomain.text } =
        .ok (idInDomain longDomain) ∧
      IpLiteral.canonical? (idInDomain longDomain).address.fqdn = none ∧
        Hostname.parse (idInDomain longDomain).address.fqdn = .error (.tooLong 261) := by
  have h := resolves_idInDomain longDomain
  have hsize : utf8Size (idInDomain longDomain).address.fqdn.toList = 261 := by
    have hdomain : utf8Size longDomain.text.toList = 251 := by
      rw [longDomain, String.toList_ofList]
      decide +kernel
    simp only [idInDomain, Address.fqdn, String.toList_append, utf8Size_append, hdomain]
    decide +kernel
  have hfolded : Hostname.folded (idInDomain longDomain).address.fqdn =
      (idInDomain longDomain).address.fqdn.toList :=
    Hostname.folded_eq_self h.sound.isDotted h.sound.small
  have hlong : 253 < utf8Size (Hostname.folded (idInDomain longDomain).address.fqdn) := by
    rw [hfolded, hsize]
    decide
  refine ⟨resolve_eq_ok_iff.2 ⟨_, _, h⟩, h.sound.canonical?_dns, ?_⟩
  rw [Hostname.parse_of_long hlong, hfolded, hsize]

end Endpoint

end Inventory
