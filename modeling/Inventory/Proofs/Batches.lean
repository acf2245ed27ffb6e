-- Batches are resolved as a whole or not at all. A batch gives the descriptors
-- of its endpoints in their order, or the first refusal; a run from the
-- command line writes them all in one document that can be read back, or
-- writes nothing.
import Mathlib.Data.List.Forall2
import Inventory.Proofs.JsonTexts
import Inventory.Resolver

namespace Inventory

namespace Endpoint

variable {specs rest : List EndpointSpec} {spec : EndpointSpec} {ds : List Descriptor}
  {e : BatchError} {cause : Error} {i : Nat}

/-! ## Batches -/

/-- Every endpoint resolves, to the descriptor in its place. -/
def ResolveTo (specs : List EndpointSpec) (ds : List Descriptor) : Prop :=
  List.Forall₂ (fun s d => resolve s = .ok d) specs ds

/-- The error has the place of the first endpoint that is refused, and says why it is. -/
structure FirstRefused (specs : List EndpointSpec) (e : BatchError) : Prop where
  refused : ∃ s, specs[e.index]? = some s ∧ resolve s = .error e.cause
  before : ∀ i < e.index, ∃ s d, specs[i]? = some s ∧ resolve s = .ok d

theorem not_firstRefused_nil : ¬ FirstRefused [] e := by
  rintro ⟨⟨s, hs, _⟩, _⟩
  cases hs

theorem firstRefused_zero_iff :
    FirstRefused (spec :: rest) ⟨0, cause⟩ ↔ resolve spec = .error cause := by
  constructor
  · rintro ⟨⟨s, hs, hrefused⟩, _⟩
    cases hs
    exact hrefused
  · exact fun h => ⟨⟨spec, rfl, h⟩, fun i hi => absurd hi (Nat.not_lt_zero i)⟩

theorem firstRefused_succ_iff :
    FirstRefused (spec :: rest) ⟨i + 1, cause⟩ ↔
      (∃ d, resolve spec = .ok d) ∧ FirstRefused rest ⟨i, cause⟩ := by
  constructor
  · rintro ⟨hrefused, hbefore⟩
    obtain ⟨s, d, hs, hd⟩ := hbefore 0 (Nat.succ_pos i)
    cases hs
    exact ⟨⟨d, hd⟩, hrefused, fun k hk => hbefore (k + 1) (Nat.succ_lt_succ hk)⟩
  · rintro ⟨⟨d, hd⟩, hrefused, hbefore⟩
    refine ⟨hrefused, fun k hk => ?_⟩
    cases k with
    | zero => exact ⟨spec, d, rfl, hd⟩
    | succ k => exact hbefore k (Nat.lt_of_succ_lt_succ hk)

theorem resolveFrom_of_error (start : Nat) (h : resolve spec = .error cause) :
    resolveFrom start (spec :: rest) = .error ⟨start, cause⟩ := by
  rw [resolveFrom, h]

theorem resolveFrom_of_ok {d : Descriptor} (start : Nat) (h : resolve spec = .ok d) :
    resolveFrom start (spec :: rest) = (resolveFrom (start + 1) rest).map (d :: ·) := by
  rw [resolveFrom, h]

theorem resolveFrom_eq_ok_iff {start : Nat} :
    resolveFrom start specs = .ok ds ↔ ResolveTo specs ds := by
  unfold ResolveTo
  induction specs generalizing start ds with
  | nil =>
    rw [resolveFrom, List.forall₂_nil_left_iff, Except.ok.injEq]
    exact eq_comm
  | cons s rest ih =>
    constructor
    · intro h
      cases hs : resolve s with
      | error cause =>
        rw [resolveFrom_of_error start hs] at h
        cases h
      | ok d =>
        rw [resolveFrom_of_ok start hs] at h
        cases htail : resolveFrom (start + 1) rest with
        | error e =>
          rw [htail] at h
          cases h
        | ok more =>
          rw [htail] at h
          cases h
          exact .cons hs (ih.1 htail)
    · intro h
      cases h with
      | cons hs hrest =>
        rw [resolveFrom_of_ok start hs, ih.2 hrest]
        rfl

/-- The place of a refusal counts from where the batch starts. -/
theorem resolveFrom_eq_error_iff {start : Nat} :
    resolveFrom start specs = .error e ↔
      ∃ i, e.index = start + i ∧ FirstRefused specs ⟨i, e.cause⟩ := by
  induction specs generalizing start with
  | nil => simp [resolveFrom, not_firstRefused_nil]
  | cons s rest ih =>
    cases hs : resolve s with
    | error cause =>
      rw [resolveFrom_of_error start hs, Except.error.injEq]
      constructor
      · rintro rfl
        exact ⟨0, rfl, firstRefused_zero_iff.2 hs⟩
      · rintro ⟨i, hindex, hfirst⟩
        cases i with
        | zero =>
          have hcause := hs.symm.trans (firstRefused_zero_iff.1 hfirst)
          obtain ⟨index, found⟩ := e
          cases hcause
          cases hindex
          rfl
        | succ i =>
          obtain ⟨⟨d, hd⟩, _⟩ := firstRefused_succ_iff.1 hfirst
          cases hs.symm.trans hd
    | ok d =>
      have hmap : (resolveFrom (start + 1) rest).map (d :: ·) = .error e ↔
          resolveFrom (start + 1) rest = .error e := by
        cases resolveFrom (start + 1) rest <;> simp [Except.map]
      rw [resolveFrom_of_ok start hs, hmap, ih]
      constructor
      · rintro ⟨i, hindex, hfirst⟩
        exact ⟨i + 1, by omega, firstRefused_succ_iff.2 ⟨⟨d, hs⟩, hfirst⟩⟩
      · rintro ⟨i, hindex, hfirst⟩
        cases i with
        | zero => cases hs.symm.trans (firstRefused_zero_iff.1 hfirst)
        | succ i => exact ⟨i, by omega, (firstRefused_succ_iff.1 hfirst).2⟩

theorem resolveAll_eq_ok_iff : resolveAll specs = .ok ds ↔ ResolveTo specs ds :=
  resolveFrom_eq_ok_iff

theorem resolveAll_eq_error_iff : resolveAll specs = .error e ↔ FirstRefused specs e := by
  rw [resolveAll, resolveFrom_eq_error_iff]
  constructor
  · rintro ⟨i, hindex, hfirst⟩
    rw [Nat.zero_add] at hindex
    subst hindex
    exact hfirst
  · exact fun h => ⟨e.index, (Nat.zero_add _).symm, h⟩

theorem exists_resolveTo_iff :
    (∃ ds, ResolveTo specs ds) ↔ ∀ s ∈ specs, ∃ d, resolve s = .ok d := by
  induction specs with
  | nil => simp [ResolveTo]
  | cons s rest ih =>
    rw [List.forall_mem_cons, ← ih]
    constructor
    · rintro ⟨_, h⟩
      cases h with
      | cons hs hrest => exact ⟨⟨_, hs⟩, _, hrest⟩
    · rintro ⟨⟨d, hs⟩, ds, hrest⟩
      exact ⟨d :: ds, .cons hs hrest⟩

end Endpoint

/-! ## The document that is written -/

namespace Json

/-- Two objects with the same members, whatever their order. -/
inductive SameObject : Json → Json → Prop
  | mk {members members' : List (String × Json)} (hperm : members.Perm members')
      (hnodup : (members.map Prod.fst).Nodup) : SameObject (.object members) (.object members')

theorem sortedMembers_eq_self {members : List (String × Json)}
    (h : ∀ m ∈ members, m.2.sorted = m.2) : sortedMembers members = members := by
  induction members with
  | nil => rfl
  | cons m members ih =>
    rw [sortedMembers, h m List.mem_cons_self, ih fun n hn => h n (List.mem_cons_of_mem _ hn)]

theorem sameObject_sorted {members : List (String × Json)} (h : ∀ m ∈ members, m.2.sorted = m.2)
    (hnodup : (members.map Prod.fst).Nodup) :
    SameObject (object members).sorted (object members) := by
  have hperm := List.mergeSort_perm members fun a b => decide (a.1 ≤ b.1)
  rw [sorted, sortedMembers_eq_self h]
  exact .mk hperm ((hperm.map Prod.fst).nodup_iff.2 hnodup)

theorem sortedItems_eq_map (items : List Json) : sortedItems items = items.map sorted := by
  induction items with
  | nil => rfl
  | cons item items ih => rw [sortedItems, ih, List.map_cons]

theorem sorted_optionalMember {α : Type} {encode : α → Json}
    (h : ∀ a, (encode a).sorted = encode a) (name : String) (value : Option α) :
    ∀ m ∈ optionalMember name encode value, m.2.sorted = m.2 := by
  cases value with
  | none => exact fun _ hm => nomatch hm
  | some a => exact List.forall_mem_singleton.2 (h a)

theorem names_optionalMember_sublist {α : Type} (name : String) (encode : α → Json)
    (value : Option α) : ((optionalMember name encode value).map Prod.fst).Sublist [name] := by
  cases value with
  | none => exact List.nil_sublist _
  | some a => exact List.Sublist.refl _

end Json

/-- All values of a descriptor are scalars, so only its members change places. -/
theorem Descriptor.sameObject_sorted (d : Descriptor) : d.json.sorted.SameObject d.json := by
  have hnodup : ["ID", "Type", "FQDN", "Hostname", "Domain", "Port", "MACAddr", "IPAddress",
      "Enabled", "User"].Nodup := by decide
  refine Json.sameObject_sorted ?_ (hnodup.sublist ?_)
  · simp only [List.forall_mem_append]
    refine ⟨⟨⟨⟨?_, ?_⟩, ?_⟩, ?_⟩, ?_⟩
    · simp [Json.sorted]
    · exact Json.sorted_optionalMember (fun _ => by rfl) _ _
    · exact Json.sorted_optionalMember (fun _ => by rfl) _ _
    · exact Json.sorted_optionalMember (fun _ => by rfl) _ _
    · simp [Json.sorted]
  · simp only [List.map_append]
    exact ((((List.Sublist.refl ["ID", "Type", "FQDN", "Hostname", "Domain"]).append
      (Json.names_optionalMember_sublist ..)).append
      (Json.names_optionalMember_sublist ..)).append
      (Json.names_optionalMember_sublist ..)).append (List.Sublist.refl ["Enabled", "User"])

namespace Resolver

open Endpoint

variable {text : String} {ds : List Descriptor}

/-! ## Runs -/

theorem documentOf_eq (ds : List Descriptor) :
    documentOf ds =
      .object [("RedfishEndpoints", .list (ds.map fun d => d.json.sorted))] := by
  rw [documentOf, Json.sorted, Json.sortedMembers, Json.sortedMembers, List.mergeSort_singleton,
    Json.sorted, Json.sortedItems_eq_map, List.map_map]
  rfl

/-- Standard output holds one document, and its only member is the list of the descriptors in
their order. -/
structure Output.Prints (output : Output) (ds : List Descriptor) : Prop where
  exitCode : output.exitCode = 0
  document : ∃ items,
    Json.decode Json.decoder output.standardOutput =
      .ok (.object [("RedfishEndpoints", .list items)]) ∧
    List.Forall₂ (fun item d => item.SameObject (Descriptor.json d)) items ds

/-- Nothing is printed on standard output. -/
structure Output.Silent (output : Output) : Prop where
  exitCode : output.exitCode = 1
  standardOutput : output.standardOutput = ""

theorem resolveText_eq_ok_iff :
    resolveText text = .ok ds ↔
      ∃ list, Json.decode EndpointList.decoder text = .ok list ∧ ResolveTo list.endpoints ds := by
  unfold resolveText
  cases Json.decode EndpointList.decoder text with
  | error cause => simp
  | ok list =>
    simp only [← resolveAll_eq_ok_iff, Except.ok.injEq, exists_eq_left']
    cases resolveAll list.endpoints <;> simp

theorem prints_of_resolveText (source : Source) (h : resolveText text = .ok ds) :
    (run source (.ok text)).Prints ds := by
  have hrun : run source (.ok text) = ⟨0, (documentOf ds).prettyText ++ "\n", none⟩ := by
    rw [run, h]
  rw [hrun]
  refine ⟨rfl, ds.map fun d => d.json.sorted, ?_, ?_⟩
  · have hdecode := (Json.writes_prettyLine (documentOf ds)).decode Json.decoder
    rw [hdecode.trans (Json.decoder_reading _), documentOf_eq]
  · rw [List.forall₂_map_left_iff, List.forall₂_same]
    exact fun d _ => d.sameObject_sorted

/-- A run prints what a text resolves to, or nothing where there is no such text. -/
theorem run_cases (source : Source) (input : Except String String) :
    (∃ text ds, input = .ok text ∧ resolveText text = .ok ds ∧ (run source input).Prints ds) ∨
      (run source input).Silent ∧ ∀ text ds, input = .ok text → resolveText text ≠ .ok ds := by
  cases input with
  | error reason => exact Or.inr ⟨⟨rfl, rfl⟩, fun _ _ h => nomatch h⟩
  | ok text =>
    cases h : resolveText text with
    | ok ds => exact Or.inl ⟨text, ds, rfl, h, prints_of_resolveText source h⟩
    | error f =>
      refine Or.inr ⟨?_, ?_⟩
      · rw [run, h]
        exact ⟨rfl, rfl⟩
      · rintro _ ds hinput
        cases hinput
        rw [h]
        exact nofun

/-- A batch resolves if all its endpoints do, and then to their descriptors in order; otherwise
the error is about the first endpoint that is refused. A run on an input ends with code 0 if the
input is a text that holds endpoints which all resolve, and then prints all their descriptors in
order; otherwise it ends with code 1 and prints nothing. -/
theorem all_or_nothing (specs : List EndpointSpec) (source : Source)
    (input : Except String String) :
    ((∃ ds, resolveAll specs = .ok ds) ↔ ∀ s ∈ specs, ∃ d, resolve s = .ok d) ∧
    (∀ ds, resolveAll specs = .ok ds ↔ ResolveTo specs ds) ∧
    (∀ e, resolveAll specs = .error e ↔ FirstRefused specs e) ∧
    ((run source input).exitCode = 0 ↔
      ∃ text list, input = .ok text ∧ Json.decode EndpointList.decoder text = .ok list ∧
        ∀ s ∈ list.endpoints, ∃ d, resolve s = .ok d) ∧
    (∀ text list ds, input = .ok text → Json.decode EndpointList.decoder text = .ok list →
      ResolveTo list.endpoints ds → (run source input).Prints ds) ∧
    ((run source input).exitCode ≠ 0 → (run source input).Silent) := by
  have hbatch (ds : List Descriptor) : resolveAll specs = .ok ds ↔ ResolveTo specs ds :=
    resolveAll_eq_ok_iff
  refine ⟨?_, hbatch, fun _ => resolveAll_eq_error_iff, ?_, ?_, ?_⟩
  · simp only [hbatch, exists_resolveTo_iff]
  · simp only [← exists_resolveTo_iff]
    rcases run_cases source input with ⟨text, ds, rfl, h, hprints⟩ | ⟨hsilent, hnone⟩
    · obtain ⟨list, hdecode, hresolve⟩ := resolveText_eq_ok_iff.1 h
      exact iff_of_true hprints.exitCode ⟨text, list, rfl, hdecode, ds, hresolve⟩
    · refine iff_of_false (hsilent.exitCode ▸ Nat.one_ne_zero) ?_
      rintro ⟨text, list, rfl, hdecode, ds, hresolve⟩
      exact hnone text ds rfl (resolveText_eq_ok_iff.2 ⟨list, hdecode, hresolve⟩)
  · rintro text list ds rfl hdecode hresolve
    exact prints_of_resolveText source (resolveText_eq_ok_iff.2 ⟨list, hdecode, hresolve⟩)
  · intro hcode
    rcases run_cases source input with ⟨text, ds, rfl, h, hprints⟩ | ⟨hsilent, _⟩
    · exact absurd hprints.exitCode hcode
    · exact hsilent

/-- The controller in a slot of the first chassis. -/
def slotController (slot : UInt32) : Xname :=
  ⟨[⟨'x', 0⟩, ⟨'c', 0⟩, ⟨'s', slot⟩, ⟨'b', 0⟩], .nodeBMC, rfl⟩

def slotDescriptor (slot : UInt32) : Descriptor where
  id := slotController slot
  address := .dns (slotController slot).text none
  port := none
  mac := none
  ip := none
  enabled := true
  credentials := ⟨"", ""⟩

/-- A document with two endpoints, of which only the ids are known. -/
def pairDocument (first second : String) : String :=
  "\x7b\"RedfishEndpoints\":[\x7b\"ID\":\"" ++ first ++ "\"\x7d,\x7b\"ID\":\"" ++ second
    ++ "\"\x7d]\x7d"

def pairSpecs (first second : String) : List EndpointSpec :=
  [{ id := some first }, { id := some second }]

theorem all_or_nothing_pair :
    (run .standardInput (.ok (pairDocument "x0c0s14b0" "x0c0s15b0"))).Prints
      [slotDescriptor 14, slotDescriptor 15] ∧
    resolveAll (pairSpecs "x0c0s14b0" "?") =
      .error ⟨1, .invalidId (.unreadable (.malformed "?"))⟩ ∧
    (run .standardInput (.ok (pairDocument "x0c0s14b0" "?"))).Silent := by
  have hfirst : resolve { id := some "x0c0s14b0" } = .ok (slotDescriptor 14) := by
    decide +kernel
  have hsecond : resolve { id := some "x0c0s15b0" } = .ok (slotDescriptor 15) := by
    decide +kernel
  have hdecode : Json.decode EndpointList.decoder (pairDocument "x0c0s14b0" "x0c0s15b0") =
      .ok ⟨pairSpecs "x0c0s14b0" "x0c0s15b0"⟩ := by decide +kernel
  have hrefused : FirstRefused (pairSpecs "x0c0s14b0" "?")
      ⟨1, .invalidId (.unreadable (.malformed "?"))⟩ :=
    firstRefused_succ_iff.2 ⟨⟨_, hfirst⟩, firstRefused_zero_iff.2 (by decide +kernel)⟩
  have hgood := all_or_nothing [] .standardInput (.ok (pairDocument "x0c0s14b0" "x0c0s15b0"))
  have hbad := all_or_nothing (pairSpecs "x0c0s14b0" "?") .standardInput
    (.ok (pairDocument "x0c0s14b0" "?"))
  refine ⟨?_, (hbad.2.2.1 _).2 hrefused, hbad.2.2.2.2.2 (by decide +kernel)⟩
  exact hgood.2.2.2.2.1 _ _ _ rfl hdecode (.cons hfirst (.cons hsecond .nil))

end Resolver

end Inventory
