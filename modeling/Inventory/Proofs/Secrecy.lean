-- Passwords are taken in and never given away. Two batches of endpoints that
-- differ only in what their passwords are look the same in every log line, in
-- every document that is written, in every refusal, and from outside a run.
import Mathlib.Data.List.Forall2
import Inventory.Resolver

namespace Inventory

/-! ## Other passwords -/

namespace EndpointSpec

variable {s t : EndpointSpec} {password : Option String}

/-- The endpoint with another password, or with none. -/
def withPassword (s : EndpointSpec) (password : Option String) : EndpointSpec :=
  { s with password }

/-- Two endpoints that differ at most in the text of a password that both of them have. -/
def Alike (s t : EndpointSpec) : Prop :=
  ∃ password, password.isSome = s.password.isSome ∧ t = s.withPassword password

/-- Nothing that is written about two endpoints tells them apart. -/
structure LooksLike (s t : EndpointSpec) : Prop where
  shown : s.shown = t.shown
  json : s.json = t.json

theorem shown_withPassword (h : password.isSome = s.password.isSome) :
    (s.withPassword password).shown = s.shown := by
  have hredacted : password.map (fun _ => redacted) = s.password.map (fun _ => redacted) := by
    cases password <;> cases hgiven : s.password <;> simp_all
  simp only [shown, withPassword, hredacted]

theorem Alike.looksLike (h : Alike s t) : LooksLike s t := by
  obtain ⟨password, hpresent, rfl⟩ := h
  exact ⟨(shown_withPassword hpresent).symm, rfl⟩

end EndpointSpec

namespace Descriptor

variable {d e : Descriptor}

/-- The descriptor with another password. -/
def withPassword (d : Descriptor) (password : String) : Descriptor :=
  { d with credentials := { d.credentials with password } }

/-- Nothing that is written about two descriptors tells them apart. -/
structure LooksLike (d e : Descriptor) : Prop where
  shown : d.shown = e.shown
  text : d.text = e.text
  hostPort : d.hostPort = e.hostPort
  json : d.json = e.json

theorem looksLike_withPassword (d : Descriptor) (password : String) :
    LooksLike d (d.withPassword password) :=
  ⟨rfl, rfl, rfl, rfl⟩

end Descriptor

namespace Endpoint

variable {s t : EndpointSpec} {specs specs' : List EndpointSpec}

/-! ## Resolution -/

/-- Two outcomes of a batch that cannot be told apart: the same refusal, or descriptors that look
the same one by one. -/
inductive SameOutcome :
    Except BatchError (List Descriptor) → Except BatchError (List Descriptor) → Prop
  | refused (cause : BatchError) : SameOutcome (.error cause) (.error cause)
  | resolved {ds es : List Descriptor} (h : List.Forall₂ Descriptor.LooksLike ds es) :
      SameOutcome (.ok ds) (.ok es)

theorem SameOutcome.cons {r r' : Except BatchError (List Descriptor)} {d e : Descriptor}
    (hhead : Descriptor.LooksLike d e) (htail : SameOutcome r r') :
    SameOutcome (r.map (d :: ·)) (r'.map (e :: ·)) := by
  cases htail with
  | refused cause => exact .refused cause
  | resolved h => exact .resolved (.cons hhead h)

/-- A password goes where the credentials are kept, and nowhere else. -/
theorem resolve_withPassword (s : EndpointSpec) (password : Option String) :
    resolve (s.withPassword password) =
      (resolve s).map fun d => d.withPassword (password.getD "") := by
  change _ = (fun d : Descriptor => d.withPassword (password.getD "")) <$> resolve s
  simp only [resolve, map_bind, map_pure]
  rfl

theorem sameOutcome_resolveFrom (h : List.Forall₂ EndpointSpec.Alike specs specs') (index : Nat) :
    SameOutcome (resolveFrom index specs) (resolveFrom index specs') := by
  induction h generalizing index with
  | nil => exact .resolved .nil
  | @cons s t rest rest' hhead _ ih =>
    obtain ⟨password, _, rfl⟩ := hhead
    rw [resolveFrom, resolveFrom, resolve_withPassword]
    cases resolve s with
    | error cause => exact .refused ⟨index, cause⟩
    | ok d => exact (ih (index + 1)).cons (d.looksLike_withPassword _)

end Endpoint

namespace Resolver

open Endpoint

variable {specs specs' : List EndpointSpec}

/-! ## Runs -/

theorem documentOf_congr {ds es : List Descriptor} (h : List.Forall₂ Descriptor.LooksLike ds es) :
    documentOf ds = documentOf es := by
  have hjson : ds.map Descriptor.json = es.map Descriptor.json := by
    induction h with
    | nil => rfl
    | cons hhead _ ih => rw [List.map_cons, List.map_cons, hhead.json, ih]
  rw [documentOf, documentOf, hjson]

theorem resolveText_of_decode {text : String}
    (h : Json.decode EndpointList.decoder text = .ok ⟨specs⟩) :
    resolveText text = (resolveAll specs).mapError .refused := by
  rw [resolveText, h]
  dsimp only
  cases resolveAll specs <;> rfl

theorem run_congr {text text' : String} (h : SameOutcome (resolveAll specs) (resolveAll specs'))
    (htext : Json.decode EndpointList.decoder text = .ok ⟨specs⟩)
    (htext' : Json.decode EndpointList.decoder text' = .ok ⟨specs'⟩) (source source' : Source) :
    run source (.ok text) = run source' (.ok text') := by
  simp only [run, resolveText_of_decode htext, resolveText_of_decode htext']
  generalize resolveAll specs = r at h
  generalize resolveAll specs' = r' at h
  cases h with
  | refused cause => rfl
  | resolved h => simp only [Except.mapError, documentOf_congr h]

/-- Batches that differ only in the texts of passwords look the same entry by entry, resolve to the
same refusal or to descriptors that look the same, and leave the same behind when documents that
hold them are run. -/
theorem passwords_unseen (h : List.Forall₂ EndpointSpec.Alike specs specs') :
    List.Forall₂ EndpointSpec.LooksLike specs specs' ∧
    SameOutcome (resolveAll specs) (resolveAll specs') ∧
    ∀ source source' text text',
      Json.decode EndpointList.decoder text = .ok ⟨specs⟩ →
      Json.decode EndpointList.decoder text' = .ok ⟨specs'⟩ →
      run source (.ok text) = run source' (.ok text') := by
  have hsame := sameOutcome_resolveFrom h 0
  exact ⟨h.imp fun _ _ => EndpointSpec.Alike.looksLike, hsame,
    fun source source' _ _ htext htext' => run_congr hsame htext htext' source source'⟩

/-- A controller with a login. -/
def rootLogin (password : String) : EndpointSpec where
  id := some "x0c0s14b0"
  user := some "root"
  password := some password

/-- The document that holds this controller. -/
def rootDocument (password : String) : String :=
  "\x7b\"RedfishEndpoints\":[\x7b\"ID\":\"x0c0s14b0\",\"User\":\"root\",\"Password\":\""
    ++ password ++ "\"\x7d]\x7d"

theorem passwords_unseen_root :
    rootLogin "calvin" ≠ rootLogin "secret" ∧
    (run .standardInput (.ok (rootDocument "calvin"))).exitCode = 0 ∧
    run .standardInput (.ok (rootDocument "calvin")) =
      run .standardInput (.ok (rootDocument "secret")) := by
  have halike : List.Forall₂ EndpointSpec.Alike [rootLogin "calvin"] [rootLogin "secret"] :=
    .cons ⟨some "secret", rfl, rfl⟩ .nil
  have hcalvin : Json.decode EndpointList.decoder (rootDocument "calvin") =
      .ok ⟨[rootLogin "calvin"]⟩ := by decide +kernel
  have hsecret : Json.decode EndpointList.decoder (rootDocument "secret") =
      .ok ⟨[rootLogin "secret"]⟩ := by decide +kernel
  exact ⟨by decide, by decide +kernel,
    (passwords_unseen halike).2.2 .standardInput .standardInput _ _ hcalvin hsecret⟩

end Resolver

end Inventory
