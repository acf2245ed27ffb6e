-- Calls of the lock API as exchanges. A call sends one request if its URL leads anywhere,
-- and what comes of it is what the answer to this request means.
import Inventory.LockApi.Agent

namespace Inventory.LockApi

open Json (Decoder)
open Reservation

variable {α σ : Type} {a : Agent} {peer : Peer σ} {d : Decoder α} {url : String} {body : Json}
  {request : HttpRequest} {s : σ} {log : List HttpRequest}

/-! ## Requests written down -/

/-- The peer, with every request that reaches it written down. -/
def Peer.recorded (peer : Peer σ) : Peer (σ × List HttpRequest) := fun request s =>
  ((peer request s.1).1, (peer request s.1).2, s.2 ++ [request])

/-- The URL can be read, and it leads to a host over HTTP. -/
def Reaches (url : String) : Prop :=
  ∃ parsed, Url.parse? url = some parsed ∧ parsed.anonymous.isSendable = true

theorem reaches_iff_any :
    Reaches url ↔ (Url.parse? url).any (·.anonymous.isSendable) = true := by
  rw [Option.any_eq_true]
  exact Iff.rfl

/-- An API at the own host. -/
def loopback : Agent where
  endpoint := "http://[::1]:27779/hsm/v2/locks/service/reservations"
  userAgent := "redfish-identity"

theorem reaches_loopback :
    Reaches loopback.createUrl ∧ Reaches loopback.renewUrl ∧ Reaches loopback.releaseUrl := by
  simp only [reaches_iff_any]
  decide +kernel

namespace Agent

/-- What is sent is a document with the name of its sender. -/
structure Sends (a : Agent) (url : String) (body : Json) (request : HttpRequest) : Prop where
  isPost : request.method = "POST"
  leads : (Url.parse? url).map Url.anonymous = some request.url
  named : request.userAgent = a.userAgent
  isJson : request.contentType = ["application/json"]
  carries : request.body = body

theorem request_cases (a : Agent) (url : String) (body : Json) :
    (Reaches url ∧ ∃ request, a.request url body = .ok request ∧ a.Sends url body request) ∨
    (¬ Reaches url ∧ ∃ f, a.request url body = .error f) := by
  unfold request Reaches
  cases hparse : Url.parse? url with
  | none => exact Or.inr ⟨nofun, _, rfl⟩
  | some parsed =>
    by_cases hsend : parsed.anonymous.isSendable = true
    · refine Or.inl ⟨⟨parsed, rfl, hsend⟩, _, if_pos hsend, rfl, ?_, rfl, rfl, rfl⟩
      rw [hparse, Option.map_some]
    · refine Or.inr ⟨?_, _, if_neg hsend⟩
      rintro ⟨_, ⟨⟩, hsend'⟩
      exact hsend hsend'

/-! ## What an exchange means -/

/-- The answer to a call, from what came of its request. -/
def answer (d : Decoder α) (url : String) (request : HttpRequest) (exchange : Exchange) :
    Except Reservation.Error α :=
  (read d url request.url exchange).mapError fun f => .service f.message

theorem answer_of_decode {status : Nat} {text : String} {found : α}
    (h : isSuccess status = true) (hdecode : Json.decode d text = .ok found) :
    answer d url request (.answered status text) = .ok found := by
  simp only [answer, read, h, hdecode, Bool.not_true, Bool.false_eq_true, if_false]
  rfl

theorem answer_of_decode_error {status : Nat} {text : String} {cause : Json.Cause}
    (h : isSuccess status = true) (hdecode : Json.decode d text = .error cause) :
    ∃ message, answer d url request (.answered status text) = .error (.service message) := by
  simp only [answer, read, h, hdecode, Bool.not_true, Bool.false_eq_true, if_false]
  exact ⟨_, rfl⟩

theorem answer_of_not_isSuccess {status : Nat} (text : String) (h : isSuccess status = false) :
    ∃ message, answer d url request (.answered status text) = .error (.service message) := by
  simp only [answer, read, h, Bool.not_false, if_true]
  exact ⟨_, rfl⟩

/-! ## Calls -/

/-- A call sends its one request and gives what the peer answers to it, or it sends none and
fails. -/
theorem post_recorded (a : Agent) (peer : Peer σ) (d : Decoder α) (url : String) (body : Json)
    (s : σ) (log : List HttpRequest) :
    (Reaches url ∧ ∃ request, a.Sends url body request ∧
      a.post peer.recorded d url body (s, log) =
        (answer d url request (peer request s).1, (peer request s).2, log ++ [request])) ∨
    (¬ Reaches url ∧ ∃ message,
      a.post peer.recorded d url body (s, log) = (.error (.service message), s, log)) := by
  rcases a.request_cases url body with ⟨hreaches, request, hrequest, hsends⟩ | ⟨hnot, f, herror⟩
  · refine Or.inl ⟨hreaches, request, hsends, ?_⟩
    simp only [post, hrequest, Peer.recorded, answer]
    cases read d url request.url (peer request s).1 <;> rfl
  · refine Or.inr ⟨hnot, f.message, ?_⟩
    simp only [post, herror]

end Agent

/-- A call is one exchange: it sends one request that asks what it should, and gives an answer
that means what the peer says. Where the URL leads nowhere, nothing is sent and the call fails. -/
def IsExchange (peer : Peer σ) (s : σ) (url : String) (Asks : HttpRequest → Prop)
    (Means : Exchange → Except Reservation.Error α → Prop)
    (call : Except Reservation.Error α × σ × List HttpRequest) : Prop :=
  (Reaches url → ∃ request, Asks request ∧ call.2 = ((peer request s).2, [request]) ∧
    Means (peer request s).1 call.1) ∧
  (¬ Reaches url → call.2 = (s, []) ∧ ∃ message, call.1 = .error (.service message))

theorem isExchange_post {Asks : HttpRequest → Prop}
    {Means : Exchange → Except Reservation.Error α → Prop}
    (hasks : ∀ request, a.Sends url body request → Asks request)
    (hmeans : ∀ request exchange, Means exchange (Agent.answer d url request exchange)) :
    IsExchange peer s url Asks Means (a.post peer.recorded d url body (s, [])) := by
  rcases a.post_recorded peer d url body s [] with
    ⟨hreaches, request, hsends, hpost⟩ | ⟨hnot, message, hpost⟩
  · rw [hpost]
    exact ⟨fun _ => ⟨request, hasks request hsends, rfl, hmeans request _⟩,
      fun hnot => absurd hreaches hnot⟩
  · rw [hpost]
    exact ⟨fun hreaches => absurd hreaches hnot, fun _ => ⟨rfl, message, rfl⟩⟩

end Inventory.LockApi
