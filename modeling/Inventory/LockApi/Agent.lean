-- The lock API as a lock service: every request is one exchange with a peer.
import Inventory.LockApi.Http
import Inventory.LockApi.Message

namespace Inventory.LockApi

open Json (Decoder)
open Reservation

/-- What a client needs to know to talk to the API: the URL of the reservations, and the name it
gives itself. -/
structure Agent where
  endpoint : String
  userAgent : String
deriving DecidableEq, Repr

namespace Agent

/-- The name of the service has to be a legal header value. -/
def ofConfig (c : Config) : Except Failure Agent :=
  if c.serviceName.toList.all isHeaderChar then .ok ⟨c.endpoint, c.serviceName⟩
  else .error .badUserAgent

def createUrl (a : Agent) : String := a.endpoint

def renewUrl (a : Agent) : String := a.endpoint ++ "/renew"

def releaseUrl (a : Agent) : String := a.endpoint ++ "/release"

/-- The request that is sent, if the URL can be read and leads to a host over HTTP. -/
def request (a : Agent) (url : String) (body : Json) : Except Failure HttpRequest :=
  match Url.parse? url with
  | none => .error (.badUrl url)
  | some parsed =>
    let parsed := parsed.anonymous
    if parsed.isSendable then .ok ⟨"POST", parsed, a.userAgent, ["application/json"], body⟩
    else .error (.unsendable url parsed)

/-- What an exchange means. Only a success with a body that decodes is an answer. -/
def read {α : Type} (d : Decoder α) (url : String) (parsed : Url) :
    Exchange → Except Failure α
  | .unreachable => .error (.unreachable url parsed)
  | .answered status body =>
    if !isSuccess status then .error (.status url status body)
    else
      match Json.decode d body with
      | .ok a => .ok a
      | .error _ => .error (.undecodable url)

/-- One exchange. Nothing is sent if the request cannot be built. -/
def post {α σ : Type} (a : Agent) (peer : Peer σ) (d : Decoder α) (url : String) (body : Json)
    (s : σ) : Except Reservation.Error α × σ :=
  match a.request url body with
  | .error f => (.error (.service f.message), s)
  | .ok request =>
    let (exchange, s) := peer request s
    match read d url request.url exchange with
    | .ok answer => (.ok answer, s)
    | .error f => (.error (.service f.message), s)

/-- The API at a peer as a lock service. -/
def service {σ : Type} (a : Agent) (peer : Peer σ) : Service σ Timestamp where
  create r := a.post peer grantDecoder a.createUrl (createBody r)
  renew r := a.post peer outcomeDecoder a.renewUrl (renewBody r)
  release r := a.post peer outcomeDecoder a.releaseUrl (releaseBody r)

end Agent

end Inventory.LockApi
