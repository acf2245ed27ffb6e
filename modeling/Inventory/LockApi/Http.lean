-- One exchange over HTTP: what is sent to a peer and what comes back. How the
-- HTTP library gets there is not looked into: connections, time limits and
-- the redirects it follows are all on the peer's side.
import Inventory.Json
import Inventory.Url

namespace Inventory.LockApi

/-- What is handed over to be sent. -/
structure HttpRequest where
  method : String
  url : Url
  userAgent : String
  contentType : List String
  body : Json

/-- What sending comes to in the end, after any redirects: the status and the body of the last
response, or no response at all. -/
inductive Exchange
  | unreachable
  | answered (status : Nat) (body : String)
deriving DecidableEq, Repr

/-- What stands on the other side, with states `σ`: the HTTP library and all that it talks to. It
gives the one response that sending a request returns. -/
abbrev Peer (σ : Type) := HttpRequest → σ → Exchange × σ

/-- A header value has no controls but the tab. -/
def isHeaderChar (c : Char) : Bool := (32 ≤ c.toNat && c.toNat ≠ 127) || c = '\t'

/-! ## Status -/

def isSuccess (status : Nat) : Bool := 200 ≤ status && status < 300

/-- The registered reason phrases. -/
def reasons : List (Nat × String) :=
  [(100, "Continue"), (101, "Switching Protocols"), (102, "Processing"), (103, "Early Hints"),
    (200, "OK"), (201, "Created"), (202, "Accepted"),
    (203, "Non Authoritative Information"), (204, "No Content"), (205, "Reset Content"),
    (206, "Partial Content"), (207, "Multi-Status"), (208, "Already Reported"),
    (226, "IM Used"),
    (300, "Multiple Choices"), (301, "Moved Permanently"), (302, "Found"), (303, "See Other"),
    (304, "Not Modified"), (305, "Use Proxy"), (307, "Temporary Redirect"),
    (308, "Permanent Redirect"),
    (400, "Bad Request"), (401, "Unauthorized"), (402, "Payment Required"), (403, "Forbidden"),
    (404, "Not Found"), (405, "Method Not Allowed"), (406, "Not Acceptable"),
    (407, "Proxy Authentication Required"), (408, "Request Timeout"), (409, "Conflict"),
    (410, "Gone"), (411, "Length Required"), (412, "Precondition Failed"),
    (413, "Payload Too Large"), (414, "URI Too Long"), (415, "Unsupported Media Type"),
    (416, "Range Not Satisfiable"), (417, "Expectation Failed"), (418, "I'm a teapot"),
    (421, "Misdirected Request"), (422, "Unprocessable Entity"), (423, "Locked"),
    (424, "Failed Dependency"), (425, "Too Early"), (426, "Upgrade Required"),
    (428, "Precondition Required"), (429, "Too Many Requests"),
    (431, "Request Header Fields Too Large"), (451, "Unavailable For Legal Reasons"),
    (500, "Internal Server Error"), (501, "Not Implemented"), (502, "Bad Gateway"),
    (503, "Service Unavailable"), (504, "Gateway Timeout"),
    (505, "HTTP Version Not Supported"), (506, "Variant Also Negotiates"),
    (507, "Insufficient Storage"), (508, "Loop Detected"), (510, "Not Extended"),
    (511, "Network Authentication Required")]

def statusText (status : Nat) : String :=
  toString status ++ " " ++ (reasons.lookup status).getD "<unknown status code>"

/-! ## Failures -/

/-- Why an exchange with a service gave no answer. -/
inductive Failure
  | badUrl (url : String)
  | unsendable (url : String) (parsed : Url)
  | unreachable (url : String) (parsed : Url)
  | status (url : String) (status : Nat) (body : String)
  | undecodable (url : String)
  | badUserAgent
deriving DecidableEq, Repr

def Failure.message : Failure → String
  | .badUrl url => s!"POST {url} failed: builder error"
  | .unsendable url parsed => s!"POST {url} failed: builder error for url ({parsed})"
  | .unreachable url parsed => s!"POST {url} failed: error sending request for url ({parsed})"
  | .status url code body => s!"POST {url} returned {statusText code}: {body}"
  | .undecodable url => s!"Invalid response from {url}: error decoding response body"
  | .badUserAgent => "Failed to create HTTP client: builder error"

end Inventory.LockApi
