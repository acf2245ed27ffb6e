-- URLs, read as generously as browsers read them and written in one form:
-- small letters in scheme and host, no default port, and no dots in a path.
import Inventory.Text.Blank
import Inventory.Text.Delimited
import Inventory.Url.Host
import Inventory.Url.Path

namespace Inventory

open Text

namespace Url

/-- Who is asked: a host, which may be empty, at a port, on behalf of a user. -/
structure Authority where
  user : List Char := []
  password : List Char := []
  host : List Char := []
  port : Option Nat := none
deriving DecidableEq, Repr

end Url

/-- A URL. Without an authority its path may be any text. -/
structure Url where
  scheme : String
  authority : Option Url.Authority
  path : List Char
  query : Option (List Char)
  fragment : Option (List Char)
deriving DecidableEq, Repr

namespace Url

/-! ## Schemes -/

/-- The schemes of the web with their default ports. -/
def webPorts : List (String × Nat) :=
  [("http", 80), ("https", 443), ("ws", 80), ("wss", 443), ("ftp", 21)]

/-- What a scheme leads to: the web with a default port, files, or anything else. -/
inductive Kind
  | web (port : Nat)
  | file
  | other
deriving DecidableEq, Repr

def kind (scheme : String) : Kind :=
  match webPorts.lookup scheme with
  | some port => .web port
  | none => if scheme = "file" then .file else .other

/-- The scheme in small letters, and what follows its colon. -/
def scheme? (cs : List Char) : Option (String × List Char) := do
  let (scheme, rest) ← cutFirst? ':' cs
  let isPart (c : Char) : Bool := c.isAlphanum || ['+', '-', '.'].contains c
  if scheme.head?.any Char.isAlpha && scheme.all isPart then
    some (String.ofList (scheme.map Char.toLower), rest)
  else none

/-! ## Authorities -/

/-- Cuts what stands before the last `@`. -/
def cutUser (cs : List Char) : Option (List Char) × List Char :=
  match cutFirst? '@' cs.reverse with
  | some (host, user) => (some user.reverse, host.reverse)
  | none => (none, cs)

/-- Cuts the port off a host; colons in brackets belong to the host. -/
def cutPort (inBrackets : Bool) : List Char → List Char × List Char
  | [] => ([], [])
  | c :: rest =>
    if c = ':' && !inBrackets then ([], c :: rest)
    else
      let (host, port) := cutPort (if c = '[' then true else inBrackets && c != ']') rest
      (c :: host, port)

/-- Reads a port after a host, and gives what follows it: nothing, or a backslash. -/
def port? : List Char → Option (Option Nat × List Char)
  | ':' :: cs =>
    let digits := cs.takeWhile Char.isDigit
    let rest := cs.dropWhile Char.isDigit
    if !rest.head?.all (· = '\\') then none
    else if digits = [] then some (none, rest)
    else (decimalBelow? 65536 digits).map fun n => (some n, rest)
  | cs => some (none, cs)

/-- Reads an authority of some kind, and gives what does not belong to it. Only elsewhere than on
the web may a host be empty, and then it has neither user nor port. `more` tells that the URL goes
on. -/
def authority? (kind : Kind) (more : Bool) (cs : List Char) :
    Option (Authority × List Char) := do
  let (login, cs) := cutUser cs
  let (user, password) := (cutFirst? ':' (login.getD [])).getD (login.getD [], [])
  let (hostChars, portChars) := cutPort false cs
  let (port, rest) ← port? portChars
  let authority : Authority :=
    { user := percentEncode keepInUser user, password := percentEncode keepInUser password }
  match kind with
  | .web usual =>
    let host ← webHost? hostChars
    some ({ authority with host := host, port := port.filter (· ≠ usual) }, rest)
  | _ =>
    let host ← textHost? hostChars
    let bare := user = [] ∧ password = [] ∧ portChars = [] ∧ ¬(login.isSome ∧ more ∧ cs = [])
    if host = [] ∧ ¬bare then none
    else some ({ authority with host := host, port := port }, rest)

/-! ## Reading -/

/-- Blanks and controls around a URL do not count, tabs and line ends nowhere. -/
def cleaned (cs : List Char) : List Char :=
  let outer (c : Char) : Bool := c.toNat ≤ 32
  (dropEndWhile outer (cs.dropWhile outer)).filter (· ∉ ['\t', '\n', '\r'])

def isSlash (c : Char) : Bool := c = '/' || c = '\\'

/-- The text up to the first character of some kind, and the rest. -/
def cutBefore (p : Char → Bool) (cs : List Char) : List Char × List Char :=
  (cs.takeWhile (!p ·), cs.dropWhile (!p ·))

/-- A text in which every backslash is a slash. -/
def withSlashes (cs : List Char) : List Char := cs.map fun c => if c = '\\' then '/' else c

/-- What a URL says before its query. `more` tells that there is a query or a fragment. -/
abbrev Location := Option Authority × List Char

/-- A place on the web. Any number of slashes may stand in front of it. -/
def web? (port : Nat) (more : Bool) (cs : List Char) : Option Location := do
  let (front, path) := cutBefore isSlash (cs.dropWhile isSlash)
  let (authority, rest) ← authority? (.web port) (more || path ≠ []) front
  if rest ≠ [] then none
  else some (some authority, slashed (walk false [] (segments (withSlashes path))))

/-- The host of a file. The drive of a path is no host, and the own host goes without saying. -/
def fileHost? (cs : List Char) : Option (List Char × List Char) :=
  match withSlashes (cs.take 2) with
  | ['/', '/'] =>
    let (front, path) := cutBefore isSlash (cs.drop 2)
    if isDrive front then some ([], cs.drop 2)
    else if front = [] then some ([], path)
    else
      (webHost? front).map fun host =>
        (if host = "localhost".toList then [] else host, path)
  | _ => some ([], cs)

/-- A file. A path that starts with a drive has no host. -/
def file? (cs : List Char) : Option Location := do
  let (host, path) ← fileHost? cs
  let walked := walk true [] (segments (withSlashes path))
  let host := if walked.head?.any isDrive then [] else host
  some (some { host := host }, slashed (fileSegments walked))

/-- Anything else. Two slashes tell of an authority, one of a path, and the rest is a text. -/
def other? (more : Bool) : List Char → Option Location
  | '/' :: '/' :: cs => do
    let (front, path) := cutBefore (· = '/') cs
    let (authority, rest) ← authority? .other (more || path ≠ []) front
    let path := rest ++ path
    some (some authority, if path = [] then [] else slashed (walk false [] (segments path)))
  | '/' :: cs => some (none, slashed (walk false [] (segments ('/' :: cs))))
  | cs => some (none, percentEncode isPlain cs)

/-- Reads a URL with its scheme. -/
def parse? (text : String) : Option Url := do
  let (scheme, rest) ← scheme? (cleaned text.toList)
  let (rest, fragment) := match cutFirst? '#' rest with
    | some (rest, fragment) => (rest, some fragment)
    | none => (rest, none)
  let (rest, query) := match cutFirst? '?' rest with
    | some (rest, query) => (rest, some query)
    | none => (rest, none)
  let kind := kind scheme
  let more := query.isSome || fragment.isSome
  let (authority, path) ← match kind with
    | .web port => web? port more rest
    | .file => file? rest
    | .other => other? more rest
  some
    { scheme := scheme
      authority := authority
      path := path
      query := query.map (percentEncode (keepInQuery (kind ≠ .other)))
      fragment := fragment.map (percentEncode keepInFragment) }

/-! ## Writing -/

def Authority.toChars (a : Authority) : List Char :=
  let login :=
    if a.user = [] ∧ a.password = [] then []
    else if a.password = [] then a.user ++ ['@']
    else a.user ++ ':' :: a.password ++ ['@']
  '/' :: '/' :: login ++ a.host ++ (a.port.elim [] fun n => ':' :: decimal n)

/-- The text of a URL. A path that starts with two slashes gets a dot in front where it could be
taken for an authority. -/
def toChars (u : Url) : List Char :=
  let front := match u.authority with
    | some a => a.toChars
    | none => if ['/', '/'].isPrefixOf u.path then ['/', '.'] else []
  u.scheme.toList ++ ':' :: front ++ u.path
    ++ (u.query.elim [] ('?' :: ·)) ++ (u.fragment.elim [] ('#' :: ·))

def text (u : Url) : String := String.ofList u.toChars

instance : ToString Url := ⟨text⟩

/-! ## Requests over HTTP -/

/-- The user who is named in a URL, unless the name is no text. -/
def Authority.names (a : Authority) : Bool :=
  match decodedText? a.user with
  | none => false
  | some user => user ≠ [] || (a.password ≠ [] && (decodedText? a.password).isSome)

/-- A URL without the user that it names. -/
def anonymous (u : Url) : Url :=
  { u with
    authority := u.authority.map fun a =>
      if a.names then { a with user := [], password := [] } else a }

/-- The longest URL that is sent. -/
def lengthLimit : Nat := 65534

/-- A URL that a request can be sent to: it leads over HTTP to a host whose name has no character
that is refused there. -/
def isSendable (u : Url) : Bool :=
  (u.scheme = "http" || u.scheme = "https")
    && u.authority.any (fun a => a.host ≠ [] && !a.host.any "\"`\x7b\x7d".toList.contains)
    && u.toChars.length ≤ lengthLimit

end Url

end Inventory
