-- Endpoints as operators and loaders describe them: any field may be missing.
-- The password is taken in and never shown.
import Inventory.Text.Quoted

namespace Inventory

open Text

/-- A management endpoint before it is resolved. -/
structure EndpointSpec where
  id : Option String := none
  fqdn : Option String := none
  hostname : Option String := none
  domain : Option String := none
  user : Option String := none
  password : Option String := none
  macAddr : Option String := none
  ipAddr : Option String := none
  enabled : Option Bool := none
deriving DecidableEq

/-- The login of a controller. -/
structure Credentials where
  user : String
  password : String
deriving DecidableEq

/-! ## Records in log lines -/

/-- A record in one line: its name, and its fields in braces. -/
def showRecord (name : String) (fields : List (String × String)) : String :=
  let body := ", ".intercalate (fields.map fun f => f.1 ++ ": " ++ f.2)
  name ++ " \x7b " ++ body ++ " \x7d"

def showOption : Option String → String
  | none => "None"
  | some shown => "Some(" ++ shown ++ ")"

def showBool (b : Bool) : String := if b then "true" else "false"

/-- What stands for a password wherever one would be shown. -/
def redacted : String := "<redacted>"

def Credentials.shown (c : Credentials) : String :=
  showRecord "Credentials" [("user", quoteText c.user), ("password", quoteText redacted)]

def EndpointSpec.shown (s : EndpointSpec) : String :=
  let quoted (field : Option String) : String := showOption (field.map quoteText)
  showRecord "RawEndpointSpec"
    [("id", quoted s.id), ("fqdn", quoted s.fqdn), ("hostname", quoted s.hostname),
      ("domain", quoted s.domain), ("user", quoted s.user),
      ("password", quoted (s.password.map fun _ => redacted)),
      ("mac_addr", quoted s.macAddr), ("ip_addr", quoted s.ipAddr),
      ("enabled", showOption (s.enabled.map showBool))]

end Inventory
