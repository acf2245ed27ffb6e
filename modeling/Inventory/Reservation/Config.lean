-- Settings of a reservation client: where its lock service is, and how long
-- its leases are and when they are renewed.
import Inventory.Text.Blank
import Inventory.Text.Number
import Inventory.Reservation.Time

namespace Inventory.Reservation

open Text

structure Config where
  baseUrl : String := "http://localhost:27779"
  path : String := "/hsm/v2/locks/service/reservations"
  serviceName : String := "redfish-identity"
  renewIntervalSecs : UInt64 := 10
  renewMarginSecs : UInt64 := 30
  leaseDurationSecs : UInt64 := 60
  timeoutSecs : UInt64 := 30
deriving DecidableEq, Repr

namespace Config

/-- How often a client looks for leases to renew: once a second at most. -/
def renewInterval (c : Config) : Duration := seconds (max 1 c.renewIntervalSecs.toNat)

/-- A lease that ends within this time is renewed. -/
def renewMargin (c : Config) : Duration := seconds c.renewMarginSecs.toNat

def leaseDuration (c : Config) : Duration := seconds c.leaseDurationSecs.toNat

def timeout (c : Config) : Duration := seconds c.timeoutSecs.toNat

/-- The URL of the reservations. -/
def endpoint (c : Config) : String :=
  String.ofList (dropEndWhile (· == '/') c.baseUrl.toList) ++ c.path

theorem renewInterval_pos (c : Config) : 0 < c.renewInterval :=
  Nat.mul_pos (Nat.lt_of_lt_of_le Nat.one_pos (Nat.le_max_left ..)) (by decide)

/-! ## Environment -/

inductive Error
  | invalidValue (var value : String)
deriving DecidableEq, Repr

def Error.message : Error → String
  | .invalidValue var value => s!"Invalid value for {var}: {value}"

/-- A number of seconds with 64 bits, blanks around it and a plus sign allowed. -/
def secondsOfText? (value : String) : Option UInt64 :=
  (signedDecimalBelow? UInt64.size (trimChars value.toList)).map UInt64.ofNat

def envSeconds (lookup : String → Option String) (var : String) (default : UInt64) :
    Except Error UInt64 :=
  match lookup var with
  | none => .ok default
  | some value =>
    match secondsOfText? value with
    | some n => .ok n
    | none => .error (.invalidValue var value)

/-- Reads the settings from environment variables; one that is not set has its default. -/
def ofEnv (lookup : String → Option String) : Except Error Config := do
  let defaults : Config := {}
  let renewInterval ← envSeconds lookup "RESERVATION_RENEW_INTERVAL" defaults.renewIntervalSecs
  let renewMargin ← envSeconds lookup "RESERVATION_RENEW_MARGIN" defaults.renewMarginSecs
  let leaseDuration ← envSeconds lookup "RESERVATION_LEASE_DURATION" defaults.leaseDurationSecs
  let timeout ← envSeconds lookup "RESERVATION_TIMEOUT" defaults.timeoutSecs
  return {
    baseUrl := (lookup "RESERVATION_URL").getD defaults.baseUrl
    path := (lookup "RESERVATION_PATH").getD defaults.path
    serviceName := (lookup "RESERVATION_SERVICE").getD defaults.serviceName
    renewIntervalSecs := renewInterval
    renewMarginSecs := renewMargin
    leaseDurationSecs := leaseDuration
    timeoutSecs := timeout }

end Config

end Inventory.Reservation
