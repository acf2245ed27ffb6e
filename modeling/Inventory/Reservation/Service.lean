-- Lock services as their clients see them: three requests, each answered at
-- once. An answer refuses single components in its outcome; an error means
-- that the request as a whole failed.
import Inventory.Reservation.Lease
import Inventory.Reservation.Time

namespace Inventory.Reservation

/-- Lock `ids` for `duration`. -/
structure CreateRequest where
  ids : List String
  model : Model
  duration : Duration
deriving DecidableEq, Repr

/-- Let held locks end `duration` from now. -/
structure RenewRequest where
  keys : List OwnerKey
  model : Model
  duration : Duration
deriving DecidableEq, Repr

/-- Give held locks up. -/
structure ReleaseRequest where
  keys : List OwnerKey
  model : Model
deriving DecidableEq, Repr

/-- A service with states `σ`. -/
structure Service (σ τ : Type) where
  create : CreateRequest → σ → Except Error (Grant τ) × σ
  renew : RenewRequest → σ → Except Error Outcome × σ
  release : ReleaseRequest → σ → Except Error Outcome × σ

end Inventory.Reservation
