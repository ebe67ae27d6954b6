import SyncPods.Settings.Basic
import SyncPods.Web.Address

/-!
# The address of error tracking

Errors are reported to an address of the web whose user is a key and whose path ends in a project.
-/

namespace SyncPods.Launch

inductive TrackingError where
  | noAddress
  | noProject
  | noKey
  | badScheme
deriving DecidableEq, Repr

def TrackingError.message : TrackingError → String
  | noAddress => "no valid url provided"
  | noProject => "empty path"
  | noKey => "username is empty"
  | badScheme => "no valid scheme"

/-- The first thing wrong with the address that errors are reported to. -/
def trackingError? (tracking : ErrorTracking) : Option TrackingError :=
  match Web.Address.ofText? tracking.dsn with
  | none => some .noAddress
  | some address =>
    if address.path.toList.all (· == '/') then some .noProject
    else if address.user.isEmpty then some .noKey
    else if address.scheme ∉ ["http", "https"] then some .badScheme
    else none

end SyncPods.Launch
