import BusNetwork.Quantity

/-!
# Settings: how long boarding takes and how fast buses run

The same waiting time holds at every stop and the same speed on every ride. **Only the speed can be
refused**: it has to be a positive number, since ride times are road lengths divided by it.
-/

namespace BusNetwork

variable {α : Type}

/-- Why settings cannot be used. -/
inductive SettingsError where
  /-- The speed is infinite, undefined, zero or negative. -/
  | velocityNotPositive
  deriving Repr, DecidableEq

/-- The error in words. -/
def SettingsError.message : SettingsError → String
  | velocityNotPositive => "invalid routing settings: bus velocity must be a positive number"

/-- What turns road lengths into journey times. -/
structure Settings (α : Type) where
  /-- Minutes that a passenger waits at a stop before boarding. -/
  busWaitTime : Nat
  /-- The speed of every bus in kilometers an hour. -/
  busVelocity : α
  deriving Repr, DecidableEq

namespace Settings

variable [Quantity α]

/-- Six minutes of waiting and forty kilometers an hour. -/
def standard : Settings α := ⟨6, Quantity.ofNat 40⟩

/-- Refuse a speed that is no positive number. -/
def check (settings : Settings α) : Except SettingsError Unit :=
  if Quantity.isFinite settings.busVelocity && Quantity.zero < settings.busVelocity then .ok ()
  else .error .velocityNotPositive

/-- The waiting time as a quantity of minutes. -/
def waitMinutes (settings : Settings α) : α := Quantity.ofNat settings.busWaitTime

/-- The speed in meters a minute. -/
def metersPerMinute (settings : Settings α) : α :=
  settings.busVelocity * Quantity.ofNat 1000 / Quantity.ofNat 60

/-- The minutes that a ride over a road length in meters takes. -/
def rideMinutes (settings : Settings α) (meters : α) : α := meters / settings.metersPerMinute

end Settings

end BusNetwork
