import BusNetwork.Quantity

/-!
# Coordinates: points on the earth and the distance between them

A point is given by latitude and longitude in decimal degrees. **The distance between two points is
the great-circle distance by the spherical law of cosines**, with two guards: equal points are
exactly zero apart, and the cosine of the angle is kept within `[-1, 1]`, which rounding can leave.
-/

namespace BusNetwork

variable {α : Type}

/-- Why a pair of numbers is no point on the earth. -/
inductive CoordinatesError where
  /-- One of the numbers is infinite or undefined. -/
  | notFinite
  /-- The latitude is beyond a pole. -/
  | latitude
  /-- The longitude is beyond the antimeridian. -/
  | longitude
  deriving Repr, DecidableEq

/-- The error in words. -/
def CoordinatesError.message : CoordinatesError → String
  | notFinite => "invalid coordinates: latitude and longitude must be finite"
  | latitude => "invalid coordinates: latitude must be within [-90, 90]"
  | longitude => "invalid coordinates: longitude must be within [-180, 180]"

/-- A point on the earth, in decimal degrees. -/
structure Coordinates (α : Type) where
  /-- Degrees north of the equator. -/
  latitude : α
  /-- Degrees east of the prime meridian. -/
  longitude : α
  deriving Repr, DecidableEq

namespace Coordinates

section

variable [Quantity α]

/-- Whether a quantity lies between `-bound` and `bound`. -/
def isWithin (bound : Nat) (x : α) : Bool :=
  !decide (x < -Quantity.ofNat bound) && !decide (Quantity.ofNat bound < x)

/-- The point with the given latitude and longitude, both of which have to be finite and in
range. -/
def ofDegrees (latitude longitude : α) : Except CoordinatesError (Coordinates α) :=
  if !Quantity.isFinite latitude || !Quantity.isFinite longitude then .error .notFinite
  else if !isWithin 90 latitude then .error .latitude
  else if !isWithin 180 longitude then .error .longitude
  else .ok ⟨latitude, longitude⟩

/-- The mean radius of the earth in meters. -/
def earthRadius : α := Quantity.ofNat 6371000

/-- One degree in radians, from ten decimals of pi. -/
def degree : α :=
  Quantity.ofNat 31415926535 / Quantity.ofNat 10000000000 / Quantity.ofNat 180

/-- A point as text: latitude, then longitude. -/
def text (p : Coordinates α) : String :=
  Quantity.text p.latitude ++ ", " ++ Quantity.text p.longitude

end

variable [Trigonometry α]

/-- The cosine of the angle between two points, seen from the centre of the earth. -/
def cosAngle (p q : Coordinates α) : α :=
  Trigonometry.sin (p.latitude * degree) * Trigonometry.sin (q.latitude * degree)
    + Trigonometry.cos (p.latitude * degree) * Trigonometry.cos (q.latitude * degree)
      * Trigonometry.cos (Trigonometry.abs (p.longitude - q.longitude) * degree)

/-- The great-circle distance between two points in meters. -/
def distance (p q : Coordinates α) : α :=
  if p.latitude == q.latitude && p.longitude == q.longitude then Quantity.zero
  else Trigonometry.acos (Quantity.clamp (-Quantity.one) Quantity.one (cosAngle p q)) * earthRadius

end Coordinates

end BusNetwork
