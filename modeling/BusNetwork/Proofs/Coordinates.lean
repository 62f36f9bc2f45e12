import BusNetwork.Proofs.Quantity.Spherical

/-!
# Distances: points on the earth are a number of meters apart

The formula for a distance reads its two points in different places, and the cosine of the angle
between them may come out beyond one. **All the same a distance between points that are accepted is
a number, the same in both directions, from zero up to the widest arc there is**
(`Accepted.soundDistance`): the terms of the cosine lie between minus one and one, which is why
their sum is a number and moving it into range gives a cosine.
-/

namespace BusNetwork

open Quantity

variable {α : Type} [Trigonometry α]

namespace Coordinates

/-- A point that a latitude and a longitude have been accepted as. -/
def Accepted (p : Coordinates α) : Prop :=
  ∃ latitude longitude, ofDegrees latitude longitude = .ok p

/-- A distance that is the same in both directions, and a number from zero up to a longest one. -/
structure SoundDistance (longest : α) (p q : Coordinates α) : Prop where
  /-- It does not matter from which point the distance is taken. -/
  comm : p.distance q = q.distance p
  /-- It is a number. -/
  isNumber : IsNumber (p.distance q)
  /-- It is not negative. -/
  zero_atMost : AtMost zero (p.distance q)
  /-- It is at most the longest one. -/
  atMost : AtMost (p.distance q) longest
  /-- Points of the same value are no way apart. -/
  eq_zero : (p.latitude == q.latitude) = true → (p.longitude == q.longitude) = true →
    p.distance q = zero

variable {p q : Coordinates α} {angle : α}

/-- Degrees are accepted exactly if both are finite and within 90 and 180 of zero. -/
theorem ofDegrees_eq_ok_iff {latitude longitude : α} :
    ofDegrees latitude longitude = .ok p ↔
      ((isFinite latitude = true ∧ isWithin 90 latitude = true) ∧
        isFinite longitude = true ∧ isWithin 180 longitude = true) ∧ ⟨latitude, longitude⟩ = p := by
  unfold ofDegrees
  cases isFinite latitude <;> cases isFinite longitude <;> cases isWithin 90 latitude <;>
    cases isWithin 180 longitude <;> simp

/-- The points that are accepted are those with both numbers finite and in range. -/
theorem accepted_iff : p.Accepted ↔
    (isFinite p.latitude = true ∧ isWithin 90 p.latitude = true) ∧
      isFinite p.longitude = true ∧ isWithin 180 p.longitude = true := by
  constructor
  · rintro ⟨latitude, longitude, h⟩
    obtain ⟨hrange, rfl⟩ := ofDegrees_eq_ok_iff.1 h
    exact hrange
  · intro hrange
    exact ⟨p.latitude, p.longitude, ofDegrees_eq_ok_iff.2 ⟨hrange, rfl⟩⟩

variable [SphericalQuantity α]

/-- The cosine of the angle between two points does not depend on which comes first. -/
theorem cosAngle_comm (p q : Coordinates α) : p.cosAngle q = q.cosAngle p := by
  unfold cosAngle
  rw [SphericalQuantity.mul_comm (Trigonometry.sin (p.latitude * degree)),
    SphericalQuantity.mul_comm (Trigonometry.cos (p.latitude * degree)),
    SphericalQuantity.abs_sub_comm]

/-- Nor does the distance. -/
theorem distance_comm (p q : Coordinates α) : p.distance q = q.distance p := by
  have hbeq : ∀ x y : α, (x == y) = (y == x) := by
    intro x y
    rw [Bool.eq_iff_iff, OrderedQuantity.beq_iff, OrderedQuantity.beq_iff, and_comm]
  unfold distance
  rw [cosAngle_comm, hbeq p.latitude, hbeq p.longitude]

/-- **The cosine of the angle between points is a number**, perhaps not of any angle. -/
theorem Accepted.isNumber_cosAngle (hp : p.Accepted) (hq : q.Accepted) :
    IsNumber (p.cosAngle q) := by
  obtain ⟨⟨hlatitude, hpole⟩, hlongitude, hmeridian⟩ := accepted_iff.1 hp
  obtain ⟨⟨hlatitude', hpole'⟩, hlongitude', hmeridian'⟩ := accepted_iff.1 hq
  have hangle : isFinite (p.latitude * degree) = true :=
    SphericalQuantity.isFinite_latitude hlatitude hpole
  have hangle' : isFinite (q.latitude * degree) = true :=
    SphericalQuantity.isFinite_latitude hlatitude' hpole'
  have hapart : isFinite (Trigonometry.abs (p.longitude - q.longitude) * degree) = true :=
    SphericalQuantity.isFinite_longitudes hlongitude hlongitude' hmeridian hmeridian'
  have hsines := SphericalQuantity.within_mul (SphericalQuantity.within_sin hangle)
    (SphericalQuantity.within_sin hangle')
  have hcosines := SphericalQuantity.within_mul (SphericalQuantity.within_cos hangle)
    (SphericalQuantity.within_cos hangle')
  exact SphericalQuantity.isNumber_add hsines
    (SphericalQuantity.within_mul hcosines (SphericalQuantity.within_cos hapart))

/-- A distance is nothing, or it is the arc of an angle that has a cosine. -/
theorem Accepted.distance_cases (hp : p.Accepted) (hq : q.Accepted) : p.distance q = zero ∨
    ∃ x, Within one x ∧ p.distance q = Trigonometry.acos x * earthRadius := by
  unfold distance
  split
  · exact .inl rfl
  · exact .inr ⟨_, between_clamp SphericalQuantity.neg_one_atMost_one
      (hp.isNumber_cosAngle hq), rfl⟩

/-- An arc is an amount. -/
theorem zero_atMost_arc {x : α} (hx : Within one x) :
    AtMost zero (Trigonometry.acos x * earthRadius) := by
  have hacos : AtMost zero (Trigonometry.acos x) := SphericalQuantity.zero_atMost_acos hx
  exact (SphericalQuantity.mul_earthRadius hacos hacos.right.atMost_self).1

/-- A distance is an amount. -/
theorem Accepted.zero_atMost_distance (hp : p.Accepted) (hq : q.Accepted) :
    AtMost zero (p.distance q) := by
  rcases hp.distance_cases hq with hzero | ⟨x, hx, hdistance⟩
  · rw [hzero]
    exact zero_atMost_zero
  · rw [hdistance]
    exact zero_atMost_arc hx

/-- A distance is at most the widest arc. -/
theorem Accepted.distance_atMost (hp : p.Accepted) (hq : q.Accepted) (hangle : IsWidest angle) :
    AtMost (p.distance q) (angle * earthRadius) := by
  rcases hp.distance_cases hq with hzero | ⟨x, hx, hdistance⟩
  · obtain ⟨y, hy, rfl⟩ := hangle.exists_cosine
    rw [hzero]
    exact zero_atMost_arc hy
  · rw [hdistance]
    exact (SphericalQuantity.mul_earthRadius (SphericalQuantity.zero_atMost_acos hx)
      (hangle.acos_atMost hx)).2

/-- **Between points that are accepted every distance is sound.** -/
theorem Accepted.soundDistance (hp : p.Accepted) (hq : q.Accepted) (hangle : IsWidest angle) :
    SoundDistance (angle * earthRadius) p q := by
  have hzero : AtMost zero (p.distance q) := hp.zero_atMost_distance hq
  refine ⟨distance_comm p q, hzero.right, hzero, hp.distance_atMost hq hangle, ?_⟩
  intro hlatitude hlongitude
  unfold distance
  rw [hlatitude, hlongitude]
  rfl

end Coordinates

end BusNetwork
