import BusNetwork.Settings
import Mathlib.Tactic.Common

/-!
# The laws of journey times

A search for the fastest journey compares and adds. What it needs of the numbers is little, and
**nothing here says that sums are exact**: an addition that rounds has all these laws.

* `AtMost x y` — `x` is less than `y` or equal to it by value. The undefined quantity, which
  differs from itself, is at most nothing; `IsNumber` says that a quantity is another one.
* `OrderedQuantity` — `AtMost` is a total order on numbers, a sum of amounts is at least its first
  part, and adding the same amount keeps the order. It is what optimality needs.
* `TravelQuantity` — besides, a road length divided by a speed is no negative number. It is what
  makes the ride times of a catalogue amounts.

Sums that start from zero are never negative zero. `zero + x = x` says so of a quantity `x`, and
for such quantities equality by value is equality.
-/

namespace BusNetwork

namespace Quantity

variable {α : Type} [Quantity α]

/-- One quantity is less than another or equal to it by value. -/
def AtMost (x y : α) : Prop := x < y ∨ (x == y) = true

/-- A quantity that equals itself, as all but the undefined one do. -/
def IsNumber (x : α) : Prop := (x == x) = true

/-- Whether one quantity is at most another is decided by two comparisons. -/
instance (x y : α) : Decidable (AtMost x y) :=
  inferInstanceAs (Decidable (x < y ∨ (x == y) = true))

/-- Whether a quantity is a number is decided by comparing it with itself. -/
instance (x : α) : Decidable (IsNumber x) := inferInstanceAs (Decidable ((x == x) = true))

end Quantity

open Quantity

/-- The laws of order and addition that a search for least totals rests on. -/
class OrderedQuantity (α : Type) [Quantity α] : Prop where
  /-- Only numbers are compared. -/
  isNumber_of_atMost {x y : α} : AtMost x y → IsNumber x ∧ IsNumber y
  /-- Any two numbers are comparable. -/
  atMost_total {x y : α} : IsNumber x → IsNumber y → AtMost x y ∨ AtMost y x
  /-- The order is transitive. -/
  atMost_trans {x y z : α} : AtMost x y → AtMost y z → AtMost x z
  /-- The strict order is the order without equality. -/
  lt_iff {x y : α} : x < y ↔ AtMost x y ∧ ¬ AtMost y x
  /-- Equality by value is the order in both directions. -/
  beq_iff {x y : α} : (x == y) = true ↔ AtMost x y ∧ AtMost y x
  /-- Zero is finite. -/
  isFinite_zero : isFinite (zero : α) = true
  /-- A finite quantity is a number. -/
  isNumber_of_isFinite {x : α} : isFinite x = true → IsNumber x
  /-- What lies between zero and a finite quantity is finite. -/
  isFinite_of_atMost {x y : α} : AtMost zero x → AtMost x y → isFinite y = true → isFinite x = true
  /-- A finite quantity is below infinity. -/
  isBelowInfinity_of_isFinite {x : α} : isFinite x = true → isBelowInfinity x = true
  /-- What is below infinity is a number. -/
  isNumber_of_isBelowInfinity {x : α} : isBelowInfinity x = true → IsNumber x
  /-- An amount below infinity is finite. -/
  isFinite_of_isBelowInfinity {x : α} :
    AtMost zero x → isBelowInfinity x = true → isFinite x = true
  /-- Only numbers add up to a number. -/
  isNumber_of_add {x y : α} : IsNumber (x + y) → IsNumber x ∧ IsNumber y
  /-- A sum of amounts is at least its first part. -/
  atMost_add {x w : α} : AtMost zero x → AtMost zero w → AtMost x (x + w)
  /-- Adding the same amount keeps the order. -/
  add_atMost_add {x y w : α} : AtMost zero x → AtMost zero w → AtMost x y → AtMost (x + w) (y + w)
  /-- Zero is not negative zero. -/
  zero_add_zero : (zero + zero : α) = zero
  /-- A sum of amounts that starts from one that is not negative zero is not negative zero. -/
  zero_add_add {x w : α} : AtMost zero x → AtMost zero w → zero + x = x → zero + (x + w) = x + w
  /-- Away from negative zero, equal values are the same quantity. -/
  eq_of_beq {x y : α} : zero + x = x → zero + y = y → (x == y) = true → x = y

/-- The laws of order and addition, and the signs of the operations that make a road length a ride
time. -/
class TravelQuantity (α : Type) [Quantity α] : Prop extends OrderedQuantity α where
  /-- A whole number is not negative. -/
  zero_atMost_ofNat (n : Nat) : AtMost (zero : α) (ofNat n)
  /-- The difference of an amount and a smaller one is not negative. -/
  zero_atMost_sub {x y : α} : AtMost zero x → AtMost x y → IsNumber (y - x) → AtMost zero (y - x)
  /-- Only a number divides to a number. -/
  isNumber_of_div {x y : α} : IsNumber (x / y) → IsNumber x
  /-- An amount over a positive speed, taken in other units, is not negative. -/
  zero_atMost_div {x v : α} : AtMost zero x → isFinite v = true → zero < v →
    IsNumber (x / (v * ofNat 1000 / ofNat 60)) → AtMost zero (x / (v * ofNat 1000 / ofNat 60))

namespace Quantity

variable {α : Type} [Quantity α]

/-! ## Comparing -/

/-- A number is at most itself. -/
theorem IsNumber.atMost_self {x : α} (h : IsNumber x) : AtMost x x := .inr h

section ordered

variable [OrderedQuantity α] {x y z w : α}

/-- What is at most something is a number. -/
theorem AtMost.left (h : AtMost x y) : IsNumber x := (OrderedQuantity.isNumber_of_atMost h).1

/-- What something is at most is a number. -/
theorem AtMost.right (h : AtMost x y) : IsNumber y := (OrderedQuantity.isNumber_of_atMost h).2

/-- The order of quantities passes along. -/
theorem AtMost.trans (hxy : AtMost x y) (hyz : AtMost y z) : AtMost x z :=
  OrderedQuantity.atMost_trans hxy hyz

/-- A number that is not greater is at most. -/
theorem atMost_of_not_lt (hx : IsNumber x) (hy : IsNumber y) (h : ¬ y < x) : AtMost x y := by
  rcases OrderedQuantity.atMost_total hx hy with hxy | hyx
  · exact hxy
  · by_contra hxy
    exact h (OrderedQuantity.lt_iff.2 ⟨hyx, hxy⟩)

/-! ## Amounts -/

/-- Zero is at most itself. -/
theorem zero_atMost_zero : AtMost (zero : α) zero :=
  (OrderedQuantity.isNumber_of_isFinite OrderedQuantity.isFinite_zero).atMost_self

/-- A finite quantity that is not below zero is an amount. -/
theorem zero_atMost_of_isFinite (hx : isFinite x = true) (h : ¬ x < zero) : AtMost zero x :=
  atMost_of_not_lt zero_atMost_zero.left (OrderedQuantity.isNumber_of_isFinite hx) h

/-- The sum of two amounts is an amount. -/
theorem zero_atMost_add (hx : AtMost zero x) (hw : AtMost zero w) : AtMost zero (x + w) :=
  hx.trans (OrderedQuantity.atMost_add hx hw)

/-- Quantities that are at most each other are equal, away from negative zero. -/
theorem AtMost.antisymm (hxy : AtMost x y) (hyx : AtMost y x) (hx : zero + x = x)
    (hy : zero + y = y) : x = y :=
  OrderedQuantity.eq_of_beq hx hy (OrderedQuantity.beq_iff.2 ⟨hxy, hyx⟩)

end ordered

end Quantity

/-! ## Waits and rides -/

namespace Settings

variable {α : Type} [Quantity α] {settings : Settings α}

/-- Settings pass the check if their speed is a positive number. -/
theorem check_eq_ok_iff : settings.check = .ok () ↔
    isFinite settings.busVelocity = true ∧ zero < settings.busVelocity := by
  simp only [check]
  split <;> simp_all

variable [TravelQuantity α] {x y : α}

/-- Waiting takes no negative time. -/
theorem zero_atMost_waitMinutes : AtMost zero settings.waitMinutes :=
  TravelQuantity.zero_atMost_ofNat _

/-- A ride from one point of a road to a later one takes no negative time. -/
theorem zero_atMost_rideMinutes (hs : settings.check = .ok ()) (hx : AtMost zero x)
    (hxy : AtMost x y) (hnum : IsNumber (settings.rideMinutes (y - x))) :
    AtMost zero (settings.rideMinutes (y - x)) := by
  obtain ⟨hfinite, hpos⟩ := check_eq_ok_iff.1 hs
  have hsub : AtMost zero (y - x) :=
    TravelQuantity.zero_atMost_sub hx hxy (TravelQuantity.isNumber_of_div hnum)
  exact TravelQuantity.zero_atMost_div hsub hfinite hpos hnum

end Settings

end BusNetwork
