import BusNetwork.Proofs.Bus
import BusNetwork.Proofs.Quantity.Exact
import BusNetwork.Proofs.Route.Comparison

/-!
# Rides as walks, in exact arithmetic

Where nothing is rounded it does not matter from where a road is measured: between two positions of
a bus it is as long as the hops between them, whatever was covered before (`roadTo?_of_walk`).

So **a ride is a walk along a part of a traversal** (`Catalogue.Rides`, `Catalogue.rides_iff`), and
neither the bus nor the positions matter for what it takes.
-/

set_option linter.unusedSectionVars false

namespace BusNetwork

open Quantity

/-! ## Items of a list and those between them -/

section

variable {β : Type} {items : List β} {s t : β} {i j : Nat}

/-- An item at a position stands between the items before it and those after it. -/
theorem getElem?_eq_some_iff_append :
    items[i]? = some s ↔ ∃ before after, items = before ++ s :: after ∧ before.length = i := by
  constructor
  · intro h
    obtain ⟨hlt, rfl⟩ := List.getElem?_eq_some_iff.1 h
    refine ⟨items.take i, items.drop (i + 1), ?_, List.length_take_of_le hlt.le⟩
    rw [List.cons_getElem_drop_succ, List.take_append_drop]
  · rintro ⟨before, after, rfl, rfl⟩
    simp

/-- Two items at positions have items before, between and after them. -/
theorem getElem?_eq_some_iff_between :
    (i < j ∧ items[i]? = some s ∧ items[j]? = some t) ↔ ∃ before between after,
      items = before ++ s :: (between ++ t :: after) ∧ before.length = i ∧
        before.length + (between.length + 1) = j := by
  constructor
  · rintro ⟨hij, hi, hj⟩
    obtain ⟨before, rest, rfl, rfl⟩ := getElem?_eq_some_iff_append.1 hi
    obtain ⟨k, rfl⟩ := Nat.exists_eq_add_of_lt hij
    rw [List.getElem?_append_right (by omega), Nat.add_assoc, Nat.add_sub_cancel_left,
      List.getElem?_cons_succ] at hj
    obtain ⟨between, after, rfl, rfl⟩ := getElem?_eq_some_iff_append.1 hj
    exact ⟨before, between, after, rfl, rfl, by omega⟩
  · rintro ⟨before, between, after, rfl, rfl, rfl⟩
    refine ⟨by omega, by simp, ?_⟩
    rw [List.getElem?_append_right (by omega), Nat.add_sub_cancel_left, List.getElem?_cons_succ]
    simp

/-- There is one hop fewer along items than there are items. -/
theorem length_hopsAlong (items : List β) : (hopsAlong items).length = items.length - 1 := by
  simp [hopsAlong]

end

variable {K : Type} [Field K] [LinearOrder K] [IsStrictOrderedRing K] [Readout K]
  {settings settings' : Settings K} {c c' : Catalogue K} {line : Bus}

/-! ## Roads -/

namespace Catalogue

/-- All hops of all buses have a length. -/
def RoadsKnown (c : Catalogue K) : Prop :=
  ∀ bus name line, c.buses.at? bus = some (name, line) →
    ∀ hop ∈ line.hops, ∃ meters, c.distance? hop.1 hop.2 = some meters

/-- The length of a hop, and zero if it is not known. -/
def hopLength (c : Catalogue K) (hop : StopId × StopId) : K := (c.distance? hop.1 hop.2).getD 0

/-- The road along a line of stops. -/
def roadLength (c : Catalogue K) (walk : List StopId) : K :=
  ((hopsAlong walk).map c.hopLength).sum

/-- Covering hops of known lengths adds their lengths to what was covered. -/
theorem foldlM_addHop?_eq {hops : List (StopId × StopId)}
    (h : ∀ hop ∈ hops, ∃ meters, c.distance? hop.1 hop.2 = some meters) (covered : K) :
    hops.foldlM c.addHop? covered = some (covered + (hops.map c.hopLength).sum) := by
  induction hops generalizing covered with
  | nil => simp
  | cons hop rest ih =>
      rw [List.forall_mem_cons] at h
      obtain ⟨meters, hmeters⟩ := h.1
      have hhop : c.addHop? covered hop = some (covered + c.hopLength hop) := by
        rw [addHop?, hopLength, hmeters]
        rfl
      rw [List.foldlM_cons, hhop, List.map_cons, List.sum_cons, ← add_assoc]
      exact ih h.2 _

/-- The road to a position is the road along the stops up to it. -/
theorem roadTo?_of_append (h : ∀ hop ∈ line.hops, ∃ meters, c.distance? hop.1 hop.2 = some meters)
    {before after : List StopId} {s : StopId} (hline : line.traversal = before ++ s :: after) :
    c.roadTo? line before.length = some (c.roadLength (before ++ [s])) := by
  have hhops : line.hops = hopsAlong (before ++ [s]) ++ hopsAlong (s :: after) := by
    rw [← hopsAlong_append_cons, ← hline]
    rfl
  have htake : line.hops.take before.length = hopsAlong (before ++ [s]) := by
    rw [hhops]
    exact List.take_left' (by simp [length_hopsAlong])
  rw [roadTo?, htake, foldlM_addHop?_eq fun hop hmem => h hop (List.mem_of_mem_take (htake ▸ hmem))]
  rw [Exact.zero_eq, zero_add]
  rfl

/-- A road goes on where it has led. -/
theorem roadLength_append_cons (c : Catalogue K) (before : List StopId) (s : StopId)
    (after : List StopId) : c.roadLength (before ++ s :: after) =
      c.roadLength (before ++ [s]) + c.roadLength (s :: after) := by
  unfold roadLength
  rw [hopsAlong_append_cons, List.map_append, List.sum_append]

/-- The roads to the two ends of a walk differ by the road along it. -/
theorem roadTo?_of_walk (h : ∀ hop ∈ line.hops, ∃ meters, c.distance? hop.1 hop.2 = some meters)
    {before between after : List StopId} {s t : StopId}
    (hline : line.traversal = before ++ s :: (between ++ t :: after)) :
    c.roadTo? line before.length = some (c.roadLength (before ++ [s])) ∧
      c.roadTo? line (before.length + (between.length + 1)) =
        some (c.roadLength (before ++ [s]) + c.roadLength (s :: (between ++ [t]))) := by
  refine ⟨roadTo?_of_append h hline, ?_⟩
  have hline' : line.traversal = (before ++ s :: between) ++ t :: after := by
    rw [hline, List.append_assoc, List.cons_append]
  have hroad := roadTo?_of_append h hline'
  rw [List.append_assoc, List.cons_append, roadLength_append_cons, List.length_append,
    List.length_cons] at hroad
  exact hroad

/-- A bus rides from one stop to another over a road of so many meters: it passes the stops between
them on its traversal. -/
def Rides (c : Catalogue K) (s t : StopId) (meters : K) : Prop :=
  ∃ bus name line between, c.buses.at? bus = some (name, line) ∧
    s :: (between ++ [t]) <:+: line.traversal ∧ c.roadLength (s :: (between ++ [t])) = meters

/-- **Rides are walks along a part of a traversal.** -/
theorem rides_iff (hroads : c.RoadsKnown) {s t : StopId} {meters : K} : c.Rides s t meters ↔
    ∃ bus name line i j x y, c.buses.at? bus = some (name, line) ∧ i < j ∧
      line.traversal[i]? = some s ∧ line.traversal[j]? = some t ∧ c.roadTo? line i = some x ∧
      c.roadTo? line j = some y ∧ y - x = meters := by
  constructor
  · rintro ⟨bus, name, line, between, hbus, ⟨before, after, hline⟩, rfl⟩
    have hline' : line.traversal = before ++ s :: (between ++ t :: after) := by
      rw [← hline]
      simp
    obtain ⟨hij, hi, hj⟩ := getElem?_eq_some_iff_between.2
      ⟨before, between, after, hline', rfl, rfl⟩
    obtain ⟨hx, hy⟩ := roadTo?_of_walk (hroads bus name line hbus) hline'
    exact ⟨bus, name, line, _, _, _, _, hbus, hij, hi, hj, hx, hy, add_sub_cancel_left _ _⟩
  · rintro ⟨bus, name, line, i, j, x, y, hbus, hij, hi, hj, hx, hy, rfl⟩
    obtain ⟨before, between, after, hline, rfl, rfl⟩ :=
      getElem?_eq_some_iff_between.1 ⟨hij, hi, hj⟩
    obtain ⟨hx', hy'⟩ := roadTo?_of_walk (hroads bus name line hbus) hline
    obtain rfl := Option.some.inj (hx'.symm.trans hx)
    obtain rfl := Option.some.inj (hy'.symm.trans hy)
    refine ⟨bus, name, line, between, hbus, ⟨before, after, ?_⟩, (add_sub_cancel_left _ _).symm⟩
    rw [hline]
    simp

end Catalogue

end BusNetwork
