import BusNetwork.Proofs.Journey.Trips
import BusNetwork.Proofs.Loading

/-!
# Networks without a direction

If every bus returns over its stops and every road is as long one way as the other, each ride has a
ride back: the traversal of such a bus is the same read from its end. So **every route takes as long
as the route back** (`Reachable.takes_comm`), in exact arithmetic, where the times of a journey may
be added up from either end.

A road is as long both ways in particular if it is recorded in one direction only
(`distance?_comm_of_recorded_once`).
-/

set_option linter.unusedSectionVars false

namespace BusNetwork

/-- A bus that returns passes the same stops read from the end. -/
theorem Bus.reverse_traversal {line : Bus} (h : line.kind = .thereAndBack) :
    line.traversal.reverse = line.traversal := by
  rw [traversal, h]
  rcases line.stops.eq_nil_or_concat with hstops | ⟨before, last, hstops⟩
  · rw [hstops]
    rfl
  · rw [hstops]
    simp

namespace Catalogue

section

variable {α : Type} {c : Catalogue α}

/-- A length is recorded in an entry. -/
theorem mem_entries_of_get? {pair : StopId × StopId} {meters : α}
    (h : c.distances.get? pair = some meters) : (pair, meters) ∈ c.distances.entries := by
  obtain ⟨before, after, heq, -⟩ := List.lookup_eq_some_iff.1 h
  rw [heq]
  exact List.mem_append_right _ List.mem_cons_self

/-- Roads that are recorded in one direction only are as long in the other. -/
theorem distance?_comm_of_recorded_once (h : ∀ entry ∈ c.distances.entries,
    entry.1.1 ≠ entry.1.2 → c.distances.get? entry.1.swap = none) (a b : StopId) :
    c.distance? a b = c.distance? b a := by
  by_cases hab : a = b
  · rw [hab]
  unfold distance?
  cases hout : c.distances.get? (a, b) with
  | none => rw [Option.none_or, Option.or_none]
  | some meters =>
      have hback : c.distances.get? (b, a) = none := h _ (mem_entries_of_get? hout) hab
      rw [hback, Option.or_none, Option.none_or]

end

variable {K : Type} [Field K] [LinearOrder K] [IsStrictOrderedRing K] [Readout K]
  {settings : Settings K} {c : Catalogue K} {meters : K}

/-- The road back along stops is as long, if every hop is. -/
theorem roadLength_reverse (h : ∀ hop, c.hopLength hop.swap = c.hopLength hop)
    (walk : List StopId) : c.roadLength walk.reverse = c.roadLength walk := by
  have hback : c.hopLength ∘ Prod.swap = c.hopLength := funext h
  unfold roadLength
  rw [hopsAlong_reverse, List.map_reverse, List.sum_reverse, List.map_map, hback]

/-- **Each ride has a ride back**, if all buses return and all hops are as long both ways. -/
theorem Rides.symm (hkinds : ∀ bus name line, c.buses.at? bus = some (name, line) →
      line.kind = .thereAndBack)
    (hlengths : ∀ hop, c.hopLength hop.swap = c.hopLength hop) {s t : StopId}
    (h : c.Rides s t meters) : c.Rides t s meters := by
  obtain ⟨bus, name, line, between, hbus, hwalk, rfl⟩ := h
  have hturned : (s :: (between ++ [t])).reverse = t :: (between.reverse ++ [s]) := by simp
  refine ⟨bus, name, line, between.reverse, hbus, ?_, ?_⟩
  · rw [← hturned, ← Bus.reverse_traversal (hkinds bus name line hbus)]
    exact List.reverse_infix.2 hwalk
  · rw [← hturned]
    exact roadLength_reverse hlengths _

end Catalogue

variable {K : Type} [Field K] [LinearOrder K] [IsStrictOrderedRing K] [Readout K]
  {settings : Settings K} {c : Catalogue K} {a b : StopId} {time : K}

/-- A trip can be made back in the same time, if each ride can. -/
theorem Trip.reverse (hrides : ∀ s t meters, c.Rides s t meters → c.Rides t s meters)
    (h : Trip settings c a b time) : Trip settings c b a time := by
  induction h with
  | stay => exact .stay
  | ride _ hride ih =>
      rw [add_comm]
      exact ih.after_ride (hrides _ _ _ hride)

/-- **An undirected network is travelled equally fast both ways.** If all buses go there and back
and all roads that are known are as long in both directions, there is a route from one stop to
another exactly if there is one back, and both take the same time. -/
theorem Catalogue.Reachable.takes_comm (hc : c.Reachable)
    (hkinds : ∀ bus name line, c.buses.at? bus = some (name, line) → line.kind = .thereAndBack)
    (hdistances : ∀ x y meters, c.distance x y = .value meters → c.distance y x = .value meters)
    {g : JourneyGraph K} (hg : JourneyGraph.build settings c = .value g) (a b : StopId) (time : K) :
    g.Takes c a b time ↔ g.Takes c b a time := by
  have hwell : c.WellFormed := hc.wellFormed
  have hcomm : ∀ x y, c.distance? x y = c.distance? y x := by
    intro x y
    ext meters
    rw [← distance_eq_value_iff, ← distance_eq_value_iff]
    exact ⟨hdistances x y meters, hdistances y x meters⟩
  have hlengths : ∀ hop, c.hopLength hop.swap = c.hopLength hop := by
    rintro ⟨x, y⟩
    unfold hopLength
    rw [Prod.fst_swap, Prod.snd_swap, hcomm]
  have hback : ∀ {s t time}, Trip settings c s t time → ∃ time' ≤ time, Trip settings c t s time' :=
    fun htrip => ⟨_, le_rfl, htrip.reverse fun _ _ _ => Rides.symm hkinds hlengths⟩
  exact JourneyGraph.takes_iff_of_trips hwell hwell hg hg eq_comm (fun _ => hback) fun _ => hback

/-! ## A network that is travelled both ways -/

/-- Two lines that meet at the castle, with each road recorded in one direction. -/
def cross : List (BaseRequest ℚ) :=
  [.stop "Airport" 55 37 [("Bridge", 1000)], .stop "Bridge" 55 38 [],
    .stop "Castle" 55 39 [("Bridge", 500), ("Dock", 2000)], .stop "Dock" 55 40 [],
    .bus "1" ["Airport", "Bridge", "Castle"] false, .bus "2" ["Castle", "Dock"] false]

/-- The catalogue of the two lines. -/
def crossCatalogue : Catalogue ℚ :=
  match Catalogue.ofRequests cross with
  | .value c => c
  | _ => .empty

/-- Their journeys at standard settings. -/
def crossJourneys : JourneyGraph ℚ :=
  match JourneyGraph.build .standard crossCatalogue with
  | .value g => g
  | _ => ⟨.ofVertexCount 0, #[], #[]⟩

/-- The network of the crossing is reached by its operations. -/
theorem reachable_crossCatalogue : crossCatalogue.Reachable :=
  Catalogue.reachable_of_ofRequests
    (show Catalogue.ofRequests cross = .value crossCatalogue by decide +kernel)

/-- The journeys at the crossing are what is built of its network. -/
theorem build_crossCatalogue :
    JourneyGraph.build .standard crossCatalogue = .value crossJourneys := by
  decide +kernel

/-- It takes as long from the dock to the airport as from the airport to the dock. -/
theorem takes_comm_cross : crossJourneys.Takes crossCatalogue 3 0 (69 / 4) := by
  have hkinds : ∀ bus name line, crossCatalogue.buses.at? bus = some (name, line) →
      line.kind = .thereAndBack := by
    have hentries : ∀ entry ∈ crossCatalogue.buses.entries, entry.2.kind = .thereAndBack := by
      decide +kernel
    exact fun bus name line hbus => hentries _ (List.mem_of_getElem? hbus)
  have hdistances : ∀ x y meters, crossCatalogue.distance x y = .value meters →
      crossCatalogue.distance y x = .value meters := by
    intro x y meters
    rw [Catalogue.distance_eq_value_iff, Catalogue.distance_eq_value_iff,
      Catalogue.distance?_comm_of_recorded_once (by decide +kernel)]
    exact id
  have hout : crossJourneys.Takes crossCatalogue 0 3 (69 / 4) :=
    ⟨⟨69 / 4, [.wait "Airport" 6, .ride "1" 2 (9 / 4), .wait "Castle" 6, .ride "2" 1 3]⟩, by
      decide +kernel⟩
  exact (reachable_crossCatalogue.takes_comm hkinds hdistances build_crossCatalogue 0 3 _).1 hout

end BusNetwork
