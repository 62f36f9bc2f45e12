import BusNetwork.Proofs.Route.Comparison

/-!
# A road that is recorded where only the way back was

Until a length is recorded from one stop to another, buses that ride there use the length of the way
back. Recording one changes their roads, and with them all rides that pass there.

* `roadBetween?` — the road between two positions of a bus, and `AddsUp`, which says of a bus that
  each of these is the difference of the roads from its start, to the last bit. Ride times are made
  of those differences.
* **A length that is at most the one that was used slows no connection, where roads add up**
  (`Reachable.exists_route_setDistance`). A bus that does not ride there keeps its roads.

Neither condition can be left out (`slowedBy_platforms_and_islands`): the length recorded counts
even if it is longer than the way back, and a shorter road can lead to a longer difference when the
roads from the start are rounded.
-/

set_option linter.unusedSectionVars false

namespace BusNetwork

open Quantity

variable {α : Type} [Quantity α] {settings : Settings α} {c c' : Catalogue α} {line : Bus}
  {a b : StopId} {meters x y : α} {i j : Nat}

namespace Catalogue

/-! ## Roads between positions -/

/-- The road of a bus from one position of its traversal to a later one, summed up from left to
right and starting from zero. -/
def roadBetween? (c : Catalogue α) (line : Bus) (i j : Nat) : Option α :=
  ((line.hops.take j).drop i).foldlM c.addHop? zero

/-- Between any two positions of a bus the road is the difference of those from its start. -/
def AddsUp (c : Catalogue α) (line : Bus) : Prop :=
  ∀ j < line.traversal.length, ∀ i < j, c.roadBetween? line i j = (do
    let x ← c.roadTo? line i
    let y ← c.roadTo? line j
    some (y - x))

/-- Whether roads add up is checked between all pairs of positions. -/
instance [DecidableEq α] (c : Catalogue α) (line : Bus) : Decidable (c.AddsUp line) :=
  inferInstanceAs (Decidable (∀ j < line.traversal.length, ∀ i < j, c.roadBetween? line i j = (do
    let x ← c.roadTo? line i
    let y ← c.roadTo? line j
    some (y - x))))

/-- The road between two positions of a bus whose roads add up is the difference of those from its
start. -/
theorem AddsUp.roadBetween?_eq (h : c.AddsUp line) (hij : i < j) (hj : j < line.traversal.length)
    (hx : c.roadTo? line i = some x) (hy : c.roadTo? line j = some y) :
    c.roadBetween? line i j = some (y - x) := by
  rw [h j hj i hij, hx, hy]
  rfl

/-! ## What a new length changes -/

/-- The length recorded counts for its hop, and any other hop that had a length has it still. -/
theorem distance?_setDistance (hnew : c.distances.get? (a, b) = none)
    (hdistances : c'.distances = (c.distances.put (a, b) fun _ => meters).2) {p q : StopId} {m : α}
    (h : c.distance? p q = some m) :
    ((p, q) = (a, b) ∧ c.distances.get? (b, a) = some m ∧ c'.distance? p q = some meters) ∨
      ((p, q) ≠ (a, b) ∧ c'.distance? p q = some m) := by
  unfold distance? at h ⊢
  rw [hdistances]
  by_cases hhop : (p, q) = (a, b)
  · obtain ⟨rfl, rfl⟩ := Prod.mk.inj hhop
    rw [hnew, Option.none_or] at h
    rw [Register.get?_put_self, Option.some_or]
    exact .inl ⟨rfl, h, rfl⟩
  · refine .inr ⟨hhop, ?_⟩
    rw [Register.get?_put_of_ne _ hhop]
    by_cases hback : (q, p) = (a, b)
    · rw [hback, hnew, Option.or_none] at h
      rw [h, Option.some_or]
    · rw [Register.get?_put_of_ne _ hback]
      exact h

/-- A bus that does not ride from the one stop to the other keeps its roads. -/
theorem roadTo?_of_not_mem_hops (hnew : c.distances.get? (a, b) = none)
    (hdistances : c'.distances = (c.distances.put (a, b) fun _ => meters).2)
    (hride : (a, b) ∉ line.hops) (hx : c.roadTo? line i = some x) :
    c'.roadTo? line i = some x := by
  unfold roadTo? at hx ⊢
  rw [← List.map_id (line.hops.take i)]
  refine foldlM_addHop?_map (fun hop hmem m hm => ?_) hx
  rcases distance?_setDistance hnew hdistances hm with ⟨heq, -, -⟩ | ⟨-, hkept⟩
  · obtain rfl : hop = (a, b) := heq
    exact absurd (List.mem_of_mem_take hmem) hride
  · exact hkept

variable [SteadyQuantity α]

/-- Hops are no longer than they were if the length recorded is at most the one that was used. -/
theorem WellFormed.exists_distance?_setDistance (hc : c.WellFormed)
    (hnew : c.distances.get? (a, b) = none)
    (hdistances : c'.distances = (c.distances.put (a, b) fun _ => meters).2)
    (hback : ∀ back, c.distances.get? (b, a) = some back → AtMost meters back)
    {p q : StopId} {m : α} (h : c.distance? p q = some m) :
    ∃ m', c'.distance? p q = some m' ∧ AtMost m' m := by
  rcases distance?_setDistance hnew hdistances h with ⟨-, hused, hrecorded⟩ | ⟨-, hkept⟩
  · exact ⟨meters, hrecorded, hback m hused⟩
  · exact ⟨m, hkept, (hc.zero_atMost_distance h).right.atMost_self⟩

/-- Where roads add up, a ride over shorter hops is no longer. -/
theorem AddsUp.exists_ride (hc' : c'.WellFormed) (hsum : c.AddsUp line) (hsum' : c'.AddsUp line)
    (h : ∀ hop ∈ line.hops, ∀ m, c.distance? hop.1 hop.2 = some m →
      ∃ m', c'.distance? hop.1 hop.2 = some m' ∧ AtMost m' m)
    (hij : i < j) (hj : j < line.traversal.length) (hx : c.roadTo? line i = some x)
    (hy : c.roadTo? line j = some y) :
    ∃ x' y', c'.roadTo? line i = some x' ∧ c'.roadTo? line j = some y' ∧ AtMost zero (y' - x') ∧
      AtMost (y' - x') (y - x) := by
  have hroad : ∀ {hops : List (StopId × StopId)} {z : α}, (∀ hop ∈ hops, hop ∈ line.hops) →
      hops.foldlM c.addHop? zero = some z →
      ∃ z', hops.foldlM c'.addHop? zero = some z' ∧ AtMost zero z' ∧ AtMost z' z := by
    intro hops z hmem hz
    exact hc'.exists_foldlM_addHop? (fun hop hhop => h hop (hmem hop hhop)) zero_atMost_zero
      zero_atMost_zero hz
  obtain ⟨x', hx', -, -⟩ := hroad (fun _ => List.mem_of_mem_take) hx
  obtain ⟨y', hy', -, -⟩ := hroad (fun _ => List.mem_of_mem_take) hy
  obtain ⟨z', hz', hamount, hle⟩ :=
    hroad (fun _ hmem => List.mem_of_mem_take (List.mem_of_mem_drop hmem))
      (hsum.roadBetween?_eq hij hj hx hy)
  have hdifference := hsum'.roadBetween?_eq hij hj hx' hy'
  obtain rfl : y' - x' = z' := Option.some.inj (hdifference.symm.trans hz')
  exact ⟨x', y', hx', hy', hamount, hle⟩

/-- **A shorter length slows no ride, where roads add up.** -/
theorem WellFormed.noSlower_setDistance (hc : c.WellFormed) (hs : settings.check = .ok ())
    (hnew : c.distances.get? (a, b) = none)
    (hc' : c' = { c with distances := (c.distances.put (a, b) fun _ => meters).2 })
    (hwell : c'.WellFormed)
    (hrides : ∀ bus name line, c.buses.at? bus = some (name, line) → (a, b) ∈ line.hops →
      (∀ back, c.distances.get? (b, a) = some back → AtMost meters back) ∧
        c.AddsUp line ∧ c'.AddsUp line) :
    NoSlower settings settings c c' := by
  have hdistances : c'.distances = (c.distances.put (a, b) fun _ => meters).2 := by rw [hc']
  refine ⟨Settings.zero_atMost_waitMinutes.right.atMost_self, ?_, ?_⟩
  · intro stop name hname
    rw [hc']
    exact hname
  · intro bus name line i j x y hbus hij hj hx hy hfinite
    refine ⟨by rw [hc']; exact hbus, ?_⟩
    by_cases hride : (a, b) ∈ line.hops
    · obtain ⟨hback, hsum, hsum'⟩ := hrides bus name line hbus hride
      obtain ⟨x', y', hx', hy', hamount, hle⟩ := hsum.exists_ride hwell hsum'
        (fun _ _ _ => hc.exists_distance?_setDistance hnew hdistances hback) hij hj hx hy
      exact ⟨x', y', hx', hy', Settings.rideMinutes_mono hs hamount hle hfinite⟩
    · exact ⟨x, y, roadTo?_of_not_mem_hops hnew hdistances hride hx,
        roadTo?_of_not_mem_hops hnew hdistances hride hy,
        (OrderedQuantity.isNumber_of_isFinite hfinite).atMost_self⟩

/-- **A length recorded where there was none slows no connection**, if each bus that rides there has
used a length that is no smaller, and its roads add up before and after. Wherever there was a route
there is one that takes no longer. -/
theorem Reachable.exists_route_setDistance (hc : c.Reachable) {origin target : String}
    (ha : c.findStop origin = some a) (hb : c.findStop target = some b)
    (hnew : c.distances.get? (a, b) = none)
    (hset : c.setDistance origin target meters = .value c') {g g' : JourneyGraph α}
    (hg : JourneyGraph.build settings c = .value g)
    (hg' : JourneyGraph.build settings c' = .value g')
    (hrides : ∀ bus name line, c.buses.at? bus = some (name, line) → (a, b) ∈ line.hops →
      (∀ back, c.distances.get? (b, a) = some back → AtMost meters back) ∧
        c.AddsUp line ∧ c'.AddsUp line) (s t : StopId) (route : Route α)
    (hroute : g.shortestRoute c s t = .value route) :
    ∃ route', g'.shortestRoute c' s t = .value route' ∧
      AtMost route'.totalTime route.totalTime := by
  have hwell : c.WellFormed := hc.wellFormed
  have hwell' : c'.WellFormed := hwell.setDistance hset
  obtain ⟨a', b', ha', hb', -, -, hc'⟩ := setDistance_eq_value_iff.1 hset
  obtain rfl : a' = a := Option.some.inj (ha'.symm.trans ha)
  obtain rfl : b' = b := Option.some.inj (hb'.symm.trans hb)
  have hslower : NoSlower settings settings c c' :=
    hwell.noSlower_setDistance (JourneyGraph.of_build hg).1 hnew hc' hwell' hrides
  exact hslower.exists_route hwell hwell' hg hg' hroute

/-- The avenue with a short cut on the way back over its second half. -/
def avenueWithShortCut : Catalogue Float :=
  match JourneyGraph.avenueCatalogue.setDistance "Castle" "Bridge" 400 with
  | .value c => c
  | _ => .empty

/-- The journeys of the avenue with the short cut. -/
def shortCutJourneys : JourneyGraph Float :=
  match JourneyGraph.build .standard avenueWithShortCut with
  | .value g => g
  | _ => ⟨.ofVertexCount 0, #[], #[]⟩

/-- With the short cut, the way back along the avenue takes no more time than before. -/
theorem exists_route_setDistance_avenue : ∃ route,
    shortCutJourneys.shortestRoute avenueWithShortCut 2 0 = .value route ∧
      AtMost route.totalTime 8.25 := by
  have hset : JourneyGraph.avenueCatalogue.setDistance "Castle" "Bridge" 400 =
      .value avenueWithShortCut := by
    decide +kernel
  have hbuild : JourneyGraph.build .standard avenueWithShortCut = .value shortCutJourneys := by
    decide +kernel
  have hroute : JourneyGraph.avenueJourneys.shortestRoute JourneyGraph.avenueCatalogue 2 0 =
      .value ⟨8.25, [.wait "Castle" 6, .ride "1" 2 2.25]⟩ := by
    decide +kernel
  have hbuses : JourneyGraph.avenueCatalogue.buses.entries =
      [("1", ⟨[0, 1, 2], .thereAndBack⟩)] := by
    decide +kernel
  have hback : JourneyGraph.avenueCatalogue.distances.get? (1, 2) = some 500 := by decide +kernel
  have hrides : ∀ bus name line, JourneyGraph.avenueCatalogue.buses.at? bus = some (name, line) →
      ((2 : StopId), (1 : StopId)) ∈ line.hops →
      (∀ back, JourneyGraph.avenueCatalogue.distances.get? (1, 2) = some back → AtMost 400 back) ∧
        JourneyGraph.avenueCatalogue.AddsUp line ∧ avenueWithShortCut.AddsUp line := by
    intro bus name line hbus _
    have hmem := List.mem_of_getElem? hbus
    rw [hbuses, List.mem_singleton] at hmem
    obtain ⟨-, rfl⟩ := Prod.mk.inj hmem
    refine ⟨?_, by decide +kernel, by decide +kernel⟩
    intro back h
    obtain rfl : 500 = back := Option.some.inj (hback.symm.trans h)
    decide +kernel
  have hshort := JourneyGraph.reachable_avenueCatalogue.exists_route_setDistance
    (show JourneyGraph.avenueCatalogue.findStop "Castle" = some 2 by decide +kernel)
    (show JourneyGraph.avenueCatalogue.findStop "Bridge" = some 1 by decide +kernel)
    (by decide +kernel) hset JourneyGraph.build_avenueCatalogue hbuild hrides 2 0 _ hroute
  exact hshort

/-! ## Lengths that slow a connection -/

/-- A length recorded where there was none in that direction makes a connection slower. -/
def SlowedBy (settings : Settings Float) (c : Catalogue Float) (origin target : String)
    (meters : Float) (s t : StopId) : Prop :=
  ∃ a b c' g g' route route', c.Reachable ∧ c.findStop origin = some a ∧
    c.findStop target = some b ∧ c.distances.get? (a, b) = none ∧
    c.setDistance origin target meters = .value c' ∧ JourneyGraph.build settings c = .value g ∧
    JourneyGraph.build settings c' = .value g' ∧ g.shortestRoute c s t = .value route ∧
    g'.shortestRoute c' s t = .value route' ∧ ¬ AtMost route'.totalTime route.totalTime

/-- No waiting, and a kilometer a minute. -/
def express : Settings Float := ⟨0, 60⟩

/-- Two stops at one place, with the way from the second to the first recorded and a bus that leaves
the first for the second. -/
def platforms : List (BaseRequest Float) :=
  [.stop "Arrivals" 55.5 37.5 [], .stop "Departures" 55.5 37.5 [("Arrivals", 0)],
    .bus "1" ["Arrivals", "Departures"] true]

/-- Three stops, the second of them very far from the first by the way back, and a bus that leaves
the first for the second and goes on to the third. -/
def islands : List (BaseRequest Float) :=
  [.stop "Pier" 55.5 37.5 [], .stop "Island" 55.5 37.75 [("Lighthouse", 1), ("Pier", 1e17)],
    .stop "Lighthouse" 55.5 37.75 [], .bus "1" ["Pier", "Island", "Lighthouse"] true]

/-- The catalogue of a description, if it can be loaded. -/
def loaded (requests : List (BaseRequest Float)) : Catalogue Float :=
  match ofRequests requests with
  | .value c => c
  | _ => .empty

/-- The catalogue after a length was recorded, if it can be. -/
def recorded (c : Catalogue Float) (origin target : String) (meters : Float) : Catalogue Float :=
  match c.setDistance origin target meters with
  | .value c' => c'
  | _ => c

/-- The journeys of a network, if they can be built. -/
def journeys (settings : Settings Float) (c : Catalogue Float) : JourneyGraph Float :=
  match JourneyGraph.build settings c with
  | .value g => g
  | _ => ⟨.ofVertexCount 0, #[], #[]⟩

/-- The length recorded counts even if it is longer than the way back. And even if it is shorter, it
can slow a ride on which the roads from the start were rounded. -/
theorem slowedBy_platforms_and_islands :
    SlowedBy express (loaded platforms) "Arrivals" "Departures" 1000 0 1 ∧
      (loaded islands).distances.get? (1, 0) = some 1e17 ∧ AtMost (1 : Float) 1e17 ∧
      SlowedBy express (loaded islands) "Pier" "Island" 1 1 2 := by
  refine ⟨?_, by decide +kernel, by decide +kernel, ?_⟩
  · refine ⟨0, 1, recorded (loaded platforms) "Arrivals" "Departures" 1000,
      journeys express (loaded platforms),
      journeys express (recorded (loaded platforms) "Arrivals" "Departures" 1000),
      ⟨0, [.wait "Arrivals" 0, .ride "1" 1 0]⟩, ⟨1, [.wait "Arrivals" 0, .ride "1" 1 1]⟩,
      reachable_of_ofRequests (show ofRequests platforms = .value _ by decide +kernel), ?_⟩
    decide +kernel
  · refine ⟨0, 1, recorded (loaded islands) "Pier" "Island" 1,
      journeys express (loaded islands),
      journeys express (recorded (loaded islands) "Pier" "Island" 1),
      ⟨0, [.wait "Island" 0, .ride "1" 1 0]⟩, ⟨0.001, [.wait "Island" 0, .ride "1" 1 0.001]⟩,
      reachable_of_ofRequests (show ofRequests islands = .value _ by decide +kernel), ?_⟩
    decide +kernel

end Catalogue

end BusNetwork
