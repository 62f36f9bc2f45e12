import BusNetwork.Proofs.Journey.Trips
import BusNetwork.Proofs.Bus.Turned
import BusNetwork.Proofs.Catalogue.Gaps
import BusNetwork.Proofs.Loading

/-!
# It does not matter from which end a bus is written down

A bus that goes there and back is registered with its stops from one end or from the other. In exact
arithmetic **nobody can tell the difference** (`Reachable.exists_addBus_sameService`): the bus has
the same counts and the same length, every stop the same buses, and every route takes the same time.

`Catalogue.SameOrTurned` says of two networks that they differ in nothing but that, for any of their
buses. Each ride of the one then has a match in the other that is no longer, or it leads nowhere
(`SameOrTurned.exists_rides`).
-/

set_option linter.unusedSectionVars false

namespace BusNetwork

namespace Catalogue

/-- Two networks are the same up to the ends that buses are written down from. -/
structure SameOrTurned {α : Type} (c c' : Catalogue α) : Prop where
  /-- They have the same stops. -/
  stops_eq : c'.stops = c.stops
  /-- They have the same roads. -/
  distances_eq : c'.distances = c.distances
  /-- Each bus of the one is a bus of the other. -/
  exists_at? {bus : BusId} {name : String} {line : Bus} : c.buses.at? bus = some (name, line) →
    ∃ line', c'.buses.at? bus = some (name, line') ∧ line.SameOrTurned line'
  /-- And the other way round. -/
  exists_at?_back {bus : BusId} {name : String} {line' : Bus} :
    c'.buses.at? bus = some (name, line') →
    ∃ line, c.buses.at? bus = some (name, line) ∧ line.SameOrTurned line'

namespace SameOrTurned

variable {α : Type} {c c' : Catalogue α}

/-- Of networks that are the same up to turning, each is so of the other. -/
theorem symm (h : c.SameOrTurned c') : c'.SameOrTurned c where
  stops_eq := h.stops_eq.symm
  distances_eq := h.distances_eq.symm
  exists_at? hbus := by
    obtain ⟨line, hline, hturned⟩ := h.exists_at?_back hbus
    exact ⟨line, hline, hturned.symm⟩
  exists_at?_back hbus := by
    obtain ⟨line, hline, hturned⟩ := h.exists_at? hbus
    exact ⟨line, hline, hturned.symm⟩

/-- Networks that are the same up to turning have the same distances. -/
theorem distance?_eq (h : c.SameOrTurned c') (a b : StopId) :
    c'.distance? a b = c.distance? a b := by
  unfold distance?
  rw [h.distances_eq]

/-- Networks that are the same up to turning tell the same of every stop. -/
theorem stopInfo_eq (h : c.SameOrTurned c') (name : String) :
    c'.stopInfo name = c.stopInfo name := by
  unfold stopInfo askedStop
  rw [findStop_of_stops_eq h.stops_eq, busesAtStop_eq c', h.stops_eq, ← busesAtStop_eq]

/-- Networks are the same up to the ends of their buses if only one bus differs, and only in
that. -/
theorem of_put {bus : BusId} {name : String} {line line' : Bus} (hstops : c'.stops = c.stops)
    (hdistances : c'.distances = c.distances)
    (hput : ∀ p, c'.buses.at? p = if p = bus then some (name, line') else c.buses.at? p)
    (hbus : c.buses.at? bus = some (name, line)) (hturned : line.SameOrTurned line') :
    c.SameOrTurned c' where
  stops_eq := hstops
  distances_eq := hdistances
  exists_at? {p k l} hl := by
    by_cases hp : p = bus
    · subst hp
      obtain ⟨rfl, rfl⟩ := Prod.mk.inj (Option.some.inj (hbus.symm.trans hl))
      exact ⟨line', by rw [hput, if_pos rfl], hturned⟩
    · exact ⟨l, by rw [hput, if_neg hp, hl], .inl rfl⟩
  exists_at?_back {p k l} hl := by
    rw [hput] at hl
    split_ifs at hl with hp
    · subst hp
      obtain ⟨rfl, rfl⟩ := Prod.mk.inj (Option.some.inj hl)
      exact ⟨line, hbus, hturned⟩
    · exact ⟨l, hl, .inl rfl⟩

end SameOrTurned

/-! ## Registering a bus from the other end -/

section

variable {α : Type} [Quantity α] {c c' : Catalogue α} {bus : BusId} {name : String} {line : Bus}

/-- The index of a stop does not change when a bus is registered that lists what it listed. -/
theorem WellFormed.reindexed_eq_self (hc : c.WellFormed)
    (hbus : c.buses.at? bus = some (name, line)) {listed : List StopId}
    (hlisted : ∀ stop, stop ∈ listed ↔ stop ∈ line.stops) {p : StopId} {k : String} {s : Stop α}
    (hs : c.stops.at? p = some (k, s)) : c.reindexed name listed p s = s := by
  have hget : c.buses.get? name = some line :=
    (Register.get?_eq_some_iff hc.buses_distinct).2 ⟨bus, hbus⟩
  unfold reindexed
  split_ifs with hserved hformer
  · have hmem : name ∈ s.buses :=
      (hc.mem_buses_iff hs name).2 ⟨line, hget, (hlisted p).1 hserved⟩
    have hbuses : Ascending.insert id name s.buses = s.buses := by
      refine Ascending.eq_of_mem_iff (Ascending.pairwise_insert (hc.ascending hs))
        (hc.ascending hs) fun other => ?_
      rw [Ascending.mem_insert]
      exact ⟨fun h => h.elim (fun heq => heq ▸ hmem) id, .inr⟩
    rw [Stop.serve, hbuses]
  · obtain ⟨hstop, -⟩ := List.mem_filter.1 hformer
    rw [hget] at hstop
    exact absurd ((hlisted p).2 hstop) hserved
  · rfl

/-- The stops do not change either. -/
theorem WellFormed.stops_eq_of_reindexed (hc : c.WellFormed)
    (hbus : c.buses.at? bus = some (name, line)) {listed : List StopId}
    (hlisted : ∀ stop, stop ∈ listed ↔ stop ∈ line.stops)
    (hat : ∀ p, c'.stops.at? p = (c.stops.at? p).map (Prod.map id (c.reindexed name listed p))) :
    c'.stops = c.stops := by
  have hentries : c'.stops.entries = c.stops.entries := by
    apply List.ext_getElem?
    intro p
    refine (hat p).trans ?_
    cases hs : c.stops.at? p with
    | none => exact hs.symm
    | some entry =>
        obtain ⟨k, s⟩ := entry
        rw [Option.map_some, Prod.map_apply, hc.reindexed_eq_self hbus hlisted hs]
        exact hs.symm
  exact congrArg Register.mk hentries

/-- **Registering a there-and-back bus from its other end** gives a network that is the same up to
that. -/
theorem WellFormed.exists_addBus_reverse (hc : c.WellFormed)
    (hbus : c.buses.at? bus = some (name, line)) (hkind : line.kind = .thereAndBack) :
    ∃ stopNames c', line.stops.mapM c.stopName? = some stopNames ∧
      c.addBus name stopNames.reverse .thereAndBack = .value (bus, c') ∧ c.SameOrTurned c' := by
  have hnamed : ∀ stop ∈ line.stops, ∃ n, c.stopName? stop = some n := fun stop hstop =>
    exists_stopName? (hc.lt_of_mem_traversal hbus (Bus.mem_traversal.2 hstop))
  obtain ⟨stopNames, hnames⟩ := exists_forall₂ hnamed
  have hfound : List.Forall₂ (fun n s => c.findStop n = some s) stopNames.reverse
      line.stops.reverse := by
    rw [List.forall₂_reverse_iff]
    exact hnames.flip.imp fun n s => (findStop_eq_some_iff hc.stops_distinct).2
  obtain ⟨c', hadd, hbuses, hdistances, hat⟩ := addBus_spec hc .thereAndBack hfound
  -- the bus keeps its place
  have hput : (c.buses.put name fun _ => ⟨line.stops.reverse, .thereAndBack⟩).1 = bus := by
    have hposition : c.buses.position? name = some bus :=
      (Register.position?_eq_some_iff hc.buses_distinct).2 ⟨line, hbus⟩
    rw [Register.put_fst, hposition, Option.getD_some]
  rw [hput] at hadd
  have hstops : c'.stops = c.stops :=
    hc.stops_eq_of_reindexed hbus (fun _ => List.mem_reverse) hat
  refine ⟨stopNames, c', mapM_eq_some_iff.2 hnames, hadd,
    .of_put hstops hdistances (fun p => ?_) hbus (.inr ⟨hkind, rfl⟩)⟩
  rw [hbuses, Register.at?_put, hput]

end

variable {K : Type} [Field K] [LinearOrder K] [IsStrictOrderedRing K] [Readout K]
  {settings : Settings K} {c c' : Catalogue K} {bus : BusId} {name : String} {line : Bus}

/-- A part of a walk is no longer. -/
theorem WellFormed.roadLength_le_of_part (hc : c.WellFormed) {part walk : List StopId}
    (h : part <:+: walk) : c.roadLength part ≤ c.roadLength walk := by
  refine List.Sublist.sum_le_sum ((hopsAlong_part h).sublist.map c.hopLength) fun x hx => ?_
  obtain ⟨hop, -, rfl⟩ := List.mem_map.1 hx
  exact hc.zero_le_hopLength hop

/-! ## What a bus is known by -/

/-- A bus has so many stops, so many different ones, and such a length. -/
def Measures (c : Catalogue K) (name : String) (served different : Nat) (road : K) : Prop :=
  ∃ s, c.busInfo name = .value s ∧ s.stopCount = served ∧ s.uniqueStopCount = different ∧
    s.routeLength = road

/-- The length of a bus is the length of the road along its traversal. -/
theorem WellFormed.routeLength_eq_roadLength (hc : c.WellFormed)
    (hbus : c.buses.at? bus = some (name, line)) {road : K}
    (h : c.routeLength line = .value road) : road = c.roadLength line.traversal := by
  obtain ⟨-, lengths, hlengths, rfl⟩ := (hc.routeLength_decidedBy hbus).of_value h
  have hmap : List.Forall₂ Eq lengths (line.hops.map c.hopLength) := by
    rw [List.forall₂_map_right_iff]
    refine hlengths.flip.imp fun meters hop hmeters => ?_
    rw [hopLength, hmeters, Option.getD_some]
  rw [List.forall₂_eq_eq_eq] at hmap
  rw [hmap, roadLength, List.sum_eq_foldl]
  rfl

/-- A bus has measures if all its hops have a length, and its own length is the sum of these. -/
theorem WellFormed.measures_iff (hc : c.WellFormed) (hbus : c.buses.at? bus = some (name, line))
    {served different : Nat} {road : K} : c.Measures name served different road ↔
      (∀ hop ∈ line.hops, ∃ meters, c.distance? hop.1 hop.2 = some meters) ∧
        line.stopCount = served ∧ line.uniqueStopCount = different ∧
        c.roadLength line.traversal = road := by
  have hspec : ∀ s, c.statistics line = .value s → s.stopCount = line.stopCount ∧
      s.uniqueStopCount = line.uniqueStopCount ∧
      s.routeLength = c.roadLength line.traversal := by
    intro s h
    obtain ⟨total, htotal, h⟩ := Outcome.bind_eq_value_iff.1 h
    obtain ⟨straight, -, h⟩ := Outcome.bind_eq_value_iff.1 h
    obtain rfl := Outcome.value.inj h
    exact ⟨rfl, rfl, hc.routeLength_eq_roadLength hbus htotal⟩
  unfold Measures
  rw [hc.busInfo_eq hbus]
  constructor
  · rintro ⟨s, hs, rfl, rfl, rfl⟩
    obtain ⟨hserved, hdifferent, hroad⟩ := hspec s hs
    refine ⟨fun hop hmem => ?_, hserved.symm, hdifferent.symm, hroad.symm⟩
    obtain ⟨hfirst, hsecond⟩ := hc.lt_of_mem_hops hbus hmem
    have hfault : c.lineFault? line = none :=
      (hc.statistics_decidedBy hbus).exists_value_iff.1 ⟨s, hs⟩
    exact (hopFault?_eq_none_iff hfirst hsecond).1 (List.findSome?_eq_none_iff.1 hfault hop hmem)
  · rintro ⟨hhops, rfl, rfl, rfl⟩
    obtain ⟨s, hs⟩ := hc.exists_statistics hbus hhops
    exact ⟨s, hs, hspec s hs⟩

/-- Only a registered bus has measures. -/
theorem WellFormed.exists_at?_of_measures (hc : c.WellFormed) {served different : Nat} {road : K}
    (h : c.Measures name served different road) :
    ∃ bus line, c.buses.at? bus = some (name, line) := by
  obtain ⟨s, hs, -⟩ := h
  cases hget : c.buses.get? name with
  | none => simp [Catalogue.busInfo_eq, hget] at hs
  | some line =>
      obtain ⟨bus, hbus⟩ := (Register.get?_eq_some_iff hc.buses_distinct).1 hget
      exact ⟨bus, line, hbus⟩

namespace SameOrTurned

/-- Hops are as long in the one network as in the other. -/
theorem hopLength_eq (h : c.SameOrTurned c') : c'.hopLength = c.hopLength := by
  funext hop
  unfold hopLength
  rw [h.distance?_eq]

/-- Networks that are the same up to turning have the same roads along every walk. -/
theorem roadLength_eq (h : c.SameOrTurned c') (walk : List StopId) :
    c'.roadLength walk = c.roadLength walk := by
  unfold roadLength
  rw [h.hopLength_eq]

/-- All roads are known in the one network if they are in the other. -/
theorem roadsKnown (h : c.SameOrTurned c') (hroads : c.RoadsKnown) : c'.RoadsKnown := by
  intro bus name line' hbus hop hmem
  obtain ⟨line, hline, hturned⟩ := h.exists_at?_back hbus
  rw [h.distance?_eq]
  exact hroads bus name line hline hop (hturned.hops_perm.mem_iff.1 hmem)

/-- A bus has the same measures. -/
theorem measures (h : c.SameOrTurned c') (hc : c.WellFormed) (hc' : c'.WellFormed)
    {served different : Nat} {road : K} (hmeasures : c.Measures name served different road) :
    c'.Measures name served different road := by
  obtain ⟨bus, line, hbus⟩ := hc.exists_at?_of_measures hmeasures
  obtain ⟨line', hbus', hturned⟩ := h.exists_at? hbus
  obtain ⟨hhops, hserved, hdifferent, hroad⟩ := (hc.measures_iff hbus).1 hmeasures
  refine (hc'.measures_iff hbus').2 ⟨fun hop hmem => ?_, hturned.stopCount_eq.trans hserved,
    hturned.uniqueStopCount_eq.trans hdifferent, ?_⟩
  · rw [h.distance?_eq]
    exact hhops hop (hturned.hops_perm.mem_iff.1 hmem)
  · rw [h.roadLength_eq, ← hroad]
    exact (hturned.hops_perm.map _).sum_eq

/-- **A ride has a match that is no longer, or leads nowhere.** -/
theorem exists_rides (h : c.SameOrTurned c') (hc : c.WellFormed) {s t : StopId} {meters : K}
    (hride : c.Rides s t meters) : s = t ∨ ∃ meters' ≤ meters, c'.Rides s t meters' := by
  obtain ⟨bus, name, line, between, hbus, hwalk, rfl⟩ := hride
  obtain ⟨line', hbus', hturned⟩ := h.exists_at? hbus
  refine (hturned.exists_walk hwalk).imp_right ?_
  rintro ⟨direct, hpart, hdirect⟩
  refine ⟨_, ?_, bus, name, line', direct, hbus', hdirect, rfl⟩
  rw [h.roadLength_eq]
  exact hc.roadLength_le_of_part hpart

/-- The journeys can be built of the one network if they can be of the other. -/
theorem exists_build (h : c.SameOrTurned c') (hc : c.WellFormed) (hc' : c'.WellFormed)
    (hbuild : ∃ g, JourneyGraph.build settings c = .value g) :
    ∃ g', JourneyGraph.build settings c' = .value g' := by
  obtain ⟨hs, hroads⟩ := (JourneyGraph.exists_build_iff hc).1 hbuild
  exact (JourneyGraph.exists_build_iff hc').2 ⟨hs, h.roadsKnown hroads⟩

/-- Trips have matches that take no longer. -/
theorem exists_trip (h : c.SameOrTurned c') (hc : c.WellFormed) (hc' : c'.WellFormed)
    {g : JourneyGraph K} (hg : JourneyGraph.build settings c = .value g) {a b : StopId} {time : K}
    (htrip : Trip settings c a b time) : ∃ time' ≤ time, Trip settings c' a b time' :=
  htrip.exists_trip hc hc' (JourneyGraph.of_build hg).1 fun _ _ _ => h.exists_rides hc

end SameOrTurned

/-! ## The same service -/

/-- Nothing that is asked about buses, stops and routes tells two networks apart. -/
structure SameService (c c' : Catalogue K) : Prop where
  /-- Each bus has the same counts and the same length, or there are none in both. -/
  measures_iff (name : String) (served different : Nat) (road : K) :
    c'.Measures name served different road ↔ c.Measures name served different road
  /-- Each stop has the same buses. -/
  stopInfo_eq (name : String) : c'.stopInfo name = c.stopInfo name
  /-- The journeys of both can be built, or of neither. -/
  build_iff (settings : Settings K) : (∃ g, JourneyGraph.build settings c' = .value g) ↔
    ∃ g, JourneyGraph.build settings c = .value g
  /-- Routes take the same time, and there are the same. -/
  takes_iff {settings : Settings K} {g g' : JourneyGraph K} :
    JourneyGraph.build settings c = .value g → JourneyGraph.build settings c' = .value g' →
    ∀ a b time, g'.Takes c' a b time ↔ g.Takes c a b time

/-- Networks that are the same up to the ends of their buses give the same service. -/
theorem SameOrTurned.sameService (h : c.SameOrTurned c') (hc : c.WellFormed)
    (hc' : c'.WellFormed) : c.SameService c' where
  measures_iff _ _ _ _ := ⟨h.symm.measures hc' hc, h.measures hc hc'⟩
  stopInfo_eq := h.stopInfo_eq
  build_iff _ := ⟨h.symm.exists_build hc' hc, h.exists_build hc hc'⟩
  takes_iff hg hg' _ _ _ := JourneyGraph.takes_iff_of_trips hc' hc hg' hg Iff.rfl
    (fun _ => h.symm.exists_trip hc' hc hg') fun _ => h.exists_trip hc hc' hg

/-- **It does not matter from which end a there-and-back bus is written down.** Registering it again
under its name, with the names of its stops in the opposite order, can be done and changes no
answer: the counts and the length of the bus stay the same and so do the buses of all stops; the
journeys can be built as before; and there are the same routes, which take the same time. -/
theorem Reachable.exists_addBus_sameService (hc : c.Reachable)
    (hbus : c.buses.at? bus = some (name, line)) (hkind : line.kind = .thereAndBack) :
    ∃ stopNames c', line.stops.mapM c.stopName? = some stopNames ∧
      c.addBus name stopNames.reverse .thereAndBack = .value (bus, c') ∧ c.SameService c' := by
  obtain ⟨stopNames, c', hnames, hadd, hturned⟩ := hc.wellFormed.exists_addBus_reverse hbus hkind
  exact ⟨stopNames, c', hnames, hadd,
    hturned.sameService hc.wellFormed (hc.wellFormed.addBus hadd)⟩

/-- A line that passes the bridge twice on its way out, over roads that are longer one way than the
other. -/
def tram : List (BaseRequest ℚ) :=
  [.stop "Airport" 55 37 [("Bridge", 1000)],
    .stop "Bridge" 55 38 [("Airport", 3000), ("Castle", 500)],
    .stop "Castle" 55 39 [("Bridge", 700)],
    .bus "1" ["Airport", "Bridge", "Castle", "Bridge"] false]

/-- The catalogue of the line. -/
def tramCatalogue : Catalogue ℚ :=
  match ofRequests tram with
  | .value c => c
  | _ => .empty

/-- Its journeys at standard settings. -/
def tramJourneys : JourneyGraph ℚ :=
  match JourneyGraph.build .standard tramCatalogue with
  | .value g => g
  | _ => ⟨.ofVertexCount 0, #[], #[]⟩

/-- Written down from the bridge, the line has the same length, and it takes as long from the castle
to the airport as before. -/
theorem exists_addBus_sameService_tram : ∃ c' g',
    tramCatalogue.addBus "1" ["Bridge", "Castle", "Bridge", "Airport"] .thereAndBack =
      .value (0, c') ∧
    c'.Measures "1" 7 3 6400 ∧ JourneyGraph.build .standard c' = .value g' ∧
    g'.Takes c' 2 0 (231 / 20) := by
  have hreachable : tramCatalogue.Reachable :=
    reachable_of_ofRequests (show ofRequests tram = .value tramCatalogue by decide +kernel)
  have hbus : tramCatalogue.buses.at? 0 = some ("1", ⟨[0, 1, 2, 1], .thereAndBack⟩) := by
    decide +kernel
  have hbuild : JourneyGraph.build .standard tramCatalogue = .value tramJourneys := by
    decide +kernel
  have hmeasures : tramCatalogue.Measures "1" 7 3 6400 := by
    refine (hreachable.wellFormed.measures_iff hbus).2 ⟨fun hop hmem => ?_, by decide +kernel⟩
    exact ((JourneyGraph.of_build hbuild).2 0 "1" _ hbus) hop hmem
  have hroute : tramJourneys.Takes tramCatalogue 2 0 (231 / 20) :=
    ⟨⟨231 / 20, [.wait "Castle" 6, .ride "1" 2 (111 / 20)]⟩, by decide +kernel⟩
  obtain ⟨stopNames, c', hnames, hadd, hsame⟩ := hreachable.exists_addBus_sameService hbus rfl
  have hlisted : [0, 1, 2, 1].mapM tramCatalogue.stopName? =
      some ["Airport", "Bridge", "Castle", "Bridge"] := by
    decide +kernel
  obtain rfl := Option.some.inj (hnames.symm.trans hlisted)
  obtain ⟨g', hbuild'⟩ := (hsame.build_iff .standard).2 ⟨_, hbuild⟩
  exact ⟨c', g', hadd, (hsame.measures_iff "1" 7 3 6400).2 hmeasures, hbuild',
    (hsame.takes_iff hbuild hbuild' 2 0 _).2 hroute⟩

end Catalogue

end BusNetwork
