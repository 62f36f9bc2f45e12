import BusNetwork.Proofs.Catalogue.Gaps
import BusNetwork.Proofs.Quantity.Sums
import BusNetwork.Proofs.Route

/-!
# The journeys and the statistics agree on every bus

The road along a bus is added up twice, once position by position for its rides and once as a whole
for its statistics. **Both fail by the same hop, and both come to the same length**
(`build_agrees`): the journeys can be built if every bus has statistics, the first bus that has none
says what building fails by, and riding a bus over its whole traversal takes the time for the length
that its statistics give.

`build_decidedBy` says what building fails by without running it.
-/

set_option linter.unusedSectionVars false

namespace BusNetwork

open Quantity

variable {α : Type} [Trigonometry α] {settings : Settings α} {c : Catalogue α} {line : Bus}
  {bus : BusId} {name : String}

/-! ## What building fails by -/

/-- What is wrong with settings. -/
def Settings.fault? (settings : Settings α) : Option SettingsError :=
  if isFinite settings.busVelocity = true ∧ zero < settings.busVelocity then none
  else some .velocityNotPositive

/-- Settings are checked for their fault and nothing else. -/
theorem Settings.check_decidedBy (settings : Settings α) :
    (Outcome.ofExcept settings.check).DecidedBy settings.fault? fun _ => True := by
  unfold check fault?
  simp only [Bool.and_eq_true, decide_eq_true_eq]
  split
  · exact Outcome.decidedBy_value trivial
  · exact Outcome.decidedBy_failed _

/-- A line of registered stops has milestones unless some hop along it has no road. -/
theorem Milestone.follow_decidedBy {covered : α} {stop : StopId} {rest : List StopId}
    (h : ∀ s ∈ stop :: rest, s < c.stops.size) :
    (follow c covered stop rest).DecidedBy ((hopsAlong (stop :: rest)).findSome? c.hopFault?)
      fun _ => True := by
  induction rest generalizing covered stop with
  | nil => exact Outcome.decidedBy_value trivial
  | cons next rest ih =>
      rw [List.forall_mem_cons] at h
      have hnext : next < c.stops.size := h.2 next List.mem_cons_self
      change (follow c covered stop (next :: rest)).DecidedBy
        (((stop, next) :: hopsAlong (next :: rest)).findSome? c.hopFault?) _
      rw [Outcome.findSome?_cons_or]
      refine (Catalogue.distance_decidedBy h.1 hnext).bind fun meters _ => ?_
      exact (ih h.2).bind_value fun later _ => ⟨⟨stop, covered⟩ :: later, rfl, trivial⟩

/-- A registered bus has milestones unless some hop of it has no road. -/
theorem Milestone.ofTraversal_decidedBy (hc : c.WellFormed)
    (hbus : c.buses.at? bus = some (name, line)) :
    (ofTraversal c line.traversal).DecidedBy (c.lineFault? line) fun _ => True := by
  have hlt : ∀ s ∈ line.traversal, s < c.stops.size := fun s => hc.lt_of_mem_traversal hbus
  unfold Catalogue.lineFault? Bus.hops
  cases hstops : line.traversal with
  | nil => exact Outcome.decidedBy_value trivial
  | cons first rest =>
      rw [hstops] at hlt
      exact follow_decidedBy hlt

namespace JourneyGraph

/-- A registered bus has rides unless some hop of it has no road. -/
theorem ridesOf_decidedBy (hc : c.WellFormed) (hbus : c.buses.at? bus = some (name, line))
    {vertices : Array (Option StopVertices)} {v : StopId → StopVertices}
    (hv : ∀ stop ∈ line.traversal, vertices[stop]? = some (some (v stop))) (id : BusId) :
    (Leg.ridesOf settings c vertices id line).DecidedBy ((c.lineFault? line).map .catalogue)
      fun _ => True := by
  have hmilestones := ((Milestone.ofTraversal_decidedBy hc hbus).imp
    fun milestones h _ => h).mapFailure RoutingError.catalogue
  refine hmilestones.bind_value fun milestones h => ?_
  have hnumbered : ∀ m ∈ milestones, vertices[m.stop]? = some (some (v m.stop)) :=
    fun m hm => hv _ (Milestone.stop_mem_traversal h hm)
  exact ⟨_, by rw [Leg.ridesOver_eq hnumbered]; rfl, trivial⟩

/-- The first fault of a bus, each bus with its id. -/
theorem findSome?_zipIdx_entries (c : Catalogue α) :
    (c.buses.entries.zipIdx.findSome? fun entry =>
      (c.lineFault? entry.1.2).map RoutingError.catalogue) = c.busFault?.map .catalogue := by
  have hentries : c.buses.entries = c.buses.entries.zipIdx.map Prod.fst :=
    (List.zipIdx_map_fst 0 _).symm
  unfold Catalogue.busFault?
  conv_rhs => rw [hentries, List.findSome?_map, List.map_findSome?]
  rfl

/-- The rides of all buses are there unless some hop has no road. -/
theorem mapM_ridesOf_decidedBy (settings : Settings α) (hc : c.WellFormed)
    {vertices : Array (Option StopVertices)} {v : StopId → StopVertices}
    (hv : ∀ stop ∈ c.served, vertices[stop]? = some (some (v stop))) :
    Outcome.DecidedBy (c.buses.entries.zipIdx.mapM fun ((_, line), id) =>
        Leg.ridesOf settings c vertices id line) (c.busFault?.map .catalogue) fun _ => True := by
  rw [← findSome?_zipIdx_entries]
  refine (Outcome.DecidedBy.mapM (R := fun _ _ => True) fun entry hentry => ?_).imp
    fun _ _ _ => trivial
  have hbus : c.buses.at? entry.2 = some entry.1 := List.mk_mem_zipIdx_iff_getElem?.1 hentry
  have hserved := mem_served_of_entry (List.mem_of_getElem? hbus)
  exact ridesOf_decidedBy hc hbus (fun stop hstop => hv stop (hserved stop hstop)) entry.2

/-- With nothing wrong with any bus, all hops of registered buses have a road. -/
theorem exists_distance?_of_busFault? (hc : c.WellFormed) (h : c.busFault? = none)
    (hbus : c.buses.at? bus = some (name, line)) :
    ∀ hop ∈ line.hops, ∃ meters, c.distance? hop.1 hop.2 = some meters := by
  intro hop hmem
  have hline := List.findSome?_eq_none_iff.1 h _ (List.mem_of_getElem? hbus)
  obtain ⟨hfirst, hsecond⟩ := hc.lt_of_mem_hops hbus hmem
  exact (Catalogue.hopFault?_eq_none_iff hfirst hsecond).1
    (List.findSome?_eq_none_iff.1 hline hop hmem)

/-- **Building fails by the settings, and failing that by the first hop without a road** of the
first bus that has any; otherwise there is a graph. -/
theorem build_decidedBy (settings : Settings α) (hc : c.WellFormed) :
    (build settings c).DecidedBy ((settings.fault?.map .settings).or (c.busFault?.map .catalogue))
      fun _ => True := by
  cases hs : settings.fault? with
  | some e =>
      have hcheck : Outcome.ofExcept settings.check = .failed e := by
        rw [settings.check_decidedBy.eq_failed_iff, hs]
      change build settings c = .failed (.settings e)
      rw [build, hcheck]
      rfl
  | none =>
      have hcheck : settings.check = .ok () := by
        obtain ⟨⟨⟩, hok⟩ := settings.check_decidedBy.exists_value_iff.2 hs
        simpa using hok
      cases hfault : c.busFault? with
      | some e =>
          obtain ⟨a, ha, hnumbered, hserved⟩ := Allocation.exists_ofCatalogue hc
          have hlt : ∀ stop ∈ a.served, stop < c.stops.size := hserved ▸ lt_of_mem_served hc
          have hrides := (mapM_ridesOf_decidedBy settings hc
            (hserved ▸ getElem?_vertices hnumbered hlt)).eq_failed_iff.2 (by rw [hfault]; rfl)
          change build settings c = .failed (.catalogue e)
          simp only [build, hcheck, ha, mapM_waitAt settings hnumbered hlt, hrides,
            Outcome.ofExcept, Outcome.mapFailure, Outcome.ofLookup, Outcome.value_bind,
            Outcome.liftM_some, Outcome.failed_bind]
      | none =>
          obtain ⟨g, hg⟩ := (exists_build_iff hc).2
            ⟨hcheck, fun bus name line => exists_distance?_of_busFault? hc hfault⟩
          exact ⟨g, hg, trivial⟩

/-! ## The first bus that fails -/

/-- **The first bus with a hop without a road**, and that hop: all buses registered before have
statistics. -/
theorem exists_first_of_busFault? (hc : c.WellFormed) {e : CatalogueError α}
    (h : c.busFault? = some e) : ∃ bus name line i a b origin target,
      c.buses.at? bus = some (name, line) ∧
      (∀ earlier < bus, ∀ other, c.busName? earlier = some other →
        ∃ s, c.busInfo other = .value s) ∧
      c.FirstGap line i a b ∧ c.stopName? a = some origin ∧ c.stopName? b = some target ∧
      c.busInfo name = .failed e ∧ e = .noDistanceData origin target := by
  obtain ⟨before, ⟨name, line⟩, after, hentries, hfault, hbefore⟩ := List.findSome?_eq_some_iff.1 h
  have hbus : c.buses.at? before.length = some (name, line) := by
    unfold Register.at?
    rw [hentries]
    simp
  obtain ⟨i, a, b, origin, target, hgap, horigin, htarget, rfl⟩ := hc.exists_firstGap hbus hfault
  refine ⟨before.length, name, line, i, a, b, origin, target, hbus, ?_, hgap, horigin, htarget, ?_,
    rfl⟩
  · intro earlier hearlier other hother
    rw [Catalogue.busName?_eq] at hother
    obtain ⟨⟨_, line'⟩, hline', rfl⟩ := Option.map_eq_some_iff.1 hother
    rw [hc.busInfo_eq hline', (hc.statistics_decidedBy hline').exists_value_iff]
    unfold Register.at? at hline'
    rw [hentries, List.getElem?_append_left hearlier] at hline'
    exact hbefore _ (List.mem_of_getElem? hline')
  · rw [hc.busInfo_eq hbus, (hc.statistics_decidedBy hbus).eq_failed_iff]
    exact hfault

/-! ## The length of a bus -/

/-- Covering hops of known lengths adds them up from left to right. -/
theorem foldlM_addHop? {hops : List (StopId × StopId)} {lengths : List α}
    (h : List.Forall₂ (fun hop meters => c.distance? hop.1 hop.2 = some meters) hops lengths)
    (covered : α) : hops.foldlM c.addHop? covered = some (lengths.foldl (· + ·) covered) := by
  induction h generalizing covered with
  | nil => rfl
  | @cons hop meters _ _ hmeters _ ih =>
      have hhop : c.addHop? covered hop = some (covered + meters) := by
        unfold Catalogue.addHop?
        rw [hmeters]
        rfl
      rw [List.foldlM_cons, hhop]
      exact ih (covered + meters)

/-- The road to the last position of a bus is the road along all its hops. -/
theorem roadTo?_last {lengths : List α}
    (h : List.Forall₂ (fun hop meters => c.distance? hop.1 hop.2 = some meters) line.hops lengths) :
    c.roadTo? line (line.traversal.length - 1) = some (lengths.foldl (· + ·) zero) := by
  have hlength : line.hops.length ≤ line.traversal.length - 1 := by
    simp [Bus.hops]
  unfold Catalogue.roadTo?
  rw [List.take_of_length_le hlength]
  exact foldlM_addHop? h zero

variable {g : JourneyGraph α}

/-- An edge that stands for riding a bus over its whole traversal takes the time for the road to the
last position. -/
theorem Built.weight_of_whole_ride {served : List StopId} {milestones : List (List (Milestone α))}
    (hg : Built settings c served milestones g) (hbus : c.buses.at? bus = some (name, line))
    (htwo : 2 ≤ line.traversal.length) {id : EdgeId} {edge : Edge α}
    (hedge : g.graph.edges[id]? = some edge)
    (hlabel : g.labels[id]? = some (.ride bus (line.traversal.length - 1))) {covered : α}
    (hcovered : c.roadTo? line (line.traversal.length - 1) = some covered) :
    edge.weight = settings.rideMinutes (covered - zero) := by
  obtain ⟨leg, hleg, rfl, hlabel'⟩ := hg.exists_leg hedge
  have hsame : leg.label = .ride bus (line.traversal.length - 1) :=
    Option.some.inj (hlabel'.symm.trans hlabel)
  rcases hg.mem_legs_iff.1 hleg with ⟨stop, -, rfl⟩ | ⟨bus', name', line', hbus', i, j, boarding,
    leaving, hij, hi, hj, hroad, hroad', rfl⟩
  · cases hsame
  · obtain ⟨rfl, hspan⟩ := EdgeLabel.ride.inj hsame
    obtain ⟨rfl, rfl⟩ := Prod.mk.inj (Option.some.inj (hbus'.symm.trans hbus))
    have hlt : j < line'.traversal.length := (List.getElem?_eq_some_iff.1 hj).1
    -- only the two ends are that far apart
    obtain ⟨rfl, rfl⟩ : i = 0 ∧ j = line'.traversal.length - 1 := by omega
    rw [hcovered, Option.some.injEq] at hroad'
    have hzero : zero = boarding.covered := by simpa [Catalogue.roadTo?] using hroad
    rw [Leg.ride, ← hroad', ← hzero]

/-- There is an edge that stands for riding a bus over its whole traversal. -/
theorem Built.exists_whole_ride {served : List StopId} {milestones : List (List (Milestone α))}
    (hg : Built settings c served milestones g) (hbus : c.buses.at? bus = some (name, line))
    (htwo : 2 ≤ line.traversal.length) {covered : α}
    (hcovered : c.roadTo? line (line.traversal.length - 1) = some covered) :
    ∃ (id : EdgeId) (edge : Edge α), g.graph.edges[id]? = some edge ∧
      g.labels[id]? = some (.ride bus (line.traversal.length - 1)) := by
  have hfirst : 0 < line.traversal.length := by omega
  have hlast : line.traversal.length - 1 < line.traversal.length := by omega
  have hleg := hg.mem_legs_iff.2 (.inr ⟨bus, name, line, hbus, 0, line.traversal.length - 1,
    ⟨line.traversal[0], zero⟩, ⟨line.traversal[line.traversal.length - 1], covered⟩, by omega,
    List.getElem?_eq_getElem hfirst, List.getElem?_eq_getElem hlast, rfl, hcovered, rfl⟩)
  obtain ⟨id, hedge, hlabel⟩ := hg.exists_edge hleg
  exact ⟨id, _, hedge, hlabel⟩

/-! ## Agreement -/

/-- With settings that pass their check, building is decided by the buses alone. -/
theorem build_decidedBy_busFault? (hc : c.WellFormed) (hs : settings.check = .ok ()) :
    (build settings c).DecidedBy (c.busFault?.map .catalogue) fun _ => True := by
  have hsettings : settings.fault? = none := by
    rw [← settings.check_decidedBy.exists_value_iff]
    exact ⟨(), by rw [hs]; rfl⟩
  have hdecided := build_decidedBy settings hc
  rwa [hsettings, Option.map_none, Option.none_or] at hdecided

/-- There is nothing wrong with any bus if each one that is registered has statistics. -/
theorem busFault?_eq_none_iff (hc : c.WellFormed) : c.busFault? = none ↔
    ∀ bus name, c.busName? bus = some name → ∃ s, c.busInfo name = .value s := by
  rw [Catalogue.busFault?, List.findSome?_eq_none_iff]
  constructor
  · intro h bus name hname
    obtain ⟨⟨_, line⟩, hbus, rfl⟩ := Option.map_eq_some_iff.1 hname
    rw [hc.busInfo_eq hbus, (hc.statistics_decidedBy hbus).exists_value_iff]
    exact h _ (List.mem_of_getElem? hbus)
  · rintro h ⟨name, line⟩ hmem
    obtain ⟨bus, hbus⟩ := List.mem_iff_getElem?.1 hmem
    rw [← (hc.statistics_decidedBy hbus).exists_value_iff, ← hc.busInfo_eq hbus]
    exact h bus name (by rw [Catalogue.busName?_eq, Register.at?, hbus]; rfl)

/-- The ride over the whole traversal of a bus takes the time for the length in its statistics. -/
theorem exists_statistics_of_build [SummedQuantity α] (hc : c.WellFormed)
    (hg : build settings c = .value g) (hbus : c.buses.at? bus = some (name, line))
    (htwo : 2 ≤ line.traversal.length) : ∃ s, c.busInfo name = .value s ∧
      c.routeLength line = .value s.routeLength ∧
      (∃ (id : EdgeId) (edge : Edge α), g.graph.edges[id]? = some edge ∧
        g.labels[id]? = some (.ride bus (line.traversal.length - 1))) ∧
      ∀ (id : EdgeId) (edge : Edge α), g.graph.edges[id]? = some edge →
        g.labels[id]? = some (.ride bus (line.traversal.length - 1)) →
        SameValue edge.weight (settings.rideMinutes s.routeLength) := by
  obtain ⟨milestones, hbuilt⟩ := exists_built_served hc hg
  have hfault : c.busFault? = none := by
    have hdecided := build_decidedBy_busFault? hc hbuilt.check_settings
    exact Option.map_eq_none_iff.1 (hdecided.exists_value_iff.1 ⟨g, hg⟩)
  have hline : c.lineFault? line = none :=
    List.findSome?_eq_none_iff.1 hfault _ (List.mem_of_getElem? hbus)
  obtain ⟨s, hstatistics, hlength⟩ := hline ▸ hc.statistics_decidedBy hbus
  obtain ⟨-, lengths, hlengths, htotal⟩ := (hc.routeLength_decidedBy hbus).of_value hlength
  have hroad := roadTo?_last hlengths
  refine ⟨s, (hc.busInfo_eq hbus).trans hstatistics, hlength,
    hbuilt.exists_whole_ride hbus htwo hroad, ?_⟩
  intro id edge hedge hlabel
  rw [hbuilt.weight_of_whole_ride hbus htwo hedge hlabel hroad, SummedQuantity.sub_zero, htotal]
  exact SummedQuantity.sameValue_div _ (SummedQuantity.sameValue_foldl lengths)

/-- **The journeys and the statistics agree on every bus.** Settings that pass their check given,
the journeys can be built exactly if every registered bus has statistics. If they cannot, building
fails by what the first bus without statistics fails by: the first hop of it without a road in
either direction, which leads from one stop of its list to the next. And if they can, the ride over
the whole traversal of a bus takes the time for the length in its statistics. -/
theorem build_agrees [SummedQuantity α] (hc : c.Reachable) (hs : settings.check = .ok ()) :
    ((∃ g, build settings c = .value g) ↔
      ∀ bus name, c.busName? bus = some name → ∃ s, c.busInfo name = .value s) ∧
    ((¬ ∃ g, build settings c = .value g) → ∃ bus name line i a b origin target,
      c.buses.at? bus = some (name, line) ∧
      (∀ earlier < bus, ∀ other, c.busName? earlier = some other →
        ∃ s, c.busInfo other = .value s) ∧
      c.FirstGap line i a b ∧ c.stopName? a = some origin ∧ c.stopName? b = some target ∧
      c.busInfo name = .failed (.noDistanceData origin target) ∧
      build settings c = .failed (.catalogue (.noDistanceData origin target))) ∧
    ∀ g, build settings c = .value g → ∀ bus name line, c.buses.at? bus = some (name, line) →
      2 ≤ line.traversal.length → ∃ s, c.busInfo name = .value s ∧
        c.routeLength line = .value s.routeLength ∧
        (∃ (id : EdgeId) (edge : Edge α), g.graph.edges[id]? = some edge ∧
          g.labels[id]? = some (.ride bus (line.traversal.length - 1))) ∧
        ∀ (id : EdgeId) (edge : Edge α), g.graph.edges[id]? = some edge →
          g.labels[id]? = some (.ride bus (line.traversal.length - 1)) →
          SameValue edge.weight (settings.rideMinutes s.routeLength) := by
  have hwell := hc.wellFormed
  have hdecided := build_decidedBy_busFault? hwell hs
  refine ⟨?_, ?_, ?_⟩
  · rw [hdecided.exists_value_iff, Option.map_eq_none_iff]
    exact busFault?_eq_none_iff hwell
  · intro hnone
    rw [hdecided.exists_value_iff, Option.map_eq_none_iff, ← Ne,
      Option.ne_none_iff_exists'] at hnone
    obtain ⟨e, he⟩ := hnone
    obtain ⟨bus, name, line, i, a, b, origin, target, hbus, hearlier, hgap, horigin, htarget,
      hinfo, rfl⟩ := exists_first_of_busFault? hwell he
    refine ⟨bus, name, line, i, a, b, origin, target, hbus, hearlier, hgap, horigin, htarget, hinfo,
      ?_⟩
    rw [hdecided.eq_failed_iff, he]
    rfl
  · intro g hg bus name line
    exact exists_statistics_of_build hwell hg

/-- The avenue is three kilometers long there and back, which is four minutes and a half. -/
theorem build_agrees_avenue : ∃ s : BusStatistics Float, avenueCatalogue.busInfo "1" = .value s ∧
    s.routeLength = 3000 ∧ avenueJourneys.labels[6]? = some (.ride 0 4) ∧
    ∃ edge : Edge Float, avenueJourneys.graph.edges[6]? = some edge ∧
      SameValue edge.weight (Settings.standard.rideMinutes s.routeLength) ∧
      edge.weight = 4.5 := by
  have hs : (Settings.standard : Settings Float).check = .ok () := by decide +kernel
  obtain ⟨-, -, hrides⟩ := build_agrees reachable_avenueCatalogue hs
  have hbus : avenueCatalogue.buses.at? 0 = some ("1", ⟨[0, 1, 2], .thereAndBack⟩) := by
    decide +kernel
  obtain ⟨s, hinfo, hlength, -, hweight⟩ :=
    hrides _ build_avenueCatalogue 0 "1" _ hbus (by decide)
  have hlength' : avenueCatalogue.routeLength ⟨[0, 1, 2], .thereAndBack⟩ = .value 3000 := by
    decide +kernel
  have hlabel : avenueJourneys.labels[6]? = some (.ride 0 4) := by decide +kernel
  have hedge : ∃ edge : Edge Float, avenueJourneys.graph.edges[6]? = some edge ∧
      edge.weight = 4.5 := ⟨⟨1, 0, 4.5⟩, by decide +kernel, rfl⟩
  obtain ⟨edge, hedge, h⟩ := hedge
  exact ⟨s, hinfo, Outcome.value.inj (hlength.symm.trans hlength'), hlabel, edge, hedge,
    hweight 6 edge hedge hlabel, h⟩

end JourneyGraph

end BusNetwork
