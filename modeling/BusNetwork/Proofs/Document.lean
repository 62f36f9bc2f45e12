import BusNetwork.Document.Response
import BusNetwork.Proofs.Catalogue.Gaps
import BusNetwork.Proofs.Embedding
import BusNetwork.Proofs.Loading.Faults

/-!
# The order of a description does not matter

Loading the entries of a description in another order gives every stop and bus another position, and
so the search goes through the network in another order. **None of it shows in the responses**, but
for the choice between routes that are equally fast: two catalogues of what is described are
embedded in each other by name (`Describes.embedding`), and what is embedded both ways is answered
alike (`Network.alike_answer`, `Document.respond_perm`).
-/

set_option linter.unusedSectionVars false

namespace BusNetwork

open Quantity

variable {α : Type} [Trigonometry α] {settings : Settings α} {c c' : Catalogue α}

/-- A response without the steps of its route. -/
def Response.withoutItems : Response α → Response α
  | route id totalTime _ => route id totalTime []
  | response => response

namespace Catalogue

/-! ## What is embedded is known alike -/

namespace Embedding

variable (e : Embedding c c')

/-- A stop that the one catalogue finds by its name the other finds at the place it moved to. -/
theorem findStop (hc : c.WellFormed) (hc' : c'.WellFormed) {name : String} {s : StopId}
    (h : c.findStop name = some s) : c'.findStop name = some (e.stop s) := by
  rw [findStop_eq_some_iff hc.stops_distinct] at h
  rw [findStop_eq_some_iff hc'.stops_distinct]
  exact e.stopName? h

/-- A bus of the one catalogue runs under its name in the other, over the stops that moved. -/
theorem get?_bus (hc : c.WellFormed) (hc' : c'.WellFormed) {name : String} {line : Bus}
    (h : c.buses.get? name = some line) : c'.buses.get? name = some (line.map e.stop) := by
  obtain ⟨b, hb⟩ := (Register.get?_eq_some_iff hc.buses_distinct).1 h
  exact (Register.get?_eq_some_iff hc'.buses_distinct).2 ⟨e.bus b, e.at?_bus hb⟩

/-- Different stops have different places. -/
theorem stop_inj (hc : c.WellFormed) {s t : StopId} (hs : s < c.stops.size) (ht : t < c.stops.size)
    (h : e.stop s = e.stop t) : s = t := by
  obtain ⟨n, hn⟩ := exists_stopName? hs
  obtain ⟨m, hm⟩ := exists_stopName? ht
  have hplace := e.stopName? hn
  rw [h, e.stopName? hm, Option.some.injEq] at hplace
  exact stopName?_inj hc.stops_distinct hn (hplace ▸ hm)

/-- The buses at a stop serve it in its place. -/
theorem mem_buses (hc : c.WellFormed) (hc' : c'.WellFormed) {s : StopId} {n n' : String}
    {x x' : Stop α} (hx : c.stops.at? s = some (n, x))
    (hx' : c'.stops.at? (e.stop s) = some (n', x')) {line : String} (h : line ∈ x.buses) :
    line ∈ x'.buses := by
  obtain ⟨bus, hbus, hs⟩ := (hc.mem_buses_iff hx line).1 h
  exact (hc'.mem_buses_iff hx' line).2 ⟨_, e.get?_bus hc hc' hbus, List.mem_map_of_mem hs⟩

/-- Sums over hops are the same in their places. -/
theorem sumHops_map {ε : Type} {length length' : StopId → StopId → Outcome ε α}
    {hops : List (StopId × StopId)} {total : α}
    (h : ∀ hop ∈ hops, ∀ x, length hop.1 hop.2 = .value x →
      length' (e.stop hop.1) (e.stop hop.2) = .value x)
    (hsum : sumHops length hops = .value total) :
    sumHops length' (hops.map (Prod.map e.stop e.stop)) = .value total := by
  unfold sumHops at hsum ⊢
  generalize (Quantity.emptySum : α) = covered at hsum ⊢
  induction hops generalizing covered with
  | nil => exact hsum
  | cons hop rest ih =>
      rw [List.forall_mem_cons] at h
      rw [List.foldlM_cons] at hsum
      obtain ⟨covered', hhop, hrest⟩ := Outcome.bind_eq_value_iff.1 hsum
      obtain ⟨x, hx, hcovered⟩ := Outcome.bind_eq_value_iff.1 hhop
      rw [List.map_cons, List.foldlM_cons]
      refine Outcome.bind_eq_value_iff.2 ⟨covered', ?_, ih h.2 _ hrest⟩
      exact Outcome.bind_eq_value_iff.2 ⟨x, h.1 x hx, hcovered⟩

/-- A bus has the same statistics in its place. -/
theorem statistics_map (hc : c.WellFormed) {name : String} {line : Bus}
    (hline : c.buses.get? name = some line) {s : BusStatistics α}
    (h : c.statistics line = .value s) : c'.statistics (line.map e.stop) = .value s := by
  obtain ⟨b, hb⟩ := (Register.get?_eq_some_iff hc.buses_distinct).1 hline
  obtain ⟨road, hroad, h⟩ := Outcome.bind_eq_value_iff.1 h
  obtain ⟨straight, hstraight, h⟩ := Outcome.bind_eq_value_iff.1 h
  have hroad' : c'.routeLength (line.map e.stop) = .value road := by
    unfold routeLength
    rw [Bus.hops_map]
    refine e.sumHops_map (fun hop hmem x hx => ?_) hroad
    obtain ⟨hfirst, hsecond⟩ := hc.lt_of_mem_hops hb hmem
    rw [distance_eq_value_iff] at hx ⊢
    exact e.distance? hfirst hsecond hx
  have hstraight' : (c'.geographicLength (line.map e.stop) : Outcome (CatalogueError α) α) =
      .value straight := by
    unfold geographicLength
    rw [Bus.hops_map]
    refine e.sumHops_map (fun hop hmem x hx => ?_) hstraight
    obtain ⟨p, hp, hx⟩ := Outcome.bind_eq_value_iff.1 hx
    obtain ⟨q, hq, hx⟩ := Outcome.bind_eq_value_iff.1 hx
    refine Outcome.bind_eq_value_iff.2 ⟨p, ?_, Outcome.bind_eq_value_iff.2 ⟨q, ?_, hx⟩⟩
    · exact Outcome.liftM_eq_value_iff.2 (e.coordinates? (Outcome.liftM_eq_value_iff.1 hp))
    · exact Outcome.liftM_eq_value_iff.2 (e.coordinates? (Outcome.liftM_eq_value_iff.1 hq))
  have hunique : (line.map e.stop).uniqueStopCount = line.uniqueStopCount :=
    Bus.uniqueStopCount_map fun s hs t ht =>
      e.stop_inj hc (hc.listed_lt hline s hs) (hc.listed_lt hline t ht)
  rw [statistics, hroad', Outcome.value_bind, hstraight', Outcome.value_bind, Bus.stopCount_map,
    hunique]
  exact h

end Embedding

/-! ## Catalogues of one description -/

namespace Describes

variable {requests : List (BaseRequest α)}

/-- Where the stop of a catalogue is found in another, by its name. -/
def place (c c' : Catalogue α) (s : StopId) : StopId :=
  ((c.stopName? s).bind c'.findStop).getD 0

/-- The stop of a name has its place in the other catalogue under the same name. -/
theorem findStop_place (h : Describes requests c) (h' : Describes requests c') {name : String}
    {s : StopId} (hc : c.WellFormed) (hs : c.findStop name = some s) :
    c'.findStop name = some (place c c' s) := by
  obtain ⟨s', hs'⟩ := h'.exists_findStop_iff.2 (h.exists_findStop_iff.1 ⟨s, hs⟩)
  unfold place
  rw [(findStop_eq_some_iff hc.stops_distinct).1 hs, Option.bind_some, hs', Option.getD_some]

/-- What is recorded between two stops is recorded between their places. -/
theorem distances_place (h : Describes requests c) (h' : Describes requests c')
    (hc : c.WellFormed) {a b : StopId} (ha : a < c.stops.size) (hb : b < c.stops.size) :
    c'.distances.get? (place c c' a, place c c' b) = c.distances.get? (a, b) := by
  obtain ⟨n, hn⟩ := exists_stopName? ha
  obtain ⟨m, hm⟩ := exists_stopName? hb
  rw [← findStop_eq_some_iff hc.stops_distinct] at hn hm
  ext meters
  rw [h'.distances_iff (h.findStop_place h' hc hn) (h.findStop_place h' hc hm),
    h.distances_iff hn hm]

/-- **A catalogue is found within any other of the same description.** -/
def embedding (h : Describes requests c) (h' : Describes requests c') (hc : c.WellFormed)
    (hc' : c'.WellFormed) : Embedding c c' where
  stop := place c c'
  bus b := ((c.busName? b).bind c'.findBus).getD 0
  stopName? {s name} hs := by
    rw [← findStop_eq_some_iff hc.stops_distinct] at hs
    rw [← findStop_eq_some_iff hc'.stops_distinct]
    exact h.findStop_place h' hc hs
  coordinates? {s p} hs := by
    obtain ⟨⟨name, x⟩, hx, -⟩ := Option.map_eq_some_iff.1 ((coordinates?_eq c s).symm.trans hs)
    have hname : c.findStop name = some s := (findStop_iff_at? hc.stops_distinct).2 ⟨x, hx⟩
    rw [h.coordinates?_iff hname] at hs
    exact (h'.coordinates?_iff (h.findStop_place h' hc hname)).2 hs
  at?_bus {b name line} hb := by
    have hget := (Register.get?_eq_some_iff hc.buses_distinct).2 ⟨b, hb⟩
    obtain ⟨stops, isRoundTrip, hmem, hkind, hlisted⟩ := h.buses_iff.1 hget
    have hlisted' : List.Forall₂ (fun n s => c'.findStop n = some s) stops
        (line.stops.map (place c c')) :=
      List.forall₂_map_right_iff.2 (hlisted.imp fun n s hn => h.findStop_place h' hc hn)
    have hget' : c'.buses.get? name = some (line.map (place c c')) :=
      h'.buses_iff.2 ⟨stops, isRoundTrip, hmem, hkind, hlisted'⟩
    obtain ⟨b', hb'⟩ := (Register.get?_eq_some_iff hc'.buses_distinct).1 hget'
    have hfound : c'.findBus name = some b' :=
      (findBus_iff_at? hc'.buses_distinct).2 ⟨_, hb'⟩
    rw [busName?_eq, hb, Option.map_some, Option.bind_some, hfound, Option.getD_some]
    exact hb'
  distance? {a b meters} ha hb hmeters := by
    unfold Catalogue.distance?
    rw [h.distances_place h' hc ha hb, h.distances_place h' hc hb ha]
    exact hmeters

end Describes

end Catalogue

/-! ## What is embedded both ways is answered alike -/

namespace Network

variable {g g' : JourneyGraph α}

/-- A batch of questions is answered one by one. -/
theorem respond_eq_mapM {ε : Type} (n : Network α) (parallel : Bool) (queries : List Query) :
    (n.respond parallel queries : Outcome ε (List (Response α))) =
      queries.mapM fun q => Response.ofOutcome q.id (n.answer q) := by
  rw [respond, answerAll_eq_map, ← List.map_prod_left_eq_zip, List.mapM_map]
  rfl

/-- Two outcomes of a question are told by responses that differ in the steps of a route at most. -/
def Alike (id : Int) (x y : Outcome (QueryError α) (Answer α)) : Prop :=
  ∃ r r', (Response.ofOutcome id x : Outcome (DocumentError α) (Response α)) = .value r ∧
    (Response.ofOutcome id y : Outcome (DocumentError α) (Response α)) = .value r' ∧
    r.withoutItems = r'.withoutItems

/-- An answer is told the same wherever it is given. -/
theorem alike_value (id : Int) (answer : Answer α) :
    Alike id (.value answer) (.value answer) := ⟨_, _, rfl, rfl, rfl⟩

/-- So is the cause of a failure. -/
theorem alike_failed (id : Int) (cause : QueryError α) :
    Alike id (.failed cause) (.failed cause) := ⟨_, _, rfl, rfl, rfl⟩

/-- Routes that take the same time are told alike. -/
theorem alike_route (id : Int) {route route' : Route α} (h : route.totalTime = route'.totalTime) :
    Alike id (.value (.route route)) (.value (.route route')) :=
  ⟨_, _, rfl, rfl, by simp [Response.ofAnswer, Response.withoutItems, h]⟩

variable (hc : c.WellFormed) (hc' : c'.WellFormed) (e : c.Embedding c') (e' : c'.Embedding c)
  (hg : JourneyGraph.build settings c = .value g)
  (hg' : JourneyGraph.build settings c' = .value g')

include hc hc' e e'

/-- A name that one catalogue does not know the other does not know either. -/
theorem findStop_eq_none {name : String} (h : c.findStop name = none) :
    c'.findStop name = none := by
  rw [Option.eq_none_iff_forall_ne_some]
  intro s hs
  rw [e'.findStop hc' hc hs] at h
  cases h

include hg in
/-- Journeys can be built of both or of neither. -/
theorem exists_build : ∃ g', JourneyGraph.build settings c' = .value g' := by
  obtain ⟨hs, hhops⟩ := JourneyGraph.of_build hg
  refine (JourneyGraph.exists_build_iff hc').2 ⟨hs, ?_⟩
  intro b name line hb hop hmem
  -- a bus is in the place of the one that is in its place
  have hback := e'.get?_bus hc' hc ((Register.get?_eq_some_iff hc'.buses_distinct).2 ⟨b, hb⟩)
  obtain ⟨b', hb'⟩ := (Register.get?_eq_some_iff hc.buses_distinct).1 hback
  obtain ⟨b'', hb''⟩ :=
    (Register.get?_eq_some_iff hc'.buses_distinct).1 (e.get?_bus hc hc' hback)
  have hline : (line.map e'.stop).map e.stop = line := hc'.buses_distinct.value_eq hb'' hb
  rw [← hline, Bus.hops_map, List.mem_map] at hmem
  obtain ⟨hop', hmem', rfl⟩ := hmem
  obtain ⟨hfirst, hsecond⟩ := hc.lt_of_mem_hops hb' hmem'
  obtain ⟨meters, hmeters⟩ := hhops b' name _ hb' hop' hmem'
  exact ⟨meters, e.distance? hfirst hsecond hmeters⟩

include hg in
/-- What is known of a bus. -/
theorem alike_bus (id : Int) (name : String) :
    Alike id (answer ⟨c, g, none⟩ (.bus id name)) (answer ⟨c', g', none⟩ (.bus id name)) := by
  cases hline : c.buses.get? name with
  | none =>
      have hline' : c'.buses.get? name = none := by
        rw [Option.eq_none_iff_forall_ne_some]
        intro line hline'
        rw [e'.get?_bus hc' hc hline'] at hline
        cases hline
      simp only [answer, Catalogue.busInfo_eq, hline, hline', Outcome.mapFailure,
        Outcome.failed_bind]
      exact alike_failed id _
  | some line =>
      obtain ⟨b, hb⟩ := (Register.get?_eq_some_iff hc.buses_distinct).1 hline
      obtain ⟨-, hhops⟩ := JourneyGraph.of_build hg
      obtain ⟨s, hs⟩ := hc.exists_statistics hb (hhops b name line hb)
      have hs' := e.statistics_map hc hline hs
      simp only [answer, Catalogue.busInfo_eq, hline, e.get?_bus hc hc' hline, hs, hs',
        Outcome.mapFailure, Outcome.value_bind]
      exact alike_value id _

/-- Which buses serve a stop. -/
theorem alike_stop (id : Int) (name : String) :
    Alike id (answer ⟨c, g, none⟩ (.stop id name)) (answer ⟨c', g', none⟩ (.stop id name)) := by
  cases hs : c.findStop name with
  | none =>
      have hs' := findStop_eq_none hc hc' e e' hs
      simp only [answer, Catalogue.stopInfo, Catalogue.askedStop, hs, hs', Outcome.mapFailure,
        Outcome.failed_bind]
      exact alike_failed id _
  | some s =>
      have hs' := e.findStop hc hc' hs
      obtain ⟨x, hx⟩ := (Catalogue.findStop_iff_at? hc.stops_distinct).1 hs
      obtain ⟨x', hx'⟩ := (Catalogue.findStop_iff_at? hc'.stops_distinct).1 hs'
      have hback : e'.stop (e.stop s) = s :=
        Option.some.inj ((e'.findStop hc' hc hs').symm.trans hs)
      have hbuses : x.buses = x'.buses := by
        refine Ascending.eq_of_mem_iff (hc.ascending hx) (hc'.ascending hx') fun line => ⟨?_, ?_⟩
        · exact e.mem_buses hc hc' hx hx'
        · exact e'.mem_buses hc' hc hx' (hback ▸ hx)
      simp only [answer, Catalogue.stopInfo, Catalogue.askedStop, hs, hs', hbuses,
        Catalogue.getElem?_busesAtStop, hx, hx', Option.map_some, Outcome.mapFailure,
        Outcome.value_bind, Outcome.liftM_some, Outcome.pure_eq]
      exact alike_value id _

variable [TravelQuantity α]

include hg hg'

/-- The route between two stops, if there is any. -/
theorem alike_answerRoute (id : Int) (origin target : String) :
    Alike id (answerRoute ⟨c, g, none⟩ origin target)
      (answerRoute ⟨c', g', none⟩ origin target) := by
  cases ha : c.findStop origin with
  | none =>
      have ha' := findStop_eq_none hc hc' e e' ha
      simp only [answerRoute, Catalogue.askedStop, ha, ha', Outcome.mapFailure, Outcome.failed_bind]
      exact alike_failed id _
  | some a =>
      have ha' := e.findStop hc hc' ha
      cases hb : c.findStop target with
      | none =>
          have hb' := findStop_eq_none hc hc' e e' hb
          simp only [answerRoute, Catalogue.askedStop, ha, ha', hb, hb', Outcome.mapFailure,
            Outcome.value_bind, Outcome.failed_bind]
          exact alike_failed id _
      | some b =>
          have hb' := e.findStop hc hc' hb
          have hback : e'.stop (e.stop a) = a :=
            Option.some.inj ((e'.findStop hc' hc ha').symm.trans ha)
          have hback' : e'.stop (e.stop b) = b :=
            Option.some.inj ((e'.findStop hc' hc hb').symm.trans hb)
          rcases JourneyGraph.exists_route_or_unreachable hc hg a b with ⟨route, hroute⟩ | hnone
          · -- each route is no slower than the other, and neither total is negative zero
            obtain ⟨route', hroute', hle⟩ := e.exists_route hc hc' hg hg' hroute
            obtain ⟨route'', hroute'', hle'⟩ := e'.exists_route hc' hc hg' hg hroute'
            rw [hback, hback', hroute, Outcome.value.injEq] at hroute''
            subst hroute''
            have htotal : route.totalTime = route'.totalTime := hle'.antisymm hle
              (JourneyGraph.zero_add_totalTime hc hg hroute)
              (JourneyGraph.zero_add_totalTime hc' hg' hroute')
            simp only [answerRoute, Catalogue.askedStop, ha, ha', hb, hb', hroute, hroute',
              Outcome.mapFailure, Outcome.value_bind, Outcome.pure_eq]
            exact alike_route id htotal
          · have hnone' : g'.shortestRoute c' (e.stop a) (e.stop b) = .failed .unreachable := by
              rcases JourneyGraph.exists_route_or_unreachable hc' hg' (e.stop a) (e.stop b) with
                ⟨route', hroute'⟩ | hnone'
              · obtain ⟨route, hroute, -⟩ := e'.exists_route hc' hc hg' hg hroute'
                rw [hback, hback', hnone] at hroute
                cases hroute
              · exact hnone'
            simp only [answerRoute, Catalogue.askedStop, ha, ha', hb, hb', hnone, hnone',
              Outcome.mapFailure, Outcome.value_bind, Outcome.failed_bind]
            exact alike_failed id _

/-- **Every question is answered alike.** -/
theorem alike_answer (q : Query) :
    Alike q.id (answer ⟨c, g, none⟩ q) (answer ⟨c', g', none⟩ q) := by
  cases q with
  | bus id name => exact alike_bus hc hc' e e' hg id name
  | stop id name => exact alike_stop hc hc' e e' id name
  | route id origin target => exact alike_answerRoute hc hc' e e' hg hg' id origin target
  | map id => exact alike_failed id _

/-- A batch of questions is answered alike, one after the other or all at once. -/
theorem exists_respond (parallel parallel' : Bool) (queries : List Query) :
    ∃ rs rs', (respond ⟨c, g, none⟩ parallel queries :
        Outcome (DocumentError α) (List (Response α))) = .value rs ∧
      (respond ⟨c', g', none⟩ parallel' queries :
        Outcome (DocumentError α) (List (Response α))) = .value rs' ∧
      rs.map Response.withoutItems = rs'.map Response.withoutItems := by
  simp only [respond_eq_mapM]
  induction queries with
  | nil => exact ⟨[], [], rfl, rfl, rfl⟩
  | cons q rest ih =>
      obtain ⟨r, r', hr, hr', halike⟩ := alike_answer hc hc' e e' hg hg' q
      obtain ⟨rs, rs', hrs, hrs', hall⟩ := ih
      refine ⟨r :: rs, r' :: rs', ?_, ?_, by rw [List.map_cons, List.map_cons, halike, hall]⟩
      · rw [List.mapM_cons, hr, Outcome.value_bind, hrs]
        rfl
      · rw [List.mapM_cons, hr', Outcome.value_bind, hrs']
        rfl

end Network

/-! ## Documents -/

namespace Document

/-- A document is answered exactly if its catalogue loads, its graph is built and the network
answers. -/
theorem respond_eq_value_iff {d : Document α} {parallel : Bool} {rs : List (Response α)} :
    d.respond parallel = .value rs ↔ ∃ c g, Catalogue.ofRequests d.baseRequests = .value c ∧
      JourneyGraph.build d.settings c = .value g ∧
      (Network.respond ⟨c, g, none⟩ parallel d.queries :
        Outcome (DocumentError α) (List (Response α))) = .value rs := by
  simp only [respond, network, Outcome.bind_eq_value_iff, Outcome.mapFailure_eq_value_iff,
    Outcome.pure_eq, Outcome.value.injEq]
  constructor
  · rintro ⟨n, ⟨c, hc, g, hg, rfl⟩, hrs⟩
    exact ⟨c, g, hc, hg, hrs⟩
  · rintro ⟨c, g, hc, hg, hrs⟩
    exact ⟨_, ⟨c, hc, g, hg, rfl⟩, hrs⟩

variable [TravelQuantity α]

/-- A document that is answered is answered alike in any other order. -/
theorem exists_respond_of_perm {d : Document α} {requests : List (BaseRequest α)}
    (hperm : d.baseRequests.Perm requests)
    (hstops : (d.baseRequests.filterMap BaseRequest.stopName?).Nodup)
    (hbuses : (d.baseRequests.filterMap BaseRequest.busName?).Nodup) {parallel : Bool}
    (parallel' : Bool) {rs : List (Response α)} (h : d.respond parallel = .value rs) :
    ∃ rs', { d with baseRequests := requests }.respond parallel' = .value rs' ∧
      rs.map Response.withoutItems = rs'.map Response.withoutItems := by
  obtain ⟨c, g, hload, hg, hrs⟩ := respond_eq_value_iff.1 h
  obtain ⟨c', hload'⟩ := Catalogue.exists_ofRequests_iff.2
    ((Catalogue.exists_ofRequests_iff.1 ⟨c, hload⟩).perm hperm)
  have hc := (Catalogue.reachable_of_ofRequests hload).wellFormed
  have hc' := (Catalogue.reachable_of_ofRequests hload').wellFormed
  have hdescribes := Catalogue.describes_of_ofRequests hload hstops hbuses
  have hdescribes' := (Catalogue.describes_of_ofRequests hload'
    ((hperm.filterMap _).nodup_iff.1 hstops) ((hperm.filterMap _).nodup_iff.1 hbuses)).perm
    hperm.symm
  let e := hdescribes.embedding hdescribes' hc hc'
  let e' := hdescribes'.embedding hdescribes hc' hc
  obtain ⟨g', hg'⟩ := Network.exists_build hc hc' e e' hg
  obtain ⟨rs₁, rs', hrs₁, hrs', halike⟩ :=
    Network.exists_respond hc hc' e e' hg hg' parallel parallel' d.queries
  obtain rfl : rs₁ = rs := Outcome.value.inj (hrs₁.symm.trans hrs)
  exact ⟨rs', respond_eq_value_iff.2 ⟨c', g', hload', hg', hrs'⟩, halike⟩

/-- **The order of the description does not matter.** A description in which no two stops and no two
buses have one name can be put in any other order: the document is answered in both orders or in
neither, and the responses are the same but for the steps of routes, whose totals are equal. -/
theorem respond_perm (d : Document α) {requests : List (BaseRequest α)}
    (hperm : d.baseRequests.Perm requests)
    (hstops : (d.baseRequests.filterMap BaseRequest.stopName?).Nodup)
    (hbuses : (d.baseRequests.filterMap BaseRequest.busName?).Nodup) (parallel parallel' : Bool) :
    ((∃ rs, d.respond parallel = .value rs) ↔
      ∃ rs, { d with baseRequests := requests }.respond parallel' = .value rs) ∧
    ∀ rs rs', d.respond parallel = .value rs →
      { d with baseRequests := requests }.respond parallel' = .value rs' →
      rs.map Response.withoutItems = rs'.map Response.withoutItems := by
  refine ⟨⟨?_, ?_⟩, ?_⟩
  · rintro ⟨rs, hrs⟩
    obtain ⟨rs', hrs', -⟩ := exists_respond_of_perm hperm hstops hbuses parallel' hrs
    exact ⟨rs', hrs'⟩
  · rintro ⟨rs, hrs⟩
    obtain ⟨rs', hrs', -⟩ := exists_respond_of_perm hperm.symm
      ((hperm.filterMap _).nodup_iff.1 hstops) ((hperm.filterMap _).nodup_iff.1 hbuses) parallel hrs
    exact ⟨rs', hrs'⟩
  · intro rs rs' hrs hrs'
    obtain ⟨rs₁, hrs₁, halike⟩ := exists_respond_of_perm hperm hstops hbuses parallel' hrs
    obtain rfl : rs₁ = rs' := Outcome.value.inj (hrs₁.symm.trans hrs')
    exact halike

/-- A document about the avenue, the longest way along it being asked for. -/
def aboutAvenue : Document Float :=
  ⟨JourneyGraph.avenue, .standard, false, [.route 1 "Airport" "Castle", .stop 2 "Bridge"]⟩

/-- The avenue can as well be described from its end. -/
theorem respond_perm_avenue : ∃ rs,
    { aboutAvenue with baseRequests := JourneyGraph.avenue.reverse }.respond true = .value rs ∧
      rs.map Response.withoutItems = [.route 1 8.25 [], .stop 2 ["1"]] := by
  have hrespond : aboutAvenue.respond false =
      .value [.route 1 8.25 [.wait "Airport" 6, .ride "1" 2 2.25], .stop 2 ["1"]] := by
    decide +kernel
  obtain ⟨hiff, hsame⟩ := respond_perm aboutAvenue (List.reverse_perm _).symm (by decide +kernel)
    (by decide +kernel) false true
  obtain ⟨rs, hrs⟩ := hiff.1 ⟨_, hrespond⟩
  exact ⟨rs, hrs, (hsame _ _ hrespond hrs).symm⟩

end Document

end BusNetwork
