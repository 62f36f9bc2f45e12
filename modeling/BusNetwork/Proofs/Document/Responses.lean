import BusNetwork.Proofs.Document
import BusNetwork.Proofs.Loading.Repeats

/-!
# What each question of a document is answered with

A document that is answered has a description in which nothing is wrong, and then every question has
one of few responses. `Answered requests n` says which: **what is described is told, and what is not
is told as "not found"**. There is one response to a question, in the order of the questions
(`answered_of_respond`).

A bus without statistics never comes up: the journeys of a document are built before its questions
are answered, and with a hop that has no road they cannot be built.
-/

set_option linter.unusedSectionVars false

namespace BusNetwork

open Quantity

variable {α : Type} [Trigonometry α]

/-- The route that a network finds between two stops by name. -/
def Network.FindsRoute (n : Network α) (origin target : String) (route : Route α) : Prop :=
  ∃ a b, n.catalogue.findStop origin = some a ∧ n.catalogue.findStop target = some b ∧
    n.journeys.shortestRoute n.catalogue a b = .value route

/-- The response to each question about a network that has a description. -/
inductive Answered (requests : List (BaseRequest α)) (n : Network α) : Query → Response α → Prop
  /-- A bus that is described is told with its statistics. -/
  | bus {id : Int} {name : String} {s : BusStatistics α} :
    DeclaresBus requests name → n.catalogue.busInfo name = .value s →
    Answered requests n (.bus id name)
      (.bus id s.curvature (wholePart s.routeLength) s.stopCount s.uniqueStopCount)
  /-- Any other bus is not found. -/
  | busNotFound {id : Int} {name : String} :
    ¬ DeclaresBus requests name → Answered requests n (.bus id name) (.error id "not found")
  /-- A stop that is described is told with its buses. -/
  | stop {id : Int} {name : String} {buses : List String} :
    Declares requests name → n.catalogue.stopInfo name = .value buses →
    Answered requests n (.stop id name) (.stop id buses)
  /-- Any other stop is not found. -/
  | stopNotFound {id : Int} {name : String} :
    ¬ Declares requests name → Answered requests n (.stop id name) (.error id "not found")
  /-- A stop that is described is reached from itself at once. -/
  | stay {id : Int} {name : String} :
    Declares requests name → Answered requests n (.route id name name) (.route id zero [])
  /-- Between two stops that are described the route is told that is found. -/
  | route {id : Int} {origin target : String} {route : Route α} :
    Declares requests origin → Declares requests target → origin ≠ target →
    n.FindsRoute origin target route →
    Answered requests n (.route id origin target) (.route id route.totalTime route.items)
  /-- Any other route is not found. -/
  | routeNotFound {id : Int} {origin target : String} :
    ¬ (Declares requests origin ∧ Declares requests target ∧
      (origin = target ∨ ∃ route, n.FindsRoute origin target route)) →
    Answered requests n (.route id origin target) (.error id "not found")
  /-- There is never a map. -/
  | map {id : Int} :
    Answered requests n (.map id) (.error id "map rendering is not available")

namespace Answered

variable {requests : List (BaseRequest α)} {n : Network α} {q : Query} {r : Response α}

/-- The answer to a question carries the id of the question. -/
theorem id_eq (h : Answered requests n q r) : r.id = q.id := by
  cases h <;> rfl

/-- There are two messages only. -/
theorem message_eq (h : Answered requests n q r) {id : Int} {message : String}
    (hr : r = .error id message) :
    message = "not found" ∨ message = "map rendering is not available" := by
  cases h <;> cases hr
  case busNotFound => exact .inl rfl
  case stopNotFound => exact .inl rfl
  case routeNotFound => exact .inl rfl
  case map => exact .inr rfl

/-- Neither of them is that of a missing road. -/
theorem ne_noDistanceData (h : Answered requests n q r) (id : Int) (origin target : String) :
    r ≠ .error id (CatalogueError.noDistanceData origin target : CatalogueError α).message := by
  intro hr
  have hchars := fun message (heq : _ = message) =>
    congrArg String.toList (heq : "no distance data between " ++ origin ++ " and " ++ target = _)
  rcases h.message_eq hr with hmessage | hmessage
  · simpa using hchars _ hmessage
  · simpa using hchars _ hmessage

end Answered

/-! ## Every question has a response -/

namespace Network

variable {requests : List (BaseRequest α)} {settings : Settings α} {c : Catalogue α}
  {g : JourneyGraph α}

/-- Whether the outcome of a question is told by a response that it should have. -/
def IsAnswered (requests : List (BaseRequest α)) (n : Network α) (q : Query) : Prop :=
  ∃ r, (∀ ε, (Response.ofOutcome q.id (n.answer q) : Outcome ε (Response α)) = .value r) ∧
    Answered requests n q r

/-- A question about a bus. -/
theorem isAnswered_bus (hc : c.Loaded requests) (hg : JourneyGraph.build settings c = .value g)
    (id : Int) (name : String) : IsAnswered requests ⟨c, g, none⟩ (.bus id name) := by
  have hwell := hc.reachable.wellFormed
  by_cases hname : DeclaresBus requests name
  · obtain ⟨⟨_, line⟩, hmem, rfl⟩ :=
      List.mem_map.1 (hc.names_buses ▸ mem_busNames_iff.2 hname)
    obtain ⟨bus, hbus⟩ := List.mem_iff_getElem?.1 hmem
    obtain ⟨-, hhops⟩ := JourneyGraph.of_build hg
    obtain ⟨s, hs⟩ := hwell.exists_statistics hbus (hhops bus _ line hbus)
    rw [← hwell.busInfo_eq hbus] at hs
    exact ⟨_, fun ε => by simp only [answer, hs]; rfl, .bus hname hs⟩
  · have hnone : c.buses.get? name = none := by
      cases hline : c.buses.get? name with
      | none => rfl
      | some line =>
          obtain ⟨bus, hbus⟩ := (Register.get?_eq_some_iff hwell.buses_distinct).1 hline
          rw [← mem_busNames_iff, ← hc.names_buses] at hname
          exact absurd (List.mem_map_of_mem (List.mem_of_getElem? hbus)) hname
    exact ⟨_, fun ε => by simp only [answer, Catalogue.busInfo_eq, hnone]; rfl, .busNotFound hname⟩

/-- A question about a stop. -/
theorem isAnswered_stop (hc : c.Loaded requests) (id : Int) (name : String) :
    IsAnswered requests ⟨c, g, none⟩ (.stop id name) := by
  by_cases hname : Declares requests name
  · obtain ⟨s, hs⟩ := (hc.knows name).2 hname
    obtain ⟨entry, hentry⟩ :=
      (Catalogue.findStop_iff_at? hc.reachable.wellFormed.stops_distinct).1 hs
    have hinfo : c.stopInfo name = .value entry.buses := by
      simp only [Catalogue.stopInfo, Catalogue.askedStop, hs, Outcome.value_bind,
        Catalogue.getElem?_busesAtStop, hentry]
      rfl
    exact ⟨_, fun ε => by simp only [answer, hinfo]; rfl, .stop hname hinfo⟩
  · have hnone : c.findStop name = none := hc.knows.findStop_eq_none hname
    refine ⟨_, fun ε => ?_, .stopNotFound hname⟩
    simp only [answer, Catalogue.stopInfo, Catalogue.askedStop, hnone]
    rfl

/-- A question for a route. -/
theorem isAnswered_route (hc : c.Loaded requests) (hg : JourneyGraph.build settings c = .value g)
    (id : Int) (origin target : String) :
    IsAnswered requests ⟨c, g, none⟩ (.route id origin target) := by
  by_cases horigin : Declares requests origin
  swap
  · have hnone : c.findStop origin = none := hc.knows.findStop_eq_none horigin
    refine ⟨_, fun ε => ?_, .routeNotFound fun h => horigin h.1⟩
    simp only [answer, answerRoute, Catalogue.askedStop, hnone]
    rfl
  obtain ⟨a, ha⟩ := (hc.knows origin).2 horigin
  by_cases htarget : Declares requests target
  swap
  · have hnone : c.findStop target = none := hc.knows.findStop_eq_none htarget
    refine ⟨_, fun ε => ?_, .routeNotFound fun h => htarget h.2.1⟩
    simp only [answer, answerRoute, Catalogue.askedStop, ha, hnone]
    rfl
  obtain ⟨b, hb⟩ := (hc.knows target).2 htarget
  have hanswer : answerRoute ⟨c, g, none⟩ origin target =
      (((g.shortestRoute c a b).mapFailure fun _ => .unreachable origin target) >>= fun route =>
        pure (.route route)) := by
    simp only [answerRoute, Catalogue.askedStop, ha, hb]
    rfl
  by_cases hsame : origin = target
  · subst hsame
    obtain rfl : a = b := Option.some.inj (ha.symm.trans hb)
    refine ⟨_, fun ε => ?_, .stay horigin⟩
    simp only [answer, hanswer, JourneyGraph.shortestRoute_self]
    rfl
  rcases JourneyGraph.exists_route_or_unreachable hc.reachable.wellFormed hg a b with
    ⟨route, hroute⟩ | hnone
  · refine ⟨_, fun ε => ?_, .route horigin htarget hsame ⟨a, b, ha, hb, hroute⟩⟩
    simp only [answer, hanswer, hroute]
    rfl
  · refine ⟨_, fun ε => ?_, .routeNotFound ?_⟩
    · simp only [answer, hanswer, hnone]
      rfl
    · rintro ⟨-, -, heq | ⟨route, a', b', ha', hb', hroute⟩⟩
      · exact hsame heq
      · obtain rfl : a = a' := Option.some.inj (ha.symm.trans ha')
        obtain rfl : b = b' := Option.some.inj (hb.symm.trans hb')
        rw [hnone] at hroute
        cases hroute

/-- **Every question has a response, and it is the one that it should have.** -/
theorem isAnswered (hc : c.Loaded requests) (hg : JourneyGraph.build settings c = .value g)
    (q : Query) : IsAnswered requests ⟨c, g, none⟩ q := by
  cases q with
  | bus id name => exact isAnswered_bus hc hg id name
  | stop id name => exact isAnswered_stop hc id name
  | route id origin target => exact isAnswered_route hc hg id origin target
  | map id => exact ⟨_, fun ε => rfl, .map⟩

/-- A batch of questions has the responses that it should have. -/
theorem exists_answered (hc : c.Loaded requests) (hg : JourneyGraph.build settings c = .value g)
    (parallel : Bool) (queries : List Query) :
    ∃ rs, (∀ ε, (respond ⟨c, g, none⟩ parallel queries : Outcome ε (List (Response α))) =
      .value rs) ∧ List.Forall₂ (Answered requests ⟨c, g, none⟩) queries rs := by
  obtain ⟨rs, h⟩ := exists_forall₂ fun q (_ : q ∈ queries) => isAnswered hc hg q
  refine ⟨rs, fun ε => ?_, h.imp fun q r hr => hr.2⟩
  rw [respond_eq_mapM, Outcome.mapM_eq_value_iff]
  exact h.imp fun q r hr => hr.1 ε

end Network

namespace Document

/-- **What the questions of a document are answered with.** If a document is answered at all, its
questions one after the other or all at once, then each question has one response, under its own
number and in its own place: what the description has is told, what it has not is not found, and
there is no map. No response tells of a missing road. -/
theorem answered_of_respond {d : Document α} {parallel : Bool} {rs : List (Response α)}
    (h : d.respond parallel = .value rs) :
    ∃ n, d.network = .value n ∧ List.Forall₂ (Answered d.baseRequests n) d.queries rs ∧
      rs.map Response.id = d.queries.map Query.id ∧
      ∀ r ∈ rs, ∀ id origin target, r ≠
        .error id (CatalogueError.noDistanceData origin target : CatalogueError α).message := by
  obtain ⟨c, g, hload, hg, hrs⟩ := respond_eq_value_iff.1 h
  have hnetwork : d.network = .value ⟨c, g, none⟩ := by
    rw [network, hload]
    change (JourneyGraph.build d.settings c).mapFailure _ >>= _ = _
    rw [hg]
    rfl
  obtain ⟨rs', hrs', hanswered⟩ :=
    Network.exists_answered (Catalogue.loaded_of_ofRequests hload) hg parallel d.queries
  obtain rfl : rs' = rs := Outcome.value.inj ((hrs' _).symm.trans hrs)
  refine ⟨_, hnetwork, hanswered, ?_, ?_⟩
  · symm
    rw [← List.forall₂_eq_eq_eq, List.forall₂_map_left_iff, List.forall₂_map_right_iff]
    exact hanswered.imp fun q r hr => hr.id_eq.symm
  · intro r hr id origin target
    obtain ⟨q, -, hq⟩ := exists_mem_of_forall₂ hanswered hr
    exact hq.ne_noDistanceData id origin target

/-- Questions about the avenue, some of which ask for what is not there. -/
def questionsOnAvenue : List Query :=
  [.bus 7 "2", .stop 8 "Bridge", .route 9 "Airport" "Castle", .map 10]

/-- The avenue has no second bus and no map. -/
theorem answered_avenue : ∃ n rs,
    { aboutAvenue with queries := questionsOnAvenue }.respond false = .value rs ∧
    List.Forall₂ (Answered JourneyGraph.avenue n) questionsOnAvenue rs ∧
    rs = [.error 7 "not found", .stop 8 ["1"],
      .route 9 8.25 [.wait "Airport" 6, .ride "1" 2 2.25],
      .error 10 "map rendering is not available"] := by
  have hrespond : { aboutAvenue with queries := questionsOnAvenue }.respond false =
      .value [.error 7 "not found", .stop 8 ["1"],
        .route 9 8.25 [.wait "Airport" 6, .ride "1" 2 2.25],
        .error 10 "map rendering is not available"] := by
    decide +kernel
  obtain ⟨n, -, hanswered, -⟩ := answered_of_respond hrespond
  exact ⟨n, _, hrespond, hanswered, rfl⟩

end Document

end BusNetwork
