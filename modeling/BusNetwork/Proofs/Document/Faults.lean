import BusNetwork.Proofs.Document.Reading
import BusNetwork.Proofs.Document.Responses
import BusNetwork.Proofs.JourneyGraph.Agreement

/-!
# What is wrong with a document

`Document.fault? d` looks for what is wrong with a document without loading it, building its
journeys or answering it. There are five sorts of faults, in this order: a stop that stands nowhere
on the earth, a road that leads nowhere or has no length, a bus that lists a stop which is not
described, a speed that is no positive number, and a hop without a road. **A document is refused for
the first of them, and answered if there is none** (`respond_refused_iff`).

Of the definitions of a bus only the last one is looked at for hops without a road, but all of them
for stops that are not described.
-/

set_option linter.unusedSectionVars false

namespace BusNetwork

variable {α : Type}

/-! ## Looking for hops without a road -/

section

variable [Quantity α]

/-- What is wrong with a hop by name: no road between its ends is described. -/
def missingRoad? (requests : List (BaseRequest α)) (hop : String × String) :
    Option (CatalogueError α) :=
  if HasRoad requests hop.1 hop.2 ∨ HasRoad requests hop.2 hop.1 then none
  else some (.noDistanceData hop.1 hop.2)

/-- What is wrong with the first hop of a bus with which anything is. -/
def missingRoadAlong? (requests : List (BaseRequest α)) (definition : List String × Bool) :
    Option (CatalogueError α) :=
  (hopsAlong ((RouteKind.ofRoundTrip definition.2).run definition.1)).findSome?
    (missingRoad? requests)

/-- What is wrong with the first bus with which anything is, by its last definition. -/
def firstMissingRoad? (requests : List (BaseRequest α)) : Option (CatalogueError α) :=
  (busNames requests).findSome? fun name =>
    (lastDefinition? requests name).bind (missingRoadAlong? requests)

end

namespace Catalogue.Loaded

variable [Trigonometry α] {requests : List (BaseRequest α)} {c : Catalogue α}

/-- A hop of the catalogue is what it is by name. -/
theorem hopFault?_eq (hc : c.Loaded requests) {origin target : String} {a b : StopId}
    (ha : c.findStop origin = some a) (hb : c.findStop target = some b) :
    c.hopFault? (a, b) = missingRoad? requests (origin, target) := by
  have hdistinct := hc.reachable.wellFormed.stops_distinct
  have hroad : (∃ meters, c.distance? a b = some meters) ↔
      HasRoad requests origin target ∨ HasRoad requests target origin := by
    rw [← hc.exists_recorded_iff ha hb, ← hc.exists_recorded_iff hb ha, distance?]
    cases c.distances.get? (a, b) <;> simp
  unfold hopFault? missingRoad?
  cases hmeters : c.distance? a b with
  | some meters => rw [if_pos (hroad.1 ⟨meters, hmeters⟩)]
  | none =>
      have hnone : ¬ (HasRoad requests origin target ∨ HasRoad requests target origin) := by
        rw [← hroad]
        simp [hmeters]
      rw [if_neg hnone]
      simp only [(findStop_eq_some_iff hdistinct).1 ha, (findStop_eq_some_iff hdistinct).1 hb]
      rfl

/-- A bus of the catalogue is what its definition is. -/
theorem lineFault?_eq (hc : c.Loaded requests) {definition : List String × Bool} {line : Bus}
    (h : c.Follows definition line) :
    c.lineFault? line = missingRoadAlong? requests definition := by
  obtain ⟨hkind, hstops⟩ := h
  have hhops := forall₂_hopsAlong ((RouteKind.ofRoundTrip definition.2).forall₂_run hstops)
  rw [← hkind, ← line.traversal_eq_run] at hhops
  unfold lineFault? missingRoadAlong?
  symm
  apply Outcome.findSome?_eq_of_forall₂
  rw [← hkind]
  exact hhops.imp fun names hop h => (hc.hopFault?_eq h.1 h.2).symm

/-- The buses of the catalogue are what they are by name. -/
theorem busFault?_eq (hc : c.Loaded requests) : c.busFault? = firstMissingRoad? requests := by
  unfold busFault? firstMissingRoad?
  rw [← hc.names_buses, List.findSome?_map]
  apply Outcome.findSome?_congr
  rintro ⟨name, line⟩ hmem
  obtain ⟨bus, hbus⟩ := List.mem_iff_getElem?.1 hmem
  have hline : c.buses.get? name = some line :=
    (Register.get?_eq_some_iff hc.reachable.wellFormed.buses_distinct).2 ⟨bus, hbus⟩
  have hlast := hc.get?_buses name
  rw [hline] at hlast
  cases hdefinition : lastDefinition? requests name with
  | none =>
      rw [hdefinition] at hlast
      cases hlast
  | some definition =>
      rw [hdefinition] at hlast
      cases hlast with
      | some hfollows =>
          rw [Function.comp_apply, hdefinition]
          exact hc.lineFault?_eq hfollows

end Catalogue.Loaded

/-! ## Looking for what is wrong with a document -/

/-- The entry with its roads in the order of their far ends. -/
def BaseRequest.byTarget : BaseRequest α → BaseRequest α
  | stop name latitude longitude roads =>
    stop name latitude longitude (roads.mergeSort fun road other => decide (road.1 ≤ other.1))
  | bus name stops isRoundTrip => bus name stops isRoundTrip

namespace Document

variable [Trigonometry α]

/-- What is wrong with a document: the first fault of the first sort of which there is any. -/
def fault? (d : Document α) : Option (DocumentError α) :=
  ((d.baseRequests.findSome? BaseRequest.placeFault?).map .load).or <|
  ((d.baseRequests.findSome? fun r => r.byTarget.roadsFault? d.baseRequests).map
    fun e => .load (.catalogue e)).or <|
  ((d.baseRequests.findSome? (BaseRequest.stopsFault? d.baseRequests)).map
    fun e => .load (.catalogue e)).or <|
  (d.settings.fault?.map fun e => .routing (.settings e)).or <|
  (firstMissingRoad? d.baseRequests).map fun e => .routing (.catalogue e)

/-- Roads that are in order stay as they are. -/
theorem byTarget_eq {d : Document α} (hd : d.RoadsAscending) {r : BaseRequest α}
    (hr : r ∈ d.baseRequests) : r.byTarget = r := by
  cases r with
  | bus => rfl
  | stop name latitude longitude roads =>
      have hroads : roads.Pairwise fun road other => road.1 < other.1 := hd _ hr
      simp only [BaseRequest.byTarget]
      rw [List.mergeSort_of_pairwise]
      exact hroads.imp fun h => by simpa using h.le

/-- With its roads in order, a document has the faults of its description, then those of its
settings and then those of its buses. -/
theorem fault?_eq {d : Document α} (hd : d.RoadsAscending) :
    d.fault? = ((loadFault? d.baseRequests).map .load).or
      (((d.settings.fault?.map .settings).or
        ((firstMissingRoad? d.baseRequests).map .catalogue)).map .routing) := by
  have hroads : (d.baseRequests.findSome? fun r => r.byTarget.roadsFault? d.baseRequests) =
      d.baseRequests.findSome? (BaseRequest.roadsFault? d.baseRequests) :=
    Outcome.findSome?_congr fun r hr => by rw [byTarget_eq hd hr]
  unfold fault? loadFault?
  simp only [hroads, Option.map_or, Option.map_map, Option.or_assoc]
  rfl

/-! ## What a document is refused for -/

/-- A document is loaded and its journeys are built, or it has a fault. -/
theorem network_decidedBy {d : Document α} (hd : d.RoadsAscending) :
    d.network.DecidedBy d.fault? fun n => ∃ c g, c.Loaded d.baseRequests ∧
      JourneyGraph.build d.settings c = .value g ∧ n = ⟨c, g, none⟩ := by
  rw [fault?_eq hd]
  refine ((Catalogue.ofRequests_decidedBy _).mapFailure _).bind fun c hc => ?_
  have hloaded := Catalogue.loaded_of_ofRequests hc
  have hbuild := JourneyGraph.build_decidedBy d.settings hloaded.reachable.wellFormed
  rw [hloaded.busFault?_eq] at hbuild
  exact ((hbuild.imp fun _ hg _ => hg).mapFailure _).bind_value fun g hg =>
    ⟨_, rfl, c, g, hloaded, hg, rfl⟩

/-- A document is answered, or it has a fault. -/
theorem respond_decidedBy {d : Document α} (hd : d.RoadsAscending) (parallel : Bool) :
    (d.respond parallel).DecidedBy d.fault? fun _ => True := by
  refine (network_decidedBy hd).bind_value ?_
  rintro _ ⟨c, g, hloaded, hg, rfl⟩
  obtain ⟨rs, hrs, -⟩ := Network.exists_answered hloaded hg parallel d.queries
  exact ⟨rs, hrs _, trivial⟩

/-- **What a document is refused for.** It is refused for its first fault, in the order of the sorts
of faults and then of the description, and it is answered if it has none. -/
theorem respond_refused_iff {d : Document α} (hd : d.RoadsAscending) (parallel : Bool) :
    (∀ e, d.respond parallel = .failed e ↔ d.fault? = some e) ∧
      ((∃ rs, d.respond parallel = .value rs) ↔ d.fault? = none) :=
  ⟨fun _ => (respond_decidedBy hd parallel).eq_failed_iff,
    (respond_decidedBy hd parallel).exists_value_iff⟩

/-- The avenue with buses that stand still and a former definition of its bus, over a stop that is
not described. -/
def muddledAvenue : Document Float :=
  { aboutAvenue with
    baseRequests := .bus "1" ["Airport", "Depot"] true :: JourneyGraph.avenue
    settings := ⟨6, 0⟩ }

/-- The former definition of the bus is what it is refused for. -/
theorem respond_refused_avenue : muddledAvenue.RoadsAscending ∧
    muddledAvenue.respond true = .failed (.load (.catalogue (.unknownStop "Depot"))) := by
  have hroads : muddledAvenue.RoadsAscending := by decide +kernel
  have hfault : muddledAvenue.fault? = some (.load (.catalogue (.unknownStop "Depot"))) := by
    decide +kernel
  exact ⟨hroads, ((respond_refused_iff hroads true).1 _).2 hfault⟩

end Document

end BusNetwork
