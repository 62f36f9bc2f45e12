import BusNetwork.Proofs.Graph
import BusNetwork.Proofs.JourneyGraph.Parts

/-!
# What a built journey graph is

`JourneyGraph.Built settings c served milestones g` says of a graph everything there is to say: the
stops `served` have vertices, the `milestones` are those of the buses, and the edges with their
labels are the waits at the one and the rides over the other. **Building gives such a graph or fails
by a rule** (`exists_built`, `exists_build_iff`): it fails if the settings do not pass their check
or some hop of a bus has no length, and for no other reason.

`Built.mem_legs_iff`, `Built.exists_leg` and `Built.exists_edge` read the edges without their order.
-/

set_option linter.unusedSectionVars false

namespace BusNetwork

variable {α : Type} [Quantity α] {settings : Settings α} {c : Catalogue α} {g : JourneyGraph α}

namespace JourneyGraph

/-- The vertices of stops that are served in the given order. -/
def verticesOf (served : List StopId) (stop : StopId) : StopVertices :=
  .ofRank (served.idxOf stop)

/-- All waits by stop, then all rides by bus. -/
def legs (settings : Settings α) (served : List StopId) (milestones : List (List (Milestone α))) :
    List (Leg α) :=
  served.map (Leg.wait settings (verticesOf served)) ++
    milestones.zipIdx.flatMap fun entry =>
      Leg.rides settings (verticesOf served) entry.2 entry.1

/-- A graph of the waits at the stops `served` and of the rides over the `milestones`. -/
structure Built (settings : Settings α) (c : Catalogue α) (served : List StopId)
    (milestones : List (List (Milestone α))) (g : JourneyGraph α) : Prop where
  /-- Speed is a positive number. -/
  check_settings : settings.check = .ok ()
  /-- The milestones are those of the buses. -/
  milestones_eq :
    List.Forall₂ (fun entry ms => Milestone.ofTraversal c entry.2.traversal = .value ms)
      c.buses.entries milestones
  /-- No stop is served twice. -/
  nodup_served : served.Nodup
  /-- The stops served are those of the traversals. -/
  mem_served_iff {stop : StopId} : stop ∈ served ↔
    ∃ bus name line, c.buses.at? bus = some (name, line) ∧ stop ∈ line.traversal
  /-- A stop served has the vertices of its rank, any other has none. -/
  vertices?_eq {stop : StopId} : g.vertices? stop =
    if stop ∈ served then some (verticesOf served stop) else none
  /-- There are two vertices to a stop served. -/
  vertexCount_eq : g.graph.vertexCount = 2 * served.length
  /-- The graph is well formed. -/
  wellFormed : g.graph.WellFormed
  /-- The edges are those of the legs. -/
  edges_eq : g.graph.edges.toList = (legs settings served milestones).map (·.edge)
  /-- The labels are those of the legs. -/
  labels_eq : g.labels.toList = (legs settings served milestones).map (·.label)

/-! ## Adding legs -/

/-- Legs between vertices of a graph are added one after the other. -/
theorem addAll?_spec {legs : List (Leg α)} (hg : g.graph.WellFormed)
    (h : ∀ leg ∈ legs, leg.edge.source < g.graph.vertexCount ∧
      leg.edge.target < g.graph.vertexCount) :
    ∃ g', g.addAll? legs = some g' ∧ g'.graph.WellFormed ∧ g'.vertices = g.vertices ∧
      g'.graph.vertexCount = g.graph.vertexCount ∧
      g'.graph.edges.toList = g.graph.edges.toList ++ legs.map (·.edge) ∧
      g'.labels.toList = g.labels.toList ++ legs.map (·.label) := by
  induction legs generalizing g with
  | nil => exact ⟨g, rfl, hg, rfl, rfl, by simp, by simp⟩
  | cons first rest ih =>
      rw [List.forall_mem_cons] at h
      obtain ⟨graph, hadd, hgraph, hedges, hcount⟩ := hg.add? h.1.1 h.1.2
      have hrest : ∀ leg ∈ rest, leg.edge.source < graph.vertexCount ∧
          leg.edge.target < graph.vertexCount := by
        rw [hcount]
        exact h.2
      obtain ⟨g', hall, hg', hvertices, hcount', hedges', hlabels'⟩ :=
        @ih ⟨graph, g.labels.push first.label, g.vertices⟩ hgraph hrest
      refine ⟨g', ?_, hg', hvertices, hcount'.trans hcount, ?_, ?_⟩
      · rw [addAll?, List.foldlM_cons, add?, hadd]
        exact hall
      · rw [hedges', hedges]
        simp
      · rw [hlabels']
        simp

/-- Both vertices of a served stop are among those of the graph. -/
theorem rank_lt {served : List StopId} {stop : StopId} (h : stop ∈ served) :
    (verticesOf served stop).wait < 2 * served.length ∧
      (verticesOf served stop).ride < 2 * served.length := by
  have hpair : ∀ k n : Nat, k < n → 2 * k < 2 * n ∧ 2 * k + 1 < 2 * n := by omega
  exact hpair _ _ (List.idxOf_lt_length_of_mem h)

/-- The legs lead between the vertices of stops served. -/
theorem lt_of_mem_legs {served : List StopId} {milestones : List (List (Milestone α))}
    (h : ∀ ms ∈ milestones, ∀ m ∈ ms, m.stop ∈ served) {leg : Leg α}
    (hleg : leg ∈ legs settings served milestones) :
    leg.edge.source < 2 * served.length ∧ leg.edge.target < 2 * served.length := by
  rw [legs, List.mem_append, List.mem_map, List.mem_flatMap] at hleg
  rcases hleg with ⟨stop, hstop, rfl⟩ | ⟨entry, hentry, hleg⟩
  · exact rank_lt hstop
  · obtain ⟨i, j, boarding, leaving, -, hi, hj, rfl⟩ := Leg.mem_rides.1 hleg
    have hms := h entry.1 (List.fst_mem_of_mem_zipIdx hentry)
    exact ⟨(rank_lt (hms boarding (List.mem_of_getElem? hi))).2,
      (rank_lt (hms leaving (List.mem_of_getElem? hj))).1⟩

/-! ## Building -/

/-- Each bus gets the rides over its milestones. -/
theorem mapM_ridesOf (settings : Settings α) {vertices : Array (Option StopVertices)}
    {served : List StopId}
    (hv : ∀ stop ∈ served, vertices[stop]? = some (some (verticesOf served stop)))
    {entries : List (String × Bus)} {milestones : List (List (Milestone α))}
    (h : List.Forall₂ (fun entry ms => Milestone.ofTraversal c entry.2.traversal = .value ms)
      entries milestones)
    (hserved : ∀ entry ∈ entries, ∀ stop ∈ entry.2.traversal, stop ∈ served) :
    ∃ rides, (entries.zipIdx.mapM fun ((_, bus), id) =>
        Leg.ridesOf settings c vertices id bus) = .value rides ∧
      rides.flatten = milestones.zipIdx.flatMap fun entry =>
        Leg.rides settings (verticesOf served) entry.2 entry.1 := by
  refine ⟨milestones.zipIdx.map fun entry =>
    Leg.rides settings (verticesOf served) entry.2 entry.1, ?_, by rw [List.flatMap_def]⟩
  rw [Outcome.mapM_eq_value_iff, List.forall₂_map_right_iff]
  -- the ids count on from any first one
  suffices hfrom : ∀ n, List.Forall₂ (fun (entry : (String × Bus) × Nat)
      (ms : List (Milestone α) × Nat) =>
      Leg.ridesOf settings c vertices entry.2 entry.1.2 =
        .value (Leg.rides settings (verticesOf served) ms.2 ms.1))
      (entries.zipIdx n) (milestones.zipIdx n) from hfrom 0
  intro n
  induction h generalizing n with
  | nil => exact .nil
  | @cons entry ms _ _ hms _ ih =>
      rw [List.forall_mem_cons] at hserved
      refine .cons ?_ (ih hserved.2 (n + 1))
      have hnumbered : ∀ m ∈ ms, vertices[m.stop]? = some (some (verticesOf served m.stop)) := by
        intro m hm
        exact hv _ (hserved.1 _ (Milestone.stop_mem_traversal hms hm))
      simp [Leg.ridesOf, hms, Outcome.mapFailure, Leg.ridesOver_eq hnumbered]

/-- Exactly the stops that an allocation serves have vertices. -/
theorem vertices?_ofAllocation {a : Allocation} {n : Nat} (ha : a.Numbered n)
    (hlt : ∀ stop ∈ a.served, stop < n) (stop : StopId) :
    (ofAllocation a : JourneyGraph α).vertices? stop =
      if stop ∈ a.served then some (verticesOf a.served stop) else none := by
  unfold vertices? ofAllocation
  by_cases hsize : stop < n
  · rw [ha.vertices_eq hsize]
    rfl
  · rw [if_neg fun hstop => hsize (hlt stop hstop)]
    rw [Array.getElem?_eq_none (ha.size_vertices ▸ Nat.le_of_not_lt hsize)]
    rfl

/-- A stop served has its entry in the table of vertices. -/
theorem getElem?_vertices {a : Allocation} {n : Nat} (ha : a.Numbered n)
    (hlt : ∀ stop ∈ a.served, stop < n) :
    ∀ stop ∈ a.served, a.vertices[stop]? = some (some (verticesOf a.served stop)) := by
  intro stop hstop
  rw [ha.vertices_eq (hlt stop hstop), if_pos hstop]
  rfl

/-- Every stop served gets its wait. -/
theorem mapM_waitAt (settings : Settings α) {a : Allocation} {n : Nat} (ha : a.Numbered n)
    (hlt : ∀ stop ∈ a.served, stop < n) : a.served.mapM (Leg.waitAt settings a.vertices) =
      some (a.served.map fun stop => some (Leg.wait settings (verticesOf a.served) stop)) :=
  mapM_eq_some_map fun stop hstop => by
    simp [Leg.waitAt, getElem?_vertices ha hlt stop hstop, Leg.wait]

/-- The parts of a graph come to its legs. -/
theorem exists_legs (settings : Settings α) {a : Allocation} {n : Nat} (ha : a.Numbered n)
    (hlt : ∀ stop ∈ a.served, stop < n) {milestones : List (List (Milestone α))}
    (h : List.Forall₂ (fun entry ms => Milestone.ofTraversal c entry.2.traversal = .value ms)
      c.buses.entries milestones)
    (hserved : ∀ entry ∈ c.buses.entries, ∀ stop ∈ entry.2.traversal, stop ∈ a.served) :
    ∃ waits rides, a.served.mapM (Leg.waitAt settings a.vertices) = some waits ∧
      (c.buses.entries.zipIdx.mapM fun ((_, bus), id) =>
        Leg.ridesOf settings c a.vertices id bus) = .value rides ∧
      waits.filterMap id ++ rides.flatten = legs settings a.served milestones := by
  obtain ⟨rides, hrides, hflat⟩ := mapM_ridesOf settings (getElem?_vertices ha hlt) h hserved
  refine ⟨_, rides, mapM_waitAt settings ha hlt, hrides, ?_⟩
  rw [hflat, legs]
  simp [List.filterMap_map]

/-- The stops of the traversals are served. -/
theorem mem_served_of_entry {entry : String × Bus} (hentry : entry ∈ c.buses.entries) :
    ∀ stop ∈ entry.2.traversal, stop ∈ c.served := by
  intro stop hstop
  obtain ⟨bus, hbus⟩ := List.mem_iff_getElem?.1 hentry
  exact Catalogue.mem_served_iff.2 ⟨bus, entry.1, entry.2, hbus, hstop⟩

/-- The stops served are registered. -/
theorem lt_of_mem_served (hc : c.WellFormed) : ∀ stop ∈ c.served, stop < c.stops.size := by
  intro stop hstop
  obtain ⟨bus, name, line, hbus, hstop⟩ := Catalogue.mem_served_iff.1 hstop
  exact hc.lt_of_mem_traversal hbus hstop

/-- **A network whose settings pass their check and whose hops all have a length gets the graph that
it should.** -/
theorem built_of_milestones (hc : c.WellFormed) (hs : settings.check = .ok ())
    {milestones : List (List (Milestone α))}
    (h : List.Forall₂ (fun entry ms => Milestone.ofTraversal c entry.2.traversal = .value ms)
      c.buses.entries milestones) :
    ∃ g, build settings c = .value g ∧ Built settings c c.served milestones g := by
  obtain ⟨a, ha, hnumbered, hserved⟩ := Allocation.exists_ofCatalogue hc
  have hlt : ∀ stop ∈ a.served, stop < c.stops.size := hserved ▸ lt_of_mem_served hc
  have hentries : ∀ entry ∈ c.buses.entries, ∀ stop ∈ entry.2.traversal, stop ∈ a.served := by
    rw [hserved]
    exact fun entry => mem_served_of_entry
  have hstops : ∀ ms ∈ milestones, ∀ m ∈ ms, m.stop ∈ a.served := by
    intro ms hms m hm
    obtain ⟨entry, hentry, heq⟩ := exists_mem_of_forall₂ h hms
    exact hentries entry hentry _ (Milestone.stop_mem_traversal heq hm)
  obtain ⟨waits, rides, hwaits, hrides, hlegs⟩ :=
    exists_legs settings hnumbered hlt h hentries
  have hempty : (ofAllocation a : JourneyGraph α).graph.WellFormed :=
    Graph.WellFormed.ofVertexCount _
  have hends : ∀ leg ∈ legs settings a.served milestones,
      leg.edge.source < (ofAllocation a : JourneyGraph α).graph.vertexCount ∧
        leg.edge.target < (ofAllocation a : JourneyGraph α).graph.vertexCount := by
    unfold ofAllocation
    rw [Graph.vertexCount_ofVertexCount]
    exact fun leg => lt_of_mem_legs hstops
  obtain ⟨g, hg, hwell, hvertices, hcount, hedges, hlabels⟩ := addAll?_spec hempty hends
  rw [← hserved]
  refine ⟨g, ?_, ⟨hs, h, hnumbered.nodup_served, ?_, ?_, ?_, hwell, ?_, ?_⟩⟩
  · simp only [build, hs, ha, hwaits, hrides, hlegs, hg, Outcome.ofExcept, Outcome.mapFailure,
      Outcome.ofLookup, Outcome.value_bind, Outcome.liftM_some]
  · rw [hserved]
    exact Catalogue.mem_served_iff
  · intro stop
    unfold vertices?
    rw [hvertices]
    exact vertices?_ofAllocation hnumbered hlt stop
  · rw [hcount, ofAllocation, Graph.vertexCount_ofVertexCount]
  · rw [hedges]
    simp [ofAllocation, Graph.ofVertexCount]
  · rw [hlabels]
    simp [ofAllocation]

/-- What building needs: settings that pass their check, and a length for every hop. -/
theorem of_build (h : build settings c = .value g) :
    settings.check = .ok () ∧ ∀ bus name line, c.buses.at? bus = some (name, line) →
      ∀ hop ∈ line.hops, ∃ meters, c.distance? hop.1 hop.2 = some meters := by
  obtain ⟨⟨⟩, hs, h⟩ := Outcome.bind_eq_value_iff.1 h
  obtain ⟨a, -, h⟩ := Outcome.bind_eq_value_iff.1 h
  obtain ⟨waits, -, h⟩ := Outcome.bind_eq_value_iff.1 h
  obtain ⟨rides, hrides, -⟩ := Outcome.bind_eq_value_iff.1 h
  refine ⟨by simpa using hs, ?_⟩
  intro bus name line hbus
  have hmem : ((name, line), bus) ∈ c.buses.entries.zipIdx :=
    List.mk_mem_zipIdx_iff_getElem?.2 hbus
  obtain ⟨legs, -, hlegs⟩ := exists_mem_of_forall₂ (Outcome.mapM_eq_value_iff.1 hrides).flip hmem
  obtain ⟨milestones, hmilestones, -⟩ := Outcome.bind_eq_value_iff.1 hlegs
  exact Milestone.exists_ofTraversal.1 ⟨milestones, by simpa using hmilestones⟩

/-- **Building gives the graph that it should where there is what it needs.** -/
theorem exists_built_of (hc : c.WellFormed) (hs : settings.check = .ok ())
    (hhops : ∀ bus name line, c.buses.at? bus = some (name, line) →
      ∀ hop ∈ line.hops, ∃ meters, c.distance? hop.1 hop.2 = some meters) :
    ∃ g milestones, build settings c = .value g ∧ Built settings c c.served milestones g := by
  have hmilestones : ∀ entry ∈ c.buses.entries,
      ∃ ms, Milestone.ofTraversal c entry.2.traversal = .value ms := by
    rintro ⟨name, line⟩ hmem
    obtain ⟨bus, hbus⟩ := List.mem_iff_getElem?.1 hmem
    exact Milestone.exists_ofTraversal.2 (hhops bus name line hbus)
  obtain ⟨milestones, h⟩ := exists_forall₂ hmilestones
  obtain ⟨g, hg, hbuilt⟩ := built_of_milestones hc hs h
  exact ⟨g, milestones, hg, hbuilt⟩

/-- A graph is built exactly if the settings are accepted and every hop of every bus has a
distance. -/
theorem exists_build_iff (hc : c.WellFormed) : (∃ g, build settings c = .value g) ↔
    settings.check = .ok () ∧ ∀ bus name line, c.buses.at? bus = some (name, line) →
      ∀ hop ∈ line.hops, ∃ meters, c.distance? hop.1 hop.2 = some meters := by
  constructor
  · exact fun ⟨g, h⟩ => of_build h
  · rintro ⟨hs, hhops⟩
    obtain ⟨g, _, hg, -⟩ := exists_built_of hc hs hhops
    exact ⟨g, hg⟩

/-- A graph that was built is the one that should be, over the stops in the order of serving. -/
theorem exists_built_served (hc : c.WellFormed) (h : build settings c = .value g) :
    ∃ milestones, Built settings c c.served milestones g := by
  obtain ⟨hs, hhops⟩ := of_build h
  obtain ⟨g', milestones, hg', hbuilt⟩ := exists_built_of hc hs hhops
  obtain rfl : g = g' := Outcome.value.inj (h.symm.trans hg')
  exact ⟨milestones, hbuilt⟩

/-- A graph that is built has the parts that are described of it. -/
theorem exists_built (hc : c.WellFormed) (h : build settings c = .value g) :
    ∃ served milestones, Built settings c served milestones g :=
  ⟨c.served, exists_built_served hc h⟩

/-! ## The edges without their order -/

namespace Built

variable {served : List StopId} {milestones : List (List (Milestone α))}

/-- A leg of the graph is a wait at a stop served, or the ride of a bus between two positions of its
traversal, the first before the second. -/
theorem mem_legs_iff (hg : Built settings c served milestones g) {leg : Leg α} :
    leg ∈ legs settings served milestones ↔
      (∃ stop ∈ served, leg = Leg.wait settings (verticesOf served) stop) ∨
      ∃ bus name line, c.buses.at? bus = some (name, line) ∧
        ∃ (i j : Nat) (boarding leaving : Milestone α), i < j ∧
          line.traversal[i]? = some boarding.stop ∧ line.traversal[j]? = some leaving.stop ∧
          c.roadTo? line i = some boarding.covered ∧ c.roadTo? line j = some leaving.covered ∧
          leg = Leg.ride settings (verticesOf served) bus boarding leaving (j - i) := by
  rw [legs, List.mem_append, List.mem_map, List.mem_flatMap]
  refine or_congr ⟨?_, ?_⟩ ⟨?_, ?_⟩
  · rintro ⟨stop, hstop, rfl⟩
    exact ⟨stop, hstop, rfl⟩
  · rintro ⟨stop, hstop, rfl⟩
    exact ⟨stop, hstop, rfl⟩
  · rintro ⟨⟨ms, bus⟩, hms, hleg⟩
    obtain ⟨i, j, boarding, leaving, hij, hi, hj, rfl⟩ := Leg.mem_rides.1 hleg
    obtain ⟨⟨name, line⟩, hbus, heq⟩ := exists_getElem?_of_forall₂ hg.milestones_eq
      (List.mk_mem_zipIdx_iff_getElem?.1 hms)
    obtain ⟨hi, hroad⟩ := (Milestone.getElem?_ofTraversal heq).1 hi
    obtain ⟨hj, hroad'⟩ := (Milestone.getElem?_ofTraversal heq).1 hj
    exact ⟨bus, name, line, hbus, i, j, boarding, leaving, hij, hi, hj, hroad, hroad', rfl⟩
  · rintro ⟨bus, name, line, hbus, i, j, boarding, leaving, hij, hi, hj, hroad, hroad', rfl⟩
    obtain ⟨ms, hms, heq⟩ := exists_getElem?_of_forall₂ hg.milestones_eq.flip hbus
    exact ⟨(ms, bus), List.mk_mem_zipIdx_iff_getElem?.2 hms, Leg.mem_rides.2 ⟨i, j, boarding,
      leaving, hij, (Milestone.getElem?_ofTraversal heq).2 ⟨hi, hroad⟩,
      (Milestone.getElem?_ofTraversal heq).2 ⟨hj, hroad'⟩, rfl⟩⟩

/-- Every edge is that of a leg, under whose label it is kept. -/
theorem exists_leg (hg : Built settings c served milestones g) {id : EdgeId} {edge : Edge α}
    (h : g.graph.edges[id]? = some edge) :
    ∃ leg ∈ legs settings served milestones, leg.edge = edge ∧ g.labels[id]? = some leg.label := by
  rw [← Array.getElem?_toList, hg.edges_eq, List.getElem?_map, Option.map_eq_some_iff] at h
  obtain ⟨leg, hleg, rfl⟩ := h
  refine ⟨leg, List.mem_of_getElem? hleg, rfl, ?_⟩
  rw [← Array.getElem?_toList, hg.labels_eq, List.getElem?_map, hleg]
  rfl

/-- Every leg is an edge of the graph, kept under its label. -/
theorem exists_edge (hg : Built settings c served milestones g) {leg : Leg α}
    (h : leg ∈ legs settings served milestones) :
    ∃ id : EdgeId, g.graph.edges[id]? = some leg.edge ∧ g.labels[id]? = some leg.label := by
  obtain ⟨id, hid⟩ := List.mem_iff_getElem?.1 h
  refine ⟨id, ?_, ?_⟩
  · rw [← Array.getElem?_toList, hg.edges_eq, List.getElem?_map, hid]
    rfl
  · rw [← Array.getElem?_toList, hg.labels_eq, List.getElem?_map, hid]
    rfl

end Built

/-! ## Telling vertices apart -/

/-- The wait vertex of a stop is no stop's ride vertex, for one is even and the other odd. -/
theorem wait_ne_ride (served : List StopId) (s t : StopId) :
    (verticesOf served s).wait ≠ (verticesOf served t).ride := by
  have hparity : ∀ k n : Nat, 2 * k ≠ 2 * n + 1 := by omega
  exact hparity _ _

/-- Served stops with the same wait vertex are the same. -/
theorem wait_inj {served : List StopId} {s t : StopId} (hs : s ∈ served)
    (h : (verticesOf served s).wait = (verticesOf served t).wait) : s = t := by
  have hrank : ∀ k n : Nat, 2 * k = 2 * n → k = n := by omega
  exact (List.idxOf_inj hs).1 (hrank _ _ h)

/-- Served stops with the same ride vertex are the same. -/
theorem ride_inj {served : List StopId} {s t : StopId} (hs : s ∈ served)
    (h : (verticesOf served s).ride = (verticesOf served t).ride) : s = t := by
  have hrank : ∀ k n : Nat, 2 * k + 1 = 2 * n + 1 → k = n := by omega
  exact (List.idxOf_inj hs).1 (hrank _ _ h)

end JourneyGraph

end BusNetwork
