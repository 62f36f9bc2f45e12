import BusNetwork.Proofs.Route

/-!
# The layout of a journey graph: each vertex and each edge in its place

`JourneyGraph.LaidOut settings c g` says which graph a catalogue should have, to the last vertex and
edge, in terms of positions on traversals alone: which stop has which vertices, which edge comes as
the `k`th and what it stands for, how many there are, and which of them each vertex lists. **Every
graph that is built is laid out so** (`laidOut_of_build`).

* `positionPairs n` — the pairs `i < j` of positions below `n`, by the first and then by the second.
* `Leg.map_some_rides` — the rides over milestones are those between the pairs of their positions.
-/

namespace BusNetwork

variable {α : Type} [Quantity α]

/-! ## Pairs of positions -/

/-- The pairs of positions of `n` stops between which a bus can be ridden: by the position of
boarding, and then by that of leaving. -/
def positionPairs (n : Nat) : List (Nat × Nat) :=
  (List.range n).flatMap fun i => (List.range' (i + 1) (n - (i + 1))).map fun j => (i, j)

/-- With one stop more in front, it is boarded at first, and then the others as before. -/
theorem positionPairs_succ (n : Nat) : positionPairs (n + 1) =
    (List.range' 1 n).map (fun j => (0, j)) ++
      (positionPairs n).map (Prod.map (· + 1) (· + 1)) := by
  have hlater : ∀ i, (List.range' (i + 1 + 1) (n + 1 - (i + 1 + 1))).map (fun j => (i + 1, j)) =
      ((List.range' (i + 1) (n - (i + 1))).map fun j => (i, j)).map (Prod.map (· + 1) (· + 1)) := by
    intro i
    rw [Nat.add_sub_add_right, Nat.add_comm (i + 1) 1, ← List.map_add_range', List.map_map,
      List.map_map]
    apply List.map_congr_left
    intro j _
    simp [Nat.add_comm]
  unfold positionPairs
  rw [List.range_succ_eq_map, List.flatMap_cons, List.flatMap_map, List.map_flatMap]
  simp only [Nat.succ_eq_add_one, hlater, Nat.zero_add, Nat.add_sub_cancel]

/-- Twice the pairs of positions of a walk are its positions, each with every other one. -/
theorem two_mul_length_positionPairs (n : Nat) :
    2 * (positionPairs n).length = n * (n - 1) := by
  induction n with
  | zero => rfl
  | succ n ih =>
      rw [positionPairs_succ, List.length_append, List.length_map, List.length_map,
        List.length_range', Nat.mul_add, ih, Nat.add_sub_cancel]
      cases n with
      | zero => rfl
      | succ n =>
          rw [Nat.add_sub_cancel]
          ring

/-- There are as many pairs as there are ways to choose two of `n`. -/
theorem length_positionPairs (n : Nat) : (positionPairs n).length = n * (n - 1) / 2 := by
  rw [← two_mul_length_positionPairs, Nat.mul_div_cancel_left _ Nat.two_pos]

/-! ## Rides by positions -/

/-- The milestone at a position of a bus. -/
def Catalogue.milestone? (c : Catalogue α) (line : Bus) (p : Nat) : Option (Milestone α) := do
  let stop ← line.traversal[p]?
  let covered ← c.roadTo? line p
  some ⟨stop, covered⟩

/-- The ride of a bus from one position to another, from the second vertex of the one stop to the
first vertex of the other. -/
def Catalogue.ride? (settings : Settings α) (c : Catalogue α) (bus : BusId) (line : Bus)
    (i j : Nat) : Option (Leg α) :=
  (c.milestone? line i).bind fun boarding => (c.milestone? line j).map fun leaving =>
    ⟨⟨2 * c.served.idxOf boarding.stop + 1, 2 * c.served.idxOf leaving.stop,
      settings.rideMinutes (leaving.covered - boarding.covered)⟩, .ride bus (j - i)⟩

section

variable {settings : Settings α} {c : Catalogue α}

/-- The milestones of a bus stand at its positions. -/
theorem Milestone.getElem?_eq {line : Bus} {milestones : List (Milestone α)}
    (h : ofTraversal c line.traversal = .value milestones) (p : Nat) :
    milestones[p]? = c.milestone? line p := by
  ext m
  obtain ⟨stop, covered⟩ := m
  rw [getElem?_ofTraversal h]
  simp [Catalogue.milestone?, Option.bind_eq_some_iff]

/-- There is one milestone for the stop a walk begins at and one for each that follows. -/
theorem Milestone.length_follow {covered : α} {stop : StopId} {rest : List StopId}
    {milestones : List (Milestone α)} (h : follow c covered stop rest = .value milestones) :
    milestones.length = rest.length + 1 := by
  induction rest generalizing covered stop milestones with
  | nil =>
      obtain rfl : [⟨stop, covered⟩] = milestones := by simpa [follow] using h
      rfl
  | cons next rest ih =>
      obtain ⟨meters, -, h⟩ := Outcome.bind_eq_value_iff.1 h
      obtain ⟨later, hlater, h⟩ := Outcome.bind_eq_value_iff.1 h
      obtain rfl : ⟨stop, covered⟩ :: later = milestones := by simpa using h
      rw [List.length_cons, ih hlater, List.length_cons]

/-- A bus has as many milestones as positions. -/
theorem Milestone.length_ofTraversal {line : Bus} {milestones : List (Milestone α)}
    (h : ofTraversal c line.traversal = .value milestones) :
    milestones.length = line.traversal.length := by
  cases hstops : line.traversal with
  | nil =>
      obtain rfl : [] = milestones := by simpa [ofTraversal, hstops] using h
      rfl
  | cons first rest =>
      rw [hstops] at h
      exact length_follow h

/-- **The rides over milestones are those between the pairs of their positions**, in that order. -/
theorem Leg.map_some_rides (v : StopId → StopVertices) (bus : BusId)
    (milestones : List (Milestone α)) : (rides settings v bus milestones).map some =
      (positionPairs milestones.length).map fun p =>
        milestones[p.1]?.bind fun boarding => milestones[p.2]?.map fun leaving =>
          ride settings v bus boarding leaving (p.2 - p.1) := by
  induction milestones with
  | nil => rfl
  | cons first later ih =>
      have hfirst : ((later.zipIdx 1).map fun entry =>
          some (ride settings v bus first entry.1 entry.2)) =
          (List.range' 1 later.length).map fun j =>
            (first :: later)[j]?.map fun leaving => ride settings v bus first leaving j := by
        apply List.ext_getElem?
        intro k
        by_cases hk : k < later.length
        · simp [hk, Nat.add_comm 1 k]
        · simp [hk]
      rw [rides, List.map_append, ih, List.map_map, List.length_cons, positionPairs_succ,
        List.map_append, List.map_map, List.map_map]
      refine congrArg₂ (· ++ ·) hfirst ?_
      apply List.map_congr_left
      intro p _
      simp

end

namespace JourneyGraph

/-! ## The layout -/

/-- The edges of a graph with what they stand for. -/
def labelled (g : JourneyGraph α) : List (Leg α) :=
  List.zipWith Leg.mk g.graph.edges.toList g.labels.toList

/-- **The graph that a catalogue should have**, each vertex and each edge in its place. -/
structure LaidOut (settings : Settings α) (c : Catalogue α) (g : JourneyGraph α) : Prop where
  /-- The stop that is served as the `k`th has the vertices `2k` and `2k + 1`. -/
  vertices?_of_served {k : Nat} {stop : StopId} :
    c.served[k]? = some stop → g.vertices? stop = some ⟨2 * k, 2 * k + 1⟩
  /-- A stop that is not served has none. -/
  vertices?_of_not_served {stop : StopId} : stop ∉ c.served → g.vertices? stop = none
  /-- There are no other vertices. -/
  vertexCount_eq : g.graph.vertexCount = 2 * c.served.length
  /-- Each edge stands for one thing. -/
  size_labels : g.labels.size = g.graph.edgeCount
  /-- First comes a wait for every stop served, and then for every bus a ride between every two of
  its positions. -/
  labelled_eq : g.labelled.map some =
    (c.served.zipIdx.map fun (stop, k) =>
      some ⟨⟨2 * k, 2 * k + 1, settings.waitMinutes⟩, .wait stop⟩) ++
    c.buses.entries.zipIdx.flatMap fun ((_, line), bus) =>
      (positionPairs line.traversal.length).map fun (i, j) => c.ride? settings bus line i j
  /-- There are no other edges. -/
  edgeCount_eq : g.graph.edgeCount = c.served.length + (c.buses.entries.map fun (_, line) =>
    line.traversal.length * (line.traversal.length - 1) / 2).sum
  /-- A vertex lists the edges that leave it, ascending. -/
  incidence {vertex : VertexId} : vertex < g.graph.vertexCount →
    ∃ ids, g.graph.incidence[vertex]? = some ids ∧ ids.toList.Pairwise (· < ·) ∧
      ∀ id, id ∈ ids.toList ↔ ∃ edge, g.graph.edges[id]? = some edge ∧ edge.source = vertex

variable {settings : Settings α} {c : Catalogue α} {g : JourneyGraph α}

/-- The waits are those of the stops in the order of serving. -/
theorem map_wait_eq {served : List StopId} (hnodup : served.Nodup) :
    (served.map fun stop => some (Leg.wait settings (verticesOf served) stop)) =
      served.zipIdx.map fun (stop, k) =>
        some ⟨⟨2 * k, 2 * k + 1, settings.waitMinutes⟩, .wait stop⟩ := by
  apply List.ext_getElem?
  intro k
  rw [List.getElem?_map, List.getElem?_map, List.getElem?_zipIdx]
  cases hstop : served[k]? with
  | none => rfl
  | some stop =>
      obtain ⟨hk, rfl⟩ := List.getElem?_eq_some_iff.1 hstop
      simp [Leg.wait, verticesOf, StopVertices.ofRank, hnodup.idxOf_getElem]

/-- The rides are those between the positions of the buses. -/
theorem map_some_flatMap_rides {entries : List (String × Bus)}
    {milestones : List (List (Milestone α))}
    (h : List.Forall₂ (fun entry ms => Milestone.ofTraversal c entry.2.traversal = .value ms)
      entries milestones) :
    (milestones.zipIdx.flatMap fun entry =>
        Leg.rides settings (verticesOf c.served) entry.2 entry.1).map some =
      entries.zipIdx.flatMap fun ((_, line), bus) =>
        (positionPairs line.traversal.length).map fun (i, j) => c.ride? settings bus line i j := by
  -- the ids count on from any first one
  suffices hfrom : ∀ n, ((milestones.zipIdx n).flatMap fun entry =>
        Leg.rides settings (verticesOf c.served) entry.2 entry.1).map some =
      (entries.zipIdx n).flatMap fun ((_, line), bus) =>
        (positionPairs line.traversal.length).map fun (i, j) => c.ride? settings bus line i j from
    hfrom 0
  intro n
  induction h generalizing n with
  | nil => rfl
  | @cons entry ms _ _ hms _ ih =>
      rw [List.zipIdx_cons, List.zipIdx_cons, List.flatMap_cons, List.flatMap_cons, List.map_append,
        ih (n + 1), Leg.map_some_rides, Milestone.length_ofTraversal hms]
      simp only [Milestone.getElem?_eq hms]
      rfl

/-- A bus with `n` positions has `n * (n - 1) / 2` rides. -/
theorem length_flatMap_rides (entries : List (String × Bus)) :
    (entries.zipIdx.flatMap fun ((_, line), bus) =>
        (positionPairs line.traversal.length).map fun (i, j) =>
          c.ride? settings bus line i j).length =
      (entries.map fun (_, line) =>
        line.traversal.length * (line.traversal.length - 1) / 2).sum := by
  have hentries : entries = entries.zipIdx.map Prod.fst := (List.zipIdx_map_fst 0 entries).symm
  rw [List.length_flatMap]
  simp only [List.length_map, length_positionPairs]
  conv_rhs => rw [hentries, List.map_map]
  rfl

/-- **Every graph that is built is laid out as it should be.** -/
theorem laidOut_of_build (hc : c.Reachable) (h : build settings c = .value g) :
    g.LaidOut settings c := by
  obtain ⟨milestones, hg⟩ := exists_built_served hc.wellFormed h
  have hsize : g.labels.size = g.graph.edgeCount := by
    have hlength := congrArg List.length (hg.labels_eq)
    have hlength' := congrArg List.length (hg.edges_eq)
    rw [List.length_map] at hlength hlength'
    exact hlength.trans hlength'.symm
  have hlabelled : g.labelled = legs settings c.served milestones := by
    rw [labelled, hg.edges_eq, hg.labels_eq, List.zipWith_map, List.zipWith_self]
    exact List.map_id _
  have hlegs : g.labelled.map some = (c.served.zipIdx.map fun (stop, k) =>
        some ⟨⟨2 * k, 2 * k + 1, settings.waitMinutes⟩, .wait stop⟩) ++
      c.buses.entries.zipIdx.flatMap fun ((_, line), bus) =>
        (positionPairs line.traversal.length).map fun (i, j) => c.ride? settings bus line i j := by
    rw [hlabelled, legs, List.map_append, map_some_flatMap_rides hg.milestones_eq, List.map_map,
      ← map_wait_eq hg.nodup_served]
    rfl
  refine ⟨?_, ?_, hg.vertexCount_eq, hsize, hlegs, ?_, ?_⟩
  · intro k stop hstop
    obtain ⟨hk, rfl⟩ := List.getElem?_eq_some_iff.1 hstop
    rw [hg.vertices?_eq, if_pos (List.getElem_mem hk), verticesOf, hg.nodup_served.idxOf_getElem]
    rfl
  · intro stop hstop
    rw [hg.vertices?_eq, if_neg hstop]
  · have hlength := congrArg List.length hlegs
    rw [List.length_map, labelled, List.length_zipWith, Array.length_toList, Array.length_toList,
      hsize, Graph.edgeCount, Nat.min_self, List.length_append, List.length_map, List.length_zipIdx,
      length_flatMap_rides] at hlength
    exact hlength
  · intro vertex hvertex
    obtain ⟨ids, hids⟩ := Graph.exists_incidence hvertex
    refine ⟨ids, hids, ?_, fun id => hg.wellFormed.mem_incidence hids⟩
    rw [hg.wellFormed.toList_incidence hids]
    exact List.pairwise_lt_range.filter _

/-- The avenue has three waits, and ten rides between the five positions of its bus. -/
theorem laidOut_avenue : avenueJourneys.LaidOut .standard avenueCatalogue ∧
    avenueCatalogue.served = [0, 1, 2] ∧ avenueJourneys.graph.edgeCount = 3 + 5 * 4 / 2 := by
  have hlaid := laidOut_of_build reachable_avenueCatalogue build_avenueCatalogue
  refine ⟨hlaid, by decide +kernel, ?_⟩
  rw [hlaid.edgeCount_eq]
  decide +kernel

end JourneyGraph

end BusNetwork
