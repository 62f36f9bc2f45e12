import BusNetwork.JourneyGraph
import BusNetwork.Proofs.Catalogue
import Mathlib.Data.List.Induction

/-!
# The parts of a journey graph: vertices, milestones and legs

What the loops that build a journey graph come to, one by one.

* `Allocation.Numbered` — the stop that was served as the `k`th has the vertices `2k` and `2k + 1`,
  and no other stop has any. **Every well-formed catalogue gets such an allocation**, of the stops
  `Catalogue.served` that its buses serve (`Allocation.exists_ofCatalogue`).
* `Catalogue.roadTo?` — the road from the start of a bus to a position, hop by hop. The milestones
  of a traversal carry these roads (`Milestone.getElem?_ofTraversal`).
* `Leg.rides` — **one ride for every two positions of a traversal**, the first before the second
  (`Leg.mem_rides`), is what the code lists once all stops have vertices (`Leg.ridesOver_eq`).
-/

set_option linter.unusedSectionVars false

namespace BusNetwork

variable {α : Type}

/-! ## Vertices -/

/-- The vertices of the stop that was served as the `rank`th. -/
def StopVertices.ofRank (rank : Nat) : StopVertices := ⟨2 * rank, 2 * rank + 1⟩

namespace Allocation

variable {a : Allocation} {stop : StopId} {n : Nat}

/-- The vertices are numbered in the order of serving, for a number of stops. -/
structure Numbered (n : Nat) (a : Allocation) : Prop where
  /-- There is an entry for each stop. -/
  size_vertices : a.vertices.size = n
  /-- No stop is served twice. -/
  nodup_served : a.served.Nodup
  /-- The stops served have the vertices of their rank, and the others none. -/
  vertices_eq {stop : StopId} : stop < n → a.vertices[stop]? =
    some (if stop ∈ a.served then some (.ofRank (a.served.idxOf stop)) else none)

/-- Before the first stop is served the numbering is in order, and no stop has vertices. -/
theorem numbered_start (n : Nat) : (start n).Numbered n where
  size_vertices := by simp [start]
  nodup_served := List.nodup_nil
  vertices_eq h := by simp [start, h]

/-- A visit gives vertices to a stop that has none. -/
theorem visit_spec (ha : a.Numbered n) (h : stop < n) :
    ∃ a', a.visit stop = some a' ∧ a'.Numbered n ∧
      a'.served = if stop ∈ a.served then a.served else a.served ++ [stop] := by
  by_cases hserved : stop ∈ a.served
  · refine ⟨a, ?_, ha, by rw [if_pos hserved]⟩
    simp [visit, ha.vertices_eq h, hserved]
  · refine ⟨⟨a.vertices.setIfInBounds stop (some (.ofRank a.served.length)), a.served ++ [stop]⟩,
      ?_, ⟨?_, ?_, ?_⟩, by rw [if_neg hserved]⟩
    · simp [visit, ha.vertices_eq h, hserved, StopVertices.ofRank]
    · simp [ha.size_vertices]
    · exact List.nodup_append.2 ⟨ha.nodup_served, List.nodup_singleton _, by
        rintro x hx y hy rfl
        rw [List.mem_singleton] at hy
        exact hserved (hy ▸ hx)⟩
    · intro other hother
      rw [Array.getElem?_setIfInBounds, ha.size_vertices, ha.vertices_eq hother]
      by_cases heq : stop = other
      · subst heq
        simp [h, List.idxOf_append, hserved]
      · by_cases hmem : other ∈ a.served <;> simp [heq, Ne.symm heq, hmem, List.idxOf_append]

/-- Visits give vertices to the stops visited, in the order in which they first are. -/
theorem foldlM_visit_spec {stops : List StopId} (h : ∀ stop ∈ stops, stop < n) :
    ∃ a, stops.foldlM visit (start n) = some a ∧ a.Numbered n ∧ a.served = stops.eraseDups := by
  induction stops using List.reverseRecOn with
  | nil => exact ⟨start n, rfl, numbered_start n, rfl⟩
  | append_singleton before last ih =>
      obtain ⟨a, hbefore, ha, hserved⟩ := ih fun stop hstop => h stop (List.mem_append_left _ hstop)
      obtain ⟨a', hvisit, ha', hserved'⟩ := visit_spec ha (h last (by simp))
      refine ⟨a', ?_, ha', ?_⟩
      · rw [List.foldlM_append, hbefore]
        simpa using hvisit
      · rw [hserved', hserved, Register.eraseDups_concat]
        simp only [List.mem_eraseDups]

end Allocation

/-- The stops that the buses serve, in the order in which they first do: by bus, and then by
position on its traversal. -/
def Catalogue.served (c : Catalogue α) : List StopId :=
  (c.buses.entries.flatMap fun entry => entry.2.traversal).eraseDups

/-- A stop is served exactly if it is on the traversal of some bus. -/
theorem Catalogue.mem_served_iff {c : Catalogue α} {stop : StopId} : stop ∈ c.served ↔
    ∃ bus name line, c.buses.at? bus = some (name, line) ∧ stop ∈ line.traversal := by
  rw [served, List.mem_eraseDups, List.mem_flatMap]
  constructor
  · rintro ⟨⟨name, line⟩, hmem, hstop⟩
    obtain ⟨bus, hbus⟩ := List.mem_iff_getElem?.1 hmem
    exact ⟨bus, name, line, hbus, hstop⟩
  · rintro ⟨bus, name, line, hbus, hstop⟩
    exact ⟨(name, line), List.mem_of_getElem? hbus, hstop⟩

/-- A well-formed catalogue gets an allocation of exactly the stops that its buses serve. -/
theorem Allocation.exists_ofCatalogue [Quantity α] {c : Catalogue α} (hc : c.WellFormed) :
    ∃ a, ofCatalogue c = some a ∧ a.Numbered c.stops.size ∧ a.served = c.served := by
  rw [ofCatalogue, ← Catalogue.size_stops]
  refine foldlM_visit_spec fun stop hstop => ?_
  obtain ⟨bus, name, line, hbus, hstop⟩ := Catalogue.mem_served_iff.1 (List.mem_eraseDups.2 hstop)
  exact hc.lt_of_mem_traversal hbus hstop

/-! ## Roads along a traversal -/

variable [Quantity α]

namespace Catalogue

variable {c c' : Catalogue α} {a b : StopId} {meters : α}

/-- A distance that must be known is a value exactly if it is known. -/
theorem distance_eq_value_iff : c.distance a b = .value meters ↔ c.distance? a b = some meters := by
  unfold distance
  cases c.distance? a b with
  | some m => simp
  | none => simp [Outcome.bind_eq_value_iff]

/-- The road covered after one hop more. -/
def addHop? (c : Catalogue α) (covered : α) (hop : StopId × StopId) : Option α :=
  (c.distance? hop.1 hop.2).map (covered + ·)

/-- The road from the start of a bus to a position of its traversal: the lengths of the hops before
it, summed up from left to right and starting from zero. -/
def roadTo? (c : Catalogue α) (line : Bus) (p : Nat) : Option α :=
  (line.hops.take p).foldlM c.addHop? Quantity.zero

end Catalogue

namespace Milestone

variable {c : Catalogue α}

/-- The milestones carry the road covered before the first one and on the hops since. -/
theorem getElem?_follow {covered : α} {stop : StopId} {rest : List StopId}
    {milestones : List (Milestone α)} (h : follow c covered stop rest = .value milestones)
    {p : Nat} {m : Milestone α} : milestones[p]? = some m ↔ (stop :: rest)[p]? = some m.stop ∧
      (((stop :: rest).zip rest).take p).foldlM c.addHop? covered = some m.covered := by
  induction rest generalizing covered stop milestones p with
  | nil =>
      obtain rfl : [⟨stop, covered⟩] = milestones := by simpa [follow] using h
      obtain ⟨mstop, mcovered⟩ := m
      cases p <;> simp
  | cons next rest ih =>
      obtain ⟨meters, hmeters, h⟩ := Outcome.bind_eq_value_iff.1 h
      obtain ⟨later, hlater, h⟩ := Outcome.bind_eq_value_iff.1 h
      obtain rfl : ⟨stop, covered⟩ :: later = milestones := by simpa using h
      cases p with
      | zero =>
          obtain ⟨mstop, mcovered⟩ := m
          simp
      | succ p =>
          have hhop : c.addHop? covered (stop, next) = some (covered + meters) := by
            unfold Catalogue.addHop?
            rw [Catalogue.distance_eq_value_iff.1 hmeters]
            rfl
          simpa [hhop] using ih hlater

/-- The milestones of a bus are its positions with the roads to them. -/
theorem getElem?_ofTraversal {line : Bus} {milestones : List (Milestone α)}
    (h : ofTraversal c line.traversal = .value milestones) {p : Nat} {m : Milestone α} :
    milestones[p]? = some m ↔
      line.traversal[p]? = some m.stop ∧ c.roadTo? line p = some m.covered := by
  unfold Catalogue.roadTo? Bus.hops
  cases hstops : line.traversal with
  | nil =>
      obtain rfl : [] = milestones := by simpa [ofTraversal, hstops] using h
      simp
  | cons first rest =>
      rw [hstops] at h
      exact getElem?_follow h

/-- Milestones stand at stops of the traversal. -/
theorem stop_mem_traversal {line : Bus} {milestones : List (Milestone α)}
    (h : ofTraversal c line.traversal = .value milestones) {m : Milestone α}
    (hm : m ∈ milestones) : m.stop ∈ line.traversal := by
  obtain ⟨p, hp⟩ := List.mem_iff_getElem?.1 hm
  exact List.mem_of_getElem? ((getElem?_ofTraversal h).1 hp).1

/-- A line of stops has milestones if all the hops along it have a length. -/
theorem exists_follow {rest : List StopId} {covered : α} {stop : StopId} :
    (∃ milestones, follow c covered stop rest = .value milestones) ↔
      ∀ hop ∈ (stop :: rest).zip rest, ∃ meters, c.distance? hop.1 hop.2 = some meters := by
  induction rest generalizing covered stop with
  | nil => simp [follow]
  | cons next rest ih =>
      simp only [follow, Outcome.bind_eq_value_iff, Catalogue.distance_eq_value_iff,
        List.zip_cons_cons, List.forall_mem_cons, Outcome.pure_eq, Outcome.value.injEq]
      constructor
      · rintro ⟨_, meters, hmeters, later, hlater, -⟩
        exact ⟨⟨meters, hmeters⟩, ih.1 ⟨later, hlater⟩⟩
      · rintro ⟨⟨meters, hmeters⟩, hrest⟩
        obtain ⟨later, hlater⟩ := ih.2 hrest
        exact ⟨_, meters, hmeters, later, hlater, rfl⟩

/-- A bus has milestones if all its hops have a length. -/
theorem exists_ofTraversal {line : Bus} :
    (∃ milestones, ofTraversal c line.traversal = .value milestones) ↔
      ∀ hop ∈ line.hops, ∃ meters, c.distance? hop.1 hop.2 = some meters := by
  unfold Bus.hops
  cases line.traversal with
  | nil => simp [ofTraversal]
  | cons first rest => exact exists_follow

end Milestone

/-! ## Legs -/

namespace Leg

variable {settings : Settings α} {vertices : Array (Option StopVertices)}
  {v : StopId → StopVertices} {bus : BusId} {milestones : List (Milestone α)}

/-- The wait at a stop with vertices. -/
def wait (settings : Settings α) (v : StopId → StopVertices) (stop : StopId) : Leg α :=
  ⟨⟨(v stop).wait, (v stop).ride, settings.waitMinutes⟩, .wait stop⟩

/-- The ride of a bus between two milestones whose stops have vertices. -/
def ride (settings : Settings α) (v : StopId → StopVertices) (bus : BusId)
    (boarding leaving : Milestone α) (span : Nat) : Leg α :=
  ⟨⟨(v boarding.stop).ride, (v leaving.stop).wait,
    settings.rideMinutes (leaving.covered - boarding.covered)⟩, .ride bus span⟩

/-- The rides of a bus over milestones, by boarding and then by leaving position. -/
def rides (settings : Settings α) (v : StopId → StopVertices) (bus : BusId) :
    List (Milestone α) → List (Leg α)
  | [] => []
  | boarding :: later =>
    ((later.zipIdx 1).map fun entry => ride settings v bus boarding entry.1 entry.2) ++
      rides settings v bus later

/-- Once all stops have vertices no ride is left out. -/
theorem ridesOver_eq (h : ∀ m ∈ milestones, vertices[m.stop]? = some (some (v m.stop))) :
    ridesOver settings vertices bus milestones = some (rides settings v bus milestones) := by
  induction milestones with
  | nil => rfl
  | cons boarding later ih =>
      rw [List.forall_mem_cons] at h
      have hhere : (later.zipIdx 1).mapM (fun entry =>
          rideBetween settings vertices bus boarding entry.1 entry.2) =
          some ((later.zipIdx 1).map fun entry =>
            some (ride settings v bus boarding entry.1 entry.2)) := by
        apply mapM_eq_some_map
        intro entry hmem
        have hleaving := h.2 entry.1 (List.fst_mem_of_mem_zipIdx hmem)
        simp [rideBetween, ride, h.1, hleaving]
      have hkept : ((later.zipIdx 1).map fun entry =>
          some (ride settings v bus boarding entry.1 entry.2)).filterMap id =
          (later.zipIdx 1).map fun entry => ride settings v bus boarding entry.1 entry.2 := by
        simp [List.filterMap_map]
      change ((later.zipIdx 1).mapM fun entry =>
        rideBetween settings vertices bus boarding entry.1 entry.2).bind _ = _
      simp only [hhere, ih h.2, Option.bind_eq_bind, Option.bind_some, hkept, rides]

/-- **There is one ride for every two milestones, the first before the second.** -/
theorem mem_rides {leg : Leg α} : leg ∈ rides settings v bus milestones ↔
    ∃ (i j : Nat) (boarding leaving : Milestone α), i < j ∧ milestones[i]? = some boarding ∧
      milestones[j]? = some leaving ∧ leg = ride settings v bus boarding leaving (j - i) := by
  induction milestones with
  | nil => simp [rides]
  | cons first later ih =>
      rw [rides, List.mem_append, ih, List.mem_map]
      constructor
      · rintro (⟨⟨leaving, span⟩, hmem, rfl⟩ | ⟨i, j, boarding, leaving, hij, hi, hj, rfl⟩)
        · obtain ⟨hspan, hleaving⟩ := List.mem_zipIdx_iff_le_and_getElem?_sub.1 hmem
          refine ⟨0, span, first, leaving, hspan, rfl, ?_, rfl⟩
          rw [List.getElem?_cons, if_neg (Nat.ne_of_gt hspan)]
          exact hleaving
        · refine ⟨i + 1, j + 1, boarding, leaving, Nat.succ_lt_succ hij, hi, hj, ?_⟩
          rw [Nat.add_sub_add_right]
      · rintro ⟨i, j, boarding, leaving, hij, hi, hj, rfl⟩
        obtain ⟨j, rfl⟩ : ∃ k, j = k + 1 := ⟨j - 1, by omega⟩
        cases i with
        | zero =>
            obtain rfl : first = boarding := by simpa using hi
            refine .inl ⟨(leaving, j + 1), ?_, rfl⟩
            rw [List.mem_zipIdx_iff_le_and_getElem?_sub]
            exact ⟨Nat.le_add_left 1 j, by simpa using hj⟩
        | succ i =>
            refine .inr ⟨i, j, boarding, leaving, Nat.lt_of_succ_lt_succ hij, ?_, ?_, ?_⟩
            · simpa using hi
            · simpa using hj
            · rw [Nat.add_sub_add_right]

end Leg

end BusNetwork
