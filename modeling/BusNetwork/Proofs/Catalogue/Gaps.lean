import BusNetwork.Catalogue.Statistics
import BusNetwork.Proofs.Bus
import BusNetwork.Proofs.Catalogue
import BusNetwork.Proofs.Outcome.Faults

/-!
# Gaps: hops without a road

A bus with a hop for which no road is recorded has no statistics. **It fails by the first such hop
of its traversal** (`statistics_decidedBy`), and since a road is read in either direction, that is
never a hop of the way back: it leads from one stop of the bus's list to the next one
(`exists_firstGap`).
-/

set_option linter.unusedSectionVars false

namespace BusNetwork

namespace Catalogue

section

variable {α : Type} {c : Catalogue α} {line : Bus}

/-- What is wrong with a hop: no road between its ends is recorded. -/
def hopFault? (c : Catalogue α) (hop : StopId × StopId) : Option (CatalogueError α) :=
  match c.distance? hop.1 hop.2 with
  | some _ => none
  | none => do
    let origin ← c.stopName? hop.1
    let target ← c.stopName? hop.2
    some (.noDistanceData origin target)

/-- What is wrong with the first hop of a bus with which anything is. -/
def lineFault? (c : Catalogue α) (line : Bus) : Option (CatalogueError α) :=
  line.hops.findSome? c.hopFault?

/-- What is wrong with the first bus with which anything is. -/
def busFault? (c : Catalogue α) : Option (CatalogueError α) :=
  c.buses.entries.findSome? fun entry => c.lineFault? entry.2

/-- A distance is missing exactly if neither direction is recorded. -/
theorem distance?_eq_none_iff {a b : StopId} : c.distance? a b = none ↔
    c.distances.get? (a, b) = none ∧ c.distances.get? (b, a) = none := by
  unfold distance?
  exact Option.or_eq_none_iff

/-- A road is read in either direction. -/
theorem hopFault?_swap_eq_none {hop : StopId × StopId} (h : c.hopFault? hop = none) :
    c.hopFault? hop.swap = none := by
  obtain ⟨a, b⟩ := hop
  unfold hopFault? at h ⊢
  cases hroad : c.distance? a b with
  | some meters =>
      have hback : c.distance? b a ≠ none := by
        rw [Ne, distance?_eq_none_iff, and_comm, ← distance?_eq_none_iff, hroad]
        simp
      obtain ⟨meters', hback⟩ := Option.ne_none_iff_exists'.1 hback
      simp [hback]
  | none =>
      have hback : c.distance? b a = none := by
        rw [distance?_eq_none_iff, and_comm, ← distance?_eq_none_iff]
        exact hroad
      simp only [hroad, Prod.swap_prod_mk, hback] at h ⊢
      cases ha : c.stopName? a <;> cases hb : c.stopName? b <;> simp_all

/-- The hops back along a list of stops have roads where those along it do. -/
theorem lineFault?_eq (c : Catalogue α) (line : Bus) :
    c.lineFault? line = (hopsAlong line.stops).findSome? c.hopFault? := by
  obtain ⟨back, hhops, hback⟩ := line.exists_hops_eq_append
  unfold lineFault?
  rw [hhops, List.findSome?_append]
  cases hout : (hopsAlong line.stops).findSome? c.hopFault? with
  | some e => rfl
  | none =>
      rw [Option.none_or, List.findSome?_eq_none_iff]
      intro hop hmem
      exact hopFault?_swap_eq_none (List.findSome?_eq_none_iff.1 hout hop.swap (hback hop hmem))

/-- The hop at a position of a bus is the first one without a road: it leads from one stop of the
bus's list to the next. -/
structure FirstGap (c : Catalogue α) (line : Bus) (i : Nat) (a b : StopId) : Prop where
  /-- The hop starts at the stop at that position of the list. -/
  stops_getElem? : line.stops[i]? = some a
  /-- It ends at the next one. -/
  stops_getElem?_succ : line.stops[i + 1]? = some b
  /-- It is the hop at that position. -/
  hops_getElem? : line.hops[i]? = some (a, b)
  /-- No road is recorded in its direction. -/
  not_recorded : c.distances.get? (a, b) = none
  /-- Nor is one in the opposite direction. -/
  not_recorded_back : c.distances.get? (b, a) = none
  /-- All hops before it have a road. -/
  exists_distance? {j : Nat} {hop : StopId × StopId} : j < i → line.hops[j]? = some hop →
    ∃ meters, c.distance? hop.1 hop.2 = some meters

end

variable {α : Type} [Trigonometry α] {c : Catalogue α} {line : Bus} {a b : StopId}

/-- Registered stops have names to tell the fault by. -/
theorem hopFault?_eq_none_iff {hop : StopId × StopId} (ha : hop.1 < c.stops.size)
    (hb : hop.2 < c.stops.size) :
    c.hopFault? hop = none ↔ ∃ meters, c.distance? hop.1 hop.2 = some meters := by
  obtain ⟨origin, horigin⟩ := exists_stopName? ha
  obtain ⟨target, htarget⟩ := exists_stopName? hb
  unfold hopFault?
  cases c.distance? hop.1 hop.2 <;> simp [horigin, htarget]

/-- The road between registered stops is the recorded one, or there is none. -/
theorem distance_decidedBy (ha : a < c.stops.size) (hb : b < c.stops.size) :
    (c.distance a b).DecidedBy (c.hopFault? (a, b))
      fun meters => c.distance? a b = some meters := by
  obtain ⟨origin, horigin⟩ := exists_stopName? ha
  obtain ⟨target, htarget⟩ := exists_stopName? hb
  unfold distance hopFault?
  cases c.distance? a b with
  | some meters => exact Outcome.decidedBy_value rfl
  | none =>
      simp only [horigin, htarget]
      exact Outcome.decidedBy_failed _

/-- A sum over hops is decided by the first of them whose length is not there. -/
theorem sumHops_decidedBy {ε : Type} {length : StopId → StopId → Outcome ε α}
    {fault : StopId × StopId → Option ε} {R : StopId × StopId → α → Prop}
    {hops : List (StopId × StopId)}
    (h : ∀ hop ∈ hops, (length hop.1 hop.2).DecidedBy (fault hop) (R hop)) :
    (sumHops length hops).DecidedBy (hops.findSome? fault) fun total =>
      ∃ lengths, List.Forall₂ R hops lengths ∧
        total = lengths.foldl (· + ·) Quantity.emptySum := by
  unfold sumHops
  -- what was covered before a hop is arbitrary
  generalize (Quantity.emptySum : α) = covered
  induction hops generalizing covered with
  | nil => exact Outcome.decidedBy_value ⟨[], .nil, rfl⟩
  | cons hop rest ih =>
      rw [List.forall_mem_cons] at h
      rw [List.foldlM_cons, Outcome.findSome?_cons_or]
      have hhop : (length hop.1 hop.2 >>= fun x => pure (covered + x)).DecidedBy
          (fault hop) fun total => ∃ x, R hop x ∧ total = covered + x :=
        h.1.bind_value fun x hx => ⟨covered + x, rfl, x, hx, rfl⟩
      refine hhop.bind ?_
      rintro _ ⟨x, hx, rfl⟩
      refine (ih h.2 (covered + x)).imp ?_
      rintro _ - ⟨lengths, hlengths, rfl⟩
      exact ⟨x :: lengths, .cons hx hlengths, rfl⟩

variable {bus : BusId} {name : String}

/-- The road along a registered bus. -/
theorem WellFormed.routeLength_decidedBy (hc : c.WellFormed)
    (hbus : c.buses.at? bus = some (name, line)) :
    (c.routeLength line).DecidedBy (c.lineFault? line) fun total => ∃ lengths,
      List.Forall₂ (fun hop meters => c.distance? hop.1 hop.2 = some meters) line.hops lengths ∧
        total = lengths.foldl (· + ·) Quantity.emptySum := by
  refine sumHops_decidedBy fun hop hmem => ?_
  obtain ⟨hfirst, hsecond⟩ := hc.lt_of_mem_hops hbus hmem
  exact distance_decidedBy hfirst hsecond

/-- Every registered stop stands somewhere. -/
theorem exists_coordinates? (ha : a < c.stops.size) : ∃ p, c.coordinates? a = some p := by
  obtain ⟨entry, hentry⟩ := Register.exists_at? ha
  exact ⟨entry.2.coordinates, by rw [coordinates?_eq, hentry]; rfl⟩

/-- As the crow flies, a registered bus always has a length. -/
theorem WellFormed.geographicLength_decidedBy {ε : Type} (hc : c.WellFormed)
    (hbus : c.buses.at? bus = some (name, line)) :
    (c.geographicLength line : Outcome ε α).DecidedBy none fun _ => True := by
  have hnone : (line.hops.findSome? fun _ => none) = (none : Option ε) := by simp
  rw [← hnone]
  refine (sumHops_decidedBy (R := fun _ _ => True) fun hop hmem => ?_).imp fun _ _ _ => trivial
  obtain ⟨hfirst, hsecond⟩ := hc.lt_of_mem_hops hbus hmem
  obtain ⟨p, hp⟩ := exists_coordinates? hfirst
  obtain ⟨q, hq⟩ := exists_coordinates? hsecond
  unfold straightDistance
  rw [hp, hq]
  exact Outcome.decidedBy_value trivial

/-- **A registered bus has statistics unless some hop of it has no road**, and then it fails by the
first such hop. -/
theorem WellFormed.statistics_decidedBy (hc : c.WellFormed)
    (hbus : c.buses.at? bus = some (name, line)) :
    (c.statistics line).DecidedBy (c.lineFault? line) fun s =>
      c.routeLength line = .value s.routeLength := by
  have hroad := (hc.routeLength_decidedBy hbus).imp fun _ h _ => h
  refine hroad.bind_value fun road hroad => ?_
  obtain ⟨straight, hstraight, -⟩ := hc.geographicLength_decidedBy (ε := CatalogueError α) hbus
  exact ⟨_, by rw [hstraight]; rfl, hroad⟩

/-- A bus whose hops all have a length has statistics. -/
theorem WellFormed.exists_statistics (hc : c.WellFormed)
    (hbus : c.buses.at? bus = some (name, line))
    (hhops : ∀ hop ∈ line.hops, ∃ meters, c.distance? hop.1 hop.2 = some meters) :
    ∃ s, c.statistics line = .value s := by
  rw [(hc.statistics_decidedBy hbus).exists_value_iff, lineFault?, List.findSome?_eq_none_iff]
  intro hop hmem
  obtain ⟨hfirst, hsecond⟩ := hc.lt_of_mem_hops hbus hmem
  exact (hopFault?_eq_none_iff hfirst hsecond).2 (hhops hop hmem)

/-- A bus is known by its name. -/
theorem WellFormed.busInfo_eq (hc : c.WellFormed) (hbus : c.buses.at? bus = some (name, line)) :
    c.busInfo name = c.statistics line := by
  rw [Catalogue.busInfo_eq, (Register.get?_eq_some_iff hc.buses_distinct).2 ⟨bus, hbus⟩]

/-- **A bus fails by the road from one stop of its list to the next.** -/
theorem WellFormed.exists_firstGap (hc : c.WellFormed)
    (hbus : c.buses.at? bus = some (name, line)) {e : CatalogueError α}
    (h : c.lineFault? line = some e) :
    ∃ i a b origin target, c.FirstGap line i a b ∧ c.stopName? a = some origin ∧
      c.stopName? b = some target ∧ e = .noDistanceData origin target := by
  rw [lineFault?_eq] at h
  obtain ⟨before, ⟨a, b⟩, after, hout, hfault, hbefore⟩ := List.findSome?_eq_some_iff.1 h
  obtain ⟨back, hhops, -⟩ := line.exists_hops_eq_append
  have hposition : (hopsAlong line.stops)[before.length]? = some (a, b) := by
    rw [hout]
    simp
  obtain ⟨hfirst, hsecond⟩ := getElem?_hopsAlong.1 hposition
  have hhop : line.hops[before.length]? = some (a, b) := by
    rw [hhops, hout]
    simp
  have hgap : c.distance? a b = none := by
    unfold hopFault? at hfault
    cases hroad : c.distance? a b with
    | none => rfl
    | some meters => simp [hroad] at hfault
  obtain ⟨hnot, hnot'⟩ := distance?_eq_none_iff.1 hgap
  simp only [hopFault?, hgap, Option.bind_eq_bind, Option.bind_eq_some_iff,
    Option.some.injEq] at hfault
  obtain ⟨origin, horigin, target, htarget, rfl⟩ := hfault
  refine ⟨before.length, a, b, origin, target, ⟨hfirst, hsecond, hhop, hnot, hnot', ?_⟩, horigin,
    htarget, rfl⟩
  intro j hop hj hmem
  rw [hhops, hout, List.append_assoc, List.getElem?_append_left hj] at hmem
  have hline : hop ∈ line.hops := by
    rw [hhops, hout]
    simp [List.mem_of_getElem? hmem]
  obtain ⟨hstart, hend⟩ := hc.lt_of_mem_hops hbus hline
  exact (hopFault?_eq_none_iff hstart hend).1 (hbefore hop (List.mem_of_getElem? hmem))

end Catalogue

end BusNetwork
