import BusNetwork.Proofs.Catalogue.Runs
import Mathlib.Data.Finset.Card

/-!
# The index of buses by stop is exact

Each stop keeps the names of the buses that serve it, and no operation makes that list anew: adding
a bus puts its name in at some stops and takes it out at others. `ExactIndex c` says that nothing is
forgotten and nothing left over: **a stop lists, in ascending order, exactly the buses that run over
it now**, and a bus serves as many different stops as list it.

`exactIndex_run` — so it is after every sequence of operations, and hence after each of its steps.
-/

set_option linter.unusedSectionVars false

namespace BusNetwork

/-- The different stops of a bus are those on its traversal. -/
theorem Bus.uniqueStopCount_eq_card (route : Bus) :
    route.uniqueStopCount = route.traversal.toFinset.card := by
  have hstops : route.stops.eraseDups.toFinset = route.traversal.toFinset := by
    ext stop
    rw [List.mem_toFinset, List.mem_toFinset, List.mem_eraseDups, Bus.mem_traversal]
  rw [← hstops, List.toFinset_card_of_nodup (Register.nodup_eraseDups _)]
  rfl

namespace Catalogue

variable {α : Type} {c : Catalogue α} {name line : String} {stop : StopId}

/-- Whether a question about a stop is answered by a list that has a bus on it. -/
def listsBus (c : Catalogue α) (line stop : String) : Bool :=
  match c.stopInfo stop with
  | .value lines => lines.contains line
  | _ => false

/-- The registered stops that list a bus. -/
def stopsListing (c : Catalogue α) (line : String) : List String :=
  c.registeredStops.filter (c.listsBus line)

/-- The index of buses by stop says what the buses say. -/
structure ExactIndex (c : Catalogue α) : Prop where
  /-- A stop lists in ascending order the buses whose traversal has it. -/
  exists_stopInfo {stop : StopId} {name : String} : c.stopName? stop = some name →
    ∃ lines, c.stopInfo name = .value lines ∧ lines.Pairwise (· < ·) ∧ ∀ line, line ∈ lines ↔
      ∃ bus route, c.buses.at? bus = some (line, route) ∧ stop ∈ route.traversal
  /-- A bus serves as many different stops as its traversal has. -/
  uniqueStopCount_eq_card {bus : BusId} {line : String} {route : Bus} :
    c.buses.at? bus = some (line, route) → route.uniqueStopCount = route.traversal.toFinset.card
  /-- A bus serves as many different stops as list it. -/
  uniqueStopCount_eq_length {bus : BusId} {line : String} {route : Bus} :
    c.buses.at? bus = some (line, route) →
    route.uniqueStopCount = (c.stopsListing line).length

/-! ## What a stop lists -/

/-- A question about a stop is answered by its index. -/
theorem stopInfo_of_at? (hc : c.stops.Distinct) {s : Stop α}
    (h : c.stops.at? stop = some (name, s)) : c.stopInfo name = .value s.buses := by
  have hfind : c.findStop name = some stop := (findStop_iff_at? hc).2 ⟨s, h⟩
  simp only [stopInfo, askedStop, hfind, Outcome.value_bind, getElem?_busesAtStop, h,
    Option.map_some, Outcome.liftM_some]

variable [Quantity α]

namespace WellFormed

/-- A stop lists the buses that serve it. -/
theorem mem_buses_iff_traversal (hc : c.WellFormed) {s : Stop α}
    (h : c.stops.at? stop = some (name, s)) : line ∈ s.buses ↔
      ∃ bus route, c.buses.at? bus = some (line, route) ∧ stop ∈ route.traversal := by
  simp only [hc.mem_buses_iff h, Register.get?_eq_some_iff hc.buses_distinct, Bus.mem_traversal]
  constructor
  · rintro ⟨route, ⟨bus, hbus⟩, hstop⟩
    exact ⟨bus, route, hbus, hstop⟩
  · rintro ⟨bus, route, hbus, hstop⟩
    exact ⟨route, ⟨bus, hbus⟩, hstop⟩

/-- The stops that list a bus are the names of those that it was registered with. -/
theorem mem_stopsListing_iff (hc : c.WellFormed) {bus : BusId} {route : Bus}
    (hbus : c.buses.at? bus = some (line, route)) :
    name ∈ c.stopsListing line ↔ ∃ stop ∈ route.stops, c.stopName? stop = some name := by
  have hlists : ∀ {stop : StopId}, c.stopName? stop = some name →
      (c.listsBus line name = true ↔ stop ∈ route.stops) := by
    intro stop hname
    obtain ⟨s, hs⟩ := stopName?_eq_some_iff.1 hname
    rw [listsBus, stopInfo_of_at? hc.stops_distinct hs, List.contains_iff_mem,
      hc.mem_buses_iff hs, (Register.get?_eq_some_iff hc.buses_distinct).2 ⟨bus, hbus⟩]
    simp
  rw [stopsListing, List.mem_filter, List.mem_iff_getElem?]
  simp only [getElem?_registeredStops]
  constructor
  · rintro ⟨⟨stop, hname⟩, hlisted⟩
    exact ⟨stop, (hlists hname).1 hlisted, hname⟩
  · rintro ⟨stop, hmem, hname⟩
    exact ⟨⟨stop, hname⟩, (hlists hname).2 hmem⟩

/-- As many stops list a bus as it was registered with different ones. -/
theorem length_stopsListing (hc : c.WellFormed) {bus : BusId} {route : Bus}
    (hbus : c.buses.at? bus = some (line, route)) :
    (c.stopsListing line).length = route.uniqueStopCount := by
  -- the names of the different stops, each of which has one
  let served : List String := route.stops.eraseDups.filterMap c.stopName?
  have hlength : served.length = route.uniqueStopCount := by
    refine List.filterMap_length_eq_length.2 fun stop hstop => ?_
    obtain ⟨other, hother⟩ := exists_stopName? (hc.lt_of_mem_traversal hbus
      (Bus.mem_traversal.2 (List.mem_eraseDups.1 hstop)))
    rw [hother]
    rfl
  have hserved : served.Nodup := (Register.nodup_eraseDups _).filterMap fun a b n ha hb =>
    stopName?_inj hc.stops_distinct ha hb
  have hlisting : (c.stopsListing line).Nodup := hc.stops_distinct.filter _
  rw [← hlength]
  refine ((List.perm_ext_iff_of_nodup hlisting hserved).2 fun n => ?_).length_eq
  rw [hc.mem_stopsListing_iff hbus, List.mem_filterMap]
  simp only [List.mem_eraseDups]

/-- The index of a well-formed catalogue is exact. -/
theorem exactIndex (hc : c.WellFormed) : c.ExactIndex where
  exists_stopInfo h := by
    obtain ⟨s, hs⟩ := stopName?_eq_some_iff.1 h
    exact ⟨s.buses, stopInfo_of_at? hc.stops_distinct hs, hc.ascending hs,
      fun _ => hc.mem_buses_iff_traversal hs⟩
  uniqueStopCount_eq_card {_ _ route} _ := route.uniqueStopCount_eq_card
  uniqueStopCount_eq_length h := (hc.length_stopsListing h).symm

end WellFormed

/-- **After any operations the index is exact**, whichever of them failed. -/
theorem exactIndex_run (operations : List (Operation α)) :
    ∃ c, Catalogue.empty.run operations = some c ∧ c.ExactIndex := by
  obtain ⟨c, hrun, hc, -⟩ := Reachable.empty.exists_run operations
  exact ⟨c, hrun, hc.wellFormed.exactIndex⟩

end Catalogue

end BusNetwork
