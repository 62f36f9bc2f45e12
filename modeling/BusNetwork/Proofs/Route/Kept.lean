import BusNetwork.Proofs.Catalogue.Runs
import BusNetwork.Proofs.Route

/-!
# A graph that is kept while the catalogue grows

A journey graph holds positions and no names; it is asked together with a catalogue, which may have
changed since the graph was built. **It goes on answering what it answered**, in the same words,
since no operation renames or renumbers a stop or a bus (`item_of_keepsNames`), and stops that were
registered later have no routes (`shortestRoute_kept`).
-/

set_option linter.unusedSectionVars false

namespace BusNetwork.JourneyGraph

open Catalogue

variable {α : Type} [Quantity α] {settings : Settings α} {c c' : Catalogue α} {g : JourneyGraph α}
  {a b : StopId}

/-- An edge is called what it was called. -/
theorem item_of_keepsNames (h : c.KeepsNames c') {id : EdgeId} {step : RouteItem α}
    (hitem : g.item c id = some step) : g.item c' id = some step := by
  simp only [item, Option.bind_eq_bind, Option.bind_eq_some_iff] at hitem ⊢
  obtain ⟨edge, hedge, label, hlabel, hstep⟩ := hitem
  refine ⟨edge, hedge, label, hlabel, ?_⟩
  cases label with
  | wait stop =>
      obtain ⟨name, hname, hstep⟩ := Option.bind_eq_some_iff.1 hstep
      exact Option.bind_eq_some_iff.2 ⟨name, h.stopName? hname, hstep⟩
  | ride bus span =>
      obtain ⟨name, hname, hstep⟩ := Option.bind_eq_some_iff.1 hstep
      exact Option.bind_eq_some_iff.2 ⟨name, h.busName? hname, hstep⟩

/-- An answer that looked nothing up outside its table is the answer ever after. -/
theorem shortestRoute_of_keepsNames (h : c.KeepsNames c')
    (hrange : g.shortestRoute c a b ≠ .outOfRange) :
    g.shortestRoute c' a b = g.shortestRoute c a b := by
  have hitems : ∀ {way : List EdgeId} {items : List (RouteItem α)},
      way.mapM (g.item c) = some items → way.mapM (g.item c') = some items := by
    intro way items hmap
    rw [mapM_eq_some_iff] at hmap ⊢
    exact hmap.imp fun _ _ => item_of_keepsNames h
  unfold shortestRoute at hrange ⊢
  split
  · rfl
  · rename_i hne
    rw [if_neg hne] at hrange
    cases ho : g.vertices? a with
    | none => rfl
    | some o =>
        cases ht : g.vertices? b with
        | none => rfl
        | some t =>
            rw [ho, ht] at hrange
            cases hshortest : Search.shortest g.graph o.wait t.wait with
            | failed e => simp [hshortest]
            | outOfRange => simp [hshortest]
            | value found =>
                obtain ⟨total, way⟩ := found
                cases hmap : way.mapM (g.item c) with
                | none => simp [hshortest, hmap, Outcome.ofLookup] at hrange
                | some items => simp [hshortest, hmap, hitems hmap]

/-- A stop that was not registered when the graph was built has no route but the one to itself. -/
theorem shortestRoute_of_not_registered (hc : c.WellFormed) (hbuild : build settings c = .value g)
    (h : ¬ (a < c.stops.size ∧ b < c.stops.size)) :
    g.shortestRoute c a b = if a = b then .value .stay else .failed .unreachable := by
  split
  · rename_i hab
    subst hab
    exact shortestRoute_self g c a
  · rename_i hab
    obtain ⟨served, milestones, hg⟩ := exists_built hc hbuild
    have hlt : ∀ stop ∈ served, stop < c.stops.size := by
      intro stop hstop
      obtain ⟨bus, name, line, hbus, hmem⟩ := hg.mem_served_iff.1 hstop
      exact hc.lt_of_mem_traversal hbus hmem
    exact shortestRoute_of_not_served hg hab fun hserved => h ⟨hlt a hserved.1, hlt b hserved.2⟩

/-- **A graph that is kept answers as before.** Whatever operations follow, and whichever of them
fail, the answers about the stops that were registered when the graph was built stay the same. About
a stop that came later the answer is that there is no route, apart from that to itself. -/
theorem shortestRoute_kept (hc : c.Reachable) (hbuild : build settings c = .value g)
    (operations : List (Operation α)) :
    ∃ c', c.run operations = some c' ∧
      (∀ a b, a < c.stops.size → b < c.stops.size →
        g.shortestRoute c' a b = g.shortestRoute c a b) ∧
      (∀ a b, a < c'.stops.size → b < c'.stops.size →
        ¬ (a < c.stops.size ∧ b < c.stops.size) →
        g.shortestRoute c' a b = if a = b then .value .stay else .failed .unreachable) ∧
      ∀ a b, g.shortestRoute c' a b ≠ .outOfRange := by
  obtain ⟨c', hrun, -, hkeeps⟩ := hc.exists_run operations
  have hrange : ∀ a b, g.shortestRoute c a b ≠ .outOfRange := by
    intro a b
    rcases exists_route_or_unreachable hc.wellFormed hbuild a b with ⟨route, hroute⟩ | hroute
    · simp [hroute]
    · simp [hroute]
  have hkept : ∀ a b, g.shortestRoute c' a b = g.shortestRoute c a b :=
    fun a b => shortestRoute_of_keepsNames hkeeps (hrange a b)
  refine ⟨c', hrun, fun a b _ _ => hkept a b, ?_, ?_⟩
  · intro a b _ _ hnew
    rw [hkept]
    exact shortestRoute_of_not_registered hc.wellFormed hbuild hnew
  · intro a b
    rw [hkept]
    exact hrange a b

/-- What happens to the avenue: a stop more, the bridge moved, the bus sent elsewhere under its old
name, and a bus to a place that nobody knows. -/
def roadworks : List (Operation Float) :=
  [.addStop "Dock" ⟨55.5, 38⟩, .addStop "Bridge" ⟨55.25, 37.5⟩,
    .addBus "1" ["Airport", "Dock"] .circular, .addBus "2" ["Airport", "Nowhere"] .thereAndBack,
    .setDistance "Airport" "Bridge" 9000]

/-- The way along the avenue is announced as before the roadworks, and no way leads to the dock. -/
theorem shortestRoute_kept_avenue : ∃ c', avenueCatalogue.run roadworks = some c' ∧
    avenueJourneys.shortestRoute c' 0 2 =
      .value ⟨8.25, [.wait "Airport" 6, .ride "1" 2 2.25]⟩ ∧
    avenueJourneys.shortestRoute c' 0 3 = .failed .unreachable := by
  obtain ⟨c', hrun, hold, hnew, -⟩ :=
    shortestRoute_kept reachable_avenueCatalogue build_avenueCatalogue roadworks
  have hsize : avenueCatalogue.stops.size = 3 := by decide +kernel
  have hgrown : (avenueCatalogue.run roadworks).map (fun c => c.stops.size) = some 4 := by
    decide +kernel
  have hsize' : c'.stops.size = 4 := by simpa [hrun] using hgrown
  refine ⟨c', hrun, ?_, ?_⟩
  · rw [hold 0 2 (by omega) (by omega)]
    exact shortestRoute_avenue
  · exact hnew 0 3 (by omega) (by omega) (by omega)

end BusNetwork.JourneyGraph
