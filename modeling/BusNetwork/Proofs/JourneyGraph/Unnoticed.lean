import BusNetwork.Proofs.JourneyGraph.Agreement
import BusNetwork.Proofs.Route.Kept

/-!
# Changes that no bus notices

Of a catalogue, building reads the buses and the lengths of the hops that they make, and no more:
not where stops stand, not which other lengths are recorded. So **a stop that is registered or
moved, and a length between stops that no bus serves one after the other, change neither the journey
graph nor the error that building fails by, and no route** (`build_unnoticed`).

* `Catalogue.Unnoticed` — the changes of this sort, and what all of them leave as it is
  (`Unnoticed.leaves`).
* `build_of_sameHops` — catalogues with the same buses over the same hops get the same waits and
  rides. What can differ is how far the table of vertices reaches.
-/

set_option linter.unusedSectionVars false

namespace BusNetwork

open Quantity

variable {α : Type}

/-! ## Building again over the same hops -/

/-- Items that are gone through with the same result one by one are so as a list. -/
theorem mapM_congr {m : Type → Type} [Monad m] [LawfulMonad m] {β γ : Type} {f f' : β → m γ}
    {items : List β} (h : ∀ item ∈ items, f' item = f item) : items.mapM f' = items.mapM f := by
  induction items with
  | nil => rfl
  | cons first rest ih =>
      rw [List.forall_mem_cons] at h
      rw [List.mapM_cons, List.mapM_cons, h.1, ih h.2]

/-- The table of vertices is kept apart from what legs add to a graph. -/
theorem JourneyGraph.addAll?_withVertices (g : JourneyGraph α)
    (vertices : Array (Option StopVertices)) (legs : List (Leg α)) :
    ({ g with vertices } : JourneyGraph α).addAll? legs =
      (g.addAll? legs).map fun g' => { g' with vertices } := by
  induction legs generalizing g with
  | nil => rfl
  | cons first rest ih =>
      simp only [addAll?, List.foldlM_cons, add?]
      cases hadd : g.graph.add? first.edge with
      | none => rfl
      | some added => exact ih ⟨added.2, g.labels.push first.label, g.vertices⟩

variable [Quantity α] {settings : Settings α} {c c' : Catalogue α} {line : Bus}

/-- A line of stops has the same milestones where its hops have the same lengths. -/
theorem Milestone.follow_congr {rest : List StopId} (covered : α) (stop : StopId)
    (h : ∀ hop ∈ (stop :: rest).zip rest, c'.distance hop.1 hop.2 = c.distance hop.1 hop.2) :
    follow c' covered stop rest = follow c covered stop rest := by
  induction rest generalizing covered stop with
  | nil => rfl
  | cons next rest ih =>
      rw [List.zip_cons_cons, List.forall_mem_cons] at h
      simp only [follow, h.1, fun meters => ih (covered + meters) next h.2]

/-- A bus has the same milestones where its hops have the same lengths. -/
theorem Milestone.ofTraversal_congr
    (h : ∀ hop ∈ line.hops, c'.distance hop.1 hop.2 = c.distance hop.1 hop.2) :
    ofTraversal c' line.traversal = ofTraversal c line.traversal := by
  unfold Bus.hops at h
  cases hstops : line.traversal with
  | nil => rfl
  | cons first rest =>
      rw [hstops] at h
      exact follow_congr Quantity.zero first h

namespace Leg

variable {vertices vertices' : Array (Option StopVertices)}

/-- Rides are the same where the stops they join have the same vertices. -/
theorem ridesOver_congr (bus : BusId) {milestones : List (Milestone α)}
    (h : ∀ m ∈ milestones, vertices'[m.stop]? = vertices[m.stop]?) :
    ridesOver settings vertices' bus milestones = ridesOver settings vertices bus milestones := by
  induction milestones with
  | nil => rfl
  | cons boarding later ih =>
      rw [List.forall_mem_cons] at h
      have hhere : ∀ entry ∈ later.zipIdx 1,
          rideBetween settings vertices' bus boarding entry.1 entry.2 =
            rideBetween settings vertices bus boarding entry.1 entry.2 := by
        intro entry hmem
        unfold rideBetween
        rw [h.1, h.2 entry.1 (List.fst_mem_of_mem_zipIdx hmem)]
      simp only [ridesOver, ih h.2]
      rw [mapM_congr hhere]

/-- A bus has the same rides, or fails by the same hop, where hops and vertices are the same. -/
theorem ridesOf_congr (id : BusId)
    (hhops : ∀ hop ∈ line.hops, c'.distance hop.1 hop.2 = c.distance hop.1 hop.2)
    (hvertices : ∀ stop ∈ line.traversal, vertices'[stop]? = vertices[stop]?) :
    ridesOf settings c' vertices' id line = ridesOf settings c vertices id line := by
  unfold ridesOf
  rw [Milestone.ofTraversal_congr hhops]
  cases h : Milestone.ofTraversal c line.traversal with
  | value milestones =>
      have hstops : ∀ m ∈ milestones, vertices'[m.stop]? = vertices[m.stop]? :=
        fun m hm => hvertices _ (Milestone.stop_mem_traversal h hm)
      simp only [Outcome.mapFailure, Outcome.value_bind, ridesOver_congr id hstops]
  | failed e => rfl
  | outOfRange => rfl

end Leg

namespace JourneyGraph

/-- The same buses over the same hops get the same rides, if the stops served have the same
vertices. -/
theorem mapM_ridesOf_congr (settings : Settings α)
    {vertices vertices' : Array (Option StopVertices)}
    (hbuses : c'.buses = c.buses)
    (hhops : ∀ bus name line, c.buses.at? bus = some (name, line) →
      ∀ hop ∈ line.hops, c'.distance hop.1 hop.2 = c.distance hop.1 hop.2)
    (hvertices : ∀ stop ∈ c.served, vertices'[stop]? = vertices[stop]?) :
    (c'.buses.entries.zipIdx.mapM fun ((_, bus), id) =>
        Leg.ridesOf settings c' vertices' id bus) =
      c.buses.entries.zipIdx.mapM fun ((_, bus), id) =>
        Leg.ridesOf settings c vertices id bus := by
  rw [hbuses]
  refine mapM_congr fun entry hmem => ?_
  have hbus : c.buses.at? entry.2 = some entry.1 := List.mk_mem_zipIdx_iff_getElem?.1 hmem
  exact Leg.ridesOf_congr entry.2 (hhops _ _ _ hbus) fun stop hstop =>
    hvertices stop (Catalogue.mem_served_iff.2 ⟨_, _, _, hbus, hstop⟩)

/-- **The same buses over the same hops get the same waits and rides**, or building fails in the
same way. The table of vertices says the same of every stop. -/
theorem build_of_sameHops (settings : Settings α) (hc : c.WellFormed) (hc' : c'.WellFormed)
    (hbuses : c'.buses = c.buses)
    (hhops : ∀ bus name line, c.buses.at? bus = some (name, line) →
      ∀ hop ∈ line.hops, c'.distance hop.1 hop.2 = c.distance hop.1 hop.2) :
    ∃ vertices : Array (Option StopVertices),
      (∀ stop, vertices[stop]?.join =
        if stop ∈ c.served then some (verticesOf c.served stop) else none) ∧
      build settings c' = (do let g ← build settings c; pure { g with vertices }) := by
  obtain ⟨a, ha, hnumbered, hserved⟩ := Allocation.exists_ofCatalogue hc
  obtain ⟨a', ha', hnumbered', hserved'⟩ := Allocation.exists_ofCatalogue hc'
  have hsame : c'.served = c.served := by
    unfold Catalogue.served
    rw [hbuses]
  rw [hsame] at hserved'
  have hlt : ∀ stop ∈ a.served, stop < c.stops.size := hserved ▸ lt_of_mem_served hc
  have hlt' : ∀ stop ∈ a'.served, stop < c'.stops.size :=
    hserved' ▸ hsame ▸ lt_of_mem_served hc'
  refine ⟨a'.vertices,
    fun stop => hserved' ▸ vertices?_ofAllocation (α := α) hnumbered' hlt' stop, ?_⟩
  have hvertices : ∀ stop ∈ c.served, a'.vertices[stop]? = a.vertices[stop]? := by
    intro stop hstop
    rw [getElem?_vertices hnumbered hlt stop (hserved ▸ hstop),
      getElem?_vertices hnumbered' hlt' stop (hserved' ▸ hstop), hserved, hserved']
  have hwaits : a'.served.mapM (Leg.waitAt settings a'.vertices) =
      a.served.mapM (Leg.waitAt settings a.vertices) := by
    rw [hserved', hserved]
    refine mapM_congr fun stop hstop => ?_
    unfold Leg.waitAt
    rw [hvertices stop hstop]
  have hrides := mapM_ridesOf_congr settings hbuses hhops hvertices
  have hempty : (ofAllocation a' : JourneyGraph α) =
      { ofAllocation a with vertices := a'.vertices } := by
    unfold ofAllocation
    rw [hserved, hserved']
  unfold build
  simp only [ha, ha', hwaits, hrides, hempty, addAll?_withVertices, Outcome.liftM_some,
    Outcome.value_bind, bind_assoc]
  refine bind_congr fun _ => bind_congr fun waits => bind_congr fun rides => ?_
  cases (ofAllocation a).addAll? (waits.filterMap id ++ rides.flatten) <;> rfl

end JourneyGraph

/-! ## What no bus notices -/

namespace Catalogue

/-- Changes to a catalogue that no bus notices. -/
inductive Unnoticed (c : Catalogue α) : Catalogue α → Prop where
  /-- A stop is registered, or moved if it was there. -/
  | addStop (name : String) (coordinates : Coordinates α) :
    c.Unnoticed (c.addStop name coordinates).2
  /-- A length is recorded between stops that no bus serves one after the other, in neither
  order. -/
  | setDistance {origin target : String} {meters : α} {x y : StopId} {c' : Catalogue α} :
    c.setDistance origin target meters = .value c' → c.findStop origin = some x →
    c.findStop target = some y →
    (∀ bus name line, c.buses.at? bus = some (name, line) →
      (x, y) ∉ line.hops ∧ (y, x) ∉ line.hops) → c.Unnoticed c'

/-- Between registered stops the road is the same, or the same two names have none between them, if
what is recorded between them is the same. -/
theorem KeepsNames.distance_eq (h : c.KeepsNames c') {a b : StopId} (ha : a < c.stops.size)
    (hb : b < c.stops.size) (hsame : c'.distance? a b = c.distance? a b) :
    c'.distance a b = c.distance a b := by
  obtain ⟨origin, horigin⟩ := exists_stopName? ha
  obtain ⟨target, htarget⟩ := exists_stopName? hb
  unfold distance
  rw [hsame, horigin, htarget, h.stopName? horigin, h.stopName? htarget]

/-- A length that is recorded counts for no other two stops. -/
theorem distance?_of_ne {x y p q : StopId} {meters : α}
    (hdistances : c'.distances = (c.distances.put (x, y) fun _ => meters).2)
    (hne : (p, q) ≠ (x, y)) (hback : (q, p) ≠ (x, y)) : c'.distance? p q = c.distance? p q := by
  unfold distance?
  rw [hdistances, Register.get?_put_of_ne _ hne, Register.get?_put_of_ne _ hback]

/-- **What such a change leaves as it is**: the buses, all names, and the road or the lack of one on
every hop of a bus. -/
theorem Unnoticed.leaves (hc : c.WellFormed) (h : c.Unnoticed c') :
    c'.WellFormed ∧ c'.buses = c.buses ∧ c.KeepsNames c' ∧
      ∀ bus name line, c.buses.at? bus = some (name, line) →
        ∀ hop ∈ line.hops, c'.distance hop.1 hop.2 = c.distance hop.1 hop.2 := by
  cases h with
  | addStop name coordinates =>
      have hnames : c.KeepsNames (c.addStop name coordinates).2 := .addStop c name coordinates
      obtain ⟨hbuses, hdistances⟩ := buses_addStop c name coordinates
      refine ⟨hc.addStop name coordinates, hbuses, hnames, fun bus line _ hbus hop hmem => ?_⟩
      obtain ⟨hfirst, hsecond⟩ := hc.lt_of_mem_hops hbus hmem
      exact hnames.distance_eq hfirst hsecond (by rw [distance?, hdistances, distance?])
  | @setDistance origin target meters x y _ hset hx hy hhops =>
      have hnames : c.KeepsNames c' := .setDistance hset
      refine ⟨hc.setDistance hset, ?_, hnames, fun bus name line hbus hop hmem => ?_⟩
      · obtain ⟨_, _, -, -, -, -, rfl⟩ := setDistance_eq_value_iff.1 hset
        rfl
      · obtain ⟨hfirst, hsecond⟩ := hc.lt_of_mem_hops hbus hmem
        obtain ⟨hthere, hback⟩ := hhops bus name line hbus
        obtain ⟨x', y', hx', hy', -, -, rfl⟩ := setDistance_eq_value_iff.1 hset
        obtain rfl : x' = x := Option.some.inj (hx'.symm.trans hx)
        obtain rfl : y' = y := Option.some.inj (hy'.symm.trans hy)
        refine hnames.distance_eq hfirst hsecond (distance?_of_ne rfl ?_ ?_)
        · rintro hhop
          exact hthere (hhop ▸ hmem)
        · rintro hhop
          obtain rfl : hop = (y', x') := congrArg Prod.swap hhop
          exact hback hmem

end Catalogue

namespace JourneyGraph

/-- Routes are told of the waits and rides of a graph, and of the vertices of its stops. -/
theorem shortestRoute_congr (g g' : JourneyGraph α) (hgraph : g'.graph = g.graph)
    (hlabels : g'.labels = g.labels) (hvertices : ∀ stop, g'.vertices? stop = g.vertices? stop)
    (c : Catalogue α) (a b : StopId) :
    g'.shortestRoute c a b = g.shortestRoute c a b := by
  have hitem : g'.item c = g.item c := by
    funext id
    unfold item
    rw [hgraph, hlabels]
  unfold shortestRoute
  rw [hvertices, hvertices, hgraph, hitem]

end JourneyGraph

/-- **Routing ignores what no bus uses.** After a change that no bus notices, building fails by the
same error as before, or it gives the same edges with the same weights, labels and lists at the same
vertices; stops that were not there before have no vertices, and every route is the same. -/
theorem JourneyGraph.build_unnoticed {α : Type} [Trigonometry α] {c c' : Catalogue α}
    (hc : c.Reachable) (h : c.Unnoticed c') (settings : Settings α) :
    (∃ e, build settings c = .failed e ∧ build settings c' = .failed e) ∨
    ∃ g g', build settings c = .value g ∧ build settings c' = .value g' ∧
      g'.graph = g.graph ∧ g'.labels = g.labels ∧
      (∀ stop, g'.vertices? stop = g.vertices? stop) ∧
      (∀ stop, c.stops.size ≤ stop → g'.vertices? stop = none) ∧
      ∀ a b, g'.shortestRoute c' a b = g.shortestRoute c a b := by
  have hwell : c.WellFormed := hc.wellFormed
  obtain ⟨hwell', hbuses, hnames, hhops⟩ := h.leaves hwell
  obtain ⟨vertices, hvertices, hbuild'⟩ := build_of_sameHops settings hwell hwell' hbuses hhops
  cases hbuild : build settings c with
  | failed e => exact .inl ⟨e, rfl, by rw [hbuild', hbuild]; rfl⟩
  | outOfRange => exact absurd hbuild (build_decidedBy settings hwell).ne_outOfRange
  | value g =>
      obtain ⟨milestones, hg⟩ := exists_built_served hwell hbuild
      have hsame : ∀ stop, ({ g with vertices } : JourneyGraph α).vertices? stop =
          g.vertices? stop := fun stop => (hvertices stop).trans hg.vertices?_eq.symm
      refine .inr ⟨g, { g with vertices }, rfl, by rw [hbuild', hbuild]; rfl, rfl, rfl, hsame,
        ?_, ?_⟩
      · intro stop hstop
        rw [hsame, hg.vertices?_eq, if_neg fun hmem =>
          Nat.not_lt.2 hstop (lt_of_mem_served hwell stop hmem)]
      · intro a b
        have hrange : g.shortestRoute c a b ≠ .outOfRange := by
          rcases exists_route_or_unreachable hwell hbuild a b with ⟨route, hroute⟩ | hroute
          · simp [hroute]
          · simp [hroute]
        have hroutes : ({ g with vertices } : JourneyGraph α).shortestRoute c' a b =
            g.shortestRoute c' a b :=
              shortestRoute_congr g { g with vertices } rfl rfl hsame c' a b
        exact hroutes.trans (shortestRoute_of_keepsNames hnames hrange)

namespace JourneyGraph

/-- On the avenue, a length between its two ends changes no edge and no route, as the bus stops in
between; and a dock that is registered gets no vertices. -/
theorem build_unnoticed_avenue :
    (∃ c' g', avenueCatalogue.setDistance "Airport" "Castle" 9000 = .value c' ∧
      build .standard c' = .value g' ∧ g'.graph = avenueJourneys.graph ∧
      g'.shortestRoute c' 0 2 = .value ⟨8.25, [.wait "Airport" 6, .ride "1" 2 2.25]⟩) ∧
    ∃ g', build .standard (avenueCatalogue.addStop "Dock" ⟨55.5, 38⟩).2 = .value g' ∧
      g'.graph = avenueJourneys.graph ∧ g'.vertices? 3 = none := by
  have hfind : avenueCatalogue.findStop "Airport" = some 0 ∧
      avenueCatalogue.findStop "Castle" = some 2 := by decide +kernel
  have hbuses : avenueCatalogue.buses.entries = [("1", ⟨[0, 1, 2], .thereAndBack⟩)] := by
    decide +kernel
  have hhops : ∀ bus name line, avenueCatalogue.buses.at? bus = some (name, line) →
      (0, 2) ∉ line.hops ∧ (2, 0) ∉ line.hops := by
    intro bus name line hbus
    have hmem := List.mem_of_getElem? hbus
    rw [hbuses, List.mem_singleton] at hmem
    obtain ⟨-, rfl⟩ := Prod.mk.inj hmem
    decide
  obtain ⟨c', hset⟩ : ∃ c', avenueCatalogue.setDistance "Airport" "Castle" 9000 = .value c' :=
    ⟨_, Catalogue.setDistance_eq_value_iff.2 ⟨0, 2, hfind.1, hfind.2,
      (by decide +kernel : isFinite (9000 : Float) = true), by decide +kernel, rfl⟩⟩
  constructor
  · rcases build_unnoticed reachable_avenueCatalogue (.setDistance hset hfind.1 hfind.2 hhops)
      .standard with ⟨e, hfailed, -⟩ | ⟨g, g', hg, hg', hgraph, -, -, -, hroute⟩
    · rw [build_avenueCatalogue] at hfailed
      cases hfailed
    · obtain rfl := Outcome.value.inj (hg.symm.trans build_avenueCatalogue)
      exact ⟨c', g', hset, hg', hgraph, (hroute 0 2).trans shortestRoute_avenue⟩
  · rcases build_unnoticed reachable_avenueCatalogue (.addStop "Dock" ⟨55.5, 38⟩)
      .standard with ⟨e, hfailed, -⟩ | ⟨g, g', hg, hg', hgraph, -, -, hnew, -⟩
    · rw [build_avenueCatalogue] at hfailed
      cases hfailed
    · obtain rfl := Outcome.value.inj (hg.symm.trans build_avenueCatalogue)
      have hsize : avenueCatalogue.stops.size = 3 := by decide +kernel
      exact ⟨g', hg', hgraph, hnew 3 (Nat.le_of_eq hsize)⟩

end JourneyGraph

end BusNetwork
