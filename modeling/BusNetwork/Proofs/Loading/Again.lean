import BusNetwork.Proofs.Catalogue.Known
import BusNetwork.Proofs.Loading.Faults

/-!
# A description loaded twice over

`calls requests` is the list of the calls that loading a description makes if nothing is wrong with
it: the stops that are put somewhere, the roads that are recorded and the buses that are registered.
**A catalogue that is loaded has these calls as its history** (`cameAbout_ofRequests`).

A description followed by itself has the same faults in the same order, and its calls say what those
of the description say, each pass being repeated right away. So **it fails by the same error or
makes the same catalogue** (`ofRequests_again`), though in between stops are moved back, roads are
recorded anew and buses run once more as they were defined before.
-/

set_option linter.unusedSectionVars false

namespace BusNetwork

variable {α : Type} [Quantity α] {requests : List (BaseRequest α)}

/-! ## The calls of a description -/

namespace BaseRequest

/-- What the first pass calls for an entry. -/
def stopCalls : BaseRequest α → List (Operation α)
  | stop name latitude longitude _ =>
    match Coordinates.ofDegrees latitude longitude with
    | .ok coordinates => [.addStop name coordinates]
    | .error _ => []
  | bus _ _ _ => []

/-- What the second pass calls for an entry. -/
def roadCalls : BaseRequest α → List (Operation α)
  | stop name _ _ roads => roads.map fun (target, meters) => .setDistance name target meters
  | bus _ _ _ => []

/-- What the third pass calls for an entry. -/
def busCalls : BaseRequest α → List (Operation α)
  | stop _ _ _ _ => []
  | bus name stops isRoundTrip => [.addBus name stops (.ofRoundTrip isRoundTrip)]

end BaseRequest

/-- What loading a description calls, pass by pass. -/
def calls (requests : List (BaseRequest α)) : List (Operation α) :=
  requests.flatMap BaseRequest.stopCalls ++ requests.flatMap BaseRequest.roadCalls ++
    requests.flatMap BaseRequest.busCalls

/-- The calls of a description twice over say what its calls say. -/
theorem saysSame_calls_append (requests : List (BaseRequest α)) :
    History.SaysSame (calls (requests ++ requests)) (calls requests) := by
  let stops := requests.flatMap BaseRequest.stopCalls
  let roads := requests.flatMap BaseRequest.roadCalls
  let buses := requests.flatMap BaseRequest.busCalls
  have hcalls : calls (requests ++ requests) =
      stops ++ stops ++ (roads ++ roads ++ (buses ++ buses)) := by
    simp [calls, stops, roads, buses]
  have hstops := History.saysSame_repeated [] stops (roads ++ roads ++ (buses ++ buses))
  have hroads := History.saysSame_repeated stops roads (buses ++ buses)
  have hbuses := History.saysSame_repeated (stops ++ roads) buses []
  simp only [List.nil_append, List.append_nil, List.append_assoc] at hcalls hstops hroads hbuses
  rw [hcalls]
  refine (hstops.trans hroads).trans ?_
  simpa [calls, stops, roads, buses] using hbuses

namespace Catalogue

variable {c c' : Catalogue α} {history : List (Operation α)}

/-! ## What a loaded catalogue has as its history -/

/-- A catalogue that can come about, and its history. -/
def CameAbout (history : List (Operation α)) (c : Catalogue α) : Prop :=
  c.Reachable ∧ Records history c

/-- An operation that ends well is one word more in the history. -/
theorem CameAbout.perform (h : CameAbout history c) {operation : Operation α}
    (hperform : c.perform operation = .value c') : CameAbout (history ++ [operation]) c' :=
  ⟨h.1.perform hperform, h.2.perform h.1.wellFormed hperform⟩

/-- Going through a list puts the calls for each of its items at the end of the history, if each
step does. -/
theorem CameAbout.foldlM {ε β : Type} {step : Catalogue α → β → Outcome ε (Catalogue α)}
    {made : β → List (Operation α)} {xs : List β} (h : CameAbout history c)
    (hrun : xs.foldlM step c = .value c')
    (hstep : ∀ history c x c', CameAbout history c → step c x = .value c' →
      CameAbout (history ++ made x) c') :
    CameAbout (history ++ xs.flatMap made) c' := by
  induction xs using List.reverseRecOn generalizing c' with
  | nil =>
      obtain rfl : c = c' := by simpa using hrun
      simpa using h
  | append_singleton before x ih =>
      obtain ⟨c₁, hbefore, hlast⟩ := Outcome.foldlM_concat.1 hrun
      simpa using hstep _ _ _ _ (ih hbefore) hlast

/-- A request in the first pass adds the registration of its stop to the history. -/
theorem CameAbout.loadStop {r : BaseRequest α} (h : CameAbout history c)
    (hload : c.loadStop r = .value c') : CameAbout (history ++ r.stopCalls) c' := by
  rcases loadStop_eq_value_iff.1 hload with ⟨name, latitude, longitude, roads, p, rfl, hp, rfl⟩ |
    ⟨name, stops, isRoundTrip, rfl, rfl⟩
  · rw [BaseRequest.stopCalls, hp]
    exact h.perform rfl
  · simpa [BaseRequest.stopCalls] using h

/-- A request in the second pass adds the records of its roads to the history. -/
theorem CameAbout.loadRoads {r : BaseRequest α} (h : CameAbout history c)
    (hload : c.loadRoads r = .value c') : CameAbout (history ++ r.roadCalls) c' := by
  rcases loadRoads_eq_value_iff.1 hload with ⟨name, latitude, longitude, roads, rfl, hset⟩ |
    ⟨name, stops, isRoundTrip, rfl, rfl⟩
  · rw [BaseRequest.roadCalls, List.map_eq_flatMap]
    exact h.foldlM hset fun _ _ _ _ hc hroad => hc.perform hroad
  · simpa [BaseRequest.roadCalls] using h

/-- A request in the third pass adds the registration of its bus to the history. -/
theorem CameAbout.loadBus {r : BaseRequest α} (h : CameAbout history c)
    (hload : c.loadBus r = .value c') : CameAbout (history ++ r.busCalls) c' := by
  rcases loadBus_eq_value_iff.1 hload with ⟨name, stops, isRoundTrip, bus, rfl, hadd⟩ |
    ⟨name, latitude, longitude, roads, rfl, rfl⟩
  · refine h.perform ?_
    rw [Catalogue.perform, hadd]
    rfl
  · simpa [BaseRequest.busCalls] using h

/-- **The history of a loaded catalogue are the calls of its description.** -/
theorem cameAbout_ofRequests (h : ofRequests requests = .value c) :
    CameAbout (calls requests) c := by
  obtain ⟨c₁, c₂, hpasses⟩ := exists_passes h
  have hempty : CameAbout [] (empty : Catalogue α) := ⟨.empty, records_empty⟩
  have hstops := hempty.foldlM hpasses.loadStops fun _ _ _ _ hc hload => hc.loadStop hload
  have hroads := hstops.foldlM hpasses.loadRoads fun _ _ _ _ hc hload => hc.loadRoads hload
  exact hroads.foldlM hpasses.loadBuses fun _ _ _ _ hc hload => hc.loadBus hload

/-! ## Twice over -/

/-- A description twice over declares the same stops. -/
theorem declares_append_self {name : String} :
    Declares (requests ++ requests) name ↔ Declares requests name := by
  simp [Declares]

/-- A description twice over has the same fault. -/
theorem loadFault?_append_self (requests : List (BaseRequest α)) :
    loadFault? (requests ++ requests) = loadFault? requests := by
  have hstop : stopFault? (requests ++ requests) = stopFault? requests := by
    funext name
    simp only [stopFault?, declares_append_self]
  have hroad : roadFault? (requests ++ requests) = roadFault? requests := by
    funext origin road
    simp only [roadFault?, hstop]
  have hroads : BaseRequest.roadsFault? (requests ++ requests) =
      BaseRequest.roadsFault? requests := by
    funext r
    cases r <;> simp only [BaseRequest.roadsFault?, hroad]
  have hstops : BaseRequest.stopsFault? (requests ++ requests) =
      BaseRequest.stopsFault? requests := by
    funext r
    cases r <;> simp only [BaseRequest.stopsFault?, hstop]
  simp only [loadFault?, hroads, hstops, List.findSome?_append, Option.or_self]

/-- **Loading a description twice over is loading it once**: it fails by the same error, or it makes
the same catalogue. -/
theorem ofRequests_again (requests : List (BaseRequest α)) :
    (∃ error, ofRequests requests = .failed error ∧
        ofRequests (requests ++ requests) = .failed error) ∨
      ∃ c, ofRequests requests = .value c ∧ ofRequests (requests ++ requests) = .value c := by
  have honce := ofRequests_decidedBy requests
  have htwice := ofRequests_decidedBy (requests ++ requests)
  rw [loadFault?_append_self] at htwice
  cases hfault : loadFault? requests with
  | some error => exact .inl ⟨error, honce.eq_failed_iff.2 hfault, htwice.eq_failed_iff.2 hfault⟩
  | none =>
      obtain ⟨c, hc⟩ := honce.exists_value_iff.2 hfault
      obtain ⟨c', hc'⟩ := htwice.exists_value_iff.2 hfault
      obtain ⟨hreachable, hrecords⟩ := cameAbout_ofRequests hc
      obtain ⟨hreachable', hrecords'⟩ := cameAbout_ofRequests hc'
      have heq : c' = c := hrecords'.eq_of_saysSame hrecords (saysSame_calls_append requests)
        hreachable'.wellFormed hreachable.wellFormed
      exact .inr ⟨c, hc, heq ▸ hc'⟩

end Catalogue

end BusNetwork
