import BusNetwork.Proofs.Catalogue.Gaps
import BusNetwork.Proofs.Catalogue.Runs
import BusNetwork.Proofs.Coordinates
import BusNetwork.Proofs.Journey
import BusNetwork.Proofs.Loading

/-!
# Lengths: what the statistics of a bus are computed from

The two lengths of a bus are sums over its hops. Recorded roads are amounts, and so is the distance
between stops at points that are accepted. **So both lengths are amounts**, and their quotient,
which is taken where the second one is positive only, never comes of zero over zero: it is an amount
as well if the first length is finite (`Charted.soundLengths`).

Of the program's own numbers this takes nothing but that the functions of angles answer in range
(`distances_and_lengths_sound`).

A catalogue is `Charted` if its stops stand at accepted points. It is so after every run that
registers stops at such points only (`Charted.run`), since no operation makes up a point, and the
points of a description are checked when it is loaded (`soundLengths_of_ofRequests`).
-/

namespace BusNetwork

open Quantity Coordinates

/-- An operation registers no stop but at an accepted point. -/
def Operation.Charted {α : Type} [Trigonometry α] : Operation α → Prop
  | addStop _ coordinates => coordinates.Accepted
  | addBus _ _ _ => True
  | setDistance _ _ _ => True

namespace Catalogue

variable {α : Type} [Trigonometry α] {c c' : Catalogue α} {line : Bus} {name : String}
  {a b : StopId} {road straight : α}

/-! ## Sums of amounts -/

/-- What is known of a bus comes from its two lengths. -/
theorem exists_lengths_of_busInfo {s : BusStatistics α} (h : c.busInfo name = .value s) :
    ∃ line straight, c.buses.get? name = some line ∧ c.routeLength line = .value s.routeLength ∧
      (c.geographicLength line : Outcome (CatalogueError α) α) = .value straight ∧
      s.curvature = curvature s.routeLength straight := by
  rw [busInfo_eq] at h
  split at h
  · rename_i line hline
    obtain ⟨road, hroad, h⟩ := Outcome.bind_eq_value_iff.1 h
    obtain ⟨straight, hstraight, h⟩ := Outcome.bind_eq_value_iff.1 h
    obtain rfl := Outcome.value.inj h
    exact ⟨line, straight, hline, hroad, hstraight, rfl⟩
  · cases h

/-- A sum of amounts is an amount. -/
theorem zero_atMost_foldl [OrderedQuantity α] {total : α} {lengths : List α}
    (htotal : AtMost zero total) (h : ∀ x ∈ lengths, AtMost zero x) :
    AtMost zero (lengths.foldl (· + ·) total) := by
  induction lengths generalizing total with
  | nil => exact htotal
  | cons x rest ih =>
      rw [List.forall_mem_cons] at h
      exact ih (zero_atMost_add htotal h.1) h.2

/-- The length of a bus by road is an amount. -/
theorem WellFormed.zero_atMost_routeLength [OrderedQuantity α] [SummedQuantity α]
    (hc : c.WellFormed) (hline : c.buses.get? name = some line)
    (h : c.routeLength line = .value road) : AtMost zero road := by
  obtain ⟨bus, hbus⟩ := (Register.get?_eq_some_iff hc.buses_distinct).1 hline
  obtain ⟨-, lengths, hlengths, rfl⟩ := (hc.routeLength_decidedBy hbus).of_value h
  refine zero_atMost_foldl zero_atMost_emptySum fun x hx => ?_
  obtain ⟨hop, -, hdistance⟩ := exists_mem_of_forall₂ hlengths hx
  exact hc.zero_atMost_distance hdistance

/-! ## Charted catalogues -/

/-- All stops stand at accepted points. -/
def Charted (c : Catalogue α) : Prop := ∀ stop p, c.coordinates? stop = some p → p.Accepted

namespace Charted

/-- The empty catalogue is charted, for it holds no stop and no road. -/
theorem empty : (empty : Catalogue α).Charted := by
  intro stop p hp
  cases hp

/-- Registering a stop at an accepted point moves no other. -/
theorem addStop (hc : c.Charted) {p : Coordinates α} (hp : p.Accepted) (name : String) :
    (c.addStop name p).2.Charted := by
  intro stop q hq
  rw [coordinates?_eq, (addStop_spec c name p).2.2] at hq
  split_ifs at hq
  · obtain rfl : p = q := Option.some.inj hq
    exact hp
  · exact hc stop q (by rwa [coordinates?_eq])

/-- A call puts a stop at an accepted point or leaves all of them where they are. -/
theorem perform (hc : c.Charted) (hwell : c.WellFormed) {operation : Operation α}
    (hoperation : operation.Charted) (h : c.perform operation = .value c') : c'.Charted := by
  cases operation with
  | addStop name coordinates =>
      obtain rfl : (c.addStop name coordinates).2 = c' := Outcome.value.inj h
      exact hc.addStop hoperation name
  | addBus name stopNames kind =>
      obtain ⟨⟨bus, c₁⟩, hadd, heq⟩ := Outcome.bind_eq_value_iff.1 h
      obtain rfl : c₁ = c' := Outcome.value.inj heq
      intro stop p hp
      rw [(stopName?_addBus hwell hadd stop).2] at hp
      exact hc stop p hp
  | setDistance origin target meters =>
      obtain ⟨a, b, -, -, -, -, rfl⟩ := setDistance_eq_value_iff.1 h
      exact hc

/-- **A run that registers stops at accepted points only leads to a charted catalogue.** -/
theorem run (hc : c.Charted) (hreachable : c.Reachable) {operations : List (Operation α)}
    (hoperations : ∀ operation ∈ operations, operation.Charted)
    (h : c.run operations = some c') : c'.Charted := by
  induction operations generalizing c with
  | nil =>
      obtain rfl : c = c' := Option.some.inj h
      exact hc
  | cons operation later ih =>
      rw [List.forall_mem_cons] at hoperations
      rw [Catalogue.run, List.foldlM_cons, Option.bind_eq_bind, Option.bind_eq_some_iff] at h
      obtain ⟨c₁, hattempt, hlater⟩ := h
      have hrun : c.run [operation] = some c₁ := by
        rw [Catalogue.run, List.foldlM_cons, hattempt]
        rfl
      refine ih ?_ (hreachable.of_run hrun).1 hoperations.2 hlater
      rcases hreachable.wellFormed.attempt_eq_some_iff.1 hattempt with ⟨-, rfl⟩ | ⟨-, hvalue⟩
      · exact hc
      · exact hc.perform hreachable.wellFormed hoperations.1 hvalue

end Charted

/-- The first pass of loading checks every point. -/
theorem charted_loadStops {requests : List (BaseRequest α)}
    (h : requests.foldlM loadStop .empty = .value c) : c.Charted := by
  induction requests using List.reverseRecOn generalizing c with
  | nil =>
      obtain rfl : Catalogue.empty = c := by simpa using h
      exact .empty
  | append_singleton before r ih =>
      obtain ⟨c₀, hbefore, hr⟩ := Outcome.foldlM_concat.1 h
      rcases loadStop_eq_value_iff.1 hr with
        ⟨name, latitude, longitude, roads, p, -, hp, rfl⟩ | ⟨-, -, -, -, rfl⟩
      · exact (ih hbefore).addStop ⟨latitude, longitude, hp⟩ name
      · exact ih hbefore

/-! ## Lengths as the crow flies, and curvatures -/

/-- What is computed of a bus comes out as an amount: its length as the crow flies, and the quotient
of its lengths if the one by road is finite. -/
structure SoundLengths (c : Catalogue α) : Prop where
  /-- The length as the crow flies is a number that is not negative. -/
  exists_geographicLength {ε : Type} {name : String} {line : Bus} :
    c.buses.get? name = some line → ∃ straight,
      (c.geographicLength line : Outcome ε α) = .value straight ∧
        IsNumber straight ∧ AtMost zero straight
  /-- So is the curvature. -/
  zero_atMost_curvature {name : String} {s : BusStatistics α} :
    c.busInfo name = .value s → isFinite s.routeLength = true →
      IsNumber s.curvature ∧ AtMost zero s.curvature

variable [SphericalQuantity α]

/-- Stops at accepted points are an amount of meters apart. -/
theorem Charted.straightDistance_decidedBy {ε : Type} (hc : c.Charted) (ha : a < c.stops.size)
    (hb : b < c.stops.size) :
    (c.straightDistance a b : Outcome ε α).DecidedBy none (AtMost zero) := by
  obtain ⟨p, hp⟩ := exists_coordinates? ha
  obtain ⟨q, hq⟩ := exists_coordinates? hb
  unfold straightDistance
  rw [hp, hq]
  exact Outcome.decidedBy_value ((hc a p hp).zero_atMost_distance (hc b q hq))

/-- **As the crow flies, every bus has a length that is an amount.** -/
theorem Charted.exists_geographicLength {ε : Type} (hc : c.Charted) (hwell : c.WellFormed)
    (hline : c.buses.get? name = some line) : ∃ straight,
      (c.geographicLength line : Outcome ε α) = .value straight ∧ AtMost zero straight := by
  obtain ⟨bus, hbus⟩ := (Register.get?_eq_some_iff hwell.buses_distinct).1 hline
  have hdecided : (c.geographicLength line : Outcome ε α).DecidedBy
      (line.hops.findSome? fun _ => none) fun total => ∃ lengths,
        List.Forall₂ (fun _ x => AtMost zero x) line.hops lengths ∧
          total = lengths.foldl (· + ·) emptySum := by
    refine sumHops_decidedBy fun hop hmem => ?_
    obtain ⟨hfirst, hsecond⟩ := hwell.lt_of_mem_hops hbus hmem
    exact hc.straightDistance_decidedBy hfirst hsecond
  obtain ⟨straight, hstraight⟩ := hdecided.exists_value_iff.2 (by simp)
  obtain ⟨-, lengths, hlengths, rfl⟩ := hdecided.of_value hstraight
  refine ⟨_, hstraight, zero_atMost_foldl zero_atMost_emptySum fun x hx => ?_⟩
  obtain ⟨hop, -, hamount⟩ := exists_mem_of_forall₂ hlengths hx
  exact hamount

/-- A curvature is never zero over zero. -/
theorem zero_atMost_curvature_of_isFinite (hroad : AtMost zero road)
    (hfinite : isFinite road = true) : AtMost zero (curvature road straight) := by
  unfold curvature
  split
  · next hpos => exact SphericalQuantity.zero_atMost_quotient hroad hfinite hpos
  · exact zero_atMost_zero

/-- **What is computed of the buses of a charted catalogue comes out as an amount.** -/
theorem Charted.soundLengths (hc : c.Charted) (hwell : c.WellFormed) : c.SoundLengths := by
  constructor
  · intro ε name line hline
    obtain ⟨straight, hstraight, hamount⟩ := hc.exists_geographicLength hwell hline
    exact ⟨straight, hstraight, hamount.right, hamount⟩
  · intro name s hs hfinite
    obtain ⟨line, straight, hline, hroad, -, hcurvature⟩ := exists_lengths_of_busInfo hs
    have hamount : AtMost zero s.curvature := by
      rw [hcurvature]
      exact zero_atMost_curvature_of_isFinite (hwell.zero_atMost_routeLength hline hroad) hfinite
    exact ⟨hamount.right, hamount⟩

/-- So does what is computed of the buses of a description. -/
theorem soundLengths_of_ofRequests {requests : List (BaseRequest α)}
    (h : ofRequests requests = .value c) : c.SoundLengths := by
  obtain ⟨withStops, withRoads, hpasses⟩ := exists_passes h
  have hcharted : c.Charted := by
    intro stop p hp
    rw [hpasses.coordinates?_eq] at hp
    exact charted_loadStops hpasses.loadStops stop p hp
  exact hcharted.soundLengths hpasses.reachable.wellFormed

end Catalogue

/-! ## 64-bit floating point -/

namespace AngleFunctions

/-- **No distance between accepted points, no length of a bus as the crow flies and no curvature of
a road that is finite is undefined or negative**, if the functions of angles answer in range.
Distances are the same in both directions and at most the widest arc. -/
theorem distances_and_lengths_sound (f : AngleFunctions) (hf : f.InRange) :
    letI := f.trigonometry
    (∃ angle : Float, IsWidest angle ∧ ∀ p q : Coordinates Float, p.Accepted → q.Accepted →
      SoundDistance (angle * earthRadius) p q) ∧
    ∀ operations : List (Operation Float), (∀ operation ∈ operations, operation.Charted) →
      ∃ c, Catalogue.empty.run operations = some c ∧ c.SoundLengths := by
  let _ := f.trigonometry
  have hlaws : SphericalQuantity Float := hf.sphericalQuantity
  constructor
  · obtain ⟨angle, hangle⟩ := hf.exists_isWidest
    exact ⟨angle, hangle, fun p q hp hq => hp.soundDistance hq hangle⟩
  · intro operations hoperations
    obtain ⟨c, hrun, hreachable, -⟩ := Catalogue.Reachable.empty.exists_run operations
    have hcharted : c.Charted := Catalogue.Charted.empty.run .empty hoperations hrun
    exact ⟨c, hrun, hcharted.soundLengths hreachable.wellFormed⟩

/-- Two stops next to each other on a parallel, two a quarter of the equator apart, and a bus for
either pair. -/
def parallels : List (Operation Float) :=
  [.addStop "Harbour" ⟨46, 0⟩, .addStop "Quay" ⟨46, 1e-9⟩, .addStop "Meridian" ⟨0, 0⟩,
    .addStop "Quarter" ⟨0, 90⟩, .setDistance "Harbour" "Quay" 30,
    .setDistance "Meridian" "Quarter" 12000000, .addBus "1" ["Harbour", "Quay"] .thereAndBack,
    .addBus "2" ["Meridian", "Quarter"] .thereAndBack]

/-- The cosine of the angle between the stops on the parallel comes out beyond one, and so they are
no way apart and their bus, which has a road, has no curvature. The other one has. -/
theorem distances_and_lengths_sound_parallels :
    letI := almanac.trigonometry
    almanac.InRange ∧ (∀ operation ∈ parallels, operation.Charted) ∧
    one < (⟨46, 0⟩ : Coordinates Float).cosAngle ⟨46, 1e-9⟩ ∧
    (⟨46, 0⟩ : Coordinates Float).distance ⟨46, 1e-9⟩ = 0 ∧
    (⟨0, 0⟩ : Coordinates Float).distance ⟨0, 90⟩ = 10007543.39772425 ∧
    (∃ angle : Float, IsWidest angle ∧
      SoundDistance (angle * earthRadius) (⟨46, 0⟩ : Coordinates Float) ⟨46, 1e-9⟩ ∧
      SoundDistance (angle * earthRadius) (⟨0, 0⟩ : Coordinates Float) ⟨0, 90⟩) ∧
    ∃ c, Catalogue.empty.run parallels = some c ∧ c.SoundLengths ∧
      c.busInfo "1" = .value ⟨3, 2, 60, 0⟩ ∧
      c.busInfo "2" = .value ⟨3, 2, 24000000, 1.19909547459258⟩ := by
  let _ := almanac.trigonometry
  have haccepted : ∀ p ∈ ([⟨46, 0⟩, ⟨46, 1e-9⟩, ⟨0, 0⟩, ⟨0, 90⟩] : List (Coordinates Float)),
      p.Accepted := by
    intro p hp
    refine ⟨p.latitude, p.longitude, ?_⟩
    revert p
    decide +kernel
  obtain ⟨⟨angle, hangle, hdistance⟩, hrun⟩ := distances_and_lengths_sound almanac almanac_inRange
  have hcharted : ∀ operation ∈ parallels, operation.Charted := by
    simpa [parallels, Operation.Charted] using haccepted
  obtain ⟨c, hc, hsound⟩ := hrun parallels hcharted
  have hstatistics : (Catalogue.empty.run parallels).map
      (fun c => (c.busInfo "1", c.busInfo "2")) =
        some (.value ⟨3, 2, 60, 0⟩, .value ⟨3, 2, 24000000, 1.19909547459258⟩) := by
    decide +kernel
  rw [hc] at hstatistics
  obtain ⟨hharbour, hequator⟩ := Prod.mk.inj (Option.some.inj hstatistics)
  exact ⟨almanac_inRange, hcharted, by decide +kernel, by decide +kernel, by decide +kernel,
    ⟨angle, hangle, hdistance _ _ (haccepted _ (by simp)) (haccepted _ (by simp)),
      hdistance _ _ (haccepted _ (by simp)) (haccepted _ (by simp))⟩,
    c, hc, hsound, hharbour, hequator⟩

end AngleFunctions

end BusNetwork
