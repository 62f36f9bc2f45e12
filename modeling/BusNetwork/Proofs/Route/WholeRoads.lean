import BusNetwork.Proofs.Quantity.Whole
import BusNetwork.Proofs.Route.Shortening

/-!
# Roads in whole meters

Recorded lengths are whole numbers of meters as a rule, and their sums are far below `2 ^ 53`. Then
nothing is rounded: **roads add up** (`HasLengths.addsUp`), and whether a recorded length slows a
connection is a matter of that length alone. It does not if it is at most the one that was used
(`WellFormed.noSlower_setDistance_of_isWhole`).
-/

namespace BusNetwork.Catalogue

open Quantity Binary64

variable {settings : Settings Float} {c c' : Catalogue Float} {line : Bus} {a b : StopId}
  {lengths : StopId × StopId → Nat} {meters x : Float} {n : Nat}

/-- These are the lengths of hops, and they are whole numbers. -/
def HasLengths (c : Catalogue Float) (lengths : StopId × StopId → Nat)
    (hops : List (StopId × StopId)) : Prop :=
  ∀ hop ∈ hops, ∃ meters, c.distance? hop.1 hop.2 = some meters ∧ IsWhole meters (lengths hop)

/-- A road of whole meters goes on in whole meters. -/
theorem HasLengths.exists_road {hops : List (StopId × StopId)} (h : c.HasLengths lengths hops)
    (hx : IsWhole x n) (hunsigned : Unsigned (unpacked x))
    (htotal : n + (hops.map lengths).sum < 2 ^ 53) :
    ∃ y, hops.foldlM c.addHop? x = some y ∧ IsWhole y (n + (hops.map lengths).sum) ∧
      Unsigned (unpacked y) := by
  induction hops generalizing x n with
  | nil => exact ⟨x, rfl, hx, hunsigned⟩
  | cons hop rest ih =>
      obtain ⟨⟨meters, hmeters, hwhole⟩, hrest⟩ := List.forall_mem_cons.1 h
      have hplace : c.addHop? x hop = some (x + meters) := by
        rw [addHop?, hmeters]
        rfl
      rw [List.map_cons, List.sum_cons, ← Nat.add_assoc] at htotal ⊢
      rw [List.foldlM_cons, hplace]
      exact ih hrest (hx.add hwhole (by omega)) (hwhole.unsigned_add hunsigned) htotal

/-- **Whole meters add up**, as long as there are fewer than `2 ^ 53` of them. -/
theorem HasLengths.addsUp (h : c.HasLengths lengths line.hops)
    (htotal : (line.hops.map lengths).sum < 2 ^ 53) : c.AddsUp line := by
  intro j _ i hij
  let before := line.hops.take i
  let between := (line.hops.take j).drop i
  have hroad : ∀ hops : List (StopId × StopId), (∀ hop ∈ hops, hop ∈ line.hops) →
      (hops.map lengths).sum < 2 ^ 53 → ∃ z, hops.foldlM c.addHop? zero = some z ∧
        IsWhole z (hops.map lengths).sum ∧ Unsigned (unpacked z) := by
    intro hops hmem hless
    have hstart : Unsigned (unpacked zero) := rfl
    have hwhole : c.HasLengths lengths hops := fun hop hhop => h hop (hmem hop hhop)
    rw [← Nat.zero_add (hops.map lengths).sum] at hless ⊢
    exact hwhole.exists_road .zero hstart hless
  have hsplit : before ++ between = line.hops.take j := by
    have hbefore : before = (line.hops.take j).take i := by
      rw [List.take_take, Nat.min_eq_left hij.le]
    rw [hbefore, List.take_append_drop]
  have hsum : ((line.hops.take j).map lengths).sum =
      (before.map lengths).sum + (between.map lengths).sum := by
    rw [← hsplit, List.map_append, List.sum_append]
  have hless : ((line.hops.take j).map lengths).sum ≤ (line.hops.map lengths).sum :=
    ((List.take_sublist j line.hops).map lengths).sum_le_sum fun _ _ => Nat.zero_le _
  obtain ⟨x, hx, hwholex, -⟩ :=
    hroad before (fun _ => List.mem_of_mem_take) (by omega)
  obtain ⟨y, hy, hwholey, hunsignedy⟩ :=
    hroad (line.hops.take j) (fun _ => List.mem_of_mem_take) (by omega)
  obtain ⟨z, hz, hwholez, hunsignedz⟩ :=
    hroad between (fun _ hmem => List.mem_of_mem_take (List.mem_of_mem_drop hmem)) (by omega)
  -- both ways of measuring are exact, and neither comes to negative zero
  have hdifference : IsWhole (y - x) (between.map lengths).sum := by
    have hsub := hwholex.sub hwholey (by omega) (by omega)
    rwa [hsum, Nat.add_sub_cancel_left] at hsub
  have hunsigned : Unsigned (unpacked (y - x)) :=
    hwholex.unsigned_sub hwholey hunsignedy (by omega) (by omega)
  obtain rfl : z = y - x := hwholez.eq_of_unsigned hdifference hunsignedz hunsigned
  have hleft : c.roadTo? line i = some x := hx
  have hright : c.roadTo? line j = some y := hy
  rw [hleft, hright]
  exact hz

/-- Recording a length changes the one of its hop. -/
theorem HasLengths.setDistance (hnew : c.distances.get? (a, b) = none)
    (hdistances : c'.distances = (c.distances.put (a, b) fun _ => meters).2)
    {hops : List (StopId × StopId)} (h : c.HasLengths lengths hops) (hmeters : IsWhole meters n) :
    c'.HasLengths (Function.update lengths (a, b) n) hops := by
  intro hop hmem
  obtain ⟨used, hused, hwhole⟩ := h hop hmem
  rcases distance?_setDistance hnew hdistances hused with ⟨heq, -, hrecorded⟩ | ⟨hne, hkept⟩
  · obtain rfl : hop = (a, b) := heq
    refine ⟨meters, hrecorded, ?_⟩
    rw [Function.update_self]
    exact hmeters
  · refine ⟨used, hkept, ?_⟩
    rw [Function.update_of_ne hne]
    exact hwhole

/-- **In whole meters, a length that is at most the one that was used slows nothing.** -/
theorem WellFormed.noSlower_setDistance_of_isWhole (hc : c.WellFormed)
    (hs : settings.check = .ok ()) (hnew : c.distances.get? (a, b) = none)
    (hc' : c' = { c with distances := (c.distances.put (a, b) fun _ => meters).2 })
    (hwell : c'.WellFormed)
    (hlengths : ∀ bus name line, c.buses.at? bus = some (name, line) → (a, b) ∈ line.hops →
      c.HasLengths lengths line.hops ∧ (line.hops.map lengths).sum < 2 ^ 53)
    (hmeters : IsWhole meters n) (hle : n ≤ lengths (a, b)) :
    NoSlower settings settings c c' := by
  have hdistances : c'.distances = (c.distances.put (a, b) fun _ => meters).2 := by rw [hc']
  refine hc.noSlower_setDistance hs hnew hc' hwell fun bus name line hbus hride => ?_
  obtain ⟨hold, htotal⟩ := hlengths bus name line hbus hride
  have hless : ∀ hop ∈ line.hops, Function.update lengths (a, b) n hop ≤ lengths hop := by
    intro hop _
    by_cases heq : hop = (a, b)
    · rw [heq, Function.update_self]
      exact hle
    · rw [Function.update_of_ne heq]
  refine ⟨fun back hback => ?_, hold.addsUp htotal,
    (hold.setDistance hnew hdistances hmeters).addsUp ((List.sum_le_sum hless).trans_lt htotal)⟩
  obtain ⟨used, hused, hwhole⟩ := hold (a, b) hride
  rw [distance?, hnew, Option.none_or, hback] at hused
  obtain rfl : back = used := Option.some.inj hused
  exact (atMost_iff_le hmeters hwhole).2 (Nat.mul_le_mul_right _ hle)

end BusNetwork.Catalogue
