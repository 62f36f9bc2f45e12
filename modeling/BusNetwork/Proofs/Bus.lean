import BusNetwork.Bus
import Mathlib.Data.List.Forall2
import Mathlib.Data.List.Induction

/-!
# Buses: what is known of them from the list of their stops

* `RouteKind.run` — how a list of any sort is run along, and `hopsAlong`, the hops along it. **The
  hops of a bus are those along its list, and if it returns, then those back along it**
  (`Bus.exists_hops_eq_append`), which join the same stops in the other direction.
* `Bus.map f line` is a bus that runs like `line` over other stops. Everything about a bus is read
  off its stops, so its traversal and hops are those of `line` under `f`, it serves as many stops,
  and as many different ones if `f` keeps them apart.
-/

namespace BusNetwork

section

variable {β γ : Type}

/-! ## Hops along a list -/

/-- Each item of a list with the next one. -/
def hopsAlong (items : List β) : List (β × β) := items.zip items.tail

/-- The `i`-th hop goes from the `i`-th item to the one after it. -/
theorem getElem?_hopsAlong {items : List β} {i : Nat} {a b : β} :
    (hopsAlong items)[i]? = some (a, b) ↔ items[i]? = some a ∧ items[i + 1]? = some b := by
  unfold hopsAlong
  rw [List.getElem?_zip_eq_some, List.getElem?_tail]

/-- Hops along a list lead up to an item of it and on from there. -/
theorem hopsAlong_append_cons (before : List β) (item : β) (after : List β) :
    hopsAlong (before ++ item :: after) =
      hopsAlong (before ++ [item]) ++ hopsAlong (item :: after) := by
  induction before with
  | nil => rfl
  | cons first rest ih =>
      cases rest with
      | nil => rfl
      | cons second rest => exact congrArg ((first, second) :: ·) ih

/-- The hops back along a list are those along it, turned around. -/
theorem hopsAlong_reverse (items : List β) :
    hopsAlong items.reverse = ((hopsAlong items).map Prod.swap).reverse := by
  induction items with
  | nil => rfl
  | cons first rest ih =>
      cases rest with
      | nil => rfl
      | cons second rest =>
          have hlast : (first :: second :: rest).reverse = rest.reverse ++ second :: [first] := by
            simp
          have hfirst : hopsAlong (first :: second :: rest) =
              (first, second) :: hopsAlong (second :: rest) := rfl
          rw [List.reverse_cons] at ih
          rw [hlast, hopsAlong_append_cons, ih, hfirst, List.map_cons, List.reverse_cons]
          rfl

/-- Lists that match have hops that match. -/
theorem forall₂_hopsAlong {R : β → γ → Prop} {xs : List β} {ys : List γ}
    (h : List.Forall₂ R xs ys) :
    List.Forall₂ (fun x y => R x.1 y.1 ∧ R x.2 y.2) (hopsAlong xs) (hopsAlong ys) := by
  induction h with
  | nil => exact .nil
  | cons hfirst hrest ih =>
      cases hrest with
      | nil => exact .nil
      | cons hsecond _ => exact .cons ⟨hfirst, hsecond⟩ ih

/-! ## Running along a list -/

/-- The items of a list in the order in which they are run along. -/
def RouteKind.run (kind : RouteKind) (items : List β) : List β :=
  match kind with
  | .circular => items
  | .thereAndBack => items ++ items.reverse.tail

/-- Lists that match are run along so that they match. -/
theorem RouteKind.forall₂_run {R : β → γ → Prop} {xs : List β} {ys : List γ} (kind : RouteKind)
    (h : List.Forall₂ R xs ys) : List.Forall₂ R (kind.run xs) (kind.run ys) := by
  cases kind with
  | circular => exact h
  | thereAndBack =>
      refine List.rel_append h ?_
      rw [← List.drop_one, ← List.drop_one]
      exact List.forall₂_drop 1 (List.forall₂_reverse_iff.2 h)

/-- Who runs there and back makes all hops along a list, and then all hops back along it. -/
theorem RouteKind.hopsAlong_run_thereAndBack (items : List β) :
    hopsAlong (RouteKind.thereAndBack.run items) = hopsAlong items ++ hopsAlong items.reverse := by
  induction items using List.reverseRecOn with
  | nil => rfl
  | append_singleton before last _ =>
      simpa [RouteKind.run] using hopsAlong_append_cons before last before.reverse

end

namespace Bus

variable {f : StopId → StopId} {line : Bus}

/-- The traversal of a bus is that of its kind along its listed stops. -/
theorem traversal_eq_run (line : Bus) : line.traversal = line.kind.run line.stops := by
  cases hk : line.kind <;> simp [traversal, RouteKind.run, hk]

/-- A bus makes the hops along its list, and after them it makes at most those back along it. -/
theorem exists_hops_eq_append (line : Bus) : ∃ back, line.hops = hopsAlong line.stops ++ back ∧
    ∀ hop ∈ back, hop.swap ∈ hopsAlong line.stops := by
  change ∃ back, hopsAlong line.traversal = _ ∧ _
  rw [traversal_eq_run]
  cases line.kind with
  | circular => exact ⟨[], (List.append_nil _).symm, by simp⟩
  | thereAndBack =>
      refine ⟨_, RouteKind.hopsAlong_run_thereAndBack line.stops, ?_⟩
      intro hop hmem
      rw [hopsAlong_reverse, List.mem_reverse, List.mem_map] at hmem
      obtain ⟨out, hout, rfl⟩ := hmem
      exact hout

/-! ## Other stops -/

/-- The bus that runs alike over other stops. -/
def map (f : StopId → StopId) (line : Bus) : Bus := ⟨line.stops.map f, line.kind⟩

/-- A bus whose stops are all kept as they are is the bus itself. -/
@[simp] theorem map_id (line : Bus) : line.map id = line := by
  unfold map
  rw [List.map_id]

/-- Renaming the stops of a bus renames those of its traversal. -/
theorem traversal_map : (line.map f).traversal = line.traversal.map f := by
  cases hk : line.kind with
  | circular => simp [traversal, map, hk]
  | thereAndBack => simp [traversal, map, hk]

/-- Renaming the stops of a bus renames both ends of its hops. -/
theorem hops_map : (line.map f).hops = line.hops.map (Prod.map f f) := by
  unfold hops
  rw [traversal_map, ← List.map_tail, List.zip_map]

/-- Renaming the stops of a bus leaves their count as it is. -/
theorem stopCount_map : (line.map f).stopCount = line.stopCount := by
  simp [stopCount, map]

/-- Taking repeats away and changing the items that are left. -/
theorem eraseDups_map {stops : List StopId}
    (h : ∀ s ∈ stops, ∀ t ∈ stops, f s = f t → s = t) :
    (stops.map f).eraseDups = stops.eraseDups.map f := by
  induction hn : stops.length using Nat.strongRecOn generalizing stops with
  | ind n ih =>
      cases stops with
      | nil => rfl
      | cons first rest =>
          have hkept : (rest.map f).filter (fun t => !t == f first) =
              (rest.filter fun s => !s == first).map f := by
            rw [List.filter_map]
            congr 1
            apply List.filter_congr
            intro s hs
            by_cases heq : s = first
            · simp [heq]
            · have hne : f s ≠ f first := by
                intro hf
                exact heq (h s (List.mem_cons_of_mem _ hs) first (List.mem_cons_self ..) hf)
              simp [beq_false_of_ne heq, beq_false_of_ne hne]
          have hless : (rest.filter fun s => !s == first).length < n := by
            rw [← hn, List.length_cons]
            exact Nat.lt_succ_of_le (List.length_filter_le _ _)
          have hrest : ∀ s ∈ rest.filter (fun s => !s == first),
              ∀ t ∈ rest.filter (fun s => !s == first), f s = f t → s = t := by
            intro s hs t ht
            exact h s (List.mem_cons_of_mem _ (List.mem_filter.1 hs |>.1)) t
              (List.mem_cons_of_mem _ (List.mem_filter.1 ht |>.1))
          rw [List.map_cons, List.eraseDups_cons, List.eraseDups_cons, hkept,
            ih _ hless hrest rfl, List.map_cons]

/-- As many different stops are served if they are kept apart. -/
theorem uniqueStopCount_map (h : ∀ s ∈ line.stops, ∀ t ∈ line.stops, f s = f t → s = t) :
    (line.map f).uniqueStopCount = line.uniqueStopCount := by
  rw [uniqueStopCount, map, eraseDups_map h, List.length_map, uniqueStopCount]

end Bus

end BusNetwork
