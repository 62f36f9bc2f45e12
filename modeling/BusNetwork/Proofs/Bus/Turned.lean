import BusNetwork.Proofs.Bus
import BusNetwork.Proofs.Catalogue.Index

/-!
# Buses whose list is turned around

A bus that goes there and back may be written down from either end. `Bus.SameOrTurned` says of two
buses that they are the same up to that. They make the same hops, in another order (`hops_perm`),
and serve the same stops.

They do not make the same rides, since they turn round at opposite ends. But a ride that turns round
comes back over stops that it has passed, so **a part of it is as good**
(`exists_infix_direct`): that part leads from its first to its last stop in one direction, and both
buses run over it.
-/

namespace BusNetwork

section

variable {β : Type} {s t last : β} {items walk part before after between : List β}

/-! ## Hops along a part of a list -/

/-- The hops along a front part are a front part of the hops. -/
theorem hopsAlong_front (h : part <+: items) : hopsAlong part <+: hopsAlong items := by
  obtain ⟨rest, rfl⟩ := h
  rcases part.eq_nil_or_concat with rfl | ⟨front, last, rfl⟩
  · exact List.nil_prefix
  · rw [List.concat_eq_append, List.append_assoc, List.singleton_append,
      hopsAlong_append_cons front last rest]
    exact List.prefix_append _ _

/-- The hops along a back part are a back part of the hops. -/
theorem hopsAlong_back (h : part <:+ items) : hopsAlong part <:+ hopsAlong items := by
  obtain ⟨front, rfl⟩ := h
  cases part with
  | nil => exact List.nil_suffix
  | cons first rest =>
      rw [hopsAlong_append_cons]
      exact List.suffix_append _ _

/-- The hops along a part of a list are a part of the hops along the list. -/
theorem hopsAlong_part (h : part <:+: items) : hopsAlong part <:+: hopsAlong items := by
  obtain ⟨front, hpart, hfront⟩ := List.infix_iff_prefix_suffix.1 h
  exact List.infix_iff_prefix_suffix.2 ⟨_, hopsAlong_front hpart, hopsAlong_back hfront⟩

/-! ## Walks there and back -/

/-- Who goes there and back goes along the list. -/
theorem RouteKind.infix_run_thereAndBack (items : List β) :
    items <:+: RouteKind.thereAndBack.run items := (List.prefix_append _ _).isInfix

/-- Who goes there and back comes back along the list. -/
theorem RouteKind.infix_run_reverse (items : List β) :
    items <:+: RouteKind.thereAndBack.run items.reverse := by
  cases items with
  | nil => exact List.nil_infix
  | cons first rest =>
      refine List.IsSuffix.isInfix ⟨rest.reverse, ?_⟩
      simp [RouteKind.run]

/-- A walk that turns round and comes back over all that it has passed starts from the stop that it
passes again. -/
theorem exists_suffix_of_turn (hwalk : s :: (between ++ [t]) = before ++ last :: after)
    (hturn : before <:+ after.reverse) :
    s = t ∨ ∃ direct, s :: (direct ++ [t]) <:+ last :: after := by
  cases before with
  | nil => exact .inr ⟨between, by rw [hwalk]; exact List.suffix_rfl⟩
  | cons first passed =>
      obtain ⟨beyond, hbeyond⟩ := hturn
      have hafter : after = passed.reverse ++ first :: beyond.reverse := by
        rw [← List.reverse_reverse after, ← hbeyond]
        simp
      rw [List.cons_append, List.cons.injEq] at hwalk
      obtain ⟨rfl, hwalk⟩ := hwalk
      rw [hafter] at hwalk ⊢
      rcases beyond.reverse.eq_nil_or_concat with hnone | ⟨direct, final, hsome⟩
      · -- it ends where it starts
        have hends : between ++ [t] = (passed ++ last :: passed.reverse) ++ [s] := by
          rw [hwalk, hnone]
          simp
        obtain ⟨-, hend⟩ := List.append_inj' hends rfl
        exact .inl (List.singleton_inj.1 hend).symm
      · have hends : between ++ [t] =
            (passed ++ last :: (passed.reverse ++ s :: direct)) ++ [final] := by
          rw [hwalk, hsome]
          simp
        obtain ⟨-, hend⟩ := List.append_inj' hends rfl
        obtain rfl : t = final := List.singleton_inj.1 hend
        refine .inr ⟨direct, last :: passed.reverse, ?_⟩
        rw [hsome]
        simp

/-- A walk that turns round leads from a stop to another one on a part of it that does not. -/
theorem exists_infix_of_turn {out : List β}
    (hwalk : s :: (between ++ [t]) = before ++ last :: after) (hout : before <:+ out)
    (hback : after <+: out.reverse) : s = t ∨ ∃ direct,
      s :: (direct ++ [t]) <:+: s :: (between ++ [t]) ∧
        (s :: (direct ++ [t]) <:+: out ++ [last] ∨
          s :: (direct ++ [t]) <:+: last :: out.reverse) := by
  have hback' : after.reverse <:+ out := by
    rw [← List.reverse_prefix, List.reverse_reverse]
    exact hback
  rcases List.suffix_or_suffix_of_suffix hout hback' with hturn | hturn
  · -- it comes back over all that it has passed
    have hafter : last :: after <+: last :: out.reverse :=
      (List.prefix_cons_inj last).2 hback
    refine (exists_suffix_of_turn hwalk hturn).imp_right ?_
    rintro ⟨direct, hdirect⟩
    refine ⟨direct, ?_, .inr (hdirect.isInfix.trans hafter.isInfix)⟩
    rw [hwalk]
    exact (hdirect.trans (List.suffix_append _ _)).isInfix
  · -- it has passed all that it comes back over, which is the same read from its end
    have hwalk' : t :: (between.reverse ++ [s]) = after.reverse ++ last :: before.reverse := by
      have hreversed := congrArg List.reverse hwalk
      simpa using hreversed
    rw [← List.reverse_reverse before] at hturn
    refine (exists_suffix_of_turn hwalk' hturn).imp Eq.symm ?_
    rintro ⟨direct, hdirect⟩
    have hdirect' : s :: (direct.reverse ++ [t]) <+: before ++ [last] := by
      rw [← List.reverse_prefix] at hdirect
      simpa using hdirect
    have hturned : before ++ [last] <:+ out ++ [last] := by
      obtain ⟨front, rfl⟩ := hout
      exact ⟨front, by simp⟩
    have hpassed : before ++ [last] <+: before ++ last :: after := ⟨after, by simp⟩
    refine ⟨direct.reverse, ?_, .inl (hdirect'.isInfix.trans hturned.isInfix)⟩
    rw [hwalk]
    exact (hdirect'.trans hpassed).isInfix

/-- **A walk there and back leads from a stop to another one on a part of it that does not turn
round.** -/
theorem exists_infix_direct
    (h : s :: (between ++ [t]) <:+: RouteKind.thereAndBack.run items) : s = t ∨ ∃ direct,
      s :: (direct ++ [t]) <:+: s :: (between ++ [t]) ∧
        (s :: (direct ++ [t]) <:+: items ∨ s :: (direct ++ [t]) <:+: items.reverse) := by
  rcases items.eq_nil_or_concat with rfl | ⟨out, last, rfl⟩
  · simp [RouteKind.run] at h
  · obtain ⟨front, back, h⟩ := h
    have hrun : front ++ (s :: (between ++ [t])) ++ back = (out ++ [last]) ++ out.reverse := by
      rw [h]
      simp [RouteKind.run]
    have hreverse : (out ++ [last]).reverse = last :: out.reverse := by simp
    rw [List.concat_eq_append, hreverse]
    rcases List.append_eq_append_iff.1 hrun with ⟨rest, hout, -⟩ | ⟨after, hfront, hback⟩
    · -- it ends before the turn
      exact .inr ⟨between, List.infix_rfl, .inl ⟨front, rest, hout.symm⟩⟩
    · rw [List.append_assoc, List.singleton_append] at hfront
      rcases List.append_eq_append_iff.1 hfront with ⟨before, hout, hwalk⟩ | ⟨rest, -, hrest⟩
      · exact exists_infix_of_turn hwalk ⟨front, hout.symm⟩ ⟨back, hback.symm⟩
      · -- it starts with the turn or after it
        have hsuffix : s :: (between ++ [t]) <:+ last :: after := ⟨rest, hrest.symm⟩
        have hafter : last :: after <+: last :: out.reverse := ⟨back, by rw [hback]; rfl⟩
        exact .inr ⟨between, List.infix_rfl, .inr (hsuffix.isInfix.trans hafter.isInfix)⟩

end

namespace Bus

/-! ## Buses up to the end that they are written down from -/

/-- One bus is another, or goes there and back as it does and has its stops written down from the
other end. -/
def SameOrTurned (line line' : Bus) : Prop :=
  line' = line ∨ (line.kind = .thereAndBack ∧ line' = ⟨line.stops.reverse, .thereAndBack⟩)

namespace SameOrTurned

variable {line line' : Bus}

/-- A bus is the same as or the turned form of each bus that is so of it. -/
theorem symm (h : line.SameOrTurned line') : line'.SameOrTurned line := by
  obtain ⟨stops, kind⟩ := line
  rcases h with rfl | ⟨hkind, rfl⟩
  · exact .inl rfl
  · obtain rfl : kind = .thereAndBack := hkind
    exact .inr ⟨rfl, by rw [List.reverse_reverse]⟩

/-- They list the same stops. -/
theorem mem_stops_iff (h : line.SameOrTurned line') {stop : StopId} :
    stop ∈ line'.stops ↔ stop ∈ line.stops := by
  rcases h with rfl | ⟨-, rfl⟩
  · exact Iff.rfl
  · exact List.mem_reverse

/-- Turning a bus round leaves the count of its stops as it is. -/
theorem stopCount_eq (h : line.SameOrTurned line') : line'.stopCount = line.stopCount := by
  rcases h with rfl | ⟨hkind, rfl⟩
  · rfl
  · simp [stopCount, hkind]

/-- Turning a bus round leaves the count of its different stops as it is. -/
theorem uniqueStopCount_eq (h : line.SameOrTurned line') :
    line'.uniqueStopCount = line.uniqueStopCount := by
  have hserved : line'.traversal.toFinset = line.traversal.toFinset := by
    ext stop
    rw [List.mem_toFinset, List.mem_toFinset, mem_traversal, mem_traversal, h.mem_stops_iff]
  rw [uniqueStopCount_eq_card, uniqueStopCount_eq_card, hserved]

/-- They make the same hops, in another order. -/
theorem hops_perm (h : line.SameOrTurned line') : line'.hops.Perm line.hops := by
  rcases h with rfl | ⟨hkind, rfl⟩
  · exact .rfl
  · change (hopsAlong (traversal ⟨line.stops.reverse, .thereAndBack⟩)).Perm
      (hopsAlong line.traversal)
    rw [traversal_eq_run, traversal_eq_run, hkind, RouteKind.hopsAlong_run_thereAndBack,
      RouteKind.hopsAlong_run_thereAndBack, List.reverse_reverse]
    exact List.perm_append_comm

/-- **A walk of the one leads from a stop to another one on a part that the other one walks
too.** -/
theorem exists_walk (h : line.SameOrTurned line') {s t : StopId} {between : List StopId}
    (hwalk : s :: (between ++ [t]) <:+: line.traversal) : s = t ∨ ∃ direct,
      s :: (direct ++ [t]) <:+: s :: (between ++ [t]) ∧
        s :: (direct ++ [t]) <:+: line'.traversal := by
  rcases h with rfl | ⟨hkind, rfl⟩
  · exact .inr ⟨between, List.infix_rfl, hwalk⟩
  · rw [traversal_eq_run, hkind] at hwalk
    rw [traversal_eq_run]
    refine (exists_infix_direct hwalk).imp_right ?_
    rintro ⟨direct, hpart, hdirect | hdirect⟩
    · exact ⟨direct, hpart, hdirect.trans (RouteKind.infix_run_reverse line.stops)⟩
    · exact ⟨direct, hpart, hdirect.trans (RouteKind.infix_run_thereAndBack line.stops.reverse)⟩

end SameOrTurned

end Bus

end BusNetwork
