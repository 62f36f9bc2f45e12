import BusNetwork.Proofs.Catalogue.History
import Mathlib.Logic.Relator

/-!
# A catalogue is known by what its history says

What a history says is what is registered in it for the first time and what is said in it for the
last time. Two histories that say the same (`History.SaysSame`) are those of one catalogue:
**nothing else of a history is left in the tables** (`Records.eq_of_saysSame`), not even in the
index of buses by stop, which each call changes a little.

A stretch of a history that is repeated right away says nothing new (`History.saysSame_repeated`).
-/

set_option linter.unusedSectionVars false

namespace BusNetwork

/-- Registers with the same keys in the same order, and with the same value at each position. -/
theorem Register.eq_of_keys {κ β : Type} {r r' : Register κ β}
    (hkeys : r.entries.map Prod.fst = r'.entries.map Prod.fst)
    (hvalues : ∀ {p : Nat} {key : κ} {value value' : β}, r.at? p = some (key, value) →
      r'.at? p = some (key, value') → value = value') : r = r' := by
  have hsize : r.entries.length = r'.entries.length := by simpa using congrArg List.length hkeys
  suffices h : r.entries = r'.entries by
    cases r
    cases r'
    exact congrArg Register.mk h
  refine List.ext_getElem hsize fun p hp hp' => ?_
  have hkey : (r.entries[p]).1 = (r'.entries[p]).1 := by
    have hat : (r.entries.map Prod.fst)[p]? = (r'.entries.map Prod.fst)[p]? := by rw [hkeys]
    simpa [List.getElem?_eq_getElem, hp, hp'] using hat
  refine Prod.ext hkey (hvalues (List.getElem?_eq_getElem hp) ?_)
  refine (List.getElem?_eq_getElem hp').trans (congrArg some ?_)
  exact Prod.ext hkey.symm rfl

variable {α : Type}

namespace History

/-! ## What a history says -/

/-- Two histories say the same: they register the same things in the same order, and what each says
last of anything is the same. -/
structure SaysSame (history history' : List (Operation α)) : Prop where
  /-- The same things come for the first time in the same order. -/
  named_eq {β : Type} [BEq β] [LawfulBEq β] (names? : Operation α → Option β) :
    named names? history = named names? history'
  /-- The same is said for the last time. -/
  last?_eq {β : Type} (says? : Operation α → Option β) : last? says? history = last? says? history'

/-- Saying the same passes along from history to history. -/
theorem SaysSame.trans {history history' history'' : List (Operation α)}
    (h : SaysSame history history') (h' : SaysSame history' history'') :
    SaysSame history history'' where
  named_eq names? := (h.named_eq names?).trans (h'.named_eq names?)
  last?_eq says? := (h.last?_eq says?).trans (h'.last?_eq says?)

/-- Keys that have all come before may come again. -/
theorem eraseDups_append_of_subset {κ : Type} [BEq κ] [LawfulBEq κ] {keys again : List κ}
    (h : ∀ key ∈ again, key ∈ keys) (later : List κ) :
    (keys ++ again ++ later).eraseDups = (keys ++ later).eraseDups := by
  have hnone : again.removeAll keys = [] := by
    rw [List.removeAll, List.filter_eq_nil_iff]
    intro key hkey
    simpa using h key hkey
  have hlater : later.removeAll (keys ++ again) = later.removeAll keys := by
    refine List.filter_congr fun key _ => ?_
    have hmem : key ∈ keys ++ again ↔ key ∈ keys := by
      rw [List.mem_append, or_iff_left_of_imp (h key)]
    simp only [List.elem_eq_mem, hmem]
  rw [List.eraseDups_append, List.eraseDups_append, List.eraseDups_append, hnone, hlater]
  simp

/-- A stretch that is repeated right away says nothing new. -/
theorem saysSame_repeated (before again after : List (Operation α)) :
    SaysSame (before ++ again ++ again ++ after) (before ++ again ++ after) where
  named_eq names? := by
    simp only [named, List.filterMap_append]
    exact eraseDups_append_of_subset (fun _ => List.mem_append_right _) _
  last?_eq says? := by
    simp only [last?, List.reverse_append, List.append_assoc, List.findSome?_append,
      ← Option.or_assoc, Option.or_self]

end History

namespace Catalogue

variable [Quantity α] {c c' : Catalogue α} {history history' : List (Operation α)}

namespace Records

/-- No direction between two stops has two lengths. -/
theorem distances_distinct (hr : Records history c) (hc : c.stops.Distinct) :
    c.distances.Distinct :=
  (List.rel_nodup (biUnique_joins hc) hr.roads_eq).2 (Register.nodup_eraseDups _)

variable (hr : Records history c) (hr' : Records history' c')
  (hsame : History.SaysSame history history')
include hr hr' hsame

/-- Catalogues whose histories say the same name their stops alike. -/
theorem stopName?_eq_of_saysSame (stop : StopId) :
    c.stopName? stop = c'.stopName? stop := by
  rw [← getElem?_registeredStops, ← getElem?_registeredStops, hr.stopNames_eq, hr'.stopNames_eq,
    History.stopNames, History.stopNames, hsame.named_eq]

variable (hc : c.WellFormed) (hc' : c'.WellFormed)
include hc hc'

/-- Their buses are the same. -/
theorem buses_eq_of_saysSame : c.buses = c'.buses := by
  refine Register.eq_of_keys ?_ fun {bus name line line'} hline hline' => ?_
  · change c.registeredBuses = c'.registeredBuses
    rw [hr.busNames_eq, hr'.busNames_eq, History.busNames, History.busNames, hsame.named_eq]
  · obtain ⟨names, hlast, hstops⟩ :=
      hr.exists_course ((Register.get?_eq_some_iff hc.buses_distinct).2 ⟨bus, hline⟩)
    obtain ⟨names', hlast', hstops'⟩ :=
      hr'.exists_course ((Register.get?_eq_some_iff hc'.buses_distinct).2 ⟨bus, hline'⟩)
    rw [hsame.last?_eq, hlast', Option.some.injEq, Prod.mk.injEq] at hlast
    obtain ⟨rfl, hkind⟩ := hlast
    simp only [← stopName?_eq_of_saysSame hr hr' hsame] at hstops'
    have hunique : Relator.LeftUnique fun stop name => c.stopName? stop = some name :=
      fun _ _ _ => stopName?_inj hc.stops_distinct
    have hlist : line.stops = line'.stops := hunique.forall₂ hstops hstops'
    cases line
    cases line'
    simp_all

/-- So are their stops: where they stand, and which buses they list. -/
theorem stops_eq_of_saysSame : c.stops = c'.stops := by
  refine Register.eq_of_keys ?_ fun {stop name s s'} hs hs' => ?_
  · change c.registeredStops = c'.registeredStops
    rw [hr.stopNames_eq, hr'.stopNames_eq, History.stopNames, History.stopNames, hsame.named_eq]
  · have hcoordinates : s.coordinates = s'.coordinates := by
      have hplace := hr.coordinates?_eq (stopName?_eq_some_iff.2 ⟨s, hs⟩)
      rw [hsame.last?_eq, ← hr'.coordinates?_eq (stopName?_eq_some_iff.2 ⟨s', hs'⟩)] at hplace
      simpa [Catalogue.coordinates?_eq, hs, hs'] using hplace
    have hbuses : s.buses = s'.buses := by
      refine Ascending.eq_of_mem_iff (hc.ascending hs) (hc'.ascending hs') fun line => ?_
      rw [hc.mem_buses_iff hs, hc'.mem_buses_iff hs', buses_eq_of_saysSame hr hr' hsame hc hc']
    cases s
    cases s'
    simp_all

/-- So are the lengths that they have recorded. -/
theorem distances_eq_of_saysSame : c.distances = c'.distances := by
  have hname := stopName?_eq_of_saysSame hr hr' hsame
  refine Register.eq_of_keys ?_ fun {p key meters meters'} hp hp' => ?_
  · have hroads := hr'.roads_eq
    rw [History.roads, ← hsame.named_eq, ← History.roads] at hroads
    refine (biUnique_joins hc.stops_distinct).1.forall₂ hr.roads_eq (hroads.imp ?_)
    rintro key road ⟨horigin, htarget⟩
    exact ⟨(hname _).trans horigin, (hname _).trans htarget⟩
  · have hget : c.distances.get? key = some meters :=
      (Register.get?_eq_some_iff (hr.distances_distinct hc.stops_distinct)).2 ⟨p, hp⟩
    have hget' : c'.distances.get? key = some meters' :=
      (Register.get?_eq_some_iff (hr'.distances_distinct hc'.stops_distinct)).2 ⟨p, hp'⟩
    obtain ⟨⟨origin, target⟩, horigin, htarget⟩ := hr.exists_joins hget
    rw [hr.recorded horigin htarget, hsame.last?_eq,
      ← hr'.recorded ((hname _).symm.trans horigin) ((hname _).symm.trans htarget)] at hget
    exact Option.some.inj (hget.symm.trans hget')

/-- **Histories that say the same are those of one catalogue.** -/
theorem eq_of_saysSame : c = c' :=
  eq_of_views (stops_eq_of_saysSame hr hr' hsame hc hc')
    (buses_eq_of_saysSame hr hr' hsame hc hc') (distances_eq_of_saysSame hr hr' hsame hc hc')

end Records

end Catalogue

end BusNetwork
