import BusNetwork.Proofs.Document.Reading
import BusNetwork.Proofs.Json.Layout
import BusNetwork.Proofs.Json.Members
import Mathlib.Data.List.Nodup

/-!
# Documents with their members in another order

The members of the objects of a document may come in any order, and foreign members may come with
them. **Neither makes a difference to what is read** (`Document.ofBytes_rearranged`), although an
object without a tag is read member by member as it comes, and one with a tag is taken in whole
before it is known which of its members are foreign.

Each kind of object is read into a draft, and what the draft holds of a name is what came under that
name (`StopDraft.foldlM_addMember_eq_ok_iff` and its likes).
-/

namespace BusNetwork

open Json

/-! ## What drafts hold -/

section

variable {named : List (String × Value)}

/-- Members turn one draft of a stop into another exactly if each field came as its members say. -/
theorem StopDraft.foldlM_addMember_eq_ok_iff {d d' : StopDraft} :
    named.foldlM addMember d = .ok d' ↔
      Came (fun v => liftM v.found.asText) d.name (valuesUnder (· == "name") named) d'.name ∧
      Came (fun v => liftM v.found.asFloat) d.latitude (valuesUnder (· == "latitude") named)
        d'.latitude ∧
      Came (fun v => liftM v.found.asFloat) d.longitude (valuesUnder (· == "longitude") named)
        d'.longitude ∧
      Came readRoads d.roads (valuesUnder (· == "road_distances") named) d'.roads := by
  induction named generalizing d with
  | nil =>
      obtain ⟨name, latitude, longitude, roads⟩ := d
      obtain ⟨name', latitude', longitude', roads'⟩ := d'
      simp [valuesUnder, Came, pure_eq_ok_iff, eq_comm]
  | cons m rest ih =>
      obtain ⟨key, value⟩ := m
      rw [List.foldlM_cons, bind_eq_ok_iff]
      simp only [addMember, valuesUnder_cons]
      split
      · obtain rfl : key = "name" := eq_of_beq ‹_›
        simp only [exists_once_iff, ih, came_cons_iff "name"]
        grind
      split
      · obtain rfl : key = "latitude" := eq_of_beq ‹_›
        simp only [exists_once_iff, ih, came_cons_iff "latitude"]
        grind
      split
      · obtain rfl : key = "longitude" := eq_of_beq ‹_›
        simp only [exists_once_iff, ih, came_cons_iff "longitude"]
        grind
      split
      · obtain rfl : key = "road_distances" := eq_of_beq ‹_›
        simp only [exists_once_iff, ih, came_cons_iff "road_distances"]
        grind
      · simp_all [pure_eq_ok_iff]

/-- Members turn one draft of a bus into another exactly if each field came as its members say. -/
theorem BusDraft.foldlM_addMember_eq_ok_iff {d d' : BusDraft} :
    named.foldlM addMember d = .ok d' ↔
      Came (fun v => liftM v.found.asText) d.name (valuesUnder (· == "name") named) d'.name ∧
      Came readTexts d.stops (valuesUnder (· == "stops") named) d'.stops ∧
      Came (fun v => liftM v.found.asBoolean) d.isRoundTrip
        (valuesUnder (· == "is_roundtrip") named) d'.isRoundTrip := by
  induction named generalizing d with
  | nil =>
      obtain ⟨name, stops, isRoundTrip⟩ := d
      obtain ⟨name', stops', isRoundTrip'⟩ := d'
      simp [valuesUnder, Came, pure_eq_ok_iff, eq_comm]
  | cons m rest ih =>
      obtain ⟨key, value⟩ := m
      rw [List.foldlM_cons, bind_eq_ok_iff]
      simp only [addMember, valuesUnder_cons]
      split
      · obtain rfl : key = "name" := eq_of_beq ‹_›
        simp only [exists_once_iff, ih, came_cons_iff "name"]
        grind
      split
      · obtain rfl : key = "stops" := eq_of_beq ‹_›
        simp only [exists_once_iff, ih, came_cons_iff "stops"]
        grind
      split
      · obtain rfl : key = "is_roundtrip" := eq_of_beq ‹_›
        simp only [exists_once_iff, ih, came_cons_iff "is_roundtrip"]
        grind
      · simp_all [pure_eq_ok_iff]

/-- Members turn one draft of a query into another exactly if each known field came as its members
say. -/
theorem QueryDraft.foldlM_addMember_eq_ok_iff {known : List String} {d d' : QueryDraft} :
    named.foldlM (addMember known) d = .ok d' ↔
      Came (fun v => liftM v.found.asInteger64) d.id
        (valuesUnder (fun key => known.contains key && key == "id") named) d'.id ∧
      Came (fun v => liftM v.found.asText) d.name
        (valuesUnder (fun key => known.contains key && key == "name") named) d'.name ∧
      Came (fun v => liftM v.found.asText) d.origin
        (valuesUnder (fun key => known.contains key && key == "from") named) d'.origin ∧
      Came (fun v => liftM v.found.asText) d.target
        (valuesUnder (fun key => known.contains key && key == "to") named) d'.target := by
  induction named generalizing d with
  | nil =>
      obtain ⟨id, name, origin, target⟩ := d
      obtain ⟨id', name', origin', target'⟩ := d'
      simp [valuesUnder, Came, pure_eq_ok_iff, eq_comm]
  | cons m rest ih =>
      obtain ⟨key, value⟩ := m
      rw [List.foldlM_cons, bind_eq_ok_iff]
      simp only [addMember, valuesUnder_cons]
      split
      · simp_all [pure_eq_ok_iff]
      rename_i hforeign
      have hknown : known.contains key = true := by
        rwa [Bool.not_eq_true, Bool.not_eq_false'] at hforeign
      simp only [hknown, Bool.true_and]
      split
      · obtain rfl : key = "id" := eq_of_beq ‹_›
        simp only [exists_once_iff, ih, came_cons_iff "id"]
        grind
      split
      · obtain rfl : key = "name" := eq_of_beq ‹_›
        simp only [exists_once_iff, ih, came_cons_iff "name"]
        grind
      split
      · obtain rfl : key = "from" := eq_of_beq ‹_›
        simp only [exists_once_iff, ih, came_cons_iff "from"]
        grind
      split
      · obtain rfl : key = "to" := eq_of_beq ‹_›
        simp only [exists_once_iff, ih, came_cons_iff "to"]
        grind
      · simp_all [pure_eq_ok_iff]

end

/-! ## Members that are passed over as they come -/

/-- A member of an object without a tag: its key is a text, and its value can be passed over unless
the key is a known one. -/
def Passed (fields : List String) (m : Quotation × Tree) : Prop :=
  ∃ name, m.1.text = .ok name ∧ (name ∉ fields → m.2.skip = .ok ())

/-- A member whose key reads as a name passes if the name is a field or the value can be skipped. -/
theorem passed_iff_of_text {fields : List String} {key : Quotation} {value : Tree} {name : String}
    (h : key.text = .ok name) :
    Passed fields (key, value) ↔ (name ∉ fields → value.skip = .ok ()) := by
  simp [Passed, h]

/-- A draft that passes a value over goes on as it is. -/
theorem exists_skip_iff {δ : Type} {t : Tree} {d : δ} {GoesOn : δ → Prop} :
    (∃ d', (do t.skip; return d : Except Fault δ) = .ok d' ∧ GoesOn d') ↔
      t.skip = .ok () ∧ GoesOn d := by
  simp only [bind_eq_ok_iff, liftM_break_eq_ok_iff, pure_eq_ok_iff]
  constructor
  · rintro ⟨_, ⟨_, hskip, rfl⟩, hd⟩
    exact ⟨hskip, hd⟩
  · rintro ⟨hskip, hd⟩
    exact ⟨d, ⟨(), hskip, rfl⟩, hd⟩

/-- The names that settings know. -/
def settingsFields : List String := ["bus_wait_time", "bus_velocity"]

/-- The names that a document knows. -/
def documentFields : List String :=
  ["base_requests", "routing_settings", "render_settings", "stat_requests"]

section

variable {ms : List (Quotation × Tree)}

/-- Members turn one draft of the settings into another exactly if each foreign one can be skipped
and each field came as its members say. -/
theorem SettingsDraft.foldlM_addMember_eq_ok_iff {d d' : SettingsDraft} :
    ms.foldlM addMember d = .ok d' ↔ (∀ m ∈ ms, Passed settingsFields m) ∧
      Came (fun t => do (← t.found).asNatural32) d.busWaitTime
        (valuesUnder (Quotation.spells "bus_wait_time") ms) d'.busWaitTime ∧
      Came (fun t => do (← t.found).asFloat) d.busVelocity
        (valuesUnder (Quotation.spells "bus_velocity") ms) d'.busVelocity := by
  induction ms generalizing d with
  | nil =>
      obtain ⟨wait, velocity⟩ := d
      obtain ⟨wait', velocity'⟩ := d'
      simp [valuesUnder, Came, pure_eq_ok_iff, eq_comm]
  | cons m rest ih =>
      obtain ⟨key, value⟩ := m
      rw [List.foldlM_cons, bind_eq_ok_iff, List.forall_mem_cons]
      simp only [addMember, valuesUnder_cons]
      cases htext : key.text with
      | error e => simp [Passed, htext, bind_eq_ok_iff, liftM_break_eq_ok_iff]
      | ok name =>
          simp only [passed_iff_of_text htext, Quotation.spells_of_text htext, liftM_break_ok,
            ok_bind]
          split
          · obtain rfl : name = "bus_wait_time" := eq_of_beq ‹_›
            simp only [exists_once_iff, ih, came_cons_iff "bus_wait_time"]
            grind [settingsFields]
          split
          · obtain rfl : name = "bus_velocity" := eq_of_beq ‹_›
            simp only [exists_once_iff, ih, came_cons_iff "bus_velocity"]
            grind [settingsFields]
          · rename_i hwait hvelocity
            have hname : name ∉ settingsFields := by simp_all [settingsFields]
            simp only [exists_skip_iff, ih]
            grind

/-- Members turn one draft of a document into another exactly if each foreign one can be skipped and
each field came as its members say. -/
theorem DocumentDraft.foldlM_addMember_eq_ok_iff {depth : Nat} {d d' : DocumentDraft} :
    ms.foldlM (addMember depth) d = .ok d' ↔ (∀ m ∈ ms, Passed documentFields m) ∧
      Came (readList BaseRequest.read depth) d.baseRequests
        (valuesUnder (Quotation.spells "base_requests") ms) d'.baseRequests ∧
      Came (Settings.read depth) d.settings
        (valuesUnder (Quotation.spells "routing_settings") ms) d'.settings ∧
      Came (readStyling depth) d.hasRenderSettings
        (valuesUnder (Quotation.spells "render_settings") ms) d'.hasRenderSettings ∧
      Came (readList Query.read depth) d.queries
        (valuesUnder (Quotation.spells "stat_requests") ms) d'.queries := by
  induction ms generalizing d with
  | nil =>
      obtain ⟨requests, settings, styling, queries⟩ := d
      obtain ⟨requests', settings', styling', queries'⟩ := d'
      simp [valuesUnder, Came, pure_eq_ok_iff, eq_comm]
  | cons m rest ih =>
      obtain ⟨key, value⟩ := m
      rw [List.foldlM_cons, bind_eq_ok_iff, List.forall_mem_cons]
      simp only [addMember, valuesUnder_cons]
      cases htext : key.text with
      | error e => simp [Passed, htext, bind_eq_ok_iff, liftM_break_eq_ok_iff]
      | ok name =>
          simp only [passed_iff_of_text htext, Quotation.spells_of_text htext, liftM_break_ok,
            ok_bind]
          split
          · obtain rfl : name = "base_requests" := eq_of_beq ‹_›
            simp only [exists_once_iff, ih, came_cons_iff "base_requests"]
            grind [documentFields]
          split
          · obtain rfl : name = "routing_settings" := eq_of_beq ‹_›
            simp only [exists_once_iff, ih, came_cons_iff "routing_settings"]
            grind [documentFields]
          split
          · obtain rfl : name = "render_settings" := eq_of_beq ‹_›
            simp only [exists_once_iff, ih, came_cons_iff "render_settings"]
            grind [documentFields]
          split
          · obtain rfl : name = "stat_requests" := eq_of_beq ‹_›
            simp only [exists_once_iff, ih, came_cons_iff "stat_requests"]
            grind [documentFields]
          · rename_i hbase hsettings hstyling hqueries
            have hname : name ∉ documentFields := by simp_all [documentFields]
            simp only [exists_skip_iff, ih]
            grind

end

/-! ## What it is for documents to say the same -/

/-- A value that can be read below a number of open brackets. -/
def Readable (depth : Nat) (t : Tree) : Prop := ∃ v, t.read depth = .ok v

/-- Roads by their far ends, each named once, in another order. -/
def SameRoads (t t' : Tree) : Prop :=
  t = t' ∨ ∃ ms ms', t = .object ms none ∧ t' = .object ms' none ∧ ms.Perm ms' ∧
    (ms.map fun m => m.1.text).Nodup

/-- The names that an object with a tag knows: its tag, and the names of the kind that the tag
tells. -/
def taggedFields (fieldsOf : String → List String) (ms : List (Quotation × Tree)) : List String :=
  tagField ::
    match valuesUnder (Quotation.spells tagField) ms with
    | [.string token] =>
      match token.text with
      | .ok tag => fieldsOf tag
      | .error _ => []
    | _ => []

/-- The names that an entry of a description knows. -/
def BaseRequest.fieldsOf (tag : String) : List String :=
  if tag = "Stop" then ["name", "latitude", "longitude", "road_distances"]
  else ["name", "stops", "is_roundtrip"]

/-- The names that a question knows. -/
def Query.fieldsOf (tag : String) : List String :=
  if tag = "Bus" ∨ tag = "Stop" then ["id", "name"]
  else if tag = "Route" then ["id", "from", "to"]
  else ["id"]

/-- Members of an entry of a description that say the same: roads in another order do. -/
def BaseRequest.SameMember (name : String) (t t' : Tree) : Prop :=
  name = "road_distances" ∧ SameRoads t t'

/-- Entries of a description that say the same. -/
def BaseRequest.Same : Tree → Tree → Prop :=
  SameRecord (taggedFields fieldsOf) (Readable 3) SameMember

/-- No other members than equal ones say the same. -/
def NoneSame (_ : String) (_ _ : Tree) : Prop := False

/-- Questions that ask the same. -/
def Query.Same : Tree → Tree → Prop :=
  SameRecord (taggedFields fieldsOf) (Readable 3) NoneSame

/-- Settings that say the same. -/
def Settings.Same : Tree → Tree → Prop :=
  SameRecord (fun _ => settingsFields) (fun t => t.skip = .ok ()) NoneSame

/-- Lists whose items say the same, one by one. -/
def SameList (Same : Tree → Tree → Prop) (t t' : Tree) : Prop :=
  t = t' ∨ ∃ items items', t = .array items none ∧ t' = .array items' none ∧
    List.Forall₂ Same items items'

/-- Members of a document that say the same. -/
def Document.SameMember (name : String) (t t' : Tree) : Prop :=
  name = "base_requests" ∧ SameList BaseRequest.Same t t' ∨
    name = "routing_settings" ∧ Settings.Same t t' ∨
    name = "stat_requests" ∧ SameList Query.Same t t'

/-- Documents that say the same. -/
def Document.Same : List (Quotation × Tree) → List (Quotation × Tree) → Prop :=
  Rearranged documentFields (fun t => t.skip = .ok ()) SameMember

/-! ## Roads in another order -/

/-- Members are read exactly if every key has a text and every value can be read. -/
theorem readMembers_eq_ok_iff {depth : Nat} {ms : List (Quotation × Tree)}
    {named : List (String × Value)} : Tree.readMembers depth ms = .ok named ↔
      List.Forall₂ (fun m n => m.1.text = .ok n.1 ∧ m.2.read depth = .ok n.2) ms named := by
  induction ms generalizing named with
  | nil => simp [Tree.readMembers, eq_comm]
  | cons m rest ih =>
      obtain ⟨key, member⟩ := m
      simp only [Tree.readMembers, bind_eq_ok_iff, pure_eq_ok_iff, ih, List.forall₂_cons_left_iff]
      constructor
      · rintro ⟨name, hname, value, hvalue, later, hlater, rfl⟩
        exact ⟨(name, value), later, ⟨hname, hvalue⟩, hlater, rfl⟩
      · rintro ⟨⟨name, value⟩, later, ⟨hname, hvalue⟩, hlater, rfl⟩
        exact ⟨name, hname, value, hvalue, later, hlater, rfl⟩

/-- An object is read as a value exactly if its nesting is allowed and its members are read. -/
theorem read_object_eq_ok_iff {depth : Nat} {ms : List (Quotation × Tree)} {v : Value} :
    (Tree.object ms none).read depth = .ok v ↔ depth < nestingLimit ∧ ∃ named,
      v = .object named ∧ List.Forall₂
        (fun m n => m.1.text = .ok n.1 ∧ m.2.read (depth + 1) = .ok n.2) ms named := by
  rw [Tree.read]
  split
  · simp only [bind_eq_ok_iff, closed_eq_ok_iff, readMembers_eq_ok_iff, true_and, *]
    constructor
    · rintro ⟨named, hnamed, rfl⟩
      exact ⟨named, rfl, hnamed⟩
    · rintro ⟨named, rfl, hnamed⟩
      exact ⟨named, hnamed, rfl⟩
  · simp [*]

/-- Members in another order are read in another order. -/
theorem exists_perm_of_forall₂ {depth : Nat} {ms ms' : List (Quotation × Tree)}
    {named : List (String × Value)}
    (h : List.Forall₂ (fun m n => m.1.text = .ok n.1 ∧ m.2.read depth = .ok n.2) ms named)
    (hperm : ms.Perm ms') : ∃ named', named.Perm named' ∧
      List.Forall₂ (fun m n => m.1.text = .ok n.1 ∧ m.2.read depth = .ok n.2) ms' named' := by
  obtain ⟨named', hnamed', hperm'⟩ := List.perm_comp_forall₂ hperm.symm h
  exact ⟨named', hperm'.symm, hnamed'⟩

/-- Roads are read of an object exactly if every member is a number, and they come out ascending. -/
theorem readRoads_object_eq_ok_iff {named : List (String × Value)}
    {roads : List (String × Float)} : readRoads (.object named) = .ok roads ↔ ∃ pairs,
      List.Forall₂ (fun n pair => n.1 = pair.1 ∧ n.2.found.asFloat = .ok pair.2) named pairs ∧
        Ascending.ofList Prod.fst pairs = roads := by
  have hpair : ∀ (n : String × Value) (pair : String × Float),
      (do return (n.1, ← n.2.found.asFloat) : Except Fault (String × Float)) = .ok pair ↔
        n.1 = pair.1 ∧ n.2.found.asFloat = .ok pair.2 := by
    rintro ⟨name, value⟩ ⟨name', meters⟩
    simp only [bind_eq_ok_iff, liftM_mismatch_eq_ok_iff, pure_eq_ok_iff, Prod.mk.injEq]
    constructor
    · rintro ⟨_, hmeters, rfl, rfl⟩
      exact ⟨rfl, hmeters⟩
    · rintro ⟨rfl, hmeters⟩
      exact ⟨meters, hmeters, rfl, rfl⟩
  simp only [readRoads, bind_eq_ok_iff, pure_eq_ok_iff, mapM_eq_ok_iff, hpair]

/-- Roads in another order are the same roads. -/
theorem readRoads_of_perm {depth : Nat} {ms ms' : List (Quotation × Tree)} (hperm : ms.Perm ms')
    (hkeys : (ms.map fun m => m.1.text).Nodup) {roads : List (String × Float)}
    (h : ofValue depth readRoads (.object ms none) = .ok roads) :
    ofValue depth readRoads (.object ms' none) = .ok roads := by
  simp only [ofValue, bind_eq_ok_iff, liftM_break_eq_ok_iff, read_object_eq_ok_iff] at h ⊢
  obtain ⟨_, ⟨hdepth, named, rfl, hnamed⟩, hroads⟩ := h
  obtain ⟨named', hperm', hnamed'⟩ := exists_perm_of_forall₂ hnamed hperm
  obtain ⟨pairs, hpairs, rfl⟩ := readRoads_object_eq_ok_iff.1 hroads
  obtain ⟨pairs', hpairs', hperm''⟩ := List.perm_comp_forall₂ hperm'.symm hpairs
  refine ⟨_, ⟨hdepth, named', rfl, hnamed'⟩, readRoads_object_eq_ok_iff.2 ⟨pairs', hpairs', ?_⟩⟩
  refine (Ascending.ofList_eq_of_perm hperm''.symm ?_).symm
  -- the names of the roads are those of the keys
  have hnames : ms.map (fun m => m.1.text) = (pairs.map Prod.fst).map .ok := by
    clear hperm hperm' hperm'' hkeys hnamed' hpairs' hroads
    induction hnamed generalizing pairs with
    | nil =>
        cases hpairs
        rfl
    | cons hm _ ih =>
        cases hpairs with
        | cons hpair hrest =>
            rw [List.map_cons, List.map_cons, List.map_cons, ih _ hrest, hm.1, hpair.1]
  rw [hnames] at hkeys
  exact List.Nodup.of_map _ hkeys

/-- Objects with the same roads give the same roads when they are read. -/
theorem SameRoads.ofValue_iff {depth : Nat} {t t' : Tree} (h : SameRoads t t')
    (roads : List (String × Float)) :
    ofValue depth readRoads t = .ok roads ↔ ofValue depth readRoads t' = .ok roads := by
  rcases h with rfl | ⟨ms, ms', rfl, rfl, hperm, hkeys⟩
  · exact Iff.rfl
  · exact ⟨readRoads_of_perm hperm hkeys,
      readRoads_of_perm hperm.symm ((hperm.map _).nodup_iff.1 hkeys)⟩

/-- Objects with the same roads are readable alike. -/
theorem SameRoads.readable_iff {depth : Nat} {t t' : Tree} (h : SameRoads t t') :
    Readable depth t ↔ Readable depth t' := by
  rcases h with rfl | ⟨ms, ms', rfl, rfl, hperm, -⟩
  · exact Iff.rfl
  · unfold Readable
    simp only [read_object_eq_ok_iff]
    constructor
    · rintro ⟨_, hdepth, named, rfl, hnamed⟩
      obtain ⟨named', -, hnamed'⟩ := exists_perm_of_forall₂ hnamed hperm
      exact ⟨_, hdepth, named', rfl, hnamed'⟩
    · rintro ⟨_, hdepth, named, rfl, hnamed⟩
      obtain ⟨named', -, hnamed'⟩ := exists_perm_of_forall₂ hnamed hperm.symm
      exact ⟨_, hdepth, named', rfl, hnamed'⟩

/-! ## Objects with a tag -/

section

variable {ρ : Type} {known : List String} {wanted : String} {depth : Nat}
  {fieldsOf : String → List String} {Alike : String → Tree → Tree → Prop}
  {ms ms' : List (Quotation × Tree)}

/-- What is found in a tree is a text exactly if the tree is a string token that spells it. -/
theorem found_eq_string_iff {t : Tree} {text : String} : t.found = .ok (.string text) ↔
    ∃ token, t = .string token ∧ token.text = .ok text := by
  cases t with
  | string token => simp [Tree.found, map_eq_ok_iff]
  | number token =>
      have hnumber : ∀ n : Number, n.found ≠ .string text := by
        rintro (n | x) <;> simp [Number.found]
      simp [Tree.found, map_eq_ok_iff, hnumber]
  | _ => simp [Tree.found]

/-- A tag is read exactly if it is a string token that spells one of the known tags. -/
theorem readTag_eq_ok_iff {t : Tree} {tag : String} : readTag known t = .ok tag ↔
    ∃ token, t = .string token ∧ token.text = .ok tag ∧ tag ∈ known := by
  simp only [readTag, bind_eq_ok_iff, liftM_break_eq_ok_iff]
  constructor
  · rintro ⟨found, hfound, h⟩
    cases found with
    | string name =>
        obtain ⟨token, rfl, htext⟩ := found_eq_string_iff.1 hfound
        simp only at h
        split at h
        · rename_i hknown
          obtain rfl := pure_eq_ok_iff.1 h
          exact ⟨token, rfl, htext, List.contains_iff_mem.1 hknown⟩
        · exact absurd h (throw_ne_ok _)
    | _ => exact absurd h (throw_ne_ok _)
  · rintro ⟨token, rfl, htext, hknown⟩
    refine ⟨.string tag, found_eq_string_iff.2 ⟨token, rfl, htext⟩, ?_⟩
    simp only [List.contains_iff_mem.2 hknown, if_true, pure_eq_ok_iff]

/-- What came as a tag is the text of a known kind, and the only one under its name. -/
theorem exists_tag_of_came {tag : String}
    (h : Came (readTag known) none (valuesUnder (Quotation.spells tagField) ms) (some tag)) :
    tag ∈ known ∧ ∃ token, valuesUnder (Quotation.spells tagField) ms = [.string token] ∧
      token.text = .ok tag := by
  cases hvalues : valuesUnder (Quotation.spells tagField) ms with
  | nil =>
      rw [hvalues] at h
      cases h
  | cons t rest =>
      rw [hvalues] at h
      obtain ⟨-, rfl, x, hx, heq⟩ := h
      obtain rfl := Option.some.inj heq
      obtain ⟨token, rfl, htext, hknown⟩ := readTag_eq_ok_iff.1 hx
      exact ⟨hknown, token, rfl, htext⟩

/-- The names that an object knows are those of the kind that its tag tells. -/
theorem taggedFields_eq {tag : String}
    (h : Came (readTag known) none (valuesUnder (Quotation.spells tagField) ms) (some tag)) :
    taggedFields fieldsOf ms = tagField :: fieldsOf tag := by
  obtain ⟨-, token, hvalues, htext⟩ := exists_tag_of_came h
  simp only [taggedFields, hvalues, htext]

/-- A tagged object is taken apart exactly if it has one tag, a known one, and its other members are
read. -/
theorem tagged_object_eq_ok_iff {tag : String} {content : Content} :
    (Tree.object ms none).tagged wanted known depth = .ok (tag, content) ↔
      depth < nestingLimit ∧
        Came (readTag known) none (valuesUnder (Quotation.spells tagField) ms) (some tag) ∧
          ∃ named, ReadAs (depth + 1) ms named ∧ content = .named named := by
  simp only [Tree.tagged, bind_eq_ok_iff, liftM_break_eq_ok_iff, liftM_mismatch_eq_ok_iff,
    deeper_eq_ok_iff, closed_eq_ok_iff, required_eq_ok_iff, pure_eq_ok_iff, Prod.exists,
    readTagged_eq_ok_iff, Prod.mk.injEq, true_and]
  constructor
  · rintro ⟨_, ⟨hdepth, rfl⟩, _, named, ⟨hcame, hread⟩, -, _, rfl, rfl, rfl⟩
    exact ⟨hdepth, hcame, named, hread, rfl⟩
  · rintro ⟨hdepth, hcame, named, hread, rfl⟩
    exact ⟨depth + 1, ⟨hdepth, rfl⟩, some tag, named, ⟨hcame, hread⟩, (), tag, rfl, rfl, rfl⟩

/-- **Objects with a tag that say the same are read as the same**, if what is made of their members
once the tag is known depends on the known names only. -/
theorem tagged_iff (finish : String → Content → Except Fault ρ)
    (h : Rearranged (taggedFields fieldsOf ms) (Readable (depth + 1)) Alike ms ms')
    (halike : ∀ name t t', Alike name t t' →
      name ≠ tagField ∧ (Readable (depth + 1) t ↔ Readable (depth + 1) t'))
    (hfinish : ∀ tag ∈ known, ∀ named named',
      Rearranged (tagField :: fieldsOf tag) (Readable (depth + 1)) Alike ms ms' →
      ReadAs (depth + 1) ms named → ReadAs (depth + 1) ms' named' →
      ∀ r, finish tag (.named named) = .ok r ↔ finish tag (.named named') = .ok r) (r : ρ) :
    ((Tree.object ms none).tagged wanted known depth >>= fun found => finish found.1 found.2) =
        .ok r ↔
      ((Tree.object ms' none).tagged wanted known depth >>= fun found => finish found.1 found.2) =
        .ok r := by
  have htag : ∀ later,
      Came (readTag known) none (valuesUnder (Quotation.spells tagField) ms) later ↔
        Came (readTag known) none (valuesUnder (Quotation.spells tagField) ms') later :=
    fun later => h.came_iff List.mem_cons_self fun t t' ht => absurd rfl (halike _ t t' ht).1
  have hread : (∃ named, ReadAs (depth + 1) ms named) ↔ ∃ named, ReadAs (depth + 1) ms' named := by
    simp only [exists_readAs_iff]
    refine h.forall_iff ?_ ?_
    · rintro m m' ⟨hkey, heq | ⟨name, -, hname, ht⟩⟩
      · rw [hkey, heq]
      · obtain ⟨hne, hreadable⟩ := halike name _ _ ht
        rw [hkey] at hname
        simp only [hkey, hname, Except.ok.injEq, exists_eq_left']
        exact imp_congr_right fun _ => hreadable
    · rintro m ⟨name, hname, -, hpass⟩
      exact ⟨name, hname, fun _ => hpass⟩
  simp only [bind_eq_ok_iff, Prod.exists, tagged_object_eq_ok_iff]
  constructor
  · rintro ⟨tag, _, ⟨hdepth, hcame, named, hnamed, rfl⟩, hr⟩
    obtain ⟨named', hnamed'⟩ := hread.1 ⟨named, hnamed⟩
    refine ⟨tag, _, ⟨hdepth, (htag _).1 hcame, named', hnamed', rfl⟩, ?_⟩
    rw [taggedFields_eq hcame] at h
    exact (hfinish tag (exists_tag_of_came hcame).1 named named' h hnamed hnamed' r).1 hr
  · rintro ⟨tag, _, ⟨hdepth, hcame, named', hnamed', rfl⟩, hr⟩
    obtain ⟨named, hnamed⟩ := hread.2 ⟨named', hnamed'⟩
    have hcame' := (htag _).2 hcame
    refine ⟨tag, _, ⟨hdepth, hcame', named, hnamed, rfl⟩, ?_⟩
    rw [taggedFields_eq hcame'] at h
    exact (hfinish tag (exists_tag_of_came hcame').1 named named' h hnamed hnamed' r).2 hr

end

/-! ## Entries of a description and questions -/

section

variable {Passes : Tree → Prop} {Alike : String → Tree → Tree → Prop} {depth : Nat}
  {ms ms' : List (Quotation × Tree)} {named named' : List (String × Value)}

namespace BaseRequest

/-- Rearranged members of a stop are read as the same stop. -/
theorem readStop_iff (h : Rearranged (tagField :: fieldsOf "Stop") Passes SameMember ms ms')
    (hread : ReadAs depth ms named) (hread' : ReadAs depth ms' named') (r : BaseRequest Float) :
    readStop (.named named) = .ok r ↔ readStop (.named named') = .ok r := by
  have htag : tagField ∉ fieldsOf "Stop" := by decide
  simp only [readStop, bind_eq_ok_iff, StopDraft.foldlM_addMember_eq_ok_iff]
  refine exists_congr fun d => and_congr_left fun _ => ?_
  rw [h.came_named_iff htag hread hread' "name" (by decide) (by simp [SameMember]),
    h.came_named_iff htag hread hread' "latitude" (by decide) (by simp [SameMember]),
    h.came_named_iff htag hread hread' "longitude" (by decide) (by simp [SameMember]),
    h.came_named_iff htag hread hread' "road_distances" (by decide)
      fun t t' ht => ht.2.ofValue_iff]

/-- Rearranged members of a bus are read as the same bus. -/
theorem readBus_iff (h : Rearranged (tagField :: fieldsOf "Bus") Passes SameMember ms ms')
    (hread : ReadAs depth ms named) (hread' : ReadAs depth ms' named') (r : BaseRequest Float) :
    readBus (.named named) = .ok r ↔ readBus (.named named') = .ok r := by
  have htag : tagField ∉ fieldsOf "Bus" := by decide
  simp only [readBus, bind_eq_ok_iff, BusDraft.foldlM_addMember_eq_ok_iff]
  refine exists_congr fun d => and_congr_left fun _ => ?_
  rw [h.came_named_iff htag hread hread' "name" (by decide) (by simp [SameMember]),
    h.came_named_iff htag hread hread' "stops" (by decide) (by simp [SameMember]),
    h.came_named_iff htag hread hread' "is_roundtrip" (by decide)
      (by simp [SameMember])]

/-- Entries that say the same are read as the same. -/
theorem read_iff {t t' : Tree} (h : Same t t') (r : BaseRequest Float) :
    read 2 t = .ok r ↔ read 2 t' = .ok r := by
  rcases h with rfl | ⟨ms, ms', rfl, rfl, h⟩
  · exact Iff.rfl
  · refine tagged_iff
      (fun tag content => if tag == "Stop" then readStop content else readBus content) h ?_ ?_ r
    · rintro name t t' ⟨rfl, ht⟩
      exact ⟨by decide, ht.readable_iff⟩
    · intro tag htag named named' h hread hread' r
      rcases List.mem_pair.1 htag with rfl | rfl
      · exact readStop_iff h hread hread' r
      · exact readBus_iff h hread hread' r

end BaseRequest

/-- What a question holds depends on the names that it knows. -/
theorem QueryDraft.foldlM_addMember_iff {known : List String}
    (h : Rearranged (tagField :: known) Passes NoneSame ms ms') (htag : tagField ∉ known)
    (hread : ReadAs depth ms named) (hread' : ReadAs depth ms' named') (d : QueryDraft) :
    named.foldlM (addMember known) {} = .ok d ↔ named'.foldlM (addMember known) {} = .ok d := by
  have hfield : ∀ (field : String) {γ : Type} {read : Value → Except Fault γ} {later : Option γ},
      Came read none (valuesUnder (fun key => known.contains key && key == field) named) later ↔
        Came read none (valuesUnder (fun key => known.contains key && key == field) named')
          later := by
    intro field γ read later
    by_cases hknown : field ∈ known
    · have hkey : (fun key => known.contains key && key == field) = (· == field) := by
        funext key
        by_cases heq : key = field
        · simp [heq, hknown]
        · simp [heq]
      rw [hkey]
      exact h.came_named_iff htag hread hread' field hknown fun _ _ hnone => hnone.elim
    · have hnone : ∀ named : List (String × Value),
          valuesUnder (fun key => known.contains key && key == field) named = [] := by
        intro named
        refine valuesUnder_eq_nil fun m _ => ?_
        by_cases heq : m.1 = field
        · simp [heq, hknown]
        · simp [heq]
      rw [hnone, hnone]
  simp only [foldlM_addMember_eq_ok_iff, hfield]

namespace Query

/-- Rearranged members of a question for a named thing are read as the same question. -/
theorem readNamed_iff (h : Rearranged (tagField :: ["id", "name"]) Passes NoneSame ms ms')
    (hread : ReadAs depth ms named) (hread' : ReadAs depth ms' named') (kind : String)
    (make : Int → String → Query) (q : Query) :
    readNamed kind make (.named named) = .ok q ↔ readNamed kind make (.named named') = .ok q := by
  simp only [readNamed, bind_eq_ok_iff,
    QueryDraft.foldlM_addMember_iff h (by decide) hread hread']

/-- Rearranged members of a question for a route are read as the same question. -/
theorem readRoute_iff (h : Rearranged (tagField :: ["id", "from", "to"]) Passes NoneSame ms ms')
    (hread : ReadAs depth ms named) (hread' : ReadAs depth ms' named') (q : Query) :
    readRoute (.named named) = .ok q ↔ readRoute (.named named') = .ok q := by
  simp only [readRoute, bind_eq_ok_iff,
    QueryDraft.foldlM_addMember_iff h (by decide) hread hread']

/-- Rearranged members of a question for the map are read as the same question. -/
theorem readMap_iff (h : Rearranged (tagField :: ["id"]) Passes NoneSame ms ms')
    (hread : ReadAs depth ms named) (hread' : ReadAs depth ms' named') (q : Query) :
    readMap (.named named) = .ok q ↔ readMap (.named named') = .ok q := by
  simp only [readMap, bind_eq_ok_iff,
    QueryDraft.foldlM_addMember_iff h (by decide) hread hread']

/-- Questions that ask the same are read as the same. -/
theorem read_iff {t t' : Tree} (h : Same t t') (q : Query) :
    read 2 t = .ok q ↔ read 2 t' = .ok q := by
  rcases h with rfl | ⟨ms, ms', rfl, rfl, h⟩
  · exact Iff.rfl
  · refine tagged_iff (fun tag content =>
      if tag == "Bus" then readNamed tag .bus content
      else if tag == "Stop" then readNamed tag .stop content
      else if tag == "Route" then readRoute content
      else readMap content) h (fun _ _ _ hnone => hnone.elim) ?_ q
    intro tag htag named named' h hread hread' q
    simp only [List.mem_cons, List.not_mem_nil, or_false] at htag
    rcases htag with rfl | rfl | rfl | rfl
    · exact readNamed_iff h hread hread' "Bus" .bus q
    · exact readNamed_iff h hread hread' "Stop" .stop q
    · exact readRoute_iff h hread hread' q
    · exact readMap_iff h hread hread' q

end Query

end

/-! ## Settings, lists and documents -/

/-- Members that are passed over are passed over wherever they stand. -/
theorem forall_passed_iff {fields : List String} {Alike : String → Tree → Tree → Prop}
    {ms ms' : List (Quotation × Tree)}
    (h : Rearranged fields (fun t => t.skip = .ok ()) Alike ms ms') :
    (∀ m ∈ ms, Passed fields m) ↔ ∀ m ∈ ms', Passed fields m := by
  refine h.forall_iff ?_ ?_
  · rintro m m' ⟨hkey, heq | ⟨name, hfield, hname, -⟩⟩
    · unfold Passed
      rw [hkey, heq]
    · rw [hkey] at hname
      simp [Passed, hkey, hname, hfield]
  · rintro m ⟨name, hname, -, hpass⟩
    exact ⟨name, hname, fun _ => hpass⟩

/-- Settings that say the same are read as the same. -/
theorem Settings.read_iff {depth : Nat} {t t' : Tree} (h : Same t t') (s : Settings Float) :
    read depth t = .ok s ↔ read depth t' = .ok s := by
  rcases h with rfl | ⟨ms, ms', rfl, rfl, h⟩
  · exact Iff.rfl
  · change Rearranged settingsFields _ _ ms ms' at h
    have hdraft : ∀ d : SettingsDraft, ms.foldlM SettingsDraft.addMember {} = .ok d ↔
        ms'.foldlM SettingsDraft.addMember {} = .ok d := by
      intro d
      rw [SettingsDraft.foldlM_addMember_eq_ok_iff, SettingsDraft.foldlM_addMember_eq_ok_iff,
        forall_passed_iff h, h.came_iff (by decide) fun _ _ hnone => hnone.elim,
        h.came_iff (by decide) fun _ _ hnone => hnone.elim]
    simp only [read, bind_eq_ok_iff, hdraft]

/-- Lists whose items say the same are read as the same, if the items are. -/
theorem readList_iff {β : Type} {read : Nat → Tree → Except Fault β} {Same : Tree → Tree → Prop}
    {depth : Nat} (hread : ∀ t t', Same t t' → ∀ x,
      read (depth + 1) t = .ok x ↔ read (depth + 1) t' = .ok x) {t t' : Tree}
    (h : SameList Same t t') (xs : List β) :
    readList read depth t = .ok xs ↔ readList read depth t' = .ok xs := by
  rcases h with rfl | ⟨items, items', rfl, rfl, h⟩
  · exact Iff.rfl
  · have hitems : ∀ ys : List β, items.mapM (read (depth + 1)) = .ok ys ↔
        items'.mapM (read (depth + 1)) = .ok ys := by
      intro ys
      simp only [mapM_eq_ok_iff]
      induction h generalizing ys with
      | nil => exact Iff.rfl
      | cons ht _ ih => simp only [List.forall₂_cons_left_iff, hread _ _ ht, ih]
    simp only [readList, bind_eq_ok_iff, liftM_break_eq_ok_iff, deeper_eq_ok_iff]
    refine exists_congr fun depth' => and_congr_right ?_
    rintro ⟨-, rfl⟩
    simp only [hitems]

namespace Document

/-- Documents that say the same are read as the same. -/
theorem read_iff {ms ms' : List (Quotation × Tree)} (h : Same ms ms') (d : Document Float) :
    read 0 (.object ms none) = .ok d ↔ read 0 (.object ms' none) = .ok d := by
  have hrequests : ∀ t t', SameMember "base_requests" t t' → ∀ rs,
      readList BaseRequest.read 1 t = .ok rs ↔ readList BaseRequest.read 1 t' = .ok rs := by
    intro t t' ht
    exact readList_iff (fun _ _ => BaseRequest.read_iff) (by simpa [SameMember] using ht)
  have hsettings : ∀ t t', SameMember "routing_settings" t t' → ∀ s,
      Settings.read 1 t = .ok s ↔ Settings.read 1 t' = .ok s := by
    intro t t' ht
    exact Settings.read_iff (by simpa [SameMember] using ht)
  have hstyling : ∀ t t', SameMember "render_settings" t t' → ∀ b,
      readStyling 1 t = .ok b ↔ readStyling 1 t' = .ok b := by
    intro t t' ht
    simp [SameMember] at ht
  have hqueries : ∀ t t', SameMember "stat_requests" t t' → ∀ qs,
      readList Query.read 1 t = .ok qs ↔ readList Query.read 1 t' = .ok qs := by
    intro t t' ht
    exact readList_iff (fun _ _ => Query.read_iff) (by simpa [SameMember] using ht)
  have hdraft : ∀ d : DocumentDraft, ms.foldlM (DocumentDraft.addMember 1) {} = .ok d ↔
      ms'.foldlM (DocumentDraft.addMember 1) {} = .ok d := by
    intro d
    rw [DocumentDraft.foldlM_addMember_eq_ok_iff, DocumentDraft.foldlM_addMember_eq_ok_iff,
      forall_passed_iff h, h.came_iff (by decide) hrequests, h.came_iff (by decide) hsettings,
      h.came_iff (by decide) hstyling, h.came_iff (by decide) hqueries]
  simp only [read, bind_eq_ok_iff, liftM_break_eq_ok_iff, deeper_eq_ok_iff]
  refine exists_congr fun depth => and_congr_right ?_
  rintro ⟨-, rfl⟩
  simp only [hdraft]

/-- **Neither the order of members nor foreign members make a difference to what is read.** Two
texts that hold objects with the same members, in different orders and with different foreign
members, are read as the same document or are both not read. The same goes for the entries of the
description, for the roads of a stop, for the settings and for the questions inside them. -/
theorem ofBytes_rearranged {bytes bytes' : List UInt8} {ms ms' : List (Quotation × Tree)}
    {hasMore : Bool} (hbytes : Tree.ofBytes bytes = (.object ms none, hasMore))
    (hbytes' : Tree.ofBytes bytes' = (.object ms' none, hasMore)) (h : Same ms ms')
    (d : Document Float) : ofBytes bytes = .ok d ↔ ofBytes bytes' = .ok d := by
  simp only [ofBytes, readText, hbytes, hbytes', bind_eq_ok_iff, read_iff h]

end Document

/-! ## A document turned round -/

/-- Two members under one of the fields, alike in their values, are both kept. -/
theorem kept_alike {fields : List String} {Alike : String → Tree → Tree → Prop} {name : String}
    {t t' : Tree} (hname : name ∈ fields) (h : Alike name t t') :
    Kept fields Alike (.spelling name, t) (.spelling name, t') :=
  ⟨rfl, .inr ⟨name, hname, Quotation.text_spelling name, h⟩⟩

/-- An object with the given members, or with a foreign one and then the given ones from the last to
the first. -/
def turnedRecord (turned : Bool) (foreign : String × Value) (members : List (String × Value)) :
    Value :=
  .object (if turned then foreign :: members.reverse else members)

/-- Members put into the opposite order behind a foreign one are rearranged. -/
theorem rearranged_turnedRecord {fields : List String} {Passes : Tree → Prop}
    {Alike : String → Tree → Tree → Prop} {ms ms' : List (String × Value)}
    {foreign : String × Value}
    (hkept : List.Forall₂ (Kept fields Alike) (memberTreesOf ms) (memberTreesOf ms'))
    (hname : foreign.1 ∉ fields) (hpass : Passes (treeOf foreign.2)) :
    Rearranged fields Passes Alike (memberTreesOf ms) (memberTreesOf (foreign :: ms'.reverse)) := by
  refine ⟨_, _, [], memberTreesOf [foreign], by rw [List.append_nil], ?_, hkept, ?_⟩
  · simp only [memberTreesOf_eq_map, List.map_cons, List.map_nil, List.map_reverse]
    exact ((List.reverse_perm _).cons _).trans (List.perm_append_singleton _ _).symm
  · simpa [memberTreesOf, Foreign, Quotation.text_spelling] using ⟨hname, hpass⟩

/-- Two roads, in one order or the other. -/
def roadMembers (turned : Bool) : List (String × Value) :=
  if turned then [("C", .number (.integer 1500)), ("B", .number (.integer 900))]
  else [("B", .number (.integer 900)), ("C", .number (.integer 1500))]

/-- A stop; a bus has stops, which a stop knows nothing of. -/
def stopRecord (turned : Bool) : Value :=
  turnedRecord turned ("stops", .null)
    [("type", .string "Stop"), ("name", .string "A"), ("latitude", .number (.integer 55)),
      ("longitude", .number (.integer 37)), ("road_distances", .object (roadMembers turned))]

/-- Settings; they have no tag. -/
def settingsRecord (turned : Bool) : Value :=
  turnedRecord turned ("type", .boolean true)
    [("bus_wait_time", .number (.integer 6)), ("bus_velocity", .number (.integer 40))]

/-- A question about a stop; it starts nowhere. -/
def questionRecord (turned : Bool) : Value :=
  turnedRecord turned ("from", .array [])
    [("id", .number (.integer 7)), ("type", .string "Stop"), ("name", .string "A")]

/-- A document with all of these. -/
def documentRecord (turned : Bool) : Value :=
  turnedRecord turned ("note", .object [])
    [("base_requests", .array [stopRecord turned]), ("routing_settings", settingsRecord turned),
      ("stat_requests", .array [questionRecord turned])]

/-- The record of a stop is the same as its turned form. -/
theorem same_stopRecord :
    BaseRequest.Same (treeOf (stopRecord false)) (treeOf (stopRecord true)) := by
  refine .inr ⟨_, _, rfl, rfl, rearranged_turnedRecord ?_ (by decide +kernel) ⟨.null, rfl⟩⟩
  refine .cons ⟨rfl, .inl rfl⟩ (.cons ⟨rfl, .inl rfl⟩ (.cons ⟨rfl, .inl rfl⟩ (.cons ⟨rfl, .inl rfl⟩
    (.cons (kept_alike (by decide +kernel) ⟨rfl, .inr ⟨_, _, rfl, rfl, .swap _ _ _, ?_⟩⟩) .nil))))
  decide +kernel

/-- The record of a document is the same as its turned form. -/
theorem same_documentRecord : ∃ ms ms', treeOf (documentRecord false) = .object ms none ∧
    treeOf (documentRecord true) = .object ms' none ∧ Document.Same ms ms' := by
  have hsettings : Settings.Same (treeOf (settingsRecord false)) (treeOf (settingsRecord true)) :=
    .inr ⟨_, _, rfl, rfl, rearranged_turnedRecord (List.forall₂_same.2 fun _ _ => ⟨rfl, .inl rfl⟩)
      (by decide) rfl⟩
  have hquestion : Query.Same (treeOf (questionRecord false)) (treeOf (questionRecord true)) :=
    .inr ⟨_, _, rfl, rfl, rearranged_turnedRecord (List.forall₂_same.2 fun _ _ => ⟨rfl, .inl rfl⟩)
      (by decide +kernel) ⟨.array [], rfl⟩⟩
  refine ⟨_, _, rfl, rfl, rearranged_turnedRecord (.cons (kept_alike (by decide) ?_)
    (.cons (kept_alike (by decide) ?_) (.cons (kept_alike (by decide) ?_) .nil))) (by decide) rfl⟩
  · exact .inl ⟨rfl, .inr ⟨_, _, rfl, rfl, .cons same_stopRecord .nil⟩⟩
  · exact .inr (.inl ⟨rfl, hsettings⟩)
  · exact .inr (.inr ⟨rfl, .inr ⟨_, _, rfl, rfl, .cons hquestion .nil⟩⟩)

/-- The text of the document. -/
def documentText (turned : Bool) : List UInt8 :=
  bytesOf (lay 0 (documentRecord turned)) ++ [byteOf '\n']

/-- The record of a document and its turned form are read as one document. -/
theorem Document.ofBytes_rearranged_documentText :
    ∃ d, Document.ofBytes (documentText false) = .ok d ∧
      Document.ofBytes (documentText true) = .ok d := by
  have hread : (Document.ofBytes (documentText false)).toOption.isSome = true := by decide +kernel
  generalize hd : Document.ofBytes (documentText false) = result at hread
  cases result with
  | error _ => cases hread
  | ok d =>
      obtain ⟨ms, ms', htree, htree', hsame⟩ := same_documentRecord
      have hblank : ∀ b ∈ [byteOf '\n'], isBlank b = true := List.forall_mem_singleton.2 rfl
      have hbytes := Tree.ofBytes_lay 0 (documentRecord false) [byteOf '\n'] hblank
      have hbytes' := Tree.ofBytes_lay 0 (documentRecord true) [byteOf '\n'] hblank
      rw [htree] at hbytes
      rw [htree'] at hbytes'
      exact ⟨d, rfl, (Document.ofBytes_rearranged hbytes hbytes' hsame d).1 hd⟩

end BusNetwork
