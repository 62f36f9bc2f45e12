import BusNetwork.Document.Reading
import BusNetwork.Proofs.Ascending

/-!
# What is known of a document that was read

The roads from a stop are read as a map and kept by the name of their far end. **Every document that
is read has the roads of each stop in the order of these names, one road to a name**
(`Document.roadsAscending_of_ofBytes`).

`Ensures x P` says of a reading `x` that `P` holds of whatever it gives.
-/

namespace BusNetwork

open Json

/-! ## What readings give -/

section

variable {ε α β : Type}

/-- Whether a property holds of what is read, if anything is. -/
def Ensures (x : Except ε α) (P : α → Prop) : Prop := ∀ a, x = .ok a → P a

namespace Ensures

variable {x : Except ε α} {P : α → Prop} {Q : β → Prop}

/-- What is read is fine if it has the property. -/
theorem ok {a : α} (h : P a) : Ensures (.ok a : Except ε α) P := by
  rintro _ ⟨⟩
  exact h

/-- A reading that fails ensures anything. -/
theorem error (e : ε) : Ensures (.error e : Except ε α) P := by
  rintro _ ⟨⟩

/-- What holds of everything holds of what is read. -/
theorem of_forall (h : ∀ a, P a) : Ensures x P := fun a _ => h a

/-- What comes of going on. -/
theorem bind (h : Ensures x P) {f : α → Except ε β} (hf : ∀ a, P a → Ensures (f a) Q) :
    Ensures (x >>= f) Q := by
  intro b hb
  cases x with
  | error e => cases hb
  | ok a => exact hf a (h a rfl) b hb

/-- What comes of going on from anything. -/
theorem bind_of_forall {f : α → Except ε β} (hf : ∀ a, Ensures (f a) Q) : Ensures (x >>= f) Q :=
  bind (of_forall (P := fun _ => True) fun _ => trivial) fun a _ => hf a

/-- What comes of going through a list. -/
theorem foldlM {f : β → α → Except ε β} (h : ∀ b a, Q b → Ensures (f b a) Q) {b : β} (hb : Q b)
    (items : List α) : Ensures (items.foldlM f b) Q := by
  induction items generalizing b with
  | nil => exact ok hb
  | cons a rest ih =>
      rw [List.foldlM_cons]
      exact (h b a hb).bind fun b' hb' => ih hb'

/-- What comes of reading the items of a list. -/
theorem mapM {f : α → Except ε β} (h : ∀ a, Ensures (f a) Q) (items : List α) :
    Ensures (items.mapM f) fun bs => ∀ b ∈ bs, Q b := by
  induction items with
  | nil => exact ok fun _ hb => absurd hb List.not_mem_nil
  | cons a rest ih =>
      rw [List.mapM_cons]
      refine (h a).bind fun b hb => ih.bind fun bs hbs => ok ?_
      exact List.forall_mem_cons.2 ⟨hb, hbs⟩

/-- What comes of a member is what comes of its value, unless it had come before. -/
theorem once {field : String} {former : Option β} {value : Except Fault β} (h : Ensures value Q) :
    Ensures (Json.once field former value) fun found => ∀ b ∈ found, Q b := by
  cases former with
  | some b => exact error _
  | none =>
      cases value with
      | error e => exact error e
      | ok b => exact ok fun _ hb => Option.some.inj hb ▸ h b rfl

end Ensures

end

/-! ## Roads -/

/-- Whether roads from a stop are in the order of their far ends, one to a name. -/
def RoadsAscending {α : Type} (roads : List (String × α)) : Prop :=
  roads.Pairwise fun road other => road.1 < other.1

/-- Whether the roads ascend is decided by comparing neighbours. -/
instance {α : Type} (roads : List (String × α)) : Decidable (RoadsAscending roads) :=
  inferInstanceAs (Decidable (roads.Pairwise fun road other => road.1 < other.1))

/-- Whether the roads of an entry are in order. -/
def BaseRequest.RoadsAscending {α : Type} : BaseRequest α → Prop
  | stop _ _ _ roads => BusNetwork.RoadsAscending roads
  | bus _ _ _ => True

/-- A request is looked through for its roads, of which a bus has none. -/
instance {α : Type} : (r : BaseRequest α) → Decidable r.RoadsAscending
  | .stop _ _ _ roads => inferInstanceAs (Decidable (RoadsAscending roads))
  | .bus _ _ _ => inferInstanceAs (Decidable True)

/-- Whether all entries have their roads in order. -/
def Document.RoadsAscending {α : Type} (d : Document α) : Prop :=
  ∀ r ∈ d.baseRequests, r.RoadsAscending

/-- A document is looked through request by request. -/
instance {α : Type} (d : Document α) : Decidable d.RoadsAscending :=
  inferInstanceAs (Decidable (∀ r ∈ d.baseRequests, r.RoadsAscending))

/-- The roads from a stop are in the order of their far ends. -/
theorem ensures_readRoads (value : Value) : Ensures (readRoads value) RoadsAscending := by
  cases value with
  | object members =>
      exact Ensures.bind_of_forall fun roads => .ok (Ascending.pairwise_ofList Prod.fst roads)
  | _ => exact .error _

namespace StopDraft

/-- Whether the roads that have come are in order. -/
def RoadsAscending (d : StopDraft) : Prop :=
  ∀ roads ∈ d.roads, BusNetwork.RoadsAscending roads

/-- A member added to a draft of a stop leaves its roads ascending. -/
theorem ensures_addMember {d : StopDraft} (h : d.RoadsAscending) (member : String × Value) :
    Ensures (d.addMember member) RoadsAscending := by
  obtain ⟨key, value⟩ := member
  unfold addMember
  dsimp only
  split
  · exact Ensures.bind_of_forall fun _ => .ok h
  split
  · exact Ensures.bind_of_forall fun _ => .ok h
  split
  · exact Ensures.bind_of_forall fun _ => .ok h
  split
  · exact (Ensures.once (ensures_readRoads value)).bind fun roads hroads => .ok hroads
  · exact .ok h

/-- A finished draft of a stop has its roads ascending. -/
theorem ensures_finish {d : StopDraft} (h : d.RoadsAscending) :
    Ensures d.finish BaseRequest.RoadsAscending := by
  refine Ensures.bind_of_forall fun name => Ensures.bind_of_forall fun latitude =>
    Ensures.bind_of_forall fun longitude => .ok ?_
  change BusNetwork.RoadsAscending (d.roads.getD [])
  cases hroads : d.roads with
  | none => exact .nil
  | some roads => exact h roads hroads

end StopDraft

namespace BaseRequest

/-- A stop that is read has its roads ascending. -/
theorem ensures_readStop (content : Content) : Ensures (readStop content) RoadsAscending := by
  cases content with
  | named members =>
      have hstart : StopDraft.RoadsAscending {} := fun _ h => by cases h
      refine (Ensures.foldlM (fun d member h => StopDraft.ensures_addMember h member) hstart
        members).bind fun d h => ?_
      exact StopDraft.ensures_finish h
  | positional values =>
      refine Ensures.bind_of_forall fun first => Ensures.bind_of_forall fun name =>
        Ensures.bind_of_forall fun second => Ensures.bind_of_forall fun latitude =>
        Ensures.bind_of_forall fun third => Ensures.bind_of_forall fun longitude => ?_
      cases values[3]? with
      | none => exact Ensures.bind (.ok .nil) fun _ h => Ensures.bind_of_forall fun _ => .ok h
      | some value =>
          exact (ensures_readRoads value).bind fun _ h => Ensures.bind_of_forall fun _ => .ok h

/-- A bus that is read has no roads that could be out of order. -/
theorem ensures_readBus (content : Content) : Ensures (readBus content) RoadsAscending := by
  cases content with
  | named members =>
      exact Ensures.bind_of_forall fun d => Ensures.bind_of_forall fun name =>
        Ensures.bind_of_forall fun stops => Ensures.bind_of_forall fun isRoundTrip => .ok trivial
  | positional values =>
      exact Ensures.bind_of_forall fun first => Ensures.bind_of_forall fun name =>
        Ensures.bind_of_forall fun second => Ensures.bind_of_forall fun stops =>
        Ensures.bind_of_forall fun third => Ensures.bind_of_forall fun isRoundTrip =>
        Ensures.bind_of_forall fun _ => .ok trivial

/-- An entry of a description has its roads in order. -/
theorem ensures_read (depth : Nat) (tree : Tree) : Ensures (read depth tree) RoadsAscending := by
  refine Ensures.bind_of_forall fun tagged => ?_
  obtain ⟨tag, content⟩ := tagged
  dsimp only
  split
  · exact ensures_readStop content
  · exact ensures_readBus content

end BaseRequest

/-! ## Documents -/

/-- Closing an array or a record gives back what it was closed with. -/
theorem ensures_closed {β : Type} {P : β → Prop} {b : β} (h : P b) (ending : Option Break) :
    Ensures (liftM (closed ending b) : Except Fault β) P := by
  cases ending with
  | none => exact .ok h
  | some stop => exact .error _

/-- What is read of the items of a list. -/
theorem ensures_readList {β : Type} {read : Nat → Tree → Except Fault β} {P : β → Prop}
    (h : ∀ depth tree, Ensures (read depth tree) P) (depth : Nat) (tree : Tree) :
    Ensures (readList read depth tree) fun bs => ∀ b ∈ bs, P b := by
  cases tree with
  | array items ending =>
      refine Ensures.bind_of_forall fun depth => ?_
      exact (Ensures.mapM (h depth) items).bind fun bs hbs => ensures_closed hbs ending
  | _ => exact Ensures.bind_of_forall fun _ => .error _

namespace DocumentDraft

/-- Whether the entries that have come have their roads in order. -/
def RoadsAscending (d : DocumentDraft) : Prop :=
  ∀ requests ∈ d.baseRequests, ∀ r ∈ requests, r.RoadsAscending

/-- A member added to a draft of a document leaves the roads of its requests ascending. -/
theorem ensures_addMember {d : DocumentDraft} (h : d.RoadsAscending) (depth : Nat)
    (member : Quotation × Tree) : Ensures (d.addMember depth member) RoadsAscending := by
  obtain ⟨key, value⟩ := member
  refine Ensures.bind_of_forall fun key => ?_
  split
  · exact (Ensures.once (ensures_readList BaseRequest.ensures_read depth value)).bind
      fun requests hrequests => .ok hrequests
  split
  · exact Ensures.bind_of_forall fun _ => .ok h
  split
  · exact Ensures.bind_of_forall fun _ => .ok h
  split
  · exact Ensures.bind_of_forall fun _ => .ok h
  · exact Ensures.bind_of_forall fun _ => .ok h

end DocumentDraft

namespace Document

/-- The item that an array has next. -/
theorem ensures_readNext {β : Type} {read : Tree → Except Fault β} {P : β → Prop}
    (h : ∀ tree, Ensures (read tree) P) (items : List Tree) (ending : Option Break) :
    Ensures (readNext read items ending) fun next => ∀ b ∈ next.1, P b := by
  refine Ensures.bind_of_forall fun next => ?_
  cases next with
  | none => exact .ok fun _ hb => by cases hb
  | some next => exact (h next.1).bind fun b hb => .ok fun _ hb' => Option.some.inj hb' ▸ hb

/-- A document of entries that may not have come at all. -/
theorem roadsAscending_getD {requests : Option (List (BaseRequest Float))}
    (h : ∀ rs ∈ requests, ∀ r ∈ rs, r.RoadsAscending) :
    ∀ r ∈ requests.getD [], r.RoadsAscending := by
  cases requests with
  | none => exact fun _ hr => absurd hr List.not_mem_nil
  | some rs => exact h rs rfl

/-- A document that is read has the roads of every stop ascending. -/
theorem ensures_read (depth : Nat) (tree : Tree) : Ensures (read depth tree) RoadsAscending := by
  cases tree with
  | object members ending =>
      refine Ensures.bind_of_forall fun depth => ?_
      have hstart : DocumentDraft.RoadsAscending {} := fun _ h => by cases h
      refine (Ensures.foldlM (fun d member h => DocumentDraft.ensures_addMember h depth member)
        hstart members).bind fun d h => ?_
      exact Ensures.bind_of_forall fun _ => Ensures.bind_of_forall fun settings =>
        .ok (roadsAscending_getD h)
  | array items ending =>
      refine Ensures.bind_of_forall fun depth => ?_
      refine (ensures_readNext (ensures_readList BaseRequest.ensures_read depth) items ending).bind
        fun requests hrequests => ?_
      refine Ensures.bind_of_forall fun settings => ?_
      obtain ⟨_ | settings, items'⟩ := settings
      · exact .error _
      · exact Ensures.bind_of_forall fun styling => Ensures.bind_of_forall fun queries =>
          Ensures.bind_of_forall fun _ => .ok (roadsAscending_getD hrequests)
  | _ => exact Ensures.bind_of_forall fun _ => .error _

end Document

/-- What is read of a whole text. -/
theorem ensures_readText {β : Type} {read : Nat → Tree → Except Fault β} {P : β → Prop}
    (h : ∀ depth tree, Ensures (read depth tree) P) (bytes : List UInt8) :
    Ensures (readText read bytes) P := by
  unfold readText
  obtain ⟨tree, hasMore⟩ := Tree.ofBytes bytes
  refine (h 0 tree).bind fun b hb => ?_
  cases hasMore with
  | true => exact Ensures.bind_of_forall fun _ => .ok hb
  | false => exact .ok hb

/-- **Every document that is read has its roads in order.** -/
theorem Document.roadsAscending_of_ofBytes {bytes : List UInt8} {d : Document Float}
    (h : ofBytes bytes = .ok d) : d.RoadsAscending :=
  ensures_readText ensures_read bytes d h

end BusNetwork
