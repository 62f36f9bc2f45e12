import BusNetwork.Catalogue.Statistics
import BusNetwork.Route

/-!
# Queries: what can be asked of a network

Four questions can be asked: what is known of a bus, which buses serve a stop, what is the fastest
route between two stops, and what the network looks like on a map. **Every question gets an answer
or a cause, and answering one never affects another**, so a batch may be answered in any order or
all at once.

Drawing maps is not the network's own business: a map is there only when the caller brings a
renderer.
-/

namespace BusNetwork

variable {α : Type}

/-- A question, with the number under which it is answered. -/
inductive Query where
  /-- What is known of a bus. -/
  | bus (id : Int) (name : String)
  /-- Which buses serve a stop. -/
  | stop (id : Int) (name : String)
  /-- The fastest route between two stops. -/
  | route (id : Int) (origin target : String)
  /-- The network on a map. -/
  | map (id : Int)
  deriving Repr, DecidableEq

/-- The number under which a question is answered. -/
def Query.id : Query → Int
  | bus id _ => id
  | stop id _ => id
  | route id _ _ => id
  | map id => id

/-- Why a question has no answer. -/
inductive QueryError (α : Type) where
  /-- The catalogue has none. -/
  | catalogue (error : CatalogueError α)
  /-- No journey leads from one stop to the other. -/
  | unreachable (origin target : String)
  /-- There is nobody to draw a map. -/
  | mapUnavailable
  deriving Repr, DecidableEq

namespace QueryError

/-- The cause in words. -/
def message [Quantity α] : QueryError α → String
  | catalogue error => error.message
  | unreachable origin target => "no route from " ++ origin ++ " to " ++ target
  | mapUnavailable => "map rendering is not available"

/-- Whether a question asked for something that is not there. -/
def isNotFound : QueryError α → Bool
  | catalogue error => error.isNotFound
  | unreachable _ _ => true
  | mapUnavailable => false

end QueryError

/-- The answer to a question. -/
inductive Answer (α : Type) where
  /-- What is known of a bus. -/
  | bus (statistics : BusStatistics α)
  /-- The names of the buses that serve a stop, ascending. -/
  | stop (buses : List String)
  /-- The fastest route. -/
  | route (route : Route α)
  /-- A drawn map. -/
  | map (drawing : String)
  deriving Repr, DecidableEq

/-- A network that can be asked: its catalogue, the graph of its journeys, and perhaps somebody who
draws maps. -/
structure Network (α : Type) where
  /-- What is registered. -/
  catalogue : Catalogue α
  /-- The journeys. -/
  journeys : JourneyGraph α
  /-- How a map is drawn, if at all. -/
  renderer : Option (Catalogue α → String)

namespace Network

variable [Trigonometry α]

/-- The answer to the question for a route between two stops by name. -/
def answerRoute (n : Network α) (origin target : String) :
    Outcome (QueryError α) (Answer α) := do
  let a ← (n.catalogue.askedStop origin).mapFailure .catalogue
  let b ← (n.catalogue.askedStop target).mapFailure .catalogue
  let route ← (n.journeys.shortestRoute n.catalogue a b).mapFailure fun _ =>
    .unreachable origin target
  pure (.route route)

/-- The answer to a question. -/
def answer (n : Network α) : Query → Outcome (QueryError α) (Answer α)
  | .bus _ name => do
    let statistics ← (n.catalogue.busInfo name).mapFailure .catalogue
    pure (.bus statistics)
  | .stop _ name => do
    let buses ← (n.catalogue.stopInfo name).mapFailure .catalogue
    pure (.stop buses)
  | .route _ origin target => n.answerRoute origin target
  | .map _ =>
    match n.renderer with
    | some draw => pure (.map (draw n.catalogue))
    | none => .failed .mapUnavailable

/-- The answers to a batch of questions, in order, found one after the other or all at once. -/
def answerAll (n : Network α) (parallel : Bool) (queries : List Query) :
    List (Outcome (QueryError α) (Answer α)) :=
  if parallel then (queries.map fun query => Task.spawn fun _ => n.answer query).map Task.get
  else queries.map n.answer

/-- Answering all at once changes no answer. -/
theorem answerAll_eq_map (n : Network α) (parallel : Bool) (queries : List Query) :
    n.answerAll parallel queries = queries.map n.answer := by
  cases parallel <;> simp [answerAll, Function.comp_def, Task.spawn]

end Network

end BusNetwork
