import BusNetwork.Document.Loading

/-!
# Responses: what a document is answered with

A document is answered by one response to a question, in the order of the questions. **Lengths are
told in whole meters, and whatever was asked for and is not there is told as "not found"**; other
causes are told in full.

`Document.respond` loads the description, builds the journeys and answers; the first of these to
fail decides what is wrong with the document.
-/

namespace BusNetwork

variable {α : Type}

/-- The response to a question, each with the number of the question. -/
inductive Response (α : Type) where
  /-- What is known of a bus. -/
  | bus (id : Int) (curvature : α) (routeLength stopCount uniqueStopCount : Nat)
  /-- Which buses serve a stop. -/
  | stop (id : Int) (buses : List String)
  /-- The fastest route. -/
  | route (id : Int) (totalTime : α) (items : List (RouteItem α))
  /-- A map. -/
  | map (id : Int) (drawing : String)
  /-- Why there is no answer. -/
  | error (id : Int) (message : String)
  deriving Repr, DecidableEq

/-- The number of the question that a response belongs to. -/
def Response.id : Response α → Int
  | bus id _ _ _ _ => id
  | stop id _ => id
  | route id _ _ => id
  | map id _ => id
  | error id _ => id

/-- Why a document is not answered. -/
inductive DocumentError (α : Type) where
  /-- Its description makes no catalogue. -/
  | load (error : LoadError α)
  /-- Its journeys cannot be built. -/
  | routing (error : RoutingError α)
  deriving Repr, DecidableEq

/-- The error in words. -/
def DocumentError.message [Quantity α] : DocumentError α → String
  | load error => error.message
  | routing error => error.message

namespace Response

/-- An answer as a response. -/
def ofAnswer [Quantity α] (id : Int) : Answer α → Response α
  | .bus s => bus id s.curvature (Quantity.wholePart s.routeLength) s.stopCount s.uniqueStopCount
  | .stop buses => stop id buses
  | .route r => route id r.totalTime r.items
  | .map drawing => map id drawing

/-- A cause as a response. -/
def ofError [Quantity α] (id : Int) (cause : QueryError α) : Response α :=
  error id (if cause.isNotFound then "not found" else cause.message)

end Response

variable [Trigonometry α]

/-- The response to a question, made of its answer. -/
def Response.ofOutcome {ε : Type} (id : Int) :
    Outcome (QueryError α) (Answer α) → Outcome ε (Response α)
  | .value answer => .value (.ofAnswer id answer)
  | .failed cause => .value (.ofError id cause)
  | .outOfRange => .outOfRange

/-- The responses to a batch of questions, in order. -/
def Network.respond {ε : Type} (n : Network α) (parallel : Bool) (queries : List Query) :
    Outcome ε (List (Response α)) :=
  (queries.zip (n.answerAll parallel queries)).mapM fun (query, answer) =>
    Response.ofOutcome query.id answer

/-- The network that a document describes. Documents bring nobody to draw maps. -/
def Document.network (document : Document α) : Outcome (DocumentError α) (Network α) := do
  let catalogue ← (Catalogue.ofRequests document.baseRequests).mapFailure .load
  let journeys ← (JourneyGraph.build document.settings catalogue).mapFailure .routing
  pure ⟨catalogue, journeys, none⟩

/-- The responses to a document, its questions answered one after the other or all at once. -/
def Document.respond (document : Document α) (parallel : Bool) :
    Outcome (DocumentError α) (List (Response α)) := do
  let network ← document.network
  network.respond parallel document.queries

end BusNetwork
