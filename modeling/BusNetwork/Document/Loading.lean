import BusNetwork.Document

/-!
# Loading: from a description to a catalogue

The entries of a description come in any order and may refer to each other, so they are loaded in
three passes: **all stops, then all roads, then all buses**. Each pass goes through the entries as
they stand, and the first refusal ends it.
-/

namespace BusNetwork

variable {α : Type} [Quantity α]

/-- Why a description makes no catalogue. -/
inductive LoadError (α : Type) where
  /-- A stop stands nowhere on the earth. -/
  | invalidStop (name : String) (error : CoordinatesError)
  /-- A road or a bus is refused. -/
  | catalogue (error : CatalogueError α)
  deriving Repr, DecidableEq

/-- The error in words. -/
def LoadError.message : LoadError α → String
  | invalidStop name error => "stop " ++ name ++ ": " ++ error.message
  | catalogue error => error.message

namespace Catalogue

/-- The first pass: a stop is registered. -/
def loadStop (c : Catalogue α) : BaseRequest α → Outcome (LoadError α) (Catalogue α)
  | .stop name latitude longitude _ =>
    match Coordinates.ofDegrees latitude longitude with
    | .ok coordinates => pure (c.addStop name coordinates).2
    | .error error => .failed (.invalidStop name error)
  | .bus _ _ _ => pure c

/-- A catalogue with the roads from a stop, by the name of their far end. -/
def setRoads (c : Catalogue α) (origin : String) (roads : List (String × α)) :
    Outcome (CatalogueError α) (Catalogue α) :=
  roads.foldlM (fun (c : Catalogue α) (target, meters) => c.setDistance origin target meters) c

/-- The second pass: the roads from a stop are recorded. -/
def loadRoads (c : Catalogue α) : BaseRequest α → Outcome (LoadError α) (Catalogue α)
  | .stop name _ _ roads => (c.setRoads name roads).mapFailure .catalogue
  | .bus _ _ _ => pure c

/-- The third pass: a bus is registered. -/
def loadBus (c : Catalogue α) : BaseRequest α → Outcome (LoadError α) (Catalogue α)
  | .stop _ _ _ _ => pure c
  | .bus name stops isRoundTrip => do
    let (_, c) ← (c.addBus name stops (.ofRoundTrip isRoundTrip)).mapFailure .catalogue
    pure c

/-- The catalogue of a description. -/
def ofRequests (requests : List (BaseRequest α)) : Outcome (LoadError α) (Catalogue α) := do
  let withStops ← requests.foldlM loadStop .empty
  let withRoads ← requests.foldlM loadRoads withStops
  requests.foldlM loadBus withRoads

end Catalogue

end BusNetwork
