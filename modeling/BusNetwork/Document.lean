import BusNetwork.Query
import BusNetwork.Settings

/-!
# Documents: a network and questions about it

A document describes a network by its stops and buses, in any order, says how long boarding takes
and how fast buses run, and asks a list of questions. It may carry map styling, which is nobody's
concern here.
-/

namespace BusNetwork

variable {α : Type}

/-- One entry of a network's description. -/
inductive BaseRequest (α : Type) where
  /-- A stop, where it stands, and the roads from it by the name of their far end, ascending. -/
  | stop (name : String) (latitude longitude : α) (roads : List (String × α))
  /-- A bus, the names of its stops, and whether it is a round trip. -/
  | bus (name : String) (stops : List String) (isRoundTrip : Bool)
  deriving Repr, DecidableEq

/-- A network and questions about it. -/
structure Document (α : Type) where
  /-- The description of the network. -/
  baseRequests : List (BaseRequest α)
  /-- How long boarding takes and how fast buses run. -/
  settings : Settings α
  /-- Whether there is map styling. -/
  hasRenderSettings : Bool
  /-- The questions. -/
  queries : List Query
  deriving Repr, DecidableEq

end BusNetwork
