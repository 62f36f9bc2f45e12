import BusNetwork.Document.Response
import BusNetwork.Json.Layout

/-!
# Writing responses

The responses to a document are written as one JSON array and a new line. **Every kind of response
has its members in a fixed order**, the number of the question first.
-/

namespace BusNetwork

open Json

/-- A whole number as JSON. -/
def countValue (n : Nat) : Value := .number (.integer n)

/-- A number in floating point as JSON. -/
def floatValue (x : Float) : Value := .number (.float x)

/-- A step of a journey as JSON. -/
def RouteItem.toValue : RouteItem Float → Value
  | wait stop time =>
    .object [("type", .string "Wait"), ("stop_name", .string stop), ("time", floatValue time)]
  | ride bus span time =>
    .object [("type", .string "Bus"), ("bus", .string bus), ("span_count", countValue span),
      ("time", floatValue time)]

namespace Response

/-- The members of a response after the number of the question. -/
def members : Response Float → List (String × Value)
  | bus _ curvature routeLength stopCount uniqueStopCount =>
    [("curvature", floatValue curvature), ("route_length", countValue routeLength),
      ("stop_count", countValue stopCount), ("unique_stop_count", countValue uniqueStopCount)]
  | stop _ buses => [("buses", .array (buses.map .string))]
  | route _ totalTime items =>
    [("total_time", floatValue totalTime), ("items", .array (items.map RouteItem.toValue))]
  | map _ drawing => [("map", .string drawing)]
  | error _ message => [("error_message", .string message)]

/-- A response as JSON. -/
def toValue (response : Response Float) : Value :=
  .object (("request_id", .number (.integer response.id)) :: response.members)

/-- The text of the responses to a document. -/
def writeAll (responses : List (Response Float)) : String :=
  String.ofList (lay 0 (.array (responses.map toValue)) ++ ['\n'])

end Response

/-- Why responses did not reach their reader. -/
inductive DeliveryError where
  /-- The reader stopped taking them. -/
  | brokenPipe
  deriving Repr, DecidableEq

/-- The error in words. -/
def DeliveryError.message : DeliveryError → String
  | brokenPipe => "failed to write responses: broken pipe"

/-- A text handed to a reader who takes no more than `limit` bytes, if a limit is given. -/
def deliver (limit : Option Nat) (text : String) : Except DeliveryError String :=
  match limit with
  | some limit => if limit < text.utf8ByteSize then .error .brokenPipe else .ok text
  | none => .ok text

end BusNetwork
