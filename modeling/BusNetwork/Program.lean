import BusNetwork.Document.Reading
import BusNetwork.Document.Writing
import BusNetwork.Quantity.Binary64

/-!
# The program: from the bytes of a document to the text of its responses

**Everything that can go wrong on the way is one `ProgramError`**, and the first thing that does
decides: reading comes before loading, loading before building the journeys, and delivering the
responses comes last. Whether questions are answered one after the other or all at once makes no
difference to the text.
-/

namespace BusNetwork

/-- Why there is no text of responses. -/
inductive ProgramError where
  /-- There is no document to read. -/
  | unreadable
  /-- The text is no document. -/
  | fault (cause : Json.Fault)
  /-- The document is not answered. -/
  | document (error : DocumentError Float)
  /-- The responses do not reach their reader. -/
  | delivery (error : DeliveryError)
  /-- A position outside its table was looked up. -/
  | outOfRange
  deriving Repr

/-- The error in words. -/
def ProgramError.message : ProgramError → String
  | unreadable => "failed to open the document"
  | fault (.broken .malformed) => "invalid document: not JSON"
  | fault (.broken .truncated) => "invalid document: JSON that ends too early"
  | fault (.mismatch difference) => "invalid document: " ++ difference.message
  | document error => error.message
  | delivery error => error.message
  | outOfRange => "index out of range"

/-- An outcome as the program sees it, its failures told by `f`. -/
def Outcome.toProgram {ε β : Type} (f : ε → ProgramError) : Outcome ε β → Except ProgramError β
  | value b => .ok b
  | failed e => .error (f e)
  | outOfRange => .error .outOfRange

/-- The text of the responses to the document with the given bytes, if there is one to read, for a
reader who takes no more than `limit` bytes, if a limit is given. -/
def answerText (bytes : Option (List UInt8)) (parallel : Bool) (limit : Option Nat) :
    Except ProgramError String := do
  match bytes with
  | none => throw .unreadable
  | some bytes =>
    let document ← (Document.ofBytes bytes).mapError .fault
    let responses ← (document.respond parallel).toProgram .document
    (deliver limit (Response.writeAll responses)).mapError .delivery

end BusNetwork
