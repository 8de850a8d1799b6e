import Warrant.Http.Request
import Warrant.Http.Response
import Warrant.Value.Identifier
import Warrant.World

/-!
# What operations have in common

An operation reads what it needs from the path and the body, and answers that
the request is bad where it cannot. Only then does it do its work.
-/

namespace Warrant.Http.Operation

/-- Goes on with the identifier in a segment of the path. -/
def withId (segment message : String) (next : Uuid → Work Response) : Work Response :=
  match Uuid.read? segment with
  | some id => next id
  | none => return .badRequest message

/-- Goes on with the object in the body, if there is one. -/
def withContent (req : Request) (next : Option (List (String × Value)) → Work Response) :
    Work Response :=
  match req.content with
  | .object es => next (some es)
  | .missing => next none
  | .unsupported contentType => return .unsupportedType contentType
  | .unbounded why => return .unbounded why
  | .broken why => Work.fail (.broke why)

/-- Goes on with the object in the body. -/
def withObject (req : Request) (next : List (String × Value) → Work Response) : Work Response :=
  withContent req fun
    | some es => next es
    | none => return .badRequest "Request body must be a JSON object"

/-- The member of a body, and null where there is none. -/
def member (es : List (String × Value)) (key : String) : Value := (Value.find? key es).getD .null

/-- What is said about a member that is not there. -/
def missingField (key : String) : String := "Missing required field: '" ++ key ++ "'"

/-- Answers with a view that may be a fault. -/
def shown (status : Status) (view : Except Fault Value) : Work Response := do
  return .json status (← Work.ofFault view)

end Warrant.Http.Operation
