import Warrant.Http.MediaType
import Warrant.Http.Status
import Warrant.Refusal
import Warrant.Text.Half
import Warrant.Text.Quoted

/-!
# Responses

A response has a status, headers, and a body that is a JSON value. Refusals are
answered with their text; a fault is answered without saying what it is.
Answers that the routes give by themselves, before any operation is asked, have
a title instead, and tell caches that they depend on what was accepted.

A body is sent as octets. Text with a lone half in it has none, so a body that
holds such a text cannot be sent, and the answer is that of a fault.
-/

namespace Warrant.Http

/-- A response. -/
structure Response where
  status : Status
  headers : List (String × String)
  body : Option Value
  deriving Inhabited

namespace Response

mutual

/-- Whether there is a lone half in a text or in a key of a value. -/
def holdsHalf : Value → Bool
  | .text s => Text.hasHalf s
  | .list items => anyHoldsHalf items
  | .tuple items => anyHoldsHalf items
  | .map es => anyEntryHoldsHalf es
  | _ => false

/-- Whether there is a lone half in one of the values. -/
def anyHoldsHalf : List Value → Bool
  | [] => false
  | v :: rest => holdsHalf v || anyHoldsHalf rest

/-- Whether there is a lone half in one of the entries. -/
def anyEntryHoldsHalf : List (String × Value) → Bool
  | [] => false
  | (k, v) :: rest => Text.hasHalf k || holdsHalf v || anyEntryHoldsHalf rest

end

/-- The header of a response that has a JSON body. -/
def jsonHeader : String × String := ("content-type", "application/json")

/-- A response with a body. -/
def json (status : Status) (body : Value) : Response := ⟨status, [jsonHeader], some body⟩

/-- A response without a body. -/
def empty (status : Status) : Response := ⟨status, [], none⟩

/-- A response that says what is wrong. -/
def error (status : Status) (message : String) : Response :=
  json status (.map [("error", .text message)])

/-- What was sent cannot be used. -/
def badRequest (message : String) : Response := error .badRequest message

/-- The answer to a refusal. -/
def refused (why : Refusal) : Response := error why.kind.status (why.kind.shown why.message)

/-- The answer to a fault. -/
def broken : Response := error .internalError "Internal server error"

/-- The header of answers that the routes give by themselves. -/
def acceptHeader : String × String := ("vary", "Accept")

/-- A response with a title, and perhaps a description. -/
def titled (status : Status) (title : String) (description : Option String) : Response :=
  let described :=
    match description with
    | some d => [("description", Value.text d)]
    | none => []
  ⟨status, [jsonHeader, acceptHeader], some (.map (("title", .text title) :: described))⟩

/-- No operation has this path. -/
def unrouted : Response := titled .notFound Status.notFound.line none

/-- The body is of a type that is not read. -/
def unsupportedType (contentType : String) : Response :=
  titled .unsupportedMediaType Status.unsupportedMediaType.line
    (some (contentType ++ " is an unsupported media type."))

/-- What is wrong with the boundary of a body in parts, in words. -/
def boundaryWords : BoundaryError → String
  | .missing contentType => "No boundary specifier found in " ++ Text.Quoted.encode contentType
  | .badLength => "The boundary parameter must consist of 1 to 70 characters"

/-- The content type of a body in parts is not usable. -/
def unbounded (why : BoundaryError) : Response :=
  titled .badRequest "Invalid header value"
    (some ("The value provided for the \"Content-Type\" header is invalid. " ++ boundaryWords why))

/-- A parameter that should be a whole number is none. -/
def notWhole (name : String) : Response :=
  titled .badRequest "Invalid parameter"
    (some ("The \"" ++ name ++ "\" parameter is invalid. The value must be an integer."))

/-- Sets a header, in the place of one of the same name. -/
def setHeader (r : Response) (h : String × String) : Response :=
  { r with headers := r.headers.filter (fun old => old.1 != h.1) ++ [h] }

/-- Sets headers. -/
def setHeaders (r : Response) (hs : List (String × String)) : Response :=
  hs.foldl setHeader r

/-- The response as it can be sent. -/
def sendable (r : Response) : Response :=
  if r.body.any holdsHalf then { r with status := broken.status, body := broken.body } else r

/-- The response without its body, for a verb that asks for the headers alone. -/
def headOnly (r : Response) : Response := { r with body := none }

end Response

end Warrant.Http
