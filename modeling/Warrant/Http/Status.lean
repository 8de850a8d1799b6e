/-!
# Status codes

The outcomes of a request that the service can answer with, each a number and
the phrase that goes with it.
-/

namespace Warrant.Http

/-- The status of a response. -/
inductive Status where
  | ok
  | created
  | noContent
  | badRequest
  | unauthorized
  | forbidden
  | notFound
  | unsupportedMediaType
  | internalError
  | unavailable
  deriving DecidableEq, Repr, Inhabited

namespace Status

/-- The number of a status. -/
def code : Status → Nat
  | ok => 200
  | created => 201
  | noContent => 204
  | badRequest => 400
  | unauthorized => 401
  | forbidden => 403
  | notFound => 404
  | unsupportedMediaType => 415
  | internalError => 500
  | unavailable => 503

/-- The phrase of a status. -/
def phrase : Status → String
  | ok => "OK"
  | created => "Created"
  | noContent => "No Content"
  | badRequest => "Bad Request"
  | unauthorized => "Unauthorized"
  | forbidden => "Forbidden"
  | notFound => "Not Found"
  | unsupportedMediaType => "Unsupported Media Type"
  | internalError => "Internal Server Error"
  | unavailable => "Service Unavailable"

/-- Number and phrase. -/
def line (s : Status) : String := toString s.code ++ " " ++ s.phrase

end Status

end Warrant.Http
