import Warrant.Audit.Entry
import Warrant.Entity
import Warrant.Http.MediaType
import Warrant.Http.Query
import Warrant.Json.Reader
import Warrant.Text.Capital

/-!
# Requests

A request has a verb, a path whose escapes are decoded already, a query,
headers, the address it came from, and perhaps a body. A body is an object in
JSON or the fields of a form; what it is, the content type says. A body that
cannot be read, or that is no object, counts as missing, but one that goes too
deep is a fault.
-/

namespace Warrant.Http

/-- A request. -/
structure Request where
  method : String
  path : String
  query : String
  headers : List (String × String)
  body : Option String
  remoteAddress : String
  deriving Inhabited

namespace Request

/-- The value of a header, whose name is given in small letters. -/
def header? (r : Request) (name : String) : Option String :=
  (r.headers.reverse.find? fun h => Text.lowerAscii h.1 == name).map Prod.snd

/-- The last value of a parameter of the query. -/
def parameter? (r : Request) (name : String) : Option String :=
  Query.last? (Query.fields r.query) name

/-- The program that sent a request, if it says so. -/
def userAgent? (r : Request) : Option String := (r.header? "user-agent").filter (· != "")

/-- On whose behalf a request is made. -/
def caller (r : Request) (user : Option Account) : Caller where
  actorId := .ofOption Account.id user
  ipAddress := .text r.remoteAddress
  userAgent := .ofOption .text r.userAgent?

/-! ## Bodies -/

/-- What there is in a body. -/
inductive Content where
  | object (entries : List (String × Value))
  | missing
  /-- A body of a type that is not read here. -/
  | unsupported (contentType : String)
  /-- A body in parts whose content type does not say what is between them. -/
  | unbounded (why : BoundaryError)
  /-- A body at which reading breaks off. -/
  | broken (why : Fault)
  deriving Inhabited

/-- The content type of a request, empty if there is none. -/
def contentType (r : Request) : String := (r.header? "content-type").getD ""

/-- Reads a body in JSON. -/
def readJson (body : String) : Content :=
  match Json.read body with
  | .ok (.map es) => .object es
  | .error .tooDeep => .broken .tooDeep
  | _ => .missing

/-- Reads a form. It is written in ASCII. -/
def readForm (body : String) : Content :=
  if body.toList.all fun c => c.toNat < 128 then .object (Query.form body) else .missing

/-- Reads the body of a request. -/
def content (r : Request) : Content :=
  let body := r.body.getD ""
  match MediaType.ofHeader? r.contentType with
  | some .json => readJson body
  | some .form => readForm body
  | some .parts =>
      match boundaryError? r.contentType with
      | some why => .unbounded why
      | none => .missing
  | none => .unsupported r.contentType

end Request

end Warrant.Http
