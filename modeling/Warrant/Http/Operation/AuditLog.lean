import Warrant.Audit.Query
import Warrant.Http.Operation.Basic
import Warrant.Text.Numeral
import Warrant.View

/-!
# Operations on the audit log

The log is shown page by page, or the latest entries about one thing or by one
actor. How many entries are shown at most can be asked for, within bounds.
-/

namespace Warrant.Http.Operation

/-- A parameter that is a whole number, if it is given. -/
def wholeParameter (req : Request) (name : String) : Except Response (Option Int) :=
  match req.parameter? name with
  | none => .ok none
  | some s =>
      match Text.Numeral.readDecimal? s with
      | some n => .ok (some n)
      | none => .error (.notWhole name)

/-- A number that is given and not zero, or else the usual one. -/
def orUsual (n : Option Int) (usual : Int) : Int :=
  match n with
  | some n => if n = 0 then usual else n
  | none => usual

/-- How many entries are shown unless another number is asked for. -/
def usualLimit : Int := 50

/-- The most entries that are shown at once. -/
def greatestLimit : Int := 200

/-- How many entries to show. -/
def limit (req : Request) : Except Response Int :=
  (wholeParameter req "limit").map fun n => min (max (orUsual n usualLimit) 1) greatestLimit

/-- Which page to show. -/
def pageNumber (req : Request) : Except Response Int :=
  (wholeParameter req "page").map fun n => max (orUsual n 1) 1

/-- The action to look for. -/
def actionFilter (req : Request) : Except Response (Option AuditAction) :=
  match req.parameter? "action" with
  | none => .ok none
  | some word =>
      match AuditAction.ofName? word with
      | some a => .ok (some a)
      | none => .error (.badRequest ("Unknown audit action: " ++ word))

/-- The actor to look for. -/
def actorFilter (req : Request) : Except Response (Option Uuid) :=
  match req.parameter? "actor_id" with
  | none => .ok none
  | some word =>
      match Uuid.read? word with
      | some id => .ok (some id)
      | none => .error (.badRequest "Invalid actor ID")

/-- What a request for a page asks for: the page, its size, and what to look for. -/
def pageAsked (req : Request) : Except Response (Int × Int × AuditFilter) := do
  let page ← pageNumber req
  let action ← actionFilter req
  let actorId ← actorFilter req
  let limit ← limit req
  .ok (page, limit, { action, actorId, entityType := req.parameter? "entity_type" })

/-- Shows a page of the log. -/
def showAuditLog (req : Request) : Work Response :=
  match pageAsked req with
  | .error response => return response
  | .ok (page, limit, filter) => do
      let p ← Audit.page page limit filter
      shown .ok (View.auditPage p)

/-- Shows the first of some entries. -/
def showLatest (req : Request) (entries : Work (List AuditEntry)) : Work Response := do
  let found ← entries
  match limit req with
  | .error response => return response
  | .ok n => return .json .ok (.map [("items", .list ((found.take n.toNat).map View.auditEntry))])

/-- Shows the latest entries about one thing. -/
def showEntityLog (req : Request) (entityType entityId : String) : Work Response :=
  showLatest req (Audit.entriesFor entityType entityId)

/-- Shows the latest entries of one actor. -/
def showActorLog (req : Request) (segment : String) : Work Response :=
  withId segment "Invalid actor ID" fun id => showLatest req (Audit.entriesBy id)

end Warrant.Http.Operation
