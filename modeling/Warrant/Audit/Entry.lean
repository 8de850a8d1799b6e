import Warrant.Audit.Action
import Warrant.Time.Instant
import Warrant.Value.Quotient

/-!
# Entries of the audit log

An entry says what was done to which thing, by whom and from where, and what
the thing was like before and after. It is written once and never changed. A
note is an entry that has no id and no time yet.
-/

namespace Warrant

/-- On whose behalf something is done, as far as that is told: null is what is not. Without an
actor the system itself acts. -/
structure Caller where
  actorId : Value := .null
  ipAddress : Value := .null
  userAgent : Value := .null
  deriving Inhabited

/-- An entry of the log as it is stored. The action is text, since the log may hold words that are
not known here. -/
structure AuditEntry where
  id : Uuid
  action : String
  entityType : String
  entityId : Option String
  changes : Value
  description : Option String
  caller : Caller
  metadata : Value
  createdAt : Instant
  deriving Inhabited

/-- What is to be recorded. Null before or after stands for nothing to tell. -/
structure AuditNote where
  action : AuditAction
  entityType : String
  entityId : Option String := none
  before : Value := .null
  after : Value := .null
  description : Option String := none
  caller : Caller := {}
  metadata : Value := .map []
  deriving Inhabited

/-- A member of the changes, unless there is nothing to tell. -/
def AuditNote.change (key : String) (v : Value) : List (String × Value) :=
  if v.isNull then [] else [(key, v)]

/-- Before and after, as far as there is something to tell, and null without either. -/
def AuditNote.changes (n : AuditNote) : Value :=
  match AuditNote.change "before" n.before ++ AuditNote.change "after" n.after with
  | [] => .null
  | es => .map es

/-! ## Pages -/

/-- One page of a listing. -/
structure Page (α : Type) where
  results : List α
  total : Int
  page : Int
  limit : Int
  deriving Inhabited

/-- How many pages there are: the quotient of two whole numbers as a double, rounded up. -/
def pageTotal (total limit : Int) : Except Fault Int :=
  match Number.Double.quotient? total limit with
  | none => .ok 0
  | some q => q.roundedUp

/-- How many pages there are if the numbers come as values: no limit, no pages. -/
def pageTotalOf (total limit : Value) : Except Fault Int := do
  if limit.isTruthy then (← total.quotient limit).roundedUp else .ok 0

end Warrant
