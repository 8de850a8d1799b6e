import Warrant.Time.Instant
import Warrant.Value.Text

/-!
# Accounts, roles and permissions

An account may hold a role, and a role has permissions in the order in which
they were given. What a permission says is kept as it is stored, since rows
written by other hands may hold any JSON there; giving it a meaning is the
business of rules.

Roles and permissions are rows of the database, with identifiers of their own.
An account can also come from elsewhere, a directory or a test of the rules,
which may identify it and its role by any value.

Each of the three is also a value, for conditions walk through the acting
account into its role and further.
-/

namespace Warrant

/-- What a permission says, as it is stored: what may be done to what, on which fields, under which
conditions, whether it is forbidden instead, and why. -/
structure Terms where
  action : Value
  subject : Value
  fields : Value
  conditions : Value
  inverted : Value
  reason : Value
  deriving Inhabited

/-- A permission of a role. -/
structure Permission extends Terms where
  id : Uuid
  roleId : Uuid
  createdAt : Option Instant
  deriving Inhabited

/-- A role: a name for an ordered list of permissions. -/
structure Role where
  id : Uuid
  name : String
  description : Option String
  permissions : List Permission
  createdAt : Option Instant
  deriving Inhabited

/-- A role as the account that holds it shows it, its permissions being values. -/
structure HeldRole where
  id : Value
  name : Value
  description : Value
  permissions : List Value
  deriving Inhabited

/-- An account: who acts. Attributes are open; conditions refer to them by name. -/
structure Account where
  id : Value
  email : Value
  externalId : Value
  role : Option HeldRole
  attributes : Value
  deriving Inhabited

/-- A point in time as a value. It equals nothing, and of its attributes only the numbers on its
clock are told. -/
def Instant.toValue (t : Instant) : Value :=
  let (year, month, day) := Calendar.dateOfDay (t.localMicros / Instant.perDay).toNat
  let seconds := t.localMicros / Instant.perSecond
  .object "datetime" none
    [("year", .int year), ("month", .int month), ("day", .int day),
     ("hour", .int (seconds / 3600 % 24)), ("minute", .int (seconds / 60 % 60)),
     ("second", .int (seconds % 60)), ("microsecond", .int (t.localMicros % Instant.perSecond)),
     ("fold", .int 0)] []

namespace Terms

/-- A permission with these terms as a value. -/
def toValue (t : Terms) (id roleId createdAt : Value) : Value :=
  .entity .permission
    [("id", id), ("role_id", roleId), ("action", t.action), ("subject", t.subject),
     ("fields", t.fields), ("conditions", t.conditions), ("inverted", t.inverted),
     ("reason", t.reason), ("created_at", createdAt)]

/-- The fields of a permission when it is not known to have any, or the items of those it has. -/
def fieldItems : Value → Except Fault Value
  | .null => .ok .null
  | v => v.items.map .list

/-- What a permission says, for the audit log: actions, subjects and fields item by item. -/
def snapshot (t : Terms) (id : Value) : Except Fault (List (String × Value)) := do
  let action ← t.action.items
  let subject ← t.subject.items
  let fields ← fieldItems t.fields
  .ok [("id", .text id.display), ("action", .list action), ("subject", .list subject),
    ("fields", fields), ("conditions", t.conditions), ("inverted", t.inverted),
    ("reason", t.reason)]

end Terms

namespace Permission

/-- A permission as a value. -/
def toValue (p : Permission) : Value :=
  p.toTerms.toValue (.uuid p.id) (.uuid p.roleId) (.ofOption Instant.toValue p.createdAt)

/-- What a permission says, for the audit log. -/
def snapshot (p : Permission) : Except Fault (List (String × Value)) :=
  p.toTerms.snapshot (.uuid p.id)

end Permission

namespace Role

/-- What a role is called, for the audit log; its permissions are not part of it. -/
def snapshot (r : Role) : List (String × Value) :=
  [("id", .text r.id.text), ("name", .text r.name),
   ("description", .ofOption .text r.description)]

/-- The role in the hands of an account. -/
def held (r : Role) : HeldRole where
  id := .uuid r.id
  name := .text r.name
  description := .ofOption .text r.description
  permissions := r.permissions.map Permission.toValue

end Role

/-- A role as a value. When it was created is not told by the account that holds it. -/
def HeldRole.toValue (r : HeldRole) : Value :=
  .entity .role
    [("id", r.id), ("name", r.name), ("description", r.description),
     ("permissions", .list r.permissions), ("created_at", .null)]

namespace Account

/-- The id of the account's role, null without a role. -/
def roleId (a : Account) : Value := .ofOption HeldRole.id a.role

/-- An account as a value. -/
def toValue (a : Account) : Value :=
  .entity .account
    [("id", a.id), ("email", a.email), ("role", .ofOption HeldRole.toValue a.role),
     ("external_id", a.externalId), ("attributes", a.attributes)]

end Account

end Warrant
