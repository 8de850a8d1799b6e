/-!
# Steps of the database

Everything that is asked of the database is one of these steps, and any of them
may fail. A unit of work connects first and commits last; between the two come
the steps that read and write.
-/

namespace Warrant

/-- A step that the database takes. -/
inductive DbStep where
  | connect
  | commit
  | ping
  | accountSelect
  | accountUpdate
  | roleByName
  | roleSelect
  | roleInsert
  | roleUpdate
  | roleDelete
  | permissionGet
  | permissionList
  | permissionInsert
  | permissionUpdate
  | permissionDelete
  | auditInsert
  | auditCount
  | auditSelect
  | auditDelete
  deriving DecidableEq, Repr, Inhabited

namespace DbStep

/-- Every step. -/
def all : List DbStep :=
  [connect, commit, ping, accountSelect, accountUpdate, roleByName, roleSelect, roleInsert,
   roleUpdate, roleDelete, permissionGet, permissionList, permissionInsert, permissionUpdate,
   permissionDelete, auditInsert, auditCount, auditSelect, auditDelete]

/-- The name of a step: the table and what is done with it. -/
def name : DbStep → String
  | connect => "connect"
  | commit => "commit"
  | ping => "ping"
  | accountSelect => "account.select"
  | accountUpdate => "account.update"
  | roleByName => "role.by_name"
  | roleSelect => "role.select"
  | roleInsert => "role.insert"
  | roleUpdate => "role.update"
  | roleDelete => "role.delete"
  | permissionGet => "permission.get"
  | permissionList => "permission.list"
  | permissionInsert => "permission.insert"
  | permissionUpdate => "permission.update"
  | permissionDelete => "permission.delete"
  | auditInsert => "audit.insert"
  | auditCount => "audit.count"
  | auditSelect => "audit.select"
  | auditDelete => "audit.delete"

/-- The step with a name. -/
def ofName? (s : String) : Option DbStep := all.find? fun step => step.name == s

end DbStep

/-- Which steps fail, by their number and kind. -/
abbrev FaultPlan := Nat → DbStep → Bool

/-- No step fails. -/
def FaultPlan.none : FaultPlan := fun _ _ => false

/-- Every step of certain kinds fails. -/
def FaultPlan.on (failing : List DbStep) : FaultPlan := fun _ step => failing.contains step

end Warrant
