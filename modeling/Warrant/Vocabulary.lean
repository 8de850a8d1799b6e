import Warrant.Text.Capital

/-!
# The vocabulary of rules

A rule grants or forbids actions on subjects. Both are closed sets of words.
Two of the words stand for the whole set: to manage is to do anything, and the
subject that stands for every subject covers them all. What is stored in a rule
is text, though, and may hold words outside the vocabulary; those cover nothing
that is ever asked for by its name.
-/

namespace Warrant

/-- What may be done. -/
inductive Action where
  | create
  | read
  | update
  | delete
  /-- Any action. -/
  | manage
  deriving DecidableEq, Repr, Inhabited

namespace Action

/-- Every action, in the order in which they are listed. -/
def all : List Action := [create, read, update, delete, manage]

/-- The word for an action. -/
def name : Action → String
  | create => "create"
  | read => "read"
  | update => "update"
  | delete => "delete"
  | manage => "manage"

/-- The action that a word stands for. -/
def ofName? (s : String) : Option Action := all.find? fun a => a.name == s

/-- The list of actions is complete. -/
theorem mem_all (a : Action) : a ∈ all := by cases a <;> decide

/-- A word stands for the action whose word it is. -/
theorem ofName?_name (a : Action) : ofName? a.name = some a := by cases a <;> decide

theorem ofName?_eq_some_iff {s : String} {a : Action} : ofName? s = some a ↔ a.name = s := by
  constructor
  · intro h
    simpa using List.find?_some h
  · rintro rfl
    exact ofName?_name a

end Action

/-- What it may be done to. -/
inductive Subject where
  /-- Any subject. -/
  | everything
  | company
  | permission
  | role
  | file
  | auditLog
  | account
  | profile
  | otp
  | course
  | payment
  | notification
  deriving DecidableEq, Repr, Inhabited

namespace Subject

/-- Every subject, in the order in which they are listed. -/
def all : List Subject :=
  [everything, company, permission, role, file, auditLog, account, profile, otp, course, payment,
   notification]

/-- The word for a subject. -/
def name : Subject → String
  | everything => "all"
  | company => "company"
  | permission => "permission"
  | role => "role"
  | file => "file"
  | auditLog => "audit-log"
  | account => "account"
  | profile => "profile"
  | otp => "otp"
  | course => "course"
  | payment => "payment"
  | notification => "notification"

/-- The subject that a word stands for. -/
def ofName? (s : String) : Option Subject := all.find? fun t => t.name == s

/-- The list of subjects is complete. -/
theorem mem_all (t : Subject) : t ∈ all := by cases t <;> decide

/-- A word stands for the subject whose word it is. -/
theorem ofName?_name (t : Subject) : ofName? t.name = some t := by cases t <;> decide

theorem ofName?_eq_some_iff {s : String} {t : Subject} : ofName? s = some t ↔ t.name = s := by
  constructor
  · intro h
    simpa using List.find?_some h
  · rintro rfl
    exact ofName?_name t

end Subject

/-- The action that the verb of a request performs, in whatever case the verb is written. A verb
without an action of its own reads. -/
def Action.ofMethod (method : String) : Action :=
  match Text.upper method with
  | "POST" => .create
  | "PUT" => .update
  | "PATCH" => .update
  | "DELETE" => .delete
  | _ => .read

end Warrant
