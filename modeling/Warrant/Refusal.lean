import Warrant.Http.Status
import Warrant.Value.Text
import Warrant.Vocabulary

/-!
# Refusals

A refusal is a failure that a caller is told about: who asked may not, what was
asked for does not exist, what was sent is not valid, or a change could not be
carried out. Each cause is a constructor, the wording is in one place, and the
kind of a refusal says how it is answered.

A change that could not be carried out names the operation and its target and
never the reason behind it, which is for the log alone.
-/

namespace Warrant

/-! ## Causes -/

/-- A change to roles, permissions or accounts, with what it was aimed at. -/
inductive Change where
  | addPermission (role : Uuid)
  | removePermission (role permission : Uuid)
  | updatePermission (permission : Uuid)
  | createRole (name : String)
  | updateRole (role : Uuid)
  | deleteRole (role : Uuid)
  | reassignRole (account : Uuid)
  deriving DecidableEq

/-- Something that was asked for and does not exist. -/
inductive Missing where
  | role (id : Uuid)
  | permission (role id : Uuid)
  | account (id : Uuid)
  deriving DecidableEq

/-- The two parts that every rule must have. -/
inductive RulePart where
  | action
  | subject
  deriving DecidableEq, Repr

/-- The name of a part. -/
def RulePart.name : RulePart → String
  | .action => "action"
  | .subject => "subject"

/-- What can be wrong with what was sent. -/
inductive Invalid where
  | partMissing (part : RulePart)
  | partEmpty (part : RulePart)
  | partUnknown (part : RulePart) (members : List Value)
  | fieldsNotTexts
  | conditionsNotJson
  | conditionsNotMapping
  | ruleNotMapping
  | notUpdatable (keys : List String)
  | nameMissing
  | nameNotText
  | nameTaken (name : String)
  | descriptionNotText

/-- Why a caller is refused. -/
inductive Refusal where
  | notAuthenticated
  | subjectUndefined
  | denied (action : Action) (subject : Subject) (field : Option String)
  | resourceMissing
  /-- Not the owner, where nobody else is let in. -/
  | notOwner
  /-- Not the owner, and not allowed by a rule either. -/
  | notOwnerNorPermitted
  | missing (what : Missing)
  | invalid (why : Invalid)
  | rulesUnavailable
  | failed (change : Change)

/-! ## Kinds -/

/-- The kinds of refusal. Some are special cases of others. -/
inductive RefusalKind where
  | general
  | permissionDenied
  | notAuthenticated
  | notFound
  | resourceNotFound
  | notOwner
  | validation
  | rulesUnavailable
  | mutation
  | addPermission
  | removePermission
  | updatePermission
  | roleMutation
  | accountRole
  deriving DecidableEq, Repr, Inhabited

namespace RefusalKind

/-- The more general kinds, nearest first. -/
def ancestors : RefusalKind → List RefusalKind
  | general => []
  | resourceNotFound => [permissionDenied, general]
  | notOwner => [permissionDenied, general]
  | addPermission => [mutation, general]
  | removePermission => [mutation, general]
  | updatePermission => [mutation, general]
  | roleMutation => [mutation, general]
  | accountRole => [mutation, general]
  | _ => [general]

/-- How a kind of refusal is answered. -/
def status : RefusalKind → Http.Status
  | validation => .badRequest
  | notFound => .notFound
  | resourceNotFound => .notFound
  | notAuthenticated => .unauthorized
  | permissionDenied => .forbidden
  | notOwner => .forbidden
  | rulesUnavailable => .unavailable
  | _ => .internalError

/-- The text that is answered: the message, but nothing about a refusal of no known kind. -/
def shown (kind : RefusalKind) (message : String) : String :=
  match kind with
  | general => "Internal server error"
  | _ => message

end RefusalKind

/-! ## Wording -/

/-- What is said about something that does not exist; a null identifier is left out. -/
def notFoundMessage (entity identifier : Value) : String :=
  if identifier.isNull then entity.display ++ " not found"
  else entity.display ++ " " ++ identifier.display ++ " not found"

/-- What is said about a change that could not be carried out. -/
def failedMessage (operation target : Value) : String :=
  "Error " ++ operation.display ++ " (" ++ target.display ++ ")"

/-- A permission of a role in words. -/
def permissionPath (role permission : Value) : String :=
  role.display ++ "/" ++ permission.display

namespace Change

/-- The kind of refusal when a change fails. -/
def kind : Change → RefusalKind
  | addPermission _ => .addPermission
  | removePermission .. => .removePermission
  | updatePermission _ => .updatePermission
  | createRole _ => .roleMutation
  | updateRole _ => .roleMutation
  | deleteRole _ => .roleMutation
  | reassignRole _ => .accountRole

/-- The operation in words. -/
def operation : Change → String
  | addPermission _ => "adding permission to role"
  | removePermission .. => "removing permission from role"
  | updatePermission _ => "updating permission"
  | createRole _ => "creating role"
  | updateRole _ => "updating role"
  | deleteRole _ => "deleting role"
  | reassignRole _ => "reassigning role of account"

/-- The target in words. -/
def target : Change → String
  | addPermission role => role.text
  | removePermission role permission => permissionPath (.uuid role) (.uuid permission)
  | updatePermission permission => permission.text
  | createRole name => name
  | updateRole role => role.text
  | deleteRole role => role.text
  | reassignRole account => account.text

end Change

/-- What is missing, in words. -/
def Missing.message : Missing → String
  | .role id => notFoundMessage (.text "Role") (.uuid id)
  | .permission roleId id =>
      notFoundMessage (.text "Permission") (.text (permissionPath (.uuid roleId) (.uuid id)))
  | .account id => notFoundMessage (.text "Account") (.uuid id)

/-- What is wrong, in words. -/
def Invalid.message : Invalid → String
  | .partMissing part => "Missing required field: '" ++ part.name ++ "'"
  | .partEmpty part => "Permission " ++ part.name ++ " must not be empty"
  | .partUnknown part members =>
      "Unknown " ++ part.name ++ ": " ++ Value.joined ", " (members.map Value.display)
  | .fieldsNotTexts => "Permission fields must be a list of strings"
  | .conditionsNotJson => "Permission conditions must be valid JSON"
  | .conditionsNotMapping => "Permission conditions must be an object"
  | .ruleNotMapping => "Permission rule must be an object"
  | .notUpdatable keys => "Cannot update: " ++ Value.joined ", " keys
  | .nameMissing => "Role name is required"
  | .nameNotText => "Role name must be a string"
  | .nameTaken name => "Role " ++ name ++ " already exists"
  | .descriptionNotText => "Role description must be a string"

namespace Refusal

/-- The kind of a refusal. -/
def kind : Refusal → RefusalKind
  | notAuthenticated => .notAuthenticated
  | subjectUndefined => .permissionDenied
  | denied .. => .permissionDenied
  | resourceMissing => .resourceNotFound
  | notOwner => .notOwner
  | notOwnerNorPermitted => .notOwner
  | missing _ => .notFound
  | invalid _ => .validation
  | rulesUnavailable => .rulesUnavailable
  | failed change => change.kind

/-- What the caller is told. -/
def message : Refusal → String
  | notAuthenticated => "User not authenticated"
  | subjectUndefined => "Permission subject not defined"
  | denied action subject field =>
      "You do not have permission to " ++ action.name ++ " " ++ subject.name ++
        (match field with
        | some f => if f = "" then "" else " field: " ++ f
        | none => "")
  | resourceMissing => "Resource not found"
  | notOwner => "You can only access your own resources"
  | notOwnerNorPermitted =>
      "You can only access your own resources unless you have override permissions"
  | missing what => what.message
  | invalid why => why.message
  | rulesUnavailable => "Error initializing role abilities"
  | failed change => failedMessage (.text change.operation) (.text change.target)

end Refusal

end Warrant
