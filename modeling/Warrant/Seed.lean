import Warrant.Mutation.Permissions
import Warrant.Mutation.Roles

/-!
# Seeding

A new installation needs its first roles. Each definition is a mapping with a
name, a description and permissions; a role whose name is taken already is left
alone, so that seeding can be done again. Every role and every permission is a
change of its own, and the rules that are loaded after it go into a cache that
is thrown away at the end.
-/

namespace Warrant.Seed

/-- The definition of the role that may do everything. -/
def admin : Value :=
  .map
    [("name", .text "admin"),
     ("description", .text "Super administrator with full system access"),
     ("permissions", .list
       [.map
         [("action", .text "manage"), ("subject", .text "all"),
          ("reason", .text "Full system access")]])]

/-- The definition of the role that looks after one company. -/
def companyAdmin : Value :=
  .map
    [("name", .text "company_admin"),
     ("description", .text "Company administrator managing employees and subscriptions"),
     ("permissions", .list
       [.map
         [("action", .ofTexts ["read", "update"]), ("subject", .text "company"),
          ("conditions", .map [("id", .text "$\x7buser.companyId\x7d")]),
          ("reason", .text "Company admins manage their company")]])]

/-- The roles of a new installation. -/
def standard : Value := .list [admin, companyAdmin]

/-- A member that a definition must have. -/
def required (definition : Value) (key : String) : Except Fault Value :=
  match definition with
  | .map es =>
      match Value.find? key es with
      | some v => .ok v
      | none => .error .missingKey
  | _ => .error .wrongKind

/-- Reads the rules of a definition. -/
def readRules : List Value → Except Failure (List RuleInput)
  | [] => .ok []
  | v :: rest => do
      let rule ← RuleInput.ofValue v
      let rules ← readRules rest
      .ok (rule :: rules)

/-- Adds rules to a role, one by one. -/
def addRules (roleId : Uuid) : List RuleInput → Work Unit
  | [] => return ()
  | rule :: rest => do
      let _ ← Mutation.addPermission roleId rule {}
      addRules roleId rest

/-- Creates one role, unless it exists. The result is its name, as defined in a dry run and else
as it was given to the role. -/
def seedOne (dryRun : Bool) (definition : Value) : Work (Option Value) := do
  let name ← Work.ofFault (required definition "name")
  if (← Work.transact (Store.roleNamed name)).isSome then return none
  let permissions ← Work.ofFault (required definition "permissions")
  let items ← Work.ofFault permissions.items
  let rules ← Work.ofResult (readRules items)
  if dryRun then return some name
  let role ← Mutation.createRole name (definition.member "description") {}
  addRules role.id rules
  return some (.text role.name)

/-- Creates roles one by one. -/
def seedEach (dryRun : Bool) : List Value → Work (List Value)
  | [] => return []
  | definition :: rest => do
      let created ← seedOne dryRun definition
      let more ← seedEach dryRun rest
      return created.toList ++ more

/-- An operation with a rule cache of its own. -/
def withOwnCache {α : Type} (t : Work α) : Work α := fun w =>
  match t { w with cache := RuleCache.empty } with
  | (r, after) => (r, { after with cache := w.cache })

/-- Creates the roles that do not exist yet. The result is the names of those created. -/
def seed (definitions : Value) (dryRun : Bool) : Work (List Value) := do
  let items ← Work.ofFault definitions.items
  withOwnCache (seedEach dryRun items)

end Warrant.Seed
