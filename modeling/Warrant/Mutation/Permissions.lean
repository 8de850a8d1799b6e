import Warrant.Audit.Record
import Warrant.Reload
import Warrant.RuleChange

/-!
# Changing permissions

A permission is added to a role, removed from it, or changed in place. Each
change is one transaction; after it the rules of the role are loaded again and
the change is recorded. If the transaction fails the caller is told, and nothing
has changed. What comes after it can no longer undo it.

Several permissions can be added or removed at once. Each is a change by itself,
with a result of its own, and the rules are loaded once at the end.
-/

namespace Warrant.Mutation

/-! ## Adding -/

/-- Adds a permission to a role, and does nothing else about it. -/
def insert (roleId : Uuid) (rule : RuleInput) : Work Permission :=
  Work.asMutation (.addPermission roleId) <| Work.transact do
    let _ ← Store.existingRole roleId
    let id ← Work.drawId
    let createdAt ← Work.readClock
    let p := rule.toPermission id roleId createdAt
    Store.insertPermission p
    return p

/-- Records that a permission was added. -/
def recordInsert (caller : Caller) (roleId : Uuid) (p : Permission) : Work Unit := do
  let snapshot ← Work.ofFault p.snapshot
  let _ ← Audit.record (.granted caller (.uuid roleId) snapshot)
  return ()

/-- Adds a permission to a role. -/
def addPermission (roleId : Uuid) (rule : RuleInput) (caller : Caller) : Work Permission := do
  let p ← insert roleId rule
  Reload.refresh roleId
  recordInsert caller roleId p
  return p

/-! ## Removing -/

/-- Removes a permission from a role, and does nothing else about it. -/
def erase (roleId permissionId : Uuid) : Work Permission :=
  Work.asMutation (.removePermission roleId permissionId) <| Work.transact do
    let role ← Store.existingRole roleId
    match role.permissions.find? fun p => p.id = permissionId with
    | none => Work.refuse (.missing (.permission roleId permissionId))
    | some p =>
        Store.deletePermission p.id
        return p

/-- Records that a permission was removed. -/
def recordErase (caller : Caller) (roleId : Uuid) (p : Permission) : Work Unit := do
  let snapshot ← Work.ofFault p.snapshot
  let _ ← Audit.record (.revoked caller (.uuid roleId) (.uuid p.id) snapshot)
  return ()

/-- Removes a permission from a role. -/
def removePermission (roleId permissionId : Uuid) (caller : Caller) : Work Permission := do
  let p ← erase roleId permissionId
  Reload.refresh roleId
  recordErase caller roleId p
  return p

/-! ## Changing -/

/-- Reads the permission of a role that is to be changed. -/
def readForChange (roleId permissionId : Uuid) : Work Permission := do
  match ← Store.permission permissionId with
  | some p => if p.roleId = roleId then return p else missing
  | none => missing
where
  /-- The refusal when the role has no such permission. -/
  missing : Work Permission := Work.refuse (.missing (.permission roleId permissionId))

/-- Writes a change to a permission as it was read. The result is what it said before, and the
permission as it is now. -/
def writeChange (change : RuleChange) (p : Permission) :
    Work (List (String × Value) × Permission) := do
  let before ← Work.ofFault p.snapshot
  let terms ← Work.ofFault (change.apply p.toTerms)
  let changed : Permission := { p with toTerms := terms }
  Store.updatePermission changed
  return (before, changed)

/-- Changes a permission of a role. -/
def updatePermission (roleId permissionId : Uuid) (change : RuleChange) (caller : Caller) :
    Work Permission := do
  let (before, changed) ← Work.asMutation (.updatePermission permissionId) <| Work.transact do
    let p ← readForChange roleId permissionId
    writeChange change p
  Reload.refresh roleId
  let after ← Work.ofFault changed.snapshot
  let _ ← Audit.record (.permissionChanged caller (.uuid permissionId) (.map before)
    (.map after))
  return changed

/-! ## Several at once -/

/-- What became of one item: the permission that it is about, or the refusal. -/
structure BulkItem where
  item : Value
  outcome : Except Refusal Uuid

/-- The result for an item; a fault ends the whole run. -/
def bulkItem (item : Value) (t : Work Uuid) : Work BulkItem := do
  match ← Work.attempt t with
  | .ok id => return ⟨item, .ok id⟩
  | .error (.refused why) => return ⟨item, .error why⟩
  | .error (.broke why) => Work.fail (.broke why)

/-- Adds one of several permissions. -/
def addOne (roleId : Uuid) (caller : Caller) (item : Value) : Work Uuid := do
  let rule ← Work.ofResult (RuleInput.ofValue item)
  let p ← insert roleId rule
  recordInsert caller roleId p
  return p.id

/-- Adds permissions one by one. -/
def addEach (roleId : Uuid) (caller : Caller) : List Value → Work (List BulkItem)
  | [] => return []
  | item :: rest => do
      let result ← bulkItem item (addOne roleId caller item)
      let results ← addEach roleId caller rest
      return result :: results

/-- Adds several permissions to a role. -/
def addPermissions (roleId : Uuid) (rules : Value) (caller : Caller) : Work (List BulkItem) := do
  let items ← Work.ofFault rules.items
  let results ← addEach roleId caller items
  Reload.refresh roleId
  return results

/-- Removes one of several permissions. -/
def removeOne (roleId : Uuid) (caller : Caller) (permissionId : Uuid) : Work Uuid := do
  let p ← erase roleId permissionId
  recordErase caller roleId p
  return permissionId

/-- Removes permissions one by one. -/
def removeEach (roleId : Uuid) (caller : Caller) : List Uuid → Work (List BulkItem)
  | [] => return []
  | id :: rest => do
      let result ← bulkItem (.text id.text) (removeOne roleId caller id)
      let results ← removeEach roleId caller rest
      return result :: results

/-- Removes several permissions from a role. -/
def removePermissions (roleId : Uuid) (ids : List Uuid) (caller : Caller) :
    Work (List BulkItem) := do
  let results ← removeEach roleId caller ids
  Reload.refresh roleId
  return results

end Warrant.Mutation
