import Warrant.Audit.Record
import Warrant.Reload
import Warrant.Text.Blank

/-!
# Changing roles

A role is created without permissions, renamed or described anew, and deleted
with all its permissions. Names are trimmed, must not be empty, and no two roles
have the same one. What comes from outside may be any value, so the first check
is that it is text.
-/

namespace Warrant.Mutation

/-- A text, null for none, or a refusal. -/
def textIfGiven (why : Invalid) : Value → Except Refusal (Option String)
  | .null => .ok none
  | .text s => .ok (some s)
  | _ => .error (.invalid why)

/-- The trimmed name for a new role. -/
def newName : Value → Except Refusal String
  | .text s => if Text.trim s = "" then .error (.invalid .nameMissing) else .ok (Text.trim s)
  | _ => .error (.invalid .nameMissing)

/-- Adds a role unless its name is taken. -/
def insertRole (r : Role) : Work Unit :=
  Work.asMutation (.createRole r.name) <| Work.transact do
    if (← Store.roleNamed (.text r.name)).isSome then
      Work.refuse (.invalid (.nameTaken r.name))
    else Store.insertRole r

/-- Creates a role. -/
def createRole (name description : Value) (caller : Caller) : Work Role := do
  let name ← Work.ofResult (Failure.ofRefusal (newName name))
  let description ← Work.ofResult (Failure.ofRefusal (textIfGiven .descriptionNotText description))
  let id ← Work.drawId
  let createdAt ← Work.readClock
  let r : Role := ⟨id, name, description, [], some createdAt⟩
  insertRole r
  Reload.refresh id
  let _ ← Audit.record (.roleCreated caller (.uuid id) (.text name))
  return r

/-- A role under a new name, trimmed, unless it is empty or another role has it. -/
def rename (r : Role) (name : String) : Work Role := do
  let name := Text.trim name
  if name = "" then Work.refuse (.invalid .nameMissing)
  else
    match ← Store.roleNamed (.text name) with
    | some other =>
        if other.id = r.id then return { r with name }
        else Work.refuse (.invalid (.nameTaken name))
    | none => return { r with name }

/-- Writes a new name and a new description of a role, where they are given. The result is the role
before and after. -/
def editRole (id : Uuid) (name description : Option String) : Work (Role × Role) :=
  Work.asMutation (.updateRole id) <| Work.transact do
    let old ← Store.existingRole id
    let renamed ← match name with
      | some name => rename old name
      | none => pure old
    let new := { renamed with description := description <|> renamed.description }
    Store.updateRole new
    return (old, new)

/-- Renames a role or describes it anew. Its rules are as before, so they are not loaded again. -/
def updateRole (id : Uuid) (name description : Value) (caller : Caller) : Work Role := do
  let name ← Work.ofResult (Failure.ofRefusal (textIfGiven .nameNotText name))
  let description ← Work.ofResult (Failure.ofRefusal (textIfGiven .descriptionNotText description))
  let (old, new) ← editRole id name description
  let _ ← Audit.record (.roleChanged caller (.uuid id) (.map old.snapshot) (.map new.snapshot))
  return new

/-- Removes a role and its permissions. -/
def eraseRole (id : Uuid) : Work Role :=
  Work.asMutation (.deleteRole id) <| Work.transact do
    let r ← Store.existingRole id
    Store.deleteRole id
    return r

/-- Deletes a role. -/
def deleteRole (id : Uuid) (caller : Caller) : Work Unit := do
  let r ← eraseRole id
  Reload.refresh id
  let _ ← Audit.record (.roleDeleted caller (.uuid id) (.text r.name))
  return ()

end Warrant.Mutation
