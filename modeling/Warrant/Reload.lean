import Warrant.Store

/-!
# Loading rules

The rule cache is filled from the database. Reading is one step and installing
another, and if reading fails in any way the cache stays as it is: it serves
what it served before. After a change to a role its rules are loaded again; the
change has been committed by then, so a failure to load does not undo it and is
not told.
-/

namespace Warrant.Reload

/-- The rules of roles, by id. -/
def rulesOf : List Role → Except Fault (List (Uuid × List Rule))
  | [] => .ok []
  | r :: rest => do
      let rules ← Rule.ofPermissions r.permissions
      let more ← rulesOf rest
      .ok ((r.id, rules) :: more)

/-- Reads the rules of the roles in a scope, `none` for all. -/
def fetch (scope : Option (List Uuid)) : Work Reload := do
  let roles ← Work.transact (Store.roles scope)
  let found ← Work.ofFault (rulesOf roles)
  return ⟨scope, found⟩

/-- Installs what has been read. -/
def install (reload : Reload) : Work Unit :=
  Work.modify fun w => { w with cache := w.cache.install reload }

/-- Reads the rules of the roles in a scope and installs them, or refuses. -/
def load (scope : Option (List Uuid)) : Work Unit := do
  match ← Work.attempt (fetch scope) with
  | .ok reload => install reload
  | .error _ => Work.refuse .rulesUnavailable

/-- Loads the rules of one role again; they are dropped if the role is gone. -/
def invalidate (id : Uuid) : Work Unit := load (some [id])

/-- Loads the rules of a role again after a change to it, if that can be done. -/
def refresh (id : Uuid) : Work Unit := do
  let _ ← Work.attempt (invalidate id)
  return ()

/-- Empties the cache. -/
def clear : Work Unit := Work.modify fun w => { w with cache := RuleCache.empty }

end Warrant.Reload
