import Warrant.Http.Operation.Basic

/-!
# Health

The service is alive if it answers at all. It is ready if the database responds
and the rules of all roles have been loaded.
-/

namespace Warrant.Http.Operation

/-- Says that the service is alive. -/
def alive : Response := .json .ok (.map [("status", .text "ok")])

/-- Whether the database responds. -/
def ping : Work Bool := do
  match ← Work.attempt (Work.transact (Work.step .ping)) with
  | .ok () => return true
  | .error _ => return false

/-- Says whether the service is ready. -/
def readiness (database : Bool) (cache : RuleCache) : Response :=
  let isReady := database && cache.initialized
  .json (if isReady then .ok else .unavailable)
    (.map
      [("status", .text (if isReady then "ready" else "not_ready")), ("database", .bool database),
       ("rule_store", .map
         [("initialized", .bool cache.initialized), ("roles", .int cache.entries.length)])])

/-- Finds out whether the service is ready, and says so. -/
def ready : Work Response := do
  let database ← ping
  Work.ask fun w => readiness database w.cache

end Warrant.Http.Operation
