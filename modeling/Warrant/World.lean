import Warrant.Database.Basic
import Warrant.Database.Step
import Warrant.Failure
import Warrant.RuleCache

/-!
# The world of a running service

Operations act on a world: the database, the rule cache, a clock, and a source
of fresh identifiers. The clock goes on by one tick whenever it is read, and
identifiers are drawn one after the other, so that what an operation does is
determined by the world it starts in.

The world also knows which steps of the database will fail. That makes every
course that an operation can take a value of one function.

A unit of work is a transaction. If connecting, the work itself or the commit
fails, the database is as it was before; the clock and the identifiers are not
turned back.
-/

namespace Warrant

/-- A clock: the time it shows next, and how far it goes on when it is read, in microseconds. -/
structure Clock where
  now : Instant
  tick : Int
  deriving Inhabited

/-- What operations act on. -/
structure World where
  db : Database
  cache : RuleCache
  clock : Clock
  /-- How many identifiers have been drawn. -/
  issued : Nat
  /-- How many steps the database has taken. -/
  steps : Nat
  faults : FaultPlan

/-- An operation on a world: a result or a failure, and the world afterwards. -/
def Work (α : Type) : Type := World → Except Failure α × World

namespace Work

/-! ## Operations one after another -/

/-- The operation that only has a result. -/
def done {α : Type} (a : α) : Work α := fun w => (.ok a, w)

/-- The operation that only fails. -/
def fail {α : Type} (f : Failure) : Work α := fun w => (.error f, w)

/-- One operation and then another that knows its result. A failure ends it. -/
def andThen {α β : Type} (t : Work α) (next : α → Work β) : Work β := fun w =>
  match t w with
  | (.ok a, w) => next a w
  | (.error f, w) => (.error f, w)

instance : Monad Work where
  pure := done
  bind := andThen

/-- The operation that refuses. -/
def refuse {α : Type} (why : Refusal) : Work α := fail (.refused why)

/-- A result or a failure as an operation. -/
def ofResult {α : Type} : Except Failure α → Work α
  | .ok a => done a
  | .error f => fail f

/-- A result or a fault as an operation. -/
def ofFault {α : Type} (r : Except Fault α) : Work α := ofResult (Failure.ofFault r)

/-- The operation with its failure as part of the result. -/
def attempt {α : Type} (t : Work α) : Work (Except Failure α) := fun w =>
  match t w with
  | (r, w) => (.ok r, w)

/-- Tells something of the world. -/
def ask {α : Type} (f : World → α) : Work α := fun w => (.ok (f w), w)

/-- Changes the world. -/
def modify (f : World → World) : Work Unit := fun w => (.ok (), f w)

/-! ## Time and identifiers -/

/-- The identifier with a number among those that are drawn. -/
def freshId (n : Nat) : Uuid := Uuid.ofNat (0x4000 * Nat.pow 2 64 + 0x8000 * Nat.pow 2 48 + n)

/-- Draws an identifier. -/
def drawId : Work Uuid := fun w => (.ok (freshId (w.issued + 1)), { w with issued := w.issued + 1 })

/-- Reads the clock. One that stands at the end of the calendar cannot go on, nor be read. -/
def readClock : Work Instant := fun w =>
  match w.clock.now.add? w.clock.tick with
  | some next => (.ok w.clock.now, { w with clock := { w.clock with now := next } })
  | none => (.error (.broke .outOfRange), w)

/-! ## The database -/

/-- Lets the database take a step, which may fail. -/
def step (s : DbStep) : Work Unit := fun w =>
  let after := { w with steps := w.steps + 1 }
  if w.faults w.steps s then (.error (.broke .database), after) else (.ok (), after)

/-- A step that reads. -/
def query {α : Type} (s : DbStep) (read : Database → α) : Work α := do
  step s
  ask fun w => read w.db

/-- A step that writes. -/
def write (s : DbStep) (change : Database → Except Fault Database) : Work Unit := do
  step s
  let db ← ask fun w => change w.db
  let db ← ofFault db
  modify fun w => { w with db }

/-- Ends a transaction: the result stands if the commit succeeds. -/
def commit {α : Type} (a : α) : Work α := do
  step .commit
  done a

/-- An operation as a transaction: all of what it does to the database, or nothing. -/
def transact {α : Type} (body : Work α) : Work α := fun w =>
  match (do step .connect; let a ← body; commit a : Work α) w with
  | (.ok a, after) => (.ok a, after)
  | (.error f, after) => (.error f, { after with db := w.db })

/-- An operation as a change that is refused as such if it breaks; a refusal stands as it is. -/
def asMutation {α : Type} (change : Change) (body : Work α) : Work α := fun w =>
  match body w with
  | (.error (.broke _), after) => (.error (.refused (.failed change)), after)
  | r => r

end Work

end Warrant
