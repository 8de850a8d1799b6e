import Warrant.Store

/-!
# The matrix of a role

The matrix shows a role's permissions as cells, one for every subject and every
action. A permission fills just the cells that it names: managing and every
subject have cells of their own and are not spread over the others. The last
permission that names a cell fills it, except that a cell once forbidden stays
as it is.
-/

namespace Warrant

/-- How a cell is covered. -/
inductive CellState where
  | uncovered
  | granted
  | conditional
  | forbidden
  deriving DecidableEq, Repr, Inhabited

/-- The word for a state. -/
def CellState.name : CellState → String
  | .uncovered => "none"
  | .granted => "granted"
  | .conditional => "conditional"
  | .forbidden => "forbidden"

/-- An action on a subject, and what a role says about it. -/
structure Cell where
  action : Action
  subject : Subject
  state : CellState := .uncovered
  permissionId : Option Uuid := none
  reason : Value := .null
  fields : Value := .null
  conditions : Value := .null
  deriving Inhabited

namespace Cell

/-- The name of a cell. -/
def key (c : Cell) : String := c.action.name ++ ":" ++ c.subject.name

/-- Whether the cell grants something, with conditions or without. -/
def isGranted (c : Cell) : Bool := c.state == .granted || c.state == .conditional

/-- The state in which a permission leaves a cell. -/
def stateBy (p : Permission) : CellState :=
  if p.inverted.isTruthy then .forbidden
  else if p.conditions.isTruthy then .conditional
  else .granted

/-- The cell when a permission that names it has been taken into account. -/
def coveredBy (c : Cell) (p : Permission) : Cell :=
  if c.state = .forbidden then c
  else
    { c with
      state := stateBy p, permissionId := some p.id, reason := p.reason, fields := p.fields
      conditions := p.conditions }

end Cell

/-- The matrix of a role. -/
structure Matrix where
  role : Role
  cells : List Cell

namespace Matrix

/-- Every cell, uncovered: subject by subject, and for each the actions in order. -/
def blank : List Cell :=
  Subject.all.flatMap fun subject => Action.all.map fun action => { action, subject }

/-- Takes a permission into account for one cell. -/
def cover (p : Permission) (subject : Subject) (cells : List Cell) (action : Action) : List Cell :=
  cells.map fun c => if c.action = action ∧ c.subject = subject then c.coveredBy p else c

/-- Takes a permission into account for the subjects that it names. Names outside the vocabulary
have no cells. -/
def coverSubjects (p : Permission) : List Value → List Cell → Except Fault (List Cell)
  | [], cells => .ok cells
  | name :: rest, cells =>
      if !name.isHashable then .error .wrongKind
      else
        match name.text?.bind Subject.ofName? with
        | none => coverSubjects p rest cells
        | some subject => do
            let actions ← p.action.items
            let named := actions.filterMap fun v => v.text?.bind Action.ofName?
            coverSubjects p rest (named.foldl (cover p subject) cells)

/-- Takes permissions into account, one after the other. -/
def coverAll : List Permission → List Cell → Except Fault (List Cell)
  | [], cells => .ok cells
  | p :: rest, cells => do
      let subjects ← p.subject.items
      let cells ← coverSubjects p subjects cells
      coverAll rest cells

/-- The matrix of a role with its permissions. -/
def ofRole (r : Role) : Except Fault Matrix := do
  let cells ← coverAll r.permissions blank
  .ok ⟨r, cells⟩

/-- The matrix of the role with an id. -/
def forRole (id : Uuid) : Work Matrix := do
  let role ← Work.transact (Store.role id)
  match role with
  | none => Work.refuse (.missing (.role id))
  | some r => Work.ofFault (ofRole r)

/-- The cell of an action and a subject, by their names. A subject outside the vocabulary has no
row, and an action outside it is not found in one. -/
def cell (m : Matrix) (action subject : String) : Except Fault Cell :=
  match Subject.ofName? subject with
  | none => .error .missingKey
  | some s =>
      match m.cells.find? fun c => c.action.name == action && c.subject == s with
      | none => .error .nothingFound
      | some c => .ok c

end Matrix

end Warrant
