import Warrant.Audit.Note
import Warrant.Json.Writer
import Warrant.Store
import Warrant.Value.Equality

/-!
# Recording

A note becomes an entry of the log in a transaction of its own, after the
change that it is about. Recording never fails: a note that cannot be written is
lost, and the change stands.
-/

namespace Warrant.Audit

/-! ## Metadata -/

/-- Entries with a key set to a value: in place if an equal key is there, else at the end. -/
def putKey (key value : Value) : List (Value × Value) → List (Value × Value)
  | [] => [(key, value)]
  | (k, v) :: rest => if k.equal key then (k, value) :: rest else (k, v) :: putKey key value rest

/-- An item of a sequence as an entry of a mapping: two members, of which the first can be a key. -/
def pair? (v : Value) : Option (Value × Value) :=
  match v.items? with
  | some [key, value] => if key.isHashable then some (key, value) else none
  | _ => none

/-- Metadata as a mapping with any keys: a mapping itself, or a sequence of pairs. -/
def metadataEntries? : Value → Option (List (Value × Value))
  | .map es => some (es.map fun entry => (.text entry.1, entry.2))
  | v => (v.items?.bind fun items => items.mapM pair?).map fun pairs =>
      pairs.foldl (fun done pair => putKey pair.1 pair.2 done) []

/-- The text of a key in a JSON column, where it has one. -/
def keyText? : Value → Option String
  | .text s => some s
  | .null => some "null"
  | .bool true => some "true"
  | .bool false => some "false"
  | .int n => some (toString n)
  | .double d => some (Json.writeDouble d)
  | _ => none

/-- An entry with the text of its key. -/
def writtenEntry? (entry : Value × Value) : Option (String × Value) :=
  (keyText? entry.1).map fun key => (key, entry.2)

/-- A mapping with any keys as a JSON column holds it. -/
def writtenMetadata? (metadata : List (Value × Value)) : Option (List (String × Value)) :=
  (metadata.mapM writtenEntry?).map Value.collect

/-! ## Entries -/

/-- The entry that a note becomes. -/
def entryOf (note : AuditNote) (metadata : List (String × Value)) (id : Uuid)
    (createdAt : Instant) : AuditEntry where
  id := id
  action := note.action.name
  entityType := note.entityType
  entityId := note.entityId
  changes := note.changes
  description := note.description
  caller := note.caller
  metadata := .map metadata
  createdAt := createdAt

/-- A part of a note, or a fault. -/
def part {α : Type} : Option α → Work α
  | some a => return a
  | none => Work.fail (.broke .wrongKind)

/-- Makes an entry of a note: it gets an id, and a time unless its metadata is no mapping. -/
def compose (note : AuditNote) : Work AuditEntry := do
  let id ← Work.drawId
  let metadata ← part (metadataEntries? note.metadata)
  let createdAt ← Work.readClock
  let written ← part (writtenMetadata? metadata)
  return entryOf note written id createdAt

/-- Makes an entry of a note and writes it. -/
def append (note : AuditNote) : Work AuditEntry := do
  let entry ← compose note
  Work.transact (Store.insertAudit entry)
  return entry

/-- Records a note, if that can be done. -/
def record (note : AuditNote) : Work (Option AuditEntry) := do
  match ← Work.attempt (append note) with
  | .ok entry => return some entry
  | .error _ => return none

end Warrant.Audit
