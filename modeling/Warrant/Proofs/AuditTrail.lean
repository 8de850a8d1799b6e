import Warrant.Proofs.Coherence
import Warrant.Proofs.Silence

/-!
# The log and the changes it tells of

Every operation that changes roles, permissions or accounts owes the log one
entry: a command one, a bulk operation one for each item that succeeds. The
entry is written last, after the commit and after a reload that may fail, in a
transaction of its own. So there are two ways to go wrong: a success that
leaves no note, or two, and a note that gets in the way of what it tells of.

`Operation.recordings` lists the moments at which an operation records
something, and two facts about it make up the result. The recordings match the
successes of the operation, one for one and in order; this comes from the stages
of a command and, for a bulk operation, by induction on the items. And the
operation recounts them, so that the log grows by their entries alone and
nothing else depends on whether they were written. A run adds these up.

What succeeded is what the operation reports, if it returns. A bulk operation
that breaks off reports nothing, but the items before have succeeded, so that
successes are counted item by item.
-/

namespace Warrant

/-- A note tells of a success: what was done, to which thing, and by whom. -/
structure AuditNote.Tells (note : AuditNote) (caller : Caller) (success : AuditAction × Uuid) :
    Prop where
  action : note.action = success.1
  entityId : note.entityId = some success.2.text
  caller : note.caller = caller

namespace Mutation

/-! ## Changes that are noted -/

/-- The recording of a note, if there is one. -/
def noted : Except Fault AuditNote → World → List Recording
  | .ok note, w => [⟨note, w⟩]
  | .error _, _ => []

theorem noted_recounts (note : Except Fault AuditNote) :
    Work.Recounts (do
      let note ← Work.ofFault note
      let _ ← Audit.record note
      return ()) (noted note) := by
  cases note with
  | error e => exact Work.Silent.fail (.broke e)
  | ok note => exact Audit.record_recounts note

/-- A note that is made of a snapshot. -/
theorem record_map (r : Except Fault (List (String × Value)))
    (note : List (String × Value) → AuditNote) :
    (do
      let snapshot ← Work.ofFault r
      let _ ← Audit.record (note snapshot)
      return () : Work Unit) = do
      let note ← Work.ofFault (r.map note)
      let _ ← Audit.record note
      return () := by
  cases r <;> rfl

namespace Stages

variable {α : Type}

/-- A change in stages is noted: it closes by recording a note of what it has changed. -/
def Noted (s : Stages α) (note : s.Changed → Except Fault AuditNote) : Prop :=
  ∀ done, s.close done = do
    let note ← Work.ofFault (note done)
    let _ ← Audit.record note
    return ()

/-- The recordings of a change in stages. -/
def recordings (s : Stages α) (note : s.Changed → Except Fault AuditNote) (w : World) :
    List Recording :=
  match s.change w with
  | (.ok done, w₁) => noted (note done) (reload (s.touched done) w₁).2
  | (.error _, _) => []

theorem run_recounts {s : Stages α} {note : s.Changed → Except Fault AuditNote}
    (hchange : Work.Silent s.change) (hnoted : s.Noted note) :
    Work.Recounts s.run (s.recordings note) := by
  have hclose : ∀ done, Work.Recounts (s.close done) (noted (note done)) := by
    intro done
    rw [hnoted done]
    exact noted_recounts (note done)
  have hrest : ∀ done, Work.Recounts (do
        reload (s.touched done)
        s.close done
        return s.result done)
      (fun w => noted (note done) (reload (s.touched done) w).2) := by
    intro done
    refine (Work.Recounts.bind (reload_silent _) fun _ =>
      (hclose done).bindSilent fun _ => Work.Silent.pure _).congr fun w => ?_
    rw [Work.recordingsThen_ok (reload_apply _ w)]
    rfl
  refine (Work.Recounts.bind hchange hrest).congr fun w => ?_
  rcases hrun : s.change w with ⟨f | done, w₁⟩
  · rw [Work.recordingsThen_error hrun, recordings, hrun]
  · rw [Work.recordingsThen_ok hrun, recordings, hrun]
    rfl

/-- A change that was made is recorded once, in the world after the reload. -/
theorem recordings_of_ok {s : Stages α} {note : s.Changed → Except Fault AuditNote}
    (hnoted : s.Noted note) {w w₁ : World} {done : s.Changed}
    (hchange : s.change w = (.ok done, w₁)) (hclose : Work.Logs (s.close done)) :
    ∃ n, note done = .ok n ∧ s.recordings note w = [⟨n, (reload (s.touched done) w₁).2⟩] := by
  -- A close without a note would fail.
  have hends := hclose.ends w₁
  rw [hnoted done] at hends
  cases hnote : note done with
  | error e =>
      rw [hnote] at hends
      cases hends
  | ok n =>
      refine ⟨n, rfl, ?_⟩
      unfold recordings
      rw [hchange]
      dsimp only
      rw [hnote]
      rfl

theorem recordings_of_error {s : Stages α} {note : s.Changed → Except Fault AuditNote}
    {w w₁ : World} {f : Failure} (hchange : s.change w = (.error f, w₁)) :
    s.recordings note w = [] := by
  rw [recordings, hchange]

/-- The success that a result tells of, if it is one. -/
def successOf (success : α → AuditAction × Uuid) : Except Failure α → List (AuditAction × Uuid)
  | .ok a => [success a]
  | .error _ => []

/-- A change in stages has one recording if it succeeds and none if it fails. -/
theorem recordings_tell {s : Stages α} {note : s.Changed → Except Fault AuditNote}
    (hnoted : s.Noted note) {caller : Caller} {success : α → AuditAction × Uuid} {w : World}
    (hcloses : s.Closes w)
    (htells : ∀ {done : s.Changed} {w₁ : World} {n : AuditNote}, s.change w = (.ok done, w₁) →
      note done = .ok n → n.Tells caller (success (s.result done))) :
    List.Forall₂ (fun r told => r.note.Tells caller told) (s.recordings note w)
      (successOf success (s.run w).1) := by
  rcases hchange : s.change w with ⟨f | done, w₁⟩
  · rw [recordings_of_error hchange, run_of_error hchange]
    exact .nil
  · have hclose := hcloses hchange
    obtain ⟨n, hnote, hrecordings⟩ := recordings_of_ok hnoted hchange hclose
    rw [hrecordings, run_of_ok hchange hclose]
    exact .cons (htells hchange hnote) .nil

end Stages

/-! ## Commands -/

/-- The note of a permission that was added. -/
def grantNote (roleId : Uuid) (caller : Caller) (p : Permission) : Except Fault AuditNote :=
  p.snapshot.map (.granted caller (.uuid roleId))

/-- The note of a permission that was removed. -/
def revokeNote (roleId : Uuid) (caller : Caller) (p : Permission) : Except Fault AuditNote :=
  p.snapshot.map (.revoked caller (.uuid roleId) (.uuid p.id))

namespace Command

/-- The note that a command leaves of what it has changed. -/
def note (caller : Caller) : (c : Command) → (c.stages caller).Changed → Except Fault AuditNote
  | addPermission roleId _, p => grantNote roleId caller p
  | removePermission roleId _, p => revokeNote roleId caller p
  | updatePermission _ permissionId _, done =>
      (Permission.snapshot done.2).map fun after =>
        .permissionChanged caller (.uuid permissionId) (.map done.1) (.map after)
  | createRole .., r => .ok (.roleCreated caller (.uuid (Role.id r)) (.text (Role.name r)))
  | updateRole roleId _ _, done =>
      .ok (.roleChanged caller (.uuid roleId) (.map (Role.snapshot done.1))
        (.map (Role.snapshot done.2)))
  | deleteRole roleId, r => .ok (.roleDeleted caller (.uuid roleId) (.text (Role.name r)))
  | reassignRole accountId roleId, done =>
      .ok (.reassigned caller (.uuid accountId) (Account.roleId done.1) (.ofOption .uuid roleId))

/-- What a command that succeeds is recorded as: the action, and the thing that it is about. -/
def success : (c : Command) → c.Result → AuditAction × Uuid
  | addPermission roleId _, _ => (.grantPermission, roleId)
  | removePermission _ permissionId, _ => (.revokePermission, permissionId)
  | updatePermission _ permissionId _, _ => (.updatePermission, permissionId)
  | createRole .., r => (.createRole, Role.id r)
  | updateRole id _ _, _ => (.updateRole, id)
  | deleteRole id, _ => (.deleteRole, id)
  | reassignRole accountId _, _ => (.updateAccountRole, accountId)

theorem stages_noted (caller : Caller) (c : Command) : (c.stages caller).Noted (c.note caller) := by
  intro done
  cases c with
  | addPermission roleId rule => exact record_map _ _
  | removePermission roleId permissionId => exact record_map _ _
  | updatePermission roleId permissionId change => exact record_map _ _
  | createRole name description => rfl
  | updateRole id name description => rfl
  | deleteRole id => rfl
  | reassignRole accountId roleId => rfl

theorem stages_silent (caller : Caller) (c : Command) : Work.Silent (c.stages caller).change := by
  cases c with
  | addPermission roleId rule => exact insert_silent roleId rule
  | removePermission roleId permissionId => exact erase_silent roleId permissionId
  | updatePermission roleId permissionId change => exact revise_silent roleId permissionId change
  | createRole name description => exact insertDraft_silent name description
  | updateRole id name description =>
      exact Work.Silent.bind (Work.Silent.ofResult _) fun name? =>
        Work.Silent.bind (Work.Silent.ofResult _) fun description? =>
          editRole_silent id name? description?
  | deleteRole id => exact eraseRole_silent id
  | reassignRole accountId roleId => exact assign_silent accountId roleId

/-- The note of a change tells of the success that the change is. -/
theorem note_tells {caller : Caller} {c : Command} {done : (c.stages caller).Changed}
    {db db' : Database} (hwrites : c.Writes db ((c.stages caller).result done) db') {n : AuditNote}
    (hnote : c.note caller done = .ok n) :
    n.Tells caller (c.success ((c.stages caller).result done)) := by
  cases c with
  | addPermission roleId rule =>
      obtain ⟨snapshot, -, rfl⟩ := Fault.map_ok.mp hnote
      exact ⟨rfl, rfl, rfl⟩
  | removePermission roleId permissionId =>
      obtain ⟨snapshot, -, rfl⟩ := Fault.map_ok.mp hnote
      obtain ⟨-, hid, -⟩ := hwrites
      exact ⟨rfl, congrArg (fun id : Uuid => some id.text) hid, rfl⟩
  | updatePermission roleId permissionId change =>
      obtain ⟨snapshot, -, rfl⟩ := Fault.map_ok.mp hnote
      exact ⟨rfl, rfl, rfl⟩
  | createRole name description => cases hnote; exact ⟨rfl, rfl, rfl⟩
  | updateRole id name description => cases hnote; exact ⟨rfl, rfl, rfl⟩
  | deleteRole id => cases hnote; exact ⟨rfl, rfl, rfl⟩
  | reassignRole accountId roleId => cases hnote; exact ⟨rfl, rfl, rfl⟩

end Command

/-! ## Items of a bulk operation -/

/-- One of several permissions is added, as a change in stages. Nothing is loaded after it. -/
def addItem (roleId : Uuid) (caller : Caller) (item : Value) : Stages Uuid where
  Changed := Permission
  change := do
    let rule ← Work.ofResult (RuleInput.ofValue item)
    insert roleId rule
  touched := fun _ => none
  close := recordInsert caller roleId
  result := Permission.id

/-- One of several permissions is removed, as a change in stages. Nothing is loaded after it. -/
def removeItem (roleId : Uuid) (caller : Caller) (permissionId : Uuid) : Stages Uuid where
  Changed := Permission
  change := erase roleId permissionId
  touched := fun _ => none
  close := recordErase caller roleId
  result := fun _ => permissionId

theorem addOne_eq (roleId : Uuid) (caller : Caller) (item : Value) :
    addOne roleId caller item = (addItem roleId caller item).run := by
  simp only [addOne, Stages.run, addItem, bind_assoc]
  rfl

theorem addItem_noted (roleId : Uuid) (caller : Caller) (item : Value) :
    (addItem roleId caller item).Noted (grantNote roleId caller) := fun _ => record_map _ _

theorem removeItem_noted (roleId : Uuid) (caller : Caller) (permissionId : Uuid) :
    (removeItem roleId caller permissionId).Noted (revokeNote roleId caller) :=
  fun _ => record_map _ _

theorem addItem_silent (roleId : Uuid) (caller : Caller) (item : Value) :
    Work.Silent (addItem roleId caller item).change :=
  Work.Silent.bind (Work.Silent.ofResult _) fun rule => insert_silent roleId rule

/-- To add one of several permissions is to add a permission, once the rule is read. -/
theorem addItem_ok {roleId : Uuid} {caller : Caller} {item : Value} {p : Permission}
    {w w₁ : World} (h : (addItem roleId caller item).change w = (.ok p, w₁)) :
    ∃ rule, RuleInput.ofValue item = .ok rule ∧
      (Command.addPermission roleId rule).Writes w.db p w₁.db := by
  obtain ⟨rule, w₂, hread, h⟩ := Work.bind_ok.mp h
  obtain ⟨hrule, rfl⟩ := Work.ofResult_ok.mp hread
  exact ⟨rule, hrule, (insert_atomic roleId rule).ok h⟩

theorem removeItem_ok {roleId : Uuid} {caller : Caller} {permissionId : Uuid} {p : Permission}
    {w w₁ : World} (h : (removeItem roleId caller permissionId).change w = (.ok p, w₁)) :
    (Command.removePermission roleId permissionId).Writes w.db p w₁.db :=
  (erase_atomic roleId permissionId).ok h

/-- What an item of a bulk operation is recorded as, if it succeeded. -/
def BulkItem.success? (success : Uuid → AuditAction × Uuid) (b : BulkItem) :
    Option (AuditAction × Uuid) :=
  match b.outcome with
  | .ok id => some (success id)
  | .error _ => none

/-- The success of an item, if it has a result and this is one. -/
def itemSuccess (success : Uuid → AuditAction × Uuid) :
    Except Failure BulkItem → List (AuditAction × Uuid)
  | .ok b => (b.success? success).toList
  | .error _ => []

/-- The successes among items that are worked off one by one, up to one that ends the run. -/
def eachSuccesses {ι : Type} (one : ι → Work BulkItem) (success : Uuid → AuditAction × Uuid) :
    List ι → World → List (AuditAction × Uuid)
  | [], _ => []
  | x :: rest, w =>
      match one x w with
      | (.ok b, w₁) => itemSuccess success (.ok b) ++ eachSuccesses one success rest w₁
      | (.error _, _) => []

/-- The recordings of items that are worked off one by one. -/
def eachRecordings {ι : Type} (one : ι → Work BulkItem) (made : ι → World → List Recording) :
    List ι → World → List Recording
  | [] => fun _ => []
  | x :: rest => Work.recordingsThen (one x) (made x) fun _ => eachRecordings one made rest

section

variable {ι : Type} {run : List ι → Work (List BulkItem)} {one : ι → Work BulkItem}
  {made : ι → World → List Recording}

theorem each_recounts (heach : Each run one) (hone : ∀ x, Work.Recounts (one x) (made x))
    (xs : List ι) :
    Work.Recounts (run xs) (eachRecordings one made xs) := by
  induction xs with
  | nil =>
      rw [heach.nil]
      exact Work.Silent.pure []
  | cons x rest ih =>
      rw [heach.cons]
      exact Work.Recounts.bind (hone x) fun _ => ih.bindSilent fun _ => Work.Silent.pure _

/-- The recordings of a bulk run tell of its items that succeeded, in their order. -/
theorem each_tell {caller : Caller} {success : Uuid → AuditAction × Uuid}
    (hone : ∀ x (w : World), w.db.Shaped → (one x w).2.db.Shaped ∧
      List.Forall₂ (fun r told => r.note.Tells caller told) (made x w)
        (itemSuccess success (one x w).1))
    (xs : List ι) : ∀ w : World, w.db.Shaped →
      List.Forall₂ (fun r told => r.note.Tells caller told) (eachRecordings one made xs w)
        (eachSuccesses one success xs w) := by
  induction xs with
  | nil => exact fun _ _ => .nil
  | cons x rest ih =>
      intro w hdb
      obtain ⟨hdb₁, htell⟩ := hone x w hdb
      rcases hrun : one x w with ⟨f | b, w₁⟩
      · rw [hrun] at htell
        rw [eachRecordings, Work.recordingsThen_error hrun, eachSuccesses, hrun]
        exact htell
      · rw [hrun] at hdb₁ htell
        rw [eachRecordings, Work.recordingsThen_ok hrun, eachSuccesses, hrun]
        exact List.rel_append htell (ih w₁ hdb₁)

/-- A bulk run that returns reports its successes. -/
theorem eachSuccesses_of_ok (heach : Each run one) (success : Uuid → AuditAction × Uuid)
    (xs : List ι) : ∀ {w w' : World} {bs : List BulkItem}, run xs w = (.ok bs, w') →
      eachSuccesses one success xs w = bs.filterMap fun b => b.success? success := by
  induction xs with
  | nil =>
      intro w w' bs h
      rw [heach.nil] at h
      cases h
      rfl
  | cons x rest ih =>
      intro w w' bs h
      rw [heach.cons] at h
      obtain ⟨b, w₁, hone, h⟩ := Work.bind_ok.mp h
      obtain ⟨more, w₂, hrest, h⟩ := Work.bind_ok.mp h
      cases h
      rw [eachSuccesses, hone]
      dsimp only
      rw [ih hrest, itemSuccess, List.filterMap_cons]
      cases b.success? success <;> rfl

end

theorem bulkItem_recounts (item : Value) {t : Work Uuid} {made : World → List Recording}
    (ht : Work.Recounts t made) : Work.Recounts (bulkItem item t) made := by
  refine ht.attempt.bindSilent fun r => ?_
  rcases r with (why | why) | id
  · exact Work.Silent.pure _
  · exact Work.Silent.fail _
  · exact Work.Silent.pure _

/-- An item is recorded as its outcome says. -/
theorem bulkItem_tells {roleId : Uuid} {fault : Option Fault} {caller : Caller}
    {success : Uuid → AuditAction × Uuid} {s : Stages Uuid}
    {note : s.Changed → Except Fault AuditNote} (hanswers : Answers roleId fault s.run) {w : World}
    (hdb : w.db.Shaped)
    (htell : List.Forall₂ (fun r told => r.note.Tells caller told) (s.recordings note w)
      (Stages.successOf success (s.run w).1)) (item : Value) :
    (bulkItem item s.run w).2.db.Shaped ∧
      List.Forall₂ (fun r told => r.note.Tells caller told) (s.recordings note w)
        (itemSuccess success (bulkItem item s.run w).1) := by
  have hshaped := (hanswers w hdb).1.only.shaped
  rcases hrun : s.run w with ⟨(why | why) | id, w₁⟩ <;> rw [hrun] at htell hshaped
  · rw [bulkItem_of_refused item hrun]
    exact ⟨hshaped, htell⟩
  · rw [bulkItem_of_broke item hrun]
    exact ⟨hshaped, htell⟩
  · rw [bulkItem_of_ok item hrun]
    exact ⟨hshaped, htell⟩

/-! ## Operations -/

namespace Operation

/-- The recordings of permissions that are added, if there are items to go through. -/
def addRecordings (roleId : Uuid) (caller : Caller) :
    Except Fault (List Value) → World → List Recording
  | .ok items =>
      eachRecordings (fun item => bulkItem item (addOne roleId caller item))
        (fun item => (addItem roleId caller item).recordings (grantNote roleId caller)) items
  | .error _ => fun _ => []

/-- The recordings of an operation: one for a command that makes its change, and for a bulk
operation those of its items. -/
def recordings (caller : Caller) : Operation → World → List Recording
  | one c => (c.stages caller).recordings (c.note caller)
  | addPermissions roleId rules => addRecordings roleId caller rules.items
  | removePermissions roleId ids =>
      eachRecordings (fun id => bulkItem (.text id.text) (removeOne roleId caller id))
        (fun id => (removeItem roleId caller id).recordings (revokeNote roleId caller)) ids

/-- The successes of permissions that are added, if there are items to go through. -/
def addSuccesses (roleId : Uuid) (caller : Caller) :
    Except Fault (List Value) → World → List (AuditAction × Uuid)
  | .ok items =>
      eachSuccesses (fun item => bulkItem item (addOne roleId caller item))
        (fun _ => (.grantPermission, roleId)) items
  | .error _ => fun _ => []

/-- What an operation succeeds in: a command as a whole, and of a bulk operation each item by
itself. -/
def successes (caller : Caller) : Operation → World → List (AuditAction × Uuid)
  | one c, w => Stages.successOf c.success (c.execute caller w).1
  | addPermissions roleId rules, w => addSuccesses roleId caller rules.items w
  | removePermissions roleId ids, w =>
      eachSuccesses (fun id => bulkItem (.text id.text) (removeOne roleId caller id))
        (fun id => (.revokePermission, id)) ids w

/-- What the caller is told that an operation succeeded in. -/
def reported : (op : Operation) → op.Result → List (AuditAction × Uuid)
  | one c, result => [c.success result]
  | addPermissions roleId _, items =>
      List.filterMap (fun b => b.success? fun _ => (.grantPermission, roleId)) items
  | removePermissions _ _, items =>
      List.filterMap (fun b => b.success? fun id => (.revokePermission, id)) items

theorem execute_recounts (caller : Caller) (op : Operation) :
    Work.Recounts (op.execute caller) (op.recordings caller) := by
  cases op with
  | one c =>
      show Work.Recounts (c.execute caller) _
      rw [c.execute_eq caller]
      exact Stages.run_recounts (c.stages_silent caller) (c.stages_noted caller)
  | addPermissions roleId rules =>
      have hone : ∀ item, Work.Recounts (bulkItem item (addOne roleId caller item))
          ((addItem roleId caller item).recordings (grantNote roleId caller)) := by
        intro item
        rw [addOne_eq]
        exact bulkItem_recounts item
          (Stages.run_recounts (addItem_silent roleId caller item) (addItem_noted roleId caller item))
      show Work.Recounts (Mutation.addPermissions roleId rules caller)
        (addRecordings roleId caller rules.items)
      unfold Mutation.addPermissions
      cases rules.items with
      | error e => exact Work.Silent.fail (.broke e)
      | ok items =>
          exact (each_recounts (addEach_each roleId caller) hone items).bindSilent fun _ =>
            (reload_silent (some roleId)).bindSilent fun _ => Work.Silent.pure _
  | removePermissions roleId ids =>
      have hone : ∀ id : Uuid, Work.Recounts (bulkItem (.text id.text) (removeOne roleId caller id))
          ((removeItem roleId caller id).recordings (revokeNote roleId caller)) := fun id =>
        bulkItem_recounts _
          (Stages.run_recounts (erase_silent roleId id) (removeItem_noted roleId caller id))
      exact (each_recounts (removeEach_each roleId caller) hone ids).bindSilent fun _ =>
        (reload_silent (some roleId)).bindSilent fun _ => Work.Silent.pure _

theorem addItem_tells (roleId : Uuid) (caller : Caller) (item : Value) {w : World}
    (hdb : w.db.Shaped) :
    (bulkItem item (addOne roleId caller item) w).2.db.Shaped ∧
      List.Forall₂ (fun r told => r.note.Tells caller told)
        ((addItem roleId caller item).recordings (grantNote roleId caller) w)
        (itemSuccess (fun _ => (.grantPermission, roleId))
          (bulkItem item (addOne roleId caller item) w).1) := by
  have hanswers := addOne_answers roleId caller item
  rw [addOne_eq] at hanswers ⊢
  refine bulkItem_tells hanswers hdb ?_ item
  refine Stages.recordings_tell (addItem_noted roleId caller item) (fun hchange => ?_)
    fun hchange hnote => ?_
  · obtain ⟨rule, -, hwrites⟩ := addItem_ok hchange
    exact recordInsert_logs caller roleId (Command.addPermission_shaped hwrites)
  · obtain ⟨snapshot, -, rfl⟩ := Fault.map_ok.mp hnote
    exact ⟨rfl, rfl, rfl⟩

theorem removeItem_tells (roleId : Uuid) (caller : Caller) (id : Uuid) {w : World}
    (hdb : w.db.Shaped) :
    (bulkItem (.text id.text) (removeOne roleId caller id) w).2.db.Shaped ∧
      List.Forall₂ (fun r told => r.note.Tells caller told)
        ((removeItem roleId caller id).recordings (revokeNote roleId caller) w)
        (itemSuccess (fun id => (.revokePermission, id))
          (bulkItem (.text id.text) (removeOne roleId caller id) w).1) := by
  have hanswers : Answers roleId none (removeItem roleId caller id).run :=
    removeOne_answers roleId caller id
  refine bulkItem_tells hanswers hdb ?_ _
  refine Stages.recordings_tell (removeItem_noted roleId caller id) (fun hchange => ?_)
    fun hchange hnote => ?_
  · exact recordErase_logs caller roleId
      (Command.removePermission_shaped hdb.rows (removeItem_ok hchange))
  · obtain ⟨snapshot, -, rfl⟩ := Fault.map_ok.mp hnote
    obtain ⟨-, hid, -⟩ := removeItem_ok hchange
    exact ⟨rfl, congrArg (fun id : Uuid => some id.text) hid, rfl⟩

/-- The recordings of an operation are those of its successes, one for each and in their order. -/
theorem recordings_tell (caller : Caller) (op : Operation) {w : World} (hdb : w.db.Shaped) :
    List.Forall₂ (fun r told => r.note.Tells caller told) (op.recordings caller w)
      (op.successes caller w) := by
  cases op with
  | one c =>
      show List.Forall₂ _ _ (Stages.successOf c.success (c.execute caller w).1)
      rw [c.execute_eq caller]
      exact Stages.recordings_tell (c.stages_noted caller) ((c.stages_whole caller).closes hdb.rows)
        fun hchange hnote => c.note_tells ((c.stages_whole caller).ok hchange).1 hnote
  | addPermissions roleId rules =>
      show List.Forall₂ _ (addRecordings roleId caller rules.items w)
        (addSuccesses roleId caller rules.items w)
      cases rules.items with
      | error e => exact .nil
      | ok items =>
          exact each_tell (fun item _ hdb => addItem_tells roleId caller item hdb) items w hdb
  | removePermissions roleId ids =>
      exact each_tell (fun id _ hdb => removeItem_tells roleId caller id hdb) ids w hdb

/-- An operation that returns reports what it succeeded in. -/
theorem successes_of_ok {caller : Caller} {op : Operation} {w w' : World} {result : op.Result}
    (h : op.execute caller w = (.ok result, w')) : op.successes caller w = op.reported result := by
  cases op with
  | one c =>
      show Stages.successOf c.success (c.execute caller w).1 = _
      rw [show c.execute caller w = (.ok result, w') from h]
      rfl
  | addPermissions roleId rules =>
      obtain ⟨items, w₁, hitems, h⟩ := Work.bind_ok.mp h
      obtain ⟨hread, rfl⟩ := Work.ofFault_ok.mp hitems
      obtain ⟨bs, w₂, hrun, h⟩ := Work.bind_ok.mp h
      obtain ⟨_, _, -, h⟩ := Work.bind_ok.mp h
      obtain ⟨rfl, -⟩ := Work.pure_ok.mp h
      show addSuccesses roleId caller rules.items w = _
      rw [hread]
      exact eachSuccesses_of_ok (addEach_each roleId caller) _ items hrun
  | removePermissions roleId ids =>
      obtain ⟨bs, w₂, hrun, h⟩ := Work.bind_ok.mp h
      obtain ⟨_, _, -, h⟩ := Work.bind_ok.mp h
      obtain ⟨rfl, -⟩ := Work.pure_ok.mp h
      exact eachSuccesses_of_ok (removeEach_each roleId caller) _ ids hrun

end Operation

end Mutation

/-! ## Runs -/

/-- One operation of a run: on whose behalf it is carried out, and the world in which it starts. -/
structure Deed where
  op : Mutation.Operation
  caller : Caller
  world : World

namespace Deed

/-- What the operation comes to in a world: its result or its failure, and the world afterwards. -/
def endsIn (d : Deed) (w : World) : Except Failure d.op.Result × World := d.op.execute d.caller w

/-- The fates of the steps that the operation takes in a world, apart from its audit transactions. -/
def fatesIn (d : Deed) (w : World) : List Fate :=
  w.fatesBeside (d.op.recordings d.caller w) (d.endsIn w).2

/-- What the operation records. -/
def recordings (d : Deed) : List Recording := d.op.recordings d.caller d.world

/-- The entries that the operation leaves in the log. -/
def entries (d : Deed) : List AuditEntry := d.recordings.filterMap Recording.entry?

/-- What the operation succeeds in. -/
def successes (d : Deed) : List (AuditAction × Uuid) := d.op.successes d.caller d.world

end Deed

/-- A run from one world to another, with the operations that are carried out: each ends as it may,
and so do the reloads after it. Between them time may pass, identifiers may be drawn, and which
steps of the database fail may change. -/
inductive Trail : World → List Deed → World → Prop where
  | start (w : World) : Trail w [] w
  | meanwhile {w w₁ w₂ : World} {deeds : List Deed} (before : Trail w deeds w₁)
      (same : w₂.state = w₁.state) : Trail w deeds w₂
  | step {w w₁ : World} {deeds : List Deed} (before : Trail w deeds w₁) (op : Mutation.Operation)
      (caller : Caller) : Trail w (deeds ++ [⟨op, caller, w₁⟩]) (op.execute caller w₁).2

/-- A recording accounts for a success: it leaves an entry unless something is in its way, and the
entry states what was done, to which thing, and by whom. -/
structure Recording.AccountsFor (r : Recording) (caller : Caller)
    (success : AuditAction × Uuid) : Prop where
  written : r.entry?.isSome = true ↔ r.Undisturbed
  entry : ∀ e, r.entry? = some e →
    e.action = success.1.name ∧ e.entityId = some success.2.text ∧ e.caller = caller

theorem Recording.accountsFor_of_tells {r : Recording} {caller : Caller}
    {success : AuditAction × Uuid} (h : r.note.Tells caller success) :
    r.AccountsFor caller success := by
  refine ⟨r.entry?_isSome_iff, fun e he => ?_⟩
  obtain ⟨haction, hid, hcaller, -⟩ := Recording.entry?_some he
  rw [haction, hid, hcaller, h.action, h.entityId, h.caller]
  exact ⟨rfl, rfl, rfl⟩

namespace Trail

variable {w w' : World} {deeds : List Deed}

theorem shaped (h : Trail w deeds w') (hdb : w.db.Shaped) : w'.db.Shaped := by
  induction h with
  | start => exact hdb
  | meanwhile _ same ih =>
      rw [(World.state_eq.mp same).1]
      exact ih
  | step _ op caller ih =>
      rw [op.execute_eq caller]
      exact (op.stages_tracked caller).shaped ih

/-- Every operation of a run starts from tables in shape. -/
theorem shaped_at (h : Trail w deeds w') (hdb : w.db.Shaped) :
    ∀ d ∈ deeds, d.world.db.Shaped := by
  induction h with
  | start => exact fun d hd => absurd hd List.not_mem_nil
  | meanwhile _ _ ih => exact ih
  | step before op caller ih =>
      intro d hd
      rcases List.mem_append.mp hd with hd | hd
      · exact ih d hd
      · rw [List.mem_singleton.mp hd]
        exact before.shaped hdb

/-- The log after a run is the log before, and then what the operations have left in it. -/
theorem log (h : Trail w deeds w') :
    w'.db.auditLog = w.db.auditLog ++ deeds.flatMap Deed.entries := by
  induction h with
  | start => exact (List.append_nil _).symm
  | meanwhile _ same ih =>
      rw [(World.state_eq.mp same).1]
      exact ih
  | step before op caller ih =>
      rw [(op.execute_recounts caller).log, ih, List.flatMap_append, List.flatMap_singleton,
        List.append_assoc]
      rfl

/-- The log after a run is the log before and then, in the order in which they were made, one entry
for each success whose audit transaction was not disturbed, with the caller of its operation. The
successes are those that the operation reports, if it returns. And whatever becomes of the audit
transactions of an operation, its result is the same, and so are the roles, permissions, accounts and
the cache after it. -/
theorem one_entry_each (hdb : w.db.Shaped) (h : Trail w deeds w') :
    w'.db.auditLog = w.db.auditLog ++ deeds.flatMap Deed.entries ∧
    ∀ d ∈ deeds,
      List.Forall₂ (fun r success => r.AccountsFor d.caller success) d.recordings d.successes ∧
      (∀ result, (d.endsIn d.world).1 = .ok result → d.successes = d.op.reported result) ∧
      ∀ other, d.world.Alike other → Agree (d.fatesIn d.world) (d.fatesIn other) →
        (d.endsIn other).1 = (d.endsIn d.world).1 ∧
        (d.endsIn d.world).2.Alike (d.endsIn other).2 := by
  refine ⟨h.log, fun d hd => ⟨?_, fun result hresult => ?_, fun other halike hagree => ?_⟩⟩
  · unfold Deed.recordings Deed.successes
    exact (d.op.recordings_tell d.caller (h.shaped_at hdb d hd)).imp fun _ _ =>
      Recording.accountsFor_of_tells
  · exact Mutation.Operation.successes_of_ok (Prod.ext hresult rfl)
  · unfold Deed.fatesIn Deed.endsIn at hagree
    obtain ⟨hresult, hafter, -⟩ := (d.op.execute_recounts d.caller).same halike hagree
    unfold Deed.endsIn
    exact ⟨hresult, hafter⟩

/-- The clerks are deleted, and the entry about it cannot be inserted: it is missing from the log,
and nothing else is different from when it can be. -/
theorem one_entry_each_clerks :
    ∃ d : Deed, ∃ w' : World, d.world = World.sample (.on [.auditInsert]) ∧
      Trail d.world [d] w' ∧ d.successes = [(.deleteRole, World.clerks)] ∧ w'.db.auditLog = [] ∧
      (d.endsIn (World.sample .none)).1 = (d.endsIn d.world).1 ∧
      (d.endsIn d.world).2.Alike (d.endsIn (World.sample .none)).2 ∧
      (d.endsIn (World.sample .none)).2.db.auditLog.length = 1 := by
  have htrail := Trail.step (Trail.start (World.sample (.on [.auditInsert])))
    (.one (.deleteRole World.clerks)) {}
  obtain ⟨hlog, hdeeds⟩ := one_entry_each (World.sample_shaped _) htrail
  obtain ⟨-, -, hothers⟩ := hdeeds _ (List.mem_singleton_self _)
  have hlost : (Deed.entries ⟨.one (.deleteRole World.clerks), {},
      World.sample (.on [.auditInsert])⟩).length = 0 := by decide +kernel
  have hsame := hothers (World.sample .none) ⟨rfl, rfl, rfl, rfl, rfl, rfl⟩ (by decide +kernel)
  refine ⟨_, _, rfl, htrail, by decide +kernel, ?_, hsame.1, hsame.2, by decide +kernel⟩
  rw [hlog, List.nil_append, List.flatMap_singleton, List.length_eq_zero_iff.mp hlost]
  rfl

end Trail

end Warrant
