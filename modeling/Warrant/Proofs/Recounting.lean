import Warrant.Mutation.Accounts
import Warrant.Mutation.Permissions
import Warrant.Mutation.Roles
import Warrant.Proofs.Recording

/-!
# Operations and what they give to the log

An operation that changes something gives notes to the log on its way, and each
note becomes an entry if its transaction succeeds. `Recording` is one such
moment: a note, and the world in which it is recorded. Two things are said of
an operation together with the recordings that it comes to. The log afterwards
is the log before and then the entries of the recordings, in their order. And
nothing else depends on what becomes of the recordings.

The second is a statement about two worlds that are alike in everything but the
log and the fate of their steps. An audit transaction that fails early takes
fewer steps than one that succeeds, so the steps after it do not have the same
numbers in both worlds. What has to be the same is therefore not the fault plan
but the fates that the plan deals out, one after the other, to the steps beside
the recordings. As far as these agree, the operation has the same result and
leaves worlds that are alike.

`Recounts` says both, and it is closed under the parts that operations are built
from. Everything apart from recording itself is silent: it recounts nothing.
-/

namespace Warrant

/-! ## Recordings -/

namespace Database

/-- The same tables with another log. -/
def withLog (db : Database) (log : List AuditEntry) : Database := { db with auditLog := log }

end Database

/-- A note, and the world in which it is recorded. -/
structure Recording where
  note : AuditNote
  world : World

namespace Recording

/-- The world after a recording. -/
def after (r : Recording) : World := (Audit.record r.note r.world).2

/-- The entry that a recording leaves in the log, if it could be written. -/
def entry? (r : Recording) : Option AuditEntry :=
  match (Audit.record r.note r.world).1 with
  | .ok (some entry) => entry.stored.toOption
  | _ => none

/-- A note becomes one more entry in the log, or is lost. -/
theorem written_or_lost (r : Recording) :
    (∃ entry row, Audit.append r.note r.world = (.ok entry, r.after) ∧ entry.stored = .ok row ∧
      r.entry? = some row ∧ r.after.db = r.world.db.withLog (r.world.db.auditLog ++ [row])) ∨
    (∃ f, Audit.append r.note r.world = (.error f, r.after) ∧ r.entry? = none ∧
      r.after.db = r.world.db) := by
  unfold after entry? Audit.record
  rw [Work.bind_apply, Work.attempt_apply]
  rcases hrun : Audit.append r.note r.world with ⟨f | entry, w'⟩
  · exact Or.inr ⟨f, rfl, rfl, Audit.append_error hrun⟩
  · obtain ⟨row, hrow, hdb⟩ := Audit.append_ok hrun
    refine Or.inl ⟨entry, row, rfl, hrow, ?_, hdb⟩
    show entry.stored.toOption = some row
    rw [hrow]
    rfl

theorem after_log (r : Recording) :
    r.after.db.auditLog = r.world.db.auditLog ++ [r].filterMap entry? := by
  rw [List.filterMap_cons]
  rcases r.written_or_lost with ⟨entry, row, -, -, hentry, hdb⟩ | ⟨f, -, hentry, hdb⟩
  · rw [hentry, hdb]
    rfl
  · rw [hentry, hdb]
    exact (List.append_nil _).symm

/-- A recording changes the log and no other table. -/
theorem after_withLog (r : Recording) : ∃ log, r.after.db = r.world.db.withLog log := by
  rcases r.written_or_lost with ⟨_, _, -, -, -, hdb⟩ | ⟨_, -, -, hdb⟩
  · exact ⟨_, hdb⟩
  · exact ⟨r.world.db.auditLog, hdb⟩

/-- An entry says what the note said, in its stored form. -/
theorem entry?_some {r : Recording} {e : AuditEntry} (h : r.entry? = some e) :
    e.action = r.note.action.name ∧ e.entityId = r.note.entityId ∧ e.caller = r.note.caller ∧
      r.note.changes.stored = .ok e.changes := by
  rcases r.written_or_lost with ⟨entry, row, hrun, hrow, hentry, -⟩ | ⟨f, -, hentry, -⟩
  · cases h.symm.trans hentry
    obtain ⟨composed, w₁, hcompose, hrun⟩ := Work.bind_ok.mp hrun
    obtain ⟨_, w₂, -, hrun⟩ := Work.bind_ok.mp hrun
    obtain ⟨rfl, -⟩ := Work.pure_ok.mp hrun
    obtain ⟨metadata, next, written, -, -, -, rfl, -⟩ := Audit.compose_ok_iff.mp hcompose
    obtain ⟨changes, hchanges, hrow⟩ := Fault.bind_ok.mp hrow
    obtain ⟨stored, -, hrow⟩ := Fault.bind_ok.mp hrow
    cases hrow
    exact ⟨rfl, rfl, rfl, hchanges⟩
  · cases h.symm.trans hentry

/-- Nothing is in the way of a recording: the clock runs, the note can be stored, the next
identifier is free, and none of the three steps fails. -/
structure Undisturbed (r : Recording) : Prop where
  clock : r.world.clock.Runs
  storable : r.note.Storable
  fresh : r.world.db.hasEntry (Work.freshId (r.world.issued + 1)) = false
  connect : r.world.faults r.world.steps .connect = false
  insert : r.world.faults (r.world.steps + 1) .auditInsert = false
  commit : r.world.faults (r.world.steps + 2) .commit = false

/-- A note becomes an entry if nothing is in the way, and only then. -/
theorem entry?_isSome_iff (r : Recording) : r.entry?.isSome = true ↔ r.Undisturbed := by
  have happend : r.entry?.isSome = true ↔
      ∃ entry w', Audit.append r.note r.world = (.ok entry, w') := by
    rcases r.written_or_lost with ⟨entry, row, hrun, -, hentry, -⟩ | ⟨f, hrun, hentry, -⟩
    · simp only [hentry, hrun, Option.isSome_some, Prod.mk.injEq, Except.ok.injEq,
        exists_and_left, exists_eq', and_true]
    · simp only [hentry, hrun, Option.isSome_none, Prod.mk.injEq, reduceCtorEq, false_and,
        exists_false, Bool.false_eq_true]
  rw [happend, Audit.append_ok_iff]
  constructor
  · rintro ⟨hclock, hstorable, hfresh, hconnect, hinsert, hcommit⟩
    exact ⟨hclock, hstorable, hfresh, hconnect, hinsert, hcommit⟩
  · rintro ⟨hclock, hstorable, hfresh, hconnect, hinsert, hcommit⟩
    exact ⟨hclock, hstorable, hfresh, hconnect, hinsert, hcommit⟩

/-- If nothing is in the way, the log has one entry more. -/
theorem Undisturbed.written {r : Recording} (h : r.Undisturbed) :
    ∃ e, r.entry? = some e ∧ r.after.db = r.world.db.withLog (r.world.db.auditLog ++ [e]) := by
  have hsome := r.entry?_isSome_iff.mpr h
  rcases r.written_or_lost with ⟨_, row, -, -, hentry, hdb⟩ | ⟨_, -, hentry, -⟩
  · exact ⟨row, hentry, hdb⟩
  · rw [hentry] at hsome
    cases hsome

end Recording

/-! ## Worlds that are alike -/

/-- Whether a step would fail, by its kind: the fate of one step. -/
abbrev Fate := DbStep → Bool

theorem DbStep.mem_all (s : DbStep) : s ∈ all := by cases s <;> decide

instance : DecidableEq Fate := fun fate fate' =>
  decidable_of_iff (∀ s ∈ DbStep.all, fate s = fate' s)
    ⟨fun h => funext fun s => h s s.mem_all, fun h s _ => congrFun h s⟩

/-- Two courses of fates do not differ, as far as both of them go. -/
def Agree (fates fates' : List Fate) : Prop := fates <+: fates' ∨ fates' <+: fates

instance (fates fates' : List Fate) : Decidable (Agree fates fates') :=
  inferInstanceAs (Decidable (_ ∨ _))

namespace World

/-- Two worlds that are the same apart from the log: other entries may be in it, and which steps of
the database fail may be different. -/
structure Alike (w w' : World) : Prop where
  roles : w'.db.roles = w.db.roles
  permissions : w'.db.permissions = w.db.permissions
  accounts : w'.db.accounts = w.db.accounts
  cache : w'.cache = w.cache
  clock : w'.clock = w.clock
  issued : w'.issued = w.issued

/-- The fate of the step with a number, as far as it is not the step that inserts an entry. -/
def fate (w : World) (n : Nat) : Fate := fun s => s != .auditInsert && w.faults n s

/-- The fates of the steps from one world to a later one. -/
def fatesUntil (w e : World) : List Fate :=
  (List.range' w.steps (e.steps - w.steps)).map w.fate

/-- The fates of the steps from one world to a later one, apart from those of recordings. -/
def fatesBeside (w : World) : List Recording → World → List Fate
  | [], e => w.fatesUntil e
  | r :: rest, e => w.fatesUntil r.world ++ r.after.fatesBeside rest e

/-- A later world under the same fault plan. -/
structure Onward (w w' : World) : Prop where
  faults : w'.faults = w.faults
  steps : w.steps ≤ w'.steps

/-- Recordings one after the other on the way from one world to another. -/
def Passes (w : World) : List Recording → World → Prop
  | [], e => w.Onward e
  | r :: rest, e => w.Onward r.world ∧ r.after.Passes rest e

theorem Alike.refl (w : World) : w.Alike w := ⟨rfl, rfl, rfl, rfl, rfl, rfl⟩

theorem Alike.symm {w w' : World} (h : w.Alike w') : w'.Alike w :=
  ⟨h.roles.symm, h.permissions.symm, h.accounts.symm, h.cache.symm, h.clock.symm, h.issued.symm⟩

theorem Alike.trans {w₁ w₂ w₃ : World} (h : w₁.Alike w₂) (h' : w₂.Alike w₃) : w₁.Alike w₃ :=
  ⟨h'.roles.trans h.roles, h'.permissions.trans h.permissions, h'.accounts.trans h.accounts,
    h'.cache.trans h.cache, h'.clock.trans h.clock, h'.issued.trans h.issued⟩

theorem alike_of_db {w w' : World} {log : List AuditEntry} (hdb : w'.db = w.db.withLog log)
    (hcache : w'.cache = w.cache) (hclock : w'.clock = w.clock) (hissued : w'.issued = w.issued) :
    w.Alike w' := by
  refine ⟨?_, ?_, ?_, hcache, hclock, hissued⟩ <;> rw [hdb] <;> rfl

theorem Alike.db {w w' : World} (h : w.Alike w') : w'.db = w.db.withLog w'.db.auditLog := by
  rw [Database.withLog, ← h.roles, ← h.permissions, ← h.accounts]

theorem Onward.refl (w : World) : w.Onward w := ⟨rfl, Nat.le_refl _⟩

theorem Onward.trans {w₁ w₂ w₃ : World} (h : w₁.Onward w₂) (h' : w₂.Onward w₃) : w₁.Onward w₃ :=
  ⟨h'.faults.trans h.faults, Nat.le_trans h.steps h'.steps⟩

theorem fatesUntil_of_steps_eq {w e : World} (h : e.steps = w.steps) : w.fatesUntil e = [] := by
  rw [fatesUntil, h, Nat.sub_self]
  rfl

theorem fatesUntil_append {w w₁ e : World} (h : w.Onward w₁) (h' : w₁.Onward e) :
    w.fatesUntil e = w.fatesUntil w₁ ++ w₁.fatesUntil e := by
  have hsteps := h.steps
  have hsteps' := h'.steps
  have hmid : w₁.steps = w.steps + 1 * (w₁.steps - w.steps) := by omega
  have hall : e.steps - w.steps = w₁.steps - w.steps + (e.steps - w₁.steps) := by omega
  have hfate : w₁.fate = w.fate := by
    unfold fate
    rw [h.faults]
  simp only [fatesUntil]
  rw [hfate, ← List.map_append, hall, ← List.range'_append, ← hmid]

theorem Passes.append {w w₁ e : World} {rs rs' : List Recording} (h : w.Passes rs w₁)
    (h' : w₁.Passes rs' e) : w.Passes (rs ++ rs') e := by
  induction rs generalizing w with
  | nil =>
      cases rs' with
      | nil => exact Onward.trans h h'
      | cons r rest => exact ⟨Onward.trans h h'.1, h'.2⟩
  | cons r rest ih => exact ⟨h.1, ih h.2⟩

theorem fatesBeside_append {w w₁ e : World} {rs rs' : List Recording} (h : w.Passes rs w₁)
    (h' : w₁.Passes rs' e) :
    w.fatesBeside (rs ++ rs') e = w.fatesBeside rs w₁ ++ w₁.fatesBeside rs' e := by
  induction rs generalizing w with
  | nil =>
      cases rs' with
      | nil => exact fatesUntil_append h h'
      | cons r rest =>
          show w.fatesUntil r.world ++ _ = w.fatesUntil w₁ ++ (w₁.fatesUntil r.world ++ _)
          rw [fatesUntil_append h h'.1, List.append_assoc]
  | cons r rest ih =>
      show w.fatesUntil r.world ++ r.after.fatesBeside (rest ++ rs') e =
        w.fatesUntil r.world ++ r.after.fatesBeside rest w₁ ++ _
      rw [ih h.2, List.append_assoc]

end World

theorem Agree.left {l m l' m' : List Fate} (h : Agree (l ++ m) (l' ++ m')) : Agree l l' := by
  rcases h with h | h
  · exact List.prefix_or_prefix_of_prefix ((List.prefix_append l m).trans h)
      (List.prefix_append l' m')
  · exact (List.prefix_or_prefix_of_prefix ((List.prefix_append l' m').trans h)
      (List.prefix_append l m)).symm

theorem Agree.right {l m m' : List Fate} (h : Agree (l ++ m) (l ++ m')) : Agree m m' :=
  h.imp (List.prefix_append_right_inj l).mp (List.prefix_append_right_inj l).mp

theorem Agree.head {f f' : Fate} (h : Agree [f] [f']) : f = f' := by
  rcases h with h | h
  · exact (List.cons_prefix_cons.mp h).1
  · exact (List.cons_prefix_cons.mp h).1.symm

/-! ## What an operation recounts -/

namespace Work

variable {α β : Type}

/-- The recordings of one operation, and then those of another that knows its result. -/
def recordingsThen (t : Work α) (made : World → List Recording)
    (next : α → World → List Recording) (w : World) : List Recording :=
  made w ++
    match t w with
    | (.ok a, w₁) => next a w₁
    | (.error _, _) => []

/-- An operation recounts what it does: the log grows by the entries of its recordings, and apart
from that nothing depends on what becomes of them. -/
structure Recounts (t : Work α) (made : World → List Recording) : Prop where
  passes : ∀ w : World, w.Passes (made w) (t w).2
  log : ∀ w : World, (t w).2.db.auditLog = w.db.auditLog ++ (made w).filterMap Recording.entry?
  same : ∀ {w w' : World}, w.Alike w' →
    Agree (w.fatesBeside (made w) (t w).2) (w'.fatesBeside (made w') (t w').2) →
    (t w').1 = (t w).1 ∧ (t w).2.Alike (t w').2 ∧
      w'.fatesBeside (made w') (t w').2 = w.fatesBeside (made w) (t w).2

/-- An operation without recordings. -/
def Silent (t : Work α) : Prop := Recounts t fun _ => []

theorem Recounts.congr {t : Work α} {made made' : World → List Recording} (h : Recounts t made)
    (hmade : ∀ w, made' w = made w) : Recounts t made' := by
  rw [funext hmade]
  exact h

theorem recordingsThen_ok {t : Work α} {made : World → List Recording}
    {next : α → World → List Recording} {w w₁ : World} {a : α} (h : t w = (.ok a, w₁)) :
    recordingsThen t made next w = made w ++ next a w₁ := by
  rw [recordingsThen, h]

theorem recordingsThen_error {t : Work α} {made : World → List Recording}
    {next : α → World → List Recording} {w w₁ : World} {f : Failure} (h : t w = (.error f, w₁)) :
    recordingsThen t made next w = made w := by
  rw [recordingsThen, h]
  exact List.append_nil _

section

variable {t : Work α} {made : World → List Recording} {next : α → Work β}
  {more : α → World → List Recording}

/-- The fates of the steps that an operation takes after another whose result it knows, apart from
its recordings. -/
def fatesThen (t : Work α) (next : α → Work β) (more : α → World → List Recording) (w : World) :
    List Fate :=
  match t w with
  | (.ok a, w₁) => w₁.fatesBeside (more a w₁) (next a w₁).2
  | (.error _, _) => []

variable (ht : Recounts t made) (hnext : ∀ a, Recounts (next a) (more a))

include ht hnext

theorem Recounts.bind_passes (w : World) :
    w.Passes (recordingsThen t made more w) ((t >>= next) w).2 := by
  have hpass := ht.passes w
  rcases hrun : t w with ⟨f | a, w₁⟩ <;> rw [hrun] at hpass
  · rw [bind_of_error hrun, recordingsThen_error hrun]
    exact hpass
  · rw [bind_of_ok hrun, recordingsThen_ok hrun]
    exact hpass.append ((hnext a).passes w₁)

theorem Recounts.bind_log (w : World) :
    ((t >>= next) w).2.db.auditLog =
      w.db.auditLog ++ (recordingsThen t made more w).filterMap Recording.entry? := by
  have hlog := ht.log w
  rcases hrun : t w with ⟨f | a, w₁⟩ <;> rw [hrun] at hlog
  · rw [bind_of_error hrun, recordingsThen_error hrun]
    exact hlog
  · rw [bind_of_ok hrun, recordingsThen_ok hrun, (hnext a).log w₁, hlog, List.filterMap_append,
      List.append_assoc]

theorem Recounts.bind_fates (w : World) :
    w.fatesBeside (recordingsThen t made more w) ((t >>= next) w).2 =
      w.fatesBeside (made w) (t w).2 ++ fatesThen t next more w := by
  have hpass := ht.passes w
  rw [fatesThen]
  rcases hrun : t w with ⟨f | a, w₁⟩ <;> rw [hrun] at hpass
  · rw [bind_of_error hrun, recordingsThen_error hrun]
    exact (List.append_nil _).symm
  · rw [bind_of_ok hrun, recordingsThen_ok hrun]
    exact World.fatesBeside_append hpass ((hnext a).passes w₁)

/-- What is recounted by one operation and by the next is recounted by both. The first comes to the
same in worlds that are alike, so the second is given the same to go on. -/
theorem Recounts.bind : Recounts (t >>= next) (recordingsThen t made more) := by
  refine ⟨bind_passes ht hnext, bind_log ht hnext, fun {w w'} halike hagree => ?_⟩
  rw [bind_fates ht hnext w, bind_fates ht hnext w'] at hagree
  obtain ⟨hresult, hafter, hfates⟩ := ht.same halike hagree.left
  rw [hfates] at hagree
  have hrest := hagree.right
  rw [bind_fates ht hnext w, bind_fates ht hnext w', hfates]
  rcases hrun : t w with ⟨f | a, w₁⟩ <;> rcases hrun' : t w' with ⟨f' | a', w₁'⟩ <;>
    rw [hrun, hrun'] at hresult hafter <;> cases hresult
  · rw [bind_of_error hrun, bind_of_error hrun', fatesThen, fatesThen, hrun, hrun']
    exact ⟨rfl, hafter, rfl⟩
  · rw [fatesThen, fatesThen, hrun, hrun'] at hrest
    obtain ⟨hresult₂, hafter₂, hfates₂⟩ := (hnext a).same hafter hrest
    rw [bind_of_ok hrun, bind_of_ok hrun', fatesThen, fatesThen, hrun, hrun']
    exact ⟨hresult₂, hafter₂, congrArg _ hfates₂⟩

end

theorem Recounts.attempt {t : Work α} {made : World → List Recording} (h : Recounts t made) :
    Recounts (Work.attempt t) made := by
  refine ⟨h.passes, h.log, fun halike hagree => ?_⟩
  obtain ⟨hresult, hafter⟩ := h.same halike hagree
  exact ⟨congrArg Except.ok hresult, hafter⟩

theorem Recounts.asMutation {change : Change} {t : Work α} {made : World → List Recording}
    (h : Recounts t made) : Recounts (Work.asMutation change t) made := by
  -- Only the result is another one, and it is made from the result.
  have hworld : ∀ w, (Work.asMutation change t w).2 = (t w).2 := by
    intro w
    unfold Work.asMutation
    split
    · next why after hrun => rw [hrun]
    · rfl
  have hanswer : ∀ w w', (t w').1 = (t w).1 →
      (Work.asMutation change t w').1 = (Work.asMutation change t w).1 := by
    intro w w' hresult
    rcases hrun : t w with ⟨r, after⟩
    rcases hrun' : t w' with ⟨r', after'⟩
    rw [hrun, hrun'] at hresult
    obtain rfl : r' = r := hresult
    unfold Work.asMutation
    rw [hrun, hrun']
    rcases r' with (_ | _) | _ <;> rfl
  refine ⟨fun w => ?_, fun w => ?_, fun {w w'} halike hagree => ?_⟩
  · rw [hworld]
    exact h.passes w
  · rw [hworld]
    exact h.log w
  · rw [hworld, hworld] at hagree ⊢
    obtain ⟨hresult, hafter⟩ := h.same halike hagree
    exact ⟨hanswer w w' hresult, hafter⟩

/-! ### Silent operations -/

/-- What is silent adds no recordings to those before it. -/
theorem Recounts.bindSilent {t : Work α} {made : World → List Recording} {next : α → Work β}
    (ht : Recounts t made) (hnext : ∀ a, Silent (next a)) : Recounts (t >>= next) made := by
  refine (Recounts.bind ht hnext).congr fun w => ?_
  rcases hrun : t w with ⟨f | a, w₁⟩
  · rw [recordingsThen_error hrun]
  · rw [recordingsThen_ok hrun]
    exact (List.append_nil _).symm

theorem Silent.bind {t : Work α} {next : α → Work β} (ht : Silent t)
    (hnext : ∀ a, Silent (next a)) : Silent (t >>= next) := Recounts.bindSilent ht hnext

/-- An operation that takes no steps and keeps the log is silent if it does the same in worlds that
are alike. -/
theorem Silent.untimed {t : Work α} (hfaults : Keeps World.faults t) (hsteps : Keeps World.steps t)
    (hlog : Keeps (fun w => w.db.auditLog) t)
    (hsame : ∀ {w w' : World}, w.Alike w' → (t w').1 = (t w).1 ∧ (t w).2.Alike (t w').2) :
    Silent t := by
  refine ⟨fun w => ⟨hfaults w, Nat.le_of_eq (hsteps w).symm⟩, fun w => ?_, fun {w w'} halike _ => ?_⟩
  · exact (hlog w).trans (List.append_nil _).symm
  · obtain ⟨hresult, hafter⟩ := hsame halike
    refine ⟨hresult, hafter, ?_⟩
    exact (World.fatesUntil_of_steps_eq (hsteps w')).trans
      (World.fatesUntil_of_steps_eq (hsteps w)).symm

theorem Silent.pure (a : α) : Silent (Pure.pure a : Work α) :=
  Silent.untimed (Keeps.pure a) (Keeps.pure a) (Keeps.pure a) fun halike => ⟨rfl, halike⟩

theorem Silent.ofResult (r : Except Failure α) : Silent (ofResult r) := by
  refine Silent.untimed (Keeps.ofResult r) (Keeps.ofResult r) (Keeps.ofResult r) fun halike => ?_
  cases r <;> exact ⟨rfl, halike⟩

theorem Silent.ofFault (r : Except Fault α) : Silent (ofFault r) := Silent.ofResult _

theorem Silent.fail (f : Failure) : Silent (fail f : Work α) := Silent.ofResult (.error f)

theorem Silent.refuse (why : Refusal) : Silent (refuse why : Work α) := Silent.fail _

theorem Silent.drawId : Silent drawId := by
  refine Silent.untimed (fun _ => rfl) (fun _ => rfl) (fun _ => rfl) fun h => ⟨?_, ?_⟩
  · exact congrArg (fun n => Except.ok (freshId (n + 1))) h.issued
  · exact ⟨h.roles, h.permissions, h.accounts, h.cache, h.clock, congrArg (· + 1) h.issued⟩

theorem Silent.readClock : Silent readClock := by
  have hworld : ∀ {σ : Type} (see : World → σ), (∀ w c, see { w with clock := c } = see w) →
      Keeps see Work.readClock := by
    intro σ see hsee w
    unfold Work.readClock
    split
    · exact hsee w _
    · rfl
  refine Silent.untimed (hworld _ fun _ _ => rfl) (hworld _ fun _ _ => rfl)
    (hworld _ fun _ _ => rfl) fun {w w'} h => ?_
  unfold Work.readClock
  rw [h.clock]
  cases w.clock.now.add? w.clock.tick with
  | none => exact ⟨rfl, h⟩
  | some next => exact ⟨rfl, h.roles, h.permissions, h.accounts, h.cache, rfl, h.issued⟩

theorem Silent.ask {f : World → α} (hf : ∀ {w w' : World}, w.Alike w' → f w' = f w) :
    Silent (ask f) :=
  Silent.untimed (Keeps.ask f) (Keeps.ask f) (Keeps.ask f) fun h => ⟨congrArg Except.ok (hf h), h⟩

/-- Changes the tables if that can be done: the part of a write after its step. -/
def overwrite (change : Database → Except Fault Database) : Work Unit := fun w =>
  match change w.db with
  | .ok db => (.ok (), { w with db })
  | .error e => (.error (.broke e), w)

theorem write_eq (s : DbStep) (change : Database → Except Fault Database) :
    write s change = (do step s; overwrite change) := by
  unfold write
  refine congrArg _ (funext fun _ => funext fun w => ?_)
  unfold overwrite
  rw [ask_bind_apply]
  cases change w.db <;> rfl

/-- A change of the tables is silent if it has nothing to do with the log. -/
theorem Silent.overwrite {change : Database → Except Fault Database}
    (hchange : ∀ db log, change (db.withLog log) = (change db).map fun db' => db'.withLog log) :
    Silent (overwrite change) := by
  have hworld : ∀ {σ : Type} (see : World → σ),
      (∀ w db, change w.db = .ok db → see { w with db } = see w) →
        Keeps see (Work.overwrite change) := by
    intro σ see hsee w
    unfold Work.overwrite
    split
    · next db hdb => exact hsee w db hdb
    · rfl
  refine Silent.untimed (hworld _ fun _ _ _ => rfl) (hworld _ fun _ _ _ => rfl)
    (hworld _ fun w db hdb => ?_) fun {w w'} h => ?_
  · have hkept := hchange w.db w.db.auditLog
    rw [show w.db.withLog w.db.auditLog = w.db from rfl, hdb] at hkept
    have hsame : db = db.withLog w.db.auditLog := Except.ok.inj hkept
    show db.auditLog = w.db.auditLog
    rw [hsame]
    rfl
  · have hdone := hchange w.db w'.db.auditLog
    rw [← h.db] at hdone
    unfold Work.overwrite
    rw [hdone]
    cases change w.db with
    | error e => exact ⟨rfl, h⟩
    | ok db => exact ⟨rfl, rfl, rfl, rfl, h.cache, h.clock, h.issued⟩

theorem Silent.step {s : DbStep} (hs : s ≠ .auditInsert) : Silent (step s) := by
  have hafter : ∀ w : World, (Work.step s w).2 = { w with steps := w.steps + 1 } := by
    intro w
    unfold Work.step
    dsimp only
    split <;> rfl
  have hfates : ∀ w : World, w.fatesUntil (Work.step s w).2 = [w.fate w.steps] := by
    intro w
    rw [hafter, World.fatesUntil, Nat.add_sub_cancel_left]
    rfl
  refine ⟨fun w => ?_, fun w => ?_, fun {w w'} h hagree => ?_⟩
  · rw [hafter]
    exact ⟨rfl, Nat.le_succ _⟩
  · rw [hafter]
    exact (List.append_nil _).symm
  · have hheads : Agree (w.fatesUntil (Work.step s w).2) (w'.fatesUntil (Work.step s w').2) := hagree
    rw [hfates, hfates] at hheads
    have hfate := hheads.head
    have hsame : w'.faults w'.steps s = w.faults w.steps s := by
      have hkind := congrFun hfate s
      rw [World.fate, World.fate, bne_iff_ne.mpr hs, Bool.true_and, Bool.true_and] at hkind
      exact hkind.symm
    refine ⟨?_, ?_, ?_⟩
    · unfold Work.step
      dsimp only
      rw [hsame]
      cases w.faults w.steps s <;> rfl
    · rw [hafter, hafter]
      exact ⟨h.roles, h.permissions, h.accounts, h.cache, h.clock, h.issued⟩
    · show w'.fatesUntil _ = w.fatesUntil _
      rw [hfates, hfates, hfate]

/-- A query is silent if it does not read the log. -/
theorem Silent.query {s : DbStep} {read : Database → α} (hs : s ≠ .auditInsert)
    (hread : ∀ db log, read (db.withLog log) = read db) : Silent (query s read) := by
  refine Silent.bind (Silent.step hs) fun _ => Silent.ask fun {w w'} h => ?_
  rw [h.db]
  exact hread _ _

theorem Silent.write {s : DbStep} {change : Database → Except Fault Database}
    (hs : s ≠ .auditInsert)
    (hchange : ∀ db log, change (db.withLog log) = (change db).map fun db' => db'.withLog log) :
    Silent (write s change) := by
  rw [write_eq]
  exact Silent.bind (Silent.step hs) fun _ => Silent.overwrite hchange

/-- What a transaction does before it is settled whether it stands. -/
def unsettled (body : Work α) : Work α := do
  step .connect
  let a ← body
  commit a

theorem Silent.unsettled {body : Work α} (h : Silent body) : Silent (unsettled body) :=
  Silent.bind (Silent.step nofun) fun _ => Silent.bind h fun a =>
    Silent.bind (Silent.step nofun) fun _ => Silent.pure a

theorem transact_of_ok {body : Work α} {w after : World} {a : α}
    (h : unsettled body w = (.ok a, after)) : transact body w = (.ok a, after) := by
  rw [unsettled] at h
  rw [transact, h]

theorem transact_of_error {body : Work α} {w after : World} {f : Failure}
    (h : unsettled body w = (.error f, after)) :
    transact body w = (.error f, { after with db := w.db }) := by
  rw [unsettled] at h
  rw [transact, h]

/-- A transaction is silent if its body is. -/
theorem Silent.transact {body : Work α} (h : Silent body) : Silent (transact body) := by
  have hrun := h.unsettled
  have hfates : ∀ w : World, w.fatesBeside [] (Work.transact body w).2 =
      w.fatesBeside [] (Work.unsettled body w).2 := by
    intro w
    rcases hends : Work.unsettled body w with ⟨f | a, after⟩
    · rw [transact_of_error hends]
      rfl
    · rw [transact_of_ok hends]
  refine ⟨fun w => ?_, fun w => ?_, fun {w w'} halike hagree => ?_⟩
  · have hpass := hrun.passes w
    rcases hends : Work.unsettled body w with ⟨f | a, after⟩ <;> rw [hends] at hpass
    · rw [transact_of_error hends]
      exact ⟨hpass.faults, hpass.steps⟩
    · rw [transact_of_ok hends]
      exact hpass
  · have hlog := hrun.log w
    rcases hends : Work.unsettled body w with ⟨f | a, after⟩ <;> rw [hends] at hlog
    · rw [transact_of_error hends]
      exact (List.append_nil _).symm
    · rw [transact_of_ok hends]
      exact hlog
  · rw [hfates, hfates] at hagree ⊢
    obtain ⟨hresult, hafter, hsame⟩ := hrun.same halike hagree
    refine ⟨?_, ?_, hsame⟩ <;>
      rcases hends : Work.unsettled body w with ⟨f | a, w₁⟩ <;>
      rcases hends' : Work.unsettled body w' with ⟨f' | a', w₁'⟩ <;>
      rw [hends, hends'] at hresult hafter <;> cases hresult
    · rw [transact_of_error hends, transact_of_error hends']
    · rw [transact_of_ok hends, transact_of_ok hends']
    -- A failure takes back the tables, and those were alike to begin with.
    · rw [transact_of_error hends, transact_of_error hends']
      exact ⟨halike.roles, halike.permissions, halike.accounts, hafter.cache, hafter.clock,
        hafter.issued⟩
    · rw [transact_of_ok hends, transact_of_ok hends']
      exact hafter

end Work

/-! ## Recording -/

namespace Audit

theorem part_silent {α : Type} (found : Option α) : Work.Silent (part found) := by
  cases found with
  | none => exact Work.Silent.fail _
  | some a => exact Work.Silent.pure a

theorem compose_silent (note : AuditNote) : Work.Silent (compose note) :=
  Work.Silent.bind Work.Silent.drawId fun _ => Work.Silent.bind (part_silent _) fun _ =>
    Work.Silent.bind Work.Silent.readClock fun _ => Work.Silent.bind (part_silent _) fun _ =>
      Work.Silent.pure _

/-- Making an entry takes no steps. -/
theorem compose_steps (note : AuditNote) : Work.Keeps World.steps (compose note) := by
  have hpart : ∀ {α : Type} (found : Option α), Work.Keeps World.steps (part found) := by
    intro α found
    cases found with
    | none => exact Work.Keeps.fail _
    | some a => exact Work.Keeps.pure a
  have hclock : Work.Keeps World.steps Work.readClock := by
    intro w
    unfold Work.readClock
    split <;> rfl
  exact Work.Keeps.bind (fun _ => rfl) fun _ => Work.Keeps.bind (hpart _) fun _ =>
    Work.Keeps.bind hclock fun _ => Work.Keeps.bind (hpart _) fun _ => Work.Keeps.pure _

/-- Writing an entry changes nothing but the log, whether it succeeds or not. -/
theorem insertAudit_alike (entry : AuditEntry) (w : World) :
    w.Alike (Work.transact (Store.insertAudit entry) w).2 := by
  have hbeside : Work.Keeps (fun w => (w.cache, w.clock, w.issued))
      (Work.transact (Store.insertAudit entry)) :=
    Work.Keeps.transactBeside (fun _ _ => rfl) (fun _ _ => rfl)
      (Work.Keeps.writeBeside (fun _ _ => rfl) (fun _ _ => rfl) _ _)
  have hkept := hbeside w
  simp only [Prod.mk.injEq] at hkept
  obtain ⟨hcache, hclock, hissued⟩ := hkept
  rcases hrun : Work.transact (Store.insertAudit entry) w with ⟨f | u, w'⟩ <;>
    rw [hrun] at hcache hclock hissued
  · have hdb : w'.db = w.db.withLog w.db.auditLog := Work.transact_error hrun
    exact World.alike_of_db hdb hcache hclock hissued
  · obtain ⟨w₁, w₂, hstart, hbody, hend⟩ := Work.transact_ok hrun
    obtain ⟨row, -, hdb⟩ := Database.insertAudit_ok (Work.write_ok hbody).1
    rw [(World.state_eq.mp hstart).1, ← (World.state_eq.mp hend).1] at hdb
    exact World.alike_of_db hdb hcache hclock hissued

theorem append_alike (note : AuditNote) (w : World) :
    (compose note w).2.Alike (append note w).2 := by
  unfold append
  rw [Work.bind_apply]
  split
  · next entry w₁ hentry =>
      have halike := insertAudit_alike entry w₁
      rw [hentry, Work.bind_apply]
      rcases hrun : Work.transact (Store.insertAudit entry) w₁ with ⟨f | u, w₂⟩ <;>
        rw [hrun] at halike <;> exact halike
  · next f w₁ hfail =>
      rw [hfail]
      exact World.Alike.refl w₁

theorem record_run (note : AuditNote) (w : World) :
    (do let _ ← record note; return () : Work Unit) w = (.ok (), Recording.after ⟨note, w⟩) := by
  obtain ⟨found, hfound⟩ := record_apply note w
  rw [Work.bind_of_ok hfound, Recording.after, hfound]
  rfl

/-- A note that is made of a snapshot is recorded once the snapshot is there. -/
theorem record_run_snapshot {r : Except Fault (List (String × Value))}
    {s : List (String × Value)} (hr : r = .ok s) (note : List (String × Value) → AuditNote)
    (w : World) :
    (do
      let snapshot ← Work.ofFault r
      let _ ← record (note snapshot)
      return () : Work Unit) w = (.ok (), Recording.after ⟨note s, w⟩) := by
  rw [hr]
  exact record_run (note s) w

/-- What an entry takes from the world is drawn when it is made. -/
theorem record_alike (note : AuditNote) (w : World) :
    (compose note w).2.Alike (Recording.after ⟨note, w⟩) := by
  obtain ⟨found, hfound⟩ := record_apply note w
  rw [Recording.after, hfound]
  exact append_alike note w

/-- A note is recorded, and that is the one recording there is. -/
theorem record_recounts (note : AuditNote) :
    Work.Recounts (do let _ ← record note; return ()) fun w => [⟨note, w⟩] := by
  refine ⟨fun w => ?_, fun w => ?_, fun {w w'} halike _ => ?_⟩
  · rw [record_run]
    exact ⟨World.Onward.refl w, World.Onward.refl _⟩
  · rw [record_run]
    exact Recording.after_log ⟨note, w⟩
  · rw [record_run, record_run]
    have hquiet : ∀ v : World, v.fatesBeside [⟨note, v⟩] (Recording.after ⟨note, v⟩) = [] := by
      intro v
      show v.fatesUntil v ++ (Recording.after ⟨note, v⟩).fatesUntil (Recording.after ⟨note, v⟩) = []
      rw [World.fatesUntil_of_steps_eq rfl, World.fatesUntil_of_steps_eq rfl]
      rfl
    have hnone : ∀ v : World, v.fatesBeside [] (compose note v).2 = [] := fun v =>
      World.fatesUntil_of_steps_eq (compose_steps note v)
    have hcomposed := ((compose_silent note).same halike (by
      rw [hnone w, hnone w']
      exact Or.inl (List.prefix_refl []))).2.1
    refine ⟨rfl, (record_alike note w).symm.trans (hcomposed.trans (record_alike note w')), ?_⟩
    rw [hquiet, hquiet]

end Audit

end Warrant
