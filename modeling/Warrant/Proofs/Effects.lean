import Warrant.Proofs.AuditTrail
import Warrant.Proofs.Provenance

/-!
# What can happen to a running service

Tables and cache are changed by operations and by steps of the cache, and by
nothing else; besides, the log is written and cleared. Many things that are true
of a service are therefore shown by looking at few events: the commands that an
operation makes, and a reload after them.

A *bound* is a relation between an earlier and a later world that composes and
to which the log is of no account. Operations are within a bound if their parts
are. So what has to be shown of an operation is only that each write of its
commands is within the bound and that the reload of the role that they touch is,
whatever fails and wherever the operation ends. A period is within a bound if its
events are. This holds of every database; the rows need not be in shape, and a
note that cannot be made after a change does not undo the change.
-/

namespace Warrant

/-! ## Bounds -/

/-- A relation between an earlier and a later world that composes and holds as long as the log alone
is changed. -/
structure Bound (R : World → World → Prop) : Prop where
  quiet : ∀ {w w' : World} {log : List AuditEntry}, w'.db = w.db.withLog log →
    w'.cache = w.cache → R w w'
  trans : ∀ {w₁ w₂ w₃ : World}, R w₁ w₂ → R w₂ w₃ → R w₁ w₃

namespace Bound

variable {R : World → World → Prop}

theorem of_state (hR : Bound R) {w w' : World} (h : w'.state = w.state) : R w w' :=
  @quiet R hR w w' w.db.auditLog (World.state_eq.mp h).1 (World.state_eq.mp h).2

/-- To keep a property of the tables is a bound, if the log is no part of the property. -/
theorem keeping {I : Database → Prop}
    (hlog : ∀ {db : Database} {log : List AuditEntry}, I db → I (db.withLog log)) :
    Bound fun w w' => I w.db → I w'.db := by
  refine ⟨fun hdb _ h => ?_, fun h₁ h₂ h => h₂ (h₁ h)⟩
  rw [hdb]
  exact hlog h

end Bound

theorem Database.Logged.withLog {db db' : Database} (h : db.Logged db') :
    ∃ log, db' = db.withLog log := by
  rcases h with rfl | ⟨e, rfl⟩
  · exact ⟨db'.auditLog, rfl⟩
  · exact ⟨db.auditLog ++ [e], rfl⟩

namespace Work

variable {α β : Type} {R : World → World → Prop}

/-- An operation is within a bound: however it ends, the world after it is within the bound of the
world before. -/
def Within (R : World → World → Prop) (t : Work α) : Prop := ∀ w, R w (t w).2

theorem Within.after {t : Work α} (ht : Within R t) {w w' : World} {r : Except Failure α}
    (h : t w = (r, w')) : R w w' := by
  have hw := ht w
  rw [h] at hw
  exact hw

variable (hR : Bound R)

include hR

theorem Within.kept {t : Work α} (ht : Keeps World.state t) : Within R t :=
  fun w => hR.of_state (ht w)

theorem Within.bind {t : Work α} {next : α → Work β} (ht : Within R t)
    (hnext : ∀ a, Within R (next a)) : Within R (t >>= next) := by
  intro w
  rw [bind_apply]
  split
  · next a w₁ hrun => exact hR.trans (ht.after hrun) (hnext a w₁)
  · next f w₁ hrun => exact ht.after hrun

theorem Within.record (note : AuditNote) :
    Within R (do let _ ← Audit.record note; return ()) := by
  intro w
  obtain ⟨log, hlog⟩ := ((Audit.record_logs note).log w).withLog
  exact hR.quiet hlog ((Audit.record_logs note).cache w)

end Work

/-! ## Operations -/

namespace Mutation

/-- The commands that an operation makes: the one that it is, or one for each of its items. -/
def Operation.Makes : Operation → Command → Prop
  | one c, made => made = c
  | addPermissions roleId rules, made => ∃ items, rules.items = .ok items ∧
      ∃ item ∈ items, ∃ rule, RuleInput.ofValue item = .ok rule ∧ made = .addPermission roleId rule
  | removePermissions roleId ids, made => ∃ id ∈ ids, made = .removePermission roleId id

section

variable {α : Type} {R : World → World → Prop} (hR : Bound R)

include hR

/-- The record at the end of a change is within every bound, even if the note cannot be made. -/
theorem Stages.Noted.close_within {s : Stages α} {note : s.Changed → Except Fault AuditNote}
    (hnoted : s.Noted note) (done : s.Changed) : Work.Within R (s.close done) := by
  rw [hnoted done]
  cases note done with
  | error e => exact Work.Within.kept hR (Work.Keeps.fail _)
  | ok n => exact Work.Within.record hR n

theorem Stages.run_within {s : Stages α} (hchange : Work.Within R s.change)
    (hreload : ∀ done, Work.Within R (reload (s.touched done)))
    (hclose : ∀ done, Work.Within R (s.close done)) : Work.Within R s.run :=
  Work.Within.bind hR hchange fun done => Work.Within.bind hR (hreload done) fun _ =>
    Work.Within.bind hR (hclose done) fun _ => Work.Within.kept hR (Work.Keeps.pure _)

/-- The change that a command makes is within a bound if its write is. -/
theorem Command.change_within (caller : Caller) (c : Command)
    (hwrites : ∀ {w w' : World} {result : c.Result}, c.Writes w.db result w'.db →
      w'.cache = w.cache → R w w') : Work.Within R (c.stages caller).change := by
  have hwhole := c.stages_whole caller
  intro w
  rcases hrun : (c.stages caller).change w with ⟨f | done, w'⟩
  · exact hR.of_state (hwhole.error hrun).2
  · exact hwrites (hwhole.ok hrun).1 (hwhole.ok hrun).2

/-- An item of a bulk run is within a bound if its change is: it is not followed by a reload. -/
theorem bulkItem_within {s : Stages Uuid} {note : s.Changed → Except Fault AuditNote}
    (hnoted : s.Noted note) (htouched : ∀ done, s.touched done = none)
    (hchange : Work.Within R s.change) (item : Value) :
    Work.Within R (bulkItem item s.run) := by
  have hrun : Work.Within R s.run := Stages.run_within hR hchange (fun done => by
    rw [htouched done]
    exact Work.Within.kept hR (Work.Keeps.pure ())) (hnoted.close_within hR)
  refine Work.Within.bind hR (t := Work.attempt s.run) hrun fun r => ?_
  rcases r with (why | why) | id
  · exact Work.Within.kept hR (Work.Keeps.pure _)
  · exact Work.Within.kept hR (Work.Keeps.fail _)
  · exact Work.Within.kept hR (Work.Keeps.pure _)

theorem each_within {ι : Type} {run : List ι → Work (List BulkItem)} {one : ι → Work BulkItem}
    (heach : Each run one) (xs : List ι) (hone : ∀ x ∈ xs, Work.Within R (one x)) :
    Work.Within R (run xs) := by
  induction xs with
  | nil =>
      rw [heach.nil]
      exact Work.Within.kept hR (Work.Keeps.pure [])
  | cons x rest ih =>
      rw [heach.cons]
      exact Work.Within.bind hR (hone x List.mem_cons_self) fun _ =>
        Work.Within.bind hR (ih fun y hy => hone y (List.mem_cons_of_mem x hy)) fun _ =>
          Work.Within.kept hR (Work.Keeps.pure _)

theorem Operation.change_within (caller : Caller) (op : Operation)
    (hwrites : ∀ c, op.Makes c → ∀ {w w' : World} {result : c.Result},
      c.Writes w.db result w'.db → w'.cache = w.cache → R w w') :
    Work.Within R (op.stages caller).change := by
  cases op with
  | one c => exact c.change_within hR caller (hwrites c rfl)
  | addPermissions roleId rules =>
      show Work.Within R (Work.ofFault rules.items >>= addEach roleId caller)
      cases hitems : rules.items with
      | error e => exact Work.Within.kept hR (Work.Keeps.fail _)
      | ok items =>
          refine each_within hR (addEach_each roleId caller) items fun item hitem => ?_
          rw [addOne_eq]
          refine bulkItem_within hR (addItem_noted roleId caller item) (fun _ => rfl) ?_ item
          show Work.Within R (Work.ofResult (RuleInput.ofValue item) >>= insert roleId)
          cases hrule : RuleInput.ofValue item with
          | error why => exact Work.Within.kept hR (Work.Keeps.fail _)
          | ok rule =>
              exact Command.change_within hR caller (.addPermission roleId rule)
                (hwrites _ ⟨items, hitems, item, hitem, rule, hrule, rfl⟩)
  | removePermissions roleId ids =>
      refine each_within hR (removeEach_each roleId caller) ids fun id hid => ?_
      refine bulkItem_within hR (removeItem_noted roleId caller id) (fun _ => rfl) ?_ _
      exact Command.change_within hR caller (.removePermission roleId id) (hwrites _ ⟨id, hid, rfl⟩)

/-- What an operation does at its end, after its change and the reload, is within every bound. -/
theorem Operation.close_within (caller : Caller) (op : Operation) (done : (op.stages caller).Changed) :
    Work.Within R ((op.stages caller).close done) := by
  cases op with
  | one c => exact (c.stages_noted caller).close_within hR done
  | addPermissions roleId rules => exact Work.Within.kept hR (Work.Keeps.pure ())
  | removePermissions roleId ids => exact Work.Within.kept hR (Work.Keeps.pure ())

/-- An operation is within a bound if the writes of its commands are, and the reload of the role
that it names for loading. -/
theorem Operation.execute_within (caller : Caller) (op : Operation)
    (hwrites : ∀ c, op.Makes c → ∀ {w w' : World} {result : c.Result},
      c.Writes w.db result w'.db → w'.cache = w.cache → R w w')
    (hreload : ∀ done, Work.Within R (Stages.reload ((op.stages caller).touched done))) :
    Work.Within R (op.execute caller) := by
  rw [op.execute_eq caller]
  exact Stages.run_within hR (op.change_within hR caller hwrites) hreload (op.close_within hR caller)

end

/-- An operation keeps a property of the tables if the writes of its commands do. -/
theorem Operation.execute_keeping {I : Database → Prop}
    (hlog : ∀ {db : Database} {log : List AuditEntry}, I db → I (db.withLog log))
    (caller : Caller) (op : Operation)
    (hwrites : ∀ c, op.Makes c → ∀ {db db' : Database} {result : c.Result},
      c.Writes db result db' → I db → I db') {w : World} (h : I w.db) :
    I (op.execute caller w).2.db := by
  refine op.execute_within (Bound.keeping hlog) caller (fun c hc _ _ _ hrun _ => hwrites c hc hrun)
    (fun done w hw => ?_) w h
  rw [Stages.reload_db]
  exact hw

/-- A command either was made, and then at most the log was written, or it failed and left no
trace. If it has a result it was made. -/
theorem Command.made_or_failed (caller : Caller) (c : Command) (w : World) :
    (∃ result db log, c.Writes w.db result db ∧ (c.execute caller w).2.db = db.withLog log) ∨
      (c.execute caller w).1.isOk = false ∧ (c.execute caller w).2.state = w.state := by
  have hwhole := c.stages_whole caller
  rw [c.execute_eq caller]
  rcases hchange : (c.stages caller).change w with ⟨f | done, w₁⟩
  · rw [Stages.run_of_error hchange]
    exact Or.inr ⟨rfl, (hwhole.error hchange).2⟩
  · refine Or.inl ⟨(c.stages caller).result done, w₁.db, ?_⟩
    -- What follows the change is within the bound of leaving all but the log as it was.
    have hR : Bound fun w w' => ∃ log, w'.db = w.db.withLog log := by
      refine ⟨fun hdb _ => ⟨_, hdb⟩, fun ⟨log, hlog⟩ ⟨log', hlog'⟩ => ⟨log', ?_⟩⟩
      rw [hlog', hlog]
      rfl
    have hreload : Work.Within (fun w w' => ∃ log, w'.db = w.db.withLog log)
        (Stages.reload ((c.stages caller).touched done)) := fun w =>
      ⟨w.db.auditLog, Stages.reload_db _ w⟩
    have hrest := (hreload.bind hR fun _ =>
      ((c.stages_noted caller).close_within hR done).bind hR fun _ =>
        Work.Within.kept hR (Work.Keeps.pure ((c.stages caller).result done))) w₁
    obtain ⟨log, hlog⟩ := hrest
    refine ⟨log, (hwhole.ok hchange).1, ?_⟩
    unfold Stages.run
    rw [Work.bind_apply, hchange]
    exact hlog

end Mutation

/-! ## Periods -/

/-- Something that happens to a running service: an operation, or a step of its cache. -/
inductive Event where
  | operation (d : Deed)
  | cache (e : CacheEvent)

namespace Event

/-- The world in which it happens. -/
def world : Event → World
  | operation d => d.world
  | cache e => e.world

/-- The world afterwards. -/
def after : Event → World
  | operation d => (d.endsIn d.world).2
  | cache e => (e.step.take e.world).2

end Event

/-- A time in the life of a service, with the events of it in their order, each ending as it may.
Between them all else may happen: time passes, tables are read, the log is written or cleared, and
which steps of the database fail may change. -/
inductive Period : World → List Event → World → Prop where
  | start (w : World) : Period w [] w
  | meanwhile {w w₁ w₂ : World} {events : List Event} (before : Period w events w₁)
      (log : List AuditEntry) (tables : w₂.db = w₁.db.withLog log) (cache : w₂.cache = w₁.cache) :
      Period w events w₂
  | event {w : World} {events : List Event} (e : Event) (before : Period w events e.world) :
      Period w (events ++ [e]) e.after

theorem CacheStep.take_db (s : CacheStep) : Work.Keeps World.db s.take := by
  cases s with
  | load scope => exact Reload.load_db scope
  | invalidate id => exact Reload.load_db (some [id])
  | clear => exact fun _ => rfl

namespace Period

variable {w w' : World} {events : List Event}

theorem operation (h : Period w events w') (op : Mutation.Operation) (caller : Caller) :
    Period w (events ++ [.operation ⟨op, caller, w'⟩]) (op.execute caller w').2 :=
  .event (.operation ⟨op, caller, w'⟩) h

theorem cache (h : Period w events w') (s : CacheStep) :
    Period w (events ++ [.cache ⟨s, w'⟩]) (s.take w').2 :=
  .event (.cache ⟨s, w'⟩) h

/-- A period is within a bound if its events are. -/
theorem within {R : World → World → Prop} (hR : Bound R) (h : Period w events w')
    (hevents : ∀ e ∈ events, R e.world e.after) : R w w' := by
  induction h with
  | start => exact hR.of_state rfl
  | meanwhile _ log tables cache ih => exact hR.trans (ih hevents) (hR.quiet tables cache)
  | event e _ ih =>
      rw [List.forall_mem_append, List.forall_mem_singleton] at hevents
      exact hR.trans (ih hevents.1) hevents.2

/-- Up to each of its events goes a period of earlier ones. -/
theorem until_event (h : Period w events w') {e : Event} (he : e ∈ events) :
    ∃ earlier ⊆ events, Period w earlier e.world := by
  induction h with
  | start => cases he
  | meanwhile _ _ _ _ ih => exact ih he
  | @event events e' before ih =>
      rcases List.mem_append.mp he with he | he
      · obtain ⟨earlier, hearlier, hperiod⟩ := ih he
        exact ⟨earlier, List.subset_append_of_subset_left _ hearlier, hperiod⟩
      · rw [List.mem_singleton.mp he]
        exact ⟨events, List.subset_append_left _ _, before⟩

/-- A period keeps a property of the tables that its operations keep: the cache is no table. -/
theorem keeping {I : Database → Prop}
    (hlog : ∀ {db : Database} {log : List AuditEntry}, I db → I (db.withLog log))
    (h : Period w events w')
    (hdeeds : ∀ d, Event.operation d ∈ events → I d.world.db → I (d.endsIn d.world).2.db)
    (hw : I w.db) : I w'.db := by
  refine h.within (Bound.keeping hlog) (fun e he hbefore => ?_) hw
  cases e with
  | operation d => exact hdeeds d he hbefore
  | cache e =>
      show I (e.step.take e.world).2.db
      rw [e.step.take_db]
      exact hbefore

end Period

end Warrant
