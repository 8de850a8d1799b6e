import Warrant.Proofs.Command
import Warrant.Proofs.Scrutiny

/-!
# Several permissions at once

A bulk run makes one change after the other and loads the rules once, at its
end. In between the cache is behind the tables, so what counts is how far behind
it can be: by the rules of the one role that the run is about, however many of
the changes are refused. And the run has to come to its end. A removal does, for
an item that fails is refused, and a refusal is a result for that item. An
addition does unless an item goes too deep: that is no refusal, and the run
breaks off where it stands, without the load at its end.

`Beside` relates the worlds before and after any part of such a run, and
composes along the list of items.
-/

namespace Warrant.Mutation

/-- Two worlds that differ, as far as rules are concerned, at most by those of one role in the
tables. -/
structure Beside (roleId : Uuid) (w w' : World) : Prop where
  cache : w'.cache = w.cache
  only : Database.ChangesOnly (some roleId) w.db w'.db

theorem Beside.refl (roleId : Uuid) {w : World} (hdb : w.db.Shaped) : Beside roleId w w :=
  ⟨rfl, Database.ChangesOnly.refl hdb⟩

theorem Beside.trans {roleId : Uuid} {w₁ w₂ w₃ : World} (h₁ : Beside roleId w₁ w₂)
    (h₂ : Beside roleId w₂ w₃) : Beside roleId w₁ w₃ :=
  ⟨h₂.cache.trans h₁.cache, h₁.only.trans h₂.only⟩

theorem Beside.of_state {roleId : Uuid} {w w' : World} (hdb : w.db.Shaped)
    (h : w'.state = w.state) : Beside roleId w w' := by
  obtain ⟨hsame, hcache⟩ := World.state_eq.mp h
  refine ⟨hcache, ?_⟩
  rw [hsame]
  exact Database.ChangesOnly.refl hdb

section

variable {α β : Type}

theorem Beside.after {roleId : Uuid} {t : Work α} {w w₁ : World} {r : Except Failure α}
    (h : Beside roleId w (t w).2) (hrun : t w = (r, w₁)) : Beside roleId w w₁ := by
  rw [hrun] at h
  exact h

/-- An operation on a role that always has a result, unless it breaks off for the one fault given,
if any. -/
def Completes (roleId : Uuid) (fault : Option Fault) (t : Work α) : Prop :=
  ∀ w : World, w.db.Shaped → Beside roleId w (t w).2 ∧
    ∀ f, (t w).1 = .error f → ∃ why, f = .broke why ∧ fault = some why

/-- An operation on a role that has a result or is refused, unless it breaks off for the one fault
given, if any. -/
def Answers (roleId : Uuid) (fault : Option Fault) (t : Work α) : Prop :=
  ∀ w : World, w.db.Shaped → Beside roleId w (t w).2 ∧
    ∀ why, (t w).1 = .error (.broke why) → fault = some why

variable {roleId : Uuid} {fault : Option Fault}

theorem Completes.pure (roleId : Uuid) (fault : Option Fault) (a : α) :
    Completes roleId fault (Pure.pure a) :=
  fun _ hdb => ⟨Beside.refl roleId hdb, nofun⟩

theorem Completes.bind {t : Work α} {next : α → Work β} (ht : Completes roleId fault t)
    (hnext : ∀ a, Completes roleId fault (next a)) : Completes roleId fault (t >>= next) := by
  intro w hdb
  obtain ⟨hbeside, hfails⟩ := ht w hdb
  rcases hrun : t w with ⟨f | a, w₁⟩
  · rw [hrun] at hbeside hfails
    rw [Work.bind_of_error hrun]
    exact ⟨hbeside, fun g hg => hfails g (congrArg Except.error (Except.error.inj hg))⟩
  · rw [hrun] at hbeside
    rw [Work.bind_of_ok hrun]
    obtain ⟨hrest, hfails⟩ := hnext a w₁ hbeside.only.shaped
    exact ⟨hbeside.trans hrest, hfails⟩

/-- A list of items is worked off one after the other. -/
structure Each (run : List α → Work (List β)) (one : α → Work β) : Prop where
  nil : run [] = Pure.pure []
  cons : ∀ x rest, run (x :: rest) = do
    let b ← one x
    let bs ← run rest
    return b :: bs

theorem Each.run_cons {run : List α → Work (List β)} {one : α → Work β} (heach : Each run one)
    {x : α} {rest : List α} {b : β} {bs : List β} {w w₁ w' : World} (hone : one x w = (.ok b, w₁))
    (hrest : run rest w₁ = (.ok bs, w')) : run (x :: rest) w = (.ok (b :: bs), w') := by
  rw [heach.cons, Work.bind_of_ok hone, Work.bind_of_ok hrest]
  rfl

/-- A list of items is worked off completely if each item is. -/
theorem Completes.each {run : List α → Work (List β)} {one : α → Work β}
    (heach : Each run one) (hone : ∀ x, Completes roleId fault (one x)) (xs : List α) :
    Completes roleId fault (run xs) := by
  induction xs with
  | nil =>
      rw [heach.nil]
      exact Completes.pure roleId fault []
  | cons x rest ih =>
      rw [heach.cons]
      exact (hone x).bind fun _ => ih.bind fun _ => Completes.pure roleId fault _

theorem bulkItem_of_ok (item : Value) {t : Work Uuid} {id : Uuid} {w w₁ : World}
    (h : t w = (.ok id, w₁)) : bulkItem item t w = (.ok ⟨item, .ok id⟩, w₁) := by
  rw [bulkItem, Work.bind_apply, Work.attempt_apply, h]
  rfl

/-- A refusal becomes the result of its item. -/
theorem bulkItem_of_refused (item : Value) {t : Work Uuid} {why : Refusal} {w w₁ : World}
    (h : t w = (.error (.refused why), w₁)) : bulkItem item t w = (.ok ⟨item, .error why⟩, w₁) := by
  rw [bulkItem, Work.bind_apply, Work.attempt_apply, h]
  rfl

/-- A fault ends the run. -/
theorem bulkItem_of_broke (item : Value) {t : Work Uuid} {why : Fault} {w₁ : World}
    (h : t w = (.error (.broke why), w₁)) : bulkItem item t w = (.error (.broke why), w₁) := by
  rw [bulkItem, Work.bind_apply, Work.attempt_apply, h]
  rfl

theorem bulkItem_keeps {σ : Type} {see : World → σ} (item : Value) {t : Work Uuid}
    (ht : Work.Keeps see t) : Work.Keeps see (bulkItem item t) := by
  refine Work.Keeps.bind ht.attempt fun r => ?_
  rcases r with (why | why) | id
  · exact Work.Keeps.pure _
  · exact Work.Keeps.fail _
  · exact Work.Keeps.pure _

theorem bulkItem_completes (item : Value) {t : Work Uuid} (ht : Answers roleId fault t) :
    Completes roleId fault (bulkItem item t) := by
  intro w hdb
  obtain ⟨hbeside, hfault⟩ := ht w hdb
  rcases hrun : t w with ⟨(why | why) | id, w₁⟩
  · rw [hrun] at hbeside
    rw [bulkItem_of_refused item hrun]
    exact ⟨hbeside, nofun⟩
  · rw [hrun] at hbeside hfault
    rw [bulkItem_of_broke item hrun]
    refine ⟨hbeside, fun f hf => ?_⟩
    cases hf
    exact ⟨why, rfl, hfault why rfl⟩
  · rw [hrun] at hbeside
    rw [bulkItem_of_ok item hrun]
    exact ⟨hbeside, nofun⟩

/-- A transaction on a role and its record are answered. -/
theorem answers_of_atomic {change : Work α} {close : α → Work Unit}
    {result : α → β} {does : Database → α → Database → Prop} (hatomic : Work.Atomic change does)
    (htouched : ∀ {db db' : Database} {a : α}, db.Shaped → does db a db' →
      Database.ChangesOnly (some roleId) db db' ∧ Work.Logs (close a)) :
    Answers roleId none (do
      let a ← change
      close a
      return result a) := by
  intro w hdb
  rcases hrun : change w with ⟨f | a, w₁⟩
  · obtain ⟨⟨why, rfl⟩, hstate⟩ := hatomic.error hrun
    rw [Work.bind_of_error hrun]
    exact ⟨Beside.of_state hdb hstate, nofun⟩
  -- The record comes after the change, to tables that are in shape again.
  · obtain ⟨honly, hclose⟩ := htouched hdb (hatomic.ok hrun)
    have hlogged := (hclose.log w₁).changesOnly honly.shaped
    rw [Work.bind_of_ok hrun, Work.bind_of_ok (hclose.run w₁)]
    refine ⟨⟨?_, ?_⟩, nofun⟩
    · exact (hclose.cache w₁).trans (hatomic.cache.after hrun)
    · exact honly.trans ⟨hlogged.shaped, fun id _ => hlogged.rules id nofun⟩

end

/-- Only at an item that goes too deep does an addition break off, and before it begins. -/
theorem addOne_answers (roleId : Uuid) (caller : Caller) (item : Value) :
    Answers roleId (some .tooDeep) (addOne roleId caller item) := by
  unfold addOne
  cases hread : RuleInput.ofValue item with
  | error f =>
      refine fun w hdb => ⟨Beside.refl roleId hdb, fun why hbroke => ?_⟩
      obtain rfl : f = .broke why := Except.error.inj hbroke
      rcases RuleInput.ofValue_error hread with ⟨_, hrefused⟩ | hdeep
      · cases hrefused
      · cases hdeep
        rfl
  | ok rule =>
      refine fun w hdb => (answers_of_atomic (insert_atomic roleId rule) (fun hdb h => ?_) w hdb).imp
        id fun hfault why hbroke => nomatch hfault why hbroke
      have hclose := recordInsert_logs caller roleId (Command.addPermission_shaped h)
      exact ⟨Command.addPermission_touches hdb h, hclose⟩

theorem removeOne_answers (roleId : Uuid) (caller : Caller) (permissionId : Uuid) :
    Answers roleId none (removeOne roleId caller permissionId) := by
  refine answers_of_atomic (erase_atomic roleId permissionId) fun hdb h => ?_
  have hclose := recordErase_logs caller roleId (Command.removePermission_shaped hdb.rows h)
  exact ⟨Command.removePermission_touches hdb h, hclose⟩

theorem addEach_each (roleId : Uuid) (caller : Caller) :
    Each (addEach roleId caller) fun item => bulkItem item (addOne roleId caller item) :=
  ⟨rfl, fun _ _ => rfl⟩

/-- An item that breaks a bulk addition off. -/
def Overdeep (item : Value) : Prop := RuleInput.ofValue item = .error (.broke .tooDeep)

theorem bulkItem_of_overdeep {item : Value} (h : Overdeep item) (roleId : Uuid) (caller : Caller)
    (w : World) :
    bulkItem item (addOne roleId caller item) w = (.error (.broke .tooDeep), w) := by
  refine bulkItem_of_broke item ?_
  unfold addOne
  rw [h]
  rfl

/-- A bulk addition breaks off at an item that goes too deep, with what the items before it come to,
by induction on these. -/
theorem addEach_breaks_off {roleId : Uuid} {item : Value} (caller : Caller) (hitem : Overdeep item)
    (after : List Value) {before : List Value} : ∀ {w w' : World} {results : List BulkItem},
      addEach roleId caller before w = (.ok results, w') →
      addEach roleId caller (before ++ item :: after) w = (.error (.broke .tooDeep), w') := by
  induction before with
  | nil =>
      rintro w w' results ⟨⟩
      rw [List.nil_append, (addEach_each roleId caller).cons,
        Work.bind_of_error (bulkItem_of_overdeep hitem roleId caller w)]
  | cons first rest ih =>
      intro w w' results h
      rw [(addEach_each roleId caller).cons] at h
      obtain ⟨b, w₁, hfirst, h⟩ := Work.bind_ok.mp h
      obtain ⟨bs, w₂, hrest, h⟩ := Work.bind_ok.mp h
      obtain ⟨-, rfl⟩ := Work.pure_ok.mp h
      rw [List.cons_append, (addEach_each roleId caller).cons, Work.bind_of_ok hfirst,
        Work.bind_of_error (ih hrest)]

theorem removeEach_each (roleId : Uuid) (caller : Caller) :
    Each (removeEach roleId caller) fun id => bulkItem (.text id.text) (removeOne roleId caller id) :=
  ⟨rfl, fun _ _ => rfl⟩

theorem addEach_completes (roleId : Uuid) (caller : Caller) (items : List Value) :
    Completes roleId (some .tooDeep) (addEach roleId caller items) :=
  Completes.each (addEach_each roleId caller)
    (fun item => bulkItem_completes item (addOne_answers roleId caller item)) items

theorem removeEach_completes (roleId : Uuid) (caller : Caller) (ids : List Uuid) :
    Completes roleId none (removeEach roleId caller ids) :=
  Completes.each (removeEach_each roleId caller)
    (fun id => bulkItem_completes _ (removeOne_answers roleId caller id)) ids

end Warrant.Mutation
