import Mathlib.Data.List.Pairwise
import Mathlib.Data.List.Perm.Subperm
import Warrant.Proofs.Command

/-!
# Changes that overwrite each other

A change to a permission names the parts that it replaces and means to leave the
others alone. What is written, though, is the whole row: the parts that the
change does not name are put back as they were when the row was read. If another
change was written in between, its parts are put back too, to what they were
before it.

Which changes the row carries in the end is therefore a matter of what each
write had read. A row carries the change that was written last, and the changes
that the row carried which that one had read, and no others: of every part it
has what the newest of these says that names the part, or else what was there at
the start. Nothing is lost exactly if no write came over a row that was written
since it was read.
-/

namespace Warrant

/-! ## What is stored stays as it is -/

namespace Value

mutual

theorem stored?_again : ∀ {v w : Value}, v.stored? = some w → w.stored? = some w
  | .null, _, h | .bool _, _, h | .int _, _, h | .double _, _, h | .text _, _, h => by
      cases h
      rfl
  | .list items, w, h | .tuple items, w, h => by
      rw [stored?] at h
      obtain ⟨ws, hws, rfl⟩ := Option.map_eq_some_iff.mp h
      rw [stored?, storedItems?_again hws]
      rfl
  | .map es, w, h => by
      rw [stored?] at h
      obtain ⟨fs, hfs, rfl⟩ := Option.map_eq_some_iff.mp h
      rw [stored?, storedEntries?_again hfs]
      rfl
  | .bytes _, _, h | .uuid _, _, h | .unresolved, _, h | .object .., _, h | .entity .., _, h
  | .resource .., _, h => by cases h

theorem storedItems?_again : ∀ {vs ws : List Value}, storedItems? vs = some ws →
    storedItems? ws = some ws
  | [], _, h => by
      cases h
      rfl
  | v :: rest, ws, h => by
      obtain ⟨w, more, hv, hrest, rfl⟩ := storedItems?_cons_iff.mp h
      rw [storedItems?, stored?_again hv, storedItems?_again hrest]

theorem storedEntries?_again : ∀ {es fs : List (String × Value)}, storedEntries? es = some fs →
    storedEntries? fs = some fs
  | [], _, h => by
      cases h
      rfl
  | (k, v) :: rest, fs, h => by
      obtain ⟨w, more, hv, hrest, rfl⟩ := storedEntries?_cons_iff.mp h
      rw [storedEntries?, stored?_again hv, storedEntries?_again hrest]

end

end Value

/-! ## Parts -/

/-- The parts of a permission that a change can replace. -/
inductive Terms.Part where
  | action
  | subject
  | fields
  | conditions
  | inverted
  | reason

def Terms.part (t : Terms) : Part → Value
  | .action => t.action
  | .subject => t.subject
  | .fields => t.fields
  | .conditions => t.conditions
  | .inverted => t.inverted
  | .reason => t.reason

namespace RuleEdits

/-- What a change puts in the place of a part, in the form in which it is stored. -/
def part (e : RuleEdits) : Terms.Part → Option Value
  | .action => e.action.map RuleInput.storedActions
  | .subject => e.subject.map RuleInput.storedSubjects
  | .fields => e.fields.map (.ofOption .ofTexts)
  | .conditions => e.conditions.map fun es => (Value.ofOption .map es).stored?.getD .null
  | .inverted => e.inverted.map .bool
  | .reason => e.reason

def Disjoint (e f : RuleEdits) : Prop := ∀ c, e.part c = none ∨ f.part c = none

instance : Std.Symm Disjoint where
  symm _ _ h c := (h c).symm

variable {es : List RuleEdits}

/-- What one of them names, none of the others names. -/
theorem part_of_other (hdisjoint : es.Pairwise Disjoint) {e f : RuleEdits} (he : e ∈ es)
    (hf : f ∈ es) (hne : f ≠ e) {c : Terms.Part} (hnamed : e.part c ≠ none) : f.part c = none :=
  (hdisjoint.forall hf he hne c).resolve_right hnamed

theorem nodup_of_disjoint (hdisjoint : es.Pairwise Disjoint)
    (hnames : ∀ e ∈ es, ∃ c, e.part c ≠ none) : es.Nodup := by
  refine hdisjoint.imp_of_mem fun {e f} he _ hapart hsame => ?_
  obtain ⟨c, hnamed⟩ := hnames e he
  rw [← hsame] at hapart
  exact hnamed (or_self_iff.mp (hapart c))

end RuleEdits

namespace Terms

/-- Terms as they are read from a row: in shape, and in stored form. -/
structure Settled (t : Terms) : Prop where
  shaped : t.Shaped
  conditions : t.conditions.stored? = some t.conditions
  inverted : ∃ b, t.inverted = .bool b

/-- What a permission says has every part that a change names as the change says. -/
def Carries (t : Terms) (e : RuleEdits) : Prop := ∀ c v, e.part c = some v → t.part c = v

/-- Terms that came from others by changes, newest first: each part is as the newest change says
that names it. -/
structure Comes (start : Terms) (carried : List RuleEdits) (t : Terms) : Prop where
  settled : t.Settled
  parts : ∀ c, t.part c = (carried.findSome? fun e => e.part c).getD (start.part c)

namespace Comes

variable {start t : Terms} {carried made : List RuleEdits} {e : RuleEdits}

theorem refl (h : t.Settled) : Comes t [] t := ⟨h, fun _ => rfl⟩

/-- A change that is carried is there in full. -/
theorem carries (h : start.Comes carried t) (hknown : carried ⊆ made)
    (hdisjoint : made.Pairwise RuleEdits.Disjoint) (he : e ∈ carried) : t.Carries e := by
  intro c v hv
  have hnamed : e.part c ≠ none := by
    rw [hv]
    exact Option.some_ne_none v
  rw [h.parts c]
  cases hfound : carried.findSome? fun f => f.part c with
  | none => exact absurd (List.findSome?_eq_none_iff.mp hfound e he) hnamed
  | some v' =>
      obtain ⟨f, hf, hv'⟩ := List.exists_of_findSome?_eq_some hfound
      by_cases hsame : f = e
      · rw [hsame] at hv'
        exact Option.some.inj (hv'.symm.trans hv)
      · exact nomatch hv'.symm.trans
          (RuleEdits.part_of_other hdisjoint (hknown he) (hknown hf) hsame hnamed)

/-- Of a change that is not carried nothing is left. -/
theorem lost (h : start.Comes carried t) (hknown : carried ⊆ made)
    (hdisjoint : made.Pairwise RuleEdits.Disjoint) (he : e ∈ made) (hnot : e ∉ carried) {c : Part}
    (hnamed : e.part c ≠ none) : t.part c = start.part c := by
  have hnone : (carried.findSome? fun f => f.part c) = none := by
    rw [List.findSome?_eq_none_iff]
    intro f hf
    exact RuleEdits.part_of_other hdisjoint he (hknown hf) (fun hsame => hnot (hsame ▸ hf)) hnamed
  rw [h.parts c, hnone, Option.getD_none]

end Comes

end Terms

/-! ## One write -/

namespace Database

theorem permission?_id {db : Database} {id : Uuid} {p : Permission}
    (h : db.permission? id = some p) : p.id = id := by
  obtain ⟨row, -, hid, rfl⟩ := permission?_some h
  exact hid

/-- A row is read as it was written. -/
theorem permission?_updatePermission {db db' : Database} {p old row : Permission}
    (hold : db.permission? p.id = some old) (hrow : storedPermission p = .ok row)
    (hid : row.id = p.id) (h : db.updatePermission p = .ok db') :
    ∃ q, db'.permission? p.id = some q ∧ q.id = p.id ∧ q.roleId = old.roleId ∧
      q.toTerms = (readPermission row).toTerms := by
  obtain ⟨found, hfound, rfl⟩ := Option.map_eq_some_iff.mp hold
  have hkey : found.id = p.id := by simpa using List.find?_some hfound
  obtain ⟨row', hrow', rfl⟩ := updatePermission_ok h
  cases hrow.symm.trans hrow'
  -- The write leaves every row at its key, so the row is found where it was.
  have hsame : ((fun q : Permission => decide (q.id = p.id)) ∘ fun old =>
      if old.id = p.id then { row with roleId := old.roleId, createdAt := old.createdAt } else old) =
      fun q => decide (q.id = p.id) := by
    funext q
    rw [Function.comp_apply]
    by_cases hq : q.id = p.id
    · rw [if_pos hq, decide_eq_true hq]
      exact decide_eq_true hid
    · rw [if_neg hq]
  refine ⟨readPermission { row with roleId := found.roleId, createdAt := found.createdAt }, ?_,
    hid, rfl, rfl⟩
  unfold permission?
  dsimp only
  rw [List.find?_map, hsame, hfound, Option.map_some, Option.map_some, if_pos hkey]

end Database

namespace Terms

/-- The stored form of what a change makes of settled terms: the parts that it names are as it says,
and the others as they were. -/
theorem Settled.write {t terms : Terms} {e : RuleEdits} {conditions : Value} {b : Bool}
    (ht : t.Settled) (happly : (RuleChange.edits e).apply t = .ok terms)
    (hstored : terms.conditions.stored = .ok conditions) (hb : b = terms.inverted.isTruthy) :
    ({ terms with conditions, inverted := .bool b } : Terms).Settled ∧
      ∀ c, ({ terms with conditions, inverted := .bool b } : Terms).part c =
        (e.part c).getD (t.part c) := by
  have hshaped := RuleChange.apply_shaped ht.shaped happly
  cases happly
  rw [Value.stored_eq_ok] at hstored
  refine ⟨⟨⟨hshaped.action, hshaped.subject, hshaped.fields, ?_⟩, Value.stored?_again hstored,
    ⟨b, rfl⟩⟩, fun c => ?_⟩
  · obtain ⟨es, hes⟩ := hshaped.conditions
    rw [hes] at hstored
    exact stored_optionMap (Value.stored_eq_ok.mpr hstored)
  · cases c with
    | action | subject | fields | reason => rfl
    | conditions =>
        show conditions = (e.conditions.map fun es =>
          (Value.ofOption .map es).stored?.getD .null).getD t.conditions
        unfold RuleChange.applyEdits at hstored
        dsimp only at hstored
        cases hnamed : e.conditions with
        | none =>
            rw [hnamed] at hstored
            exact Option.some.inj (hstored.symm.trans ht.conditions)
        | some es =>
            rw [hnamed] at hstored
            dsimp only [Option.map_some, Option.getD_some] at hstored ⊢
            rw [hstored, Option.getD_some]
    | inverted =>
        show Value.bool b = (e.inverted.map Value.bool).getD t.inverted
        obtain ⟨old, hold⟩ := ht.inverted
        rw [hb]
        unfold RuleChange.applyEdits
        dsimp only
        rw [hold]
        cases e.inverted <;> rfl

end Terms

/-- After a write the row has the parts that the change names as the change says, and all others as
they were in the row that had been read, whatever was in their place by then. -/
theorem Mutation.writeChange_row {e : RuleEdits} {seen old : Permission}
    {done : List (String × Value) × Permission} {w w' : World} (hseen : seen.toTerms.Settled)
    (hold : w.db.permission? seen.id = some old)
    (hwrite : writeChange (.edits e) seen w = (.ok done, w')) :
    ∃ q, w'.db.permission? seen.id = some q ∧ q.id = seen.id ∧ q.roleId = old.roleId ∧
      q.toTerms.Settled ∧ ∀ c, q.toTerms.part c = (e.part c).getD (seen.toTerms.part c) := by
  obtain ⟨before, changed⟩ := done
  obtain ⟨-, ⟨terms, happly, rfl⟩, hupdate⟩ := writeChange_ok hwrite
  obtain ⟨row, hrow, -⟩ := Database.updatePermission_ok hupdate
  obtain ⟨conditions, hstored, rfl⟩ :=
    Database.storedPermission_eq (RuleChange.apply_shaped hseen.shaped happly) hrow
  obtain ⟨hsettled, hparts⟩ := hseen.write happly hstored rfl
  obtain ⟨q, hq, hid, hrole, hterms⟩ := @Database.permission?_updatePermission w.db w'.db
    { seen with toTerms := terms } old _ hold hrow rfl hupdate
  refine ⟨q, hq, hid, hrole, ?_, fun c => ?_⟩
  · rw [hterms]
    exact hsettled
  · rw [hterms]
    exact hparts c

/-- If no step fails, a change whose conditions can be stored is written over a row that was read,
whatever has become of the row since. -/
theorem Mutation.writeChange_settled {e : RuleEdits} {seen : Permission} {w : World}
    (hsound : w.faults = FaultPlan.none) (hseen : seen.toTerms.Settled)
    (hjson : ∀ es, e.conditions = some es → ∃ v, (Value.ofOption .map es).stored = .ok v) :
    ∃ done w', writeChange (.edits e) seen w = (.ok done, w') ∧ w'.faults = FaultPlan.none := by
  have hstored : ∃ v, (RuleChange.applyEdits e seen.toTerms).conditions.stored = .ok v := by
    unfold RuleChange.applyEdits
    dsimp only
    cases hnamed : e.conditions with
    | none => exact ⟨_, Value.stored_eq_ok.mpr hseen.conditions⟩
    | some es => exact hjson es hnamed
  obtain ⟨v, hv⟩ := hstored
  have happly : (RuleChange.edits e).apply seen.toTerms =
      .ok (RuleChange.applyEdits e seen.toTerms) := rfl
  have hrow := @Database.storedPermission_of_shaped
    { seen with toTerms := RuleChange.applyEdits e seen.toTerms }
    (RuleChange.apply_shaped hseen.shaped happly) v hv
  have hupdate : ∃ db, w.db.updatePermission
      { seen with toTerms := RuleChange.applyEdits e seen.toTerms } = .ok db := by
    unfold Database.updatePermission
    rw [hrow]
    exact ⟨_, rfl⟩
  obtain ⟨db, hdb⟩ := hupdate
  obtain ⟨w', hwrite, hsound'⟩ :=
    writeChange_apply hsound (hseen.shaped.snapshot_eq (.uuid seen.id)) happly hdb
  exact ⟨_, w', hwrite, hsound'⟩

/-! ## Requests that overlap -/

/-- A request to change a permission that has read the row and not written it yet. -/
structure Rewrite where
  edits : RuleEdits
  seen : Permission
  /-- The changes that the row carried which was read, newest first. -/
  base : List RuleEdits
  /-- How many changes had been written by then. -/
  version : Nat

/-- Requests to change one permission, between two steps. Each list has the newest first. -/
structure Contention where
  world : World
  pending : List Rewrite
  /-- The changes that the row carries. -/
  carried : List RuleEdits
  /-- The changes that were written. -/
  made : List RuleEdits
  /-- The changes that were written over a row that had been written since it was read. -/
  stale : List RuleEdits

namespace Contention

def atRest (w : World) : Contention := ⟨w, [], [], [], []⟩

/-- After a request has read the row. -/
def read (t : Contention) (edits : RuleEdits) (seen : Permission) (w : World) : Contention :=
  { t with
    world := w, pending := ⟨edits, seen, t.carried, t.made.length⟩ :: t.pending }

/-- After a request has written the row, while others are still to do so. -/
def write (t : Contention) (r : Rewrite) (others : List Rewrite) (w : World) : Contention where
  world := w
  pending := others
  carried := r.edits :: r.base
  made := r.edits :: t.made
  stale := if r.version = t.made.length then t.stale else r.edits :: t.stale

/-- What can come about from a world when requests change a permission of a role: each reads the row
and writes it later, and their steps come in any order. In between anything may happen that leaves
the row as it is. -/
inductive From (roleId id : Uuid) (start : World) : Contention → Prop where
  | atRest : From roleId id start (atRest start)
  | meanwhile {t : Contention} {w : World} (before : From roleId id start t)
      (same : w.db.permission? id = t.world.db.permission? id) :
      From roleId id start { t with world := w }
  | read {t : Contention} (before : From roleId id start t) (edits : RuleEdits)
      {seen : Permission} {w : World}
      (made : Mutation.readForChange roleId id t.world = (.ok seen, w)) :
      From roleId id start (t.read edits seen w)
  | write {t : Contention} (before : From roleId id start t) (earlier : List Rewrite) (r : Rewrite)
      (later : List Rewrite) (pending : t.pending = earlier ++ r :: later)
      {done : List (String × Value) × Permission} {w : World}
      (made : Mutation.writeChange (.edits r.edits) r.seen t.world = (.ok done, w)) :
      From roleId id start (t.write r (earlier ++ later) w)

/-! ### What the row says -/

/-- The row says what comes of the changes that it carries, and so does each row that was read. -/
structure Sound (id : Uuid) (first : Terms) (t : Contention) : Prop where
  row : ∃ p, t.world.db.permission? id = some p ∧ p.id = id ∧ first.Comes t.carried p.toTerms
  pending : ∀ r ∈ t.pending, r.seen.id = id ∧ first.Comes r.base r.seen.toTerms

/-- A write adds its change to those that the row carried which had been read. -/
theorem Sound.write {id : Uuid} {first : Terms} {t : Contention} (h : Sound id first t)
    {earlier later : List Rewrite} {r : Rewrite} (hpending : t.pending = earlier ++ r :: later)
    {done : List (String × Value) × Permission} {w : World}
    (hmade : Mutation.writeChange (.edits r.edits) r.seen t.world = (.ok done, w)) :
    Sound id first (t.write r (earlier ++ later) w) := by
  have hwaiting := h.pending
  rw [hpending] at hwaiting
  obtain ⟨hid, hbase⟩ := hwaiting r (List.mem_append_right _ List.mem_cons_self)
  obtain ⟨old, hold, -⟩ := h.row
  rw [← hid] at hold
  obtain ⟨q, hq, hqid, -, hsettled, hparts⟩ := Mutation.writeChange_row hbase.settled hold hmade
  refine ⟨⟨q, by rw [← hid]; exact hq, hqid.trans hid, hsettled, fun c => ?_⟩, fun s hs => ?_⟩
  · show q.toTerms.part c = ((r.edits :: r.base).findSome? fun e => e.part c).getD (first.part c)
    rw [hparts, hbase.parts, List.findSome?_cons]
    cases r.edits.part c <;> rfl
  · exact hwaiting s (((List.sublist_cons_self r later).append_left earlier).subset hs)

theorem From.sound {roleId id : Uuid} {start : World} {t : Contention} {p : Permission}
    (hfirst : start.db.permission? id = some p) (hsettled : p.toTerms.Settled)
    (h : From roleId id start t) : Sound id p.toTerms t := by
  induction h with
  | atRest =>
      exact ⟨⟨p, hfirst, Database.permission?_id hfirst, .refl hsettled⟩,
        fun _ hr => absurd hr List.not_mem_nil⟩
  | meanwhile _ same ih =>
      refine ⟨?_, ih.pending⟩
      show ∃ q, Database.permission? _ id = some q ∧ _
      rw [same]
      exact ih.row
  | @read t before edits seen w made ih =>
      obtain ⟨hseen, -, hstate⟩ := Mutation.readForChange_ok made
      obtain ⟨q, hq, hid, hcomes⟩ := ih.row
      cases hseen.symm.trans hq
      refine ⟨⟨seen, ?_, hid, hcomes⟩, List.forall_mem_cons.mpr ⟨⟨hid, hcomes⟩, ih.pending⟩⟩
      show w.db.permission? id = some seen
      rw [(World.state_eq.mp hstate).1]
      exact hseen
  | write _ earlier r later pending made ih => exact ih.write pending made

/-! ### What was lost on the way -/

/-- How the row came to carry what it carries: as long as no write was stale it carries whatever was
written, and afterwards less than that. -/
structure Counted (t : Contention) : Prop where
  known : t.carried ⊆ t.made
  whole : t.stale = [] → t.carried = t.made
  short : t.stale ≠ [] → t.carried.length < t.made.length
  pending : ∀ r ∈ t.pending, r.base ⊆ t.made ∧ r.base.length ≤ r.version ∧
    r.version ≤ t.made.length ∧ (r.version = t.made.length → r.base = t.carried)

theorem Counted.length_le {t : Contention} (h : t.Counted) : t.carried.length ≤ t.made.length := by
  by_cases hstale : t.stale = []
  · exact Nat.le_of_eq (congrArg List.length (h.whole hstale))
  · exact Nat.le_of_lt (h.short hstale)

theorem Counted.read {t : Contention} (h : t.Counted) (edits : RuleEdits) (seen : Permission)
    (w : World) : (t.read edits seen w).Counted where
  known := h.known
  whole := h.whole
  short := h.short
  pending := List.forall_mem_cons.mpr
    ⟨⟨h.known, h.length_le, Nat.le_refl _, fun _ => rfl⟩, h.pending⟩

/-- A write over the row that it had read keeps what was carried; any other has too little to
build on. -/
theorem Counted.write {t : Contention} (h : t.Counted) {earlier later : List Rewrite} {r : Rewrite}
    (hpending : t.pending = earlier ++ r :: later) (w : World) :
    (t.write r (earlier ++ later) w).Counted := by
  have hwaiting := h.pending
  rw [hpending] at hwaiting
  obtain ⟨hknown, hbase, hversion, hfresh⟩ :=
    hwaiting r (List.mem_append_right _ List.mem_cons_self)
  have hcarried : (t.write r (earlier ++ later) w).carried.length = r.base.length + 1 := rfl
  have hmade : (t.write r (earlier ++ later) w).made.length = t.made.length + 1 := rfl
  have hothers : ∀ s ∈ earlier ++ later, s.base ⊆ r.edits :: t.made ∧ s.base.length ≤ s.version ∧
      s.version ≤ t.made.length + 1 ∧
      (s.version = t.made.length + 1 → s.base = r.edits :: r.base) := fun s hs => by
    obtain ⟨hsubset, hlength, hle, -⟩ :=
      hwaiting s (((List.sublist_cons_self r later).append_left earlier).subset hs)
    have hbehind : s.version < t.made.length + 1 := Nat.lt_succ_of_le hle
    exact ⟨List.subset_cons_of_subset _ hsubset, hlength, Nat.le_of_lt hbehind,
      fun heq => absurd heq (Nat.ne_of_lt hbehind)⟩
  by_cases hcurrent : r.version = t.made.length
  · -- The row is the one that was read.
    have hstale : (t.write r (earlier ++ later) w).stale = t.stale := if_pos hcurrent
    refine ⟨List.cons_subset_cons _ hknown, fun hnone => ?_, fun hsome => ?_, hothers⟩
    · rw [hstale] at hnone
      show r.edits :: r.base = r.edits :: t.made
      rw [hfresh hcurrent, h.whole hnone]
    · rw [hstale] at hsome
      rw [hcarried, hmade, hfresh hcurrent]
      exact Nat.succ_lt_succ (h.short hsome)
  · -- Another write came in between, so fewer changes were there to be read than are made by now.
    have hstale : (t.write r (earlier ++ later) w).stale = r.edits :: t.stale := if_neg hcurrent
    refine ⟨List.cons_subset_cons _ hknown, fun hnone => ?_, fun _ => ?_, hothers⟩
    · rw [hstale] at hnone
      cases hnone
    · rw [hcarried, hmade]
      have hbehind : r.version < t.made.length := Nat.lt_of_le_of_ne hversion hcurrent
      exact Nat.succ_lt_succ (Nat.lt_of_le_of_lt hbase hbehind)

theorem From.counted {roleId id : Uuid} {start : World} {t : Contention}
    (h : From roleId id start t) : t.Counted := by
  induction h with
  | atRest =>
      exact ⟨List.Subset.refl _, fun _ => rfl, fun hstale => absurd rfl hstale,
        fun _ hr => absurd hr List.not_mem_nil⟩
  | meanwhile _ _ ih => exact ⟨ih.known, ih.whole, ih.short, ih.pending⟩
  | read _ edits _ ih => exact ih.read edits _ _
  | write _ earlier r later pending made ih => exact ih.write pending _

/-! ### What becomes of the requests -/

/-- Whatever the order in which requests read and write a row, when no two of their changes have a
part in common: a change that the row carries is there, and of one that it does not carry nothing is
left. It carries them all as long as no request writes over a row that was written since the request
read it, and once that has happened some change is lost. -/
theorem From.row_carries {roleId id : Uuid} {start : World} {p : Permission} {t : Contention}
    (hfirst : start.db.permission? id = some p) (hsettled : p.toTerms.Settled)
    (h : From roleId id start t) (hdisjoint : t.made.Pairwise RuleEdits.Disjoint) :
    ∃ q, t.world.db.permission? id = some q ∧
      (∀ e ∈ t.made, (e ∈ t.carried → q.toTerms.Carries e) ∧
        (e ∉ t.carried → ∀ c, e.part c ≠ none → q.toTerms.part c = p.toTerms.part c)) ∧
      (t.stale = [] → ∀ e ∈ t.made, q.toTerms.Carries e) ∧
      (t.stale ≠ [] → (∀ e ∈ t.made, ∃ c, e.part c ≠ none) → ∃ e ∈ t.made, e ∉ t.carried) := by
  obtain ⟨q, hq, -, hcomes⟩ := (h.sound hfirst hsettled).row
  have hcounted := h.counted
  have hcarries : ∀ e ∈ t.carried, q.toTerms.Carries e := fun e he =>
    hcomes.carries hcounted.known hdisjoint he
  refine ⟨q, hq, fun e he => ⟨hcarries e, fun hnot c hnamed => ?_⟩, fun hstale e he => ?_,
    fun hstale hnames => ?_⟩
  · exact hcomes.lost hcounted.known hdisjoint he hnot hnamed
  · rw [← hcounted.whole hstale] at he
    exact hcarries e he
  · -- Were they all carried, there would be as many of them as were made.
    by_contra hall
    have hsubset : t.made ⊆ t.carried := fun e he => by_contra fun hnot => hall ⟨e, he, hnot⟩
    have hlength := ((RuleEdits.nodup_of_disjoint hdisjoint hnames).subperm hsubset).length_le
    exact absurd hlength (Nat.not_le_of_lt (hcounted.short hstale))

end Contention

/-! ## A forbid that is overwritten

Of the one permission of the sample, one request makes a forbid, and another changes the reason. -/

def RuleEdits.forbid : RuleEdits := { inverted := some true }

def RuleEdits.explain : RuleEdits := { reason := some (.text "second") }

theorem RuleEdits.forbid_disjoint : [explain, forbid].Pairwise Disjoint :=
  List.pairwise_pair.mpr fun c => by cases c <;> first | exact .inl rfl | exact .inr rfl

theorem World.clerksMayRead_settled : clerksMayRead.toTerms.Settled :=
  ⟨⟨⟨["read"], rfl⟩, ⟨["account"], rfl⟩, ⟨none, rfl⟩, ⟨none, rfl⟩⟩, rfl, ⟨false, rfl⟩⟩

theorem World.sample_found (faults : FaultPlan) :
    (sample faults).db.permission? (Uuid.ofNat 2) = some clerksMayRead := rfl

namespace Contention

/-- One after the other, both requests have what they asked for. -/
theorem From.row_carries_in_turn :
    ∃ t, From World.clerks (Uuid.ofNat 2) (World.sample FaultPlan.none) t ∧ t.pending = [] ∧
      t.made = [.explain, .forbid] ∧
      ∃ q, t.world.db.permission? (Uuid.ofNat 2) = some q ∧ ∀ e ∈ t.made, q.toTerms.Carries e := by
  have hsound : (World.sample FaultPlan.none).faults = FaultPlan.none := rfl
  have hfirst := World.sample_found FaultPlan.none
  have hsettled := World.clerksMayRead_settled
  have hrole : World.clerksMayRead.roleId = World.clerks := rfl
  obtain ⟨w₁, hread₁, hdb₁, hsound₁⟩ := Mutation.readForChange_apply hsound hfirst hrole
  obtain ⟨done₁, w₂, hwrite₁, hsound₂⟩ :=
    @Mutation.writeChange_settled .forbid _ w₁ hsound₁ hsettled nofun
  obtain ⟨q₁, hq₁, -, hrole₁, hsettled₁, -⟩ :=
    Mutation.writeChange_row hsettled (by rw [hdb₁]; exact hfirst) hwrite₁
  obtain ⟨w₃, hread₂, -, hsound₃⟩ := Mutation.readForChange_apply hsound₂ hq₁ hrole₁
  obtain ⟨done₂, w₄, hwrite₂, -⟩ :=
    @Mutation.writeChange_settled .explain _ w₃ hsound₃ hsettled₁ nofun
  have hturn := (From.atRest.read .forbid hread₁).write [] _ [] rfl hwrite₁
  have hboth := (hturn.read .explain hread₂).write [] _ [] rfl hwrite₂
  obtain ⟨q, hq, -, hall, -⟩ := hboth.row_carries hfirst hsettled RuleEdits.forbid_disjoint
  exact ⟨_, hboth, rfl, rfl, q, hq, hall rfl⟩

/-- Both read before either writes: the forbid is gone. Not all requests that change different parts
of a permission, and succeed, have what they asked for in the end. -/
theorem forbid_overwritten :
    ¬ ∀ (roleId id : Uuid) (start : World) (p : Permission) (t : Contention),
      start.db.permission? id = some p → p.toTerms.Settled → From roleId id start t →
      t.pending = [] → t.made.Pairwise RuleEdits.Disjoint →
      ∃ q, t.world.db.permission? id = some q ∧ ∀ e ∈ t.made, q.toTerms.Carries e := by
  intro hclaim
  have hsound : (World.sample FaultPlan.none).faults = FaultPlan.none := rfl
  have hfirst := World.sample_found FaultPlan.none
  have hsettled := World.clerksMayRead_settled
  have hrole : World.clerksMayRead.roleId = World.clerks := rfl
  obtain ⟨w₁, hread₁, hdb₁, hsound₁⟩ := Mutation.readForChange_apply hsound hfirst hrole
  obtain ⟨w₂, hread₂, -, hsound₂⟩ :=
    Mutation.readForChange_apply hsound₁ (by rw [hdb₁]; exact hfirst) hrole
  obtain ⟨done₁, w₃, hwrite₁, hsound₃⟩ :=
    @Mutation.writeChange_settled .forbid _ w₂ hsound₂ hsettled nofun
  obtain ⟨done₂, w₄, hwrite₂, -⟩ :=
    @Mutation.writeChange_settled .explain _ w₃ hsound₃ hsettled nofun
  have hread := (From.atRest.read .forbid hread₁).read .explain hread₂
  have hboth := (hread.write [_] _ [] rfl hwrite₁).write [] _ [] rfl hwrite₂
  obtain ⟨q, hq, hall⟩ := hclaim _ _ _ _ _ hfirst hsettled hboth rfl RuleEdits.forbid_disjoint
  obtain ⟨q', hq', -, hcomes⟩ := (hboth.sound hfirst hsettled).row
  cases hq.symm.trans hq'
  have hforbids := hall .forbid (List.mem_cons_of_mem _ List.mem_cons_self) .inverted _ rfl
  rw [hcomes.parts .inverted] at hforbids
  cases hforbids

end Contention

end Warrant
