import Mathlib.Order.Bounds.Defs
import Warrant.Audit.Query
import Warrant.Proofs.Work

/-!
# Pages of the log

A page is a slice of a listing, and the listing is sorted anew for every page.
That no entry is lost or shown twice at the border of two pages therefore rests
on the order: it leaves nothing open, since entries of the same moment come by
their ids, and no two have the same. So all pages are slices of one list, and
next to each other they are this list.

The rows of a page must be read as entries, and an entry has one of a closed set
of actions. A row with another word in that column has no reading. A page with
such a row is a failure, but the pages beside it are not.
-/

namespace Warrant

/-! ## Slices -/

theorem take_mul_eq_flatMap {α : Type} (xs : List α) (size n : Nat) :
    xs.take (n * size) = (List.range n).flatMap fun i => (xs.drop (i * size)).take size := by
  induction n with
  | zero => rw [Nat.zero_mul, List.take_zero, List.range_zero, List.flatMap_nil]
  | succ n ih =>
      rw [Nat.succ_mul, List.take_add, ih, List.range_succ, List.flatMap_append,
        List.flatMap_singleton]

/-! ## The order of listings -/

namespace AuditEntry

/-- An entry comes before another: it is later, or of the same moment and has the lesser id. -/
def Precedes (a b : AuditEntry) : Prop :=
  b.createdAt.micros < a.createdAt.micros ∨
    a.createdAt.micros = b.createdAt.micros ∧ a.id.number < b.id.number

theorem listedBefore_iff {a b : AuditEntry} :
    a.listedBefore b = true ↔ b.createdAt.micros < a.createdAt.micros ∨
      a.createdAt.micros = b.createdAt.micros ∧ a.id.number ≤ b.id.number := by
  unfold listedBefore Uuid.le
  split
  · next hlater => exact iff_of_true rfl (.inl hlater)
  · split
    · next hlater hearlier =>
        exact iff_of_false Bool.false_ne_true (by omega)
    · rw [decide_eq_true_iff]
      omega

theorem listedBefore_trans (a b c : AuditEntry) (hab : a.listedBefore b = true)
    (hbc : b.listedBefore c = true) : a.listedBefore c = true := by
  rw [listedBefore_iff] at *
  omega

theorem listedBefore_total (a b : AuditEntry) :
    (a.listedBefore b || b.listedBefore a) = true := by
  rw [Bool.or_eq_true, listedBefore_iff, listedBefore_iff]
  omega

theorem precedes_of_listedBefore {a b : AuditEntry} (h : a.listedBefore b = true)
    (hne : a.id ≠ b.id) : a.Precedes b := by
  have hnumber : a.id.number ≠ b.id.number := fun heq => hne (by
    cases ha : a.id
    cases hb : b.id
    rw [ha, hb] at heq
    simpa using heq)
  rw [listedBefore_iff] at h
  unfold Precedes
  omega

end AuditEntry

/-! ## Reading rows -/

namespace AuditEntry

/-- The word for the action of an entry is one of those that are known. -/
def Known (e : AuditEntry) : Prop := ∃ a : AuditAction, e.action = a.name

/-- An entry as it is read: without metadata it has an empty mapping of it. -/
def asRead (e : AuditEntry) : AuditEntry :=
  { e with metadata := if e.metadata.isTruthy then e.metadata else .map [] }

theorem readEntry_of_known {e : AuditEntry} (h : e.Known) : Store.readEntry e = .ok e.asRead := by
  obtain ⟨a, ha⟩ := h
  have hword : AuditAction.ofName? e.action = some a := by rw [ha, AuditAction.ofName?_name]
  unfold Store.readEntry
  rw [hword]
  rfl

theorem readEntry_of_unknown {e : AuditEntry} (h : ¬ e.Known) :
    Store.readEntry e = .error .unknownValue := by
  unfold Store.readEntry
  cases ha : AuditAction.ofName? e.action with
  | none => rfl
  | some a => exact absurd ⟨a, (by simpa using List.find?_some ha : a.name = e.action).symm⟩ h

theorem readEntries_of_known {es : List AuditEntry} (h : ∀ e ∈ es, e.Known) :
    Store.readEntries es = .ok (es.map asRead) := by
  induction es with
  | nil => rfl
  | cons e rest ih =>
      rw [List.forall_mem_cons] at h
      rw [Store.readEntries, readEntry_of_known h.1, ih h.2]
      rfl

theorem readEntries_of_unknown {es : List AuditEntry} (h : ∃ e ∈ es, ¬ e.Known) :
    Store.readEntries es = .error .unknownValue := by
  induction es with
  | nil =>
      obtain ⟨e, he, -⟩ := h
      cases he
  | cons e rest ih =>
      rw [Store.readEntries]
      by_cases hknown : e.Known
      · obtain ⟨other, hother, hunknown⟩ := h
        obtain rfl | hrest := List.mem_cons.mp hother
        · exact absurd hknown hunknown
        · rw [readEntry_of_known hknown, ih ⟨other, hrest, hunknown⟩]
          rfl
      · rw [readEntry_of_unknown hknown]
        rfl

end AuditEntry

/-! ## Rows of pages -/

namespace Database

variable {db : Database} {f : AuditFilter}

/-- The rows of one page: numbers and sizes below one count as one. -/
def pageRows (db : Database) (f : AuditFilter) (size number : Int) : List AuditEntry :=
  ((db.auditEntries f).drop ((max number 1 - 1) * max size 1).toNat).take (max size 1).toNat

theorem auditEntries_perm : (db.auditEntries f).Perm (db.auditLog.filter f.admits) :=
  List.mergeSort_perm _ _

/-- A listing is in order, and entries with different ids have one order only. -/
theorem auditEntries_precede (hids : (db.auditLog.map AuditEntry.id).Nodup) :
    (db.auditEntries f).Pairwise AuditEntry.Precedes := by
  have hsorted : (db.auditEntries f).Pairwise fun a b => a.listedBefore b = true :=
    List.pairwise_mergeSort AuditEntry.listedBefore_trans AuditEntry.listedBefore_total _
  have hkeys : ((db.auditLog.filter f.admits).map AuditEntry.id).Nodup :=
    List.Nodup.sublist (List.filter_sublist.map _) hids
  have hkeys' : (db.auditEntries f).Pairwise fun a b => a.id ≠ b.id :=
    List.pairwise_map.mp ((auditEntries_perm.map _).nodup_iff.mpr hkeys)
  exact hsorted.imp₂ (fun _ _ => AuditEntry.precedes_of_listedBefore) hkeys'

variable {size : Int}

/-- The rows of a page from the first on are a slice of the listing. -/
theorem pageRows_succ (i : Nat) :
    db.pageRows f size (i + 1) =
      ((db.auditEntries f).drop (i * (max size 1).toNat)).take (max size 1).toNat := by
  have hnumber : max ((i : Int) + 1) 1 - 1 = i := by omega
  have hsize : 0 ≤ max size 1 := by omega
  unfold pageRows
  rw [hnumber, Int.toNat_mul (Int.natCast_nonneg i) hsize, Int.toNat_natCast]

/-- Once there is room for all entries, the pages side by side are the listing. -/
theorem flatMap_pageRows {n : Nat}
    (hn : ((db.auditLog.filter f.admits).length : Int) ≤ n * max size 1) :
    ((List.range n).flatMap fun i : Nat => db.pageRows f size (i + 1)) = db.auditEntries f := by
  have hlength : (db.auditEntries f).length ≤ n * (max size 1).toNat := by
    rw [auditEntries_perm.length_eq]
    have hsize : ((max size 1).toNat : Int) = max size 1 := Int.toNat_of_nonneg (by omega)
    rw [← hsize] at hn
    exact_mod_cast hn
  have hrows : (fun i : Nat => db.pageRows f size (i + 1)) = fun i =>
      ((db.auditEntries f).drop (i * (max size 1).toNat)).take (max size 1).toNat :=
    funext pageRows_succ
  rw [hrows, ← take_mul_eq_flatMap, List.take_of_length_le hlength]

/-- Beyond the room for all entries there are none. -/
theorem pageRows_beyond {n : Nat} {number : Int}
    (hn : ((db.auditLog.filter f.admits).length : Int) ≤ n * max size 1) (hbeyond : n < number) :
    db.pageRows f size number = [] := by
  have hsize : 0 ≤ max size 1 := by omega
  have hoffset : (n : Int) * max size 1 ≤ (max number 1 - 1) * max size 1 :=
    Int.mul_le_mul_of_nonneg_right (by omega) hsize
  have hlength : (db.auditEntries f).length ≤ ((max number 1 - 1) * max size 1).toNat := by
    rw [auditEntries_perm.length_eq]
    omega
  unfold pageRows
  rw [List.drop_eq_nil_of_le hlength, List.take_nil]

end Database

namespace Audit

variable {w : World} {number size : Int} {f : AuditFilter}

/-- If no step fails, the entries are counted and the rows of the page are read. -/
theorem page_apply (hsound : w.faults = FaultPlan.none) :
    page number size f w =
      match Store.readEntries (w.db.pageRows f size number) with
      | .ok results =>
          (.ok ⟨results, (w.db.auditLog.filter f.admits).length, max number 1, max size 1⟩,
            { w with steps := w.steps + 4 })
      | .error why => (.error (.broke why), { w with steps := w.steps + 3 }) := by
  have hsound₁ : ({ w with steps := w.steps + 1 } : World).faults = FaultPlan.none := hsound
  have hsound₂ : ({ w with steps := w.steps + 2 } : World).faults = FaultPlan.none := hsound
  let w₃ : World := { w with steps := w.steps + 3 }
  have hsound₃ : w₃.faults = FaultPlan.none := hsound
  have hcount : Store.auditCount f { w with steps := w.steps + 1 } =
      (.ok (w.db.auditLog.filter f.admits).length, { w with steps := w.steps + 2 }) :=
    Work.query_apply hsound₁ .auditCount _
  have hselect : Store.auditEntries f ((max number 1 - 1) * max size 1).toNat
      (some (max size 1).toNat) { w with steps := w.steps + 2 } =
        Work.ofFault (Store.readEntries (w.db.pageRows f size number)) w₃ := by
    unfold Store.auditEntries
    rw [Work.bind_of_ok (Work.query_apply hsound₂ .auditSelect _)]
    rfl
  unfold page
  cases hread : Store.readEntries (w.db.pageRows f size number) with
  | error why =>
      rw [hread] at hselect
      refine @Work.transact_apply_error _ w hsound _ _ w₃ ?_
      rw [Work.bind_of_ok hcount, Work.bind_of_error hselect]
  | ok results =>
      rw [hread] at hselect
      refine @Work.transact_apply _ w hsound _ _ w₃ ?_ hsound₃
      rw [Work.bind_of_ok hcount, Work.bind_of_ok hselect]
      rfl

/-- A number below one asks for the first page. -/
theorem page_below_one (h : number < 1) : page number size f = page 1 size f := by
  have hnumber : max number 1 = max 1 1 := by omega
  unfold page
  rw [hnumber]

/-- The log in pages. Whatever is looked for and however long a page is, there are rows for each page
such that those of the first pages, as many as hold all that is found, are what is found in its
order, and there are no others. A page whose rows can all be read has their readings as its results
and tells how much there is in all; a page with a row that cannot be read is a failure. -/
theorem page_partition {db : Database} (hids : (db.auditLog.map AuditEntry.id).Nodup)
    (f : AuditFilter) (size : Int) :
    ∃ rows : Int → List AuditEntry,
      (∀ n : Nat,
        IsLeast { n : Nat | ((db.auditLog.filter f.admits).length : Int) ≤ n * max size 1 } n →
          ((List.range n).flatMap fun i : Nat => rows (i + 1)).Perm (db.auditLog.filter f.admits) ∧
          ((List.range n).flatMap fun i : Nat => rows (i + 1)).Pairwise AuditEntry.Precedes ∧
          ∀ number : Int, n < number → rows number = []) ∧
      (∀ number < 1, rows number = rows 1 ∧ page number size f = page 1 size f) ∧
      ∀ (w : World) (number : Int), w.db = db → w.faults = FaultPlan.none →
        ((∀ e ∈ rows number, e.Known) → ∃ w', page number size f w =
          (.ok ⟨(rows number).map AuditEntry.asRead, (db.auditLog.filter f.admits).length,
            max number 1, max size 1⟩, w') ∧ w'.state = w.state) ∧
        ((∃ e ∈ rows number, ¬ e.Known) →
          ∃ w', page number size f w = (.error (.broke .unknownValue), w') ∧
            w'.state = w.state) := by
  refine ⟨db.pageRows f size, fun n hn => ?_, fun number hnumber => ⟨?_, page_below_one hnumber⟩, ?_⟩
  · rw [Database.flatMap_pageRows hn.1]
    exact ⟨Database.auditEntries_perm, Database.auditEntries_precede hids,
      fun number => Database.pageRows_beyond hn.1⟩
  · have hfirst : max number 1 = max 1 1 := by omega
    unfold Database.pageRows
    rw [hfirst]
  · rintro w number rfl hsound
    rw [page_apply hsound]
    refine ⟨fun hknown => ?_, fun hunknown => ?_⟩
    · rw [AuditEntry.readEntries_of_known hknown]
      exact ⟨_, rfl, rfl⟩
    · rw [AuditEntry.readEntries_of_unknown hunknown]
      exact ⟨_, rfl, rfl⟩

end Audit

/-! ### Three entries in pages of two -/

/-- An entry that says no more than what was done and when. -/
def AuditEntry.plain (id : Nat) (action : String) (micros : Int) : AuditEntry where
  id := .ofNat id
  action := action
  entityType := "Role"
  entityId := none
  changes := .null
  description := none
  caller := {}
  metadata := .map []
  createdAt := ⟨micros, some 0⟩

/-- A world with nothing in it but a log. -/
def World.ofLog (log : List AuditEntry) : World where
  db := ⟨[], [], [], log⟩
  cache := RuleCache.empty
  clock := ⟨⟨0, some 0⟩, 1⟩
  issued := 0
  steps := 0
  faults := FaultPlan.none

namespace Audit

/-- Three entries, two of them of one moment. -/
def threeEntries : List AuditEntry :=
  [.plain 2 "CREATE_ROLE" 5, .plain 1 "UPDATE_ROLE" 5, .plain 3 "DELETE_ROLE" 9]

/-- In pages of two, three entries are on the first and the second page. -/
theorem page_partition_three :
    ∃ first second : List AuditEntry, (first ++ second).Perm threeEntries ∧
      (first ++ second).Pairwise AuditEntry.Precedes ∧
      (page 1 2 {} (.ofLog threeEntries)).1 = .ok ⟨first.map AuditEntry.asRead, 3, 1, 2⟩ ∧
      (page 2 2 {} (.ofLog threeEntries)).1 = .ok ⟨second.map AuditEntry.asRead, 3, 2, 2⟩ := by
  have hids : ((World.ofLog threeEntries).db.auditLog.map AuditEntry.id).Nodup := by decide
  obtain ⟨rows, hpages, -, hread⟩ := page_partition hids {} 2
  have hall : threeEntries.filter (AuditFilter.admits {}) = threeEntries := rfl
  have hleast : IsLeast { n : Nat | ((threeEntries.filter (AuditFilter.admits {})).length : Int) ≤
      n * max 2 1 } 2 := by
    rw [hall]
    refine ⟨(by decide : (3 : Int) ≤ (2 : Nat) * max 2 1), fun n hn => ?_⟩
    have hroom : (3 : Int) ≤ n * 2 := hn
    omega
  obtain ⟨hperm, hsorted, -⟩ := hpages 2 hleast
  change (rows 1 ++ (rows 2 ++ [])).Perm threeEntries at hperm
  change (rows 1 ++ (rows 2 ++ [])).Pairwise _ at hsorted
  rw [List.append_nil] at hperm hsorted
  have hknown : ∀ e ∈ rows 1 ++ rows 2, e.Known := fun e he => by
    have hmem := hperm.mem_iff.mp he
    simp only [threeEntries, List.mem_cons, List.not_mem_nil, or_false] at hmem
    obtain rfl | rfl | rfl := hmem
    · exact ⟨.createRole, rfl⟩
    · exact ⟨.updateRole, rfl⟩
    · exact ⟨.deleteRole, rfl⟩
  rw [List.forall_mem_append] at hknown
  obtain ⟨w₁, hfirst, -⟩ := (hread (.ofLog threeEntries) 1 rfl rfl).1 hknown.1
  obtain ⟨w₂, hsecond, -⟩ := (hread (.ofLog threeEntries) 2 rfl rfl).1 hknown.2
  exact ⟨rows 1, rows 2, hperm, hsorted, congrArg Prod.fst hfirst, congrArg Prod.fst hsecond⟩

/-- An entry with a word that is no known action is found, but there is no page to show it on. -/
theorem no_page_of_unknown :
    ((World.ofLog [.plain 1 "RENAME_ROLE" 0]).db.auditLog.map AuditEntry.id).Nodup ∧
      ((World.ofLog [.plain 1 "RENAME_ROLE" 0]).db.auditLog.filter (AuditFilter.admits {})).length =
        1 ∧
      (World.ofLog [.plain 1 "RENAME_ROLE" 0]).faults = FaultPlan.none ∧
      ¬ ∃ p, (page 1 50 {} (.ofLog [.plain 1 "RENAME_ROLE" 0])).1 = .ok p := by
  refine ⟨by decide, rfl, rfl, ?_⟩
  have hunknown : ¬ (AuditEntry.plain 1 "RENAME_ROLE" 0).Known := by
    rintro ⟨a, ha⟩
    cases a <;> exact absurd ha (by decide)
  have hrows : (World.ofLog [.plain 1 "RENAME_ROLE" 0]).db.pageRows {} 50 1 =
      [.plain 1 "RENAME_ROLE" 0] := by
    have hlisted : (World.ofLog [.plain 1 "RENAME_ROLE" 0]).db.auditEntries {} =
        [.plain 1 "RENAME_ROLE" 0] := List.mergeSort_singleton _
    unfold Database.pageRows
    rw [hlisted]
    rfl
  rw [page_apply rfl, hrows,
    AuditEntry.readEntries_of_unknown ⟨_, List.mem_singleton_self _, hunknown⟩]
  rintro ⟨p, hp⟩
  cases hp

end Audit

end Warrant
