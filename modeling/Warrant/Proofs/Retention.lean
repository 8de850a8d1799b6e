import Mathlib.Data.List.Basic
import Warrant.CommandLine.Program
import Warrant.Proofs.Pages

/-!
# What cleaning up removes

Entries of the log are kept for a number of days, which a setting or the caller
names, and neither has a greatest one. Which entries are older than that is plain
arithmetic. The moment before which entries are removed is not, for it must lie
in the calendar, and the calendar has a first day.

As long as it reaches back so many days, the moment is there and cleaning up
removes just what is older. Beyond that there is no such moment, and cleaning up
fails where it would have found nothing to remove. What fails removes nothing, so
that in any case a longer retention keeps at least as much.
-/

namespace Warrant

/-! ## The moment so many days before -/

namespace Instant

variable {t : Instant} {days : Int}

/-- The calendar reaches back so many days from a moment. -/
def Reaches (t : Instant) (days : Int) : Prop := days * perDay ≤ t.localMicros

instance (t : Instant) (days : Int) : Decidable (t.Reaches days) :=
  inferInstanceAs (Decidable (_ ≤ _))

theorem Reaches.of_le {more : Int} (h : t.Reaches more) (hle : days ≤ more) : t.Reaches days := by
  have hday : perDay = 86400000000 := rfl
  unfold Reaches at h ⊢
  rw [hday] at h ⊢
  omega

theorem inCalendar_iff : t.inCalendar = true ↔ 0 ≤ t.localMicros ∧ t.localMicros < limit := by
  unfold inCalendar
  rw [Bool.and_eq_true, decide_eq_true_iff, decide_eq_true_iff]

theorem daysBefore?_of_reaches (ht : t.inCalendar = true) (hdays : 0 ≤ days)
    (h : t.Reaches days) : t.daysBefore? days = some ⟨t.micros - days * perDay, t.offset⟩ := by
  have hday : perDay = 86400000000 := rfl
  have hlimit : limit = 315537897600000000 := rfl
  have hspan : maxDays = 999999999 := rfl
  rw [inCalendar_iff, localMicros] at ht
  rw [Reaches, localMicros] at h
  -- The calendar is shorter than the longest span, so it is the only bound that counts.
  have hbounds : -maxDays ≤ days ∧ days ≤ maxDays := by
    rw [hday] at h
    omega
  have hthere : (⟨t.micros + -(days * perDay), t.offset⟩ : Instant).inCalendar = true := by
    rw [inCalendar_iff, localMicros]
    dsimp only
    rw [hday] at h ⊢
    omega
  unfold daysBefore? add?
  rw [if_pos hbounds, if_pos hthere]
  rfl

theorem daysBefore?_of_not_reaches (h : ¬ t.Reaches days) : t.daysBefore? days = none := by
  have hgone : ¬ (⟨t.micros + -(days * perDay), t.offset⟩ : Instant).inCalendar = true := by
    intro hthere
    rw [inCalendar_iff, localMicros] at hthere
    rw [Reaches, localMicros] at h
    dsimp only at hthere
    omega
  unfold daysBefore? add?
  dsimp only
  rw [if_neg hgone, ite_self]

end Instant

/-! ## What is older -/

/-- An entry was made strictly before the moment so many days before now. -/
def AuditEntry.OlderThan (e : AuditEntry) (days : Int) (now : Instant) : Prop :=
  e.createdAt.micros < now.micros - days * Instant.perDay

instance (e : AuditEntry) (days : Int) (now : Instant) : Decidable (e.OlderThan days now) :=
  inferInstanceAs (Decidable (_ < _))

theorem AuditEntry.OlderThan.of_more {e : AuditEntry} {days more : Int} {now : Instant}
    (h : e.OlderThan more now) (hle : days ≤ more) : e.OlderThan days now := by
  have hday : Instant.perDay = 86400000000 := rfl
  unfold OlderThan at h ⊢
  rw [hday] at h ⊢
  omega

/-- What a clock can show, it shows on a day of the calendar, so nothing is older than that. -/
theorem AuditEntry.not_olderThan_of_not_reaches {e : AuditEntry} {days : Int} {now : Instant}
    (h : ¬ now.Reaches days) (hshown : 0 ≤ e.createdAt.micros + now.offset.getD 0) :
    ¬ e.OlderThan days now := by
  intro hold
  unfold OlderThan at hold
  rw [Instant.Reaches, Instant.localMicros] at h
  omega

namespace Database

/-- The entries that are older than so many days. -/
def olderThan (db : Database) (days : Int) (now : Instant) : List AuditEntry :=
  db.auditLog.filter fun e => e.OlderThan days now

/-- The tables without those entries. -/
def keptFor (db : Database) (days : Int) (now : Instant) : Database :=
  { db with auditLog := db.auditLog.filter fun e => ¬ e.OlderThan days now }

theorem deleteAuditBefore_eq (db : Database) (days : Int) (now : Instant) (offset : Option Int) :
    db.deleteAuditBefore ⟨now.micros - days * Instant.perDay, offset⟩ =
      ((db.olderThan days now).length, db.keptFor days now) := by
  unfold deleteAuditBefore olderThan keptFor
  simp only [decide_not]
  rfl

/-- For more days at least as much is kept. -/
theorem keptFor_sublist (db : Database) {days more : Int} (now : Instant) (hle : days ≤ more) :
    (db.keptFor days now).auditLog.Sublist (db.keptFor more now).auditLog := by
  refine List.monotone_filter_right db.auditLog fun e hkept => ?_
  rw [decide_eq_true_eq] at hkept ⊢
  intro hold
  exact hkept (hold.of_more hle)

end Database

/-! ## Cleaning up -/

namespace Audit

variable {w : World} {days : Int}

/-- Whatever cleaning up fails at, nothing has been removed. -/
theorem deleteOlderThan_error {w' : World} {f : Failure}
    (h : deleteOlderThan days w = (.error f, w')) : w'.state = w.state := by
  have hcutoff : Work.Keeps World.state (cutoff days) := by
    refine Work.Keeps.bind Work.Keeps.readClock fun now => ?_
    cases now.daysBefore? days with
    | some t => exact Work.Keeps.pure t
    | none => exact Work.Keeps.fail _
  have hdelete : ∀ t, Work.Keeps World.cache (Store.deleteAuditBefore t) := fun t =>
    (Work.Keeps.query .auditDelete fun db => db.deleteAuditBefore t).cache.bind fun _ =>
      Work.Keeps.bind (fun _ => rfl) fun _ => Work.Keeps.pure _
  obtain hearly | ⟨t, w₁, ht, hlate⟩ := Work.bind_error.mp h
  · exact hcutoff.after hearly
  · rw [← hcutoff.after ht]
    exact World.state_eq.mpr
      ⟨Work.transact_error hlate, (Work.Keeps.transact (hdelete t)).after hlate⟩

variable (hsound : w.faults = FaultPlan.none) (hruns : w.clock.Runs)
  (hnow : w.clock.now.inCalendar = true)

include hruns in
theorem cutoff_apply (days : Int) : ∃ c : Clock, cutoff days w =
    match w.clock.now.daysBefore? days with
    | some t => (.ok t, { w with clock := c })
    | none => (.error (.broke .outOfRange), { w with clock := c }) := by
  obtain ⟨next, hnext⟩ := Option.isSome_iff_exists.mp hruns
  refine ⟨{ w.clock with now := next }, ?_⟩
  unfold cutoff
  rw [Work.bind_of_ok (Work.readClock_ok.mpr ⟨next, hnext, rfl, rfl⟩)]
  cases w.clock.now.daysBefore? days <;> rfl

include hsound in
theorem deleteAuditBefore_apply (t : Instant) : Work.transact (Store.deleteAuditBefore t) w =
    (.ok (w.db.deleteAuditBefore t).1,
      { w with db := (w.db.deleteAuditBefore t).2, steps := w.steps + 3 }) := by
  have hopen : ({ w with steps := w.steps + 1 } : World).faults = FaultPlan.none := hsound
  have hbody : Store.deleteAuditBefore t { w with steps := w.steps + 1 } =
      (.ok (w.db.deleteAuditBefore t).1,
        { w with db := (w.db.deleteAuditBefore t).2, steps := w.steps + 2 }) := by
    unfold Store.deleteAuditBefore
    rw [Work.bind_of_ok (Work.query_apply hopen .auditDelete _)]
    rfl
  exact Work.transact_apply hsound hbody hsound

include hsound hruns hnow in
theorem deleteOlderThan_reached (hdays : 0 ≤ days) (h : w.clock.now.Reaches days) :
    ∃ w', deleteOlderThan days w = (.ok (w.db.olderThan days w.clock.now).length, w') ∧
      w'.db = w.db.keptFor days w.clock.now ∧ w'.cache = w.cache := by
  obtain ⟨c, hcutoff⟩ := cutoff_apply hruns days
  rw [Instant.daysBefore?_of_reaches hnow hdays h] at hcutoff
  have hlater : ({ w with clock := c } : World).faults = FaultPlan.none := hsound
  have hdelete := deleteAuditBefore_apply hlater
    ⟨w.clock.now.micros - days * Instant.perDay, w.clock.now.offset⟩
  rw [Database.deleteAuditBefore_eq] at hdelete
  exact ⟨_, (Work.bind_of_ok hcutoff).trans hdelete, rfl, rfl⟩

include hruns in
theorem deleteOlderThan_unreached (h : ¬ w.clock.now.Reaches days) :
    ∃ w', deleteOlderThan days w = (.error (.broke .outOfRange), w') := by
  obtain ⟨c, hcutoff⟩ := cutoff_apply hruns days
  rw [Instant.daysBefore?_of_not_reaches h] at hcutoff
  unfold deleteOlderThan
  exact ⟨_, Work.bind_of_error hcutoff⟩

include hsound hruns hnow in
theorem auditLog_deleteOlderThan (hdays : 0 ≤ days) : (deleteOlderThan days w).2.db.auditLog =
    if w.clock.now.Reaches days then (w.db.keptFor days w.clock.now).auditLog
    else w.db.auditLog := by
  split
  · next h =>
      obtain ⟨w', hcleaned, hdb, -⟩ := deleteOlderThan_reached hsound hruns hnow hdays h
      rw [hcleaned, hdb]
  · next h =>
      obtain ⟨w', hfails⟩ := deleteOlderThan_unreached hruns h
      rw [hfails, (World.state_eq.mp (deleteOlderThan_error hfails)).1]

/-- Cleaning up removes the entries that are older than so many days, whatever the log, and counts
them, if the calendar reaches back that far, and nothing else is touched. If it does not, cleaning
up fails and nothing is removed, though no entry was that old which the clock could show. So for
more days no entry is removed that is kept for fewer. -/
theorem deleteOlderThan_exact {w : World} (hsound : w.faults = FaultPlan.none)
    (hruns : w.clock.Runs) (hnow : w.clock.now.inCalendar = true) {days : Int} (hdays : 0 ≤ days) :
    (w.clock.now.Reaches days →
      ∃ w', deleteOlderThan days w = (.ok (w.db.olderThan days w.clock.now).length, w') ∧
        w'.db = w.db.keptFor days w.clock.now ∧ w'.cache = w.cache) ∧
    (¬ w.clock.now.Reaches days →
      (∃ w', deleteOlderThan days w = (.error (.broke .outOfRange), w') ∧ w'.state = w.state) ∧
      ∀ e ∈ w.db.auditLog, 0 ≤ e.createdAt.micros + w.clock.now.offset.getD 0 →
        ¬ e.OlderThan days w.clock.now) ∧
    ∀ more : Int, days ≤ more → (deleteOlderThan days w).2.db.auditLog.Sublist
      (deleteOlderThan more w).2.db.auditLog := by
  refine ⟨deleteOlderThan_reached hsound hruns hnow hdays, fun h => ?_, fun more hle => ?_⟩
  · obtain ⟨w', hfails⟩ := deleteOlderThan_unreached hruns h
    exact ⟨⟨w', hfails, deleteOlderThan_error hfails⟩,
      fun e _ hshown => e.not_olderThan_of_not_reaches h hshown⟩
  · have hmore : 0 ≤ more := by omega
    rw [auditLog_deleteOlderThan hsound hruns hnow hdays,
      auditLog_deleteOlderThan hsound hruns hnow hmore]
    by_cases hreached : w.clock.now.Reaches more
    · rw [if_pos (hreached.of_le hle), if_pos hreached]
      exact w.db.keptFor_sublist w.clock.now hle
    · rw [if_neg hreached]
      split
      · exact List.filter_sublist
      · exact List.Sublist.refl _

end Audit

/-! ### A log at the turn of the year -/

/-- A world with nothing but a log, at the beginning of the year 2024. -/
def World.atNewYear (log : List AuditEntry) : World :=
  { World.ofLog log with clock := ⟨⟨738885 * Instant.perDay, some 0⟩, Instant.perSecond⟩ }

theorem World.atNewYear_runs (log : List AuditEntry) : (World.atNewYear log).clock.Runs := by
  unfold Clock.Runs
  rfl

namespace Audit

/-- An entry a microsecond older than ninety days, one just as old, and one of this moment. -/
def quarterOfLog : List AuditEntry :=
  [.plain 1 "LOGIN" (738795 * Instant.perDay - 1), .plain 2 "LOGOUT" (738795 * Instant.perDay),
    .plain 3 "LOGIN" (738885 * Instant.perDay)]

/-- For ninety days the first entry goes and the others stay, and they do for a year too. For a
million days there is no moment so long ago, and all stay. -/
theorem deleteOlderThan_exact_quarter :
    (∃ w', deleteOlderThan 90 (.atNewYear quarterOfLog) = (.ok 1, w') ∧
      w'.db.auditLog = quarterOfLog.tail) ∧
    quarterOfLog.tail.Sublist (deleteOlderThan 365 (.atNewYear quarterOfLog)).2.db.auditLog ∧
    (∃ w', deleteOlderThan 1000000 (.atNewYear quarterOfLog) = (.error (.broke .outOfRange), w') ∧
      w'.db.auditLog = quarterOfLog) ∧
    ∀ e ∈ quarterOfLog, ¬ e.OlderThan 1000000 (World.atNewYear quarterOfLog).clock.now := by
  have hruns := World.atNewYear_runs quarterOfLog
  obtain ⟨hcleaned, -, hmore⟩ := deleteOlderThan_exact rfl hruns rfl (show (0 : Int) ≤ 90 by decide)
  obtain ⟨-, hfails, -⟩ := deleteOlderThan_exact rfl hruns rfl (show (0 : Int) ≤ 1000000 by decide)
  obtain ⟨w₁, hrun, hdb, -⟩ := hcleaned (by decide)
  obtain ⟨⟨w₂, hbroke, hstate⟩, hyoung⟩ := hfails (by decide)
  have hkept : w₁.db.auditLog = quarterOfLog.tail := by
    rw [hdb]
    rfl
  have hshown : ∀ e ∈ quarterOfLog, 0 ≤ e.createdAt.micros + (0 : Int) := by decide
  refine ⟨⟨w₁, hrun, hkept⟩, ?_, ⟨w₂, hbroke, ?_⟩, fun e he => hyoung e he (hshown e he)⟩
  · have hyear := hmore 365 (by decide)
    rw [hrun, hkept] at hyear
    exact hyear
  · rw [(World.state_eq.mp hstate).1]
    rfl

/-- No entry is a million days old, and yet cleaning up for so many days is a failure. -/
theorem no_cleanup_beyond_calendar :
    (World.atNewYear quarterOfLog).faults = FaultPlan.none ∧
      (World.atNewYear quarterOfLog).clock.Runs ∧
      (World.atNewYear quarterOfLog).clock.now.inCalendar = true ∧ (0 : Int) ≤ 1000000 ∧
      (World.atNewYear quarterOfLog).db.olderThan 1000000
        (World.atNewYear quarterOfLog).clock.now = [] ∧
      ¬ ∃ n, (deleteOlderThan 1000000 (.atNewYear quarterOfLog)).1 = .ok n := by
  have hruns := World.atNewYear_runs quarterOfLog
  have hfar : ¬ (World.atNewYear quarterOfLog).clock.now.Reaches 1000000 := by decide
  refine ⟨rfl, hruns, rfl, by decide, rfl, ?_⟩
  rintro ⟨n, hn⟩
  obtain ⟨w', hbroke⟩ := deleteOlderThan_unreached hruns hfar
  rw [hbroke] at hn
  cases hn

end Audit

/-! ## The command

What the command works with is a retention that it was told or that is set. It takes no negative
number, and the setting none below one. -/

namespace Settings

theorem setting_fst {α : Type} {P : α → Prop} {read : String → Except SettingError α} {default : α}
    (hdefault : P default) (hread : ∀ s a, read s = .ok a → P a)
    (environment : List (String × String)) (name : String)
    (errors : List (String × SettingError)) :
    P (setting environment name read default errors).1 := by
  unfold setting
  split
  · exact hdefault
  · next s _ =>
      split
      · next a ha => exact hread s a ha
      · exact hdefault

theorem one_le_of_readDays {s : String} {n : Int} (h : readDays s = .ok n) : 1 ≤ n := by
  unfold readDays at h
  split at h
  · next m _ =>
      split at h
      · cases h
      · cases h
        omega
  · cases h

theorem one_le_auditRetentionDays {environment : List (String × String)} {settings : Settings}
    (h : read environment = .ok settings) : 1 ≤ settings.auditRetentionDays := by
  unfold read at h
  dsimp only at h
  split at h
  · cases h
    exact setting_fst (P := fun n : Int => 1 ≤ n) (by decide) (fun _ _ => one_le_of_readDays) _ _ _
  · cases h

end Settings

namespace CommandLine

/-- The days that the options of a call ask for. -/
def asked (options : List (String × String)) : Option Int :=
  (lastValue? options days.name).bind Text.Numeral.readDecimal?

/-- The days that entries are kept for: those asked for, or those that are set. -/
def retention (options : List (String × String)) (settings : Settings) : Int :=
  (asked options).getD settings.auditRetentionDays

section

variable {w : World} {args : List String} {environment : List (String × String)}
  {options : List (String × String)} {settings : Settings}
  (hcall : call [days] args = .given options) (hsettings : configure environment = .ok settings)
  (hasked : ∀ n, asked options = some n → 0 ≤ n)

theorem read_of_configure (hsettings : configure environment = .ok settings) :
    Settings.read environment = .ok settings := by
  unfold configure at hsettings
  split at hsettings
  · cases hsettings
  · next hread =>
      split at hsettings
      · cases hsettings
      · cases hsettings
        exact hread

theorem execute_of_ok {body : Settings → Work String} {output : String} {w' : World}
    (hsettings : configure environment = .ok settings) (h : body settings w = (.ok output, w')) :
    execute environment body w = (⟨.code 0, output, [pool settings]⟩, w') := by
  unfold execute
  rw [hsettings]
  dsimp only
  rw [h]

theorem execute_of_error {body : Settings → Work String} {why : Failure} {w' : World}
    (hsettings : configure environment = .ok settings) (h : body settings w = (.error why, w')) :
    execute environment body w = (⟨.failed why, "", [pool settings]⟩, w') := by
  unfold execute
  rw [hsettings]
  dsimp only
  rw [h]

include hsettings hasked in
theorem retention_nonneg : 0 ≤ retention options settings := by
  have hset := Settings.one_le_auditRetentionDays (read_of_configure hsettings)
  unfold retention
  cases hoptions : asked options with
  | none =>
      rw [Option.getD_none]
      omega
  | some n => exact hasked n hoptions

include hcall hasked in
theorem cleanUp_eq : cleanUp args environment w =
    execute environment (fun settings => do
      return cleanupReport (← Audit.deleteOlderThan (retention options settings))) w := by
  have hnone : ¬ (asked options).any (· < 0) = true := by
    cases hoptions : asked options with
    | none => exact Bool.false_ne_true
    | some n =>
        have hn := hasked n hoptions
        rw [Option.any_some, decide_eq_true_iff]
        omega
  unfold cleanUp
  rw [hcall]
  exact if_neg hnone

/-- The command says how many entries were older than it was told or set, and has removed them, if
the calendar reaches back that far. If it does not, the command fails and has removed none. -/
theorem cleanUp_exact (hsound : w.faults = FaultPlan.none) (hruns : w.clock.Runs)
    (hnow : w.clock.now.inCalendar = true) (hcall : call [days] args = .given options)
    (hsettings : configure environment = .ok settings)
    (hasked : ∀ n, asked options = some n → 0 ≤ n) :
    (w.clock.now.Reaches (retention options settings) →
      ∃ w', cleanUp args environment w =
          (⟨.code 0, cleanupReport (w.db.olderThan (retention options settings) w.clock.now).length,
            [pool settings]⟩, w') ∧
        w'.db = w.db.keptFor (retention options settings) w.clock.now ∧ w'.cache = w.cache) ∧
    (¬ w.clock.now.Reaches (retention options settings) →
      ∃ w', cleanUp args environment w =
          (⟨.failed (.broke .outOfRange), "", [pool settings]⟩, w') ∧ w'.state = w.state) := by
  have hdays := retention_nonneg hsettings hasked
  rw [cleanUp_eq hcall hasked]
  refine ⟨fun h => ?_, fun h => ?_⟩
  · obtain ⟨w', hcleaned, hleft⟩ := Audit.deleteOlderThan_reached hsound hruns hnow hdays h
    exact ⟨w', execute_of_ok hsettings (Work.bind_of_ok hcleaned), hleft⟩
  · obtain ⟨w', hfails⟩ := Audit.deleteOlderThan_unreached hruns h
    exact ⟨w', execute_of_error hsettings (Work.bind_of_error hfails),
      Audit.deleteOlderThan_error hfails⟩

end

/-- Told to keep a million days, the command fails. -/
example : (cleanUp ["--days", "1000000"] [] (.atNewYear [])).1.exit =
    .failed (.broke .outOfRange) := rfl

end CommandLine

end Warrant
