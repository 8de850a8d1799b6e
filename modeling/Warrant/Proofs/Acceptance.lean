import Warrant.Proofs.Depth
import Warrant.Proofs.Scrutiny

/-!
# Which rules are accepted

A rule comes as loose data, and whoever sends it may send anything: a number for
the actions, a mapping for the fields, a text for the whole rule. Reading goes
through the parts without asking first what they are, so on its way it meets
values that cannot be gone through and members that cannot be looked up. None of
this gets out: what is sent is accepted, or it is refused as invalid. One thing
does. Conditions may be written in a text, and a text that goes too deep is a
fault that nothing on the way takes for a mistake in what was sent.

What is accepted is said here without the reading. `RuleInput.StatedBy` says when
the entries of a mapping state a rule: where words are asked for there are
words, and the rule has the actions and subjects whose words they are, in the
order in which they stand. `RuleInput.OverdeepBy` says when all but the conditions
would do and these go too deep. `RuleInput.ofValue_ok_iff` and
`RuleInput.ofValue_overdeep_iff` say that reading comes to the one or the other
exactly then.
-/

namespace Warrant

namespace Value

/-- A value that yields texts when it is gone through: a sequence of texts, or a mapping by its
keys. Octets yield numbers, but no octets yield nothing. A text by itself is not taken for its
characters. -/
inductive Yields : Value → List String → Prop where
  | list (texts : List String) : Yields (.list (texts.map .text)) texts
  | tuple (texts : List String) : Yields (.tuple (texts.map .text)) texts
  | keys (es : List (String × Value)) : Yields (.map es) (es.map Prod.fst)
  | noOctets : Yields (.bytes []) []

/-- A value that names words. A single text is a word. -/
inductive Names : Value → List String → Prop where
  | one (s : String) : Names (.text s) [s]
  | several {v : Value} {texts : List String} (yields : v.Yields texts) : Names v texts

/-- The fields that a value gives: none if it is null. -/
inductive GivesFields : Value → Option (List String) → Prop where
  | none : GivesFields .null none
  | some {v : Value} {texts : List String} (yields : v.Yields texts) : GivesFields v (some texts)

/-- The conditions that a value gives: none if it is null, else a mapping, or the one that is
written in a text. -/
inductive GivesConditions : Value → Option (List (String × Value)) → Prop where
  | none : GivesConditions .null none
  | given (es : List (String × Value)) : GivesConditions (.map es) (some es)
  | written {s : String} {es : List (String × Value)} (read : Json.read s = .ok (.map es)) :
      GivesConditions (.text s) (some es)

theorem map_text_inj {texts texts' : List String} :
    texts.map Value.text = texts'.map Value.text ↔ texts = texts' :=
  List.map_inj_right fun _ _ h => Value.text.inj h

/-- What is gone through as texts yields texts. -/
theorem yields_iff {v : Value} (hv : v.isText = false) (texts : List String) :
    v.Yields texts ↔ v.items? = some (texts.map .text) := by
  constructor
  · rintro (⟨⟩ | ⟨⟩ | ⟨es⟩ | ⟨⟩) <;> simp [items?]
  · intro h
    cases v with
    | text s => cases hv
    | list items =>
        cases h
        exact .list texts
    | tuple items =>
        cases h
        exact .tuple texts
    | map es =>
        have hkeys : (es.map Prod.fst).map text = texts.map text := by
          rw [List.map_map]
          exact Option.some.inj h
        rw [← map_text_inj.mp hkeys]
        exact .keys es
    | bytes octets =>
        -- Numbers are no texts, so there are none.
        cases octets with
        | nil =>
            cases texts with
            | nil => exact .noOctets
            | cons _ _ => simp [items?] at h
        | cons _ _ => cases texts <;> simp [items?] at h
    | _ => cases h

/-- Values that are read one by one are texts if only texts are read, and give their words back. -/
theorem eq_map_text {α : Type} {read : Value → Option α} {name : α → String}
    (hread : ∀ v a, read v = some a → v = .text (name a)) {values : List Value}
    (h : ∀ v ∈ values, (read v).isSome = true) :
    values = ((values.filterMap read).map name).map .text := by
  induction values with
  | nil => rfl
  | cons v rest ih =>
      rw [List.forall_mem_cons] at h
      obtain ⟨a, ha⟩ := Option.isSome_iff_exists.mp h.1
      rw [List.filterMap_cons_some ha, List.map_cons, List.map_cons, ← ih h.2, ← hread v a ha]

theorem filterMap_map_text {α : Type} {read : Value → Option α} {name : α → String}
    (hread : ∀ a, read (.text (name a)) = some a) (as : List α) :
    ((as.map name).map Value.text).filterMap read = as := by
  have hback : (read ∘ Value.text ∘ name) = some := funext hread
  rw [List.map_map, List.filterMap_map, hback, List.filterMap_some]

end Value

namespace RuleInput

/-! ## The parts -/

section

variable {v : Value} {texts : List String}

theorem members_of_sequence (htext : v.isText = false)
    (hmembers : members v = Failure.ofFault v.items) :
    members v = .ok (texts.map .text) ↔ v.Names texts := by
  have hnames : v.Names texts ↔ v.Yields texts := by
    refine ⟨?_, .several⟩
    rintro (_ | h)
    · cases htext
    · exact h
  rw [hmembers, hnames, Value.yields_iff htext, Value.items]
  cases v.items? <;> simp [Failure.ofFault]

/-- The members of a part are texts exactly if the value names them. -/
theorem members_texts_iff (htexts : texts ≠ []) :
    members v = .ok (texts.map .text) ↔ v.Names texts := by
  cases v with
  | null =>
      refine iff_of_false (fun h => ?_) (by rintro (_ | ⟨⟨⟩⟩))
      exact htexts (List.map_eq_nil_iff.mp (Except.ok.inj h).symm)
  | text s =>
      rw [members, Except.ok.injEq]
      constructor
      · intro h
        have hone : [s] = texts := Value.map_text_inj.mp h
        rw [← hone]
        exact .one s
      · rintro (_ | ⟨⟨⟩⟩)
        rfl
  | _ => exact members_of_sequence rfl rfl

theorem readFields_of_sequence (hnull : v.isNull = false) (htext : v.isText = false)
    (hread : readFields v = match v.items with
      | .error e => .error (.broke e)
      | .ok items =>
          if items.all Value.isText then .ok (some (items.filterMap Value.text?))
          else .error (.refused (.invalid .fieldsNotTexts)))
    {fields : Option (List String)} : readFields v = .ok fields ↔ v.GivesFields fields := by
  rw [hread, Value.items]
  constructor
  · intro h
    cases hitems : v.items? with
    | none =>
        rw [hitems] at h
        cases h
    | some items =>
        rw [hitems] at h
        dsimp only at h
        split at h
        · next hall =>
            cases h
            have hword : ∀ w s, Value.text? w = some s → w = .text s := fun w s hs => by
              cases w <;> cases hs
              rfl
            have hwords := Value.eq_map_text (fun w s => hword w s) (List.all_eq_true.mp hall)
            rw [List.map_id'] at hwords
            refine .some ((Value.yields_iff htext _).mpr ?_)
            rw [hitems, ← hwords]
        · cases h
  · rintro (_ | hyields)
    · cases hnull
    · rename_i texts
      have hall : (texts.map Value.text).all Value.isText = true := by
        simp [Value.isText, Value.text?]
      have hback : (texts.map Value.text).filterMap Value.text? = texts := by
        rw [List.filterMap_map]
        exact List.filterMap_some
      rw [(Value.yields_iff htext texts).mp hyields]
      dsimp only
      rw [if_pos hall, hback]

/-- Fields are read as what the value gives. -/
theorem readFields_ok_iff {fields : Option (List String)} :
    readFields v = .ok fields ↔ v.GivesFields fields := by
  cases v with
  | null =>
      rw [readFields, Except.ok.injEq]
      constructor
      · rintro rfl
        exact .none
      · rintro (_ | ⟨⟨⟩⟩)
        rfl
  | text s =>
      refine iff_of_false (fun h => ?_) (by rintro (_ | ⟨⟨⟩⟩))
      cases h
  | _ => exact readFields_of_sequence rfl rfl rfl

end

section

variable {α : Type} {part : RulePart} {ofName? : String → Option α} {name : α → String}

theorem word?_eq_some_iff (hname : ∀ s a, ofName? s = some a ↔ name a = s) {v : Value} {a : α} :
    word? ofName? v = some a ↔ v = .text (name a) := by
  cases v with
  | text s => simp [word?, Value.text?, hname, eq_comm]
  | _ => simp [word?, Value.text?]

/-- A part is read as a list exactly if it names the words of the list, of which there is at least
one. -/
theorem readPart_ok_iff (hname : ∀ s a, ofName? s = some a ↔ name a = s) {v : Value}
    {as : List α} : readPart part ofName? v = .ok as ↔ as ≠ [] ∧ v.Names (as.map name) := by
  constructor
  · intro h
    have hne : as ≠ [] := readPart_ne_nil h
    obtain ⟨values, hmembers, -, hwords, rfl⟩ := readPart_eq_ok_iff.mp h
    rw [Value.eq_map_text (fun v a => (word?_eq_some_iff hname).mp) hwords] at hmembers
    exact ⟨hne, (members_texts_iff (mt List.map_eq_nil_iff.mp hne)).mp hmembers⟩
  · rintro ⟨hne, hnames⟩
    have hword : ∀ a, word? ofName? (.text (name a)) = some a := fun a =>
      (word?_eq_some_iff hname).mpr rfl
    have hmembers := (members_texts_iff (mt List.map_eq_nil_iff.mp hne)).mpr hnames
    refine readPart_eq_ok_iff.mpr
      ⟨_, hmembers, by simpa using hne, ?_, Value.filterMap_map_text hword as⟩
    simp [hword]

end

theorem readConditions_ok_iff {v : Value} {conditions : Option (List (String × Value))} :
    readConditions v = .ok conditions ↔ v.GivesConditions conditions := by
  constructor
  · intro h
    unfold readConditions at h
    split at h
    · cases h
      exact .none
    · cases h
      exact .given _
    · split at h
      · next hread =>
          cases h
          exact .written hread
      · cases h
      · cases h
      · cases h
    · cases h
  · rintro (_ | _ | hread)
    · rfl
    · rfl
    · simp only [readConditions, hread]

/-! ## The whole -/

/-- The entries of a mapping state a rule. Its actions and subjects are there, and what else is not
there is as good as null. -/
structure StatedBy (es : List (String × Value)) (rule : RuleInput) : Prop where
  action : ∃ v, Value.find? "action" es = some v ∧ v.Names (rule.action.map Action.name)
  hasAction : rule.action ≠ []
  subject : ∃ v, Value.find? "subject" es = some v ∧ v.Names (rule.subject.map Subject.name)
  hasSubject : rule.subject ≠ []
  fields : ((Value.find? "fields" es).getD .null).GivesFields rule.fields
  conditions : ((Value.find? "conditions" es).getD .null).GivesConditions rule.conditions
  inverted : ((Value.find? "inverted" es).getD .null).isTruthy = rule.inverted
  reason : (Value.find? "reason" es).getD .null = rule.reason

theorem ofValue_map_ok_iff {es : List (String × Value)} {rule : RuleInput} :
    ofValue (.map es) = .ok rule ↔ StatedBy es rule := by
  have hname : ∀ (k : String) (words : List String),
      (∃ v, Value.find? k es = some v ∧ v.Names words) ↔
        Value.find? k es ≠ none ∧ ((Value.find? k es).getD .null).Names words := by
    intro k words
    cases Value.find? k es <;> simp
  rw [ofValue_map_ok, readEntries_ok_iff, readAction, readSubject,
    readPart_ok_iff fun _ _ => Action.ofName?_eq_some_iff,
    readPart_ok_iff fun _ _ => Subject.ofName?_eq_some_iff, readFields_ok_iff,
    readConditions_ok_iff]
  constructor
  · rintro ⟨haction, hsubject, ⟨hactions, has⟩, ⟨hsubjects, hss⟩, hfields, hconditions, hinverted,
      hreason⟩
    exact ⟨(hname _ _).mpr ⟨haction, has⟩, hactions, (hname _ _).mpr ⟨hsubject, hss⟩, hsubjects,
      hfields, hconditions, hinverted, hreason⟩
  · intro h
    obtain ⟨haction, has⟩ := (hname _ _).mp h.action
    obtain ⟨hsubject, hss⟩ := (hname _ _).mp h.subject
    exact ⟨haction, hsubject, ⟨h.hasAction, has⟩, ⟨h.hasSubject, hss⟩, h.fields, h.conditions,
      h.inverted, h.reason⟩

/-- The entries of a mapping would state a rule, but for conditions in a text that goes too deep. -/
structure OverdeepBy (es : List (String × Value)) : Prop where
  action : ∃ v actions, Value.find? "action" es = some v ∧ actions ≠ [] ∧
    v.Names (actions.map Action.name)
  subject : ∃ v subjects, Value.find? "subject" es = some v ∧ subjects ≠ [] ∧
    v.Names (subjects.map Subject.name)
  fields : ∃ fields, ((Value.find? "fields" es).getD .null).GivesFields fields
  conditions : ∃ s, Value.find? "conditions" es = some (.text s) ∧ Json.read s = .error .tooDeep

/-- It takes a text that opens more arrays and objects than there are levels. -/
theorem OverdeepBy.opens {es : List (String × Value)} (h : OverdeepBy es) :
    ∃ s, Value.find? "conditions" es = some (.text s) ∧
      Json.maxLevels < Json.openings s.toList := by
  obtain ⟨s, hfound, hdeep⟩ := h.conditions
  exact ⟨s, hfound, Nat.lt_of_not_le fun hfew => Json.read_shallow hfew hdeep⟩

theorem overdeep_iff {v : Value} :
    overdeep v = true ↔ ∃ s, v = .text s ∧ Json.read s = .error .tooDeep := by
  unfold overdeep
  cases v with
  | text s =>
      simp only [Value.text?, Option.map_some, Value.text.injEq, exists_eq_left']
      split
      · next hdeep => exact iff_of_true rfl (Option.some.inj hdeep)
      · next hother => exact iff_of_false Bool.false_ne_true fun hdeep => hother (congrArg some hdeep)
  | _ => simp only [Value.text?, Option.map_none, Bool.false_eq_true, reduceCtorEq, false_and,
      exists_false]

/-- A rule is read exactly from the mappings that state it. -/
theorem ofValue_ok_iff {v : Value} {rule : RuleInput} :
    ofValue v = .ok rule ↔ ∃ es, v = .map es ∧ StatedBy es rule := by
  cases v with
  | map es => simp [ofValue_map_ok_iff]
  | _ => exact iff_of_false nofun nofun

/-- Reading goes too deep exactly for the mappings whose conditions do. -/
theorem ofValue_overdeep_iff {v : Value} :
    ofValue v = .error (.broke .tooDeep) ↔ ∃ es, v = .map es ∧ OverdeepBy es := by
  have hpart : ∀ {α : Type} {k : String} {es : List (String × Value)} {words : α → List String}
      {good : α → Prop},
      (Value.find? k es ≠ none ∧ ∃ as, good as ∧ ((Value.find? k es).getD .null).Names (words as)) ↔
        ∃ v as, Value.find? k es = some v ∧ good as ∧ v.Names (words as) := by
    intro α k es words good
    cases Value.find? k es <;> simp
  have htext : ∀ es : List (String × Value),
      (∃ s, (Value.find? "conditions" es).getD .null = .text s ∧ Json.read s = .error .tooDeep) ↔
        ∃ s, Value.find? "conditions" es = some (.text s) ∧ Json.read s = .error .tooDeep := by
    intro es
    cases Value.find? "conditions" es <;> simp
  rw [ofValue_tooDeep_iff]
  refine exists_congr fun es => and_congr_right fun _ => ?_
  rw [readEntries_tooDeep_iff, overdeep_iff, htext, readAction, readSubject]
  simp only [readPart_ok_iff fun _ _ => Action.ofName?_eq_some_iff,
    readPart_ok_iff fun _ _ => Subject.ofName?_eq_some_iff, readFields_ok_iff]
  constructor
  · rintro ⟨haction, hsubject, hactions, hsubjects, hfields, hconditions⟩
    exact ⟨hpart.mp ⟨haction, hactions⟩, hpart.mp ⟨hsubject, hsubjects⟩, hfields, hconditions⟩
  · intro h
    obtain ⟨haction, hactions⟩ := hpart.mpr h.action
    obtain ⟨hsubject, hsubjects⟩ := hpart.mpr h.subject
    exact ⟨haction, hsubject, hactions, hsubjects, h.fields, h.conditions⟩

/-- Of any value a rule is read exactly if the value is a mapping that states this rule. Every other
value is refused as invalid, except for the mappings whose conditions go too deep, at which reading
breaks off; these conditions are a text that opens more arrays and objects than there are levels.
Nothing else comes of it: the only other fault that can come up on the way is that a value is of the
wrong kind, and that is refused too. -/
theorem ofValue_closed (v : Value) :
    (∀ rule, ofValue v = .ok rule ↔ ∃ es, v = .map es ∧ StatedBy es rule) ∧
    ((∃ what, ofValue v = .error (.refused (.invalid what))) ↔
      (¬ ∃ es rule, v = .map es ∧ StatedBy es rule) ∧ ¬ ∃ es, v = .map es ∧ OverdeepBy es) ∧
    (ofValue v = .error (.broke .tooDeep) ↔ ∃ es, v = .map es ∧ OverdeepBy es) ∧
    (∀ es, OverdeepBy es → ∃ s, Value.find? "conditions" es = some (.text s) ∧
      Json.maxLevels < Json.openings s.toList) ∧
    (∀ f, ofValue v = .error f → (∃ what, f = .refused (.invalid what)) ∨ f = .broke .tooDeep) ∧
    ∀ es f, v = .map es → readEntries es = .error f →
      (∃ what, f = .refused (.invalid what)) ∨ f = .broke .wrongKind ∨ f = .broke .tooDeep := by
  refine ⟨fun _ => ofValue_ok_iff, ?_, ofValue_overdeep_iff, fun _ => OverdeepBy.opens,
    fun _ => ofValue_error, fun es f _ h => readEntries_error h⟩
  have hstated : (∃ es rule, v = .map es ∧ StatedBy es rule) ↔ ∃ rule, ofValue v = .ok rule := by
    rw [exists_comm]
    exact exists_congr fun rule => ofValue_ok_iff.symm
  rw [hstated, ← ofValue_overdeep_iff]
  rcases hread : ofValue v with f | rule
  · rcases ofValue_error hread with ⟨what, rfl⟩ | rfl <;> simp
  · simp

/-- A rule to read accounts, but for conditions that open a thousand arrays. -/
def bracketsRule : List (String × Value) :=
  [("action", .text "read"), ("subject", .text "account"),
    ("conditions", .text (String.ofList (List.replicate 1000 '[')))]

theorem bracketsRule.overdeep : OverdeepBy bracketsRule where
  action := ⟨_, [.read], rfl, List.cons_ne_nil _ _, .one "read"⟩
  subject := ⟨_, [.account], rfl, List.cons_ne_nil _ _, .one "account"⟩
  fields := ⟨none, .none⟩
  conditions := ⟨_, rfl, Json.read_brackets (by decide)⟩

/-- At a thousand brackets reading breaks off, so not every value is accepted or refused. -/
theorem brackets_break_off :
    ofValue (.map bracketsRule) = .error (.broke .tooDeep) ∧
    ¬ ∀ v, (∃ rule, ofValue v = .ok rule) ∨
      ∃ what, ofValue v = .error (.refused (.invalid what)) := by
  have hbreaks : ofValue (.map bracketsRule) = .error (.broke .tooDeep) :=
    ofValue_overdeep_iff.mpr ⟨_, rfl, bracketsRule.overdeep⟩
  refine ⟨hbreaks, fun h => ?_⟩
  rcases h (.map bracketsRule) with ⟨rule, hrule⟩ | ⟨what, hwhat⟩
  · cases hbreaks.symm.trans hrule
  · cases hbreaks.symm.trans hwhat

/-- A rule whose actions are the keys of a mapping and whose conditions are written in a text. -/
def writtenRule : List (String × Value) :=
  [("subject", .text "file"), ("action", .map [("update", .null), ("read", .int 1)]),
    ("conditions", .text "\x7b\x22team\x22:null\x7d"), ("inverted", .text "no")]

/-- The rule that they state. -/
def writtenRule.stated : RuleInput where
  action := [.update, .read]
  subject := [.file]
  fields := none
  conditions := some [("team", .null)]
  inverted := true
  reason := .null

theorem writtenRule.read_conditions :
    Json.read "\x7b\x22team\x22:null\x7d" = .ok (.map [("team", .null)]) := by
  have hchars : "\x7b\x22team\x22:null\x7d".toList =
      ['\x7b', '\x22', 't', 'e', 'a', 'm', '\x22', ':', 'n', 'u', 'l', 'l', '\x7d'] := by decide
  rw [Json.read, hchars]
  rfl

theorem writtenRule.statedBy : StatedBy writtenRule writtenRule.stated where
  action := ⟨_, rfl, .several (.keys [("update", .null), ("read", .int 1)])⟩
  hasAction := List.cons_ne_nil _ _
  subject := ⟨_, rfl, .one "file"⟩
  hasSubject := List.cons_ne_nil _ _
  fields := .none
  conditions := .written read_conditions
  inverted := rfl
  reason := rfl

/-- The written rule is accepted, one that lists a list as an action is refused, although reading its
parts breaks off, and so is a number. -/
theorem ofValue_closed_written :
    ofValue (.map writtenRule) = .ok writtenRule.stated ∧
    readEntries [("action", .list [.list []]), ("subject", .text "file")] =
        .error (.broke .wrongKind) ∧
      (∃ what, ofValue (.map [("action", .list [.list []]), ("subject", .text "file")]) =
        .error (.refused (.invalid what))) ∧
      ∃ what, ofValue (.int 5) = .error (.refused (.invalid what)) := by
  refine ⟨((ofValue_closed (.map writtenRule)).1 _).mpr ⟨_, rfl, writtenRule.statedBy⟩, rfl,
    (ofValue_closed _).2.1.mpr ⟨?_, ?_⟩, (ofValue_closed (.int 5)).2.1.mpr ⟨?_, ?_⟩⟩
  · rintro ⟨es, rule, hes, hrule⟩
    cases hes
    cases ofValue_ok_iff.mpr ⟨_, rfl, hrule⟩
  · rintro ⟨es, hes, hdeep⟩
    cases hes
    obtain ⟨s, hs, -⟩ := hdeep.conditions
    cases hs
  · rintro ⟨es, rule, hes, -⟩
    cases hes
  · rintro ⟨es, hes, -⟩
    cases hes

end RuleInput

end Warrant
