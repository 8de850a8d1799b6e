import Warrant.Proofs.Rules
import Warrant.RuleChange

/-!
# One rule, checked in two places

A new rule and a change to a rule go through the same checks, part by part. What
differs is what becomes of a value that a check cannot even go through. A new rule
is refused then like any other that does not pass. A change is not: the fault goes
on to the caller. Conditions that go too deep are a fault for both.
`RuleInput.breaksAt` says which fault comes up at which values of which part.

`RuleChange.ofValue_alike` is the comparison. A change of one part, and a rule that
was accepted before with the same value in this part, are both accepted with the same
part, or refused for the same reason, or reading breaks off at the value. And a change
of many parts breaks off at the first part that does not pass, if that is for a fault;
it breaks off nowhere else.
-/

namespace Warrant

namespace RuleInput

/-- What no words can be read from: what is not gone through, and what has a member that cannot be
looked up. -/
def wordless (v : Value) : Bool :=
  match v.items? with
  | none => true
  | some vs => vs.any fun m => !m.isHashable

/-- Whether a value is a text that goes too deep to be read. -/
def overdeep (v : Value) : Bool :=
  match v.text?.map Json.read with
  | some (.error .tooDeep) => true
  | _ => false

/-- A fault that comes up if something is so. -/
def faultIf (why : Fault) (b : Bool) : Option Fault := if b then some why else none

/-- The fault at which reading a part breaks off, for the values at which it does. -/
def breaksAt (part : String) (v : Value) : Option Fault :=
  match part with
  | "action" | "subject" => faultIf .wrongKind (!v.isNull && wordless v)
  | "fields" => faultIf .wrongKind (!v.isNull && v.items?.isNone)
  | "conditions" => faultIf .tooDeep (overdeep v)
  | _ => none

/-- A rule with the parts of a change in the place of its own. -/
def replace (input : RuleInput) (parts : RuleEdits) : RuleInput where
  action := parts.action.getD input.action
  subject := parts.subject.getD input.subject
  fields := parts.fields.getD input.fields
  conditions := parts.conditions.getD input.conditions
  inverted := parts.inverted.getD input.inverted
  reason := parts.reason.getD input.reason

/-- The change to the one part of a rule with a name. -/
def part (input : RuleInput) (k : String) : RuleEdits :=
  match k with
  | "action" => { action := some input.action }
  | "subject" => { subject := some input.subject }
  | "fields" => { fields := some input.fields }
  | "conditions" => { conditions := some input.conditions }
  | "inverted" => { inverted := some input.inverted }
  | "reason" => { reason := some input.reason }
  | _ => {}

/-! ## What comes of reading a part -/

/-- What can come of a check: a result, a refusal of what was sent, or, where it breaks off, a
fault. -/
inductive Judged {α : Type} (fault : Option Fault) : Except Failure α → Prop where
  | accepted (a : α) (h : fault = none) : Judged fault (.ok a)
  | refused (why : Invalid) (h : fault = none) : Judged fault (.error (.refused (.invalid why)))
  | broken (why : Fault) (h : fault = some why) : Judged fault (.error (.broke why))

theorem Judged.map {α β : Type} {fault : Option Fault} {r : Except Failure α} (f : α → β)
    (h : Judged fault r) : Judged fault (r.map f) := by
  cases h with
  | accepted a h => exact .accepted (f a) h
  | refused why h => exact .refused why h
  | broken why h => exact .broken why h

theorem Judged.breaks_iff {α : Type} {fault : Option Fault} {r : Except Failure α} {why : Fault}
    (h : Judged fault r) : r = .error (.broke why) ↔ fault = some why := by
  cases h with
  | accepted a h => simp [h]
  | refused reason h => simp [h]
  | broken found h => simp [h]

theorem Judged.settles {α : Type} {r : Except Failure α} (h : Judged none r) :
    (∃ why, r = .error (.refused (.invalid why))) ∨ ∃ a, r = .ok a := by
  cases h with
  | accepted a => exact Or.inr ⟨a, rfl⟩
  | refused why => exact Or.inl ⟨why, rfl⟩
  | broken _ h => cases h

theorem Judged.error {α : Type} {fault : Option Fault} {r : Except Failure α} {f : Failure}
    (h : Judged fault r) (hf : r = .error f) :
    (∃ why, f = .refused (.invalid why)) ∨ ∃ why, f = .broke why ∧ fault = some why := by
  cases h with
  | accepted => cases hf
  | refused why =>
      cases hf
      exact Or.inl ⟨why, rfl⟩
  | broken why h =>
      cases hf
      exact Or.inr ⟨why, rfl, h⟩

theorem faultIf_eq_some_iff {why found : Fault} {b : Bool} :
    faultIf why b = some found ↔ b = true ∧ why = found := by
  cases b <;> simp [faultIf]

/-- Reading breaks off at what is of the wrong kind or goes too deep, and at nothing else. -/
theorem breaksAt_cases {part : String} {v : Value} {why : Fault} (h : breaksAt part v = some why) :
    why = .wrongKind ∨ why = .tooDeep := by
  unfold breaksAt at h
  split at h
  · exact Or.inl (faultIf_eq_some_iff.mp h).2.symm
  · exact Or.inl (faultIf_eq_some_iff.mp h).2.symm
  · exact Or.inl (faultIf_eq_some_iff.mp h).2.symm
  · exact Or.inr (faultIf_eq_some_iff.mp h).2.symm
  · cases h

theorem members_cases (v : Value) :
    v.isNull = true ∧ members v = .ok [] ∨ (∃ s, v = .text s ∧ members v = .ok [.text s]) ∨
      v.isNull = false ∧ members v = Failure.ofFault v.items := by
  cases v with
  | null => exact Or.inl ⟨rfl, rfl⟩
  | text s => exact Or.inr (Or.inl ⟨s, rfl, rfl⟩)
  | _ => exact Or.inr (Or.inr ⟨rfl, rfl⟩)

section

variable {α : Type} (part : RulePart) (ofName? : String → Option α) (v : Value)

theorem judged_of_members {values : List Value} (h : members v = .ok values) :
    Judged (faultIf .wrongKind (values.any fun m => !m.isHashable)) (readPart part ofName? v) := by
  unfold readPart
  rw [h]
  dsimp only
  cases values with
  | nil => exact .refused _ rfl
  | cons first rest =>
      rw [if_neg (by simp)]
      split
      · next hunhashable => exact .broken _ (faultIf_eq_some_iff.mpr ⟨hunhashable, rfl⟩)
      · next hhashable =>
          have hnone : faultIf .wrongKind ((first :: rest).any fun m => !m.isHashable) = none :=
            if_neg hhashable
          split
          · exact .accepted _ hnone
          · exact .refused _ hnone

theorem readPart_judged :
    Judged (faultIf .wrongKind (!v.isNull && wordless v)) (readPart part ofName? v) := by
  rcases members_cases v with ⟨hnull, hmembers⟩ | ⟨s, rfl, hmembers⟩ | ⟨hnull, hmembers⟩
  · rw [hnull]
    exact judged_of_members part ofName? v hmembers
  · have hreadable : wordless (.text s) = false := by
      simp [wordless, Value.items?, Value.isHashable]
    rw [hreadable]
    exact judged_of_members part ofName? (.text s) hmembers
  · rw [hnull]
    unfold Value.items at hmembers
    unfold wordless
    cases hitems : v.items? with
    | none =>
        rw [hitems] at hmembers
        unfold readPart
        rw [hmembers]
        exact .broken _ rfl
    | some items =>
        rw [hitems] at hmembers
        exact judged_of_members part ofName? v hmembers

variable {part ofName? v}

theorem isHashable_of_word {m : Value} (h : (word? ofName? m).isSome = true) :
    m.isHashable = true := by
  cases m <;> first | rfl | cases h

/-- A part is read if it has members, and all of them are words. -/
theorem readPart_eq_ok_iff {words : List α} : readPart part ofName? v = .ok words ↔
    ∃ values, members v = .ok values ∧ values ≠ [] ∧
      (∀ m ∈ values, (word? ofName? m).isSome = true) ∧
      values.filterMap (word? ofName?) = words := by
  have hknown : ∀ values : List Value, (values.filter fun v => (word? ofName? v).isNone) = [] ↔
      ∀ m ∈ values, (word? ofName? m).isSome = true := fun values => by
    simp only [List.filter_eq_nil_iff, Bool.not_eq_true, Option.isNone_eq_false_iff]
  unfold readPart
  constructor
  · intro h
    split at h
    · cases h
    · next values hmembers =>
        split at h
        · cases h
        · next hsome =>
            split at h
            · cases h
            · split at h
              · next hnone =>
                  refine ⟨values, hmembers, ?_, (hknown values).mp hnone, Except.ok.inj h⟩
                  rintro rfl
                  exact hsome rfl
              · cases h
  · rintro ⟨values, hmembers, hne, hwords, rfl⟩
    have hhashable : ¬ (values.any fun m => !m.isHashable) = true := by
      rw [List.any_eq_true]
      rintro ⟨m, hm, hnot⟩
      rw [isHashable_of_word (hwords m hm)] at hnot
      cases hnot
    rw [hmembers]
    dsimp only
    rw [if_neg (mt List.isEmpty_iff.mp hne), if_neg hhashable, (hknown values).mpr hwords]

/-- A part that is read names something. -/
theorem readPart_ne_nil {words : List α} (h : readPart part ofName? v = .ok words) :
    words ≠ [] := by
  obtain ⟨values, -, hne, hwords, rfl⟩ := readPart_eq_ok_iff.mp h
  obtain ⟨first, rest, rfl⟩ := List.exists_cons_of_ne_nil hne
  obtain ⟨word, hword⟩ := Option.isSome_iff_exists.mp (hwords first List.mem_cons_self)
  rw [List.filterMap_cons_some hword]
  exact List.cons_ne_nil word _

end

theorem readFields_cases (v : Value) :
    v.isNull = true ∧ readFields v = .ok none ∨
      (∃ s, v = .text s ∧ readFields v = .error (.refused (.invalid .fieldsNotTexts))) ∨
      v.isNull = false ∧ (∀ e, v.items = .error e → readFields v = .error (.broke e)) ∧
        ∀ items, v.items = .ok items → readFields v =
          if items.all Value.isText then .ok (some (items.filterMap Value.text?))
          else .error (.refused (.invalid .fieldsNotTexts)) := by
  cases v with
  | null => exact Or.inl ⟨rfl, rfl⟩
  | text s => exact Or.inr (Or.inl ⟨s, rfl, rfl⟩)
  | _ =>
      refine Or.inr (Or.inr ⟨rfl, fun e he => ?_, fun items hitems => ?_⟩)
      · simp only [readFields, he]
      · simp only [readFields, hitems]

theorem readFields_judged (v : Value) :
    Judged (faultIf .wrongKind (!v.isNull && v.items?.isNone)) (readFields v) := by
  rcases readFields_cases v with ⟨hnull, hread⟩ | ⟨s, rfl, hread⟩ | ⟨hnull, hbroken, hread⟩
  · rw [hnull, hread]
    exact .accepted none rfl
  · rw [hread]
    exact .refused _ rfl
  · rw [hnull]
    unfold Value.items at hbroken hread
    cases hitems : v.items? with
    | none =>
        rw [hbroken .wrongKind (by rw [hitems])]
        exact .broken _ rfl
    | some items =>
        rw [hread items (by rw [hitems])]
        split
        · exact .accepted _ rfl
        · exact .refused _ rfl

theorem readConditions_judged (v : Value) :
    Judged (faultIf .tooDeep (overdeep v)) (readConditions v) := by
  cases v with
  | text s =>
      simp only [readConditions, overdeep, Value.text?, Option.map_some]
      cases hread : Json.read s with
      | ok w => cases w <;> first | exact .accepted _ rfl | exact .refused _ rfl
      | error why => cases why <;> first | exact .broken _ rfl | exact .refused _ rfl
  | null => exact .accepted _ rfl
  | map es => exact .accepted _ rfl
  | _ => exact .refused _ rfl

theorem readEntries_ok_iff {es : List (String × Value)} {input : RuleInput} :
    readEntries es = .ok input ↔
      readAction ((Value.find? "action" es).getD .null) = .ok input.action ∧
      readSubject ((Value.find? "subject" es).getD .null) = .ok input.subject ∧
      readFields ((Value.find? "fields" es).getD .null) = .ok input.fields ∧
      readConditions ((Value.find? "conditions" es).getD .null) = .ok input.conditions ∧
      ((Value.find? "inverted" es).getD .null).isTruthy = input.inverted ∧
      (Value.find? "reason" es).getD .null = input.reason := by
  constructor
  · intro h
    obtain ⟨actions, hactions, h⟩ := Fault.bind_ok.mp h
    obtain ⟨subjects, hsubjects, h⟩ := Fault.bind_ok.mp h
    obtain ⟨fields, hfields, h⟩ := Fault.bind_ok.mp h
    obtain ⟨conditions, hconditions, h⟩ := Fault.bind_ok.mp h
    cases h
    exact ⟨hactions, hsubjects, hfields, hconditions, rfl, rfl⟩
  · rintro ⟨hactions, hsubjects, hfields, hconditions, hinverted, hreason⟩
    unfold readEntries
    simp only [hactions, hsubjects, hfields, hconditions, hinverted, hreason]
    rfl

/-- What fails when the parts of a rule are read is refused, or of the wrong kind, or goes too
deep. -/
theorem readEntries_error {es : List (String × Value)} {f : Failure}
    (h : readEntries es = .error f) :
    (∃ why, f = .refused (.invalid why)) ∨ f = .broke .wrongKind ∨ f = .broke .tooDeep := by
  have hkinds : ∀ {α : Type} {expected : Fault} {b : Bool} {r : Except Failure α},
      Judged (faultIf expected b) r → r = .error f →
      (∃ why, f = .refused (.invalid why)) ∨ f = .broke expected := by
    intro α expected b r hjudged hr
    refine (hjudged.error hr).imp_right fun ⟨why, hf, hwhy⟩ => ?_
    rw [hf, (faultIf_eq_some_iff.mp hwhy).2]
  rcases Fault.bind_error.mp h with haction | ⟨_, -, h⟩
  · exact (hkinds (readPart_judged _ _ _) haction).imp_right Or.inl
  rcases Fault.bind_error.mp h with hsubject | ⟨_, -, h⟩
  · exact (hkinds (readPart_judged _ _ _) hsubject).imp_right Or.inl
  rcases Fault.bind_error.mp h with hfields | ⟨_, -, h⟩
  · exact (hkinds (readFields_judged _) hfields).imp_right Or.inl
  rcases Fault.bind_error.mp h with hconditions | ⟨_, -, h⟩
  · exact (hkinds (readConditions_judged _) hconditions).imp_right Or.inr
  · cases h

/-- Reading the parts of a rule goes too deep exactly if the conditions do and the parts that are
read before them are in order. -/
theorem readEntries_tooDeep_iff {es : List (String × Value)} :
    readEntries es = .error (.broke .tooDeep) ↔
      (∃ actions, readAction ((Value.find? "action" es).getD .null) = .ok actions) ∧
      (∃ subjects, readSubject ((Value.find? "subject" es).getD .null) = .ok subjects) ∧
      (∃ fields, readFields ((Value.find? "fields" es).getD .null) = .ok fields) ∧
      overdeep ((Value.find? "conditions" es).getD .null) = true := by
  -- No part before the conditions breaks off in this way.
  have hkind : ∀ {α : Type} {b : Bool} {r : Except Failure α}, Judged (faultIf .wrongKind b) r →
      r ≠ .error (.broke .tooDeep) := fun hjudged hr => by
    cases (faultIf_eq_some_iff.mp (hjudged.breaks_iff.mp hr)).2
  have hconditions : readConditions ((Value.find? "conditions" es).getD .null) =
      .error (.broke .tooDeep) ↔ overdeep ((Value.find? "conditions" es).getD .null) = true := by
    rw [(readConditions_judged _).breaks_iff, faultIf_eq_some_iff, and_iff_left rfl]
  rw [← hconditions]
  constructor
  · intro h
    rcases Fault.bind_error.mp h with haction | ⟨actions, haction, h⟩
    · exact absurd haction (hkind (readPart_judged _ _ _))
    rcases Fault.bind_error.mp h with hsubject | ⟨subjects, hsubject, h⟩
    · exact absurd hsubject (hkind (readPart_judged _ _ _))
    rcases Fault.bind_error.mp h with hfields | ⟨fields, hfields, h⟩
    · exact absurd hfields (hkind (readFields_judged _))
    rcases Fault.bind_error.mp h with hdeep | ⟨conditions, -, h⟩
    · exact ⟨⟨actions, haction⟩, ⟨subjects, hsubject⟩, ⟨fields, hfields⟩, hdeep⟩
    · cases h
  · rintro ⟨⟨actions, haction⟩, ⟨subjects, hsubject⟩, ⟨fields, hfields⟩, hdeep⟩
    unfold readEntries
    simp only [haction, hsubject, hfields, hdeep]
    rfl

/-- With its actions and subjects there, a rule is as its parts are, except that a part of the wrong
kind is refused. -/
theorem ofValue_map_of_parts {es : List (String × Value)} (haction : Value.find? "action" es ≠ none)
    (hsubject : Value.find? "subject" es ≠ none) :
    ofValue (.map es) = match readEntries es with
      | .error (.broke .wrongKind) => .error (.refused (.invalid .ruleNotMapping))
      | r => r := by
  have hthere : ∀ {key : String}, Value.find? key es ≠ none →
      ¬ (Value.find? key es).isNone = true := fun hne hnone => hne (Option.isNone_iff_eq_none.mp hnone)
  exact (if_neg (hthere haction)).trans (if_neg (hthere hsubject))

/-- What is read as a rule, or goes too deep, is a mapping with actions and subjects. -/
theorem ofValue_cases (v : Value) :
    (∃ why, ofValue v = .error (.refused (.invalid why))) ∨
      ∃ es, v = .map es ∧ Value.find? "action" es ≠ none ∧ Value.find? "subject" es ≠ none ∧
        ofValue v = readEntries es := by
  cases v with
  | map es =>
      by_cases haction : Value.find? "action" es = none
      · exact Or.inl ⟨.partMissing .action, by simp [ofValue, haction]⟩
      by_cases hsubject : Value.find? "subject" es = none
      · refine Or.inl ⟨.partMissing .subject, ?_⟩
        rw [ofValue, Option.isNone_eq_false_iff.mpr (Option.isSome_iff_ne_none.mpr haction),
          if_neg Bool.false_ne_true, hsubject]
        rfl
      rw [ofValue_map_of_parts haction hsubject]
      rcases hread : readEntries es with f | rule
      · rcases readEntries_error hread with ⟨why, rfl⟩ | rfl | rfl
        · exact Or.inl ⟨why, rfl⟩
        · exact Or.inl ⟨.ruleNotMapping, rfl⟩
        · exact Or.inr ⟨es, rfl, haction, hsubject, hread.symm⟩
      · exact Or.inr ⟨es, rfl, haction, hsubject, hread.symm⟩
  | _ => exact Or.inl ⟨.ruleNotMapping, rfl⟩

/-- What is no rule is refused, or goes too deep. -/
theorem ofValue_error {v : Value} {f : Failure} (h : ofValue v = .error f) :
    (∃ why, f = .refused (.invalid why)) ∨ f = .broke .tooDeep := by
  rcases ofValue_cases v with ⟨why, hrefused⟩ | ⟨es, rfl, haction, hsubject, hread⟩
  · rw [hrefused] at h
    cases h
    exact Or.inl ⟨why, rfl⟩
  · have hparts := hread.symm.trans h
    rcases readEntries_error hparts with hwhy | rfl | hdeep
    · exact Or.inl hwhy
    · rw [ofValue_map_of_parts haction hsubject, hparts] at h
      cases h
    · exact Or.inr hdeep

theorem ofValue_map_ok {es : List (String × Value)} {input : RuleInput} :
    ofValue (.map es) = .ok input ↔ Value.find? "action" es ≠ none ∧
      Value.find? "subject" es ≠ none ∧ readEntries es = .ok input := by
  constructor
  · intro h
    rcases ofValue_cases (.map es) with ⟨why, hrefused⟩ | ⟨es', hes, haction, hsubject, hread⟩
    · cases hrefused.symm.trans h
    · cases hes
      exact ⟨haction, hsubject, hread.symm.trans h⟩
  · rintro ⟨haction, hsubject, hread⟩
    rw [ofValue_map_of_parts haction hsubject, hread]

theorem ofValue_tooDeep_iff {v : Value} :
    ofValue v = .error (.broke .tooDeep) ↔ ∃ es, v = .map es ∧ Value.find? "action" es ≠ none ∧
      Value.find? "subject" es ≠ none ∧ readEntries es = .error (.broke .tooDeep) := by
  constructor
  · intro h
    rcases ofValue_cases v with ⟨why, hrefused⟩ | ⟨es, hes, haction, hsubject, hread⟩
    · cases hrefused.symm.trans h
    · exact ⟨es, hes, haction, hsubject, hread.symm.trans h⟩
  · rintro ⟨es, rfl, haction, hsubject, hread⟩
    rw [ofValue_map_of_parts haction hsubject, hread]

end RuleInput

/-! ## A change of one part -/

namespace RuleChange

open RuleInput

theorem mem_updatable {k : String} :
    k ∈ updatable ↔ k = "action" ∨ k = "subject" ∨ k = "fields" ∨ k = "conditions" ∨
      k = "inverted" ∨ k = "reason" := by
  simp [updatable]

section

variable (v : Value)

theorem readEdits_action :
    readEdits [("action", v)] = (readAction v).map fun a => { action := some a } := by
  cases h : readAction v <;> simp [readEdits, Value.find?, readIfPresent, h] <;> rfl

theorem readEdits_subject :
    readEdits [("subject", v)] = (readSubject v).map fun s => { subject := some s } := by
  cases h : readSubject v <;> simp [readEdits, Value.find?, readIfPresent, h] <;> rfl

theorem readEdits_fields :
    readEdits [("fields", v)] = (readFields v).map fun f => { fields := some f } := by
  cases h : readFields v <;> simp [readEdits, Value.find?, readIfPresent, h] <;> rfl

theorem readEdits_conditions :
    readEdits [("conditions", v)] = (readConditions v).map fun c => { conditions := some c } := by
  cases h : readConditions v <;> simp [readEdits, Value.find?, readIfPresent, h] <;> rfl

end

theorem readEdits_judged {k : String} (hk : k ∈ updatable) (v : Value) :
    Judged (breaksAt k v) (readEdits [(k, v)]) := by
  rcases mem_updatable.mp hk with rfl | rfl | rfl | rfl | rfl | rfl
  · rw [readEdits_action]
    exact (readPart_judged _ _ v).map _
  · rw [readEdits_subject]
    exact (readPart_judged _ _ v).map _
  · rw [readEdits_fields]
    exact (readFields_judged v).map _
  · rw [readEdits_conditions]
    exact (readConditions_judged v).map _
  · exact .accepted _ rfl
  · exact .accepted _ rfl

/-- A change that is read has the one part, and nothing else. -/
theorem readEdits_ok {k : String} (hk : k ∈ updatable) {v : Value} {parts : RuleEdits}
    (h : readEdits [(k, v)] = .ok parts) (input : RuleInput) :
    parts = (input.replace parts).part k := by
  rcases mem_updatable.mp hk with rfl | rfl | rfl | rfl | rfl | rfl
  · rw [readEdits_action] at h
    obtain ⟨actions, -, rfl⟩ := Fault.map_ok.mp h
    rfl
  · rw [readEdits_subject] at h
    obtain ⟨subjects, -, rfl⟩ := Fault.map_ok.mp h
    rfl
  · rw [readEdits_fields] at h
    obtain ⟨fields, -, rfl⟩ := Fault.map_ok.mp h
    rfl
  · rw [readEdits_conditions] at h
    obtain ⟨conditions, -, rfl⟩ := Fault.map_ok.mp h
    rfl
  · cases h
    rfl
  · cases h
    rfl

/-- With another value in one part, a rule that was read is read as before apart from this part. -/
theorem readEntries_put {k : String} (hk : k ∈ updatable) {es : List (String × Value)}
    {input : RuleInput} (h : readEntries es = .ok input) (v : Value) :
    readEntries (Value.put k v es) = (readEdits [(k, v)]).map input.replace := by
  obtain ⟨hactions, hsubjects, hfields, hconditions, hinverted, hreason⟩ := readEntries_ok_iff.mp h
  unfold readEntries
  -- All parts but the one are looked up as before, and for that one the change is the reading.
  rcases mem_updatable.mp hk with rfl | rfl | rfl | rfl | rfl | rfl <;>
    simp (disch := decide) only [Value.find?_put_self, Value.find?_put_of_ne, Option.getD_some,
      hactions, hsubjects, hfields, hconditions, hinverted, hreason]
  · rw [readEdits_action]
    cases readAction v <;> rfl
  · rw [readEdits_subject]
    cases readSubject v <;> rfl
  · rw [readEdits_fields]
    cases readFields v <;> rfl
  · rw [readEdits_conditions]
    cases readConditions v <;> rfl
  · rfl
  · rfl

/-- Names that can be replaced pass, and of others the caller is told. -/
theorem checkNames_texts (keys : List String) :
    (∀ k ∈ keys, k ∈ updatable) ∧ checkNames (keys.map .text) = .ok () ∨
      (¬ ∀ k ∈ keys, k ∈ updatable) ∧
        ∃ unknown, checkNames (keys.map .text) =
          .error (.refused (.invalid (.notUpdatable unknown))) := by
  have hhashable : (keys.map Value.text).any (fun m => !m.isHashable) = false := by
    simp [Value.isHashable]
  have hunknown : (keys.map Value.text).filter (fun v => !(v.text?.any updatable.contains)) =
      (keys.filter fun k => !updatable.contains k).map .text := by
    rw [List.filter_map]
    rfl
  unfold checkNames
  rw [hhashable, if_neg Bool.false_ne_true, hunknown]
  cases hothers : keys.filter fun k => !updatable.contains k with
  | nil =>
      refine Or.inl ⟨fun k hk => ?_, rfl⟩
      simpa using List.filter_eq_nil_iff.mp hothers k hk
  | cons first rest =>
      refine Or.inr ⟨fun hall => ?_, ?_⟩
      · have hfirst : first ∈ keys.filter fun k => !updatable.contains k := by
          rw [hothers]
          exact List.mem_cons_self
        obtain ⟨hmem, hnot⟩ := List.mem_filter.mp hfirst
        rw [List.contains_iff_mem.mpr (hall first hmem)] at hnot
        cases hnot
      · rw [List.map_cons]
        dsimp only
        rw [if_pos (by simp [Value.isText, Value.text?])]
        exact ⟨_, rfl⟩

theorem ofValue_map (es : List (String × Value)) :
    ofValue (.map es) =
      checkNames ((es.map Prod.fst).map .text) >>= fun _ => (readEdits es).map edits := by
  rw [List.map_map]
  rfl

theorem ofValue_single {k : String} (hk : k ∈ updatable) (v : Value) :
    ofValue (.map [(k, v)]) = (readEdits [(k, v)]).map edits := by
  rw [ofValue_map]
  rcases checkNames_texts [k] with ⟨-, hok⟩ | ⟨hnot, -⟩
  · show (checkNames ([k].map .text) >>= fun _ => _) = _
    rw [hok]
    rfl
  · exact absurd (List.forall_mem_singleton.mpr hk) hnot

/-! ## A change of many parts -/

/-- The parts that a change has, in the order in which they are read. -/
def parts (es : List (String × Value)) : List (String × Value) :=
  updatable.filterMap fun k => (Value.find? k es).map fun v => (k, v)

theorem mem_parts {es : List (String × Value)} {p : String × Value} (h : p ∈ parts es) :
    p.1 ∈ updatable := by
  obtain ⟨k, hk, hp⟩ := List.mem_filterMap.mp h
  obtain ⟨v, -, rfl⟩ := Option.map_eq_some_iff.mp hp
  exact hk

theorem judged_of_parts {es before after : List (String × Value)} {p : String × Value}
    (h : parts es = before ++ p :: after) : Judged (breaksAt p.1 p.2) (readEdits [p]) := by
  have hmem : p ∈ parts es := by
    rw [h]
    exact List.mem_append_cons_self
  exact readEdits_judged (mem_parts hmem) p.2

/-- The failure of a reading, if it failed. -/
def failure? {α : Type} : Except Failure α → Option Failure
  | .error f => some f
  | .ok _ => none

theorem failure?_part {α : Type} {k : String} {read : Value → Except Failure α}
    {f : α → RuleEdits} (h : ∀ v, readEdits [(k, v)] = (read v).map f) (part : Option Value) :
    ((part.map fun v => (k, v)).bind fun p => failure? (readEdits [p])) =
      failure? (readIfPresent read part) := by
  cases part with
  | none => rfl
  | some v =>
      rw [Option.map_some, Option.bind_some, h, readIfPresent]
      cases read v <;> rfl

/-- A change fails as the first of its parts does that fails by itself. -/
theorem failure?_readEdits (es : List (String × Value)) :
    failure? (readEdits es) = (parts es).findSome? fun p => failure? (readEdits [p]) := by
  have hinverted : ((Value.find? "inverted" es).map fun v => ("inverted", v)).bind
      (fun p => failure? (readEdits [p])) = none := by
    cases Value.find? "inverted" es <;> rfl
  have hreason : ((Value.find? "reason" es).map fun v => ("reason", v)).bind
      (fun p => failure? (readEdits [p])) = none := by
    cases Value.find? "reason" es <;> rfl
  rw [parts, ← List.head?_filterMap, List.filterMap_filterMap, List.head?_filterMap]
  simp only [updatable, List.findSome?_cons, List.findSome?_nil, failure?_part readEdits_action,
    failure?_part readEdits_subject, failure?_part readEdits_fields,
    failure?_part readEdits_conditions, hinverted, hreason]
  -- The first reading that fails ends the change, and if none does, nothing else can.
  unfold readEdits
  cases readIfPresent readAction (Value.find? "action" es) with
  | error f => rfl
  | ok actions =>
      cases readIfPresent readSubject (Value.find? "subject" es) with
      | error f => rfl
      | ok subjects =>
          cases readIfPresent readFields (Value.find? "fields" es) with
          | error f => rfl
          | ok fields => cases readIfPresent readConditions (Value.find? "conditions" es) <;> rfl

/-- A change breaks off for a fault: all that it names can be replaced, and at the first of its parts
that does not pass by itself the fault comes up. -/
structure BreaksOff (es : List (String × Value)) (why : Fault) : Prop where
  names : ∀ k ∈ es.map Prod.fst, k ∈ updatable
  first : ∃ before p after, parts es = before ++ p :: after ∧ breaksAt p.1 p.2 = some why ∧
    ∀ q ∈ before, (ofValue (.map [q])).isOk = true

theorem readEdits_error_iff {es : List (String × Value)} {f : Failure} :
    readEdits es = .error f ↔ ∃ before p after, parts es = before ++ p :: after ∧
      readEdits [p] = .error f ∧ ∀ q ∈ before, (ofValue (.map [q])).isOk = true := by
  have hfailure : ∀ {es : List (String × Value)} {f : Failure},
      failure? (readEdits es) = some f ↔ readEdits es = .error f := by
    intro es f
    cases readEdits es <;> simp [failure?]
  rw [← hfailure, failure?_readEdits, List.findSome?_eq_some_iff]
  refine exists_congr fun before => exists_congr fun p => exists_congr fun after =>
    and_congr_right fun hsplit => and_congr hfailure (forall₂_congr fun q hq => ?_)
  have hmem : q ∈ parts es := by
    rw [hsplit]
    exact List.mem_append_left _ hq
  obtain ⟨k, v⟩ := q
  rw [ofValue_single (mem_parts hmem)]
  cases readEdits [(k, v)] with
  | error e => exact iff_of_false nofun nofun
  | ok e => exact iff_of_true rfl rfl

/-- What can come of a change: it is read, it is refused, or it breaks off. -/
theorem ofValue_error {es : List (String × Value)} {f : Failure}
    (h : ofValue (.map es) = .error f) :
    (∃ why, f = .refused (.invalid why)) ∨ ∃ why, f = .broke why ∧ BreaksOff es why := by
  rw [ofValue_map] at h
  rcases checkNames_texts (es.map Prod.fst) with ⟨hnames, hok⟩ | ⟨-, unknown, hrefused⟩
  · rw [hok] at h
    have hread : readEdits es = .error f := by
      cases hedits : readEdits es with
      | error e =>
          rw [hedits] at h
          cases h
          rfl
      | ok e =>
          rw [hedits] at h
          cases h
    obtain ⟨before, p, after, hsplit, hp, hbefore⟩ := readEdits_error_iff.mp hread
    have hjudged := judged_of_parts hsplit
    rw [hp] at hjudged
    cases hjudged with
    | refused why _ => exact Or.inl ⟨why, rfl⟩
    | broken why hfault =>
        exact Or.inr ⟨why, rfl, hnames, before, p, after, hsplit, hfault, hbefore⟩
  · rw [hrefused] at h
    cases h
    exact Or.inl ⟨_, rfl⟩

theorem ofValue_of_breaksOff {es : List (String × Value)} {why : Fault} (h : BreaksOff es why) :
    ofValue (.map es) = .error (.broke why) := by
  obtain ⟨before, p, after, hsplit, hfault, hbefore⟩ := h.first
  have hp : readEdits [p] = .error (.broke why) := (judged_of_parts hsplit).breaks_iff.mpr hfault
  have hread := readEdits_error_iff.mpr ⟨before, p, after, hsplit, hp, hbefore⟩
  rcases checkNames_texts (es.map Prod.fst) with ⟨-, hok⟩ | ⟨hnot, -⟩
  · rw [ofValue_map, hok, hread]
    rfl
  · exact absurd h.names hnot

/-- An accepted rule with another value in one part comes to what the change of this part comes to,
except that where the value is of the wrong kind the rule is refused. -/
theorem ofValue_put {k : String} (hk : k ∈ updatable) {es : List (String × Value)}
    {input : RuleInput} (hes : RuleInput.ofValue (.map es) = .ok input) (v : Value) :
    RuleInput.ofValue (.map (Value.put k v es)) = match readEdits [(k, v)] with
      | .ok parts => .ok (input.replace parts)
      | .error (.broke .wrongKind) => .error (.refused (.invalid .ruleNotMapping))
      | .error f => .error f := by
  obtain ⟨haction, hsubject, hread⟩ := RuleInput.ofValue_map_ok.mp hes
  have hpresent : ∀ j, Value.find? j es ≠ none → Value.find? j (Value.put k v es) ≠ none := by
    intro j hj
    by_cases hkj : j = k
    · rw [hkj, Value.find?_put_self]
      exact nofun
    · rwa [Value.find?_put_of_ne hkj]
  rw [RuleInput.ofValue_map_of_parts (hpresent _ haction) (hpresent _ hsubject),
    readEntries_put hk hread]
  rcases readEdits [(k, v)] with (why | why) | parts
  · rfl
  · cases why <;> rfl
  · rfl

/-- For a part and a value, a change of the part to the value and an accepted rule with the value in
this part are both refused, for one reason, or both accepted, with one value in the part. The
exceptions are the values at which reading breaks off. Where that is because the value is of the
wrong kind, the rule is refused and the change breaks off; where it goes too deep, both break off.
Of a change of many parts nothing else can come either, and it breaks off at such a value if and
only if nothing before it is refused. -/
theorem ofValue_alike {k : String} (hk : k ∈ updatable) {es : List (String × Value)}
    {input : RuleInput} (hes : RuleInput.ofValue (.map es) = .ok input) (v : Value) :
    (breaksAt k v = none →
      (∃ why, ofValue (.map [(k, v)]) = .error (.refused (.invalid why)) ∧
        RuleInput.ofValue (.map (Value.put k v es)) = .error (.refused (.invalid why))) ∨
      ∃ rule : RuleInput, ofValue (.map [(k, v)]) = .ok (.edits (rule.part k)) ∧
        RuleInput.ofValue (.map (Value.put k v es)) = .ok rule) ∧
    (∀ fault, breaksAt k v = some fault →
      ofValue (.map [(k, v)]) = .error (.broke fault) ∧
      (fault = .wrongKind ∧ RuleInput.ofValue (.map (Value.put k v es)) =
          .error (.refused (.invalid .ruleNotMapping)) ∨
        fault = .tooDeep ∧ RuleInput.ofValue (.map (Value.put k v es)) =
          .error (.broke .tooDeep))) ∧
    ∀ changes : List (String × Value),
      (∀ f, ofValue (.map changes) = .error f →
        (∃ why, f = .refused (.invalid why)) ∨ f = .broke .wrongKind ∨ f = .broke .tooDeep) ∧
      ∀ fault, ofValue (.map changes) = .error (.broke fault) ↔ BreaksOff changes fault := by
  have hjudged := readEdits_judged hk v
  rw [ofValue_single hk, ofValue_put hk hes]
  refine ⟨fun hwhole => ?_, fun fault hfault => ?_, fun changes => ⟨fun f hf => ?_, fun fault => ?_⟩⟩
  · rw [hwhole] at hjudged
    rcases hjudged.settles with ⟨why, hrefused⟩ | ⟨parts, hparts⟩
    · rw [hrefused]
      exact Or.inl ⟨why, rfl, rfl⟩
    · rw [hparts]
      refine Or.inr ⟨input.replace parts, ?_, rfl⟩
      rw [← readEdits_ok hk hparts input]
      rfl
  · rw [hjudged.breaks_iff.mpr hfault]
    rcases breaksAt_cases hfault with rfl | rfl
    · exact ⟨rfl, Or.inl ⟨rfl, rfl⟩⟩
    · exact ⟨rfl, Or.inr ⟨rfl, rfl⟩⟩
  · refine (ofValue_error hf).imp_right ?_
    rintro ⟨why, rfl, hbreaks⟩
    obtain ⟨_, _, _, -, hfault, -⟩ := hbreaks.first
    rcases breaksAt_cases hfault with rfl | rfl
    · exact Or.inl rfl
    · exact Or.inr rfl
  · refine ⟨fun hbroke => ?_, ofValue_of_breaksOff⟩
    rcases ofValue_error hbroke with ⟨why, hwhy⟩ | ⟨why, hwhy, hbreaks⟩
    · cases hwhy
    · cases hwhy
      exact hbreaks

/-! ### A rule to read accounts

It is changed in its fields, to a list and to something that is no list of texts, and in its action,
to a number. -/

def readingEntries : List (String × Value) :=
  [("action", .text "read"), ("subject", .ofTexts ["account"])]

def reading : RuleInput where
  action := [.read]
  subject := [.account]
  fields := none
  conditions := none
  inverted := false
  reason := .null

/-- The list is accepted and the other is refused, whether as a change or in a new rule. -/
theorem ofValue_alike_fields :
    (∃ rule : RuleInput, rule.fields = some ["email"] ∧
      ofValue (.map [("fields", .ofTexts ["email"])]) = .ok (.edits (rule.part "fields")) ∧
      RuleInput.ofValue (.map (Value.put "fields" (.ofTexts ["email"]) readingEntries)) =
        .ok rule) ∧
    ∃ why, ofValue (.map [("fields", .text "email")]) = .error (.refused (.invalid why)) ∧
      RuleInput.ofValue (.map (Value.put "fields" (.text "email") readingEntries)) =
        .error (.refused (.invalid why)) := by
  have hreading : RuleInput.ofValue (.map readingEntries) = .ok reading := rfl
  obtain ⟨hlist, -⟩ := @ofValue_alike "fields" (by decide) _ _ hreading (.ofTexts ["email"])
  obtain ⟨htext, -⟩ := @ofValue_alike "fields" (by decide) _ _ hreading (.text "email")
  constructor
  · rcases hlist rfl with ⟨why, hrefused, -⟩ | ⟨rule, hedits, hrule⟩
    · cases hrefused
    · refine ⟨rule, ?_, hedits, hrule⟩
      cases hrule
      rfl
  · rcases htext rfl with hrefused | ⟨rule, hedits, -⟩
    · exact hrefused
    · cases hedits

/-- The number is refused in a new rule, like what is no rule at all, but the change breaks off. -/
theorem action_by_number_breaks_off :
    RuleInput.ofValue (.map readingEntries) = .ok reading ∧
      ofValue (.map [("action", .int 5)]) = .error (.broke .wrongKind) ∧
      RuleInput.ofValue (.map (Value.put "action" (.int 5) readingEntries)) =
        .error (.refused (.invalid .ruleNotMapping)) :=
  ⟨rfl, rfl, rfl⟩

end RuleChange

end Warrant
