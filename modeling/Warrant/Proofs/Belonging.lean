import Warrant.Proofs.Decisions
import Warrant.Proofs.Wording

/-!
# Whose a resource is

The check of ownership lets two kinds of people through: the owner, and whoever
may do to this very resource what the request does, if others are let in at all.
Everybody else is told that they are not the owner.

The owner is looked for at a path, and what stands there may be anything. It is
the account if it is the id of the account, as an identifier or as its text, or
if it has an id that is one of the two. Identifiers are also compared in words,
and no plain value reads like one. But an object is what its class lets it pass
for: it is taken for the account if it is written like the id, or if it equals
the id, and as the id of another thing if it is written so. Nothing else will
do, and where nothing stands, nobody is the owner.

Attributes may refuse to be read, and then the check fails as the reading does.
What is said here is about resources in which everything can be read.
-/

namespace Warrant

/-! ## What can be read -/

namespace Value

/-- Reading names one after the other leads from a value to another. -/
inductive Leads : List String → Value → Value → Prop
  | here (v : Value) : Leads [] v v
  | hop {name : String} {names : List String} {v w u : Value}
      (hread : v.attribute? name = .ok (some w)) (hrest : Leads names w u) :
      Leads (name :: names) v u

/-- No reading fails in a value, nor in anything that reading leads to. -/
def Readable (v : Value) : Prop :=
  ∀ names w, Leads names v w → ∀ name, ∃ found, w.attribute? name = .ok found

/-- There is nothing here: null, or the end of a path that led nowhere. -/
def IsNothing (v : Value) : Prop := v = .null ∨ v = .unresolved

variable {v w : Value} {name : String} {names : List String}

theorem leads_singleton : Leads [name] v w ↔ v.attribute? name = .ok (some w) := by
  constructor
  · rintro (_ | ⟨hread, ⟨⟩⟩)
    exact hread
  · exact fun hread => .hop hread (.here w)

theorem Leads.unique {u : Value} (h : Leads names v w) (h' : Leads names v u) : w = u := by
  induction h with
  | here v =>
      cases h'
      rfl
  | hop hread hrest ih =>
      obtain _ | ⟨hread', hrest'⟩ := h'
      rw [hread] at hread'
      cases hread'
      exact ih hrest'

theorem Readable.after (h : v.Readable) (hread : v.attribute? name = .ok (some w)) : w.Readable :=
  fun names u hleads => h (name :: names) u (.hop hread hleads)

theorem Readable.of_leads (h : v.Readable) (hleads : Leads names v w) : w.Readable := by
  induction hleads with
  | here v => exact h
  | hop hread hrest ih => exact ih (h.after hread)

/-- What shows its attributes can be read if each of them can. -/
theorem readable_of_shows {shown : String → Option Value}
    (h : ∀ name, v.attribute? name = .ok (shown name))
    (hshown : ∀ name w, shown name = some w → w.Readable) : v.Readable := by
  rintro names w (_ | ⟨hread, hrest⟩) name
  · exact ⟨shown name, h name⟩
  · rw [h] at hread
    exact hshown _ _ (Except.ok.inj hread) _ w hrest name

theorem readable_map {es : List (String × Value)}
    (h : ∀ name w, find? name es = some w → w.Readable) : (map es).Readable :=
  readable_of_shows (fun _ => rfl) h

theorem readable_entry {key : String} (h : v.Readable) : (map [(key, v)]).Readable := by
  refine readable_map fun name w hfound => ?_
  rw [find?] at hfound
  split at hfound
  · cases hfound
    exact h
  · cases hfound

/-- An object that only passes for something has no attributes. -/
theorem attribute?_guised (className : String) (guise : Guise) (name : String) :
    (object className none [] [] guise).attribute? name = .ok none := by
  simp only [attribute?, find?, List.contains_nil, Bool.false_eq_true, if_false, ite_self,
    Option.orElse_eq_orElse, Option.orElse]

theorem readable_guised (className : String) (guise : Guise) :
    (object className none [] [] guise).Readable :=
  readable_of_shows (attribute?_guised className guise) nofun

/-- A text has nothing but methods. -/
theorem readable_text (s : String) : (text s).Readable := by
  refine readable_of_shows (fun _ => rfl) fun name w h => ?_
  have hmethod : plainAttribute? (text s) name =
      if (text s).methods.contains name then some (method "builtin_function_or_method") else none :=
    rfl
  rw [hmethod] at h
  split at h
  · cases h
    exact readable_guised _ _
  · cases h

theorem isNothing_iff : v.IsNothing ↔ (v.isNull || v.isUnresolved) = true := by
  unfold IsNothing
  cases v <;> simp [isNull, isUnresolved]

theorem attribute?_of_isNothing (h : v.IsNothing) (name : String) :
    v.attribute? name = .ok none := by
  obtain rfl | rfl := h <;> rfl

/-- Where everything can be read, a walk comes to what its hops lead to, if that is something, and
is unresolved otherwise. -/
theorem walkHops_of_readable (names : List String) (h : v.Readable) :
    (∃ w, Leads names v w ∧ ¬ w.IsNothing ∧ walkHops names v = .ok w) ∨
      (∀ w, Leads names v w → w.IsNothing) ∧ walkHops names v = .ok .unresolved := by
  induction names generalizing v with
  | nil =>
      by_cases hv : v.IsNothing
      · refine .inr ⟨?_, ?_⟩
        · rintro w ⟨⟩
          exact hv
        · obtain rfl | rfl := hv <;> rfl
      · refine .inl ⟨v, .here v, hv, ?_⟩
        cases v
        case null => exact absurd (.inl rfl) hv
        all_goals rfl
  | cons name names ih =>
      obtain ⟨found, hfound⟩ := h [] v (.here v) name
      have hlookup : v.lookup name = .ok (found.getD .unresolved) := by
        unfold lookup
        rw [hfound]
        rfl
      rw [walkHops]
      cases found with
      | none =>
          refine .inr ⟨?_, ?_⟩
          · rintro w (_ | ⟨hread, -⟩)
            rw [hfound] at hread
            cases hread
          · split
            · rfl
            · rw [hlookup]
              cases names <;> rfl
      | some w =>
          have hthere : ¬ (v.isNull || v.isUnresolved) = true := fun hnothing => by
            rw [attribute?_of_isNothing (isNothing_iff.mpr hnothing)] at hfound
            cases hfound
          rw [if_neg hthere, hlookup]
          dsimp only [Option.getD_some]
          obtain ⟨u, hleads, hu, hwalk⟩ | ⟨hnone, hwalk⟩ := ih (h.after hfound)
          · exact .inl ⟨u, .hop hfound hleads, hu, hwalk⟩
          · refine .inr ⟨?_, hwalk⟩
            rintro u (_ | ⟨hread, hrest⟩)
            rw [hfound] at hread
            cases hread
            exact hnone u hrest

end Value

namespace Ownership

open Value

/-! ## Who is named -/

/-- A value reads as the id of an account: it is the id or its text, or an object that is written
like it. -/
def ReadsAs (id : Uuid) (v : Value) : Prop :=
  v = .uuid id ∨ v = .text id.text ∨ ∃ g, v.guise? = some g ∧ g.words = some id.text

/-- A value is the id of an account: it reads as the id, or is an object that equals it. -/
def IsId (id : Uuid) (v : Value) : Prop :=
  ReadsAs id v ∨ ∃ g, v.guise? = some g ∧ g.sameAs = some id

/-- A plain value is an id only as such or as its text. -/
theorem readsAs_of_plain {id : Uuid} {v : Value} (hplain : v.guise? = none) :
    ReadsAs id v ↔ v = .uuid id ∨ v = .text id.text := by
  simp only [ReadsAs, hplain, reduceCtorEq, false_and, exists_false, or_false]

theorem isId_of_plain {id : Uuid} {v : Value} (hplain : v.guise? = none) :
    IsId id v ↔ v = .uuid id ∨ v = .text id.text := by
  simp only [IsId, readsAs_of_plain hplain, hplain, reduceCtorEq, false_and, exists_false, or_false]

/-- A value identifies an account: by being its id, or by having an id that reads as it. -/
def Identifies (id : Uuid) (v : Value) : Prop :=
  IsId id v ∨ ∃ w, v.attribute? "id" = .ok (some w) ∧ ReadsAs id w

variable {id : Uuid} {v owner : Value}

theorem IsId.not_isNothing (h : IsId id v) : ¬ v.IsNothing := by
  rintro (rfl | rfl) <;> obtain h | h := (isId_of_plain rfl).mp h <;> cases h

theorem Identifies.not_isNothing (h : Identifies id v) : ¬ v.IsNothing := by
  intro hnothing
  obtain h | ⟨w, hread, -⟩ := h
  · exact h.not_isNothing hnothing
  · rw [attribute?_of_isNothing hnothing] at hread
    cases hread

theorem sameId_iff : sameId v (.uuid id) = true ↔ IsId id v := by
  unfold sameId
  rw [Bool.or_eq_true, equal_uuid_iff, sameWords_uuid_iff]
  constructor
  · rintro ((rfl | hsame) | hwords)
    · exact .inl (.inl rfl)
    · exact .inr hsame
    · exact .inl hwords
  · exact fun h => h.elim .inr fun hsame => .inl (.inr hsame)

/-- Where everything can be read, what stands at the owner path is the account exactly if it
identifies it. -/
theorem isOwner_iff (h : owner.Readable) :
    ∃ owns, isOwner owner (.uuid id) = .ok owns ∧ (owns = true ↔ Identifies id owner) := by
  unfold isOwner
  split
  · next hnowhere =>
      refine ⟨false, rfl, iff_of_false Bool.false_ne_true fun hid => hid.not_isNothing ?_⟩
      exact isNothing_iff.mpr (by rw [hnowhere, Bool.or_true])
  · split
    · next hsame => exact ⟨true, rfl, iff_of_true rfl (.inl (sameId_iff.mp hsame))⟩
    · next hother =>
        have hother : ¬ IsId id owner := fun hid => hother (sameId_iff.mpr hid)
        rw [walk_id]
        obtain ⟨w, hleads, hw, hwalk⟩ | ⟨hnone, hwalk⟩ := walkHops_of_readable ["id"] h
        · have hread := leads_singleton.mp hleads
          have hresolved : w.isUnresolved = false := by
            cases hunresolved : w.isUnresolved with
            | false => rfl
            | true => exact absurd (isNothing_iff.mpr (by rw [hunresolved, Bool.or_true])) hw
          rw [hwalk]
          dsimp only
          rw [hresolved]
          refine ⟨_, rfl, sameWords_uuid_iff.trans ?_⟩
          refine ⟨fun hid => .inr ⟨w, hread, hid⟩, ?_⟩
          rintro (hid | ⟨u, hread', hid⟩)
          · exact absurd hid hother
          · rw [hread] at hread'
            cases hread'
            exact hid
        · rw [hwalk]
          refine ⟨false, rfl, iff_of_false Bool.false_ne_true ?_⟩
          rintro (hid | ⟨u, hread, hid⟩)
          · exact hother hid
          · exact IsId.not_isNothing (.inl hid) (hnone u (leads_singleton.mpr hread))

/-! ## The check -/

/-- How a resource is given: as one, with what it is and its attributes, or as anything else
together with the subject that it is one of. -/
inductive Given : (resource : Value) → Option Subject → (kind attributes : Value) → Prop
  | resource (kind attributes : Value) (subject : Option Subject) :
      Given (.resource kind attributes) subject kind attributes
  | plain {v : Value} (s : Subject) (hplain : ∀ kind attributes, v ≠ .resource kind attributes) :
      Given v (some s) (.text s.name) v

variable {resource kind attributes : Value} {subject : Option Subject} {rules : RuleSource}
  {user : Account} {defaultPath method : String} {r : OwnershipRequirement}

theorem Given.target_eq (h : Given resource subject kind attributes) :
    target resource subject = .resource kind attributes := by
  cases h with
  | resource => cases subject <;> rfl
  | plain s hplain =>
      unfold target
      split
      · exact absurd rfl (hplain _ _)
      · next hnone => cases hnone
      · next hsome =>
          cases hsome
          rfl

theorem Given.present (h : Given resource subject kind attributes) (hnull : attributes ≠ .null) :
    resource.isNull = false := by
  cases h with
  | resource => rfl
  | plain s hplain =>
      cases resource
      case null => exact absurd rfl hnull
      all_goals rfl

/-- The path to the owner leads to something that identifies the account. -/
def Owns (defaultPath : String) (r : OwnershipRequirement) (id : Uuid) (attributes : Value) :
    Prop :=
  ∃ owner, Leads (Text.split '.' (path defaultPath r)) attributes owner ∧ Identifies id owner

/-- Others are let in, and the account may do to the resource what the verb stands for. -/
def Overrides (rules : RuleSource) (user : Account) (r : OwnershipRequirement) (method : String)
    (kind attributes : Value) : Prop :=
  r.allowsOverride = true ∧ ∃ ability, rules.compile user = some ability ∧
    ability.can (.text (Action.ofMethod method).name) (.resource kind attributes) .null = true

theorem owns_iff (hread : attributes.Readable) :
    ∃ owns, (Ownership.owner defaultPath (.resource kind attributes) r >>= fun owner =>
        isOwner owner (.uuid id)) = .ok owns ∧
      (owns = true ↔ Owns defaultPath r id attributes) := by
  have howner : Ownership.owner defaultPath (.resource kind attributes) r =
      walkHops (Text.split '.' (path defaultPath r)) attributes := rfl
  unfold Owns
  rw [howner]
  generalize Text.split '.' (path defaultPath r) = names
  obtain ⟨owner, hleads, -, hwalk⟩ | ⟨hnone, hwalk⟩ := walkHops_of_readable names hread
  · rw [hwalk]
    obtain ⟨owns, howns, hiff⟩ := @isOwner_iff id owner (hread.of_leads hleads)
    refine ⟨owns, howns, hiff.trans ⟨fun h => ⟨owner, hleads, h⟩, ?_⟩⟩
    rintro ⟨other, hother, hid⟩
    rwa [hleads.unique hother]
  · rw [hwalk]
    refine ⟨false, rfl, iff_of_false Bool.false_ne_true ?_⟩
    rintro ⟨owner, hleads, hid⟩
    exact hid.not_isNothing (hnone owner hleads)

/-- The verdicts of the check, once it is known whether the account owns the resource. -/
theorem check_apply (huser : user.id = .uuid id) (hgiven : Given resource subject kind attributes)
    (hnull : attributes ≠ .null) (hread : attributes.Readable) :
    ∃ owns : Bool, (owns = true ↔ Owns defaultPath r id attributes) ∧
      check rules defaultPath user resource r method subject =
        if owns then .ok ()
        else if !r.allowsOverride then .error (.refused .notOwner)
        else if isOverridden rules user (.resource kind attributes) method then .ok ()
        else .error (.refused .notOwnerNorPermitted) := by
  obtain ⟨owns, howns, hiff⟩ := @owns_iff id kind attributes defaultPath r hread
  refine ⟨owns, hiff, ?_⟩
  unfold check
  rw [hgiven.present hnull, hgiven.target_eq, huser]
  dsimp only
  rw [howns]
  cases owns <;> rfl

theorem check_of_owns (huser : user.id = .uuid id) (hgiven : Given resource subject kind attributes)
    (hnull : attributes ≠ .null) (hread : attributes.Readable)
    (h : Owns defaultPath r id attributes) :
    check rules defaultPath user resource r method subject = .ok () := by
  obtain ⟨owns, howns, hcheck⟩ := @check_apply id resource kind attributes subject rules user
    defaultPath method r huser hgiven hnull hread
  rw [hcheck, howns.mpr h]
  rfl

/-- The check lets an account through exactly if the account owns the resource or may override that
it does not, and all others are told that they are not the owner. Where nothing stands at the path
to the owner, only an override is left. -/
theorem check_ok_iff (huser : user.id = .uuid id) (hgiven : Given resource subject kind attributes)
    (hnull : attributes ≠ .null) (hread : attributes.Readable) :
    (check rules defaultPath user resource r method subject = .ok () ↔
      Owns defaultPath r id attributes ∨ Overrides rules user r method kind attributes) ∧
    (¬ (Owns defaultPath r id attributes ∨ Overrides rules user r method kind attributes) →
      ∃ why, check rules defaultPath user resource r method subject = .error (.refused why) ∧
        why.kind = .notOwner) ∧
    ((∀ owner, Leads (Text.split '.' (path defaultPath r)) attributes owner → owner.IsNothing) →
      (check rules defaultPath user resource r method subject = .ok () ↔
        Overrides rules user r method kind attributes)) := by
  have hoverrides : Overrides rules user r method kind attributes ↔
      r.allowsOverride = true ∧ isOverridden rules user (.resource kind attributes) method = true :=
    and_congr_right fun _ => RuleSource.permits_eq_true_iff.symm
  obtain ⟨owns, howns, hcheck⟩ := @check_apply id resource kind attributes subject rules user
    defaultPath method r huser hgiven hnull hread
  have hok : check rules defaultPath user resource r method subject = .ok () ↔
      Owns defaultPath r id attributes ∨ Overrides rules user r method kind attributes := by
    rw [hcheck, hoverrides, ← howns]
    cases owns <;> cases r.allowsOverride <;>
      cases isOverridden rules user (.resource kind attributes) method <;> simp
  refine ⟨hok, fun hneither => ?_, fun hnothing => ?_⟩
  · rw [hcheck, if_neg fun h => hneither (.inl (howns.mp h))]
    split
    · exact ⟨_, rfl, rfl⟩
    · next hallowed =>
        rw [if_neg fun h => hneither (.inr (hoverrides.mpr ⟨by simpa using hallowed, h⟩))]
        exact ⟨_, rfl, rfl⟩
  · refine hok.trans (or_iff_right ?_)
    rintro ⟨owner, hleads, hid⟩
    exact hid.not_isNothing (hnothing owner hleads)

/-! ### A document with an author -/

/-- A document that holds the id of its author in words, inside what it tells of the author. -/
def document (author : Uuid) : Value :=
  .map [("title", .text "notes"), ("author", .map [("id", .text author.text)])]

theorem document_readable (author : Uuid) : (document author).Readable := by
  refine readable_map fun name v h => ?_
  rw [find?, find?, find?] at h
  split at h
  · cases h
    exact readable_text _
  · split at h
    · cases h
      exact readable_entry (readable_text _)
    · cases h

def roleless (id : Uuid) : Account where
  id := .uuid id
  email := .null
  externalId := .null
  role := none
  attributes := .map []

/-- The author is let at the document, and another account is told that it is not the owner. -/
theorem check_ok_author :
    check (fun _ => none) "owner_id" (roleless (.ofNat 1)) (document (.ofNat 1))
        { ownerPath := some "author" } "PATCH" (some .account) = .ok () ∧
      ∃ why, check (fun _ => none) "owner_id" (roleless (.ofNat 2)) (document (.ofNat 1))
          { ownerPath := some "author" } "PATCH" (some .account) = .error (.refused why) ∧
        why.kind = .notOwner := by
  have hhops : Text.split '.' "author" = ["author"] := by decide +kernel
  have hleads : Leads (Text.split '.' (path "owner_id" { ownerPath := some "author" }))
      (document (.ofNat 1)) (.map [("id", .text (Uuid.ofNat 1).text)]) := by
    show Leads (Text.split '.' "author") _ _
    rw [hhops]
    exact leads_singleton.mpr rfl
  have hcheck := fun id : Uuid => @check_ok_iff id (document (.ofNat 1)) _ _ (some .account)
    (fun _ => none) (roleless id) "owner_id" "PATCH" { ownerPath := some "author" } rfl
    (.plain .account nofun) nofun (document_readable _)
  refine ⟨(hcheck (.ofNat 1)).1.mpr (.inl ⟨_, hleads, .inr ⟨_, rfl, .inr (.inl rfl)⟩⟩),
    (hcheck (.ofNat 2)).2.1 ?_⟩
  rintro (⟨owner, howner, hid⟩ | ⟨-, ability, hability, -⟩)
  · rw [howner.unique hleads] at hid
    obtain hid | ⟨w, hread, hid⟩ := hid
    · obtain hid | hid := (isId_of_plain rfl).mp hid <;> cases hid
    · cases hread
      obtain hid | hid := (readsAs_of_plain rfl).mp hid
      · cases hid
      · exact absurd (Uuid.text_inj (Value.text.inj hid)) (by decide)
  · cases hability

/-- An object without attributes that its class writes like an identifier. -/
def badge (id : Uuid) : Value := .object "Badge" none [] [] { words := some id.text }

/-- What only reads like the id of an account is taken for the account; and an empty path leads
nowhere, but where it is required the owner is looked for at the usual place. -/
theorem check_ok_badge :
    let id := Uuid.ofNat 1
    let card := Value.map [("owner_id", badge id)]
    let note := Value.map [("owner_id", .text id.text)]
    (card.Readable ∧ Leads (Text.split '.' "owner_id") card (badge id) ∧
      badge id ≠ .uuid id ∧ badge id ≠ .text id.text ∧
      (∀ name, (badge id).attribute? name = .ok none) ∧
      check (fun _ => none) "owner_id" (roleless id) card { allowsOverride := false } "GET"
        (some .account) = .ok ()) ∧
    note.Readable ∧ (∀ v, ¬ Leads (Text.split '.' "") note v) ∧
      check (fun _ => none) "owner_id" (roleless id) note
        { ownerPath := some "", allowsOverride := false } "GET" (some .account) = .ok () := by
  intro id card note
  have hhops : Text.split '.' "owner_id" = ["owner_id"] := by decide +kernel
  have hempty : Text.split '.' "" = [""] := by decide +kernel
  have hcardRead : card.Readable := readable_entry (readable_guised _ _)
  have hnoteRead : note.Readable := readable_entry (readable_text _)
  have hcard : Leads (Text.split '.' "owner_id") card (badge id) := by
    rw [hhops]
    exact leads_singleton.mpr rfl
  have hnote : Leads (Text.split '.' "owner_id") note (.text id.text) := by
    rw [hhops]
    exact leads_singleton.mpr rfl
  refine ⟨⟨hcardRead, hcard, nofun, nofun, attribute?_guised _ _, ?_⟩, hnoteRead, ?_, ?_⟩
  · exact check_of_owns rfl (.plain .account nofun) nofun hcardRead
      ⟨_, hcard, .inl (.inl (.inr (.inr ⟨_, rfl, rfl⟩)))⟩
  · rw [hempty]
    exact fun v h => nomatch leads_singleton.mp h
  · exact check_of_owns rfl (.plain .account nofun) nofun hnoteRead
      ⟨_, hnote, .inl (.inl (.inr (.inl rfl)))⟩

end Ownership

end Warrant
