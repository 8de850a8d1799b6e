import Warrant.Proofs.Command
import Warrant.Proofs.Recounting

/-!
# Changes are silent

Nothing that a change does before it is recorded has to do with the log. Its
reads do not look at it, its writes do not touch it, and the rules that are
loaded again come from other tables. So all of this is silent, and only the
recording that follows a change has something to recount.

Each lemma follows the definition of its operation, part by part.
-/

namespace Warrant

/-! ## The store -/

namespace Store

theorem roles_silent (scope : Option (List Uuid)) : Work.Silent (roles scope) := by
  refine Work.Silent.bind (Work.Silent.query nofun fun _ _ => rfl) fun rows => ?_
  split
  · exact Work.Silent.pure []
  · exact Work.Silent.query nofun fun _ _ => rfl

theorem role_silent (id : Uuid) : Work.Silent (role id) :=
  Work.Silent.bind (roles_silent _) fun _ => Work.Silent.pure _

theorem existingRole_silent (id : Uuid) : Work.Silent (existingRole id) := by
  refine Work.Silent.bind (role_silent id) fun found => ?_
  cases found with
  | none => exact Work.Silent.refuse _
  | some r => exact Work.Silent.pure r

theorem roleNamed_silent (name : Value) : Work.Silent (roleNamed name) := by
  refine Work.Silent.bind (Work.Silent.query nofun fun _ _ => rfl) fun found => ?_
  cases found with
  | none => exact Work.Silent.pure none
  | some id => exact role_silent id

theorem insertRole_silent (r : Role) : Work.Silent (insertRole r) := by
  refine Work.Silent.write nofun fun db log => ?_
  unfold Database.insertRole
  rw [apply_ite (Except.map (Database.withLog · log))]
  rfl

theorem updateRole_silent (r : Role) : Work.Silent (updateRole r) := by
  refine Work.Silent.write nofun fun db log => ?_
  unfold Database.updateRole
  rw [apply_ite (Except.map (Database.withLog · log))]
  rfl

theorem insertPermission_silent (p : Permission) : Work.Silent (insertPermission p) := by
  refine Work.Silent.write nofun fun db log => ?_
  unfold Database.insertPermission
  cases Database.storedPermission p with
  | error e => rfl
  | ok row =>
      show (if db.hasPermission row.id = true then _ else _) =
        Except.map _ (if db.hasPermission row.id = true then _ else _)
      cases db.hasPermission row.id <;> rfl

theorem updatePermission_silent (p : Permission) : Work.Silent (updatePermission p) := by
  refine Work.Silent.write nofun fun db log => ?_
  unfold Database.updatePermission
  cases Database.storedPermission p <;> rfl

end Store

/-! ## Loading rules -/

namespace Reload

theorem load_silent (scope : Option (List Uuid)) : Work.Silent (load scope) := by
  have hfetch : Work.Silent (fetch scope) :=
    Work.Silent.bind (Store.roles_silent scope).transact fun _ =>
      Work.Silent.bind (Work.Silent.ofFault _) fun _ => Work.Silent.pure _
  refine Work.Silent.bind hfetch.attempt fun found => ?_
  cases found with
  | error f => exact Work.Silent.refuse _
  | ok reload =>
      refine Work.Silent.untimed (fun _ => rfl) (fun _ => rfl) (fun _ => rfl) fun h => ⟨rfl, ?_⟩
      exact ⟨h.roles, h.permissions, h.accounts, congrArg (RuleCache.install · reload) h.cache,
        h.clock, h.issued⟩

end Reload

namespace Mutation

theorem reload_silent (touched : Option Uuid) : Work.Silent (Stages.reload touched) := by
  cases touched with
  | none => exact Work.Silent.pure ()
  | some id =>
      exact Work.Silent.bind (Reload.load_silent (some [id])).attempt fun _ => Work.Silent.pure ()

/-! ## Changes -/

theorem insert_silent (roleId : Uuid) (rule : RuleInput) : Work.Silent (insert roleId rule) := by
  have hbody : Work.Silent (insertBody roleId rule) :=
    Work.Silent.bind (Store.existingRole_silent roleId) fun _ =>
      Work.Silent.bind Work.Silent.drawId fun _ => Work.Silent.bind Work.Silent.readClock fun _ =>
        Work.Silent.bind (Store.insertPermission_silent _) fun _ => Work.Silent.pure _
  exact hbody.transact.asMutation

theorem erase_silent (roleId permissionId : Uuid) :
    Work.Silent (erase roleId permissionId) := by
  have hbody : Work.Silent (eraseBody roleId permissionId) := by
    refine Work.Silent.bind (Store.existingRole_silent roleId) fun role => ?_
    cases role.permissions.find? fun p => p.id = permissionId with
    | none => exact Work.Silent.refuse _
    | some p => exact Work.Silent.bind (Work.Silent.write nofun fun _ _ => rfl) fun _ => Work.Silent.pure _
  exact hbody.transact.asMutation

theorem revise_silent (roleId permissionId : Uuid) (change : RuleChange) :
    Work.Silent (revise roleId permissionId change) := by
  have hread : Work.Silent (readForChange roleId permissionId) := by
    refine Work.Silent.bind (Work.Silent.query nofun fun _ _ => rfl) fun found => ?_
    cases found with
    | none => exact Work.Silent.refuse _
    | some p =>
        dsimp only
        split
        · exact Work.Silent.pure p
        · exact Work.Silent.refuse _
  have hwrite : ∀ p, Work.Silent (writeChange change p) := fun p =>
    Work.Silent.bind (Work.Silent.ofFault _) fun _ => Work.Silent.bind (Work.Silent.ofFault _) fun _ =>
      Work.Silent.bind (Store.updatePermission_silent _) fun _ => Work.Silent.pure _
  exact (Work.Silent.bind hread hwrite).transact.asMutation

theorem insertDraft_silent (name description : Value) :
    Work.Silent (insertDraft name description) := by
  have hdraft : Work.Silent (draftRole name description) :=
    Work.Silent.bind (Work.Silent.ofResult _) fun _ => Work.Silent.bind (Work.Silent.ofResult _) fun _ =>
      Work.Silent.bind Work.Silent.drawId fun _ => Work.Silent.bind Work.Silent.readClock fun _ =>
        Work.Silent.pure _
  have hinsert : ∀ r, Work.Silent (insertRole r) := by
    intro r
    refine Work.Recounts.asMutation (Work.Silent.transact ?_)
    refine Work.Silent.bind (Store.roleNamed_silent _) fun found => ?_
    split
    · exact Work.Silent.refuse _
    · exact Store.insertRole_silent r
  exact Work.Silent.bind hdraft fun r => Work.Silent.bind (hinsert r) fun _ => Work.Silent.pure r

theorem editRole_silent (id : Uuid) (name description : Option String) :
    Work.Silent (editRole id name description) := by
  have hrename : ∀ old, Work.Silent (renameIfGiven old name) := by
    intro old
    cases name with
    | none => exact Work.Silent.pure old
    | some name =>
        unfold renameIfGiven rename
        dsimp only
        split
        · exact Work.Silent.refuse _
        · refine Work.Silent.bind (Store.roleNamed_silent _) fun found => ?_
          split
          · split
            · exact Work.Silent.pure _
            · exact Work.Silent.refuse _
          · exact Work.Silent.pure _
  have hbody : Work.Silent (editBody id name description) :=
    Work.Silent.bind (Store.existingRole_silent id) fun old => Work.Silent.bind (hrename old) fun _ =>
      Work.Silent.bind (Store.updateRole_silent _) fun _ => Work.Silent.pure _
  rw [editRole_eq]
  exact hbody.transact.asMutation

theorem eraseRole_silent (id : Uuid) : Work.Silent (eraseRole id) :=
  Work.Recounts.asMutation <| Work.Silent.transact <|
    Work.Silent.bind (Store.existingRole_silent id) fun _ =>
      Work.Silent.bind (Work.Silent.write nofun fun _ _ => rfl) fun _ => Work.Silent.pure _

theorem assign_silent (accountId : Uuid) (roleId : Option Uuid) :
    Work.Silent (assign accountId roleId) := by
  have hrole : Work.Silent (newRole roleId) := by
    cases roleId with
    | none => exact Work.Silent.pure none
    | some id => exact Work.Silent.bind (Store.existingRole_silent id) fun r => Work.Silent.pure (some r)
  have hbody : Work.Silent (assignBody accountId roleId) := by
    refine Work.Silent.bind (Work.Silent.query nofun fun _ _ => rfl) fun found => ?_
    cases found with
    | none => exact Work.Silent.refuse _
    | some account =>
        exact Work.Silent.bind hrole fun _ =>
          Work.Silent.bind (Work.Silent.write nofun fun _ _ => rfl) fun _ => Work.Silent.pure _
  exact hbody.transact.asMutation

end Mutation

end Warrant
