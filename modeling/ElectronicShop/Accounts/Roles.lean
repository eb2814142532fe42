import ElectronicShop.Execution.Accounts

/-!
# Who changes a role

Roles are what `PATCH /admin/users/{user_id}` checks and what it changes. The catalogue
has a permission for changing roles, `user.role.manage`, which only super admins have;
the endpoint asks for `user.manage`, which admins have as well. So the role changes of a
run are made by holders of `user.role.manage` exactly when no admin of the run asks for
another role of another user.
-/

namespace ElectronicShop

namespace Accounts

open Txn

namespace UserUpdate

section Effect

variable {update : UserUpdate} {db db' : Db} {actor user : Account}

theorem Effect.roleOf_subject (h : update.Effect db db' actor user) :
    db.roleOf update.subject = some actor.role := by
  rw [Db.roleOf, h.getActor, Option.map_some]

theorem Effect.roleOf_userId (h : update.Effect db db' actor user) :
    db.roleOf update.userId = some user.role := by
  rw [Db.roleOf, h.getUser, Option.map_some]

/-- The only role that an update can change is that of the user it names. -/
theorem Effect.roleOf (h : update.Effect db db' actor user) (u : Uuid) :
    db'.roleOf u =
      if u = update.userId then some (update.data.role.getD user.role) else db.roleOf u := by
  have huser : user.id = update.userId := Table.key_of_get h.getUser
  have huserId : (update.updated user).id = update.userId := huser
  obtain ⟨logs, rfl⟩ := h.result
  unfold Db.roleOf
  rw [Table.get_put, huserId]
  split
  · rfl
  · rfl

end Effect

/-! ## Authority over roles -/

/-- The roles this update changes are changed by an actor who has `user.role.manage` at
    that moment. -/
def Authorized (store : Store) (update : UserUpdate) : Prop :=
  ∀ store', update.serve store = .ok store' → ∀ u, store'.db.roleOf u ≠ store.db.roleOf u →
    ∃ role, store.db.roleOf update.subject = some role ∧
      roleHasPermission role .userRoleManage = true

/-- The actor is an admin. -/
def ByAdmin (store : Store) (update : UserUpdate) : Prop :=
  store.db.roleOf update.subject = some .admin

instance decidableByAdmin (store : Store) (update : UserUpdate) : Decidable (ByAdmin store update) :=
  inferInstanceAs (Decidable (_ = _))

/-- An admin asks for another role of another user. -/
def Escalates (store : Store) (update : UserUpdate) : Prop :=
  ByAdmin store update ∧ update.userId ≠ update.subject ∧
    ∃ role ∈ update.data.role, ∃ old ∈ store.db.roleOf update.userId, role ≠ old

instance decidableEscalates (store : Store) (update : UserUpdate) :
    Decidable (Escalates store update) := inferInstanceAs (Decidable (_ ∧ _))

/-- The condition: no admin asks for another role of another user. -/
def Unescalating (store : Store) (update : UserUpdate) : Prop := ¬ Escalates store update

instance decidableUnescalating (store : Store) (update : UserUpdate) :
    Decidable (Unescalating store update) := inferInstanceAs (Decidable (¬ _))

theorem admin_or_superAdmin {role : UserRole} (h : roleHasPermission role .userManage = true) :
    role = .admin ∨ role = .superAdmin := by
  cases role with
  | customer => exact absurd h (by decide)
  | support => exact absurd h (by decide)
  | admin => exact Or.inl rfl
  | superAdmin => exact Or.inr rfl

/-- One committed update is authorized exactly when it does not escalate. -/
theorem authorized_iff {update : UserUpdate} {store store' : Store}
    (h : update.serve store = .ok store') :
    Authorized store update ↔ Unescalating store update := by
  obtain ⟨actor, user, heffect⟩ := effect h
  have hsubject := heffect.roleOf_subject
  constructor
  · rintro hauthorized ⟨hadmin, -, role, hrole, old, hold, hne⟩
    have hrole' : update.data.role = some role := hrole
    have hchange : store'.db.roleOf update.userId ≠ store.db.roleOf update.userId := by
      rw [heffect.roleOf, if_pos rfl, hrole', Option.getD_some, show _ = some old from hold]
      exact fun heq => hne (Option.some.inj heq)
    obtain ⟨actorRole, hactor, hmanage⟩ := hauthorized store' h update.userId hchange
    rw [show _ = some UserRole.admin from hadmin] at hactor
    cases hactor
    exact absurd hmanage (by decide)
  · intro hunescalating store₁ hstore₁ u hchange
    obtain rfl : store₁ = store' := Except.ok.inj (hstore₁.symm.trans h)
    refine ⟨actor.role, hsubject, ?_⟩
    rcases admin_or_superAdmin heffect.permitted with hadmin | hsuper
    · refine absurd ⟨?_, ?_⟩ hunescalating
      · rw [ByAdmin, hsubject, hadmin]
      · rw [heffect.roleOf] at hchange
        split at hchange
        · rename_i hu
          rw [hu, heffect.roleOf_userId] at hchange
          have hne : update.data.role.getD user.role ≠ user.role :=
            fun heq => hchange (congrArg some heq)
          refine ⟨heffect.otherUser hne, ?_⟩
          cases hrole : update.data.role with
          | none =>
            rw [hrole] at hne
            exact absurd rfl hne
          | some role =>
            rw [hrole] at hne
            exact ⟨role, rfl, user.role, heffect.roleOf_userId, hne⟩
        · exact absurd rfl hchange
    · rw [hsuper]
      decide

/-- An admin's authorized update changes no role. -/
theorem roleOf_of_byAdmin {update : UserUpdate} {store store' : Store}
    (hauthorized : Authorized store update) (hadmin : ByAdmin store update)
    (h : update.serve store = .ok store') (u : Uuid) :
    store'.db.roleOf u = store.db.roleOf u := by
  by_contra hchange
  obtain ⟨role, hrole, hmanage⟩ := hauthorized store' h u hchange
  rw [show _ = some UserRole.admin from hadmin] at hrole
  cases hrole
  exact absurd hmanage (by decide)

end UserUpdate

/-! ## Every run -/

open UserUpdate

/-- The updates of a run change roles with `user.role.manage` only, exactly when none of
    them escalates; and then admins on their own make no super admin and unmake none. -/
theorem role_changes_authorized (store₀ store : Store) (updates : List UserUpdate) :
    (Run UserUpdate.serve Authorized store₀ updates store ↔
      Run UserUpdate.serve Unescalating store₀ updates store) ∧
    (Run UserUpdate.serve (fun s a => ByAdmin s a ∧ Unescalating s a) store₀ updates store →
      ∀ u, store.db.roleOf u = some .superAdmin ↔ store₀.db.roleOf u = some .superAdmin) := by
  refine ⟨⟨?_, ?_⟩, ?_⟩
  · intro hrun
    exact hrun.mono_committed fun s a s' hallowed hcommit => (authorized_iff hcommit).mp hallowed
  · intro hrun
    exact hrun.mono_committed fun s a s' hallowed hcommit => (authorized_iff hcommit).mpr hallowed
  · intro hrun u
    have hroles := hrun.invariant (fun s => s.db.roleOf u = store₀.db.roleOf u) rfl
      fun a s s' hs hguard hcommit => by
        have hauthorized := (authorized_iff hcommit).mpr hguard.2
        exact (roleOf_of_byAdmin hauthorized hguard.1 hcommit u).trans hs
    rw [hroles]

/-- A super admin, an admin and a customer. -/
def threeUsers : Store where
  db := { Db.empty with
    users := (((∅ : Table Account.id).put (localAccount 1 "root" .superAdmin)).put
      (localAccount 2 "manager" .admin)).put (localAccount 3 "sara" .customer) }
  valid := by decide

/-- The super admin makes the customer an agent of the support; the admin deactivates the
    customer. -/
theorem role_changes_authorized_threeUsers :
    (∃ store, Run UserUpdate.serve Authorized threeUsers [⟨1, 3, ⟨some .support, none⟩⟩] store ∧
      store.db.roleOf 3 = some .support) ∧
    ∃ store : Store, (store.db.users.get 3).map Account.isActive = some false ∧
      ∀ u, store.db.roleOf u = some .superAdmin ↔ threeUsers.db.roleOf u = some .superAdmin := by
  constructor
  · have hexec : (Run.execAll UserUpdate.serve Unescalating [⟨1, 3, ⟨some .support, none⟩⟩]
        threeUsers).any (fun s => s.db.roleOf 3 = some .support) = true := by decide +kernel
    obtain ⟨store, hrun, hrole⟩ := Run.exists_of_execAll hexec
    exact ⟨store, (role_changes_authorized _ _ _).1.mpr hrun, hrole⟩
  · have hexec : (Run.execAll UserUpdate.serve (fun s a => ByAdmin s a ∧ Unescalating s a)
        [⟨2, 3, ⟨none, some false⟩⟩] threeUsers).any
          (fun s => (s.db.users.get 3).map Account.isActive = some false) = true := by decide +kernel
    obtain ⟨store, hrun, hactive⟩ := Run.exists_of_execAll hexec
    exact ⟨store, hactive, (role_changes_authorized _ _ _).2 hrun⟩

/-- The admin makes the customer a super admin. -/
theorem role_changes_authorized_fails :
    ¬ (∀ (store₀ store : Store) (updates : List UserUpdate),
      Run UserUpdate.serve anyStep store₀ updates store →
        Run UserUpdate.serve Authorized store₀ updates store) ∧
    ¬ ∀ (store₀ store : Store) (updates : List UserUpdate),
      Run UserUpdate.serve ByAdmin store₀ updates store →
        ∀ u, store.db.roleOf u = some .superAdmin ↔ store₀.db.roleOf u = some .superAdmin := by
  have hexec : (Run.execAll UserUpdate.serve ByAdmin [⟨2, 3, ⟨some .superAdmin, none⟩⟩]
      threeUsers).any (fun s => s.db.roleOf 3 = some .superAdmin) = true := by decide +kernel
  obtain ⟨store, hrun, hrole⟩ := Run.exists_of_execAll hexec
  have hrole₀ : threeUsers.db.roleOf 3 = some .customer := by decide
  constructor
  · intro hclaim
    obtain ⟨hauthorized, hcommit⟩ := Run.singleton_iff.mp (hclaim _ _ _ hrun.any)
    have hsame := roleOf_of_byAdmin hauthorized (by decide) hcommit 3
    rw [hrole, hrole₀] at hsame
    cases hsame
  · intro hclaim
    have hsuper := (hclaim _ _ _ hrun 3).mp hrole
    rw [hrole₀] at hsuper
    cases hsuper

end Accounts

end ElectronicShop
