import ElectronicShop.Accounts.Roles

/-!
# Someone can always administer

Nobody changes their own role, so an actor of `PATCH /admin/users/{user_id}` keeps
`user.manage`. Nothing keeps actors from deactivating themselves: the shop is left without
an active user who has `user.manage` exactly when the last of them does so.
-/

namespace ElectronicShop

namespace Accounts

open Txn

/-- An active user who has `user.manage`. -/
def Account.Manages (u : Account) : Prop :=
  u.isActive = true ∧ roleHasPermission u.role .userManage = true

instance Account.decidableManages (u : Account) : Decidable u.Manages :=
  inferInstanceAs (Decidable (_ ∧ _))

/-- Somebody can administer users. -/
def Db.Managed (db : Db) : Prop := ∃ u ∈ db.users.rows, u.Manages

instance Db.decidableManaged (db : Db) : Decidable db.Managed :=
  inferInstanceAs (Decidable (∃ _ ∈ _, _))

namespace UserUpdate

/-- The update leaves somebody who can administer. -/
def KeepsManaged (store : Store) (update : UserUpdate) : Prop :=
  ∀ store', update.serve store = .ok store' → store'.db.Managed

/-- The actors deactivate themselves, and nobody else can administer. -/
def LocksOut (store : Store) (update : UserUpdate) : Prop :=
  update.userId = update.subject ∧ update.data.isActive = some false ∧
    ∀ u ∈ store.db.users.rows, u.id ≠ update.subject → ¬ u.Manages

instance decidableLocksOut (store : Store) (update : UserUpdate) :
    Decidable (LocksOut store update) := inferInstanceAs (Decidable (_ ∧ _))

/-- The condition: the last active user with `user.manage` does not deactivate itself. -/
def LeavesAManager (store : Store) (update : UserUpdate) : Prop := ¬ LocksOut store update

instance decidableLeavesAManager (store : Store) (update : UserUpdate) :
    Decidable (LeavesAManager store update) := inferInstanceAs (Decidable (¬ _))

section Effect

variable {update : UserUpdate} {db db' : Db} {actor user : Account}

/-- The users that an update leaves. -/
theorem Effect.mem_users (h : update.Effect db db' actor user) {u : Account} :
    u ∈ db'.users.rows ↔
      u = update.updated user ∨ (u ∈ db.users.rows ∧ u.id ≠ update.userId) := by
  have huser : user.id = update.userId := Table.key_of_get h.getUser
  have hid : (update.updated user).id = update.userId := huser
  obtain ⟨logs, rfl⟩ := h.result
  constructor
  · intro hmem
    rcases Table.mem_put hmem with rfl | ⟨hold, hne⟩
    · exact Or.inl rfl
    · exact Or.inr ⟨hold, hid ▸ hne⟩
  · rintro (rfl | ⟨hold, hne⟩)
    · exact Table.mem_of_get (Table.get_put_self ..)
    · refine Table.mem_of_get (k := u.id) ?_
      rw [Table.get_put_of_ne _ (by rwa [hid])]
      exact Table.get_of_mem hold

/-- Who updates another user can still administer afterwards. -/
theorem Effect.managed_of_ne (h : update.Effect db db' actor user)
    (hne : update.userId ≠ update.subject) : db'.Managed := by
  have hactorId : actor.id = update.subject := Table.key_of_get h.getActor
  refine ⟨actor, h.mem_users.mpr (Or.inr ⟨Table.mem_of_get h.getActor, ?_⟩), h.active, h.permitted⟩
  rw [hactorId]
  exact Ne.symm hne

/-- Who updates themselves keeps the role. -/
theorem Effect.updated_manages_iff (h : update.Effect db db' actor user)
    (hself : update.userId = update.subject) :
    (update.updated user).Manages ↔ update.data.isActive ≠ some false := by
  have huser : user = actor := by
    have hget := h.getUser
    rw [hself, h.getActor] at hget
    exact (Option.some.inj hget).symm
  have hrole : update.data.role.getD user.role = user.role := by
    by_contra hne
    exact h.otherUser hne hself
  have hactive : user.isActive = true := huser ▸ h.active
  have hpermitted : roleHasPermission user.role .userManage = true := huser ▸ h.permitted
  simp only [Account.Manages, updated, hrole, hpermitted, hactive, and_true]
  cases update.data.isActive with
  | none => simp
  | some isActive => cases isActive <;> simp

end Effect

/-- One committed update leaves somebody who can administer, exactly when it is not the last
    of them deactivating itself. -/
theorem keepsManaged_iff {update : UserUpdate} {store store' : Store}
    (h : update.serve store = .ok store') :
    KeepsManaged store update ↔ LeavesAManager store update := by
  obtain ⟨actor, user, heffect⟩ := effect h
  have hkeeps : KeepsManaged store update ↔ store'.db.Managed := by
    constructor
    · intro hkeeps
      exact hkeeps store' h
    · intro hmanaged store₁ hstore₁
      obtain rfl : store₁ = store' := Except.ok.inj (hstore₁.symm.trans h)
      exact hmanaged
  rw [hkeeps]
  by_cases hself : update.userId = update.subject
  · have hupdated := heffect.updated_manages_iff hself
    constructor
    · rintro ⟨u, hu, hmanages⟩ ⟨-, hinactive, hothers⟩
      rcases heffect.mem_users.mp hu with rfl | ⟨hold, hne⟩
      · exact hupdated.mp hmanages hinactive
      · exact hothers u hold (hself ▸ hne) hmanages
    · intro hleaves
      by_cases hinactive : update.data.isActive = some false
      · have hother : ∃ u ∈ store.db.users.rows, u.id ≠ update.subject ∧ u.Manages := by
          by_contra hnone
          refine hleaves ⟨hself, hinactive, fun u hu hne hmanages => ?_⟩
          exact hnone ⟨u, hu, hne, hmanages⟩
        obtain ⟨u, hu, hne, hmanages⟩ := hother
        exact ⟨u, heffect.mem_users.mpr (Or.inr ⟨hu, hself ▸ hne⟩), hmanages⟩
      · exact ⟨_, heffect.mem_users.mpr (Or.inl rfl), hupdated.mpr hinactive⟩
  · constructor
    · intro _ hlocks
      exact hself hlocks.1
    · intro _
      exact heffect.managed_of_ne hself

end UserUpdate

/-! ## Every run -/

open UserUpdate

/-- From a state in which somebody can administer, every update of a run leaves somebody who
    can, exactly when none is the last of them deactivating itself. -/
theorem always_managed {store₀ : Store} (h₀ : store₀.db.Managed) (store : Store)
    (updates : List UserUpdate) :
    (Run UserUpdate.serve KeepsManaged store₀ updates store ↔
      Run UserUpdate.serve LeavesAManager store₀ updates store) ∧
    (Run UserUpdate.serve LeavesAManager store₀ updates store → store.db.Managed) := by
  refine ⟨⟨?_, ?_⟩, ?_⟩
  · intro hrun
    exact hrun.mono_committed fun s a s' hkeeps hcommit => (keepsManaged_iff hcommit).mp hkeeps
  · intro hrun
    exact hrun.mono_committed fun s a s' hleaves hcommit => (keepsManaged_iff hcommit).mpr hleaves
  · intro hrun
    exact hrun.invariant (fun s => s.db.Managed) h₀ fun a s s' _ hleaves hcommit =>
      (keepsManaged_iff hcommit).mpr hleaves s' hcommit

/-- The admin deactivates the super admin, who then cannot log in any more. -/
theorem always_managed_threeUsers : ∃ store,
    Run UserUpdate.serve KeepsManaged threeUsers [⟨2, 1, ⟨none, some false⟩⟩] store ∧
      store.db.Managed := by
  have hexec : (Run.execAll UserUpdate.serve LeavesAManager [⟨2, 1, ⟨none, some false⟩⟩]
      threeUsers).any (fun _ => True) = true := by decide +kernel
  obtain ⟨store, hrun, -⟩ := Run.exists_of_execAll hexec
  have hmanaged := always_managed (by decide : threeUsers.db.Managed) store
    [⟨2, 1, ⟨none, some false⟩⟩]
  exact ⟨store, hmanaged.1.mpr hrun, hmanaged.2 hrun⟩

/-- Then the admin, now the last one, deactivates itself. -/
theorem always_managed_fails : ¬ ∀ (store₀ store : Store) (updates : List UserUpdate),
    store₀.db.Managed → Run UserUpdate.serve anyStep store₀ updates store →
      store.db.Managed := by
  intro hclaim
  have hexec : (Run.execAll UserUpdate.serve anyStep
      [⟨2, 1, ⟨none, some false⟩⟩, ⟨2, 2, ⟨none, some false⟩⟩] threeUsers).any
        (fun s => ¬ s.db.Managed) = true := by decide +kernel
  obtain ⟨store, hrun, hnot⟩ := Run.exists_of_execAll hexec
  exact hnot (hclaim _ _ _ (by decide) hrun)

end Accounts

end ElectronicShop
