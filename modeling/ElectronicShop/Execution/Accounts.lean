import ElectronicShop.Model.AuthApi

/-!
# What the account services do

For each service of `app/modules/auth` and `app/modules/users` that runs alone: when it
succeeds, and what it leaves of the tables.
-/

namespace ElectronicShop

namespace Accounts

open Txn

variable {db db' : Db} {settings : Settings}

/-- A local account. -/
def localAccount (id : Uuid) (username : String) (role : UserRole) : Account where
  id := id
  email := username ++ "@shop.ir"
  username := username
  hashedPassword := some username
  firstName := ""
  lastName := ""
  avatar := none
  role := role
  isActive := true
  isVerified := true
  lastLogin := none

theorem toLower_toLower (c : Char) : c.toLower.toLower = c.toLower := by
  unfold Char.toLower
  split
  · rename_i h
    have hlow : ¬ (c.val + ('a'.val - 'A'.val) ≥ 'A'.val ∧
        c.val + ('a'.val - 'A'.val) ≤ 'Z'.val) := by grind
    rw [dif_neg hlow]
  · rfl

/-- Lower case for ASCII letters. -/
def lowerAscii (email : String) : String := String.ofList (email.toList.map Char.toLower)

theorem lowerAscii_lowerAscii (email : String) :
    lowerAscii (lowerAscii email) = lowerAscii email := by
  have hcomp : Char.toLower ∘ Char.toLower = Char.toLower := funext toLower_toLower
  simp [lowerAscii, hcomp]

/-- Hashes that change nothing, and e-mail addresses in ASCII. -/
def plainSettings : Settings where
  hashToken token := token
  hashPassword _ password := password
  verifyPassword password hashed := password = hashed
  lower := lowerAscii
  lower_lower := lowerAscii_lowerAscii

def noClient : ClientMeta := ⟨none, none⟩

/-! ## Who is asking -/

theorem run_getCurrentUser {subject : Uuid} {user : Account} :
    (getCurrentUser subject).run Stmt.exec db = .ok (user, db') ↔
      db.users.get subject = some user ∧ user.isActive = true ∧ db' = db := by
  simp only [getCurrentUser, Prog.run_bind_ok, Prog.run_orRaise_ok, Prog.run_if_raise_ok,
    Bool.not_eq_false]
  constructor
  · rintro ⟨_, _, hsend, found, _, ⟨hfound, rfl⟩, hactive, hdone⟩
    cases hsend
    cases hdone
    exact ⟨hfound, hactive, rfl⟩
  · rintro ⟨huser, hactive, rfl⟩
    exact ⟨_, _, rfl, user, _, ⟨huser, rfl⟩, hactive, rfl⟩

theorem run_requirePermission {permission : Permission} {user : Account} {r : Unit} :
    (requirePermission permission user).run Stmt.exec db = .ok (r, db') ↔
      roleHasPermission user.role permission = true ∧ db' = db := by
  simp only [requirePermission, Prog.run_if_raise_ok, Bool.not_eq_false]
  refine and_congr_right fun _ => ?_
  constructor
  · intro hdone
    cases hdone
    rfl
  · rintro rfl
    rfl

/-- A lookup, and what follows it. -/
theorem run_send_bind {α : Type} {s : Stmt} {f : s.Resp → Tx α} {r : α × Db} :
    (send s >>= f).run Stmt.exec db = .ok r ↔
      (f (s.exec db).1).run Stmt.exec (s.exec db).2 = .ok r := Iff.rfl

theorem run_insert {row : NewRow} {r : Unit} :
    (insert row).run Stmt.exec db = .ok (r, db') ↔ row.taken db = false ∧ db' = row.insert db := by
  unfold insert
  refine run_send_bind.trans ?_
  cases htaken : row.taken db with
  | true => simp [Stmt.exec, htaken]
  | false =>
    simp only [Stmt.exec, htaken, Bool.false_eq_true, if_false, Prog.pure_eq, Prog.run_done,
      Except.ok.injEq, Prod.mk.injEq, Write.apply, true_and]
    exact eq_comm

/-! ## Administration of users -/

theorem run_getUser {userId : Uuid} {user : Account} :
    (UsersAdminService.getUser userId).run Stmt.exec db = .ok (user, db') ↔
      db.users.get userId = some user ∧ db' = db := by
  refine run_send_bind.trans ?_
  exact Prog.run_orRaise_ok

/-- The role is set, unless it stays; nobody changes their own. -/
theorem run_updateRole {user user' : Account} {role : Option UserRole} {actorId : Uuid}
    (hget : db.users.get user.id = some user)
    (h : (UsersAdminService.updateRole user role actorId).run Stmt.exec db = .ok (user', db')) :
    user' = { user with role := role.getD user.role } ∧
      (user'.role ≠ user.role → user.id ≠ actorId) ∧
      ∃ logs, db' = { db with users := db.users.put user', auditLogs := logs } := by
  cases role with
  | none =>
    cases h
    exact ⟨rfl, fun hne => absurd rfl hne, db.auditLogs, by rw [Table.put_self hget]⟩
  | some role =>
    simp only [UsersAdminService.updateRole] at h
    split at h
    · rename_i hsame
      cases h
      exact ⟨by rw [Option.getD_some, hsame], fun hne => absurd rfl hne, db.auditLogs,
        by rw [Table.put_self hget]⟩
    · split at h
      · cases h
      · rename_i hactor
        cases h
        have husers : db.users.modify user.id (fun r => { r with role }) =
            db.users.put { user with role } := Table.modify_of_get _ hget
        refine ⟨rfl, fun _ => hactor, db.auditLogs ++ [?entry], ?result⟩
        case result =>
          rw [← husers]
          rfl

theorem run_updateActive {user user' : Account} {isActive : Option Bool} {actorId : Uuid}
    (hget : db.users.get user.id = some user)
    (h : (UsersAdminService.updateActive user isActive actorId).run Stmt.exec db =
      .ok (user', db')) :
    user' = { user with isActive := isActive.getD user.isActive } ∧
      ∃ logs, db' = { db with users := db.users.put user', auditLogs := logs } := by
  cases isActive with
  | none =>
    cases h
    exact ⟨rfl, db.auditLogs, by rw [Table.put_self hget]⟩
  | some isActive =>
    simp only [UsersAdminService.updateActive] at h
    split at h
    · rename_i hsame
      cases h
      exact ⟨by rw [Option.getD_some, hsame], db.auditLogs, by rw [Table.put_self hget]⟩
    · cases h
      have husers : db.users.modify user.id (fun r => { r with isActive }) =
          db.users.put { user with isActive } := Table.modify_of_get _ hget
      refine ⟨rfl, db.auditLogs ++ [?entry], ?result⟩
      case result =>
        rw [← husers]
        rfl

namespace UserUpdate

/-- The row that an update leaves. -/
def updated (update : UserUpdate) (user : Account) : Account :=
  { user with
    role := update.data.role.getD user.role
    isActive := update.data.isActive.getD user.isActive }

/-- What a committed update has checked, and what it leaves of the users. -/
structure Effect (update : UserUpdate) (db db' : Db) (actor user : Account) : Prop where
  getActor : db.users.get update.subject = some actor
  active : actor.isActive = true
  permitted : roleHasPermission actor.role .userManage = true
  getUser : db.users.get update.userId = some user
  otherUser : update.data.role.getD user.role ≠ user.role → update.userId ≠ update.subject
  result : ∃ logs, db' = { db with users := db.users.put (update.updated user), auditLogs := logs }

theorem effect_of_run {update : UserUpdate} {user' : Account}
    (h : (updateUser update.subject update.userId update.data).run Stmt.exec db =
      .ok (user', db')) : ∃ actor user, update.Effect db db' actor user := by
  simp only [updateUser, UsersAdminService.updateUser, Prog.run_bind_ok, run_getCurrentUser,
    run_requirePermission, run_getUser] at h
  obtain ⟨actor, _, ⟨hactor, hactive, rfl⟩, _, _, ⟨hpermitted, rfl⟩, user, db₁, ⟨huser, rfl⟩,
    changed, db₂, hrole, hlast⟩ := h
  have hactorId : actor.id = update.subject := Table.key_of_get hactor
  have huserId : user.id = update.userId := Table.key_of_get huser
  obtain ⟨rfl, hother, logs, rfl⟩ := run_updateRole (huserId ▸ huser) hrole
  obtain ⟨rfl, logs', rfl⟩ := run_updateActive (Table.get_put_self ..) hlast
  refine ⟨actor, user, hactor, hactive, hpermitted, huser, ?_, logs', ?_⟩
  · intro hne
    rw [← huserId, ← hactorId]
    exact hother hne
  · have hid : (update.updated user).id =
        ({ user with role := update.data.role.getD user.role } : Account).id := rfl
    rw [← Table.put_put db₁.users hid]
    rfl

theorem effect {update : UserUpdate} {store store' : Store}
    (h : update.serve store = .ok store') :
    ∃ actor user, update.Effect store.db store'.db actor user := by
  unfold serve at h
  cases hrun : store.transact (updateUser update.subject update.userId update.data) with
  | error e =>
    rw [hrun] at h
    cases h
  | ok r =>
    rw [hrun] at h
    obtain ⟨result, store₁⟩ := r
    cases h
    exact effect_of_run (Store.transact_ok.mp hrun)

end UserUpdate

end Accounts

end ElectronicShop
