import ElectronicShop.Execution.Tokens
import ElectronicShop.Model.AuthApi

/-!
# The transactions of the accounts

The endpoints of `app/modules/auth` and `app/modules/users` as transactions that can overlap,
with the statements that each may send. What a transaction has locked stays as it is until
it ends (`AccountRely`).
-/

namespace ElectronicShop

namespace Accounts

open Txn

/-- The transactions of the endpoints, the ones with Google from the identity on. -/
inductive AccountOperation where
  | register (data : RegisterRequest) (client : ClientMeta) (account : RegisterDraw)
      (familyId : Uuid) (draw : Draw)
  | login (email password : String) (client : ClientMeta) (now : DateTime) (familyId : Uuid)
      (draw : Draw)
  | refresh (cookie : Option String) (client : ClientMeta) (now : DateTime) (draw : Draw)
  | logout (cookie : Option String) (now : DateTime)
  | changePassword (subject : Uuid) (currentPassword newPassword : String) (salt : Nat)
      (now : DateTime)
  | requestPasswordReset (email : String) (draw : LinkDraw)
  | confirmPasswordReset (token newPassword : String) (salt : Nat)
      (clock : AuthService.ConfirmClock)
  | googleLogin (identity : GoogleIdentity) (client : ClientMeta) (account : GoogleDraw)
      (familyId : Uuid) (draw : Draw)
  | googleLink (userId : Uuid) (identity : GoogleIdentity) (account : GoogleDraw)
  | updateUser (update : UserUpdate)
  deriving DecidableEq, Repr

namespace AccountOperation

def program (settings : Settings) : AccountOperation → Tx (Except ShopError Answer)
  | .register data client account familyId draw => do
    let pair ← Accounts.register settings data client account familyId draw
    pure (.ok (some pair))
  | .login email password client now familyId draw => do
    let pair ← Accounts.login settings email password client now familyId draw
    pure (.ok (some pair))
  | .refresh cookie client now draw => do
    let rotated ← Accounts.refresh settings cookie client now draw
    pure (rotated.map some)
  | .logout cookie now => do
    Accounts.logout settings cookie now
    pure (.ok none)
  | .changePassword subject currentPassword newPassword salt now => do
    Accounts.changePassword settings subject currentPassword newPassword salt now
    pure (.ok none)
  | .requestPasswordReset email draw => do
    AuthService.requestPasswordReset settings email draw
    pure (.ok none)
  | .confirmPasswordReset token newPassword salt clock => do
    AuthService.confirmPasswordReset settings token newPassword salt clock
    pure (.ok none)
  | .googleLogin identity client account familyId draw => do
    let pair ← Accounts.googleLogin settings identity client account familyId draw
    pure (.ok (some pair))
  | .googleLink userId identity account => do
    Accounts.googleLink settings userId identity account
    pure (.ok none)
  | .updateUser update => do
    let _ ← Accounts.updateUser update.subject update.userId update.data
    pure (.ok none)

end AccountOperation

abbrev AccountOperations (ι : Type) : Type :=
  Config accounts ShopError (Except ShopError Answer) Db Session RowKey ι

/-- All of them are about to begin. -/
def AccountOperations.start {ι : Type} (settings : Settings) (db : Db)
    (ops : ι → AccountOperation) : AccountOperations ι where
  db := db
  clients i := .running ((ops i).program settings) engine.start []

/-- What an operation commits alone, it commits as well among others that let it take its turns
    and hold no locks. -/
theorem AccountOperations.reach_transact {ι : Type} [Fintype ι] [DecidableEq ι]
    {settings : Settings} {c : AccountOperations ι} {i : ι} {op : AccountOperation}
    {store store' : Store} {answer : Except ShopError Answer} (hdb : c.db = store.db)
    (hi : c.clients i = .running (op.program settings) engine.start [])
    (hothers : ∀ j, j ≠ i → (c.clients j).held = [])
    (h : store.transact (op.program settings) = .ok (answer, store')) :
    Reach engine anyEvent c { c.set i (.committed answer) with db := store'.db } := by
  refine implements.reach_commit hi hothers (hdb ▸ Store.transact_ok.mp h) fun w hview => ?_
  have hview' : w.view c.db = store'.db := hview
  exact engine_commit_ok.mpr ⟨hview'.symm ▸ store'.valid, hview'.symm⟩

/-! ## What each may send -/

/-- The statements that only read. -/
def Stmt.Reads : Stmt → Prop
  | .insert _ => False
  | .write _ => False
  | _ => True

theorem Stmt.pending_execIn {s : Stmt} (hs : s.Reads) (w : Session) (db : Db) :
    (s.execIn w db).2.pending = w.pending := by
  cases s with
  | getUser id => rfl
  | getUserByEmail email =>
    simp only [Stmt.execIn]
    split <;> rfl
  | getUserByUsername username =>
    simp only [Stmt.execIn]
    split <;> rfl
  | getOAuthAccount subject => rfl
  | getTokenByHash tokenHash =>
    simp only [Stmt.execIn]
    split <;> rfl
  | getActiveTokens set => exact Session.pending_loadTokens _
  | getResetByHash tokenHash =>
    simp only [Stmt.execIn]
    split <;> rfl
  | insert row => exact hs.elim
  | write x => exact hs.elim

/-- What a session has written after a statement it had written before, or the statement
    writes it. -/
theorem Stmt.mem_pending_execIn {s : Stmt} {w : Session} {db : Db} {x : Write}
    (h : x ∈ (s.execIn w db).2.pending) :
    x ∈ w.pending ∨ (∃ row, s = .insert row ∧ row.taken (w.view db) = false ∧ x = .add row) ∨
      s = .write x := by
  by_cases hreads : s.Reads
  · rw [Stmt.pending_execIn hreads] at h
    exact Or.inl h
  · cases s with
    | insert row =>
      simp only [Stmt.execIn] at h
      split at h
      · exact Or.inl h
      · rename_i hfree
        rcases List.mem_append.mp h with hold | hnew
        · exact Or.inl hold
        · exact Or.inr (Or.inl ⟨row, rfl, by simpa using hfree, List.mem_singleton.mp hnew⟩)
    | write y =>
      rcases List.mem_append.mp h with hold | hnew
      · exact Or.inl hold
      · exact Or.inr (Or.inr (congrArg Stmt.write (List.mem_singleton.mp hnew).symm))
    | _ => exact absurd trivial hreads

section Uses

variable {settings : Settings} {ok : Stmt → Prop}

theorem uses_send {s : Stmt} (h : ok s) : (send s).Uses ok := (Prog.uses_send _).mpr h

theorem uses_insert {row : NewRow} (h : ok (.insert row)) : (insert row).Uses ok := by
  have hsend : (send (.insert row)).Uses ok := uses_send h
  refine hsend.bind fun free => ?_
  cases free <;> trivial

theorem uses_write {x : Write} (h : ok (.write x)) : (write x).Uses ok := (Prog.uses_send _).mpr h

variable (hreads : ∀ s : Stmt, s.Reads → ok s)
include hreads

theorem uses_revokeAll (set : TokenSet) (time : DateTime)
    (hrevoke : ∀ id, ok (.write (.setRevokedAt id time))) :
    (AuthService.revokeAll set time).Uses ok :=
  Prog.Uses.bind (uses_send (hreads _ trivial)) fun tokens =>
    Prog.Uses.forM tokens fun t => uses_write (hrevoke t.id)

theorem uses_getCurrentUser (subject : Uuid) : (getCurrentUser subject).Uses ok := by
  refine Prog.Uses.bind (uses_send (hreads _ trivial)) fun found => ?_
  refine Prog.Uses.bind (Prog.uses_orRaise ..) fun user => ?_
  split <;> trivial

omit hreads in
theorem uses_startSession (user : Account) (client : ClientMeta) (familyId : Uuid) (draw : Draw)
    (htoken : ∀ row, ok (.insert (.refreshToken row))) :
    (startSession settings user client familyId draw).Uses ok := by
  refine Prog.Uses.bind (Prog.Uses.bind ?_ fun _ => trivial) fun _ => trivial
  exact Prog.Uses.bind (uses_insert (htoken _)) fun _ => trivial

theorem uses_authRegister (data : RegisterRequest) (draw : RegisterDraw)
    (huser : ∀ row, ok (.insert (.user row)))
    (hverification : ∀ row, ok (.insert (.emailVerificationToken row))) :
    (AuthService.register settings data draw).Uses ok := by
  refine Prog.Uses.bind (uses_send (hreads _ trivial)) fun taken => ?_
  refine Prog.Uses.bind (Prog.uses_raiseIfSome ..) fun _ => ?_
  refine Prog.Uses.bind (uses_send (hreads _ trivial)) fun taken => ?_
  refine Prog.Uses.bind (Prog.uses_raiseIfSome ..) fun _ => ?_
  refine Prog.Uses.bind (uses_insert (huser _)) fun _ => ?_
  exact Prog.Uses.bind (uses_insert (hverification _)) fun _ => trivial

theorem uses_authenticate (email password : String) (now : DateTime)
    (hlogin : ∀ id, ok (.write (.setLastLogin id now))) :
    (AuthService.authenticate settings email password now).Uses ok := by
  refine Prog.Uses.bind (uses_send (hreads _ trivial)) fun found => ?_
  refine Prog.Uses.bind (Prog.uses_orRaise ..) fun user => ?_
  split
  · trivial
  · split
    · trivial
    · exact Prog.Uses.bind (uses_write (hlogin _)) fun _ => trivial

theorem uses_rotateRefreshToken (raw : String) (client : ClientMeta) (now : DateTime) (draw : Draw)
    (htoken : ∀ row, ok (.insert (.refreshToken row)))
    (hrevoke : ∀ id, ok (.write (.setRevokedAt id now)))
    (hreplace : ∀ id newId, ok (.write (.setReplacedById id newId))) :
    (AuthService.rotateRefreshToken settings raw client now draw).Uses ok := by
  refine Prog.Uses.bind (uses_send (hreads _ trivial)) fun found => ?_
  refine Prog.Uses.bind (Prog.uses_orRaise ..) fun stored => ?_
  split
  · exact Prog.Uses.bind (uses_revokeAll hreads _ now hrevoke) fun _ => trivial
  · refine Prog.Uses.bind ?_ fun _ => trivial
    unfold AuthService.rotate
    split
    · trivial
    · refine Prog.Uses.bind (uses_send (hreads _ trivial)) fun owner => ?_
      refine Prog.Uses.bind (Prog.uses_orRaise ..) fun user => ?_
      split
      · trivial
      · refine Prog.Uses.bind (uses_write (hrevoke _)) fun _ => ?_
        refine Prog.Uses.bind ?_ fun _ => ?_
        · exact Prog.Uses.bind (uses_insert (htoken _)) fun _ => trivial
        · exact Prog.Uses.bind (uses_write (hreplace _ _)) fun _ => trivial

theorem uses_refresh (cookie : Option String) (client : ClientMeta) (now : DateTime) (draw : Draw)
    (htoken : ∀ row, ok (.insert (.refreshToken row)))
    (hrevoke : ∀ id, ok (.write (.setRevokedAt id now)))
    (hreplace : ∀ id newId, ok (.write (.setReplacedById id newId))) :
    (refresh settings cookie client now draw).Uses ok := by
  refine Prog.Uses.bind (Prog.uses_orRaise ..) fun raw => ?_
  exact Prog.Uses.bind (uses_rotateRefreshToken hreads raw client now draw htoken hrevoke hreplace)
    fun _ => trivial

theorem uses_logout (cookie : Option String) (now : DateTime)
    (hrevoke : ∀ id, ok (.write (.setRevokedAt id now))) :
    (logout settings cookie now).Uses ok := by
  unfold logout
  split
  · trivial
  · refine Prog.Uses.bind (uses_send (hreads _ trivial)) fun found => ?_
    cases found with
    | none => trivial
    | some stored =>
      simp only [AuthService.logoutToken]
      split
      · trivial
      · exact uses_write (hrevoke _)

theorem uses_changePassword (subject : Uuid) (currentPassword newPassword : String) (salt : Nat)
    (now : DateTime) (hpassword : ∀ id hashed, ok (.write (.setHashedPassword id hashed)))
    (hrevoke : ∀ id, ok (.write (.setRevokedAt id now))) :
    (changePassword settings subject currentPassword newPassword salt now).Uses ok := by
  refine Prog.Uses.bind (uses_getCurrentUser hreads subject) fun user => ?_
  unfold AuthService.changePassword
  split
  · trivial
  · exact Prog.Uses.bind (uses_write (hpassword _ _)) fun _ => uses_revokeAll hreads _ now hrevoke

theorem uses_requestPasswordReset (email : String) (draw : LinkDraw)
    (hreset : ∀ row, ok (.insert (.passwordResetToken row))) :
    (AuthService.requestPasswordReset settings email draw).Uses ok := by
  refine Prog.Uses.bind (uses_send (hreads _ trivial)) fun found => ?_
  cases found with
  | none => trivial
  | some user => exact uses_insert (hreset _)

theorem uses_confirmPasswordReset (token newPassword : String) (salt : Nat)
    (clock : AuthService.ConfirmClock)
    (hpassword : ∀ id hashed, ok (.write (.setHashedPassword id hashed)))
    (huse : ∀ id, ok (.write (.setUsedAt id clock.usedAt)))
    (hrevoke : ∀ id, ok (.write (.setRevokedAt id clock.revokedAt))) :
    (AuthService.confirmPasswordReset settings token newPassword salt clock).Uses ok := by
  refine Prog.Uses.bind (uses_send (hreads _ trivial)) fun found => ?_
  refine Prog.Uses.bind (Prog.uses_orRaise ..) fun record => ?_
  split
  · trivial
  · refine Prog.Uses.bind (uses_send (hreads _ trivial)) fun owner => ?_
    refine Prog.Uses.bind (Prog.uses_orRaise ..) fun user => ?_
    refine Prog.Uses.bind (uses_write (hpassword _ _)) fun _ => ?_
    exact Prog.Uses.bind (uses_write (huse _)) fun _ => uses_revokeAll hreads _ _ hrevoke

theorem uses_getByOAuth (subject : String) : (AuthService.getByOAuth subject).Uses ok := by
  refine Prog.Uses.bind (uses_send (hreads _ trivial)) fun found => ?_
  cases found with
  | none => trivial
  | some account => exact uses_send (hreads _ trivial)

theorem uses_searchUsername (base username : String) (lookups suffix : Nat) :
    (AuthService.searchUsername base lookups username suffix).Uses ok := by
  induction lookups generalizing username suffix with
  | zero => trivial
  | succ lookups ih =>
    refine Prog.Uses.bind (uses_send (hreads _ trivial)) fun found => ?_
    cases found with
    | none => trivial
    | some user => exact ih _ _

theorem uses_loginOrRegisterWithGoogle (identity : GoogleIdentity) (draw : GoogleDraw)
    (hlogin : ∀ id, ok (.write (.setLastLogin id draw.now)))
    (huser : ∀ row, ok (.insert (.user row)))
    (haccount : ∀ row, ok (.insert (.oauthAccount row))) :
    (AuthService.loginOrRegisterWithGoogle settings identity draw).Uses ok := by
  refine Prog.Uses.bind (uses_getByOAuth hreads _) fun linked => ?_
  cases linked with
  | some user => exact Prog.Uses.bind (uses_write (hlogin _)) fun _ => trivial
  | none =>
    refine Prog.Uses.bind (uses_send (hreads _ trivial)) fun taken => ?_
    refine Prog.Uses.bind (Prog.uses_raiseIfSome ..) fun _ => ?_
    refine Prog.Uses.bind (uses_searchUsername hreads ..) fun username => ?_
    refine Prog.Uses.bind (uses_insert (huser _)) fun _ => ?_
    exact Prog.Uses.bind (uses_insert (haccount _)) fun _ => trivial

theorem uses_googleLink (userId : Uuid) (identity : GoogleIdentity) (draw : GoogleDraw)
    (haccount : ∀ row, ok (.insert (.oauthAccount row))) :
    (googleLink settings userId identity draw).Uses ok := by
  refine Prog.Uses.bind (uses_send (hreads _ trivial)) fun found => ?_
  refine Prog.Uses.bind (Prog.uses_orRaise ..) fun user => ?_
  unfold AuthService.linkGoogleAccount
  split
  · trivial
  · refine Prog.Uses.bind (uses_getByOAuth hreads _) fun linked => ?_
    exact Prog.Uses.bind (Prog.uses_raiseIfSome ..) fun _ => uses_insert (haccount _)

theorem uses_updateUser (subject userId : Uuid) (data : AdminUserUpdate)
    (haudit : ∀ entry, ok (.write (.addAuditLog entry)))
    (hrole : ∀ id role, ok (.write (.setRole id role)))
    (hactive : ∀ id isActive, ok (.write (.setActive id isActive))) :
    (updateUser subject userId data).Uses ok := by
  refine Prog.Uses.bind (uses_getCurrentUser hreads subject) fun admin => ?_
  refine Prog.Uses.bind ?_ fun _ => ?_
  · unfold requirePermission
    split <;> trivial
  · refine Prog.Uses.bind (Prog.Uses.bind (uses_send (hreads _ trivial)) fun _ =>
      Prog.uses_orRaise ..) fun user => Prog.Uses.bind ?_ fun changed => ?_
    · unfold UsersAdminService.updateRole
      split
      · trivial
      · split
        · trivial
        · split
          · trivial
          · exact Prog.Uses.bind (uses_write (haudit _)) fun _ =>
              Prog.Uses.bind (uses_write (hrole _ _)) fun _ => trivial
    · unfold UsersAdminService.updateActive
      split
      · trivial
      · split
        · trivial
        · exact Prog.Uses.bind (uses_write (haudit _)) fun _ =>
            Prog.Uses.bind (uses_write (hactive _ _)) fun _ => trivial

end Uses

namespace AccountOperation

/-- The statements that an operation may send, besides those that only read. -/
def Writes : AccountOperation → Stmt → Prop
  | .register .., .insert (.user _) => True
  | .register .., .insert (.emailVerificationToken _) => True
  | .register .., .insert (.refreshToken _) => True
  | .login .., .write (.setLastLogin ..) => True
  | .login .., .insert (.refreshToken _) => True
  | .refresh .., .insert (.refreshToken _) => True
  | .refresh .., .write (.setRevokedAt ..) => True
  | .refresh .., .write (.setReplacedById ..) => True
  | .logout .., .write (.setRevokedAt ..) => True
  | .changePassword .., .write (.setHashedPassword ..) => True
  | .changePassword .., .write (.setRevokedAt ..) => True
  | .requestPasswordReset .., .insert (.passwordResetToken _) => True
  | .confirmPasswordReset .., .write (.setHashedPassword ..) => True
  | .confirmPasswordReset .., .write (.setUsedAt ..) => True
  | .confirmPasswordReset .., .write (.setRevokedAt ..) => True
  | .googleLogin .., .write (.setLastLogin ..) => True
  | .googleLogin .., .insert (.user _) => True
  | .googleLogin .., .insert (.oauthAccount _) => True
  | .googleLogin .., .insert (.refreshToken _) => True
  | .googleLink .., .insert (.oauthAccount _) => True
  | .updateUser _, .write (.addAuditLog _) => True
  | .updateUser _, .write (.setRole ..) => True
  | .updateUser _, .write (.setActive ..) => True
  | _, _ => False

theorem uses_program (settings : Settings) (op : AccountOperation) :
    (op.program settings).Uses fun s : Stmt => s.Reads ∨ op.Writes s := by
  cases op with
  | register data client account familyId draw =>
    refine Prog.Uses.bind (Prog.Uses.bind ?_ fun user => ?_) fun _ => trivial
    · exact uses_authRegister (fun _ => Or.inl) data account (fun _ => Or.inr trivial)
        fun _ => Or.inr trivial
    · exact uses_startSession user client familyId draw fun _ => Or.inr trivial
  | login email password client now familyId draw =>
    refine Prog.Uses.bind (Prog.Uses.bind ?_ fun user => ?_) fun _ => trivial
    · exact uses_authenticate (fun _ => Or.inl) email password now fun _ => Or.inr trivial
    · exact uses_startSession user client familyId draw fun _ => Or.inr trivial
  | refresh cookie client now draw =>
    exact Prog.Uses.bind (uses_refresh (fun _ => Or.inl) cookie client now draw
      (fun _ => Or.inr trivial) (fun _ => Or.inr trivial) fun _ _ => Or.inr trivial) fun _ => trivial
  | logout cookie now =>
    exact Prog.Uses.bind (uses_logout (fun _ => Or.inl) cookie now fun _ => Or.inr trivial)
      fun _ => trivial
  | changePassword subject currentPassword newPassword salt now =>
    exact Prog.Uses.bind (uses_changePassword (fun _ => Or.inl) subject currentPassword newPassword
      salt now (fun _ _ => Or.inr trivial) fun _ => Or.inr trivial) fun _ => trivial
  | requestPasswordReset email draw =>
    exact Prog.Uses.bind (uses_requestPasswordReset (fun _ => Or.inl) email draw
      fun _ => Or.inr trivial) fun _ => trivial
  | confirmPasswordReset token newPassword salt clock =>
    exact Prog.Uses.bind (uses_confirmPasswordReset (fun _ => Or.inl) token newPassword salt clock
      (fun _ _ => Or.inr trivial) (fun _ => Or.inr trivial) fun _ => Or.inr trivial) fun _ => trivial
  | googleLogin identity client account familyId draw =>
    refine Prog.Uses.bind (Prog.Uses.bind ?_ fun user => ?_) fun _ => trivial
    · exact uses_loginOrRegisterWithGoogle (fun _ => Or.inl) identity account
        (fun _ => Or.inr trivial) (fun _ => Or.inr trivial) fun _ => Or.inr trivial
    · exact uses_startSession user client familyId draw fun _ => Or.inr trivial
  | googleLink userId identity account =>
    exact Prog.Uses.bind (uses_googleLink (fun _ => Or.inl) userId identity account
      fun _ => Or.inr trivial) fun _ => trivial
  | updateUser update =>
    exact Prog.Uses.bind (uses_updateUser (fun _ => Or.inl) update.subject update.userId update.data
      (fun _ => Or.inr trivial) (fun _ _ => Or.inr trivial) fun _ _ => Or.inr trivial)
      fun _ => trivial

end AccountOperation

/-! ## What the others may do -/

/-- The rows that are locked stay as they are. -/
structure AccountRely (locks : List RowKey) (db db' : Db) : Prop where
  users : ∀ id, .user id ∈ locks → db'.users.get id = db.users.get id
  refreshTokens : ∀ id, .refreshToken id ∈ locks →
    db'.refreshTokens.get id = db.refreshTokens.get id
  passwordResetTokens : ∀ id, .passwordResetToken id ∈ locks →
    db'.passwordResetTokens.get id = db.passwordResetTokens.get id

theorem accountRely_compatible : Compatible AccountRely where
  refl _ _ := ⟨fun _ _ => rfl, fun _ _ => rfl, fun _ _ => rfl⟩
  trans _ _ _ _ h₁ h₂ := ⟨fun id hid => (h₂.users id hid).trans (h₁.users id hid),
    fun id hid => (h₂.refreshTokens id hid).trans (h₁.refreshTokens id hid),
    fun id hid => (h₂.passwordResetTokens id hid).trans (h₁.passwordResetTokens id hid)⟩
  forget _ _ _ _ :=
    ⟨fun _ hid => (nomatch hid), fun _ hid => (nomatch hid), fun _ hid => (nomatch hid)⟩
  locked _ _ _ id h hid := h.refreshTokens id hid

theorem AccountRely.mono {locks locks' : List RowKey} {db db' : Db} (h : AccountRely locks db db')
    (hsub : ∀ l ∈ locks', l ∈ locks) : AccountRely locks' db db' :=
  ⟨fun id hid => h.users id (hsub _ hid), fun id hid => h.refreshTokens id (hsub _ hid),
    fun id hid => h.passwordResetTokens id (hsub _ hid)⟩

/-- A write changes the row that it locks. -/
theorem Write.rely_apply (x : Write) {locks : List RowKey} (hlocks : ∀ l ∈ locks, x.locks ≠ some l)
    (db : Db) : AccountRely locks db (x.apply db) := by
  have husers : ∀ (row : Uuid) (f : Account → Account), (∀ u, (f u).id = u.id) →
      (RowKey.user row ∉ locks) → ∀ id, RowKey.user id ∈ locks →
        (db.users.modify row f).get id = db.users.get id := by
    intro row f hf hrow id hid
    rw [Table.get_modify _ _ _ hf, if_neg (by rintro rfl; exact hrow hid)]
  have htokens : ∀ (row : Uuid) (f : RefreshToken → RefreshToken), (∀ t, (f t).id = t.id) →
      (RowKey.refreshToken row ∉ locks) → ∀ id, RowKey.refreshToken id ∈ locks →
        (db.refreshTokens.modify row f).get id = db.refreshTokens.get id := by
    intro row f hf hrow id hid
    rw [Table.get_modify _ _ _ hf, if_neg (by rintro rfl; exact hrow hid)]
  have hresets : ∀ (row : Uuid) (f : PasswordResetToken → PasswordResetToken),
      (∀ t, (f t).id = t.id) → (RowKey.passwordResetToken row ∉ locks) →
        ∀ id, RowKey.passwordResetToken id ∈ locks →
          (db.passwordResetTokens.modify row f).get id = db.passwordResetTokens.get id := by
    intro row f hf hrow id hid
    rw [Table.get_modify _ _ _ hf, if_neg (by rintro rfl; exact hrow hid)]
  have hfree : ∀ l, x.locks = some l → l ∉ locks := fun l heq hl => hlocks l hl heq
  cases x
  case add row =>
    cases row
    case user row =>
      refine ⟨fun id hid => Table.get_put_of_ne _ ?_, fun _ _ => rfl, fun _ _ => rfl⟩
      rintro rfl
      exact hfree _ rfl hid
    case refreshToken row =>
      refine ⟨fun _ _ => rfl, fun id hid => Table.get_put_of_ne _ ?_, fun _ _ => rfl⟩
      rintro rfl
      exact hfree _ rfl hid
    case passwordResetToken row =>
      refine ⟨fun _ _ => rfl, fun _ _ => rfl, fun id hid => Table.get_put_of_ne _ ?_⟩
      rintro rfl
      exact hfree _ rfl hid
    all_goals exact ⟨fun _ _ => rfl, fun _ _ => rfl, fun _ _ => rfl⟩
  case setRole id role =>
    exact ⟨husers id _ (fun _ => rfl) (hfree _ rfl), fun _ _ => rfl, fun _ _ => rfl⟩
  case setActive id isActive =>
    exact ⟨husers id _ (fun _ => rfl) (hfree _ rfl), fun _ _ => rfl, fun _ _ => rfl⟩
  case setLastLogin id time =>
    exact ⟨husers id _ (fun _ => rfl) (hfree _ rfl), fun _ _ => rfl, fun _ _ => rfl⟩
  case setHashedPassword id hashed =>
    exact ⟨husers id _ (fun _ => rfl) (hfree _ rfl), fun _ _ => rfl, fun _ _ => rfl⟩
  case setRevokedAt id time =>
    exact ⟨fun _ _ => rfl, htokens id _ (fun _ => rfl) (hfree _ rfl), fun _ _ => rfl⟩
  case setReplacedById id newId =>
    exact ⟨fun _ _ => rfl, htokens id _ (fun _ => rfl) (hfree _ rfl), fun _ _ => rfl⟩
  case setUsedAt id time =>
    exact ⟨fun _ _ => rfl, fun _ _ => rfl, hresets id _ (fun _ => rfl) (hfree _ rfl)⟩
  all_goals exact ⟨fun _ _ => rfl, fun _ _ => rfl, fun _ _ => rfl⟩

/-- So a commit changes the rows that it locks. -/
theorem accountRely_foldl {locks : List RowKey} (writes : List Write)
    (hlocks : ∀ l ∈ locks, l ∉ writes.filterMap Write.locks) (db : Db) :
    AccountRely locks db (writes.foldl Write.apply db) := by
  induction writes generalizing db with
  | nil => exact accountRely_compatible.refl _ _
  | cons x rest ih =>
    have hx : ∀ l ∈ locks, x.locks ≠ some l := by
      intro l hl heq
      exact hlocks l hl (List.mem_filterMap.mpr ⟨x, List.mem_cons_self .., heq⟩)
    have hrest : ∀ l ∈ locks, l ∉ rest.filterMap Write.locks := by
      intro l hl hmem
      obtain ⟨y, hy, heq⟩ := List.mem_filterMap.mp hmem
      exact hlocks l hl (List.mem_filterMap.mpr ⟨y, List.mem_cons_of_mem _ hy, heq⟩)
    exact accountRely_compatible.trans _ _ _ _ (x.rely_apply hx db) (ih hrest _)

end Accounts

end ElectronicShop
