import ElectronicShop.Execution.Auth

/-!
# What the requests do

One constructor for each way in which a request of `app/modules/auth` or of the user
administration changes the database, when no other overlaps it. Every invariant of the runs
of such requests is a case analysis over `Effect`.
-/

namespace ElectronicShop

namespace Accounts

open Txn

/-- A session for a user, in a family of its own. -/
def Db.startSession (db : Db) (settings : Settings) (user : Account) (client : ClientMeta)
    (familyId : Uuid) (draw : Draw) : Db :=
  { db with
    refreshTokens := db.refreshTokens.put
      (AuthService.newRefreshToken settings user familyId client draw) }

/-- The tokens that it is answered with. -/
def tokenPair (settings : Settings) (user : Account) (draw : Draw) : TokenPair :=
  ⟨createAccessToken settings user.id user.role draw, draw.rawToken, user⟩

/-- What a request is answered with, and the database it leaves. -/
inductive Request.Effect (settings : Settings) (s : State) :
    Request → Except ShopError Answer → Db → Prop where
  | failed {request : Request} {e : ShopError} : Effect settings s request (.error e) s.db
  | unchanged {request : Request} : Effect settings s request (.ok none) s.db
  | registered {data : RegisterRequest} {client : ClientMeta} {account : RegisterDraw}
      {familyId : Uuid} {draw : Draw} (tokens : Table EmailVerificationToken.id)
      (newEmail : s.db.userByEmail (settings.lower data.email) = none)
      (newUser : s.db.users.get account.userId = none)
      (newToken : s.db.refreshTokens.get draw.id = none) :
      Effect settings s (.register data client account familyId draw)
        (.ok (some (tokenPair settings (AuthService.newUser settings data account) draw)))
        (Db.startSession { s.db with
          users := s.db.users.put (AuthService.newUser settings data account)
          emailVerificationTokens := tokens }
          settings (AuthService.newUser settings data account) client familyId draw)
  | loggedIn {email password : String} {client : ClientMeta} {now : DateTime} {familyId : Uuid}
      {draw : Draw} (stored : Account)
      (user : s.db.users.get stored.id = some stored)
      (active : stored.isActive = true) (newToken : s.db.refreshTokens.get draw.id = none) :
      Effect settings s (.login email password client now familyId draw)
        (.ok (some (tokenPair settings { stored with lastLogin := some now } draw)))
        (Db.startSession { s.db with
          users := s.db.users.put { stored with lastLogin := some now } }
          settings { stored with lastLogin := some now } client familyId draw)
  | refreshed {raw : String} {client : ClientMeta} {now : DateTime} {draw : Draw}
      (stored : RefreshToken) (user : Account)
      (presented : s.db.tokenBy (settings.hashToken raw) = some stored)
      (unrevoked : stored.revokedAt = none) (owner : s.db.users.get stored.userId = some user)
      (active : user.isActive = true) (newToken : s.db.refreshTokens.get draw.id = none) :
      Effect settings s (.refresh (some raw) client now draw)
        (.ok (some (tokenPair settings user draw)))
        (Db.startSession { s.db with
          refreshTokens := s.db.refreshTokens.put (stored.replaced now draw.id) }
          settings user client stored.familyId draw)
  | reused {raw : String} {client : ClientMeta} {now : DateTime} {draw : Draw}
      (stored : RefreshToken) (presented : s.db.tokenBy (settings.hashToken raw) = some stored)
      (revoked : stored.revokedAt.isSome) :
      Effect settings s (.refresh (some raw) client now draw) (.error AuthService.invalidSession)
        (s.db.revoke (.family stored.familyId) now)
  | loggedOut {raw : String} {now : DateTime} (stored : RefreshToken)
      (presented : s.db.tokenBy (settings.hashToken raw) = some stored)
      (unrevoked : stored.revokedAt = none) :
      Effect settings s (.logout (some raw) now) (.ok none)
        { s.db with refreshTokens := s.db.refreshTokens.put { stored with revokedAt := some now } }
  | passwordChanged {subject : Uuid} {currentPassword newPassword : String} {salt : Nat}
      {now : DateTime} (user : Account) (caller : s.db.users.get subject = some user) :
      Effect settings s (.changePassword subject currentPassword newPassword salt now) (.ok none)
        (Db.revoke { s.db with
          users := s.db.users.put
            { user with hashedPassword := some (settings.hashPassword salt newPassword) } }
          (.user user.id) now)
  | resetRequested {email : String} {draw : LinkDraw} (user : Account)
      (newToken : s.db.passwordResetTokens.get draw.id = none) :
      Effect settings s (.requestPasswordReset email draw) (.ok none)
        { s.db with
          passwordResetTokens :=
            s.db.passwordResetTokens.put (AuthService.newResetToken settings user draw) }
  | passwordReset {token newPassword : String} {salt : Nat} {clock : AuthService.ConfirmClock}
      (record : PasswordResetToken) (user : Account)
      (presented : s.db.resetBy (settings.hashToken token) = some record)
      (unused : record.usedAt = none) (owner : s.db.users.get record.userId = some user) :
      Effect settings s (.confirmPasswordReset token newPassword salt clock) (.ok none)
        (Db.revoke { s.db with
          users := s.db.users.put
            { user with hashedPassword := some (settings.hashPassword salt newPassword) }
          passwordResetTokens :=
            s.db.passwordResetTokens.put { record with usedAt := some clock.usedAt } }
          (.user user.id) clock.revokedAt)
  | googleLoggedIn {google : GoogleClient} {code state : String} {now : DateTime}
      {client : ClientMeta} {account : GoogleDraw} {familyId : Uuid} {draw : Draw}
      (session : OAuthSession) (identity : GoogleIdentity) (stored : Account)
      (started : s.oauthSession state now = some session) (action : session.action = .login)
      (verified : google code session.verifier session.nonce = .ok identity)
      (linked : s.db.googleUser identity.subject = some stored)
      (newToken : s.db.refreshTokens.get draw.id = none) :
      Effect settings s (.googleCallback google code state now client account familyId draw)
        (.ok (some (tokenPair settings { stored with lastLogin := some account.now } draw)))
        (Db.startSession { s.db with
          users := s.db.users.put { stored with lastLogin := some account.now } }
          settings { stored with lastLogin := some account.now } client familyId draw)
  | googleRegistered {google : GoogleClient} {code state : String} {now : DateTime}
      {client : ClientMeta} {account : GoogleDraw} {familyId : Uuid} {draw : Draw}
      (session : OAuthSession) (identity : GoogleIdentity) (username : String)
      (started : s.oauthSession state now = some session) (action : session.action = .login)
      (verified : google code session.verifier session.nonce = .ok identity)
      (unlinked : s.db.googleUser identity.subject = none)
      (newEmail : s.db.userByEmail (settings.lower identity.email) = none)
      (newUser : s.db.users.get account.userId = none)
      (newAccount : s.db.oauthAccounts.get account.accountId = none)
      (newToken : s.db.refreshTokens.get draw.id = none) :
      Effect settings s (.googleCallback google code state now client account familyId draw)
        (.ok (some (tokenPair settings
          (AuthService.newGoogleUser settings identity username account) draw)))
        (Db.startSession { s.db with
          users := s.db.users.put (AuthService.newGoogleUser settings identity username account)
          oauthAccounts := s.db.oauthAccounts.put
            (AuthService.newOAuthAccount account.userId identity account.accountId) }
          settings (AuthService.newGoogleUser settings identity username account) client familyId
          draw)
  | googleLinked {google : GoogleClient} {code state : String} {now : DateTime}
      {client : ClientMeta} {account : GoogleDraw} {familyId : Uuid} {draw : Draw}
      (session : OAuthSession) (identity : GoogleIdentity) (userId : Uuid)
      (started : s.oauthSession state now = some session) (action : session.action = .link userId)
      (verified : google code session.verifier session.nonce = .ok identity)
      (unlinked : s.db.googleUser identity.subject = none)
      (newAccount : s.db.oauthAccounts.get account.accountId = none) :
      Effect settings s (.googleCallback google code state now client account familyId draw)
        (.ok none)
        { s.db with
          oauthAccounts := s.db.oauthAccounts.put
            (AuthService.newOAuthAccount userId identity account.accountId) }
  | userUpdated {update : UserUpdate} (actor user : Account) {db' : Db}
      (effect : update.Effect s.db db' actor user) :
      Effect settings s (.updateUser update) (.ok none) db'

namespace Request

variable {settings : Settings} {s : State}

/-- A transaction that no other overlaps: it has failed, or run. -/
theorem transact_cases {α : Type} (program : Tx α) {p : Except ShopError α → Db → Prop}
    (hfailed : ∀ e, p (.error e) s.db)
    (hrun : ∀ a db', program.run Stmt.exec s.db = .ok (a, db') → p (.ok a) db') :
    p (s.transact program).1 (s.transact program).2.db := by
  unfold State.transact
  cases htransact : s.store.transact program with
  | error e => exact hfailed e
  | ok r =>
    obtain ⟨a, store⟩ := r
    exact hrun a store.db (Store.transact_ok.mp htransact)

theorem effect_register (data : RegisterRequest) (client : ClientMeta) (account : RegisterDraw)
    (familyId : Uuid) (draw : Draw) :
    Effect settings s (.register data client account familyId draw)
      ((register data client account familyId draw).serve settings s).1
      ((register data client account familyId draw).serve settings s).2.db := by
  refine transact_cases (Accounts.register settings data client account familyId draw)
    (p := fun answer db' => Effect settings s _ (answer.map some) db') (fun _ => .failed) ?_
  intro pair db' h
  obtain ⟨user, db₁, hregister, hstart⟩ := Prog.run_bind_ok.mp h
  obtain ⟨hemail, huser, rfl, tokens, rfl⟩ := run_register hregister
  obtain ⟨htoken, rfl, rfl⟩ := run_startSession.mp hstart
  exact .registered tokens hemail huser htoken

theorem effect_login (email password : String) (client : ClientMeta) (now : DateTime)
    (familyId : Uuid) (draw : Draw) :
    Effect settings s (.login email password client now familyId draw)
      ((login email password client now familyId draw).serve settings s).1
      ((login email password client now familyId draw).serve settings s).2.db := by
  refine transact_cases (Accounts.login settings email password client now familyId draw)
    (p := fun answer db' => Effect settings s _ (answer.map some) db') (fun _ => .failed) ?_
  intro pair db' h
  obtain ⟨user, db₁, hauthenticate, hstart⟩ := Prog.run_bind_ok.mp h
  obtain ⟨stored, hstored, hactive, rfl, rfl⟩ := run_authenticate hauthenticate
  obtain ⟨htoken, rfl, rfl⟩ := run_startSession.mp hstart
  exact .loggedIn stored (Table.get_of_mem (List.mem_of_find?_eq_some hstored)) hactive htoken

theorem effect_refresh (cookie : Option String) (client : ClientMeta) (now : DateTime)
    (draw : Draw) :
    Effect settings s (.refresh cookie client now draw)
      ((refresh cookie client now draw).serve settings s).1
      ((refresh cookie client now draw).serve settings s).2.db := by
  refine transact_cases (Accounts.refresh settings cookie client now draw)
    (p := fun answer db' => Effect settings s _
      (answer.bind fun rotated => rotated.map some) db') (fun _ => .failed) ?_
  intro rotated db' h
  obtain ⟨raw, hcookie, hrotate⟩ := Prog.run_orRaise_bind.mp h
  obtain ⟨rfl, -⟩ := Option.filter_eq_some_iff.mp hcookie
  obtain ⟨answer, db₁, hrotate, hdone⟩ := Prog.run_bind_ok.mp hrotate
  cases hdone
  obtain ⟨stored, hstored, hcases⟩ := run_rotateRefreshToken hrotate
  rcases hcases with ⟨hrevoked, rfl, rfl⟩ | ⟨hunrevoked, user, huser, hactive, htoken, rfl, rfl⟩
  · exact .reused stored hstored hrevoked
  · exact .refreshed stored user hstored hunrevoked huser hactive htoken

theorem effect_logout (cookie : Option String) (now : DateTime) :
    Effect settings s (.logout cookie now) ((logout cookie now).serve settings s).1
      ((logout cookie now).serve settings s).2.db := by
  refine transact_cases (Accounts.logout settings cookie now)
    (p := fun answer db' => Effect settings s _ (answer.map fun _ => none) db')
    (fun _ => .failed) ?_
  intro _ db' h
  unfold Accounts.logout at h
  cases hcookie : cookie.filter (· ≠ "") with
  | none =>
    rw [hcookie] at h
    cases h
    exact .unchanged
  | some raw =>
    rw [hcookie] at h
    obtain ⟨rfl, -⟩ := Option.filter_eq_some_iff.mp hcookie
    rcases run_logout h with rfl | ⟨stored, hstored, hunrevoked, rfl⟩
    · exact .unchanged
    · exact .loggedOut stored hstored hunrevoked

theorem effect_changePassword (subject : Uuid) (currentPassword newPassword : String) (salt : Nat)
    (now : DateTime) :
    Effect settings s (.changePassword subject currentPassword newPassword salt now)
      ((changePassword subject currentPassword newPassword salt now).serve settings s).1
      ((changePassword subject currentPassword newPassword salt now).serve settings s).2.db := by
  refine transact_cases
    (Accounts.changePassword settings subject currentPassword newPassword salt now)
    (p := fun answer db' => Effect settings s _ (answer.map fun _ => none) db')
    (fun _ => .failed) ?_
  intro _ db' h
  obtain ⟨user, db₁, hcaller, hchange⟩ := Prog.run_bind_ok.mp h
  obtain ⟨huser, -, rfl⟩ := run_getCurrentUser.mp hcaller
  have hget : s.db.users.get user.id = some user := by
    rw [Table.key_of_get huser]
    exact huser
  rw [run_changePassword hget hchange]
  exact .passwordChanged user huser

theorem effect_requestPasswordReset (email : String) (draw : LinkDraw) :
    Effect settings s (.requestPasswordReset email draw)
      ((requestPasswordReset email draw).serve settings s).1
      ((requestPasswordReset email draw).serve settings s).2.db := by
  refine transact_cases (AuthService.requestPasswordReset settings email draw)
    (p := fun answer db' => Effect settings s _ (answer.map fun _ => none) db')
    (fun _ => .failed) ?_
  intro _ db' h
  rcases run_requestPasswordReset h with rfl | ⟨user, hfree, rfl⟩
  · exact .unchanged
  · exact .resetRequested user hfree

theorem effect_confirmPasswordReset (token newPassword : String) (salt : Nat)
    (clock : AuthService.ConfirmClock) :
    Effect settings s (.confirmPasswordReset token newPassword salt clock)
      ((confirmPasswordReset token newPassword salt clock).serve settings s).1
      ((confirmPasswordReset token newPassword salt clock).serve settings s).2.db := by
  refine transact_cases (AuthService.confirmPasswordReset settings token newPassword salt clock)
    (p := fun answer db' => Effect settings s _ (answer.map fun _ => none) db')
    (fun _ => .failed) ?_
  intro _ db' h
  obtain ⟨record, user, hrecord, hunused, huser, rfl⟩ := run_confirmPasswordReset h
  exact .passwordReset record user hrecord hunused huser

theorem effect_updateUser (update : UserUpdate) :
    Effect settings s (.updateUser update) ((updateUser update).serve settings s).1
      ((updateUser update).serve settings s).2.db := by
  refine transact_cases (Accounts.updateUser update.subject update.userId update.data)
    (p := fun answer db' => Effect settings s _ (answer.map fun _ => none) db')
    (fun _ => .failed) ?_
  intro user db' h
  obtain ⟨actor, user, heffect⟩ := UserUpdate.effect_of_run h
  exact .userUpdated actor user heffect

/-- The start of a login with Google, or of a link, changes nothing in the database. -/
theorem effect_googleLogin (draw : OAuthDraw) :
    Effect settings s (.googleLogin draw) ((googleLogin draw).serve settings s).1
      ((googleLogin draw).serve settings s).2.db := by
  simp only [serve]
  split
  · exact .failed
  · exact .unchanged

theorem effect_googleLinkStart (subject : Uuid) (draw : OAuthDraw) :
    Effect settings s (.googleLinkStart subject draw)
      ((googleLinkStart subject draw).serve settings s).1
      ((googleLinkStart subject draw).serve settings s).2.db := by
  simp only [serve]
  split
  · exact .failed
  · split
    · exact .failed
    · exact .unchanged

theorem effect_googleCallback (google : GoogleClient) (code state : String) (now : DateTime)
    (client : ClientMeta) (account : GoogleDraw) (familyId : Uuid) (draw : Draw) :
    Effect settings s (.googleCallback google code state now client account familyId draw)
      ((googleCallback google code state now client account familyId draw).serve settings s).1
      ((googleCallback google code state now client account familyId draw).serve
        settings s).2.db := by
  simp only [serve]
  cases hsession : s.oauthSession state now with
  | none => exact .failed
  | some session =>
    simp only [State.googleCallback]
    cases hidentity : google code session.verifier session.nonce with
    | error e => exact .failed
    | ok identity =>
      cases haction : session.action with
      | login =>
        refine transact_cases (s := { s with oauth := s.oauth.eraseIf session.state fun _ => true })
          (Accounts.googleLogin settings identity client account familyId draw)
          (p := fun answer db' => Effect settings s _ (answer.map some) db') (fun _ => .failed) ?_
        intro pair db' h
        obtain ⟨user, db₁, hlogin, hstart⟩ := Prog.run_bind_ok.mp h
        rcases run_loginOrRegisterWithGoogle hlogin with ⟨stored, hstored, rfl, rfl⟩ |
          ⟨hunlinked, hemail, huser, haccount, ⟨username, rfl⟩, rfl⟩
        · obtain ⟨htoken, rfl, rfl⟩ := run_startSession.mp hstart
          exact .googleLoggedIn session identity stored hsession haction hidentity hstored htoken
        · obtain ⟨htoken, rfl, rfl⟩ := run_startSession.mp hstart
          exact .googleRegistered session identity username hsession haction hidentity hunlinked
            hemail huser haccount htoken
      | link userId =>
        refine transact_cases (s := { s with oauth := s.oauth.eraseIf session.state fun _ => true })
          (Accounts.googleLink settings userId identity account)
          (p := fun answer db' => Effect settings s _ (answer.map fun _ => none) db')
          (fun _ => .failed) ?_
        intro _ db' h
        obtain ⟨user, huser, hlink⟩ := Prog.run_orRaise_bind.mp (run_send_bind.mp h)
        obtain ⟨hunlinked, haccount, rfl⟩ := run_linkGoogleAccount hlink
        have hid : user.id = userId := Table.key_of_get huser
        subst hid
        exact .googleLinked session identity user.id hsession haction hidentity hunlinked haccount

/-- Every request has one of these effects. -/
theorem effect (request : Request) :
    Effect settings s request (request.serve settings s).1 (request.serve settings s).2.db := by
  cases request with
  | register data client account familyId draw =>
    exact effect_register data client account familyId draw
  | login email password client now familyId draw =>
    exact effect_login email password client now familyId draw
  | refresh cookie client now draw => exact effect_refresh cookie client now draw
  | logout cookie now => exact effect_logout cookie now
  | changePassword subject currentPassword newPassword salt now =>
    exact effect_changePassword subject currentPassword newPassword salt now
  | requestPasswordReset email draw => exact effect_requestPasswordReset email draw
  | confirmPasswordReset token newPassword salt clock =>
    exact effect_confirmPasswordReset token newPassword salt clock
  | googleLogin draw => exact effect_googleLogin draw
  | googleLinkStart subject draw => exact effect_googleLinkStart subject draw
  | googleCallback google code state now client account familyId draw =>
    exact effect_googleCallback google code state now client account familyId draw
  | updateUser update => exact effect_updateUser update

end Request

end Accounts

end ElectronicShop
