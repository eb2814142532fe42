import ElectronicShop.Model.Accounts

/-!
# Users, sessions and Google accounts

The services of `app/modules/auth` and `app/modules/users`. The clock, the random
generators and the hashes are parameters: an argument that a service draws or reads from
the clock is passed to it. An access token is given by its claims. The schemas of the
requests are not checked here; the services rely on none of it.
-/

namespace ElectronicShop

namespace Accounts

open Txn

/-! ## Settings and random values -/

/-- `app/core/config.py`, the hashes of `app/security` and `str.lower`, which changes
    nothing the second time. -/
structure Settings where
  refreshTokenExpireDays : Int := 30
  accessTokenExpireMinutes : Int := 15
  googleConfigured : Bool := true
  hashToken : String → String
  hashPassword : (salt : Nat) → String → String
  verifyPassword : String → String → Bool
  lower : String → String
  lower_lower : ∀ s, lower (lower s) = lower s

def microsecondsPerMinute : Int := 60 * 1000000

def microsecondsPerHour : Int := 60 * microsecondsPerMinute

def microsecondsPerDay : Int := 24 * microsecondsPerHour

/-- `PASSWORD_RESET_TTL`. -/
def passwordResetTtl : Int := 1 * microsecondsPerHour

/-- `EMAIL_VERIFICATION_TTL`. -/
def emailVerificationTtl : Int := 48 * microsecondsPerHour

/-- What issuing a pair of tokens takes from the clock and the random generators. -/
structure Draw where
  rawToken : String
  id : Uuid
  now : DateTime
  jti : Uuid
  iat : DateTime
  deriving DecidableEq, Repr

/-- What a link that is sent by e-mail takes from them. -/
structure LinkDraw where
  rawToken : String
  id : Uuid
  expiresFrom : DateTime
  createdAt : DateTime
  deriving DecidableEq, Repr

/-- The headers that are stored with a token. -/
structure ClientMeta where
  userAgent : Option String
  ipAddress : Option String
  deriving DecidableEq, Repr

/-- The claims of an access token. -/
structure AccessToken where
  sub : Uuid
  role : UserRole
  jti : Uuid
  iat : DateTime
  exp : DateTime
  deriving DecidableEq, Repr

/-- `create_access_token`. -/
def createAccessToken (settings : Settings) (userId : Uuid) (role : UserRole) (draw : Draw) :
    AccessToken where
  sub := userId
  role := role
  jti := draw.jti
  iat := draw.iat
  exp := draw.iat + settings.accessTokenExpireMinutes * microsecondsPerMinute

/-- `user_agent[:500] if user_agent else None`. -/
def storedUserAgent : Option String → Option String
  | none => none
  | some agent => if agent = "" then none else some (String.ofList (agent.toList.take 500))

/-! ## Who is asking -/

/-- `get_current_user`. -/
def getCurrentUser (subject : Uuid) : Tx Account := do
  let unauthorized : ShopError := .unauthorized "حساب کاربری شما یافت نشد یا غیرفعال است."
  let user ← Prog.orRaise unauthorized (← send (.getUser subject))
  if user.isActive = false then .raise unauthorized else pure user

/-- `require_permission`. -/
def requirePermission (permission : Permission) (user : Account) : Tx Unit :=
  if roleHasPermission user.role permission = false then
    .raise (.permissionDenied "شما اجازه دسترسی به این بخش را ندارید.")
  else
    pure ()

/-! ## Administration of users -/

/-- `write_audit_log`. -/
def writeAuditLog (entry : AuditLog) : Tx Unit := write (.addAuditLog entry)

structure AdminUserUpdate where
  role : Option UserRole
  isActive : Option Bool
  deriving DecidableEq, Repr

namespace UsersAdminService

def getUser (userId : Uuid) : Tx Account := do
  Prog.orRaise (.notFound "کاربر پیدا نشد.") (← send (.getUser userId))

/-- The part of `update_user` that is about the role. -/
def updateRole (user : Account) (role : Option UserRole) (actorId : Uuid) : Tx Account :=
  match role with
  | none => pure user
  | some role =>
    if role = user.role then pure user
    else if user.id = actorId then
      .raise (.conflict "نمی‌توانید نقش خودتان را تغییر دهید.")
    else do
      writeAuditLog
        { actorId := some actorId, action := "user.role_changed", resourceType := "user",
          resourceId := some user.id,
          metadata := some [("from", user.role.value), ("to", role.value)], ipAddress := none }
      write (.setRole user.id role)
      pure { user with role }

/-- The part of `update_user` that is about `is_active`. -/
def updateActive (user : Account) (isActive : Option Bool) (actorId : Uuid) : Tx Account :=
  match isActive with
  | none => pure user
  | some isActive =>
    if isActive = user.isActive then pure user
    else do
      writeAuditLog
        { actorId := some actorId,
          action := if isActive then "user.activated" else "user.deactivated",
          resourceType := "user", resourceId := some user.id, metadata := none,
          ipAddress := none }
      write (.setActive user.id isActive)
      pure { user with isActive }

def updateUser (userId : Uuid) (data : AdminUserUpdate) (actorId : Uuid) : Tx Account := do
  let user ← getUser userId
  let user ← updateRole user data.role actorId
  updateActive user data.isActive actorId

end UsersAdminService

/-! ## Local accounts and sessions -/

structure RegisterRequest where
  email : String
  username : String
  password : String
  firstName : String
  lastName : String
  deriving DecidableEq, Repr

/-- A new account. -/
structure RegisterDraw where
  userId : Uuid
  salt : Nat
  verification : LinkDraw
  deriving DecidableEq, Repr

namespace AuthService

/-- `GENERIC_LOGIN_ERROR`. -/
def genericLoginError : ShopError := .unauthorized "ایمیل یا رمز عبور نادرست است."

def invalidSession : ShopError := .unauthorized "نشست شما نامعتبر است. دوباره وارد شوید."

def expiredSession : ShopError := .unauthorized "نشست شما منقضی شده است. دوباره وارد شوید."

def invalidLink : ShopError := .unauthorized "لینک بازیابی رمز عبور نامعتبر یا منقضی‌شده است."

/-- `UserRepository.get_by_email`. -/
def getByEmail (settings : Settings) (email : String) : Tx (Option Account) :=
  send (.getUserByEmail (settings.lower email))

/-- `_issue_email_verification`. -/
def issueEmailVerification (settings : Settings) (user : Account) (draw : LinkDraw) : Tx Unit :=
  insert (.emailVerificationToken
    { id := draw.id, userId := user.id, tokenHash := settings.hashToken draw.rawToken,
      expiresAt := draw.expiresFrom + emailVerificationTtl, usedAt := none,
      createdAt := draw.createdAt })

/-- The row of a new local account. -/
def newUser (settings : Settings) (data : RegisterRequest) (draw : RegisterDraw) : Account where
  id := draw.userId
  email := settings.lower data.email
  username := data.username
  hashedPassword := some (settings.hashPassword draw.salt data.password)
  firstName := data.firstName
  lastName := data.lastName
  avatar := none
  role := .customer
  isActive := true
  isVerified := false
  lastLogin := none

def register (settings : Settings) (data : RegisterRequest) (draw : RegisterDraw) :
    Tx Account := do
  Prog.raiseIfSome (.conflict "این ایمیل قبلاً ثبت‌نام کرده است.") (← getByEmail settings data.email)
  Prog.raiseIfSome (.conflict "این نام کاربری قبلاً استفاده شده است.")
    (← send (.getUserByUsername data.username))
  let user := newUser settings data draw
  insert (.user user)
  issueEmailVerification settings user draw.verification
  pure user

/-- What `authenticate` asks of the password. -/
def passwordMatches (settings : Settings) (user : Account) (password : String) : Bool :=
  match user.hashedPassword with
  | none => false
  | some hashed => settings.verifyPassword password hashed

def authenticate (settings : Settings) (email password : String) (now : DateTime) :
    Tx Account := do
  let user ← Prog.orRaise genericLoginError (← getByEmail settings email)
  if passwordMatches settings user password = false then .raise genericLoginError
  else if user.isActive = false then .raise (.unauthorized "حساب کاربری شما غیرفعال شده است.")
  else do
    write (.setLastLogin user.id now)
    pure { user with lastLogin := some now }

/-- The row of a new token. -/
def newRefreshToken (settings : Settings) (user : Account) (familyId : Uuid) (client : ClientMeta)
    (draw : Draw) : RefreshToken where
  id := draw.id
  userId := user.id
  tokenHash := settings.hashToken draw.rawToken
  familyId := familyId
  replacedById := none
  revokedAt := none
  expiresAt := draw.now + settings.refreshTokenExpireDays * microsecondsPerDay
  createdAt := draw.now
  userAgent := storedUserAgent client.userAgent
  ipAddress := client.ipAddress

/-- `_issue_refresh_token`. -/
def issueRefreshToken (settings : Settings) (user : Account) (familyId : Uuid)
    (client : ClientMeta) (draw : Draw) : Tx (AccessToken × String × RefreshToken) := do
  let token := newRefreshToken settings user familyId client draw
  insert (.refreshToken token)
  pure (createAccessToken settings user.id user.role draw, draw.rawToken, token)

/-- `issue_token_pair`, in a family of its own. -/
def issueTokenPair (settings : Settings) (user : Account) (client : ClientMeta) (familyId : Uuid)
    (draw : Draw) : Tx (AccessToken × String) := do
  let (accessToken, rawToken, _) ← issueRefreshToken settings user familyId client draw
  pure (accessToken, rawToken)

/-- `revoke_family` and `revoke_all_for_user`. -/
def revokeAll (set : TokenSet) (revokedAt : DateTime) : Tx Unit := do
  let tokens ← send (.getActiveTokens set)
  tokens.forM fun token => write (.setRevokedAt token.id revokedAt)

/-- What `rotate_refresh_token` does with a token that is not revoked. -/
def rotate (settings : Settings) (stored : RefreshToken) (client : ClientMeta) (now : DateTime)
    (draw : Draw) : Tx (AccessToken × String × Account) :=
  if stored.expiresAt < now then .raise expiredSession
  else do
    let user ← Prog.orRaise invalidSession (← send (.getUser stored.userId))
    if user.isActive = false then .raise invalidSession
    else do
      write (.setRevokedAt stored.id now)
      let (accessToken, rawToken, newToken) ←
        issueRefreshToken settings user stored.familyId client draw
      write (.setReplacedById stored.id newToken.id)
      pure (accessToken, rawToken, user)

/-- `rotate_refresh_token`. An answer that is an error is raised after the commit: a
    token that is revoked already revokes its family first. -/
def rotateRefreshToken (settings : Settings) (rawRefreshToken : String) (client : ClientMeta)
    (now : DateTime) (draw : Draw) : Tx (Except ShopError (AccessToken × String × Account)) := do
  let stored ← Prog.orRaise invalidSession
    (← send (.getTokenByHash (settings.hashToken rawRefreshToken)))
  if stored.revokedAt.isSome then do
    revokeAll (.family stored.familyId) now
    pure (.error invalidSession)
  else do
    let pair ← rotate settings stored client now draw
    pure (.ok pair)

/-- `logout` of the token that a lookup has found. -/
def logoutToken (now : DateTime) : Option RefreshToken → Tx Unit
  | none => pure ()
  | some stored => if stored.revokedAt.isSome then pure () else write (.setRevokedAt stored.id now)

def logout (settings : Settings) (rawRefreshToken : String) (now : DateTime) : Tx Unit := do
  logoutToken now (← send (.getTokenByHash (settings.hashToken rawRefreshToken)))

/-! ## Passwords -/

def changePassword (settings : Settings) (user : Account) (currentPassword newPassword : String)
    (salt : Nat) (now : DateTime) : Tx Unit :=
  if passwordMatches settings user currentPassword = false then
    .raise (.unauthorized "رمز عبور فعلی نادرست است.")
  else do
    write (.setHashedPassword user.id (settings.hashPassword salt newPassword))
    revokeAll (.user user.id) now

/-- The row of a new reset token. -/
def newResetToken (settings : Settings) (user : Account) (draw : LinkDraw) : PasswordResetToken where
  id := draw.id
  userId := user.id
  tokenHash := settings.hashToken draw.rawToken
  expiresAt := draw.expiresFrom + passwordResetTtl
  usedAt := none
  createdAt := draw.createdAt

/-- `request_password_reset` for the user that a lookup has found. -/
def resetLink (settings : Settings) (draw : LinkDraw) : Option Account → Tx Unit
  | none => pure ()
  | some user => insert (.passwordResetToken (newResetToken settings user draw))

def requestPasswordReset (settings : Settings) (email : String) (draw : LinkDraw) : Tx Unit := do
  resetLink settings draw (← getByEmail settings email)

/-- The three readings of the clock in `confirm_password_reset`. -/
structure ConfirmClock where
  now : DateTime
  usedAt : DateTime
  revokedAt : DateTime
  deriving DecidableEq, Repr

def confirmPasswordReset (settings : Settings) (token newPassword : String) (salt : Nat)
    (clock : ConfirmClock) : Tx Unit := do
  let record ← Prog.orRaise invalidLink (← send (.getResetByHash (settings.hashToken token)))
  if record.usedAt.isSome ∨ record.expiresAt < clock.now then .raise invalidLink
  else do
    let user ← Prog.orRaise (.notFound "کاربر پیدا نشد.") (← send (.getUser record.userId))
    write (.setHashedPassword user.id (settings.hashPassword salt newPassword))
    write (.setUsedAt record.id clock.usedAt)
    revokeAll (.user user.id) clock.revokedAt

end AuthService

/-! ## Google accounts -/

structure GoogleIdentity where
  subject : String
  email : String
  emailVerified : Bool
  name : String
  picture : Option String
  deriving DecidableEq, Repr

/-- A first login with Google. `lookups` is how many user names are tried before the
    request is given up. -/
structure GoogleDraw where
  userId : Uuid
  accountId : Uuid
  lookups : Nat
  now : DateTime
  deriving DecidableEq, Repr

namespace AuthService

/-- `email.split("@")[0][:40] or "user"`. -/
def baseUsername (email : String) : String :=
  let name := String.ofList ((email.toList.takeWhile (· ≠ '@')).take 40)
  if name = "" then "user" else name

/-- The loop that looks for a free user name, from `username` on. -/
def searchUsername (base : String) : Nat → String → Nat → Tx String
  | 0, _, _ => .raise .internal
  | lookups + 1, username, suffix => do
    match ← send (.getUserByUsername username) with
    | none => pure username
    | some _ => searchUsername base lookups (base ++ toString (suffix + 1)) (suffix + 1)

/-- `UserRepository.get_by_oauth`. -/
def getByOAuth (subject : String) : Tx (Option Account) := do
  match ← send (.getOAuthAccount subject) with
  | none => pure none
  | some account => send (.getUser account.userId)

/-- The row of a new account of Google's. -/
def newGoogleUser (settings : Settings) (identity : GoogleIdentity) (username : String)
    (draw : GoogleDraw) : Account where
  id := draw.userId
  email := settings.lower identity.email
  username := username
  hashedPassword := none
  firstName := identity.name
  lastName := ""
  avatar := identity.picture
  role := .customer
  isActive := true
  isVerified := identity.emailVerified
  lastLogin := some draw.now

def newOAuthAccount (userId : Uuid) (identity : GoogleIdentity) (id : Uuid) : OAuthAccount where
  id := id
  userId := userId
  providerUserId := identity.subject
  email := identity.email

/-- What `login_or_register_with_google` does with an identity that is not linked. -/
def registerWithGoogle (settings : Settings) (identity : GoogleIdentity) (draw : GoogleDraw) :
    Tx Account := do
  Prog.raiseIfSome
    (.conflict ("حسابی با این ایمیل از قبل وجود دارد. ابتدا با رمز عبور وارد شوید و سپس " ++
      "حساب گوگل را از تنظیمات پروفایل متصل کنید."))
    (← getByEmail settings identity.email)
  let base := baseUsername identity.email
  let username ← searchUsername base draw.lookups base 0
  let user := newGoogleUser settings identity username draw
  insert (.user user)
  insert (.oauthAccount (newOAuthAccount user.id identity draw.accountId))
  pure user

def loginOrRegisterWithGoogle (settings : Settings) (identity : GoogleIdentity)
    (draw : GoogleDraw) : Tx Account := do
  match ← getByOAuth identity.subject with
  | some user => do
    write (.setLastLogin user.id draw.now)
    pure { user with lastLogin := some draw.now }
  | none => registerWithGoogle settings identity draw

def linkGoogleAccount (settings : Settings) (user : Account) (identity : GoogleIdentity)
    (accountId : Uuid) : Tx Unit :=
  if settings.lower identity.email ≠ settings.lower user.email then
    .raise (.conflict "ایمیل حساب گوگل باید با ایمیل حساب کاربری یکسان باشد.")
  else do
    Prog.raiseIfSome (.conflict "این حساب گوگل قبلاً به کاربر دیگری متصل شده است.")
      (← getByOAuth identity.subject)
    insert (.oauthAccount (newOAuthAccount user.id identity accountId))

end AuthService

end Accounts

end ElectronicShop
