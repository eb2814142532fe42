import ElectronicShop.Model.Auth

/-!
# The endpoints of accounts and sessions

The routers of `app/modules/auth` and `app/modules/users`. A request names its caller by
the subject of a valid access token. The pending Google logins are kept in Redis, outside
of the transaction: what a callback has taken from there is gone also when it fails.
`Request.serve` is a request that no other overlaps.
-/

namespace ElectronicShop

namespace Accounts

open Txn

/-! ## Administration of users -/

/-- `PATCH /admin/users/{user_id}`. -/
def updateUser (subject userId : Uuid) (data : AdminUserUpdate) : Tx Account := do
  let admin ← getCurrentUser subject
  requirePermission .userManage admin
  UsersAdminService.updateUser userId data admin.id

/-- A request to that endpoint. -/
structure UserUpdate where
  subject : Uuid
  userId : Uuid
  data : AdminUserUpdate
  deriving DecidableEq, Repr

/-- An update that no other request overlaps. -/
def UserUpdate.serve (update : UserUpdate) (store : Store) : Except ShopError Store :=
  (store.transact (updateUser update.subject update.userId update.data)).map Prod.snd

/-! ## Sessions -/

/-- The tokens a request is answered with, and the user they are for. -/
structure TokenPair where
  accessToken : AccessToken
  refreshToken : String
  user : Account
  deriving DecidableEq, Repr

/-- `issue_token_pair` for the user that a service has returned. -/
def startSession (settings : Settings) (user : Account) (client : ClientMeta) (familyId : Uuid)
    (draw : Draw) : Tx TokenPair := do
  let (accessToken, refreshToken) ←
    AuthService.issueTokenPair settings user client familyId draw
  pure ⟨accessToken, refreshToken, user⟩

/-- `POST /auth/register`. -/
def register (settings : Settings) (data : RegisterRequest) (client : ClientMeta)
    (account : RegisterDraw) (familyId : Uuid) (draw : Draw) : Tx TokenPair := do
  let user ← AuthService.register settings data account
  startSession settings user client familyId draw

/-- `POST /auth/login`. -/
def login (settings : Settings) (email password : String) (client : ClientMeta) (now : DateTime)
    (familyId : Uuid) (draw : Draw) : Tx TokenPair := do
  let user ← AuthService.authenticate settings email password now
  startSession settings user client familyId draw

/-- `POST /auth/refresh`, with the token of the cookie. -/
def refresh (settings : Settings) (cookie : Option String) (client : ClientMeta) (now : DateTime)
    (draw : Draw) : Tx (Except ShopError TokenPair) := do
  let refreshToken ← Prog.orRaise (.unauthorized "نشست شما یافت نشد. دوباره وارد شوید.")
    (cookie.filter (· ≠ ""))
  let rotated ← AuthService.rotateRefreshToken settings refreshToken client now draw
  pure (rotated.map fun (accessToken, refreshToken, user) => ⟨accessToken, refreshToken, user⟩)

/-- `POST /auth/logout`. -/
def logout (settings : Settings) (cookie : Option String) (now : DateTime) : Tx Unit :=
  match cookie.filter (· ≠ "") with
  | none => pure ()
  | some refreshToken => AuthService.logout settings refreshToken now

/-- `POST /auth/change-password`. -/
def changePassword (settings : Settings) (subject : Uuid) (currentPassword newPassword : String)
    (salt : Nat) (now : DateTime) : Tx Unit := do
  let user ← getCurrentUser subject
  AuthService.changePassword settings user currentPassword newPassword salt now

/-! ## Google -/

inductive OAuthAction where
  | login
  | link (userId : Uuid)
  deriving DecidableEq, Repr

/-- What Redis holds of a login with Google that has been started. -/
structure OAuthSession where
  state : String
  nonce : String
  verifier : String
  action : OAuthAction
  expiresAt : DateTime
  deriving DecidableEq, Repr

/-- The start of a login with Google. -/
structure OAuthDraw where
  state : String
  nonce : String
  verifier : String
  now : DateTime
  deriving DecidableEq, Repr

/-- `OAUTH_STATE_TTL_SECONDS`. -/
def oauthStateTtl : Int := 600 * 1000000

def OAuthDraw.session (draw : OAuthDraw) (action : OAuthAction) : OAuthSession where
  state := draw.state
  nonce := draw.nonce
  verifier := draw.verifier
  action := action
  expiresAt := draw.now + oauthStateTtl

/-- `exchange_code` and `verify_id_token`: what Google says of a code, given the verifier and
    the nonce. -/
abbrev GoogleClient : Type :=
  (code verifier nonce : String) → Except ShopError GoogleIdentity

/-- A callback that is a login, from the identity on. -/
def googleLogin (settings : Settings) (identity : GoogleIdentity) (client : ClientMeta)
    (account : GoogleDraw) (familyId : Uuid) (draw : Draw) : Tx TokenPair := do
  let user ← AuthService.loginOrRegisterWithGoogle settings identity account
  startSession settings user client familyId draw

/-- A callback that links an account, from the identity on. -/
def googleLink (settings : Settings) (userId : Uuid) (identity : GoogleIdentity)
    (account : GoogleDraw) : Tx Unit := do
  let user ← Prog.orRaise AuthService.invalidSession (← send (.getUser userId))
  AuthService.linkGoogleAccount settings user identity account.accountId

/-! ## Serving requests one after another -/

/-- The committed database, and the Google logins that have been started. -/
structure State where
  store : Store
  oauth : Table OAuthSession.state

abbrev State.db (s : State) : Db := s.store.db

/-- Before any request. -/
def State.empty : State where
  store := ⟨Db.empty, by decide⟩
  oauth := ∅

/-- A transaction that no other overlaps. -/
def State.transact {α : Type} (s : State) (program : Tx α) : Except ShopError α × State :=
  match s.store.transact program with
  | .ok (a, store) => (.ok a, { s with store })
  | .error e => (.error e, s)

/-- Redis answers for a key until it expires. -/
def State.oauthSession (s : State) (state : String) (now : DateTime) : Option OAuthSession :=
  (s.oauth.get state).filter fun session => now < session.expiresAt

inductive Request where
  | register (data : RegisterRequest) (client : ClientMeta) (account : RegisterDraw)
      (familyId : Uuid) (draw : Draw)
  | login (email password : String) (client : ClientMeta) (now : DateTime) (familyId : Uuid)
      (draw : Draw)
  | refresh (cookie : Option String) (client : ClientMeta) (now : DateTime) (draw : Draw)
  | logout (cookie : Option String) (now : DateTime)
  | changePassword (subject : Uuid) (currentPassword newPassword : String) (salt : Nat)
      (now : DateTime)
  | requestPasswordReset (email : String) (draw : LinkDraw)
  | confirmPasswordReset (token newPassword : String) (salt : Nat)
      (clock : AuthService.ConfirmClock)
  | googleLogin (draw : OAuthDraw)
  | googleLinkStart (subject : Uuid) (draw : OAuthDraw)
  | googleCallback (google : GoogleClient) (code state : String) (now : DateTime)
      (client : ClientMeta) (account : GoogleDraw) (familyId : Uuid) (draw : Draw)
  | updateUser (update : UserUpdate)

/-- The tokens of the answer, if it has any. -/
abbrev Answer : Type := Option TokenPair

/-- `build_authorization_url` fails when no Google client is configured. -/
def notConfigured : ShopError := .conflict "ورود با گوگل در حال حاضر پیکربندی نشده است."

/-- The end of a callback: the session is taken from Redis first. -/
def State.googleCallback (s : State) (settings : Settings) (google : GoogleClient)
    (code : String) (session : OAuthSession) (client : ClientMeta) (account : GoogleDraw)
    (familyId : Uuid) (draw : Draw) : Except ShopError Answer × State :=
  let s := { s with oauth := s.oauth.eraseIf session.state fun _ => true }
  match google code session.verifier session.nonce with
  | .error e => (.error e, s)
  | .ok identity =>
    match session.action with
    | .link userId =>
      let (answer, s') := s.transact (googleLink settings userId identity account)
      (answer.map fun _ => none, s')
    | .login =>
      let (answer, s') := s.transact (googleLogin settings identity client account familyId draw)
      (answer.map some, s')

/-- A request that no other overlaps: its answer, and the state it leaves. -/
def Request.serve (settings : Settings) (s : State) : Request → Except ShopError Answer × State
  | .register data client account familyId draw =>
    let (answer, s') := s.transact (Accounts.register settings data client account familyId draw)
    (answer.map some, s')
  | .login email password client now familyId draw =>
    let (answer, s') := s.transact (Accounts.login settings email password client now familyId draw)
    (answer.map some, s')
  | .refresh cookie client now draw =>
    let (answer, s') := s.transact (Accounts.refresh settings cookie client now draw)
    (answer.bind fun rotated => rotated.map some, s')
  | .logout cookie now =>
    let (answer, s') := s.transact (Accounts.logout settings cookie now)
    (answer.map fun _ => none, s')
  | .changePassword subject currentPassword newPassword salt now =>
    let (answer, s') := s.transact
      (Accounts.changePassword settings subject currentPassword newPassword salt now)
    (answer.map fun _ => none, s')
  | .requestPasswordReset email draw =>
    let (answer, s') := s.transact (AuthService.requestPasswordReset settings email draw)
    (answer.map fun _ => none, s')
  | .confirmPasswordReset token newPassword salt clock =>
    let (answer, s') := s.transact
      (AuthService.confirmPasswordReset settings token newPassword salt clock)
    (answer.map fun _ => none, s')
  | .googleLogin draw =>
    if settings.googleConfigured = false then (.error notConfigured, s)
    else (.ok none, { s with oauth := s.oauth.put (draw.session .login) })
  | .googleLinkStart subject draw =>
    match s.store.transact (getCurrentUser subject) with
    | .error e => (.error e, s)
    | .ok (user, _) =>
      if settings.googleConfigured = false then (.error notConfigured, s)
      else (.ok none, { s with oauth := s.oauth.put (draw.session (.link user.id)) })
  | .googleCallback google code state now client account familyId draw =>
    match s.oauthSession state now with
    | none => (.error (.unauthorized "درخواست ورود با گوگل نامعتبر یا منقضی‌شده است."), s)
    | some session => s.googleCallback settings google code session client account familyId draw
  | .updateUser update =>
    let (answer, s') := s.transact (Accounts.updateUser update.subject update.userId update.data)
    (answer.map fun _ => none, s')

/-- A request as a step of a run. A request that fails is a step as well: it may have
    committed. -/
def Request.step (settings : Settings) (request : Request) (s : State) : Except ShopError State :=
  .ok (request.serve settings s).2

end Accounts

end ElectronicShop
