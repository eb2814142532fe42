import ElectronicShop.Execution.AuthApi

/-!
# Logging in with Google

A Google account belongs to a user because a login with it created that user, or because
that user asked for it while logged in. The e-mail address alone gives nobody an account:
every address is stored in lower case, and an identity whose address is taken is refused.
-/

namespace ElectronicShop

namespace Accounts

open Txn

/-! ## How Google accounts come to belong to users -/

section Steps

variable (settings : Settings) (subject : String) (userId : Uuid)

/-- The callback of a started login that Google has verified. -/
def Request.IsCallback (request : Request) (s : State) (action : OAuthAction)
    (identity : GoogleIdentity) (session : OAuthSession) : Prop :=
  ∃ google code state now client account familyId draw,
    request = .googleCallback google code state now client account familyId draw ∧
    s.oauthSession state now = some session ∧ session.action = action ∧
    google code session.verifier session.nonce = .ok identity

/-- A login with Google that creates the user. -/
def CreatesUser (_ : List Request) (s : State) (request : Request) : Prop :=
  ∃ identity session, request.IsCallback s .login identity session ∧
    identity.subject = subject ∧ s.db.users.get userId = none ∧
    ((request.serve settings s).2.db.users.get userId).isSome

/-- The user, who is logged in, starts to link a Google account. -/
def StartsLink (state : String) (_ : List Request) (s : State) (request : Request) : Prop :=
  ∃ draw, request = .googleLinkStart userId draw ∧ draw.state = state ∧
    (∃ user, s.db.users.get userId = some user ∧ user.isActive = true) ∧
    (request.serve settings s).1 = .ok none

/-- A link that the user has started is completed. -/
def CompletesLink (before : List Request) (s : State) (request : Request) : Prop :=
  ∃ identity session, request.IsCallback s (.link userId) identity session ∧
    identity.subject = subject ∧ (request.serve settings s).1 = .ok none ∧
    Run.Earlier (Request.step settings) anyStep State.empty
      (StartsLink settings userId session.state) before

/-- The user has the Google account because of one of these two. -/
def Provenance (requests : List Request) : Prop :=
  Run.Earlier (Request.step settings) anyStep State.empty (CreatesUser settings subject userId)
    requests ∨
  Run.Earlier (Request.step settings) anyStep State.empty (CompletesLink settings subject userId)
    requests

end Steps

variable {settings : Settings} {subject : String} {userId : Uuid} {s s' : State}
  {requests : List Request} {request : Request}

theorem Provenance.snoc (h : Provenance settings subject userId requests) (request : Request) :
    Provenance settings subject userId (requests ++ [request]) :=
  h.imp (fun h => h.snoc request) fun h => h.snoc request

/-! ## The logins that have been started -/

theorem oauth_transact {α : Type} (s : State) (program : Tx α) :
    (s.transact program).2.oauth = s.oauth := by
  unfold State.transact
  split <;> rfl

/-- A link that has been started was there before, or the request starts it. -/
theorem oauth_step (request : Request) {state : String} {session : OAuthSession} {link : Uuid}
    (hlink : session.action = .link link)
    (h : (request.serve settings s).2.oauth.get state = some session) :
    s.oauth.get state = some session ∨ StartsLink settings link state requests s request := by
  cases request
  case googleLogin draw =>
    simp only [Request.serve] at h
    split at h
    · exact Or.inl h
    · rw [Table.get_put] at h
      split at h
      · cases h
        cases hlink
      · exact Or.inl h
  case googleLinkStart subject draw =>
    simp only [Request.serve] at h
    split at h
    · exact Or.inl h
    · rename_i user store hcaller
      split at h
      · exact Or.inl h
      · rename_i hconfigured
        rw [Table.get_put] at h
        split at h
        · rename_i hstate
          cases h
          obtain ⟨huser, hactive, -⟩ := run_getCurrentUser.mp (Store.transact_ok.mp hcaller)
          have hid : user.id = subject := Table.key_of_get huser
          have hlinkId : user.id = link := OAuthAction.link.inj hlink
          have hsubject : subject = link := hid.symm.trans hlinkId
          subst hsubject
          refine Or.inr ⟨draw, rfl, hstate.symm, ⟨user, huser, hactive⟩, ?_⟩
          simp only [Request.serve, hcaller, if_neg hconfigured]
        · exact Or.inl h
  case googleCallback google code state' now client account familyId draw =>
    left
    have herase : ∀ taken : OAuthSession,
        (s.oauth.eraseIf taken.state fun _ => true).get state = some session →
          s.oauth.get state = some session := by
      intro taken htaken
      rw [Table.get_eq_some_iff, Table.mem_eraseIf] at htaken
      exact Table.get_eq_some_iff.mpr ⟨htaken.1.1, htaken.2⟩
    simp only [Request.serve] at h
    split at h
    · exact h
    · rename_i taken htaken
      simp only [State.googleCallback] at h
      split at h
      · exact herase taken h
      · split at h
        · rw [oauth_transact] at h
          exact herase taken h
        · rw [oauth_transact] at h
          exact herase taken h
  -- the others are one transaction
  all_goals
    left
    simpa only [Request.serve, oauth_transact] using h

/-- Every link that has been started was started by its user. -/
theorem started_of_run (hrun : Run (Request.step settings) anyStep State.empty requests s)
    {state : String} {session : OAuthSession} {link : Uuid} (hlink : session.action = .link link)
    (h : s.oauth.get state = some session) :
    Run.Earlier (Request.step settings) anyStep State.empty (StartsLink settings link state)
      requests := by
  induction hrun with
  | nil => cases h
  | snoc before allowed committed ih =>
    cases committed
    rcases oauth_step _ hlink h with hold | hstarts
    · exact (ih hold).snoc _
    · exact Run.Earlier.last before hstarts

/-! ## The accounts after a request -/

/-- A Google account that a request adds is of a user it creates, or of the user who has
    started the link. -/
theorem Request.Effect.oauthAccounts {answer : Except ShopError Answer} {db' : Db}
    (h : request.Effect settings s answer db') {a : OAuthAccount}
    (ha : a ∈ db'.oauthAccounts.rows) :
    a ∈ s.db.oauthAccounts.rows ∨
    (∃ identity session, request.IsCallback s .login identity session ∧
      identity.subject = a.providerUserId ∧ s.db.users.get a.userId = none ∧
      (db'.users.get a.userId).isSome) ∨
    ∃ identity session, request.IsCallback s (.link a.userId) identity session ∧
      identity.subject = a.providerUserId ∧ answer = .ok none := by
  cases h
  case googleRegistered google code state now client account familyId draw session identity
      username started action verified unlinked newEmail newUser newAccount newToken =>
    rcases Table.mem_put ha with rfl | ⟨hold, -⟩
    · refine Or.inr (Or.inl ⟨identity, session, ?_, rfl, newUser, ?_⟩)
      · exact ⟨google, code, state, now, client, account, familyId, draw, rfl, started, action,
          verified⟩
      · exact Option.isSome_iff_exists.mpr ⟨_, Table.get_put_self ..⟩
    · exact Or.inl hold
  case googleLinked google code state now client account familyId draw session identity userId
      started action verified unlinked newAccount =>
    rcases Table.mem_put ha with rfl | ⟨hold, -⟩
    · refine Or.inr (Or.inr ⟨identity, session, ?_, rfl, rfl⟩)
      exact ⟨google, code, state, now, client, account, familyId, draw, rfl, started, action,
        verified⟩
    · exact Or.inl hold
  case userUpdated actor user effect =>
    obtain ⟨logs, rfl⟩ := effect.result
    exact Or.inl ha
  -- the others leave the Google accounts as they are
  all_goals exact Or.inl ha

theorem provenance_of_run (hrun : Run (Request.step settings) anyStep State.empty requests s)
    {a : OAuthAccount} (ha : a ∈ s.db.oauthAccounts.rows) :
    Provenance settings a.providerUserId a.userId requests := by
  induction hrun with
  | nil => cases ha
  | snoc before allowed committed ih =>
    cases committed
    rename_i request s
    rcases (request.effect (s := s)).oauthAccounts ha with hold |
      ⟨identity, session, hcallback, hsubject, hnew, hcreated⟩ |
      ⟨identity, session, hcallback, hsubject, hanswer⟩
    · exact (ih hold).snoc _
    · exact Or.inl (Run.Earlier.last before ⟨identity, session, hcallback, hsubject, hnew, hcreated⟩)
    · have hstarted : s.oauth.get session.state = some session := by
        obtain ⟨google, code, state, now, client, account, familyId, draw, -, hsession, -⟩ :=
          hcallback
        have hget := (Option.filter_eq_some_iff.mp hsession).1
        rw [Table.key_of_get hget]
        exact hget
      have haction : session.action = .link a.userId := by
        obtain ⟨google, code, state, now, client, account, familyId, draw, -, -, haction, -⟩ :=
          hcallback
        exact haction
      exact Or.inr (Run.Earlier.last before
        ⟨identity, session, hcallback, hsubject, hanswer, started_of_run before haction hstarted⟩)

/-! ## E-mail addresses -/

/-- Every stored address is in lower case. -/
def LowerEmails (settings : Settings) (db : Db) : Prop :=
  ∀ u ∈ db.users.rows, settings.lower u.email = u.email

theorem lowerEmails_put {db : Db} {u : Account} (h : LowerEmails settings db)
    (hu : settings.lower u.email = u.email) :
    ∀ v ∈ (db.users.put u).rows, settings.lower v.email = v.email := by
  intro v hv
  rcases Table.mem_put hv with rfl | ⟨hold, -⟩
  · exact hu
  · exact h v hold

/-- An update that keeps the address. -/
theorem lowerEmails_update {db : Db} {id : Uuid} {stored u : Account} (h : LowerEmails settings db)
    (hstored : db.users.get id = some stored) (hemail : u.email = stored.email) :
    ∀ v ∈ (db.users.put u).rows, settings.lower v.email = v.email := by
  refine lowerEmails_put h ?_
  rw [hemail]
  exact h stored (Table.mem_of_get hstored)

theorem Request.Effect.lowerEmails {answer : Except ShopError Answer} {db' : Db}
    (h : request.Effect settings s answer db') (hlower : LowerEmails settings s.db) :
    LowerEmails settings db' := by
  cases h
  case registered tokens newEmail newUser newToken =>
    exact lowerEmails_put hlower (settings.lower_lower _)
  case loggedIn stored user active newToken => exact lowerEmails_update hlower user rfl
  case passwordChanged user caller => exact lowerEmails_update hlower caller rfl
  case passwordReset record user presented unused owner =>
    exact lowerEmails_update hlower owner rfl
  case googleLoggedIn session identity stored started action verified linked newToken =>
    obtain ⟨account, -, hget⟩ := Option.bind_eq_some_iff.mp linked
    exact lowerEmails_update hlower hget rfl
  case googleRegistered session identity username started action verified unlinked newEmail newUser
      newAccount newToken => exact lowerEmails_put hlower (settings.lower_lower _)
  case userUpdated actor user effect =>
    have huser := effect.getUser
    obtain ⟨logs, rfl⟩ := effect.result
    exact lowerEmails_update hlower huser rfl
  -- the others leave the users as they are
  all_goals exact hlower

theorem lowerEmails_of_run (hrun : Run (Request.step settings) anyStep State.empty requests s) :
    LowerEmails settings s.db := by
  have hstart : LowerEmails settings State.empty.db := by
    intro u hu
    cases hu
  refine hrun.invariant (fun s => LowerEmails settings s.db) hstart ?_
  intro request s s' hlower _ hstep
  cases hstep
  exact request.effect.lowerEmails hlower

/-! ## Every run -/

theorem transact_ok {α : Type} {program : Tx α} {a : α} (h : s.transact program = (.ok a, s')) :
    program.run Stmt.exec s.db = .ok (a, s'.db) := by
  unfold State.transact at h
  cases htransact : s.store.transact program with
  | error e =>
    rw [htransact] at h
    cases h
  | ok r =>
    rw [htransact] at h
    cases h
    exact Store.transact_ok.mp htransact

/-- A program that cannot succeed is refused. -/
theorem transact_error {α : Type} {program : Tx α}
    (h : ∀ a db', program.run Stmt.exec s.db ≠ .ok (a, db')) :
    ∃ e, s.transact program = (.error e, s) := by
  unfold State.transact
  cases htransact : s.store.transact program with
  | error e => exact ⟨e, rfl⟩
  | ok r => exact absurd (Store.transact_ok.mp htransact) (h r.1 r.2.db)

/-- In every state that non-overlapping requests reach, a login with Google returns the user
    that it or an earlier one has created for the same subject, or the user who has linked the
    Google account; and an identity that nobody has linked is refused when its address is
    taken. -/
theorem google_takes_no_account_over
    (hrun : Run (Request.step settings) anyStep State.empty requests s) :
    (∀ identity draw user s',
      s.transact (AuthService.loginOrRegisterWithGoogle settings identity draw) = (.ok user, s') →
        (s.db.users.get user.id = none ∧ (s'.db.users.get user.id).isSome) ∨
          Provenance settings identity.subject user.id requests) ∧
    ∀ identity draw, s.db.oauthBy identity.subject = none →
      (∃ u ∈ s.db.users.rows, settings.lower u.email = settings.lower identity.email) →
        ∃ e, s.transact (AuthService.loginOrRegisterWithGoogle settings identity draw) =
          (.error e, s) := by
  constructor
  · intro identity draw user s' h
    rcases run_loginOrRegisterWithGoogle (transact_ok h) with ⟨stored, hstored, rfl, -⟩ |
      ⟨-, -, hnew, -, ⟨username, rfl⟩, hdb⟩
    · obtain ⟨account, haccount, huser⟩ := Option.bind_eq_some_iff.mp hstored
      have hmem : account ∈ s.db.oauthAccounts.rows := List.mem_of_find?_eq_some haccount
      have hsubject : account.providerUserId = identity.subject := by
        simpa using List.find?_some haccount
      have hid : stored.id = account.userId := Table.key_of_get huser
      right
      have hprovenance := provenance_of_run hrun hmem
      rw [hsubject, ← hid] at hprovenance
      exact hprovenance
    · left
      refine ⟨hnew, ?_⟩
      rw [hdb]
      exact Option.isSome_iff_exists.mpr ⟨_, Table.get_put_self ..⟩
  · rintro identity draw hunlinked ⟨u, hu, hemail⟩
    refine transact_error fun user db' hok => ?_
    rcases run_loginOrRegisterWithGoogle hok with ⟨stored, hstored, -⟩ | ⟨-, hfree, -⟩
    · rw [Db.googleUser, hunlinked] at hstored
      cases hstored
    · have hlower : u.email = settings.lower identity.email :=
        (lowerEmails_of_run hrun u hu).symm.trans hemail
      exact absurd hlower (by simpa using List.find?_eq_none.mp hfree u hu)

def saraAtGoogle : GoogleIdentity := ⟨"subject", "Sara@Shop.ir", true, "Sara", none⟩

/-- A local account whose user links a Google account. -/
def linkedAccount : List Request :=
  [.register ⟨"SARA@shop.ir", "sara", "secret", "Sara", "N"⟩ noClient ⟨1, 0, ⟨"mail", 1, 0, 0⟩⟩ 7
      ⟨"first", 1, 0, 0, 0⟩,
    .googleLinkStart 1 ⟨"state", "nonce", "verifier", 5⟩,
    .googleCallback (fun _ _ _ => .ok saraAtGoogle) "code" "state" 6 noClient ⟨2, 1, 1, 6⟩ 8
      ⟨"second", 2, 6, 0, 6⟩]

/-- The login that comes next is of that user; the same address with another subject is
    refused, although its letters are in another case. -/
theorem google_takes_no_account_over_linked : ∃ s s' user,
    Run (Request.step plainSettings) anyStep State.empty linkedAccount s ∧
      s.transact (AuthService.loginOrRegisterWithGoogle plainSettings saraAtGoogle ⟨3, 2, 1, 9⟩) =
        (.ok user, s') ∧
      ((s.db.users.get user.id = none ∧ (s'.db.users.get user.id).isSome) ∨
        Provenance plainSettings "subject" user.id linkedAccount) ∧
      ∃ e, s.transact (AuthService.loginOrRegisterWithGoogle plainSettings
        { saraAtGoogle with subject := "other" } ⟨3, 2, 1, 9⟩) = (.error e, s) := by
  have hexec : (Run.execAll (Request.step plainSettings) anyStep linkedAccount State.empty).any
      (fun s => (s.transact (AuthService.loginOrRegisterWithGoogle plainSettings saraAtGoogle
          ⟨3, 2, 1, 9⟩)).1.toOption.isSome ∧ s.db.oauthBy "other" = none ∧
        ∃ u ∈ s.db.users.rows,
          plainSettings.lower u.email = plainSettings.lower saraAtGoogle.email) = true := by
    decide +kernel
  obtain ⟨s, hrun, hlogin, hunlinked, htaken⟩ := Run.exists_of_execAll hexec
  have hclaim := google_takes_no_account_over hrun
  cases htransact : s.transact
      (AuthService.loginOrRegisterWithGoogle plainSettings saraAtGoogle ⟨3, 2, 1, 9⟩) with
  | mk answer s' =>
    rw [htransact] at hlogin
    cases answer with
    | error e => cases hlogin
    | ok user =>
      exact ⟨s, s', user, hrun, htransact, hclaim.1 _ _ _ _ htransact,
        hclaim.2 { saraAtGoogle with subject := "other" } _ hunlinked htaken⟩

end Accounts

end ElectronicShop
