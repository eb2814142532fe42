import ElectronicShop.Accounts.Google
import ElectronicShop.Txn.Since

/-!
# The states of a login with Google

`google_login` and `google_link_start` draw a state, a nonce and the verifier of PKCE, and keep
them in Redis for ten minutes. A callback takes them from there before it asks Google, so that a
state is good for one callback, whatever comes of it.
-/

namespace ElectronicShop

namespace Accounts

open Txn

variable {settings : Settings} {s : State} {request : Request} {requests : List Request}
  {session : OAuthSession} {state : String}

/-! ## What the requests do to the states -/

/-- A login with Google, or a link by a user who is logged in, is started. -/
inductive Starts (settings : Settings) (session : OAuthSession) (s : State) : Request → Prop where
  | login (draw : OAuthDraw) (configured : settings.googleConfigured = true)
      (drawn : draw.session .login = session) : Starts settings session s (.googleLogin draw)
  | link (subject : Uuid) (draw : OAuthDraw) (user : Account)
      (caller : s.db.users.get subject = some user) (active : user.isActive = true)
      (configured : settings.googleConfigured = true)
      (drawn : draw.session (.link user.id) = session) :
      Starts settings session s (.googleLinkStart subject draw)

/-- A callback is let through with a state. -/
inductive Claims (state : String) (s : State) : Request → Prop where
  | callback (google : GoogleClient) (code : String) (now : DateTime) (client : ClientMeta)
      (account : GoogleDraw) (familyId : Uuid) (draw : Draw)
      (found : (s.oauthSession state now).isSome) :
      Claims state s (.googleCallback google code state now client account familyId draw)

/-- A state is drawn again, or used up. -/
def Touches (settings : Settings) (state : String) (s : State) (request : Request) : Prop :=
  (∃ session, Starts settings session s request ∧ session.state = state) ∨ Claims state s request

theorem Starts.unique {session' : OAuthSession} (h : Starts settings session s request)
    (h' : Starts settings session' s request) : session = session' := by
  cases h with
  | login draw configured drawn =>
    cases h' with
    | login _ _ drawn' => exact drawn.symm.trans drawn'
  | link subject draw user caller active configured drawn =>
    cases h' with
    | link _ _ user' caller' _ _ drawn' =>
      cases caller.symm.trans caller'
      exact drawn.symm.trans drawn'

/-- Redis after the start of a login. -/
theorem Starts.oauth (h : Starts settings session s request) :
    (request.serve settings s).2.oauth = s.oauth.put session := by
  cases h with
  | login draw configured drawn =>
    subst drawn
    simp only [Request.serve, configured]
    rfl
  | link subject draw user caller active configured drawn =>
    subst drawn
    cases hcaller : s.store.transact (getCurrentUser subject) with
    | error e =>
      have hfound : s.store.transact (getCurrentUser subject) = .ok (user, s.store) :=
        Store.transact_ok.mpr (run_getCurrentUser.mpr ⟨caller, active, rfl⟩)
      cases hfound.symm.trans hcaller
    | ok r =>
      obtain ⟨user', store⟩ := r
      obtain ⟨huser, -, -⟩ := run_getCurrentUser.mp (Store.transact_ok.mp hcaller)
      cases caller.symm.trans huser
      simp only [Request.serve, hcaller, configured]
      rfl

/-- A callback that is let through takes the session from Redis. -/
theorem Claims.oauth (h : Claims state s request) :
    (request.serve settings s).2.oauth = s.oauth.eraseIf state fun _ => true := by
  cases h with
  | callback google code now client account familyId draw found =>
    obtain ⟨session, hsession⟩ := Option.isSome_iff_exists.mp found
    have hstate : session.state = state :=
      Table.key_of_get (Option.filter_eq_some_iff.mp hsession).1
    subst hstate
    simp only [Request.serve, hsession, State.googleCallback]
    split
    · rfl
    · split
      · exact oauth_transact ..
      · exact oauth_transact ..

/-- All other requests leave Redis as it is. -/
theorem oauth_of_not (hstart : ∀ session, ¬ Starts settings session s request)
    (hclaim : ∀ state, ¬ Claims state s request) :
    (request.serve settings s).2.oauth = s.oauth := by
  cases request
  case googleLogin draw =>
    simp only [Request.serve]
    split
    · rfl
    · rename_i hconfigured
      exact absurd (.login draw (by simpa using hconfigured) rfl) (hstart (draw.session .login))
  case googleLinkStart subject draw =>
    simp only [Request.serve]
    split
    · rfl
    · rename_i user store hcaller
      obtain ⟨huser, hactive, -⟩ := run_getCurrentUser.mp (Store.transact_ok.mp hcaller)
      split
      · rfl
      · rename_i hconfigured
        exact absurd (.link subject draw user huser hactive (by simpa using hconfigured) rfl)
          (hstart (draw.session (.link user.id)))
  case googleCallback google code state now client account familyId draw =>
    simp only [Request.serve]
    cases hsession : s.oauthSession state now with
    | none => rfl
    | some session =>
      exact absurd (.callback google code now client account familyId draw
        (Option.isSome_iff_exists.mpr ⟨session, hsession⟩)) (hclaim state)
  -- the others are one transaction
  all_goals simp only [Request.serve, oauth_transact]

/-! ## Every run -/

theorem state_set_kept_or_dropped (settings : Settings) (session : OAuthSession) (s : State)
    (request : Request) :
    (request.serve settings s).2.oauth.get session.state = some session ↔
      Starts settings session s request ∨
        s.oauth.get session.state = some session ∧ ¬ Touches settings session.state s request := by
  by_cases hstart : ∃ session', Starts settings session' s request
  · obtain ⟨session', hstart⟩ := hstart
    rw [hstart.oauth, Table.get_put]
    have htouches : session.state = session'.state → Touches settings session.state s request :=
      fun hstate => Or.inl ⟨session', hstart, hstate.symm⟩
    split
    · rename_i hstate
      constructor
      · rintro ⟨⟩
        exact Or.inl hstart
      · rintro (hsame | ⟨-, hnot⟩)
        · rw [hsame.unique hstart]
        · exact absurd (htouches hstate) hnot
    · rename_i hstate
      have hother : ¬ Starts settings session s request :=
        fun hsame => hstate (congrArg OAuthSession.state (hsame.unique hstart))
      have hnot : ¬ Touches settings session.state s request := by
        rintro (⟨session₁, hstart₁, heq⟩ | hclaim)
        · exact hstate (heq.symm.trans (congrArg OAuthSession.state (hstart₁.unique hstart)))
        · cases hclaim
          cases hstart
      rw [or_iff_right hother, and_iff_left hnot]
  · have hnone : ∀ session', ¬ Starts settings session' s request :=
      fun session' h => hstart ⟨session', h⟩
    rw [or_iff_right (hnone session)]
    by_cases hclaim : ∃ state, Claims state s request
    · obtain ⟨state, hclaim⟩ := hclaim
      rw [hclaim.oauth, Table.get_eraseIf]
      split
      · rename_i hstate
        have htouches : Touches settings session.state s request := Or.inr (hstate ▸ hclaim)
        simp [htouches]
      · rename_i hstate
        refine (and_iff_left ?_).symm
        rintro (⟨session', hstarts, -⟩ | hclaim')
        · exact hnone session' hstarts
        · cases hclaim
          cases hclaim'
          exact hstate rfl
    · rw [oauth_of_not hnone fun state h => hclaim ⟨state, h⟩]
      refine (and_iff_left ?_).symm
      rintro (⟨session', hstarts, -⟩ | hclaim')
      · exact hnone session' hstarts
      · exact hclaim ⟨_, hclaim'⟩

/-- The session was started, and since then its state has neither been drawn again nor let a
    callback through. -/
def Outstanding (settings : Settings) (session : OAuthSession) (requests : List Request)
    (s : State) : Prop :=
  Since (Request.step settings) anyStep State.empty (Starts settings session)
    (Touches settings session.state) requests s

theorem oauth_get_iff (hrun : Run (Request.step settings) anyStep State.empty requests s)
    (session : OAuthSession) :
    s.oauth.get session.state = some session ↔ Outstanding settings session requests s := by
  refine Since.iff_of_step (fun s : State => s.oauth.get session.state = some session)
    (fun h => by cases h) (fun _ s request s' _ hstep => ?_) hrun
  cases hstep
  exact state_set_kept_or_dropped settings session s request

/-- In every state that non-overlapping requests reach, a callback is let through exactly when
    a login or a link was started with its state less than ten minutes before, and no callback
    has been let through with it since. It goes on with the nonce, the verifier and the action
    of that start. Any other callback is refused and changes nothing. -/
theorem google_state_single_use
    (hrun : Run (Request.step settings) anyStep State.empty requests s) (google : GoogleClient)
    (code state : String) (now : DateTime) (client : ClientMeta) (account : GoogleDraw)
    (familyId : Uuid) (draw : Draw) :
    (∃ session, session.state = state ∧ now < session.expiresAt ∧
      Outstanding settings session requests s ∧
      Request.serve settings s
          (.googleCallback google code state now client account familyId draw) =
        s.googleCallback settings google code session client account familyId draw) ∨
    (∀ session, session.state = state → now < session.expiresAt →
      ¬ Outstanding settings session requests s) ∧
      Request.serve settings s
          (.googleCallback google code state now client account familyId draw) =
        (.error (.unauthorized "درخواست ورود با گوگل نامعتبر یا منقضی‌شده است."), s) := by
  cases hfound : s.oauthSession state now with
  | some session =>
    obtain ⟨hget, hexpires⟩ := Option.filter_eq_some_iff.mp hfound
    have hstate : session.state = state := Table.key_of_get hget
    refine Or.inl ⟨session, hstate, of_decide_eq_true hexpires, ?_, ?_⟩
    · exact (oauth_get_iff hrun session).mp (hstate ▸ hget)
    · simp only [Request.serve, hfound]
  | none =>
    refine Or.inr ⟨fun session hstate hexpires houtstanding => ?_, ?_⟩
    · have hget := (oauth_get_iff hrun session).mpr houtstanding
      rw [hstate] at hget
      have hfound' : s.oauthSession state now = some session :=
        Option.filter_eq_some_iff.mpr ⟨hget, decide_eq_true hexpires⟩
      cases hfound.symm.trans hfound'
    · simp only [Request.serve, hfound]

/-- The state of a link that has just been started is good for a callback. -/
theorem google_state_single_use_linked : ∃ s,
    Run (Request.step plainSettings) anyStep State.empty (linkedAccount.take 2) s ∧
    (s.oauthSession "state" 6).isSome = true ∧
    ((∃ session, session.state = "state" ∧ 6 < session.expiresAt ∧
      Outstanding plainSettings session (linkedAccount.take 2) s ∧
      Request.serve plainSettings s (.googleCallback (fun _ _ _ => .ok saraAtGoogle) "code" "state" 6
          noClient ⟨2, 1, 1, 6⟩ 8 ⟨"second", 2, 6, 0, 6⟩) =
        s.googleCallback plainSettings (fun _ _ _ => .ok saraAtGoogle) "code" session noClient
          ⟨2, 1, 1, 6⟩ 8 ⟨"second", 2, 6, 0, 6⟩) ∨
    (∀ session, session.state = "state" → 6 < session.expiresAt →
      ¬ Outstanding plainSettings session (linkedAccount.take 2) s) ∧
      Request.serve plainSettings s (.googleCallback (fun _ _ _ => .ok saraAtGoogle) "code" "state" 6
          noClient ⟨2, 1, 1, 6⟩ 8 ⟨"second", 2, 6, 0, 6⟩) =
        (.error (.unauthorized "درخواست ورود با گوگل نامعتبر یا منقضی‌شده است."), s)) := by
  have hrun : ∃ s, Run (Request.step plainSettings) anyStep State.empty (linkedAccount.take 2) s ∧
      (s.oauthSession "state" 6).isSome = true := Run.exists_of_execAll (by decide +kernel)
  obtain ⟨s, hrun, hfound⟩ := hrun
  exact ⟨s, hrun, hfound, google_state_single_use hrun _ _ _ _ _ _ _ _⟩

end Accounts

end ElectronicShop
