import ElectronicShop.Accounts.SessionLife
import ElectronicShop.Model.Browser

/-!
# The session of a browser

A browser presents the refresh token that it was given last, and no token a second time, so its
own requests do not set off the alarm about a token that is presented again. When an answer is lost,
though, it keeps a token that has been exchanged, and its next refresh ends the session.
-/

namespace ElectronicShop

namespace Accounts

open Txn

variable {settings : Settings} {v v' : Visit} {jar : Jar} {cookie : Cookie}

/-! ## The jar -/

/-- The refresh token is kept under one path. -/
def Jar.OnePath (jar : Jar) : Prop := ∀ c ∈ jar, c.name = refreshTokenCookie → c.path = authPath

theorem Jar.mem_setCookie {c : Cookie} (h : c ∈ jar.setCookie cookie) :
    c = cookie ∨ c ∈ jar ∧ ¬ (c.name = cookie.name ∧ c.path = cookie.path) := by
  rcases List.mem_cons.mp h with rfl | hold
  · exact Or.inl rfl
  · obtain ⟨hmem, hother⟩ := List.mem_filter.mp hold
    exact Or.inr ⟨hmem, of_decide_eq_true hother⟩

theorem Jar.mem_deleteCookie {name path : String} {c : Cookie}
    (h : c ∈ jar.deleteCookie name path) : c ∈ jar ∧ ¬ (c.name = name ∧ c.path = path) := by
  obtain ⟨hmem, hother⟩ := List.mem_filter.mp h
  exact ⟨hmem, of_decide_eq_true hother⟩

theorem csrfCookieName_ne : csrfCookieName ≠ refreshTokenCookie := by decide

theorem accessTokenCookie_ne : accessTokenCookie ≠ refreshTokenCookie := by decide

/-- The refresh tokens after an answer with tokens. -/
theorem Jar.mem_setAuthCookies {arrival : Arrival} {refreshToken : String} (hpath : jar.OnePath)
    (h : cookie ∈ setAuthCookies settings arrival refreshToken jar)
    (hname : cookie.name = refreshTokenCookie) :
    cookie.value = refreshToken ∧ cookie.path = authPath := by
  rcases mem_setCookie h with rfl | ⟨h, -⟩
  · exact absurd hname csrfCookieName_ne
  rcases mem_setCookie h with rfl | ⟨h, hother⟩
  · exact ⟨rfl, rfl⟩
  rcases mem_setCookie h with rfl | ⟨h, -⟩
  · exact absurd hname accessTokenCookie_ne
  · exact absurd ⟨hname, hpath cookie h hname⟩ hother

/-- No refresh token is left when the cookies are cleared. -/
theorem Jar.name_ne_of_clearAuthCookies (hpath : jar.OnePath) (h : cookie ∈ clearAuthCookies jar) :
    cookie.name ≠ refreshTokenCookie := by
  intro hname
  obtain ⟨h, -⟩ := mem_deleteCookie h
  obtain ⟨h, hother⟩ := mem_deleteCookie h
  obtain ⟨h, -⟩ := mem_deleteCookie h
  exact hother ⟨hname, hpath cookie h hname⟩

theorem Jar.OnePath.answered (h : jar.OnePath) (arrival : Arrival) (request : Request)
    (answer : Except ShopError Answer) :
    (jar.answered settings arrival request answer).OnePath := by
  intro c hc hname
  unfold Jar.answered at hc
  split at hc
  · exact (mem_setAuthCookies h hc hname).2
  · split at hc
    · exact absurd hname (name_ne_of_clearAuthCookies h hc)
    · exact h c hc hname
  · exact h c hc hname

theorem onePath_step {event : VisitEvent} (h : v.jar.OnePath)
    (hstep : event.step settings v = .ok v') : v'.jar.OnePath := by
  cases event with
  | answered request arrival =>
    cases hstep
    exact Jar.OnePath.answered h arrival _ _
  | unanswered request =>
    cases hstep
    exact h
  | elsewhere request =>
    cases hstep
    exact h

/-- A refresh token that the browser presents is in its jar. -/
theorem BrowserRequest.mem_jar {request : BrowserRequest} {raw : String}
    (h : (request.toRequest jar).cookie = some raw) :
    ∃ c ∈ jar, c.name = refreshTokenCookie ∧ c.value = raw := by
  have hsent : ∀ {address now}, jar.sent address now refreshTokenCookie = some raw →
      ∃ c ∈ jar, c.name = refreshTokenCookie ∧ c.value = raw := by
    intro address now hsent
    obtain ⟨c, hfound, hvalue⟩ := Option.map_eq_some_iff.mp hsent
    have hchosen := List.find?_some hfound
    simp only [decide_eq_true_eq] at hchosen
    exact ⟨c, List.mem_of_find?_eq_some hfound, hchosen.1, hvalue⟩
  cases request with
  | refresh client now draw => exact hsent h
  | logout now => exact hsent h
  | other request noCookie =>
    rw [BrowserRequest.toRequest, noCookie] at h
    cases h

/-! ## Sessions that are lost -/

/-- A refresh token in the jar is that of `t`. -/
def Jar.Holds (settings : Settings) (jar : Jar) (t : RefreshToken) : Prop :=
  ∃ c ∈ jar, c.name = refreshTokenCookie ∧ settings.hashToken c.value = t.tokenHash

/-- The refresh tokens in the jar are those of sessions that live. -/
def SignedIn (settings : Settings) (v : Visit) : Prop :=
  ∀ c ∈ v.jar, c.name = refreshTokenCookie →
    ∃ t, Live t v.server ∧ settings.hashToken c.value = t.tokenHash

/-- The browser is answered with tokens. -/
def Receives (settings : Settings) (v : Visit) : VisitEvent → Prop
  | .answered request _ =>
    ∃ tokens, ((request.toRequest v.jar).serve settings v.server).1 = .ok (some tokens)
  | _ => False

/-- The session of a token in the jar is ended behind the back of the browser: by somebody else,
    by a request whose answer is lost, or by a reset of the password. -/
inductive Loses (settings : Settings) (v : Visit) : VisitEvent → Prop where
  | elsewhere {t : RefreshToken} {request : Request} (held : v.jar.Holds settings t)
      (ended : Ends settings t v.server request) : Loses settings v (.elsewhere request)
  | unanswered {t : RefreshToken} {request : BrowserRequest} (held : v.jar.Holds settings t)
      (ended : Ends settings t v.server (request.toRequest v.jar)) :
      Loses settings v (.unanswered request)
  | reset {t : RefreshToken} {token newPassword : String} {salt : Nat}
      {clock : AuthService.ConfirmClock} {arrival : Arrival} (held : v.jar.Holds settings t)
      (ended : Ends settings t v.server (.confirmPasswordReset token newPassword salt clock)) :
      Loses settings v
        (.answered (.other (.confirmPasswordReset token newPassword salt clock) rfl) arrival)

/-- The tokens of an answer are those of a session that lives. -/
theorem Request.Effect.live {s : State} {request : Request} {tokens : TokenPair} {db' : Db}
    (h : request.Effect settings s (.ok (some tokens)) db') :
    ∃ t, db'.refreshTokens.get t.id = some t ∧ t.revokedAt = none ∧
      settings.hashToken tokens.refreshToken = t.tokenHash := by
  cases h with
  | registered tokens newEmail newUser newToken => exact ⟨_, Table.get_put_self .., rfl, rfl⟩
  | loggedIn stored user active newToken => exact ⟨_, Table.get_put_self .., rfl, rfl⟩
  | refreshed stored user presented unrevoked owner active newToken =>
    exact ⟨_, Table.get_put_self .., rfl, rfl⟩
  | googleLoggedIn session identity stored started action verified linked newToken =>
    exact ⟨_, Table.get_put_self .., rfl, rfl⟩
  | googleRegistered session identity username started action verified unlinked newEmail newUser
      newAccount newToken =>
    exact ⟨_, Table.get_put_self .., rfl, rfl⟩

/-- A token that the browser presents has not been revoked. -/
theorem SignedIn.unrevoked (h : SignedIn settings v) {request : BrowserRequest} {raw : String}
    (hcookie : (request.toRequest v.jar).cookie = some raw) {stored : RefreshToken}
    (hstored : v.server.db.tokenBy (settings.hashToken raw) = some stored) :
    stored.revokedAt = none := by
  obtain ⟨c, hc, hname, rfl⟩ := BrowserRequest.mem_jar hcookie
  obtain ⟨t, ⟨hget, hunrevoked⟩, hhash⟩ := h c hc hname
  rw [tokenBy_of_get v.server.store.valid hget hhash.symm] at hstored
  cases hstored
  exact hunrevoked

/-- A request that fails leaves the tables as they are, or it has presented a revoked token. -/
theorem Request.Effect.of_error {s : State} {request : Request} {e : ShopError} {db' : Db}
    (h : request.Effect settings s (.error e) db') :
    db' = s.db ∨ ∃ raw stored, request.cookie = some raw ∧
      s.db.tokenBy (settings.hashToken raw) = some stored ∧ stored.revokedAt.isSome := by
  cases h with
  | failed => exact Or.inl rfl
  | reused stored presented revoked => exact Or.inr ⟨_, stored, rfl, presented, revoked⟩

/-- What ends a session without an answer of tokens, while the jar is kept, is a reset. -/
theorem Loses.of_ends {request : BrowserRequest} {arrival : Arrival} {t : RefreshToken}
    (h : SignedIn settings v) (hheld : v.jar.Holds settings t)
    (hanswer : ((request.toRequest v.jar).serve settings v.server).1 = .ok none)
    (hkept : (request.toRequest v.jar).clearsCookies = false)
    (hends : Ends settings t v.server (request.toRequest v.jar)) :
    Loses settings v (.answered request arrival) := by
  generalize hrequest : request.toRequest v.jar = r at hanswer hkept hends
  cases hends with
  | refreshed raw client now draw tokens presented answer =>
    rw [answer] at hanswer
    cases hanswer
  | loggedOut => cases hkept
  | reused raw client now draw stored presented revoked family =>
    rw [h.unrevoked (congrArg Request.cookie hrequest) presented] at revoked
    cases revoked
  | passwordChanged => cases hkept
  | passwordReset token newPassword salt clock record presented owner answer =>
    cases request with
    | refresh => cases hrequest
    | logout => cases hrequest
    | other request noCookie =>
      cases hrequest
      exact .reset hheld (.passwordReset token newPassword salt clock record presented owner answer)

/-- An answer without tokens leaves the sessions of the browser as they are, or clears its jar. -/
theorem SignedIn.answered (hpath : v.jar.OnePath) (h : SignedIn settings v)
    {request : BrowserRequest} {arrival : Arrival} {answer : Except ShopError Answer}
    (hnot : ¬ Loses settings v (.answered request arrival))
    (hanswer : ((request.toRequest v.jar).serve settings v.server).1 = answer)
    (htokens : ∀ tokens, answer ≠ .ok (some tokens)) :
    SignedIn settings ⟨((request.toRequest v.jar).serve settings v.server).2,
      v.jar.answered settings arrival (request.toRequest v.jar) answer⟩ := by
  have heffect : (request.toRequest v.jar).Effect settings v.server _ _ :=
    (request.toRequest v.jar).effect
  rw [hanswer] at heffect
  intro c hc hname
  cases answer with
  | error e =>
    obtain ⟨t, ⟨hget, hunrevoked⟩, hhash⟩ := h c hc hname
    refine ⟨t, ⟨?_, hunrevoked⟩, hhash⟩
    rcases heffect.of_error with hsame | ⟨raw, stored, hcookie, hstored, hrevoked⟩
    · rw [hsame]
      exact hget
    · rw [h.unrevoked hcookie hstored] at hrevoked
      cases hrevoked
  | ok shown =>
    cases shown with
    | some tokens => exact absurd rfl (htokens tokens)
    | none =>
      by_cases hclears : (request.toRequest v.jar).clearsCookies = true
      · rw [Jar.answered, if_pos hclears] at hc
        exact absurd hname (Jar.name_ne_of_clearAuthCookies hpath hc)
      · rw [Jar.answered, if_neg hclears] at hc
        obtain ⟨t, ⟨hget, hunrevoked⟩, hhash⟩ := h c hc hname
        refine ⟨t, ⟨heffect.keepsToken hanswer hget fun hends => ?_, hunrevoked⟩, hhash⟩
        exact hnot (.of_ends h ⟨c, hc, hname, hhash⟩ hanswer (Bool.eq_false_iff.mpr hclears) hends)

/-- An answer with tokens brings the token of a session that lives. -/
theorem signedIn_of_tokens (hpath : v.jar.OnePath) (arrival : Arrival) {request : BrowserRequest}
    {tokens : TokenPair}
    (hanswer : ((request.toRequest v.jar).serve settings v.server).1 = .ok (some tokens)) :
    SignedIn settings ⟨((request.toRequest v.jar).serve settings v.server).2,
      setAuthCookies settings arrival tokens.refreshToken v.jar⟩ := by
  have heffect : (request.toRequest v.jar).Effect settings v.server _ _ :=
    (request.toRequest v.jar).effect
  rw [hanswer] at heffect
  obtain ⟨t, hget, hunrevoked, hhash⟩ := heffect.live
  intro c hc hname
  obtain ⟨hvalue, -⟩ := Jar.mem_setAuthCookies hpath hc hname
  exact ⟨t, ⟨hget, hunrevoked⟩, hvalue ▸ hhash⟩

/-- What the browser does not hear of leaves its sessions as they are, unless it ends one. -/
theorem SignedIn.served (h : SignedIn settings v) {request : Request}
    (hnot : ∀ t, v.jar.Holds settings t → ¬ Ends settings t v.server request) :
    SignedIn settings ⟨(request.serve settings v.server).2, v.jar⟩ := by
  intro c hc hname
  obtain ⟨t, ⟨hget, hunrevoked⟩, hhash⟩ := h c hc hname
  have hkept := request.effect.keepsToken rfl hget (hnot t ⟨c, hc, hname, hhash⟩)
  exact ⟨t, ⟨hkept, hunrevoked⟩, hhash⟩

theorem SignedIn.step {event : VisitEvent} (hpath : v.jar.OnePath)
    (hstep : event.step settings v = .ok v')
    (h : Receives settings v event ∨ SignedIn settings v ∧ ¬ Loses settings v event) :
    SignedIn settings v' := by
  cases event with
  | answered request arrival =>
    cases hstep
    by_cases hreceives : Receives settings v (.answered request arrival)
    · obtain ⟨tokens, hanswer⟩ := hreceives
      have hjar : v.jar.answered settings arrival (request.toRequest v.jar)
          ((request.toRequest v.jar).serve settings v.server).1 =
          setAuthCookies settings arrival tokens.refreshToken v.jar := by
        rw [hanswer]
        rfl
      have hsignedIn := signedIn_of_tokens hpath arrival hanswer
      rw [← hjar] at hsignedIn
      exact hsignedIn
    · obtain ⟨hold, hnot⟩ := h.resolve_left hreceives
      exact hold.answered hpath hnot rfl fun tokens hanswer => hreceives ⟨tokens, hanswer⟩
  | unanswered request =>
    cases hstep
    obtain ⟨hold, hnot⟩ := h.resolve_left id
    exact hold.served fun t hheld hends => hnot (.unanswered hheld hends)
  | elsewhere request =>
    cases hstep
    obtain ⟨hold, hnot⟩ := h.resolve_left id
    exact hold.served fun t hheld hends => hnot (.elsewhere hheld hends)

/-! ## Every run -/

/-- The address of `POST /auth/refresh`. -/
def refreshAddress : String := "/api/v1/auth/refresh"

/-- From the first visit on, and whatever the browser and others request in between: the refresh
    token that the browser would send is good for a refresh until it expires, as long as its user
    is there and active, or a session of the browser was ended behind its back and it has not been
    answered with tokens since. -/
theorem session_lost_behind_its_back {s₀ : State} {events : List VisitEvent}
    (hrun : Run (VisitEvent.step settings) anyStep ⟨s₀, []⟩ events v) :
    (∀ client now draw raw, v.jar.sent refreshAddress now refreshTokenCookie = some raw →
      raw ≠ "" → ∃ t, Live t v.server ∧ settings.hashToken raw = t.tokenHash ∧
        ∀ user, now ≤ t.expiresAt → v.server.db.users.get t.userId = some user →
          user.isActive = true → draw.Fresh settings v.server.db client →
          (((BrowserRequest.refresh client now draw).toRequest v.jar).serve settings
            v.server).1 = .ok (some (tokenPair settings user draw))) ∨
    Since (VisitEvent.step settings) anyStep ⟨s₀, []⟩ (Loses settings) (Receives settings)
      events v := by
  have hpaths : ∀ {events v}, Run (VisitEvent.step settings) anyStep ⟨s₀, []⟩ events v →
      v.jar.OnePath := by
    intro events v hrun
    refine hrun.invariant (fun v => v.jar.OnePath) ?_ ?_
    · exact List.forall_mem_nil _
    · intro event v v' hpath allowed hstep
      exact onePath_step hpath hstep
  have hstart : SignedIn settings ⟨s₀, []⟩ := List.forall_mem_nil _
  have hlater := hrun.holds_or_since (SignedIn settings) (Loses settings) (Receives settings) hstart
    fun events v event v' hbefore hstep h => SignedIn.step (hpaths hbefore) hstep h
  rcases hlater with hsignedIn | hlost
  · left
    intro client now draw raw hsent hraw
    have hcookie : ((BrowserRequest.refresh client now draw).toRequest v.jar).cookie = some raw :=
      hsent
    obtain ⟨c, hc, hname, hvalue⟩ := BrowserRequest.mem_jar hcookie
    obtain ⟨t, ⟨hget, hunrevoked⟩, hhash⟩ := hsignedIn c hc hname
    rw [hvalue] at hhash
    refine ⟨t, ⟨hget, hunrevoked⟩, hhash, fun user hexpires huser hactive hfresh => ?_⟩
    obtain ⟨s', hserve, -⟩ :=
      serve_refresh_of_unrevoked hraw hhash hget hunrevoked hexpires huser hactive hfresh
    have hrequest : (BrowserRequest.refresh client now draw).toRequest v.jar =
        .refresh (some raw) client now draw := by
      rw [BrowserRequest.toRequest, ← hsent]
      rfl
    rw [hrequest, hserve]
  · exact Or.inr hlost

/-- A customer who has no session yet. -/
def noSession : State where
  store :=
    { db := { Db.empty with
        users := (∅ : Table Account.id).put (localAccount 1 "sara" .customer) }
      valid := by decide }
  oauth := ∅

/-- A login, somebody else's try with a wrong password, and a refresh. -/
def visit : List VisitEvent :=
  [.answered (.other (.login "sara@shop.ir" "sara" noClient 6 8 ⟨"first", 1, 6, 0, 6⟩) rfl)
      ⟨"access", "csrf", 6⟩,
    .elsewhere (.login "sara@shop.ir" "wrong" noClient 7 9 ⟨"second", 2, 7, 0, 7⟩),
    .answered (.refresh noClient 8 ⟨"third", 3, 8, 0, 8⟩) ⟨"access", "csrf", 8⟩]

theorem visit_loses_nothing {v : Visit} : ¬ Since (VisitEvent.step plainSettings) anyStep
    ⟨noSession, []⟩ (Loses plainSettings) (Receives plainSettings) visit v := by
  intro h
  obtain ⟨event, hmem, -, v', hloses⟩ := h.earlier.exists_mem
  simp only [visit, List.mem_cons, List.not_mem_nil, or_false] at hmem
  rcases hmem with rfl | rfl | rfl
  · cases hloses
  · cases hloses with
    | elsewhere held ended => cases ended
  · cases hloses

/-- The token that the browser would send next is good. -/
theorem session_lost_behind_its_back_visit : ∃ v t,
    Run (VisitEvent.step plainSettings) anyStep ⟨noSession, []⟩ visit v ∧
    v.jar.sent refreshAddress 9 refreshTokenCookie = some "third" ∧
    Live t v.server ∧ plainSettings.hashToken "third" = t.tokenHash ∧
    ∀ user, 9 ≤ t.expiresAt → v.server.db.users.get t.userId = some user →
      user.isActive = true → nextDraw.Fresh plainSettings v.server.db noClient →
      (((BrowserRequest.refresh noClient 9 nextDraw).toRequest v.jar).serve plainSettings
        v.server).1 = .ok (some (tokenPair plainSettings user nextDraw)) := by
  have hrun : ∃ v, Run (VisitEvent.step plainSettings) anyStep ⟨noSession, []⟩ visit v ∧
      v.jar.sent refreshAddress 9 refreshTokenCookie = some "third" :=
    Run.exists_of_execAll (by decide +kernel)
  obtain ⟨v, hrun, hsent⟩ := hrun
  have hgood := (session_lost_behind_its_back hrun).resolve_right visit_loses_nothing
  obtain ⟨t, hlive, hhash, haccepted⟩ := hgood noClient 9 nextDraw "third" hsent (by decide)
  exact ⟨v, t, hrun, hsent, hlive, hhash, haccepted⟩

end Accounts

end ElectronicShop
