import ElectronicShop.Execution.AuthApi
import ElectronicShop.Txn.Since

/-!
# How long a session lives

A session is its last refresh token. `Ends` lists what can end it: the token itself is presented,
a token of its family is presented a second time, or the password of its user is changed. Until
then the token can be exchanged for the next one, which starts a life of its own.
-/

namespace ElectronicShop

namespace Accounts

open Txn

variable {settings : Settings} {s : State} {request : Request} {requests : List Request}
  {t : RefreshToken}

/-! ## What ends a session -/

/-- The request ends the session of the token. -/
inductive Ends (settings : Settings) (t : RefreshToken) (s : State) : Request → Prop where
  | refreshed (raw : String) (client : ClientMeta) (now : DateTime) (draw : Draw)
      (tokens : TokenPair) (presented : settings.hashToken raw = t.tokenHash)
      (answer : ((Request.refresh (some raw) client now draw).serve settings s).1 =
        .ok (some tokens)) :
      Ends settings t s (.refresh (some raw) client now draw)
  | loggedOut (raw : String) (now : DateTime) (presented : settings.hashToken raw = t.tokenHash) :
      Ends settings t s (.logout (some raw) now)
  | reused (raw : String) (client : ClientMeta) (now : DateTime) (draw : Draw)
      (stored : RefreshToken) (presented : s.db.tokenBy (settings.hashToken raw) = some stored)
      (revoked : stored.revokedAt.isSome) (family : stored.familyId = t.familyId) :
      Ends settings t s (.refresh (some raw) client now draw)
  | passwordChanged (currentPassword newPassword : String) (salt : Nat) (now : DateTime)
      (answer : ((Request.changePassword t.userId currentPassword newPassword salt now).serve
        settings s).1 = .ok none) :
      Ends settings t s (.changePassword t.userId currentPassword newPassword salt now)
  | passwordReset (token newPassword : String) (salt : Nat) (clock : AuthService.ConfirmClock)
      (record : PasswordResetToken)
      (presented : s.db.resetBy (settings.hashToken token) = some record)
      (owner : record.userId = t.userId)
      (answer : ((Request.confirmPasswordReset token newPassword salt clock).serve settings s).1 =
        .ok none) :
      Ends settings t s (.confirmPasswordReset token newPassword salt clock)

/-- The token that a lookup by its hash has found. -/
theorem tokenHash_of_tokenBy {db : Db} {tokenHash : String} (h : db.tokenBy tokenHash = some t) :
    t.tokenHash = tokenHash := by
  simpa using List.find?_some h

theorem get_put_new {tokens : Table RefreshToken.id} {new : RefreshToken}
    (hlive : tokens.get t.id = some t) (hfresh : tokens.get new.id = none) :
    (tokens.put new).get t.id = some t := by
  rw [Table.get_put_of_ne]
  · exact hlive
  · intro hid
    rw [← hid, hlive] at hfresh
    cases hfresh

theorem get_put_other {tokens : Table RefreshToken.id} {stored row : RefreshToken}
    (hlive : tokens.get t.id = some t) (hstored : tokens.get stored.id = some stored)
    (hid : row.id = stored.id) (hne : stored ≠ t) : (tokens.put row).get t.id = some t := by
  rw [Table.get_put_of_ne]
  · exact hlive
  · intro hsame
    rw [hid] at hsame
    rw [hsame, hstored] at hlive
    exact hne (Option.some.inj hlive)

theorem get_revoke {db : Db} (set : TokenSet) (time : DateTime)
    (hlive : db.refreshTokens.get t.id = some t) (hnot : set.has t = false) :
    (db.revoke set time).refreshTokens.get t.id = some t := by
  have hsame : t.revoke set time = t := by
    unfold RefreshToken.revoke
    rw [if_neg]
    rintro ⟨hset, -⟩
    rw [hnot] at hset
    cases hset
  rw [Db.revoke, Table.get_map, hlive, Option.map_some, hsame]

/-- A request that does not end the session leaves its token as it is. -/
theorem Request.Effect.keepsToken {answer : Except ShopError Answer} {db' : Db}
    (h : request.Effect settings s answer db') (hanswer : (request.serve settings s).1 = answer)
    (hlive : s.db.refreshTokens.get t.id = some t) (hnot : ¬ Ends settings t s request) :
    db'.refreshTokens.get t.id = some t := by
  cases h
  case registered tokens newEmail newUser newToken => exact get_put_new hlive newToken
  case loggedIn stored user active newToken => exact get_put_new hlive newToken
  case googleLoggedIn session identity stored started action verified linked newToken =>
    exact get_put_new hlive newToken
  case googleRegistered session identity username started action verified unlinked newEmail newUser
      newAccount newToken => exact get_put_new hlive newToken
  case refreshed raw client now draw stored user presented unrevoked owner active newToken =>
    have hne : stored ≠ t := by
      rintro rfl
      exact hnot (.refreshed raw client now draw _ (tokenHash_of_tokenBy presented).symm hanswer)
    have hstored := get_of_tokenBy presented
    exact get_put_new (get_put_other hlive hstored rfl hne) (Table.get_put_eq_none hstored newToken)
  case reused raw client now draw stored presented revoked =>
    refine get_revoke _ _ hlive ?_
    have hne : t.familyId ≠ stored.familyId := fun hfamily =>
      hnot (.reused raw client now draw stored presented revoked hfamily.symm)
    simpa [TokenSet.has] using hne
  case loggedOut raw now stored presented unrevoked =>
    refine get_put_other hlive (get_of_tokenBy presented) rfl ?_
    rintro rfl
    exact hnot (.loggedOut raw now (tokenHash_of_tokenBy presented).symm)
  case passwordChanged subject currentPassword newPassword salt now user caller =>
    refine get_revoke _ _ hlive ?_
    have hid : user.id = subject := Table.key_of_get caller
    have hne : t.userId ≠ user.id := by
      intro howner
      have hsubject : t.userId = subject := howner.trans hid
      subst hsubject
      exact hnot (.passwordChanged currentPassword newPassword salt now hanswer)
    simpa [TokenSet.has] using hne
  case passwordReset token newPassword salt clock record user presented unused owner =>
    refine get_revoke _ _ hlive ?_
    have hid : user.id = record.userId := Table.key_of_get owner
    have hne : t.userId ≠ user.id := fun howner =>
      hnot (.passwordReset token newPassword salt clock record presented (howner.trans hid).symm
        hanswer)
    simpa [TokenSet.has] using hne
  case userUpdated actor user effect =>
    obtain ⟨logs, rfl⟩ := effect.result
    exact hlive
  -- the others leave the tokens as they are
  all_goals exact hlive

/-! ## Exchanging the token -/

/-- What a pair of tokens takes from the random generators is new, and fits its columns. -/
structure Draw.Fresh (settings : Settings) (db : Db) (client : ClientMeta) (draw : Draw) :
    Prop where
  id : db.refreshTokens.get draw.id = none
  tokenHash : ∀ t ∈ db.refreshTokens.rows, t.tokenHash ≠ settings.hashToken draw.rawToken
  fitsHash : fitsVarchar 255 (settings.hashToken draw.rawToken)
  fitsAgent : ∀ a ∈ storedUserAgent client.userAgent, fitsVarchar 500 a
  fitsAddress : ∀ a ∈ client.ipAddress, fitsVarchar 64 a

/-- The tokens after `stored` was exchanged. -/
def Db.rotated (db : Db) (settings : Settings) (stored : RefreshToken) (user : Account)
    (client : ClientMeta) (now : DateTime) (draw : Draw) : Db :=
  Db.startSession { db with refreshTokens := db.refreshTokens.put (stored.replaced now draw.id) }
    settings user client stored.familyId draw

section Exchange

variable {db : Db} {stored new : RefreshToken} {user : Account} {client : ClientMeta}
  {now : DateTime} {draw : Draw}

theorem constraints_replaced (h : db.Constraints)
    (hstored : db.refreshTokens.get stored.id = some stored) (newId : Uuid) :
    Db.Constraints
      { db with refreshTokens := db.refreshTokens.put (stored.replaced now newId) } := by
  let replace : RefreshToken → RefreshToken :=
    fun t => { t with revokedAt := some now, replacedById := some newId }
  have hages : Ages replace := (ages_setRevokedAt now).comp (ages_setReplacedById newId)
  have hput : db.refreshTokens.put (stored.replaced now newId) =
      db.refreshTokens.map _ (ages_one hages stored.id).id :=
    (Table.modify_of_get replace hstored).symm.trans
      (Table.modify_eq_map _ stored.id replace hages.id)
  rw [hput]
  exact h.ages (ages_one hages stored.id)

theorem constraints_issued (h : db.Constraints) (hfits : new.fits)
    (hfresh : db.refreshTokens.get new.id = none)
    (hhash : ∀ t ∈ db.refreshTokens.rows, t.tokenHash ≠ new.tokenHash) :
    Db.Constraints { db with refreshTokens := db.refreshTokens.put new } := by
  obtain ⟨⟨husers, haccounts, htokens, hresets, hverifications, hlogs⟩, hemails, husernames,
    hsubjects, hhashes, hresetHashes, hverificationHashes⟩ := h
  refine ⟨⟨husers, haccounts, ?_, hresets, hverifications, hlogs⟩, hemails, husernames, hsubjects,
    ?_, hresetHashes, hverificationHashes⟩
  · intro t ht
    rcases Table.mem_put ht with rfl | ⟨hold, -⟩
    · exact hfits
    · exact htokens t hold
  · change ((db.refreshTokens.put new).rows.map RefreshToken.tokenHash).Nodup
    rw [Table.rows_put_of_fresh hfresh, List.map_append]
    refine hhashes.append (List.nodup_singleton _) ?_
    intro tokenHash hold hnew
    obtain ⟨t, ht, rfl⟩ := List.mem_map.mp hold
    exact hhash t ht (List.mem_singleton.mp hnew)

theorem constraints_rotated (h : db.Constraints)
    (hstored : db.refreshTokens.get stored.id = some stored)
    (hfresh : draw.Fresh settings db client) :
    (db.rotated settings stored user client now draw).Constraints := by
  refine constraints_issued (constraints_replaced h hstored draw.id) ?_ ?_ ?_
  · exact ⟨hfresh.fitsHash, hfresh.fitsAgent, hfresh.fitsAddress⟩
  · exact Table.get_put_eq_none hstored hfresh.id
  · intro t ht
    rcases Table.mem_put ht with rfl | ⟨hold, -⟩
    · exact hfresh.tokenHash stored (Table.mem_of_get hstored)
    · exact hfresh.tokenHash t hold

theorem run_rotate_of_active (hstored : db.refreshTokens.get stored.id = some stored)
    (hexpires : now ≤ stored.expiresAt) (huser : db.users.get stored.userId = some user)
    (hactive : user.isActive = true) (hfresh : db.refreshTokens.get draw.id = none) :
    (AuthService.rotate settings stored client now draw).run Stmt.exec db =
      .ok ((createAccessToken settings user.id user.role draw, draw.rawToken, user),
        db.rotated settings stored user client now draw) := by
  have hrevoked : Table.get (db.refreshTokens.modify stored.id
      fun t => { t with revokedAt := some now }) draw.id = none := by
    have hsome := Table.isSome_get_modify db.refreshTokens stored.id
      (fun t : RefreshToken => { t with revokedAt := some now }) (fun _ => rfl) draw.id
    rw [hfresh] at hsome
    exact Option.not_isSome_iff_eq_none.mp (by rw [hsome]; exact Bool.false_ne_true)
  refine Prog.run_if_raise_ok.mpr ⟨Int.not_lt.mpr hexpires, run_send_bind.mpr ?_⟩
  refine (Prog.run_orRaise_bind.mpr
    ⟨user, huser, Prog.run_if_raise_ok.mpr ⟨by simp [hactive], run_send_bind.mpr ?_⟩⟩)
  refine (Prog.run_bind_of_ok (run_issueRefreshToken.mpr ⟨hrevoked, rfl, rfl⟩)).trans ?_
  refine congrArg (fun tokens => Except.ok (_, { db with refreshTokens := tokens })) ?_
  exact Table.modify_put_modify (fun _ => rfl) (fun _ => rfl) hstored hfresh

theorem tokenBy_of_get {tokenHash : String} (h : db.Constraints)
    (hget : db.refreshTokens.get stored.id = some stored) (hhash : stored.tokenHash = tokenHash) :
    db.tokenBy tokenHash = some stored := by
  have hmem := Table.mem_of_get hget
  cases hfound : db.tokenBy tokenHash with
  | none =>
    have hnone := List.find?_eq_none.mp hfound stored hmem
    simp [hhash] at hnone
  | some t =>
    have hsame : t.tokenHash = stored.tokenHash := (tokenHash_of_tokenBy hfound).trans hhash.symm
    rw [List.inj_on_of_nodup_map h.refreshHashes (List.mem_of_find?_eq_some hfound) hmem hsame]

theorem serve_refresh_of_unrevoked {raw : String} (hraw : raw ≠ "")
    (hhash : settings.hashToken raw = stored.tokenHash)
    (hget : s.db.refreshTokens.get stored.id = some stored) (hunrevoked : stored.revokedAt = none)
    (hexpires : now ≤ stored.expiresAt) (huser : s.db.users.get stored.userId = some user)
    (hactive : user.isActive = true) (hfresh : draw.Fresh settings s.db client) :
    ∃ s', (Request.refresh (some raw) client now draw).serve settings s =
        (.ok (some (tokenPair settings user draw)), s') ∧
      s'.db = s.db.rotated settings stored user client now draw := by
  have hstored := tokenBy_of_get s.store.valid hget hhash.symm
  have hrotate : (AuthService.rotateRefreshToken settings raw client now draw).run Stmt.exec s.db =
      .ok (.ok (createAccessToken settings user.id user.role draw, draw.rawToken, user),
        s.db.rotated settings stored user client now draw) := by
    refine run_send_bind.mpr (Prog.run_orRaise_bind.mpr ⟨stored, hstored, ?_⟩)
    rw [if_neg (by simp [hunrevoked])]
    exact Prog.run_bind_of_ok (run_rotate_of_active hget hexpires huser hactive hfresh.id)
  have hrun : (refresh settings (some raw) client now draw).run Stmt.exec s.db =
      .ok (.ok (tokenPair settings user draw),
        s.db.rotated settings stored user client now draw) :=
    Prog.run_orRaise_bind.mpr ⟨raw, by simp [hraw], Prog.run_bind_of_ok hrotate⟩
  have htransact : s.store.transact (refresh settings (some raw) client now draw) =
      .ok (.ok (tokenPair settings user draw), ⟨s.db.rotated settings stored user client now draw,
        constraints_rotated s.store.valid hget hfresh⟩) :=
    Store.transact_ok.mpr hrun
  simp only [Request.serve, State.transact, htransact]
  exact ⟨_, rfl, rfl⟩

end Exchange

/-! ## Every run -/

/-- The token is unrevoked and in the table. -/
def Live (t : RefreshToken) (s : State) : Prop :=
  s.db.refreshTokens.get t.id = some t ∧ t.revokedAt = none

/-- From any state in which a session lives, and whatever is requested then, one of the requests
    has ended the session, or its token is good for a refresh until it expires, as long as its
    user is there and active. The token that the refresh is answered with is that of a session
    which lives. -/
theorem session_lives_until_ended {s₀ : State}
    (hrun : Run (Request.step settings) anyStep s₀ requests s) (hlive : Live t s₀) :
    Run.Earlier (Request.step settings) anyStep s₀ (fun _ s request => Ends settings t s request)
      requests ∨
    ∀ raw client now draw user, raw ≠ "" → settings.hashToken raw = t.tokenHash →
      now ≤ t.expiresAt → s.db.users.get t.userId = some user → user.isActive = true →
      draw.Fresh settings s.db client →
      ∃ s', (Request.refresh (some raw) client now draw).serve settings s =
          (.ok (some (tokenPair settings user draw)), s') ∧
        Live (AuthService.newRefreshToken settings user t.familyId client draw) s' := by
  obtain ⟨hstart, hunrevoked⟩ := hlive
  have hlater := hrun.holds_or_earlier (fun s => s.db.refreshTokens.get t.id = some t)
    (Ends settings t) hstart fun s request s' hstep hget hnot => by
      cases hstep
      exact request.effect.keepsToken rfl hget hnot
  rcases hlater with hget | hended
  · right
    intro raw client now draw user hraw hhash hexpires huser hactive hfresh
    obtain ⟨s', hserve, hdb⟩ :=
      serve_refresh_of_unrevoked hraw hhash hget hunrevoked hexpires huser hactive hfresh
    refine ⟨s', hserve, ?_, rfl⟩
    rw [hdb]
    exact Table.get_put_self ..
  · exact Or.inl hended

/-- The token of a customer who is logged in. -/
def saraToken : RefreshToken := ⟨1, 1, "first", 7, none, none, 100, 0, none, none⟩

def loggedIn : State where
  store :=
    { db := { Db.empty with
        users := (∅ : Table Account.id).put (localAccount 1 "sara" .customer)
        refreshTokens := (∅ : Table RefreshToken.id).put saraToken }
      valid := by decide }
  oauth := ∅

/-- A login with a wrong password, a logout with a token that nobody has, and a login of the
    customer elsewhere. -/
def attempts : List Request :=
  [.login "sara@shop.ir" "wrong" noClient 6 8 ⟨"second", 2, 6, 0, 6⟩,
    .logout (some "guess") 7,
    .login "sara@shop.ir" "sara" noClient 8 9 ⟨"third", 3, 8, 0, 8⟩]

def nextDraw : Draw := ⟨"fourth", 4, 50, 0, 50⟩

theorem attempts_end_nothing : ¬ Run.Earlier (Request.step plainSettings) anyStep loggedIn
    (fun _ s request => Ends plainSettings saraToken s request) attempts := by
  intro h
  obtain ⟨request, hmem, -, s, hends⟩ := h.exists_mem
  simp only [attempts, List.mem_cons, List.not_mem_nil, or_false] at hmem
  rcases hmem with rfl | rfl | rfl
  · cases hends
  · cases hends with
    | loggedOut raw now presented => exact absurd presented (by decide)
  · cases hends

/-- After them a refresh with her token is accepted. -/
theorem session_lives_until_ended_attempts : ∃ s user s',
    Run (Request.step plainSettings) anyStep loggedIn attempts s ∧
    (Request.refresh (some "first") noClient 50 nextDraw).serve plainSettings s =
      (.ok (some (tokenPair plainSettings user nextDraw)), s') ∧
    Live (AuthService.newRefreshToken plainSettings user 7 noClient nextDraw) s' := by
  have hrun : ∃ s, Run (Request.step plainSettings) anyStep loggedIn attempts s ∧
      (∃ user, s.db.users.get 1 = some user ∧ user.isActive = true) ∧
      s.db.refreshTokens.get 4 = none ∧
      ∀ t ∈ s.db.refreshTokens.rows, t.tokenHash ≠ "fourth" :=
    Run.exists_of_execAll (by decide +kernel)
  obtain ⟨s, hrun, ⟨user, huser, hactive⟩, hid, hhash⟩ := hrun
  have hfresh : nextDraw.Fresh plainSettings s.db noClient :=
    ⟨hid, hhash, by decide, by rintro _ ⟨⟩, by rintro _ ⟨⟩⟩
  have haccepted := (session_lives_until_ended hrun ⟨rfl, rfl⟩).resolve_left attempts_end_nothing
  obtain ⟨s', hserve, hlive⟩ := haccepted "first" noClient 50 nextDraw user (by decide) rfl
    (by decide) huser hactive hfresh
  exact ⟨s, user, s', hrun, hserve, hlive⟩

end Accounts

end ElectronicShop
