import ElectronicShop.Execution.Accounts

/-!
# What the session services do

For each service of `app/modules/auth/service.py` that runs alone: what it has checked when
it succeeds, and the tables it leaves.
-/

namespace ElectronicShop

namespace Accounts

open Txn

/-! ## Updates of tokens -/

/-- An update of tokens that leaves each its identity, and revoked if it was. -/
structure Ages (f : RefreshToken → RefreshToken) : Prop where
  id : ∀ t, (f t).id = t.id
  userId : ∀ t, (f t).userId = t.userId
  tokenHash : ∀ t, (f t).tokenHash = t.tokenHash
  familyId : ∀ t, (f t).familyId = t.familyId
  revokedAt : ∀ t, t.revokedAt.isSome → (f t).revokedAt.isSome
  fits : ∀ t : RefreshToken, t.fits → (f t).fits

theorem ages_none : Ages fun t => t :=
  ⟨fun _ => rfl, fun _ => rfl, fun _ => rfl, fun _ => rfl, fun _ h => h, fun _ h => h⟩

theorem Ages.comp {f g : RefreshToken → RefreshToken} (hf : Ages f) (hg : Ages g) :
    Ages fun t => g (f t) where
  id t := (hg.id _).trans (hf.id t)
  userId t := (hg.userId _).trans (hf.userId t)
  tokenHash t := (hg.tokenHash _).trans (hf.tokenHash t)
  familyId t := (hg.familyId _).trans (hf.familyId t)
  revokedAt t h := hg.revokedAt _ (hf.revokedAt t h)
  fits t h := hg.fits _ (hf.fits t h)

/-- An update of the tokens with one id. -/
theorem ages_one {g : RefreshToken → RefreshToken} (hg : Ages g) (id : Uuid) :
    Ages fun t => if t.id = id then g t else t := by
  constructor <;> intro t
  · split
    · exact hg.id t
    · rfl
  · split
    · exact hg.userId t
    · rfl
  · split
    · exact hg.tokenHash t
    · rfl
  · split
    · exact hg.familyId t
    · rfl
  · intro h
    split
    · exact hg.revokedAt t h
    · exact h
  · intro h
    split
    · exact hg.fits t h
    · exact h

theorem ages_setRevokedAt (time : DateTime) :
    Ages fun t => { t with revokedAt := some time } :=
  ⟨fun _ => rfl, fun _ => rfl, fun _ => rfl, fun _ => rfl, fun _ _ => rfl, fun _ h => h⟩

theorem ages_setReplacedById (newId : Uuid) :
    Ages fun t => { t with replacedById := some newId } :=
  ⟨fun _ => rfl, fun _ => rfl, fun _ => rfl, fun _ => rfl, fun _ h => h, fun _ h => h⟩

/-- An update of the tokens violates no constraint. -/
theorem Db.Constraints.ages {db : Db} (h : db.Constraints) {f : RefreshToken → RefreshToken} (hf : Ages f) :
    Db.Constraints { db with refreshTokens := db.refreshTokens.map f hf.id } := by
  obtain ⟨⟨husers, haccounts, htokens, hresets, hverifications, hlogs⟩, hemails, husernames,
    hsubjects, hhashes, hresetHashes, hverificationHashes⟩ := h
  refine ⟨⟨husers, haccounts, ?_, hresets, hverifications, hlogs⟩, hemails, husernames, hsubjects,
    ?_, hresetHashes, hverificationHashes⟩
  · intro t ht
    obtain ⟨t', ht', rfl⟩ := List.mem_map.mp ht
    exact hf.fits t' (htokens t' ht')
  · have hsame : (db.refreshTokens.map f hf.id).rows.map RefreshToken.tokenHash =
        db.refreshTokens.rows.map RefreshToken.tokenHash := by
      rw [Table.rows_map, List.map_map]
      exact List.map_congr_left fun t _ => hf.tokenHash t
    change ((db.refreshTokens.map f hf.id).rows.map RefreshToken.tokenHash).Nodup
    rw [hsame]
    exact hhashes

/-! ## Revoking many tokens -/

/-- What `revoke_family` and `revoke_all_for_user` make of a row. -/
def RefreshToken.revoke (set : TokenSet) (time : DateTime) (t : RefreshToken) : RefreshToken :=
  if set.has t ∧ t.revokedAt = none then { t with revokedAt := some time } else t

namespace RefreshToken

variable {set : TokenSet} {time : DateTime} {t : RefreshToken}

@[simp] theorem id_revoke : (t.revoke set time).id = t.id := by
  unfold revoke
  split <;> rfl

@[simp] theorem userId_revoke : (t.revoke set time).userId = t.userId := by
  unfold revoke
  split <;> rfl

@[simp] theorem tokenHash_revoke : (t.revoke set time).tokenHash = t.tokenHash := by
  unfold revoke
  split <;> rfl

@[simp] theorem familyId_revoke : (t.revoke set time).familyId = t.familyId := by
  unfold revoke
  split <;> rfl

@[simp] theorem replacedById_revoke : (t.revoke set time).replacedById = t.replacedById := by
  unfold revoke
  split <;> rfl

theorem isSome_revokedAt_revoke :
    (t.revoke set time).revokedAt.isSome = (t.revokedAt.isSome || set.has t) := by
  unfold revoke
  split
  · rename_i h
    simp [h.1]
  · rename_i h
    cases hrevoked : t.revokedAt with
    | some time => rfl
    | none =>
      have hset : set.has t = false := by
        by_contra htrue
        exact h ⟨by simpa using htrue, hrevoked⟩
      rw [hset]
      rfl

theorem fits_revoke (h : t.fits) : (t.revoke set time).fits := by
  unfold revoke
  split
  · exact h
  · exact h

end RefreshToken

theorem ages_revoke (set : TokenSet) (time : DateTime) : Ages (RefreshToken.revoke set time) where
  id _ := RefreshToken.id_revoke
  userId _ := RefreshToken.userId_revoke
  tokenHash _ := RefreshToken.tokenHash_revoke
  familyId _ := RefreshToken.familyId_revoke
  revokedAt t h := by simp [RefreshToken.isSome_revokedAt_revoke, h]
  fits _ h := RefreshToken.fits_revoke h

/-- The database with all tokens of a set revoked. -/
def Db.revoke (db : Db) (set : TokenSet) (time : DateTime) : Db :=
  { db with
    refreshTokens :=
      db.refreshTokens.map (RefreshToken.revoke set time) fun _ => RefreshToken.id_revoke }

/-- It violates no constraint. -/
theorem Db.Constraints.revoke {db : Db} (h : db.Constraints) (set : TokenSet) (time : DateTime) :
    (db.revoke set time).Constraints :=
  h.ages (ages_revoke set time)

variable {db db' : Db} {settings : Settings}

/-- Revoking the tokens of a list, one after another. -/
theorem run_revokeTokens (tokens : List RefreshToken) (time : DateTime) (db : Db) :
    (tokens.forM fun token => write (.setRevokedAt token.id time)).run Stmt.exec db =
      .ok ((), { db with
        refreshTokens := db.refreshTokens.map
          (fun t => if t.id ∈ tokens.map RefreshToken.id then { t with revokedAt := some time } else t)
          fun t => by split <;> rfl }) := by
  induction tokens generalizing db with
  | nil =>
    have hsame : db.refreshTokens.map (fun t =>
        if t.id ∈ ([] : List RefreshToken).map RefreshToken.id then
          { t with revokedAt := some time } else t) (fun t => by split <;> rfl) =
        db.refreshTokens := by
      simp only [List.map_nil, List.not_mem_nil, if_false]
      exact Table.map_id _
    simp only [Prog.forM_nil, Prog.run_done, hsame]
  | cons token rest ih =>
    rw [Prog.forM_cons]
    refine (ih ((Write.setRevokedAt token.id time).apply db)).trans ?_
    refine congrArg (fun tokens => Except.ok ((), { db with refreshTokens := tokens })) ?_
    have hfirst := Table.modify_eq_map db.refreshTokens token.id
      (fun t : RefreshToken => { t with revokedAt := some time }) fun _ => rfl
    change ((db.refreshTokens.modify token.id _).map _ _) = _
    rw [hfirst, Table.map_map]
    refine Table.map_congr fun t _ => ?_
    by_cases htoken : t.id = token.id
    · simp [htoken]
    · by_cases hrest : t.id ∈ rest.map RefreshToken.id
      · simp [htoken, hrest]
      · simp [htoken, hrest]

theorem run_revokeAll (set : TokenSet) (time : DateTime) (db : Db) :
    (AuthService.revokeAll set time).run Stmt.exec db = .ok ((), db.revoke set time) := by
  refine (run_revokeTokens (db.activeTokens set) time db).trans ?_
  refine congrArg (fun tokens => Except.ok ((), { db with refreshTokens := tokens })) ?_
  refine Table.map_congr fun t ht => ?_
  have hactive : t.id ∈ (db.activeTokens set).map RefreshToken.id ↔
      set.has t ∧ t.revokedAt = none := by
    constructor
    · intro hmem
      obtain ⟨t', ht', hid⟩ := List.mem_map.mp hmem
      obtain ⟨hrow, hset⟩ := List.mem_filter.mp ht'
      have hget := Table.get_of_mem hrow
      rw [hid, Table.get_of_mem ht] at hget
      obtain rfl := Option.some.inj hget
      simpa using hset
    · intro hset
      exact List.mem_map_of_mem (List.mem_filter.mpr ⟨ht, by simpa using hset⟩)
  unfold RefreshToken.revoke
  simp only [hactive]

/-! ## Issuing tokens -/

theorem run_issueRefreshToken {user : Account} {familyId : Uuid} {client : ClientMeta}
    {draw : Draw} {r : AccessToken × String × RefreshToken} :
    (AuthService.issueRefreshToken settings user familyId client draw).run Stmt.exec db =
      .ok (r, db') ↔
      db.refreshTokens.get draw.id = none ∧
      r = (createAccessToken settings user.id user.role draw, draw.rawToken,
        AuthService.newRefreshToken settings user familyId client draw) ∧
      db' = { db with
        refreshTokens := db.refreshTokens.put
          (AuthService.newRefreshToken settings user familyId client draw) } := by
  simp only [AuthService.issueRefreshToken, Prog.run_bind_ok, run_insert]
  constructor
  · rintro ⟨_, _, ⟨htaken, rfl⟩, hdone⟩
    cases hdone
    exact ⟨by simpa [NewRow.taken, AuthService.newRefreshToken] using htaken, rfl, rfl⟩
  · rintro ⟨hfree, rfl, rfl⟩
    refine ⟨(), _, ⟨?_, rfl⟩, rfl⟩
    simp [NewRow.taken, AuthService.newRefreshToken, hfree]

theorem run_startSession {user : Account} {familyId : Uuid} {client : ClientMeta} {draw : Draw}
    {pair : TokenPair} :
    (startSession settings user client familyId draw).run Stmt.exec db = .ok (pair, db') ↔
      db.refreshTokens.get draw.id = none ∧
      pair = ⟨createAccessToken settings user.id user.role draw, draw.rawToken, user⟩ ∧
      db' = { db with
        refreshTokens := db.refreshTokens.put
          (AuthService.newRefreshToken settings user familyId client draw) } := by
  simp only [startSession, AuthService.issueTokenPair, Prog.run_bind_ok, run_issueRefreshToken]
  constructor
  · rintro ⟨_, _, ⟨_, _, ⟨hfree, rfl, rfl⟩, hpair⟩, hdone⟩
    cases hpair
    cases hdone
    exact ⟨hfree, rfl, rfl⟩
  · rintro ⟨hfree, rfl, rfl⟩
    exact ⟨_, _, ⟨_, _, ⟨hfree, rfl, rfl⟩, rfl⟩, rfl⟩

/-! ## Local accounts -/

/-- A mailed verification link changes nothing else. -/
theorem run_issueEmailVerification {user : Account} {draw : LinkDraw} {r : Unit}
    (h : (AuthService.issueEmailVerification settings user draw).run Stmt.exec db = .ok (r, db')) :
    ∃ tokens, db' = { db with emailVerificationTokens := tokens } := by
  obtain ⟨-, rfl⟩ := run_insert.mp h
  exact ⟨_, rfl⟩

theorem run_register {data : RegisterRequest} {draw : RegisterDraw} {user : Account}
    (h : (AuthService.register settings data draw).run Stmt.exec db = .ok (user, db')) :
    db.userByEmail (settings.lower data.email) = none ∧ db.users.get draw.userId = none ∧
      user = AuthService.newUser settings data draw ∧
      ∃ tokens, db' = { db with users := db.users.put user, emailVerificationTokens := tokens } := by
  obtain ⟨hfree, husername⟩ := Prog.run_raiseIfSome_bind.mp (run_send_bind.mp h)
  obtain ⟨-, hcreate⟩ := Prog.run_raiseIfSome_bind.mp (run_send_bind.mp husername)
  obtain ⟨_, db₁, hinsert, hmail⟩ := Prog.run_bind_ok.mp hcreate
  obtain ⟨htaken, rfl⟩ := run_insert.mp hinsert
  obtain ⟨_, db₂, hmail, hdone⟩ := Prog.run_bind_ok.mp hmail
  obtain ⟨tokens, rfl⟩ := run_issueEmailVerification hmail
  cases hdone
  refine ⟨hfree, ?_, rfl, tokens, rfl⟩
  exact Option.isSome_eq_false_iff.mp htaken |> Option.isNone_iff_eq_none.mp

theorem run_authenticate {email password : String} {now : DateTime} {user : Account}
    (h : (AuthService.authenticate settings email password now).run Stmt.exec db =
      .ok (user, db')) :
    ∃ stored, db.userByEmail (settings.lower email) = some stored ∧ stored.isActive = true ∧
      user = { stored with lastLogin := some now } ∧
      db' = { db with users := db.users.put user } := by
  obtain ⟨stored, hstored, hchecked⟩ := Prog.run_orRaise_bind.mp (run_send_bind.mp h)
  obtain ⟨-, hpassword⟩ := Prog.run_if_raise_ok.mp hchecked
  obtain ⟨hactive, hdone⟩ := Prog.run_if_raise_ok.mp hpassword
  cases hdone
  have hget : db.users.get stored.id = some stored :=
    Table.get_of_mem (List.mem_of_find?_eq_some hstored)
  refine ⟨stored, hstored, by simpa using hactive, rfl, ?_⟩
  exact congrArg (fun users => { db with users }) (Table.modify_of_get _ hget)

/-! ## Refreshing -/

/-- The token that has been replaced. -/
def RefreshToken.replaced (t : RefreshToken) (now : DateTime) (newId : Uuid) : RefreshToken :=
  { t with revokedAt := some now, replacedById := some newId }

theorem run_rotate {stored : RefreshToken} {client : ClientMeta} {now : DateTime} {draw : Draw}
    {r : AccessToken × String × Account} (hget : db.refreshTokens.get stored.id = some stored)
    (h : (AuthService.rotate settings stored client now draw).run Stmt.exec db = .ok (r, db')) :
    ∃ user, db.users.get stored.userId = some user ∧ user.isActive = true ∧
      db.refreshTokens.get draw.id = none ∧
      r = (createAccessToken settings user.id user.role draw, draw.rawToken, user) ∧
      db' = { db with
        refreshTokens := (db.refreshTokens.put (stored.replaced now draw.id)).put
          (AuthService.newRefreshToken settings user stored.familyId client draw) } := by
  obtain ⟨-, hunexpired⟩ := Prog.run_if_raise_ok.mp h
  obtain ⟨user, huser, hfound⟩ := Prog.run_orRaise_bind.mp (run_send_bind.mp hunexpired)
  obtain ⟨hactive, hrevoke⟩ := Prog.run_if_raise_ok.mp hfound
  obtain ⟨_, db₁, hissue, hreplace⟩ := Prog.run_bind_ok.mp (run_send_bind.mp hrevoke)
  obtain ⟨hfree, rfl, rfl⟩ := run_issueRefreshToken.mp hissue
  cases hreplace
  have hfresh : db.refreshTokens.get draw.id = none := by
    have hsome := Table.isSome_get_modify db.refreshTokens stored.id
      (fun t : RefreshToken => { t with revokedAt := some now }) (fun _ => rfl) draw.id
    rw [← Option.isNone_iff_eq_none, ← Option.isSome_eq_false_iff, ← hsome]
    exact Option.isSome_eq_false_iff.mpr (Option.isNone_iff_eq_none.mpr hfree)
  refine ⟨user, huser, by simpa using hactive, hfresh, rfl, ?_⟩
  refine congrArg (fun tokens => { db with refreshTokens := tokens }) ?_
  exact Table.modify_put_modify (fun _ => rfl) (fun _ => rfl) hget hfresh

theorem get_of_tokenBy {tokenHash : String} {t : RefreshToken} (h : db.tokenBy tokenHash = some t) :
    db.refreshTokens.get t.id = some t :=
  Table.get_of_mem (List.mem_of_find?_eq_some h)

theorem run_rotateRefreshToken {raw : String} {client : ClientMeta} {now : DateTime} {draw : Draw}
    {r : Except ShopError (AccessToken × String × Account)}
    (h : (AuthService.rotateRefreshToken settings raw client now draw).run Stmt.exec db =
      .ok (r, db')) :
    ∃ stored, db.tokenBy (settings.hashToken raw) = some stored ∧
      ((stored.revokedAt.isSome ∧ r = .error AuthService.invalidSession ∧
          db' = db.revoke (.family stored.familyId) now) ∨
        (stored.revokedAt = none ∧ ∃ user, db.users.get stored.userId = some user ∧
          user.isActive = true ∧ db.refreshTokens.get draw.id = none ∧
          r = .ok (createAccessToken settings user.id user.role draw, draw.rawToken, user) ∧
          db' = { db with
            refreshTokens := (db.refreshTokens.put (stored.replaced now draw.id)).put
              (AuthService.newRefreshToken settings user stored.familyId client draw) })) := by
  obtain ⟨stored, hstored, hfound⟩ := Prog.run_orRaise_bind.mp (run_send_bind.mp h)
  refine ⟨stored, hstored, ?_⟩
  split at hfound
  · rename_i hrevoked
    obtain ⟨_, db₁, hrevoke, hdone⟩ := Prog.run_bind_ok.mp hfound
    rw [run_revokeAll] at hrevoke
    cases hrevoke
    cases hdone
    exact Or.inl ⟨hrevoked, rfl, rfl⟩
  · rename_i hactive
    obtain ⟨pair, db₁, hrotate, hdone⟩ := Prog.run_bind_ok.mp hfound
    obtain ⟨user, huser, hisActive, hfresh, rfl, rfl⟩ :=
      run_rotate (get_of_tokenBy hstored) hrotate
    cases hdone
    exact Or.inr ⟨by simpa using hactive, user, huser, hisActive, hfresh, rfl, rfl⟩

/-- A token that is revoked: its family is revoked, and the error raised after that. -/
theorem run_rotateRefreshToken_of_revoked {raw : String} {client : ClientMeta} {now : DateTime}
    {draw : Draw} {stored : RefreshToken}
    (hstored : db.tokenBy (settings.hashToken raw) = some stored)
    (hrevoked : stored.revokedAt.isSome) :
    (AuthService.rotateRefreshToken settings raw client now draw).run Stmt.exec db =
      .ok (.error AuthService.invalidSession, db.revoke (.family stored.familyId) now) := by
  unfold AuthService.rotateRefreshToken
  refine run_send_bind.mpr (Prog.run_orRaise_bind.mpr ⟨stored, hstored, ?_⟩)
  rw [if_pos hrevoked]
  exact Prog.run_bind_of_ok (run_revokeAll (.family stored.familyId) now db)

theorem run_logout {raw : String} {now : DateTime} {r : Unit}
    (h : (AuthService.logout settings raw now).run Stmt.exec db = .ok (r, db')) :
    db' = db ∨ ∃ stored, db.tokenBy (settings.hashToken raw) = some stored ∧
      stored.revokedAt = none ∧
      db' = { db with
        refreshTokens := db.refreshTokens.put { stored with revokedAt := some now } } := by
  have hlogout := run_send_bind.mp h
  cases hstored : db.tokenBy (settings.hashToken raw) with
  | none =>
    simp only [Stmt.exec, hstored] at hlogout
    cases hlogout
    exact Or.inl rfl
  | some stored =>
    simp only [Stmt.exec, hstored, AuthService.logoutToken] at hlogout
    split at hlogout
    · cases hlogout
      exact Or.inl rfl
    · rename_i hactive
      cases hlogout
      refine Or.inr ⟨stored, rfl, by simpa using hactive, ?_⟩
      exact congrArg (fun tokens => { db with refreshTokens := tokens })
        (Table.modify_of_get _ (get_of_tokenBy hstored))

/-! ## Passwords -/

theorem run_changePassword {user : Account} {currentPassword newPassword : String} {salt : Nat}
    {now : DateTime} {r : Unit} (hget : db.users.get user.id = some user)
    (h : (AuthService.changePassword settings user currentPassword newPassword salt now).run
      Stmt.exec db = .ok (r, db')) :
    db' = Db.revoke { db with
      users := db.users.put
        { user with hashedPassword := some (settings.hashPassword salt newPassword) } }
      (.user user.id) now := by
  obtain ⟨-, hwrite⟩ := Prog.run_if_raise_ok.mp h
  have hrevoke := run_send_bind.mp hwrite
  rw [run_revokeAll] at hrevoke
  cases hrevoke
  refine congrArg (fun users => Db.revoke { db with users } (.user user.id) now) ?_
  exact Table.modify_of_get _ hget

theorem run_requestPasswordReset {email : String} {draw : LinkDraw} {r : Unit}
    (h : (AuthService.requestPasswordReset settings email draw).run Stmt.exec db = .ok (r, db')) :
    db' = db ∨ ∃ user, db.passwordResetTokens.get draw.id = none ∧
      db' = { db with
        passwordResetTokens :=
          db.passwordResetTokens.put (AuthService.newResetToken settings user draw) } := by
  have hreset := run_send_bind.mp h
  cases huser : db.userByEmail (settings.lower email) with
  | none =>
    simp only [Stmt.exec, huser] at hreset
    cases hreset
    exact Or.inl rfl
  | some user =>
    simp only [Stmt.exec, huser] at hreset
    obtain ⟨htaken, rfl⟩ := run_insert.mp hreset
    exact Or.inr ⟨user, Option.isNone_iff_eq_none.mp (Option.isSome_eq_false_iff.mp htaken), rfl⟩

theorem run_confirmPasswordReset {token newPassword : String} {salt : Nat}
    {clock : AuthService.ConfirmClock} {r : Unit}
    (h : (AuthService.confirmPasswordReset settings token newPassword salt clock).run Stmt.exec db =
      .ok (r, db')) :
    ∃ record user, db.resetBy (settings.hashToken token) = some record ∧
      record.usedAt = none ∧ db.users.get record.userId = some user ∧
      db' = Db.revoke { db with
        users := db.users.put
          { user with hashedPassword := some (settings.hashPassword salt newPassword) }
        passwordResetTokens :=
          db.passwordResetTokens.put { record with usedAt := some clock.usedAt } }
        (.user user.id) clock.revokedAt := by
  obtain ⟨record, hrecord, hfound⟩ := Prog.run_orRaise_bind.mp (run_send_bind.mp h)
  obtain ⟨hunused, hvalid⟩ := Prog.run_if_raise_ok.mp hfound
  obtain ⟨user, huser, hwrite⟩ := Prog.run_orRaise_bind.mp (run_send_bind.mp hvalid)
  have hused := run_send_bind.mp hwrite
  have hrevoke := run_send_bind.mp hused
  rw [run_revokeAll] at hrevoke
  cases hrevoke
  have husedAt : record.usedAt = none := by
    simpa using (not_or.mp hunused).1
  refine ⟨record, user, hrecord, husedAt, huser, ?_⟩
  have hget : db.users.get user.id = some user := by
    have hid : user.id = record.userId := Table.key_of_get huser
    rw [hid]
    exact huser
  have hreset : db.passwordResetTokens.get record.id = some record :=
    Table.get_of_mem (List.mem_of_find?_eq_some hrecord)
  refine congrArg₂ (fun users resets =>
    Db.revoke { db with users, passwordResetTokens := resets } (.user user.id) clock.revokedAt) ?_ ?_
  · exact Table.modify_of_get _ hget
  · exact Table.modify_of_get _ hreset

/-! ## Google accounts -/

/-- The user that a Google account belongs to. -/
def Db.googleUser (db : Db) (subject : String) : Option Account :=
  (db.oauthBy subject).bind fun account => db.users.get account.userId

theorem run_getByOAuth {subject : String} (db : Db) :
    (AuthService.getByOAuth subject).run Stmt.exec db = .ok (db.googleUser subject, db) := by
  unfold AuthService.getByOAuth
  refine run_send_bind.mpr ?_
  unfold Db.googleUser
  cases haccount : db.oauthBy subject with
  | none =>
    simp only [Stmt.exec, haccount]
    rfl
  | some account =>
    simp only [Stmt.exec, haccount]
    rfl

/-- Looking for a free user name changes nothing. -/
theorem run_searchUsername {base username : String} {lookups suffix : Nat} {found : String}
    (h : (AuthService.searchUsername base lookups username suffix).run Stmt.exec db =
      .ok (found, db')) : db' = db := by
  induction lookups generalizing username suffix with
  | zero => cases h
  | succ lookups ih =>
    have hlookup := run_send_bind.mp h
    cases huser : db.userByUsername username with
    | none =>
      simp only [Stmt.exec, huser] at hlookup
      cases hlookup
      rfl
    | some user =>
      simp only [Stmt.exec, huser] at hlookup
      exact ih hlookup

theorem run_registerWithGoogle {identity : GoogleIdentity} {draw : GoogleDraw} {user : Account}
    (h : (AuthService.registerWithGoogle settings identity draw).run Stmt.exec db =
      .ok (user, db')) :
    db.userByEmail (settings.lower identity.email) = none ∧ db.users.get draw.userId = none ∧
      db.oauthAccounts.get draw.accountId = none ∧
      (∃ username, user = AuthService.newGoogleUser settings identity username draw) ∧
      db' = { db with
        users := db.users.put user
        oauthAccounts := db.oauthAccounts.put
          (AuthService.newOAuthAccount user.id identity draw.accountId) } := by
  obtain ⟨hfree, hsearch⟩ := Prog.run_raiseIfSome_bind.mp (run_send_bind.mp h)
  obtain ⟨username, db₁, hsearch, hcreate⟩ := Prog.run_bind_ok.mp hsearch
  have hsame := run_searchUsername hsearch
  cases hsame
  obtain ⟨_, db₂, huser, haccount⟩ := Prog.run_bind_ok.mp hcreate
  obtain ⟨htaken, rfl⟩ := run_insert.mp huser
  obtain ⟨_, db₃, haccount, hdone⟩ := Prog.run_bind_ok.mp haccount
  obtain ⟨htaken', rfl⟩ := run_insert.mp haccount
  cases hdone
  exact ⟨hfree, Option.isNone_iff_eq_none.mp (Option.isSome_eq_false_iff.mp htaken),
    Option.isNone_iff_eq_none.mp (Option.isSome_eq_false_iff.mp htaken'), ⟨username, rfl⟩, rfl⟩

/-- A login with Google: of the user whose account it is, or of a new user. -/
theorem run_loginOrRegisterWithGoogle {identity : GoogleIdentity} {draw : GoogleDraw}
    {user : Account}
    (h : (AuthService.loginOrRegisterWithGoogle settings identity draw).run Stmt.exec db =
      .ok (user, db')) :
    (∃ stored, db.googleUser identity.subject = some stored ∧
      user = { stored with lastLogin := some draw.now } ∧
      db' = { db with users := db.users.put user }) ∨
    (db.googleUser identity.subject = none ∧
      db.userByEmail (settings.lower identity.email) = none ∧ db.users.get draw.userId = none ∧
      db.oauthAccounts.get draw.accountId = none ∧
      (∃ username, user = AuthService.newGoogleUser settings identity username draw) ∧
      db' = { db with
        users := db.users.put user
        oauthAccounts := db.oauthAccounts.put
          (AuthService.newOAuthAccount user.id identity draw.accountId) }) := by
  obtain ⟨found, db₁, hfound, hrest⟩ := Prog.run_bind_ok.mp h
  rw [run_getByOAuth] at hfound
  cases hfound
  cases hstored : db.googleUser identity.subject with
  | some stored =>
    rw [hstored] at hrest
    cases hrest
    obtain ⟨account, -, huser⟩ := Option.bind_eq_some_iff.mp hstored
    have hget : db.users.get stored.id = some stored := by
      rw [Table.key_of_get huser]
      exact huser
    refine Or.inl ⟨stored, rfl, rfl, ?_⟩
    exact congrArg (fun users => { db with users }) (Table.modify_of_get _ hget)
  | none =>
    rw [hstored] at hrest
    exact Or.inr ⟨rfl, run_registerWithGoogle hrest⟩

theorem run_linkGoogleAccount {user : Account} {identity : GoogleIdentity} {accountId : Uuid}
    {r : Unit}
    (h : (AuthService.linkGoogleAccount settings user identity accountId).run Stmt.exec db =
      .ok (r, db')) :
    db.googleUser identity.subject = none ∧ db.oauthAccounts.get accountId = none ∧
      db' = { db with
        oauthAccounts :=
          db.oauthAccounts.put (AuthService.newOAuthAccount user.id identity accountId) } := by
  obtain ⟨-, hlookup⟩ := Prog.run_if_raise_ok.mp h
  obtain ⟨found, db₁, hfound, hrest⟩ := Prog.run_bind_ok.mp hlookup
  rw [run_getByOAuth] at hfound
  cases hfound
  obtain ⟨hfree, hinsert⟩ := Prog.run_raiseIfSome_bind.mp hrest
  obtain ⟨htaken, rfl⟩ := run_insert.mp hinsert
  exact ⟨hfree, Option.isNone_iff_eq_none.mp (Option.isSome_eq_false_iff.mp htaken), rfl⟩

end Accounts

end ElectronicShop
