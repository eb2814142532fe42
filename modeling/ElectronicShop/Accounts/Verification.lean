import ElectronicShop.Model.Verification
import ElectronicShop.Accounts.Google
import ElectronicShop.Txn.Since

/-!
# Verified addresses

A registration mails a link to the address of the new account. A link is good for 48 hours and for
one confirmation, and an account is verified because such a link was confirmed, or because Google
has vouched for the address when the account was created.
-/

namespace ElectronicShop

namespace Accounts

open Txn

variable {settings : Settings} {s s' : State} {db db' : Db} {token : String} {now usedAt : DateTime}
  {request : MailRequest} {requests : List MailRequest} {record : EmailVerificationToken}
  {email : String} {userId : Uuid}

/-! ## Confirming -/

theorem verificationBy_of_get {tokenHash : String} (h : db.Constraints)
    (hget : db.emailVerificationTokens.get record.id = some record)
    (hhash : tokenHash = record.tokenHash) : db.verificationBy tokenHash = some record := by
  have hmem := Table.mem_of_get hget
  cases hfound : db.verificationBy tokenHash with
  | none =>
    have hnone := List.find?_eq_none.mp hfound record hmem
    simp [hhash] at hnone
  | some other =>
    have hother : other.tokenHash = tokenHash := by simpa using List.find?_some hfound
    rw [List.inj_on_of_nodup_map h.verificationHashes (List.mem_of_find?_eq_some hfound) hmem
      (hother.trans hhash)]

theorem get_of_verificationBy {tokenHash : String} (h : db.verificationBy tokenHash = some record) :
    db.emailVerificationTokens.get record.id = some record ∧ record.tokenHash = tokenHash :=
  ⟨Table.get_of_mem (List.mem_of_find?_eq_some h), by simpa using List.find?_some h⟩

/-- The tables after the confirmation of a link. -/
def Db.confirmed (db : Db) (record : EmailVerificationToken) (user : Account)
    (usedAt : DateTime) : Db :=
  { db with
    users := db.users.put { user with isVerified := true }
    emailVerificationTokens :=
      db.emailVerificationTokens.put { record with usedAt := some usedAt } }

/-- It violates no constraint. -/
theorem constraints_confirmed {user : Account} (h : db.Constraints)
    (hrecord : db.emailVerificationTokens.get record.id = some record)
    (huser : db.users.get user.id = some user) : (db.confirmed record user usedAt).Constraints := by
  obtain ⟨⟨husers, haccounts, htokens, hresets, hverifications, hlogs⟩, hemails, husernames,
    hsubjects, hhashes, hresetHashes, hverificationHashes⟩ := h
  let user' : Account := { user with isVerified := true }
  let record' : EmailVerificationToken := { record with usedAt := some usedAt }
  have hemail : (db.users.put user').rows.map Account.email = db.users.rows.map Account.email :=
    Table.map_put _ huser rfl
  have husername : (db.users.put user').rows.map Account.username =
      db.users.rows.map Account.username := Table.map_put _ huser rfl
  have hhash : (db.emailVerificationTokens.put record').rows.map EmailVerificationToken.tokenHash =
      db.emailVerificationTokens.rows.map EmailVerificationToken.tokenHash :=
    Table.map_put _ hrecord rfl
  refine ⟨⟨?_, haccounts, htokens, hresets, ?_, hlogs⟩, hemail.symm ▸ hemails,
    husername.symm ▸ husernames, hsubjects, hhashes, hresetHashes, hhash.symm ▸ hverificationHashes⟩
  · intro u hu
    rcases Table.mem_put hu with rfl | ⟨hold, -⟩
    · exact husers user (Table.mem_of_get huser)
    · exact husers u hold
  · intro t ht
    rcases Table.mem_put ht with rfl | ⟨hold, -⟩
    · exact hverifications record (Table.mem_of_get hrecord)
    · exact hverifications t hold

/-- A confirmation is accepted for a link that is known, unused and not too old, of a user who is
    there; any other is refused and changes nothing. -/
theorem confirmEmail_cases (settings : Settings) (s : State) (token : String)
    (now usedAt : DateTime) :
    (∃ record user, s.db.emailVerificationTokens.get record.id = some record ∧
      settings.hashToken token = record.tokenHash ∧ record.usedAt = none ∧
      now ≤ record.expiresAt ∧ s.db.users.get record.userId = some user ∧
      (s.confirmEmail settings token now usedAt).1 = .ok none ∧
      (s.confirmEmail settings token now usedAt).2.db = s.db.confirmed record user usedAt) ∨
    (∀ record, s.db.emailVerificationTokens.get record.id = some record →
      settings.hashToken token = record.tokenHash → record.usedAt = none →
      now ≤ record.expiresAt → s.db.users.get record.userId = none) ∧
      ∃ e, s.confirmEmail settings token now usedAt = (.error e, s) := by
  unfold State.confirmEmail AuthService.confirmEmailVerification
  cases hfound : s.db.verificationBy (settings.hashToken token) with
  | none =>
    refine Or.inr ⟨fun record hget hhash => ?_, _, rfl⟩
    cases hfound.symm.trans (verificationBy_of_get s.store.valid hget hhash)
  | some record =>
    obtain ⟨hget, hhash⟩ := get_of_verificationBy hfound
    have hunique : ∀ other, s.db.emailVerificationTokens.get other.id = some other →
        settings.hashToken token = other.tokenHash → other = record := by
      intro other hother hhash'
      exact Option.some.inj
        ((verificationBy_of_get s.store.valid hother hhash').symm.trans hfound)
    by_cases hspent : record.usedAt.isSome ∨ record.expiresAt < now
    · simp only [if_pos hspent]
      refine Or.inr ⟨fun other hother hhash' hunused hexpires => ?_, _, rfl⟩
      obtain rfl := hunique other hother hhash'
      rcases hspent with hused | hlate
      · rw [hunused] at hused
        cases hused
      · exact absurd hlate (Int.not_lt.mpr hexpires)
    · simp only [if_neg hspent]
      push Not at hspent
      cases huser : s.db.users.get record.userId with
      | none =>
        refine Or.inr ⟨fun other hother hhash' _ _ => ?_, _, rfl⟩
        obtain rfl := hunique other hother hhash'
        exact huser
      | some user =>
        have huserId : s.db.users.get user.id = some user := Table.get_self huser
        have hvalid : (s.db.confirmed record user usedAt).Constraints :=
          constraints_confirmed s.store.valid hget huserId
        refine Or.inl ⟨record, user, hget, hhash.symm, by simpa using hspent.1,
          Int.not_lt.mp (not_lt.mpr hspent.2), huser, ?_⟩
        rw [Db.confirmed] at hvalid
        simp only [dif_pos hvalid]
        exact ⟨trivial, rfl⟩

/-! ## The links -/

/-- The row of the link that a registration mails. -/
def newVerification (settings : Settings) (draw : RegisterDraw) : EmailVerificationToken where
  id := draw.verification.id
  userId := draw.userId
  tokenHash := settings.hashToken draw.verification.rawToken
  expiresAt := draw.verification.expiresFrom + emailVerificationTtl
  usedAt := none
  createdAt := draw.verification.createdAt

/-- A registration that is accepted, with the link it mails and the address it mails it to. -/
inductive Mails (settings : Settings) (record : EmailVerificationToken) (email : String)
    (s : State) : MailRequest → Prop where
  | register (data : RegisterRequest) (client : ClientMeta) (account : RegisterDraw)
      (familyId : Uuid) (draw : Draw) (tokens : TokenPair)
      (answer : ((Request.register data client account familyId draw).serve settings s).1 =
        .ok (some tokens))
      (link : newVerification settings account = record)
      (address : settings.lower data.email = email) :
      Mails settings record email s (.account (.register data client account familyId draw))

/-- A confirmation of the link that is accepted. -/
inductive Confirms (settings : Settings) (record : EmailVerificationToken) (s : State) :
    MailRequest → Prop where
  | confirm (token : String) (now usedAt : DateTime)
      (presented : settings.hashToken token = record.tokenHash)
      (answer : (s.confirmEmail settings token now usedAt).1 = .ok none) :
      Confirms settings record s (.confirmEmail token now usedAt)

theorem run_register_mails {data : RegisterRequest} {draw : RegisterDraw} {user : Account}
    (h : (AuthService.register settings data draw).run Stmt.exec db = .ok (user, db')) :
    db.emailVerificationTokens.get draw.verification.id = none ∧
      db'.emailVerificationTokens =
        db.emailVerificationTokens.put (newVerification settings draw) := by
  obtain ⟨-, husername⟩ := Prog.run_raiseIfSome_bind.mp (run_send_bind.mp h)
  obtain ⟨-, hcreate⟩ := Prog.run_raiseIfSome_bind.mp (run_send_bind.mp husername)
  obtain ⟨_, db₁, hinsert, hmail⟩ := Prog.run_bind_ok.mp hcreate
  obtain ⟨-, rfl⟩ := run_insert.mp hinsert
  obtain ⟨_, db₂, hmail, hdone⟩ := Prog.run_bind_ok.mp hmail
  obtain ⟨htaken, rfl⟩ := run_insert.mp hmail
  cases hdone
  exact ⟨Option.isNone_iff_eq_none.mp (Option.isSome_eq_false_iff.mp htaken), rfl⟩

/-- A registration that fails changes nothing, and one that is accepted adds its link. -/
theorem serve_register (settings : Settings) (s : State) (data : RegisterRequest)
    (client : ClientMeta) (account : RegisterDraw) (familyId : Uuid) (draw : Draw) :
    ((∃ e, ((Request.register data client account familyId draw).serve settings s).1 = .error e) ∧
      ((Request.register data client account familyId draw).serve settings s).2.db = s.db) ∨
    (∃ tokens, ((Request.register data client account familyId draw).serve settings s).1 =
        .ok (some tokens)) ∧
      s.db.emailVerificationTokens.get account.verification.id = none ∧
      s.db.users.get account.userId = none ∧
      ((Request.register data client account familyId draw).serve settings
          s).2.db.emailVerificationTokens =
        s.db.emailVerificationTokens.put (newVerification settings account) ∧
      ((Request.register data client account familyId draw).serve settings s).2.db.users =
        s.db.users.put (AuthService.newUser settings data account) := by
  refine Request.transact_cases (register settings data client account familyId draw)
    (p := fun answer db' => ((∃ e, answer.map some = .error e) ∧ db' = s.db) ∨
      (∃ tokens, answer.map some = .ok (some tokens)) ∧
        s.db.emailVerificationTokens.get account.verification.id = none ∧
        s.db.users.get account.userId = none ∧
        db'.emailVerificationTokens =
          s.db.emailVerificationTokens.put (newVerification settings account) ∧
        db'.users = s.db.users.put (AuthService.newUser settings data account))
    (fun e => Or.inl ⟨⟨e, rfl⟩, rfl⟩) ?_
  intro pair db' h
  obtain ⟨user, db₁, hregister, hstart⟩ := Prog.run_bind_ok.mp h
  obtain ⟨hlink, htokens⟩ := run_register_mails hregister
  obtain ⟨-, huser, rfl, _, hdb₁⟩ := run_register hregister
  obtain ⟨-, rfl, rfl⟩ := run_startSession.mp hstart
  refine Or.inr ⟨⟨_, rfl⟩, hlink, huser, htokens, ?_⟩
  rw [hdb₁]

/-- The other requests of accounts leave the links as they are. -/
theorem Request.Effect.links {request : Request} {answer : Except ShopError Answer}
    (h : request.Effect settings s answer db')
    (hnot : ∀ data client account familyId draw,
      request ≠ .register data client account familyId draw) :
    db'.emailVerificationTokens = s.db.emailVerificationTokens := by
  cases h
  case registered tokens newEmail newUser newToken => exact absurd rfl (hnot _ _ _ _ _)
  case userUpdated actor user effect =>
    obtain ⟨logs, rfl⟩ := effect.result
    rfl
  all_goals rfl

/-! ## The addresses -/

def Db.emailOf (db : Db) (userId : Uuid) : Option String :=
  (db.users.get userId).map Account.email

/-- A new user, or one whose address stays. -/
theorem emailOf_put {u : Account}
    (hkeep : ∀ old, db.users.get u.id = some old → old.email = u.email)
    (h : db.emailOf userId = some email) :
    ((db.users.put u).get userId).map Account.email = some email := by
  rw [Table.get_put]
  split
  · rename_i hid
    subst hid
    obtain ⟨old, hold, rfl⟩ := Option.map_eq_some_iff.mp h
    rw [Option.map_some, hkeep old hold]
  · exact h

theorem Request.Effect.keepsEmail {request : Request} {answer : Except ShopError Answer}
    (h : request.Effect settings s answer db') (hemail : s.db.emailOf userId = some email) :
    db'.emailOf userId = some email := by
  cases h
  case registered tokens newEmail newUser newToken =>
    refine emailOf_put (fun old hold => ?_) hemail
    cases newUser.symm.trans hold
  case loggedIn stored user active newToken =>
    refine emailOf_put (fun old hold => ?_) hemail
    cases user.symm.trans hold
    rfl
  case passwordChanged user caller =>
    have huser := Table.get_self caller
    refine emailOf_put (fun old hold => ?_) hemail
    cases huser.symm.trans hold
    rfl
  case passwordReset record user presented unused owner =>
    have huser := Table.get_self owner
    refine emailOf_put (fun old hold => ?_) hemail
    cases huser.symm.trans hold
    rfl
  case googleLoggedIn session identity stored started action verified linked newToken =>
    obtain ⟨account, -, hget⟩ := Option.bind_eq_some_iff.mp linked
    have huser := Table.get_self hget
    refine emailOf_put (fun old hold => ?_) hemail
    cases huser.symm.trans hold
    rfl
  case googleRegistered session identity username started action verified unlinked newEmail newUser
      newAccount newToken =>
    refine emailOf_put (fun old hold => ?_) hemail
    cases newUser.symm.trans hold
  case userUpdated actor user effect =>
    have huser := Table.get_self effect.getUser
    obtain ⟨logs, rfl⟩ := effect.result
    refine emailOf_put (fun old hold => ?_) hemail
    cases huser.symm.trans hold
    rfl
  -- the others leave the users as they are
  all_goals exact hemail

theorem keepsEmail (request : MailRequest) (hemail : s.db.emailOf userId = some email) :
    (request.serve settings s).2.db.emailOf userId = some email := by
  cases request with
  | account request =>
    have heffect : request.Effect settings s _ _ := request.effect
    exact heffect.keepsEmail hemail
  | confirmEmail token now usedAt =>
    rcases confirmEmail_cases settings s token now usedAt with
      ⟨record, user, -, -, -, -, huser, -, hdb⟩ | ⟨-, e, hserve⟩
    · simp only [MailRequest.serve, hdb]
      have hself := Table.get_self huser
      refine emailOf_put (fun old hold => ?_) hemail
      cases hself.symm.trans hold
      rfl
    · simp only [MailRequest.serve, hserve]
      exact hemail

/-- Every link is of a user who is there. -/
def Owned (db : Db) : Prop :=
  ∀ record ∈ db.emailVerificationTokens.rows, (db.emailOf record.userId).isSome

theorem owned_step (request : MailRequest) (h : Owned s.db) :
    Owned (request.serve settings s).2.db := by
  have hold : ∀ record ∈ s.db.emailVerificationTokens.rows,
      ((request.serve settings s).2.db.emailOf record.userId).isSome := by
    intro record hrecord
    obtain ⟨email, hemail⟩ := Option.isSome_iff_exists.mp (h record hrecord)
    rw [keepsEmail request hemail]
    rfl
  cases request with
  | account request =>
    by_cases hregister : ∃ data client account familyId draw,
        request = .register data client account familyId draw
    · obtain ⟨data, client, account, familyId, draw, rfl⟩ := hregister
      rcases serve_register settings s data client account familyId draw with
        ⟨-, hdb⟩ | ⟨-, -, -, hlinks, husers⟩
      · intro record hrecord
        simp only [MailRequest.serve, hdb] at hrecord ⊢
        exact h record hrecord
      · intro record hrecord
        simp only [MailRequest.serve] at hrecord hold ⊢
        rw [hlinks] at hrecord
        rcases Table.mem_put hrecord with rfl | ⟨hbefore, -⟩
        · have hnew : (s.db.users.put (AuthService.newUser settings data account)).get
              (newVerification settings account).userId =
                some (AuthService.newUser settings data account) := Table.get_put_self ..
          rw [Db.emailOf, husers, hnew]
          rfl
        · exact hold record hbefore
    · have heffect : request.Effect settings s _ _ := request.effect
      have hlinks := heffect.links fun data client account familyId draw heq =>
        hregister ⟨data, client, account, familyId, draw, heq⟩
      intro record hrecord
      simp only [MailRequest.serve] at hrecord
      rw [hlinks] at hrecord
      exact hold record hrecord
  | confirmEmail token now usedAt =>
    rcases confirmEmail_cases settings s token now usedAt with
      ⟨record, user, hget, -, -, -, huser, -, hdb⟩ | ⟨-, e, hserve⟩
    · intro other hother
      simp only [MailRequest.serve] at hother hold ⊢
      rw [hdb] at hother
      rcases Table.mem_put hother with rfl | ⟨hbefore, -⟩
      · exact hold record (Table.mem_of_get hget)
      · exact hold other hbefore
    · simp only [MailRequest.serve, hserve]
      exact h

theorem owned_of_run (hrun : Run (MailRequest.step settings) anyStep State.empty requests s) :
    Owned s.db := by
  refine hrun.invariant (fun s => Owned s.db) (fun record hrecord => by cases hrecord) ?_
  intro request s s' h _ hstep
  cases hstep
  exact owned_step request h

/-! ## A link from its registration on -/

/-- The link is unused, and of the user with this address. -/
def Pending (record : EmailVerificationToken) (email : String) (s : State) : Prop :=
  s.db.emailVerificationTokens.get record.id = some record ∧
    s.db.emailOf record.userId = some email

/-- When neither the links nor the address of an owner can have changed. -/
theorem pending_congr (howned : Owned s.db) (request : MailRequest)
    (hlinks : (request.serve settings s).2.db.emailVerificationTokens.get record.id =
      s.db.emailVerificationTokens.get record.id) :
    Pending record email (request.serve settings s).2 ↔ Pending record email s := by
  unfold Pending
  rw [hlinks]
  refine and_congr_right fun hget => ?_
  obtain ⟨address, haddress⟩ := Option.isSome_iff_exists.mp
    (howned record (Table.mem_of_get hget))
  rw [keepsEmail request haddress, haddress]

theorem pending_register (howned : Owned s.db) (data : RegisterRequest) (client : ClientMeta)
    (account : RegisterDraw) (familyId : Uuid) (draw : Draw) :
    Pending record email
        ((MailRequest.account (.register data client account familyId draw)).serve settings s).2 ↔
      Mails settings record email s (.account (.register data client account familyId draw)) ∨
        Pending record email s := by
  rcases serve_register settings s data client account familyId draw with
    ⟨⟨e, hanswer⟩, hdb⟩ | ⟨⟨tokens, hanswer⟩, hfresh, hnew, hlinks, husers⟩
  · have hnot : ¬ Mails settings record email s
        (.account (.register data client account familyId draw)) := by
      rintro ⟨_, _, _, _, _, tokens, hanswer'⟩
      cases hanswer.symm.trans hanswer'
    rw [or_iff_right hnot]
    exact pending_congr howned _ (by simp only [MailRequest.serve, hdb])
  · by_cases hid : record.id = account.verification.id
    · have hnone : ¬ Pending record email s := by
        rintro ⟨hget, -⟩
        rw [hid, hfresh] at hget
        cases hget
      rw [or_iff_left hnone]
      have hget : (s.db.emailVerificationTokens.put (newVerification settings account)).get
          record.id = some (newVerification settings account) := by
        rw [hid]
        exact Table.get_put_self ..
      have huser : (s.db.users.put (AuthService.newUser settings data account)).get
          account.userId = some (AuthService.newUser settings data account) :=
        Table.get_put_self ..
      unfold Pending
      simp only [MailRequest.serve]
      rw [Db.emailOf, hlinks, husers, hget]
      constructor
      · rintro ⟨hlink, haddress⟩
        cases hlink
        rw [show (newVerification settings account).userId = account.userId from rfl, huser]
          at haddress
        exact .register data client account familyId draw tokens hanswer rfl
          (Option.some.inj haddress)
      · rintro ⟨_, _, _, _, _, _, _, rfl, rfl⟩
        rw [show (newVerification settings account).userId = account.userId from rfl, huser]
        exact ⟨rfl, rfl⟩
    · have hnot : ¬ Mails settings record email s
          (.account (.register data client account familyId draw)) := by
        rintro ⟨_, _, _, _, _, _, _, rfl, -⟩
        exact hid rfl
      rw [or_iff_right hnot]
      refine pending_congr howned _ ?_
      simp only [MailRequest.serve, hlinks]
      exact Table.get_put_of_ne _ hid

theorem pending_confirm (howned : Owned s.db) (hunused : record.usedAt = none) (token : String)
    (now usedAt : DateTime) :
    Pending record email ((MailRequest.confirmEmail token now usedAt).serve settings s).2 ↔
      Pending record email s ∧ ¬ Confirms settings record s (.confirmEmail token now usedAt) := by
  rcases confirmEmail_cases settings s token now usedAt with
    ⟨stored, user, hget, hhash, -, -, huser, hanswer, hdb⟩ | ⟨-, e, hserve⟩
  · by_cases hid : record.id = stored.id
    · have hused : (s.db.emailVerificationTokens.put { stored with usedAt := some usedAt }).get
          record.id = some { stored with usedAt := some usedAt } := by
        rw [hid]
        exact Table.get_put_self ..
      refine iff_of_false ?_ ?_
      · rintro ⟨hafter, -⟩
        simp only [MailRequest.serve, hdb, Db.confirmed] at hafter
        cases hused.symm.trans hafter
        cases hunused
      · rintro ⟨⟨hbefore, -⟩, hnot⟩
        rw [hid] at hbefore
        cases hget.symm.trans hbefore
        exact hnot (.confirm token now usedAt hhash hanswer)
    · rw [pending_congr howned _ (by
        simp only [MailRequest.serve, hdb, Db.confirmed]
        exact Table.get_put_of_ne _ hid)]
      refine (and_iff_left_of_imp ?_).symm
      rintro ⟨hbefore, -⟩ ⟨_, _, _, hpresented⟩
      have hfound := verificationBy_of_get s.store.valid hbefore hpresented
      have hfound' := verificationBy_of_get s.store.valid hget hhash
      cases hfound.symm.trans hfound'
      exact hid rfl
  · simp only [MailRequest.serve, hserve]
    refine (and_iff_left ?_).symm
    rintro ⟨_, _, _, -, hanswer⟩
    rw [hserve] at hanswer
    cases hanswer

theorem pending_step (howned : Owned s.db) (hunused : record.usedAt = none)
    (request : MailRequest) :
    Pending record email (request.serve settings s).2 ↔
      Mails settings record email s request ∨
        Pending record email s ∧ ¬ Confirms settings record s request := by
  cases request with
  | account request =>
    have hnot : ¬ Confirms settings record s (.account request) := by rintro ⟨⟩
    rw [and_iff_left hnot]
    by_cases hregister : ∃ data client account familyId draw,
        request = .register data client account familyId draw
    · obtain ⟨data, client, account, familyId, draw, rfl⟩ := hregister
      exact pending_register howned data client account familyId draw
    · have hmails : ¬ Mails settings record email s (.account request) := by
        rintro ⟨data, client, account, familyId, draw⟩
        exact hregister ⟨data, client, account, familyId, draw, rfl⟩
      rw [or_iff_right hmails]
      have heffect : request.Effect settings s _ _ := request.effect
      have hlinks := heffect.links fun data client account familyId draw heq =>
        hregister ⟨data, client, account, familyId, draw, heq⟩
      exact pending_congr howned _ (by simp only [MailRequest.serve, hlinks])
  | confirmEmail token now usedAt =>
    have hmails : ¬ Mails settings record email s (.confirmEmail token now usedAt) := by
      rintro ⟨⟩
    rw [or_iff_right hmails]
    exact pending_confirm howned hunused token now usedAt

/-- A link was mailed to the address, and has not been confirmed since. -/
def Mailed (settings : Settings) (record : EmailVerificationToken) (email : String)
    (requests : List MailRequest) (s : State) : Prop :=
  record.usedAt = none ∧ Since (MailRequest.step settings) anyStep State.empty
    (Mails settings record email) (Confirms settings record) requests s

theorem mailed_iff (hrun : Run (MailRequest.step settings) anyStep State.empty requests s)
    (hunused : record.usedAt = none) :
    Mailed settings record email requests s ↔ Pending record email s := by
  refine (and_iff_right hunused).trans (Since.iff_of_step (Pending record email) ?_ ?_ hrun).symm
  · rintro ⟨hget, -⟩
    cases hget
  · intro before s request s' hbefore hstep
    cases hstep
    exact pending_step (owned_of_run hbefore) hunused request

/-- In every state that non-overlapping requests reach, a confirmation is accepted exactly when
    a registration mailed its link less than 48 hours before and nobody has confirmed it since;
    then the account it was mailed for is verified. -/
theorem verification_link_single_use
    (hrun : Run (MailRequest.step settings) anyStep State.empty requests s) (token : String)
    (now usedAt : DateTime) :
    (s.confirmEmail settings token now usedAt).1 = .ok none ↔
      ∃ record email, settings.hashToken token = record.tokenHash ∧ now ≤ record.expiresAt ∧
        Mailed settings record email requests s := by
  constructor
  · intro hanswer
    rcases confirmEmail_cases settings s token now usedAt with
      ⟨record, user, hget, hhash, hunused, hexpires, huser, -, -⟩ | ⟨-, e, hserve⟩
    · refine ⟨record, user.email, hhash, hexpires, (mailed_iff hrun hunused).mpr ⟨hget, ?_⟩⟩
      rw [Db.emailOf, huser, Option.map_some]
    · rw [hserve] at hanswer
      cases hanswer
  · rintro ⟨record, email, hhash, hexpires, hmailed⟩
    obtain ⟨hget, hemail⟩ := (mailed_iff hrun hmailed.1).mp hmailed
    rcases confirmEmail_cases settings s token now usedAt with
      ⟨-, -, -, -, -, -, -, hanswer, -⟩ | ⟨hnone, -⟩
    · exact hanswer
    · rw [Db.emailOf, hnone record hget hhash hmailed.1 hexpires] at hemail
      cases hemail

/-- Sara registers and confirms her address a day later. -/
def confirmedAddress : List MailRequest :=
  [.account (.register ⟨"sara@shop.ir", "sara", "secret", "Sara", "N"⟩ noClient
      ⟨1, 0, ⟨"mail", 1, 0, 0⟩⟩ 7 ⟨"first", 1, 0, 0, 0⟩),
    .confirmEmail "mail" (24 * microsecondsPerHour) (24 * microsecondsPerHour)]

/-- The link of a new account is confirmed a day later, and was mailed. -/
theorem verification_link_single_use_mailed : ∃ s,
    Run (MailRequest.step plainSettings) anyStep State.empty (confirmedAddress.take 1) s ∧
    (s.confirmEmail plainSettings "mail" (24 * microsecondsPerHour)
      (24 * microsecondsPerHour)).1 = .ok none ∧
    ∃ record email, plainSettings.hashToken "mail" = record.tokenHash ∧
      24 * microsecondsPerHour ≤ record.expiresAt ∧
      Mailed plainSettings record email (confirmedAddress.take 1) s := by
  have hrun : ∃ s, Run (MailRequest.step plainSettings) anyStep State.empty
      (confirmedAddress.take 1) s ∧ (s.confirmEmail plainSettings "mail"
        (24 * microsecondsPerHour) (24 * microsecondsPerHour)).1 = .ok none :=
    Run.exists_of_execAll (by decide +kernel)
  obtain ⟨s, hrun, haccepted⟩ := hrun
  exact ⟨s, hrun, haccepted, (verification_link_single_use hrun _ _ _).mp haccepted⟩

/-! ## Why an account is verified -/

/-- Google vouches for the address of an account that the login creates. -/
def Vouches (settings : Settings) (userId : Uuid) (email : String) (s : State)
    (request : MailRequest) : Prop :=
  ∃ callback identity session, request = .account callback ∧
    callback.IsCallback s .login identity session ∧ identity.emailVerified = true ∧
    settings.lower identity.email = email ∧ s.db.users.get userId = none ∧
    (request.serve settings s).2.db.emailOf userId = some email

/-- The user's own link is confirmed, which was mailed to the address. -/
def ConfirmsAddress (settings : Settings) (userId : Uuid) (email : String)
    (before : List MailRequest) (s : State) (request : MailRequest) : Prop :=
  ∃ token now usedAt record, request = .confirmEmail token now usedAt ∧
    settings.hashToken token = record.tokenHash ∧ now ≤ record.expiresAt ∧
    record.userId = userId ∧ Mailed settings record email before s

/-- A verified account was there before, or it is new and Google vouches for its address. -/
theorem Request.Effect.verified {request : Request} {answer : Except ShopError Answer}
    (h : request.Effect settings s answer db') {u : Account} (hu : u ∈ db'.users.rows)
    (hverified : u.isVerified = true) :
    (∃ old ∈ s.db.users.rows, old.id = u.id ∧ old.email = u.email ∧ old.isVerified = true) ∨
      ∃ identity session, request.IsCallback s .login identity session ∧
        identity.emailVerified = true ∧ settings.lower identity.email = u.email ∧
        s.db.users.get u.id = none := by
  cases h
  case registered tokens newEmail newUser newToken =>
    rcases Table.mem_put hu with rfl | ⟨hold, -⟩
    · cases hverified
    · exact Or.inl ⟨u, hold, rfl, rfl, hverified⟩
  case loggedIn stored user active newToken =>
    rcases Table.mem_put hu with rfl | ⟨hold, -⟩
    · exact Or.inl ⟨stored, Table.mem_of_get user, rfl, rfl, hverified⟩
    · exact Or.inl ⟨u, hold, rfl, rfl, hverified⟩
  case passwordChanged user caller =>
    rcases Table.mem_put hu with rfl | ⟨hold, -⟩
    · exact Or.inl ⟨user, Table.mem_of_get caller, rfl, rfl, hverified⟩
    · exact Or.inl ⟨u, hold, rfl, rfl, hverified⟩
  case passwordReset record user presented unused owner =>
    rcases Table.mem_put hu with rfl | ⟨hold, -⟩
    · exact Or.inl ⟨user, Table.mem_of_get owner, rfl, rfl, hverified⟩
    · exact Or.inl ⟨u, hold, rfl, rfl, hverified⟩
  case googleLoggedIn session identity stored started action verified linked newToken =>
    obtain ⟨account, -, hget⟩ := Option.bind_eq_some_iff.mp linked
    rcases Table.mem_put hu with rfl | ⟨hold, -⟩
    · exact Or.inl ⟨stored, Table.mem_of_get hget, rfl, rfl, hverified⟩
    · exact Or.inl ⟨u, hold, rfl, rfl, hverified⟩
  case googleRegistered google code state now client account familyId draw session identity
      username started action verified unlinked newEmail newUser newAccount newToken =>
    rcases Table.mem_put hu with rfl | ⟨hold, -⟩
    · exact Or.inr ⟨identity, session, ⟨google, code, state, now, client, account, familyId, draw,
        rfl, started, action, verified⟩, hverified, rfl, newUser⟩
    · exact Or.inl ⟨u, hold, rfl, rfl, hverified⟩
  case userUpdated actor user effect =>
    have huser := effect.getUser
    obtain ⟨logs, rfl⟩ := effect.result
    rcases Table.mem_put hu with rfl | ⟨hold, -⟩
    · exact Or.inl ⟨user, Table.mem_of_get huser, rfl, rfl, hverified⟩
    · exact Or.inl ⟨u, hold, rfl, rfl, hverified⟩
  -- the others leave the users as they are
  all_goals exact Or.inl ⟨u, hu, rfl, rfl, hverified⟩

/-- Every account that is verified in a state that requests reach was created by a login with
    Google that vouched for its address, or its user confirmed in time a link that the
    registration had mailed to the address. -/
theorem verified_for_a_reason
    (hrun : Run (MailRequest.step settings) anyStep State.empty requests s) {u : Account}
    (hu : u ∈ s.db.users.rows) (hverified : u.isVerified = true) :
    Run.Earlier (MailRequest.step settings) anyStep State.empty
      (fun _ => Vouches settings u.id u.email) requests ∨
    Run.Earlier (MailRequest.step settings) anyStep State.empty
      (ConfirmsAddress settings u.id u.email) requests := by
  induction hrun generalizing u with
  | nil => cases hu
  | @snoc requests request s s' before allowed committed ih =>
    cases committed
    have hold : ∀ old ∈ s.db.users.rows, old.id = u.id → old.email = u.email →
        old.isVerified = true →
        Run.Earlier (MailRequest.step settings) anyStep State.empty
          (fun _ => Vouches settings u.id u.email) (requests ++ [request]) ∨
        Run.Earlier (MailRequest.step settings) anyStep State.empty
          (ConfirmsAddress settings u.id u.email) (requests ++ [request]) := by
      intro old hmem hid hemail holdVerified
      rw [← hid, ← hemail]
      exact (ih hmem holdVerified).imp (fun h => h.snoc request) fun h => h.snoc request
    cases request with
    | account request =>
      have heffect : request.Effect settings s _ _ := request.effect
      rcases heffect.verified hu hverified with
        ⟨old, hmem, hid, hemail, hv⟩ | ⟨identity, session, hcallback, hvouches, hemail, hnew⟩
      · exact hold old hmem hid hemail hv
      · have hadded : Db.emailOf ((MailRequest.account request).serve settings s).2.db u.id =
            some u.email := by
          rw [Db.emailOf, Table.get_of_mem hu, Option.map_some]
        exact Or.inl (.last before
          ⟨request, identity, session, rfl, hcallback, hvouches, hemail, hnew, hadded⟩)
    | confirmEmail token now usedAt =>
      rcases confirmEmail_cases settings s token now usedAt with
        ⟨record, user, hget, hhash, hunused, hexpires, huser, -, hdb⟩ | ⟨-, e, hserve⟩
      · simp only [MailRequest.serve, hdb, Db.confirmed] at hu
        rcases Table.mem_put hu with rfl | ⟨hmem, -⟩
        · have hpending : Pending record user.email s :=
            ⟨hget, by rw [Db.emailOf, huser, Option.map_some]⟩
          refine Or.inr (.last before ⟨token, now, usedAt, record, rfl, hhash, hexpires, ?_, ?_⟩)
          · exact (Table.key_of_get huser).symm
          · exact (mailed_iff before hunused).mpr hpending
        · exact hold u hmem rfl rfl hverified
      · simp only [MailRequest.serve, hserve] at hu
        exact hold u hu rfl rfl hverified

/-- Google has vouched for nobody. -/
theorem confirmedAddress_vouches {userId : Uuid} {email : String} :
    ¬ Run.Earlier (MailRequest.step plainSettings) anyStep State.empty
      (fun _ => Vouches plainSettings userId email) confirmedAddress := by
  intro h
  obtain ⟨request, hmem, -, s, callback, _, _, hrequest, hcallback, -⟩ := h.exists_mem
  obtain ⟨_, _, _, _, _, _, _, _, rfl, -⟩ := hcallback
  simp only [confirmedAddress, List.mem_cons, List.not_mem_nil, or_false] at hmem
  rcases hmem with rfl | rfl <;> cases hrequest

/-- Sara's account is verified because she confirmed her link. -/
theorem verified_for_a_reason_confirmed : ∃ s u,
    Run (MailRequest.step plainSettings) anyStep State.empty confirmedAddress s ∧
    u ∈ s.db.users.rows ∧ u.isVerified = true ∧
    Run.Earlier (MailRequest.step plainSettings) anyStep State.empty
      (ConfirmsAddress plainSettings u.id u.email) confirmedAddress := by
  have hrun : ∃ s, Run (MailRequest.step plainSettings) anyStep State.empty confirmedAddress s ∧
      ∃ u ∈ s.db.users.rows, u.isVerified = true := Run.exists_of_execAll (by decide +kernel)
  obtain ⟨s, hrun, u, hu, hverified⟩ := hrun
  exact ⟨s, u, hrun, hu, hverified,
    (verified_for_a_reason hrun hu hverified).resolve_left confirmedAddress_vouches⟩

end Accounts

end ElectronicShop
