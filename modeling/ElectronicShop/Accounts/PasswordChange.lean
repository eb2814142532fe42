import ElectronicShop.Accounts.Rotation

/-!
# A new password ends every session

`revoke_all_for_user` revokes the tokens that it can see. A rotation that overlaps it may
commit a token that it has not seen. As long as a password is changed only by a transaction
that has read every token of the user, and a token is exchanged only while it is unrevoked,
no token of the user survives.
-/

namespace ElectronicShop

namespace Accounts

open Txn

/-- The transactions that overlap. -/
inductive SessionOperation where
  | rotate (raw : String) (call : RotationCall)
  | changePassword (subject : Uuid) (currentPassword newPassword : String) (salt : Nat)
      (now : DateTime)
  | confirmPasswordReset (token newPassword : String) (salt : Nat)
      (clock : AuthService.ConfirmClock)
  deriving DecidableEq, Repr

/-- The pair of a rotation; a change of password has none. -/
abbrev SessionAnswer : Type := Except ShopError (Option (AccessToken × String × Account))

namespace SessionOperation

def program (settings : Settings) : SessionOperation → Tx SessionAnswer
  | .rotate raw call => do
    let answer ← AuthService.rotateRefreshToken settings raw call.client call.now call.draw
    pure (answer.map some)
  | .changePassword subject currentPassword newPassword salt now => do
    Accounts.changePassword settings subject currentPassword newPassword salt now
    pure (.ok none)
  | .confirmPasswordReset token newPassword salt clock => do
    AuthService.confirmPasswordReset settings token newPassword salt clock
    pure (.ok none)

/-- The operation changes the password of a user, given the reset tokens of the database. -/
def ChangesPasswordOf (settings : Settings) (db : Db) (userId : Uuid) : SessionOperation → Prop
  | .rotate .. => False
  | .changePassword subject .. => subject = userId
  | .confirmPasswordReset token .. =>
    (db.resetBy (settings.hashToken token)).map PasswordResetToken.userId = some userId

end SessionOperation

abbrev SessionOperations (ι : Type) : Type :=
  Config accounts ShopError SessionAnswer Db Session RowKey ι

/-- All of them are about to begin. -/
def SessionOperations.start {ι : Type} (settings : Settings) (db : Db)
    (ops : ι → SessionOperation) : SessionOperations ι where
  db := db
  clients i := .running ((ops i).program settings) engine.start []

def Write.changesPassword (userId : Uuid) : Write → Bool
  | .setHashedPassword id _ => id = userId
  | _ => false

/-- The session has read every unrevoked token of the user whose password it changes. -/
def Session.HasRead (w : Session) (db : Db) : Prop :=
  ∀ t ∈ db.refreshTokens.rows, t.revokedAt = none →
    (∃ x ∈ w.pending, x.changesPassword t.userId) → (w.loaded.refreshTokens.get t.id).isSome

instance Session.decidableHasRead (w : Session) (db : Db) : Decidable (w.HasRead db) :=
  inferInstanceAs (Decidable (∀ _ ∈ _, _))

/-- What an operation relies on when it commits: for a rotation, that the token is still
    unrevoked; for a new password, that it has read every token of the user. -/
def SessionOperation.Current (settings : Settings) (w : Session) (db : Db) :
    SessionOperation → Prop
  | .rotate raw _ => w.StillUnrevoked (settings.hashToken raw) db
  | .changePassword .. => w.HasRead db
  | .confirmPasswordReset .. => w.HasRead db

instance SessionOperation.decidableCurrent (settings : Settings) (w : Session) (db : Db)
    (op : SessionOperation) : Decidable (op.Current settings w db) := by
  cases op <;> exact inferInstanceAs (Decidable (∀ _ ∈ _, _))

/-- The condition on an interleaving. -/
def CommitsCurrent {ι : Type} (settings : Settings) (ops : ι → SessionOperation)
    (c : SessionOperations ι) : Event ι → Prop
  | .kill _ => True
  | .turn i =>
    match c.clients i with
    | .running (.done (.ok _)) w _ => (ops i).Current settings w c.db
    | _ => True

instance decidableCommitsCurrent {ι : Type} (settings : Settings) (ops : ι → SessionOperation)
    (c : SessionOperations ι) : (ev : Event ι) → Decidable (CommitsCurrent settings ops c ev)
  | .kill _ => isTrue trivial
  | .turn i => by
    simp only [CommitsCurrent]
    rcases c.clients i with ⟨(_ | _) | _ | _, _, _⟩ | _ | _ <;> infer_instance

variable {ι : Type} {settings : Settings} {ops : ι → SessionOperation} {db db' db₀ : Db}
  {w : Session} {held : List RowKey}

/-! ## What the others may do -/

/-- What other operations may do. -/
structure SessionRely (locks : List RowKey) (db db' : Db) : Prop where
  later : Later db.refreshTokens db'.refreshTokens
  locked : ∀ id, .refreshToken id ∈ locks →
    db'.refreshTokens.get id = db.refreshTokens.get id
  resets : ∀ tokenHash, (db'.resetBy tokenHash).map PasswordResetToken.userId =
    (db.resetBy tokenHash).map PasswordResetToken.userId

theorem sessionRely_compatible : Compatible SessionRely where
  refl _ _ := ⟨Later.refl _, fun _ _ => rfl, fun _ => rfl⟩
  trans _ _ _ _ h₁ h₂ := ⟨h₁.later.trans h₂.later,
    fun id hid => (h₂.locked id hid).trans (h₁.locked id hid),
    fun tokenHash => (h₂.resets tokenHash).trans (h₁.resets tokenHash)⟩
  forget _ _ _ h := ⟨h.later, fun _ hid => (nomatch hid), h.resets⟩
  locked _ _ _ id h hid := h.locked id hid

/-- Nobody changes whose a reset token is. -/
theorem resetBy_view {writes : List Write}
    (hkeeps : ∀ x ∈ writes, ∀ row, x ≠ .add (.passwordResetToken row)) (db : Db)
    (tokenHash : String) :
    ((writes.foldl Write.apply db).resetBy tokenHash).map PasswordResetToken.userId =
      (db.resetBy tokenHash).map PasswordResetToken.userId := by
  induction writes generalizing db with
  | nil => rfl
  | cons x rest ih =>
    rw [List.forall_mem_cons] at hkeeps
    rw [List.foldl_cons, ih hkeeps.2]
    cases x
    case add row =>
      cases row
      case passwordResetToken row => exact absurd rfl (hkeeps.1 row)
      all_goals rfl
    case setUsedAt id time =>
      have hmodify := Table.modify_eq_map db.passwordResetTokens id
        (fun t : PasswordResetToken => { t with usedAt := some time }) fun _ => rfl
      change ((db.passwordResetTokens.modify id _).rows.find? _).map _ = _
      rw [hmodify, Table.rows_map, List.find?_map, Option.map_map]
      have hhash : ((fun t : PasswordResetToken => decide (t.tokenHash = tokenHash)) ∘
          fun t : PasswordResetToken => if t.id = id then { t with usedAt := some time } else t) =
            fun t => decide (t.tokenHash = tokenHash) := by
        funext t
        simp only [Function.comp_apply]
        split <;> rfl
      rw [hhash]
      refine congrArg₂ _ ?_ rfl
      funext t
      simp only [Function.comp_apply]
      split <;> rfl
    all_goals rfl

/-! ## What is known at a commit -/

/-- What an operation knows when it is about to commit. -/
def SessionPost (settings : Settings) (db₀ : Db) (op : SessionOperation) (answer : SessionAnswer)
    (w : Session) (held : List RowKey) (db : Db) : Prop :=
  match answer with
  | .error _ => (∃ raw call, op = .rotate raw call) ∧ (∀ x ∈ w.pending, x.KeepsTokens) ∧
      ∀ x ∈ w.pending, ∀ row, x ≠ .add (.passwordResetToken row)
  | .ok none => ∃ userId, PasswordWrites userId w ∧
      (∀ other, op.ChangesPasswordOf settings db₀ other → other = userId) ∧
      ∀ db, op.Current settings w db → w.HasRead db
  | .ok (some (accessToken, _, user)) => ∃ raw call, op = .rotate raw call ∧
      ∃ start shown, SessionRely [] start db ∧
        start.tokenBy (settings.hashToken raw) = some shown ∧
        w.loaded.refreshTokens.get shown.id = some shown ∧
        accessToken.sub = shown.userId ∧ Exchange shown user w held db

/-- Revoking tokens adds no row. -/
theorem Detection.keeps {rely : List RowKey → Db → Db → Prop} {shown : RefreshToken} {start : Db}
    (h : Detection rely shown start w db) : (∀ x ∈ w.pending, x.KeepsTokens) ∧
      ∀ x ∈ w.pending, ∀ row, x ≠ .add (.passwordResetToken row) := by
  obtain ⟨read, time, -, -, hpending⟩ := h.writes
  rw [hpending]
  constructor
  · intro x hx
    obtain ⟨t, -, rfl⟩ := List.mem_map.mp hx
    trivial
  · intro x hx row
    obtain ⟨t, -, rfl⟩ := List.mem_map.mp hx
    simp

theorem wpe_sessionOperation (op : SessionOperation) {db : Db} (hdb : SessionRely [] db₀ db) :
    wpe engine SessionRely (op.program settings) engine.start [] db (SessionPost settings db₀ op)
      fun _ _ _ _ => True := by
  cases op with
  | rotate raw call =>
    refine (wpe_bind ..).mpr (wpe_mono (wpe_rotateRefreshToken sessionRely_compatible raw _ _ _ db)
      ?_ fun _ _ _ _ _ => trivial)
    rintro answer w held db' ⟨shown, hshown, hloaded, hstart, hanswer⟩
    cases answer with
    | error e => exact ⟨⟨raw, call, rfl⟩, hanswer.keeps⟩
    | ok pair =>
      exact ⟨raw, call, rfl, db, shown, hstart, hshown, hloaded, hanswer.1, hanswer.2⟩
  | changePassword subject currentPassword newPassword salt now =>
    refine (wpe_bind ..).mpr (wpe_mono (wpe_changePassword sessionRely_compatible subject
      currentPassword newPassword salt now db) ?_ fun _ _ _ _ _ => trivial)
    intro _ w held db' hwrites
    exact ⟨subject, hwrites, fun other hother => hother.symm, fun _ h => h⟩
  | confirmPasswordReset token newPassword salt clock =>
    refine (wpe_bind ..).mpr (wpe_mono (wpe_confirmPasswordReset sessionRely_compatible token
      newPassword salt clock db) ?_ fun _ _ _ _ _ => trivial)
    rintro _ w held db' ⟨record, hrecord, -, hwrites, -⟩
    refine ⟨record.userId, hwrites, fun other hother => ?_, fun _ h => h⟩
    have howner : (db₀.resetBy (settings.hashToken token)).map PasswordResetToken.userId =
        some other := hother
    rw [← hdb.resets, hrecord] at howner
    exact (Option.some.inj howner).symm

/-- What is known stays true. -/
theorem SessionPost.stable {op : SessionOperation} {answer : SessionAnswer}
    (h : SessionPost settings db₀ op answer w held db) (hdb : SessionRely held db db') :
    SessionPost settings db₀ op answer w held db' := by
  cases answer with
  | error e => exact h
  | ok value =>
    cases value with
    | none => exact h
    | some pair =>
      obtain ⟨raw, call, hop, start, shown, hstart, hshown, hloaded, hsub, hexchange⟩ := h
      have hrotated : Rotated SessionRely settings raw start (.ok pair) w held db :=
        ⟨shown, hshown, hloaded, hstart, hsub, hexchange⟩
      obtain ⟨shown', hshown', hloaded', hstart', hsub', hexchange'⟩ :=
        hrotated.stable sessionRely_compatible hdb
      exact ⟨raw, call, hop, start, shown', hstart', hshown', hloaded', hsub', hexchange'⟩

/-! ## What is committed -/

/-- The users whose password has been changed have no token left. -/
def PasswordsEndSessions (settings : Settings) (db₀ : Db) (ops : ι → SessionOperation) (db : Db)
    (results : ι → Option SessionAnswer) : Prop :=
  ∀ i userId, (results i).isSome → (ops i).ChangesPasswordOf settings db₀ userId →
    ∀ t ∈ db.refreshTokens.rows, t.userId = userId → t.revokedAt.isSome

/-- Writes that add no token, as the others see them. -/
theorem sessionRely_view (hkeeps : ∀ x ∈ w.pending, x.KeepsTokens)
    (hresets : ∀ x ∈ w.pending, ∀ row, x ≠ .add (.passwordResetToken row)) {locks : List RowKey}
    (hlocks : ∀ l ∈ locks, l ∉ engine.needCommit w) : SessionRely locks db (w.view db) := by
  obtain ⟨f, hf⟩ := exists_tokenUpdate hkeeps
  have hview : (w.view db).refreshTokens = db.refreshTokens.map f hf.id := hf.apply db
  refine ⟨?_, ?_, resetBy_view hresets db⟩
  · rw [hview]
    exact Later.map hf.toAges
  · intro id hid
    rw [hview, Table.get_map]
    cases hrow : db.refreshTokens.get id with
    | none => rfl
    | some t =>
      have hid' : t.id = id := Table.key_of_get hrow
      rw [Option.map_some, hf.keeps t (by rw [hid']; exact hlocks _ hid)]

/-- A token that such writes leave unrevoked was so before. -/
theorem unrevoked_of_view (hkeeps : ∀ x ∈ w.pending, x.KeepsTokens) {t' : RefreshToken}
    (ht' : t' ∈ (w.view db).refreshTokens.rows) (hunrevoked : t'.revokedAt = none) :
    ∃ t ∈ db.refreshTokens.rows, t.id = t'.id ∧ t.userId = t'.userId ∧ t.revokedAt = none ∧
      ∀ time, .setRevokedAt t.id time ∉ w.pending := by
  obtain ⟨f, hf⟩ := exists_tokenUpdate hkeeps
  have hview : (w.view db).refreshTokens = db.refreshTokens.map f hf.id := hf.apply db
  rw [hview] at ht'
  obtain ⟨t, ht, rfl⟩ := List.mem_map.mp ht'
  have hnot : ¬ (f t).revokedAt.isSome := by
    rw [hunrevoked]
    exact Bool.false_ne_true
  refine ⟨t, ht, (hf.id t).symm, (hf.userId t).symm, ?_, ?_⟩
  · cases hrevoked : t.revokedAt with
    | none => rfl
    | some time => exact absurd (hf.revokedAt t (by rw [hrevoked]; rfl)) hnot
  · intro time hmem
    exact hnot (hf.revokes t.id time hmem t rfl)

section Commit

variable [DecidableEq ι] {results : ι → Option SessionAnswer} {i : ι}

theorem isSome_of_update {answer : SessionAnswer} {j : ι}
    (h : (Function.update results i (some answer) j).isSome) : j = i ∨ (results j).isSome := by
  by_cases hji : j = i
  · exact Or.inl hji
  · rw [Function.update_of_ne hji] at h
    exact Or.inr h

omit [DecidableEq ι] in
/-- A token that is unrevoked is not of a user whose password has been changed. -/
theorem PasswordsEndSessions.not_changed {tokenHash : String} {start : Db} {shown : RefreshToken}
    (hinv : PasswordsEndSessions settings db₀ ops db results) (hstart : SessionRely [] start db)
    (hshown : start.tokenBy tokenHash = some shown)
    (hloaded : w.loaded.refreshTokens.get shown.id = some shown)
    (hunrevoked : shown.revokedAt = none) (hstill : w.StillUnrevoked tokenHash db) {j : ι}
    (hj : (results j).isSome) : ¬ (ops j).ChangesPasswordOf settings db₀ shown.userId := by
  intro hchanges
  obtain ⟨row, hrow, huser, -⟩ := hstart.later shown.id shown (get_of_tokenBy hshown)
  have hhash : shown.tokenHash = tokenHash := by
    simpa using List.find?_some hshown
  have hnone := hstill shown (Table.mem_of_get hloaded) hhash hunrevoked row hrow
  have hsome := hinv j _ hj hchanges row (Table.mem_of_get hrow) huser
  rw [hnone] at hsome
  cases hsome

/-- A commit of an exchange: the token is not of such a user. -/
theorem PasswordsEndSessions.exchange {raw : String} {call : RotationCall} {start : Db}
    {shown : RefreshToken} {user : Account} {answer : SessionAnswer}
    (hinv : PasswordsEndSessions settings db₀ ops db results) (hop : ops i = .rotate raw call)
    (hstart : SessionRely [] start db)
    (hshown : start.tokenBy (settings.hashToken raw) = some shown)
    (hexchange : Exchange shown user w held db)
    (hother : ∀ j, (results j).isSome → ¬ (ops j).ChangesPasswordOf settings db₀ shown.userId) :
    PasswordsEndSessions settings db₀ ops (w.view db)
        (Function.update results i (some answer)) ∧
      ∀ locks, (∀ l ∈ locks, l ∉ held ∧ l ∉ engine.needCommit w) →
        SessionRely locks db (w.view db) := by
  obtain ⟨row, hrow, -⟩ := hstart.later shown.id shown (get_of_tokenBy hshown)
  obtain ⟨hlater, -, hkept⟩ := hexchange.later_view hrow
  obtain ⟨now, new, -, hnewUser, -, -, hview⟩ := hexchange.tokens_view hrow
  constructor
  · intro j userId hj hchanges t ht hu
    rcases isSome_of_update hj with rfl | hj
    · rw [hop] at hchanges
      exact hchanges.elim
    · rw [hview] at ht
      rcases Table.mem_put ht with rfl | ⟨hold, -⟩
      · rw [hnewUser] at hu
        exact absurd (hu ▸ hchanges) (hother j hj)
      · rcases Table.mem_put hold with rfl | ⟨hold, -⟩
        · rfl
        · exact hinv j userId hj hchanges t hold hu
  · intro locks hlocks
    refine ⟨hlater, fun id hid => hkept id (hlocks _ hid).1 (hlocks _ hid).2, ?_⟩
    obtain ⟨now, new, -, -, -, -, hpending, -⟩ := hexchange.writes
    refine resetBy_view (fun x hx resetRow => ?_) db
    rw [hpending] at hx
    simp only [List.mem_cons, List.not_mem_nil, or_false] at hx
    rcases hx with rfl | rfl | rfl <;> simp

/-- A commit of a new password, by a transaction that has read every token of the user. -/
theorem PasswordsEndSessions.newPassword {userId : Uuid} {answer : SessionAnswer}
    (hinv : PasswordsEndSessions settings db₀ ops db results) (hwrites : PasswordWrites userId w)
    (honly : ∀ other, (ops i).ChangesPasswordOf settings db₀ other → other = userId)
    (hread : w.HasRead db) :
    PasswordsEndSessions settings db₀ ops (w.view db)
      (Function.update results i (some answer)) := by
  intro j other hj hchanges t' ht' hu
  by_contra hnot
  have hnone : t'.revokedAt = none := by simpa using hnot
  obtain ⟨t, ht, hid, huser, hunrevoked, hnotWritten⟩ :=
    unrevoked_of_view hwrites.keepsTokens ht' hnone
  rcases isSome_of_update hj with rfl | hj
  · obtain ⟨hashed, hmem⟩ := hwrites.password
    have howner : t.userId = userId := (huser.trans hu).trans (honly other hchanges)
    have hloaded := hread t ht hunrevoked ⟨_, hmem, by simp [Write.changesPassword, howner]⟩
    obtain ⟨loaded, hloaded⟩ := Option.isSome_iff_exists.mp hloaded
    obtain ⟨time, hrevokes⟩ := hwrites.revokes loaded (Table.mem_of_get hloaded)
    rw [Table.key_of_get hloaded] at hrevokes
    exact hnotWritten time hrevokes
  · have hsome := hinv j other hj hchanges t ht (huser.trans hu)
    rw [hunrevoked] at hsome
    cases hsome

/-- A commit that only revokes. -/
theorem PasswordsEndSessions.revoke {answer : SessionAnswer} {raw : String} {call : RotationCall}
    (hinv : PasswordsEndSessions settings db₀ ops db results) (hop : ops i = .rotate raw call)
    (hkeeps : ∀ x ∈ w.pending, x.KeepsTokens) :
    PasswordsEndSessions settings db₀ ops (w.view db)
      (Function.update results i (some answer)) := by
  intro j userId hj hchanges t' ht' hu
  by_contra hnot
  have hnone : t'.revokedAt = none := by simpa using hnot
  obtain ⟨t, ht, -, huser, hunrevoked, -⟩ := unrevoked_of_view hkeeps ht' hnone
  rcases isSome_of_update hj with rfl | hj
  · rw [hop] at hchanges
    exact hchanges.elim
  · have hsome := hinv j userId hj hchanges t ht (huser.trans hu)
    rw [hunrevoked] at hsome
    cases hsome

end Commit

/-! ## Every interleaving -/

section Runs

variable {c : SessionOperations ι} {i : ι}

theorem CommitsCurrent.done {value : Option (AccessToken × String × Account)}
    (h : CommitsCurrent settings ops c (.turn i))
    (hi : c.clients i = .running (.done (.ok value)) w held) : (ops i).Current settings w c.db := by
  simpa only [CommitsCurrent, hi] using h

variable [DecidableEq ι]

/-- The proof outline. -/
def sessionOutline (settings : Settings) (db₀ : Db) (ops : ι → SessionOperation) :
    Outline engine (CommitsCurrent settings ops) where
  rely _ := SessionRely
  post i := SessionPost settings db₀ (ops i)
  inv := PasswordsEndSessions settings db₀ ops
  rely_refl _ := sessionRely_compatible.refl
  rely_trans _ := sessionRely_compatible.trans
  post_stable _ _ _ _ _ _ h hdb := h.stable hdb
  commit_ok := by
    intro c i answer w held db' hi hcond hinv hpost hcommit
    obtain ⟨-, rfl⟩ := engine_commit_ok.mp hcommit
    cases answer with
    | error e =>
      obtain ⟨⟨raw, call, hop⟩, hkeeps, hresets⟩ := hpost
      exact ⟨hinv.revoke hop hkeeps, fun _ _ locks hlocks =>
        sessionRely_view hkeeps hresets fun l hl => (hlocks l hl).2⟩
    | ok value =>
      have hcurrent := hcond.done hi
      cases value with
      | none =>
        obtain ⟨userId, hwrites, honly, hop⟩ := hpost
        exact ⟨hinv.newPassword hwrites honly (hop c.db hcurrent), fun _ _ locks hlocks =>
          sessionRely_view hwrites.keepsTokens hwrites.keepsResets fun l hl => (hlocks l hl).2⟩
      | some pair =>
        obtain ⟨raw, call, hop, start, shown, hstart, hshown, hloaded, -, hexchange⟩ := hpost
        rw [hop] at hcurrent
        obtain ⟨hinv', hrely⟩ := hinv.exchange hop hstart hshown hexchange fun j =>
          hinv.not_changed hstart hshown hloaded hexchange.unrevoked hcurrent
        exact ⟨hinv', fun _ _ => hrely⟩

theorem session_good (store : Store) (ops : ι → SessionOperation) :
    (sessionOutline settings store.db ops).Good
      (SessionOperations.start settings store.db ops) := by
  refine Outline.good_start _ store.db _ (fun _ _ h => nomatch h) ?_
  intro i db hdb
  exact (wpe_sessionOperation (ops i) hdb).wp

variable [Fintype ι]

/-- The sessions of a user whose password has been changed have ended: none of the tokens is
    left, and none can be exchanged. -/
structure SessionsEnded (settings : Settings) (db₀ : Db) (ops : ι → SessionOperation)
    (userId : Uuid) (c : SessionOperations ι) : Prop where
  revoked : ∀ t ∈ c.db.refreshTokens.rows, t.userId = userId → t.revokedAt.isSome
  notExchanged : ∀ i c' pair, CommitsCurrent settings ops c (.turn i) →
    c.exec engine (.turn i) = some c' → c'.clients i = .committed (.ok (some pair)) →
      pair.1.sub ≠ userId

/-- In every interleaving in which tokens are exchanged only while they are unrevoked, and
    passwords changed only by transactions that have read every token of the user. -/
theorem password_ends_sessions {store : Store}
    (h : Reach engine (CommitsCurrent settings ops)
      (SessionOperations.start settings store.db ops) c)
    {answer : SessionAnswer} (hi : c.clients i = .committed answer) {userId : Uuid}
    (hchanges : (ops i).ChangesPasswordOf settings store.db userId) :
    SessionsEnded settings store.db ops userId c := by
  have hgood := (sessionOutline settings store.db ops).sound (session_good store ops) h
  have hinv : PasswordsEndSessions settings store.db ops c.db c.results := hgood.inv
  have hcommitted : (c.results i).isSome := by
    simp only [Config.results, hi, Client.result, Option.isSome_some]
  refine ⟨hinv i userId hcommitted hchanges, ?_⟩
  rintro j c' ⟨accessToken, refreshToken, user⟩ hcond hexec hj hsub
  obtain ⟨w, held, hdone, -⟩ := Config.exec_committed hexec hj
  obtain ⟨raw, call, hop, start, shown, hstart, hshown, hloaded, howner, hexchange⟩ :=
    hgood.clients j _ w held hdone c.db (sessionRely_compatible.refl held c.db)
  have hcurrent := hcond.done hdone
  rw [hop] at hcurrent
  have hshownUser : shown.userId = userId := howner.symm.trans hsub
  exact hinv.not_changed hstart hshown hloaded hexchange.unrevoked hcurrent hcommitted
    (hshownUser ▸ hchanges)

end Runs

/-- Sara changes her password, and somebody refreshes the session. -/
def changeAndRefresh : Fin 2 → SessionOperation
  | 0 => .changePassword 1 "sara" "new" 0 5
  | 1 => .rotate "first" ⟨noClient, 5, ⟨"second", 2, 5, 0, 5⟩⟩

/-- One after the other. -/
theorem password_ends_sessions_refresh : ∃ c : SessionOperations (Fin 2),
    Reach engine (CommitsCurrent plainSettings changeAndRefresh)
      (SessionOperations.start plainSettings oneSession.db changeAndRefresh) c ∧
    SessionsEnded plainSettings oneSession.db changeAndRefresh 1 c := by
  let schedule : List (Event (Fin 2)) := List.replicate 6 (.turn 1) ++ List.replicate 5 (.turn 0)
  have hrun : ((SessionOperations.start plainSettings oneSession.db changeAndRefresh).execAll engine
      (CommitsCurrent plainSettings changeAndRefresh) schedule).any
        (fun c => ∀ i, (c.results i).isSome) = true := by decide +kernel
  obtain ⟨c, hreach, hall⟩ := Reach.exists_of_execAll schedule hrun
  refine ⟨c, hreach, ?_⟩
  have hchanged := hall 0
  unfold Config.results at hchanged
  cases h₀ : c.clients 0 with
  | running p w held =>
    rw [h₀] at hchanged
    cases hchanged
  | aborted e =>
    rw [h₀] at hchanged
    cases hchanged
  | committed answer => exact password_ends_sessions hreach h₀ rfl

/-- The new password is committed while the refresh is under way: the session goes on with a
    token that is not revoked. -/
theorem password_ends_sessions_fails : ∃ c : SessionOperations (Fin 2),
    Reach engine anyEvent (SessionOperations.start plainSettings oneSession.db changeAndRefresh) c ∧
    (∀ i, (c.results i).isSome) ∧ (changeAndRefresh 0).ChangesPasswordOf plainSettings oneSession.db 1 ∧
    ¬ SessionsEnded plainSettings oneSession.db changeAndRefresh 1 c := by
  let schedule : List (Event (Fin 2)) := .turn 1 :: List.replicate 5 (.turn 0) ++
    List.replicate 5 (.turn 1)
  have hrun : ((SessionOperations.start plainSettings oneSession.db changeAndRefresh).execAll engine
      anyEvent schedule).any (fun c => (∀ i, (c.results i).isSome) ∧
        ∃ t ∈ c.db.refreshTokens.rows, t.userId = 1 ∧ t.revokedAt = none) = true := by
    decide +kernel
  obtain ⟨c, hreach, hall, t, ht, huser, hunrevoked⟩ := Reach.exists_of_execAll schedule hrun
  refine ⟨c, hreach, hall, rfl, fun hclaim => ?_⟩
  have hsome := hclaim.revoked t ht huser
  rw [hunrevoked] at hsome
  cases hsome

end Accounts

end ElectronicShop
