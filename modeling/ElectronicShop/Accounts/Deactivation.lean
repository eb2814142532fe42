import ElectronicShop.Accounts.Operations

/-!
# A deactivated account gets no session

`authenticate` and `rotate_refresh_token` refuse an account that is not active;
`login_or_register_with_google` does not look. So a deactivated account gets tokens from a
Google login, and from whoever has read it before it was deactivated and commits after.
-/

namespace ElectronicShop

namespace Accounts

open Txn

def AccountOperation.isGoogleLogin : AccountOperation → Bool
  | .googleLogin .. => true
  | _ => false

/-- The account that tokens are issued for: it is still active if it was when it was read,
    and a Google login has read it active. -/
def AccountOperation.IssuesToActive (op : AccountOperation) (pair : TokenPair) (w : Session)
    (db : Db) : Prop :=
  ∀ read ∈ w.loaded.users.get pair.accessToken.sub,
    (op.isGoogleLogin → read.isActive = true) ∧
    (read.isActive = true → ∀ user ∈ db.users.get pair.accessToken.sub, user.isActive = true)

instance AccountOperation.decidableIssuesToActive (op : AccountOperation) (pair : TokenPair)
    (w : Session) (db : Db) : Decidable (op.IssuesToActive pair w db) :=
  inferInstanceAs (Decidable (∀ _ ∈ _, _))

/-- The condition on an interleaving. -/
def CommitsToActive {ι : Type} (ops : ι → AccountOperation) (c : AccountOperations ι) :
    Event ι → Prop
  | .kill _ => True
  | .turn i =>
    match c.clients i with
    | .running (.done (.ok (some pair))) w _ => (ops i).IssuesToActive pair w c.db
    | _ => True

instance decidableCommitsToActive {ι : Type} (ops : ι → AccountOperation)
    (c : AccountOperations ι) : (ev : Event ι) → Decidable (CommitsToActive ops c ev)
  | .kill _ => isTrue trivial
  | .turn i => by
    simp only [CommitsToActive]
    rcases c.clients i with ⟨(_ | _ | _) | _ | _, _, _⟩ | _ | _ <;> infer_instance

/-! ## The transactions that issue no tokens -/

/-- Every statement but the insert of a token. -/
def Stmt.KeepsTokens : Stmt → Prop
  | .insert row => (Write.add row).KeepsTokens
  | .write x => x.KeepsTokens
  | _ => True

theorem Stmt.Reads.keepsTokens {s : Stmt} (h : s.Reads) : s.KeepsTokens := by
  cases s with
  | insert row => exact h.elim
  | write x => exact h.elim
  | _ => trivial

/-- Nothing the session writes adds a token. -/
def Session.KeepsTokens (w : Session) : Prop := ∀ x ∈ w.pending, x.KeepsTokens

theorem Session.KeepsTokens.execIn {w : Session} (hw : w.KeepsTokens) {s : Stmt}
    (hs : s.KeepsTokens) (db : Db) : (s.execIn w db).2.KeepsTokens := by
  intro x hx
  rcases Stmt.mem_pending_execIn hx with hold | ⟨row, rfl, -, rfl⟩ | rfl
  · exact hw x hold
  · exact hs
  · exact hs

/-! ## The transactions that issue tokens -/

/-- What is known of the account that tokens are issued for: it has been read, active unless
    this is a Google login; or it is new. -/
def Session.Knows (w : Session) (google : Bool) (userId : Uuid) (held : List RowKey) (db : Db) :
    Prop :=
  (∃ read, w.loaded.users.get userId = some read ∧ (google = false → read.isActive = true)) ∨
  (.user userId ∈ held ∧ db.users.get userId = none)

/-- What is known when tokens are about to be committed. -/
structure Issues (google : Bool) (pair : TokenPair) (w : Session) (held : List RowKey) (db : Db) :
    Prop where
  tokens : ∀ row, .add (.refreshToken row) ∈ w.pending → row.userId = pair.accessToken.sub
  account : w.Knows google pair.accessToken.sub held db

section Issue

variable {settings : Settings} {w : Session} {held : List RowKey} {db db' : Db} {google : Bool}
  {userId : Uuid}

/-- What is known stays true. -/
theorem Session.Knows.stable (h : w.Knows google userId held db) (hdb : AccountRely held db db') :
    w.Knows google userId held db' := by
  rcases h with hread | ⟨hheld, hfree⟩
  · exact Or.inl hread
  · right
    refine ⟨hheld, ?_⟩
    rw [hdb.users _ hheld]
    exact hfree

/-- A session for a user of whom enough is known. -/
theorem wpe_startSession {user : Account} {client : ClientMeta} {familyId : Uuid} {draw : Draw}
    (hkeeps : w.KeepsTokens) (hknows : w.Knows google user.id held db) :
    wpe engine AccountRely (startSession settings user client familyId draw) w held db
      (Issues google) fun _ _ _ _ => True := by
  unfold startSession AuthService.issueTokenPair AuthService.issueRefreshToken
  simp only [Prog.bind_assoc]
  refine wpe_insert_bind (fun _ _ => trivial) fun db₁ h₁ htaken => ?_
  have hheld : ∀ l ∈ held, l ∈ (NewRow.refreshToken
      (AuthService.newRefreshToken settings user familyId client draw)).key ::
        w.pending.filterMap Write.locks ++ held := fun l hl => List.mem_append_right _ hl
  refine ⟨?_, ?_⟩
  · intro row hrow
    rcases List.mem_append.mp hrow with hold | hnew
    · exact absurd (hkeeps _ hold) id
    · cases List.mem_singleton.mp hnew
      rfl
  · rcases hknows.stable (h₁.mono hheld) with hread | ⟨hlock, hfree⟩
    · exact Or.inl hread
    · exact Or.inr ⟨hheld _ hlock, hfree⟩

/-- A new account, by a session that has written nothing. -/
theorem wpe_newUser {α : Type} (google : Bool) {user : Account} {f : Unit → Tx α}
    {post : α → Session → List RowKey → Db → Prop} (hpending : w.pending = [])
    (hrest : ∀ w' held' db', w'.KeepsTokens → w'.Knows google user.id held' db' →
      wpe engine AccountRely (f ()) w' held' db' post fun _ _ _ _ => True) :
    wpe engine AccountRely (insert (.user user) >>= f) w held db post fun _ _ _ _ => True := by
  refine wpe_insert_bind (fun _ _ => trivial) fun db₁ h₁ htaken => ?_
  refine hrest _ _ _ ?_ (Or.inr ⟨List.mem_append_left _ (List.mem_cons_self ..), ?_⟩)
  · intro x hx
    rcases List.mem_append.mp hx with hold | hnew
    · rw [hpending] at hold
      cases hold
    · rw [List.mem_singleton.mp hnew]
      trivial
  · have hview : w.view db = db := by
      unfold Session.view
      rw [hpending]
      rfl
    rw [hview] at htaken
    rw [h₁.users _ (List.mem_append_left _ (List.mem_cons_self ..))]
    exact Option.isNone_iff_eq_none.mp (Option.isSome_eq_false_iff.mp htaken)

/-- A row that is not about users or tokens. -/
theorem wpe_insertOther {α : Type} {row : NewRow} {f : Unit → Tx α}
    {post : α → Session → List RowKey → Db → Prop} (hrow : (Write.add row).KeepsTokens)
    (hkeeps : w.KeepsTokens) (hknows : w.Knows google userId held db)
    (hrest : ∀ w' held' db', w'.KeepsTokens → w'.Knows google userId held' db' →
      wpe engine AccountRely (f ()) w' held' db' post fun _ _ _ _ => True) :
    wpe engine AccountRely (insert row >>= f) w held db post fun _ _ _ _ => True := by
  refine wpe_insert_bind (fun _ _ => trivial) fun db₁ h₁ _ => ?_
  have hheld : ∀ l ∈ held, l ∈ row.key :: w.pending.filterMap Write.locks ++ held :=
    fun l hl => List.mem_append_right _ hl
  refine hrest _ _ _ ?_ ?_
  · intro x hx
    rcases List.mem_append.mp hx with hold | hnew
    · exact hkeeps x hold
    · rw [List.mem_singleton.mp hnew]
      exact hrow
  · rcases hknows.stable (h₁.mono hheld) with hread | ⟨hlock, hfree⟩
    · exact Or.inl hread
    · exact Or.inr ⟨hheld _ hlock, hfree⟩

/-- What a service knows of the user that it returns. -/
def Returns (google : Bool) (user : Account) (w : Session) (held : List RowKey) (db : Db) : Prop :=
  w.KeepsTokens ∧ w.Knows google user.id held db

/-- A service that returns a user, and the session for them. -/
theorem wpe_service {m : Tx Account} {client : ClientMeta} {familyId : Uuid} {draw : Draw}
    (h : wpe engine AccountRely m w held db (Returns google) fun _ _ _ _ => True) :
    wpe engine AccountRely (m >>= fun user => startSession settings user client familyId draw) w held
      db (Issues google) fun _ _ _ _ => True := by
  refine (wpe_bind ..).mpr (wpe_mono h ?_ fun _ _ _ _ h => h)
  rintro user w held db ⟨hkeeps, hknows⟩
  exact wpe_startSession hkeeps hknows

theorem wpe_register (data : RegisterRequest) (account : RegisterDraw) (db : Db) :
    wpe engine AccountRely (AuthService.register settings data account) engine.start [] db
      (Returns false) fun _ _ _ _ => True := by
  refine wpe_send_bind.mpr fun db₁ _ => ?_
  have hemail : ((Stmt.getUserByEmail (settings.lower data.email)).execIn engine.start db).2.pending =
      [] := Stmt.pending_execIn (s := .getUserByEmail (settings.lower data.email)) trivial ..
  refine wpe_raiseIfSome_bind.mpr ⟨fun _ => trivial, fun _ => ?_⟩
  refine wpe_send_bind.mpr fun db₂ _ => ?_
  have husername := (Stmt.pending_execIn (s := .getUserByUsername data.username) trivial _ db₁).trans
    hemail
  refine wpe_raiseIfSome_bind.mpr ⟨fun _ => trivial, fun _ => ?_⟩
  refine wpe_newUser false husername fun w held db₃ hkeeps hknows => ?_
  unfold AuthService.issueEmailVerification
  exact wpe_insertOther trivial hkeeps hknows fun w held db₄ hkeeps hknows => ⟨hkeeps, hknows⟩

/-- The session that has read one user, and nothing else. -/
theorem Session.loaded_user {w : Session} {user : Account}
    (hobjects : w.objects.users = ∅) (hloaded : w.loaded.users = ∅)
    (hget : (w.view db).users.get user.id = some user) :
    (w.load db (.user user.id)).loaded.users.get user.id = some user := by
  change (w.loaded.users.remember w.objects.users (w.view db).users user.id).get user.id = _
  rw [hobjects, hloaded, Table.get_remember_self]
  exact hget

theorem wpe_authenticate (email password : String) (now : DateTime) (db : Db) :
    wpe engine AccountRely (AuthService.authenticate settings email password now) engine.start [] db
      (Returns false) fun _ _ _ _ => True := by
  refine wpe_send_bind.mpr fun db₁ _ => ?_
  have hview : engine.start.view db = db := rfl
  cases huser : db.userByEmail (settings.lower email) with
  | none =>
    simp only [Stmt.execIn, hview, huser]
    trivial
  | some stored =>
    simp only [Stmt.execIn, hview, huser]
    refine wpe_orRaise_bind.mpr ⟨fun _ => trivial, fun found hfound => ?_⟩
    have hsame : found = stored := (Option.some.inj hfound).symm
    subst hsame
    have hget : db.users.get found.id = some found :=
      Table.get_of_mem (List.mem_of_find?_eq_some huser)
    refine wpe_if_raise.mpr ⟨fun _ => trivial, fun _ => ?_⟩
    refine wpe_if_raise.mpr ⟨fun _ => trivial, fun hactive => ?_⟩
    refine wpe_send_bind.mpr fun db₂ _ => ⟨?_, Or.inl ⟨found, ?_, ?_⟩⟩
    · intro x hx
      cases List.mem_singleton.mp hx
      trivial
    · exact Session.loaded_user rfl rfl hget
    · intro _
      simpa using hactive

theorem wpe_refresh (cookie : Option String) (client : ClientMeta) (now : DateTime) (draw : Draw)
    (db : Db) :
    wpe engine AccountRely (refresh settings cookie client now draw) engine.start [] db
      (fun answer w held db => match answer with
        | .ok pair => Issues false pair w held db
        | .error _ => w.KeepsTokens) fun _ _ _ _ => True := by
  refine wpe_orRaise_bind.mpr ⟨fun _ => trivial, fun raw _ => ?_⟩
  refine (wpe_bind ..).mpr (wpe_mono (wpe_rotateRefreshToken accountRely_compatible raw _ _ _ db)
    ?_ fun _ _ _ _ _ => trivial)
  rintro answer w held db' ⟨shown, hshown, hloaded, hstart, hanswer⟩
  cases answer with
  | error e =>
    obtain ⟨hrevoked, read, time, -, -, hpending⟩ := hanswer
    intro x hx
    rw [hpending] at hx
    obtain ⟨t, -, rfl⟩ := List.mem_map.mp hx
    trivial
  | ok pair =>
    obtain ⟨accessToken, refreshToken, user⟩ := pair
    obtain ⟨hsub, hexchange⟩ := hanswer
    obtain ⟨time, new, -, hnew, -, -, hpending, -⟩ := hexchange.writes
    refine ⟨?_, Or.inl ⟨user, ?_, fun _ => hexchange.active⟩⟩
    · intro row hrow
      rw [hpending] at hrow
      have hrowNew : row = new := by simpa using hrow
      rw [hrowNew]
      exact hnew.trans hsub.symm
    · exact hsub ▸ hexchange.owner

/-- Looking for a user name only reads. -/
theorem wpe_searchUsername {base username : String} {lookups suffix : Nat}
    (hpending : w.pending = []) :
    wpe engine AccountRely (AuthService.searchUsername base lookups username suffix) w held db
      (fun _ w' _ _ => w'.pending = []) fun _ _ _ _ => True := by
  induction lookups generalizing w held db username suffix with
  | zero => trivial
  | succ lookups ih =>
    refine wpe_send_bind.mpr fun db₁ _ => ?_
    have hread := (Stmt.pending_execIn (s := .getUserByUsername username) trivial w db).trans
      hpending
    split
    · exact hread
    · exact ih hread

/-- An identity that is not linked: a new user. -/
theorem wpe_registerWithGoogle (identity : GoogleIdentity) (account : GoogleDraw)
    (hpending : w.pending = []) :
    wpe engine AccountRely (AuthService.registerWithGoogle settings identity account) w held db
      (Returns true) fun _ _ _ _ => True := by
  refine wpe_send_bind.mpr fun db₁ _ => ?_
  have hemail := (Stmt.pending_execIn (s := .getUserByEmail (settings.lower identity.email)) trivial
    w db).trans hpending
  refine wpe_raiseIfSome_bind.mpr ⟨fun _ => trivial, fun _ => ?_⟩
  refine (wpe_bind ..).mpr (wpe_mono (wpe_searchUsername hemail) ?_ fun _ _ _ _ h => h)
  intro username w₁ held₁ db₂ hpending₁
  refine wpe_newUser true hpending₁ fun w₂ held₂ db₃ hkeeps hknows => ?_
  exact wpe_insertOther trivial hkeeps hknows fun w₃ held₃ db₄ hkeeps hknows => ⟨hkeeps, hknows⟩

theorem wpe_loginOrRegisterWithGoogle (identity : GoogleIdentity) (account : GoogleDraw) (db : Db) :
    wpe engine AccountRely (AuthService.loginOrRegisterWithGoogle settings identity account)
      engine.start [] db (Returns true) fun _ _ _ _ => True := by
  unfold AuthService.loginOrRegisterWithGoogle AuthService.getByOAuth
  rw [Prog.bind_assoc]
  refine wpe_send_bind.mpr fun db₁ _ => ?_
  simp only [Stmt.execIn]
  cases (engine.start.view db).oauthBy identity.subject with
  | none => exact wpe_registerWithGoogle identity account rfl
  | some linked =>
    refine wpe_send_bind.mpr fun db₂ _ => ?_
    simp only [Stmt.execIn]
    cases hfound : engine.start.objects.users.lookup (engine.start.view db₁).users linked.userId with
    | none => exact wpe_registerWithGoogle identity account rfl
    | some user =>
      have hget : db₁.users.get linked.userId = some user := hfound
      have huser : user.id = linked.userId := Table.key_of_get hget
      refine wpe_send_bind.mpr fun db₃ _ => ⟨?_, Or.inl ⟨user, ?_, by simp⟩⟩
      · intro x hx
        cases List.mem_singleton.mp hx
        trivial
      · rw [← huser] at hget ⊢
        exact Session.loaded_user rfl rfl hget

/-- What an operation knows when it is about to commit. -/
def AccountPost (op : AccountOperation) (answer : Except ShopError Answer) (w : Session)
    (held : List RowKey) (db : Db) : Prop :=
  match answer with
  | .ok (some pair) => Issues op.isGoogleLogin pair w held db
  | _ => w.KeepsTokens

/-- What is known stays true. -/
theorem AccountPost.stable {op : AccountOperation} {answer : Except ShopError Answer}
    (h : AccountPost op answer w held db) (hdb : AccountRely held db db') :
    AccountPost op answer w held db' := by
  cases answer with
  | error e => exact h
  | ok value =>
    cases value with
    | none => exact h
    | some pair => exact ⟨h.tokens, h.account.stable hdb⟩

/-- An operation that issues a pair. -/
theorem wpe_pair {op : AccountOperation} {m : Tx TokenPair}
    (h : wpe engine AccountRely m w held db (Issues op.isGoogleLogin) fun _ _ _ _ => True) :
    wpe engine AccountRely (m >>= fun pair => pure (.ok (some pair))) w held db (AccountPost op)
      fun _ _ _ _ => True :=
  (wpe_bind ..).mpr (wpe_mono h (fun _ _ _ _ h => h) fun _ _ _ _ h => h)

/-- An operation that issues none. -/
theorem wpe_noPair {α : Type} {op : AccountOperation} {m : Tx α} (hm : m.Uses Stmt.KeepsTokens) :
    wpe engine AccountRely (m >>= fun _ => pure (.ok none)) engine.start [] db (AccountPost op)
      fun _ _ _ _ => True := by
  have hstart : engine.start.KeepsTokens := fun _ hx => nomatch hx
  have hkeeps : wpe engine AccountRely m engine.start [] db (fun _ w _ _ => w.KeepsTokens)
      (fun _ w _ _ => w.KeepsTokens) :=
    Txn.wpe_of_uses (fun (w : Session) _ _ => w.KeepsTokens) (fun _ hs _ _ db hw _ _ => hw.execIn hs db) hm
      hstart
  exact (wpe_bind ..).mpr (wpe_mono hkeeps (fun _ _ _ _ h => h) fun _ _ _ _ _ => trivial)

theorem wpe_accountOperation (op : AccountOperation) (db : Db) :
    wpe engine AccountRely (op.program settings) engine.start [] db (AccountPost op)
      fun _ _ _ _ => True := by
  cases op with
  | register data client account familyId draw =>
    exact wpe_pair (wpe_service (wpe_register data account db))
  | login email password client now familyId draw =>
    exact wpe_pair (wpe_service (wpe_authenticate email password now db))
  | refresh cookie client now draw =>
    refine (wpe_bind ..).mpr (wpe_mono (wpe_refresh cookie client now draw db) ?_
      fun _ _ _ _ h => h)
    intro answer w held db' h
    cases answer <;> exact h
  | logout cookie now =>
    exact wpe_noPair (uses_logout (fun _ => Stmt.Reads.keepsTokens) cookie now fun _ => trivial)
  | changePassword subject currentPassword newPassword salt now =>
    exact wpe_noPair (uses_changePassword (fun _ => Stmt.Reads.keepsTokens) subject currentPassword
      newPassword salt now (fun _ _ => trivial) fun _ => trivial)
  | requestPasswordReset email draw =>
    exact wpe_noPair (uses_requestPasswordReset (fun _ => Stmt.Reads.keepsTokens) email draw fun _ => trivial)
  | confirmPasswordReset token newPassword salt clock =>
    exact wpe_noPair (uses_confirmPasswordReset (fun _ => Stmt.Reads.keepsTokens) token newPassword
      salt clock (fun _ _ => trivial) (fun _ => trivial) fun _ => trivial)
  | googleLogin identity client account familyId draw =>
    exact wpe_pair (wpe_service (wpe_loginOrRegisterWithGoogle identity account db))
  | googleLink userId identity account =>
    exact wpe_noPair (uses_googleLink (fun _ => Stmt.Reads.keepsTokens) userId identity account fun _ => trivial)
  | updateUser update =>
    exact wpe_noPair (uses_updateUser (fun _ => Stmt.Reads.keepsTokens) update.subject update.userId update.data
      (fun _ => trivial) (fun _ _ => trivial) fun _ _ => trivial)

end Issue

/-! ## Every interleaving -/

/-- A token that a write leaves is one that was there, or the one that it adds. -/
theorem Write.mem_refreshTokens (x : Write) {db : Db} {t : RefreshToken}
    (ht : t ∈ (x.apply db).refreshTokens.rows) :
    (∃ old ∈ db.refreshTokens.rows, old.id = t.id ∧ old.userId = t.userId) ∨
      x = .add (.refreshToken t) := by
  have hmodify : ∀ (row : Uuid) (f : RefreshToken → RefreshToken) (hid : ∀ t, (f t).id = t.id),
      (∀ t, (f t).userId = t.userId) → t ∈ (db.refreshTokens.modify row f).rows →
        ∃ old ∈ db.refreshTokens.rows, old.id = t.id ∧ old.userId = t.userId := by
    intro row f hid huser hmem
    rw [Table.modify_eq_map _ _ f hid] at hmem
    obtain ⟨old, hold, rfl⟩ := List.mem_map.mp hmem
    refine ⟨old, hold, ?_⟩
    split
    · exact ⟨(hid old).symm, (huser old).symm⟩
    · exact ⟨rfl, rfl⟩
  cases x
  case add row =>
    cases row
    case refreshToken row =>
      rcases Table.mem_put ht with rfl | ⟨hold, -⟩
      · exact Or.inr rfl
      · exact Or.inl ⟨t, hold, rfl, rfl⟩
    all_goals exact Or.inl ⟨t, ht, rfl, rfl⟩
  case setRevokedAt id time =>
    exact Or.inl
      (hmodify id (fun t => { t with revokedAt := some time }) (fun _ => rfl) (fun _ => rfl) ht)
  case setReplacedById id newId =>
    exact Or.inl
      (hmodify id (fun t => { t with replacedById := some newId }) (fun _ => rfl) (fun _ => rfl) ht)
  all_goals exact Or.inl ⟨t, ht, rfl, rfl⟩

/-- So a token that a commit leaves was there, or is one of those that it adds. -/
theorem mem_refreshTokens_foldl {writes : List Write} {db : Db} {t : RefreshToken}
    (ht : t ∈ (writes.foldl Write.apply db).refreshTokens.rows) :
    (∃ old ∈ db.refreshTokens.rows, old.id = t.id ∧ old.userId = t.userId) ∨
      ∃ row, .add (.refreshToken row) ∈ writes ∧ row.userId = t.userId := by
  induction writes generalizing db with
  | nil => exact Or.inl ⟨t, ht, rfl, rfl⟩
  | cons x rest ih =>
    rcases ih ht with ⟨old, hold, hid, huser⟩ | ⟨row, hrow, huser⟩
    · rcases x.mem_refreshTokens hold with ⟨first, hfirst, hid', huser'⟩ | rfl
      · exact Or.inl ⟨first, hfirst, hid'.trans hid, huser'.trans huser⟩
      · exact Or.inr ⟨old, List.mem_cons_self .., huser⟩
    · exact Or.inr ⟨row, List.mem_cons_of_mem _ hrow, huser⟩

section Runs

variable {ι : Type} {settings : Settings} {ops : ι → AccountOperation} {c c' : AccountOperations ι}
  {w : Session} {held : List RowKey} {i : ι} {userId : Uuid}

theorem CommitsToActive.done {pair : TokenPair} (h : CommitsToActive ops c (.turn i))
    (hi : c.clients i = .running (.done (.ok (some pair))) w held) :
    (ops i).IssuesToActive pair w c.db := by
  simpa only [CommitsToActive, hi] using h

/-- Tokens are committed with a pair only. -/
theorem AccountPost.issues {op : AccountOperation} {answer : Except ShopError Answer} {db : Db}
    (h : AccountPost op answer w held db) {row : RefreshToken}
    (hrow : .add (.refreshToken row) ∈ w.pending) :
    ∃ pair, answer = .ok (some pair) ∧ row.userId = pair.accessToken.sub := by
  cases answer with
  | error e => exact (h _ hrow).elim
  | ok value =>
    cases value with
    | none => exact (h _ hrow).elim
    | some pair => exact ⟨pair, rfl, h.tokens row hrow⟩

/-- The account exists and is not active. -/
def Db.Deactivated (db : Db) (userId : Uuid) : Prop :=
  ∃ user, db.users.get userId = some user ∧ user.isActive = false

instance Db.decidableDeactivated (db : Db) (userId : Uuid) : Decidable (db.Deactivated userId) :=
  decidable_of_iff (∃ user ∈ db.users.get userId, user.isActive = false) Iff.rfl

/-- The account that tokens are committed for is not a deactivated one. -/
theorem Issues.not_deactivated {op : AccountOperation} {pair : TokenPair} {db : Db}
    (h : Issues op.isGoogleLogin pair w held db) (hcond : op.IssuesToActive pair w db) :
    ¬ db.Deactivated pair.accessToken.sub := by
  rintro ⟨user, huser, hinactive⟩
  rcases h.account with ⟨read, hread, hactive⟩ | ⟨-, hfree⟩
  · obtain ⟨hgoogle, hstill⟩ := hcond read hread
    have hreadActive : read.isActive = true := by
      cases hop : op.isGoogleLogin with
      | true => exact hgoogle hop
      | false => exact hactive hop
    rw [hstill hreadActive user huser] at hinactive
    cases hinactive
  · rw [hfree] at huser
    cases huser

variable [DecidableEq ι]

/-- The proof outline. -/
def accountOutline (ops : ι → AccountOperation) : Outline engine (CommitsToActive ops) where
  rely _ := AccountRely
  post i := AccountPost (ops i)
  inv _ _ := True
  rely_refl _ := accountRely_compatible.refl
  rely_trans _ := accountRely_compatible.trans
  post_stable _ _ _ _ _ _ h hdb := h.stable hdb
  commit_ok := by
    intro c i answer w held db' _ _ _ _ hcommit
    obtain ⟨-, rfl⟩ := engine_commit_ok.mp hcommit
    exact ⟨trivial, fun _ _ locks hlocks =>
      accountRely_foldl w.pending (fun l hl => (hlocks l hl).2) c.db⟩

theorem account_good (store : Store) (ops : ι → AccountOperation) :
    (accountOutline ops).Good (AccountOperations.start settings store.db ops) :=
  Outline.good_start _ store.db _ trivial fun i db _ => (wpe_accountOperation (ops i) db).wp

variable [Fintype ι]

/-- An event issues no token for a user. -/
structure NoSession (userId : Uuid) (c c' : AccountOperations ι) : Prop where
  accessToken : ∀ i pair, c'.clients i = .committed (.ok (some pair)) →
    pair.accessToken.sub = userId → c.clients i = .committed (.ok (some pair))
  refreshToken : ∀ t ∈ c'.db.refreshTokens.rows, t.userId = userId →
    ∃ old ∈ c.db.refreshTokens.rows, old.id = t.id

/-- In every interleaving in which no Google login presents an identity of a deactivated
    account, and tokens are committed only for an account that is still as active as it was
    when it was read. -/
theorem deactivated_gets_no_session {store : Store}
    (h : Reach engine (CommitsToActive ops) (AccountOperations.start settings store.db ops) c)
    (hdeactivated : c.db.Deactivated userId) {ev : Event ι} (hcond : CommitsToActive ops c ev)
    (hexec : c.exec engine ev = some c') : NoSession userId c c' := by
  have hgood := (accountOutline ops).sound (account_good store ops) h
  rcases Config.exec_cases hexec with ⟨i, s, next, w, held, rfl, hi, -, rfl⟩ |
    ⟨i, answer, w, held, db, rfl, hi, -, hcommit, rfl⟩ | ⟨i, p, w, held, e, hi, rfl⟩
  · refine ⟨fun j pair hj _ => ?_, fun t ht _ => ⟨t, ht, rfl⟩⟩
    by_cases hji : j = i
    · subst hji
      simp at hj
    · rwa [Config.set_of_ne c _ hji] at hj
  · obtain ⟨-, rfl⟩ := engine_commit_ok.mp hcommit
    have hpost : AccountPost (ops i) answer w held c.db :=
      hgood.clients i _ w held hi c.db (accountRely_compatible.refl held c.db)
    have hissued : ∀ pair, answer = .ok (some pair) → pair.accessToken.sub ≠ userId := by
      rintro pair rfl rfl
      exact Issues.not_deactivated hpost (hcond.done hi) hdeactivated
    constructor
    · intro j pair hj hsub
      by_cases hji : j = i
      · subst hji
        have hanswer : answer = .ok (some pair) := by
          simpa [Config.set] using hj
        exact absurd hsub (hissued pair hanswer)
      · simpa only [Config.set, Function.update_of_ne hji] using hj
    · intro t ht huser
      rcases mem_refreshTokens_foldl ht with ⟨old, hold, hid, -⟩ | ⟨row, hrow, hrowUser⟩
      · exact ⟨old, hold, hid⟩
      · obtain ⟨pair, hanswer, hsub⟩ := hpost.issues hrow
        exact absurd (hsub.symm.trans (hrowUser.trans huser)) (hissued pair hanswer)
  · refine ⟨fun j pair hj _ => ?_, fun t ht _ => ⟨t, ht, rfl⟩⟩
    by_cases hji : j = i
    · subst hji
      simp at hj
    · rwa [Config.set_of_ne c _ hji] at hj

end Runs

/-- Sara has linked a Google account, and Ali manages the users. -/
def managedShop : Store where
  db := { Db.empty with
    users := ((∅ : Table Account.id).put (localAccount 1 "sara" .customer)).put
      (localAccount 2 "ali" .superAdmin)
    oauthAccounts := (∅ : Table OAuthAccount.id).put ⟨1, 1, "subject", "sara@shop.ir"⟩ }
  valid := by decide

/-- Ali deactivates Sara's account, and she logs in, by her password and with Google. -/
def deactivateAndLogin : Fin 3 → AccountOperation
  | 0 => .updateUser ⟨2, 1, ⟨none, some false⟩⟩
  | 1 => .login "sara@shop.ir" "sara" noClient 5 7 ⟨"first", 1, 5, 0, 5⟩
  | 2 => .googleLogin ⟨"subject", "sara@shop.ir", true, "Sara", none⟩ noClient ⟨3, 2, 1, 5⟩ 8
      ⟨"second", 2, 5, 0, 5⟩

/-- Her password does not let her in. -/
theorem deactivated_gets_no_session_password : ∃ c c' : AccountOperations (Fin 3),
    Reach engine (CommitsToActive deactivateAndLogin)
      (AccountOperations.start plainSettings managedShop.db deactivateAndLogin) c ∧
    c.exec engine (.turn 1) = some c' ∧ NoSession 1 c c' := by
  let schedule : List (Event (Fin 3)) := List.replicate 5 (.turn 0) ++ [.turn 1]
  have hrun : ((AccountOperations.start plainSettings managedShop.db deactivateAndLogin).execAll
      engine (CommitsToActive deactivateAndLogin) schedule).any (fun c =>
        c.db.Deactivated 1 ∧ CommitsToActive deactivateAndLogin c (.turn 1) ∧
          (c.exec engine (.turn 1)).isSome) = true := by
    decide +kernel
  obtain ⟨c, hreach, hdeactivated, hcond, hexec⟩ := Reach.exists_of_execAll schedule hrun
  obtain ⟨c', hexec⟩ := Option.isSome_iff_exists.mp hexec
  exact ⟨c, c', hreach, hexec, deactivated_gets_no_session hreach hdeactivated hcond hexec⟩

/-- Google does. -/
theorem deactivated_gets_no_session_fails : ∃ c c' : AccountOperations (Fin 3),
    Reach engine anyEvent
      (AccountOperations.start plainSettings managedShop.db deactivateAndLogin) c ∧
    c.db.Deactivated 1 ∧ c.exec engine (.turn 2) = some c' ∧ ¬ NoSession 1 c c' := by
  let schedule : List (Event (Fin 3)) := List.replicate 5 (.turn 0) ++ List.replicate 4 (.turn 2)
  have hrun : ((AccountOperations.start plainSettings managedShop.db deactivateAndLogin).execAll
      engine anyEvent schedule).any (fun c =>
        c.db.Deactivated 1 ∧ (c.exec engine (.turn 2)).any fun c' =>
          ∃ t ∈ c'.db.refreshTokens.rows, t.userId = 1 ∧
            ∀ old ∈ c.db.refreshTokens.rows, old.id ≠ t.id) = true := by
    decide +kernel
  obtain ⟨c, hreach, hdeactivated, hissues⟩ := Reach.exists_of_execAll schedule hrun
  obtain ⟨c', hexec, htoken⟩ := (Option.any_eq_true _ _).mp hissues
  obtain ⟨t, ht, huser, hnew⟩ := of_decide_eq_true htoken
  refine ⟨c, c', hreach, hdeactivated, hexec, fun hclaim => ?_⟩
  obtain ⟨old, hold, hid⟩ := hclaim.refreshToken t ht huser
  exact hnew old hold hid

end Accounts

end ElectronicShop
