import ElectronicShop.Execution.Auth
import ElectronicShop.Txn.Outcome

/-!
# Refresh tokens under concurrent transactions

The transactions of `app/modules/auth/service.py` that revoke refresh tokens read them
without a lock. What they are about to commit is known all the same: it is made of what they
have read (`wpe_rotateRefreshToken`, `wpe_changePassword`, `wpe_confirmPasswordReset`), and
a token that is in the database stays there, and revoked once it is (`Later`).
-/

namespace ElectronicShop

namespace Accounts

open Txn

/-! ## Tokens over time -/

/-- A token that is in the database stays there, and revoked once it is. -/
def Later (tokens tokens' : Table RefreshToken.id) : Prop :=
  ∀ id t, tokens.get id = some t → ∃ t', tokens'.get id = some t' ∧ t'.userId = t.userId ∧
    t'.tokenHash = t.tokenHash ∧ t'.familyId = t.familyId ∧
    (t.revokedAt.isSome → t'.revokedAt.isSome)

namespace Later

variable {tokens tokens' tokens'' : Table RefreshToken.id}

theorem refl (tokens : Table RefreshToken.id) : Later tokens tokens :=
  fun _ t h => ⟨t, h, rfl, rfl, rfl, id⟩

theorem trans (h₁ : Later tokens tokens') (h₂ : Later tokens' tokens'') : Later tokens tokens'' := by
  intro id t ht
  obtain ⟨t', ht', huser', hhash', hfamily', hrevoked'⟩ := h₁ id t ht
  obtain ⟨t'', ht'', huser'', hhash'', hfamily'', hrevoked''⟩ := h₂ id t' ht'
  exact ⟨t'', ht'', huser''.trans huser', hhash''.trans hhash', hfamily''.trans hfamily',
    fun h => hrevoked'' (hrevoked' h)⟩

theorem map {f : RefreshToken → RefreshToken} (hf : Ages f) : Later tokens (tokens.map f hf.id) := by
  intro id t ht
  refine ⟨f t, ?_, hf.userId t, hf.tokenHash t, hf.familyId t, hf.revokedAt t⟩
  rw [Table.get_map, ht, Option.map_some]

theorem put {new : RefreshToken} (hfresh : tokens.get new.id = none) :
    Later tokens (tokens.put new) := by
  intro id t ht
  have hne : id ≠ new.id := by
    rintro rfl
    rw [ht] at hfresh
    cases hfresh
  exact ⟨t, by rwa [Table.get_put_of_ne _ hne], rfl, rfl, rfl, fun h => h⟩

end Later

/-- A token that is in the database, and revoked. -/
def Db.Revoked (db : Db) (id : Uuid) : Prop :=
  ∃ t, db.refreshTokens.get id = some t ∧ t.revokedAt.isSome

theorem Db.Revoked.later {db db' : Db} {id : Uuid} (h : db.Revoked id)
    (hlater : Later db.refreshTokens db'.refreshTokens) : db'.Revoked id := by
  obtain ⟨t, ht, hrevoked⟩ := h
  obtain ⟨t', ht', -, -, -, hrevoked'⟩ := hlater id t ht
  exact ⟨t', ht', hrevoked' hrevoked⟩

/-- The token that the session has read unrevoked is so still. -/
def Session.StillUnrevoked (w : Session) (tokenHash : String) (db : Db) : Prop :=
  ∀ t ∈ w.loaded.refreshTokens.rows, t.tokenHash = tokenHash → t.revokedAt = none →
    ∀ t' ∈ db.refreshTokens.get t.id, t'.revokedAt = none

instance Session.decidableStillUnrevoked (w : Session) (tokenHash : String) (db : Db) :
    Decidable (w.StillUnrevoked tokenHash db) :=
  inferInstanceAs (Decidable (∀ _ ∈ _, _))

/-- Every write but the insert of a token. -/
def Write.KeepsTokens : Write → Prop
  | .add (.refreshToken _) => False
  | _ => True

/-- `f` is what the writes do to the tokens. -/
structure TokenUpdate (writes : List Write) (f : RefreshToken → RefreshToken) : Prop
    extends Ages f where
  apply : ∀ db : Db, (writes.foldl Write.apply db).refreshTokens = db.refreshTokens.map f id
  revokes : ∀ tokenId time, .setRevokedAt tokenId time ∈ writes →
    ∀ t : RefreshToken, t.id = tokenId → (f t).revokedAt.isSome
  keeps : ∀ t : RefreshToken, .refreshToken t.id ∉ writes.filterMap Write.locks → f t = t

/-- A write that is not about tokens. -/
theorem TokenUpdate.none {x : Write}
    (htokens : ∀ db : Db, (x.apply db).refreshTokens = db.refreshTokens)
    (hrevokes : ∀ tokenId time, .setRevokedAt tokenId time ≠ x) :
    TokenUpdate [x] fun t => t where
  toAges := ages_none
  apply db := (htokens db).trans (Table.map_id _).symm
  revokes tokenId time h := absurd (List.mem_singleton.mp h) (hrevokes tokenId time)
  keeps _ _ := rfl

theorem tokenUpdate_setRevokedAt (tokenId : Uuid) (time : DateTime) :
    TokenUpdate [.setRevokedAt tokenId time]
      fun t => if t.id = tokenId then { t with revokedAt := some time } else t where
  toAges := ages_one (ages_setRevokedAt time) tokenId
  apply db := Table.modify_eq_map db.refreshTokens tokenId
    (fun t : RefreshToken => { t with revokedAt := some time }) fun _ => rfl
  revokes id time' h t ht := by
    cases List.mem_singleton.mp h
    simp [ht]
  keeps t ht := if_neg fun hid => ht (by simp [Write.locks, hid])

theorem tokenUpdate_setReplacedById (tokenId newId : Uuid) :
    TokenUpdate [.setReplacedById tokenId newId]
      fun t => if t.id = tokenId then { t with replacedById := some newId } else t where
  toAges := ages_one (ages_setReplacedById newId) tokenId
  apply db := Table.modify_eq_map db.refreshTokens tokenId
    (fun t : RefreshToken => { t with replacedById := some newId }) fun _ => rfl
  revokes id time h := by cases List.mem_singleton.mp h
  keeps t ht := if_neg fun hid => ht (by simp [Write.locks, hid])

/-- Every write but the insert of a token updates the tokens. -/
theorem Write.tokenUpdate {x : Write} (hx : x.KeepsTokens) : ∃ f, TokenUpdate [x] f := by
  cases x
  case setRevokedAt id time => exact ⟨_, tokenUpdate_setRevokedAt id time⟩
  case setReplacedById id newId => exact ⟨_, tokenUpdate_setReplacedById id newId⟩
  case add row =>
    cases row
    case refreshToken row => exact absurd hx id
    all_goals exact ⟨_, .none (fun _ => rfl) fun _ _ => by simp⟩
  all_goals exact ⟨_, .none (fun _ => rfl) fun _ _ => by simp⟩

/-- So do many of them. -/
theorem exists_tokenUpdate {writes : List Write} (hkeeps : ∀ x ∈ writes, x.KeepsTokens) :
    ∃ f, TokenUpdate writes f := by
  induction writes with
  | nil =>
    exact ⟨_, ages_none, fun db => (Table.map_id _).symm, fun _ _ h => (nomatch h), fun _ _ => rfl⟩
  | cons x rest ih =>
    rw [List.forall_mem_cons] at hkeeps
    obtain ⟨g, hg⟩ := ih hkeeps.2
    obtain ⟨f, hf⟩ := Write.tokenUpdate hkeeps.1
    refine ⟨_, hf.comp hg.toAges, fun db => ?_, ?_, ?_⟩
    · have hfirst : (x.apply db).refreshTokens = db.refreshTokens.map f hf.id := hf.apply db
      rw [List.foldl_cons, hg.apply, hfirst, Table.map_map]
    · intro id time hmem t ht
      rcases List.mem_cons.mp hmem with heq | hrest
      · exact hg.revokedAt _ (hf.revokes id time (heq ▸ List.mem_singleton_self _) t ht)
      · exact hg.revokes id time hrest (f t) ((hf.id t).trans ht)
    · intro t ht
      have happend : (x :: rest).filterMap Write.locks =
          [x].filterMap Write.locks ++ rest.filterMap Write.locks := by
        rw [← List.filterMap_append]
        rfl
      rw [happend, List.mem_append, not_or] at ht
      rw [hf.keeps t ht.1]
      exact hg.keeps t ht.2

/-! ## What the others may do -/

/-- What the proofs below ask of the changes that other transactions may make. -/
structure Compatible (rely : List RowKey → Db → Db → Prop) : Prop where
  refl : ∀ locks db, rely locks db db
  trans : ∀ locks db₁ db₂ db₃, rely locks db₁ db₂ → rely locks db₂ db₃ → rely locks db₁ db₃
  /-- Whoever holds fewer locks may see more. -/
  forget : ∀ locks db db', rely locks db db' → rely [] db db'
  locked : ∀ locks db db' id, rely locks db db' → .refreshToken id ∈ locks →
    db'.refreshTokens.get id = db.refreshTokens.get id

variable {rely : List RowKey → Db → Db → Prop} {settings : Settings} {w : Session}
  {held : List RowKey} {db : Db} {failed : ShopError → Session → List RowKey → Db → Prop}

/-- A statement, and what follows it. -/
theorem wpe_send_bind {α : Type} {s : Stmt} {f : s.Resp → Tx α}
    {post : α → Session → List RowKey → Db → Prop} :
    wpe engine rely (send s >>= f) w held db post failed ↔
      ∀ db', rely (s.needs w db ++ held) db db' →
        wpe engine rely (f (s.execIn w db).1) (s.execIn w db).2 (s.needs w db ++ held) db' post
          failed := Iff.rfl

/-- An insert, and what follows it: it is refused when the row's key is taken. -/
theorem wpe_insert_bind {α : Type} {row : NewRow} {f : Unit → Tx α}
    {post : α → Session → List RowKey → Db → Prop}
    (hfailed : ∀ db', rely (row.key :: w.pending.filterMap Write.locks ++ held) db db' →
      failed .database w (row.key :: w.pending.filterMap Write.locks ++ held) db')
    (hpost : ∀ db', rely (row.key :: w.pending.filterMap Write.locks ++ held) db db' →
      row.taken (w.view db) = false →
      wpe engine rely (f ()) (w.send (.add row))
        (row.key :: w.pending.filterMap Write.locks ++ held) db' post failed) :
    wpe engine rely (insert row >>= f) w held db post failed := by
  unfold insert
  rw [Prog.bind_assoc]
  refine wpe_send_bind.mpr fun db' h => ?_
  cases htaken : row.taken (w.view db) with
  | true =>
    simp only [Stmt.execIn, htaken]
    exact hfailed db' h
  | false =>
    simp only [Stmt.execIn, htaken]
    exact hpost db' h htaken

/-- The tokens that a session loads with a query. -/
theorem Session.mem_loadTokens (rows : List RefreshToken) {t : RefreshToken}
    (h : t ∈ (rows.foldl (fun w row => w.load db (.refreshToken row.id)) w).loaded.refreshTokens.rows) :
    t ∈ w.loaded.refreshTokens.rows ∨ t.id ∈ rows.map RefreshToken.id := by
  induction rows generalizing w with
  | nil => exact Or.inl h
  | cons row rest ih =>
    rcases ih h with hload | hrest
    · have hget := Table.get_of_mem hload
      change (w.loaded.refreshTokens.remember w.objects.refreshTokens
        (w.view db).refreshTokens row.id).get t.id = some t at hget
      by_cases hid : t.id = row.id
      · exact Or.inr (by simp [hid])
      · rw [Table.get_remember_of_ne _ _ _ hid] at hget
        exact Or.inl (Table.mem_of_get hget)
    · exact Or.inr (List.mem_cons_of_mem _ hrest)

/-- A token that the session has as an object is not loaded again. -/
theorem Session.get_loaded_loadTokens (rows : List RefreshToken) {id : Uuid} {t : RefreshToken}
    (hobject : (w.objects.refreshTokens.get id).isSome)
    (h : w.loaded.refreshTokens.get id = some t) :
    (rows.foldl (fun w row => w.load db (.refreshToken row.id)) w).loaded.refreshTokens.get id =
      some t := by
  induction rows generalizing w with
  | nil => exact h
  | cons row rest ih =>
    refine ih ?_ ?_
    · change ((w.objects.refreshTokens.remember w.objects.refreshTokens
        (w.view db).refreshTokens row.id).get id).isSome
      by_cases hid : id = row.id
      · rw [hid, Table.remember_of_isSome (hid ▸ hobject), ← hid]
        exact hobject
      · rw [Table.get_remember_of_ne _ _ _ hid]
        exact hobject
    · change (w.loaded.refreshTokens.remember w.objects.refreshTokens
        (w.view db).refreshTokens row.id).get id = some t
      by_cases hid : id = row.id
      · rw [hid, Table.remember_of_isSome (hid ▸ hobject), ← hid]
        exact h
      · rw [Table.get_remember_of_ne _ _ _ hid]
        exact h

theorem Session.pending_loadTokens (rows : List RefreshToken) :
    (rows.foldl (fun w row => w.load db (.refreshToken row.id)) w).pending = w.pending := by
  induction rows generalizing w with
  | nil => rfl
  | cons row rest ih => exact ih

/-- The ids of the objects that the query of `getActiveTokens` is answered with. -/
theorem Session.ids_tokenObjects (rows : List RefreshToken) :
    (rows.map w.tokenObject).map RefreshToken.id = rows.map RefreshToken.id := by
  rw [List.map_map]
  refine List.map_congr_left fun row _ => ?_
  unfold Function.comp Session.tokenObject
  cases hobject : w.objects.refreshTokens.get row.id with
  | none => rfl
  | some object => exact Table.key_of_get hobject

/-- Writing leaves what was loaded as it is. -/
theorem wpe_revokeTokens (hrely : Compatible rely) (tokens : List RefreshToken) (time : DateTime) :
    wpe engine rely (tokens.forM fun token => write (.setRevokedAt token.id time)) w held db
      (fun _ w' held' db' => w'.loaded = w.loaded ∧
        w'.pending = w.pending ++ tokens.map (fun t => .setRevokedAt t.id time) ∧ held' = held ∧
        rely held db db') failed := by
  induction tokens generalizing w db with
  | nil => exact ⟨rfl, by simp, rfl, hrely.refl held db⟩
  | cons token rest ih =>
    rw [Prog.forM_cons]
    refine wpe_send_bind.mpr fun db₁ h₁ => ?_
    refine wpe_mono ih ?_ fun _ _ _ _ h => h
    rintro _ w' held' db' ⟨hloaded, hpending, rfl, hdb⟩
    refine ⟨hloaded, ?_, rfl, hrely.trans _ _ _ _ h₁ hdb⟩
    rw [hpending]
    simp [Stmt.execIn, Session.send]

/-- Revoking a set of tokens: of those that are unrevoked when they are read. -/
theorem wpe_revokeAll (hrely : Compatible rely) (set : TokenSet) (time : DateTime) :
    wpe engine rely (AuthService.revokeAll set time) w held db
      (fun _ w' held' db' =>
        w'.loaded = (((w.view db).activeTokens set).foldl
          (fun w row => w.load db (.refreshToken row.id)) w).loaded ∧
        w'.pending = w.pending ++ ((w.view db).activeTokens set).map
          (fun t => .setRevokedAt t.id time) ∧
        held' = held ∧ rely held db db') failed := by
  refine wpe_send_bind.mpr fun db₁ h₁ => ?_
  refine wpe_mono (wpe_revokeTokens hrely _ time) ?_ fun _ _ _ _ h => h
  rintro _ w' held' db' ⟨hloaded, hpending, rfl, hdb⟩
  refine ⟨hloaded, ?_, rfl, hrely.trans _ _ _ _ h₁ hdb⟩
  have hids : (((w.view db).activeTokens set).map w.tokenObject).map
      (fun t => Write.setRevokedAt t.id time) =
        ((w.view db).activeTokens set).map fun t => .setRevokedAt t.id time := by
    have hwrites := congrArg (List.map fun id => Write.setRevokedAt id time)
      (w.ids_tokenObjects ((w.view db).activeTokens set))
    simpa only [List.map_map, Function.comp_def] using hwrites
  rw [hpending]
  exact congrArg₂ (· ++ ·) (Session.pending_loadTokens _) hids

/-! ## Refreshing -/

/-- What a rotation that is about to exchange the token `stored` for a new one has read, and
    what it writes. -/
structure Exchange (stored : RefreshToken) (user : Account) (w : Session) (held : List RowKey)
    (db : Db) : Prop where
  unrevoked : stored.revokedAt = none
  owner : w.loaded.users.get stored.userId = some user
  active : user.isActive = true
  writes : ∃ now new, new.familyId = stored.familyId ∧ new.userId = stored.userId ∧
    new.replacedById = none ∧ new.revokedAt = none ∧
    w.pending = [.setRevokedAt stored.id now, .add (.refreshToken new),
      .setReplacedById stored.id new.id] ∧
    .refreshToken new.id ∈ held ∧ db.refreshTokens.get new.id = none

/-- What a rotation that has been shown a revoked token writes: it revokes the tokens of the
    family that it has found unrevoked. -/
structure Detection (rely : List RowKey → Db → Db → Prop) (stored : RefreshToken) (start : Db)
    (w : Session) (db : Db) : Prop where
  revoked : stored.revokedAt.isSome
  writes : ∃ read time, rely [] start read ∧ rely [] read db ∧
    w.pending = (read.activeTokens (.family stored.familyId)).map fun t => .setRevokedAt t.id time

/-- What a rotation that began on `start` knows when it is about to commit. -/
def Rotated (rely : List RowKey → Db → Db → Prop) (settings : Settings) (raw : String)
    (start : Db) (answer : Except ShopError (AccessToken × String × Account)) (w : Session)
    (held : List RowKey) (db : Db) : Prop :=
  ∃ stored, start.tokenBy (settings.hashToken raw) = some stored ∧
    w.loaded.refreshTokens.get stored.id = some stored ∧ rely [] start db ∧
    match answer with
    | .error _ => Detection rely stored start w db
    | .ok (accessToken, _, user) =>
      accessToken.sub = stored.userId ∧ Exchange stored user w held db

/-- What it knows when it raises an error. -/
def NotRotated (rely : List RowKey → Db → Db → Prop) (settings : Settings) (raw : String)
    (start : Db) (w : Session) (db : Db) : Prop :=
  start.tokenBy (settings.hashToken raw) = none ∨
  ∃ stored, start.tokenBy (settings.hashToken raw) = some stored ∧ stored.revokedAt = none ∧
    w.loaded.refreshTokens.get stored.id = some stored ∧ rely [] start db

/-- The session that has looked a token up, and nothing else. -/
def Session.withToken (stored : RefreshToken) : Session :=
  ⟨{ Db.empty with refreshTokens := (∅ : Table RefreshToken.id).put stored },
    { Db.empty with refreshTokens := (∅ : Table RefreshToken.id).put stored }, []⟩

/-- The lookup that a rotation begins with. -/
theorem execIn_getTokenByHash {tokenHash : String} {stored : RefreshToken}
    (h : db.tokenBy tokenHash = some stored) :
    (Stmt.getTokenByHash tokenHash).execIn engine.start db =
      (some stored, Session.withToken stored) := by
  have hview : engine.start.view db = db := rfl
  have hget : db.refreshTokens.get stored.id = some stored := get_of_tokenBy h
  have hremember : (∅ : Table RefreshToken.id).remember ∅ db.refreshTokens stored.id =
      (∅ : Table RefreshToken.id).put stored := by
    simp only [Table.remember, Table.get_empty, hget]
  simp only [Stmt.execIn, hview, h]
  refine congrArg (Prod.mk (some stored)) ?_
  change Session.mk
    { Db.empty with refreshTokens := (∅ : Table RefreshToken.id).remember ∅ db.refreshTokens stored.id }
    { Db.empty with refreshTokens := (∅ : Table RefreshToken.id).remember ∅ db.refreshTokens stored.id }
    [] = _
  rw [hremember]
  rfl

/-- The token stays loaded. -/
theorem Session.loaded_withToken (stored : RefreshToken) :
    (Session.withToken stored).loaded.refreshTokens.get stored.id = some stored :=
  Table.get_put_self ..

theorem wpe_rotate (hrely : Compatible rely) {stored : RefreshToken} {client : ClientMeta}
    {now : DateTime} {draw : Draw} (hstored : stored.revokedAt = none) :
    wpe engine rely (AuthService.rotate settings stored client now draw) (Session.withToken stored)
      [] db
      (fun pair w' held' db' => rely [] db db' ∧
        w'.loaded.refreshTokens.get stored.id = some stored ∧ pair.1.sub = stored.userId ∧
        Exchange stored pair.2.2 w' held' db')
      (fun _ w' _ db' => rely [] db db' ∧
        w'.loaded.refreshTokens.get stored.id = some stored) := by
  unfold AuthService.rotate
  refine wpe_if_raise.mpr ⟨fun _ => ⟨hrely.refl _ _, Session.loaded_withToken stored⟩, fun _ => ?_⟩
  refine wpe_send_bind.mpr fun db₁ h₁ => ?_
  have hdb₁ : rely [] db db₁ := h₁
  refine wpe_orRaise_bind.mpr ⟨fun _ => ⟨hdb₁, Session.loaded_withToken stored⟩, ?_⟩
  intro user huser
  refine wpe_if_raise.mpr ⟨fun _ => ⟨hdb₁, Session.loaded_withToken stored⟩, fun hactive => ?_⟩
  refine wpe_send_bind.mpr fun db₂ h₂ => ?_
  have hdb₂ : rely [] db db₂ := hrely.trans _ _ _ _ hdb₁ h₂
  unfold AuthService.issueRefreshToken
  rw [Prog.bind_assoc]
  refine wpe_insert_bind (fun db₃ h₃ => ?_) fun db₃ h₃ htaken => ?_
  · exact ⟨hrely.trans _ _ _ _ hdb₂ (hrely.forget _ _ _ h₃), Session.loaded_withToken stored⟩
  · have hdb₃ : rely [] db db₃ := hrely.trans _ _ _ _ hdb₂ (hrely.forget _ _ _ h₃)
    refine wpe_send_bind.mpr fun db₄ h₄ => ?_
    have hdb₄ : rely [] db db₄ := hrely.trans _ _ _ _ hdb₃ (hrely.forget _ _ _ h₄)
    have hlookup : (Session.withToken stored).objects.users.lookup db.users stored.userId =
        some user := huser
    have huserId : user.id = stored.userId := Table.key_of_lookup hlookup
    have hfree : db₂.refreshTokens.get draw.id = none := by
      have hsome := Table.isSome_get_modify db₂.refreshTokens stored.id
        (fun t : RefreshToken => { t with revokedAt := some now }) (fun _ => rfl) draw.id
      exact Option.isNone_iff_eq_none.mp (Option.isSome_eq_false_iff.mp (hsome.symm.trans htaken))
    have hlocked₃ := hrely.locked _ _ _ draw.id h₃
      (List.mem_append_left _ (List.mem_cons_self ..))
    have hlocked₄ := hrely.locked _ _ _ draw.id h₄
      (List.mem_append_right _ (List.mem_append_left _ (List.mem_cons_self ..)))
    refine ⟨hdb₄, Session.loaded_withToken stored, huserId, hstored, ?_, by simpa using hactive, now,
      AuthService.newRefreshToken settings user stored.familyId client draw, rfl, huserId, rfl, rfl,
      rfl, ?_, ?_⟩
    · exact (Table.get_remember_self ..).trans hlookup
    · exact List.mem_append_right _ (List.mem_append_left _ (List.mem_cons_self ..))
    · exact hlocked₄.trans (hlocked₃.trans hfree)

/-- What a rotation knows when it ends, whatever the others do meanwhile. -/
theorem wpe_rotateRefreshToken (hrely : Compatible rely) (raw : String) (client : ClientMeta)
    (now : DateTime) (draw : Draw) (db : Db) :
    wpe engine rely (AuthService.rotateRefreshToken settings raw client now draw) engine.start [] db
      (Rotated rely settings raw db) (fun _ w' _ db' => NotRotated rely settings raw db w' db') := by
  unfold AuthService.rotateRefreshToken
  refine wpe_send_bind.mpr fun db₁ h₁ => ?_
  have hdb₁ : rely [] db db₁ := h₁
  cases hstored : db.tokenBy (settings.hashToken raw) with
  | none =>
    have hexec : ((Stmt.getTokenByHash (settings.hashToken raw)).execIn engine.start db).1 =
        none := by
      have hview : (engine.start.view db).tokenBy (settings.hashToken raw) = none := hstored
      simp only [Stmt.execIn, hview]
    rw [hexec]
    exact Or.inl hstored
  | some stored =>
    rw [execIn_getTokenByHash hstored]
    refine wpe_orRaise_bind.mpr ⟨by simp, ?_⟩
    rintro _ ⟨⟩
    split
    · rename_i hrevoked
      rw [wpe_bind]
      refine wpe_mono (wpe_revokeAll hrely _ now) ?_ fun _ _ _ _ h => h
      rintro _ w' held' db' ⟨hloaded, hpending, rfl, hdb'⟩
      refine ⟨stored, hstored, ?_, hrely.trans _ _ _ _ hdb₁ hdb', hrevoked, db₁, now, hdb₁, hdb', ?_⟩
      · rw [hloaded]
        refine Session.get_loaded_loadTokens _ ?_ (Session.loaded_withToken stored)
        exact Option.isSome_iff_exists.mpr ⟨stored, Table.get_put_self ..⟩
      · exact hpending
    · rename_i hunrevoked
      have hnone : stored.revokedAt = none := by simpa using hunrevoked
      rw [wpe_bind]
      refine wpe_mono (wpe_rotate hrely hnone) ?_ ?_
      · rintro pair w' held' db' ⟨hdb', hloaded, hsub, hexchange⟩
        exact ⟨stored, hstored, hloaded, hrely.trans _ _ _ _ hdb₁ hdb', hsub, hexchange⟩
      · rintro e w' held' db' ⟨hdb', hloaded⟩
        exact Or.inr ⟨stored, hstored, hnone, hloaded, hrely.trans _ _ _ _ hdb₁ hdb'⟩

/-- What a rotation knows stays true. -/
theorem Rotated.stable (hrely : Compatible rely) {raw : String} {start db' : Db}
    {answer : Except ShopError (AccessToken × String × Account)}
    (h : Rotated rely settings raw start answer w held db) (hdb : rely held db db') :
    Rotated rely settings raw start answer w held db' := by
  have hforget : rely [] db db' := hrely.forget _ _ _ hdb
  obtain ⟨stored, hstored, hloaded, hstart, hanswer⟩ := h
  refine ⟨stored, hstored, hloaded, hrely.trans _ _ _ _ hstart hforget, ?_⟩
  cases answer with
  | error e =>
    obtain ⟨hrevoked, read, time, hread, hlater, hpending⟩ := hanswer
    exact ⟨hrevoked, read, time, hread, hrely.trans _ _ _ _ hlater hforget, hpending⟩
  | ok pair =>
    obtain ⟨hsub, hunrevoked, howner, hactive, now, new, hfamily, huser, hlast, hnew, hpending, hheld,
      hfree⟩ := hanswer
    refine ⟨hsub, hunrevoked, howner, hactive, now, new, hfamily, huser, hlast, hnew, hpending, hheld,
      ?_⟩
    rw [hrely.locked _ _ _ _ hdb hheld]
    exact hfree

/-! ## Passwords -/

/-- What a transaction that changes the password of a user writes: it revokes the tokens that
    it has read. -/
structure PasswordWrites (userId : Uuid) (w : Session) : Prop where
  keepsTokens : ∀ x ∈ w.pending, x.KeepsTokens
  keepsResets : ∀ x ∈ w.pending, ∀ row, x ≠ .add (.passwordResetToken row)
  password : ∃ hashed, .setHashedPassword userId hashed ∈ w.pending
  revokes : ∀ t ∈ w.loaded.refreshTokens.rows, ∃ time, .setRevokedAt t.id time ∈ w.pending

/-- Nothing is loaded of the tokens, and nothing is written that other transactions see in
    them. -/
structure Session.Quiet (w : Session) : Prop where
  loaded : w.loaded.refreshTokens = ∅
  keepsTokens : ∀ x ∈ w.pending, x.KeepsTokens
  keepsResets : ∀ x ∈ w.pending, ∀ row, x ≠ .add (.passwordResetToken row)

/-- A session spends a reset token, and no other. -/
structure Session.Spends (w : Session) (record : PasswordResetToken) : Prop where
  spent : ∃ time, .setUsedAt record.id time ∈ w.pending
  only : ∀ id time, .setUsedAt id time ∈ w.pending → id = record.id

/-- Revoking all tokens of a user, as the last part of such a transaction. -/
theorem wpe_revokeUser (hrely : Compatible rely) (userId : Uuid) {set : TokenSet}
    {time : DateTime} (hquiet : w.Quiet)
    (hpassword : ∃ hashed, .setHashedPassword userId hashed ∈ w.pending) :
    wpe engine rely (AuthService.revokeAll set time) w held db
      (fun _ w' _ db' => rely held db db' ∧ PasswordWrites userId w' ∧
        ∃ tokens : List RefreshToken,
          w'.pending = w.pending ++ tokens.map fun t => .setRevokedAt t.id time)
      failed := by
  refine wpe_mono (wpe_revokeAll hrely set time) ?_ fun _ _ _ _ h => h
  rintro _ w' held' db' ⟨hloaded, hpending, -, hdb⟩
  refine ⟨hdb, ⟨?_, ?_, ?_, ?_⟩, _, hpending⟩
  · intro x hx
    rw [hpending] at hx
    rcases List.mem_append.mp hx with hold | hnew
    · exact hquiet.keepsTokens x hold
    · obtain ⟨t, -, rfl⟩ := List.mem_map.mp hnew
      trivial
  · intro x hx row
    rw [hpending] at hx
    rcases List.mem_append.mp hx with hold | hnew
    · exact hquiet.keepsResets x hold row
    · obtain ⟨t, -, rfl⟩ := List.mem_map.mp hnew
      simp
  · obtain ⟨hashed, hmem⟩ := hpassword
    refine ⟨hashed, ?_⟩
    rw [hpending]
    exact List.mem_append_left _ hmem
  · intro t ht
    rw [hloaded] at ht
    rcases Session.mem_loadTokens _ ht with hold | hnew
    · rw [hquiet.loaded] at hold
      cases hold
    · obtain ⟨t', ht', hid⟩ := List.mem_map.mp hnew
      refine ⟨time, ?_⟩
      rw [hpending, ← hid]
      exact List.mem_append_right _ (List.mem_map_of_mem ht')

theorem wpe_changePassword (hrely : Compatible rely) (subject : Uuid)
    (currentPassword newPassword : String) (salt : Nat) (now : DateTime) (db : Db) :
    wpe engine rely (changePassword settings subject currentPassword newPassword salt now)
      engine.start [] db (fun _ w' _ _ => PasswordWrites subject w') fun _ _ _ _ => True := by
  unfold changePassword getCurrentUser
  rw [Prog.bind_assoc]
  refine wpe_send_bind.mpr fun db₁ h₁ => ?_
  rw [Prog.bind_assoc]
  refine wpe_orRaise_bind.mpr ⟨fun _ => trivial, fun user huser => ?_⟩
  have hlookup : engine.start.objects.users.lookup db.users subject = some user := huser
  have hid : user.id = subject := Table.key_of_lookup hlookup
  split
  · trivial
  · rw [Prog.pure_eq, Prog.done_bind]
    unfold AuthService.changePassword
    refine wpe_if_raise.mpr ⟨fun _ => trivial, fun _ => ?_⟩
    refine wpe_send_bind.mpr fun db₂ h₂ => ?_
    refine wpe_mono (wpe_revokeUser hrely subject ?_ ?_) (fun _ _ _ _ h => h.2.1) fun _ _ _ _ h => h
    · refine ⟨rfl, ?_, ?_⟩
      · intro x hx
        cases List.mem_singleton.mp hx
        trivial
      · intro x hx row
        cases List.mem_singleton.mp hx
        simp
    · rw [← hid]
      exact ⟨_, List.mem_singleton_self _⟩

/-- A confirmation, which changes the password of the user that its link is for, and spends
    the link. -/
theorem wpe_confirmPasswordReset (hrely : Compatible rely) (token newPassword : String)
    (salt : Nat) (clock : AuthService.ConfirmClock) (db : Db) :
    wpe engine rely (AuthService.confirmPasswordReset settings token newPassword salt clock)
      engine.start [] db
      (fun _ w' _ db' => ∃ record, db.resetBy (settings.hashToken token) = some record ∧
        rely [] db db' ∧ PasswordWrites record.userId w' ∧ w'.Spends record)
      fun _ _ _ _ => True := by
  unfold AuthService.confirmPasswordReset
  refine wpe_send_bind.mpr fun db₁ h₁ => ?_
  have hview : engine.start.view db = db := rfl
  cases hrecord : db.resetBy (settings.hashToken token) with
  | none =>
    simp only [Stmt.execIn, hview, hrecord]
    trivial
  | some record =>
    simp only [Stmt.execIn, hview, hrecord]
    refine wpe_orRaise_bind.mpr ⟨fun _ => trivial, ?_⟩
    intro found hfound
    have hsame : found = record := (Option.some.inj hfound).symm
    subst hsame
    refine wpe_if_raise.mpr ⟨fun _ => trivial, fun _ => ?_⟩
    refine wpe_send_bind.mpr fun db₂ h₂ => ?_
    refine wpe_orRaise_bind.mpr ⟨fun _ => trivial, fun user huser => ?_⟩
    have hlookup : engine.start.objects.users.lookup db₁.users found.userId = some user := huser
    have hid : user.id = found.userId := Table.key_of_lookup hlookup
    refine wpe_send_bind.mpr fun db₃ h₃ => ?_
    refine wpe_send_bind.mpr fun db₄ h₄ => ?_
    refine wpe_mono (wpe_revokeUser hrely found.userId ?_ ?_) ?_ fun _ _ _ _ h => h
    · refine ⟨rfl, ?_, ?_⟩
      · intro x hx
        simp only [Stmt.execIn, Session.send, Session.load, engine, List.nil_append,
          List.singleton_append, List.mem_cons, List.not_mem_nil, or_false] at hx
        rcases hx with rfl | rfl
        · trivial
        · trivial
      · intro x hx row
        simp only [Stmt.execIn, Session.send, Session.load, engine, List.nil_append,
          List.singleton_append, List.mem_cons, List.not_mem_nil, or_false] at hx
        rcases hx with rfl | rfl <;> simp
    · rw [← hid]
      exact ⟨_, List.mem_append_left _ (List.mem_singleton_self _)⟩
    · rintro _ w' _ db' ⟨hdb', hwrites, tokens, hpending⟩
      have hdb : rely [] db db' := hrely.trans _ _ _ _ h₁ (hrely.trans _ _ _ _ h₂
        (hrely.trans _ _ _ _ h₃ (hrely.trans _ _ _ _ h₄ hdb')))
      refine ⟨found, rfl, hdb, hwrites, ⟨clock.usedAt, ?_⟩, ?_⟩
      · rw [hpending]
        exact List.mem_append_left _ (List.mem_append_right _ (List.mem_singleton_self _))
      · intro id time hmem
        rw [hpending] at hmem
        have hspent : id = found.id ∧ time = clock.usedAt := by
          simpa [Stmt.execIn, Session.send, Session.load, engine] using hmem
        exact hspent.1

/-! ## What is committed -/

/-- The tokens after an exchange: the one that is in the database is replaced, and the new
    one is added. -/
theorem Exchange.tokens_view {stored row : RefreshToken} {user : Account}
    (h : Exchange stored user w held db) (hrow : db.refreshTokens.get stored.id = some row) :
    ∃ now new, new.familyId = stored.familyId ∧ new.userId = stored.userId ∧
      db.refreshTokens.get new.id = none ∧ .refreshToken new.id ∈ held ∧
      (w.view db).refreshTokens = (db.refreshTokens.put (row.replaced now new.id)).put new := by
  obtain ⟨now, new, hfamily, huser, -, -, hpending, hheld, hfree⟩ := h.writes
  refine ⟨now, new, hfamily, huser, hfree, hheld, ?_⟩
  unfold Session.view
  rw [hpending]
  exact Table.modify_put_modify (fun _ => rfl) (fun _ => rfl) hrow hfree

/-- Revoking tokens one after another changes nothing but the tokens. -/
theorem view_setRevokedAt (ids : List Uuid) (time : DateTime) (db : Db) :
    (ids.map fun id => Write.setRevokedAt id time).foldl Write.apply db =
      { db with refreshTokens :=
        ((ids.map fun id => Write.setRevokedAt id time).foldl Write.apply db).refreshTokens } := by
  induction ids generalizing db with
  | nil => rfl
  | cons id rest ih =>
    rw [List.map_cons, List.foldl_cons, ih]
    rfl

/-- An exchange leaves the other tokens as they are, and revokes the one it is for. -/
theorem Exchange.later_view {stored row : RefreshToken} {user : Account} (h : Exchange stored user w held db)
    (hrow : db.refreshTokens.get stored.id = some row) :
    Later db.refreshTokens (w.view db).refreshTokens ∧ (w.view db).Revoked stored.id ∧
      ∀ id, .refreshToken id ∉ held → .refreshToken id ∉ engine.needCommit w →
        (w.view db).refreshTokens.get id = db.refreshTokens.get id := by
  obtain ⟨now, new, -, -, hfree, hheld, hview⟩ := h.tokens_view hrow
  have hid : row.id = stored.id := Table.key_of_get hrow
  have hrow' : db.refreshTokens.get (row.replaced now new.id).id = some row := by
    change db.refreshTokens.get row.id = some row
    rw [hid]
    exact hrow
  have hfree' : (db.refreshTokens.put (row.replaced now new.id)).get new.id = none :=
    Table.get_put_eq_none hrow' hfree
  have hne : stored.id ≠ new.id := by
    intro heq
    rw [heq, hfree] at hrow
    cases hrow
  have hreplaced : Later db.refreshTokens (db.refreshTokens.put (row.replaced now new.id)) := by
    have hmodify := Table.modify_eq_map db.refreshTokens stored.id
      (fun t : RefreshToken => { t with revokedAt := some now, replacedById := some new.id })
      fun _ => rfl
    rw [Table.modify_of_get _ hrow] at hmodify
    change Later _ (db.refreshTokens.put { row with
      revokedAt := some now, replacedById := some new.id })
    rw [hmodify]
    exact Later.map (ages_one ((ages_setRevokedAt now).comp (ages_setReplacedById new.id)) stored.id)
  refine ⟨?_, ?_, ?_⟩
  · rw [hview]
    exact hreplaced.trans (Later.put hfree')
  · refine ⟨row.replaced now new.id, ?_, rfl⟩
    rw [hview, Table.get_put_of_ne _ hne, ← hid]
    exact Table.get_put_self ..
  · intro id hnotHeld hnotNeeded
    have hidNew : id ≠ new.id := by
      rintro rfl
      exact hnotHeld hheld
    have hidStored : id ≠ stored.id := by
      rintro rfl
      obtain ⟨now, new, -, -, -, -, hpending, -⟩ := h.writes
      refine hnotNeeded ?_
      change _ ∈ w.pending.filterMap Write.locks
      rw [hpending]
      simp [Write.locks]
    rw [hview, Table.get_put_of_ne _ hidNew]
    exact Table.get_put_of_ne _ (by rwa [← hid] at hidStored)

/-- It can be committed. -/
theorem Detection.constraints_view {shown : RefreshToken}
    {start : Db} {f : RefreshToken → RefreshToken} (h : Detection rely shown start w db)
    (hf : TokenUpdate w.pending f) (hconstraints : db.Constraints) :
    (w.view db).Constraints := by
  obtain ⟨read, time, -, -, hpending⟩ := h.writes
  have hids : w.pending = ((read.activeTokens (.family shown.familyId)).map RefreshToken.id).map
      fun id => Write.setRevokedAt id time := by
    rw [hpending, List.map_map]
    rfl
  have hview : w.view db = { db with refreshTokens := (w.view db).refreshTokens } := by
    unfold Session.view
    rw [hids]
    exact view_setRevokedAt _ time db
  have htokens : (w.view db).refreshTokens = db.refreshTokens.map f hf.id := hf.apply db
  rw [hview, htokens]
  exact hconstraints.ages hf.toAges

theorem Detection.tokenUpdate {shown : RefreshToken}
    {start : Db} (h : Detection rely shown start w db) : ∃ f, TokenUpdate w.pending f := by
  obtain ⟨read, time, -, -, hpending⟩ := h.writes
  refine exists_tokenUpdate fun x hx => ?_
  rw [hpending] at hx
  obtain ⟨t, -, rfl⟩ := List.mem_map.mp hx
  trivial

end Accounts

end ElectronicShop
