import ElectronicShop.Execution.AuthApi

/-!
# Families of refresh tokens

The tokens of one login form a chain: each but the last is revoked and was replaced by the
next. So a token that is presented after it was rotated or revoked shows that somebody else
has it, and the whole family is revoked for good.
-/

namespace ElectronicShop

namespace Accounts

open Txn

/-- The tokens of a family, in the order in which they were issued. -/
def familyOf (tokens : Table RefreshToken.id) (familyId : Uuid) : List RefreshToken :=
  tokens.rows.filter fun t => t.familyId = familyId

def Db.family (db : Db) (familyId : Uuid) : List RefreshToken := familyOf db.refreshTokens familyId

/-- A chain linked by `replaced_by_id`, of which at most the last token is not revoked. -/
def Linked : List RefreshToken → Prop
  | [] => True
  | [t] => t.replacedById = none
  | t :: t' :: rest => t.replacedById = some t'.id ∧ t.revokedAt.isSome ∧ Linked (t' :: rest)

/-- Every token of the family is revoked, and there is one. -/
def Dead (tokens : List RefreshToken) : Prop := tokens ≠ [] ∧ ∀ t ∈ tokens, t.revokedAt.isSome

/-- The family that a request draws an id for. -/
def Request.newFamily : Request → Option Uuid
  | .register _ _ _ familyId _ => some familyId
  | .login _ _ _ _ familyId _ => some familyId
  | .googleCallback _ _ _ _ _ _ familyId _ => some familyId
  | _ => none

/-- `uuid.uuid4` gives a family an id that no other has. -/
def Request.NewFamily (s : State) (request : Request) : Prop :=
  ∀ familyId ∈ request.newFamily, s.db.family familyId = []

instance Request.decidableNewFamily (s : State) (request : Request) :
    Decidable (request.NewFamily s) :=
  inferInstanceAs (Decidable (∀ _ ∈ _, _))

/-! ## What happens to the tokens -/

/-- An update of tokens that revokes some of them. -/
structure Revokes (f : RefreshToken → RefreshToken) : Prop where
  id : ∀ t, (f t).id = t.id
  familyId : ∀ t, (f t).familyId = t.familyId
  replacedById : ∀ t, (f t).replacedById = t.replacedById
  revokedAt : ∀ t, t.revokedAt.isSome → (f t).revokedAt.isSome

theorem Ages.revokes {f : RefreshToken → RefreshToken} (hf : Ages f)
    (hreplaced : ∀ t, (f t).replacedById = t.replacedById) : Revokes f :=
  ⟨hf.id, hf.familyId, hreplaced, hf.revokedAt⟩

theorem revokes_none : Revokes fun t => t := ages_none.revokes fun _ => rfl

theorem revokes_set (set : TokenSet) (time : DateTime) : Revokes (RefreshToken.revoke set time) :=
  (ages_revoke set time).revokes fun _ => RefreshToken.replacedById_revoke

theorem revokes_one (id : Uuid) (time : DateTime) :
    Revokes fun t => if t.id = id then { t with revokedAt := some time } else t :=
  (ages_one (ages_setRevokedAt time) id).revokes fun t => by split <;> rfl

/-- What a request does to the refresh tokens. -/
inductive TokensEffect (request : Request) (tokens : Table RefreshToken.id) :
    Table RefreshToken.id → Prop where
  | revoked {f : RefreshToken → RefreshToken} (revokes : Revokes f) :
      TokensEffect request tokens (tokens.map f revokes.id)
  | issued {new : RefreshToken} (drawn : request.newFamily = some new.familyId)
      (fresh : tokens.get new.id = none) (last : new.replacedById = none) :
      TokensEffect request tokens (tokens.put new)
  | rotated {stored new : RefreshToken} (now : DateTime)
      (present : tokens.get stored.id = some stored) (unrevoked : stored.revokedAt = none)
      (fresh : tokens.get new.id = none) (family : new.familyId = stored.familyId)
      (last : new.replacedById = none) :
      TokensEffect request tokens ((tokens.put (stored.replaced now new.id)).put new)

theorem TokensEffect.same (request : Request) (tokens : Table RefreshToken.id) :
    TokensEffect request tokens tokens := by
  have heffect : TokensEffect request tokens _ := .revoked revokes_none
  rwa [Table.map_id] at heffect

theorem Request.Effect.tokens {settings : Settings} {s : State} {request : Request}
    {answer : Except ShopError Answer} {db' : Db} (h : request.Effect settings s answer db') :
    TokensEffect request s.db.refreshTokens db'.refreshTokens := by
  cases h with
  | failed => exact .same ..
  | unchanged => exact .same ..
  | registered tokens newEmail newUser newToken => exact .issued rfl newToken rfl
  | loggedIn stored user active newToken => exact .issued rfl newToken rfl
  | refreshed stored user presented unrevoked owner active newToken =>
    exact .rotated _ (get_of_tokenBy presented) unrevoked newToken rfl rfl
  | reused stored presented revoked => exact .revoked (revokes_set ..)
  | loggedOut stored presented unrevoked =>
    rename_i raw now
    have hget := get_of_tokenBy presented
    have hmodify := Table.modify_eq_map s.db.refreshTokens stored.id
      (fun t : RefreshToken => { t with revokedAt := some now }) fun _ => rfl
    rw [Table.modify_of_get _ hget] at hmodify
    change TokensEffect _ _ (s.db.refreshTokens.put { stored with revokedAt := some now })
    rw [hmodify]
    exact .revoked (revokes_one ..)
  | passwordChanged user caller => exact .revoked (revokes_set ..)
  | resetRequested user newToken => exact .same ..
  | passwordReset record user presented unused owner => exact .revoked (revokes_set ..)
  | googleLoggedIn session identity stored started action verified linked newToken =>
    exact .issued rfl newToken rfl
  | googleRegistered session identity username started action verified unlinked newEmail newUser
      newAccount newToken => exact .issued rfl newToken rfl
  | googleLinked session identity userId started action verified unlinked newAccount =>
    exact .same ..
  | userUpdated actor user effect =>
    obtain ⟨logs, rfl⟩ := effect.result
    exact .same ..

/-! ## Chains -/

theorem linked_map {f : RefreshToken → RefreshToken} (hf : Revokes f) {tokens : List RefreshToken}
    (h : Linked tokens) : Linked (tokens.map f) := by
  induction tokens with
  | nil => trivial
  | cons t rest ih =>
    cases rest with
    | nil => exact (hf.replacedById t).trans h
    | cons t' rest =>
      obtain ⟨hreplaced, hrevoked, hrest⟩ := h
      refine ⟨?_, hf.revokedAt t hrevoked, ih hrest⟩
      rw [hf.replacedById, hf.id]
      exact hreplaced

/-- Only the last token of a chain can be unrevoked. -/
theorem Linked.last_of_unrevoked {tokens : List RefreshToken} (h : Linked tokens)
    {t : RefreshToken} (ht : t ∈ tokens) (hunrevoked : t.revokedAt = none) :
    ∃ before, tokens = before ++ [t] := by
  induction tokens with
  | nil => cases ht
  | cons first rest ih =>
    cases rest with
    | nil =>
      obtain rfl := List.mem_singleton.mp ht
      exact ⟨[], rfl⟩
    | cons second rest =>
      obtain ⟨-, hrevoked, hrest⟩ := h
      rcases List.mem_cons.mp ht with rfl | hmem
      · rw [hunrevoked] at hrevoked
        cases hrevoked
      · obtain ⟨before, hbefore⟩ := ih hrest hmem
        exact ⟨first :: before, by rw [hbefore]; rfl⟩

/-- The last token is replaced. -/
theorem Linked.replace_last {before : List RefreshToken} {t new : RefreshToken} (now : DateTime)
    (h : Linked (before ++ [t])) (hnew : new.replacedById = none) :
    Linked (before ++ [t.replaced now new.id, new]) := by
  induction before with
  | nil => exact ⟨rfl, rfl, hnew⟩
  | cons first rest ih =>
    cases rest with
    | nil =>
      obtain ⟨hreplaced, hrevoked, -⟩ := h
      exact ⟨hreplaced, hrevoked, rfl, rfl, hnew⟩
    | cons second rest =>
      obtain ⟨hreplaced, hrevoked, hrest⟩ := h
      exact ⟨hreplaced, hrevoked, ih hrest⟩

/-! ## The chains after a request -/

section Family

variable {tokens tokens' : Table RefreshToken.id} {request : Request} {familyId : Uuid}

theorem mem_familyOf {t : RefreshToken} :
    t ∈ familyOf tokens familyId ↔ t ∈ tokens.rows ∧ t.familyId = familyId := by
  simp [familyOf]

theorem familyOf_map {f : RefreshToken → RefreshToken} (hf : Revokes f) :
    familyOf (tokens.map f hf.id) familyId = (familyOf tokens familyId).map f := by
  simp only [familyOf, Table.rows_map, List.filter_map]
  congr 2
  funext t
  simp only [Function.comp_apply, hf.familyId]

theorem familyOf_put_new {new : RefreshToken} (hfresh : tokens.get new.id = none) :
    familyOf (tokens.put new) familyId =
      familyOf tokens familyId ++ if new.familyId = familyId then [new] else [] := by
  simp only [familyOf, Table.rows_put_of_fresh hfresh, List.filter_append]
  congr 1
  by_cases hfamily : new.familyId = familyId <;> simp [hfamily]

/-- An update of one token, in its family and in the others. -/
theorem familyOf_put {row old : RefreshToken} (hget : tokens.get row.id = some old)
    (hfamily : row.familyId = old.familyId) :
    familyOf (tokens.put row) familyId =
      (familyOf tokens familyId).map fun t => if t.id = row.id then row else t := by
  simp only [familyOf, Table.rows_put_of_get hget, List.filter_map]
  congr 1
  refine List.filter_congr fun t ht => ?_
  simp only [Function.comp_apply]
  split
  · rename_i hid
    have hold : t = old := by
      rw [← hid, Table.get_of_mem ht] at hget
      exact Option.some.inj hget
    rw [hfamily, hold]
  · rfl

/-- In a family that ends with the token, its end is updated. -/
theorem familyOf_put_last (row : RefreshToken) {old : RefreshToken} {before : List RefreshToken}
    (hget : tokens.get row.id = some old) (hfamily : row.familyId = old.familyId)
    (hlast : familyOf tokens row.familyId = before ++ [old]) :
    familyOf (tokens.put row) row.familyId = before ++ [row] := by
  have hold : old.id = row.id := Table.key_of_get hget
  have hnodup : ((before ++ [old]).map RefreshToken.id).Nodup := by
    rw [← hlast]
    exact tokens.nodup.sublist (List.filter_sublist.map _)
  rw [List.map_append, List.nodup_append] at hnodup
  have hbefore : before.map (fun t => if t.id = row.id then row else t) = before := by
    refine (List.map_congr_left fun t ht => ?_).trans (List.map_id' before)
    exact if_neg fun heq => hnodup.2.2 _ (List.mem_map_of_mem ht) old.id (by simp) (heq.trans hold.symm)
  rw [familyOf_put hget hfamily, hlast, List.map_append, hbefore]
  simp [hold]

/-- The other families stay as they are. -/
theorem familyOf_put_of_ne (row : RefreshToken) {old : RefreshToken} (hget : tokens.get row.id = some old)
    (hfamily : row.familyId = old.familyId) (hne : row.familyId ≠ familyId) :
    familyOf (tokens.put row) familyId = familyOf tokens familyId := by
  rw [familyOf_put hget hfamily]
  refine (List.map_congr_left fun t ht => ?_).trans (List.map_id' _)
  rw [if_neg]
  intro hid
  obtain ⟨hrow, hmem⟩ := mem_familyOf.mp ht
  have hold := Table.get_of_mem hrow
  rw [hid, hget] at hold
  obtain rfl := Option.some.inj hold
  exact hne (hfamily.trans hmem)

/-- A request keeps the chains. -/
theorem TokensEffect.linked (h : TokensEffect request tokens tokens')
    (hnew : ∀ drawn ∈ request.newFamily, familyOf tokens drawn = [])
    (hlinked : ∀ familyId, Linked (familyOf tokens familyId)) :
    Linked (familyOf tokens' familyId) := by
  cases h with
  | revoked revokes =>
    rw [familyOf_map revokes]
    exact linked_map revokes (hlinked familyId)
  | issued drawn fresh last =>
    rename_i new
    rw [familyOf_put_new fresh]
    split
    · rename_i hfamily
      rw [← hfamily, hnew _ drawn]
      exact last
    · rw [List.append_nil]
      exact hlinked familyId
  | rotated now present unrevoked fresh family last =>
    rename_i stored new
    have hfresh : (tokens.put (stored.replaced now new.id)).get new.id = none :=
      Table.get_put_eq_none present fresh
    rw [familyOf_put_new hfresh]
    by_cases hstored : stored.familyId = familyId
    · obtain ⟨before, hbefore⟩ := (hlinked stored.familyId).last_of_unrevoked
        (mem_familyOf.mpr ⟨Table.mem_of_get present, rfl⟩) unrevoked
      have hlast : familyOf (tokens.put (stored.replaced now new.id)) stored.familyId =
          before ++ [stored.replaced now new.id] :=
        familyOf_put_last (stored.replaced now new.id) present rfl hbefore
      rw [← hstored, if_pos family, hlast, List.append_assoc]
      exact Linked.replace_last now (hbefore ▸ hlinked stored.familyId) last
    · rw [if_neg (family ▸ hstored), List.append_nil,
        familyOf_put_of_ne (stored.replaced now new.id) present rfl hstored]
      exact hlinked familyId

/-- A family without an unrevoked token stays so. -/
theorem TokensEffect.dead (h : TokensEffect request tokens tokens')
    (hnew : ∀ drawn ∈ request.newFamily, familyOf tokens drawn = [])
    (hdead : Dead (familyOf tokens familyId)) : Dead (familyOf tokens' familyId) := by
  cases h with
  | revoked revokes =>
    rw [familyOf_map revokes]
    refine ⟨by simpa using hdead.1, ?_⟩
    intro t ht
    obtain ⟨t', ht', rfl⟩ := List.mem_map.mp ht
    exact revokes.revokedAt t' (hdead.2 t' ht')
  | issued drawn fresh last =>
    rename_i new
    have hne : new.familyId ≠ familyId := by
      rintro rfl
      exact hdead.1 (hnew _ drawn)
    rw [familyOf_put_new fresh, if_neg hne, List.append_nil]
    exact hdead
  | rotated now present unrevoked fresh family last =>
    rename_i stored new
    have hne : stored.familyId ≠ familyId := by
      rintro rfl
      have hrevoked := hdead.2 stored (mem_familyOf.mpr ⟨Table.mem_of_get present, rfl⟩)
      rw [unrevoked] at hrevoked
      cases hrevoked
    have hfresh : (tokens.put (stored.replaced now new.id)).get new.id = none :=
      Table.get_put_eq_none present fresh
    rw [familyOf_put_new hfresh, if_neg (family ▸ hne), List.append_nil,
      familyOf_put_of_ne (stored.replaced now new.id) present rfl hne]
    exact hdead

end Family

/-! ## Every run -/

section Runs

variable {settings : Settings} {s s' : State} {requests : List Request}

/-- Every family is a chain. -/
theorem linked_of_run (hrun : Run (Request.step settings) Request.NewFamily State.empty requests s)
    (familyId : Uuid) : Linked (s.db.family familyId) := by
  have hstart : ∀ familyId, Linked (State.empty.db.family familyId) := by
    intro familyId
    change Linked []
    trivial
  refine hrun.invariant (fun s => ∀ familyId, Linked (s.db.family familyId)) hstart ?_ familyId
  intro request s s' hlinked hnew hstep familyId
  cases hstep
  exact (request.effect).tokens.linked hnew hlinked

theorem dead_of_run (hrun : Run (Request.step settings) Request.NewFamily s requests s')
    {familyId : Uuid} (hdead : Dead (s.db.family familyId)) : Dead (s'.db.family familyId) := by
  refine hrun.invariant (fun s => Dead (s.db.family familyId)) hdead ?_
  intro request s s' hdead hnew hstep
  cases hstep
  exact (request.effect).tokens.dead hnew hdead

/-- Revoking a family that has a token. -/
theorem dead_revoke {db : Db} {stored : RefreshToken} {now : DateTime}
    (hmem : stored ∈ db.refreshTokens.rows) :
    Dead ((db.revoke (.family stored.familyId) now).family stored.familyId) := by
  have hfamily : (db.revoke (.family stored.familyId) now).family stored.familyId =
      (db.family stored.familyId).map (RefreshToken.revoke (.family stored.familyId) now) :=
    familyOf_map (revokes_set (.family stored.familyId) now)
  constructor
  · intro hempty
    have hmap := hfamily.symm.trans hempty
    have hstored : stored ∈ db.family stored.familyId := mem_familyOf.mpr ⟨hmem, rfl⟩
    rw [List.map_eq_nil_iff.mp hmap] at hstored
    cases hstored
  · intro t ht
    rw [hfamily] at ht
    obtain ⟨t', ht', rfl⟩ := List.mem_map.mp ht
    rw [RefreshToken.isSome_revokedAt_revoke]
    simp [TokenSet.has, (mem_familyOf.mp ht').2]

/-- A token of a chain that was replaced is revoked. -/
theorem Linked.revoked_of_replaced {tokens : List RefreshToken} (h : Linked tokens)
    {t : RefreshToken} (ht : t ∈ tokens) (hreplaced : t.replacedById.isSome) :
    t.revokedAt.isSome := by
  induction tokens with
  | nil => cases ht
  | cons first rest ih =>
    cases rest with
    | nil =>
      obtain rfl := List.mem_singleton.mp ht
      have hnone : t.replacedById = none := h
      rw [hnone] at hreplaced
      cases hreplaced
    | cons second rest =>
      obtain ⟨-, hrevoked, hrest⟩ := h
      rcases List.mem_cons.mp ht with rfl | hmem
      · exact hrevoked
      · exact ih hrest hmem

/-- A token that is revoked is refused, and its family revoked. -/
theorem serve_refresh_of_revoked {raw : String} (hraw : raw ≠ "") (client : ClientMeta)
    (now : DateTime) (draw : Draw) {stored : RefreshToken}
    (hstored : s.db.tokenBy (settings.hashToken raw) = some stored)
    (hrevoked : stored.revokedAt.isSome) :
    ∃ s', (Request.refresh (some raw) client now draw).serve settings s =
      (.error AuthService.invalidSession, s') ∧
      s'.db = s.db.revoke (.family stored.familyId) now := by
  have hrun : (refresh settings (some raw) client now draw).run Stmt.exec s.db =
      .ok (.error AuthService.invalidSession, s.db.revoke (.family stored.familyId) now) := by
    refine Prog.run_orRaise_bind.mpr ⟨raw, by simp [hraw], ?_⟩
    exact Prog.run_bind_of_ok (run_rotateRefreshToken_of_revoked hstored hrevoked)
  have htransact : s.store.transact (refresh settings (some raw) client now draw) =
      .ok (.error AuthService.invalidSession,
        ⟨s.db.revoke (.family stored.familyId) now, s.store.valid.revoke ..⟩) :=
    Store.transact_ok.mpr hrun
  simp only [Request.serve, State.transact, htransact]
  exact ⟨_, rfl, rfl⟩

/-- What holds of refresh tokens in every state: the families are chains, and a token that is
    presented after it was rotated or revoked ends its family. -/
structure FamilyDiscipline (settings : Settings) (s : State) : Prop where
  linked : ∀ familyId, Linked (s.db.family familyId)
  reuse : ∀ raw client now draw stored, raw ≠ "" →
    s.db.tokenBy (settings.hashToken raw) = some stored →
    (stored.revokedAt.isSome ∨ stored.replacedById.isSome) →
    ∃ s₁, (Request.refresh (some raw) client now draw).serve settings s =
        (.error AuthService.invalidSession, s₁) ∧
      s₁.db = s.db.revoke (.family stored.familyId) now ∧
      (∀ t ∈ s₁.db.family stored.familyId, t.revokedAt.isSome) ∧
      ∀ later s₂, Run (Request.step settings) Request.NewFamily s₁ later s₂ →
        ∀ raw' client' now' draw' t, s₂.db.tokenBy (settings.hashToken raw') = some t →
          t.familyId = stored.familyId →
          ∃ e, ((Request.refresh (some raw') client' now' draw').serve settings s₂).1 = .error e

/-- A token that is revoked is not accepted. -/
theorem refresh_refused {raw : String} {client : ClientMeta} {now : DateTime} {draw : Draw}
    {t : RefreshToken} (ht : s.db.tokenBy (settings.hashToken raw) = some t)
    (hrevoked : t.revokedAt.isSome) :
    ∃ e, ((Request.refresh (some raw) client now draw).serve settings s).1 = .error e := by
  by_cases hraw : raw = ""
  · subst hraw
    exact ⟨_, rfl⟩
  · obtain ⟨s', hserve, -⟩ := serve_refresh_of_revoked hraw client now draw ht hrevoked
    exact ⟨_, congrArg Prod.fst hserve⟩

/-- The discipline holds in every state that non-overlapping requests reach. -/
theorem family_discipline
    (hrun : Run (Request.step settings) Request.NewFamily State.empty requests s) :
    FamilyDiscipline settings s where
  linked := linked_of_run hrun
  reuse := by
    intro raw client now draw stored hraw hstored hused
    have hmem : stored ∈ s.db.refreshTokens.rows := List.mem_of_find?_eq_some hstored
    have hrevoked : stored.revokedAt.isSome := by
      rcases hused with hrevoked | hreplaced
      · exact hrevoked
      · exact (linked_of_run hrun stored.familyId).revoked_of_replaced
          (mem_familyOf.mpr ⟨hmem, rfl⟩) hreplaced
    obtain ⟨s₁, hserve, hdb⟩ := serve_refresh_of_revoked hraw client now draw hstored hrevoked
    have hdead : Dead (s₁.db.family stored.familyId) := by
      rw [hdb]
      exact dead_revoke hmem
    refine ⟨s₁, hserve, hdb, hdead.2, ?_⟩
    intro later s₂ hlater raw' client' now' draw' t ht hfamily
    have htmem : t ∈ s₂.db.refreshTokens.rows := List.mem_of_find?_eq_some ht
    exact refresh_refused ht ((dead_of_run hlater hdead).2 t (mem_familyOf.mpr ⟨htmem, hfamily⟩))

/-- A login, a rotation, and the first token again. -/
def replayedToken : List Request :=
  [.register ⟨"sara@shop.ir", "sara", "secret", "Sara", "N"⟩ noClient ⟨1, 0, ⟨"mail", 1, 0, 0⟩⟩ 7
      ⟨"first", 1, 0, 0, 0⟩,
    .refresh (some "first") noClient 5 ⟨"second", 2, 5, 0, 5⟩,
    .refresh (some "first") noClient 9 ⟨"third", 3, 9, 0, 9⟩]

theorem family_discipline_replayed : ∃ s,
    Run (Request.step plainSettings) Request.NewFamily State.empty replayedToken s ∧
      FamilyDiscipline plainSettings s ∧
      (s.db.family 7).map RefreshToken.revokedAt = [some 5, some 9] := by
  have hexec : (Run.execAll (Request.step plainSettings) Request.NewFamily replayedToken
      State.empty).any (fun s => (s.db.family 7).map RefreshToken.revokedAt = [some 5, some 9]) =
        true := by decide +kernel
  obtain ⟨s, hrun, hfamily⟩ := Run.exists_of_execAll hexec
  exact ⟨s, hrun, family_discipline hrun, hfamily⟩

end Runs

end Accounts

end ElectronicShop
