import ElectronicShop.Execution.Tokens

/-!
# Concurrent rotations of one refresh token

`rotate_refresh_token` reads the token it is shown without a lock, and revokes it with a
later write. So two rotations that both read the token before either has committed both
exchange it. As long as none ends on a token that has been revoked since it was read, the
token is exchanged once, and whoever comes second ends the family.
-/

namespace ElectronicShop

namespace Accounts

open Txn

/-- A call of `rotate_refresh_token`, up to the token it is shown. -/
structure RotationCall where
  client : ClientMeta
  now : DateTime
  draw : Draw
  deriving DecidableEq, Repr

/-- The answer of a rotation: a new pair, or an error that is raised after the commit. -/
abbrev Rotation : Type := Except ShopError (AccessToken × String × Account)

/-- Rotations that are all shown the same token, in an interleaving. -/
abbrev Rotations (ι : Type) : Type := Config accounts ShopError Rotation Db Session RowKey ι

/-- All of them are about to begin. -/
def Rotations.start {ι : Type} (settings : Settings) (raw : String) (db : Db)
    (calls : ι → RotationCall) : Rotations ι where
  db := db
  clients i := .running
    (AuthService.rotateRefreshToken settings raw (calls i).client (calls i).now (calls i).draw)
    engine.start []

/-- The condition: a rotation that has read the token unrevoked ends while it is so still. -/
def EndsUnrevoked {ι : Type} (tokenHash : String) (c : Rotations ι) : Event ι → Prop
  | .kill _ => True
  | .turn i =>
    match c.clients i with
    | .running (.done _) w _ => w.StillUnrevoked tokenHash c.db
    | .running (.raise _) w _ => w.StillUnrevoked tokenHash c.db
    | _ => True

instance decidableEndsUnrevoked {ι : Type} (tokenHash : String) (c : Rotations ι) :
    (ev : Event ι) → Decidable (EndsUnrevoked tokenHash c ev)
  | .kill _ => isTrue trivial
  | .turn i => by
    simp only [EndsUnrevoked]
    rcases c.clients i with ⟨_ | _ | _, _, _⟩ | _ | _ <;> infer_instance

theorem EndsUnrevoked.done {ι : Type} {c : Rotations ι} {i : ι} {answer : Rotation} {w : Session}
    {held : List RowKey} {tokenHash : String} (h : EndsUnrevoked tokenHash c (.turn i))
    (hi : c.clients i = .running (.done answer) w held) : w.StillUnrevoked tokenHash c.db := by
  simpa only [EndsUnrevoked, hi] using h

theorem EndsUnrevoked.raise {ι : Type} {c : Rotations ι} {i : ι} {e : ShopError} {w : Session}
    {held : List RowKey} {tokenHash : String} (h : EndsUnrevoked tokenHash c (.turn i))
    (hi : c.clients i = .running (.raise e) w held) : w.StillUnrevoked tokenHash c.db := by
  simpa only [EndsUnrevoked, hi] using h

/-! ## What the others may do -/

/-- The token that is shown to all of them is in the database. -/
def Db.Holds (db : Db) (stored : RefreshToken) : Prop :=
  ∃ t, db.refreshTokens.get stored.id = some t ∧ t.tokenHash = stored.tokenHash ∧
    t.familyId = stored.familyId

/-- No token of the family can be used. -/
def Db.FamilyRevoked (db : Db) (familyId : Uuid) : Prop :=
  ∀ t ∈ db.refreshTokens.rows, t.familyId = familyId → t.revokedAt.isSome

/-- What other rotations may do. Once the token is revoked its family gets no new token. -/
structure RotationRely (stored : RefreshToken) (locks : List RowKey) (db db' : Db) : Prop where
  later : Later db.refreshTokens db'.refreshTokens
  locked : ∀ id, .refreshToken id ∈ locks →
    db'.refreshTokens.get id = db.refreshTokens.get id
  constraints : db.Constraints → db'.Constraints
  shrinks : db.Revoked stored.id → ∀ t' ∈ db'.refreshTokens.rows,
    t'.familyId = stored.familyId → t'.revokedAt = none →
      ∃ t ∈ db.activeTokens (.family stored.familyId), t.id = t'.id

variable {ι : Type} {settings : Settings} {raw : String} {stored : RefreshToken} {db db' : Db}

theorem mem_activeTokens_family {t : RefreshToken} {familyId : Uuid} :
    t ∈ db.activeTokens (.family familyId) ↔
      t ∈ db.refreshTokens.rows ∧ t.familyId = familyId ∧ t.revokedAt = none := by
  simp [Db.activeTokens, TokenSet.has]

theorem Db.Holds.later (h : db.Holds stored)
    (hlater : Later db.refreshTokens db'.refreshTokens) : db'.Holds stored := by
  obtain ⟨t, ht, hhash, hfamily⟩ := h
  obtain ⟨t', ht', -, hhash', hfamily', -⟩ := hlater _ t ht
  exact ⟨t', ht', hhash'.trans hhash, hfamily'.trans hfamily⟩

/-- The lookup finds the token that is shown. -/
theorem Db.Holds.tokenBy (h : db.Holds stored) (hconstraints : db.Constraints) {t : RefreshToken}
    (ht : db.tokenBy stored.tokenHash = some t) :
    t.id = stored.id ∧ t.familyId = stored.familyId := by
  obtain ⟨t', ht', hhash, hfamily⟩ := h
  have hsame : t = t' := by
    refine List.inj_on_of_nodup_map hconstraints.refreshHashes (List.mem_of_find?_eq_some ht)
      (Table.mem_of_get ht') ?_
    have hfound : t.tokenHash = stored.tokenHash := by simpa using List.find?_some ht
    exact hfound.trans hhash.symm
  rw [hsame]
  exact ⟨Table.key_of_get ht', hfamily⟩

theorem rotationRely_compatible (stored : RefreshToken) : Compatible (RotationRely stored) where
  refl _ db := by
    refine ⟨Later.refl _, fun _ _ => rfl, id, fun _ t ht hfamily hunrevoked => ?_⟩
    exact ⟨t, mem_activeTokens_family.mpr ⟨ht, hfamily, hunrevoked⟩, rfl⟩
  trans := by
    intro locks db₁ db₂ db₃ h₁ h₂
    refine ⟨h₁.later.trans h₂.later, fun id hid => (h₂.locked id hid).trans (h₁.locked id hid),
      fun h => h₂.constraints (h₁.constraints h), fun hrevoked t₃ ht₃ hfamily hunrevoked => ?_⟩
    obtain ⟨t₂, ht₂, hid₂⟩ :=
      h₂.shrinks (hrevoked.later h₁.later) t₃ ht₃ hfamily hunrevoked
    obtain ⟨hmem₂, hfamily₂, hunrevoked₂⟩ := mem_activeTokens_family.mp ht₂
    obtain ⟨t₁, ht₁, hid₁⟩ := h₁.shrinks hrevoked t₂ hmem₂ hfamily₂ hunrevoked₂
    exact ⟨t₁, ht₁, hid₁.trans hid₂⟩
  forget _ _ _ h := ⟨h.later, fun _ hid => (nomatch hid), h.constraints, h.shrinks⟩
  locked _ _ _ id h hid := h.locked id hid

/-! ## What is committed -/

section Commit

variable {w : Session}

/-- The detection leaves no token of the family unrevoked. -/
theorem Detection.familyRevoked {shown : RefreshToken} {start : Db}
    {f : RefreshToken → RefreshToken} (h : Detection (RotationRely stored) shown start w db)
    (hshown : shown.familyId = stored.familyId) (hstart : start.Revoked stored.id)
    (hf : TokenUpdate w.pending f) : (w.view db).FamilyRevoked stored.familyId := by
  intro t' ht' hfamily
  have hview : (w.view db).refreshTokens = db.refreshTokens.map f hf.id := hf.apply db
  rw [hview] at ht'
  obtain ⟨t, ht, rfl⟩ := List.mem_map.mp ht'
  rw [hf.familyId] at hfamily
  cases hrevoked : t.revokedAt with
  | some time => exact hf.revokedAt t (by rw [hrevoked]; rfl)
  | none =>
    obtain ⟨read, time, hread, hlater, hpending⟩ := h.writes
    obtain ⟨t₀, ht₀, hid⟩ := hlater.shrinks (hstart.later hread.later) t ht hfamily hrevoked
    refine hf.revokes t.id time ?_ t rfl
    rw [hpending, ← hid, hshown]
    exact List.mem_map_of_mem ht₀

end Commit

/-! ## Every interleaving -/

/-- What holds of the database and of the rotations that have committed. -/
structure RotationInv (stored : RefreshToken) (db : Db) (results : ι → Option Rotation) :
    Prop where
  constraints : db.Constraints
  holds : db.Holds stored
  exchanged : ∀ i pair, results i = some (.ok pair) → db.Revoked stored.id
  once : ∀ i j pair pair', results i = some (.ok pair) → results j = some (.ok pair') → i = j
  detected : ∀ i e, results i = some (.error e) →
    db.Revoked stored.id ∧ db.FamilyRevoked stored.familyId

/-- What a rotation knows when it is about to commit: it began on a database that others may
    have made of `db₀`. -/
def RotationPost (settings : Settings) (raw : String) (stored : RefreshToken) (db₀ : Db)
    (answer : Rotation) (w : Session) (held : List RowKey) (db : Db) : Prop :=
  ∃ start, RotationRely stored [] db₀ start ∧
    Rotated (RotationRely stored) settings raw start answer w held db

section Outline

variable [DecidableEq ι] {db₀ : Db} {results : ι → Option Rotation} {w : Session}
  {held : List RowKey} {i : ι}

/-- A commit of an exchange. -/
theorem RotationInv.exchange {shown : RefreshToken} {user : Account}
    {pair : AccessToken × String × Account} (hinv : RotationInv stored db results)
    (hexchange : Exchange shown user w held db) (hshown : shown.id = stored.id)
    (hunrevoked : ∀ t ∈ db.refreshTokens.get stored.id, t.revokedAt = none)
    (hcommit : engine.commit w db = .ok db') :
    RotationInv stored db' (Function.update results i (some (.ok pair))) ∧
      ∀ locks, (∀ l ∈ locks, l ∉ held ∧ l ∉ engine.needCommit w) →
        RotationRely stored locks db db' := by
  obtain ⟨hconstraints, rfl⟩ := engine_commit_ok.mp hcommit
  obtain ⟨row, hrow, -, -⟩ := hinv.holds
  obtain ⟨hlater, hrevoked, hkept⟩ := hexchange.later_view (hshown ▸ hrow)
  rw [hshown] at hrevoked
  have hnot : ¬ db.Revoked stored.id := by
    rintro ⟨t, ht, hsome⟩
    rw [hunrevoked t ht] at hsome
    cases hsome
  have hnone : ∀ j answer, results j = some answer → False := by
    intro j answer hj
    cases answer with
    | ok pair => exact hnot (hinv.exchanged j pair hj)
    | error e => exact hnot (hinv.detected j e hj).1
  have hresult : ∀ j answer, Function.update results i (some (.ok pair)) j = some answer →
      j = i ∧ answer = .ok pair := by
    intro j answer hj
    by_cases hji : j = i
    · subst hji
      rw [Function.update_self] at hj
      exact ⟨rfl, (Option.some.inj hj).symm⟩
    · rw [Function.update_of_ne hji] at hj
      exact (hnone j answer hj).elim
  refine ⟨⟨hconstraints, hinv.holds.later hlater, fun _ _ _ => hrevoked, ?_, ?_⟩, ?_⟩
  · intro j k pair₁ pair₂ hj hk
    rw [(hresult j _ hj).1, (hresult k _ hk).1]
  · intro j e hj
    cases (hresult j _ hj).2
  · intro locks hlocks
    refine ⟨hlater, fun id hid => ?_, fun _ => hconstraints, fun h => absurd h hnot⟩
    exact hkept id (hlocks _ hid).1 (hlocks _ hid).2

/-- A commit of a detection. -/
theorem RotationInv.detect {shown : RefreshToken} {start : Db} {e : ShopError}
    (hinv : RotationInv stored db results)
    (hdetection : Detection (RotationRely stored) shown start w db)
    (hshown : shown.familyId = stored.familyId) (hstart : start.Revoked stored.id)
    (hdb : RotationRely stored [] start db) (hcommit : engine.commit w db = .ok db') :
    RotationInv stored db' (Function.update results i (some (.error e))) ∧
      ∀ locks, (∀ l ∈ locks, l ∉ held ∧ l ∉ engine.needCommit w) →
        RotationRely stored locks db db' := by
  obtain ⟨hconstraints, rfl⟩ := engine_commit_ok.mp hcommit
  obtain ⟨f, hf⟩ := hdetection.tokenUpdate
  have hview : (w.view db).refreshTokens = db.refreshTokens.map f hf.id := hf.apply db
  have hlater : Later db.refreshTokens (w.view db).refreshTokens := by
    rw [hview]
    exact Later.map hf.toAges
  have hrevoked : (w.view db).Revoked stored.id := (hstart.later hdb.later).later hlater
  have hfamily := hdetection.familyRevoked hshown hstart hf
  have hresult : ∀ j pair, Function.update results i (some (.error e)) j = some (.ok pair) →
      results j = some (.ok pair) := by
    intro j pair hj
    by_cases hji : j = i
    · subst hji
      rw [Function.update_self] at hj
      cases hj
    · rwa [Function.update_of_ne hji] at hj
  refine ⟨⟨hconstraints, hinv.holds.later hlater, fun _ _ _ => hrevoked, ?_, fun _ _ _ =>
    ⟨hrevoked, hfamily⟩⟩, ?_⟩
  · intro j k pair₁ pair₂ hj hk
    exact hinv.once j k _ _ (hresult j _ hj) (hresult k _ hk)
  · intro locks hlocks
    refine ⟨hlater, fun id hid => ?_, fun _ => hconstraints, ?_⟩
    · rw [hview, Table.get_map]
      cases hrow : db.refreshTokens.get id with
      | none => rfl
      | some t =>
        have hid' : t.id = id := Table.key_of_get hrow
        rw [Option.map_some, hf.keeps t (by rw [hid']; exact (hlocks _ hid).2)]
    · intro _ t' ht' hfamily' hunrevoked
      have hsome := hfamily t' ht' hfamily'
      rw [hunrevoked] at hsome
      cases hsome

end Outline

theorem result_of_committed {c : Rotations ι} {i : ι} {answer : Rotation}
    (h : c.clients i = .committed answer) : c.results i = some answer := by
  simp only [Config.results, h, Client.result]

section Runs

variable [DecidableEq ι] [Fintype ι] {store : Store}

/-- The token that was shown, as a rotation has found it. -/
theorem shown_eq (hstored : store.db.tokenBy (settings.hashToken raw) = some stored) {start : Db}
    (hstart : RotationRely stored [] store.db start) {shown : RefreshToken}
    (hshown : start.tokenBy (settings.hashToken raw) = some shown) :
    shown.tokenHash = settings.hashToken raw ∧ shown.id = stored.id ∧
      shown.familyId = stored.familyId := by
  have hhash : stored.tokenHash = settings.hashToken raw := by
    simpa using List.find?_some hstored
  have hholds : store.db.Holds stored := ⟨stored, get_of_tokenBy hstored, rfl, rfl⟩
  have hfound : shown.tokenHash = settings.hashToken raw := by
    simpa using List.find?_some hshown
  obtain ⟨hid, hfamily⟩ := (hholds.later hstart.later).tokenBy (hstart.constraints store.valid)
    (hhash.symm ▸ hshown)
  exact ⟨hfound, hid, hfamily⟩

/-- A token that is read unrevoked, and is so still, is not revoked. -/
theorem not_revoked_of_still {w : Session} {shown : RefreshToken}
    (hstill : w.StillUnrevoked (settings.hashToken raw) db)
    (hloaded : w.loaded.refreshTokens.get shown.id = some shown)
    (hhash : shown.tokenHash = settings.hashToken raw) (hunrevoked : shown.revokedAt = none) :
    ∀ t ∈ db.refreshTokens.get shown.id, t.revokedAt = none :=
  hstill shown (Table.mem_of_get hloaded) hhash hunrevoked

/-- The proof outline. -/
def rotationOutline (hstored : store.db.tokenBy (settings.hashToken raw) = some stored) :
    Outline engine (EndsUnrevoked (ι := ι) (settings.hashToken raw)) where
  rely _ := RotationRely stored
  post _ := RotationPost settings raw stored store.db
  inv := RotationInv stored
  rely_refl _ := (rotationRely_compatible stored).refl
  rely_trans _ := (rotationRely_compatible stored).trans
  post_stable := by
    rintro _ answer w held db db' ⟨start, hstart, hrotated⟩ hdb
    exact ⟨start, hstart, hrotated.stable (rotationRely_compatible stored) hdb⟩
  commit_ok := by
    rintro c i answer w held db' hi hcond hinv ⟨start, hstart, shown, hshown, hloaded, hdb, hanswer⟩
      hcommit
    obtain ⟨hhash, hid, hfamily⟩ := shown_eq hstored hstart hshown
    have hboth : RotationInv stored db' (Function.update c.results i (some answer)) ∧
        ∀ locks, (∀ l ∈ locks, l ∉ held ∧ l ∉ engine.needCommit w) →
          RotationRely stored locks c.db db' := by
      cases answer with
      | ok pair =>
        have hunrevoked := not_revoked_of_still (hcond.done hi) hloaded hhash hanswer.2.unrevoked
        rw [hid] at hunrevoked
        exact hinv.exchange hanswer.2 hid hunrevoked hcommit
      | error e =>
        have hrevoked : start.Revoked stored.id :=
          ⟨shown, hid ▸ get_of_tokenBy hshown, hanswer.revoked⟩
        exact hinv.detect hanswer hfamily hrevoked hdb hcommit
    exact ⟨hboth.1, fun _ _ => hboth.2⟩

omit [Fintype ι] in
theorem rotation_good (hstored : store.db.tokenBy (settings.hashToken raw) = some stored)
    (calls : ι → RotationCall) :
    (rotationOutline hstored).Good (Rotations.start settings raw store.db calls) := by
  refine Outline.good_start _ store.db _ ?_ ?_
  · exact ⟨store.valid, ⟨stored, get_of_tokenBy hstored, rfl, rfl⟩, fun _ _ h => (nomatch h),
      fun _ _ _ _ h => (nomatch h), fun _ _ h => (nomatch h)⟩
  · intro i db hdb
    refine (wpe_mono (wpe_rotateRefreshToken (rotationRely_compatible stored) raw _ _ _ db)
      ?_ fun _ _ _ _ h => h).wp
    intro answer w held db' hrotated
    exact ⟨db, hdb, hrotated⟩

omit [Fintype ι] in
/-- How a rotation ends that raises an error. -/
theorem rotation_outcome (hstored : store.db.tokenBy (settings.hashToken raw) = some stored)
    (calls : ι → RotationCall) :
    (rotationOutline hstored).Outcome (fun _ _ w _ db => ∃ start,
      RotationRely stored [] store.db start ∧
        NotRotated (RotationRely stored) settings raw start w db)
      (Rotations.start settings raw store.db calls) := by
  refine Outline.outcome_start _ store.db _ ?_
  intro i db hdb
  refine wpe_mono (wpe_rotateRefreshToken (rotationRely_compatible stored) raw _ _ _ db) ?_ ?_
  · intro answer w held db' hrotated
    exact ⟨db, hdb, hrotated⟩
  · intro e w held db' hnot
    exact ⟨db, hdb, hnot⟩

/-- The token has been exchanged at most once; who was refused because of it has ended the
    family, and everyone who ends after an exchange does so. -/
structure ExchangedOnce (tokenHash : String) (stored : RefreshToken) (c : Rotations ι) : Prop where
  once : ∀ i j pair pair', c.clients i = .committed (.ok pair) →
    c.clients j = .committed (.ok pair') → i = j
  detected : ∀ j e, c.clients j = .committed (.error e) → c.db.FamilyRevoked stored.familyId
  second : ∀ i pair, c.clients i = .committed (.ok pair) →
    ∀ j c', EndsUnrevoked tokenHash c (.turn j) → c.exec engine (.turn j) = some c' →
      ((∃ answer, c'.clients j = .committed answer) ∨ ∃ e, c'.clients j = .aborted (some e)) →
        c'.db.FamilyRevoked stored.familyId

/-- In every interleaving in which the rotations that have read the token unrevoked end while
    it is so still. -/
theorem token_exchanged_once {calls : ι → RotationCall} {c : Rotations ι}
    (hstored : store.db.tokenBy (settings.hashToken raw) = some stored)
    (h : Reach engine (EndsUnrevoked (settings.hashToken raw))
      (Rotations.start settings raw store.db calls) c) :
    ExchangedOnce (settings.hashToken raw) stored c := by
  have hgood := (rotationOutline hstored).sound (rotation_good hstored calls) h
  have hinv : RotationInv stored c.db c.results := hgood.inv
  refine ⟨?_, ?_, ?_⟩
  · intro i j pair pair' hi hj
    exact hinv.once i j _ _ (result_of_committed hi) (result_of_committed hj)
  · intro j e hj
    exact (hinv.detected j e (result_of_committed hj)).2
  · intro i pair hi j c' hcond hexec hends
    have hrevoked : c.db.Revoked stored.id := hinv.exchanged i pair (result_of_committed hi)
    have hstill : ∀ (w : Session) (shown : RefreshToken),
        w.StillUnrevoked (settings.hashToken raw) c.db →
        w.loaded.refreshTokens.get shown.id = some shown →
        shown.tokenHash = settings.hashToken raw → shown.id = stored.id →
        shown.revokedAt = none → False := by
      intro w shown hstill hloaded hhash hid hunrevoked
      obtain ⟨t, ht, hsome⟩ := hrevoked
      have hnone := not_revoked_of_still hstill hloaded hhash hunrevoked t (hid ▸ ht)
      rw [hnone] at hsome
      cases hsome
    rcases hends with ⟨answer, hj⟩ | ⟨e, hj⟩
    · have hinv' : RotationInv stored c'.db c'.results :=
        ((rotationOutline hstored).sound (rotation_good hstored calls) (h.step hcond hexec)).inv
      cases answer with
      | error e => exact (hinv'.detected j e (result_of_committed hj)).2
      | ok pair' =>
        -- it would be a second exchange
        have hi' := Config.committed_of_exec hexec hi
        obtain rfl := hinv'.once i j _ _ (result_of_committed hi') (result_of_committed hj)
        simp [Config.exec, hi] at hexec
    · rcases Config.exec_aborted hexec hj with ⟨w, held, hraise⟩ | ⟨answer, w, held, hdone, hcommit⟩
      · obtain ⟨start, hstart, hnot⟩ := Outline.outcome _ (rotation_good hstored calls)
          (rotation_outcome hstored calls) h j _ w held hraise c.db
          ((rotationRely_compatible stored).refl held c.db)
        rcases hnot with hnone | ⟨shown, hshown, hunrevoked, hloaded, -⟩
        · have hholds : start.Holds stored :=
            Db.Holds.later ⟨stored, get_of_tokenBy hstored, rfl, rfl⟩ hstart.later
          obtain ⟨t, ht, hhash, -⟩ := hholds
          have hstoredHash : stored.tokenHash = settings.hashToken raw := by
            simpa using List.find?_some hstored
          have hmissing := List.find?_eq_none.mp hnone t (Table.mem_of_get ht)
          simp [hhash, hstoredHash] at hmissing
        · obtain ⟨hhash, hid, -⟩ := shown_eq hstored hstart hshown
          exact (hstill w shown (hcond.raise hraise) hloaded hhash hid hunrevoked).elim
      · obtain ⟨start, hstart, shown, hshown, hloaded, hdb, hanswer⟩ :=
          hgood.clients j _ w held hdone c.db ((rotationRely_compatible stored).refl held c.db)
        obtain ⟨hhash, hid, -⟩ := shown_eq hstored hstart hshown
        cases answer with
        | ok pair' =>
          exact (hstill w shown (hcond.done hdone) hloaded hhash hid hanswer.2.unrevoked).elim
        | error e' =>
          -- a detection violates no constraint
          obtain ⟨f, hf⟩ := hanswer.tokenUpdate
          exact absurd (hanswer.constraints_view hf hinv.constraints)
            (engine_commit_error.mp hcommit).1

end Runs

/-- The customer Sara, who has logged in once. -/
def oneSession : Store where
  db := { Db.empty with
    users := (∅ : Table Account.id).put (localAccount 1 "sara" .customer)
    refreshTokens := (∅ : Table RefreshToken.id).put
      ⟨1, 1, "first", 7, none, none, 100, 0, none, none⟩ }
  valid := by decide

/-- Two tabs of her browser refresh at the same time. -/
def twoTabs : Fin 2 → RotationCall
  | 0 => ⟨noClient, 5, ⟨"second", 2, 5, 0, 5⟩⟩
  | 1 => ⟨noClient, 5, ⟨"third", 3, 5, 0, 5⟩⟩

theorem oneSession_stored : oneSession.db.tokenBy (plainSettings.hashToken "first") =
    some ⟨1, 1, "first", 7, none, none, 100, 0, none, none⟩ := by
  decide

theorem committed_of_isOk {c : Rotations ι} {i : ι} {b : Bool}
    (h : (c.results i).map Except.isOk = some b) :
    ∃ answer, c.clients i = .committed answer ∧ answer.isOk = b := by
  unfold Config.results at h
  cases hi : c.clients i with
  | running p w held =>
    rw [hi] at h
    cases h
  | aborted e =>
    rw [hi] at h
    cases h
  | committed answer =>
    rw [hi] at h
    exact ⟨answer, rfl, Option.some.inj h⟩

/-- One after the other: the second is refused, and the family ended. -/
theorem token_exchanged_once_twoTabs : ∃ c : Rotations (Fin 2),
    Reach engine (EndsUnrevoked "first") (Rotations.start plainSettings "first" oneSession.db twoTabs)
      c ∧
    (∃ answer, c.clients 0 = .committed answer ∧ answer.isOk = true) ∧
    (∃ answer, c.clients 1 = .committed answer ∧ answer.isOk = false) ∧
    ExchangedOnce "first" ⟨1, 1, "first", 7, none, none, 100, 0, none, none⟩ c := by
  let schedule : List (Event (Fin 2)) := List.replicate 6 (.turn 0) ++ List.replicate 4 (.turn 1)
  have hrun : ((Rotations.start plainSettings "first" oneSession.db twoTabs).execAll engine
      (EndsUnrevoked "first") schedule).any (fun c => ((c.results 0).map Except.isOk) = some true ∧
        ((c.results 1).map Except.isOk) = some false) = true := by decide +kernel
  obtain ⟨c, hreach, hfirst, hsecond⟩ := Reach.exists_of_execAll schedule hrun
  exact ⟨c, hreach, committed_of_isOk hfirst, committed_of_isOk hsecond,
    token_exchanged_once oneSession_stored hreach⟩

/-- Both tabs read the token before either has committed: both exchange it, and the family
    goes on with two tokens. -/
theorem token_exchanged_once_fails : ∃ c : Rotations (Fin 2),
    Reach engine anyEvent (Rotations.start plainSettings "first" oneSession.db twoTabs) c ∧
    (∀ i, ∃ answer, c.clients i = .committed answer ∧ answer.isOk = true) ∧
    (c.db.activeTokens (.family 7)).length = 2 ∧
    ¬ ExchangedOnce "first" ⟨1, 1, "first", 7, none, none, 100, 0, none, none⟩ c := by
  let schedule : List (Event (Fin 2)) := .turn 1 :: List.replicate 6 (.turn 0) ++
    List.replicate 5 (.turn 1)
  have hrun : ((Rotations.start plainSettings "first" oneSession.db twoTabs).execAll engine
      anyEvent schedule).any (fun c => (∀ i, ((c.results i).map Except.isOk) = some true) ∧
        (c.db.activeTokens (.family 7)).length = 2) = true := by decide +kernel
  obtain ⟨c, hreach, hboth, hactive⟩ := Reach.exists_of_execAll schedule hrun
  have hcommitted : ∀ i, ∃ answer, c.clients i = .committed answer ∧ answer.isOk = true :=
    fun i => committed_of_isOk (hboth i)
  refine ⟨c, hreach, hcommitted, hactive, fun hclaim => ?_⟩
  obtain ⟨answer₀, h₀, hok₀⟩ := hcommitted 0
  obtain ⟨answer₁, h₁, hok₁⟩ := hcommitted 1
  cases answer₀ with
  | error e => cases hok₀
  | ok pair₀ =>
    cases answer₁ with
    | error e => cases hok₁
    | ok pair₁ => exact absurd (hclaim.once 0 1 pair₀ pair₁ h₀ h₁) (by decide)

end Accounts

end ElectronicShop
