import ElectronicShop.Accounts.Operations

/-!
# Reset links

A confirmation spends the link that it presents, and no other: neither it nor a change of
password looks at the other links of the user. A link that is spent stays spent, and no
confirmation that begins later gets through with it.
-/

namespace ElectronicShop

namespace Accounts

open Txn

/-- The operation confirms a link, which is known by the hash of its token. -/
def AccountOperation.Confirms (settings : Settings) (tokenHash : String) :
    AccountOperation → Prop
  | .confirmPasswordReset token .. => settings.hashToken token = tokenHash
  | _ => False

/-- The link has been used. -/
def Db.Spent (db : Db) (tokenHash : String) : Prop :=
  ∃ record, db.resetBy tokenHash = some record ∧ record.usedAt.isSome

variable {settings : Settings} {w : Session} {held : List RowKey} {db db' : Db}
  {tokenHash : String}

/-! ## Links over time -/

theorem resetBy_of_get (hvalid : db.Constraints) {record : PasswordResetToken}
    (hget : db.passwordResetTokens.get record.id = some record) :
    db.resetBy record.tokenHash = some record := by
  have hmem := Table.mem_of_get hget
  cases hfound : db.resetBy record.tokenHash with
  | none =>
    have hnone := List.find?_eq_none.mp hfound record hmem
    simp at hnone
  | some found =>
    have hhash : found.tokenHash = record.tokenHash := by
      simpa using List.find?_some hfound
    exact congrArg some (List.inj_on_of_nodup_map hvalid.resetHashes
      (List.mem_of_find?_eq_some hfound) hmem hhash)

theorem tokenHash_of_resetBy {record : PasswordResetToken}
    (h : db.resetBy tokenHash = some record) : record.tokenHash = tokenHash := by
  simpa using List.find?_some h

theorem get_of_resetBy {record : PasswordResetToken} (h : db.resetBy tokenHash = some record) :
    db.passwordResetTokens.get record.id = some record :=
  Table.get_of_mem (List.mem_of_find?_eq_some h)

/-- What writes make of a reset token. -/
structure Marked (writes : List Write) (record record' : PasswordResetToken) : Prop where
  id : record'.id = record.id
  tokenHash : record'.tokenHash = record.tokenHash
  usedAt : record.usedAt.isSome → record'.usedAt.isSome
  spent : ∀ time, .setUsedAt record.id time ∈ writes → record'.usedAt.isSome
  same : (∀ time, .setUsedAt record.id time ∉ writes) → record' = record

theorem Write.exists_marked {x : Write} {record : PasswordResetToken}
    (hget : db.passwordResetTokens.get record.id = some record)
    (hnew : ∀ row, x = .add (.passwordResetToken row) → row.id ≠ record.id) :
    ∃ record', (x.apply db).passwordResetTokens.get record.id = some record' ∧
      Marked [x] record record' := by
  have hother : (x.apply db).passwordResetTokens.get record.id =
      db.passwordResetTokens.get record.id → (∀ time, x ≠ .setUsedAt record.id time) →
        ∃ record', (x.apply db).passwordResetTokens.get record.id = some record' ∧
          Marked [x] record record' := by
    intro hsame hnot
    refine ⟨record, hsame.trans hget, rfl, rfl, fun h => h, fun time hmem => ?_, fun _ => rfl⟩
    exact absurd (List.mem_singleton.mp hmem).symm (hnot time)
  cases x
  case add row =>
    cases row
    case passwordResetToken row =>
      exact hother (Table.get_put_of_ne _ (hnew row rfl).symm) fun _ => by simp
    all_goals exact hother rfl fun _ => by simp
  case setUsedAt id time =>
    have hmodify := Table.get_modify db.passwordResetTokens id
      (fun t : PasswordResetToken => { t with usedAt := some time }) (fun _ => rfl) record.id
    by_cases hid : id = record.id
    · subst hid
      rw [if_pos rfl, hget, Option.map_some] at hmodify
      refine ⟨_, hmodify, rfl, rfl, fun _ => rfl, fun _ _ => rfl, fun hnot => ?_⟩
      exact absurd (List.mem_singleton_self _) (hnot time)
    · rw [if_neg (Ne.symm hid)] at hmodify
      refine hother hmodify fun time' heq => hid ?_
      cases heq
      rfl
  all_goals exact hother rfl fun _ => by simp

/-- One after the other: a token that was there is there still, marked if one of them marks
    it. -/
theorem exists_marked {writes : List Write} {record : PasswordResetToken}
    (hget : db.passwordResetTokens.get record.id = some record)
    (hnew : ∀ row, .add (.passwordResetToken row) ∈ writes → row.id ≠ record.id) :
    ∃ record', (writes.foldl Write.apply db).passwordResetTokens.get record.id = some record' ∧
      Marked writes record record' := by
  induction writes generalizing db record with
  | nil => exact ⟨record, hget, rfl, rfl, fun h => h, fun _ h => (nomatch h), fun _ => rfl⟩
  | cons x rest ih =>
    obtain ⟨record₁, hget₁, hfirst⟩ := Write.exists_marked hget fun row hx =>
      hnew row (hx ▸ List.mem_cons_self ..)
    have hnewRest : ∀ row, .add (.passwordResetToken row) ∈ rest → row.id ≠ record₁.id := by
      intro row hrow
      rw [hfirst.id]
      exact hnew row (List.mem_cons_of_mem _ hrow)
    rw [← hfirst.id] at hget₁
    obtain ⟨record₂, hget₂, hrest⟩ := ih hget₁ hnewRest
    rw [hfirst.id] at hget₂
    refine ⟨record₂, hget₂, hrest.id.trans hfirst.id, hrest.tokenHash.trans hfirst.tokenHash,
      fun h => hrest.usedAt (hfirst.usedAt h), fun time hmem => ?_, fun hnot => ?_⟩
    · rcases List.mem_cons.mp hmem with rfl | hmem
      · exact hrest.usedAt (hfirst.spent time (List.mem_singleton_self _))
      · exact hrest.spent time (hfirst.id.symm ▸ hmem)
    · have hfirstSame : record₁ = record :=
        hfirst.same fun time hmem => hnot time (List.mem_singleton.mp hmem ▸ List.mem_cons_self ..)
      have hrestSame : record₂ = record₁ := hrest.same fun time hmem =>
        hnot time (List.mem_cons_of_mem _ (hfirst.id ▸ hmem))
      exact hrestSame.trans hfirstSame

/-! ## What a session knows of its inserts -/

/-- The reset tokens that the session has inserted are new, and it holds their locks. -/
def Session.Fresh (w : Session) (held : List RowKey) (db : Db) : Prop :=
  ∀ row, .add (.passwordResetToken row) ∈ w.pending →
    .passwordResetToken row.id ∈ held ∧ db.passwordResetTokens.get row.id = none

theorem Session.Fresh.stable (h : w.Fresh held db) (hdb : AccountRely held db db') :
    w.Fresh held db' := by
  intro row hrow
  obtain ⟨hheld, hfree⟩ := h row hrow
  exact ⟨hheld, (hdb.passwordResetTokens _ hheld).trans hfree⟩

/-- A row that is there is there after more writes. -/
theorem Session.get_view_eq_none {id : Uuid}
    (h : (w.view db).passwordResetTokens.get id = none) : db.passwordResetTokens.get id = none := by
  cases hget : db.passwordResetTokens.get id with
  | none => rfl
  | some record =>
    exfalso
    have hstays : ∀ (writes : List Write) (db : Db), (db.passwordResetTokens.get id).isSome →
        ((writes.foldl Write.apply db).passwordResetTokens.get id).isSome := by
      intro writes
      induction writes with
      | nil => exact fun _ h => h
      | cons x rest ih =>
        intro db hsome
        refine ih _ ?_
        cases x
        case add row =>
          cases row
          case passwordResetToken row =>
            rw [show ((Write.add (.passwordResetToken row)).apply db).passwordResetTokens =
              db.passwordResetTokens.put row from rfl, Table.get_put]
            split
            · rfl
            · exact hsome
          all_goals exact hsome
        case setUsedAt other time =>
          exact (Table.isSome_get_modify db.passwordResetTokens other
            (fun t : PasswordResetToken => { t with usedAt := some time }) (fun _ => rfl) id).trans
              hsome
        all_goals exact hsome
    have hview := hstays w.pending db (by rw [hget]; rfl)
    unfold Session.view at h
    rw [h] at hview
    cases hview

/-- A statement keeps this, when rows are added by inserts only. -/
theorem Session.Fresh.execIn {s : Stmt} (h : w.Fresh held db) (hs : ∀ row, s ≠ .write (.add row))
    (hdb : AccountRely (s.needs w db ++ held) db db') :
    (s.execIn w db).2.Fresh (s.needs w db ++ held) db' := by
  have hold : w.Fresh (s.needs w db ++ held) db := fun row hrow =>
    ⟨List.mem_append_right _ (h row hrow).1, (h row hrow).2⟩
  refine Session.Fresh.stable ?_ hdb
  intro new hnew
  rcases Stmt.mem_pending_execIn hnew with hmem | ⟨row, rfl, hfree, hrow⟩ | heq
  · exact hold new hmem
  · cases hrow
    have hview : (w.view db).passwordResetTokens.get new.id = none := by
      simpa [NewRow.taken] using hfree
    exact ⟨List.mem_append_left _ (List.mem_cons_self ..), Session.get_view_eq_none hview⟩
  · exact absurd heq (hs _)

/-- What a commit makes of a link. -/
theorem Session.Fresh.resetBy_view (h : w.Fresh held db) (hvalid : (w.view db).Constraints)
    {record : PasswordResetToken} (hrecord : db.resetBy tokenHash = some record) :
    ∃ record', (w.view db).resetBy tokenHash = some record' ∧ Marked w.pending record record' := by
  have hget := get_of_resetBy hrecord
  have hnew : ∀ row, .add (.passwordResetToken row) ∈ w.pending → row.id ≠ record.id := by
    intro row hrow heq
    have hfree := (h row hrow).2
    rw [heq, hget] at hfree
    cases hfree
  obtain ⟨record', hget', hmarked⟩ := exists_marked hget hnew
  rw [← hmarked.id] at hget'
  refine ⟨record', ?_, hmarked⟩
  have hfound := resetBy_of_get hvalid hget'
  rwa [hmarked.tokenHash, tokenHash_of_resetBy hrecord] at hfound

/-! ## What is known at a commit -/

/-- What other operations may do: a link stays, and spent once it is. -/
structure ResetRely (locks : List RowKey) (db db' : Db) : Prop
    extends AccountRely locks db db' where
  stays : ∀ tokenHash record, db.resetBy tokenHash = some record →
    ∃ record', db'.resetBy tokenHash = some record' ∧ record'.id = record.id ∧
      (record.usedAt.isSome → record'.usedAt.isSome)

theorem resetRely_compatible : Compatible ResetRely where
  refl _ _ := ⟨accountRely_compatible.refl _ _, fun _ record h => ⟨record, h, rfl, fun h => h⟩⟩
  trans _ _ _ _ h₁ h₂ := by
    refine ⟨accountRely_compatible.trans _ _ _ _ h₁.toAccountRely h₂.toAccountRely, ?_⟩
    intro tokenHash record hrecord
    obtain ⟨record₁, hrecord₁, hid₁, hused₁⟩ := h₁.stays tokenHash record hrecord
    obtain ⟨record₂, hrecord₂, hid₂, hused₂⟩ := h₂.stays tokenHash record₁ hrecord₁
    exact ⟨record₂, hrecord₂, hid₂.trans hid₁, fun h => hused₂ (hused₁ h)⟩
  forget _ _ _ h := ⟨accountRely_compatible.forget _ _ _ h.toAccountRely, h.stays⟩
  locked _ _ _ id h hid := h.refreshTokens id hid

/-- What an operation knows when it is about to commit. -/
structure ResetPost (settings : Settings) (op : AccountOperation) (w : Session)
    (held : List RowKey) (db : Db) : Prop where
  fresh : w.Fresh held db
  spends : ∀ tokenHash, op.Confirms settings tokenHash →
    ∃ record, db.resetBy tokenHash = some record ∧ w.Spends record
  others : (∀ tokenHash, ¬ op.Confirms settings tokenHash) →
    ∀ id time, .setUsedAt id time ∉ w.pending

/-- What is known stays true. -/
theorem ResetPost.stable {op : AccountOperation} (h : ResetPost settings op w held db)
    (hdb : ResetRely held db db') : ResetPost settings op w held db' := by
  refine ⟨h.fresh.stable hdb.toAccountRely, fun tokenHash hconfirms => ?_, h.others⟩
  obtain ⟨record, hrecord, hspends⟩ := h.spends tokenHash hconfirms
  obtain ⟨record', hrecord', hid, -⟩ := hdb.stays tokenHash record hrecord
  exact ⟨record', hrecord', ⟨hid ▸ hspends.spent, fun id time hmem =>
    (hspends.only id time hmem).trans hid.symm⟩⟩

/-- The statements that spend no link, and add rows by inserts only. -/
def Stmt.SpendsNone : Stmt → Prop
  | .write (.add _) => False
  | .write (.setUsedAt ..) => False
  | _ => True

theorem Stmt.Reads.spendsNone {s : Stmt} (h : s.Reads) : s.SpendsNone := by
  cases s with
  | write x => exact h.elim
  | _ => trivial

/-- Only a confirmation may spend a link. -/
theorem AccountOperation.Writes.spendsNone {op : AccountOperation} {s : Stmt} (h : op.Writes s)
    (hnot : ∀ tokenHash, ¬ op.Confirms settings tokenHash) : s.SpendsNone := by
  cases s with
  | write x =>
    cases x with
    | add row => cases op <;> exact h
    | setUsedAt id time =>
      cases op with
      | confirmPasswordReset token newPassword salt clock => exact absurd rfl (hnot _)
      | _ => exact h
    | _ => trivial
  | _ => trivial

/-- An operation that is no confirmation. -/
theorem wpe_notConfirming {op : AccountOperation}
    (hnot : ∀ tokenHash, ¬ op.Confirms settings tokenHash) (db : Db) :
    wpe engine ResetRely (op.program settings) engine.start [] db
      (fun _ => ResetPost settings op) fun _ _ _ _ => True := by
  have huses : (op.program settings).Uses Stmt.SpendsNone :=
    (op.uses_program settings).mono fun _ hs => hs.elim Stmt.Reads.spendsNone (·.spendsNone hnot)
  let fresh (w : Session) (held : List RowKey) (db : Db) : Prop :=
    w.Fresh held db ∧ ∀ id time, .setUsedAt id time ∉ w.pending
  have hstart : fresh engine.start [] db := ⟨fun _ h => (nomatch h), fun _ _ h => (nomatch h)⟩
  refine wpe_mono (Txn.wpe_of_uses fresh ?_ huses hstart) ?_ fun _ _ _ _ _ => trivial
  · intro s hs w held db h db' hdb
    obtain ⟨hfresh, hspends⟩ := h
    refine ⟨hfresh.execIn ?_ hdb.toAccountRely, ?_⟩
    · rintro row rfl
      exact hs
    · intro id time hmem
      rcases Stmt.mem_pending_execIn hmem with hold | ⟨row, -, -, heq⟩ | rfl
      · exact hspends id time hold
      · cases heq
      · exact hs
  · intro _ w held db h
    exact ⟨h.1, fun tokenHash hconfirms => absurd hconfirms (hnot tokenHash), fun _ => h.2⟩

theorem wpe_resetOperation (op : AccountOperation) (db : Db) :
    wpe engine ResetRely (op.program settings) engine.start [] db
      (fun _ => ResetPost settings op) fun _ _ _ _ => True := by
  cases op with
  | confirmPasswordReset token newPassword salt clock =>
    refine (wpe_bind ..).mpr (wpe_mono (wpe_confirmPasswordReset resetRely_compatible token
      newPassword salt clock db) ?_ fun _ _ _ _ _ => trivial)
    rintro _ w held db' ⟨record, hrecord, hdb', hwrites, hspends⟩
    obtain ⟨record', hrecord', hid, -⟩ := hdb'.stays _ record hrecord
    refine ⟨fun row hrow => absurd rfl (hwrites.keepsResets _ hrow row), ?_, fun h => ?_⟩
    · rintro _ rfl
      exact ⟨record', hrecord', hid ▸ hspends.spent, fun id time hmem =>
        (hspends.only id time hmem).trans hid.symm⟩
    · exact absurd rfl (h (settings.hashToken token))
  | _ =>
    refine wpe_notConfirming ?_ db
    intro _ h
    exact h

/-- A confirmation of a link that is spent does not get through. -/
theorem wpe_confirm_spent {op : AccountOperation} (hconfirms : op.Confirms settings tokenHash)
    (hspent : db.Spent tokenHash) :
    wpe engine ResetRely (op.program settings) engine.start [] db (fun _ _ _ _ => False)
      fun _ _ _ _ => True := by
  obtain ⟨record, hrecord, hused⟩ := hspent
  cases op with
  | confirmPasswordReset token newPassword salt clock =>
    have hhash : settings.hashToken token = tokenHash := hconfirms
    refine (wpe_bind ..).mpr ?_
    unfold AuthService.confirmPasswordReset
    refine wpe_send_bind.mpr fun db₁ _ => ?_
    have hexec : ((Stmt.getResetByHash (settings.hashToken token)).execIn engine.start db).1 =
        some record := by
      have hview : (engine.start.view db).resetBy tokenHash = some record := hrecord
      simp only [Stmt.execIn, hhash, hview]
      rfl
    rw [hexec]
    refine wpe_orRaise_bind.mpr ⟨fun _ => trivial, fun found hfound => ?_⟩
    refine wpe_if_raise.mpr ⟨fun _ => trivial, fun hvalid => absurd (Or.inl ?_) hvalid⟩
    rw [← Option.some.inj hfound]
    exact hused
  | _ => exact hconfirms.elim

/-! ## Every interleaving -/

section Runs

variable {ι : Type} [DecidableEq ι] {ops : ι → AccountOperation} {c : AccountOperations ι}

/-- The links that have been confirmed are spent. -/
def ConfirmedSpent (settings : Settings) (ops : ι → AccountOperation) (db : Db)
    (results : ι → Option (Except ShopError Answer)) : Prop :=
  ∀ i tokenHash, (results i).isSome → (ops i).Confirms settings tokenHash → db.Spent tokenHash

/-- The proof outline. -/
def resetOutline (settings : Settings) (ops : ι → AccountOperation) :
    Outline engine (anyEvent (ι := ι) (α := Except ShopError Answer)) where
  rely _ := ResetRely
  post i _ := ResetPost settings (ops i)
  inv := ConfirmedSpent settings ops
  rely_refl _ := resetRely_compatible.refl
  rely_trans _ := resetRely_compatible.trans
  post_stable _ _ _ _ _ _ h hdb := h.stable hdb
  commit_ok := by
    intro c i answer w held db' hi _ hinv hpost hcommit
    obtain ⟨hvalid, rfl⟩ := engine_commit_ok.mp hcommit
    constructor
    · intro j tokenHash hj hconfirms
      by_cases hji : j = i
      · subst hji
        obtain ⟨record, hrecord, ⟨time, hmem⟩, -⟩ := hpost.spends tokenHash hconfirms
        obtain ⟨record', hrecord', hmarked⟩ := hpost.fresh.resetBy_view hvalid hrecord
        exact ⟨record', hrecord', hmarked.spent time hmem⟩
      · rw [Function.update_of_ne hji] at hj
        obtain ⟨record, hrecord, hused⟩ := hinv j tokenHash hj hconfirms
        obtain ⟨record', hrecord', hmarked⟩ := hpost.fresh.resetBy_view hvalid hrecord
        exact ⟨record', hrecord', hmarked.usedAt hused⟩
    · intro j _ locks hlocks
      refine ⟨accountRely_foldl w.pending (fun l hl => (hlocks l hl).2) c.db, ?_⟩
      intro tokenHash record hrecord
      obtain ⟨record', hrecord', hmarked⟩ := hpost.fresh.resetBy_view hvalid hrecord
      exact ⟨record', hrecord', hmarked.id, hmarked.usedAt⟩

theorem reset_good (store : Store) (ops : ι → AccountOperation) :
    (resetOutline settings ops).Good (AccountOperations.start settings store.db ops) :=
  Outline.good_start _ store.db _ (fun _ _ h => nomatch h) fun i db _ =>
    (wpe_resetOperation (ops i) db).wp

variable [Fintype ι]

/-- Each link is good for one confirmation, and no confirmation is about another link. -/
structure LinksSpent (settings : Settings) (ops : ι → AccountOperation)
    (c : AccountOperations ι) : Prop where
  spent : ∀ i answer tokenHash, c.clients i = .committed answer →
    (ops i).Confirms settings tokenHash → c.db.Spent tokenHash
  refused : ∀ i answer j tokenHash, c.clients i = .committed answer →
    (ops i).Confirms settings tokenHash → (ops j).Confirms settings tokenHash →
      c.clients j = .running ((ops j).program settings) engine.start [] →
        ∀ c', Reach engine anyEvent c c' → ∀ answer, c'.clients j ≠ .committed answer
  others : ∀ i c' tokenHash record, c.exec engine (.turn i) = some c' →
    ¬ (ops i).Confirms settings tokenHash → c.db.resetBy tokenHash = some record →
      c'.db.resetBy tokenHash = some record

/-- In every interleaving. -/
theorem reset_links_single_use {store : Store}
    (h : Reach engine anyEvent (AccountOperations.start settings store.db ops) c) :
    LinksSpent settings ops c := by
  have hgood := (resetOutline settings ops).sound (reset_good store ops) h
  have hspent : ∀ i answer tokenHash, c.clients i = .committed answer →
      (ops i).Confirms settings tokenHash → c.db.Spent tokenHash := by
    intro i answer tokenHash hi
    refine hgood.inv i tokenHash ?_
    simp only [Config.results, hi, Client.result, Option.isSome_some]
  refine ⟨hspent, ?_, ?_⟩
  · intro i answer j tokenHash hi hconfirms hsame hj c' hreach
    have hnever : (resetOutline settings ops).Never j c := by
      constructor
      · intro a ha
        rw [hj] at ha
        cases ha
      intro p w held hrun db hdb
      rw [hj] at hrun
      cases hrun
      obtain ⟨record, hrecord, hused⟩ := hspent i answer tokenHash hi hconfirms
      obtain ⟨record', hrecord', -, hused'⟩ := hdb.stays tokenHash record hrecord
      exact (wpe_confirm_spent hsame ⟨record', hrecord', hused' hused⟩).wp
    exact ((resetOutline settings ops).never hgood hnever hreach).1
  · intro i c' tokenHash record hexec hnot hrecord
    rcases Config.exec_cases hexec with ⟨j, s, next, w, held, -, -, -, rfl⟩ |
      ⟨j, answer, w, held, db, hev, hi, -, hcommit, rfl⟩ | ⟨j, p, w, held, e, -, rfl⟩
    · exact hrecord
    · cases hev
      obtain ⟨hvalid, rfl⟩ := engine_commit_ok.mp hcommit
      have hpost : ResetPost settings (ops i) w held c.db :=
        hgood.clients i _ w held hi c.db (resetRely_compatible.refl held c.db)
      obtain ⟨record', hrecord', hmarked⟩ := hpost.fresh.resetBy_view hvalid hrecord
      have hsame : record' = record := by
        refine hmarked.same fun time hmem => ?_
        by_cases hop : ∃ other, (ops i).Confirms settings other
        · -- the link that it confirms has another id
          obtain ⟨other, hconfirms⟩ := hop
          obtain ⟨shown, hshown, hspends⟩ := hpost.spends other hconfirms
          have hget := get_of_resetBy hrecord
          rw [hspends.only _ time hmem, get_of_resetBy hshown] at hget
          cases hget
          rw [← tokenHash_of_resetBy hrecord, tokenHash_of_resetBy hshown] at hnot
          exact hnot hconfirms
        · exact hpost.others (not_exists.mp hop) _ time hmem
      rwa [hsame] at hrecord'
    · exact hrecord

end Runs

/-- Sara has asked for two links. -/
def twoLinks : Store where
  db := { Db.empty with
    users := (∅ : Table Account.id).put (localAccount 1 "sara" .customer)
    passwordResetTokens := ((∅ : Table PasswordResetToken.id).put ⟨1, 1, "a", 100, none, 0⟩).put
      ⟨2, 1, "b", 100, none, 0⟩ }
  valid := by decide

/-- She changes her password, and uses one link, then the other; and the first one again. -/
def changeAndConfirm : Fin 4 → AccountOperation
  | 0 => .changePassword 1 "sara" "new" 0 5
  | 1 => .confirmPasswordReset "a" "newer" 0 ⟨6, 6, 6⟩
  | 2 => .confirmPasswordReset "b" "newest" 0 ⟨7, 7, 7⟩
  | 3 => .confirmPasswordReset "a" "again" 0 ⟨8, 8, 8⟩

/-- After the new password and the first link. -/
theorem reset_links_single_use_first : ∃ c : AccountOperations (Fin 4),
    Reach engine anyEvent
      (AccountOperations.start plainSettings twoLinks.db changeAndConfirm) c ∧
    ((c.results 0).isSome ∧ (c.results 1).isSome) ∧
    LinksSpent plainSettings changeAndConfirm c := by
  let schedule : List (Event (Fin 4)) := List.replicate 4 (.turn 0) ++ List.replicate 6 (.turn 1)
  have hrun : ((AccountOperations.start plainSettings twoLinks.db changeAndConfirm).execAll engine
      anyEvent schedule).any (fun c => (c.results 0).isSome ∧ (c.results 1).isSome) = true := by
    decide +kernel
  obtain ⟨c, hreach, hfirst⟩ := Reach.exists_of_execAll schedule hrun
  exact ⟨c, hreach, hfirst, reset_links_single_use hreach⟩

/-- The other link was sent before, and it is confirmed by a request that begins after both
    are committed. -/
theorem reset_links_single_use_fails : ∃ c c' : AccountOperations (Fin 4),
    Reach engine anyEvent
      (AccountOperations.start plainSettings twoLinks.db changeAndConfirm) c ∧
    (twoLinks.db.resetBy (plainSettings.hashToken "b")).map PasswordResetToken.userId = some 1 ∧
    (c.results 0).isSome ∧ (c.results 1).isSome ∧
    c.clients 2 = .running ((changeAndConfirm 2).program plainSettings) engine.start [] ∧
    Reach engine anyEvent c c' ∧ (c'.results 2).isSome := by
  let schedule : List (Event (Fin 4)) := List.replicate 4 (.turn 0) ++ List.replicate 6 (.turn 1)
  have hrun : ((AccountOperations.start plainSettings twoLinks.db changeAndConfirm).execAll engine
      anyEvent schedule).any (fun c => (c.results 0).isSome ∧ (c.results 1).isSome ∧
        (c.execAll engine anyEvent (List.replicate 6 (.turn 2))).any fun c' =>
          (c'.results 2).isSome) = true := by
    decide +kernel
  obtain ⟨c, hexec, hcheck⟩ := (Option.any_eq_true _ _).mp hrun
  obtain ⟨hchanged, hfirst, hlater⟩ := of_decide_eq_true hcheck
  obtain ⟨c', hexec', hsecond⟩ := (Option.any_eq_true _ _).mp hlater
  refine ⟨c, c', Reach.of_execAll schedule .refl hexec, by decide, hchanged, hfirst, ?_,
    Reach.of_execAll _ .refl hexec', hsecond⟩
  refine (Config.clients_of_execAll schedule hexec fun ev hev => ?_).trans rfl
  rcases List.mem_append.mp hev with h | h
  · simp [List.eq_of_mem_replicate h]
  · simp [List.eq_of_mem_replicate h]

end Accounts

end ElectronicShop
