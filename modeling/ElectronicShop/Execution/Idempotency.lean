import ElectronicShop.Execution.Footprint
import ElectronicShop.Model.Idempotency

/-!
# Guarded requests among others

What a guarded request knows when it is about to commit, and how it is answered when it
does not: `wpe_program`. Other transactions never change a stored key, and leave a slot
free whose lock the request holds. The services write no user.
-/

namespace ElectronicShop

open Txn

/-! ## Requests and their rows -/

/-- The endpoint lets a user pass. -/
def Endpoint.Permits (endpoint : Endpoint) (user : User) : Prop :=
  user.isActive = true ∧ ∀ p ∈ endpoint.permission, roleHasPermission user.role p = true

namespace GuardedRequest

variable {http : Http} {r : GuardedRequest}

def key (r : GuardedRequest) : String := r.idempotencyKey.getD ""

def slot (r : GuardedRequest) : Slot := (r.subject, r.endpoint.operation, r.key)

/-- The row that the request inserts. -/
def record (http : Http) (r : GuardedRequest) : IdempotencyKey :=
  pendingKey r.endpoint.operation r.subject r.key (http.sha256 r.body)

/-- The row that it commits with its answer. -/
def completed (http : Http) (r : GuardedRequest) (response : Response) : IdempotencyKey :=
  (r.record http).finish response.1 response.2

/-- The request comes as far as to the insert of its key. -/
structure Admissible (http : Http) (db : Db) (r : GuardedRequest) : Prop where
  caller : ∃ user, db.users.get r.subject = some user ∧ r.endpoint.Permits user
  body : ∃ json, http.json r.contentType r.body = .ok json
  hasKey : r.key ≠ ""
  keyLength : fitsVarchar 255 r.key

theorem Admissible.of_users {db db' : Db} (h : r.Admissible http db)
    (husers : db'.users = db.users) : r.Admissible http db' :=
  ⟨husers ▸ h.caller, h.body, h.hasKey, h.keyLength⟩

@[simp] theorem slot_record : (r.record http).slot = r.slot := rfl

@[simp] theorem slot_completed (response : Response) : (r.completed http response).slot = r.slot :=
  rfl

theorem fits_record : (r.record http).fits ↔ fitsVarchar 255 r.key := by
  have hoperation : fitsVarchar 100 r.endpoint.operation := by
    have hfixed : ∀ name ∈ ["cart.add_item", "order.checkout", "payment.init", "wallet.deposit",
        "wallet.admin_credit", "wallet.admin_debit"], fitsVarchar 100 name := by
      decide
    cases r.endpoint <;> exact hfixed _ (by simp [Endpoint.operation])
  constructor
  · intro h
    exact h.1
  · intro h
    refine ⟨h, hoperation, http.sha256Length _, ?_⟩
    intro body hbody
    cases hbody

end GuardedRequest

/-- Only a body that is JSON is handled. -/
theorem GuardedRequest.parsed_of_handler {http : Http} {r : GuardedRequest}
    {operation : User → Tx ResponseBody} (h : r.handler http = some operation) :
    ∃ json, http.parse r.body = some json := by
  unfold handler Http.json at h
  by_cases hnone : r.body = [] ∨ http.isJson r.contentType = false
  · simp [hnone] at h
  · cases hparse : http.parse r.body with
    | none => simp [hnone, hparse] at h
    | some json => exact ⟨json, rfl⟩

theorem Http.json_of_parse {http : Http} {body : List UInt8} {json : http.Json}
    (h : http.parse body = some json) (contentType : Option String) :
    ∃ decoded, http.json contentType body = .ok decoded := by
  unfold Http.json
  split
  · exact ⟨none, rfl⟩
  · exact ⟨some json, by rw [h]⟩

/-! ## The caller -/

/-- Endpoints that share an operation let the same users pass. -/
theorem Endpoint.permission_congr {endpoint endpoint' : Endpoint}
    (h : endpoint.operation = endpoint'.operation) :
    endpoint.permission = endpoint'.permission := by
  cases endpoint <;> cases endpoint' <;> first | rfl | exact absurd h (by simp [operation])

theorem Session.view_users (w : Session) (db : Db) : (w.view db).users = db.users := by
  have hwrite : ∀ (x : Write) (db : Db), (x.apply db).users = db.users := by
    intro x db
    have htable : x.table ≠ .users := by
      cases x with
      | add row => cases row <;> exact nofun
      | _ => exact nofun
    exact Write.same_apply htable db
  unfold Session.view
  induction w.pending generalizing db with
  | nil => rfl
  | cons x rest ih => exact (ih (x.apply db)).trans (hwrite x db)

/-- What `caller` makes of the user that it finds. -/
def Endpoint.checkCaller (endpoint : Endpoint) (found : Option User) : Tx User := do
  let unauthorized : ShopError := .unauthorized "حساب کاربری شما یافت نشد یا غیرفعال است."
  let user ← orRaise unauthorized found
  if user.isActive = false then .raise unauthorized
  else
    match endpoint.permission with
    | none => pure user
    | some permission => do
      requirePermission permission user
      pure user

theorem Endpoint.caller_eq (endpoint : Endpoint) (subject : Uuid) :
    endpoint.caller subject = send (.getUser subject) >>= endpoint.checkCaller := by
  unfold caller checkCaller
  cases endpoint.permission with
  | none => rfl
  | some permission =>
    simp only [authorized, getCurrentUser, bind_assoc]
    refine congrArg _ (funext fun found => ?_)
    cases found with
    | none => rfl
    | some user =>
      simp only [orRaise, pure_bind]
      split <;> rfl

theorem Endpoint.checkCaller_cases (endpoint : Endpoint) (found : Option User) :
    (∃ user, found = some user ∧ endpoint.Permits user ∧ endpoint.checkCaller found = .done user) ∨
      (¬ ∃ user, found = some user ∧ endpoint.Permits user) ∧
        ∃ e, endpoint.checkCaller found = .raise e := by
  unfold checkCaller Permits
  cases found with
  | none => exact Or.inr ⟨by simp, _, rfl⟩
  | some user =>
    cases hactive : user.isActive with
    | false =>
      refine Or.inr ⟨by simp [hactive], ?_⟩
      simp [orRaise, hactive]
    | true =>
      simp only [orRaise, pure_bind, hactive, reduceCtorEq, if_false]
      cases hpermission : endpoint.permission with
      | none => exact Or.inl ⟨user, rfl, ⟨hactive, by simp⟩, rfl⟩
      | some permission =>
        unfold requirePermission
        cases hrole : roleHasPermission user.role permission with
        | false =>
          refine Or.inr ⟨by simp [hrole], ?_⟩
          simp [hrole]
        | true =>
          refine Or.inl ⟨user, rfl, ⟨hactive, by simp [hrole]⟩, ?_⟩
          simp [hrole]

/-! ## Among others -/

/-- What the others do while locks are held: users and stored keys stay, and so does the
    absence of a key whose slot is locked. -/
structure KeepsKeys (held : List GuardLock) (db db' : GuardedDb) : Prop where
  users : db'.db.users = db.db.users
  stored : ∀ slot row, db.keys.get slot = some row → db'.keys.get slot = some row
  locked : ∀ slot, .inr slot ∈ held → db.keys.get slot = none → db'.keys.get slot = none

namespace KeepsKeys

variable {held held' : List GuardLock} {db db₁ db₂ : GuardedDb}

theorem refl (db : GuardedDb) : KeepsKeys held db db :=
  ⟨rfl, fun _ _ h => h, fun _ _ h => h⟩

theorem trans (h₁ : KeepsKeys held db db₁) (h₂ : KeepsKeys held db₁ db₂) :
    KeepsKeys held db db₂ :=
  ⟨h₂.users.trans h₁.users, fun slot row h => h₂.stored slot row (h₁.stored slot row h),
    fun slot hlock h => h₂.locked slot hlock (h₁.locked slot hlock h)⟩

end KeepsKeys

namespace GuardedRequest

variable {http : Http} {r : GuardedRequest} {w : GuardSession} {held : List GuardLock}
  {db : GuardedDb}

/-- The session of a request that has inserted its key, as `record` by now, while nobody
    else can. -/
structure Inserted (http : Http) (r : GuardedRequest) (record : IdempotencyKey)
    (w : GuardSession) (held : List GuardLock) (db : GuardedDb) : Prop where
  own : w.record = some record
  locked : .inr r.slot ∈ held
  absent : db.keys.get r.slot = none
  admissible : r.Admissible http db.db

theorem Inserted.step {record record' : IdempotencyKey} {w' : GuardSession}
    {locks : List GuardLock} {db' : GuardedDb} (h : r.Inserted http record w held db)
    (hown : w'.record = some record') (hrely : KeepsKeys (locks ++ held) db db') :
    r.Inserted http record' w' (locks ++ held) db' :=
  have hlocked := List.mem_append_right locks h.locked
  ⟨hown, hlocked, hrely.locked _ hlocked h.absent, h.admissible.of_users hrely.users⟩

/-- A request that is about to commit: it has inserted its key and completed it with its
    answer. -/
structure Post (http : Http) (r : GuardedRequest) (response : Response) (w : GuardSession)
    (held : List GuardLock) (db : GuardedDb) : Prop where
  inserted : r.Inserted http (r.completed http response) w held db
  created : response.1 = 201
  parsed : ∃ json, http.parse r.body = some json

/-- A request that raises an error: if its slot is taken by then, it is answered by the
    row that took it. -/
def Failed (http : Http) (r : GuardedRequest) (e : GuardError) (_ : GuardSession)
    (_ : List GuardLock) (db : GuardedDb) : Prop :=
  ∀ row, db.keys.get r.slot = some row → r.Admissible http db.db →
    e = row.answer (http.sha256 r.body)

theorem Inserted.failed {record : IdempotencyKey} {e : GuardError}
    (h : r.Inserted http record w held db) : r.Failed http e w held db := by
  intro row hrow
  rw [h.absent] at hrow
  cases hrow

theorem Failed.of_not_admissible {e : GuardError} (h : ¬ r.Admissible http db.db) :
    r.Failed http e w held db :=
  fun _ _ hadmissible => absurd hadmissible h

/-- Services leave the key alone. -/
theorem wpe_inShop {α : Type} {record : IdempotencyKey} (m : Tx α)
    (h : r.Inserted http record w held db) :
    wpe guardEngine KeepsKeys (inShop m) w held db (fun _ => r.Inserted http record)
      (fun _ => r.Inserted http record) := by
  refine wpe_of_uses (r.Inserted http record) ?_ (Prog.uses_embed m) h
  rintro _ ⟨s, rfl⟩ w held db h db' hrely
  exact h.step h.own hrely

/-- After its key is inserted, a request completes it, or fails while the slot is free. -/
theorem wpe_operation {user : User} (h : r.Inserted http (r.record http) w held db) :
    wpe guardEngine KeepsKeys (r.operate http user) w held db (r.Post http) (r.Failed http) := by
  unfold operate
  cases hhandler : r.handler http with
  | none => exact h.failed
  | some operation =>
    refine (wpe_bind ..).mpr (wpe_mono (wpe_inShop (operation user) h) ?_ ?_)
    · intro body w held db h db' hrely
      refine ⟨h.step ?_ hrely, rfl, parsed_of_handler hhandler⟩
      change w.record.map _ = _
      rw [h.own]
      rfl
    · intro e w held db h
      exact h.failed

/-- The three ways in which the insert of a key ends. -/
theorem wpe_insertKey {α : Type} (record : IdempotencyKey) {next : Insertion → GuardedTx α}
    {post : α → GuardSession → List GuardLock → GuardedDb → Prop}
    {failed : GuardError → GuardSession → List GuardLock → GuardedDb → Prop}
    (hown : w.record = none)
    (hrefused : ¬ record.fits → ∀ db', KeepsKeys held db db' →
      wpe guardEngine KeepsKeys (next .refused) w held db' post failed)
    (htaken : ∀ row, db.keys.get record.slot = some row → ∀ db', KeepsKeys held db db' →
      wpe guardEngine KeepsKeys (next .taken) w held db' post failed)
    (hinserted : record.fits → db.keys.get record.slot = none → ∀ db',
      KeepsKeys ([.inr record.slot] ++ held) db db' →
        wpe guardEngine KeepsKeys (next .inserted) { w with record := some record }
          ([.inr record.slot] ++ held) db' post failed) :
    wpe guardEngine KeepsKeys (sendGuard (.insertKey record) >>= next) w held db post failed := by
  have hkeys : w.keys db = db.keys := by
    simp [GuardSession.keys, hown]
  intro db' hrely
  change wpe guardEngine KeepsKeys (next (GuardStmt.execIn (.insertKey record) w db).1)
    (GuardStmt.execIn (.insertKey record) w db).2
    (GuardStmt.needs (.insertKey record) w db ++ held) db' post failed
  change KeepsKeys (GuardStmt.needs (.insertKey record) w db ++ held) db db' at hrely
  simp only [GuardStmt.execIn, GuardStmt.needs, hkeys] at hrely ⊢
  by_cases hfits : record.fits
  · cases hrow : db.keys.get record.slot with
    | some row =>
      simp only [hfits, hrow] at hrely ⊢
      exact htaken row hrow db' hrely
    | none =>
      simp only [hfits, hrow] at hrely ⊢
      exact hinserted hfits hrow db' hrely
  · simp only [hfits] at hrely ⊢
    exact hrefused hfits db' (by simpa using hrely)

/-- A request at its guard: its key is inserted and the operation follows, or the row that
    took the slot answers. -/
theorem wpe_guard {user : User} (huser : user.id = r.subject) (hown : w.record = none)
    (hadmissible : r.key ≠ "" → fitsVarchar 255 r.key → r.Admissible http db.db) :
    wpe guardEngine KeepsKeys
      (idempotencyGuard r.endpoint.operation user.id r.idempotencyKey (http.sha256 r.body) >>=
        fun _ => r.operate http user)
      w held db (r.Post http) (r.Failed http) := by
  have hrequired : r.key = "" → ∀ e, r.Failed http e w held db := by
    intro hempty e
    exact .of_not_admissible fun h => h.hasKey hempty
  have hkey : r.key = r.idempotencyKey.getD "" := rfl
  unfold idempotencyGuard
  cases hheader : r.idempotencyKey with
  | none => exact hrequired (by simp [hkey, hheader]) _
  | some key =>
    obtain rfl : r.key = key := by simp [hkey, hheader]
    simp only
    split
    · rename_i hempty
      exact hrequired hempty _
    · rename_i hempty
      rw [huser, bind_assoc]
      refine wpe_insertKey (r.record http) hown ?_ ?_ ?_
      · intro hfits db' _
        refine Failed.of_not_admissible fun h => hfits ?_
        exact fits_record.mpr h.keyLength
      · -- the row is still there when it is read, and at the end
        intro row hrow db₁ hrely₁ db₂ hrely₂ db₃ hrely₃
        have hrow₂ : db₂.keys.get r.slot = some row :=
          hrely₂.stored _ _ (hrely₁.stored _ _ hrow)
        change wpe guardEngine KeepsKeys
          (answerTaken (http.sha256 r.body) (db₂.keys.get r.slot) >>= fun _ => r.operate http user)
          _ _ db₃ (r.Post http) (r.Failed http)
        rw [hrow₂]
        intro row' hrow' _
        rw [hrely₃.stored _ _ hrow₂] at hrow'
        cases hrow'
        rfl
      · intro hfits habsent db' hrely
        refine wpe_operation ⟨rfl, List.mem_append_left _ (List.mem_singleton_self _), ?_, ?_⟩
        · exact hrely.locked _ (List.mem_append_left _ (List.mem_singleton_self _)) habsent
        · exact (hadmissible hempty (fits_record.mp hfits)).of_users hrely.users

/-- So every guarded request ends in `Post` or raises an error in `Failed`. -/
theorem wpe_program (r : GuardedRequest) (db : GuardedDb) :
    wpe guardEngine KeepsKeys (r.program http) guardEngine.start [] db (r.Post http)
      (r.Failed http) := by
  unfold program
  cases hjson : http.json r.contentType r.body with
  | error e =>
    refine Failed.of_not_admissible fun h => ?_
    obtain ⟨json, hbody⟩ := h.body
    rw [hjson] at hbody
    cases hbody
  | ok json =>
    simp only [inShop, Endpoint.caller_eq]
    intro db' hrely
    change wpe guardEngine KeepsKeys ((r.endpoint.checkCaller
      ((Session.view shopEngine.start db.db).users.get r.subject)).embed shopEmbedding .app >>= _)
      guardEngine.start [] db' (r.Post http) (r.Failed http)
    rw [Session.view_users]
    rcases r.endpoint.checkCaller_cases (db.db.users.get r.subject) with
      ⟨user, hfound, hpermits, hchecked⟩ | ⟨hrejected, e, hchecked⟩
    · rw [hchecked]
      have hcaller : ∃ user, db'.db.users.get r.subject = some user ∧ r.endpoint.Permits user := by
        rw [hrely.users]
        exact ⟨user, hfound, hpermits⟩
      exact wpe_guard (Table.key_of_get hfound) rfl fun hkey hlength =>
        ⟨hcaller, ⟨json, hjson⟩, hkey, hlength⟩
    · rw [hchecked]
      refine Failed.of_not_admissible fun h => hrejected ?_
      rw [← hrely.users]
      exact h.caller

/-! ## Alone -/

omit w held in
/-- The services act on the memory of the shop's tables. -/
theorem shopEmbedding_acts (db : GuardedDb) : shopEmbedding.Acts
    (fun s w => shopEngine.exec s w db.db) (fun s w => guardEngine.exec s w db)
    GuardSession.shop fun w x => { w with shop := x } :=
  ⟨fun _ _ => rfl, fun _ _ => rfl, fun _ => rfl, fun _ _ => rfl, fun _ _ _ => rfl⟩

/-- Commit, with the key completed. -/
theorem commit_completed {response : Response} {x : Session} (hfits : (r.record http).fits) :
    guardEngine.commit ⟨x, some (r.completed http response)⟩ db =
      if response.2.fits then
        match shopEngine.commit x db.db with
        | .error e => .error (.app e)
        | .ok db' => .ok ⟨db', db.keys.put (r.completed http response)⟩
      else .error (.app .database) := by
  have hrecord : (∀ record ∈ some (r.completed http response), record.fits) ↔
      response.2.fits := by
    obtain ⟨hkey, hoperation, hhash, -⟩ := hfits
    constructor
    · intro h
      exact (h _ rfl).2.2.2 _ rfl
    · rintro h _ ⟨⟩
      refine ⟨hkey, hoperation, hhash, ?_⟩
      rintro _ ⟨⟩
      exact h
  change (if _ then _ else _) = _
  simp only [hrecord]
  rfl

/-- From its guard on, while its slot is free. -/
theorem run_guard {user : User} {operation : User → Tx ResponseBody}
    (hhandler : r.handler http = some operation) (huser : user.id = r.subject) (hkey : r.key ≠ "")
    (hlength : fitsVarchar 255 r.key) (habsent : db.keys.get r.slot = none) (x : Session) :
    (idempotencyGuard r.endpoint.operation user.id r.idempotencyKey (http.sha256 r.body) >>=
        fun _ => r.operate http user).run (fun s w => guardEngine.exec s w db) ⟨x, none⟩ =
      match (operation user).run (fun s w => shopEngine.exec s w db.db) x with
      | .error e => .error (.app e)
      | .ok (body, x') => .ok ((201, body), ⟨x', some (r.completed http (201, body))⟩) := by
  have hheader : r.idempotencyKey = some r.key := by
    unfold key at hkey ⊢
    cases h : r.idempotencyKey with
    | none => simp [h] at hkey
    | some key => rfl
  have hinsert : GuardStmt.execIn (.insertKey (r.record http)) ⟨x, none⟩ db =
      (Insertion.inserted, ⟨x, some (r.record http)⟩) := by
    have hfree : (GuardSession.keys ⟨x, none⟩ db).get r.slot = none := habsent
    have hfits : (r.record http).fits := fits_record.mpr hlength
    simp [GuardStmt.execIn, hfree, hfits]
    rfl
  have hafter : ∀ answer, answer = (Insertion.inserted, GuardSession.mk x (some (r.record http))) →
      (afterInsert (r.record http) answer.1).run (fun s w => guardEngine.exec s w db) answer.2 =
        .ok ((), ⟨x, some (r.record http)⟩) := by
    rintro _ rfl
    rfl
  have hguard : (idempotencyGuard r.endpoint.operation user.id r.idempotencyKey
      (http.sha256 r.body)).run (fun s w => guardEngine.exec s w db) ⟨x, none⟩ =
        .ok ((), ⟨x, some (r.record http)⟩) := by
    rw [hheader, huser]
    simp only [idempotencyGuard, hkey, if_false]
    exact hafter _ hinsert
  rw [Prog.run_bind_of_ok hguard]
  simp only [operate, hhandler, inShop]
  rw [Prog.run_bind, (shopEmbedding_acts db).run_embed]
  cases (operation user).run (fun s w => shopEngine.exec s w db.db) x with
  | error e => rfl
  | ok result => rfl

/-- While its slot is free, a request alone does what its operation does alone, and adds
    its completed key. -/
theorem alone_program {operation : User → Tx ResponseBody}
    (hhandler : r.handler http = some operation) (hkey : r.key ≠ "")
    (hlength : fitsVarchar 255 r.key) (habsent : db.keys.get r.slot = none) :
    guardEngine.alone (r.program http) db =
      match shopEngine.alone (r.endpoint.caller r.subject >>= operation) db.db with
      | .error e => .error (.app e)
      | .ok (body, db') =>
        if body.fits then
          .ok ((201, body), ⟨db', db.keys.put (r.completed http (201, body))⟩)
        else .error (.app .database) := by
  have hrun : (r.program http).run (fun s w => guardEngine.exec s w db) guardEngine.start =
      match (r.endpoint.caller r.subject >>= operation).run
        (fun s w => shopEngine.exec s w db.db) shopEngine.start with
      | .error e => .error (.app e)
      | .ok (body, x) => .ok ((201, body), ⟨x, some (r.completed http (201, body))⟩) := by
    obtain ⟨parsed, hparsed⟩ := parsed_of_handler hhandler
    obtain ⟨json, hjson⟩ := Http.json_of_parse hparsed r.contentType
    have hcaller : (r.endpoint.caller r.subject).run (fun s w => shopEngine.exec s w db.db)
        shopEngine.start = (r.endpoint.checkCaller (db.db.users.get r.subject)).run
          (fun s w => shopEngine.exec s w db.db) shopEngine.start := by
      rw [Endpoint.caller_eq, ← Session.view_users shopEngine.start db.db]
      rfl
    have hguarded := (shopEmbedding_acts db).run_embed GuardError.app
      (r.endpoint.caller r.subject) guardEngine.start
    have hstart : guardEngine.start.shop = shopEngine.start := rfl
    unfold program
    simp only [hjson]
    rcases r.endpoint.checkCaller_cases (db.db.users.get r.subject) with
      ⟨user, hfound, -, hchecked⟩ | ⟨-, e, hchecked⟩
    · rw [hchecked, Prog.run_done] at hcaller
      rw [hstart, hcaller] at hguarded
      rw [Prog.run_bind_of_ok hcaller, inShop, Prog.run_bind_of_ok hguarded]
      exact run_guard hhandler (Table.key_of_get hfound) hkey hlength habsent _
    · rw [hchecked, Prog.run_raise] at hcaller
      rw [hstart, hcaller] at hguarded
      rw [Prog.run_bind_of_error hcaller, inShop, Prog.run_bind_of_error hguarded]
  unfold Engine.alone
  rw [hrun]
  cases (r.endpoint.caller r.subject >>= operation).run
    (fun s w => shopEngine.exec s w db.db) shopEngine.start with
  | error e => rfl
  | ok result =>
    obtain ⟨body, x⟩ := result
    simp only [commit_completed (fits_record.mpr hlength)]
    cases hcommit : shopEngine.commit x db.db with
    | error e =>
      obtain ⟨-, rfl⟩ := shopEngine_commit_error.mp hcommit
      split <;> rfl
    | ok db' =>
      by_cases hfits : body.fits
      · simp [hfits, Except.map]
      · simp [hfits, Except.map]

end GuardedRequest

end ElectronicShop
