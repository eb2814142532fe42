import ElectronicShop.Execution.Idempotency
import ElectronicShop.Execution.Requests

/-!
# Guarded requests are served once

Any requests, interleaved in any way. For each slot of the key table at most one request
commits, and its row holds its answer; a request that is answered after that gets the
stored answer or, when the hash of its body is another one, a refusal. As long as none
has committed there is no row, and the next attempt starts afresh. The hash is of the
body alone: the path of the request has no part in it.
-/

namespace ElectronicShop

open Txn

section Guarded

variable {ι : Type} {http : Http} {requests : ι → ShopRequest} {start : GuardedDb}

/-! ## The interleaving -/

def ShopRequest.Post (http : Http) : ShopRequest → Option Response → GuardSession →
    List GuardLock → GuardedDb → Prop
  | .guarded r, answer, w, held, db => ∃ response, answer = some response ∧
      r.Post http response w held db
  | .unguarded _ _, answer, w, _, _ => answer = none ∧ w.record = none

def ShopRequest.Failed (http : Http) : ShopRequest → GuardError → GuardSession →
    List GuardLock → GuardedDb → Prop
  | .guarded r => fun e w held db => r.Failed http e w held db ∧
      ∀ e', http.json r.contentType r.body = .error e' → e = e'
  | .unguarded _ _ => fun _ _ _ _ => True

theorem ShopRequest.wpe_program (request : ShopRequest) (db : GuardedDb) :
    wpe guardEngine KeepsKeys (request.program http) guardEngine.start [] db
      (request.Post http) (request.Failed http) := by
  cases request with
  | guarded r =>
    have hprogram : wpe guardEngine KeepsKeys (r.program http) guardEngine.start [] db
        (r.Post http) (r.Failed http) := r.wpe_program db
    refine (wpe_bind ..).mpr ?_
    cases hjson : http.json r.contentType r.body with
    | error e =>
      have hraise : r.program http = .raise e := by
        simp only [GuardedRequest.program, hjson]
      rw [hraise] at hprogram ⊢
      refine ⟨hprogram, fun e' he' => ?_⟩
      rw [hjson] at he'
      cases he'
      rfl
    | ok json =>
      refine wpe_mono hprogram ?_ ?_
      · intro response w held db hpost
        exact ⟨response, rfl, hpost⟩
      · intro e w held db hfailed
        refine ⟨hfailed, fun e' he' => ?_⟩
        rw [hjson] at he'
        cases he'
  | unguarded r h =>
    have hkeeps : wpe guardEngine KeepsKeys (inShop r.handler) guardEngine.start [] db
        (fun _ w _ _ => w.record = none) fun _ w _ _ => w.record = none := by
      refine wpe_of_uses (fun (w : GuardSession) _ _ => w.record = none) ?_ (Prog.uses_embed r.handler) rfl
      rintro _ ⟨s, rfl⟩ w held db hrecord db' _
      exact hrecord
    refine (wpe_bind ..).mpr (wpe_mono hkeeps ?_ fun _ _ _ _ _ => trivial)
    intro _ w held db hrecord
    exact ⟨rfl, hrecord⟩

/-- A request that has committed with an answer. -/
structure GuardedRequest.Committed (http : Http) (start : GuardedDb) (r : GuardedRequest)
    (response : Response) (db : GuardedDb) : Prop where
  stored : db.keys.get r.slot = some (r.completed http response)
  created : response.1 = 201
  fresh : start.keys.get r.slot = none
  admissible : r.Admissible http start.db
  parsed : ∃ json, http.parse r.body = some json

namespace Replays

/-- The requests as they begin. -/
def initial (http : Http) (requests : ι → ShopRequest) (start : GuardedDb) :
    Config guardedShop GuardError (Option Response) GuardedDb GuardSession GuardLock ι :=
  { db := start, clients := fun i => .running ((requests i).program http) guardEngine.start [] }

/-- What holds of the keys and of the committed requests. -/
structure Inv (http : Http) (requests : ι → ShopRequest) (start db : GuardedDb)
    (results : ι → Option (Option Response)) : Prop where
  users : db.db.users = start.db.users
  kept : ∀ slot row, start.keys.get slot = some row → db.keys.get slot = some row
  committed : ∀ i r answer, requests i = .guarded r → results i = some answer →
    ∃ response, answer = some response ∧ r.Committed http start response db
  once : ∀ i j r r', requests i = .guarded r → requests j = .guarded r' → r.slot = r'.slot →
    (results i).isSome → (results j).isSome → i = j
  origin : ∀ slot row, db.keys.get slot = some row → start.keys.get slot = some row ∨
    ∃ i r, requests i = .guarded r ∧ r.slot = slot ∧ (results i).isSome

variable [DecidableEq ι]

theorem guardEngine_commit_ok {w : GuardSession} {db db' : GuardedDb}
    (h : guardEngine.commit w db = .ok db') :
    db'.db.users = db.db.users ∧ db'.keys = w.keys db := by
  simp only [guardEngine] at h
  split at h
  · cases hshop : shopEngine.commit w.shop db.db with
    | error e =>
      rw [hshop] at h
      cases h
    | ok db₁ =>
      rw [hshop] at h
      cases h
      obtain ⟨-, rfl⟩ := shopEngine_commit_ok.mp hshop
      exact ⟨w.shop.view_users db.db, rfl⟩
  · cases h

/-- What a commit does to the keys: nothing, or it adds the row of a guarded request in a
    free slot. -/
theorem commit_cases {request : ShopRequest} {answer : Option Response} {w : GuardSession}
    {held : List GuardLock} {db db' : GuardedDb} (hpost : request.Post http answer w held db)
    (h : guardEngine.commit w db = .ok db') :
    (db'.keys = db.keys ∧ ∀ r, request ≠ .guarded r) ∨
      ∃ r response, request = .guarded r ∧ answer = some response ∧
        r.Post http response w held db ∧ db'.keys = db.keys.put (r.completed http response) := by
  obtain ⟨-, hkeys⟩ := guardEngine_commit_ok h
  cases request with
  | unguarded r hr =>
    obtain ⟨-, hrecord⟩ := hpost
    exact Or.inl ⟨by simpa [GuardSession.keys, hrecord] using hkeys, fun _ => by simp⟩
  | guarded r =>
    obtain ⟨response, rfl, hpost⟩ := hpost
    refine Or.inr ⟨r, response, rfl, rfl, hpost, ?_⟩
    simpa [GuardSession.keys, hpost.inserted.own] using hkeys

/-- A commit leaves to the others what their locks protect. -/
theorem keepsKeys_commit {request : ShopRequest} {answer : Option Response} {w : GuardSession}
    {held locks : List GuardLock} {db db' : GuardedDb} (hpost : request.Post http answer w held db)
    (h : guardEngine.commit w db = .ok db') (hlocks : ∀ l ∈ locks, l ∉ held) :
    KeepsKeys locks db db' := by
  refine ⟨(guardEngine_commit_ok h).1, ?_, ?_⟩
  · intro slot row hrow
    rcases commit_cases hpost h with ⟨hkeys, -⟩ | ⟨r, response, -, -, hpost, hkeys⟩
    · rwa [hkeys]
    · have hne : slot ≠ (r.completed http response).slot := by
        rintro rfl
        rw [r.slot_completed, hpost.inserted.absent] at hrow
        cases hrow
      rwa [hkeys, Table.get_put_of_ne _ hne]
  · intro slot hlock hnone
    rcases commit_cases hpost h with ⟨hkeys, -⟩ | ⟨r, response, -, -, hpost, hkeys⟩
    · rwa [hkeys]
    · have hne : slot ≠ (r.completed http response).slot := by
        rintro rfl
        exact hlocks _ hlock hpost.inserted.locked
      rwa [hkeys, Table.get_put_of_ne _ hne]

theorem inv_commit {i : ι} {answer : Option Response} {w : GuardSession} {held : List GuardLock}
    {db db' : GuardedDb} {results : ι → Option (Option Response)}
    (hinv : Inv http requests start db results) (hnew : results i = none)
    (hpost : (requests i).Post http answer w held db)
    (h : guardEngine.commit w db = .ok db') :
    Inv http requests start db' (Function.update results i (some answer)) := by
  have hkeeps : KeepsKeys [] db db' := keepsKeys_commit hpost h (by simp)
  have hcases := commit_cases hpost h
  have hresults : ∀ j, (Function.update results i (some answer) j).isSome →
      j = i ∨ (results j).isSome := by
    intro j hj
    by_cases hji : j = i
    · exact Or.inl hji
    · exact Or.inr (by rwa [Function.update_of_ne hji] at hj)
  -- nobody has committed in the slot of a guarded request that commits now
  have hfirst : ∀ j r r', requests i = .guarded r → requests j = .guarded r' →
      r'.slot = r.slot → results j = none := by
    intro j r r' hi hj hslot
    cases hresult : results j with
    | none => rfl
    | some answer' =>
      obtain ⟨response', -, hcommitted⟩ := hinv.committed j r' answer' hj hresult
      rcases hcases with ⟨-, hother⟩ | ⟨r₁, response, hi₁, -, hpost₁, -⟩
      · exact absurd hi (hother r)
      · obtain rfl : r₁ = r := by simpa [hi₁] using hi
        have hstored := hcommitted.stored
        rw [hslot, hpost₁.inserted.absent] at hstored
        cases hstored
  refine ⟨hkeeps.users.trans hinv.users, fun slot row hrow => ?_, ?_, ?_, ?_⟩
  · exact hkeeps.stored slot row (hinv.kept slot row hrow)
  · intro j r answer' hj hresult
    by_cases hji : j = i
    · subst hji
      obtain rfl : answer = answer' := by simpa using hresult
      rcases hcases with ⟨-, hother⟩ | ⟨r₁, response, hj₁, rfl, hpost₁, hkeys⟩
      · exact absurd hj (hother r)
      · obtain rfl : r₁ = r := by simpa [hj₁] using hj
        refine ⟨response, rfl, ?_, hpost₁.created, ?_, ?_, hpost₁.parsed⟩
        · rw [hkeys]
          exact Table.get_put_self _ _
        · cases hstart : start.keys.get r₁.slot with
          | none => rfl
          | some row =>
            have hrow := hinv.kept _ _ hstart
            rw [hpost₁.inserted.absent] at hrow
            cases hrow
        · exact hpost₁.inserted.admissible.of_users hinv.users.symm
    · rw [Function.update_of_ne hji] at hresult
      obtain ⟨response, hanswer, hcommitted⟩ := hinv.committed j r answer' hj hresult
      exact ⟨response, hanswer, hkeeps.stored _ _ hcommitted.stored, hcommitted.created,
        hcommitted.fresh, hcommitted.admissible, hcommitted.parsed⟩
  · intro j k r r' hj hk hslot hresultj hresultk
    rcases hresults j hresultj with rfl | hj'
    · rcases hresults k hresultk with rfl | hk'
      · rfl
      · rw [hfirst k r r' hj hk hslot.symm] at hk'
        cases hk'
    · rcases hresults k hresultk with rfl | hk'
      · rw [hfirst j r' r hk hj hslot] at hj'
        cases hj'
      · exact hinv.once j k r r' hj hk hslot hj' hk'
  · intro slot row hrow
    have hold : ∀ j, (results j).isSome →
        (Function.update results i (some answer) j).isSome := by
      intro j hj
      by_cases hji : j = i
      · simp [hji]
      · rwa [Function.update_of_ne hji]
    rcases hcases with ⟨hkeys, -⟩ | ⟨r, response, hi, -, hpost₁, hkeys⟩
    · rw [hkeys] at hrow
      exact (hinv.origin slot row hrow).imp_right fun ⟨j, r, hj, hslot, hresult⟩ =>
        ⟨j, r, hj, hslot, hold j hresult⟩
    · by_cases hslot : slot = (r.completed http response).slot
      · exact Or.inr ⟨i, r, hi, hslot.symm, by simp⟩
      · rw [hkeys, Table.get_put_of_ne _ hslot] at hrow
        exact (hinv.origin slot row hrow).imp_right fun ⟨j, r, hj, hslot, hresult⟩ =>
          ⟨j, r, hj, hslot, hold j hresult⟩

/-- What is shown for one request and one commit. -/
def outline (http : Http) (requests : ι → ShopRequest) (start : GuardedDb) :
    Outline (α := Option Response) (ι := ι) guardEngine anyEvent where
  rely _ := KeepsKeys
  post i := (requests i).Post http
  inv := Inv http requests start
  rely_refl _ _ db := .refl db
  rely_trans _ _ _ _ _ h₁ h₂ := h₁.trans h₂
  post_stable := by
    intro i answer w held db db' hpost hrely
    cases hrequest : requests i with
    | unguarded r h =>
      rw [hrequest] at hpost
      exact hpost
    | guarded r =>
      rw [hrequest] at hpost
      obtain ⟨response, rfl, hpost⟩ := hpost
      have hrely : KeepsKeys ([] ++ held) db db' := hrely
      exact ⟨response, rfl, hpost.inserted.step hpost.inserted.own hrely, hpost.created,
        hpost.parsed⟩
  commit_ok := by
    intro c i answer w held db hi _ hinv hpost hcommit
    have hnew : c.results i = none := by simp [Config.results, hi, Client.result]
    refine ⟨inv_commit hinv hnew hpost hcommit, fun j _ locks hlocks => ?_⟩
    exact keepsKeys_commit hpost hcommit fun l hl => (hlocks l hl).1

theorem good_initial (http : Http) (requests : ι → ShopRequest) (start : GuardedDb) :
    (outline http requests start).Good (initial http requests start) := by
  refine Outline.good_start _ start _ ⟨rfl, fun _ _ h => h, ?_, ?_, fun _ _ h => Or.inl h⟩ ?_
  · intro i r answer _ h
    cases h
  · intro i j r r' _ _ _ h
    cases h
  · intro i db' _
    exact ((requests i).wpe_program db').wp

section Reach

variable [Fintype ι]
  {c c' : Config guardedShop GuardError (Option Response) GuardedDb GuardSession GuardLock ι}

theorem inv_of_reach (hreach : Reach guardEngine anyEvent (initial http requests start) c) :
    Inv http requests start c.db c.results :=
  (Outline.sound _ (good_initial http requests start) hreach).inv

theorem outcome_of_reach (hreach : Reach guardEngine anyEvent (initial http requests start) c) :
    (outline http requests start).Outcome (fun i => (requests i).Failed http) c := by
  have hstart : (outline http requests start).Outcome (fun i => (requests i).Failed http)
      (initial http requests start) :=
    Outline.outcome_start _ start _ fun i db' _ => (requests i).wpe_program db'
  exact Outline.outcome _ (good_initial http requests start) hstart hreach

/-- A request that is answered when its slot is taken is answered by the row that took
    it. -/
theorem answered_of_reach (hreach : Reach guardEngine anyEvent (initial http requests start) c)
    {j : ι} {r : GuardedRequest} {e : GuardError} {row : IdempotencyKey}
    (hj : requests j = .guarded r) (hexec : c.exec guardEngine (.turn j) = some c')
    (haborted : c'.clients j = .aborted (some e)) (hrow : c.db.keys.get r.slot = some row)
    (hadmissible : r.Admissible http start.db) :
    e = row.answer (http.sha256 r.body) ∧ c'.db = c.db := by
  refine ⟨?_, Config.db_of_aborted hexec haborted⟩
  have houtcome := outcome_of_reach hreach
  rcases Config.exec_aborted hexec haborted with ⟨w, held, hrun⟩ | ⟨answer, w, held, hrun, -⟩
  · have hfailed : (requests j).Failed http e w held c.db := houtcome j _ w held hrun c.db (.refl _)
    rw [hj] at hfailed
    exact hfailed.1 row hrow (hadmissible.of_users (inv_of_reach hreach).users)
  · have hpost : (requests j).Post http answer w held c.db := houtcome j _ w held hrun c.db (.refl _)
    rw [hj] at hpost
    obtain ⟨response, -, hpost⟩ := hpost
    rw [hpost.inserted.absent] at hrow
    cases hrow

/-- A text that is not JSON is refused, whatever the keys are. -/
theorem refused_of_reach (hreach : Reach guardEngine anyEvent (initial http requests start) c)
    {j : ι} {r : GuardedRequest} {e e' : GuardError} (hj : requests j = .guarded r)
    (hexec : c.exec guardEngine (.turn j) = some c')
    (haborted : c'.clients j = .aborted (some e))
    (hbody : http.json r.contentType r.body = .error e') : e = e' := by
  have houtcome := outcome_of_reach hreach
  rcases Config.exec_aborted hexec haborted with ⟨w, held, hrun⟩ | ⟨answer, w, held, hrun, -⟩
  · have hfailed : (requests j).Failed http e w held c.db := houtcome j _ w held hrun c.db (.refl _)
    rw [hj] at hfailed
    exact hfailed.2 e' hbody
  · have hpost : (requests j).Post http answer w held c.db := houtcome j _ w held hrun c.db (.refl _)
    rw [hj] at hpost
    obtain ⟨response, -, hpost⟩ := hpost
    obtain ⟨json, hparsed⟩ := hpost.parsed
    obtain ⟨decoded, hdecoded⟩ := Http.json_of_parse hparsed r.contentType
    rw [hbody] at hdecoded
    cases hdecoded

end Reach

end Replays

/-! ## What is stored -/

/-- A request of the same slot comes as far as the one that committed. -/
theorem GuardedRequest.Committed.admissible_again {r r' : GuardedRequest} {response : Response}
    {db : GuardedDb} (h : r.Committed http start response db) (hslot : r'.slot = r.slot)
    (hbody : ∃ json, http.json r'.contentType r'.body = .ok json) :
    r'.Admissible http start.db := by
  obtain ⟨hsubject, hoperation, hkey⟩ : r'.subject = r.subject ∧
      r'.endpoint.operation = r.endpoint.operation ∧ r'.key = r.key := by
    simpa [GuardedRequest.slot] using hslot
  obtain ⟨user, huser, hactive, hpermission⟩ := h.admissible.caller
  refine ⟨⟨user, hsubject ▸ huser, hactive, ?_⟩, hbody, ?_, ?_⟩
  · rw [Endpoint.permission_congr hoperation]
    exact hpermission
  · rw [hkey]
    exact h.admissible.hasKey
  · rw [hkey]
    exact h.admissible.keyLength

/-- The row of a request answers the same body with its stored answer. -/
theorem GuardedRequest.answer_completed (http : Http) (r : GuardedRequest) (response : Response) :
    (r.completed http response).answer (http.sha256 r.body) =
      .replay (replayStatus (some response.1)) (some response.2) :=
  if_neg (not_not_intro rfl)

/-- A row with a stored answer. -/
def IdempotencyKey.Completed (row : IdempotencyKey) : Prop :=
  row.status = .completed ∧ row.responseStatus = some 201 ∧ row.responseBody.isSome

/-- Alone, a request with a key and a valid body does what its operation does alone, and
    adds its completed row. -/
def GuardedRequest.StartsAfresh (http : Http) (db : GuardedDb) (r : GuardedRequest) : Prop :=
  ∀ operation, r.handler http = some operation → r.key ≠ "" → fitsVarchar 255 r.key →
    guardEngine.alone (r.program http) db =
      match shopEngine.alone (r.endpoint.caller r.subject >>= operation) db.db with
      | .error e => .error (.app e)
      | .ok (body, db') =>
        if body.fits then .ok ((201, body), ⟨db', db.keys.put (r.completed http (201, body))⟩)
        else .error (.app .database)

end Guarded

/-! ## Small runs -/

/-- An ASCII text as bytes. -/
def bytes (text : String) : List UInt8 := text.toList.map fun c => UInt8.ofNat c.toNat

def depositText : String := "\x7b\"amount\":5\x7d"

def creditText : String := "\x7b\"amount\":5,\"reason\":\"gift\"\x7d"

def largerCreditText : String := "\x7b\"amount\":7,\"reason\":\"gift\"\x7d"

/-- The hashes of these texts. -/
def smallHash (body : List UInt8) : String :=
  if body = bytes depositText then
    "7e84cbf0f7a7c92c037058665d66152f8eb8580ab2534e52c877bccceb9cc7bf"
  else if body = bytes creditText then
    "0451f93a57feddb7a9162db2b6e1c54c5db8dae8a4d7d1c138aefc1618c20680"
  else if body = bytes largerCreditText then
    "acfbf3f415bc79942dc1f09bd1f5382ada82cc150136634262f6671e36a5ee8a"
  else ""

theorem smallHash_length (body : List UInt8) : fitsVarchar 64 (smallHash body) := by
  unfold smallHash
  split
  · decide +kernel
  · split
    · decide +kernel
    · split <;> decide +kernel

/-- A framework that knows these texts. -/
def smallHttp : Http where
  Json := String
  isJson contentType := contentType = some "application/json"
  parse body := [depositText, creditText, largerCreditText].find? fun text => bytes text = body
  cartItemAdd _ := none
  checkoutRequest _ := none
  paymentInitRequest _ := none
  walletDepositRequest json := if json = depositText then some ⟨5, five_pos⟩ else none
  adminWalletAdjustRequest json :=
    if json = creditText then some ⟨5, "gift", five_pos, by decide⟩
    else if json = largerCreditText then some ⟨7, "gift", seven_pos, by decide⟩
    else none
  sha256 := smallHash
  sha256Length := smallHash_length

def smallDraws : Draws := ⟨0, 0, gateway "" true, ""⟩

/-- A request with the key `k` and a JSON text. -/
def keyed (subject : Uuid) (endpoint : Endpoint) (text : String) : GuardedRequest :=
  ⟨subject, endpoint, some "k", some "application/json", bytes text, smallDraws⟩

def guardedSmallShop : GuardedDb := ⟨smallShop.db, ∅⟩

/-- Whether a client was stopped by an error. -/
def errorOf {α : Type} : Client guardedShop GuardError α GuardSession GuardLock → Option GuardError
  | .aborted e => e
  | _ => none

theorem errorOf_eq {α : Type} {client : Client guardedShop GuardError α GuardSession GuardLock}
    {e : GuardError} (h : errorOf client = some e) : client = .aborted (some e) := by
  cases client with
  | aborted e' => exact congrArg _ h
  | _ => cases h

/-! ## Exactly once -/

section Once

variable {ι : Type} [DecidableEq ι] [Fintype ι] {http : Http} {requests : ι → ShopRequest}
  {start : GuardedDb}
  {c : Config guardedShop GuardError (Option Response) GuardedDb GuardSession GuardLock ι}

/-- Of the requests with one slot at most one commits, and none when the slot was taken at
    the start; its row holds its answer, and every row holds one. A request with the same
    body that is answered after the commit gets that answer and changes nothing. While
    none has committed there is no row, and the next attempt, alone, does what the
    operation does alone and adds the row. -/
theorem guarded_exactly_once (hstart : ∀ row ∈ start.keys.rows, row.Completed)
    (hreach : Reach guardEngine anyEvent (Replays.initial http requests start) c) :
    (∀ i j r r', requests i = .guarded r → requests j = .guarded r' → r'.slot = r.slot →
      (c.results i).isSome → (c.results j).isSome → i = j) ∧
    (∀ row ∈ c.db.keys.rows, row.Completed) ∧
    (∀ i r answer, requests i = .guarded r → c.results i = some answer →
      start.keys.get r.slot = none ∧ ∃ response, answer = some response ∧ response.1 = 201 ∧
        c.db.keys.get r.slot = some (r.completed http response)) ∧
    (∀ i j r r' response e c', requests i = .guarded r → c.results i = some (some response) →
      requests j = .guarded r' → r'.slot = r.slot → r'.body = r.body →
      c.exec guardEngine (.turn j) = some c' → c'.clients j = .aborted (some e) →
        e = .replay response.1 (some response.2) ∧ c'.db = c.db) ∧
    (∀ slot, start.keys.get slot = none →
      (∀ i r, requests i = .guarded r → r.slot = slot → c.results i = none) →
        c.db.keys.get slot = none ∧
          ∀ r : GuardedRequest, r.slot = slot → r.StartsAfresh http c.db) := by
  have hinv := Replays.inv_of_reach hreach
  refine ⟨fun i j r r' hi hj hslot => hinv.once i j r r' hi hj hslot.symm, ?_, ?_, ?_, ?_⟩
  · intro row hmem
    have hrow := Table.get_of_mem hmem
    rcases hinv.origin _ row hrow with hold | ⟨i, r, hi, hslot, hresult⟩
    · exact hstart row (Table.mem_of_get hold)
    · obtain ⟨answer, hanswer⟩ := Option.isSome_iff_exists.mp hresult
      obtain ⟨response, -, hcommitted⟩ := hinv.committed i r answer hi hanswer
      have hstored := hcommitted.stored
      rw [hslot, hrow] at hstored
      obtain rfl := Option.some.inj hstored
      exact ⟨rfl, congrArg some hcommitted.created, rfl⟩
  · intro i r answer hi hresult
    obtain ⟨response, hanswer, hcommitted⟩ := hinv.committed i r answer hi hresult
    exact ⟨hcommitted.fresh, response, hanswer, hcommitted.created, hcommitted.stored⟩
  · intro i j r r' response e c' hi hresult hj hslot hbody hexec haborted
    obtain ⟨response', hsame, hcommitted⟩ := hinv.committed i r _ hi hresult
    obtain rfl := Option.some.inj hsame
    obtain ⟨json, hparsed⟩ := hcommitted.parsed
    have hadmissible := hcommitted.admissible_again hslot
      (Http.json_of_parse (hbody ▸ hparsed) r'.contentType)
    have hrow : c.db.keys.get r'.slot = some (r.completed http response) :=
      hslot ▸ hcommitted.stored
    obtain ⟨he, hdb⟩ := Replays.answered_of_reach hreach hj hexec haborted hrow hadmissible
    refine ⟨?_, hdb⟩
    rw [he, hbody, GuardedRequest.answer_completed, hcommitted.created]
    rfl
  · intro slot hfree hnone
    have habsent : c.db.keys.get slot = none := by
      cases hrow : c.db.keys.get slot with
      | none => rfl
      | some row =>
        rcases hinv.origin slot row hrow with hold | ⟨i, r, hi, hslot, hresult⟩
        · rw [hfree] at hold
          cases hold
        · rw [hnone i r hi hslot] at hresult
          cases hresult
    refine ⟨habsent, ?_⟩
    rintro r rfl operation hhandler hkey hlength
    exact r.alone_program hhandler hkey hlength habsent

end Once

/-- Customer 1 sends a deposit twice. -/
def depositTwice (_ : Fin 2) : ShopRequest := .guarded (keyed 1 .depositToWallet depositText)

/-- The second one is answered as the first one was. -/
theorem guarded_exactly_once_smallShop : ∃ c c' response,
    Reach guardEngine anyEvent (Replays.initial smallHttp depositTwice guardedSmallShop) c ∧
    c.results 0 = some (some response) ∧ c.exec guardEngine (.turn 1) = some c' ∧
    c'.clients 1 = .aborted (some (.replay response.1 (some response.2))) ∧ c'.db = c.db := by
  let schedule : List (Event (Fin 2)) :=
    [.turn 0, .turn 1] ++ List.replicate 10 (.turn 0) ++ List.replicate 3 (.turn 1)
  have hrun : ∃ c,
      Reach guardEngine anyEvent (Replays.initial smallHttp depositTwice guardedSmallShop) c ∧
      (((c.results 0).any Option.isSome) = true ∧
        (c.exec guardEngine (.turn 1)).any (fun c' => (errorOf (c'.clients 1)).isSome) = true) :=
    Reach.exists_of_execAll schedule (by decide +kernel)
  obtain ⟨c, hreach, hcommitted, hturn⟩ := hrun
  obtain ⟨answer, hanswer, hsome⟩ := (Option.any_eq_true _ _).mp hcommitted
  obtain ⟨response, rfl⟩ := Option.isSome_iff_exists.mp hsome
  obtain ⟨c', hexec, herror⟩ := (Option.any_eq_true _ _).mp hturn
  obtain ⟨e, he⟩ := Option.isSome_iff_exists.mp herror
  have haborted := errorOf_eq he
  obtain ⟨-, -, -, hreplayed, -⟩ := guarded_exactly_once (by simp [guardedSmallShop]) hreach
  obtain ⟨rfl, hdb⟩ := hreplayed 0 1 _ _ response e c' rfl hanswer rfl rfl rfl hexec haborted
  exact ⟨c, c', response, hreach, hanswer, hexec, haborted, hdb⟩

/-! ## What is compared -/

section Compared

variable {ι : Type} [DecidableEq ι] [Fintype ι] {http : Http} {requests : ι → ShopRequest}
  {start : GuardedDb}
  {c : Config guardedShop GuardError (Option Response) GuardedDb GuardSession GuardLock ι}

/-- A request that is answered after another one of its slot has committed is refused as a
    reused key, and not answered with the stored response, exactly when its body is a
    different one and has not been refused as broken JSON before. Nothing else of the
    request is compared. -/
theorem reused_key_refused_iff
    (hreach : Reach guardEngine anyEvent (Replays.initial http requests start) c)
    {i j : ι} {r r' : GuardedRequest} {response : Response} {e : GuardError}
    {c' : Config guardedShop GuardError (Option Response) GuardedDb GuardSession GuardLock ι}
    (hi : requests i = .guarded r) (hresult : c.results i = some (some response))
    (hj : requests j = .guarded r') (hslot : r'.slot = r.slot)
    (hhash : http.sha256 r'.body = http.sha256 r.body → r'.body = r.body)
    (hexec : c.exec guardEngine (.turn j) = some c')
    (haborted : c'.clients j = .aborted (some e)) :
    (e = .keyReused "این کلید یکتا قبلاً برای درخواست دیگری استفاده شده است." ∧
        e ≠ .replay response.1 (some response.2)) ↔
      r'.body ≠ r.body ∧ http.json r'.contentType r'.body ≠ .error .validation := by
  obtain ⟨response', hsame, hcommitted⟩ := (Replays.inv_of_reach hreach).committed i r _ hi hresult
  obtain rfl := Option.some.inj hsame
  have hrow : c.db.keys.get r'.slot = some (r.completed http response) :=
    hslot ▸ hcommitted.stored
  have hanswer : ∀ json, http.json r'.contentType r'.body = .ok json →
      e = (r.completed http response).answer (http.sha256 r'.body) := by
    intro json hjson
    have hadmissible := hcommitted.admissible_again hslot ⟨json, hjson⟩
    exact (Replays.answered_of_reach hreach hj hexec haborted hrow hadmissible).1
  constructor
  · rintro ⟨rfl, -⟩
    refine ⟨fun hbody => ?_, fun hbroken => ?_⟩
    · obtain ⟨json, hparsed⟩ := hcommitted.parsed
      obtain ⟨decoded, hdecoded⟩ := Http.json_of_parse (hbody ▸ hparsed) r'.contentType
      have hreplay := hanswer decoded hdecoded
      rw [hbody] at hreplay
      cases hreplay.trans (GuardedRequest.answer_completed ..)
    · cases Replays.refused_of_reach hreach hj hexec haborted hbroken
  · rintro ⟨hbody, hjson⟩
    cases hdecoded : http.json r'.contentType r'.body with
    | error e' =>
      obtain rfl : e' = .validation := by
        unfold Http.json at hdecoded
        split at hdecoded
        · cases hdecoded
        · split at hdecoded <;> cases hdecoded
          rfl
      exact absurd hdecoded hjson
    | ok decoded =>
      have hreused : e = .keyReused _ :=
        (hanswer decoded hdecoded).trans (if_pos fun hsame => hbody (hhash hsame.symm))
      rw [hreused]
      exact ⟨rfl, nofun⟩

end Compared

def credit : GuardedRequest := keyed 3 (.adminCreditWallet 1) creditText

def largerCredit : GuardedRequest := keyed 3 (.adminCreditWallet 1) largerCreditText

/-- Admin 3 credits customer 1, and sends another amount with the same key. -/
def creditOther : Fin 2 → ShopRequest
  | 0 => .guarded credit
  | 1 => .guarded largerCredit

/-- The other amount is refused. -/
theorem reused_key_refused_iff_smallShop : ∃ c c' e,
    Reach guardEngine anyEvent (Replays.initial smallHttp creditOther guardedSmallShop) c ∧
    (c.results 0).isSome ∧ c.exec guardEngine (.turn 1) = some c' ∧
    c'.clients 1 = .aborted (some e) ∧
    e = .keyReused "این کلید یکتا قبلاً برای درخواست دیگری استفاده شده است." := by
  let schedule : List (Event (Fin 2)) := List.replicate 11 (.turn 0) ++ List.replicate 4 (.turn 1)
  have hrun : ∃ c,
      Reach guardEngine anyEvent (Replays.initial smallHttp creditOther guardedSmallShop) c ∧
      (((c.results 0).any Option.isSome) = true ∧
        (c.exec guardEngine (.turn 1)).any (fun c' => (errorOf (c'.clients 1)).isSome) = true) :=
    Reach.exists_of_execAll schedule (by decide +kernel)
  obtain ⟨c, hreach, hcommitted, hturn⟩ := hrun
  obtain ⟨answer, hanswer, hsome⟩ := (Option.any_eq_true _ _).mp hcommitted
  obtain ⟨response, rfl⟩ := Option.isSome_iff_exists.mp hsome
  obtain ⟨c', hexec, herror⟩ := (Option.any_eq_true _ _).mp hturn
  obtain ⟨e, he⟩ := Option.isSome_iff_exists.mp herror
  have haborted := errorOf_eq he
  have hdiffer : largerCredit.body ≠ credit.body := by decide +kernel
  have hhash : smallHttp.sha256 largerCredit.body = smallHttp.sha256 credit.body →
      largerCredit.body = credit.body := fun h => absurd h (by decide +kernel)
  have hvalid : smallHttp.json largerCredit.contentType largerCredit.body ≠
      .error .validation := by
    have hparse : smallHttp.parse largerCredit.body = some largerCreditText := by
      change (List.find? _ _ : Option String) = _
      decide +kernel
    obtain ⟨json, hjson⟩ := Http.json_of_parse hparse largerCredit.contentType
    rw [hjson]
    exact nofun
  have hslot : largerCredit.slot = credit.slot := by decide +kernel
  have hrefused := (reused_key_refused_iff (i := 0) (j := 1) hreach rfl hanswer rfl hslot hhash
    hexec haborted).mpr ⟨hdiffer, hvalid⟩
  exact ⟨c, c', e, hreach, by simp [hanswer], hexec, haborted, hrefused.1⟩

/-- Admin 3 credits customer 1, and then customer 2 with the same key and body. -/
def creditBoth : Fin 2 → ShopRequest
  | 0 => .guarded (keyed 3 (.adminCreditWallet 1) creditText)
  | 1 => .guarded (keyed 3 (.adminCreditWallet 2) creditText)

/-- The second credit is answered with the response to the first one. -/
theorem reused_key_refused_iff_fails : ∃ c c' r r' response,
    Reach guardEngine anyEvent (Replays.initial smallHttp creditBoth guardedSmallShop) c ∧
    creditBoth 0 = .guarded r ∧ creditBoth 1 = .guarded r' ∧
    r'.subject = r.subject ∧ r'.idempotencyKey = r.idempotencyKey ∧ r'.body = r.body ∧
    r.endpoint = .adminCreditWallet 1 ∧ r'.endpoint = .adminCreditWallet 2 ∧
    c.results 0 = some (some response) ∧ c.exec guardEngine (.turn 1) = some c' ∧
    c'.clients 1 = .aborted (some (.replay response.1 (some response.2))) := by
  let schedule : List (Event (Fin 2)) := List.replicate 11 (.turn 0) ++ List.replicate 4 (.turn 1)
  have hrun : ∃ c,
      Reach guardEngine anyEvent (Replays.initial smallHttp creditBoth guardedSmallShop) c ∧
      ((c.results 0).any (fun answer => answer.any fun response =>
        (c.exec guardEngine (.turn 1)).any fun c' => errorOf (c'.clients 1) =
          some (.replay response.1 (some response.2))) = true) :=
    Reach.exists_of_execAll schedule (by decide +kernel)
  obtain ⟨c, hreach, hturn⟩ := hrun
  obtain ⟨answer, hanswer, hsome⟩ := (Option.any_eq_true _ _).mp hturn
  obtain ⟨response, rfl, hnext⟩ := (Option.any_eq_true _ _).mp hsome
  obtain ⟨c', hexec, herror⟩ := (Option.any_eq_true _ _).mp hnext
  exact ⟨c, c', _, _, response, hreach, rfl, rfl, rfl, rfl, rfl, rfl, rfl, hanswer, hexec,
    errorOf_eq (of_decide_eq_true herror)⟩

end ElectronicShop
