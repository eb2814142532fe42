import ElectronicShop.Execution.Settlement
import ElectronicShop.Execution.Sessions

/-!
# Concurrent callbacks on one payment

Any number of callbacks with one authority. The conditional `UPDATE` of
`try_claim` is the gate: whoever passes it holds the row of the payment until its
transaction ends, so that what it commits is what it computes alone on the
database of the start. Everybody else finds the payment settled and writes
nothing.
-/

namespace ElectronicShop

open Txn

/-- A callback, with the gateway it asks. -/
structure Callback where
  zarinpal : ZarinPalClient
  status : String
  now : DateTime

namespace Callback

/-- Its transaction. -/
def program (callback : Callback) (authority : String) : Tx Payment :=
  paymentCallback callback.zarinpal authority callback.status callback.now

variable {ι : Type}

/-- The callbacks arrive. -/
def start (db : Db) (authority : String) (callbacks : ι → Callback) :
    Config shop ShopError Payment Db Session RowKey ι where
  db := db
  clients i := .running ((callbacks i).program authority) shopEngine.start []

section Settled

variable {db₀ db : Db} {payment answer : Payment} {authority : String} {callback : Callback}

/-- The database a callback leaves when it settles the payment alone. -/
theorem settled_of_run (hby : db₀.paymentBy authority = some payment)
    (hinitiated : payment.status = .initiated)
    (hrun : db₀.run (callback.program authority) = .ok (answer, db)) :
    ∃ paid order, PaymentService.outcome callback.zarinpal payment authority callback.status
        callback.now = some (answer, paid) ∧
      db₀.orders.get payment.orderId = some order ∧ order.status = .awaitingPayment ∧
      db = PaymentService.settledDb db₀ answer order paid callback.now := by
  obtain ⟨payment', hby', hcases⟩ := PaymentService.run_handleCallback_ok.mp hrun
  obtain rfl := Option.some.inj (hby.symm.trans hby')
  rcases hcases with ⟨hne, -, -⟩ | ⟨-, paid, houtcome, order, hfound, -, hallowed, hdb⟩
  · exact absurd hinitiated hne
  · exact ⟨paid, order, houtcome, hfound, PaymentService.awaiting_iff.mp hallowed, hdb⟩

/-- In that database the authority finds the settled payment. -/
theorem paymentBy_settled (hvalid : db₀.Constraints) (hby : db₀.paymentBy authority = some payment)
    (hinitiated : payment.status = .initiated)
    (hrun : db₀.run (callback.program authority) = .ok (answer, db)) :
    db.paymentBy authority = some answer ∧ db.payments.get payment.id = some answer ∧
      answer.id = payment.id ∧ (answer.status = .verified ∨ answer.status = .failed) := by
  obtain ⟨paid, order, houtcome, -, -, rfl⟩ := settled_of_run hby hinitiated hrun
  obtain ⟨hid, -, -, -, hauthority, hstatus⟩ := PaymentService.outcome_some houtcome
  have hget : (db₀.payments.put answer).get answer.id = some answer :=
    Table.get_put_self db₀.payments answer
  have hauthority' : payment.authority = some authority := by
    simpa using List.find?_some hby
  have hnodup : ((db₀.payments.put answer).rows.filterMap Payment.authority).Nodup := by
    rw [Table.filterMap_put Payment.authority (hid ▸ Db.get_of_paymentBy hby) hauthority]
    exact hvalid.authorities
  refine ⟨?_, hid ▸ hget, hid, ?_⟩
  · exact Db.paymentBy_of_mem hnodup (Table.mem_of_get hget) (hauthority.trans hauthority')
  · cases paid
    · exact Or.inr hstatus
    · exact Or.inl hstatus

end Settled

/-- The databases that can be committed: the one of the start, or the one that a
    committed callback leaves when it runs alone. -/
def Possible (db₀ : Db) (payment : Payment) (authority : String) (callbacks : ι → Callback)
    (results : ι → Option Payment) (db : Db) : Prop :=
  db = db₀ ∨ payment.status = .initiated ∧ ∃ i answer, results i = some answer ∧
    db₀.run ((callbacks i).program authority) = .ok (answer, db)

section Outline

variable {db₀ : Db} {payment : Payment} {authority : String} {callbacks : ι → Callback}

/-- What the others can do to the database: settle the payment, once, while it is not
    locked. -/
def Rely (db₀ : Db) (payment : Payment) (authority : String) (callbacks : ι → Callback)
    (held : List RowKey) (db db' : Db) : Prop :=
  db' = db ∨ db = db₀ ∧ payment.status = .initiated ∧ RowKey.payment payment.id ∉ held ∧
    ∃ i answer, db₀.run ((callbacks i).program authority) = .ok (answer, db')

/-- What a callback has done when it ends: nothing, or what it does alone, with the
    payment locked. -/
def Post (db₀ : Db) (payment : Payment) (authority : String) (callback : Callback)
    (answer : Payment) (w : Session) (held : List RowKey) (db : Db) : Prop :=
  w.pending = [] ∨ RowKey.payment payment.id ∈ held ∧ db = db₀ ∧ payment.status = .initiated ∧
    db₀.run (callback.program authority) = .ok (answer, w.view db₀)

/-- A database that differs from the first one does not change any more. -/
theorem Rely.eq_of_ne {held : List RowKey} {db db' : Db}
    (h : Rely db₀ payment authority callbacks held db db') (hne : db ≠ db₀) : db' = db := by
  rcases h with heq | ⟨heq, -⟩
  · exact heq
  · exact absurd heq hne

theorem Rely.refl (held : List RowKey) (db : Db) :
    Rely db₀ payment authority callbacks held db db := Or.inl rfl

theorem Rely.trans {held : List RowKey} {db₁ db₂ db₃ : Db}
    (h₁ : Rely db₀ payment authority callbacks held db₁ db₂)
    (h₂ : Rely db₀ payment authority callbacks held db₂ db₃) :
    Rely db₀ payment authority callbacks held db₁ db₃ := by
  rcases h₁ with rfl | ⟨rfl, hinitiated, hfree, hsettled⟩
  · exact h₂
  · rcases h₂ with rfl | ⟨-, -, -, hsettled'⟩
    · exact Or.inr ⟨rfl, hinitiated, hfree, hsettled⟩
    · exact Or.inr ⟨rfl, hinitiated, hfree, hsettled'⟩

/-- While the payment is initiated nothing has been settled. -/
theorem Rely.eq_start (hvalid : db₀.Constraints) (hby : db₀.paymentBy authority = some payment)
    {held : List RowKey} {db : Db} (h : Rely db₀ payment authority callbacks held db₀ db)
    (hinitiated : (db.payments.get payment.id).map Payment.status = some .initiated) :
    db = db₀ := by
  rcases h with heq | ⟨-, hwas, -, i, answer, hrun⟩
  · exact heq
  · obtain ⟨-, hget, -, hstatus⟩ := paymentBy_settled hvalid hby hwas hrun
    rw [hget, Option.map_some, Option.some.injEq] at hinitiated
    rw [hinitiated] at hstatus
    simp at hstatus

/-- The authority always finds the payment. -/
theorem Rely.paymentBy (hvalid : db₀.Constraints) (hby : db₀.paymentBy authority = some payment)
    {held : List RowKey} {db : Db} (h : Rely db₀ payment authority callbacks held db₀ db) :
    ∃ found, db.paymentBy authority = some found ∧ found.id = payment.id := by
  rcases h with rfl | ⟨-, hwas, -, i, answer, hrun⟩
  · exact ⟨payment, hby, rfl⟩
  · obtain ⟨hfound, -, hid, -⟩ := paymentBy_settled hvalid hby hwas hrun
    exact ⟨answer, hfound, hid⟩

/-- A callback that finds the payment and is granted the claim settles it. -/
theorem run_program_of_claimed {db : Db} {callback : Callback}
    (hrow : ((Stmt.getPaymentByAuthority authority).execIn shopEngine.start db).1 = some payment)
    {w : Session}
    (hgranted : (Stmt.claimPayment payment.id .initiated .pending).execIn
      ((Stmt.getPaymentByAuthority authority).execIn shopEngine.start db).2 db = (true, w)) :
    (callback.program authority).run (fun s w => shopEngine.exec s w db) shopEngine.start =
      (PaymentService.settle callback.zarinpal payment authority callback.status callback.now).run
        (fun s w => shopEngine.exec s w db) w := by
  have hsend : ∀ {s : Stmt} {f : s.Resp → Tx Payment} {w : Session},
      (send s >>= f).run (fun s w => shopEngine.exec s w db) w =
        (f (s.execIn w db).1).run (fun s w => shopEngine.exec s w db) (s.execIn w db).2 := rfl
  unfold program paymentCallback PaymentService.handleCallback
  rw [hsend, hrow]
  change Prog.run _ (send _ >>= _) _ = _
  rw [hsend, hgranted]

/-- A callback that is not granted the claim writes nothing. -/
theorem wp_not_claimed {rely : List RowKey → Db → Db → Prop} {callback : Callback} {w : Session}
    {held : List RowKey} {db : Db} {id : Uuid} (hw : w.pending = []) :
    wp shopEngine rely (do orRaise .internal (← send (.refreshPayment id)) : Tx Payment) w held db
      (Post db₀ payment authority callback) := by
  have hpending : ((Stmt.refreshPayment id).execIn w db).2.pending = [] := by
    simp only [Stmt.execIn]
    split <;> exact hw
  refine wp_send_bind.mpr fun db' _ => wp_orRaise.mpr fun row _ => Or.inl hpending

/-- A callback ends having done nothing, or what it does alone. -/
theorem wp_program (hvalid : db₀.Constraints) (hby : db₀.paymentBy authority = some payment)
    {db : Db} (hdb : Rely db₀ payment authority callbacks [] db₀ db) (callback : Callback) :
    wp shopEngine (Rely db₀ payment authority callbacks) (callback.program authority)
      shopEngine.start [] db (Post db₀ payment authority callback) := by
  obtain ⟨found, hfound, hid⟩ := hdb.paymentBy hvalid hby
  have hread := (Stmt.getPaymentByAuthority authority).execIn_alone
    (shopImplements.coherent_start db)
  generalize hw : ((Stmt.getPaymentByAuthority authority).execIn shopEngine.start db).2 = w at hread
  have hpending : w.pending = [] := by
    rw [← hw]
    simp only [Stmt.execIn]
    split <;> rfl
  have hview : ∀ db', w.view db' = db' := by
    intro db'
    simp [Session.view, hpending]
  unfold program paymentCallback PaymentService.handleCallback
  refine wp_send_bind.mpr fun db₁ hdb₁ => wp_orRaise_bind.mpr fun row hrow => ?_
  have hrow' : some row = some found := by
    rw [← hrow, ← hfound]
    exact hread.1
  obtain rfl := Option.some.inj hrow'
  rw [hw]
  refine wp_send_bind.mpr fun db₂ hdb₂ => ?_
  have hrely₁ : Rely db₀ payment authority callbacks [] db₀ db₁ := hdb.trans hdb₁
  by_cases hclaim : (db₁.payments.get row.id).map Payment.status = some .initiated
  · -- the claim is granted: nothing was settled before, and nobody else can settle now
    obtain rfl : db₁ = db₀ := hrely₁.eq_start hvalid hby (hid ▸ hclaim)
    obtain rfl : db₁ = db := by
      by_contra hne
      exact hne (hdb₁.eq_of_ne (Ne.symm hne))
    obtain rfl : payment = row := Option.some.inj (hby.symm.trans hfound)
    have hinitiated : payment.status = .initiated := by
      simpa [Db.get_of_paymentBy hby] using hclaim
    have hneeds : (Stmt.claimPayment payment.id .initiated .pending).needs w db₁ =
        [.payment payment.id] := by
      simp only [Stmt.needs, hview, if_pos hclaim]
    have hgranted : (Stmt.claimPayment payment.id .initiated .pending).execIn w db₁ =
        (true, w.send (.setPaymentStatus payment.id .pending)) := by
      simp only [Stmt.execIn, hview]
      exact if_pos hclaim
    rw [hneeds] at hdb₂ ⊢
    rw [hgranted]
    have hsole : ∀ held db', RowKey.payment payment.id ∈ held →
        Rely db₁ payment authority callbacks held db₁ db' → db' = db₁ := by
      rintro held db' hheld (heq | ⟨-, -, hfree, -⟩)
      · exact heq
      · exact absurd hheld hfree
    obtain rfl : db₂ = db₁ := hsole _ _ (by simp) hdb₂
    refine wp_of_alone hsole (by simp) fun a w' hrun held' hsub => ?_
    refine Or.inr ⟨hsub _ (by simp), rfl, hinitiated, ?_⟩
    refine shopImplements.run_of_alone ?_
    rw [run_program_of_claimed hrow (hw ▸ hgranted), hw]
    exact hrun
  · have hnot : (Stmt.claimPayment row.id .initiated .pending).execIn w db₁ = (false, w) := by
      simp only [Stmt.execIn, hview]
      exact if_neg hclaim
    rw [hnot]
    exact wp_not_claimed hpending

/-- What a callback commits is a change that the others rely on. -/
theorem Post.commit {answer : Payment} {w : Session} {held : List RowKey} {db db' : Db} {i : ι}
    (hpost : Post db₀ payment authority (callbacks i) answer w held db)
    (hcommit : shopEngine.commit w db = .ok db') {locks : List RowKey}
    (hlocks : ∀ l ∈ locks, l ∉ held) : Rely db₀ payment authority callbacks locks db db' := by
  obtain ⟨-, rfl⟩ := shopEngine_commit_ok.mp hcommit
  rcases hpost with hpending | ⟨hheld, rfl, hinitiated, hrun⟩
  · left
    simp [Session.view, hpending]
  · exact Or.inr ⟨rfl, hinitiated, fun hl => hlocks _ hl hheld, i, answer, hrun⟩

/-- The outline of the callbacks. -/
def outline [DecidableEq ι] (db₀ : Db) (payment : Payment) (authority : String)
    (callbacks : ι → Callback) :
    Outline (shopEngine) (anyEvent : Config shop ShopError Payment Db Session RowKey ι → _ → _) where
  rely _ := Rely db₀ payment authority callbacks
  post i := Post db₀ payment authority (callbacks i)
  inv db results := Possible db₀ payment authority callbacks results db
  rely_refl _ := Rely.refl
  rely_trans _ _ _ _ _ := Rely.trans
  post_stable := by
    rintro i answer w held db db' (hpending | ⟨hheld, hdb, hrest⟩) hrely
    · exact Or.inl hpending
    · rcases hrely with rfl | ⟨-, -, hfree, -⟩
      · exact Or.inr ⟨hheld, hdb, hrest⟩
      · exact absurd hheld hfree
  commit_ok := by
    intro c i answer w held db hi _ hinv hpost hcommit
    refine ⟨?_, fun j _ locks hlocks => hpost.commit hcommit fun l hl => (hlocks l hl).1⟩
    obtain ⟨-, rfl⟩ := shopEngine_commit_ok.mp hcommit
    rcases hpost with hpending | ⟨-, rfl, hinitiated, hrun⟩
    · have hview : w.view c.db = c.db := by simp [Session.view, hpending]
      rw [hview]
      rcases hinv with heq | ⟨hinitiated, j, answer', hj, hrun⟩
      · exact Or.inl heq
      · have hne : j ≠ i := by
          rintro rfl
          simp [Config.results, hi, Client.result] at hj
        exact Or.inr ⟨hinitiated, j, answer', (Function.update_of_ne hne ..).trans hj, hrun⟩
    · exact Or.inr ⟨hinitiated, i, answer, Function.update_self .., hrun⟩

end Outline

section Reach

variable [DecidableEq ι] [Fintype ι] {db₀ : Db} {payment : Payment} {authority : String}
  {callbacks : ι → Callback} {c c' : Config shop ShopError Payment Db Session RowKey ι}

theorem good_of_reach (hvalid : db₀.Constraints) (hby : db₀.paymentBy authority = some payment)
    (hreach : Reach shopEngine anyEvent (start db₀ authority callbacks) c) :
    (outline db₀ payment authority callbacks).Good c :=
  Outline.sound _ (Outline.good_start _ db₀ _ (Or.inl rfl) fun i _ hrely =>
    wp_program hvalid hby hrely (callbacks i)) hreach

theorem rely_of_reach (hgood : (outline db₀ payment authority callbacks).Good c)
    (hreach : Reach shopEngine anyEvent c c') :
    Rely db₀ payment authority callbacks [] c.db c'.db :=
  Outline.db_rel _ (Rely.refl []) (fun _ _ _ => Rely.trans)
    (fun _ _ _ _ _ _ hpost hcommit => Post.commit hpost hcommit fun _ hl => nomatch hl) hgood
    hreach

end Reach

end Callback

section Main

variable {ι : Type} [DecidableEq ι] [Fintype ι] {db₀ : Db} {payment : Payment} {authority : String}
  {callbacks : ι → Callback} {c : Config shop ShopError Payment Db Session RowKey ι}

/-- Any number of callbacks with one authority, interleaved in any way: the payment is
    never committed as pending; the database is the one of the start, or one committed
    callback has settled the payment and moved the order and its stock, and nothing
    else; and once it is settled nothing changes any more. -/
theorem callbacks_settle_once (hvalid : db₀.Constraints)
    (hby : db₀.paymentBy authority = some payment) (hstatus : payment.status ≠ .pending)
    (hreach : Reach shopEngine anyEvent (Callback.start db₀ authority callbacks) c) :
    (∃ p, c.db.payments.get payment.id = some p ∧
      (p.status = .initiated ∨ p.status = .verified ∨ p.status = .failed) ∧
      (p.status = .initiated → c.db = db₀) ∧
      (p.status ≠ .initiated → ∀ c', Reach shopEngine anyEvent c c' → c'.db = c.db)) ∧
    (c.db = db₀ ∨ payment.status = .initiated ∧ ∃ i answer paid order,
      c.results i = some answer ∧
      PaymentService.outcome (callbacks i).zarinpal payment authority (callbacks i).status
        (callbacks i).now = some (answer, paid) ∧
      db₀.orders.get payment.orderId = some order ∧ order.status = .awaitingPayment ∧
      c.db = PaymentService.settledDb db₀ answer order paid (callbacks i).now) := by
  have hgood := Callback.good_of_reach hvalid hby hreach
  have hlater : ∀ c', Reach shopEngine anyEvent c c' →
      Callback.Rely db₀ payment authority callbacks [] c.db c'.db :=
    fun c' => Callback.rely_of_reach hgood
  rcases hgood.inv with heq | ⟨hinitiated, i, answer, hi, hrun⟩
  · refine ⟨⟨payment, heq ▸ Db.get_of_paymentBy hby, ?_, fun _ => heq, ?_⟩, Or.inl heq⟩
    · cases hp : payment.status <;> simp_all
    · intro hne c' hreach'
      rcases hlater c' hreach' with hsame | ⟨-, hinitiated, -⟩
      · exact hsame
      · exact absurd hinitiated hne
  · obtain ⟨-, hget, -, hsettled⟩ := Callback.paymentBy_settled hvalid hby hinitiated hrun
    obtain ⟨paid, order, houtcome, hfound, hawaiting, hdb⟩ :=
      Callback.settled_of_run hby hinitiated hrun
    have hne : answer.status ≠ .initiated := by
      rcases hsettled with h | h <;> simp [h]
    refine ⟨⟨answer, hget, Or.inr hsettled, fun h => absurd h hne, fun _ c' hreach' => ?_⟩,
      Or.inr ⟨hinitiated, i, answer, paid, order, hi, houtcome, hfound, hawaiting, hdb⟩⟩
    refine (hlater c' hreach').eq_of_ne fun hsame => ?_
    rw [hsame, Db.get_of_paymentBy hby] at hget
    cases hget
    exact hne hinitiated

end Main

/-- Two callbacks of the same payment, one reporting success and one failure. -/
def twoCallbacks : Fin 2 → Callback
  | 0 => ⟨gateway "A" true, "OK", 0⟩
  | 1 => ⟨gateway "A" true, "NOK", 0⟩

/-- Both find the payment initiated; the one that is granted the claim settles it. -/
theorem callbacks_settle_once_smallShop : ∃ (store : Store) (c : _),
    Reach shopEngine anyEvent (Callback.start store.db "A" twoCallbacks) c ∧
    (∃ i j, i ≠ j ∧ (c.results i).isSome ∧ (c.results j).isSome) ∧
    ∃ p, c.db.payments.get 200 = some p ∧ p.status = .verified ∧
      ∀ c', Reach shopEngine anyEvent c c' → c'.db = c.db := by
  let schedule : List (Event (Fin 2)) :=
    [.turn 0, .turn 1] ++ List.replicate 13 (.turn 0) ++ List.replicate 3 (.turn 1)
  have hrun : ∃ store, Run serve anyStep smallShop (buyTwo 1 100 ++
      [.initPayment (gateway "A" true) "" 1 100 200]) store ∧
      (∃ payment ∈ store.db.payments.rows, payment.id = 200 ∧
        store.db.paymentBy "A" = some payment ∧ payment.status = .initiated) ∧
      ((Callback.start store.db "A" twoCallbacks).execAll shopEngine anyEvent schedule).any
        (fun c => (c.results 0).isSome ∧ (c.results 1).isSome ∧
          (c.db.payments.get 200).map Payment.status = some .verified) = true :=
    Run.exists_of_execAll (by decide +kernel)
  obtain ⟨store, -, ⟨payment, -, hid, hby, hinitiated⟩, hschedule⟩ := hrun
  obtain ⟨c, hreach, hzero, hone, hverified⟩ := Reach.exists_of_execAll schedule hschedule
  obtain ⟨⟨p, hp, -, -, hsettled⟩, -⟩ :=
    callbacks_settle_once store.valid hby (by simp [hinitiated]) hreach
  rw [hid] at hp
  have hstatus : p.status = .verified := by simpa [hp] using hverified
  exact ⟨store, c, hreach, ⟨0, 1, by decide, hzero, hone⟩, p, hp, hstatus,
    hsettled (by simp [hstatus])⟩

end ElectronicShop
