import ElectronicShop.Tickets.AutoClose

/-!
# Replies to tickets that are closed

A reply reads its ticket once and without a lock, and is refused when it reads it closed. So a
ticket that is closed stays as it is until its status is changed, as long as no reply that had
read it before commits.
-/

namespace ElectronicShop

namespace Tickets

open Txn

/-- The ticket that a reply is for. -/
def TicketOperation.repliesTo : TicketOperation → Option Uuid
  | .customerReply ticketId _ _ => some ticketId
  | .supportReply ticketId _ _ => some ticketId
  | .create _ _ _ _ _ => none
  | .changeStatus _ _ => none
  | .autoClose _ => none

/-- The ticket whose status a request changes. -/
def TicketOperation.changesStatusOf : TicketOperation → Option Uuid
  | .changeStatus ticketId _ => some ticketId
  | .create _ _ _ _ _ => none
  | .customerReply _ _ _ => none
  | .supportReply _ _ _ => none
  | .autoClose _ => none

section Conditions

variable {ι : Type}

/-- Whether a request is about to read its ticket. -/
def awaitsTicket : Client tickets ShopError Answer Session Uuid → Bool
  | .running (.step (.getTicket _) _) _ _ => true
  | _ => false

/-- The condition on what comes after `closing`: a reply to the ticket that commits had not read
    it by then. -/
def RepliesReadLater (ops : ι → TicketOperation) (id : Uuid) (closing c : TicketSystem ι) :
    Move ι Nat → Prop
  | .event (.turn i) =>
    match c.clients i with
    | .running (.done _) _ _ => (ops i).repliesTo = some id → awaitsTicket (closing.clients i) = true
    | _ => True
  | _ => True

instance decidableRepliesReadLater (ops : ι → TicketOperation) (id : Uuid)
    (closing c : TicketSystem ι) : (m : Move ι Nat) → Decidable (RepliesReadLater ops id closing c m)
  | .event (.turn i) => by
    simp only [RepliesReadLater]
    rcases c.clients i with ⟨_ | _ | _, _, _⟩ | _ | _ <;> infer_instance
  | .event (.kill _) | .resume _ | .outside _ => isTrue trivial

/-- No `change_status` of the ticket is committed. -/
def KeepsStatus (ops : ι → TicketOperation) (id : Uuid) (c : TicketSystem ι) :
    Move ι Nat → Prop
  | .event (.turn i) =>
    match c.clients i with
    | .running (.done _) _ _ => (ops i).changesStatusOf ≠ some id
    | _ => True
  | _ => True

instance decidableKeepsStatus (ops : ι → TicketOperation) (id : Uuid) (c : TicketSystem ι) :
    (m : Move ι Nat) → Decidable (KeepsStatus ops id c m)
  | .event (.turn i) => by
    simp only [KeepsStatus]
    rcases c.clients i with ⟨_ | _ | _, _, _⟩ | _ | _ <;> infer_instance
  | .event (.kill _) | .resume _ | .outside _ => isTrue trivial

/-- Both. -/
def ReadsLaterAndKeeps (ops : ι → TicketOperation) (id : Uuid) (closing c : TicketSystem ι)
    (m : Move ι Nat) : Prop := RepliesReadLater ops id closing c m ∧ KeepsStatus ops id c m

instance decidableReadsLaterAndKeeps (ops : ι → TicketOperation) (id : Uuid)
    (closing c : TicketSystem ι) (m : Move ι Nat) :
    Decidable (ReadsLaterAndKeeps ops id closing c m) :=
  inferInstanceAs (Decidable (_ ∧ _))

variable {ops : ι → TicketOperation} {closing c : TicketSystem ι} {i : ι} {answer : Answer}
  {w : Session} {held : List Uuid} {id : Uuid}

theorem RepliesReadLater.done (h : RepliesReadLater ops id closing c (.event (.turn i)))
    (hi : c.clients i = .running (.done answer) w held) (hreply : (ops i).repliesTo = some id) :
    awaitsTicket (closing.clients i) = true := by
  simp only [RepliesReadLater, hi] at h
  exact h hreply

theorem KeepsStatus.done (h : KeepsStatus ops id c (.event (.turn i)))
    (hi : c.clients i = .running (.done answer) w held) : (ops i).changesStatusOf ≠ some id := by
  simpa only [KeepsStatus, hi] using h

end Conditions

/-- What a commit leaves of a closed ticket, when it is no reply to it and does not change its
    status. -/
theorem Pending.frame_closed {op : TicketOperation} {answer : Answer} {w : Session}
    {held : List Uuid} {world : World} {id : Uuid} (h : Pending op answer w held world)
    (hclosed : world.db.statusOf id = some .closed)
    (hreply : op.repliesTo ≠ some id) (hchange : op.changesStatusOf ≠ some id) :
    (w.view world.db).tickets.get id = world.db.tickets.get id ∧
      (w.view world.db).messagesOf id = world.db.messagesOf id := by
  cases h with
  | request ticketId target ends writes new =>
    have hid : ticketId ≠ id := by
      rintro rfl
      cases op with
      | create userId subject message priority id =>
        -- the ticket is new, so it is not there to be closed
        cases target
        have hfree := (new rfl).2
        unfold Db.statusOf at hclosed
        rw [hfree] at hclosed
        cases hclosed
      | customerReply ticketId' user body => exact hreply target
      | supportReply ticketId' actor body => exact hreply target
      | changeStatus ticketId' newStatus => exact hchange target
      | autoClose order => cases target
    refine frame_foldl _ fun x hx hticket => hid ?_
    exact Option.some.inj ((writes x hx).ticket.symm.trans hticket)
  | idle order job writes =>
    unfold Session.view
    rw [writes]
    exact ⟨rfl, rfl⟩
  | closing order job ticketId now writes locked waiting =>
    have hid : id ≠ ticketId := by
      rintro rfl
      rw [Db.waiting_iff.mp waiting] at hclosed
      cases hclosed
    unfold Session.view
    rw [writes]
    exact frame_closing hid

/-! ## What a reply reads -/

/-- Every statement but the query of a ticket. -/
def Stmt.KeepsRead : Stmt → Prop
  | .getTicket _ => False
  | .now => True
  | .selectStale _ _ => True
  | .closeIfWaiting _ _ => True
  | .insert _ => True
  | .write _ => True

section Replies

variable {op : TicketOperation} {id : Uuid}

theorem keepsRead_addReply (ticket : Ticket) (author : Uuid)
    (authorRole : TicketMessageAuthorRole) (body : String) (status : TicketStatus) :
    (TicketService.addReply ticket author authorRole body status).Uses Stmt.KeepsRead :=
  uses_nowAndWrites trivial (fun _ => trivial) ..

/-- The rest of a transaction that loads its ticket. -/
theorem thenUses_getTicket {α : Type} {ticketId : Uuid} {f : Ticket → Tx α}
    (hf : ∀ ticket, (f ticket).Uses Stmt.KeepsRead) :
    (send (.getTicket ticketId) >>= fun row =>
      Prog.orRaise TicketService.ticketNotFound row >>= f).ThenUses Stmt.KeepsRead := by
  intro row
  cases row with
  | none => trivial
  | some ticket => exact hf ticket

/-- A reply reads its ticket first, and never again. -/
theorem thenUses_reply (hreply : op.repliesTo = some id) :
    op.program.ThenUses Stmt.KeepsRead := by
  cases op with
  | customerReply ticketId user body =>
    refine Prog.ThenUses.bind ?_ fun _ => trivial
    refine Prog.ThenUses.bind (thenUses_getTicket fun ticket => ?_) fun ticket => ?_
    · split <;> trivial
    · split
      · trivial
      · split
        · trivial
        · exact keepsRead_addReply ..
  | supportReply ticketId actor body =>
    change (requirePermission .ticketRespond actor >>= _).ThenUses _
    rw [requirePermission_bind]
    split
    · trivial
    · refine Prog.ThenUses.bind (thenUses_getTicket fun ticket => ?_) fun _ => trivial
      split
      · trivial
      · exact keepsRead_addReply ..
  | create userId subject message priority id => cases hreply
  | changeStatus ticketId newStatus => cases hreply
  | autoClose order => cases hreply

theorem keepsRead_closeNext (closedCount : Nat) (candidates : List Uuid) :
    (closeNext closedCount candidates).Uses Stmt.KeepsRead := by
  induction candidates with
  | nil => trivial
  | cons ticketId candidates ih =>
    refine ⟨trivial, fun now => ⟨trivial, fun rowcount => ?_⟩⟩
    change (if rowcount ≠ 1 then _ else _ : Tx Answer).Uses _
    split
    · exact ih
    · exact ⟨trivial, fun _ => ⟨trivial, fun _ => trivial⟩⟩

/-- What a job goes on with reads no ticket by its key. -/
theorem keepsRead_next {answer : Answer} {p : Tx Answer} (h : answer.next = some p) :
    p.Uses Stmt.KeepsRead := by
  cases answer with
  | closed candidates closedCount =>
    obtain rfl := Option.some.inj h
    exact keepsRead_closeNext ..
  | ticket row => cases h
  | finished closedCount => cases h

/-- A ticket that is read closed takes no reply. -/
theorem wp_getTicket_closed {α : Type} {rely : List Uuid → World → World → Prop}
    {f : Ticket → Tx α} {held : List Uuid} {world : World}
    {post : α → Session → List Uuid → World → Prop}
    (hclosed : world.db.statusOf id = some .closed)
    (hf : ∀ ticket held world, ticket.status = .closed →
      wp engine rely (f ticket) engine.start held world post) :
    wp engine rely (send (.getTicket id) >>= fun row =>
      Prog.orRaise TicketService.ticketNotFound row >>= f) engine.start held world post := by
  obtain ⟨ticket, hget, hstatus⟩ := Option.map_eq_some_iff.mp hclosed
  intro world' _
  change wp engine rely (Prog.orRaise TicketService.ticketNotFound (world.db.tickets.get id) >>= f)
    engine.start _ world' post
  rw [hget]
  exact hf ticket _ world' hstatus

/-- A reply to a ticket that is closed does not get to its commit. -/
theorem wp_reply_closed {rely : List Uuid → World → World → Prop} {held : List Uuid}
    {world : World} {post : Answer → Session → List Uuid → World → Prop}
    (hreply : op.repliesTo = some id) (hclosed : world.db.statusOf id = some .closed) :
    wp engine rely op.program engine.start held world post := by
  cases op with
  | customerReply ticketId user body =>
    obtain rfl := Option.some.inj hreply
    refine (wp_bind ..).mpr ?_
    unfold TicketService.addCustomerReply TicketService.getForUser
    refine (wp_bind ..).mpr (wp_getTicket_closed hclosed fun ticket held world hstatus => ?_)
    refine wp_if_raise.mpr fun _ => wp_if_raise.mpr fun _ => wp_if_raise.mpr fun hopen => ?_
    exact absurd hstatus hopen
  | supportReply ticketId actor body =>
    obtain rfl := Option.some.inj hreply
    change wp engine rely (requirePermission .ticketRespond actor >>= _) ..
    rw [requirePermission_bind]
    refine wp_if_raise.mpr fun _ => (wp_bind ..).mpr ?_
    refine wp_getTicket_closed hclosed fun ticket held world hstatus => ?_
    exact wp_if_raise.mpr fun hopen => absurd hstatus hopen
  | create userId subject message priority id => cases hreply
  | changeStatus ticketId newStatus => cases hreply
  | autoClose order => cases hreply

end Replies

/-! ## Runs -/

section Runs

variable {ι : Type} [DecidableEq ι] [Fintype ι] {ops : ι → TicketOperation} {world : World}
  {closing c c' : TicketSystem ι} {id : Uuid}

/-- A reply is about to begin, or has read its ticket. -/
def BegunOrRead (ops : ι → TicketOperation) (c : TicketSystem ι) : Prop :=
  ∀ i id p w held, (ops i).repliesTo = some id → c.clients i = .running p w held →
    p = (ops i).program ∧ w = engine.start ∨ p.Uses Stmt.KeepsRead

omit [Fintype ι] in
theorem BegunOrRead.set {i : ι} {client : Client tickets ShopError Answer Session Uuid}
    (h : BegunOrRead ops c)
    (hclient : ∀ id p w held, (ops i).repliesTo = some id → client = .running p w held →
      p = (ops i).program ∧ w = engine.start ∨ p.Uses Stmt.KeepsRead) :
    BegunOrRead ops (c.set i client) := by
  intro j id p w held hreply hj
  by_cases hji : j = i
  · subst hji
    rw [Config.set_self] at hj
    exact hclient id p w held hreply hj
  · rw [Config.set_of_ne c client hji] at hj
    exact h j id p w held hreply hj

theorem BegunOrRead.move {m : Move ι Nat} (h : BegunOrRead ops c)
    (hmove : c.move engine autoClose m = some c') : BegunOrRead ops c' := by
  rcases Config.move_cases hmove with ⟨ev, rfl, hexec⟩ | ⟨i, answer, p, rfl, -, hnext, rfl⟩ |
    ⟨elapsed, rfl, rfl⟩
  · rcases Config.exec_cases hexec with ⟨i, s, next, w, held, -, hi, -, rfl⟩ |
      ⟨i, answer, w, held, world', -, -, -, -, rfl⟩ | ⟨i, p, w, held, e, -, rfl⟩
    · refine h.set fun id p' w' held' hreply heq => Or.inr ?_
      cases heq
      rcases h i id _ w held hreply hi with ⟨hprogram, -⟩ | huses
      · have hthen := thenUses_reply hreply
        rw [← hprogram] at hthen
        exact hthen _
      · exact huses.2 _
    · have hset : BegunOrRead ops (c.set i (.committed answer)) :=
        h.set fun _ _ _ _ _ heq => by cases heq
      exact hset
    · exact h.set fun _ _ _ _ _ heq => by cases heq
  · refine h.set fun id p' w' held' hreply heq => Or.inr ?_
    cases heq
    exact keepsRead_next hnext
  · exact h

theorem BegunOrRead.reach {cond : TicketSystem ι → Move ι Nat → Prop}
    (h : JobReach engine autoClose cond (TicketSystem.start world ops) c) :
    BegunOrRead ops c := by
  induction h with
  | refl =>
    intro i id p w held _ hi
    cases hi
    exact Or.inl ⟨rfl, rfl⟩
  | step _ _ moved ih => exact ih.move moved

omit [DecidableEq ι] [Fintype ι] in
/-- A reply that is about to read its ticket has done nothing yet. -/
theorem BegunOrRead.awaits (h : BegunOrRead ops c) {i : ι} {p : Tx Answer} {w : Session}
    {held : List Uuid} (hreply : (ops i).repliesTo = some id)
    (hi : c.clients i = .running p w held) (hawaits : awaitsTicket (c.clients i) = true) :
    p = (ops i).program ∧ w = engine.start := by
  refine (h i id p w held hreply hi).resolve_right fun huses => ?_
  rw [hi] at hawaits
  cases p with
  | step s next =>
    cases s with
    | getTicket ticketId => exact huses.1
    | _ => cases hawaits
  | _ => cases hawaits

/-- A closed ticket stays closed, as long as the condition is met: what the transactions that
    follow can rely on. -/
def ClosedRely (id : Uuid) (locks : List Uuid) (world world' : World) : Prop :=
  TicketRely locks world world' ∧
    (world.db.statusOf id = some .closed → world'.db.statusOf id = some .closed)

/-- The proof outline from `closing` on. A reply that commits had read the ticket by then. -/
def closedOutline (ops : ι → TicketOperation) (id : Uuid) (closing : TicketSystem ι) :
    JobOutline engine autoClose (ReadsLaterAndKeeps ops id closing) where
  rely _ := ClosedRely id
  post i answer w held world := Pending (ops i) answer w held world ∧
    ((ops i).repliesTo = some id → awaitsTicket (closing.clients i) = false)
  inv world results := JobsGoOn ops results ∧
    world.db.messagesOf id = closing.db.db.messagesOf id ∧ world.db.statusOf id = some .closed
  rely_refl _ _ _ := ⟨fun _ _ => rfl, fun h => h⟩
  rely_trans _ _ _ _ _ h₁ h₂ :=
    ⟨fun row hrow => (h₂.1 row hrow).trans (h₁.1 row hrow), fun h => h₂.2 (h₁.2 h)⟩
  post_stable _ _ _ _ _ _ h hworld := ⟨h.1.stable hworld.1, h.2⟩
  commit_ok := by
    intro c i answer w held world' hi hcond hinv hpost hcommit
    obtain ⟨hjobs, hmessages, hclosed⟩ := hinv
    obtain ⟨hjobs', hothers⟩ := (ticketOutline ops anyMove).commit_ok c i answer w held world' hi
      trivial hjobs hpost.1 hcommit
    obtain ⟨-, rfl⟩ := engine_commit_ok hcommit
    have hreply : (ops i).repliesTo ≠ some id := by
      intro hreply
      have hread := hpost.2 hreply
      rw [hcond.1.done hi hreply] at hread
      cases hread
    obtain ⟨hticket, hsame⟩ := hpost.1.frame_closed hclosed hreply (hcond.2.done hi)
    have hclosed' : (w.view c.db.db).statusOf id = some .closed := by
      unfold Db.statusOf at hclosed ⊢
      rw [hticket]
      exact hclosed
    exact ⟨⟨hjobs', hsame.trans hmessages, hclosed'⟩,
      fun j hj locks hlocks => ⟨hothers j hj locks hlocks, fun _ => hclosed'⟩⟩
  resume_ok := by
    intro world results i answer p hinv hresult hnext
    obtain ⟨hjobs, hsame⟩ := hinv
    obtain ⟨hjobs', hwp⟩ :=
      (ticketOutline ops anyMove).resume_ok world results i answer p hjobs hresult hnext
    refine ⟨⟨hjobs', hsame⟩, fun world' hrely => ?_⟩
    refine wp_mono (wp_rely_mono (fun _ _ _ h => h.1) (hwp world' hrely.1)) ?_
    refine fun _ _ _ _ hpending => ⟨hpending, fun hreply => ?_⟩
    -- only the job goes on, and it replies to nothing
    cases answer with
    | closed candidates closedCount =>
      obtain ⟨order, hop⟩ := hjobs i candidates closedCount hresult
      rw [hop] at hreply
      cases hreply
    | ticket row => cases hnext
    | finished closedCount => cases hnext
  outside_ok := by
    intro c elapsed _ hinv
    exact ⟨hinv, fun _ _ => ⟨fun _ _ => rfl, fun h => h⟩⟩

omit [Fintype ι] in
/-- A reply that has not read the ticket when it is closed is going to be refused. -/
theorem good_closing (hgood : (ticketOutline ops anyMove).Good closing)
    (hbegun : BegunOrRead ops closing) (hclosed : closing.db.db.statusOf id = some .closed) :
    (closedOutline ops id closing).Good closing := by
  refine ⟨⟨hgood.inv, rfl, hclosed⟩, hgood.exclusive, fun i p w held hi world hrely => ?_⟩
  have hwp : wp engine (ClosedRely id) p w held world (Pending (ops i)) :=
    wp_rely_mono (fun _ _ _ h => h.1) (hgood.clients i p w held hi world hrely.1)
  by_cases hawaits : (ops i).repliesTo = some id ∧ awaitsTicket (closing.clients i) = true
  · obtain ⟨rfl, rfl⟩ := hbegun.awaits hawaits.1 hi hawaits.2
    exact wp_reply_closed hawaits.1 (hrely.2 hclosed)
  · refine wp_mono hwp fun _ _ _ _ hpending => ⟨hpending, fun hreply => ?_⟩
    exact Bool.eq_false_iff.mpr fun h => hawaits ⟨hreply, h⟩

/-- Once a ticket is closed, it gets no message and stays closed in every run without a
    `change_status` of it, as long as no reply commits that had read the ticket by then. -/
theorem closed_ticket_takes_no_replies
    (hbefore : JobReach engine autoClose anyMove (TicketSystem.start world ops) c)
    (hclosed : c.db.db.statusOf id = some .closed)
    (hafter : JobReach engine autoClose (ReadsLaterAndKeeps ops id c) c c') :
    c'.db.db.messagesOf id = c.db.db.messagesOf id ∧ c'.db.db.statusOf id = some .closed := by
  have hgood := good_closing ((ticketOutline ops anyMove).sound good_start hbefore)
    (BegunOrRead.reach hbefore) hclosed
  exact ((closedOutline ops id c).sound hgood hafter).inv.2

end Runs

/-- An agent answers, and an administrator closes the ticket. -/
def answeredAndChanged : Fin 2 → TicketOperation
  | 0 => .supportReply 1 ⟨6, .support, true⟩ "On its way."
  | 1 => .changeStatus 1 .closed

/-- The answer comes later, and is refused. -/
theorem closed_ticket_takes_no_replies_refused : ∃ c c' : TicketSystem (Fin 2),
    JobReach engine autoClose anyMove
      (TicketSystem.start (oneTicket .waitingForSupport hour) answeredAndChanged) c ∧
    JobReach engine autoClose (ReadsLaterAndKeeps answeredAndChanged 1 c) c c' ∧
    c'.clients 0 = .aborted (some TicketService.ticketClosed) ∧
    c'.db.db.messagesOf 1 = c.db.db.messagesOf 1 ∧ c'.db.db.statusOf 1 = some .closed := by
  let start := TicketSystem.start (oneTicket .waitingForSupport hour) answeredAndChanged
  let turn : Fin 2 → Move (Fin 2) Nat := fun i => .event (.turn i)
  let close := List.replicate 5 (turn 1)
  let reply := List.replicate 2 (turn 0)
  have hrun : (start.moveAll engine autoClose anyMove close).any (fun c =>
      c.db.db.statusOf 1 = some .closed ∧
      (c.moveAll engine autoClose (ReadsLaterAndKeeps answeredAndChanged 1 c) reply).any (fun c' =>
        (c'.clients 0).failure = some TicketService.ticketClosed) = true) = true := by
    decide +kernel
  obtain ⟨c, hclose, htest⟩ := (Option.any_eq_true ..).mp hrun
  obtain ⟨hclosed, hrest⟩ := of_decide_eq_true htest
  obtain ⟨c', hreply, hfailure⟩ := (Option.any_eq_true ..).mp hrest
  have hbefore := JobReach.of_moveAll close .refl hclose
  have hafter := JobReach.of_moveAll reply .refl hreply
  exact ⟨c, c', hbefore, hafter, Client.aborted_of_failure (of_decide_eq_true hfailure),
    closed_ticket_takes_no_replies hbefore hclosed hafter⟩

/-- The agent has read the ticket before it is closed: the answer is there, and the ticket waits
    for the customer. -/
theorem closed_ticket_takes_no_replies_fails : ∃ c c' : TicketSystem (Fin 2),
    JobReach engine autoClose anyMove
      (TicketSystem.start (oneTicket .waitingForSupport hour) answeredAndChanged) c ∧
    c.db.db.statusOf 1 = some .closed ∧
    JobReach engine autoClose (KeepsStatus answeredAndChanged 1) c c' ∧
    c'.db.db.messagesOf 1 ≠ c.db.db.messagesOf 1 ∧
    c'.db.db.statusOf 1 = some .waitingForCustomer := by
  let start := TicketSystem.start (oneTicket .waitingForSupport hour) answeredAndChanged
  let turn : Fin 2 → Move (Fin 2) Nat := fun i => .event (.turn i)
  let close := turn 0 :: List.replicate 5 (turn 1)
  let reply := List.replicate 5 (turn 0)
  have hrun : (start.moveAll engine autoClose anyMove close).any (fun c =>
      c.db.db.statusOf 1 = some .closed ∧
      (c.moveAll engine autoClose (KeepsStatus answeredAndChanged 1) reply).any (fun c' =>
        c'.db.db.messagesOf 1 ≠ c.db.db.messagesOf 1 ∧
        c'.db.db.statusOf 1 = some .waitingForCustomer) = true) = true := by
    decide +kernel
  obtain ⟨c, hclose, htest⟩ := (Option.any_eq_true ..).mp hrun
  obtain ⟨hclosed, hrest⟩ := of_decide_eq_true htest
  obtain ⟨c', hreply, hends⟩ := (Option.any_eq_true ..).mp hrest
  obtain ⟨hmessages, hstatus⟩ := of_decide_eq_true hends
  exact ⟨c, c', .of_moveAll close .refl hclose, hclosed, .of_moveAll reply .refl hreply, hmessages,
    hstatus⟩

end Tickets

end ElectronicShop
