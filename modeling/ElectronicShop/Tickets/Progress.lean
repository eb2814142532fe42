import ElectronicShop.Txn.Waiting
import ElectronicShop.Tickets.AutoClose

/-!
# No ticket request waits for ever

A reply and a change of status take the lock of their ticket when they are committed, a new
ticket and a closing of the job with the statement before the last ones. So whoever holds a
lock here needs no other one.
-/

namespace ElectronicShop

namespace Tickets

open Txn

/-- A client that holds a lock asks for no other. -/
def calm (need held : List Uuid) : Prop := held ≠ [] → ∀ l ∈ need, l ∈ held

theorem calm_nil (need : List Uuid) : calm need [] := fun h => absurd rfl h

/-- Nothing has to be known of the database. -/
def anyWorld (_ _ : World) : Prop := True

theorem grows_anyWorld : Grows engine anyWorld :=
  ⟨fun _ => trivial, fun _ _ _ _ _ => trivial, fun _ _ _ _ => trivial⟩

/-! ## The programs -/

/-- A statement that is never waited for. -/
def Stmt.Quiet (s : Stmt) : Prop := ∀ w world, s.needs w world = []

theorem Stmt.OfRequest.quiet {id : Uuid} {s : Stmt} (h : s.OfRequest id) : s.Quiet := by
  cases s with
  | closeIfWaiting ticketId closedAt => exact h.elim
  | insert row => exact h.elim
  | _ => exact fun _ _ => rfl

section Programs

variable {α : Type} {w : Session} {held : List Uuid} {world : World}

/-- What is left of a transaction that has its lock, or needs none before its commit. -/
theorem orderly_of_quiet {m : Tx α} (hm : m.Uses Stmt.Quiet) :
    orderly engine anyWorld calm m w held world fun _ _ held' _ => held' = held :=
  orderly_of_uses (fun _ held' _ => held' = held)
    (fun s hs w held' _ world' h _ => by
      have hneed : engine.need s w world' = [] := hs w world'
      rw [hneed]
      exact ⟨fun _ l hl => absurd hl List.not_mem_nil, h⟩)
    hm rfl

/-- Whether the client may commit. -/
def Settled (w : Session) (held : List Uuid) : Prop := calm (engine.needCommit w) held

theorem orderly_request {m : Tx Ticket} (hm : m.Uses Stmt.Quiet) :
    orderly engine anyWorld calm (m >>= fun row => pure (Answer.ticket row)) w [] world
      fun _ w' held' _ => Settled w' held' := by
  rw [orderly_bind]
  refine orderly_mono (orderly_of_quiet hm) ?_
  rintro row w' held' world' rfl
  exact calm_nil _

theorem quiet_write (x : Write) : Stmt.Quiet (.write x) := fun _ _ => rfl

theorem quiet_assign {β : Type} [DecidableEq β] (old new : β) (x : Write) :
    (assign old new x).Uses Stmt.Quiet := by
  unfold assign
  split
  · trivial
  · exact ⟨quiet_write x, fun _ => trivial⟩

theorem quiet_addReply (ticket : Ticket) (author : Uuid) (authorRole : TicketMessageAuthorRole)
    (body : String) (status : TicketStatus) :
    (TicketService.addReply ticket author authorRole body status).Uses Stmt.Quiet :=
  uses_nowAndWrites (fun _ _ => rfl) quiet_write ..

theorem quiet_getTicket {ticketId : Uuid} {f : Ticket → Tx α}
    (hf : ∀ ticket, (f ticket).Uses Stmt.Quiet) :
    (send (.getTicket ticketId) >>= fun row =>
      Prog.orRaise TicketService.ticketNotFound row >>= f).Uses Stmt.Quiet := by
  refine ⟨fun _ _ => rfl, fun row => ?_⟩
  cases row with
  | none => trivial
  | some ticket => exact hf ticket

theorem quiet_addCustomerReply (ticketId : Uuid) (user : User) (body : String) :
    (TicketService.addCustomerReply ticketId user body).Uses Stmt.Quiet := by
  unfold TicketService.addCustomerReply TicketService.getForUser
  refine Prog.Uses.bind (quiet_getTicket fun ticket => ?_) fun ticket => ?_
  · split <;> trivial
  · split
    · trivial
    · split
      · trivial
      · exact quiet_addReply ..

theorem quiet_addSupportReply (ticketId : Uuid) (actor : User) (body : String) :
    (TicketService.addSupportReply ticketId actor body).Uses Stmt.Quiet := by
  refine quiet_getTicket fun ticket => ?_
  split
  · trivial
  · exact quiet_addReply ..

theorem quiet_changeStatus (ticketId : Uuid) (newStatus : TicketStatus) :
    (TicketService.changeStatus ticketId newStatus).Uses Stmt.Quiet := by
  refine quiet_getTicket fun ticket => (quiet_assign _ _ _).bind fun _ => ?_
  split
  · exact ⟨fun _ _ => rfl, fun now => (quiet_assign _ _ _).bind fun _ => trivial⟩
  · trivial

theorem orderly_send_bind {s : Stmt} {f : s.Resp → Tx α}
    {post : α → Session → List Uuid → World → Prop} :
    orderly engine anyWorld calm (send s >>= f) w held world post ↔
      ∀ world', anyWorld world world' → calm (s.needs w world') held ∧
        orderly engine anyWorld calm (f (s.execIn w world').1) (s.execIn w world').2
          (s.needs w world' ++ held) world' post := Iff.rfl

theorem orderly_insert_bind {row : Ticket} {f : Unit → Tx α}
    {post : α → Session → List Uuid → World → Prop}
    (h : ∀ world, orderly engine anyWorld calm (f ()) ⟨[.addTicket row]⟩ [row.id] world post) :
    orderly engine anyWorld calm (insert row >>= f) engine.start [] world post := by
  refine (orderly_bind ..).mpr (orderly_send_bind.mpr fun world _ => ⟨calm_nil _, ?_⟩)
  by_cases htaken : (world.db.tickets.get row.id).isSome = true
  · have hexec : Stmt.execIn (.insert row) engine.start world = (false, engine.start) :=
      if_pos htaken
    rw [hexec]
    trivial
  · have hexec : Stmt.execIn (.insert row) engine.start world = (true, ⟨[.addTicket row]⟩) :=
      if_neg htaken
    rw [hexec]
    exact h world

/-- A new ticket: its insert takes the lock that the commit needs. -/
theorem orderly_create (userId : Uuid) (subject message : String) (priority : TicketPriority)
    (id : Uuid) :
    orderly engine anyWorld calm (TicketService.create userId subject message priority id)
      engine.start [] world fun _ w' held' _ => Settled w' held' := by
  refine orderly_send_bind.mpr fun world _ => ⟨calm_nil _, orderly_insert_bind fun world' => ?_⟩
  refine orderly_send_bind.mpr fun _ _ => ⟨fun _ _ hl => absurd hl List.not_mem_nil, ?_⟩
  exact fun _ _ hl => hl

/-- The conditional update takes its lock, or finds nothing to do. -/
theorem orderly_closeIfWaiting_bind {ticketId : Uuid} {closedAt : DateTime} {f : Nat → Tx α}
    {post : α → Session → List Uuid → World → Prop}
    (hskipped : ∀ world, orderly engine anyWorld calm (f 0) engine.start [] world post)
    (hclosed : ∀ world, orderly engine anyWorld calm (f 1)
      ⟨[.setStatus ticketId .closed, .setClosedAt ticketId (some closedAt)]⟩ [ticketId] world
      post) :
    orderly engine anyWorld calm (send (.closeIfWaiting ticketId closedAt) >>= f) engine.start []
      world post := by
  refine orderly_send_bind.mpr fun world _ => ⟨calm_nil _, ?_⟩
  by_cases hwaiting : world.db.waiting ticketId = true
  · have hexec : Stmt.execIn (.closeIfWaiting ticketId closedAt) engine.start world =
        (1, ⟨[.setStatus ticketId .closed, .setClosedAt ticketId (some closedAt)]⟩) :=
      if_pos hwaiting
    have hneeds : Stmt.needs (.closeIfWaiting ticketId closedAt) engine.start world = [ticketId] :=
      if_pos hwaiting
    rw [hexec, hneeds]
    exact hclosed world
  · have hexec : Stmt.execIn (.closeIfWaiting ticketId closedAt) engine.start world =
        (0, engine.start) := if_neg hwaiting
    have hneeds : Stmt.needs (.closeIfWaiting ticketId closedAt) engine.start world = [] :=
      if_neg hwaiting
    rw [hexec, hneeds]
    exact hskipped world

/-- The job up to its next commit. -/
theorem orderly_closeNext (closedCount : Nat) (candidates : List Uuid) :
    orderly engine anyWorld calm (closeNext closedCount candidates) engine.start [] world
      fun _ w' held' _ => Settled w' held' := by
  induction candidates generalizing world with
  | nil => exact calm_nil _
  | cons ticketId candidates ih =>
    refine orderly_send_bind.mpr fun world _ => ⟨calm_nil _, ?_⟩
    refine orderly_closeIfWaiting_bind (fun _ => ih) fun _ => ?_
    refine orderly_send_bind.mpr fun _ _ => ⟨fun _ _ hl => absurd hl List.not_mem_nil, ?_⟩
    refine orderly_send_bind.mpr fun _ _ => ⟨fun _ _ hl => absurd hl List.not_mem_nil, ?_⟩
    intro _ l hl
    have hpair : l ∈ [ticketId, ticketId] := hl
    rcases List.mem_pair.mp hpair with rfl | rfl
    · exact List.mem_singleton_self _
    · exact List.mem_singleton_self _

theorem orderly_operation (op : TicketOperation) :
    orderly engine anyWorld calm op.program engine.start [] world
      fun _ w' held' _ => Settled w' held' := by
  cases op with
  | create userId subject message priority id =>
    exact (orderly_bind ..).mpr (orderly_create userId subject message priority id)
  | customerReply ticketId user body => exact orderly_request (quiet_addCustomerReply ..)
  | supportReply ticketId actor body =>
    change orderly engine anyWorld calm (requirePermission .ticketRespond actor >>= _) ..
    rw [requirePermission_bind]
    exact orderly_if_raise fun _ => orderly_request (quiet_addSupportReply ..)
  | changeStatus ticketId newStatus => exact orderly_request (quiet_changeStatus ..)
  | autoClose order =>
    refine orderly_send_bind.mpr fun _ _ => ⟨calm_nil _, orderly_send_bind.mpr fun _ _ => ?_⟩
    exact ⟨calm_nil _, orderly_closeNext 0 _⟩

/-! ## The job comes to an end -/

/-- How many candidates a run of the job still has to look at, and one for going on at all. -/
def Answer.remaining : Answer → Nat
  | .closed candidates _ => candidates.length + 1
  | .ticket _ => 0
  | .finished _ => 0

theorem remaining_le_of_returns {closedCount : Nat} {candidates : List Uuid} {answer : Answer}
    (h : (closeNext closedCount candidates).Returns answer) :
    answer.remaining ≤ candidates.length := by
  induction candidates with
  | nil =>
    cases h
    exact le_refl _
  | cons ticketId candidates ih =>
    obtain ⟨now, rowcount, hrest⟩ := h
    have hrest' : (if rowcount ≠ 1 then closeNext closedCount candidates
        else write (.addMessage (autoCloseMessage ticketId now)) >>= fun _ =>
          write (.addAuditLog (autoCloseEntry ticketId)) >>= fun _ =>
            pure (Answer.closed candidates (closedCount + 1))).Returns answer := hrest
    split at hrest'
    · exact (ih hrest').trans (Nat.le_succ _)
    · obtain ⟨⟨⟩, ⟨⟩, hanswer⟩ := hrest'
      cases hanswer
      exact le_refl _

theorem autoClose_finite : autoClose.Finite := by
  refine Subrelation.wf ?_ (measure Answer.remaining).wf
  rintro answer' answer ⟨p, hnext, hreturns⟩
  cases answer with
  | ticket row => cases hnext
  | finished closedCount => cases hnext
  | closed candidates closedCount =>
    cases hnext
    exact Nat.lt_succ_of_le (remaining_le_of_returns hreturns)

end Programs

/-! ## Every run can go on -/

section Runs

variable {ι : Type} [DecidableEq ι] [Fintype ι] {ops : ι → TicketOperation}
  {cond : TicketSystem ι → Move ι Nat → Prop} {world : World} {c c' : TicketSystem ι}

/-- Nobody holds a lock of somebody else, and who holds one asks for no other. -/
def Peaceful (c : TicketSystem ι) : Prop := c.Exclusive ∧ c.Orderly engine anyWorld calm

omit [DecidableEq ι] [Fintype ι] in
theorem peaceful_start : Peaceful (TicketSystem.start world ops) := by
  refine ⟨fun _ _ _ _ hl => absurd hl List.not_mem_nil, fun i p w held hi => ?_⟩
  cases hi
  exact orderly_operation (ops i)

theorem Peaceful.move {m : Move ι Nat} (h : Peaceful c)
    (hmove : c.move engine autoClose m = some c') : Peaceful c' := by
  refine ⟨h.1.move hmove, h.2.move grows_anyWorld (fun _ _ => trivial) (fun answer p _ hnext => ?_)
    hmove⟩
  cases answer with
  | ticket row => cases hnext
  | finished closedCount => cases hnext
  | closed candidates closedCount =>
    cases hnext
    exact orderly_closeNext closedCount candidates

theorem peaceful_of_reach (h : JobReach engine autoClose cond (TicketSystem.start world ops) c) :
    Peaceful c := by
  induction h with
  | refl => exact peaceful_start
  | step _ _ moved ih => exact ih.move moved

/-- A client can take its turn, or waits for one that can. -/
theorem Peaceful.waits_for_turn (h : Peaceful c) {i : ι} (hi : (c.clients i).IsRunning) :
    (c.exec engine (.turn i)).isSome ∨
    ∃ j l, i ≠ j ∧ l ∈ (c.clients i).needs engine c.db ∧ l ∈ (c.clients j).held ∧
      (c.exec engine (.turn j)).isSome := by
  by_cases hturn : (c.exec engine (.turn i)).isSome
  · exact Or.inl hturn
  obtain ⟨j, l, hij, hneeds, hheld⟩ := Config.exists_holder hi hturn
  refine Or.inr ⟨j, l, hij, hneeds, hheld, ?_⟩
  have hcalm := h.2.needs grows_anyWorld (fun _ _ _ hl => absurd hl List.not_mem_nil) j
  refine Config.isSome_exec_turn (Client.isRunning_of_mem_held hheld) fun k hkj m hm => ?_
  exact h.1 j k hkj.symm m (hcalm (List.ne_nil_of_mem hheld) m hm)

/-- In every interleaving, a request that cannot go on waits for one that can, and from every
    state on, requests and runs of the job can all be brought to their end. -/
theorem tickets_never_deadlock
    (h : JobReach engine autoClose cond (TicketSystem.start world ops) c) :
    (∀ i, (c.clients i).IsRunning → (c.exec engine (.turn i)).isSome ∨
      ∃ j l, i ≠ j ∧ l ∈ (c.clients i).needs engine c.db ∧ l ∈ (c.clients j).held ∧
        (c.exec engine (.turn j)).isSome) ∧
    ∃ c', JobReach engine autoClose onward c c' ∧ c'.Ended autoClose := by
  have hpeaceful := peaceful_of_reach h
  refine ⟨fun i hi => hpeaceful.waits_for_turn hi, ?_⟩
  refine JobReach.exists_ended autoClose_finite Peaceful ?_ (fun _ _ _ h hmove => h.move hmove)
    hpeaceful
  rintro c hc ⟨i, hi⟩
  rcases hc.waits_for_turn hi with hturn | ⟨j, -, -, -, -, hturn⟩
  · exact ⟨i, hturn⟩
  · exact ⟨j, hturn⟩

end Runs

/-- A customer answers a ticket while the job closes it. -/
def answeredTooLate : Fin 2 → TicketOperation
  | 0 => .autoClose .stored
  | 1 => .customerReply 1 ⟨5, .customer, true⟩ "Hello?"

/-- The reply is ready to be committed, and waits for the job. -/
theorem tickets_never_deadlock_waiting : ∃ c : TicketSystem (Fin 2),
    (c.clients 1).needs engine c.db = [1, 1] ∧ (c.exec engine (.turn 1)).isSome = false ∧
    (∀ i, (c.clients i).IsRunning → (c.exec engine (.turn i)).isSome ∨
      ∃ j l, i ≠ j ∧ l ∈ (c.clients i).needs engine c.db ∧ l ∈ (c.clients j).held ∧
        (c.exec engine (.turn j)).isSome) ∧
    ∃ c', JobReach engine autoClose onward c c' ∧ c'.Ended autoClose := by
  let start := TicketSystem.start (oneTicket .waitingForCustomer (25 * hour)) answeredTooLate
  have hrun : (start.moveAll engine autoClose anyMove
      (List.replicate 5 (.event (.turn 1)) ++ List.replicate 4 (.event (.turn 0)))).any (fun c =>
        (c.clients 1).needs engine c.db = [1, 1] ∧
          (c.exec engine (.turn 1)).isSome = false) = true := by
    decide +kernel
  obtain ⟨c, hmoves, htest⟩ := (Option.any_eq_true ..).mp hrun
  obtain ⟨hneeds, hwaits⟩ := of_decide_eq_true htest
  exact ⟨c, hneeds, hwaits, tickets_never_deadlock (.of_moveAll _ .refl hmoves)⟩

end Tickets

end ElectronicShop
