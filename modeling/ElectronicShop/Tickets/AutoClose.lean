import ElectronicShop.Tickets.Commits

/-!
# Tickets that the job closes

The update of the job is conditional, and the transaction around it leaves the note and the log
row, so there is one of each for every closing (`auto_close_leaves_one_trace`). But the update
only asks for the status. That the ticket has waited for a day is what the job has seen when it
picked its candidates, and it says as much about the time of the closing as `last_response_at`
still does then (`auto_close_waits_the_full_day`).
-/

namespace ElectronicShop

namespace Tickets

open Txn

def TicketOperation.isAutoClose : TicketOperation → Bool
  | .autoClose _ => true
  | .create _ _ _ _ _ => false
  | .customerReply _ _ _ => false
  | .supportReply _ _ _ => false
  | .changeStatus _ _ => false

theorem TicketOperation.isAutoClose_of_ticket {op : TicketOperation} {id : Uuid}
    (h : op.ticket = some id) : op.isAutoClose = false := by
  cases op with
  | autoClose order => cases h
  | create userId subject message priority id => rfl
  | customerReply ticketId user body => rfl
  | supportReply ticketId actor body => rfl
  | changeStatus ticketId newStatus => rfl

/-- If a ticket waits for the customer, its last response is `delay` ago at most. -/
def Db.Fresh (db : Db) (id : Uuid) (now delay : DateTime) : Prop :=
  ∀ row ∈ db.tickets.get id, row.status = .waitingForCustomer →
    now ≤ row.lastResponseAt + delay

instance Db.decidableFresh (db : Db) (id : Uuid) (now delay : DateTime) :
    Decidable (db.Fresh id now delay) :=
  inferInstanceAs (Decidable (∀ _ ∈ _, _))

/-- The last response to a ticket is more than a day and `delay` ago. -/
def Db.Overdue (db : Db) (id : Uuid) (now delay : DateTime) : Prop :=
  ∀ row ∈ db.tickets.get id, row.lastResponseAt + staleAfter + delay < now

instance Db.decidableOverdue (db : Db) (id : Uuid) (now delay : DateTime) :
    Decidable (db.Overdue id now delay) :=
  inferInstanceAs (Decidable (∀ _ ∈ _, _))

section Defs

variable {ι : Type}

/-- In this move the job changes a ticket from waiting for the customer to closed. -/
def AutoCloses (ops : ι → TicketOperation) (id : Uuid) (c : TicketSystem ι) (m : Move ι Nat)
    (c' : TicketSystem ι) : Prop :=
  m.client.any (fun i => (ops i).isAutoClose) = true ∧
  c.db.db.statusOf id = some .waitingForCustomer ∧ c'.db.db.statusOf id = some .closed

instance decidableAutoCloses (ops : ι → TicketOperation) (id : Uuid) (c : TicketSystem ι)
    (m : Move ι Nat) (c' : TicketSystem ι) : Decidable (AutoCloses ops id c m c') :=
  inferInstanceAs (Decidable (_ ∧ _))

/-- The condition on a run: what a request writes leaves no ticket waiting for the customer
    whose `last_response_at` is more than `delay` ago, and what the job writes is about a ticket
    whose `last_response_at` is still that much more than a day ago. -/
def Timely (ops : ι → TicketOperation) (delay : DateTime) (c : TicketSystem ι) :
    Move ι Nat → Prop
  | .event (.turn i) =>
    match c.clients i with
    | .running (.done _) w _ => ∀ x ∈ w.pending, ∀ id ∈ x.ticket,
      if (ops i).isAutoClose then c.db.db.Overdue id c.db.clock delay
      else (w.view c.db.db).Fresh id c.db.clock delay
    | _ => True
  | _ => True

instance decidableTimely (ops : ι → TicketOperation) (delay : DateTime) (c : TicketSystem ι) :
    (m : Move ι Nat) → Decidable (Timely ops delay c m)
  | .event (.turn i) => by
    simp only [Timely]
    rcases c.clients i with ⟨_ | _ | _, _, _⟩ | _ | _ <;> infer_instance
  | .event (.kill _) | .resume _ | .outside _ => isTrue trivial

variable [DecidableEq ι] [Fintype ι]

/-- How many times the job closes a ticket in a run. -/
def closings (ops : ι → TicketOperation) (id : Uuid) (c : TicketSystem ι)
    (moves : List (Move ι Nat)) : Nat :=
  c.tally engine autoClose (fun c m c' => if AutoCloses ops id c m c' then 1 else 0) moves

/-- How many of them are those of client `i`. -/
def closingsBy (ops : ι → TicketOperation) (i : ι) (id : Uuid) (c : TicketSystem ι)
    (moves : List (Move ι Nat)) : Nat :=
  c.tally engine autoClose
    (fun c m c' => if m.client = some i ∧ AutoCloses ops id c m c' then 1 else 0) moves

/-- What client `i` adds to a number in a run. -/
def addedBy (i : ι) (number : Db → Nat) (c : TicketSystem ι) (moves : List (Move ι Nat)) : Nat :=
  c.tally engine autoClose
    (fun c m c' => if m.client = some i then number c'.db.db - number c.db.db else 0) moves

end Defs

/-! ## One closing -/

section Closing

variable {db : Db} {ticketId id : Uuid} {now : DateTime}

/-- The closing of one ticket leaves the others as they are. -/
theorem frame_closing (hid : id ≠ ticketId) :
    ((closingWrites ticketId now).foldl Write.apply db).tickets.get id = db.tickets.get id ∧
      ((closingWrites ticketId now).foldl Write.apply db).messagesOf id = db.messagesOf id := by
  refine frame_foldl db fun x hx => ?_
  have hticket : some ticketId ≠ some id := fun h => hid (Option.some.inj h).symm
  simp only [closingWrites, List.mem_cons, List.not_mem_nil, or_false] at hx
  rcases hx with rfl | rfl | rfl | rfl
  · exact hticket
  · exact hticket
  · exact hticket
  · exact fun h => nomatch h

theorem statusOf_closing (now : DateTime) (hwaiting : db.waiting ticketId = true) :
    ((closingWrites ticketId now).foldl Write.apply db).statusOf ticketId = some .closed := by
  obtain ⟨row, hrow, -⟩ := Option.map_eq_some_iff.mp (Db.waiting_iff.mp hwaiting)
  have hstatus : ∀ t : Ticket, { t with status := .closed }.id = t.id := fun _ => rfl
  have hclosedAt : ∀ t : Ticket, { t with closedAt := some now }.id = t.id := fun _ => rfl
  change (((db.tickets.modify ticketId fun t => { t with status := .closed }).modify ticketId
    fun t => { t with closedAt := some now }).get ticketId).map Ticket.status = _
  rw [Table.get_modify _ _ _ hclosedAt, if_pos rfl, Table.get_modify _ _ _ hstatus, if_pos rfl, hrow]
  rfl

theorem systemMessages_closing :
    ((closingWrites ticketId now).foldl Write.apply db).systemMessages id =
      db.systemMessages id + if id = ticketId then 1 else 0 := by
  change (db.messages ++ [autoCloseMessage ticketId now]).countP _ = _
  rw [List.countP_append, List.countP_singleton]
  simp [autoCloseMessage, Db.systemMessages, eq_comm]

theorem autoClosedRows_closing :
    ((closingWrites ticketId now).foldl Write.apply db).autoClosedRows id =
      db.autoClosedRows id + if id = ticketId then 1 else 0 := by
  change (db.auditLogs ++ [autoCloseEntry ticketId]).countP _ = _
  rw [List.countP_append, List.countP_singleton]
  simp [autoCloseEntry, Db.autoClosedRows, eq_comm]

end Closing

section Commit

variable {op : TicketOperation} {answer : Answer} {w : Session} {held : List Uuid} {world : World}
  {id : Uuid}

/-- A commit of the job that changes a ticket from waiting for the customer to closed. -/
theorem Pending.closing_of_closes (h : Pending op answer w held world)
    (hop : op.isAutoClose = true) (hwaiting : world.db.statusOf id = some .waitingForCustomer)
    (hclosed : (w.view world.db).statusOf id = some .closed) :
    ∃ now, w.pending = closingWrites id now := by
  cases h with
  | request ticketId target ends writes new =>
    rw [TicketOperation.isAutoClose_of_ticket target] at hop
    cases hop
  | idle order job writes =>
    unfold Session.view at hclosed
    rw [writes, List.foldl_nil, hwaiting] at hclosed
    cases hclosed
  | closing order job ticketId now writes locked waiting =>
    by_cases hid : id = ticketId
    · rw [hid]
      exact ⟨now, writes⟩
    · unfold Session.view at hclosed
      rw [writes] at hclosed
      unfold Db.statusOf at hclosed hwaiting
      rw [(frame_closing hid).1, hwaiting] at hclosed
      cases hclosed

/-- A commit leaves a note and a log row exactly when it closes a ticket for the job. -/
theorem Pending.counts (h : Pending op answer w held world) (id : Uuid) :
    (w.view world.db).systemMessages id = world.db.systemMessages id +
        (if op.isAutoClose = true ∧ world.db.statusOf id = some .waitingForCustomer ∧
          (w.view world.db).statusOf id = some .closed then 1 else 0) ∧
      (w.view world.db).autoClosedRows id = world.db.autoClosedRows id +
        (if op.isAutoClose = true ∧ world.db.statusOf id = some .waitingForCustomer ∧
          (w.view world.db).statusOf id = some .closed then 1 else 0) := by
  cases h with
  | request ticketId target ends writes new =>
    have hop := TicketOperation.isAutoClose_of_ticket target
    have hcounts := counts_of_request world.db id writes
    rw [if_neg (by simp [hop])]
    exact hcounts
  | idle order job writes =>
    have hview : w.view world.db = world.db := by
      unfold Session.view
      rw [writes]
      rfl
    rw [hview, if_neg]
    · exact ⟨rfl, rfl⟩
    · rintro ⟨-, hwaiting, hclosed⟩
      rw [hwaiting] at hclosed
      cases hclosed
  | closing order job ticketId now writes locked waiting =>
    have hview : w.view world.db = (closingWrites ticketId now).foldl Write.apply world.db := by
      unfold Session.view
      rw [writes]
    have hcloses : (op.isAutoClose = true ∧ world.db.statusOf id = some .waitingForCustomer ∧
        (w.view world.db).statusOf id = some .closed) ↔ id = ticketId := by
      rw [hview]
      constructor
      · rintro ⟨-, hwaiting, hclosed⟩
        by_contra hid
        unfold Db.statusOf at hclosed hwaiting
        rw [(frame_closing hid).1, hwaiting] at hclosed
        cases hclosed
      · rintro rfl
        rw [job]
        exact ⟨rfl, Db.waiting_iff.mp waiting, statusOf_closing now waiting⟩
    simp only [hcloses]
    rw [hview]
    exact ⟨systemMessages_closing, autoClosedRows_closing⟩

end Commit

/-! ## One trace for every closing -/

def hour : Nat := 60 * 60 * 1000000

/-- A ticket that has last been answered when the clock was started. -/
def oneTicket (status : TicketStatus) (clock : DateTime) : World where
  db :=
    { tickets := (∅ : Table Ticket.id).put ⟨1, 5, "Delivery", status, .normal, none, 0⟩
      messages := []
      auditLogs := [] }
  clock := clock

section Runs

variable {ι : Type} [DecidableEq ι] [Fintype ι] {ops : ι → TicketOperation}
  {cond : TicketSystem ι → Move ι Nat → Prop} {world : World} {c c' : TicketSystem ι}

/-- What one move adds. -/
theorem counts_move {m : Move ι Nat} (hgood : (ticketOutline ops cond).Good c)
    (hmove : c.move engine autoClose m = some c') (id : Uuid) :
    c'.db.db.systemMessages id = c.db.db.systemMessages id +
        (if AutoCloses ops id c m c' then 1 else 0) ∧
      c'.db.db.autoClosedRows id = c.db.db.autoClosedRows id +
        (if AutoCloses ops id c m c' then 1 else 0) := by
  rcases db_of_move hgood hmove with hdb | ⟨i, answer, w, held, rfl, -, hpending, hdb⟩
  · rw [hdb, if_neg]
    · exact ⟨rfl, rfl⟩
    · rintro ⟨-, hwaiting, hclosed⟩
      rw [hdb, hwaiting] at hclosed
      cases hclosed
  · have hcloses : AutoCloses ops id c (.event (.turn i)) c' ↔
        (ops i).isAutoClose = true ∧ c.db.db.statusOf id = some .waitingForCustomer ∧
          (w.view c.db.db).statusOf id = some .closed := by
      rw [← hdb]
      rfl
    have hcounts := hpending.counts id
    rw [hdb]
    by_cases h : AutoCloses ops id c (.event (.turn i)) c'
    · rw [if_pos h]
      rwa [if_pos (hcloses.mp h)] at hcounts
    · rw [if_neg h]
      rwa [if_neg fun hnot => h (hcloses.mpr hnot)] at hcounts

/-- Whatever the runs of the job and the requests do, and wherever they are stopped: every
    closing by the job leaves one message of the system's and one log row, nothing else does,
    and a run of the job leaves them where it has closed a ticket itself. -/
theorem auto_close_leaves_one_trace {moves : List (Move ι Nat)}
    (h : (TicketSystem.start world ops).moveAll engine autoClose anyMove moves = some c)
    (id : Uuid) :
    (c.db.db.systemMessages id =
        world.db.systemMessages id + closings ops id (TicketSystem.start world ops) moves ∧
      c.db.db.autoClosedRows id =
        world.db.autoClosedRows id + closings ops id (TicketSystem.start world ops) moves) ∧
    ∀ i, addedBy i (fun db => db.systemMessages id) (TicketSystem.start world ops) moves =
        closingsBy ops i id (TicketSystem.start world ops) moves ∧
      addedBy i (fun db => db.autoClosedRows id) (TicketSystem.start world ops) moves =
        closingsBy ops i id (TicketSystem.start world ops) moves := by
  let o := ticketOutline ops (anyMove (ι := ι))
  have hgood : o.Good (TicketSystem.start world ops) := good_start
  refine ⟨⟨?_, ?_⟩, fun i => ⟨?_, ?_⟩⟩
  · exact o.tally_eq (fun c => c.db.db.systemMessages id)
      (fun c m c' hc _ hmove => (counts_move hc hmove id).1) moves hgood h
  · exact o.tally_eq (fun c => c.db.db.autoClosedRows id)
      (fun c m c' hc _ hmove => (counts_move hc hmove id).2) moves hgood h
  · refine o.tally_congr (fun c m c' hc _ hmove => ?_) moves hgood h
    have hcounts := (counts_move hc hmove id).1
    by_cases hi : m.client = some i
    · simp only [hi, true_and, if_true]
      omega
    · simp only [hi, false_and, if_false]
  · refine o.tally_congr (fun c m c' hc _ hmove => ?_) moves hgood h
    have hcounts := (counts_move hc hmove id).2
    by_cases hi : m.client = some i
    · simp only [hi, true_and, if_true]
      omega
    · simp only [hi, false_and, if_false]

end Runs

/-- Three runs of the job at once. -/
def threeRuns : Fin 3 → TicketOperation := fun _ => .autoClose .stored

/-- They all pick the ticket. The first to update it is killed, the second closes it. -/
theorem auto_close_leaves_one_trace_runs : ∃ c : TicketSystem (Fin 3),
    JobReach engine autoClose anyMove
      (TicketSystem.start (oneTicket .waitingForCustomer (25 * hour)) threeRuns) c ∧
    (∀ i, (c.clients i).held = []) ∧ c.results 2 = none ∧
    c.db.db.systemMessages 1 = 1 ∧ c.db.db.autoClosedRows 1 = 1 := by
  let start := TicketSystem.start (oneTicket .waitingForCustomer (25 * hour)) threeRuns
  let turn : Fin 3 → Move (Fin 3) Nat := fun i => .event (.turn i)
  let moves := [turn 2, turn 2, turn 2, turn 2, turn 0, turn 0, turn 1, turn 1, .event (.kill 2),
    turn 0, turn 0, turn 1, turn 0, turn 0, turn 0, turn 1, turn 1, .resume 0, turn 0]
  have hrun : (start.moveAll engine autoClose anyMove moves).any (fun c =>
      (∀ i, (c.clients i).held = []) ∧ c.results 2 = none) = true := by
    decide +kernel
  have hclosings : closings threeRuns 1 start moves = 1 := by
    decide +kernel
  obtain ⟨c, hmoves, hends⟩ := (Option.any_eq_true ..).mp hrun
  obtain ⟨⟨hmessages, hrows⟩, -⟩ := auto_close_leaves_one_trace hmoves 1
  rw [hclosings] at hmessages hrows
  obtain ⟨hheld, hresult⟩ := of_decide_eq_true hends
  exact ⟨c, .of_moveAll moves .refl hmoves, hheld, hresult, hmessages, hrows⟩

/-! ## A day of waiting -/

theorem mem_stale {db : Db} {id : Uuid} {cutoff : DateTime} : id ∈ db.stale cutoff ↔
    ∃ t ∈ db.tickets.rows, (t.status = .waitingForCustomer ∧ t.lastResponseAt < cutoff) ∧
      t.id = id := by
  simp only [Db.stale, List.mem_map, List.mem_filter, decide_eq_true_eq, and_assoc]

/-- A candidate of the job that nobody has touched is overdue, as soon as `delay` is over since
    the job took the time. -/
theorem overdue_of_candidate {db db' : Db} {id : Uuid} {begun now delay : DateTime}
    (hcandidate : id ∈ db.stale (begun - staleAfter))
    (hsame : db'.tickets.get id = db.tickets.get id) (hnow : begun + delay ≤ now) :
    db'.Overdue id now delay := by
  obtain ⟨t, ht, ⟨-, hlast⟩, rfl⟩ := mem_stale.mp hcandidate
  intro row hrow
  rw [hsame, Table.get_of_mem ht] at hrow
  obtain rfl := Option.some.inj hrow
  grind

/-- A reply that is committed `delay` after it took the time at most leaves a fresh ticket. -/
theorem fresh_of_reply {db : Db} {w : Session} {writes : List Write} {id : Uuid}
    {time now delay : DateTime} (hwrites : w.pending = writes ++ [.setLastResponseAt id time])
    (hnow : now ≤ time + delay) : (w.view db).Fresh id now delay := by
  intro row hrow _
  have hkeep : ∀ t : Ticket, { t with lastResponseAt := time }.id = t.id := fun _ => rfl
  unfold Session.view at hrow
  rw [hwrites, List.foldl_append] at hrow
  change ((writes.foldl Write.apply db).tickets.modify id fun t =>
    { t with lastResponseAt := time }).get id = some row at hrow
  rw [Table.get_modify _ _ _ hkeep, if_pos rfl] at hrow
  obtain ⟨t, -, rfl⟩ := Option.map_eq_some_iff.mp hrow
  exact hnow

section Runs

variable {ι : Type} [DecidableEq ι] [Fintype ι] {ops : ι → TicketOperation}
  {cond : TicketSystem ι → Move ι Nat → Prop} {world : World} {c c' : TicketSystem ι}

omit [DecidableEq ι] [Fintype ι] in
theorem Timely.done {delay : DateTime} {i : ι} {answer : Answer} {w : Session} {held : List Uuid}
    (h : Timely ops delay c (.event (.turn i)))
    (hi : c.clients i = .running (.done answer) w held) :
    ∀ x ∈ w.pending, ∀ id ∈ x.ticket,
      if (ops i).isAutoClose then c.db.db.Overdue id c.db.clock delay
      else (w.view c.db.db).Fresh id c.db.clock delay := by
  simpa only [Timely, hi] using h

/-- What is known of a ticket since an earlier state: it is as it was, or if it waits for the
    customer now, it has been answered since. -/
structure Since (earlier : World) (delay : DateTime) (id : Uuid) (world : World) : Prop where
  clock : earlier.clock ≤ world.clock
  ticket : (world.db.tickets.get id = earlier.db.tickets.get id ∧
      world.db.messagesOf id = earlier.db.messagesOf id) ∨
    world.db.Fresh id earlier.clock delay

section Since

variable {earlier : World} {delay : DateTime} {id : Uuid} {world : World}

theorem Since.frame (h : Since earlier delay id world) {db : Db}
    (hdb : db.tickets.get id = world.db.tickets.get id ∧ db.messagesOf id = world.db.messagesOf id) :
    Since earlier delay id { world with db } where
  clock := h.clock
  ticket := by
    rcases h.ticket with hsame | hfresh
    · exact Or.inl ⟨hdb.1.trans hsame.1, hdb.2.trans hsame.2⟩
    · refine Or.inr fun row hrow => hfresh row ?_
      rwa [← hdb.1]

omit [DecidableEq ι] [Fintype ι] in
/-- What a commit leaves of it. -/
theorem Since.commit (h : Since earlier delay id c.db) {i : ι} {answer : Answer} {w : Session}
    {held : List Uuid} (hpending : Pending (ops i) answer w held c.db)
    (htimely : ∀ x ∈ w.pending, ∀ id ∈ x.ticket,
      if (ops i).isAutoClose then c.db.db.Overdue id c.db.clock delay
      else (w.view c.db.db).Fresh id c.db.clock delay) :
    Since earlier delay id { c.db with db := w.view c.db.db } := by
  cases hpending with
  | request ticketId target ends writes new =>
    by_cases htouched : ∃ x ∈ w.pending, x.ticket = some id
    · obtain ⟨x, hx, hid⟩ := htouched
      have hfresh := htimely x hx id hid
      rw [if_neg (by simp [TicketOperation.isAutoClose_of_ticket target])] at hfresh
      refine ⟨h.clock, Or.inr fun row hrow hwaiting => ?_⟩
      exact h.clock.trans (hfresh row hrow hwaiting)
    · exact h.frame (frame_foldl _ fun x hx hid => htouched ⟨x, hx, hid⟩)
  | idle order job writes =>
    have hview : w.view c.db.db = c.db.db := by
      unfold Session.view
      rw [writes]
      rfl
    rw [hview]
    exact h
  | closing order job ticketId now writes locked waiting =>
    have hview : w.view c.db.db = (closingWrites ticketId now).foldl Write.apply c.db.db := by
      unfold Session.view
      rw [writes]
    rw [hview]
    by_cases hid : id = ticketId
    · -- it is closed now
      refine ⟨h.clock, Or.inr fun row hrow hwaiting => ?_⟩
      subst hid
      have hclosed : Option.map Ticket.status _ = _ := statusOf_closing now waiting
      have hstatus : Option.map Ticket.status _ = some row.status := congrArg _ hrow
      have hsame := hclosed.symm.trans hstatus
      rw [hwaiting] at hsame
      cases hsame
    · exact h.frame (frame_closing hid)

end Since

/-- When the job closes a ticket, then for the whole day before that the ticket has waited for
    the customer and got no message, in every run in which the requests leave a ticket waiting
    for the customer within `delay` of its last response only, and the job closes a ticket only
    while its last response is `delay` more than a day ago. -/
theorem auto_close_waits_the_full_day {delay : DateTime} {c₁ : TicketSystem ι} {m : Move ι Nat}
    {id : Uuid}
    (hbefore : JobReach engine autoClose (Timely ops delay) (TicketSystem.start world ops) c₁)
    (hafter : JobReach engine autoClose (Timely ops delay) c₁ c) (hallowed : Timely ops delay c m)
    (hmove : c.move engine autoClose m = some c') (hcloses : AutoCloses ops id c m c')
    (hday : c.db.clock - staleAfter ≤ c₁.db.clock) :
    c₁.db.db.statusOf id = some .waitingForCustomer ∧
      c₁.db.db.messagesOf id = c.db.db.messagesOf id := by
  let o := ticketOutline ops (Timely ops delay)
  have hgood₁ : o.Good c₁ := o.sound good_start hbefore
  have hgood : o.Good c := o.sound hgood₁ hafter
  have hsince : Since c₁.db delay id c.db := by
    refine o.invariant (P := Since c₁.db delay id) ?_ ?_ hgood₁ ⟨le_refl _, Or.inl ⟨rfl, rfl⟩⟩ hafter
    · intro c i answer w held world' hc htimely hi hcommit hsince
      obtain ⟨-, rfl⟩ := engine_commit_ok hcommit
      exact hsince.commit (o.post_of_good hc hi) (htimely.done hi)
    · intro c elapsed _ hsince
      have hclock : c.db.clock ≤ c.db.clock + elapsed :=
        Int.le_add_of_nonneg_right (Int.natCast_nonneg elapsed)
      exact ⟨hsince.clock.trans hclock, hsince.ticket⟩
  obtain ⟨hjob, hwaiting, hclosed⟩ := hcloses
  rcases db_of_move hgood hmove with hdb | ⟨i, answer, w, held, rfl, hi, hpending, hdb⟩
  · rw [hdb, hwaiting] at hclosed
    cases hclosed
  · rw [hdb] at hclosed
    have hop : (ops i).isAutoClose = true := hjob
    obtain ⟨now, hwrites⟩ := hpending.closing_of_closes hop hwaiting hclosed
    have hoverdue := hallowed.done hi (.setStatus id .closed) (by rw [hwrites]; exact List.mem_cons_self ..)
      id rfl
    rw [if_pos hop] at hoverdue
    obtain ⟨row, hrow, hstatus⟩ := Option.map_eq_some_iff.mp hwaiting
    rcases hsince.ticket with ⟨hticket, hmessages⟩ | hfresh
    · refine ⟨?_, hmessages.symm⟩
      unfold Db.statusOf at hwaiting ⊢
      rwa [← hticket]
    · have hlate := hoverdue row hrow
      have hsoon := hfresh row hrow hstatus
      grind

end Runs

/-- An agent answers, and a run of the job comes a day and an hour later. -/
def answeredAndClosed : Fin 2 → TicketOperation
  | 0 => .autoClose .stored
  | 1 => .supportReply 1 ⟨6, .support, true⟩ "On its way."

theorem auto_close_waits_the_full_day_answered : ∃ c₁ c : TicketSystem (Fin 2),
    JobReach engine autoClose (Timely answeredAndClosed 0)
      (TicketSystem.start (oneTicket .waitingForSupport 1) answeredAndClosed) c₁ ∧
    JobReach engine autoClose (Timely answeredAndClosed 0) c₁ c ∧
    c.db.clock = 25 * hour + 1 ∧ c₁.db.clock = 2 * hour + 1 ∧
    c₁.db.db.statusOf 1 = some .waitingForCustomer ∧
    c₁.db.db.messagesOf 1 = c.db.db.messagesOf 1 := by
  let start := TicketSystem.start (oneTicket .waitingForSupport 1) answeredAndClosed
  let turn : Fin 2 → Move (Fin 2) Nat := fun i => .event (.turn i)
  let reply : List (Move (Fin 2) Nat) := List.replicate 6 (turn 1) ++ [.outside (2 * hour)]
  let run : List (Move (Fin 2) Nat) := .outside (23 * hour) :: List.replicate 6 (turn 0)
  have hrun : (start.moveAll engine autoClose (Timely answeredAndClosed 0) reply).any (fun c₁ =>
      (c₁.moveAll engine autoClose (Timely answeredAndClosed 0) run).any fun c =>
        (c.move engine autoClose (turn 0)).any fun c' =>
          (c.db.clock = 25 * hour + 1 ∧ c₁.db.clock = 2 * hour + 1) ∧
          Timely answeredAndClosed 0 c (turn 0) ∧
          AutoCloses answeredAndClosed 1 c (turn 0) c') = true := by
    decide +kernel
  obtain ⟨c₁, hreply, hrest⟩ := (Option.any_eq_true ..).mp hrun
  obtain ⟨c, hclose, hlast⟩ := (Option.any_eq_true ..).mp hrest
  obtain ⟨c', hmove, htest⟩ := (Option.any_eq_true ..).mp hlast
  obtain ⟨⟨hclock, hclock₁⟩, htimely, hcloses⟩ := of_decide_eq_true htest
  have hbefore := JobReach.of_moveAll reply .refl hreply
  have hafter := JobReach.of_moveAll run .refl hclose
  have hday : c.db.clock - staleAfter ≤ c₁.db.clock := by
    rw [hclock, hclock₁]
    decide
  exact ⟨c₁, c, hbefore, hafter, hclock, hclock₁,
    auto_close_waits_the_full_day hbefore hafter htimely hmove hcloses hday⟩

/-- A run of the job has picked the ticket when its owner writes and is answered. -/
def answeredMeanwhile : Fin 3 → TicketOperation
  | 0 => .autoClose .stored
  | 1 => .customerReply 1 ⟨5, .customer, true⟩ "Where is it?"
  | 2 => .supportReply 1 ⟨6, .support, true⟩ "On its way."

/-- It closes the ticket all the same. -/
theorem auto_close_waits_the_full_day_fails : ∃ c₁ c c' : TicketSystem (Fin 3),
    JobReach engine autoClose anyMove
      (TicketSystem.start (oneTicket .waitingForCustomer (25 * hour)) answeredMeanwhile) c₁ ∧
    JobReach engine autoClose anyMove c₁ c ∧
    c.move engine autoClose (.event (.turn 0)) = some c' ∧
    AutoCloses answeredMeanwhile 1 c (.event (.turn 0)) c' ∧
    c.db.clock - staleAfter ≤ c₁.db.clock ∧
    c₁.db.db.statusOf 1 ≠ some .waitingForCustomer ∧
    c₁.db.db.messagesOf 1 ≠ c.db.db.messagesOf 1 := by
  let start := TicketSystem.start (oneTicket .waitingForCustomer (25 * hour)) answeredMeanwhile
  let turn : Fin 3 → Move (Fin 3) Nat := fun i => .event (.turn i)
  let reply : List (Move (Fin 3) Nat) := List.replicate 2 (turn 0) ++ List.replicate 6 (turn 1)
  let answer : List (Move (Fin 3) Nat) :=
    .outside hour :: List.replicate 6 (turn 2) ++ List.replicate 4 (turn 0)
  have hrun : (start.moveAll engine autoClose anyMove reply).any (fun c₁ =>
      (c₁.moveAll engine autoClose anyMove answer).any fun c =>
        (c.move engine autoClose (turn 0)).any fun c' =>
          AutoCloses answeredMeanwhile 1 c (turn 0) c' ∧
          c.db.clock - staleAfter ≤ c₁.db.clock ∧
          c₁.db.db.statusOf 1 ≠ some .waitingForCustomer ∧
          c₁.db.db.messagesOf 1 ≠ c.db.db.messagesOf 1) = true := by
    decide +kernel
  obtain ⟨c₁, hreply, hrest⟩ := (Option.any_eq_true ..).mp hrun
  obtain ⟨c, hanswer, hlast⟩ := (Option.any_eq_true ..).mp hrest
  obtain ⟨c', hmove, htest⟩ := (Option.any_eq_true ..).mp hlast
  obtain ⟨hcloses, hday, hstatus, hmessages⟩ := of_decide_eq_true htest
  exact ⟨c₁, c, c', .of_moveAll reply .refl hreply, .of_moveAll answer .refl hanswer, hmove, hcloses,
    hday, hstatus, hmessages⟩

end Tickets

end ElectronicShop
