import ElectronicShop.Model.Tickets
import ElectronicShop.Txn.Outcome

/-!
# What the transactions on tickets commit

A request writes to one ticket, and adds no message of the system's. A transaction of the job
has nothing to write, or it closes one ticket that waits for the customer: it holds the row by
then, so that is what is committed.
-/

namespace ElectronicShop

namespace Tickets

open Txn

/-! ## Reading the database -/

def Db.statusOf (db : Db) (id : Uuid) : Option TicketStatus :=
  (db.tickets.get id).map Ticket.status

def Db.messagesOf (db : Db) (id : Uuid) : List TicketMessage :=
  db.messages.filter fun m => m.ticketId = id

/-- How many messages of the system's a ticket has. -/
def Db.systemMessages (db : Db) (id : Uuid) : Nat :=
  db.messages.countP fun m => m.ticketId = id ∧ m.authorRole = .system

/-- How many log rows say that the job has closed a ticket. -/
def Db.autoClosedRows (db : Db) (id : Uuid) : Nat :=
  db.auditLogs.countP fun e => e.action = "ticket.auto_closed" ∧ e.resourceId = some id

theorem Db.waiting_iff {db : Db} {id : Uuid} :
    db.waiting id = true ↔ db.statusOf id = some .waitingForCustomer := by
  unfold Db.waiting Db.statusOf
  cases db.tickets.get id <;> simp

/-! ## Which ticket is written to -/

/-- The ticket that a write is about. -/
def Write.ticket : Write → Option Uuid
  | .addTicket row => some row.id
  | .addMessage row => some row.ticketId
  | .addAuditLog _ => none
  | .setStatus id _ => some id
  | .setLastResponseAt id _ => some id
  | .setClosedAt id _ => some id

/-- The ticket that a request is about. -/
def TicketOperation.ticket : TicketOperation → Option Uuid
  | .create _ _ _ _ id => some id
  | .customerReply ticketId _ _ => some ticketId
  | .supportReply ticketId _ _ => some ticketId
  | .changeStatus ticketId _ => some ticketId
  | .autoClose _ => none

def TicketOperation.isCreate : TicketOperation → Bool
  | .create _ _ _ _ _ => true
  | .customerReply _ _ _ => false
  | .supportReply _ _ _ => false
  | .changeStatus _ _ => false
  | .autoClose _ => false

/-- What a request for a ticket can write. -/
def Write.OfRequest (id : Uuid) : Write → Prop
  | .addTicket row => row.id = id
  | .addMessage row => row.ticketId = id ∧ row.authorRole ≠ .system
  | .addAuditLog _ => False
  | .setStatus id' _ => id' = id
  | .setLastResponseAt id' _ => id' = id
  | .setClosedAt id' _ => id' = id

/-- What a request for a ticket that is there can send. -/
def Stmt.OfRequest (id : Uuid) : Stmt → Prop
  | .now => True
  | .getTicket _ => True
  | .selectStale _ _ => False
  | .closeIfWaiting _ _ => False
  | .insert _ => False
  | .write x => x.OfRequest id

section Frame

variable {db : Db} {id : Uuid}

theorem Write.OfRequest.ticket {x : Write} (h : x.OfRequest id) : x.ticket = some id := by
  cases x with
  | addTicket row => exact congrArg some h
  | addMessage row => exact congrArg some h.1
  | addAuditLog entry => exact h.elim
  | setStatus id' status => exact congrArg some h
  | setLastResponseAt id' lastResponseAt => exact congrArg some h
  | setClosedAt id' closedAt => exact congrArg some h

theorem get_modify_of_ne {row : Uuid} {f : Ticket → Ticket} (hf : ∀ t, (f t).id = t.id)
    (hid : some row ≠ some id) :
    (db.tickets.modify row f).get id = db.tickets.get id := by
  rw [Table.get_modify _ _ _ hf, if_neg]
  rintro rfl
  exact hid rfl

/-- A write changes the row that it locks. -/
theorem Write.get_apply {x : Write} (h : x.locks ≠ some id) :
    (x.apply db).tickets.get id = db.tickets.get id := by
  cases x with
  | addTicket row =>
    exact Table.get_put_of_ne db.tickets fun heq => h (congrArg some heq.symm)
  | addMessage row => rfl
  | addAuditLog entry => rfl
  | setStatus row status => exact get_modify_of_ne (fun _ => rfl) h
  | setLastResponseAt row lastResponseAt => exact get_modify_of_ne (fun _ => rfl) h
  | setClosedAt row closedAt => exact get_modify_of_ne (fun _ => rfl) h

theorem Write.messagesOf_apply {x : Write} (h : x.ticket ≠ some id) :
    (x.apply db).messagesOf id = db.messagesOf id := by
  cases x with
  | addMessage row =>
    have hrow : row.ticketId ≠ id := fun heq => h (congrArg some heq)
    change (db.messages ++ [row]).filter _ = _
    rw [List.filter_append, List.filter_cons_of_neg (by simpa using hrow), List.filter_nil,
      List.append_nil]
    rfl
  | addTicket row => rfl
  | addAuditLog entry => rfl
  | setStatus row status => rfl
  | setLastResponseAt row lastResponseAt => rfl
  | setClosedAt row closedAt => rfl

theorem Write.locks_of_ticket {x : Write} (h : x.ticket ≠ some id) : x.locks ≠ some id := by
  cases x with
  | addMessage row => exact fun heq => nomatch heq
  | addAuditLog entry => exact fun heq => nomatch heq
  | addTicket row => exact h
  | setStatus row status => exact h
  | setLastResponseAt row lastResponseAt => exact h
  | setClosedAt row closedAt => exact h

/-- Writes leave the tickets that they are not about as they are. -/
theorem frame_foldl (db : Db) {writes : List Write} (h : ∀ x ∈ writes, x.ticket ≠ some id) :
    (writes.foldl Write.apply db).tickets.get id = db.tickets.get id ∧
      (writes.foldl Write.apply db).messagesOf id = db.messagesOf id := by
  induction writes generalizing db with
  | nil => exact ⟨rfl, rfl⟩
  | cons x rest ih =>
    rw [List.forall_mem_cons] at h
    obtain ⟨hrow, hmessages⟩ := ih (x.apply db) h.2
    exact ⟨hrow.trans (Write.get_apply (Write.locks_of_ticket h.1)),
      hmessages.trans (Write.messagesOf_apply h.1)⟩

/-- What a request writes adds no message of the system's and no log row. -/
theorem counts_of_request (db : Db) (id : Uuid) {writes : List Write} {ticketId : Uuid}
    (h : ∀ x ∈ writes, x.OfRequest ticketId) :
    (writes.foldl Write.apply db).systemMessages id = db.systemMessages id ∧
      (writes.foldl Write.apply db).autoClosedRows id = db.autoClosedRows id := by
  induction writes generalizing db with
  | nil => exact ⟨rfl, rfl⟩
  | cons x rest ih =>
    rw [List.forall_mem_cons] at h
    obtain ⟨hmessages, hrows⟩ := ih (x.apply db) h.2
    refine ⟨hmessages.trans ?_, hrows.trans ?_⟩
    · cases x with
      | addMessage row =>
        have hrow : ¬ (row.ticketId = id ∧ row.authorRole = .system) := fun hsys => h.1.2 hsys.2
        change (db.messages ++ [row]).countP _ = _
        rw [List.countP_append, List.countP_singleton, if_neg (by simpa using hrow)]
        rfl
      | addAuditLog entry => exact h.1.elim
      | addTicket row => rfl
      | setStatus row status => rfl
      | setLastResponseAt row lastResponseAt => rfl
      | setClosedAt row closedAt => rfl
    · cases x with
      | addAuditLog entry => exact h.1.elim
      | addMessage row => rfl
      | addTicket row => rfl
      | setStatus row status => rfl
      | setLastResponseAt row lastResponseAt => rfl
      | setClosedAt row closedAt => rfl

end Frame

/-! ## What is known at a commit -/

/-- The tickets that are locked stay as they are. -/
def TicketRely (locks : List Uuid) (world world' : World) : Prop :=
  ∀ id ∈ locks, world'.db.tickets.get id = world.db.tickets.get id

theorem TicketRely.mono {locks locks' : List Uuid} {world world' : World}
    (h : TicketRely locks world world') (hsub : ∀ id ∈ locks', id ∈ locks) :
    TicketRely locks' world world' :=
  fun id hid => h id (hsub id hid)

/-- The writes with which the job closes a ticket. -/
def closingWrites (ticketId : Uuid) (now : DateTime) : List Write :=
  [.setStatus ticketId .closed, .setClosedAt ticketId (some now),
    .addMessage (autoCloseMessage ticketId now), .addAuditLog (autoCloseEntry ticketId)]

/-- What a transaction is about to commit. -/
inductive Pending (op : TicketOperation) (answer : Answer) (w : Session) (held : List Uuid)
    (world : World) : Prop where
  | request (ticketId : Uuid) (target : op.ticket = some ticketId)
      (ends : ∃ row, answer = .ticket row) (writes : ∀ x ∈ w.pending, x.OfRequest ticketId)
      -- a new ticket is new, and stays so
      (new : op.isCreate = true → ticketId ∈ held ∧ world.db.tickets.get ticketId = none)
  | idle (order : RowOrder) (job : op = .autoClose order) (writes : w.pending = [])
  | closing (order : RowOrder) (job : op = .autoClose order) (ticketId : Uuid) (now : DateTime)
      (writes : w.pending = closingWrites ticketId now) (locked : ticketId ∈ held)
      (waiting : world.db.waiting ticketId = true)

theorem Pending.stable {op : TicketOperation} {answer : Answer} {w : Session} {held : List Uuid}
    {world world' : World} (h : Pending op answer w held world)
    (hrely : TicketRely held world world') : Pending op answer w held world' := by
  cases h with
  | request ticketId target ends writes new =>
    refine .request ticketId target ends writes fun hcreate => ?_
    obtain ⟨hlocked, hfree⟩ := new hcreate
    exact ⟨hlocked, (hrely ticketId hlocked).trans hfree⟩
  | idle order job writes => exact .idle order job writes
  | closing order job ticketId now writes locked waiting =>
    refine .closing order job ticketId now writes locked ?_
    unfold Db.waiting
    rw [hrely ticketId locked]
    exact waiting

/-! ## Requests -/

section Wp

variable {id : Uuid} {w : Session} {held : List Uuid} {world : World}

/-- A program of a request, from the beginning. -/
theorem wpe_of_request {α : Type} {m : Tx α} (hm : m.Uses (Stmt.OfRequest id)) :
    wpe engine TicketRely m engine.start held world
      (fun _ w _ _ => ∀ x ∈ w.pending, x.OfRequest id) fun _ _ _ _ => True := by
  refine wpe_mono (wpe_of_uses (fun w _ _ => ∀ x ∈ w.pending, x.OfRequest id)
    (fun s hs w held world h world' _ => ?_) hm ?_) (fun _ _ _ _ h => h) fun _ _ _ _ _ => trivial
  · cases s with
    | now => exact h
    | getTicket ticketId => exact h
    | selectStale cutoff order => exact hs.elim
    | closeIfWaiting ticketId closedAt => exact hs.elim
    | insert row => exact hs.elim
    | write x =>
      intro y hy
      rcases List.mem_append.mp hy with hy | hy
      · exact h y hy
      · cases List.mem_singleton.mp hy
        exact hs
  · exact fun x hx => nomatch hx

/-- A statement, and what follows it. -/
theorem wpe_send_bind {α : Type} {s : Stmt} {f : s.Resp → Tx α}
    {post : α → Session → List Uuid → World → Prop}
    {failed : ShopError → Session → List Uuid → World → Prop} :
    wpe engine TicketRely (send s >>= f) w held world post failed ↔
      ∀ world', TicketRely (s.needs w world ++ held) world world' →
        wpe engine TicketRely (f (s.execIn w world).1) (s.execIn w world).2
          (s.needs w world ++ held) world' post failed := Iff.rfl

theorem uses_assign {α : Type} [DecidableEq α] (old new : α) {x : Write}
    (h : Stmt.OfRequest id (.write x)) : (assign old new x).Uses (Stmt.OfRequest id) := by
  unfold assign
  split
  · trivial
  · exact ⟨h, fun _ => trivial⟩

/-- A reply asks for the time and makes its changes. -/
theorem uses_nowAndWrites {ok : Stmt → Prop} (hnow : ok .now) (hwrite : ∀ x, ok (.write x))
    (ticket : Ticket) (author : Uuid) (authorRole : TicketMessageAuthorRole) (body : String)
    (status : TicketStatus) :
    (TicketService.addReply ticket author authorRole body status).Uses ok := by
  have hassign : ∀ {β : Type} [DecidableEq β] (old new : β) (x : Write),
      (assign old new x).Uses ok := by
    intro β _ old new x
    unfold assign
    split
    · trivial
    · exact ⟨hwrite x, fun _ => trivial⟩
  refine ⟨hnow, fun now => ⟨hwrite _, fun _ => ?_⟩⟩
  exact (hassign _ _ _).bind fun _ => (hassign _ _ _).bind fun _ => trivial

theorem uses_addReply (ticket : Ticket) (author : Uuid) {authorRole : TicketMessageAuthorRole}
    (hrole : authorRole ≠ .system) (body : String) (status : TicketStatus) :
    (TicketService.addReply ticket author authorRole body status).Uses
      (Stmt.OfRequest ticket.id) := by
  refine ⟨trivial, fun now => ⟨⟨rfl, hrole⟩, fun _ => ?_⟩⟩
  have hstatus : Stmt.OfRequest ticket.id (.write (.setStatus ticket.id status)) := rfl
  have hresponse : Stmt.OfRequest ticket.id (.write (.setLastResponseAt ticket.id now)) := rfl
  refine (uses_assign _ _ hstatus).bind fun _ => ?_
  exact (uses_assign _ _ hresponse).bind fun _ => trivial

/-- The insert of a new ticket: its key is free, and stays so. -/
theorem wpe_insert_bind {α : Type} {row : Ticket} {f : Unit → Tx α}
    {post : α → Session → List Uuid → World → Prop}
    (h : ∀ held world, row.id ∈ held → world.db.tickets.get row.id = none →
      wpe engine TicketRely (f ()) ⟨[.addTicket row]⟩ held world post fun _ _ _ _ => True) :
    wpe engine TicketRely (insert row >>= f) engine.start held world post
      fun _ _ _ _ => True := by
  refine (wpe_bind ..).mpr (wpe_send_bind.mpr fun world' hrely => ?_)
  by_cases htaken : (world.db.tickets.get row.id).isSome = true
  · have hexec : Stmt.execIn (.insert row) engine.start world = (false, engine.start) :=
      if_pos htaken
    rw [hexec]
    trivial
  · have hexec : Stmt.execIn (.insert row) engine.start world = (true, ⟨[.addTicket row]⟩) :=
      if_neg htaken
    have hlocked : row.id ∈ Stmt.needs (.insert row) engine.start world ++ held :=
      List.mem_cons_self ..
    rw [hexec]
    refine h _ world' hlocked ((hrely row.id hlocked).trans ?_)
    exact Option.not_isSome_iff_eq_none.mp htaken

/-- A new ticket and its first message. -/
theorem wpe_create (userId : Uuid) (subject message : String) (priority : TicketPriority)
    (ticketId : Uuid) (world : World) :
    wpe engine TicketRely (TicketService.create userId subject message priority ticketId)
      engine.start [] world (fun _ w held world => (∀ x ∈ w.pending, x.OfRequest ticketId) ∧
        ticketId ∈ held ∧ world.db.tickets.get ticketId = none) fun _ _ _ _ => True := by
  refine wpe_send_bind.mpr fun world₁ _ => wpe_insert_bind fun held world₂ hlocked hfree => ?_
  refine wpe_send_bind.mpr fun world₃ hrely => ⟨fun x hx => ?_, hlocked, ?_⟩
  · rcases List.mem_append.mp hx with hx | hx
    · cases List.mem_singleton.mp hx
      rfl
    · cases List.mem_singleton.mp hx
      exact ⟨rfl, fun h => nomatch h⟩
  · exact (hrely ticketId hlocked).trans hfree

/-- A ticket that a request has loaded is the one that it is about. -/
theorem wpe_getTicket {α : Type} {ticketId : Uuid} {f : Ticket → Tx α}
    {post : α → Session → List Uuid → World → Prop}
    (h : ∀ ticket world', ticket.id = ticketId →
      wpe engine TicketRely (f ticket) w held world' post fun _ _ _ _ => True) :
    wpe engine TicketRely
      (send (.getTicket ticketId) >>= fun row => Prog.orRaise TicketService.ticketNotFound row >>= f)
      w held world post fun _ _ _ _ => True := by
  refine wpe_send_bind.mpr fun world' _ => ?_
  refine wpe_orRaise_bind.mpr ⟨fun _ => trivial, fun ticket hticket => ?_⟩
  exact h ticket world' (Table.key_of_get hticket)

theorem wpe_addCustomerReply (ticketId : Uuid) (user : User) (body : String) (world : World) :
    wpe engine TicketRely (TicketService.addCustomerReply ticketId user body) engine.start []
      world (fun _ w _ _ => ∀ x ∈ w.pending, x.OfRequest ticketId) fun _ _ _ _ => True := by
  unfold TicketService.addCustomerReply TicketService.getForUser
  refine (wpe_bind ..).mpr (wpe_getTicket fun ticket world hid => ?_)
  subst hid
  refine wpe_if_raise.mpr ⟨fun _ => trivial, fun _ => ?_⟩
  refine wpe_if_raise.mpr ⟨fun _ => trivial, fun _ => ?_⟩
  refine wpe_if_raise.mpr ⟨fun _ => trivial, fun _ => ?_⟩
  have hrole : TicketMessageAuthorRole.customer ≠ .system := by decide
  exact wpe_of_request (uses_addReply _ _ hrole _ _)

theorem wpe_addSupportReply (ticketId : Uuid) (actor : User) (body : String) (world : World) :
    wpe engine TicketRely (TicketService.addSupportReply ticketId actor body) engine.start []
      world (fun _ w _ _ => ∀ x ∈ w.pending, x.OfRequest ticketId) fun _ _ _ _ => True := by
  refine wpe_getTicket fun ticket world hid => ?_
  subst hid
  refine wpe_if_raise.mpr ⟨fun _ => trivial, fun _ => ?_⟩
  have hrole : TicketMessageAuthorRole.support ≠ .system := by decide
  exact wpe_of_request (uses_addReply _ _ hrole _ _)

theorem wpe_changeStatus (ticketId : Uuid) (newStatus : TicketStatus) (world : World) :
    wpe engine TicketRely (TicketService.changeStatus ticketId newStatus) engine.start [] world
      (fun _ w _ _ => ∀ x ∈ w.pending, x.OfRequest ticketId) fun _ _ _ _ => True := by
  refine wpe_getTicket fun ticket world hid => ?_
  subst hid
  refine wpe_of_request ?_
  have hstatus : Stmt.OfRequest ticket.id (.write (.setStatus ticket.id newStatus)) := rfl
  refine (uses_assign _ _ hstatus).bind fun _ => ?_
  split
  · refine ⟨trivial, fun now => ?_⟩
    have hclosed : Stmt.OfRequest ticket.id (.write (.setClosedAt ticket.id (some now))) := rfl
    exact (uses_assign _ _ hclosed).bind fun _ => trivial
  · trivial

/-! ## The job -/

variable {order : RowOrder} {op : TicketOperation}

/-- The conditional update: it closes the ticket and keeps its row locked, or does nothing. -/
theorem wpe_closeIfWaiting_bind {α : Type} {ticketId : Uuid} {closedAt : DateTime}
    {f : Nat → Tx α} {post : α → Session → List Uuid → World → Prop}
    {failed : ShopError → Session → List Uuid → World → Prop} (hw : w.pending = [])
    (hskipped : ∀ held world, wpe engine TicketRely (f 0) w held world post failed)
    (hclosed : ∀ held world, ticketId ∈ held → world.db.waiting ticketId = true →
      wpe engine TicketRely (f 1)
        ⟨[.setStatus ticketId .closed, .setClosedAt ticketId (some closedAt)]⟩ held world post
        failed) :
    wpe engine TicketRely (send (.closeIfWaiting ticketId closedAt) >>= f) w held world post
      failed := by
  obtain ⟨pending⟩ := w
  subst hw
  refine wpe_send_bind.mpr fun world' hrely => ?_
  by_cases hwaiting : world.db.waiting ticketId = true
  · have hexec : Stmt.execIn (.closeIfWaiting ticketId closedAt) ⟨[]⟩ world =
        (1, ⟨[.setStatus ticketId .closed, .setClosedAt ticketId (some closedAt)]⟩) :=
      if_pos hwaiting
    have hneeds : Stmt.needs (.closeIfWaiting ticketId closedAt) ⟨[]⟩ world = [ticketId] :=
      if_pos hwaiting
    rw [hneeds] at hrely ⊢
    rw [hexec]
    have hlocked : ticketId ∈ [ticketId] ++ held := List.mem_cons_self ..
    refine hclosed _ world' hlocked ?_
    unfold Db.waiting
    rw [hrely ticketId hlocked]
    exact hwaiting
  · have hexec : Stmt.execIn (.closeIfWaiting ticketId closedAt) ⟨[]⟩ world = (0, ⟨[]⟩) :=
      if_neg hwaiting
    rw [hexec]
    exact hskipped _ world'

/-- From one commit of the job to the next. -/
theorem wpe_closeNext (hop : op = .autoClose order) (closedCount : Nat) (candidates : List Uuid)
    (hw : w.pending = []) :
    wpe engine TicketRely (closeNext closedCount candidates) w held world (Pending op)
      fun _ _ _ _ => True := by
  induction candidates generalizing held world with
  | nil => exact .idle order hop hw
  | cons ticketId candidates ih =>
    refine wpe_send_bind.mpr fun world₁ _ => wpe_closeIfWaiting_bind hw ?_ ?_
    · exact fun held world => ih
    · intro held world hlocked hwaiting
      refine wpe_send_bind.mpr fun world₂ hrely₂ => wpe_send_bind.mpr fun world₃ hrely₃ => ?_
      refine .closing order hop ticketId _ rfl hlocked ?_
      unfold Db.waiting
      rw [hrely₃ ticketId hlocked, hrely₂ ticketId hlocked]
      exact hwaiting

theorem wpe_autoCloseStaleTickets (hop : op = .autoClose order) (world : World) :
    wpe engine TicketRely (autoCloseStaleTickets order) engine.start [] world (Pending op)
      fun _ _ _ _ => True :=
  wpe_send_bind.mpr fun _ _ => wpe_send_bind.mpr fun _ _ => wpe_closeNext hop 0 _ rfl

/-- Every transaction ends in what is known of it. -/
theorem wpe_operation (op : TicketOperation) (world : World) :
    wpe engine TicketRely op.program engine.start [] world (Pending op)
      fun _ _ _ _ => True := by
  cases op with
  | create userId subject message priority id =>
    refine (wpe_bind ..).mpr (wpe_mono (wpe_create userId subject message priority id world) ?_
      fun _ _ _ _ h => h)
    exact fun row _ _ _ h => .request id rfl ⟨row, rfl⟩ h.1 fun _ => h.2
  | customerReply ticketId user body =>
    refine (wpe_bind ..).mpr (wpe_mono (wpe_addCustomerReply ticketId user body world) ?_
      fun _ _ _ _ h => h)
    exact fun row _ _ _ h => .request ticketId rfl ⟨row, rfl⟩ h fun hcreate => nomatch hcreate
  | supportReply ticketId actor body =>
    change wpe engine TicketRely (requirePermission .ticketRespond actor >>= _) ..
    rw [requirePermission_bind]
    refine wpe_if_raise.mpr ⟨fun _ => trivial, fun _ => ?_⟩
    refine (wpe_bind ..).mpr (wpe_mono (wpe_addSupportReply ticketId actor body world) ?_
      fun _ _ _ _ h => h)
    exact fun row _ _ _ h => .request ticketId rfl ⟨row, rfl⟩ h fun hcreate => nomatch hcreate
  | changeStatus ticketId newStatus =>
    refine (wpe_bind ..).mpr (wpe_mono (wpe_changeStatus ticketId newStatus world) ?_
      fun _ _ _ _ h => h)
    exact fun row _ _ _ h => .request ticketId rfl ⟨row, rfl⟩ h fun hcreate => nomatch hcreate
  | autoClose order => exact wpe_autoCloseStaleTickets rfl world

end Wp

/-! ## The proof outline -/

/-- A commit changes the rows that it locks. -/
theorem ticketRely_foldl {locks : List Uuid} {writes : List Write}
    (hlocks : ∀ id ∈ locks, id ∉ writes.filterMap Write.locks) (world : World) :
    TicketRely locks world { world with db := writes.foldl Write.apply world.db } := by
  intro id hid
  have hnot := hlocks id hid
  change (writes.foldl Write.apply world.db).tickets.get id = world.db.tickets.get id
  generalize world.db = db
  clear hlocks
  induction writes generalizing db with
  | nil => rfl
  | cons x rest ih =>
    have hx : x.locks ≠ some id := by
      intro hlock
      exact hnot (List.mem_filterMap.mpr ⟨x, List.mem_cons_self .., hlock⟩)
    have hrest : id ∉ rest.filterMap Write.locks := by
      intro hmem
      obtain ⟨y, hy, hlock⟩ := List.mem_filterMap.mp hmem
      exact hnot (List.mem_filterMap.mpr ⟨y, List.mem_cons_of_mem _ hy, hlock⟩)
    exact (ih hrest (x.apply db)).trans (Write.get_apply hx)

/-- Only a run of the job has candidates to come. -/
def JobsGoOn {ι : Type} (ops : ι → TicketOperation) (results : ι → Option Answer) : Prop :=
  ∀ i candidates closedCount, results i = some (.closed candidates closedCount) →
    ∃ order, ops i = .autoClose order

/-- The proof outline. -/
def ticketOutline {ι : Type} [DecidableEq ι] (ops : ι → TicketOperation)
    (cond : TicketSystem ι → Move ι Nat → Prop) : JobOutline engine autoClose cond where
  rely _ := TicketRely
  post i := Pending (ops i)
  inv _ := JobsGoOn ops
  rely_refl _ _ _ _ _ := rfl
  rely_trans _ _ _ _ _ h₁ h₂ id hid := (h₂ id hid).trans (h₁ id hid)
  post_stable _ _ _ _ _ _ h hworld := h.stable hworld
  commit_ok := by
    intro c i answer w held world' hi _ hinv hpost hcommit
    obtain ⟨-, rfl⟩ := engine_commit_ok hcommit
    refine ⟨?_, fun _ _ locks hlocks => ticketRely_foldl (fun id hid => (hlocks id hid).2) c.db⟩
    intro j candidates closedCount hj
    by_cases hji : j = i
    · subst hji
      have hanswer : answer = .closed candidates closedCount := by simpa using hj
      cases hpost with
      | request ticketId target ends writes new =>
        obtain ⟨row, rfl⟩ := ends
        cases hanswer
      | idle order job writes => exact ⟨order, job⟩
      | closing order job ticketId now writes locked waiting => exact ⟨order, job⟩
    · rw [Function.update_of_ne hji] at hj
      exact hinv j candidates closedCount hj
  resume_ok := by
    intro world results i answer p hinv hresult hnext
    constructor
    · intro j candidates closedCount hj
      by_cases hji : j = i
      · subst hji
        simp at hj
      · rw [Function.update_of_ne hji] at hj
        exact hinv j candidates closedCount hj
    · intro world' _
      cases answer with
      | ticket row => cases hnext
      | finished closedCount => cases hnext
      | closed candidates closedCount =>
        obtain ⟨order, hop⟩ := hinv i candidates closedCount hresult
        obtain rfl := Option.some.inj hnext
        exact (wpe_closeNext hop closedCount candidates rfl).wp
  outside_ok := by
    intro c elapsed _ hinv
    exact ⟨hinv, fun _ _ _ _ => rfl⟩

section Runs

variable {ι : Type} [DecidableEq ι] {ops : ι → TicketOperation}
  {cond : TicketSystem ι → Move ι Nat → Prop} {world : World} {c c' : TicketSystem ι}

theorem good_start : (ticketOutline ops cond).Good (TicketSystem.start world ops) := by
  refine Outline.good_start _ world _ ?_ fun i world' _ => (wpe_operation (ops i) world').wp
  exact fun i candidates closedCount h => nomatch h

/-- The tables change in commits only. -/
theorem db_of_move [Fintype ι] {m : Move ι Nat} (hgood : (ticketOutline ops cond).Good c)
    (hmove : c.move engine autoClose m = some c') :
    c'.db.db = c.db.db ∨ ∃ i answer w held, m = .event (.turn i) ∧
      c.clients i = .running (.done answer) w held ∧ Pending (ops i) answer w held c.db ∧
      c'.db.db = w.view c.db.db := by
  rcases Config.move_cases hmove with ⟨ev, rfl, hexec⟩ | ⟨i, answer, p, rfl, -, -, rfl⟩ |
    ⟨elapsed, rfl, rfl⟩
  · rcases Config.exec_cases hexec with ⟨i, s, next, w, held, rfl, -, -, rfl⟩ |
      ⟨i, answer, w, held, world', rfl, hi, -, hcommit, rfl⟩ | ⟨i, p, w, held, e, -, rfl⟩
    · exact Or.inl rfl
    · obtain ⟨-, rfl⟩ := engine_commit_ok hcommit
      have hpost := (ticketOutline ops cond).post_of_good hgood hi
      exact Or.inr ⟨i, answer, w, held, rfl, hi, hpost, rfl⟩
    · exact Or.inl rfl
  · exact Or.inl rfl
  · exact Or.inl rfl

end Runs

end Tickets

end ElectronicShop
