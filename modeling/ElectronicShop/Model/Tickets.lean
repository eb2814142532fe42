import ElectronicShop.Model.Accounts
import ElectronicShop.Txn.Jobs

/-!
# Support tickets

`TicketService` of `app/modules/tickets/service.py` and the job of `app/tasks/ticket_tasks.py`
that closes tickets nobody answers. Users are never deleted, so the foreign keys to them are
left out; what the endpoints read again for their response is, too.

A request loads its ticket once and without a lock. Its changes are sent at commit, but for
the insert of a new ticket. Its user is the one that `get_current_user` has answered. The job
sends conditional updates and commits after each one that has found its row.
-/

namespace ElectronicShop

namespace Tickets

open Txn

/-! ## Data -/

inductive TicketStatus where
  | open
  | waitingForSupport
  | waitingForCustomer
  | closed
  deriving DecidableEq, Repr

inductive TicketPriority where
  | low
  | normal
  | high
  | urgent
  deriving DecidableEq, Repr

inductive TicketMessageAuthorRole where
  | customer
  | support
  | system
  deriving DecidableEq, Repr

structure Ticket where
  id : Uuid
  userId : Uuid
  subject : String
  status : TicketStatus
  priority : TicketPriority
  closedAt : Option DateTime
  lastResponseAt : DateTime
  deriving DecidableEq, Repr

/-- The column types of `tickets`. -/
def Ticket.fits (t : Ticket) : Prop := fitsVarchar 255 t.subject

instance Ticket.decidableFits (t : Ticket) : Decidable t.fits :=
  inferInstanceAs (Decidable (fitsVarchar _ _))

structure TicketMessage where
  ticketId : Uuid
  authorId : Option Uuid
  authorRole : TicketMessageAuthorRole
  body : String
  createdAt : DateTime
  deriving DecidableEq, Repr

structure Db where
  tickets : Table Ticket.id
  messages : List TicketMessage
  auditLogs : List Accounts.AuditLog

/-- The constraints on the tickets and their messages. -/
structure Db.Constraints (db : Db) : Prop where
  tickets : ∀ t ∈ db.tickets.rows, t.fits
  bodies : ∀ m ∈ db.messages, fitsText m.body
  messages : ∀ m ∈ db.messages, (db.tickets.get m.ticketId).isSome
  auditLogs : ∀ e ∈ db.auditLogs, e.fits

theorem Db.constraints_iff (db : Db) : db.Constraints ↔
    (∀ t ∈ db.tickets.rows, t.fits) ∧ (∀ m ∈ db.messages, fitsText m.body) ∧
    (∀ m ∈ db.messages, (db.tickets.get m.ticketId).isSome) ∧ ∀ e ∈ db.auditLogs, e.fits := by
  constructor
  · rintro ⟨h₁, h₂, h₃, h₄⟩
    exact ⟨h₁, h₂, h₃, h₄⟩
  · rintro ⟨h₁, h₂, h₃, h₄⟩
    exact ⟨h₁, h₂, h₃, h₄⟩

instance Db.decidableConstraints (db : Db) : Decidable db.Constraints :=
  decidable_of_iff _ db.constraints_iff.symm

/-- The committed database, and what the clock shows. -/
structure World where
  db : Db
  clock : DateTime

/-! ## Statements -/

/-- One `INSERT`, or one `UPDATE` of a column. -/
inductive Write where
  | addTicket (row : Ticket)
  | addMessage (row : TicketMessage)
  | addAuditLog (entry : Accounts.AuditLog)
  | setStatus (id : Uuid) (status : TicketStatus)
  | setLastResponseAt (id : Uuid) (lastResponseAt : DateTime)
  | setClosedAt (id : Uuid) (closedAt : Option DateTime)
  deriving DecidableEq, Repr

def Write.apply (db : Db) : Write → Db
  | .addTicket row => { db with tickets := db.tickets.put row }
  | .addMessage row => { db with messages := db.messages ++ [row] }
  | .addAuditLog entry => { db with auditLogs := db.auditLogs ++ [entry] }
  | .setStatus id status =>
    { db with tickets := db.tickets.modify id fun t => { t with status } }
  | .setLastResponseAt id lastResponseAt =>
    { db with tickets := db.tickets.modify id fun t => { t with lastResponseAt } }
  | .setClosedAt id closedAt =>
    { db with tickets := db.tickets.modify id fun t => { t with closedAt } }

/-- The row a write locks; a message or a log row is new, and nobody else can write it. -/
def Write.locks : Write → Option Uuid
  | .addTicket row => some row.id
  | .setStatus id _ => some id
  | .setLastResponseAt id _ => some id
  | .setClosedAt id _ => some id
  | .addMessage _ => none
  | .addAuditLog _ => none

/-- The order in which the rows of a query without `ORDER BY` come. -/
structure RowOrder where
  arrange : List Uuid → List Uuid
  perm : ∀ ids, (arrange ids).Perm ids

/-- As they are stored. -/
def RowOrder.stored : RowOrder := ⟨id, fun _ => .rfl⟩

inductive Stmt where
  /-- `datetime.now(UTC)`. -/
  | now
  /-- `get_by_id`. -/
  | getTicket (id : Uuid)
  /-- The candidates of the job. -/
  | selectStale (cutoff : DateTime) (order : RowOrder)
  /-- `UPDATE … SET status, closed_at WHERE id = … AND status = 'waiting_for_customer'`,
      answered with its `rowcount`. -/
  | closeIfWaiting (id : Uuid) (closedAt : DateTime)
  /-- `session.add` of a new ticket and its flush, answered with whether the primary key was
      free. -/
  | insert (row : Ticket)
  /-- Another change, left to the unit of work. -/
  | write (x : Write)

@[reducible] def Stmt.Resp : Stmt → Type
  | .now => DateTime
  | .getTicket _ => Option Ticket
  | .selectStale _ _ => List Uuid
  | .closeIfWaiting _ _ => Nat
  | .insert _ => Bool
  | .write _ => Unit

abbrev tickets : Interface := ⟨Stmt, Stmt.Resp⟩

abbrev Tx (α : Type) : Type := Prog tickets ShopError α

def send (s : Stmt) : Tx s.Resp := Prog.send (I := tickets) s

def write (x : Write) : Tx Unit := send (.write x)

/-- Add a row and flush it. -/
def insert (row : Ticket) : Tx Unit := do
  match ← send (.insert row) with
  | true => pure ()
  | false => .raise .database

/-- Setting a column of a loaded row: nothing is sent for the value that it has. -/
def assign {α : Type} [DecidableEq α] (old new : α) (x : Write) : Tx Unit :=
  if new = old then pure () else write x

def notPermitted : ShopError := .permissionDenied "شما اجازه دسترسی به این بخش را ندارید."

/-- `require_permission`. -/
def requirePermission (permission : Permission) (user : User) : Tx Unit :=
  if roleHasPermission user.role permission = false then .raise notPermitted else pure ()

theorem requirePermission_bind {α : Type} (permission : Permission) (user : User)
    (f : Unit → Tx α) :
    (requirePermission permission user >>= f) =
      if roleHasPermission user.role permission = false then .raise notPermitted else f () := by
  unfold requirePermission
  split <;> rfl

/-! ## The service -/

namespace TicketService

/-- `_SUPPORT_ROLES`. -/
def supportRoles : List UserRole := [.support, .admin, .superAdmin]

def ticketNotFound : ShopError := .notFound "تیکت پیدا نشد."

def ticketClosed : ShopError :=
  .conflict "این تیکت بسته شده است و امکان ارسال پیام جدید وجود ندارد."

/-- The row of a new ticket. -/
def newTicket (userId : Uuid) (subject : String) (priority : TicketPriority) (now : DateTime)
    (id : Uuid) : Ticket where
  id := id
  userId := userId
  subject := subject
  status := .waitingForSupport
  priority := priority
  closedAt := none
  lastResponseAt := now

def create (userId : Uuid) (subject message : String) (priority : TicketPriority) (id : Uuid) :
    Tx Ticket := do
  let now ← send .now
  insert (newTicket userId subject priority now id)
  write (.addMessage
    { ticketId := id, authorId := some userId, authorRole := .customer, body := message,
      createdAt := now })
  pure (newTicket userId subject priority now id)

def getForUser (ticketId : Uuid) (user : User) : Tx Ticket := do
  let ticket ← Prog.orRaise ticketNotFound (← send (.getTicket ticketId))
  if ticket.userId ≠ user.id ∧ user.role ∉ supportRoles then
    .raise (.permissionDenied "شما اجازه دسترسی به این تیکت را ندارید.")
  else pure ticket

/-- The second half of both kinds of reply: a message, and what it says about who is to
    answer next. -/
def addReply (ticket : Ticket) (author : Uuid) (authorRole : TicketMessageAuthorRole)
    (body : String) (status : TicketStatus) : Tx Ticket := do
  let now ← send .now
  write (.addMessage
    { ticketId := ticket.id, authorId := some author, authorRole, body, createdAt := now })
  assign ticket.status status (.setStatus ticket.id status)
  assign ticket.lastResponseAt now (.setLastResponseAt ticket.id now)
  pure { ticket with status, lastResponseAt := now }

def addCustomerReply (ticketId : Uuid) (user : User) (body : String) : Tx Ticket := do
  let ticket ← getForUser ticketId user
  if ticket.userId ≠ user.id then
    .raise (.permissionDenied "فقط صاحب تیکت می‌تواند پاسخ مشتری ثبت کند.")
  else if ticket.status = .closed then .raise ticketClosed
  else addReply ticket user.id .customer body .waitingForSupport

def addSupportReply (ticketId : Uuid) (actor : User) (body : String) : Tx Ticket := do
  let ticket ← Prog.orRaise ticketNotFound (← send (.getTicket ticketId))
  if ticket.status = .closed then .raise ticketClosed
  else addReply ticket actor.id .support body .waitingForCustomer

def changeStatus (ticketId : Uuid) (newStatus : TicketStatus) : Tx Ticket := do
  let ticket ← Prog.orRaise ticketNotFound (← send (.getTicket ticketId))
  assign ticket.status newStatus (.setStatus ticket.id newStatus)
  if newStatus = .closed then do
    let now ← send .now
    assign ticket.closedAt (some now) (.setClosedAt ticket.id (some now))
    pure { ticket with status := newStatus, closedAt := some now }
  else pure { ticket with status := newStatus }

end TicketService

/-! ## The job -/

/-- `STALE_AFTER`: 24 hours. -/
def staleAfter : DateTime := 24 * 60 * 60 * 1000000

/-- `BATCH_SIZE`. -/
def batchSize : Nat := 100

/-- `AUTO_CLOSE_NOTE`. -/
def autoCloseNote : String :=
  "این تیکت به دلیل عدم پاسخ مشتری طی ۲۴ ساعت گذشته به‌صورت خودکار بسته شد."

/-- The message that the job leaves in a ticket. -/
def autoCloseMessage (ticketId : Uuid) (now : DateTime) : TicketMessage where
  ticketId := ticketId
  authorId := none
  authorRole := .system
  body := autoCloseNote
  createdAt := now

/-- The log row that the job writes. -/
def autoCloseEntry (ticketId : Uuid) : Accounts.AuditLog where
  actorId := none
  action := "ticket.auto_closed"
  resourceType := "ticket"
  resourceId := some ticketId
  metadata := some [("reason", "waiting_for_customer_timeout")]
  ipAddress := none

/-- What a transaction here ends with: the answer to a request, or where the job is. -/
inductive Answer where
  | ticket (row : Ticket)
  /-- A ticket is closed; there are candidates to come. -/
  | closed (candidates : List Uuid) (closedCount : Nat)
  | finished (closedCount : Nat)
  deriving DecidableEq, Repr

/-- The loop of the job up to its next commit. At the end the session is left with nothing to
    write. -/
def closeNext (closedCount : Nat) : List Uuid → Tx Answer
  | [] => pure (.finished closedCount)
  | ticketId :: candidates => do
    let now ← send .now
    let rowcount ← send (.closeIfWaiting ticketId now)
    if rowcount ≠ 1 then closeNext closedCount candidates
    else do
      write (.addMessage (autoCloseMessage ticketId now))
      write (.addAuditLog (autoCloseEntry ticketId))
      pure (.closed candidates (closedCount + 1))

/-- `_auto_close_stale_tickets`, up to its first commit. -/
def autoCloseStaleTickets (order : RowOrder) : Tx Answer := do
  let now ← send .now
  let candidates ← send (.selectStale (now - staleAfter) order)
  closeNext 0 candidates

/-- How the job goes on after a commit. -/
def Answer.next : Answer → Option (Tx Answer)
  | .closed candidates closedCount => some (closeNext closedCount candidates)
  | .ticket _ => none
  | .finished _ => none

/-- The job, and the clock. -/
def autoClose : Jobs tickets ShopError Answer World Nat where
  next := Answer.next
  outside elapsed world := { world with clock := world.clock + elapsed }

/-! ## Sessions -/

/-- No transaction here queries a ticket twice, so of a session only its changes are kept. -/
structure Session where
  pending : List Write

namespace Session

/-- The database as the transaction sees it. -/
def view (w : Session) (db : Db) : Db := w.pending.foldl Write.apply db

/-- Make a change. -/
def send (w : Session) (x : Write) : Session := { w with pending := w.pending ++ [x] }

end Session

/-- Whether a ticket waits for the customer. -/
def Db.waiting (db : Db) (id : Uuid) : Bool :=
  (db.tickets.get id).any fun t => t.status = .waitingForCustomer

/-- The tickets that wait for the customer since before `cutoff`. -/
def Db.stale (db : Db) (cutoff : DateTime) : List Uuid :=
  (db.tickets.rows.filter fun t =>
    t.status = .waitingForCustomer ∧ t.lastResponseAt < cutoff).map Ticket.id

def Stmt.execIn : (s : Stmt) → Session → World → s.Resp × Session
  | .now, w, world => (world.clock, w)
  | .getTicket id, w, world => ((w.view world.db).tickets.get id, w)
  | .selectStale cutoff order, w, world =>
    ((order.arrange ((w.view world.db).stale cutoff)).take batchSize, w)
  | .closeIfWaiting id closedAt, w, world =>
    if (w.view world.db).waiting id then
      (1, (w.send (.setStatus id .closed)).send (.setClosedAt id (some closedAt)))
    else (0, w)
  | .insert row, w, world =>
    if ((w.view world.db).tickets.get row.id).isSome then (false, w)
    else (true, w.send (.addTicket row))
  | .write x, w, _ => ((), w.send x)

/-- The locks a statement has to be granted: of the rows it writes. -/
def Stmt.needs : Stmt → Session → World → List Uuid
  | .closeIfWaiting id _, w, world => if (w.view world.db).waiting id then [id] else []
  | .insert row, w, _ => row.id :: w.pending.filterMap Write.locks
  | _, _, _ => []

/-- The tickets under concurrent transactions. -/
def engine : Engine tickets ShopError World Session Uuid where
  start := ⟨[]⟩
  need := Stmt.needs
  exec := Stmt.execIn
  needCommit w := w.pending.filterMap Write.locks
  commit w world :=
    if (w.view world.db).Constraints then .ok { world with db := w.view world.db }
    else .error .database

theorem engine_commit_ok {w : Session} {world world' : World}
    (h : engine.commit w world = .ok world') :
    (w.view world.db).Constraints ∧ world' = { world with db := w.view world.db } := by
  change (if (w.view world.db).Constraints then
    Except.ok (ε := ShopError) { world with db := w.view world.db } else .error .database) =
      .ok world' at h
  split at h
  · rename_i hvalid
    cases h
    exact ⟨hvalid, rfl⟩
  · cases h

/-! ## Requests and runs of the job -/

inductive TicketOperation where
  | create (userId : Uuid) (subject message : String) (priority : TicketPriority) (id : Uuid)
  | customerReply (ticketId : Uuid) (user : User) (body : String)
  | supportReply (ticketId : Uuid) (actor : User) (body : String)
  | changeStatus (ticketId : Uuid) (newStatus : TicketStatus)
  | autoClose (order : RowOrder)

/-- The transaction of a request, or the first one of a run of the job. -/
def TicketOperation.program : TicketOperation → Tx Answer
  | .create userId subject message priority id => do
    let row ← TicketService.create userId subject message priority id
    pure (.ticket row)
  | .customerReply ticketId user body => do
    let row ← TicketService.addCustomerReply ticketId user body
    pure (.ticket row)
  | .supportReply ticketId actor body => do
    requirePermission .ticketRespond actor
    let row ← TicketService.addSupportReply ticketId actor body
    pure (.ticket row)
  | .changeStatus ticketId newStatus => do
    let row ← TicketService.changeStatus ticketId newStatus
    pure (.ticket row)
  | .autoClose order => autoCloseStaleTickets order

abbrev TicketSystem (ι : Type) : Type := Config tickets ShopError Answer World Session Uuid ι

/-- All of them are about to begin. -/
def TicketSystem.start {ι : Type} (world : World) (ops : ι → TicketOperation) :
    TicketSystem ι where
  db := world
  clients i := .running ((ops i).program) engine.start []

end Tickets

end ElectronicShop
