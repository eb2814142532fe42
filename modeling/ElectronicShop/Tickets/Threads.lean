import Mathlib.Data.Finset.Insert
import Mathlib.Data.Finset.Filter
import Mathlib.Data.Fintype.Defs
import Mathlib.Data.Multiset.Filter
import ElectronicShop.Tickets.AutoClose

/-!
# Ticket threads

A thread is the list of the messages of a ticket. `CommitStep` says what a commit does to the
tickets and to the messages, whichever transaction it ends: it appends messages, and changes
columns of rows in a way that the new messages account for. Two properties of every run follow.
The threads stay sound, whoever interferes with whom, and the messages that people have written
are those of the requests that were committed, each of them once.
-/

namespace ElectronicShop

namespace Tickets

open Txn

/-! ## What a message says -/

/-- A message without the time. -/
structure Content where
  ticketId : Uuid
  authorId : Option Uuid
  authorRole : TicketMessageAuthorRole
  body : String
  deriving DecidableEq, Repr

def TicketMessage.content (m : TicketMessage) : Content :=
  ⟨m.ticketId, m.authorId, m.authorRole, m.body⟩

/-- The message of a request. -/
def TicketOperation.message : TicketOperation → Option Content
  | .create userId _ message _ id => some ⟨id, some userId, .customer, message⟩
  | .customerReply ticketId user body => some ⟨ticketId, some user.id, .customer, body⟩
  | .supportReply ticketId actor body => some ⟨ticketId, some actor.id, .support, body⟩
  | .changeStatus _ _ => none
  | .autoClose _ => none

/-- What people have written, in all tickets. -/
def written (messages : List TicketMessage) : List Content :=
  (messages.filter fun m => m.authorRole ≠ .system).map TicketMessage.content

theorem written_append (ms new : List TicketMessage) :
    written (ms ++ new) = written ms ++ written new := by
  simp [written]

/-- A customer writes in a ticket of their own, an agent is one of the staff, and the system says
    that the ticket is closed. -/
def TicketMessage.Genuine (staff : Uuid → Prop) (m : TicketMessage) (t : Ticket) : Prop :=
  match m.authorRole with
  | .customer => m.authorId = some t.userId
  | .support => ∃ author, m.authorId = some author ∧ staff author
  | .system => m.authorId = none ∧ m.body = autoCloseNote

/-! ## What a commit does -/

/-- The columns of a ticket that never change. -/
structure Ticket.Keeps (t t' : Ticket) : Prop where
  userId : t'.userId = t.userId
  subject : t'.subject = t.subject
  priority : t'.priority = t.priority
  closedAt : t.closedAt.isSome → t'.closedAt.isSome

theorem Ticket.Keeps.refl (t : Ticket) : t.Keeps t := ⟨rfl, rfl, rfl, fun h => h⟩

theorem Ticket.Keeps.trans {t₁ t₂ t₃ : Ticket} (h₁ : t₁.Keeps t₂) (h₂ : t₂.Keeps t₃) :
    t₁.Keeps t₃ where
  userId := h₂.userId.trans h₁.userId
  subject := h₂.subject.trans h₁.subject
  priority := h₂.priority.trans h₁.priority
  closedAt h := h₂.closedAt (h₁.closedAt h)

/-- A ticket before and after a commit that adds the messages `new`. -/
inductive RowStep (new : List TicketMessage) (id : Uuid) :
    Option Ticket → Option Ticket → Prop where
  | absent : RowStep new id none none
  /-- A new ticket comes with the first message. -/
  | opened (t : Ticket) (m : TicketMessage) (notClosed : t.status ≠ .closed)
      (first : (new.filter fun m => m.ticketId = id).head? = some m)
      (customer : m.authorRole = .customer) (time : m.createdAt = t.lastResponseAt) :
      RowStep new id none (some t)
  | updated (t t' : Ticket) (keeps : t.Keeps t')
      (closing : t'.status = .closed → t.status = .closed ∨ t'.closedAt.isSome)
      (time : t'.lastResponseAt = t.lastResponseAt ∨ ∃ m ∈ new, m.ticketId = id ∧
        m.authorRole ≠ .system ∧ m.createdAt = t'.lastResponseAt) :
      RowStep new id (some t) (some t')

/-- The tables before and after a commit. -/
structure CommitStep (staff : Uuid → Prop) (world : World) (db' : Db)
    (new : List TicketMessage) : Prop where
  messages : db'.messages = world.db.messages ++ new
  rows : ∀ id, RowStep new id (world.db.tickets.get id) (db'.tickets.get id)
  genuine : ∀ m ∈ new, m.createdAt ≤ world.clock ∧
    ∃ t, db'.tickets.get m.ticketId = some t ∧ m.Genuine staff t

/-- What can happen while a transaction is running: the rows that it has locked stay, tickets are
    not lost and keep their owners, messages are appended and the clock goes on. -/
structure Evolves (world world' : World) : Prop where
  tickets : ∀ id t, world.db.tickets.get id = some t →
    ∃ t', world'.db.tickets.get id = some t' ∧ t.Keeps t'
  messages : ∃ new, world'.db.messages = world.db.messages ++ new
  clock : world.clock ≤ world'.clock

theorem Evolves.refl (world : World) : Evolves world world :=
  ⟨fun _ t h => ⟨t, h, .refl t⟩, ⟨[], (List.append_nil _).symm⟩, le_refl _⟩

theorem Evolves.trans {world₁ world₂ world₃ : World} (h₁ : Evolves world₁ world₂)
    (h₂ : Evolves world₂ world₃) : Evolves world₁ world₃ := by
  refine ⟨fun id t h => ?_, ?_, h₁.clock.trans h₂.clock⟩
  · obtain ⟨t', ht', hkeeps⟩ := h₁.tickets id t h
    obtain ⟨t'', ht'', hkeeps'⟩ := h₂.tickets id t' ht'
    exact ⟨t'', ht'', hkeeps.trans hkeeps'⟩
  · obtain ⟨new, hnew⟩ := h₁.messages
    obtain ⟨new', hnew'⟩ := h₂.messages
    exact ⟨new ++ new', by rw [hnew', hnew, List.append_assoc]⟩

theorem CommitStep.evolves {staff : Uuid → Prop} {world : World} {db' : Db}
    {new : List TicketMessage} (h : CommitStep staff world db' new) :
    Evolves world { world with db := db' } := by
  refine ⟨fun id t ht => ?_, ⟨new, h.messages⟩, le_refl _⟩
  have hrow := h.rows id
  rw [ht] at hrow
  generalize db'.tickets.get id = row' at hrow ⊢
  cases hrow with
  | updated _ t' keeps closing time => exact ⟨t', rfl, keeps⟩

/-! ## Sound threads -/

/-- Every message is genuine and not from the future, and its text fits. Every thread begins with
    a message of a customer, a closed ticket has the time it was closed at, and the last response
    is that of one of the messages that people have written. -/
structure Sound (staff : Uuid → Prop) (world : World) : Prop where
  genuine : ∀ m ∈ world.db.messages,
    ∃ t, world.db.tickets.get m.ticketId = some t ∧ m.Genuine staff t
  texts : ∀ m ∈ world.db.messages, fitsText m.body
  past : ∀ m ∈ world.db.messages, m.createdAt ≤ world.clock
  first : ∀ id t, world.db.tickets.get id = some t →
    ∃ m, (world.db.messagesOf id).head? = some m ∧ m.authorRole = .customer
  closed : ∀ id t, world.db.tickets.get id = some t → t.status = .closed → t.closedAt.isSome
  lastResponse : ∀ id t, world.db.tickets.get id = some t → ∃ m ∈ world.db.messages,
    m.ticketId = id ∧ m.authorRole ≠ .system ∧ m.createdAt = t.lastResponseAt

section Soundness

variable {staff : Uuid → Prop}

theorem TicketMessage.Genuine.keeps {m : TicketMessage} {t t' : Ticket} (h : m.Genuine staff t)
    (hkeeps : t.Keeps t') : m.Genuine staff t' := by
  unfold TicketMessage.Genuine at h ⊢
  cases hrole : m.authorRole with
  | customer =>
    simp only [hrole] at h ⊢
    rw [hkeeps.userId]
    exact h
  | support => simpa only [hrole] using h
  | system => simpa only [hrole] using h

theorem Db.messagesOf_append {db db' : Db} {new : List TicketMessage}
    (h : db'.messages = db.messages ++ new) (id : Uuid) :
    db'.messagesOf id = db.messagesOf id ++ new.filter fun m => m.ticketId = id := by
  rw [messagesOf, h, List.filter_append, messagesOf]

/-- A ticket that is not there has no messages. -/
theorem Sound.messagesOf_eq_nil {world : World} (h : Sound staff world) {id : Uuid}
    (hnone : world.db.tickets.get id = none) : world.db.messagesOf id = [] := by
  refine List.filter_eq_nil_iff.mpr fun m hm => ?_
  obtain ⟨t, ht, -⟩ := h.genuine m hm
  simp only [decide_eq_true_eq]
  rintro rfl
  rw [hnone] at ht
  cases ht

/-- Every commit keeps the threads sound. -/
theorem Sound.commit {world : World} {db' : Db} {new : List TicketMessage}
    (h : Sound staff world) (hstep : CommitStep staff world db' new)
    (htexts : ∀ m ∈ db'.messages, fitsText m.body) : Sound staff { world with db := db' } := by
  have hold : ∀ m ∈ world.db.messages, m ∈ db'.messages := by
    intro m hm
    rw [hstep.messages]
    exact List.mem_append_left _ hm
  have hadded : ∀ m ∈ new, m ∈ db'.messages := by
    intro m hm
    rw [hstep.messages]
    exact List.mem_append_right _ hm
  have hrows : ∀ id t', db'.tickets.get id = some t' →
      (∃ m, (db'.messagesOf id).head? = some m ∧ m.authorRole = .customer) ∧
      (t'.status = .closed → t'.closedAt.isSome) ∧
      ∃ m ∈ db'.messages, m.ticketId = id ∧ m.authorRole ≠ .system ∧
        m.createdAt = t'.lastResponseAt := by
    intro id t' ht'
    have hrow := hstep.rows id
    have hmessages := Db.messagesOf_append hstep.messages id
    rw [ht'] at hrow
    generalize hget : world.db.tickets.get id = row at hrow
    cases hrow with
    | opened _ m notClosed first customer time =>
      rw [h.messagesOf_eq_nil hget, List.nil_append] at hmessages
      have hm := List.mem_filter.mp (List.mem_of_mem_head? first)
      have hfirst : (db'.messagesOf id).head? = some m := by
        rw [hmessages]
        exact first
      refine ⟨⟨m, hfirst, customer⟩, fun hclosed => absurd hclosed notClosed, m, hadded m hm.1,
        by simpa using hm.2, ?_, time⟩
      rw [customer]
      decide
    | updated t _ keeps closing time =>
      refine ⟨?_, fun hclosed => ?_, ?_⟩
      · obtain ⟨m, hfirst, hcustomer⟩ := h.first id t hget
        refine ⟨m, ?_, hcustomer⟩
        rw [hmessages, List.head?_append, hfirst, Option.some_or]
      · rcases closing hclosed with hbefore | hsome
        · exact keeps.closedAt (h.closed id t hget hbefore)
        · exact hsome
      · rcases time with hsame | ⟨m, hm, hid, hrole, htime⟩
        · obtain ⟨m, hm, hid, hrole, htime⟩ := h.lastResponse id t hget
          exact ⟨m, hold m hm, hid, hrole, htime.trans hsame.symm⟩
        · exact ⟨m, hadded m hm, hid, hrole, htime⟩
  refine ⟨fun m hm => ?_, htexts, fun m hm => ?_, fun id t' ht' => (hrows id t' ht').1,
    fun id t' ht' => (hrows id t' ht').2.1, fun id t' ht' => (hrows id t' ht').2.2⟩
  · rw [hstep.messages, List.mem_append] at hm
    rcases hm with hm | hm
    · obtain ⟨t, ht, hgenuine⟩ := h.genuine m hm
      obtain ⟨t', ht', hkeeps⟩ := hstep.evolves.tickets _ t ht
      exact ⟨t', ht', hgenuine.keeps hkeeps⟩
    · exact (hstep.genuine m hm).2
  · rw [hstep.messages, List.mem_append] at hm
    exact hm.elim (h.past m) fun hm => (hstep.genuine m hm).1

end Soundness

/-! ## What is known of a transaction -/

/-- What a transaction can rely on. -/
def ThreadRely (locks : List Uuid) (world world' : World) : Prop :=
  TicketRely locks world world' ∧ Evolves world world'

/-- The update of one column, which is not sent for the value that the row has. -/
def SentOrNot (x : Write) (writes : List Write) : Prop := writes = [] ∨ writes = [x]

/-- What a transaction is about to commit, write by write. -/
inductive Draft (staff : Uuid → Prop) (op : TicketOperation) (answer : Answer) (w : Session)
    (held : List Uuid) (world : World) : Prop where
  | created (userId : Uuid) (subject message : String) (priority : TicketPriority) (id : Uuid)
      (now : DateTime) (request : op = .create userId subject message priority id)
      (ends : ∃ row, answer = .ticket row)
      (writes : w.pending = [.addTicket (TicketService.newTicket userId subject priority now id),
        .addMessage ⟨id, some userId, .customer, message, now⟩])
      (locked : id ∈ held) (free : world.db.tickets.get id = none) (past : now ≤ world.clock)
  | replied (m : TicketMessage) (status : TicketStatus) (statusWrites timeWrites : List Write)
      (content : op.message = some m.content) (person : m.authorRole ≠ .system)
      (open_ : status ≠ .closed) (ends : ∃ row, answer = .ticket row)
      (writes : w.pending = .addMessage m :: (statusWrites ++ timeWrites))
      (statusSent : SentOrNot (.setStatus m.ticketId status) statusWrites)
      (timeSent : SentOrNot (.setLastResponseAt m.ticketId m.createdAt) timeWrites)
      (genuine : ∃ t, world.db.tickets.get m.ticketId = some t ∧ m.Genuine staff t)
      (past : m.createdAt ≤ world.clock)
  | changed (ticketId : Uuid) (status : TicketStatus) (now : DateTime)
      (statusWrites timeWrites : List Write) (silent : op.message = none)
      (ends : ∃ row, answer = .ticket row) (writes : w.pending = statusWrites ++ timeWrites)
      (statusSent : SentOrNot (.setStatus ticketId status) statusWrites)
      (timeSent : SentOrNot (.setClosedAt ticketId (some now)) timeWrites)
      (found : ∃ t, world.db.tickets.get ticketId = some t ∧
        (status = .closed → timeWrites = [] → t.closedAt.isSome))
  | idle (order : RowOrder) (job : op = .autoClose order) (writes : w.pending = [])
  | closing (order : RowOrder) (job : op = .autoClose order) (ticketId : Uuid) (now : DateTime)
      (writes : w.pending = closingWrites ticketId now) (locked : ticketId ∈ held)
      (waiting : world.db.waiting ticketId = true) (past : now ≤ world.clock)

theorem Draft.stable {staff : Uuid → Prop} {op : TicketOperation} {answer : Answer} {w : Session}
    {held : List Uuid} {world world' : World} (h : Draft staff op answer w held world)
    (hrely : ThreadRely held world world') : Draft staff op answer w held world' := by
  obtain ⟨hlocked, hevolves⟩ := hrely
  cases h with
  | created userId subject message priority id now request ends writes locked free past =>
    exact .created userId subject message priority id now request ends writes locked
      ((hlocked id locked).trans free) (past.trans hevolves.clock)
  | replied m status statusWrites timeWrites content person open_ ends writes statusSent timeSent
      genuine past =>
    obtain ⟨t, ht, hgenuine⟩ := genuine
    obtain ⟨t', ht', hkeeps⟩ := hevolves.tickets _ t ht
    exact .replied m status statusWrites timeWrites content person open_ ends writes statusSent
      timeSent ⟨t', ht', hgenuine.keeps hkeeps⟩ (past.trans hevolves.clock)
  | changed ticketId status now statusWrites timeWrites silent ends writes statusSent timeSent
      found =>
    obtain ⟨t, ht, hclosed⟩ := found
    obtain ⟨t', ht', hkeeps⟩ := hevolves.tickets _ t ht
    exact .changed ticketId status now statusWrites timeWrites silent ends writes statusSent
      timeSent ⟨t', ht', fun hstatus hnone => hkeeps.closedAt (hclosed hstatus hnone)⟩
  | idle order job writes => exact .idle order job writes
  | closing order job ticketId now writes locked waiting past =>
    refine .closing order job ticketId now writes locked ?_ (past.trans hevolves.clock)
    unfold Db.waiting
    rw [hlocked ticketId locked]
    exact waiting

/-! ## From drafts to steps -/

/-- A row that nobody has written. -/
theorem RowStep.same (new : List TicketMessage) (id : Uuid) (row : Option Ticket) :
    RowStep new id row row := by
  cases row with
  | none => exact .absent
  | some t => exact .updated t t (.refl t) Or.inl (Or.inl rfl)

/-- The rows of a step that changes one ticket. -/
theorem rowSteps_of_one {db db' : Db} {new : List TicketMessage} (id : Uuid)
    (hothers : ∀ id', id' ≠ id → db'.tickets.get id' = db.tickets.get id')
    (hrow : RowStep new id (db.tickets.get id) (db'.tickets.get id)) (id' : Uuid) :
    RowStep new id' (db.tickets.get id') (db'.tickets.get id') := by
  by_cases hid : id' = id
  · subst hid
    exact hrow
  · rw [hothers id' hid]
    exact .same ..

/-- An update of a column that is sent, or not. -/
theorem SentOrNot.apply {x : Write} {writes : List Write} (h : SentOrNot x writes) {id : Uuid}
    {f : Ticket → Ticket} (hf : ∀ t, (f t).id = t.id)
    (hx : ∀ db, x.apply db = { db with tickets := db.tickets.modify id f }) (db : Db) {t : Ticket}
    (hget : db.tickets.get id = some t) :
    (writes.foldl Write.apply db).messages = db.messages ∧
    (∀ id', id' ≠ id → (writes.foldl Write.apply db).tickets.get id' = db.tickets.get id') ∧
    ((writes.foldl Write.apply db).tickets.get id = some t ∧ writes = [] ∨
      (writes.foldl Write.apply db).tickets.get id = some (f t) ∧ writes = [x]) := by
  rcases h with rfl | rfl
  · exact ⟨rfl, fun _ _ => rfl, Or.inl ⟨hget, rfl⟩⟩
  · simp only [List.foldl_cons, List.foldl_nil, hx]
    refine ⟨trivial, fun id' hid => ?_, Or.inr ⟨?_, trivial⟩⟩
    · rw [Table.get_modify _ _ _ hf, if_neg hid]
    · rw [Table.get_modify _ _ _ hf, if_pos rfl, hget, Option.map_some]

/-- What is committed is a step, and its messages are what the request says. -/
theorem Draft.step {staff : Uuid → Prop} {op : TicketOperation} {answer : Answer} {w : Session}
    {held : List Uuid} {world : World} (h : Draft staff op answer w held world) :
    ∃ new, CommitStep staff world (w.view world.db) new ∧ written new = op.message.toList := by
  cases h with
  | created userId subject message priority id now request ends writes locked free past =>
    subst request
    let row := TicketService.newTicket userId subject priority now id
    let m : TicketMessage := ⟨id, some userId, .customer, message, now⟩
    have hview : w.view world.db =
        { world.db with
          tickets := world.db.tickets.put row, messages := world.db.messages ++ [m] } := by
      unfold Session.view
      rw [writes]
      rfl
    have hget : (world.db.tickets.put row).get id = some row :=
      Table.get_put_self world.db.tickets row
    rw [hview]
    refine ⟨[m], ⟨rfl, rowSteps_of_one id (fun id' hid => ?_) ?_, fun m' hm' => ?_⟩, rfl⟩
    · exact Table.get_put_of_ne world.db.tickets hid
    · rw [free, hget]
      exact .opened row m (fun h => TicketStatus.noConfusion h) (by simp [m]) rfl rfl
    · cases List.mem_singleton.mp hm'
      exact ⟨past, row, hget, rfl⟩
  | replied m status statusWrites timeWrites content person open_ ends writes statusSent timeSent
      genuine past =>
    obtain ⟨t, ht, hgenuine⟩ := genuine
    obtain ⟨hmessages, hothers, hrow⟩ := statusSent.apply (f := fun t => { t with status })
      (fun _ => rfl) (fun _ => rfl) ((Write.addMessage m).apply world.db) ht
    have hview : w.view world.db = timeWrites.foldl Write.apply
        (statusWrites.foldl Write.apply ((Write.addMessage m).apply world.db)) := by
      unfold Session.view
      rw [writes, List.foldl_cons, List.foldl_append]
    generalize statusWrites.foldl Write.apply ((Write.addMessage m).apply world.db) = db₁ at *
    obtain ⟨t₁, ht₁, hkeeps, hstatus, htime⟩ : ∃ t₁, db₁.tickets.get m.ticketId = some t₁ ∧
        t.Keeps t₁ ∧ (t₁.status = .closed → t.status = .closed) ∧
        t₁.lastResponseAt = t.lastResponseAt := by
      rcases hrow with ⟨hsame, -⟩ | ⟨hset, -⟩
      · exact ⟨t, hsame, .refl t, id, rfl⟩
      · exact ⟨_, hset, ⟨rfl, rfl, rfl, id⟩, fun hclosed => absurd hclosed open_, rfl⟩
    obtain ⟨hmessages', hothers', hrow'⟩ := timeSent.apply
      (f := fun t => { t with lastResponseAt := m.createdAt }) (fun _ => rfl) (fun _ => rfl) db₁ ht₁
    obtain ⟨t', ht', hkeeps', hstatus', htime'⟩ : ∃ t',
        (w.view world.db).tickets.get m.ticketId = some t' ∧ t.Keeps t' ∧
        (t'.status = .closed → t.status = .closed) ∧
        (t'.lastResponseAt = t.lastResponseAt ∨ t'.lastResponseAt = m.createdAt) := by
      rw [hview]
      rcases hrow' with ⟨hsame, -⟩ | ⟨hset, -⟩
      · exact ⟨t₁, hsame, hkeeps, hstatus, Or.inl htime⟩
      · exact ⟨_, hset, ⟨hkeeps.userId, hkeeps.subject, hkeeps.priority, hkeeps.closedAt⟩, hstatus,
          Or.inr rfl⟩
    refine ⟨[m], ⟨?_, rowSteps_of_one m.ticketId (fun id' hid => ?_) ?_, fun m' hm' => ?_⟩,
      ?_⟩
    · rw [hview, hmessages', hmessages]
      rfl
    · rw [hview, hothers' id' hid, hothers id' hid]
      rfl
    · rw [ht, ht']
      refine .updated t t' hkeeps' (fun hclosed => Or.inl (hstatus' hclosed)) ?_
      refine htime'.imp_right fun heq => ⟨m, List.mem_singleton_self m, rfl, person, heq.symm⟩
    · cases List.mem_singleton.mp hm'
      exact ⟨past, t', ht', hgenuine.keeps hkeeps'⟩
    · rw [content]
      simp [written, person]
  | changed ticketId status now statusWrites timeWrites silent ends writes statusSent timeSent
      found =>
    obtain ⟨t, ht, hclosed⟩ := found
    obtain ⟨hmessages, hothers, hrow⟩ := statusSent.apply (f := fun t => { t with status })
      (fun _ => rfl) (fun _ => rfl) world.db ht
    have hview : w.view world.db =
        timeWrites.foldl Write.apply (statusWrites.foldl Write.apply world.db) := by
      unfold Session.view
      rw [writes, List.foldl_append]
    generalize statusWrites.foldl Write.apply world.db = db₁ at *
    obtain ⟨t₁, ht₁, hkeeps, hsame, hstatus, htime⟩ : ∃ t₁, db₁.tickets.get ticketId = some t₁ ∧
        t.Keeps t₁ ∧ t₁.closedAt = t.closedAt ∧
        (t₁.status = .closed → t.status = .closed ∨ status = .closed) ∧
        t₁.lastResponseAt = t.lastResponseAt := by
      rcases hrow with ⟨hsame, -⟩ | ⟨hset, -⟩
      · exact ⟨t, hsame, .refl t, rfl, Or.inl, rfl⟩
      · exact ⟨_, hset, ⟨rfl, rfl, rfl, id⟩, rfl, Or.inr, rfl⟩
    obtain ⟨hmessages', hothers', hrow'⟩ := timeSent.apply
      (f := fun t => { t with closedAt := some now }) (fun _ => rfl) (fun _ => rfl) db₁ ht₁
    obtain ⟨t', ht', hkeeps', hstatus', htime'⟩ : ∃ t',
        (w.view world.db).tickets.get ticketId = some t' ∧ t.Keeps t' ∧
        (t'.status = .closed → t.status = .closed ∨ t'.closedAt.isSome) ∧
        t'.lastResponseAt = t.lastResponseAt := by
      rw [hview]
      rcases hrow' with ⟨hunsent, hnone⟩ | ⟨hset, -⟩
      · refine ⟨t₁, hunsent, hkeeps, fun h => (hstatus h).imp_right fun h => ?_, htime⟩
        rw [hsame]
        exact hclosed h hnone
      · exact ⟨_, hset, ⟨hkeeps.userId, hkeeps.subject, hkeeps.priority, fun _ => rfl⟩,
          fun _ => Or.inr rfl, htime⟩
    refine ⟨[], ⟨?_, rowSteps_of_one ticketId (fun id' hid => ?_) ?_, by simp⟩, ?_⟩
    · rw [hview, hmessages', hmessages, List.append_nil]
    · rw [hview, hothers' id' hid, hothers id' hid]
    · rw [ht, ht']
      exact .updated t t' hkeeps' hstatus' (Or.inl htime')
    · rw [silent]
      rfl
  | idle order job writes =>
    subst job
    refine ⟨[], ⟨?_, fun id => ?_, by simp⟩, rfl⟩
    · unfold Session.view
      rw [writes]
      exact (List.append_nil _).symm
    · unfold Session.view
      rw [writes]
      exact .same ..
  | closing order job ticketId now writes locked waiting past =>
    subst job
    obtain ⟨t, ht, hwaiting⟩ := Option.map_eq_some_iff.mp (Db.waiting_iff.mp waiting)
    let row : Ticket := { t with status := .closed, closedAt := some now }
    have hid : t.id = ticketId := Table.key_of_get ht
    have hboth : ((world.db.tickets.modify ticketId fun t => { t with status := .closed }).modify
          ticketId fun t => { t with closedAt := some now }) =
        world.db.tickets.modify ticketId fun t =>
          { t with status := .closed, closedAt := some now } :=
      Table.modify_modify _ _ (fun _ => rfl) (fun _ => rfl)
    have hview : w.view world.db =
        { tickets := world.db.tickets.put row
          messages := world.db.messages ++ [autoCloseMessage ticketId now]
          auditLogs := world.db.auditLogs ++ [autoCloseEntry ticketId] } := by
      unfold Session.view
      rw [writes]
      simp only [closingWrites, List.foldl_cons, List.foldl_nil, Write.apply]
      rw [hboth, Table.modify_of_get _ ht]
    have hget : (world.db.tickets.put row).get ticketId = some row :=
      hid ▸ Table.get_put_self world.db.tickets row
    rw [hview]
    refine ⟨[autoCloseMessage ticketId now],
      ⟨rfl, rowSteps_of_one ticketId (fun id' hne => ?_) ?_, fun m' hm' => ?_⟩, rfl⟩
    · exact Table.get_put_of_ne world.db.tickets fun heq => hne (heq.trans hid)
    · rw [ht, hget]
      exact .updated t row ⟨rfl, rfl, rfl, fun _ => rfl⟩ (fun _ => Or.inr rfl) (Or.inl rfl)
    · cases List.mem_singleton.mp hm'
      exact ⟨past, row, hget, rfl, rfl⟩

/-! ## Transactions -/

/-- An agent who may respond is one of the staff. -/
def TicketOperation.StaffedBy (staff : Uuid → Prop) : TicketOperation → Prop
  | .supportReply _ actor _ =>
    roleHasPermission actor.role .ticketRespond = true → staff actor.id
  | .create _ _ _ _ _ => True
  | .customerReply _ _ _ => True
  | .changeStatus _ _ => True
  | .autoClose _ => True

section Wp

variable {staff : Uuid → Prop} {w : Session} {held : List Uuid} {world : World}

/-- A statement, and what follows it. -/
theorem wpe_thread_bind {α : Type} {s : Stmt} {f : s.Resp → Tx α}
    {post : α → Session → List Uuid → World → Prop}
    {failed : ShopError → Session → List Uuid → World → Prop} :
    wpe engine ThreadRely (send s >>= f) w held world post failed ↔
      ∀ world', ThreadRely (s.needs w world ++ held) world world' →
        wpe engine ThreadRely (f (s.execIn w world).1) (s.execIn w world).2
          (s.needs w world ++ held) world' post failed := Iff.rfl

/-- A column of a loaded row: it is sent, or has the value already. -/
theorem wpe_assign_bind {α β : Type} [DecidableEq α] {old new : α} {x : Write} {f : Unit → Tx β}
    {post : β → Session → List Uuid → World → Prop}
    {failed : ShopError → Session → List Uuid → World → Prop}
    (h : ∀ writes world', SentOrNot x writes → (writes = [] → new = old) →
      ThreadRely held world world' →
      wpe engine ThreadRely (f ()) ⟨w.pending ++ writes⟩ held world' post failed) :
    wpe engine ThreadRely (assign old new x >>= f) w held world post failed := by
  unfold assign
  split
  · rename_i heq
    have hskip := h [] world (Or.inl rfl) (fun _ => heq) ⟨fun _ _ => rfl, .refl world⟩
    rw [List.append_nil] at hskip
    exact hskip
  · refine wpe_thread_bind.mpr fun world' hrely => ?_
    exact h [x] world' (Or.inr rfl) (fun hnil => by cases hnil) hrely

theorem wpe_addReply {op : TicketOperation} {ticket : Ticket} {author : Uuid}
    {authorRole : TicketMessageAuthorRole} {body : String} {status : TicketStatus}
    (hrole : authorRole ≠ .system) (hstatus : status ≠ .closed)
    (hwritten : op.message = some ⟨ticket.id, some author, authorRole, body⟩)
    (hgenuine : ∀ now, (⟨ticket.id, some author, authorRole, body, now⟩ : TicketMessage).Genuine
      staff ticket)
    (hfound : ∃ t, world.db.tickets.get ticket.id = some t ∧ ticket.Keeps t) :
    wpe engine ThreadRely (TicketService.addReply ticket author authorRole body status)
      engine.start held world (fun row => Draft staff op (.ticket row)) fun _ _ _ _ => True := by
  unfold TicketService.addReply
  let m : TicketMessage := ⟨ticket.id, some author, authorRole, body, world.clock⟩
  refine wpe_thread_bind.mpr fun world₁ hrely₁ => wpe_thread_bind.mpr fun world₂ hrely₂ => ?_
  refine wpe_assign_bind fun statusWrites world₃ hstatusSent _ hrely₃ => ?_
  refine wpe_assign_bind fun timeWrites world₄ htimeSent _ hrely₄ => ?_
  have hevolves : Evolves world world₄ :=
    hrely₁.2.trans (hrely₂.2.trans (hrely₃.2.trans hrely₄.2))
  obtain ⟨t, ht, hkeeps⟩ := hfound
  obtain ⟨t', ht', hkeeps'⟩ := hevolves.tickets _ t ht
  exact .replied m status statusWrites timeWrites hwritten hrole hstatus ⟨_, rfl⟩ rfl hstatusSent
    htimeSent ⟨t', ht', (hgenuine _).keeps (hkeeps.trans hkeeps')⟩ hevolves.clock

/-- A ticket that a request has loaded. -/
theorem wpe_load {α : Type} {ticketId : Uuid} {f : Ticket → Tx α}
    {post : α → Session → List Uuid → World → Prop}
    (h : ∀ ticket world', ticket.id = ticketId →
      (∃ t, world'.db.tickets.get ticketId = some t ∧ ticket.Keeps t) →
      wpe engine ThreadRely (f ticket) engine.start held world' post fun _ _ _ _ => True) :
    wpe engine ThreadRely
      (send (.getTicket ticketId) >>= fun row =>
        Prog.orRaise TicketService.ticketNotFound row >>= f)
      engine.start held world post fun _ _ _ _ => True := by
  refine wpe_thread_bind.mpr fun world' hrely => ?_
  refine wpe_orRaise_bind.mpr ⟨fun _ => trivial, fun ticket hticket => ?_⟩
  exact h ticket world' (Table.key_of_get hticket) (hrely.2.tickets ticketId ticket hticket)

theorem wpe_draft_customerReply (ticketId : Uuid) (user : User) (body : String) :
    wpe engine ThreadRely (TicketService.addCustomerReply ticketId user body) engine.start held
      world (fun row => Draft staff (.customerReply ticketId user body) (.ticket row))
      fun _ _ _ _ => True := by
  unfold TicketService.addCustomerReply TicketService.getForUser
  refine (wpe_bind ..).mpr (wpe_load fun ticket world hid hfound => ?_)
  subst hid
  refine wpe_if_raise.mpr ⟨fun _ => trivial, fun _ => ?_⟩
  refine wpe_if_raise.mpr ⟨fun _ => trivial, fun howner => ?_⟩
  refine wpe_if_raise.mpr ⟨fun _ => trivial, fun _ => ?_⟩
  have huser : some user.id = some ticket.userId := congrArg some (not_not.mp howner).symm
  exact wpe_addReply (by decide) (by decide) rfl (fun _ => huser) hfound

theorem wpe_draft_supportReply (ticketId : Uuid) (actor : User) (body : String)
    (hactor : staff actor.id) :
    wpe engine ThreadRely (TicketService.addSupportReply ticketId actor body) engine.start held
      world (fun row => Draft staff (.supportReply ticketId actor body) (.ticket row))
      fun _ _ _ _ => True := by
  refine wpe_load fun ticket world hid hfound => ?_
  subst hid
  refine wpe_if_raise.mpr ⟨fun _ => trivial, fun _ => ?_⟩
  exact wpe_addReply (by decide) (by decide) rfl (fun _ => ⟨actor.id, rfl, hactor⟩) hfound

theorem wpe_draft_changeStatus (ticketId : Uuid) (newStatus : TicketStatus) :
    wpe engine ThreadRely (TicketService.changeStatus ticketId newStatus) engine.start held world
      (fun row => Draft staff (.changeStatus ticketId newStatus) (.ticket row))
      fun _ _ _ _ => True := by
  refine wpe_load fun ticket world hid hfound => ?_
  subst hid
  refine wpe_assign_bind fun statusWrites world₁ hstatusSent _ hrely₁ => ?_
  obtain ⟨t, ht, hkeeps⟩ := hfound
  obtain ⟨t₁, ht₁, hkeeps₁⟩ := hrely₁.2.tickets _ t ht
  split
  · refine wpe_thread_bind.mpr fun world₂ hrely₂ => ?_
    refine wpe_assign_bind fun timeWrites world₃ htimeSent hskipped hrely₃ => ?_
    obtain ⟨t₃, ht₃, hkeeps₃⟩ := (hrely₂.2.trans hrely₃.2).tickets _ t₁ ht₁
    refine .changed ticket.id newStatus world₁.clock statusWrites timeWrites rfl ⟨_, rfl⟩ rfl
      hstatusSent htimeSent ⟨t₃, ht₃, fun _ hnone => ?_⟩
    have hsome : ticket.closedAt.isSome := by
      rw [← hskipped hnone]
      rfl
    exact hkeeps₃.closedAt (hkeeps₁.closedAt (hkeeps.closedAt hsome))
  · rename_i hopen
    refine .changed ticket.id newStatus 0 statusWrites [] rfl ⟨_, rfl⟩ (List.append_nil _).symm
      hstatusSent (Or.inl rfl) ⟨t₁, ht₁, fun hclosed => absurd hclosed hopen⟩

/-- The insert of a new ticket: its key is free, and stays so. -/
theorem wpe_insert_thread {α : Type} {row : Ticket} {f : Unit → Tx α}
    {post : α → Session → List Uuid → World → Prop}
    (h : ∀ held world', Evolves world world' → row.id ∈ held →
      world'.db.tickets.get row.id = none →
      wpe engine ThreadRely (f ()) ⟨[.addTicket row]⟩ held world' post fun _ _ _ _ => True) :
    wpe engine ThreadRely (insert row >>= f) engine.start held world post
      fun _ _ _ _ => True := by
  refine (wpe_bind ..).mpr (wpe_thread_bind.mpr fun world' hrely => ?_)
  by_cases htaken : (world.db.tickets.get row.id).isSome = true
  · have hexec : Stmt.execIn (.insert row) engine.start world = (false, engine.start) :=
      if_pos htaken
    rw [hexec]
    trivial
  · have hexec : Stmt.execIn (.insert row) engine.start world = (true, ⟨[.addTicket row]⟩) :=
      if_neg htaken
    have hlocked : row.id ∈ Stmt.needs (.insert row) engine.start world ++ held :=
      List.mem_cons_self ..
    rw [hexec]
    refine h _ world' hrely.2 hlocked ((hrely.1 row.id hlocked).trans ?_)
    exact Option.not_isSome_iff_eq_none.mp htaken

theorem wpe_draft_create (userId : Uuid) (subject message : String) (priority : TicketPriority)
    (ticketId : Uuid) :
    wpe engine ThreadRely (TicketService.create userId subject message priority ticketId)
      engine.start held world
      (fun row => Draft staff (.create userId subject message priority ticketId) (.ticket row))
      fun _ _ _ _ => True := by
  refine wpe_thread_bind.mpr fun world₁ hrely₁ => ?_
  refine wpe_insert_thread fun held world₂ hrely₂ hlocked hfree => ?_
  refine wpe_thread_bind.mpr fun world₃ hrely₃ => ?_
  exact .created userId subject message priority ticketId world.clock rfl ⟨_, rfl⟩ rfl hlocked
    ((hrely₃.1 ticketId hlocked).trans hfree)
    (hrely₁.2.trans (hrely₂.trans hrely₃.2)).clock

/-- The conditional update: it closes the ticket and keeps its row locked, or does nothing. -/
theorem wpe_closeIfWaiting_thread {α : Type} {ticketId : Uuid} {closedAt : DateTime}
    {f : Nat → Tx α} {post : α → Session → List Uuid → World → Prop}
    {failed : ShopError → Session → List Uuid → World → Prop}
    (hskipped : ∀ held world', wpe engine ThreadRely (f 0) engine.start held world' post failed)
    (hclosed : ∀ held world', Evolves world world' → ticketId ∈ held →
      world'.db.waiting ticketId = true →
      wpe engine ThreadRely (f 1)
        ⟨[.setStatus ticketId .closed, .setClosedAt ticketId (some closedAt)]⟩ held world' post
        failed) :
    wpe engine ThreadRely (send (.closeIfWaiting ticketId closedAt) >>= f) engine.start held world
      post failed := by
  refine wpe_thread_bind.mpr fun world' hrely => ?_
  by_cases hwaiting : world.db.waiting ticketId = true
  · have hexec : Stmt.execIn (.closeIfWaiting ticketId closedAt) engine.start world =
        (1, ⟨[.setStatus ticketId .closed, .setClosedAt ticketId (some closedAt)]⟩) :=
      if_pos hwaiting
    have hneeds : Stmt.needs (.closeIfWaiting ticketId closedAt) engine.start world = [ticketId] :=
      if_pos hwaiting
    rw [hneeds] at hrely ⊢
    rw [hexec]
    have hlocked : ticketId ∈ [ticketId] ++ held := List.mem_cons_self ..
    refine hclosed _ world' hrely.2 hlocked ?_
    unfold Db.waiting
    rw [hrely.1 ticketId hlocked]
    exact hwaiting
  · have hexec : Stmt.execIn (.closeIfWaiting ticketId closedAt) engine.start world =
        (0, engine.start) := if_neg hwaiting
    rw [hexec]
    exact hskipped _ world'

/-- From one commit of the job to the next. -/
theorem wpe_draft_closeNext {op : TicketOperation} {order : RowOrder} (hop : op = .autoClose order)
    (closedCount : Nat) (candidates : List Uuid) :
    wpe engine ThreadRely (closeNext closedCount candidates) engine.start held world
      (Draft staff op) fun _ _ _ _ => True := by
  induction candidates generalizing held world with
  | nil => exact .idle order hop rfl
  | cons ticketId candidates ih =>
    refine wpe_thread_bind.mpr fun world₁ hrely₁ => wpe_closeIfWaiting_thread ?_ ?_
    · exact fun held world' => ih
    · intro held world₂ hrely₂ hlocked hwaiting
      refine wpe_thread_bind.mpr fun world₃ hrely₃ => wpe_thread_bind.mpr fun world₄ hrely₄ => ?_
      refine .closing order hop ticketId world.clock rfl hlocked ?_ ?_
      · unfold Db.waiting
        rw [hrely₄.1 ticketId hlocked, hrely₃.1 ticketId hlocked]
        exact hwaiting
      · exact (hrely₁.2.trans (hrely₂.trans (hrely₃.2.trans hrely₄.2))).clock

/-- Every transaction ends in a draft. -/
theorem wpe_draft (op : TicketOperation) (hop : op.StaffedBy staff) :
    wpe engine ThreadRely op.program engine.start held world (Draft staff op)
      fun _ _ _ _ => True := by
  cases op with
  | create userId subject message priority id =>
    exact (wpe_bind ..).mpr (wpe_draft_create userId subject message priority id)
  | customerReply ticketId user body =>
    exact (wpe_bind ..).mpr (wpe_draft_customerReply ticketId user body)
  | supportReply ticketId actor body =>
    change wpe engine ThreadRely (requirePermission .ticketRespond actor >>= _) ..
    rw [requirePermission_bind]
    refine wpe_if_raise.mpr ⟨fun _ => trivial, fun hpermitted => ?_⟩
    exact (wpe_bind ..).mpr
      (wpe_draft_supportReply ticketId actor body (hop (Bool.not_eq_false _ ▸ hpermitted)))
  | changeStatus ticketId newStatus =>
    exact (wpe_bind ..).mpr (wpe_draft_changeStatus ticketId newStatus)
  | autoClose order =>
    exact wpe_thread_bind.mpr fun _ _ => wpe_thread_bind.mpr fun _ _ =>
      wpe_draft_closeNext rfl 0 _

end Wp

/-! ## The proof outline -/

section Runs

variable {ι : Type} [DecidableEq ι] [Fintype ι]

/-- The messages of the requests that have been committed. -/
def committedMessages (ops : ι → TicketOperation) (results : ι → Option Answer) :
    Multiset Content :=
  (Finset.univ.filter fun i => (results i).isSome).val.filterMap fun i => (ops i).message

theorem committedMessages_update (ops : ι → TicketOperation) (results : ι → Option Answer) (i : ι)
    (answer : Answer) :
    committedMessages ops (Function.update results i (some answer)) =
      committedMessages ops (Function.update results i none) + (ops i).message.toList := by
  let rest := Finset.univ.filter fun j => (Function.update results i none j).isSome
  have hnot : i ∉ rest := by simp [rest]
  have hinsert : (Finset.univ.filter fun j => (Function.update results i (some answer) j).isSome) =
      Insert.insert i rest := by
    ext j
    by_cases hj : j = i
    · simp [hj]
    · simp [rest, hj]
  unfold committedMessages
  rw [hinsert, Finset.insert_val_of_notMem hnot]
  cases hmessage : (ops i).message with
  | none =>
    rw [Multiset.filterMap_cons_none (f := fun i => (ops i).message) _ _ hmessage]
    exact (Multiset.add_zero _).symm
  | some m =>
    rw [Multiset.filterMap_cons_some (fun i => (ops i).message) _ _ hmessage,
      Multiset.add_comm]
    rfl

variable {staff : Uuid → Prop}

/-- What holds in a run that began in `world₀`. -/
structure ThreadInv (staff : Uuid → Prop) (ops : ι → TicketOperation) (world₀ world : World)
    (results : ι → Option Answer) : Prop where
  jobs : JobsGoOn ops results
  evolves : Evolves world₀ world
  sound : Sound staff world₀ → Sound staff world
  written : (written world.db.messages : Multiset Content) =
    written world₀.db.messages + committedMessages ops results

omit [DecidableEq ι] in
theorem ThreadInv.start (ops : ι → TicketOperation) (world : World) :
    ThreadInv staff ops world world fun _ => none where
  jobs _ _ _ h := by cases h
  evolves := .refl world
  sound h := h
  written := by simp [committedMessages]

theorem ThreadInv.commit {ops : ι → TicketOperation} {world₀ world : World}
    {results : ι → Option Answer} {i : ι} {answer : Answer} {w : Session} {held : List Uuid}
    (h : ThreadInv staff ops world₀ world results) (hnone : results i = none)
    (hdraft : Draft staff (ops i) answer w held world)
    (hvalid : (w.view world.db).Constraints) :
    ThreadInv staff ops world₀ { world with db := w.view world.db }
      (Function.update results i (some answer)) := by
  obtain ⟨new, hstep, hnew⟩ := hdraft.step
  refine ⟨fun j candidates closedCount hj => ?_, h.evolves.trans hstep.evolves,
    fun hsound => (h.sound hsound).commit hstep hvalid.bodies, ?_⟩
  · by_cases hji : j = i
    · subst hji
      have hanswer : answer = .closed candidates closedCount := by simpa using hj
      cases hdraft with
      | idle order job writes => exact ⟨order, job⟩
      | closing order job ticketId now writes locked waiting past => exact ⟨order, job⟩
      | created _ _ _ _ _ _ _ ends | replied _ _ _ _ _ _ _ ends | changed _ _ _ _ _ _ ends =>
        obtain ⟨row, rfl⟩ := ends
        cases hanswer
    · rw [Function.update_of_ne hji] at hj
      exact h.jobs j candidates closedCount hj
  · have hsame : Function.update results i none = results := by
      rw [← hnone, Function.update_eq_self]
    rw [hstep.messages, written_append, hnew, committedMessages_update, hsame,
      ← Multiset.coe_add, h.written, Multiset.add_assoc]

/-- The proof outline. -/
def threadOutline (staff : Uuid → Prop) (ops : ι → TicketOperation) (world₀ : World)
    (cond : TicketSystem ι → Move ι Nat → Prop) : JobOutline engine autoClose cond where
  rely _ := ThreadRely
  post i := Draft staff (ops i)
  inv := ThreadInv staff ops world₀
  rely_refl _ _ world := ⟨fun _ _ => rfl, .refl world⟩
  rely_trans _ _ _ _ _ h₁ h₂ := ⟨fun id hid => (h₂.1 id hid).trans (h₁.1 id hid), h₁.2.trans h₂.2⟩
  post_stable _ _ _ _ _ _ h hworld := h.stable hworld
  commit_ok := by
    intro c i answer w held world' hi _ hinv hpost hcommit
    obtain ⟨hvalid, rfl⟩ := engine_commit_ok hcommit
    have hnone : c.results i = none := by
      simp [Config.results, hi, Client.result]
    refine ⟨hinv.commit hnone hpost hvalid, fun _ _ locks hlocks => ⟨?_, ?_⟩⟩
    · exact ticketRely_foldl (fun id hid => (hlocks id hid).2) c.db
    · obtain ⟨new, hstep, -⟩ := hpost.step
      exact hstep.evolves
  resume_ok := by
    intro world results i answer p hinv hresult hnext
    cases answer with
    | ticket row => cases hnext
    | finished closedCount => cases hnext
    | closed candidates closedCount =>
      obtain ⟨order, hop⟩ := hinv.jobs i candidates closedCount hresult
      obtain rfl := Option.some.inj hnext
      refine ⟨⟨fun j candidates' closedCount' hj => ?_, hinv.evolves, hinv.sound, ?_⟩,
        fun world' _ => (wpe_draft_closeNext hop closedCount candidates).wp⟩
      · by_cases hji : j = i
        · subst hji
          simp at hj
        · rw [Function.update_of_ne hji] at hj
          exact hinv.jobs j candidates' closedCount' hj
      · -- a run of the job writes nothing that people write
        have hupdate := committedMessages_update ops results i (.closed candidates closedCount)
        have hself :
            Function.update results i (some (.closed candidates closedCount)) = results := by
          rw [← hresult, Function.update_eq_self]
        have hsilent : (ops i).message = none := by
          rw [hop]
          rfl
        rw [hself, hsilent, Option.toList_none, Multiset.coe_nil, Multiset.add_zero]
          at hupdate
        rw [← hupdate]
        exact hinv.written
  outside_ok := by
    intro c elapsed _ hinv
    have hlater : Evolves c.db { c.db with clock := c.db.clock + elapsed } :=
      ⟨fun _ t ht => ⟨t, ht, .refl t⟩, ⟨[], (List.append_nil _).symm⟩,
        Int.le_add_of_nonneg_right (Int.natCast_nonneg elapsed)⟩
    refine ⟨⟨hinv.jobs, hinv.evolves.trans hlater, fun hsound => ?_, hinv.written⟩,
      fun _ _ => ⟨fun _ _ => rfl, hlater⟩⟩
    have h := hinv.sound hsound
    exact ⟨h.genuine, h.texts, fun m hm => (h.past m hm).trans hlater.clock, h.first, h.closed,
      h.lastResponse⟩

variable {ops : ι → TicketOperation} {cond : TicketSystem ι → Move ι Nat → Prop} {world : World}
  {c : TicketSystem ι}

theorem threadInv_of_reach (hstaff : ∀ i, (ops i).StaffedBy staff)
    (h : JobReach engine autoClose cond (TicketSystem.start world ops) c) :
    ThreadInv staff ops world c.db c.results := by
  let o := threadOutline staff ops world cond
  have hgood : o.Good (TicketSystem.start world ops) :=
    o.good_start world _ (.start ops world) fun i world' _ => (wpe_draft (ops i) (hstaff i)).wp
  exact (o.sound hgood h).inv

/-- Whatever the requests and the runs of the job do to each other: sound threads stay sound, when
    the agents who may respond are of the staff. -/
theorem threads_stay_sound (hstaff : ∀ i, (ops i).StaffedBy staff) (hsound : Sound staff world)
    (h : JobReach engine autoClose cond (TicketSystem.start world ops) c) :
    Sound staff c.db ∧ Evolves world c.db :=
  ⟨(threadInv_of_reach hstaff h).sound hsound, (threadInv_of_reach hstaff h).evolves⟩

/-- What people have written in the tickets is what they had at the start, together with the
    messages of the requests that have been committed, each of them once. -/
theorem messages_committed_once
    (h : JobReach engine autoClose cond (TicketSystem.start world ops) c) :
    (written c.db.db.messages : Multiset Content) =
      written world.db.messages + committedMessages ops c.results := by
  have hstaff : ∀ i, (ops i).StaffedBy fun _ => True := by
    intro i
    cases ops i with
    | supportReply ticketId actor body => exact fun _ => trivial
    | _ => trivial
  exact (threadInv_of_reach hstaff h).written

end Runs

/-- No tickets yet. -/
def noTickets : World where
  db := { tickets := ∅, messages := [], auditLogs := [] }
  clock := hour

theorem sound_noTickets (staff : Uuid → Prop) : Sound staff noTickets where
  genuine _ hm := absurd hm List.not_mem_nil
  texts _ hm := absurd hm List.not_mem_nil
  past _ hm := absurd hm List.not_mem_nil
  first _ _ ht := by cases ht
  closed _ _ ht := by cases ht
  lastResponse _ _ ht := by cases ht

/-- A customer opens a ticket, and writes again while an agent answers. -/
def openedAndAnswered : Fin 3 → TicketOperation
  | 0 => .create 5 "Delivery" "Where is it?" .normal 1
  | 1 => .supportReply 1 ⟨6, .support, true⟩ "On its way."
  | 2 => .customerReply 1 ⟨5, .customer, true⟩ "Hello?"

/-- Both have read the ticket before the other one has committed. -/
def openedAndAnsweredMoves : List (Move (Fin 3) Nat) :=
  List.replicate 4 (.event (.turn 0)) ++ [.event (.turn 1), .event (.turn 2), .outside hour] ++
    List.replicate 4 (.event (.turn 2)) ++ List.replicate 5 (.event (.turn 1))

theorem openedAndAnswered_run : ∃ c : TicketSystem (Fin 3),
    JobReach engine autoClose anyMove (TicketSystem.start noTickets openedAndAnswered) c ∧
    (c.db.db.messagesOf 1).length = 3 ∧ c.db.db.statusOf 1 = some .waitingForCustomer := by
  let start := TicketSystem.start noTickets openedAndAnswered
  have hrun : (start.moveAll engine autoClose anyMove openedAndAnsweredMoves).any (fun c =>
      (c.db.db.messagesOf 1).length = 3 ∧
        c.db.db.statusOf 1 = some .waitingForCustomer) = true := by
    decide +kernel
  obtain ⟨c, hmoves, htest⟩ := (Option.any_eq_true ..).mp hrun
  obtain ⟨hlength, hstatus⟩ := of_decide_eq_true htest
  exact ⟨c, .of_moveAll _ .refl hmoves, hlength, hstatus⟩

theorem staffed_openedAndAnswered :
    ∀ i : Fin 3, (openedAndAnswered i).StaffedBy fun id => id = 6 :=
  Fin.cases trivial (Fin.cases (fun _ => rfl) (Fin.cases trivial fun i => i.elim0))

theorem threads_stay_sound_answered : ∃ c : TicketSystem (Fin 3),
    (c.db.db.messagesOf 1).length = 3 ∧ Sound (fun id => id = 6) c.db ∧ Evolves noTickets c.db := by
  obtain ⟨c, hreach, hlength, -⟩ := openedAndAnswered_run
  exact ⟨c, hlength, threads_stay_sound staffed_openedAndAnswered (sound_noTickets _) hreach⟩

theorem messages_committed_once_answered : ∃ c : TicketSystem (Fin 3),
    (c.db.db.messagesOf 1).length = 3 ∧
    (written c.db.db.messages : Multiset Content) =
      written noTickets.db.messages + committedMessages openedAndAnswered c.results := by
  obtain ⟨c, hreach, hlength, -⟩ := openedAndAnswered_run
  exact ⟨c, hlength, messages_committed_once hreach⟩

end Tickets

end ElectronicShop
