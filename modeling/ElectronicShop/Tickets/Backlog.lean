import ElectronicShop.Tickets.AutoClose

/-!
# The job leaves no ticket behind

A run of the job looks at a hundred tickets at most, and one at a time. As long as there are no
more that are due, it does not come to its end while one of those that were due when it began
goes on waiting: it closes the ticket, or the ticket has been answered or closed meanwhile.
-/

namespace ElectronicShop

namespace Tickets

open Txn

/-- The ticket has waited for the customer since before `cutoff`. -/
def Due (cutoff : DateTime) (id : Uuid) (world : World) : Prop := id ∈ world.db.stale cutoff

/-- All tickets that are due now are looked at by a run of the job. -/
def BatchSuffices {ι : Type} (c : TicketSystem ι) (_ : Move ι Nat) : Prop :=
  (c.db.db.stale (c.db.clock - staleAfter)).length ≤ batchSize

instance decidableBatchSuffices {ι : Type} (c : TicketSystem ι) (m : Move ι Nat) :
    Decidable (BatchSuffices c m) :=
  inferInstanceAs (Decidable (_ ≤ _))

section Stale

variable {db : Db} {id : Uuid} {cutoff cutoff' : DateTime}

theorem stale_mono (h : cutoff ≤ cutoff') : (db.stale cutoff).Sublist (db.stale cutoff') := by
  refine List.Sublist.map _ (List.monotone_filter_right _ fun t ht => ?_)
  obtain ⟨hstatus, htime⟩ := of_decide_eq_true ht
  exact decide_eq_true ⟨hstatus, lt_of_lt_of_le htime h⟩

theorem waiting_of_mem_stale (h : id ∈ db.stale cutoff) : db.waiting id = true := by
  obtain ⟨t, ht, ⟨hstatus, -⟩, rfl⟩ := mem_stale.mp h
  rw [Db.waiting, Table.get_of_mem ht]
  exact decide_eq_true hstatus

/-- The job picks it, when there are not too many. -/
theorem mem_selected (order : RowOrder) (h : id ∈ db.stale cutoff)
    (hlength : (db.stale cutoff).length ≤ batchSize) :
    id ∈ (order.arrange (db.stale cutoff)).take batchSize := by
  rw [List.take_of_length_le]
  · exact (order.perm _).mem_iff.mpr h
  · rw [(order.perm _).length_eq]
    exact hlength

end Stale

/-! ## A run of the job with a ticket ahead of it -/

/-- The end of a closing: what is still to be written, and what is returned. -/
def writeAll (answer : Answer) : List Write → Tx Answer
  | [] => pure answer
  | x :: rest => write x >>= fun _ => writeAll answer rest

/-- What the job is left with after an update of its loop. -/
def afterUpdate (closedCount : Nat) (ticketId : Uuid) (candidates : List Uuid) (now : DateTime)
    (rowcount : Nat) : Tx Answer :=
  if rowcount ≠ 1 then closeNext closedCount candidates
  else writeAll (.closed candidates (closedCount + 1))
    [.addMessage (autoCloseMessage ticketId now), .addAuditLog (autoCloseEntry ticketId)]

/-- A run of the job that the ticket is still ahead of, in the middle of a transaction. -/
inductive Hunting (cutoff : DateTime) (id : Uuid) (clock : DateTime) : Tx Answer → Session → Prop
  where
  | start (order : RowOrder) : Hunting cutoff id clock (autoCloseStaleTickets order) engine.start
  | select (order : RowOrder) (now : DateTime) (begun : cutoff ≤ now - staleAfter)
      (past : now ≤ clock) :
      Hunting cutoff id clock
        (send (.selectStale (now - staleAfter) order) >>= closeNext 0) engine.start
  | next (closedCount : Nat) (candidates : List Uuid) (ahead : id ∈ candidates) :
      Hunting cutoff id clock (closeNext closedCount candidates) engine.start
  | update (closedCount : Nat) (ticketId : Uuid) (candidates : List Uuid) (now : DateTime)
      (ahead : id ∈ ticketId :: candidates) :
      Hunting cutoff id clock
        (send (.closeIfWaiting ticketId now) >>= afterUpdate closedCount ticketId candidates now)
        engine.start
  | closing (closedCount : Nat) (ticketId : Uuid) (candidates : List Uuid) (now : DateTime)
      (rest : List Write) (w : Session) (ahead : id ∈ ticketId :: candidates)
      (writes : w.pending ++ rest = closingWrites ticketId now) :
      Hunting cutoff id clock (writeAll (.closed candidates (closedCount + 1)) rest) w

variable {cutoff : DateTime} {id : Uuid} {clock : DateTime}

theorem Hunting.mono {clock' : DateTime} {p : Tx Answer} {w : Session}
    (h : Hunting cutoff id clock p w) (hclock : clock ≤ clock') : Hunting cutoff id clock' p w := by
  cases h with
  | start order => exact .start order
  | select order now begun past => exact .select order now begun (past.trans hclock)
  | next closedCount candidates ahead => exact .next closedCount candidates ahead
  | update closedCount ticketId candidates now ahead =>
    exact .update closedCount ticketId candidates now ahead
  | closing closedCount ticketId candidates now rest w ahead writes =>
    exact .closing closedCount ticketId candidates now rest w ahead writes

/-- The next statement of the job, in a world in which the ticket is due. -/
theorem Hunting.statement {world : World} {s : Stmt} {next : s.Resp → Tx Answer} {w : Session}
    {p : Tx Answer} (h : Hunting cutoff id world.clock p w) (hp : p = .step s next)
    (hbegun : cutoff ≤ world.clock - staleAfter) (hdue : Due cutoff id world)
    (hbatch : (world.db.stale (world.clock - staleAfter)).length ≤ batchSize) :
    Hunting cutoff id world.clock (next (s.execIn w world).1) (s.execIn w world).2 := by
  cases h with
  | start order =>
    cases hp
    exact .select order world.clock hbegun (le_refl _)
  | select order now begun past =>
    cases hp
    have hmem : id ∈ world.db.stale (now - staleAfter) := (stale_mono begun).subset hdue
    have hle : now - staleAfter ≤ world.clock - staleAfter := Int.sub_le_sub_right past _
    have hlength : (world.db.stale (now - staleAfter)).length ≤ batchSize :=
      (stale_mono hle).length_le.trans hbatch
    exact .next 0 _ (mem_selected order hmem hlength)
  | next closedCount candidates ahead =>
    cases candidates with
    | nil => cases ahead
    | cons ticketId candidates =>
      cases hp
      exact .update closedCount ticketId candidates world.clock ahead
  | update closedCount ticketId candidates now ahead =>
    cases hp
    change Hunting cutoff id world.clock (afterUpdate closedCount ticketId candidates now
      (Stmt.execIn (.closeIfWaiting ticketId now) engine.start world).1) _
    by_cases hwaiting : world.db.waiting ticketId = true
    · have hexec : Stmt.execIn (.closeIfWaiting ticketId now) engine.start world =
          (1, ⟨[.setStatus ticketId .closed, .setClosedAt ticketId (some now)]⟩) := if_pos hwaiting
      rw [hexec]
      exact .closing closedCount ticketId candidates now _ _ ahead rfl
    · have hexec : Stmt.execIn (.closeIfWaiting ticketId now) engine.start world =
          (0, engine.start) := if_neg hwaiting
      rw [hexec]
      rcases List.mem_cons.mp ahead with rfl | hlater
      · exact absurd (waiting_of_mem_stale hdue) hwaiting
      · exact .next closedCount candidates hlater
  | closing closedCount ticketId candidates now rest w ahead writes =>
    cases rest with
    | nil => cases hp
    | cons x rest =>
      cases hp
      refine .closing closedCount ticketId candidates now rest _ ahead ?_
      change (w.pending ++ [x]) ++ rest = _
      rw [List.append_assoc]
      exact writes

/-- What a transaction of the job has committed: the ticket is ahead, or not due any more. -/
theorem Hunting.commit {world world' : World} {answer : Answer} {w : Session} {p : Tx Answer}
    (h : Hunting cutoff id world.clock p w) (hp : p = .done answer) (hdue : Due cutoff id world)
    (hcommit : engine.commit w world = .ok world') :
    ∃ candidates closedCount, answer = .closed candidates closedCount ∧
      (id ∈ candidates ∨ ¬ Due cutoff id world') := by
  cases h with
  | start order => cases hp
  | select order now begun past => cases hp
  | next closedCount candidates ahead =>
    cases candidates with
    | nil => cases ahead
    | cons ticketId candidates => cases hp
  | update closedCount ticketId candidates now ahead => cases hp
  | closing closedCount ticketId candidates now rest w ahead writes =>
    cases rest with
    | cons x rest => cases hp
    | nil =>
      cases hp
      refine ⟨candidates, closedCount + 1, rfl, ?_⟩
      rcases List.mem_cons.mp ahead with rfl | hlater
      · right
        obtain ⟨-, rfl⟩ := engine_commit_ok hcommit
        intro hstill
        have hclosed := statusOf_closing now (waiting_of_mem_stale hdue)
        have hview : w.view world.db = (closingWrites id now).foldl Write.apply world.db := by
          rw [← writes, List.append_nil]
          rfl
        have hwaiting : (w.view world.db).waiting id = true := waiting_of_mem_stale hstill
        rw [hview, Db.waiting_iff, hclosed] at hwaiting
        cases hwaiting
      · exact Or.inl hlater

/-! ## In every interleaving -/

section Runs

variable {ι : Type} [DecidableEq ι] [Fintype ι] {ops : ι → TicketOperation} {world : World}
  {c c' : TicketSystem ι} {i : ι}

/-- Where a client is that runs the job. -/
def HuntedBy (cutoff : DateTime) (id : Uuid) (i : ι) (c : TicketSystem ι) : Prop :=
  match c.clients i with
  | .running p w _ => Hunting cutoff id c.db.clock p w
  | .committed answer => ∃ candidates closedCount, answer = .closed candidates closedCount ∧
      (id ∈ candidates ∨ ¬ Due cutoff id c.db)
  | .aborted _ => True

omit [DecidableEq ι] [Fintype ι] in
/-- A move that the client has no part in. -/
theorem HuntedBy.keep (h : HuntedBy cutoff id i c) (hdue : Due cutoff id c.db)
    (hclient : c'.clients i = c.clients i) (hclock : c.db.clock ≤ c'.db.clock) :
    HuntedBy cutoff id i c' := by
  unfold HuntedBy at h ⊢
  rw [hclient]
  cases hi : c.clients i with
  | running p w held =>
    rw [hi] at h
    exact h.mono hclock
  | committed answer =>
    rw [hi] at h
    obtain ⟨candidates, closedCount, hanswer, hahead⟩ := h
    exact ⟨candidates, closedCount, hanswer, hahead.imp_right fun hnot => absurd hdue hnot⟩
  | aborted e => trivial

theorem HuntedBy.move {m : Move ι Nat} (h : HuntedBy cutoff id i c)
    (hbegun : cutoff ≤ c.db.clock - staleAfter) (hdue : Due cutoff id c.db)
    (hbatch : (c.db.db.stale (c.db.clock - staleAfter)).length ≤ batchSize)
    (hmove : c.move engine autoClose m = some c') :
    HuntedBy cutoff id i c' ∧ c.db.clock ≤ c'.db.clock := by
  rcases Config.move_cases hmove with ⟨ev, rfl, hexec⟩ | ⟨j, answer, p, rfl, hj, hnext, rfl⟩ |
    ⟨elapsed, rfl, rfl⟩
  · rcases Config.exec_cases hexec with ⟨j, s, next, w, held, rfl, hj, -, rfl⟩ |
      ⟨j, answer, w, held, world', rfl, hj, -, hcommit, rfl⟩ | ⟨j, p, w, held, e, hj, rfl⟩
    · refine ⟨?_, le_refl _⟩
      by_cases hij : i = j
      · subst hij
        unfold HuntedBy at h ⊢
        rw [hj] at h
        rw [Config.set_self]
        exact h.statement rfl hbegun hdue hbatch
      · exact h.keep hdue (Config.set_of_ne c _ hij) (le_refl _)
    · obtain ⟨-, hworld⟩ := engine_commit_ok hcommit
      have hclock : c.db.clock ≤ world'.clock := by rw [hworld]
      refine ⟨?_, hclock⟩
      by_cases hij : i = j
      · subst hij
        unfold HuntedBy at h ⊢
        rw [hj] at h
        simp only [Config.set_self]
        exact h.commit rfl hdue hcommit
      · exact h.keep hdue (Config.set_of_ne c _ hij) hclock
    · refine ⟨?_, le_refl _⟩
      by_cases hij : i = j
      · subst hij
        unfold HuntedBy
        rw [Config.set_self]
        trivial
      · exact h.keep hdue (Config.set_of_ne c _ hij) (le_refl _)
  · refine ⟨?_, le_refl _⟩
    by_cases hij : i = j
    · subst hij
      unfold HuntedBy at h ⊢
      rw [hj] at h
      rw [Config.set_self]
      obtain ⟨candidates, closedCount, rfl, hahead⟩ := h
      cases hnext
      exact .next closedCount candidates (hahead.resolve_right fun hnot => hnot hdue)
    · exact h.keep hdue (Config.set_of_ne c _ hij) (le_refl _)
  · have hclock : c.db.clock ≤ c.db.clock + elapsed := Int.le_add_of_nonneg_right (by simp)
    exact ⟨h.keep hdue rfl hclock, hclock⟩

/-- As long as a ticket is due, a run of the job has not finished. -/
theorem huntedBy_of_reach {order : RowOrder} (hop : ops i = .autoClose order)
    (h : JobReach engine autoClose
      (fun c m => BatchSuffices c m ∧ Due (world.clock - staleAfter) id c.db)
      (TicketSystem.start world ops) c) :
    HuntedBy (world.clock - staleAfter) id i c ∧ world.clock ≤ c.db.clock := by
  induction h with
  | refl =>
    refine ⟨?_, le_refl _⟩
    have hstart : Hunting (world.clock - staleAfter) id world.clock (ops i).program
        engine.start := by
      rw [hop]
      exact .start order
    exact hstart
  | step _ allowed moved ih =>
    obtain ⟨hhunted, hclock⟩ := ih
    obtain ⟨hhunted', hclock'⟩ := hhunted.move (Int.sub_le_sub_right hclock _) allowed.2 allowed.1
      moved
    exact ⟨hhunted', hclock.trans hclock'⟩

/-- Whatever happens in between, when a run of the job has finished, there is no ticket that has
    been due ever since the beginning: after some of the moves it was not. -/
theorem auto_close_leaves_none {order : RowOrder} {closedCount : Nat} {moves : List (Move ι Nat)}
    (h : (TicketSystem.start world ops).moveAll engine autoClose BatchSuffices moves = some c)
    (hop : ops i = .autoClose order) (hfinished : c.results i = some (.finished closedCount))
    (id : Uuid) :
    ∃ before after c₁, moves = before ++ after ∧
      (TicketSystem.start world ops).moveAll engine autoClose BatchSuffices before = some c₁ ∧
      c₁.moveAll engine autoClose BatchSuffices after = some c ∧
      id ∉ c₁.db.db.stale (world.clock - staleAfter) := by
  rcases Config.always_or_left (fun c => Due (world.clock - staleAfter) id c.db) h with halways | hleft
  · obtain ⟨hhunted, -⟩ := huntedBy_of_reach hop halways
    unfold HuntedBy at hhunted
    cases hi : c.clients i with
    | running p w held => simp [Config.results, Client.result, hi] at hfinished
    | aborted e => simp [Config.results, Client.result, hi] at hfinished
    | committed answer =>
      rw [hi] at hhunted
      obtain ⟨candidates, count, rfl, -⟩ := hhunted
      simp [Config.results, Client.result, hi] at hfinished
  · exact hleft

end Runs

/-- A run of the job, up to the end. -/
def wholeRun {ι : Type} (i : ι) : List (Move ι Nat) :=
  List.replicate 7 (.event (.turn i)) ++ [.resume i, .event (.turn i)]

/-- The job closes a ticket that has waited for 25 hours. -/
theorem auto_close_leaves_none_run : ∃ (c c₁ : TicketSystem (Fin 1))
    (before after : List (Move (Fin 1) Nat)),
    c.results 0 = some (.finished 1) ∧ wholeRun 0 = before ++ after ∧
    c₁.moveAll engine autoClose BatchSuffices after = some c ∧ 1 ∉ c₁.db.db.stale hour ∧
    1 ∈ (oneTicket .waitingForCustomer (25 * hour)).db.stale hour := by
  let start := TicketSystem.start (oneTicket .waitingForCustomer (25 * hour))
    fun _ : Fin 1 => TicketOperation.autoClose .stored
  have hrun : (start.moveAll engine autoClose BatchSuffices (wholeRun 0)).any (fun c =>
      c.results 0 = some (.finished 1)) = true := by
    decide +kernel
  obtain ⟨c, hmoves, htest⟩ := (Option.any_eq_true ..).mp hrun
  have hfinished := of_decide_eq_true htest
  obtain ⟨before, after, c₁, hsplit, -, hafter, hleft⟩ :=
    auto_close_leaves_none hmoves rfl hfinished 1
  exact ⟨c, c₁, before, after, hfinished, hsplit, hafter, hleft, by decide⟩

end Tickets

end ElectronicShop
