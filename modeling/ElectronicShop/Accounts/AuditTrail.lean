import ElectronicShop.Execution.AuthApi

/-!
# The audit trail of the users

`UsersAdminService.update_user` logs a change of a role with the role before and the role
after it, and a change of `is_active` by its direction. `Standing.follow` reads one entry,
and gives up when it does not continue what was before.
-/

namespace ElectronicShop

namespace Accounts

open Txn

/-! ## Reading the log -/

/-- What the log follows of a user. -/
structure Standing where
  role : UserRole
  isActive : Bool
  deriving DecidableEq, Repr

/-- Every account starts as that of a customer who may log in. -/
def newcomer : Standing := ⟨.customer, true⟩

def Account.standing (u : Account) : Standing := ⟨u.role, u.isActive⟩

def Db.standingOf (db : Db) (userId : Uuid) : Option Standing :=
  (db.users.get userId).map Account.standing

def userRoles : List UserRole := [.customer, .support, .admin, .superAdmin]

/-- The role that an entry says a user has got, who had another one. -/
def newRole (old : UserRole) (metadata : Option (List (String × String))) : Option UserRole :=
  userRoles.find? fun role => role ≠ old ∧ metadata = some [("from", old.value), ("to", role.value)]

/-- The standing after an entry. There is none when the entry changes nothing, or when it
    starts from another standing. -/
def Standing.follow (standing : Standing) (entry : AuditLog) : Option Standing :=
  if entry.action = "user.role_changed" then
    (newRole standing.role entry.metadata).map fun role => { standing with role }
  else if entry.action = "user.activated" then
    if standing.isActive then none else some { standing with isActive := true }
  else if entry.action = "user.deactivated" then
    if standing.isActive then some { standing with isActive := false } else none
  else none

/-- The entries about a user. -/
def aboutUser (userId : Uuid) (log : List AuditLog) : List AuditLog :=
  log.filter fun e => e.resourceType = "user" ∧ e.resourceId = some userId

/-- The standing that the entries about a user lead to. -/
def Standing.replay (standing : Standing) (userId : Uuid) (log : List AuditLog) :
    Option Standing := (aboutUser userId log).foldlM Standing.follow standing

@[simp] theorem aboutUser_append (userId : Uuid) (log log' : List AuditLog) :
    aboutUser userId (log ++ log') = aboutUser userId log ++ aboutUser userId log' :=
  List.filter_append ..

theorem replay_nil (standing : Standing) (userId : Uuid) :
    standing.replay userId [] = some standing := rfl

theorem replay_append (standing : Standing) (userId : Uuid) (log log' : List AuditLog) :
    standing.replay userId (log ++ log') =
      (standing.replay userId log).bind fun standing => standing.replay userId log' := by
  rw [Standing.replay, aboutUser_append, List.foldlM_append]
  rfl

theorem newRole_of_ne {old role : UserRole} (hne : role ≠ old) :
    newRole old (some [("from", old.value), ("to", role.value)]) = some role := by
  cases old <;> cases role <;> first | exact absurd rfl hne | decide

/-! ## What an update logs -/

/-- Entries that an actor's update of a user adds to the log. -/
structure Tells (entries : List AuditLog) (userId actorId : Uuid) (old new : Standing) : Prop where
  about : ∀ e ∈ entries, e.resourceType = "user" ∧ e.resourceId = some userId
  actor : ∀ e ∈ entries, e.actorId = some actorId
  /-- Nobody changes their own role. -/
  apart : ∀ e ∈ entries, e.action = "user.role_changed" → userId ≠ actorId
  follows : entries.foldlM Standing.follow old = some new

namespace Tells

variable {entries entries' : List AuditLog} {entry : AuditLog} {userId actorId : Uuid}
  {old mid new : Standing}

theorem nil (userId actorId : Uuid) (standing : Standing) :
    Tells [] userId actorId standing standing where
  about _ he := absurd he List.not_mem_nil
  actor _ he := absurd he List.not_mem_nil
  apart _ he := absurd he List.not_mem_nil
  follows := rfl

theorem one (habout : entry.resourceType = "user" ∧ entry.resourceId = some userId)
    (hactor : entry.actorId = some actorId)
    (hapart : entry.action = "user.role_changed" → userId ≠ actorId)
    (hfollow : old.follow entry = some new) : Tells [entry] userId actorId old new where
  about e he := by
    obtain rfl := List.mem_singleton.mp he
    exact habout
  actor e he := by
    obtain rfl := List.mem_singleton.mp he
    exact hactor
  apart e he := by
    obtain rfl := List.mem_singleton.mp he
    exact hapart
  follows := by
    rw [List.foldlM_cons, hfollow]
    rfl

theorem append (h : Tells entries userId actorId old mid)
    (h' : Tells entries' userId actorId mid new) :
    Tells (entries ++ entries') userId actorId old new where
  about e he := (List.mem_append.mp he).elim (h.about e) (h'.about e)
  actor e he := (List.mem_append.mp he).elim (h.actor e) (h'.actor e)
  apart e he := (List.mem_append.mp he).elim (h.apart e) (h'.apart e)
  follows := by
    rw [List.foldlM_append, h.follows]
    exact h'.follows

theorem replay_self (h : Tells entries userId actorId old new) :
    old.replay userId entries = some new := by
  have hall : aboutUser userId entries = entries :=
    List.filter_eq_self.mpr fun e he => decide_eq_true (h.about e he)
  rw [Standing.replay, hall, h.follows]

/-- The entries say nothing about anybody else. -/
theorem aboutUser_other (h : Tells entries userId actorId old new) {other : Uuid}
    (hne : other ≠ userId) : aboutUser other entries = [] := by
  refine List.filter_eq_nil_iff.mpr fun e he hother => ?_
  obtain ⟨-, hid⟩ := of_decide_eq_true hother
  exact hne (Option.some.inj (hid.symm.trans (h.about e he).2))

end Tells

variable {db db' : Db} {settings : Settings}

theorem updateRole_tells {user user' : Account} {role : Option UserRole} {actorId : Uuid}
    (h : (UsersAdminService.updateRole user role actorId).run Stmt.exec db = .ok (user', db')) :
    ∃ entries, db'.auditLogs = db.auditLogs ++ entries ∧
      Tells entries user.id actorId user.standing user'.standing := by
  cases role with
  | none =>
    cases h
    exact ⟨[], (List.append_nil _).symm, .nil ..⟩
  | some role =>
    simp only [UsersAdminService.updateRole] at h
    split at h
    · cases h
      exact ⟨[], (List.append_nil _).symm, .nil ..⟩
    · rename_i hne
      split at h
      · cases h
      · rename_i hactor
        cases h
        refine ⟨[_], rfl, .one ⟨rfl, rfl⟩ rfl (fun _ => hactor) ?_⟩
        simp only [Standing.follow, Account.standing, if_true, newRole_of_ne hne]
        rfl

theorem updateActive_tells {user user' : Account} {isActive : Option Bool} {actorId : Uuid}
    (h : (UsersAdminService.updateActive user isActive actorId).run Stmt.exec db =
      .ok (user', db')) :
    ∃ entries, db'.auditLogs = db.auditLogs ++ entries ∧
      Tells entries user.id actorId user.standing user'.standing := by
  cases isActive with
  | none =>
    cases h
    exact ⟨[], (List.append_nil _).symm, .nil ..⟩
  | some isActive =>
    simp only [UsersAdminService.updateActive] at h
    split at h
    · cases h
      exact ⟨[], (List.append_nil _).symm, .nil ..⟩
    · rename_i hne
      cases h
      cases hold : user.isActive with
      | true =>
        have hnew : isActive = false := by simpa [hold] using hne
        subst hnew
        refine ⟨[_], rfl, .one ⟨rfl, rfl⟩ rfl (fun hrole => absurd hrole (by simp)) ?_⟩
        simp [Standing.follow, Account.standing, hold]
      | false =>
        have hnew : isActive = true := by simpa [hold] using hne
        subst hnew
        refine ⟨[_], rfl, .one ⟨rfl, rfl⟩ rfl (fun hrole => absurd hrole (by simp)) ?_⟩
        simp [Standing.follow, Account.standing, hold]

/-! ## What a request logs -/

variable {s s' : State} {request : Request} {requests : List Request}

/-- What an update leaves: the standing of its user, and the log of it. -/
structure Logged (db db' : Db) (userId actorId : Uuid) (entries : List AuditLog)
    (old new : Standing) : Prop where
  before : db.standingOf userId = some old
  after : ∀ id, db'.standingOf id = if id = userId then some new else db.standingOf id
  log : db'.auditLogs = db.auditLogs ++ entries
  tells : Tells entries userId actorId old new

/-- The caller is active and may manage users. -/
def Db.Manages (db : Db) (subject : Uuid) : Prop :=
  ∃ actor, db.users.get subject = some actor ∧ actor.isActive = true ∧
    roleHasPermission actor.role .userManage = true

theorem UserUpdate.logged {update : UserUpdate} {user' : Account}
    (h : (updateUser update.subject update.userId update.data).run Stmt.exec db =
      .ok (user', db')) :
    db.Manages update.subject ∧
      ∃ entries old new, Logged db db' update.userId update.subject entries old new := by
  obtain ⟨actor, user, heffect⟩ := UserUpdate.effect_of_run h
  simp only [updateUser, UsersAdminService.updateUser, Prog.run_bind_ok, run_getCurrentUser,
    run_requirePermission, run_getUser] at h
  obtain ⟨_, _, ⟨hactor, -, rfl⟩, _, _, ⟨-, rfl⟩, user₁, db₁, ⟨huser, rfl⟩, changed, db₂, hrole,
    hlast⟩ := h
  obtain rfl : actor = _ := Option.some.inj (heffect.getActor.symm.trans hactor)
  obtain rfl : user = _ := Option.some.inj (heffect.getUser.symm.trans huser)
  have hactorId : actor.id = update.subject := Table.key_of_get hactor
  have huserId : user.id = update.userId := Table.key_of_get huser
  obtain ⟨entries, hlog, htells⟩ := updateRole_tells hrole
  obtain ⟨entries', hlog', htells'⟩ := updateActive_tells hlast
  obtain ⟨hchanged, -, _, hdb₂⟩ := run_updateRole (huserId ▸ huser) hrole
  have hget : db₂.users.get changed.id = some changed := by
    rw [hdb₂]
    exact Table.get_put_self ..
  obtain ⟨hupdated, _, hdb'⟩ := run_updateActive hget hlast
  have hid : changed.id = user.id := by rw [hchanged]
  rw [hactorId] at htells htells'
  rw [huserId] at htells
  rw [hid, huserId] at htells'
  refine ⟨⟨actor, hactor, heffect.active, heffect.permitted⟩, entries ++ entries', user.standing,
    user'.standing, ?_, ?_, ?_, htells.append htells'⟩
  · rw [Db.standingOf, huser, Option.map_some]
  · intro id
    have hid' : user'.id = update.userId := by rw [hupdated, ← huserId, ← hid]
    rw [Db.standingOf, hdb', hdb₂, Table.get_put, Table.get_put, hid', hid, huserId, Db.standingOf]
    split
    · rfl
    · rfl
  · rw [hlog', hlog, List.append_assoc]

/-- An update of a user that has been committed. -/
def Administers (s : State) (request : Request) (entry : AuditLog) : Prop :=
  ∃ update, request = .updateUser update ∧ s.db.Manages update.subject ∧
    entry.actorId = some update.subject ∧ entry.resourceId = some update.userId ∧
    (entry.action = "user.role_changed" → update.userId ≠ update.subject)

/-- What a request does to the standings and the log. -/
inductive Step (s : State) (request : Request) (db' : Db) : Prop where
  | quiet (log : db'.auditLogs = s.db.auditLogs)
      (standings : ∀ id, db'.standingOf id = s.db.standingOf id ∨
        s.db.standingOf id = none ∧ db'.standingOf id = some newcomer)
  | update {userId actorId : Uuid} {entries : List AuditLog} {old new : Standing}
      (logged : Logged s.db db' userId actorId entries old new)
      (authorized : ∀ e ∈ entries, Administers s request e)

/-- A user who was not there, or one whose role and activity stay. -/
theorem standingOf_put {u : Account} {id : Uuid} (hnew : ∀ old, db.users.get u.id = some old →
    old.standing = u.standing) (hfresh : db.users.get u.id = none → u.standing = newcomer) :
    ((db.users.put u).get id).map Account.standing = db.standingOf id ∨
      db.standingOf id = none ∧
        ((db.users.put u).get id).map Account.standing = some newcomer := by
  rw [Table.get_put, Db.standingOf]
  split
  · rename_i hid
    subst hid
    cases hget : db.users.get u.id with
    | none => exact Or.inr ⟨rfl, congrArg some (hfresh hget)⟩
    | some old => exact Or.inl (congrArg some (hnew old hget).symm)
  · exact Or.inl rfl

theorem Request.Effect.quiet {answer : Except ShopError Answer}
    (h : request.Effect settings s answer db') (hnot : ∀ update, request ≠ .updateUser update) :
    Step s request db' := by
  cases h
  case registered tokens newEmail newUser newToken =>
    refine .quiet rfl fun id => standingOf_put (fun old hold => ?_) fun _ => rfl
    cases newUser.symm.trans hold
  case loggedIn stored user active newToken =>
    refine .quiet rfl fun id => standingOf_put (fun old hold => ?_) fun hnone => ?_
    · cases user.symm.trans hold
      rfl
    · cases user.symm.trans hnone
  case passwordChanged user caller =>
    have huser : s.db.users.get user.id = some user := Table.get_self caller
    refine .quiet rfl fun id => standingOf_put (fun old hold => ?_) fun hnone => ?_
    · cases huser.symm.trans hold
      rfl
    · cases huser.symm.trans hnone
  case passwordReset record user presented unused owner =>
    have huser : s.db.users.get user.id = some user := Table.get_self owner
    refine .quiet rfl fun id => standingOf_put (fun old hold => ?_) fun hnone => ?_
    · cases huser.symm.trans hold
      rfl
    · cases huser.symm.trans hnone
  case googleLoggedIn session identity stored started action verified linked newToken =>
    obtain ⟨account, -, hget⟩ := Option.bind_eq_some_iff.mp linked
    have huser : s.db.users.get stored.id = some stored := Table.get_self hget
    refine .quiet rfl fun id => standingOf_put (fun old hold => ?_) fun hnone => ?_
    · cases huser.symm.trans hold
      rfl
    · cases huser.symm.trans hnone
  case googleRegistered session identity username started action verified unlinked newEmail newUser
      newAccount newToken =>
    refine .quiet rfl fun id => standingOf_put (fun old hold => ?_) fun _ => rfl
    cases newUser.symm.trans hold
  case userUpdated actor user effect => exact absurd rfl (hnot _)
  -- the others leave the users and the log as they are
  all_goals exact .quiet rfl fun id => Or.inl rfl

theorem Request.logs (settings : Settings) (s : State) (request : Request) :
    Step s request (request.serve settings s).2.db := by
  by_cases hupdate : ∃ update, request = .updateUser update
  · obtain ⟨update, rfl⟩ := hupdate
    refine transact_cases (Accounts.updateUser update.subject update.userId update.data)
      (p := fun _ db' => Step s (.updateUser update) db')
      (fun _ => .quiet rfl fun id => Or.inl rfl) ?_
    intro user' db' h
    obtain ⟨hmanages, entries, old, new, hlogged⟩ := UserUpdate.logged h
    refine .update hlogged fun e he => ⟨update, rfl, hmanages, hlogged.tells.actor e he,
      (hlogged.tells.about e he).2, hlogged.tells.apart e he⟩
  · have heffect : request.Effect settings s _ _ := request.effect
    exact heffect.quiet fun update heq => hupdate ⟨update, heq⟩

/-! ## Every run -/

/-- The standing of every user follows from that at the start and the entries since. A user who
    has come since started as a newcomer. -/
structure Told (db₀ db : Db) (entries : List AuditLog) : Prop where
  log : db.auditLogs = db₀.auditLogs ++ entries
  absent : ∀ id, db.standingOf id = none → db₀.standingOf id = none ∧ aboutUser id entries = []
  present : ∀ id standing, db.standingOf id = some standing →
    ((db₀.standingOf id).getD newcomer).replay id entries = some standing

theorem Told.refl (db : Db) : Told db db [] where
  log := (List.append_nil _).symm
  absent _ hnone := ⟨hnone, rfl⟩
  present id standing h := by rw [h, Option.getD_some, replay_nil]

theorem Told.step {db₀ : Db} {log : List AuditLog} (h : Told db₀ s.db log)
    (hstep : Step s request db') : ∃ entries, Told db₀ db' (log ++ entries) ∧
      ∀ e ∈ entries, Administers s request e := by
  cases hstep with
  | quiet hlog hstandings =>
    refine ⟨[], ?_, fun e he => absurd he List.not_mem_nil⟩
    rw [List.append_nil]
    refine ⟨hlog.trans h.log, fun id hnone => ?_, fun id standing hsome => ?_⟩
    · rcases hstandings id with hsame | ⟨hbefore, -⟩
      · exact h.absent id (hsame.symm.trans hnone)
      · exact h.absent id hbefore
    · rcases hstandings id with hsame | ⟨hbefore, hnew⟩
      · exact h.present id standing (hsame.symm.trans hsome)
      · obtain ⟨hstart, habout⟩ := h.absent id hbefore
        obtain rfl : newcomer = standing := Option.some.inj (hnew.symm.trans hsome)
        rw [hstart, Standing.replay, habout]
        rfl
  | @update userId actorId entries old new logged authorized =>
    refine ⟨entries, ⟨?_, fun id hnone => ?_, fun id standing hsome => ?_⟩, authorized⟩
    · rw [logged.log, h.log, List.append_assoc]
    · rw [logged.after] at hnone
      split at hnone
      · cases hnone
      · rename_i hne
        obtain ⟨hstart, habout⟩ := h.absent id hnone
        refine ⟨hstart, ?_⟩
        rw [aboutUser_append, habout, logged.tells.aboutUser_other hne]
        rfl
    · rw [logged.after] at hsome
      rw [replay_append]
      split at hsome
      · rename_i hid
        subst hid
        cases hsome
        rw [h.present _ old logged.before]
        exact logged.tells.replay_self
      · rename_i hne
        rw [h.present _ _ hsome]
        rw [Option.bind_some, Standing.replay, logged.tells.aboutUser_other hne]
        rfl

/-- Between two states of a run the log only grows. The new entries about a user lead, one after
    another and from the standing before, to the standing after; and an administrator who was
    active and held `user.manage` has written each of them, none of them about their own role. -/
theorem audit_trail_tells_standing {s₀ : State}
    (hrun : Run (Request.step settings) anyStep s₀ requests s) :
    ∃ entries, s.db.auditLogs = s₀.db.auditLogs ++ entries ∧
      (∀ u ∈ s.db.users.rows,
        ((s₀.db.standingOf u.id).getD newcomer).replay u.id entries = some u.standing) ∧
      ∀ e ∈ entries, Run.Earlier (Request.step settings) anyStep s₀
        (fun _ s request => Administers s request e) requests := by
  have htold : ∃ entries, Told s₀.db s.db entries ∧
      ∀ e ∈ entries, Run.Earlier (Request.step settings) anyStep s₀
        (fun _ s request => Administers s request e) requests := by
    induction hrun with
    | nil => exact ⟨[], .refl _, fun e he => absurd he List.not_mem_nil⟩
    | snoc before allowed committed ih =>
      cases committed
      rename_i request s
      obtain ⟨log, htold, hearlier⟩ := ih
      obtain ⟨entries, htold', hauthorized⟩ := htold.step (request.logs settings s)
      refine ⟨log ++ entries, htold', fun e he => ?_⟩
      rcases List.mem_append.mp he with hold | hnew
      · exact (hearlier e hold).snoc _
      · exact .last before (hauthorized e hnew)
  obtain ⟨entries, htold, hearlier⟩ := htold
  refine ⟨entries, htold.log, fun u hu => htold.present u.id u.standing ?_, hearlier⟩
  rw [Db.standingOf, Table.get_of_mem hu, Option.map_some]

/-- A super admin and a customer. -/
def staffed : State where
  store :=
    { db := { Db.empty with
        users := ((∅ : Table Account.id).put (localAccount 1 "root" .superAdmin)).put
          (localAccount 2 "sara" .customer) }
      valid := by decide }
  oauth := ∅

/-- The customer joins the support, is deactivated and activated again; the second request changes
    nothing, the last one is refused. -/
def careers : List Request :=
  [.updateUser ⟨1, 2, ⟨some .support, some false⟩⟩, .updateUser ⟨1, 2, ⟨some .support, none⟩⟩,
    .updateUser ⟨1, 2, ⟨none, some true⟩⟩, .updateUser ⟨1, 1, ⟨some .admin, none⟩⟩]

theorem audit_trail_tells_standing_careers : ∃ s,
    Run (Request.step plainSettings) anyStep staffed careers s ∧ s.db.auditLogs.length = 3 ∧
    ∃ entries, s.db.auditLogs = staffed.db.auditLogs ++ entries ∧
      (∀ u ∈ s.db.users.rows,
        ((staffed.db.standingOf u.id).getD newcomer).replay u.id entries = some u.standing) ∧
      ∀ e ∈ entries, Run.Earlier (Request.step plainSettings) anyStep staffed
        (fun _ s request => Administers s request e) careers := by
  have hrun : ∃ s, Run (Request.step plainSettings) anyStep staffed careers s ∧
      s.db.auditLogs.length = 3 := Run.exists_of_execAll (by decide +kernel)
  obtain ⟨s, hrun, hlength⟩ := hrun
  exact ⟨s, hrun, hlength, audit_trail_tells_standing hrun⟩

end Accounts

end ElectronicShop
