import ElectronicShop.Model.Data
import ElectronicShop.Txn.IdentityMap
import ElectronicShop.Txn.Serial

/-!
# Accounts and sessions

The tables behind `app/modules/users` and `app/modules/auth`: users, their Google
accounts, the tokens and the audit log. Their transactions are not the shop's, so they
are a database of their own, with the statements of `app/modules/auth/repository.py`.
As in the shop, `Stmt.exec` is a statement that no other transaction overlaps, and
`engine` is a session over one READ COMMITTED transaction.
-/

namespace ElectronicShop

/-- The stored value of a role. -/
def UserRole.value : UserRole → String
  | .customer => "customer"
  | .support => "support"
  | .admin => "admin"
  | .superAdmin => "super_admin"

namespace Accounts

open Txn

/-! ## Tables -/

/-- A row of `users`. The shop's `User` has the columns that its handlers read. -/
structure Account where
  id : Uuid
  email : String
  username : String
  hashedPassword : Option String
  firstName : String
  lastName : String
  avatar : Option String
  role : UserRole
  isActive : Bool
  isVerified : Bool
  lastLogin : Option DateTime
  deriving DecidableEq, Repr

/-- The column types of `users`. -/
def Account.fits (u : Account) : Prop :=
  fitsVarchar 255 u.email ∧ fitsVarchar 50 u.username ∧ (∀ h ∈ u.hashedPassword, fitsVarchar 255 h) ∧
  fitsVarchar 100 u.firstName ∧ fitsVarchar 100 u.lastName ∧ ∀ a ∈ u.avatar, fitsVarchar 500 a

instance Account.decidableFits (u : Account) : Decidable u.fits :=
  inferInstanceAs (Decidable (_ ∧ _))

/-- A row of `oauth_accounts`; Google is the only provider. -/
structure OAuthAccount where
  id : Uuid
  userId : Uuid
  providerUserId : String
  email : String
  deriving DecidableEq, Repr

/-- The column types of `oauth_accounts`. -/
def OAuthAccount.fits (a : OAuthAccount) : Prop :=
  fitsVarchar 255 a.providerUserId ∧ fitsVarchar 255 a.email

instance OAuthAccount.decidableFits (a : OAuthAccount) : Decidable a.fits :=
  inferInstanceAs (Decidable (_ ∧ _))

structure RefreshToken where
  id : Uuid
  userId : Uuid
  tokenHash : String
  familyId : Uuid
  replacedById : Option Uuid
  revokedAt : Option DateTime
  expiresAt : DateTime
  createdAt : DateTime
  userAgent : Option String
  ipAddress : Option String
  deriving DecidableEq, Repr

/-- The column types of `refresh_tokens`. -/
def RefreshToken.fits (t : RefreshToken) : Prop :=
  fitsVarchar 255 t.tokenHash ∧ (∀ a ∈ t.userAgent, fitsVarchar 500 a) ∧
  ∀ a ∈ t.ipAddress, fitsVarchar 64 a

instance RefreshToken.decidableFits (t : RefreshToken) : Decidable t.fits :=
  inferInstanceAs (Decidable (_ ∧ _))

structure PasswordResetToken where
  id : Uuid
  userId : Uuid
  tokenHash : String
  expiresAt : DateTime
  usedAt : Option DateTime
  createdAt : DateTime
  deriving DecidableEq, Repr

/-- The column types of `password_reset_tokens`. -/
def PasswordResetToken.fits (t : PasswordResetToken) : Prop := fitsVarchar 255 t.tokenHash

instance PasswordResetToken.decidableFits (t : PasswordResetToken) : Decidable t.fits :=
  inferInstanceAs (Decidable (fitsVarchar _ _))

structure EmailVerificationToken where
  id : Uuid
  userId : Uuid
  tokenHash : String
  expiresAt : DateTime
  usedAt : Option DateTime
  createdAt : DateTime
  deriving DecidableEq, Repr

/-- The column types of `email_verification_tokens`. -/
def EmailVerificationToken.fits (t : EmailVerificationToken) : Prop := fitsVarchar 255 t.tokenHash

instance EmailVerificationToken.decidableFits (t : EmailVerificationToken) : Decidable t.fits :=
  inferInstanceAs (Decidable (fitsVarchar _ _))

structure AuditLog where
  actorId : Option Uuid
  action : String
  resourceType : String
  resourceId : Option Uuid
  metadata : Option (List (String × String))
  ipAddress : Option String
  deriving DecidableEq, Repr

/-- The column types of `audit_logs`. -/
def AuditLog.fits (e : AuditLog) : Prop :=
  fitsVarchar 100 e.action ∧ fitsVarchar 50 e.resourceType ∧
  (∀ m ∈ e.metadata, ∀ s ∈ m, fitsText s.1 ∧ fitsText s.2) ∧ ∀ a ∈ e.ipAddress, fitsVarchar 64 a

instance AuditLog.decidableFits (e : AuditLog) : Decidable e.fits :=
  inferInstanceAs (Decidable (_ ∧ _))

structure Db where
  users : Table Account.id
  oauthAccounts : Table OAuthAccount.id
  refreshTokens : Table RefreshToken.id
  passwordResetTokens : Table PasswordResetToken.id
  emailVerificationTokens : Table EmailVerificationToken.id
  auditLogs : List AuditLog

def Db.empty : Db where
  users := ∅
  oauthAccounts := ∅
  refreshTokens := ∅
  passwordResetTokens := ∅
  emailVerificationTokens := ∅
  auditLogs := []

/-- The column types. -/
structure Db.Fits (db : Db) : Prop where
  users : ∀ u ∈ db.users.rows, u.fits
  oauthAccounts : ∀ a ∈ db.oauthAccounts.rows, a.fits
  refreshTokens : ∀ t ∈ db.refreshTokens.rows, t.fits
  passwordResetTokens : ∀ t ∈ db.passwordResetTokens.rows, t.fits
  emailVerificationTokens : ∀ t ∈ db.emailVerificationTokens.rows, t.fits
  auditLogs : ∀ e ∈ db.auditLogs, e.fits

theorem Db.fits_iff (db : Db) : db.Fits ↔
    (∀ u ∈ db.users.rows, u.fits) ∧ (∀ a ∈ db.oauthAccounts.rows, a.fits) ∧
    (∀ t ∈ db.refreshTokens.rows, t.fits) ∧ (∀ t ∈ db.passwordResetTokens.rows, t.fits) ∧
    (∀ t ∈ db.emailVerificationTokens.rows, t.fits) ∧ ∀ e ∈ db.auditLogs, e.fits := by
  constructor
  · rintro ⟨h₁, h₂, h₃, h₄, h₅, h₆⟩
    exact ⟨h₁, h₂, h₃, h₄, h₅, h₆⟩
  · rintro ⟨h₁, h₂, h₃, h₄, h₅, h₆⟩
    exact ⟨h₁, h₂, h₃, h₄, h₅, h₆⟩

instance Db.decidableFits (db : Db) : Decidable db.Fits := decidable_of_iff _ db.fits_iff.symm

/-- The column types and the `UNIQUE` constraints. No modelled handler deletes a row that a
    foreign key points to. -/
structure Db.Constraints (db : Db) : Prop where
  fits : db.Fits
  emails : (db.users.rows.map Account.email).Nodup
  usernames : (db.users.rows.map Account.username).Nodup
  /-- `uq_oauth_provider_account`. -/
  providerUserIds : (db.oauthAccounts.rows.map OAuthAccount.providerUserId).Nodup
  refreshHashes : (db.refreshTokens.rows.map RefreshToken.tokenHash).Nodup
  resetHashes : (db.passwordResetTokens.rows.map PasswordResetToken.tokenHash).Nodup
  verificationHashes :
    (db.emailVerificationTokens.rows.map EmailVerificationToken.tokenHash).Nodup

theorem Db.constraints_iff (db : Db) : db.Constraints ↔
    db.Fits ∧ (db.users.rows.map Account.email).Nodup ∧
    (db.users.rows.map Account.username).Nodup ∧
    (db.oauthAccounts.rows.map OAuthAccount.providerUserId).Nodup ∧
    (db.refreshTokens.rows.map RefreshToken.tokenHash).Nodup ∧
    (db.passwordResetTokens.rows.map PasswordResetToken.tokenHash).Nodup ∧
    (db.emailVerificationTokens.rows.map EmailVerificationToken.tokenHash).Nodup := by
  constructor
  · rintro ⟨h₁, h₂, h₃, h₄, h₅, h₆, h₇⟩
    exact ⟨h₁, h₂, h₃, h₄, h₅, h₆, h₇⟩
  · rintro ⟨h₁, h₂, h₃, h₄, h₅, h₆, h₇⟩
    exact ⟨h₁, h₂, h₃, h₄, h₅, h₆, h₇⟩

instance Db.decidableConstraints (db : Db) : Decidable db.Constraints :=
  decidable_of_iff _ db.constraints_iff.symm

/-- The role a user has. -/
def Db.roleOf (db : Db) (userId : Uuid) : Option UserRole := (db.users.get userId).map Account.role

/-- The user with a given e-mail address, as it is stored. -/
def Db.userByEmail (db : Db) (email : String) : Option Account :=
  db.users.rows.find? fun u => u.email = email

def Db.userByUsername (db : Db) (username : String) : Option Account :=
  db.users.rows.find? fun u => u.username = username

/-- The Google account with a given subject. -/
def Db.oauthBy (db : Db) (subject : String) : Option OAuthAccount :=
  db.oauthAccounts.rows.find? fun a => a.providerUserId = subject

/-- The token with a given hash. -/
def Db.tokenBy (db : Db) (tokenHash : String) : Option RefreshToken :=
  db.refreshTokens.rows.find? fun t => t.tokenHash = tokenHash

def Db.resetBy (db : Db) (tokenHash : String) : Option PasswordResetToken :=
  db.passwordResetTokens.rows.find? fun t => t.tokenHash = tokenHash

/-- What the two queries for tokens that are not revoked select by. -/
inductive TokenSet where
  | family (familyId : Uuid)
  | user (userId : Uuid)
  deriving DecidableEq, Repr

def TokenSet.has : TokenSet → RefreshToken → Bool
  | .family familyId, t => t.familyId = familyId
  | .user userId, t => t.userId = userId

def Db.activeTokens (db : Db) (set : TokenSet) : List RefreshToken :=
  db.refreshTokens.rows.filter fun t => set.has t ∧ t.revokedAt = none

/-! ## Statements -/

/-- A new row of a table with a primary key. -/
inductive NewRow where
  | user (row : Account)
  | oauthAccount (row : OAuthAccount)
  | refreshToken (row : RefreshToken)
  | passwordResetToken (row : PasswordResetToken)
  | emailVerificationToken (row : EmailVerificationToken)

/-- Whether the primary key of a new row is taken. -/
def NewRow.taken (db : Db) : NewRow → Bool
  | .user row => (db.users.get row.id).isSome
  | .oauthAccount row => (db.oauthAccounts.get row.id).isSome
  | .refreshToken row => (db.refreshTokens.get row.id).isSome
  | .passwordResetToken row => (db.passwordResetTokens.get row.id).isSome
  | .emailVerificationToken row => (db.emailVerificationTokens.get row.id).isSome

def NewRow.insert (db : Db) : NewRow → Db
  | .user row => { db with users := db.users.put row }
  | .oauthAccount row => { db with oauthAccounts := db.oauthAccounts.put row }
  | .refreshToken row => { db with refreshTokens := db.refreshTokens.put row }
  | .passwordResetToken row => { db with passwordResetTokens := db.passwordResetTokens.put row }
  | .emailVerificationToken row =>
    { db with emailVerificationTokens := db.emailVerificationTokens.put row }

/-- One `INSERT`, or one `UPDATE` of a column, as the unit of work sends it. -/
inductive Write where
  | add (row : NewRow)
  | setRole (userId : Uuid) (role : UserRole)
  | setActive (userId : Uuid) (isActive : Bool)
  | setLastLogin (userId : Uuid) (time : DateTime)
  | setHashedPassword (userId : Uuid) (hashed : String)
  | setRevokedAt (tokenId : Uuid) (time : DateTime)
  | setReplacedById (tokenId newId : Uuid)
  | setUsedAt (resetId : Uuid) (time : DateTime)
  | addAuditLog (entry : AuditLog)

def Write.apply (db : Db) : Write → Db
  | .add row => row.insert db
  | .setRole u role => { db with users := db.users.modify u fun r => { r with role } }
  | .setActive u isActive => { db with users := db.users.modify u fun r => { r with isActive } }
  | .setLastLogin u time =>
    { db with users := db.users.modify u fun r => { r with lastLogin := some time } }
  | .setHashedPassword u hashed =>
    { db with users := db.users.modify u fun r => { r with hashedPassword := some hashed } }
  | .setRevokedAt id time =>
    { db with
      refreshTokens := db.refreshTokens.modify id fun t => { t with revokedAt := some time } }
  | .setReplacedById id newId =>
    { db with
      refreshTokens := db.refreshTokens.modify id fun t => { t with replacedById := some newId } }
  | .setUsedAt id time =>
    { db with
      passwordResetTokens :=
        db.passwordResetTokens.modify id fun t => { t with usedAt := some time } }
  | .addAuditLog e => { db with auditLogs := db.auditLogs ++ [e] }

inductive Stmt where
  /-- `UserRepository.get_by_id`: `session.get`. -/
  | getUser (id : Uuid)
  | getUserByEmail (email : String)
  | getUserByUsername (username : String)
  /-- The first query of `UserRepository.get_by_oauth`. -/
  | getOAuthAccount (subject : String)
  /-- `RefreshTokenRepository.get_by_hash`, without a lock. -/
  | getTokenByHash (tokenHash : String)
  /-- The query of `revoke_family` and `revoke_all_for_user`, without a lock. -/
  | getActiveTokens (set : TokenSet)
  /-- `PasswordResetRepository.get_by_hash`, without a lock. -/
  | getResetByHash (tokenHash : String)
  /-- `session.add` of a new row and its flush with all changes before it, answered with
      whether the primary key was free. -/
  | insert (row : NewRow)
  /-- A change to a loaded object, or a new log row, left to the unit of work. -/
  | write (w : Write)

@[reducible] def Stmt.Resp : Stmt → Type
  | .getUser _ => Option Account
  | .getUserByEmail _ => Option Account
  | .getUserByUsername _ => Option Account
  | .getOAuthAccount _ => Option OAuthAccount
  | .getTokenByHash _ => Option RefreshToken
  | .getActiveTokens _ => List RefreshToken
  | .getResetByHash _ => Option PasswordResetToken
  | .insert _ => Bool
  | .write _ => Unit

/-- The interface of the accounts' database. -/
abbrev accounts : Interface := ⟨Stmt, Stmt.Resp⟩

abbrev Tx (α : Type) : Type := Prog accounts ShopError α

def send (s : Stmt) : Tx s.Resp := Prog.send (I := accounts) s

/-- Leave a change to the unit of work. -/
def write (w : Write) : Tx Unit := send (.write w)

/-- Add a row and flush it. -/
def insert (row : NewRow) : Tx Unit := do
  match ← send (.insert row) with
  | true => pure ()
  | false => .raise .database

/-- A statement on a database nobody else is using. -/
def Stmt.exec : (s : Stmt) → Db → s.Resp × Db
  | .getUser id, db => (db.users.get id, db)
  | .getUserByEmail email, db => (db.userByEmail email, db)
  | .getUserByUsername username, db => (db.userByUsername username, db)
  | .getOAuthAccount subject, db => (db.oauthBy subject, db)
  | .getTokenByHash tokenHash, db => (db.tokenBy tokenHash, db)
  | .getActiveTokens set, db => (db.activeTokens set, db)
  | .getResetByHash tokenHash, db => (db.resetBy tokenHash, db)
  | .insert row, db => if row.taken db then (false, db) else (true, (Write.add row).apply db)
  | .write w, db => ((), w.apply db)

/-- A committed database: its constraints hold. -/
structure Store where
  db : Db
  valid : db.Constraints

def Store.commit {α : Type} : Except ShopError (α × Db) → Except ShopError (α × Store)
  | .error e => .error e
  | .ok (a, db) => if valid : db.Constraints then .ok (a, ⟨db, valid⟩) else .error .database

/-- A transaction that no other overlaps: its answer and the committed database. -/
def Store.transact {α : Type} (store : Store) (program : Tx α) : Except ShopError (α × Store) :=
  Store.commit (program.run Stmt.exec store.db)

theorem Store.transact_ok {α : Type} {store store' : Store} {program : Tx α} {a : α} :
    store.transact program = .ok (a, store') ↔
      program.run Stmt.exec store.db = .ok (a, store'.db) := by
  unfold Store.transact
  cases hrun : program.run Stmt.exec store.db with
  | error e => simp [Store.commit]
  | ok r =>
    obtain ⟨b, db⟩ := r
    simp only [Store.commit]
    constructor
    · intro h
      split at h
      · cases h
        rfl
      · cases h
    · intro h
      cases h
      rw [dif_pos store'.valid]

/-! ## Sessions -/

/-- A row, by its primary key. -/
inductive RowKey where
  | user (id : Uuid)
  | oauthAccount (id : Uuid)
  | refreshToken (id : Uuid)
  | passwordResetToken (id : Uuid)
  | emailVerificationToken (id : Uuid)
  deriving DecidableEq, Repr

def NewRow.key : NewRow → RowKey
  | .user row => .user row.id
  | .oauthAccount row => .oauthAccount row.id
  | .refreshToken row => .refreshToken row.id
  | .passwordResetToken row => .passwordResetToken row.id
  | .emailVerificationToken row => .emailVerificationToken row.id

/-- The row a write locks; a log row is new, and nobody else can write it. -/
def Write.locks : Write → Option RowKey
  | .add row => some row.key
  | .setRole u _ => some (.user u)
  | .setActive u _ => some (.user u)
  | .setLastLogin u _ => some (.user u)
  | .setHashedPassword u _ => some (.user u)
  | .setRevokedAt id _ => some (.refreshToken id)
  | .setReplacedById id _ => some (.refreshToken id)
  | .setUsedAt id _ => some (.passwordResetToken id)
  | .addAuditLog _ => none

structure Session where
  /-- The loaded rows, with the changes made to them. -/
  objects : Db
  /-- The same rows as they were when they were loaded. -/
  loaded : Db
  /-- The changes, flushed or not. -/
  pending : List Write

namespace Session

/-- The database as the transaction sees it. -/
def view (w : Session) (db : Db) : Db := w.pending.foldl Write.apply db

/-- Make a change. -/
def send (w : Session) (x : Write) : Session :=
  { w with objects := x.apply w.objects, pending := w.pending ++ [x] }

/-- Load a row, unless its object is there already. -/
def load (w : Session) (db : Db) : RowKey → Session
  | .user id =>
    { w with
      objects := { w.objects with
        users := w.objects.users.remember w.objects.users (w.view db).users id }
      loaded := { w.loaded with
        users := w.loaded.users.remember w.objects.users (w.view db).users id } }
  | .refreshToken id =>
    { w with
      objects := { w.objects with
        refreshTokens :=
          w.objects.refreshTokens.remember w.objects.refreshTokens (w.view db).refreshTokens id }
      loaded := { w.loaded with
        refreshTokens :=
          w.loaded.refreshTokens.remember w.objects.refreshTokens (w.view db).refreshTokens id } }
  | .passwordResetToken id =>
    { w with
      objects := { w.objects with
        passwordResetTokens := w.objects.passwordResetTokens.remember
          w.objects.passwordResetTokens (w.view db).passwordResetTokens id }
      loaded := { w.loaded with
        passwordResetTokens := w.loaded.passwordResetTokens.remember
          w.objects.passwordResetTokens (w.view db).passwordResetTokens id } }
  | .oauthAccount _ => w
  | .emailVerificationToken _ => w

/-- The object of a user, or else the row. -/
def userObject (w : Session) (row : Account) : Account := (w.objects.users.get row.id).getD row

/-- The object of a token, or else its row. -/
def tokenObject (w : Session) (row : RefreshToken) : RefreshToken :=
  (w.objects.refreshTokens.get row.id).getD row

/-- The object of a reset token, or else its row. -/
def resetObject (w : Session) (row : PasswordResetToken) : PasswordResetToken :=
  (w.objects.passwordResetTokens.get row.id).getD row

end Session

def Stmt.execIn : (s : Stmt) → Session → Db → s.Resp × Session
  | .getUser id, w, db => (w.objects.users.lookup (w.view db).users id, w.load db (.user id))
  | .getUserByEmail email, w, db =>
    match (w.view db).userByEmail email with
    | some row => (some (w.userObject row), w.load db (.user row.id))
    | none => (none, w)
  | .getUserByUsername username, w, db =>
    match (w.view db).userByUsername username with
    | some row => (some (w.userObject row), w.load db (.user row.id))
    | none => (none, w)
  -- the code does not keep the account
  | .getOAuthAccount subject, w, db => ((w.view db).oauthBy subject, w)
  | .getTokenByHash tokenHash, w, db =>
    match (w.view db).tokenBy tokenHash with
    | some row => (some (w.tokenObject row), w.load db (.refreshToken row.id))
    | none => (none, w)
  | .getActiveTokens set, w, db =>
    (((w.view db).activeTokens set).map w.tokenObject,
      ((w.view db).activeTokens set).foldl (fun w row => w.load db (.refreshToken row.id)) w)
  | .getResetByHash tokenHash, w, db =>
    match (w.view db).resetBy tokenHash with
    | some row => (some (w.resetObject row), w.load db (.passwordResetToken row.id))
    | none => (none, w)
  | .insert row, w, db => if row.taken (w.view db) then (false, w) else (true, w.send (.add row))
  | .write x, w, _ => ((), w.send x)

/-- The locks a statement has to be granted: of the rows its flush writes. -/
def Stmt.needs : Stmt → Session → Db → List RowKey
  | .insert row, w, _ => row.key :: w.pending.filterMap Write.locks
  | _, _, _ => []

/-- The accounts' database under concurrent transactions. -/
def engine : Engine accounts ShopError Db Session RowKey where
  start := ⟨Db.empty, Db.empty, []⟩
  need := Stmt.needs
  exec := Stmt.execIn
  needCommit w := w.pending.filterMap Write.locks
  commit w db := if (w.view db).Constraints then .ok (w.view db) else .error .database

theorem engine_commit_ok {w : Session} {db db' : Db} :
    engine.commit w db = .ok db' ↔ (w.view db).Constraints ∧ db' = w.view db := by
  change (if (w.view db).Constraints then Except.ok (w.view db) else _) = Except.ok db' ↔ _
  split <;> simp [*, eq_comm]

theorem engine_commit_error {w : Session} {db : Db} {e : ShopError} :
    engine.commit w db = .error e ↔ ¬ (w.view db).Constraints ∧ e = .database := by
  change (if (w.view db).Constraints then Except.ok (w.view db) else _) = Except.error e ↔ _
  split <;> simp [*, eq_comm]

/-! ## A session that nobody interferes with -/

namespace Session

@[simp] theorem view_send (w : Session) (x : Write) (db : Db) :
    (w.send x).view db = x.apply (w.view db) := by
  simp [view, send]

@[simp] theorem view_load (w : Session) (db db' : Db) (k : RowKey) :
    (w.load db k).view db' = w.view db' := by
  cases k <;> rfl

theorem view_loadTokens (w : Session) (db db' : Db) (rows : List RefreshToken) :
    (rows.foldl (fun w row => w.load db (.refreshToken row.id)) w).view db' = w.view db' := by
  induction rows generalizing w with
  | nil => rfl
  | cons row rest ih => rw [List.foldl_cons, ih, view_load]

/-- The objects are rows of the database as the transaction sees it. -/
structure Coherent (w : Session) (db : Db) : Prop where
  users : Table.Sub w.objects.users (w.view db).users
  refreshTokens : Table.Sub w.objects.refreshTokens (w.view db).refreshTokens
  passwordResetTokens : Table.Sub w.objects.passwordResetTokens (w.view db).passwordResetTokens

namespace Coherent

variable {w : Session} {db : Db}

theorem load (h : w.Coherent db) (k : RowKey) : (w.load db k).Coherent db := by
  obtain ⟨husers, htokens, hresets⟩ := h
  cases k with
  | user id => exact ⟨husers.remember id, htokens, hresets⟩
  | refreshToken id => exact ⟨husers, htokens.remember id, hresets⟩
  | passwordResetToken id => exact ⟨husers, htokens, hresets.remember id⟩
  | oauthAccount id => exact ⟨husers, htokens, hresets⟩
  | emailVerificationToken id => exact ⟨husers, htokens, hresets⟩

theorem loadTokens (h : w.Coherent db) (rows : List RefreshToken) :
    (rows.foldl (fun w row => w.load db (.refreshToken row.id)) w).Coherent db := by
  induction rows generalizing w with
  | nil => exact h
  | cons row rest ih => exact ih (h.load _)

theorem userObject (h : w.Coherent db) {row : Account} (hrow : row ∈ (w.view db).users.rows) :
    w.userObject row = row :=
  h.users.getD (Table.get_of_mem hrow)

theorem tokenObject (h : w.Coherent db) {row : RefreshToken}
    (hrow : row ∈ (w.view db).refreshTokens.rows) : w.tokenObject row = row :=
  h.refreshTokens.getD (Table.get_of_mem hrow)

theorem resetObject (h : w.Coherent db) {row : PasswordResetToken}
    (hrow : row ∈ (w.view db).passwordResetTokens.rows) : w.resetObject row = row :=
  h.passwordResetTokens.getD (Table.get_of_mem hrow)

/-- A change is made to the object as to the row. -/
theorem send (h : w.Coherent db) (x : Write) : (w.send x).Coherent db := by
  obtain ⟨husers, htokens, hresets⟩ := h
  constructor <;> rw [view_send]
  · cases x with
    | add row =>
      cases row with
      | user row => exact husers.put row
      | _ => exact husers
    | setRole u role => exact husers.modify fun _ hk => hk
    | setActive u isActive => exact husers.modify fun _ hk => hk
    | setLastLogin u time => exact husers.modify fun _ hk => hk
    | setHashedPassword u hashed => exact husers.modify fun _ hk => hk
    | _ => exact husers
  · cases x with
    | add row =>
      cases row with
      | refreshToken row => exact htokens.put row
      | _ => exact htokens
    | setRevokedAt id time => exact htokens.modify fun _ hk => hk
    | setReplacedById id newId => exact htokens.modify fun _ hk => hk
    | _ => exact htokens
  · cases x with
    | add row =>
      cases row with
      | passwordResetToken row => exact hresets.put row
      | _ => exact hresets
    | setUsedAt id time => exact hresets.modify fun _ hk => hk
    | _ => exact hresets

end Coherent

end Session

open Session in
/-- Alone, a statement has the answer and the effect that it has on the database the
    session sees. -/
theorem Stmt.execIn_alone (s : Stmt) {w : Session} {db : Db} (h : w.Coherent db) :
    (s.execIn w db).1 = (s.exec (w.view db)).1 ∧
    (s.execIn w db).2.view db = (s.exec (w.view db)).2 ∧ (s.execIn w db).2.Coherent db := by
  cases s with
  | getUser id => exact ⟨h.users.lookup id, view_load .., h.load (.user id)⟩
  | getUserByEmail email =>
    simp only [Stmt.execIn, Stmt.exec]
    cases huser : (w.view db).userByEmail email with
    | none => exact ⟨rfl, rfl, h⟩
    | some row =>
      exact ⟨congrArg some (h.userObject (List.mem_of_find?_eq_some huser)), view_load ..,
        h.load (.user row.id)⟩
  | getUserByUsername username =>
    simp only [Stmt.execIn, Stmt.exec]
    cases huser : (w.view db).userByUsername username with
    | none => exact ⟨rfl, rfl, h⟩
    | some row =>
      exact ⟨congrArg some (h.userObject (List.mem_of_find?_eq_some huser)), view_load ..,
        h.load (.user row.id)⟩
  | getOAuthAccount subject => exact ⟨rfl, rfl, h⟩
  | getTokenByHash tokenHash =>
    simp only [Stmt.execIn, Stmt.exec]
    cases htoken : (w.view db).tokenBy tokenHash with
    | none => exact ⟨rfl, rfl, h⟩
    | some row =>
      exact ⟨congrArg some (h.tokenObject (List.mem_of_find?_eq_some htoken)), view_load ..,
        h.load (.refreshToken row.id)⟩
  | getActiveTokens set =>
    refine ⟨?_, view_loadTokens .., h.loadTokens _⟩
    have hobjects : ∀ row ∈ (w.view db).activeTokens set, w.tokenObject row = row :=
      fun row hrow => h.tokenObject (List.mem_filter.mp hrow).1
    exact (List.map_congr_left hobjects).trans (List.map_id' _)
  | getResetByHash tokenHash =>
    simp only [Stmt.execIn, Stmt.exec]
    cases hreset : (w.view db).resetBy tokenHash with
    | none => exact ⟨rfl, rfl, h⟩
    | some row =>
      exact ⟨congrArg some (h.resetObject (List.mem_of_find?_eq_some hreset)), view_load ..,
        h.load (.passwordResetToken row.id)⟩
  | insert row =>
    simp only [Stmt.execIn, Stmt.exec]
    split
    · exact ⟨rfl, rfl, h⟩
    · exact ⟨rfl, view_send .., h.send _⟩
  | write x => exact ⟨rfl, view_send .., h.send x⟩

/-- So a transaction that nobody interferes with does what it does alone. -/
def implements : engine.Implements Stmt.exec where
  view w db := w.view db
  coherent w db := w.Coherent db
  view_start _ := rfl
  coherent_start _ := ⟨Table.sub_empty _, Table.sub_empty _, Table.sub_empty _⟩
  step s _ _ h := s.execIn_alone h

end Accounts

end ElectronicShop
