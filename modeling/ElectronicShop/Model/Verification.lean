import ElectronicShop.Model.AuthApi

/-!
# Confirming an e-mail address

`AuthService.confirm_email_verification` and its endpoint, as a request that no other overlaps,
beside the requests of `Model/AuthApi`.
-/

namespace ElectronicShop

namespace Accounts

/-- `EmailVerificationRepository.get_by_hash`. -/
def Db.verificationBy (db : Db) (tokenHash : String) : Option EmailVerificationToken :=
  db.emailVerificationTokens.rows.find? fun t => t.tokenHash = tokenHash

namespace AuthService

def invalidVerification : ShopError := .unauthorized "لینک تأیید ایمیل نامعتبر یا منقضی‌شده است."

/-- `confirm_email_verification`, with its two readings of the clock. -/
def confirmEmailVerification (settings : Settings) (token : String) (now usedAt : DateTime)
    (db : Db) : Except ShopError Db :=
  match db.verificationBy (settings.hashToken token) with
  | none => .error invalidVerification
  | some record =>
    if record.usedAt.isSome ∨ record.expiresAt < now then .error invalidVerification
    else
      match db.users.get record.userId with
      | none => .error (.notFound "کاربر پیدا نشد.")
      | some user =>
        .ok { db with
          users := db.users.put { user with isVerified := true }
          emailVerificationTokens :=
            db.emailVerificationTokens.put { record with usedAt := some usedAt } }

end AuthService

/-- `POST /auth/email-verification/confirm`. -/
def State.confirmEmail (s : State) (settings : Settings) (token : String)
    (now usedAt : DateTime) : Except ShopError Answer × State :=
  match AuthService.confirmEmailVerification settings token now usedAt s.db with
  | .error e => (.error e, s)
  | .ok db =>
    if valid : db.Constraints then (.ok none, { s with store := ⟨db, valid⟩ })
    else (.error .database, s)

inductive MailRequest where
  | account (request : Request)
  | confirmEmail (token : String) (now usedAt : DateTime)

/-- A request that no other overlaps: its answer, and the state it leaves. -/
def MailRequest.serve (settings : Settings) (s : State) :
    MailRequest → Except ShopError Answer × State
  | .account request => request.serve settings s
  | .confirmEmail token now usedAt => s.confirmEmail settings token now usedAt

def MailRequest.step (settings : Settings) (request : MailRequest) (s : State) :
    Except ShopError State :=
  .ok (request.serve settings s).2

end Accounts

end ElectronicShop
