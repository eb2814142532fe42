import ElectronicShop.Text.Split

/-!
# CSRF tokens

`app/security/csrf.py` and the middleware of `app/core/middleware.py` that calls it. A token is
a nonce with its signature; the cookie and a header of the request carry the same one. Strings
are compared by `hmac.compare_digest`, which takes ASCII only.
-/

namespace ElectronicShop

namespace Csrf

/-- The exceptions that are raised on the way. -/
inductive PyError where
  | typeError (message : String)
  deriving DecidableEq, Repr

def hexDigits : List Char := "0123456789abcdef".toList

/-- HMAC-SHA256 with the secret key, as `hexdigest` returns it. -/
structure Hmac where
  hexdigest : String → String
  hex : ∀ message, ∀ c ∈ (hexdigest message).toList, c ∈ hexDigits

def urlSafe : List Char :=
  "ABCDEFGHIJKLMNOPQRSTUVWXYZabcdefghijklmnopqrstuvwxyz0123456789-_".toList

/-- What `secrets.token_urlsafe` returns. -/
structure Nonce where
  text : String
  safe : ∀ c ∈ text.toList, c ∈ urlSafe

def IsAscii (s : String) : Prop := ∀ c ∈ s.toList, c.toNat < 128

instance decidableIsAscii (s : String) : Decidable (IsAscii s) :=
  List.decidableBAll (fun c : Char => c.toNat < 128) s.toList

/-- `hmac.compare_digest` of two `str`. -/
def compareDigest (a b : String) : Except PyError Bool :=
  if IsAscii a ∧ IsAscii b then .ok (a = b)
  else .error (.typeError "comparing strings with non-ASCII characters is not supported")

/-- `token.split(".", 1)`, unless there are less than two parts. -/
def splitToken (token : String) : Option (String × String) :=
  (Text.splitOnce '.' token.toList).map (Prod.map String.ofList String.ofList)

def generateCsrfToken (hmac : Hmac) (nonce : Nonce) : String :=
  nonce.text ++ "." ++ hmac.hexdigest nonce.text

def isValidCsrfToken (hmac : Hmac) (token : String) : Except PyError Bool :=
  match splitToken token with
  | none => .ok false
  | some (nonce, signature) => compareDigest signature (hmac.hexdigest nonce)

def csrfTokensMatch (hmac : Hmac) (cookieToken headerToken : Option String) :
    Except PyError Bool :=
  match cookieToken.filter (· ≠ ""), headerToken.filter (· ≠ "") with
  | some cookieToken, some headerToken => do
    if ← compareDigest cookieToken headerToken then isValidCsrfToken hmac cookieToken
    else pure false
  | _, _ => .ok false

/-! ## The middleware -/

def mutatingMethods : List String := ["POST", "PUT", "PATCH", "DELETE"]

/-- What the middleware reads of a request. -/
structure Request where
  method : String
  cookieToken : Option String
  headerToken : Option String
  requestId : Option String
  deriving DecidableEq, Repr

structure JSONError where
  statusCode : Nat
  code : String
  message : String
  requestId : Option String
  deriving DecidableEq, Repr

def csrfValidationFailed (request : Request) : JSONError where
  statusCode := 403
  code := "CSRF_VALIDATION_FAILED"
  message := "اعتبارسنجی درخواست ناموفق بود. صفحه را دوباره بارگذاری کنید."
  requestId := request.requestId

/-- `csrf_protection_middleware`: the request is answered with an error, or else passed on. -/
def csrfProtectionMiddleware (hmac : Hmac) (request : Request) :
    Except PyError (Option JSONError) :=
  if request.method ∈ mutatingMethods ∧ (request.cookieToken.filter (· ≠ "")).isSome then do
    if ← csrfTokensMatch hmac request.cookieToken request.headerToken then pure none
    else pure (some (csrfValidationFailed request))
  else pure none

end Csrf

end ElectronicShop
