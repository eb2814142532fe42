import ElectronicShop.Model.AuthApi

/-!
# A browser and its cookies

`app/common/cookies.py`, and the browser of one user. It keeps the cookies that it is given, and
sends with a request those whose path holds the address of the request. An answer can get lost on
its way back: then the server has done its part, and the browser keeps the cookies it had.
-/

namespace ElectronicShop

namespace Accounts

open Txn

/-! ## Cookies -/

structure Cookie where
  name : String
  value : String
  path : String
  expiresAt : DateTime
  deriving DecidableEq, Repr

/-- The cookies of a browser. -/
abbrev Jar : Type := List Cookie

/-- A cookie takes the place of the one with its name and path. -/
def Jar.setCookie (jar : Jar) (cookie : Cookie) : Jar :=
  cookie :: jar.filter fun c => ¬ (c.name = cookie.name ∧ c.path = cookie.path)

def Jar.deleteCookie (jar : Jar) (name path : String) : Jar :=
  jar.filter fun c => ¬ (c.name = name ∧ c.path = path)

/-- A cookie is for its path and for what is below. -/
def Cookie.isFor (cookie : Cookie) (address : String) : Bool :=
  cookie.path = address ∨
    cookie.path.toList <+: address.toList ∧
      (cookie.path.toList.getLast? = some '/' ∨
        (address.toList.drop cookie.path.toList.length).head? = some '/')

/-- The value that is sent with a request to an address. -/
def Jar.sent (jar : Jar) (address : String) (now : DateTime) (name : String) : Option String :=
  (jar.find? fun c => c.name = name ∧ c.isFor address = true ∧ now < c.expiresAt).map Cookie.value

def accessTokenCookie : String := "access_token"

def refreshTokenCookie : String := "refresh_token"

def csrfCookieName : String := "csrf_token"

/-- The path of the refresh token. -/
def authPath : String := "/api/v1/auth"

/-- What an answer with tokens brings besides them: the text of the access token, the CSRF token,
    and the time at which it arrives. -/
structure Arrival where
  accessText : String
  csrfToken : String
  now : DateTime
  deriving DecidableEq, Repr

/-- `set_auth_cookies`. -/
def setAuthCookies (settings : Settings) (arrival : Arrival) (refreshToken : String) (jar : Jar) :
    Jar :=
  let accessUntil := arrival.now + settings.accessTokenExpireMinutes * microsecondsPerMinute
  let refreshUntil := arrival.now + settings.refreshTokenExpireDays * microsecondsPerDay
  ((jar.setCookie ⟨accessTokenCookie, arrival.accessText, "/", accessUntil⟩).setCookie
    ⟨refreshTokenCookie, refreshToken, authPath, refreshUntil⟩).setCookie
    ⟨csrfCookieName, arrival.csrfToken, "/", refreshUntil⟩

/-- `clear_auth_cookies`. -/
def clearAuthCookies (jar : Jar) : Jar :=
  ((jar.deleteCookie accessTokenCookie "/").deleteCookie refreshTokenCookie authPath).deleteCookie
    csrfCookieName "/"

/-! ## Requests of the browser -/

/-- The refresh token that a request carries. -/
def Request.cookie : Request → Option String
  | .refresh cookie _ _ _ => cookie
  | .logout cookie _ => cookie
  | _ => none

/-- What the browser asks for. A refresh token it takes from its jar. -/
inductive BrowserRequest where
  | refresh (client : ClientMeta) (now : DateTime) (draw : Draw)
  | logout (now : DateTime)
  | other (request : Request) (noCookie : request.cookie = none)

def BrowserRequest.toRequest (jar : Jar) : BrowserRequest → Request
  | .refresh client now draw =>
    .refresh (jar.sent "/api/v1/auth/refresh" now refreshTokenCookie) client now draw
  | .logout now => .logout (jar.sent "/api/v1/auth/logout" now refreshTokenCookie) now
  | .other request _ => request

/-- The endpoints that clear the cookies when they succeed. -/
def Request.clearsCookies : Request → Bool
  | .logout .. | .changePassword .. => true
  | _ => false

/-- The jar after an answer has arrived. -/
def Jar.answered (settings : Settings) (arrival : Arrival) (request : Request)
    (answer : Except ShopError Answer) (jar : Jar) : Jar :=
  match answer with
  | .ok (some tokens) => setAuthCookies settings arrival tokens.refreshToken jar
  | .ok none => if request.clearsCookies = true then clearAuthCookies jar else jar
  | .error _ => jar

/-- The server, and the browser of one user. -/
structure Visit where
  server : State
  jar : Jar

inductive VisitEvent where
  /-- A request of the browser. Its answer arrives. -/
  | answered (request : BrowserRequest) (arrival : Arrival)
  /-- A request of the browser. Its answer is lost. -/
  | unanswered (request : BrowserRequest)
  /-- A request of somebody else. -/
  | elsewhere (request : Request)

/-- The request that the server is sent. -/
def VisitEvent.request (jar : Jar) : VisitEvent → Request
  | .answered request _ => request.toRequest jar
  | .unanswered request => request.toRequest jar
  | .elsewhere request => request

def VisitEvent.step (settings : Settings) (event : VisitEvent) (v : Visit) :
    Except ShopError Visit :=
  let outcome := (event.request v.jar).serve settings v.server
  match event with
  | .answered request arrival =>
    .ok ⟨outcome.2, v.jar.answered settings arrival (request.toRequest v.jar) outcome.1⟩
  | .unanswered _ => .ok ⟨outcome.2, v.jar⟩
  | .elsewhere _ => .ok ⟨outcome.2, v.jar⟩

end Accounts

end ElectronicShop
