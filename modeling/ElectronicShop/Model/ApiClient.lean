import ElectronicShop.Model.Csrf
import ElectronicShop.Text.Separated

/-!
# The client of the storefront

The interceptor of `src/lib/apiClient.ts`, which copies the CSRF cookie into a header, and the
cookies it reads. The browser shows a script its cookies as `name=value`, joined by `"; "`, and
sends the same ones with every request.
-/

namespace ElectronicShop

namespace Csrf

/-- A cookie that a script may read. Browsers take no `;` into a cookie, and a name ends at the
    first `=`. A cookie without a name is shown without the `=`, and is none of these. -/
structure Cookie where
  name : String
  value : String
  named : name ≠ ""
  name_plain : ';' ∉ name.toList ∧ '=' ∉ name.toList
  value_plain : ';' ∉ value.toList

/-- The cookie as `document.cookie` shows it. -/
def Cookie.row (cookie : Cookie) : List Char := cookie.name.toList ++ '=' :: cookie.value.toList

/-- `document.cookie`. -/
def documentCookie (jar : List Cookie) : String :=
  String.ofList ("; ".toList.intercalate (jar.map Cookie.row))

/-- `split` of a string at a separator. -/
def split (s separator : String) : List String :=
  (Text.splitAll separator.toList s.toList).map String.ofList

def startsWith (s start : String) : Prop := start.toList <+: s.toList

instance (s start : String) : Decidable (startsWith s start) :=
  inferInstanceAs (Decidable (_ <+: _))

/-- The `csrfToken` of the interceptor. -/
def csrfToken (cookies : String) : Option String := do
  let row ← (split cookies "; ").find? fun row => startsWith row "csrf_token="
  (split row "=")[1]?

/-- The header `X-CSRF-Token` that the interceptor sets, for the method of the request in lower
    case. An empty string counts as none. -/
def csrfHeader (cookies : String) (method : Option String) : Option String := do
  let token ← csrfToken cookies
  let method ← method
  if token ≠ "" ∧ method ≠ "" ∧ method ∉ ["get", "head"] then some token else none

/-- The method of an HTTP request. -/
def upperCase (method : String) : String := String.ofList (method.toList.map Char.toUpper)

/-- The CSRF cookie that the server reads: the last one of this name. -/
def sentToken (jar : List Cookie) : Option String :=
  (jar.reverse.find? fun cookie => cookie.name = "csrf_token").map Cookie.value

/-- What the server reads of a request of the client. -/
def clientRequest (jar : List Cookie) (method : String) (requestId : Option String) : Request where
  method := upperCase method
  cookieToken := sentToken jar
  headerToken := csrfHeader (documentCookie jar) (some method)
  requestId := requestId

end Csrf

end ElectronicShop
