import ElectronicShop.Model.ApiClient
import ElectronicShop.Accounts.Csrf

/-!
# The CSRF token there and back

The server signs a token and sets it as a cookie; the client finds it among its cookies and sends
it back in a header. The middleware lets every request of the client through, and none that
carries the cookie without the header.
-/

namespace ElectronicShop

namespace Csrf

variable {hmac : Hmac} {jar : List Cookie} {cookie : Cookie}

/-! ## Reading the cookies -/

theorem split_documentCookie (hne : jar ≠ []) :
    split (documentCookie jar) "; " = jar.map fun cookie => String.ofList cookie.row := by
  have hparts : ∀ part ∈ jar.map Cookie.row, ';' ∉ part := by
    intro part hpart
    obtain ⟨cookie, -, rfl⟩ := List.mem_map.mp hpart
    have heq : ';' ≠ '=' := by decide
    simp [Cookie.row, cookie.name_plain.1, cookie.value_plain, heq]
  have hsplit : Text.splitAll "; ".toList ("; ".toList.intercalate (jar.map Cookie.row)) =
      jar.map Cookie.row := Text.splitAll_intercalate hparts (by simpa using hne)
  rw [split, documentCookie]
  simp only [String.toList_ofList]
  exact (congrArg (List.map String.ofList) hsplit).trans List.map_map

/-- The row of a cookie starts with a name and `=` only if this is the name of the cookie. -/
theorem startsWith_row_iff (cookie : Cookie) {name : String} (hname : '=' ∉ name.toList) :
    startsWith (String.ofList cookie.row) (name ++ "=") ↔ cookie.name = name := by
  unfold startsWith Cookie.row
  rw [String.toList_ofList, String.toList_append]
  constructor
  · rintro ⟨rest, hrest⟩
    have hsplit : Text.splitOnce '=' (name.toList ++ '=' :: rest) = some (name.toList, rest) :=
      Text.splitOnce_append hname
    have hsplit' : Text.splitOnce '=' (cookie.name.toList ++ '=' :: cookie.value.toList) =
        some (cookie.name.toList, cookie.value.toList) :=
      Text.splitOnce_append cookie.name_plain.2
    rw [← hrest] at hsplit'
    have hsame : some (name.toList, rest) = some (cookie.name.toList, cookie.value.toList) := by
      rw [← hsplit, ← hsplit']
      simp
    exact String.toList_injective (Prod.ext_iff.mp (Option.some.inj hsame)).1.symm
  · rintro rfl
    exact ⟨cookie.value.toList, by simp⟩

/-- The value of a cookie that the server has set has no `=` in it. -/
theorem eq_not_mem_generateCsrfToken (hmac : Hmac) (nonce : Nonce) :
    '=' ∉ (generateCsrfToken hmac nonce).toList := by
  have hnonce : '=' ∉ nonce.text.toList := fun h =>
    absurd (nonce.safe _ h) (by decide)
  have hsignature : '=' ∉ (hmac.hexdigest nonce.text).toList := fun h =>
    absurd (hmac.hex _ _ h) (by decide)
  simp [generateCsrfToken, hnonce, hsignature]

theorem split_row {name value : String} (hname : '=' ∉ name.toList) (hvalue : '=' ∉ value.toList) :
    split (String.ofList (name.toList ++ '=' :: value.toList)) "=" = [name, value] := by
  have hparts : ∀ part ∈ [name.toList, value.toList], '=' ∉ part := by simp [hname, hvalue]
  have hsplit : Text.splitAll "=".toList ("=".toList.intercalate [name.toList, value.toList]) =
      [name.toList, value.toList] := Text.splitAll_intercalate hparts (List.cons_ne_nil _ _)
  have hjoin : "=".toList.intercalate [name.toList, value.toList] =
      name.toList ++ '=' :: value.toList := by simp [List.intercalate]
  rw [hjoin] at hsplit
  rw [split]
  simp only [String.toList_ofList]
  refine (congrArg (List.map String.ofList) hsplit).trans ?_
  simp

/-- The CSRF cookie of the jar is one that `set_auth_cookies` has set. As it is always set for the
    same path, there is at most one. -/
structure SetBy (hmac : Hmac) (jar : List Cookie) : Prop where
  generated : ∀ cookie ∈ jar, cookie.name = "csrf_token" →
    ∃ nonce, cookie.value = generateCsrfToken hmac nonce
  single : (jar.filter fun cookie => cookie.name = "csrf_token").length ≤ 1

/-- The last of at most one is the first. -/
theorem find?_reverse_of_single {α : Type} {p : α → Bool} {xs : List α}
    (h : (xs.filter p).length ≤ 1) : xs.reverse.find? p = xs.find? p := by
  rw [← List.head?_filter, ← List.head?_filter, List.filter_reverse, List.head?_reverse]
  cases hfilter : xs.filter p with
  | nil => rfl
  | cons x rest =>
    cases rest with
    | nil => rfl
    | cons y rest => simp [hfilter] at h

theorem SetBy.sentToken_eq (hset : SetBy hmac jar) :
    sentToken jar = (jar.find? fun cookie => cookie.name = "csrf_token").map Cookie.value :=
  congrArg (Option.map Cookie.value) (find?_reverse_of_single hset.single)

/-- The client finds the cookie that the server reads. -/
theorem csrfToken_documentCookie (hset : SetBy hmac jar) :
    csrfToken (documentCookie jar) = sentToken jar := by
  rw [hset.sentToken_eq]
  by_cases hne : jar = []
  · subst hne
    decide
  · have hname : '=' ∉ "csrf_token".toList := by decide
    have hfind : (jar.find? fun cookie => startsWith (String.ofList cookie.row) "csrf_token=") =
        jar.find? fun cookie => cookie.name = "csrf_token" := by
      congr 1
      funext cookie
      exact decide_eq_decide.mpr (startsWith_row_iff cookie hname)
    unfold csrfToken
    rw [split_documentCookie hne, List.find?_map]
    have hfind' : List.find? ((fun row => decide (startsWith row "csrf_token=")) ∘
        fun cookie : Cookie => String.ofList cookie.row) jar =
          jar.find? fun cookie => cookie.name = "csrf_token" := hfind
    rw [hfind']
    cases hfound : jar.find? fun cookie => cookie.name = "csrf_token" with
    | none => rfl
    | some cookie =>
      have hcookie : cookie.name = "csrf_token" := by simpa using List.find?_some hfound
      obtain ⟨nonce, hvalue⟩ := hset.generated cookie (List.mem_of_find?_eq_some hfound) hcookie
      have hrow : split (String.ofList cookie.row) "=" = [cookie.name, cookie.value] :=
        split_row cookie.name_plain.2 (hvalue ▸ eq_not_mem_generateCsrfToken hmac nonce)
      simp [hrow]

/-! ## The middleware and the client -/

theorem sentToken_cases (hset : SetBy hmac jar) :
    sentToken jar = none ∨ ∃ nonce, sentToken jar = some (generateCsrfToken hmac nonce) := by
  rw [hset.sentToken_eq]
  cases hfound : jar.find? fun cookie => cookie.name = "csrf_token" with
  | none => exact Or.inl rfl
  | some cookie =>
    obtain ⟨nonce, hvalue⟩ := hset.generated cookie (List.mem_of_find?_eq_some hfound)
      (by simpa using List.find?_some hfound)
    exact Or.inr ⟨nonce, congrArg some hvalue⟩

/-- A method that changes something is one for which the client sets the header. -/
theorem sets_header {method : String} (hmutating : upperCase method ∈ mutatingMethods) :
    method ≠ "" ∧ method ≠ "get" ∧ method ≠ "head" := by
  refine ⟨?_, ?_, ?_⟩
  · rintro rfl
    exact absurd hmutating (by decide)
  · rintro rfl
    exact absurd hmutating (by decide)
  · rintro rfl
    exact absurd hmutating (by decide)

/-- Whatever other cookies there are, every request of the client passes the CSRF check; and
    whoever sends the same cookie with another header, or with none, does not change anything. -/
theorem client_passes_csrf (hset : SetBy hmac jar) (method : String) (requestId : Option String) :
    csrfProtectionMiddleware hmac (clientRequest jar method requestId) = .ok none ∧
    ∀ token headerToken, sentToken jar = some token → headerToken ≠ some token →
      upperCase method ∈ mutatingMethods →
      csrfProtectionMiddleware hmac { clientRequest jar method requestId with headerToken } ≠
        .ok none := by
  have hcookie : (clientRequest jar method requestId).cookieToken = sentToken jar := rfl
  constructor
  · refine (csrfProtectionMiddleware_spec hmac _).2.mpr fun hmutating => ?_
    rw [hcookie]
    rcases sentToken_cases hset with hnone | ⟨nonce, htoken⟩
    · rw [hnone]
      exact Or.inl fun a ha => by cases ha
    · have hheader : (clientRequest jar method requestId).headerToken =
          some (generateCsrfToken hmac nonce) := by
        have hsigned := signed_generateCsrfToken hmac nonce
        obtain ⟨hempty, hget, hhead⟩ := sets_header hmutating
        simp [clientRequest, csrfHeader, csrfToken_documentCookie hset, htoken, hempty, hget, hhead,
          hsigned.ne_empty]
      rw [htoken, hheader]
      have hascii := isAscii_generateCsrfToken hmac nonce
      refine Or.inr ⟨?_, _, rfl, rfl, signed_generateCsrfToken hmac nonce⟩
      rintro a ⟨⟩ b ⟨⟩ - -
      exact ⟨hascii, hascii⟩
  · intro token headerToken htoken hother hmutating hpassed
    rcases (csrfProtectionMiddleware_spec hmac _).2.mp hpassed hmutating with hempty |
      ⟨-, token', hsame, hheader, -⟩
    · rcases sentToken_cases hset with hnone | ⟨nonce, hgenerated⟩
      · cases htoken.symm.trans hnone
      · exact (signed_generateCsrfToken hmac nonce).ne_empty
          (hempty _ (hcookie.trans hgenerated))
    · rw [hcookie, htoken] at hsame
      cases hsame
      exact hother hheader

def themeCookie : Cookie where
  name := "theme"
  value := "csrf_token=dark"
  named := by decide
  name_plain := by decide
  value_plain := by decide

def someNonce : Nonce where
  text := "Zm9v_-"
  safe := List.all_iff_forall_prop.mp (by decide)

def csrfCookie : Cookie where
  name := "csrf_token"
  value := generateCsrfToken constantHmac someNonce
  named := by decide
  name_plain := by decide
  value_plain := by decide

theorem client_passes_csrf_theme :
    clientRequest [themeCookie, csrfCookie] "post" none =
      ⟨"POST", some "Zm9v_-.0", some "Zm9v_-.0", none⟩ ∧
    csrfProtectionMiddleware constantHmac
      (clientRequest [themeCookie, csrfCookie] "post" none) = .ok none ∧
    ∀ token headerToken, sentToken [themeCookie, csrfCookie] = some token →
      headerToken ≠ some token → upperCase "post" ∈ mutatingMethods →
      csrfProtectionMiddleware constantHmac
        { clientRequest [themeCookie, csrfCookie] "post" none with headerToken } ≠ .ok none := by
  have hset : SetBy constantHmac [themeCookie, csrfCookie] := by
    refine ⟨fun cookie hcookie hname => ?_, by decide⟩
    rcases List.mem_pair.mp hcookie with rfl | rfl
    · exact absurd hname (by decide)
    · exact ⟨someNonce, rfl⟩
  exact ⟨by decide, client_passes_csrf hset "post" none⟩

end Csrf

end ElectronicShop
