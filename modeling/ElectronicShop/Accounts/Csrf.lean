import ElectronicShop.Model.Csrf
import Mathlib.Data.Bool.AllAny

/-!
# What the CSRF check accepts

Two equal signed tokens, and nothing else. But the comparison raises for a cookie or a header
with a character that is not ASCII, and the request is answered with an internal error.
-/

namespace ElectronicShop

namespace Csrf

variable {hmac : Hmac} {a b token : String}

/-! ## Strings -/

theorem isAscii_append : IsAscii (a ++ b) ↔ IsAscii a ∧ IsAscii b := by
  simp only [IsAscii, String.toList_append, List.forall_mem_append]

theorem isAscii_of_subset {chars : List Char} (hchars : ∀ c ∈ chars, c.toNat < 128)
    (h : ∀ c ∈ a.toList, c ∈ chars) : IsAscii a := fun c hc => hchars c (h c hc)

theorem isAscii_hexdigest (hmac : Hmac) (message : String) : IsAscii (hmac.hexdigest message) :=
  isAscii_of_subset (List.all_iff_forall_prop.mp (by decide)) (hmac.hex message)

theorem compareDigest_eq (ha : IsAscii a) (hb : IsAscii b) :
    compareDigest a b = .ok (decide (a = b)) := if_pos ⟨ha, hb⟩

theorem compareDigest_raises (h : ¬ (IsAscii a ∧ IsAscii b)) :
    ∃ e, compareDigest a b = .error e := ⟨_, if_neg h⟩

theorem splitToken_eq_some {nonce signature : String} :
    splitToken token = some (nonce, signature) ↔
      token = nonce ++ "." ++ signature ∧ '.' ∉ nonce.toList := by
  unfold splitToken
  constructor
  · intro h
    obtain ⟨⟨before, after⟩, hsplit, heq⟩ := Option.map_eq_some_iff.mp h
    cases heq
    obtain ⟨hlist, hbefore⟩ := Text.splitOnce_eq_some.mp hsplit
    refine ⟨String.toList_injective ?_, by simpa using hbefore⟩
    rw [hlist]
    simp
  · rintro ⟨rfl, hnonce⟩
    have hlist : (nonce ++ "." ++ signature).toList = nonce.toList ++ '.' :: signature.toList := by
      simp
    rw [hlist, Text.splitOnce_append hnonce]
    simp

theorem splitToken_eq_none : splitToken token = none ↔ '.' ∉ token.toList := by
  unfold splitToken
  rw [Option.map_eq_none_iff, Text.splitOnce_eq_none]

/-! ## Tokens -/

/-- A nonce without a point, and its signature. -/
def Hmac.Signed (hmac : Hmac) (token : String) : Prop :=
  ∃ nonce, '.' ∉ nonce.toList ∧ token = nonce ++ "." ++ hmac.hexdigest nonce

theorem isValidCsrfToken_spec (hmac : Hmac) (htoken : IsAscii token) :
    ∃ verdict, isValidCsrfToken hmac token = .ok verdict ∧
      (verdict = true ↔ hmac.Signed token) := by
  unfold isValidCsrfToken
  cases hsplit : splitToken token with
  | none =>
    refine ⟨false, rfl, iff_of_false Bool.false_ne_true ?_⟩
    rintro ⟨nonce, -, rfl⟩
    exact splitToken_eq_none.mp hsplit (by simp)
  | some parts =>
    obtain ⟨nonce, signature⟩ := parts
    obtain ⟨rfl, hnonce⟩ := splitToken_eq_some.mp hsplit
    have hsignature : IsAscii signature := (isAscii_append.mp htoken).2
    refine ⟨_, compareDigest_eq hsignature (isAscii_hexdigest hmac nonce), ?_⟩
    rw [decide_eq_true_iff]
    constructor
    · rintro rfl
      exact ⟨nonce, hnonce, rfl⟩
    · rintro ⟨nonce', hnonce', heq⟩
      -- there is one way to split the token
      have hsplit' := splitToken_eq_some.mpr ⟨heq, hnonce'⟩
      cases hsplit.symm.trans hsplit'
      rfl

theorem not_mem_of_urlSafe (nonce : Nonce) : '.' ∉ nonce.text.toList := by
  have hpoint : '.' ∉ urlSafe := by decide
  exact fun h => hpoint (nonce.safe _ h)

theorem signed_generateCsrfToken (hmac : Hmac) (nonce : Nonce) :
    hmac.Signed (generateCsrfToken hmac nonce) :=
  ⟨nonce.text, not_mem_of_urlSafe nonce, rfl⟩

theorem isAscii_generateCsrfToken (hmac : Hmac) (nonce : Nonce) :
    IsAscii (generateCsrfToken hmac nonce) := by
  refine isAscii_append.mpr ⟨isAscii_append.mpr ⟨?_, by decide⟩, isAscii_hexdigest hmac _⟩
  exact isAscii_of_subset (List.all_iff_forall_prop.mp (by decide)) nonce.safe

/-! ## The check -/

variable {cookie header : Option String}

/-- Both are there, they are equal, and signed. -/
def Hmac.Matching (hmac : Hmac) (cookie header : Option String) : Prop :=
  ∃ token, cookie = some token ∧ header = some token ∧ hmac.Signed token

/-- The check returns, with true for these pairs only. -/
def Hmac.AcceptsExactly (hmac : Hmac) (cookie header : Option String) : Prop :=
  ∃ verdict, csrfTokensMatch hmac cookie header = .ok verdict ∧
    (verdict = true ↔ hmac.Matching cookie header)

/-- Both are ASCII, or one of them is missing or empty. -/
def Comparable (cookie header : Option String) : Prop :=
  ∀ a ∈ cookie, ∀ b ∈ header, a ≠ "" → b ≠ "" → IsAscii a ∧ IsAscii b

theorem Hmac.Signed.ne_empty (h : hmac.Signed token) : token ≠ "" := by
  obtain ⟨nonce, -, rfl⟩ := h
  intro hempty
  have hlength := congrArg String.length hempty
  simp only [String.length_append] at hlength
  simp at hlength

/-- Of two tokens that are given, the check compares them first. -/
theorem csrfTokensMatch_given (ha : a ≠ "") (hb : b ≠ "") :
    csrfTokensMatch hmac (some a) (some b) = (do
      if ← compareDigest a b then isValidCsrfToken hmac a else pure false) := by
  simp [csrfTokensMatch, Option.filter, ha, hb]

theorem csrfTokensMatch_missing
    (h : cookie.filter (· ≠ "") = none ∨ header.filter (· ≠ "") = none) :
    csrfTokensMatch hmac cookie header = .ok false := by
  unfold csrfTokensMatch
  rcases h with h | h
  · rw [h]
  · rw [h]
    cases cookie.filter (· ≠ "") <;> rfl

theorem filter_given_eq_none {token : Option String} :
    token.filter (· ≠ "") = none ↔ ∀ a ∈ token, a = "" := by
  simp [Option.filter_eq_none_iff]

/-- A pair that cannot be compared is two tokens that are given. -/
theorem not_comparable : ¬ Comparable cookie header ↔ ∃ a b, cookie = some a ∧ header = some b ∧
    a ≠ "" ∧ b ≠ "" ∧ ¬ (IsAscii a ∧ IsAscii b) := by
  unfold Comparable
  push Not
  constructor
  · rintro ⟨a, ha, b, hb, hempty, hempty', hascii⟩
    exact ⟨a, b, ha, hb, hempty, hempty', hascii⟩
  · rintro ⟨a, b, ha, hb, hempty, hempty', hascii⟩
    exact ⟨a, ha, b, hb, hempty, hempty', hascii⟩

theorem csrfTokensMatch_raises (hmac : Hmac) (h : ¬ Comparable cookie header) :
    ∃ e, csrfTokensMatch hmac cookie header = .error e := by
  obtain ⟨a, b, rfl, rfl, ha, hb, hascii⟩ := not_comparable.mp h
  obtain ⟨e, he⟩ := compareDigest_raises hascii
  exact ⟨e, by rw [csrfTokensMatch_given ha hb, he]; rfl⟩

theorem Comparable.acceptsExactly (hmac : Hmac) (h : Comparable cookie header) :
    hmac.AcceptsExactly cookie header := by
  by_cases hgiven : ∃ a b, cookie = some a ∧ header = some b ∧ a ≠ "" ∧ b ≠ ""
  · obtain ⟨a, b, rfl, rfl, ha, hb⟩ := hgiven
    obtain ⟨hascii, hascii'⟩ := h a rfl b rfl ha hb
    unfold Hmac.AcceptsExactly
    rw [csrfTokensMatch_given ha hb, compareDigest_eq hascii hascii']
    by_cases heq : a = b
    · subst heq
      obtain ⟨verdict, hvalid, hsigned⟩ := isValidCsrfToken_spec hmac hascii
      refine ⟨verdict, ?_, hsigned.trans ?_⟩
      · rw [decide_eq_true rfl]
        exact hvalid
      · simp [Hmac.Matching]
    · refine ⟨false, ?_, iff_of_false Bool.false_ne_true ?_⟩
      · rw [decide_eq_false heq]
        rfl
      · rintro ⟨token, hcookie, hheader, -⟩
        cases hcookie
        exact heq (Option.some.inj hheader).symm
  · refine ⟨false, csrfTokensMatch_missing ?_, iff_of_false Bool.false_ne_true ?_⟩
    · rw [filter_given_eq_none, filter_given_eq_none]
      by_contra hboth
      push Not at hboth
      obtain ⟨⟨a, hcookie, ha⟩, b, hheader, hb⟩ := hboth
      exact hgiven ⟨a, b, hcookie, hheader, ha, hb⟩
    · rintro ⟨token, hcookie, hheader, hsigned⟩
      exact hgiven ⟨token, token, hcookie, hheader, hsigned.ne_empty, hsigned.ne_empty⟩

/-- The check returns, with the right verdict, when both are ASCII or one is not given, and
    raises otherwise. A generated token is accepted. -/
theorem csrf_check_exact_iff (hmac : Hmac) :
    (∀ cookie header, hmac.AcceptsExactly cookie header ↔ Comparable cookie header) ∧
    ∀ nonce, csrfTokensMatch hmac (some (generateCsrfToken hmac nonce))
      (some (generateCsrfToken hmac nonce)) = .ok true := by
  refine ⟨fun cookie header => ⟨fun h => ?_, Comparable.acceptsExactly hmac⟩, fun nonce => ?_⟩
  · by_contra hcomparable
    obtain ⟨verdict, hreturns, -⟩ := h
    obtain ⟨e, hraises⟩ := csrfTokensMatch_raises hmac hcomparable
    cases hreturns.symm.trans hraises
  · have hascii := isAscii_generateCsrfToken hmac nonce
    have hcomparable : Comparable (some (generateCsrfToken hmac nonce))
        (some (generateCsrfToken hmac nonce)) := by
      rintro a ⟨⟩ b ⟨⟩ - -
      exact ⟨hascii, hascii⟩
    obtain ⟨verdict, hreturns, haccepts⟩ := hcomparable.acceptsExactly hmac
    rw [hreturns, haccepts.mpr ⟨_, rfl, rfl, signed_generateCsrfToken hmac nonce⟩]

/-- A signature that is always the same. -/
def constantHmac : Hmac where
  hexdigest _ := "0"
  hex _ := List.all_iff_forall_prop.mp (by decide)

/-- Both carry an `é`. -/
theorem csrf_check_exact_fails : ¬ constantHmac.AcceptsExactly (some "é") (some "é") := by
  rintro ⟨verdict, hreturns, -⟩
  cases hreturns

/-! ## The middleware -/

theorem isSome_filter_given {token : Option String} :
    (token.filter (· ≠ "")).isSome ↔ ∃ a, token = some a ∧ a ≠ "" := by
  rw [← Option.ne_none_iff_isSome, Ne, filter_given_eq_none]
  push Not
  rfl

/-- A request that changes something is answered with an internal error when its tokens cannot be
    compared. Otherwise it is passed on if its cookie is not given or the tokens match, as is
    every other request, and else refused. -/
theorem csrfProtectionMiddleware_spec (hmac : Hmac) (request : Request) :
    ((∃ e, csrfProtectionMiddleware hmac request = .error e) ↔
      request.method ∈ mutatingMethods ∧
        ¬ Comparable request.cookieToken request.headerToken) ∧
    (csrfProtectionMiddleware hmac request = .ok none ↔
      request.method ∈ mutatingMethods → (∀ a ∈ request.cookieToken, a = "") ∨
        Comparable request.cookieToken request.headerToken ∧
          hmac.Matching request.cookieToken request.headerToken) := by
  unfold csrfProtectionMiddleware
  by_cases hmutating : request.method ∈ mutatingMethods
  · by_cases hgiven : ∃ a, request.cookieToken = some a ∧ a ≠ ""
    · rw [if_pos ⟨hmutating, isSome_filter_given.mpr hgiven⟩]
      have hnot : ¬ ∀ a ∈ request.cookieToken, a = "" := by
        obtain ⟨a, hcookie, ha⟩ := hgiven
        exact fun h => ha (h a hcookie)
      by_cases hcomparable : Comparable request.cookieToken request.headerToken
      · obtain ⟨verdict, hreturns, hmatching⟩ := hcomparable.acceptsExactly hmac
        rw [hreturns]
        cases verdict <;> simp_all [pure, Except.pure, bind, Except.bind]
      · obtain ⟨e, hraises⟩ := csrfTokensMatch_raises hmac hcomparable
        rw [hraises]
        simp_all [bind, Except.bind]
    · rw [if_neg fun h => hgiven (isSome_filter_given.mp h.2)]
      have hempty : ∀ a ∈ request.cookieToken, a = "" := by
        intro a hcookie
        by_contra ha
        exact hgiven ⟨a, hcookie, ha⟩
      have hcomparable : Comparable request.cookieToken request.headerToken :=
        fun a hcookie _ _ ha => absurd (hempty a hcookie) ha
      simp_all [pure, Except.pure]
  · rw [if_neg fun h => hmutating h.1]
    simp_all [pure, Except.pure]

end Csrf

end ElectronicShop
