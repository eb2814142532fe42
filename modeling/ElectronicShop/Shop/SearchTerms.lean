import ElectronicShop.Shop.Paging

/-!
# Search terms

A term is put into a pattern as it is, so that a `%`, a `_` or a backslash in it means something
else. Arabic and Persian letters are taken for the same in names and descriptions, but not in
SKUs and brands.
-/

namespace ElectronicShop

open Text

/-! ## What a search returns -/

section Results

variable {locale : Locale} {a : Assortment} {f : ProductFilters} {S T : Product → Prop}

/-- A search without a bound on the page returns these products, in every order that the database
    may choose. -/
def Assortment.Returns (locale : Locale) (a : Assortment) (f : ProductFilters)
    (S : Product → Prop) : Prop :=
  ∀ o : SortOrder, ∀ orderBy, o.Sorts locale a orderBy →
    ∀ limit, a.store.db.products.rows.length ≤ limit → ∃ ps total,
      a.search locale f 0 limit orderBy = .ok (ps, total) ∧ ps.Nodup ∧ ∀ p, p ∈ ps ↔ S p

theorem Assortment.returns_iff : a.Returns locale f S ↔
    f.Sendable ∧ ∀ p, p ∈ a.baseQuery locale f ↔ S p := by
  have hnodup : (a.baseQuery locale f).Nodup :=
    (List.Nodup.of_map _ a.store.db.products.nodup).filter _
  have hshort : (a.baseQuery locale f).length ≤ a.store.db.products.rows.length :=
    List.length_filter_le _ _
  constructor
  · intro h
    -- any order will do
    let o : SortOrder := ⟨.price, false⟩
    obtain ⟨ps, total, hsearch, -, hmem⟩ :=
      h o (o.insertion locale a) (o.insertion_sorts locale a) _ (Nat.le_refl _)
    unfold Assortment.search at hsearch
    split at hsearch
    · rename_i hsend
      refine ⟨hsend.1, fun p => ?_⟩
      have hps := congrArg Prod.fst (Except.ok.inj hsearch)
      dsimp only at hps
      rw [List.drop_zero, List.take_of_length_le (by
        rw [(o.insertion_sorts locale a _).perm.length_eq]
        exact hshort)] at hps
      rw [← hmem p, ← hps, (o.insertion_sorts locale a _).perm.mem_iff]
    · cases hsearch
  · rintro ⟨hsend, hmem⟩ o orderBy horder limit hlimit
    have hsorting := horder (a.baseQuery locale f)
    refine ⟨orderBy (a.baseQuery locale f), (a.baseQuery locale f).length, ?_,
      hsorting.perm.nodup_iff.mpr hnodup, fun p => ?_⟩
    · unfold Assortment.search
      rw [if_pos ⟨hsend, Nat.two_pow_pos 63⟩]
      dsimp only
      rw [List.drop_zero, List.take_of_length_le]
      rw [hsorting.perm.length_eq]
      exact hshort.trans hlimit
    · rw [hsorting.perm.mem_iff, hmem]

end Results

/-- A search for a term, with no other filter. -/
def searchFor (term : String) : ProductFilters where
  categoryId := none
  brand := none
  minPrice := none
  maxPrice := none
  inStockOnly := false
  search := some term
  isFeatured := none
  isActive := some true

section Terms

variable {locale : Locale} {a : Assortment} {term other : String} {p : Product}

theorem mem_baseQuery_searchFor : p ∈ a.baseQuery locale (searchFor term) ↔
    p ∈ a.store.db.products.rows ∧ p.isActive = true ∧
      (term ≠ "" → matchesSearch locale term p = true) := by
  have hgiven : (given (some term)).all (matchesSearch locale · p) = true ↔
      (term ≠ "" → matchesSearch locale term p = true) := by
    by_cases hterm : term = ""
    · simp [given, Option.filter, hterm]
    · simp [given, Option.filter, hterm]
  have hbrand : given none = none := rfl
  simp only [Assortment.baseQuery, List.mem_filter, ProductFilters.admits, searchFor,
    Bool.and_eq_true, hgiven, hbrand, Option.all_none, Option.all_some, Bool.not_false,
    Bool.true_or, decide_eq_true_iff, true_and, and_true]

theorem mem_normalizedTerm {x : Char} (hx : x ≠ '%') :
    x ∈ normalizedTerm term ↔ x ∈ strip term.toList := by
  simp [normalizedTerm, hx]

theorem searchFor_sendable :
    (searchFor term).Sendable ↔ Char.ofNat 0 ∉ strip term.toList := by
  have hnul : Char.ofNat 0 ≠ '%' := by decide
  have hbrand : ∀ brand ∈ given none, fitsText brand := fun _ h => by cases h
  have hprice : ∀ x ∈ (none : Option ℚ), fitsNumeric 12 (numeric x) := fun _ h => by cases h
  unfold ProductFilters.Sendable
  rw [show (searchFor term).brand = none from rfl,
    show (searchFor term).search = some term from rfl,
    show (searchFor term).minPrice = none from rfl,
    show (searchFor term).maxPrice = none from rfl, and_iff_right hbrand,
    and_iff_left (And.intro hprice hprice)]
  by_cases hterm : term = ""
  · subst hterm
    exact iff_of_true (fun _ h => by cases h) (by decide)
  · simp [given, Option.filter, hterm, mem_normalizedTerm hnul]

/-! ## The two spellings -/

theorem normalizeChar_of_not_mem {x : Char} (hx : x ∉ persianNormalizeFrom) :
    normalizeChar x = x := by
  simp only [persianNormalizeFrom, List.mem_cons, List.not_mem_nil, or_false, not_or] at hx
  have hyeh : (x == 'ي') = false := beq_false_of_ne hx.1
  have hkaf : (x == 'ك') = false := beq_false_of_ne hx.2
  have hlookup : (persianNormalizeFrom.zip persianNormalizeTo).lookup x = none := by
    simp only [persianNormalizeFrom, persianNormalizeTo, List.zip_cons_cons, List.zip_nil_right,
      List.lookup_cons, List.lookup_nil, hyeh, hkaf]
  unfold normalizeChar
  rw [hlookup]
  rfl

theorem normalizeChar_fixes : Fixes normalizeChar wildcards := by
  have hvariants : (persianNormalizeFrom.all fun y => wildcards.all fun x =>
      decide (normalizeChar y = x ↔ y = x)) = true := by decide
  intro x hx y
  by_cases hy : y ∈ persianNormalizeFrom
  · exact List.all_iff_forall_prop.mp (List.all_eq_true.mp hvariants y hy) x hx
  · rw [normalizeChar_of_not_mem hy]

theorem lower_fixes (locale : Locale) : Fixes locale.lower wildcards := fun x hx =>
  locale.lower_uncased x (List.mem_append_left _ (List.mem_append_left _ hx))

/-- How names and descriptions are compared. -/
def Locale.folded (locale : Locale) : Char → Char := locale.lower ∘ normalizeChar

theorem folded_fixes (locale : Locale) : Fixes locale.folded wildcards :=
  (lower_fixes locale).comp normalizeChar_fixes

theorem ilike_normalized (locale : Locale) (text pattern : List Char) :
    ilike locale (normalizePersian text) (normalizePersian pattern) =
      like (text.map locale.folded) (pattern.map locale.folded) := by
  simp only [ilike, normalizePersian, List.map_map, Locale.folded]

theorem matchesSearch_eq (locale : Locale) (term : String) (p : Product) :
    matchesSearch locale term p = (
      like (p.name.toList.map locale.folded) ((normalizedTerm term).map locale.folded) ||
      like (p.description.toList.map locale.folded) ((normalizedTerm term).map locale.folded) ||
      like (p.sku.toList.map locale.lower) ((normalizedTerm term).map locale.lower) ||
      like (p.brand.toList.map locale.lower) ((normalizedTerm term).map locale.lower)) := by
  rw [matchesSearch, ilike_normalized, ilike_normalized]
  rfl

/-- The letters that have two spellings. -/
def spellings : List Char := persianNormalizeFrom ++ persianNormalizeTo

/-- In a text without them, the spelling makes no difference. -/
theorem infix_folded {part text : List Char} (h : ∀ x ∈ part, x ∉ spellings) :
    part.map locale.folded <:+: text.map locale.folded ↔
      part.map locale.lower <:+: text.map locale.lower := by
  have hspellings : ∀ x ∈ spellings, x ∈ uncased := List.all_iff_forall_prop.mp (by decide)
  have hnormal : ∀ y ∈ persianNormalizeFrom, y ∈ spellings ∧ normalizeChar y ∈ spellings :=
    List.all_iff_forall_prop.mp (by decide)
  have hpart : part.map locale.folded = part.map locale.lower := by
    refine List.map_congr_left fun x hx => congrArg locale.lower (normalizeChar_of_not_mem ?_)
    exact fun hfrom => h x hx (hnormal x hfrom).1
  rw [hpart]
  refine infix_map_congr fun x hx y => ?_
  obtain ⟨z, hz, rfl⟩ := List.mem_map.mp hx
  by_cases hy : y ∈ persianNormalizeFrom
  · -- neither spelling is the lower case of another letter
    have hother : ∀ w ∈ spellings, locale.lower w ≠ locale.lower z := by
      intro w hw heq
      rw [(locale.lower_uncased w (hspellings w hw) w).mpr rfl] at heq
      exact h z hz ((locale.lower_uncased w (hspellings w hw) z).mp heq.symm ▸ hw)
    exact iff_of_false (hother _ (hnormal y hy).2) (hother _ (hnormal y hy).1)
  · unfold Locale.folded
    rw [Function.comp_apply, normalizeChar_of_not_mem hy]

/-! ## Literal terms -/

/-- A text contains another one, but for the case of the letters. -/
def Locale.Contains (locale : Locale) (text part : List Char) : Prop :=
  part.map locale.lower <:+: text.map locale.lower

instance decidableContains (locale : Locale) (text part : List Char) :
    Decidable (locale.Contains text part) := inferInstanceAs (Decidable (_ <:+: _))

/-- A term is in one of the four columns. -/
def Product.Mentions (locale : Locale) (p : Product) (term : List Char) : Prop :=
  locale.Contains p.name.toList term ∨ locale.Contains p.description.toList term ∨
    locale.Contains p.sku.toList term ∨ locale.Contains p.brand.toList term

instance decidableMentions (locale : Locale) (p : Product) (term : List Char) :
    Decidable (p.Mentions locale term) := inferInstanceAs (Decidable (_ ∨ _))

/-- The search returns the active products that mention the term. -/
def SearchesLiterally (locale : Locale) (a : Assortment) (term : String) : Prop :=
  a.Returns locale (searchFor term) fun p =>
    p ∈ a.store.db.products.rows ∧ p.isActive = true ∧ p.Mentions locale (strip term.toList)

theorem matchesSearch_literal (hliteral : Literal (strip term.toList))
    (hletters : ∀ x ∈ strip term.toList, x ∉ spellings) :
    matchesSearch locale term p = true ↔ p.Mentions locale (strip term.toList) := by
  rw [matchesSearch_eq]
  simp only [Bool.or_eq_true, or_assoc, normalizedTerm,
    like_literal_map (folded_fixes locale) hliteral,
    like_literal_map (lower_fixes locale) hliteral, infix_folded hletters]
  rfl

theorem mem_of_mem_strip {x : Char} {text : List Char} (h : x ∈ strip text) : x ∈ text :=
  (List.dropWhile_sublist _).subset ((List.rdropWhile_prefix _ _).subset h)

theorem searchesLiterally_of_literal (hliteral : Literal (strip term.toList))
    (hnul : Char.ofNat 0 ∉ strip term.toList) (hletters : ∀ x ∈ term.toList, x ∉ spellings) :
    SearchesLiterally locale a term := by
  refine Assortment.returns_iff.mpr ⟨searchFor_sendable.mpr hnul, fun p => ?_⟩
  rw [mem_baseQuery_searchFor,
    matchesSearch_literal hliteral fun x hx => hletters x (mem_of_mem_strip hx)]
  refine and_congr_right fun _ => and_congr_right fun _ => ⟨fun h => ?_, fun h _ => h⟩
  by_cases hterm : term = ""
  · subst hterm
    exact Or.inl List.nil_infix
  · exact h hterm

/-! ## Terms that are not literal -/

/-- A product of which only the description and the brand say something. -/
def describedAs (description brand : String) : Product :=
  ⟨10, "", "", "", "", description, 1, none, brand, 20, some [], some [], true, false, false⟩

theorem describedAs_fits {description brand : String} (hdescription : fitsText description)
    (hbrand : fitsVarchar 100 brand) : (describedAs description brand).fits := by
  have hprice : fitsNumeric 12 1 := by decide
  have hempty : ∀ n, fitsVarchar n "" := fun n => ⟨Nat.zero_le n, List.not_mem_nil⟩
  refine ⟨hprice, fun _ h => (by cases h), hempty _, hempty _, hempty _, hempty _, hdescription,
    hbrand, ?_, ?_⟩ <;> simp [describedAs]

/-- A shop with this product only. -/
def onlyProduct (p : Product) (hp : p.fits) : Assortment where
  store :=
    { db := { Db.empty with products := ⟨[p], List.nodup_singleton _⟩ }
      valid :=
        { inventory := List.forall_mem_nil _
          products := List.forall_mem_singleton.mpr hp
          skus := List.nodup_singleton _
          slugs := List.nodup_singleton _
          orders := List.forall_mem_nil _
          statusHistory := List.forall_mem_nil _
          payments := List.forall_mem_nil _
          authorities := List.nodup_nil
          wallets := List.forall_mem_nil _
          walletTransactions := List.forall_mem_nil _ } }
  updatedAt _ := 0
  createdAt _ := 0

theorem mem_rows_onlyProduct {r : Product} (hp : p.fits) :
    r ∈ (onlyProduct p hp).store.db.products.rows ↔ r = p := List.mem_singleton

/-- The tokens of a term, and of the `%` behind it. -/
theorem exists_tokens (term : String) :
    ∃ tokens, likeTokens false (strip term.toList ++ ['%']) = some tokens :=
  likeTokens_percent false _

/-- The shortest text in which a term is found can be stored. -/
theorem fitsText_shortest {text : List Char} {tokens : List LikeToken}
    (h : likeTokens false (text ++ ['%']) = some tokens) (hnul : Char.ofNat 0 ∉ text) :
    fitsText (String.ofList (LikeToken.shortest tokens)) := by
  unfold fitsText
  rw [String.toList_ofList]
  intro hmem
  rcases mem_shortest h _ hmem with hpattern | hx
  · rcases List.mem_append.mp hpattern with htext | hpercent
    · exact hnul htext
    · exact absurd (List.mem_singleton.mp hpercent) (by decide)
  · exact absurd hx (by decide)

/-- It is found in it. -/
theorem like_shortest {f : Char → Char} (hf : Fixes f wildcards) {tokens : List LikeToken}
    (h : likeTokens false (strip term.toList ++ ['%']) = some tokens) :
    like ((LikeToken.shortest tokens).map f) ((normalizedTerm term).map f) = true := by
  rw [normalizedTerm, like_percent_map hf h]
  exact matchAll_any.mpr ⟨_, List.suffix_rfl, matchAll_shortest f tokens⟩

theorem literal_of_searchesLiterally
    (h : ∀ a, SearchesLiterally locale a term) :
    Literal (strip term.toList) ∧ Char.ofNat 0 ∉ strip term.toList := by
  have hempty : fitsText "" ∧ fitsVarchar 100 "" := by decide
  have hnul : Char.ofNat 0 ∉ strip term.toList := by
    have hreturns := h (onlyProduct (describedAs "" "") (describedAs_fits hempty.1 hempty.2))
    exact searchFor_sendable.mp (Assortment.returns_iff.mp hreturns).1
  refine ⟨?_, hnul⟩
  obtain ⟨tokens, htokens⟩ := exists_tokens term
  have hfits := describedAs_fits (fitsText_shortest htokens hnul) hempty.2
  obtain ⟨-, hmem⟩ := Assortment.returns_iff.mp (h (onlyProduct _ hfits))
  by_cases hterm : term = ""
  · subst hterm
    exact List.forall_mem_nil _
  · -- the product whose description is that text is found, and so mentions the term
    have hmentions := ((hmem _).mp (mem_baseQuery_searchFor.mpr
      ⟨(mem_rows_onlyProduct hfits).mpr rfl, rfl, fun _ => by
        rw [matchesSearch_eq]
        have hfound := like_shortest (folded_fixes locale) htokens
        simp only [describedAs, String.toList_ofList, hfound, Bool.or_true, Bool.true_or]⟩)).2.2
    have hnothing : locale.Contains [] (strip term.toList) → Literal (strip term.toList) := by
      intro hcontains
      have hnil := List.map_eq_nil_iff.mp (List.infix_nil.mp hcontains)
      rw [hnil]
      exact List.forall_mem_nil _
    rcases hmentions with hname | hdescription | hsku | hbrand
    · exact hnothing hname
    · refine literal_of_shortest_eq (lower_fixes locale) htokens ?_
      simp only [describedAs, String.toList_ofList, Locale.Contains] at hdescription
      have hle := length_shortest_term htokens
      refine (hdescription.eq_of_length_le ?_).symm
      simpa using hle
    · exact hnothing hsku
    · exact hnothing hbrand

/-- For a term without the letters that have two spellings, the search returns the active
    products that mention it, whatever the products are, exactly if the term without the blanks
    around it has no `%`, no `_`, no backslash and no NUL. -/
theorem search_literal_iff (locale : Locale) (term : String)
    (hletters : ∀ x ∈ term.toList, x ∉ spellings) :
    (∀ a, SearchesLiterally locale a term) ↔
      Literal (strip term.toList) ∧ Char.ofNat 0 ∉ strip term.toList :=
  ⟨literal_of_searchesLiterally, fun h _ => searchesLiterally_of_literal h.1 h.2 hletters⟩

/-- Blanks around a term are not part of it. -/
theorem search_literal_usb : SearchesLiterally cLocale twoCables " USB " :=
  (search_literal_iff cLocale " USB " (List.all_iff_forall_prop.mp (by decide))).mpr (by decide)
    twoCables

/-- An underscore finds a hyphen. -/
theorem search_literal_fails : ¬ SearchesLiterally cLocale twoCables "USB_A" := by
  intro h
  obtain ⟨-, hmem⟩ := Assortment.returns_iff.mp h
  have hfound : ∃ p ∈ twoCables.baseQuery cLocale (searchFor "USB_A"),
      ¬ p.Mentions cLocale (strip "USB_A".toList) := by decide +kernel
  obtain ⟨p, hp, hnot⟩ := hfound
  exact hnot ((hmem p).mp hp).2.2

/-! ## Two spellings of a term -/

/-- The two comparisons that take the two spellings for the same. -/
def Locale.findsText (locale : Locale) (term : String) (p : Product) : Bool :=
  ilike locale (normalizePersian p.name.toList) (normalizePersian (normalizedTerm term)) ||
  ilike locale (normalizePersian p.description.toList) (normalizePersian (normalizedTerm term))

/-- The two that do not. -/
def Locale.findsCode (locale : Locale) (term : String) (p : Product) : Bool :=
  ilike locale p.sku.toList (normalizedTerm term) ||
  ilike locale p.brand.toList (normalizedTerm term)

theorem matchesSearch_iff : matchesSearch locale term p = true ↔
    locale.findsText term p = true ∨ locale.findsCode term p = true := by
  simp only [matchesSearch, Locale.findsText, Locale.findsCode, Bool.or_eq_true, or_assoc]

/-- One set of products for both terms. -/
def SameResults (locale : Locale) (a : Assortment) (term other : String) : Prop :=
  ∃ S, a.Returns locale (searchFor term) S ∧ a.Returns locale (searchFor other) S

theorem sameResults_iff_baseQuery : SameResults locale a term other ↔
    (searchFor term).Sendable ∧ (searchFor other).Sendable ∧
      ∀ p, p ∈ a.baseQuery locale (searchFor term) ↔
        p ∈ a.baseQuery locale (searchFor other) := by
  unfold SameResults
  simp only [Assortment.returns_iff]
  constructor
  · rintro ⟨S, ⟨hsend, hmem⟩, hsend', hmem'⟩
    exact ⟨hsend, hsend', fun p => (hmem p).trans (hmem' p).symm⟩
  · rintro ⟨hsend, hsend', hmem⟩
    exact ⟨_, ⟨hsend, fun _ => Iff.rfl⟩, hsend', fun p => (hmem p).symm⟩

theorem strip_normalizePersian (text : List Char) :
    strip (normalizePersian text) = normalizePersian (strip text) := by
  have hblank : whitespace.contains ∘ normalizeChar = whitespace.contains := by
    have hvariants : ∀ x ∈ persianNormalizeFrom,
        whitespace.contains (normalizeChar x) = whitespace.contains x :=
      List.all_iff_forall_prop.mp (by decide)
    funext x
    by_cases hx : x ∈ persianNormalizeFrom
    · exact hvariants x hx
    · rw [Function.comp_apply, normalizeChar_of_not_mem hx]
  unfold strip normalizePersian List.rdropWhile
  rw [List.dropWhile_map, hblank, ← List.map_reverse, List.dropWhile_map, hblank, List.map_reverse]

/-- The empty term is found in every text. -/
theorem findsText_empty (locale : Locale) (p : Product) : locale.findsText "" p = true := by
  have hname : like (p.name.toList.map locale.folded) ((normalizedTerm "").map locale.folded) =
      true := (like_literal_map (folded_fixes locale) (List.forall_mem_nil _)).mpr List.nil_infix
  rw [Locale.findsText, ilike_normalized, hname, Bool.true_or]

section Spelling

variable (h : normalizePersian term.toList = normalizePersian other.toList)

include h

theorem strip_spelling : (strip term.toList).map normalizeChar =
    (strip other.toList).map normalizeChar := by
  have hstrip := congrArg strip h
  rwa [strip_normalizePersian, strip_normalizePersian] at hstrip

theorem empty_spelling : term = "" ↔ other = "" := by
  have hlength := congrArg List.length h
  simp only [normalizePersian, List.length_map, String.length_toList] at hlength
  rw [← String.length_eq_zero_iff, hlength, String.length_eq_zero_iff]

theorem sendable_spelling : (searchFor term).Sendable ↔ (searchFor other).Sendable := by
  have hnul : Fixes normalizeChar [Char.ofNat 0] := by
    have hvariants : ∀ y ∈ persianNormalizeFrom,
        normalizeChar y = Char.ofNat 0 ↔ y = Char.ofNat 0 :=
      List.all_iff_forall_prop.mp (by decide)
    intro x hx y
    cases List.mem_singleton.mp hx
    by_cases hy : y ∈ persianNormalizeFrom
    · exact hvariants y hy
    · rw [normalizeChar_of_not_mem hy]
  have hmem : ∀ text : List Char,
      Char.ofNat 0 ∈ text.map normalizeChar ↔ Char.ofNat 0 ∈ text := by
    intro text
    rw [List.mem_map]
    constructor
    · rintro ⟨y, hy, heq⟩
      rwa [← (hnul _ (List.mem_singleton_self _) y).mp heq]
    · exact fun hy => ⟨_, hy, (hnul _ (List.mem_singleton_self _) _).mpr rfl⟩
  rw [searchFor_sendable, searchFor_sendable, ← hmem (strip term.toList), strip_spelling h, hmem]

theorem findsText_spelling : locale.findsText term p = locale.findsText other p := by
  have hterm : normalizePersian (normalizedTerm term) =
      normalizePersian (normalizedTerm other) := by
    simp only [normalizePersian, normalizedTerm, List.map_cons, List.map_append, strip_spelling h,
      List.cons_append]
  unfold Locale.findsText
  rw [hterm]

/-- The results are the same when every product that neither its name nor its description brings
    up has a SKU or a brand that both terms find, or none. -/
theorem sameResults_iff : SameResults locale a term other ↔
    Char.ofNat 0 ∉ strip term.toList ∧ ∀ p ∈ a.store.db.products.rows, p.isActive = true →
      locale.findsText term p = false →
        locale.findsCode term p = locale.findsCode other p := by
  rw [sameResults_iff_baseQuery, ← sendable_spelling h, and_self_left, searchFor_sendable]
  refine and_congr_right fun _ => ?_
  simp only [mem_baseQuery_searchFor, matchesSearch_iff, ← findsText_spelling h, Ne,
    ← empty_spelling h]
  by_cases hterm : term = ""
  · -- there is no filter then, and every text is found
    subst hterm
    simp [findsText_empty]
  · simp only [hterm, not_false_eq_true, forall_const]
    refine forall_congr' fun p => ?_
    cases hcode : locale.findsCode term p <;> cases hcode' : locale.findsCode other p <;>
      cases locale.findsText term p <;> simp

end Spelling

/-- The length of the shortest text in which a term is found. -/
def shortestLength (term : String) : Nat :=
  ((likeTokens false (strip term.toList ++ ['%'])).map
    fun tokens => (LikeToken.shortest tokens).length).getD 0

theorem shortestLength_eq {tokens : List LikeToken}
    (h : likeTokens false (strip term.toList ++ ['%']) = some tokens) :
    shortestLength term = (LikeToken.shortest tokens).length := by
  unfold shortestLength
  rw [h]
  rfl

/-- Two letters have the same lower case and the same spelling only if they are the same. -/
theorem eq_of_normalizeChar_eq (x y : Char) (hnormal : normalizeChar x = normalizeChar y)
    (hlower : locale.lower x = locale.lower y) : x = y := by
  have hspellings : ∀ x ∈ persianNormalizeFrom, x ∈ uncased :=
    List.all_iff_forall_prop.mp (by decide)
  by_cases hx : x ∈ persianNormalizeFrom
  · exact locale.lower_uncased.eq_of_mem (hspellings x hx) hlower
  · by_cases hy : y ∈ persianNormalizeFrom
    · exact (locale.lower_uncased.eq_of_mem (hspellings y hy) hlower.symm).symm
    · rwa [normalizeChar_of_not_mem hx, normalizeChar_of_not_mem hy] at hnormal

/-- A text that is shorter is not found. -/
theorem not_like_of_length_lt {f : Char → Char} (hf : Fixes f wildcards) {text : List Char}
    (h : text.length < shortestLength term) :
    like (text.map f) ((normalizedTerm term).map f) = false := by
  obtain ⟨tokens, htokens⟩ := exists_tokens term
  rw [shortestLength_eq htokens] at h
  by_contra hlike
  rw [Bool.not_eq_false, normalizedTerm, like_percent_map hf htokens] at hlike
  have hle := length_shortest_le hlike
  simp only [LikeToken.shortest, length_shortest_map, List.length_map] at hle
  exact absurd h (Nat.not_lt.mpr hle)

/-- Tokens of two spellings of a term. -/
theorem tokens_spelling (h : normalizePersian term.toList = normalizePersian other.toList)
    {tokens tokens' : List LikeToken}
    (htokens : likeTokens false (strip term.toList ++ ['%']) = some tokens)
    (htokens' : likeTokens false (strip other.toList ++ ['%']) = some tokens') :
    tokens.map (LikeToken.map normalizeChar) = tokens'.map (LikeToken.map normalizeChar) := by
  have hmap := likeTokens_map normalizeChar_fixes false (strip term.toList ++ ['%'])
  have hmap' := likeTokens_map normalizeChar_fixes false (strip other.toList ++ ['%'])
  rw [htokens] at hmap
  rw [htokens', List.map_append, ← strip_spelling h, ← List.map_append, hmap] at hmap'
  exact Option.some.inj hmap'

theorem shortestLength_spelling
    (h : normalizePersian term.toList = normalizePersian other.toList) :
    shortestLength term = shortestLength other := by
  obtain ⟨tokens, htokens⟩ := exists_tokens term
  obtain ⟨tokens', htokens'⟩ := exists_tokens other
  rw [shortestLength_eq htokens, shortestLength_eq htokens']
  exact length_shortest_eq (tokens_spelling h htokens htokens')

/-- A brand of the shortest text in which a term is found: in another spelling the term does
    not find it. -/
theorem strip_eq_of_findsCode (h : normalizePersian term.toList = normalizePersian other.toList)
    {tokens : List LikeToken}
    (htokens : likeTokens false (strip term.toList ++ ['%']) = some tokens)
    (hfound : like ((LikeToken.shortest tokens).map locale.lower)
      ((normalizedTerm other).map locale.lower) = true) :
    strip term.toList = strip other.toList := by
  obtain ⟨tokens', htokens'⟩ := exists_tokens other
  have hsame := tokens_spelling h htokens htokens'
  rw [normalizedTerm, like_percent_map (lower_fixes locale) htokens'] at hfound
  have heq : LikeToken.any :: tokens = .any :: tokens' :=
    tokens_eq_of_matchAll_shortest eq_of_normalizeChar_eq
      (by rw [List.map_cons, List.map_cons, hsame]) hfound
  cases heq
  exact term_eq_of_tokens_eq normalizeChar_fixes (strip_spelling h) htokens htokens'

theorem SameResults.spelling (h : normalizePersian term.toList = normalizePersian other.toList)
    (hsame : ∀ a, SameResults locale a term other) :
    Char.ofNat 0 ∉ strip term.toList ∧
      (strip term.toList = strip other.toList ∨ 100 < shortestLength term) := by
  have hempty : fitsText "" ∧ fitsVarchar 100 "" := by decide
  have hnul : Char.ofNat 0 ∉ strip term.toList :=
    ((sameResults_iff h).mp
      (hsame (onlyProduct (describedAs "" "") (describedAs_fits hempty.1 hempty.2)))).1
  refine ⟨hnul, or_iff_not_imp_right.mpr fun hshort => ?_⟩
  obtain ⟨tokens, htokens⟩ := exists_tokens term
  rw [shortestLength_eq htokens, Nat.not_lt] at hshort
  rcases Nat.eq_zero_or_pos (LikeToken.shortest tokens).length with hzero | hpos
  · -- a term without characters has one spelling
    obtain ⟨tokens', htokens'⟩ := exists_tokens other
    have hsame' := tokens_spelling h htokens htokens'
    have hzero' := (length_shortest_eq hsame').symm.trans hzero
    rw [map_eq_self_of_shortest_nil hzero, map_eq_self_of_shortest_nil hzero'] at hsame'
    exact term_eq_of_tokens_eq normalizeChar_fixes (strip_spelling h) htokens (hsame' ▸ htokens')
  · have hbrand : fitsVarchar 100 (String.ofList (LikeToken.shortest tokens)) :=
      ⟨by rwa [String.length_ofList], fitsText_shortest htokens hnul⟩
    have hfits := describedAs_fits hempty.1 hbrand
    have hcode := ((sameResults_iff h).mp (hsame (onlyProduct _ hfits))).2 _
      ((mem_rows_onlyProduct hfits).mpr rfl) rfl
    rw [← shortestLength_eq htokens] at hpos
    have hpos' : 0 < shortestLength other := shortestLength_spelling h ▸ hpos
    have htext : locale.findsText term
        (describedAs "" (String.ofList (LikeToken.shortest tokens))) = false := by
      rw [Locale.findsText, ilike_normalized, ilike_normalized]
      exact Bool.or_eq_false_iff.mpr ⟨not_like_of_length_lt (folded_fixes locale) hpos,
        not_like_of_length_lt (folded_fixes locale) hpos⟩
    have hfound : locale.findsCode other
        (describedAs "" (String.ofList (LikeToken.shortest tokens))) = true := by
      rw [← hcode htext]
      refine Bool.or_eq_true_iff.mpr (Or.inr ?_)
      simpa only [ilike, describedAs, String.toList_ofList] using
        like_shortest (lower_fixes locale) htokens
    rcases Bool.or_eq_true_iff.mp hfound with hsku | hbrand
    · have hnot : like ([].map locale.lower) ((normalizedTerm other).map locale.lower) = false :=
        not_like_of_length_lt (lower_fixes locale) hpos'
      exact absurd (hsku.symm.trans hnot) Bool.false_ne_true.symm
    · simp only [ilike, describedAs, String.toList_ofList] at hbrand
      exact strip_eq_of_findsCode h htokens hbrand

/-- For two spellings of a term, the search returns the same products exactly when every product
    that neither its name nor its description brings up has a SKU or a brand that both terms
    find, or none. That is so for all products exactly if, blanks around them left out, the terms
    are the same or found in texts of more than 100 characters only, as long as brands can be;
    and a term with a NUL fails. -/
theorem search_spelling_iff (locale : Locale) (term other : String)
    (hspelling : normalizePersian term.toList = normalizePersian other.toList) :
    (∀ a, SameResults locale a term other ↔
      Char.ofNat 0 ∉ strip term.toList ∧ ∀ p ∈ a.store.db.products.rows, p.isActive = true →
        locale.findsText term p = false →
          locale.findsCode term p = locale.findsCode other p) ∧
    ((∀ a, SameResults locale a term other) ↔
      Char.ofNat 0 ∉ strip term.toList ∧
        (strip term.toList = strip other.toList ∨ 100 < shortestLength term)) := by
  refine ⟨fun a => sameResults_iff hspelling, SameResults.spelling hspelling, ?_⟩
  rintro ⟨hnul, hterms⟩ a
  refine (sameResults_iff hspelling).mpr ⟨hnul, fun p hp _ _ => ?_⟩
  rcases hterms with hstrip | hlong
  · simp only [Locale.findsCode, normalizedTerm, hstrip]
  · have hlong' : 100 < shortestLength other := shortestLength_spelling hspelling ▸ hlong
    obtain ⟨-, -, hsku, -, -, -, -, hbrand, -⟩ := a.store.valid.products p hp
    have hshort : p.sku.toList.length ≤ 100 ∧ p.brand.toList.length ≤ 100 :=
      ⟨hsku.1.trans (by decide), hbrand.1⟩
    have hnone : ∀ term, 100 < shortestLength term → locale.findsCode term p = false :=
      fun term hlong => Bool.or_eq_false_iff.mpr
        ⟨not_like_of_length_lt (lower_fixes locale) (Nat.lt_of_le_of_lt hshort.1 hlong),
          not_like_of_length_lt (lower_fixes locale) (Nat.lt_of_le_of_lt hshort.2 hlong)⟩
    rw [hnone term hlong, hnone other hlong']

/-- A phone of a brand that is written with a Persian `ک`. -/
def nokiaPhone : Assortment where
  store :=
    { db := { Db.empty with
        categories := ⟨[⟨20, none, "phones", "phones", true, 0⟩], List.nodup_singleton _⟩
        products := ⟨[⟨10, "n-1", "گوشی", "n-1", "", "", 5, none, "نوکیا", 20, some [], some [],
          true, false, false⟩], List.nodup_singleton _⟩ }
      valid := by decide +kernel }
  updatedAt _ := 0
  createdAt _ := 0

/-- Its name is found in both spellings. -/
theorem search_spelling_name : SameResults cLocale nokiaPhone "گوشي" "گوشی" :=
  ((search_spelling_iff cLocale "گوشي" "گوشی" (by decide)).1 nokiaPhone).mpr
    (by decide +kernel)

/-- Its brand is not. -/
theorem search_spelling_fails : ¬ SameResults cLocale nokiaPhone "نوكيا" "نوکیا" := by
  intro h
  obtain ⟨-, -, hmem⟩ := sameResults_iff_baseQuery.mp h
  have hfound : ∃ p ∈ nokiaPhone.baseQuery cLocale (searchFor "نوکیا"),
      p ∉ nokiaPhone.baseQuery cLocale (searchFor "نوكيا") := by decide +kernel
  obtain ⟨p, hp, hnot⟩ := hfound
  exact hnot ((hmem p).mpr hp)

end Terms

end ElectronicShop
