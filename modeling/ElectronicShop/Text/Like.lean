import Mathlib.Data.List.Infix

/-!
# LIKE patterns

`%` stands for any text, `_` for any character, and a backslash takes the character after it
literally. A pattern is read as a list of tokens, and these are matched against the text.
-/

namespace Text

/-- The characters with a meaning in patterns. -/
def wildcards : List Char := ['%', '_', '\\']

inductive LikeToken where
  | char (x : Char)
  | one
  | any
  deriving DecidableEq, Repr

namespace LikeToken

/-- A character that is not escaped. -/
def ofChar (x : Char) : LikeToken := if x = '%' then any else if x = '_' then one else char x

/-- The text is one for these tokens. -/
def matchAll : List LikeToken → List Char → Bool
  | [], text => text.isEmpty
  | char x :: rest, text => text.head? = some x && matchAll rest text.tail
  | one :: rest, text => text.head?.isSome && matchAll rest text.tail
  | any :: rest, text => text.tails.any (matchAll rest)

def map (f : Char → Char) : LikeToken → LikeToken
  | char x => char (f x)
  | one => one
  | any => any

/-- The shortest text for some tokens, with `x` where any character will do. -/
def shortest : List LikeToken → List Char
  | [] => []
  | char x :: rest => x :: shortest rest
  | one :: rest => 'x' :: shortest rest
  | any :: rest => shortest rest

end LikeToken

/-- The tokens of the rest of a pattern, behind a backslash or not. There are none if the
    pattern ends with a lone backslash. -/
def likeTokens (escaped : Bool) : List Char → Option (List LikeToken)
  | [] => if escaped then none else some []
  | x :: rest =>
    if escaped then (likeTokens false rest).map (.char x :: ·)
    else if x = '\\' then likeTokens true rest
    else (likeTokens false rest).map (.ofChar x :: ·)

/-- `text LIKE pattern`; a pattern without tokens is refused. -/
def like (text pattern : List Char) : Bool :=
  (likeTokens false pattern).any (LikeToken.matchAll · text)

/-! ## Patterns between two `%` -/

section Search

variable {term text : List Char} {tokens : List LikeToken} {escaped : Bool}

theorem mem_wildcards {x : Char} : x ∈ wildcards ↔ x = '%' ∨ x = '_' ∨ x = '\\' := by
  simp [wildcards]

/-- A pattern that ends with `%` has tokens, also if the `%` is escaped. -/
theorem likeTokens_percent (escaped : Bool) (term : List Char) :
    ∃ tokens, likeTokens escaped (term ++ ['%']) = some tokens := by
  induction term generalizing escaped with
  | nil => cases escaped <;> exact ⟨_, rfl⟩
  | cons x rest ih =>
    simp only [List.cons_append, likeTokens]
    obtain ⟨tokens, htokens⟩ := ih false
    obtain ⟨tokens', htokens'⟩ := ih true
    split
    · exact ⟨_, by rw [htokens]; rfl⟩
    · split
      · exact ⟨tokens', htokens'⟩
      · exact ⟨_, by rw [htokens]; rfl⟩

theorem matchAll_any : LikeToken.matchAll (.any :: tokens) text = true ↔
    ∃ rest, rest <:+ text ∧ LikeToken.matchAll tokens rest = true := by
  simp only [LikeToken.matchAll, List.any_eq_true, List.mem_tails]

/-- To match a term between two `%` is to match its tokens somewhere in the text. -/
theorem like_percent (h : likeTokens false (term ++ ['%']) = some tokens) :
    like text ('%' :: term ++ ['%']) = LikeToken.matchAll (.any :: tokens) text := by
  have hne : ('%' : Char) ≠ '\\' := by decide
  unfold like
  rw [List.cons_append, likeTokens, if_neg Bool.false_ne_true, if_neg hne, h]
  rfl

/-- A term that contains none of them. -/
def Literal (term : List Char) : Prop := ∀ x ∈ term, x ∉ wildcards

instance decidableLiteral (term : List Char) : Decidable (Literal term) :=
  List.decidableBAll (fun x => x ∉ wildcards) term

theorem ofChar_of_not_mem {x : Char} (hx : x ∉ wildcards) : LikeToken.ofChar x = .char x := by
  simp only [mem_wildcards, not_or] at hx
  simp [LikeToken.ofChar, hx.1, hx.2.1]

theorem likeTokens_literal (h : Literal term) :
    likeTokens false (term ++ ['%']) = some (term.map .char ++ [.any]) := by
  induction term with
  | nil => rfl
  | cons x rest ih =>
    obtain ⟨hx, hrest⟩ := List.forall_mem_cons.mp h
    have hne : x ≠ '\\' := fun heq => hx (mem_wildcards.mpr (Or.inr (Or.inr heq)))
    rw [List.cons_append, likeTokens, if_neg Bool.false_ne_true, if_neg hne, ih hrest,
      ofChar_of_not_mem hx]
    rfl

theorem matchAll_literal :
    LikeToken.matchAll (term.map .char ++ [.any]) text = true ↔ term <+: text := by
  induction term generalizing text with
  | nil =>
    refine iff_of_true (matchAll_any.mpr ⟨[], List.nil_suffix, rfl⟩) List.nil_prefix
  | cons x rest ih =>
    cases text with
    | nil => simp [LikeToken.matchAll]
    | cons y text =>
      simp only [List.map_cons, List.cons_append, LikeToken.matchAll, Bool.and_eq_true,
        List.tail_cons, ih, List.head?_cons, decide_eq_true_iff, Option.some.injEq,
        List.cons_prefix_cons]
      exact and_congr_left' eq_comm

/-- A literal term matches where it is a part of the text. -/
theorem like_literal (h : Literal term) :
    like text ('%' :: term ++ ['%']) = true ↔ term <:+: text := by
  rw [like_percent (likeTokens_literal h), matchAll_any, List.infix_iff_prefix_suffix]
  simp only [matchAll_literal, and_comm]

end Search

/-! ## Maps of characters -/

/-- The map leaves these characters alone, and makes no others into them. -/
def Fixes (f : Char → Char) (xs : List Char) : Prop := ∀ x ∈ xs, ∀ y, f y = x ↔ y = x

section Maps

variable {f n : Char → Char} {term term' text : List Char} {tokens tokens' : List LikeToken}
  {escaped : Bool}

theorem ofChar_map (hf : Fixes f wildcards) (x : Char) :
    LikeToken.ofChar (f x) = (LikeToken.ofChar x).map f := by
  have hpercent := hf '%' (by decide) x
  have hone := hf '_' (by decide) x
  unfold LikeToken.ofChar
  simp only [hpercent, hone]
  split
  · rfl
  · split <;> rfl

theorem likeTokens_map (hf : Fixes f wildcards) (escaped : Bool) (pattern : List Char) :
    likeTokens escaped (pattern.map f) =
      (likeTokens escaped pattern).map (List.map (LikeToken.map f)) := by
  induction pattern generalizing escaped with
  | nil => cases escaped <;> rfl
  | cons x rest ih =>
    have hescape := hf '\\' (by decide) x
    simp only [List.map_cons, likeTokens, ih, hescape, ofChar_map hf]
    split
    · cases likeTokens false rest <;> rfl
    · split
      · rfl
      · cases likeTokens false rest <;> rfl

/-- A mapped term in a mapped text. -/
theorem like_percent_map (hf : Fixes f wildcards)
    (h : likeTokens false (term ++ ['%']) = some tokens) :
    like (text.map f) (('%' :: term ++ ['%']).map f) =
      LikeToken.matchAll (.any :: tokens.map (LikeToken.map f)) (text.map f) := by
  have hpercent : f '%' = '%' := (hf '%' (by decide) '%').mpr rfl
  have htokens : likeTokens false (term.map f ++ ['%']) =
      some (tokens.map (LikeToken.map f)) := by
    have hmap := likeTokens_map hf false (term ++ ['%'])
    rw [h, List.map_append, List.map_singleton, hpercent] at hmap
    exact hmap
  rw [List.map_append, List.map_cons, List.map_singleton, hpercent]
  exact like_percent htokens

/-- A literal term matches where it is a part of the text, both mapped. -/
theorem like_literal_map (hf : Fixes f wildcards) (h : Literal term) :
    like (text.map f) (('%' :: term ++ ['%']).map f) = true ↔ term.map f <:+: text.map f := by
  have hpercent : f '%' = '%' := (hf '%' (by decide) '%').mpr rfl
  have hliteral : Literal (term.map f) := by
    intro x hx hwild
    obtain ⟨y, hy, rfl⟩ := List.mem_map.mp hx
    have hfixed := (hf (f y) hwild y).mp rfl
    exact h y hy (hfixed ▸ hwild)
  rw [List.map_append, List.map_cons, List.map_singleton, hpercent]
  exact like_literal hliteral

/-- Maps that differ in other characters only find the same parts. -/
theorem infix_map_congr {g : Char → Char} {part : List Char}
    (h : ∀ x ∈ part, ∀ y, f y = x ↔ g y = x) : part <:+: text.map f ↔ part <:+: text.map g := by
  have hmap : ∀ {f g : Char → Char}, (∀ x ∈ part, ∀ y, f y = x ↔ g y = x) →
      part <:+: text.map f → part <:+: text.map g := by
    intro f g h hpart
    obtain ⟨rest, hrest, rfl⟩ := List.infix_map_iff.mp hpart
    refine List.infix_map_iff.mpr ⟨rest, hrest, List.map_congr_left fun y hy => ?_⟩
    exact ((h (f y) (List.mem_map_of_mem hy) y).mp rfl).symm
  exact ⟨hmap h, hmap fun x hx y => (h x hx y).symm⟩

theorem Fixes.comp {xs : List Char} (hf : Fixes f xs) (hn : Fixes n xs) : Fixes (f ∘ n) xs :=
  fun x hx y => (hf x hx (n y)).trans (hn x hx y)

/-- Where the terms are not literal, the characters of a shortest text are theirs all the same. -/
theorem mem_shortest {pattern : List Char} (h : likeTokens escaped pattern = some tokens) :
    ∀ x ∈ LikeToken.shortest tokens, x ∈ pattern ∨ x = 'x' := by
  induction pattern generalizing escaped tokens with
  | nil =>
    cases escaped with
    | false =>
      cases h
      exact List.forall_mem_nil _
    | true => cases h
  | cons y rest ih =>
    have hrest : ∀ {escaped tokens}, likeTokens escaped rest = some tokens →
        ∀ x ∈ LikeToken.shortest tokens, x ∈ y :: rest ∨ x = 'x' :=
      fun h x hx => (ih h x hx).imp_left (List.mem_cons_of_mem y)
    rw [likeTokens] at h
    split at h
    · obtain ⟨tail, htail, rfl⟩ := Option.map_eq_some_iff.mp h
      exact List.forall_mem_cons.mpr ⟨Or.inl List.mem_cons_self, hrest htail⟩
    · split at h
      · exact hrest h
      · obtain ⟨tail, htail, rfl⟩ := Option.map_eq_some_iff.mp h
        unfold LikeToken.ofChar
        split
        · exact fun x hx => hrest htail x hx
        · split
          · exact List.forall_mem_cons.mpr ⟨Or.inr rfl, hrest htail⟩
          · exact List.forall_mem_cons.mpr ⟨Or.inl List.mem_cons_self, hrest htail⟩

theorem matchAll_shortest (f : Char → Char) (tokens : List LikeToken) :
    LikeToken.matchAll (tokens.map (LikeToken.map f)) ((LikeToken.shortest tokens).map f) =
      true := by
  induction tokens with
  | nil => rfl
  | cons token rest ih =>
    cases token with
    | char x => simpa [LikeToken.map, LikeToken.shortest, LikeToken.matchAll] using ih
    | one => simpa [LikeToken.map, LikeToken.shortest, LikeToken.matchAll] using ih
    | any => exact matchAll_any.mpr ⟨_, List.suffix_rfl, ih⟩

theorem length_shortest_map (f : Char → Char) (tokens : List LikeToken) :
    (LikeToken.shortest (tokens.map (LikeToken.map f))).length =
      (LikeToken.shortest tokens).length := by
  induction tokens with
  | nil => rfl
  | cons token rest ih => cases token <;> simp [LikeToken.map, LikeToken.shortest, ih]

/-- No text that is matched is shorter. -/
theorem length_shortest_le (h : LikeToken.matchAll tokens text = true) :
    (LikeToken.shortest tokens).length ≤ text.length := by
  induction tokens generalizing text with
  | nil => exact Nat.zero_le _
  | cons token rest ih =>
    cases token with
    | char x =>
      cases text with
      | nil => simp [LikeToken.matchAll] at h
      | cons y text =>
        simp only [LikeToken.matchAll, Bool.and_eq_true] at h
        exact Nat.succ_le_succ (ih h.2)
    | one =>
      cases text with
      | nil => simp [LikeToken.matchAll] at h
      | cons y text =>
        simp only [LikeToken.matchAll, Bool.and_eq_true] at h
        exact Nat.succ_le_succ (ih h.2)
    | any =>
      obtain ⟨part, hsuffix, hmatch⟩ := matchAll_any.mp h
      exact (ih hmatch).trans hsuffix.length_le

/-- The shortest text for a term is no longer than the term. -/
theorem length_shortest_term (h : likeTokens escaped (term ++ ['%']) = some tokens) :
    (LikeToken.shortest tokens).length ≤ term.length + if escaped then 1 else 0 := by
  induction term generalizing escaped tokens with
  | nil =>
    cases escaped with
    | false =>
      cases h
      exact Nat.zero_le _
    | true =>
      cases h
      exact Nat.le_refl _
  | cons x rest ih =>
    rw [List.cons_append, likeTokens] at h
    cases escaped with
    | true =>
      obtain ⟨tail, htail, rfl⟩ := Option.map_eq_some_iff.mp h
      have hle := ih htail
      simp only [LikeToken.shortest, List.length_cons, if_true, Bool.false_eq_true,
        if_false] at hle ⊢
      omega
    | false =>
      rw [if_neg Bool.false_ne_true] at h
      split at h
      · exact ih h
      · obtain ⟨tail, htail, rfl⟩ := Option.map_eq_some_iff.mp h
        have hle := ih htail
        unfold LikeToken.ofChar
        simp only [List.length_cons, Bool.false_eq_true, if_false] at hle ⊢
        split
        · simp only [LikeToken.shortest]
          omega
        · split <;> (simp only [LikeToken.shortest, List.length_cons]; omega)

/-- A term that is not literal matches a text that is not the term itself. -/
theorem literal_of_shortest_eq (hf : Fixes f wildcards)
    (h : likeTokens false (term ++ ['%']) = some tokens)
    (heq : (LikeToken.shortest tokens).map f = term.map f) : Literal term := by
  induction term generalizing tokens with
  | nil => exact List.forall_mem_nil _
  | cons x rest ih =>
    rw [List.cons_append, likeTokens, if_neg Bool.false_ne_true] at h
    have hlength := congrArg List.length heq
    simp only [List.length_map, List.length_cons] at hlength
    split at h
    · -- behind the backslash, a character is missing or is not the one that stood there
      rename_i hescape
      exfalso
      cases rest with
      | nil =>
        cases h
        have hhead := List.head_eq_of_cons_eq heq
        rw [hescape, (hf '%' (by decide) '%').mpr rfl] at hhead
        exact absurd ((hf '%' (by decide) '\\').mp hhead.symm) (by decide)
      | cons y rest =>
        rw [List.cons_append, likeTokens, if_pos rfl] at h
        obtain ⟨tail, htail, rfl⟩ := Option.map_eq_some_iff.mp h
        have hle := length_shortest_term htail
        simp only [LikeToken.shortest, List.length_cons, Bool.false_eq_true,
          if_false] at hlength hle
        omega
    · rename_i hescape
      obtain ⟨tail, htail, rfl⟩ := Option.map_eq_some_iff.mp h
      have hle := length_shortest_term htail
      simp only [Bool.false_eq_true, if_false] at hle
      by_cases hpercent : x = '%'
      · simp only [LikeToken.ofChar, hpercent, if_true, LikeToken.shortest] at hlength
        omega
      · by_cases hone : x = '_'
        · rw [hone] at heq
          have hhead := List.head_eq_of_cons_eq heq
          rw [(hf '_' (by decide) '_').mpr rfl] at hhead
          exact absurd ((hf '_' (by decide) 'x').mp hhead) (by decide)
        · have hx : x ∉ wildcards := by simp [mem_wildcards, hpercent, hone, hescape]
          rw [ofChar_of_not_mem hx] at heq
          exact List.forall_mem_cons.mpr ⟨hx, ih htail (List.tail_eq_of_cons_eq heq)⟩

/-! ## Terms that differ in their characters only -/

/-- A shortest text for the one is none for the other, unless the tokens are the same. -/
theorem tokens_eq_of_matchAll_shortest (hjoint : ∀ x y, n x = n y → f x = f y → x = y)
    (hsame : tokens.map (LikeToken.map n) = tokens'.map (LikeToken.map n))
    (h : LikeToken.matchAll (tokens'.map (LikeToken.map f)) ((LikeToken.shortest tokens).map f) =
      true) : tokens = tokens' := by
  induction tokens generalizing tokens' with
  | nil =>
    cases tokens' with
    | nil => rfl
    | cons => cases hsame
  | cons token rest ih =>
    cases tokens' with
    | nil => cases hsame
    | cons token' rest' =>
      obtain ⟨hhead, htail⟩ := List.cons.inj hsame
      cases token with
      | char x =>
        cases token' with
        | char y =>
          simp only [List.map_cons, LikeToken.map, LikeToken.shortest, LikeToken.matchAll,
            List.head?_cons, List.tail_cons, Bool.and_eq_true, decide_eq_true_iff,
            Option.some.injEq] at h
          rw [hjoint x y (LikeToken.char.inj hhead) h.1, ih htail h.2]
        | one => cases hhead
        | any => cases hhead
      | one =>
        cases token' with
        | char y => cases hhead
        | one =>
          simp only [List.map_cons, LikeToken.map, LikeToken.shortest, LikeToken.matchAll,
            List.tail_cons, Bool.and_eq_true] at h
          rw [ih htail h.2]
        | any => cases hhead
      | any =>
        cases token' with
        | char y => cases hhead
        | one => cases hhead
        | any =>
          obtain ⟨part, hsuffix, hmatch⟩ := matchAll_any.mp h
          have hlength := congrArg (fun tokens => (LikeToken.shortest tokens).length) htail
          have hle := length_shortest_le hmatch
          simp only [length_shortest_map] at hlength hle
          have hwhole := hsuffix.eq_of_length_le (by
            simp only [LikeToken.shortest, List.length_map]
            omega)
          rw [hwhole] at hmatch
          rw [ih htail hmatch]

/-- Tokens without characters. -/
theorem map_eq_self_of_shortest_nil (h : (LikeToken.shortest tokens).length = 0) :
    tokens.map (LikeToken.map f) = tokens := by
  induction tokens with
  | nil => rfl
  | cons token rest ih =>
    cases token with
    | char x => cases h
    | one => cases h
    | any => rw [List.map_cons, ih h, LikeToken.map]

theorem length_shortest_eq
    (hsame : tokens.map (LikeToken.map n) = tokens'.map (LikeToken.map n)) :
    (LikeToken.shortest tokens).length = (LikeToken.shortest tokens').length := by
  rw [← length_shortest_map n tokens, hsame, length_shortest_map]

/-- A character that is fixed, or becomes one, is the same in both. -/
theorem Fixes.eq_of_mem {xs : List Char} {x y : Char} (hn : Fixes n xs) (hx : x ∈ xs)
    (h : n x = n y) : x = y := by
  rw [(hn x hx x).mpr rfl] at h
  exact ((hn x hx y).mp h.symm).symm

/-- Then the terms are the same. -/
theorem term_eq_of_tokens_eq (hn : Fixes n wildcards) (hsame : term.map n = term'.map n)
    (h : likeTokens escaped (term ++ ['%']) = some tokens)
    (h' : likeTokens escaped (term' ++ ['%']) = some tokens) : term = term' := by
  induction term generalizing term' escaped tokens with
  | nil => exact (List.map_eq_nil_iff.mp hsame.symm).symm
  | cons x rest ih =>
    cases term' with
    | nil => cases hsame
    | cons y rest' =>
      obtain ⟨hhead, htail⟩ := List.cons.inj hsame
      rw [List.cons_append, likeTokens] at h h'
      cases escaped with
      | true =>
        obtain ⟨ts, hts, heq⟩ := Option.map_eq_some_iff.mp h
        obtain ⟨ts', hts', heq'⟩ := Option.map_eq_some_iff.mp h'
        obtain ⟨hchar, rfl⟩ := List.cons.inj (heq.trans heq'.symm)
        rw [LikeToken.char.inj hchar, ih htail hts hts']
      | false =>
        rw [if_neg Bool.false_ne_true] at h h'
        by_cases hescape : x = '\\'
        · have hy : y = '\\' := by
            rw [← hescape]
            exact (hn.eq_of_mem (by rw [hescape]; decide) hhead).symm
          rw [if_pos hescape] at h
          rw [if_pos hy] at h'
          rw [hescape, hy, ih htail h h']
        · have hy : y ≠ '\\' := fun hy =>
            hescape ((hn.eq_of_mem (by rw [hy]; decide) hhead.symm).symm.trans hy)
          rw [if_neg hescape] at h
          rw [if_neg hy] at h'
          obtain ⟨ts, hts, heq⟩ := Option.map_eq_some_iff.mp h
          obtain ⟨ts', hts', heq'⟩ := Option.map_eq_some_iff.mp h'
          obtain ⟨hchar, rfl⟩ := List.cons.inj (heq.trans heq'.symm)
          have hxy : x = y := by
            by_cases hx : x ∈ wildcards
            · exact hn.eq_of_mem hx hhead
            · by_cases hy : y ∈ wildcards
              · exact (hn.eq_of_mem hy hhead.symm).symm
              · rw [ofChar_of_not_mem hx, ofChar_of_not_mem hy] at hchar
                exact LikeToken.char.inj hchar
          rw [hxy, ih htail hts hts']

end Maps

end Text
