import Mathlib.Data.List.Basic
import Mathlib.Logic.Relation

/-!
# Regular expressions

Those with lookaheads: what an expression matches depends on what stands around it, so that it
relates places of a text. `Matches` is the relation, `ends` the backtracking matcher; it finds
what is related. `replaceAll` is the replacement of every match, from the left to the right.
-/

namespace Text

/-- A place in a text: what is before it, the nearest character first, and what is after it. -/
structure Cursor where
  before : List Char
  after : List Char
  deriving DecidableEq, Repr

/-- `\w`. -/
def isWord (x : Char) : Bool := x.isAlphanum || x = '_'

namespace Cursor

def wordBefore (c : Cursor) : Bool := c.before.head?.any isWord

def wordAfter (c : Cursor) : Bool := c.after.head?.any isWord

/-- The second place is behind these characters. -/
structure Takes (c : Cursor) (xs : List Char) (d : Cursor) : Prop where
  after : c.after = xs ++ d.after
  before : d.before = xs.reverse ++ c.before

theorem Takes.refl (c : Cursor) : c.Takes [] c := ⟨rfl, rfl⟩

theorem Takes.trans {c d e : Cursor} {xs ys : List Char} (h : c.Takes xs d) (h' : d.Takes ys e) :
    c.Takes (xs ++ ys) e where
  after := by rw [h.after, h'.after, List.append_assoc]
  before := by rw [h'.before, h.before, List.reverse_append, List.append_assoc]

theorem Takes.length {c d : Cursor} {xs : List Char} (h : c.Takes xs d) :
    c.after.length = xs.length + d.after.length := by
  rw [h.after, List.length_append]

/-- Nothing is taken if no less is left. -/
theorem Takes.eq_of_le {c d : Cursor} {xs : List Char} (h : c.Takes xs d)
    (hle : c.after.length ≤ d.after.length) : d = c := by
  have hlength := h.length
  obtain rfl : xs = [] := List.length_eq_zero_iff.mp (by omega)
  obtain ⟨before, after⟩ := c
  obtain ⟨before', after'⟩ := d
  cases h.after
  cases h.before
  rfl

end Cursor

inductive Regex where
  /-- A character of a class. -/
  | char (p : Char → Bool)
  | seq (r s : Regex)
  /-- `r{n}`. -/
  | times (r : Regex) (n : Nat)
  /-- `r+`. -/
  | plus (r : Regex)
  /-- `\B`. -/
  | notBoundary
  /-- `(?=r)`. -/
  | ahead (r : Regex)
  /-- `(?!r)`. -/
  | notAhead (r : Regex)

/-- As many steps of a relation. -/
def Iterated {α : Type} (R : α → α → Prop) : Nat → α → α → Prop
  | 0 => Eq
  | n + 1 => Relation.Comp R (Iterated R n)

namespace Regex

/-- A match begins at the first place and ends at the second. -/
def Matches : Regex → Cursor → Cursor → Prop
  | char p, c, d => ∃ x, p x = true ∧ c.Takes [x] d
  | seq r s, c, d => Relation.Comp r.Matches s.Matches c d
  | times r n, c, d => Iterated r.Matches n c d
  | plus r, c, d => Relation.TransGen r.Matches c d
  | notBoundary, c, d => d = c ∧ c.wordBefore = c.wordAfter
  | ahead r, c, d => d = c ∧ ∃ e, r.Matches c e
  | notAhead r, c, d => d = c ∧ ∀ e, ¬ r.Matches c e

/-- A match takes what is between its two places. -/
theorem Matches.takes {r : Regex} {c d : Cursor} (h : r.Matches c d) : ∃ xs, c.Takes xs d := by
  induction r generalizing c d with
  | char p =>
    obtain ⟨x, -, htakes⟩ := h
    exact ⟨[x], htakes⟩
  | seq r s ihr ihs =>
    obtain ⟨e, hr, hs⟩ := h
    obtain ⟨xs, hxs⟩ := ihr hr
    obtain ⟨ys, hys⟩ := ihs hs
    exact ⟨xs ++ ys, hxs.trans hys⟩
  | times r n ih =>
    change Iterated r.Matches n c d at h
    induction n generalizing c with
    | zero =>
      cases h
      exact ⟨[], .refl _⟩
    | succ n ihn =>
      obtain ⟨e, hr, hrest⟩ := h
      obtain ⟨xs, hxs⟩ := ih hr
      obtain ⟨ys, hys⟩ := ihn hrest
      exact ⟨xs ++ ys, hxs.trans hys⟩
  | plus r ih =>
    change Relation.TransGen r.Matches c d at h
    induction h with
    | single hr => exact ih hr
    | tail _ hr ihs =>
      obtain ⟨xs, hxs⟩ := ihs
      obtain ⟨ys, hys⟩ := ih hr
      exact ⟨xs ++ ys, hxs.trans hys⟩
  | notBoundary =>
    obtain ⟨rfl, -⟩ := h
    exact ⟨[], .refl _⟩
  | ahead r =>
    obtain ⟨rfl, -⟩ := h
    exact ⟨[], .refl _⟩
  | notAhead r =>
    obtain ⟨rfl, -⟩ := h
    exact ⟨[], .refl _⟩

/-! ## The matcher -/

/-- The place behind the next character. -/
def charEnds (p : Char → Bool) (c : Cursor) : List Cursor :=
  match c.after with
  | [] => []
  | x :: rest => if p x then [⟨x :: c.before, rest⟩] else []

def timesEnds (step : Cursor → List Cursor) : Nat → Cursor → List Cursor
  | 0, c => [c]
  | n + 1, c => (step c).flatMap (timesEnds step n)

/-- As often as possible first. There is no iteration after one that takes nothing, so the fuel
    is not used up. -/
def plusEnds (step : Cursor → List Cursor) : Nat → Cursor → List Cursor
  | 0, c => step c
  | fuel + 1, c => (step c).flatMap fun d =>
    (if d.after.length < c.after.length then plusEnds step fuel d else []) ++ [d]

/-- The ends of the matches that begin at a place, in the order of backtracking. -/
def ends : Regex → Cursor → List Cursor
  | char p, c => charEnds p c
  | seq r s, c => (r.ends c).flatMap s.ends
  | times r n, c => timesEnds r.ends n c
  | plus r, c => plusEnds r.ends c.after.length c
  | notBoundary, c => if c.wordBefore = c.wordAfter then [c] else []
  | ahead r, c => if (r.ends c).isEmpty then [] else [c]
  | notAhead r, c => if (r.ends c).isEmpty then [c] else []

theorem mem_charEnds {p : Char → Bool} {c d : Cursor} :
    d ∈ charEnds p c ↔ ∃ x, p x = true ∧ c.Takes [x] d := by
  obtain ⟨before, after⟩ := c
  cases after with
  | nil =>
    refine iff_of_false List.not_mem_nil ?_
    rintro ⟨x, -, htakes⟩
    cases htakes.after
  | cons x rest =>
    simp only [charEnds]
    constructor
    · intro h
      split at h
      · rename_i hx
        cases List.mem_singleton.mp h
        exact ⟨x, hx, rfl, rfl⟩
      · cases h
    · rintro ⟨y, hy, hafter, hbefore⟩
      obtain ⟨before', after'⟩ := d
      cases hafter
      obtain rfl : before' = x :: before := hbefore
      rw [if_pos hy]
      exact List.mem_singleton_self _

theorem mem_timesEnds {step : Cursor → List Cursor} {R : Cursor → Cursor → Prop}
    (hstep : ∀ c d, d ∈ step c ↔ R c d) {n : Nat} {c d : Cursor} :
    d ∈ timesEnds step n c ↔ Iterated R n c d := by
  induction n generalizing c with
  | zero => exact List.mem_singleton.trans eq_comm
  | succ n ih =>
    simp only [timesEnds, List.mem_flatMap, hstep, ih]
    rfl

theorem mem_plusEnds {step : Cursor → List Cursor} {R : Cursor → Cursor → Prop}
    (hstep : ∀ c d, d ∈ step c ↔ R c d) (htakes : ∀ c d, R c d → ∃ xs, c.Takes xs d)
    {fuel : Nat} {c d : Cursor} (hfuel : c.after.length ≤ fuel) :
    d ∈ plusEnds step fuel c ↔ Relation.TransGen R c d := by
  constructor
  · intro h
    induction fuel generalizing c with
    | zero => exact .single ((hstep c d).mp h)
    | succ fuel ih =>
      obtain ⟨e, he, hrest⟩ := List.mem_flatMap.mp h
      have hce := (hstep c e).mp he
      rcases List.mem_append.mp hrest with hmore | hlast
      · split at hmore
        · exact .head hce (ih (by omega) hmore)
        · cases hmore
      · cases List.mem_singleton.mp hlast
        exact .single hce
  · intro h
    induction h using Relation.TransGen.head_induction_on generalizing fuel with
    | single hcd =>
      cases fuel with
      | zero => exact (hstep _ _).mpr hcd
      | succ fuel =>
        exact List.mem_flatMap.mpr ⟨d, (hstep _ _).mpr hcd,
          List.mem_append_right _ (List.mem_singleton_self d)⟩
    | @head c e hce hed ih =>
      -- an iteration that takes nothing can be left out
      by_cases hlt : e.after.length < c.after.length
      · cases fuel with
        | zero => omega
        | succ fuel =>
          refine List.mem_flatMap.mpr ⟨e, (hstep _ _).mpr hce, List.mem_append_left _ ?_⟩
          rw [if_pos hlt]
          exact ih (by omega)
      · obtain ⟨xs, hxs⟩ := htakes c e hce
        cases hxs.eq_of_le (by omega)
        exact ih hfuel

/-- The matcher finds the matches. -/
theorem mem_ends {r : Regex} {c d : Cursor} : d ∈ r.ends c ↔ r.Matches c d := by
  induction r generalizing c d with
  | char p => exact mem_charEnds
  | seq r s ihr ihs =>
    simp only [ends, List.mem_flatMap, ihr, ihs]
    rfl
  | times r n ih => exact mem_timesEnds fun _ _ => ih
  | plus r ih => exact mem_plusEnds (fun _ _ => ih) (fun _ _ h => h.takes) (Nat.le_refl _)
  | notBoundary =>
    simp only [ends, Matches]
    split <;> simp_all
  | ahead r ih =>
    have hempty : (r.ends c).isEmpty ↔ ¬ ∃ e, r.Matches c e := by
      simp only [List.isEmpty_iff, List.eq_nil_iff_forall_not_mem, ih, not_exists]
    simp only [ends, Matches]
    split <;> simp_all
  | notAhead r ih =>
    have hempty : (r.ends c).isEmpty ↔ ∀ e, ¬ r.Matches c e := by
      simp only [List.isEmpty_iff, List.eq_nil_iff_forall_not_mem, ih]
    simp only [ends, Matches]
    split <;> simp_all

/-! ## Groups of characters of a class -/

section Groups

variable {p : Char → Bool} {n : Nat} {c d : Cursor}

theorem iterated_char : Iterated (char p).Matches n c d ↔
    ∃ xs, xs.length = n ∧ (∀ x ∈ xs, p x = true) ∧ c.Takes xs d := by
  induction n generalizing c with
  | zero =>
    constructor
    · rintro rfl
      exact ⟨[], rfl, List.forall_mem_nil _, .refl c⟩
    · rintro ⟨xs, hlength, -, htakes⟩
      cases List.length_eq_zero_iff.mp hlength
      exact (htakes.eq_of_le (by simp [htakes.length])).symm
  | succ n ih =>
    constructor
    · rintro ⟨e, ⟨x, hx, htake⟩, hrest⟩
      obtain ⟨xs, hlength, hxs, htakes⟩ := ih.mp hrest
      exact ⟨x :: xs, congrArg (· + 1) hlength, List.forall_mem_cons.mpr ⟨hx, hxs⟩,
        htake.trans htakes⟩
    · rintro ⟨xs, hlength, hxs, hafter, hbefore⟩
      obtain _ | ⟨x, rest⟩ := xs
      · cases hlength
      · obtain ⟨hx, hrest⟩ := List.forall_mem_cons.mp hxs
        refine ⟨⟨x :: c.before, rest ++ d.after⟩, ⟨x, hx, hafter, rfl⟩, ih.mpr ?_⟩
        refine ⟨rest, Nat.succ.inj hlength, hrest, rfl, ?_⟩
        rw [hbefore, List.reverse_cons, List.append_assoc]
        rfl

/-- Groups of `n` characters are as many characters as a multiple of `n`. -/
theorem plus_times_char : (plus (times (char p) n)).Matches c d ↔
    ∃ xs k, xs.length = n * (k + 1) ∧ (∀ x ∈ xs, p x = true) ∧ c.Takes xs d := by
  constructor
  · intro h
    change Relation.TransGen (Iterated (char p).Matches n) c d at h
    induction h with
    | single hgroup =>
      obtain ⟨xs, hlength, hxs, htakes⟩ := iterated_char.mp hgroup
      exact ⟨xs, 0, by simpa using hlength, hxs, htakes⟩
    | tail _ hgroup ih =>
      obtain ⟨xs, k, hlength, hxs, htakes⟩ := ih
      obtain ⟨ys, hlength', hys, htakes'⟩ := iterated_char.mp hgroup
      refine ⟨xs ++ ys, k + 1, ?_, List.forall_mem_append.mpr ⟨hxs, hys⟩, htakes.trans htakes'⟩
      rw [List.length_append, hlength, hlength', Nat.mul_succ n (k + 1)]
  · rintro ⟨xs, k, hlength, hxs, htakes⟩
    change Relation.TransGen (Iterated (char p).Matches n) c d
    induction k generalizing c xs with
    | zero => exact .single (iterated_char.mpr ⟨xs, by simpa using hlength, hxs, htakes⟩)
    | succ k ih =>
      have hle : n ≤ xs.length := by
        rw [hlength]
        exact Nat.le_mul_of_pos_right n (Nat.succ_pos _)
      -- the first group, and then the others
      have hgroup : Iterated (char p).Matches n c
          ⟨(xs.take n).reverse ++ c.before, xs.drop n ++ d.after⟩ :=
        iterated_char.mpr ⟨xs.take n, List.length_take_of_le hle,
          fun x hx => hxs x (List.mem_of_mem_take hx),
          by rw [htakes.after, ← List.append_assoc, List.take_append_drop], rfl⟩
      refine .head hgroup (ih (xs.drop n) ?_ (fun x hx => hxs x (List.mem_of_mem_drop hx))
        ⟨rfl, ?_⟩)
      · rw [List.length_drop, hlength, Nat.mul_succ n (k + 1), Nat.add_sub_cancel]
      · rw [htakes.before, ← List.append_assoc, ← List.reverse_append, List.take_append_drop]

/-- A lookahead for groups of `n` up to where the class ends: the characters of the class that
    follow are as many as a multiple of `n`, and not none. -/
theorem ahead_groups (hn : 0 < n) :
    (ahead (seq (plus (times (char p) n)) (notAhead (char p)))).Matches c d ↔
      d = c ∧ 0 < (c.after.takeWhile p).length ∧ n ∣ (c.after.takeWhile p).length := by
  refine and_congr_right fun _ => ?_
  constructor
  · rintro ⟨e, e', hgroups, -, hstop⟩
    obtain ⟨xs, k, hlength, hxs, htakes⟩ := plus_times_char.mp hgroups
    have hend : e'.after.takeWhile p = [] := by
      cases hrest : e'.after with
      | nil => rfl
      | cons x rest =>
        refine List.takeWhile_cons_of_neg fun hx => ?_
        exact hstop ⟨x :: e'.before, rest⟩ ⟨x, hx, hrest, rfl⟩
    have hrun : c.after.takeWhile p = xs := by
      rw [htakes.after, List.takeWhile_append_of_pos hxs, hend, List.append_nil]
    rw [hrun, hlength]
    exact ⟨Nat.mul_pos hn (Nat.succ_pos k), Nat.dvd_mul_right _ _⟩
  · rintro ⟨hpos, k, hlength⟩
    let e : Cursor := ⟨(c.after.takeWhile p).reverse ++ c.before, c.after.dropWhile p⟩
    have htakes : c.Takes (c.after.takeWhile p) e := ⟨List.takeWhile_append_dropWhile.symm, rfl⟩
    have hrun : ∀ x ∈ c.after.takeWhile p, p x = true := List.all_eq_true.mp List.all_takeWhile
    refine ⟨e, e, plus_times_char.mpr ⟨_, k - 1, ?_, hrun, htakes⟩, rfl, ?_⟩
    · obtain _ | k := k
      · rw [hlength] at hpos
        exact absurd hpos (Nat.lt_irrefl 0)
      · exact hlength
    · rintro e' ⟨x, hx, hafter, -⟩
      have hstop := List.head?_dropWhile_not p c.after
      rw [show c.after.dropWhile p = x :: e'.after from hafter] at hstop
      simp [hx] at hstop

end Groups

/-! ## Replacing -/

/-- Keep the next character, and go on behind it. -/
def keep (go : Cursor → List Char) (c : Cursor) : List Char :=
  match c.after with
  | [] => []
  | x :: rest => x :: go ⟨x :: c.before, rest⟩

/-- Replace the matches from a place on. The next one begins where the last one ends, or behind
    the next character if it was empty. -/
def replaceFrom (r : Regex) (new : List Char → List Char) : Nat → Cursor → List Char
  | 0, c => c.after
  | fuel + 1, c =>
    match (r.ends c).head? with
    | none => keep (replaceFrom r new fuel) c
    | some d =>
      if d.after.length < c.after.length then
        new (c.after.take (c.after.length - d.after.length)) ++ replaceFrom r new fuel d
      else new [] ++ keep (replaceFrom r new fuel) c

/-- `text.replace(r, new)` with the flag `g`. -/
def replaceAll (r : Regex) (new : List Char → List Char) (text : List Char) : List Char :=
  replaceFrom r new (text.length + 1) ⟨[], text⟩

/-- The characters of a class are replaced one by one. -/
theorem replaceAll_char (p : Char → Bool) (new : List Char → List Char) (text : List Char) :
    replaceAll (char p) new text = text.flatMap fun x => if p x then new [x] else [x] := by
  have hfrom : ∀ fuel before (rest : List Char), rest.length < fuel →
      replaceFrom (char p) new fuel ⟨before, rest⟩ =
        rest.flatMap fun x => if p x then new [x] else [x] := by
    intro fuel
    induction fuel with
    | zero => exact fun _ _ h => absurd h (Nat.not_lt_zero _)
    | succ fuel ih =>
      intro before rest hfuel
      cases rest with
      | nil => rfl
      | cons x rest =>
        have hrest := ih (x :: before) rest (Nat.lt_of_succ_lt_succ hfuel)
        by_cases hx : p x = true
        · simp [replaceFrom, ends, charEnds, hx, hrest]
        · simp [replaceFrom, ends, charEnds, keep, hx, hrest]
  exact hfrom _ _ _ (Nat.lt_succ_self _)

/-- Insert a text at each of these places. -/
def insertWhere (p : Cursor → Prop) [DecidablePred p] (new : List Char) :
    List Char → List Char → List Char
  | before, [] => if p ⟨before, []⟩ then new else []
  | before, x :: rest =>
    (if p ⟨before, x :: rest⟩ then new else []) ++ x :: insertWhere p new (x :: before) rest

/-- Matches that take nothing are places, and the replacement is inserted there. -/
theorem replaceAll_of_zeroWidth {r : Regex} {p : Cursor → Prop} [DecidablePred p]
    (hmatches : ∀ c d, r.Matches c d ↔ d = c ∧ p c) (new : List Char → List Char)
    (text : List Char) : replaceAll r new text = insertWhere p (new []) [] text := by
  have hends : ∀ c, p c → (r.ends c).head? = some c := by
    intro c hc
    cases hcases : r.ends c with
    | nil =>
      have hmem := mem_ends.mpr ((hmatches c c).mpr ⟨rfl, hc⟩)
      rw [hcases] at hmem
      cases hmem
    | cons d rest =>
      have hmem : d ∈ r.ends c := hcases ▸ List.mem_cons_self
      rw [List.head?_cons, ((hmatches c d).mp (mem_ends.mp hmem)).1]
  have hnone : ∀ c, ¬ p c → (r.ends c).head? = none := by
    intro c hc
    rw [List.head?_eq_none_iff, List.eq_nil_iff_forall_not_mem]
    exact fun d hd => hc ((hmatches c d).mp (mem_ends.mp hd)).2
  have hfrom : ∀ fuel before (rest : List Char), rest.length < fuel →
      replaceFrom r new fuel ⟨before, rest⟩ = insertWhere p (new []) before rest := by
    intro fuel
    induction fuel with
    | zero => exact fun _ _ h => absurd h (Nat.not_lt_zero _)
    | succ fuel ih =>
      intro before rest hfuel
      have hkeep : ∀ hrest : rest ≠ [], keep (replaceFrom r new fuel) ⟨before, rest⟩ =
          rest.head hrest :: insertWhere p (new []) (rest.head hrest :: before) rest.tail := by
        intro hrest
        cases rest with
        | nil => exact absurd rfl hrest
        | cons x rest =>
          exact congrArg (x :: ·) (ih (x :: before) rest (Nat.lt_of_succ_lt_succ hfuel))
      by_cases hp : p ⟨before, rest⟩
      · rw [replaceFrom, hends _ hp]
        cases rest with
        | nil => simp [insertWhere, keep, hp]
        | cons x rest => simp [insertWhere, hkeep, hp]
      · rw [replaceFrom, hnone _ hp]
        cases rest with
        | nil => simp [insertWhere, keep, hp]
        | cons x rest => simp [insertWhere, hkeep, hp]
  exact hfrom _ _ _ (Nat.lt_succ_self _)

end Regex

end Text
