import ElectronicShop.Model.Persian
import Mathlib.Data.Bool.AllAny

/-!
# Thousands

`formatToman` groups the digits of an amount by threes. The expression that it uses does not
know of the point: it groups the digits behind it as well, from four on.
-/

namespace ElectronicShop

namespace Persian

open Text

/-! ## What is meant -/

/-- A separator before every digit from which on as many follow as a multiple of three. -/
def groupFrom : List Char → List Char
  | [] => []
  | x :: rest => if 3 ∣ rest.length + 1 then ',' :: x :: groupFrom rest else x :: groupFrom rest

/-- The same, but for the first digit. -/
def group : List Char → List Char
  | [] => []
  | x :: rest => x :: groupFrom rest

/-- A character in Persian. -/
def toPersian (x : Char) : Char :=
  if isDigit x then persianDigits.getD (x.toNat - '0'.toNat) x else x

/-- And back. -/
def toLatin (x : Char) : Char :=
  if persianDigits.contains x then digits.getD (persianDigits.idxOf x) x else x

def unit : List Char := " تومان".toList

/-- An amount with separators in its integer part only. -/
def MoneyText.shown (m : MoneyText) : String :=
  String.ofList ((m.sign ++ group m.integer ++ m.tail).map toPersian ++ unit)

/-- What is left of a shown amount without its unit and separators, in Latin digits. -/
def readBack (shown : String) : String :=
  let amount := shown.toList.take (shown.toList.length - unit.length)
  String.ofList ((amount.filter (· != ',')).map toLatin)

/-! ## Grouping -/

theorem filter_groupFrom {xs : List Char} (h : ∀ x ∈ xs, x ∈ digits) :
    (groupFrom xs).filter (· != ',') = xs := by
  induction xs with
  | nil => rfl
  | cons x rest ih =>
    obtain ⟨hx, hrest⟩ := List.forall_mem_cons.mp h
    have hne : x ≠ ',' := by
      rintro rfl
      exact absurd hx (by decide)
    rw [groupFrom]
    split <;> simp [hne, ih hrest]

theorem filter_group {xs : List Char} (h : ∀ x ∈ xs, x ∈ digits) :
    (group xs).filter (· != ',') = xs := by
  cases xs with
  | nil => rfl
  | cons x rest =>
    obtain ⟨hx, hrest⟩ := List.forall_mem_cons.mp h
    have hne : x ≠ ',' := by
      rintro rfl
      exact absurd hx (by decide)
    simp [group, hne, filter_groupFrom hrest]

theorem length_groupFrom (xs : List Char) :
    (groupFrom xs).length = xs.length + xs.length / 3 := by
  induction xs with
  | nil => rfl
  | cons x rest ih =>
    rw [groupFrom]
    split <;> simp only [List.length_cons, ih] <;> omega

theorem length_group_eq_iff {xs : List Char} :
    (group xs).length = xs.length ↔ xs.length ≤ 3 := by
  cases xs with
  | nil => simp [group]
  | cons x rest =>
    simp only [group, List.length_cons, length_groupFrom]
    omega

/-- Up to three digits are not grouped. -/
theorem group_eq_self_iff {xs : List Char} : group xs = xs ↔ xs.length ≤ 3 := by
  constructor
  · intro h
    rw [← length_group_eq_iff, h]
  · intro h
    obtain _ | ⟨x, _ | ⟨y, _ | ⟨z, _ | ⟨w, rest⟩⟩⟩⟩ := xs
    · rfl
    · rfl
    · rfl
    · rfl
    · simp only [List.length_cons] at h
      omega

/-! ## The expression -/

/-- The places where the expression matches. -/
def AtThousands (c : Cursor) : Prop :=
  c.wordBefore = c.wordAfter ∧ 0 < (c.after.takeWhile isDigit).length ∧
    3 ∣ (c.after.takeWhile isDigit).length

instance decidableAtThousands : DecidablePred AtThousands :=
  fun _ => inferInstanceAs (Decidable (_ ∧ _))

theorem thousands_matches (c d : Cursor) : thousands.Matches c d ↔ d = c ∧ AtThousands c := by
  unfold thousands AtThousands
  constructor
  · rintro ⟨e, ⟨rfl, hword⟩, hgroups⟩
    obtain ⟨rfl, hrun⟩ := (Regex.ahead_groups (Nat.succ_pos 2)).mp hgroups
    exact ⟨rfl, hword, hrun⟩
  · rintro ⟨rfl, hword, hrun⟩
    exact ⟨d, ⟨rfl, hword⟩, (Regex.ahead_groups (Nat.succ_pos 2)).mpr ⟨rfl, hrun⟩⟩

theorem isDigit_iff {x : Char} : isDigit x = true ↔ x ∈ digits := by
  simp [isDigit]

theorem isWord_of_digit : ∀ x ∈ digits, isWord x = true := List.all_eq_true.mp (by decide)

theorem takeWhile_digits {xs tail : List Char} (hxs : ∀ x ∈ xs, x ∈ digits)
    (htail : tail.takeWhile isDigit = []) : (xs ++ tail).takeWhile isDigit = xs := by
  rw [List.takeWhile_append_of_pos fun x hx => isDigit_iff.mpr (hxs x hx), htail, List.append_nil]

/-- Where no digit follows, there is no separator. -/
theorem not_atThousands {before after : List Char} (h : after.takeWhile isDigit = []) :
    ¬ AtThousands ⟨before, after⟩ := by
  rintro ⟨-, hpos, -⟩
  rw [h] at hpos
  exact absurd hpos (Nat.lt_irrefl 0)

/-- In a row of digits it matches before every third one from the right, but for the first. -/
theorem atThousands_digits (before : List Char) {xs tail : List Char} {x : Char} (hx : x ∈ digits)
    (hxs : ∀ x ∈ xs, x ∈ digits) (htail : tail.takeWhile isDigit = []) :
    AtThousands ⟨before, x :: xs ++ tail⟩ ↔
      before.head?.any isWord = true ∧ 3 ∣ xs.length + 1 := by
  unfold AtThousands
  rw [takeWhile_digits (List.forall_mem_cons.mpr ⟨hx, hxs⟩) htail]
  simp [Cursor.wordBefore, Cursor.wordAfter, isWord_of_digit x hx]

/-- From within a row of digits on. -/
theorem insertWhere_groupFrom {before xs tail : List Char} (hxs : ∀ x ∈ xs, x ∈ digits)
    (hbefore : before.head?.any isWord = true) (htail : tail.takeWhile isDigit = []) :
    Regex.insertWhere AtThousands [','] before (xs ++ tail) =
      groupFrom xs ++ Regex.insertWhere AtThousands [','] (xs.reverse ++ before) tail := by
  induction xs generalizing before with
  | nil => rfl
  | cons x rest ih =>
    obtain ⟨hx, hrest⟩ := List.forall_mem_cons.mp hxs
    have hat := atThousands_digits before hx hrest htail
    have hword : (x :: before).head?.any isWord = true := isWord_of_digit x hx
    have hafter := ih hrest hword
    simp only [List.cons_append, Regex.insertWhere] at hat ⊢
    simp only [hat, hbefore, hafter, groupFrom]
    split <;> simp_all

/-- From the beginning of a row of digits on. -/
theorem insertWhere_group {before xs tail : List Char} (hxs : ∀ x ∈ xs, x ∈ digits)
    (hne : xs ≠ []) (hbefore : before.head?.any isWord = false)
    (htail : tail.takeWhile isDigit = []) :
    Regex.insertWhere AtThousands [','] before (xs ++ tail) =
      group xs ++ Regex.insertWhere AtThousands [','] (xs.reverse ++ before) tail := by
  cases xs with
  | nil => exact absurd rfl hne
  | cons x rest =>
    obtain ⟨hx, hrest⟩ := List.forall_mem_cons.mp hxs
    have hat := atThousands_digits before hx hrest htail
    have hword : (x :: before).head?.any isWord = true := isWord_of_digit x hx
    have hafter := insertWhere_groupFrom hrest hword htail
    simp only [List.cons_append, Regex.insertWhere] at hat ⊢
    simp only [hat, hbefore, hafter, group]
    simp

/-- Where there is nothing to group. -/
theorem insertWhere_nil (before : List Char) :
    Regex.insertWhere AtThousands [','] before [] = [] := if_neg (not_atThousands rfl)

theorem insertWhere_other (before rest : List Char) {x : Char} (hx : x ∉ digits) :
    Regex.insertWhere AtThousands [','] before (x :: rest) =
      x :: Regex.insertWhere AtThousands [','] (x :: before) rest := by
  have hnot : ¬ AtThousands ⟨before, x :: rest⟩ :=
    not_atThousands (List.takeWhile_cons_of_neg fun h => hx (isDigit_iff.mp h))
  simp [Regex.insertWhere, hnot]

/-- The part from the point on, its digits grouped. -/
def MoneyText.groupedTail (m : MoneyText) : List Char :=
  m.fraction.elim [] fun xs => '.' :: group xs

/-- The separators that are inserted. -/
theorem replaceAll_thousands (m : MoneyText) :
    Regex.replaceAll thousands (fun _ => [',']) (m.sign ++ m.integer ++ m.tail) =
      m.sign ++ group m.integer ++ m.groupedTail := by
  have htail : m.tail.takeWhile isDigit = [] := by
    unfold MoneyText.tail
    cases m.fraction <;> rfl
  have hafter : ∀ before, Regex.insertWhere AtThousands [','] before m.tail = m.groupedTail := by
    intro before
    unfold MoneyText.tail MoneyText.groupedTail
    cases hfraction : m.fraction with
    | none => exact insertWhere_nil before
    | some xs =>
      obtain ⟨hne, hxs⟩ := m.fractionDigits xs hfraction
      have hpoint : ('.' :: before).head?.any isWord = false := rfl
      have hgroup := insertWhere_group hxs hne hpoint List.takeWhile_nil
      simp only [List.append_nil, insertWhere_nil] at hgroup
      exact (insertWhere_other before xs (by decide)).trans (congrArg ('.' :: ·) hgroup)
  have hinteger : ∀ before, before.head?.any isWord = false →
      Regex.insertWhere AtThousands [','] before (m.integer ++ m.tail) =
        group m.integer ++ m.groupedTail := by
    intro before hbefore
    rw [insertWhere_group m.integerDigits.2 m.integerDigits.1 hbefore htail, hafter]
  rw [Regex.replaceAll_of_zeroWidth thousands_matches]
  unfold MoneyText.sign
  cases m.negative with
  | false => simpa using hinteger [] rfl
  | true =>
    have hminus : '-' ∉ digits := by decide
    have hsign := insertWhere_other [] (m.integer ++ m.tail) hminus
    rw [hinteger ['-'] rfl] at hsign
    simpa using hsign

/-! ## Digits -/

theorem persianDigit_eq : ∀ x ∈ digits, persianDigit [x] = [toPersian x] :=
  List.all_iff_forall_prop.mp (by decide)

theorem toPersian_of_not_digit {x : Char} (hx : x ∉ digits) : toPersian x = x :=
  if_neg fun h => hx (isDigit_iff.mp h)

theorem toPersianDigits_ofList (xs : List Char) :
    toPersianDigits (String.ofList xs) = String.ofList (xs.map toPersian) := by
  have hchar : ∀ x, (if isDigit x then persianDigit [x] else [x]) = [toPersian x] := by
    intro x
    by_cases hx : x ∈ digits
    · rw [if_pos (isDigit_iff.mpr hx), persianDigit_eq x hx]
    · rw [if_neg fun h => hx (isDigit_iff.mp h), toPersian_of_not_digit hx]
  unfold toPersianDigits
  rw [String.toList_ofList, Regex.replaceAll_char]
  simp only [hchar, List.map_eq_flatMap]

theorem formatToman_text (m : MoneyText) : formatToman m.text =
    String.ofList ((m.sign ++ group m.integer ++ m.groupedTail).map toPersian ++ unit) := by
  unfold formatToman MoneyText.text
  rw [String.toList_ofList, replaceAll_thousands]
  dsimp only
  rw [toPersianDigits_ofList, String.ofList_append]
  rfl

/-- A separator stays one, and nothing else becomes one. -/
theorem toPersian_ne_comma (x : Char) : (toPersian x != ',') = (x != ',') := by
  have hdigits : ∀ x ∈ digits, (toPersian x != ',') = (x != ',') :=
    List.all_iff_forall_prop.mp (by decide)
  by_cases hx : x ∈ digits
  · exact hdigits x hx
  · rw [toPersian_of_not_digit hx]

/-- The characters of an amount. -/
def alphabet : List Char := '-' :: '.' :: digits

theorem toLatin_toPersian : ∀ x ∈ alphabet, toLatin (toPersian x) = x :=
  List.all_iff_forall_prop.mp (by decide)

theorem MoneyText.mem_alphabet (m : MoneyText) :
    ∀ x ∈ m.sign ++ m.integer ++ m.tail, x ∈ alphabet := by
  have hdigits : ∀ x ∈ digits, x ∈ alphabet := fun _ hx =>
    List.mem_cons_of_mem _ (List.mem_cons_of_mem _ hx)
  have hsign : ∀ x ∈ m.sign, x ∈ alphabet := by
    unfold MoneyText.sign
    cases m.negative with
    | false => exact List.forall_mem_nil _
    | true => exact List.forall_mem_singleton.mpr (by decide)
  have htail : ∀ x ∈ m.tail, x ∈ alphabet := by
    unfold MoneyText.tail
    cases hfraction : m.fraction with
    | none => exact List.forall_mem_nil _
    | some xs =>
      refine List.forall_mem_cons.mpr ⟨by decide, fun x hx => ?_⟩
      exact hdigits x ((m.fractionDigits xs hfraction).2 x hx)
  refine List.forall_mem_append.mpr ⟨List.forall_mem_append.mpr ⟨hsign, fun x hx => ?_⟩, htail⟩
  exact hdigits x (m.integerDigits.2 x hx)

theorem MoneyText.filter_groupedTail (m : MoneyText) :
    m.groupedTail.filter (· != ',') = m.tail := by
  unfold MoneyText.groupedTail MoneyText.tail
  cases hfraction : m.fraction with
  | none => rfl
  | some xs =>
    have hpoint : ('.' != ',') = true := by decide
    simp [hpoint, filter_group (m.fractionDigits xs hfraction).2]

theorem readBack_formatToman (m : MoneyText) : readBack (formatToman m.text) = m.text := by
  have hsign : m.sign.filter (· != ',') = m.sign := by
    unfold MoneyText.sign
    cases m.negative <;> decide
  have hfilter : ((m.sign ++ group m.integer ++ m.groupedTail).map toPersian).filter (· != ',') =
      (m.sign ++ m.integer ++ m.tail).map toPersian := by
    have hcomma : (fun x => x != ',') ∘ toPersian = (fun x => x != ',') :=
      funext toPersian_ne_comma
    rw [List.filter_map, hcomma, List.filter_append, List.filter_append, hsign,
      filter_group m.integerDigits.2, m.filter_groupedTail]
  have hback : ((m.sign ++ m.integer ++ m.tail).map toPersian).map toLatin =
      m.sign ++ m.integer ++ m.tail := by
    rw [List.map_map]
    exact (List.map_congr_left fun x hx => toLatin_toPersian x (m.mem_alphabet x hx)).trans
      (List.map_id _)
  rw [formatToman_text]
  unfold readBack
  dsimp only
  rw [String.toList_ofList, List.length_append, Nat.add_sub_cancel, List.take_left', hfilter,
    hback, MoneyText.text]
  rfl

/-! ## The amounts that are shown right -/

/-- It is shown as it is meant, and can be read back. -/
def ShownRight (m : MoneyText) : Prop :=
  formatToman m.text = m.shown ∧ readBack (formatToman m.text) = m.text

/-- Separators stand before every third digit of the integer part, and nowhere else, exactly for
    the amounts that have three digits after the point at most. -/
theorem toman_grouped_iff (m : MoneyText) :
    ShownRight m ↔ ∀ xs ∈ m.fraction, xs.length ≤ 3 := by
  have htail : m.groupedTail = m.tail ↔ ∀ xs ∈ m.fraction, xs.length ≤ 3 := by
    unfold MoneyText.groupedTail MoneyText.tail
    cases m.fraction <;> simp [group_eq_self_iff]
  have hlength : m.groupedTail.length = m.tail.length ↔ ∀ xs ∈ m.fraction, xs.length ≤ 3 := by
    unfold MoneyText.groupedTail MoneyText.tail
    cases m.fraction <;> simp [length_group_eq_iff]
  unfold ShownRight
  rw [and_iff_left (readBack_formatToman m), formatToman_text, MoneyText.shown]
  constructor
  · intro h
    -- what is inserted makes the text longer
    have hlengths := congrArg (fun shown => shown.toList.length) h
    simp only [String.toList_ofList, List.length_append, List.length_map] at hlengths
    exact hlength.mp (by omega)
  · intro h
    rw [htail.mpr h]

/-- Four digits after the point. -/
def withFourDecimals : MoneyText where
  negative := false
  integer := ['1', '2', '3', '4']
  fraction := some ['5', '6', '7', '8']
  integerDigits := ⟨by decide, List.all_iff_forall_prop.mp (by decide)⟩
  fractionDigits := by
    rintro xs ⟨⟩
    exact ⟨by decide, List.all_iff_forall_prop.mp (by decide)⟩

/-- They are grouped, too. -/
theorem toman_grouped_fails : withFourDecimals.text = "1234.5678" ∧
    formatToman "1234.5678" = "۱,۲۳۴.۵,۶۷۸ تومان" ∧ ¬ ShownRight withFourDecimals := by
  refine ⟨by decide, by decide +kernel, ?_⟩
  rintro ⟨hshown, -⟩
  exact absurd hshown (by decide +kernel)

end Persian

end ElectronicShop
