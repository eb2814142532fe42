import ElectronicShop.Text.Regex

/-!
# Amounts on the screen

`frontend/src/lib/persian.ts`: amounts are strings that the API has sent, as `Money` of
`app/common/money.py` writes them. All of their characters are single UTF-16 units, as are those
that are inserted.
-/

namespace ElectronicShop

open Text (Regex)

namespace Persian

def digits : List Char := "0123456789".toList

/-- `\d`, and `[0-9]`. -/
def isDigit (x : Char) : Bool := digits.contains x

def persianDigits : List Char := ['۰', '۱', '۲', '۳', '۴', '۵', '۶', '۷', '۸', '۹']

/-- `PERSIAN_DIGITS[Number(digit)]`. -/
def persianDigit (digit : List Char) : List Char :=
  match persianDigits[Nat.ofDigitChars 10 digit 0]? with
  | some x => [x]
  | none => "undefined".toList

def toPersianDigits (value : String) : String :=
  String.ofList (Regex.replaceAll (.char isDigit) persianDigit value.toList)

/-- `\B(?=(\d{3})+(?!\d))`. -/
def thousands : Regex :=
  .seq .notBoundary (.ahead (.seq (.plus (.times (.char isDigit) 3)) (.notAhead (.char isDigit))))

def formatToman (amount : String) : String :=
  let withSeparators := String.ofList (Regex.replaceAll thousands (fun _ => [',']) amount.toList)
  toPersianDigits withSeparators ++ " تومان"

/-- An amount as `format(v, "f")` writes it. -/
structure MoneyText where
  negative : Bool
  integer : List Char
  /-- What follows the point. -/
  fraction : Option (List Char)
  integerDigits : integer ≠ [] ∧ ∀ x ∈ integer, x ∈ digits
  fractionDigits : ∀ xs ∈ fraction, xs ≠ [] ∧ ∀ x ∈ xs, x ∈ digits

namespace MoneyText

def sign (m : MoneyText) : List Char := if m.negative then ['-'] else []

/-- The point and what follows it. -/
def tail (m : MoneyText) : List Char := m.fraction.elim [] fun xs => '.' :: xs

def text (m : MoneyText) : String := String.ofList (m.sign ++ m.integer ++ m.tail)

end MoneyText

end Persian

end ElectronicShop
