import ElectronicShop.Model.CategoryCache

/-!
# The category tree and its readers

`get_tree` sets the children of each category by recursion, with no bound but that of the call
stack; what it returns is sent as `CategoryPublic`. `flattenCategories` of
`frontend/src/api/catalog.ts` makes a list of it again.
-/

namespace ElectronicShop

namespace Categories

/-- `ORDER BY sort_order, name`. -/
def Before (collate : String → String → Bool) (a b : Category) : Prop :=
  a.sortOrder < b.sortOrder ∨ a.sortOrder = b.sortOrder ∧ collate a.name b.name = true

instance decidableBefore (collate : String → String → Bool) : DecidableRel (Before collate) :=
  fun _ _ => inferInstanceAs (Decidable (_ ∨ _))

/-- A result of `list_all`: the rows in their order, equal ones in any. -/
structure Lists (collate : String → String → Bool) (db : Db) (all : List Category) : Prop where
  rows : all.Perm db.categories.rows
  ordered : all.Pairwise (Before collate)

namespace CategoryService

/-- `attach`, when there is room for calls of this depth: none if there is not. -/
def attachWithin (all : List Category) : Nat → Category → Option CategoryPublic
  | 0, _ => none
  | depth + 1, node => ((childrenOf all node.id).mapM (attachWithin all depth)).map (toPublic node)

/-- `get_tree`, of the categories that `list_all` has read. -/
def getTreeWithin (depth : Nat) (all : List Category) : Option (List CategoryPublic) :=
  (all.filter fun c => c.parentId = none).mapM (attachWithin all depth)

end CategoryService

end Categories

/-! ## The storefront -/

mutual

/-- `walk` of `flattenCategories`, with what it has pushed so far. -/
def walk (result : List CategoryPublic) : List CategoryPublic → List CategoryPublic
  | [] => result
  | node :: nodes => walk (walkNode result node) nodes

/-- One iteration of its loop. -/
def walkNode (result : List CategoryPublic) : CategoryPublic → List CategoryPublic
  | ⟨id, name, slug, isActive, sortOrder, parentId, children⟩ =>
    let node : CategoryPublic := ⟨id, name, slug, isActive, sortOrder, parentId, children⟩
    if children.length > 0 then walk (result ++ [node]) children else result ++ [node]

end

def flattenCategories (categories : List CategoryPublic) : List CategoryPublic :=
  walk [] categories

mutual

/-- What has been pushed stays in front. -/
theorem walk_append (result : List CategoryPublic) :
    (nodes : List CategoryPublic) → walk result nodes = result ++ walk [] nodes
  | [] => by simp [walk]
  | node :: nodes => by
    rw [walk, walk, walk_append _ nodes, walkNode_append, walk_append (walkNode [] node) nodes,
      List.append_assoc]

theorem walkNode_append (result : List CategoryPublic) :
    (node : CategoryPublic) → walkNode result node = result ++ walkNode [] node
  | ⟨id, name, slug, isActive, sortOrder, parentId, children⟩ => by
    unfold walkNode
    dsimp only
    split
    · rw [walk_append _ children, walk_append ([] ++ _) children, List.append_assoc,
        List.nil_append]
    · rfl

end

@[simp] theorem flattenCategories_nil : flattenCategories [] = [] := by
  simp [flattenCategories, walk]

/-- A node comes before its children, and these before the nodes after it. -/
@[simp] theorem flattenCategories_cons (node : CategoryPublic) (nodes : List CategoryPublic) :
    flattenCategories (node :: nodes) =
      node :: (flattenCategories node.children ++ flattenCategories nodes) := by
  obtain ⟨id, name, slug, isActive, sortOrder, parentId, children⟩ := node
  unfold flattenCategories
  rw [walk, walk_append]
  unfold walkNode
  dsimp only
  cases children with
  | nil => simp [walk]
  | cons child rest =>
    rw [if_pos (by simp), walk_append]
    rfl

end ElectronicShop
