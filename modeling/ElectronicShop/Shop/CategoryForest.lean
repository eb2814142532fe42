import ElectronicShop.Model.CategoryTree
import ElectronicShop.Shop.CategoryTree
import Mathlib.Data.String.Basic

/-!
# The tree that is shown

`get_descendant_ids` ends, also when there are cycles, and finds what is below a category.
`get_tree` ends as well: it starts from the roots, from which no cycle is reached, and calls
itself no deeper than there are categories. What it returns has every category below a root
once, and `flattenCategories` lists them with parents before their children.
-/

namespace ElectronicShop

namespace Categories

open Txn

/-! ## Descendants -/

/-- The loop of `get_descendant_ids` ends, after as many iterations as there are categories and
    one more at most, and has found then what is reached from the category by child steps. -/
theorem descendants_found (rows : List Category) (id : Uuid) :
    ∃ n found, Loop.Ends (Forest.next (childIds rows)) n ([], [id]) (found, []) ∧
      n ≤ rows.length + 1 ∧ descendantIds rows id = found ∧ found.Nodup ∧
      ∀ y, y ∈ found ↔
        Relation.TransGen (fun x y => ∃ c ∈ rows, c.id = y ∧ c.parentId = some x) id y := by
  have hsucc : ∀ x, ∀ y ∈ childIds rows x, y ∈ rows.map Category.id := by
    intro x y hy
    obtain ⟨c, hc, rfl, -⟩ := mem_childIds.mp hy
    exact List.mem_map_of_mem hc
  obtain ⟨n, found, left, hn, hends, hleft⟩ :=
    (Forest.searching_start (childIds rows) id).ends hsucc
  have hsame : (fun x y => y ∈ childIds rows x) =
      fun x y => ∃ c ∈ rows, c.id = y ∧ c.parentId = some x := by
    funext x y
    exact propext mem_childIds
  refine ⟨n, found, hends, ?_, Forest.search_of_ends hends hn, hleft.nodup, fun y => ?_⟩
  · simpa using hn
  · rw [hleft.mem_found_iff, hsame]

/-! ## A call of `attach` -/

theorem mapM_eq_some {α β : Type} {f : α → Option β} {g : α → β} {xs : List α}
    (h : ∀ x ∈ xs, f x = some (g x)) : xs.mapM f = some (xs.map g) := by
  induction xs with
  | nil => rfl
  | cons x rest ih =>
    obtain ⟨hx, hrest⟩ := List.forall_mem_cons.mp h
    rw [List.mapM_cons, hx, ih hrest]
    rfl

/-- Names are compared by their characters. -/
def byCharacters (a b : String) : Bool := a ≤ b

theorem byCharacters_total (a b : String) : byCharacters a b = true ∨ byCharacters b a = true := by
  simpa [byCharacters] using le_total a b

theorem byCharacters_trans (a b c : String) (hab : byCharacters a b = true)
    (hbc : byCharacters b c = true) : byCharacters a c = true := by
  simp only [byCharacters, decide_eq_true_eq] at *
  exact hab.trans hbc

section Attach

variable {collate : String → String → Bool} {db : Db} {all : List Category}

/-- What `listAll` returns is such a list, for a collation that orders the names. -/
theorem lists_listAll (htotal : ∀ a b, collate a b = true ∨ collate b a = true)
    (htrans : ∀ a b c, collate a b = true → collate b c = true → collate a c = true) :
    Lists collate db (listAll collate db) where
  rows := List.perm_insertionSort _ _
  ordered := by
    have total : Std.Total (Before collate) := ⟨fun a b => by
      rcases lt_trichotomy a.sortOrder b.sortOrder with hlt | heq | hgt
      · exact Or.inl (Or.inl hlt)
      · exact (htotal a.name b.name).imp (fun h => Or.inr ⟨heq, h⟩) fun h => Or.inr ⟨heq.symm, h⟩
      · exact Or.inr (Or.inl hgt)⟩
    have trans : IsTrans Category (Before collate) := ⟨fun a b c hab hbc => by
      rcases hab with hab | ⟨hab, hnames⟩
      · rcases hbc with hbc | ⟨hbc, -⟩
        · exact Or.inl (hab.trans hbc)
        · exact Or.inl (hab.trans_eq hbc)
      · rcases hbc with hbc | ⟨hbc, hnames'⟩
        · exact Or.inl (hab.trans_lt hbc)
        · exact Or.inr ⟨hab.trans hbc, htrans _ _ _ hnames hnames'⟩⟩
    exact List.pairwise_insertionSort (Before collate) _

theorem Lists.mem_iff (h : Lists collate db all) {c : Category} :
    c ∈ all ↔ c ∈ db.categories.rows := h.rows.mem_iff

theorem Db.parentOf_of_mem {c : Category} (h : c ∈ db.categories.rows) :
    db.parentOf c.id = c.parentId := by
  unfold Db.parentOf
  rw [Table.get_of_mem h]
  rfl

theorem CategoryService.mem_childrenOf {c : Category} {id : Uuid} :
    c ∈ CategoryService.childrenOf all id ↔ c ∈ all ∧ c.parentId = some id := by
  simp [CategoryService.childrenOf]

/-- A category that a root is above, with the path to the root through the table. -/
structure Db.OnPath (db : Db) (c : Category) (path : List Uuid) : Prop where
  row : c ∈ db.categories.rows
  above : Forest.Path db.parentOf c.id path
  known : ∀ id ∈ path, id ∈ db.categories.rows.map Category.id

theorem Db.OnPath.root {c : Category} (hc : c ∈ db.categories.rows) (hroot : c.parentId = none) :
    db.OnPath c [c.id] where
  row := hc
  above := .root (by rw [Db.parentOf_of_mem hc, hroot])
  known := by simpa using ⟨c, hc, rfl⟩

/-- A child of a category on a path is on a path, too. -/
theorem Db.OnPath.child (hlists : Lists collate db all) {c child : Category} {path : List Uuid}
    (h : db.OnPath c path) (hchild : child ∈ CategoryService.childrenOf all c.id) :
    db.OnPath child (child.id :: path) where
  row := hlists.mem_iff.mp (CategoryService.mem_childrenOf.mp hchild).1
  above := by
    obtain ⟨hmem, hparent⟩ := CategoryService.mem_childrenOf.mp hchild
    refine .child ?_ h.above
    rw [Db.parentOf_of_mem (hlists.mem_iff.mp hmem), hparent]
  known := by
    have hrow := hlists.mem_iff.mp (CategoryService.mem_childrenOf.mp hchild).1
    exact List.forall_mem_cons.mpr ⟨List.mem_map_of_mem hrow, h.known⟩

theorem Db.OnPath.length_le {c : Category} {path : List Uuid} (h : db.OnPath c path) :
    path.length ≤ db.categories.rows.length := by
  simpa using h.above.length_le h.known

/-- Where the path is as long as there are categories, it goes on no further. -/
theorem Db.OnPath.leaf (hlists : Lists collate db all) {c : Category} {path : List Uuid}
    (h : db.OnPath c path) (hlength : db.categories.rows.length ≤ path.length) :
    CategoryService.childrenOf all c.id = [] := by
  refine List.eq_nil_iff_forall_not_mem.mpr fun child hchild => ?_
  have hle := (h.child hlists hchild).length_le
  simp only [List.length_cons] at hle
  omega

/-- `attach` returns when there is room for as many calls as the path can become longer, and
    one, and more room changes nothing. -/
theorem Db.OnPath.attachWithin (hlists : Lists collate db all) {fuel depth : Nat} {c : Category}
    {path : List Uuid} (h : db.OnPath c path)
    (hfuel : db.categories.rows.length ≤ fuel + path.length) (hdepth : fuel < depth) :
    CategoryService.attachWithin all depth c = some (CategoryService.attach all fuel c) := by
  induction fuel generalizing depth c path with
  | zero =>
    obtain _ | depth := depth
    · exact absurd hdepth (Nat.lt_irrefl 0)
    · have hleaf := h.leaf hlists (by simpa using hfuel)
      simp [CategoryService.attachWithin, CategoryService.attach, hleaf]
  | succ fuel ih =>
    obtain _ | depth := depth
    · exact absurd hdepth (Nat.not_lt_zero _)
    · have hchildren : ∀ child ∈ CategoryService.childrenOf all c.id,
          CategoryService.attachWithin all depth child =
            some (CategoryService.attach all fuel child) := by
        intro child hchild
        refine ih (h.child hlists hchild) ?_ (Nat.lt_of_succ_lt_succ hdepth)
        simp only [List.length_cons]
        omega
      rw [CategoryService.attachWithin, CategoryService.attach, mapM_eq_some hchildren]
      rfl

end Attach

/-! ## The nodes of a forest -/

mutual

/-- How often a category appears in a forest. -/
def occurrences (id : Uuid) : List CategoryPublic → Nat
  | [] => 0
  | node :: nodes => occurrencesBelow id node + occurrences id nodes

/-- How often it appears in one tree. -/
def occurrencesBelow (id : Uuid) : CategoryPublic → Nat
  | ⟨root, _, _, _, _, _, children⟩ => (if root = id then 1 else 0) + occurrences id children

end

mutual

/-- It is listed as often as it appears. -/
theorem count_flattenCategories (id : Uuid) :
    (nodes : List CategoryPublic) →
      ((flattenCategories nodes).map CategoryPublic.id).count id = occurrences id nodes
  | [] => by simp [occurrences]
  | node :: nodes => by
    have hnode := count_flattenCategories_below id node
    have hnodes := count_flattenCategories id nodes
    simp only [flattenCategories_cons, List.map_cons, List.map_append, List.count_cons,
      List.count_append, occurrences] at hnode ⊢
    omega

theorem count_flattenCategories_below (id : Uuid) :
    (node : CategoryPublic) →
      ((node :: flattenCategories node.children).map CategoryPublic.id).count id =
        occurrencesBelow id node
  | ⟨root, _, _, _, _, _, children⟩ => by
    have hchildren := count_flattenCategories id children
    simp only [List.map_cons, List.count_cons, beq_iff_eq, occurrencesBelow]
    omega

end

/-- A node of a forest. -/
inductive Appears (forest : List CategoryPublic) : CategoryPublic → Prop where
  | root {node : CategoryPublic} (top : node ∈ forest) : Appears forest node
  | child {parent node : CategoryPublic} (above : Appears forest parent)
      (below : node ∈ parent.children) : Appears forest node

/-! ## What the list of a forest has -/

section Flattened

variable {collate : String → String → Bool} {db : Db} {all : List Category}

/-- Below a category, or the category itself. -/
def Db.Under (db : Db) (id top : Uuid) : Prop :=
  Relation.ReflTransGen (Forest.Up db.parentOf) id top

/-- The nodes that are listed of the trees of these categories. -/
structure Flattened (db : Db) (tops : List Uuid) (nodes : List CategoryPublic) : Prop where
  rows : ∀ node ∈ nodes, ∃ c ∈ db.categories.rows,
    node.id = c.id ∧ node.parentId = c.parentId ∧ ∃ top ∈ tops, db.Under c.id top
  complete : ∀ c ∈ db.categories.rows, ∀ top ∈ tops, db.Under c.id top →
    c.id ∈ nodes.map CategoryPublic.id
  nodup : (nodes.map CategoryPublic.id).Nodup
  ordered : nodes.Pairwise fun a b => a.parentId ≠ some b.id

theorem flattened_nil : Flattened db [] [] where
  rows _ h := absurd h List.not_mem_nil
  complete _ _ _ h := absurd h List.not_mem_nil
  nodup := List.nodup_nil
  ordered := .nil

/-- Trees that have nothing in common, one after the other. -/
theorem Flattened.append {tops tops' : List Uuid} {nodes nodes' : List CategoryPublic}
    (h : Flattened db tops nodes) (h' : Flattened db tops' nodes')
    (hapart : ∀ top ∈ tops, ∀ top' ∈ tops', ∀ id, db.Under id top → ¬ db.Under id top') :
    Flattened db (tops ++ tops') (nodes ++ nodes') where
  rows node hnode := by
    rcases List.mem_append.mp hnode with hnode | hnode
    · obtain ⟨c, hc, hid, hparent, top, htop, hunder⟩ := h.rows node hnode
      exact ⟨c, hc, hid, hparent, top, List.mem_append_left _ htop, hunder⟩
    · obtain ⟨c, hc, hid, hparent, top, htop, hunder⟩ := h'.rows node hnode
      exact ⟨c, hc, hid, hparent, top, List.mem_append_right _ htop, hunder⟩
  complete c hc top htop hunder := by
    rw [List.map_append, List.mem_append]
    rcases List.mem_append.mp htop with htop | htop
    · exact Or.inl (h.complete c hc top htop hunder)
    · exact Or.inr (h'.complete c hc top htop hunder)
  nodup := by
    rw [List.map_append, List.nodup_append]
    refine ⟨h.nodup, h'.nodup, ?_⟩
    rintro id hid id' hid' rfl
    obtain ⟨node, hnode, rfl⟩ := List.mem_map.mp hid
    obtain ⟨node', hnode', heq⟩ := List.mem_map.mp hid'
    obtain ⟨c, -, hc, -, top, htop, hunder⟩ := h.rows node hnode
    obtain ⟨c', -, hc', -, top', htop', hunder'⟩ := h'.rows node' hnode'
    rw [← hc'] at hunder'
    rw [← hc, ← heq] at hunder
    exact hapart top htop top' htop' _ hunder hunder'
  ordered := by
    rw [List.pairwise_append]
    refine ⟨h.ordered, h'.ordered, fun node hnode node' hnode' hparent => ?_⟩
    -- a node below one tree whose parent is below the other would be below both
    obtain ⟨c, hrow, -, hc, top, htop, hunder⟩ := h.rows node hnode
    obtain ⟨c', -, hc', -, top', htop', hunder'⟩ := h'.rows node' hnode'
    have hup : Forest.Up db.parentOf c.id c'.id := by
      unfold Forest.Up
      rw [Db.parentOf_of_mem hrow, ← hc, hparent, hc']
    exact hapart top htop top' htop' c.id hunder (.head hup hunder')

/-- A category that is not below itself, and then what is below its children. -/
theorem Flattened.node (hlists : Lists collate db all) {c : Category} {path : List Uuid}
    {children : List CategoryPublic} (hpath : db.OnPath c path)
    (h : Flattened db ((CategoryService.childrenOf all c.id).map Category.id)
      (flattenCategories children)) :
    Flattened db [c.id] (flattenCategories [CategoryService.toPublic c children]) := by
  have hchild : ∀ top ∈ (CategoryService.childrenOf all c.id).map Category.id,
      Forest.Up db.parentOf top c.id := by
    intro top htop
    obtain ⟨child, hmem, rfl⟩ := List.mem_map.mp htop
    obtain ⟨hall, hparent⟩ := CategoryService.mem_childrenOf.mp hmem
    unfold Forest.Up
    rw [Db.parentOf_of_mem (hlists.mem_iff.mp hall), hparent]
  have hbelow : ∀ node ∈ flattenCategories children,
      Relation.TransGen (Forest.Up db.parentOf) node.id c.id := by
    intro node hnode
    obtain ⟨row, -, hid, -, top, htop, hunder⟩ := h.rows node hnode
    rw [hid]
    exact Relation.TransGen.tail' hunder (hchild top htop)
  simp only [flattenCategories_cons, flattenCategories_nil, List.append_nil]
  constructor
  · intro node hnode
    rcases List.mem_cons.mp hnode with rfl | hnode
    · exact ⟨c, hpath.row, rfl, rfl, c.id, List.mem_singleton_self _, .refl⟩
    · obtain ⟨row, hrow, hid, hparent, top, htop, hunder⟩ := h.rows node hnode
      exact ⟨row, hrow, hid, hparent, c.id, List.mem_singleton_self _,
        hunder.tail (hchild top htop)⟩
  · intro row hrow top htop hunder
    cases List.mem_singleton.mp htop
    rcases Relation.ReflTransGen.cases_tail hunder with heq | ⟨x, hx, hup⟩
    · rw [← heq]
      exact List.mem_cons_self
    · -- the last step is from a child
      refine List.mem_cons_of_mem _ (h.complete row hrow x ?_ hx)
      obtain ⟨child, hget, hparent⟩ := Option.bind_eq_some_iff.mp hup
      have hmem := hlists.mem_iff.mpr (Table.mem_of_get hget)
      exact List.mem_map.mpr ⟨child, CategoryService.mem_childrenOf.mpr ⟨hmem, hparent⟩,
        Table.key_of_get hget⟩
  · refine List.nodup_cons.mpr ⟨fun hmem => ?_, h.nodup⟩
    obtain ⟨node, hnode, hid⟩ := List.mem_map.mp hmem
    have hcycle := hbelow node hnode
    rw [show node.id = c.id from hid] at hcycle
    exact hpath.above.not_up_self hcycle
  · refine List.pairwise_cons.mpr ⟨fun node hnode hparent => ?_, h.ordered⟩
    have hup : Forest.Up db.parentOf c.id node.id := by
      unfold Forest.Up
      rw [Db.parentOf_of_mem hpath.row]
      exact hparent
    exact hpath.above.not_up_self (.head hup (hbelow node hnode))

/-- Siblings: each has its own tree, and nothing is below two of them. -/
theorem flattened_siblings {f : Category → CategoryPublic} {cs : List Category}
    (hnodup : (cs.map Category.id).Nodup)
    (h : ∀ c ∈ cs, Flattened db [c.id] (flattenCategories [f c]))
    (hapart : ∀ c ∈ cs, ∀ c' ∈ cs, ∀ id, db.Under id c.id → db.Under id c'.id → c.id = c'.id) :
    Flattened db (cs.map Category.id) (flattenCategories (cs.map f)) := by
  induction cs with
  | nil => simpa using flattened_nil
  | cons c rest ih =>
    obtain ⟨hc, hrest⟩ := List.forall_mem_cons.mp h
    obtain ⟨hnew, hnodup⟩ := List.nodup_cons.mp hnodup
    have hafter := ih hnodup hrest fun c hc c' hc' =>
      hapart c (List.mem_cons_of_mem _ hc) c' (List.mem_cons_of_mem _ hc')
    have happend := hc.append hafter fun top htop top' htop' id hunder hunder' => by
      cases List.mem_singleton.mp htop
      obtain ⟨c', hc', rfl⟩ := List.mem_map.mp htop'
      have heq := hapart c List.mem_cons_self c' (List.mem_cons_of_mem _ hc') id hunder hunder'
      exact hnew (heq ▸ htop')
    simpa using happend

/-- The ids of some of the categories are distinct. -/
theorem Lists.nodup_filter (hlists : Lists collate db all) (p : Category → Bool) :
    ((all.filter p).map Category.id).Nodup := by
  have hall : (all.map Category.id).Nodup :=
    (hlists.rows.map Category.id).nodup_iff.mpr db.categories.nodup
  exact hall.sublist (List.filter_sublist.map _)

/-- What is listed of a category that a root is above, and of what is below. -/
theorem Db.OnPath.flattened (hlists : Lists collate db all) {fuel : Nat} {c : Category}
    {path : List Uuid} (h : db.OnPath c path)
    (hfuel : db.categories.rows.length ≤ fuel + path.length) :
    Flattened db [c.id] (flattenCategories [CategoryService.attach all fuel c]) := by
  induction fuel generalizing c path with
  | zero =>
    have hleaf := h.leaf hlists (by simpa using hfuel)
    have hnone : Flattened db ((CategoryService.childrenOf all c.id).map Category.id)
        (flattenCategories []) := by
      rw [hleaf]
      simpa using flattened_nil
    exact Flattened.node hlists h hnone
  | succ fuel ih =>
    refine Flattened.node hlists h ?_
    refine flattened_siblings (hlists.nodup_filter _) (fun child hchild => ?_) ?_
    · refine ih (h.child hlists hchild) ?_
      simp only [List.length_cons]
      omega
    · intro child hchild child' hchild' id hunder hunder'
      have hup : ∀ x ∈ CategoryService.childrenOf all c.id,
          Forest.Up db.parentOf x.id c.id := by
        intro x hx
        obtain ⟨hmem, hparent⟩ := CategoryService.mem_childrenOf.mp hx
        unfold Forest.Up
        rw [Db.parentOf_of_mem (hlists.mem_iff.mp hmem), hparent]
      exact Forest.siblings_apart h.above.not_up_self (hup child hchild) (hup child' hchild')
        hunder hunder'

end Flattened

/-! ## The forest -/

section Forest

variable {collate : String → String → Bool} {db : Db} {all : List Category}

/-- The ancestors of the category lead to a root. -/
def Db.Rooted (db : Db) (c : Category) : Prop := ∃ path, Forest.Path db.parentOf c.id path

/-- `(sort_order, name)` of nodes. -/
def NodeBefore (collate : String → String → Bool) (a b : CategoryPublic) : Prop :=
  a.sortOrder < b.sortOrder ∨ a.sortOrder = b.sortOrder ∧ collate a.name b.name = true

/-- The categories below roots, each once and below its parent, in order. -/
structure ShowsForest (collate : String → String → Bool) (db : Db)
    (forest : List CategoryPublic) : Prop where
  once : ∀ c ∈ db.categories.rows, db.Rooted c → occurrences c.id forest = 1
  notRooted : ∀ c ∈ db.categories.rows, ¬ db.Rooted c → occurrences c.id forest = 0
  only : ∀ node, Appears forest node →
    ∃ c ∈ db.categories.rows, db.Rooted c ∧ node = CategoryService.toPublic c node.children
  roots : ∀ node ∈ forest, node.parentId = none
  children : ∀ parent, Appears forest parent →
    ∀ node ∈ parent.children, node.parentId = some parent.id
  rootsOrdered : forest.Pairwise (NodeBefore collate)
  childrenOrdered : ∀ parent, Appears forest parent →
    parent.children.Pairwise (NodeBefore collate)

/-- The categories below roots, each once and after its parent. -/
structure ListsForest (db : Db) (nodes : List CategoryPublic) : Prop where
  once : ∀ c ∈ db.categories.rows, db.Rooted c → (nodes.map CategoryPublic.id).count c.id = 1
  only : ∀ node ∈ nodes, ∃ c ∈ db.categories.rows, db.Rooted c ∧ node.id = c.id
  parentsFirst : ∀ node ∈ nodes, ∀ parentId ∈ node.parentId, ∃ before after,
    nodes = before ++ node :: after ∧ parentId ∈ before.map CategoryPublic.id

theorem Db.Rooted.root {c : Category} (hc : c ∈ db.categories.rows)
    (hparents : ∀ c ∈ db.categories.rows, ∀ p ∈ c.parentId, (db.categories.get p).isSome)
    (h : db.Rooted c) : ∃ r ∈ db.categories.rows, r.parentId = none ∧ db.Under c.id r.id := by
  obtain ⟨path, hpath⟩ := h
  generalize hid : c.id = id at hpath
  induction hpath generalizing c with
  | root hroot =>
    subst hid
    exact ⟨c, hc, (Db.parentOf_of_mem hc).symm.trans hroot, .refl⟩
  | @child x y path hup above ih =>
    subst hid
    have hparent : c.parentId = some x := (Db.parentOf_of_mem hc).symm.trans hup
    obtain ⟨p, hp⟩ := Option.isSome_iff_exists.mp (hparents c hc x hparent)
    obtain ⟨r, hr, hroot, hunder⟩ := ih (Table.mem_of_get hp) (Table.key_of_get hp)
    exact ⟨r, hr, hroot, .head hup hunder⟩

/-- What is below a root is rooted. -/
theorem Db.Under.rooted {id : Uuid} {r : Category} (hr : r ∈ db.categories.rows)
    (hroot : r.parentId = none) (h : db.Under id r.id) :
    ∃ path, Forest.Path db.parentOf id path := by
  unfold Db.Under at h
  induction h using Relation.ReflTransGen.head_induction_on with
  | refl => exact ⟨[r.id], .root (by rw [Db.parentOf_of_mem hr, hroot])⟩
  | head hup _ ih =>
    obtain ⟨path, hpath⟩ := ih
    exact ⟨_, .child hup hpath⟩

theorem CategoryService.attach_eq_toPublic (fuel : Nat) (c : Category) :
    CategoryService.attach all fuel c =
      CategoryService.toPublic c (CategoryService.attach all fuel c).children := by
  cases fuel <;> rfl

theorem Lists.length_eq (hlists : Lists collate db all) :
    all.length = db.categories.rows.length := hlists.rows.length_eq

/-- The list of the whole tree. -/
theorem flattened_getTree (hlists : Lists collate db all) :
    Flattened db ((all.filter fun c => c.parentId = none).map Category.id)
      (flattenCategories (CategoryService.getTree all)) := by
  have hroot : ∀ c ∈ all.filter fun c => c.parentId = none,
      c ∈ db.categories.rows ∧ c.parentId = none := by
    intro c hc
    simpa [hlists.mem_iff] using hc
  refine flattened_siblings (hlists.nodup_filter _) (fun c hc => ?_) ?_
  · obtain ⟨hrow, hnone⟩ := hroot c hc
    refine (Db.OnPath.root hrow hnone).flattened hlists ?_
    rw [hlists.length_eq]
    omega
  · intro c hc c' hc' id hunder hunder'
    obtain ⟨hrow, hnone⟩ := hroot c hc
    obtain ⟨hrow', hnone'⟩ := hroot c' hc'
    exact Forest.roots_apart ((Db.parentOf_of_mem hrow).trans hnone)
      ((Db.parentOf_of_mem hrow').trans hnone') hunder hunder'

/-- As many calls as there are categories are enough. -/
theorem getTreeWithin_eq (hlists : Lists collate db all) {depth : Nat}
    (hdepth : db.categories.rows.length ≤ depth) :
    CategoryService.getTreeWithin depth all = some (CategoryService.getTree all) := by
  refine mapM_eq_some fun c hc => ?_
  have hroot : c ∈ db.categories.rows ∧ c.parentId = none := by simpa [hlists.mem_iff] using hc
  have hpath := Db.OnPath.root hroot.1 hroot.2
  have hpositive : 0 < db.categories.rows.length := List.length_pos_of_mem hroot.1
  have hlength : [c.id].length = 1 := rfl
  -- one call less than there are categories, with and without more room
  have hshort : ∀ depth, db.categories.rows.length ≤ depth →
      CategoryService.attachWithin all depth c =
        some (CategoryService.attach all (db.categories.rows.length - 1) c) :=
    fun depth hdepth => hpath.attachWithin hlists (by omega) (by omega)
  have hfull : CategoryService.attachWithin all (all.length + 1) c =
      some (CategoryService.attach all all.length c) :=
    hpath.attachWithin hlists (by rw [hlists.length_eq]; omega) (Nat.lt_succ_self _)
  rw [hshort depth hdepth, ← hfull, hshort (all.length + 1) (by rw [hlists.length_eq]; omega)]

theorem mem_flattenCategories_of_rooted (hlists : Lists collate db all)
    (hparents : ∀ c ∈ db.categories.rows, ∀ p ∈ c.parentId, (db.categories.get p).isSome)
    {c : Category} (hc : c ∈ db.categories.rows) (h : db.Rooted c) :
    c.id ∈ (flattenCategories (CategoryService.getTree all)).map CategoryPublic.id := by
  obtain ⟨r, hr, hroot, hunder⟩ := h.root hc hparents
  refine (flattened_getTree hlists).complete c hc r.id (List.mem_map_of_mem ?_) hunder
  simpa [hlists.mem_iff, hroot] using hr

theorem rooted_of_mem_flattenCategories (hlists : Lists collate db all) {node : CategoryPublic}
    (h : node ∈ flattenCategories (CategoryService.getTree all)) :
    ∃ c ∈ db.categories.rows, db.Rooted c ∧ node.id = c.id ∧ node.parentId = c.parentId := by
  obtain ⟨c, hc, hid, hparent, top, htop, hunder⟩ := (flattened_getTree hlists).rows node h
  obtain ⟨r, hr, rfl⟩ := List.mem_map.mp htop
  have hroot : r ∈ db.categories.rows ∧ r.parentId = none := by simpa [hlists.mem_iff] using hr
  exact ⟨c, hc, Db.Under.rooted hroot.1 hroot.2 hunder, hid, hparent⟩

/-- A node is a rooted category with its children in their order. -/
theorem Appears.attached (hlists : Lists collate db all) {node : CategoryPublic}
    (h : Appears (CategoryService.getTree all) node) :
    ∃ c ∈ db.categories.rows, db.Rooted c ∧ ∃ fuel, node = CategoryService.attach all fuel c := by
  induction h with
  | root top =>
    obtain ⟨c, hc, rfl⟩ := List.mem_map.mp top
    have hroot : c ∈ db.categories.rows ∧ c.parentId = none := by simpa [hlists.mem_iff] using hc
    exact ⟨c, hroot.1, ⟨_, (Db.OnPath.root hroot.1 hroot.2).above⟩, all.length, rfl⟩
  | child _ below ih =>
    obtain ⟨c, hc, ⟨path, hpath⟩, fuel, rfl⟩ := ih
    cases fuel with
    | zero => cases below
    | succ fuel =>
      obtain ⟨child, hchild, rfl⟩ := List.mem_map.mp below
      obtain ⟨hmem, hparent⟩ := CategoryService.mem_childrenOf.mp hchild
      have hrow := hlists.mem_iff.mp hmem
      exact ⟨child, hrow, ⟨_, .child ((Db.parentOf_of_mem hrow).trans hparent) hpath⟩, fuel, rfl⟩

/-- Some of the categories, attached, are in the order of the list. -/
theorem Lists.pairwise_attach (hlists : Lists collate db all) (p : Category → Bool) (fuel : Nat) :
    ((all.filter p).map (CategoryService.attach all fuel)).Pairwise (NodeBefore collate) := by
  refine List.pairwise_map.mpr ((hlists.ordered.sublist List.filter_sublist).imp fun h => ?_)
  cases fuel <;> exact h

theorem showsForest_getTree (hlists : Lists collate db all)
    (hparents : ∀ c ∈ db.categories.rows, ∀ p ∈ c.parentId, (db.categories.get p).isSome) :
    ShowsForest collate db (CategoryService.getTree all) where
  once c hc hrooted := by
    rw [← count_flattenCategories]
    exact List.count_eq_one_of_mem (flattened_getTree hlists).nodup
      (mem_flattenCategories_of_rooted hlists hparents hc hrooted)
  notRooted c hc hrooted := by
    rw [← count_flattenCategories, List.count_eq_zero]
    intro hmem
    obtain ⟨node, hnode, hid⟩ := List.mem_map.mp hmem
    obtain ⟨c', -, hrooted', hid', -⟩ := rooted_of_mem_flattenCategories hlists hnode
    unfold Db.Rooted at hrooted'
    rw [← hid', hid] at hrooted'
    exact hrooted hrooted'
  only node h := by
    obtain ⟨c, hc, hrooted, fuel, rfl⟩ := h.attached hlists
    exact ⟨c, hc, hrooted, CategoryService.attach_eq_toPublic fuel c⟩
  roots node h := by
    obtain ⟨c, hc, rfl⟩ := List.mem_map.mp h
    rw [CategoryService.attach_eq_toPublic]
    have hroot : c.parentId = none := by simpa using (List.mem_filter.mp hc).2
    exact hroot
  children parent h node hnode := by
    obtain ⟨c, hc, -, fuel, rfl⟩ := h.attached hlists
    cases fuel with
    | zero => cases hnode
    | succ fuel =>
      obtain ⟨child, hchild, rfl⟩ := List.mem_map.mp hnode
      rw [CategoryService.attach_eq_toPublic]
      exact (CategoryService.mem_childrenOf.mp hchild).2
  rootsOrdered := hlists.pairwise_attach _ _
  childrenOrdered parent h := by
    obtain ⟨c, hc, -, fuel, rfl⟩ := h.attached hlists
    cases fuel with
    | zero => exact List.Pairwise.nil
    | succ fuel => exact hlists.pairwise_attach _ _

theorem listsForest_flattenCategories (hlists : Lists collate db all)
    (hparents : ∀ c ∈ db.categories.rows, ∀ p ∈ c.parentId, (db.categories.get p).isSome) :
    ListsForest db (flattenCategories (CategoryService.getTree all)) where
  once c hc hrooted := List.count_eq_one_of_mem (flattened_getTree hlists).nodup
    (mem_flattenCategories_of_rooted hlists hparents hc hrooted)
  only node h := by
    obtain ⟨c, hc, hrooted, hid, -⟩ := rooted_of_mem_flattenCategories hlists h
    exact ⟨c, hc, hrooted, hid⟩
  parentsFirst node h parentId hparent := by
    obtain ⟨c, hc, ⟨path, hpath⟩, hid, hparent'⟩ := rooted_of_mem_flattenCategories hlists h
    have hcparent : c.parentId = some parentId := hparent'.symm.trans hparent
    have hup : Forest.Up db.parentOf c.id parentId := (Db.parentOf_of_mem hc).trans hcparent
    obtain ⟨p, hp⟩ := Option.isSome_iff_exists.mp (hparents c hc parentId hcparent)
    have hpid : p.id = parentId := Table.key_of_get hp
    have hprooted : db.Rooted p := by
      cases hpath with
      | root hroot => cases hroot.symm.trans hup
      | child hup' habove =>
        cases hup.symm.trans hup'
        exact ⟨_, hpid ▸ habove⟩
    have hlisted := mem_flattenCategories_of_rooted hlists hparents (Table.mem_of_get hp) hprooted
    rw [hpid] at hlisted
    obtain ⟨before, after, hsplit⟩ := List.append_of_mem h
    refine ⟨before, after, hsplit, ?_⟩
    -- the parent is neither the node itself nor one of those after it
    have hordered := (flattened_getTree hlists).ordered
    rw [hsplit] at hlisted hordered
    rw [List.map_append, List.map_cons, List.mem_append, List.mem_cons] at hlisted
    rcases hlisted with hbefore | hself | hafter
    · exact hbefore
    · refine absurd (Relation.TransGen.single ?_) hpath.not_up_self
      rw [hself, hid] at hup
      exact hup
    · obtain ⟨node', hnode', hid'⟩ := List.mem_map.mp hafter
      have hne := (List.pairwise_cons.mp (List.pairwise_append.mp hordered).2.1).1 node' hnode'
      exact absurd (hparent.trans (congrArg some hid'.symm)) hne

/-- For every table in which parents are rows, `get_tree` returns when there is room for as many
    calls as there are categories: the categories below roots, each once and below its parent, in
    order. `flattenCategories` lists each of them once, and after its parent. -/
theorem category_forest_shown (hlists : Lists collate db all)
    (hparents : ∀ c ∈ db.categories.rows, ∀ p ∈ c.parentId, (db.categories.get p).isSome) :
    ∃ forest,
      (∀ depth, db.categories.rows.length ≤ depth →
        CategoryService.getTreeWithin depth all = some forest) ∧
      ShowsForest collate db forest ∧ ListsForest db (flattenCategories forest) :=
  ⟨CategoryService.getTree all, fun _ hdepth => getTreeWithin_eq hlists hdepth,
    showsForest_getTree hlists hparents, listsForest_flattenCategories hlists hparents⟩

/-- A category, one below it, and two that are each below the other. -/
def fourCategories : Db where
  categories := ((((∅ : Table Category.id).put ⟨1, none, "Phones", "phones", true, 0⟩).put
    ⟨2, some 1, "Chargers", "chargers", true, 0⟩).put
    ⟨3, some 4, "Laptops", "laptops", true, 1⟩).put ⟨4, some 3, "Mice", "mice", true, 2⟩
  products := ∅

/-- The two are not shown. -/
theorem category_forest_shown_fourCategories :
    ∃ forest, ShowsForest byCharacters fourCategories forest ∧
      ListsForest fourCategories (flattenCategories forest) ∧
      (flattenCategories forest).map CategoryPublic.id = [1, 2] := by
  have hlists : Lists byCharacters fourCategories (listAll byCharacters fourCategories) :=
    lists_listAll byCharacters_total byCharacters_trans
  obtain ⟨forest, hreturns, hshows, hlisted⟩ := category_forest_shown hlists (by decide)
  have hforest : CategoryService.getTreeWithin 4 (listAll byCharacters fourCategories) =
      some forest := hreturns 4 (by decide)
  have hids : (CategoryService.getTreeWithin 4 (listAll byCharacters fourCategories)).map
      (fun forest => (flattenCategories forest).map CategoryPublic.id) = some [1, 2] := by
    decide +kernel
  rw [hforest] at hids
  exact ⟨forest, hshows, hlisted, Option.some.inj hids⟩

end Forest

end Categories

end ElectronicShop
