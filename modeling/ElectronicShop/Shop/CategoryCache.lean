import ElectronicShop.Shop.CategoryForest
import ElectronicShop.Shop.CategoryMoves

/-!
# When the cached category tree is current

An operation deletes the cached tree before it commits, and a reader caches a tree some time
after it has read the categories. A tree that is cached in between, or that was read before,
stays in the cache although the categories have changed. When neither happens, the cached tree is
the current one.
-/

namespace ElectronicShop

namespace Categories

open Txn

/-! ## Runs -/

section Run

variable {ι κ : Type} {collate : String → String → Bool} {s : CachedCategories ι κ}

/-- The cached tree, if there is one, is the tree of the committed categories. -/
def TreeCurrent (collate : String → String → Bool) (s : CachedCategories ι κ) : Prop :=
  ∀ json, s.cells.find .categoryTree = some json →
    json = .categories (CategoryService.getTree (listAll collate s.txns.db))

theorem asCategories_eq_ok {json : CachedJson} {tree : List CategoryPublic} :
    json.asCategories = .ok tree ↔ json = .categories tree := by
  cases json <;> simp [CachedJson.asCategories]

/-- Then readers are answered as with an empty cache. -/
theorem treeCurrent_iff : TreeCurrent collate s ↔ s.Transparent (requests collate) := by
  unfold Cache.System.Transparent
  rw [Cache.View.transparent_iff]
  exact forall₂_congr fun json _ => asCategories_eq_ok.symm

/-- Every operation deletes the tree. -/
theorem key_mem_keys (category : Option Category) :
    (requests collate).view.key ∈ (requests collate).keys category := List.mem_cons_self ..

variable [DecidableEq ι] [Fintype ι] [DecidableEq κ]

/-- The cached tree is current all the time, and so when all have finished, in every run in which
    no operation commits between the query of a reader and its filling of the cache, and no reader
    fills the cache between the deletion of an operation and its end. -/
theorem category_tree_current {db : Db} {ops : ι → CategoryOperation} {redis : Redis}
    {steps : List (Cache.Step ι κ)}
    (h₀ : TreeCurrent collate (CachedCategories.start κ db ops redis))
    (hrun : Run (Cache.System.exec (requests collate)) Cache.System.Spaced
      (CachedCategories.start κ db ops redis) steps s) :
    TreeCurrent collate s := by
  have hstart : (CachedCategories.start κ db ops redis).Consistent (requests collate) :=
    .start (treeCurrent_iff.mp h₀) (fun _ => rfl) fun _ => rfl
  exact treeCurrent_iff.mpr (hstart.run key_mem_keys hrun).transparent

end Run

/-- The first category gets a new name. -/
def renameFirst : Fin 1 → CategoryOperation
  | 0 => .update 1 ⟨some "renamed", none, none⟩

/-- Two categories, nothing cached, and `readers` requests for the tree. -/
def beforeRename (readers : Nat) : CachedCategories (Fin 1) (Fin readers) :=
  CachedCategories.start (Fin readers) twoCategories.db renameFirst ∅

theorem treeCurrent_beforeRename (readers : Nat) :
    TreeCurrent byCharacters (beforeRename readers) := by
  intro json h
  cases h

/-- The tree is shown before the category is renamed, and a second reader that finds nothing while
    it is being renamed reads the new tree. -/
def renamedBetween : List (Cache.Step (Fin 1) (Fin 2)) :=
  [.read 0, .read 0, .read 0, .txn (.turn 0), .txn (.turn 0), .delete 0, .read 1, .txn (.turn 0),
    .read 1, .read 1]

theorem category_tree_current_beforeRename : ∃ s : CachedCategories (Fin 1) (Fin 2), ∃ json,
    Run (Cache.System.exec (requests byCharacters)) Cache.System.Spaced (beforeRename 2)
      renamedBetween s ∧
    (s.txns.results 0).isSome ∧ (∀ j, (s.readers j).answer.isSome) ∧
    s.cells.find .categoryTree = some json ∧ TreeCurrent byCharacters s := by
  have hrun : ∃ s : CachedCategories (Fin 1) (Fin 2),
      Run (Cache.System.exec (requests byCharacters)) Cache.System.Spaced (beforeRename 2)
        renamedBetween s ∧
      (s.txns.results 0).isSome ∧ (∀ j, (s.readers j).answer.isSome) ∧
      (s.cells.find .categoryTree).isSome := Run.exists_of_execAll (by decide +kernel)
  obtain ⟨s, hrun, hcommitted, hanswered, hcached⟩ := hrun
  obtain ⟨json, hjson⟩ := Option.isSome_iff_exists.mp hcached
  exact ⟨s, json, hrun, hcommitted, hanswered, hjson,
    category_tree_current (treeCurrent_beforeRename 2) hrun⟩

/-- The tree is cached between the deletion and the commit of the new name, or has been read
    before: when all have finished, it is still the old one. -/
theorem category_tree_current_fails :
    TreeCurrent byCharacters (beforeRename 1) ∧
    (∃ s : CachedCategories (Fin 1) (Fin 1),
      Run (Cache.System.exec (requests byCharacters)) anyStep (beforeRename 1)
        [.txn (.turn 0), .txn (.turn 0), .delete 0, .read 0, .read 0, .read 0, .txn (.turn 0)] s ∧
      (s.txns.results 0).isSome ∧ (s.readers 0).answer.isSome ∧
      s.cells.find .categoryTree = some (.categories
        (CategoryService.getTree (listAll byCharacters twoCategories.db))) ∧
      CategoryService.getTree (listAll byCharacters s.txns.db) ≠
        CategoryService.getTree (listAll byCharacters twoCategories.db)) ∧
    ∃ s : CachedCategories (Fin 1) (Fin 1),
      Run (Cache.System.exec (requests byCharacters)) anyStep (beforeRename 1)
        [.read 0, .read 0, .txn (.turn 0), .txn (.turn 0), .delete 0, .txn (.turn 0), .read 0] s ∧
      (s.txns.results 0).isSome ∧ (s.readers 0).answer.isSome ∧
      s.cells.find .categoryTree = some (.categories
        (CategoryService.getTree (listAll byCharacters twoCategories.db))) ∧
      CategoryService.getTree (listAll byCharacters s.txns.db) ≠
        CategoryService.getTree (listAll byCharacters twoCategories.db) :=
  ⟨treeCurrent_beforeRename 1, Run.exists_of_execAll (by decide +kernel),
    Run.exists_of_execAll (by decide +kernel)⟩

end Categories

end ElectronicShop
