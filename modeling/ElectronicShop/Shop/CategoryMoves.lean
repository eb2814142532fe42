import ElectronicShop.Shop.CategoryTree

/-!
# Which moves are accepted

A move that no other operation overlaps reads the category, the new parent and, for the
descendants of the category, the whole table. It succeeds for the new parents below which
the tree stays a tree, and for these alone.
-/

namespace ElectronicShop

namespace Categories

open Txn

section Run

variable {w w' : Session} {db db' : Db}

/-- Nothing has been changed, and what is loaded are rows of the database. -/
structure Session.Fresh (w : Session) (db : Db) : Prop where
  pending : w.pending = []
  objects : Table.Sub w.objects db.categories

namespace Session.Fresh

theorem start (db : Db) : engine.start.Fresh db := ⟨rfl, Table.sub_empty _⟩

theorem view (h : w.Fresh db) : w.view db = db := by
  unfold Session.view
  rw [h.pending]
  rfl

theorem load (h : w.Fresh db) (id : Uuid) : (w.load db id).Fresh db := by
  refine ⟨h.pending, ?_⟩
  show Table.Sub (w.objects.remember w.objects (w.view db).categories id) db.categories
  rw [h.view]
  exact h.objects.remember id

theorem loadAll (h : w.Fresh db) (rows : List Category) :
    (rows.foldl (fun w row => w.load db row.id) w).Fresh db := by
  induction rows generalizing w with
  | nil => exact h
  | cons row rest ih => exact ih (h.load row.id)

/-- A query by primary key is answered with the row. -/
theorem getCategory (h : w.Fresh db) (id : Uuid) :
    ((Stmt.getCategory id).execIn w db).1 = db.categories.get id ∧
      ((Stmt.getCategory id).execIn w db).2.Fresh db := by
  refine ⟨?_, h.load id⟩
  change w.objects.lookup (w.view db).categories id = _
  rw [h.view]
  exact h.objects.lookup id

/-- `list_all` is answered with the rows. -/
theorem listAll (h : w.Fresh db) :
    (Stmt.listAll.execIn w db).1 = db.categories.rows ∧ (Stmt.listAll.execIn w db).2.Fresh db := by
  have hobject : ∀ row ∈ db.categories.rows, w.object row = row := fun row hrow =>
    h.objects.getD (Table.get_of_mem hrow)
  refine ⟨?_, ?_⟩
  · simp only [Stmt.execIn, h.view]
    rw [List.map_congr_left hobject, List.map_id']
  · simp only [Stmt.execIn, h.view]
    obtain ⟨hpending, hobjects⟩ := h.loadAll db.categories.rows
    exact ⟨hpending, hobjects⟩

end Session.Fresh

theorem run_send_bind {α : Type} (s : Stmt) (f : s.Resp → Tx α) :
    (send s >>= f).run (fun s w => engine.exec s w db) w =
      (f (s.execIn w db).1).run (fun s w => engine.exec s w db) (s.execIn w db).2 := rfl

/-- The memory after the check of a new parent. -/
def Session.readTree (w : Session) (db : Db) (newParentId : Uuid) : Session :=
  (Stmt.listAll.execIn ((Stmt.getCategory newParentId).execIn w db).2 db).2

theorem Session.Fresh.readTree (h : w.Fresh db) (newParentId : Uuid) :
    (w.readTree db newParentId).Fresh db := (h.getCategory newParentId).2.listAll.2

/-- A parent below which a category can be moved: it exists and is not in the subtree. -/
def Db.Accepts (db : Db) (categoryId newParentId : Uuid) : Prop :=
  (db.categories.get newParentId).isSome ∧ newParentId ≠ categoryId ∧
    ¬ Relation.TransGen (Forest.Up db.parentOf) newParentId categoryId

theorem run_checkNewParent (h : w.Fresh db) {categoryId newParentId : Uuid} {r : Unit × Session} :
    (CategoryService.checkNewParent categoryId newParentId).run (fun s w => engine.exec s w db) w =
        .ok r ↔
      db.Accepts categoryId newParentId ∧ r = ((), w.readTree db newParentId) := by
  obtain ⟨hget, hread⟩ := h.getCategory newParentId
  unfold CategoryService.checkNewParent Db.Accepts
  rw [Prog.run_if_raise_ok, run_send_bind, Prog.run_orRaise_bind, hget]
  have hlist : Prog.run (fun s w => engine.exec s w db)
      (send .listAll >>= fun all =>
        if newParentId ∈ descendantIds all categoryId then
          .raise (.conflict "دسته‌بندی نمی‌تواند به زیرمجموعه خودش منتقل شود.")
        else pure ()) ((Stmt.getCategory newParentId).execIn w db).2 = .ok r ↔
      ¬ Relation.TransGen (Forest.Up db.parentOf) newParentId categoryId ∧
        r = ((), w.readTree db newParentId) := by
    rw [run_send_bind, hread.listAll.1, Prog.run_if_raise_ok, mem_descendantIds_rows]
    simp [Session.readTree, eq_comm]
  rw [exists_congr fun parent => and_congr_right fun _ => hlist, exists_and_right,
    ← Option.isSome_iff_exists]
  tauto

/-- The memory after a move, when the category is moved from below `oldParentId`. -/
def Session.moved (w : Session) (db : Db) (categoryId : Uuid) (oldParentId newParentId : Option Uuid) :
    Session :=
  let read := match newParentId with
    | none => w
    | some newParentId => w.readTree db newParentId
  if newParentId = oldParentId then read else read.send (.setParent categoryId newParentId)

theorem run_move (h : w.Fresh db) {categoryId : Uuid} {newParentId : Option Uuid}
    {r : Category × Session} :
    (CategoryService.move categoryId newParentId).run (fun s w => engine.exec s w db) w = .ok r ↔
      ∃ category, db.categories.get categoryId = some category ∧
        (∀ p ∈ newParentId, db.Accepts categoryId p) ∧
        r = ({ category with parentId := newParentId },
          Session.moved ((Stmt.getCategory categoryId).execIn w db).2 db categoryId
            category.parentId newParentId) := by
  obtain ⟨hget, hread⟩ := h.getCategory categoryId
  unfold CategoryService.move
  rw [run_send_bind, Prog.run_orRaise_bind, hget]
  refine exists_congr fun category => and_congr_right fun _ => ?_
  have hassign : ∀ w₁ : Session, Prog.run (fun s w => engine.exec s w db)
      (CategoryService.assign category.parentId newParentId (.setParent categoryId newParentId) >>=
        fun _ => pure { category with parentId := newParentId }) w₁ = .ok r ↔
      r = ({ category with parentId := newParentId },
        if newParentId = category.parentId then w₁
        else w₁.send (.setParent categoryId newParentId)) := by
    intro w₁
    unfold CategoryService.assign
    split
    · simp [eq_comm]
    · rw [eq_comm]
      change Except.ok r = Except.ok _ ↔ _
      rw [Except.ok.injEq]
      rfl
  cases newParentId with
  | none => simpa [Session.moved] using hassign _
  | some newParentId =>
    have hcheck := @run_checkNewParent _ _ hread categoryId newParentId ((), Session.readTree
      ((Stmt.getCategory categoryId).execIn w db).2 db newParentId)
    rw [Prog.run_bind_ok]
    constructor
    · rintro ⟨u, w₁, hchecked, hrest⟩
      obtain ⟨haccepts, heq⟩ := (run_checkNewParent hread).mp hchecked
      cases heq
      refine ⟨fun p hp => ?_, (hassign _).mp hrest⟩
      cases hp
      exact haccepts
    · rintro ⟨haccepts, hr⟩
      exact ⟨(), _, hcheck.mpr ⟨haccepts newParentId rfl, rfl⟩, (hassign _).mpr hr⟩

end Run

/-! ## Commit -/

section Commit

variable {db : Db} {categoryId : Uuid} {newParentId : Option Uuid} {category : Category}

/-- The table with one parent set. -/
def Db.withParent (db : Db) (categoryId : Uuid) (newParentId : Option Uuid) : Db :=
  { db with
    categories := db.categories.modify categoryId fun c => { c with parentId := newParentId } }

theorem Db.withParent_of_same (hget : db.categories.get categoryId = some category) :
    db.withParent categoryId category.parentId = db := by
  unfold Db.withParent
  rw [Table.modify_of_get _ hget, Table.put_self hget]

/-- The rows of the table with one parent set. -/
theorem Db.rows_withParent :
    (db.withParent categoryId newParentId).categories.rows = db.categories.rows.map fun c =>
      if c.id = categoryId then { c with parentId := newParentId } else c := by
  have hid : ∀ c : Category, { c with parentId := newParentId }.id = c.id := fun _ => rfl
  unfold Db.withParent
  rw [Table.modify_eq_map _ _ _ hid]
  rfl

theorem Db.isSome_withParent (id : Uuid) :
    ((db.withParent categoryId newParentId).categories.get id).isSome =
      (db.categories.get id).isSome := by
  have hid : ∀ c : Category, { c with parentId := newParentId }.id = c.id := fun _ => rfl
  exact Table.isSome_get_modify _ _ _ hid id

/-- A move below a parent that accepts the category keeps the constraints. -/
theorem Db.constraints_withParent (hvalid : db.Constraints)
    (haccepts : ∀ p ∈ newParentId, db.Accepts categoryId p) :
    (db.withParent categoryId newParentId).Constraints := by
  have hrow : ∀ c ∈ (db.withParent categoryId newParentId).categories.rows,
      ∃ row ∈ db.categories.rows, c.id = row.id ∧ (Categories.fits row → Categories.fits c) ∧
        (c.parentId = row.parentId ∨ row.id = categoryId ∧ c.parentId = newParentId) := by
    intro c hc
    rw [Db.rows_withParent] at hc
    obtain ⟨row, hmem, rfl⟩ := List.mem_map.mp hc
    refine ⟨row, hmem, ?_⟩
    split
    · exact ⟨rfl, id, Or.inr ⟨‹_›, rfl⟩⟩
    · exact ⟨rfl, id, Or.inl rfl⟩
  refine ⟨?_, ?_, ?_, ?_, ?_⟩
  · intro c hc
    obtain ⟨row, hmem, -, hfits, -⟩ := hrow c hc
    exact hfits (hvalid.fits row hmem)
  · rw [Db.rows_withParent, List.map_map]
    have hslug : ∀ c ∈ db.categories.rows, (Category.slug ∘ fun c : Category =>
        if c.id = categoryId then { c with parentId := newParentId } else c) c = c.slug := by
      intro c _
      simp only [Function.comp_apply]
      split <;> rfl
    rw [List.map_congr_left hslug]
    exact hvalid.slugs
  · intro c hc p hp
    obtain ⟨row, hmem, -, -, hparent | ⟨-, hparent⟩⟩ := hrow c hc
    · rw [Db.isSome_withParent]
      exact hvalid.parents row hmem p (hparent ▸ hp)
    · rw [Db.isSome_withParent]
      exact (haccepts p (hparent ▸ hp)).1
  · intro c hc hself
    obtain ⟨row, hmem, hid, -, hparent | ⟨hrowId, hparent⟩⟩ := hrow c hc
    · exact hvalid.notSelfParent row hmem (hparent ▸ hid ▸ hself)
    · refine (haccepts c.id (hparent ▸ hself)).2.1 ?_
      rw [hid, hrowId]
  · intro product hproduct
    rw [Db.isSome_withParent]
    exact hvalid.products product hproduct

theorem engine_commit_of_valid {w : Session} (hfinds : ∀ x ∈ w.pending, x.finds db = true)
    (hvalid : (w.view db).Constraints) : engine.commit w db = .ok (w.view db) := by
  have hall : w.pending.all (Write.finds db) = true := List.all_eq_true.mpr hfinds
  change (if w.pending.all (Write.finds db) = false then Except.error ShopError.internal
    else if (w.view db).Constraints then .ok (w.view db) else .error .database) = _
  rw [if_neg (by simp [hall]), if_pos hvalid]

/-- It commits. -/
theorem commit_moved {w : Session} (h : w.Fresh db) (hvalid : db.Constraints)
    (hget : db.categories.get categoryId = some category)
    (haccepts : ∀ p ∈ newParentId, db.Accepts categoryId p) :
    engine.commit (w.moved db categoryId category.parentId newParentId) db =
      .ok (db.withParent categoryId newParentId) := by
  have hread : ∀ w : Session, w.Fresh db → engine.commit
      (if newParentId = category.parentId then w
        else w.send (.setParent categoryId newParentId)) db =
      .ok (db.withParent categoryId newParentId) := by
    intro w hw
    split
    · rename_i hsame
      have hfinds : ∀ x ∈ w.pending, x.finds db = true := by simp [hw.pending]
      rw [engine_commit_of_valid hfinds (by rwa [hw.view]), hw.view, hsame,
        Db.withParent_of_same hget]
    · have hpending : (w.send (.setParent categoryId newParentId)).pending =
          [.setParent categoryId newParentId] := by
        simp [Session.send, hw.pending]
      have hview : (w.send (.setParent categoryId newParentId)).view db =
          db.withParent categoryId newParentId := by
        unfold Session.view
        rw [hpending]
        rfl
      have hfinds : ∀ x ∈ (w.send (.setParent categoryId newParentId)).pending,
          x.finds db = true := by
        simp [hpending, Write.finds, hget]
      rw [engine_commit_of_valid hfinds, hview]
      rw [hview]
      exact Db.constraints_withParent hvalid haccepts
  unfold Session.moved
  cases newParentId with
  | none => exact hread w h
  | some p => exact hread _ (h.readTree p)

end Commit

/-! ## The operation -/

section Move

variable {store : Store} {categoryId : Uuid} {newParentId : Option Uuid}

/-- Alone, a move succeeds when the category exists and its new parent, if it has one,
    accepts it. -/
theorem alone_move {r : Option Category × Db} :
    engine.alone (CategoryOperation.move categoryId newParentId).program store.db = .ok r ↔
      ∃ category, store.db.categories.get categoryId = some category ∧
        (∀ p ∈ newParentId, store.db.Accepts categoryId p) ∧
        r = (some { category with parentId := newParentId },
          store.db.withParent categoryId newParentId) := by
  have hfresh := Session.Fresh.start store.db
  have hread := (hfresh.getCategory categoryId).2
  unfold Engine.alone CategoryOperation.program
  rw [Prog.run_bind]
  cases hrun : (CategoryService.move categoryId newParentId).run
      (fun s w => engine.exec s w store.db) engine.start with
  | error e =>
    simp only [reduceCtorEq, false_iff]
    rintro ⟨category, hget, haccepts, -⟩
    have hok := (run_move hfresh).mpr ⟨category, hget, haccepts, rfl⟩
    rw [hrun] at hok
    cases hok
  | ok answer =>
    obtain ⟨category, hget, haccepts, rfl⟩ := (run_move hfresh).mp hrun
    simp only [Prog.pure_eq, Prog.run_done, commit_moved hread store.valid hget haccepts,
      Except.map, Except.ok.injEq]
    constructor
    · rintro rfl
      exact ⟨category, hget, haccepts, rfl⟩
    · rintro ⟨category', hget', -, rfl⟩
      rw [hget] at hget'
      cases hget'
      rfl

theorem acyclic_withParent (hacyclic : store.db.Acyclic)
    (haccepts : ∀ p ∈ newParentId, store.db.Accepts categoryId p) :
    (store.db.withParent categoryId newParentId).Acyclic := by
  cases newParentId with
  | none =>
    have hquiet : ∀ x ∈ [Write.setParent categoryId none], x.GivesNoParent := by
      simp [Write.GivesNoParent]
    exact acyclic_of_quiet hquiet hacyclic
  | some p =>
    obtain ⟨-, hne, hbelow⟩ := haccepts p rfl
    refine acyclic_of_moved (fun hwalk => ?_) hacyclic
    rcases Relation.reflTransGen_iff_eq_or_transGen.mp hwalk with heq | hwalk
    · exact hne heq.symm
    · exact hbelow hwalk

/-- A move that no other operation overlaps is accepted exactly when the category exists and
    the new parent is none, or exists and is neither the category nor below it. Then the one
    parent has changed and the tree is a tree again. A move that does not commit changes
    nothing. -/
theorem move_accepts_safe_parents (hacyclic : store.db.Acyclic) (categoryId : Uuid)
    (newParentId : Option Uuid) :
    ((∃ answer db, engine.alone (CategoryOperation.move categoryId newParentId).program store.db =
        .ok (answer, db)) ↔
      (store.db.categories.get categoryId).isSome ∧
        ∀ p ∈ newParentId, (store.db.categories.get p).isSome ∧ p ≠ categoryId ∧
          ¬ Relation.TransGen (Forest.Up store.db.parentOf) p categoryId) ∧
    (∀ answer db, engine.alone (CategoryOperation.move categoryId newParentId).program store.db =
        .ok (answer, db) →
      db = { store.db with
        categories := store.db.categories.modify categoryId fun c =>
          { c with parentId := newParentId } } ∧ db.Acyclic) ∧
    ∀ c : CategoryOperations Unit,
      Reach engine anyEvent
        (CategoryOperations.start store.db fun _ => .move categoryId newParentId) c →
      c.results () = none → c.db = store.db := by
  refine ⟨?_, ?_, ?_⟩
  · simp only [alone_move, Prod.mk.injEq]
    constructor
    · rintro ⟨answer, db, category, hget, haccepts, -⟩
      exact ⟨Option.isSome_of_eq_some hget, haccepts⟩
    · rintro ⟨hsome, haccepts⟩
      obtain ⟨category, hget⟩ := Option.isSome_iff_exists.mp hsome
      exact ⟨_, _, category, hget, haccepts, rfl, rfl⟩
  · intro answer db h
    obtain ⟨category, -, haccepts, heq⟩ := alone_move.mp h
    cases heq
    exact ⟨rfl, acyclic_withParent hacyclic haccepts⟩
  · intro c hreach hnone
    exact hreach.db_of_no_results fun _ => hnone

theorem move_accepts_safe_parents_twoCategories : ∃ answer db,
    engine.alone (CategoryOperation.move 1 (some 2)).program twoCategories.db = .ok (answer, db) ∧
    db.Acyclic := by
  obtain ⟨hiff, hok, -⟩ := move_accepts_safe_parents twoCategories_acyclic 1 (some 2)
  have hroot : ¬ Relation.TransGen (Forest.Up twoCategories.db.parentOf) 2 1 := by
    intro hwalk
    obtain ⟨y, hstep, -⟩ := Relation.TransGen.head'_iff.mp hwalk
    cases hstep
  obtain ⟨answer, db, hmove⟩ := hiff.mpr ⟨by decide, fun p hp => by
    cases hp
    exact ⟨by decide, by decide, hroot⟩⟩
  exact ⟨answer, db, hmove, (hok answer db hmove).2⟩

end Move

end Categories

end ElectronicShop
