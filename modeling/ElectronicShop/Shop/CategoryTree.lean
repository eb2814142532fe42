import ElectronicShop.Forest.Parents
import ElectronicShop.Model.Categories
import ElectronicShop.Txn.Outcome

/-!
# The category tree stays a tree

A move looks for its new parent among the descendants of the category, as far as it can see
them, and then writes one parent pointer. That keeps the tree acyclic as long as the
categories above the new parent are still where the move has seen them, or the new parent is
not below the category anyway.
-/

namespace ElectronicShop

namespace Categories

open Txn

/-- The parent of a category, if it has one. -/
def Db.parentOf (db : Db) (id : Uuid) : Option Uuid :=
  (db.categories.get id).bind Category.parentId

/-- Nothing is below itself. -/
def Db.Acyclic (db : Db) : Prop := Forest.Acyclic db.parentOf

/-- The categories above a parent, and the parent itself, are where they have been seen. -/
def Db.SeenAbove (db : Db) (listed : List Category) (parentId : Uuid) : Prop :=
  ∀ row ∈ db.categories.rows,
    (row.id = parentId ∨ parentId ∈ descendantIds db.categories.rows row.id) →
      ∃ seen ∈ listed, seen.id = row.id ∧ seen.parentId = row.parentId

instance Db.decidableSeenAbove (db : Db) (listed : List Category) (parentId : Uuid) :
    Decidable (db.SeenAbove listed parentId) :=
  inferInstanceAs (Decidable (∀ _ ∈ _, _))

/-- A new parent has been seen where it is, or is not below the category. -/
def Write.StaysOutside (listed : List Category) (db : Db) : Write → Prop
  | .setParent id (some parentId) =>
    db.SeenAbove listed parentId ∨ parentId ∉ descendantIds db.categories.rows id
  | _ => True

instance Write.decidableStaysOutside (listed : List Category) (db : Db) (x : Write) :
    Decidable (x.StaysOutside listed db) := by
  unfold Write.StaysOutside
  split <;> infer_instance

/-- The condition on an interleaving. -/
def MovesOutside {ι : Type} (c : CategoryOperations ι) : Event ι → Prop
  | .kill _ => True
  | .turn i =>
    match c.clients i with
    | .running (.done _) w _ => ∀ x ∈ w.pending, x.StaysOutside w.listed c.db
    | _ => True

instance decidableMovesOutside {ι : Type} (c : CategoryOperations ι) :
    (ev : Event ι) → Decidable (MovesOutside c ev)
  | .kill _ => isTrue trivial
  | .turn i => by
    simp only [MovesOutside]
    rcases c.clients i with ⟨_ | _ | _, _, _⟩ | _ | _ <;> infer_instance

/-! ## Descendants -/

theorem mem_childIds {rows : List Category} {x y : Uuid} :
    y ∈ childIds rows x ↔ ∃ c ∈ rows, c.id = y ∧ c.parentId = some x := by
  simp only [childIds, List.mem_map, List.mem_filter, decide_eq_true_eq]
  constructor
  · rintro ⟨c, ⟨hc, hparent⟩, rfl⟩
    exact ⟨c, hc, rfl, hparent⟩
  · rintro ⟨c, hc, rfl, hparent⟩
    exact ⟨c, ⟨hc, hparent⟩, rfl⟩

/-- `get_descendant_ids` finds the descendants. -/
theorem mem_descendantIds {rows : List Category} {id y : Uuid} :
    y ∈ descendantIds rows id ↔ Relation.TransGen (fun a b => b ∈ childIds rows a) id y := by
  refine Forest.mem_search_iff fun x y hy => ?_
  obtain ⟨c, hc, rfl, -⟩ := mem_childIds.mp hy
  exact List.mem_map_of_mem hc

section Tree

variable {db : Db} {id parentId : Uuid}

theorem mem_childIds_rows {x y : Uuid} :
    y ∈ childIds db.categories.rows x ↔ Forest.Up db.parentOf y x := by
  rw [mem_childIds]
  unfold Forest.Up Db.parentOf
  constructor
  · rintro ⟨c, hc, rfl, hparent⟩
    rw [Table.get_of_mem hc]
    exact hparent
  · intro h
    obtain ⟨c, hget, hparent⟩ := Option.bind_eq_some_iff.mp h
    exact ⟨c, Table.mem_of_get hget, Table.key_of_get hget, hparent⟩

/-- In a table: those from which a walk leads up to the category. -/
theorem mem_descendantIds_rows {y : Uuid} :
    y ∈ descendantIds db.categories.rows id ↔
      Relation.TransGen (Forest.Up db.parentOf) y id := by
  rw [mem_descendantIds, ← Relation.transGen_swap]
  have hsame : (fun a b => b ∈ childIds db.categories.rows a) =
      Function.swap (Forest.Up db.parentOf) := by
    funext a b
    exact propext mem_childIds_rows
  rw [hsame]

/-- A category that has been seen below another where it is would have been found there. -/
theorem Db.SeenAbove.mem_descendantIds {listed : List Category} (h : db.SeenAbove listed parentId)
    (hwalk : Relation.TransGen (Forest.Up db.parentOf) parentId id) :
    parentId ∈ descendantIds listed id := by
  -- each step of the walk has been seen
  have hseen : ∀ x y, Relation.ReflTransGen (Forest.Up db.parentOf) parentId x →
      Forest.Up db.parentOf x y → x ∈ childIds listed y := by
    intro x y habove hstep
    obtain ⟨row, hget, hparent⟩ := Option.bind_eq_some_iff.mp hstep
    have hid : row.id = x := Table.key_of_get hget
    have hrow : row.id = parentId ∨ parentId ∈ descendantIds db.categories.rows row.id := by
      rw [hid, mem_descendantIds_rows]
      rcases Relation.reflTransGen_iff_eq_or_transGen.mp habove with heq | hwalk
      · exact Or.inl heq
      · exact Or.inr hwalk
    obtain ⟨seen, hmem, hseenId, hseenParent⟩ := h row (Table.mem_of_get hget) hrow
    exact mem_childIds.mpr ⟨seen, hmem, hseenId.trans hid, hseenParent.trans hparent⟩
  have hfound : ∀ x, Relation.ReflTransGen (Forest.Up db.parentOf) parentId x →
      Relation.TransGen (Forest.Up db.parentOf) x id →
        Relation.TransGen (fun a b => b ∈ childIds listed a) id x := by
    intro x habove hup
    induction hup using Relation.TransGen.head_induction_on with
    | single hstep => exact .single (hseen _ _ habove hstep)
    | head hstep _ ih => exact (ih (habove.tail hstep)).tail (hseen _ _ habove hstep)
  exact Categories.mem_descendantIds.mpr (hfound parentId .refl hwalk)

end Tree

/-! ## What is known at a commit -/

/-- The rows that are locked stay as they are. -/
def CategoryRely (locks : List Uuid) (db db' : Db) : Prop :=
  ∀ id ∈ locks, db'.categories.get id = db.categories.get id

/-- The writes that give no category a parent. -/
def Write.GivesNoParent : Write → Prop
  | .add _ => False
  | .setParent _ (some _) => False
  | _ => True

/-- What an operation is about to commit. -/
inductive Pending (w : Session) (held : List Uuid) (db : Db) : Prop where
  | quiet (writes : ∀ x ∈ w.pending, x.GivesNoParent)
  | added (row : Category) (writes : w.pending = [.add row]) (locked : row.id ∈ held)
      (free : db.categories.get row.id = none)
  | moved (id parentId : Uuid) (writes : w.pending = [.setParent id (some parentId)])
      (other : parentId ≠ id) (outside : parentId ∉ descendantIds w.listed id)

section Wp

variable {w : Session} {held : List Uuid} {db db' : Db}

/-- What is known stays true. -/
theorem Pending.stable (h : Pending w held db) (hdb : CategoryRely held db db') :
    Pending w held db' := by
  cases h with
  | quiet writes => exact .quiet writes
  | added row writes locked free => exact .added row writes locked ((hdb _ locked).trans free)
  | moved id parentId writes other outside => exact .moved id parentId writes other outside

/-- The statements that only read. -/
def Stmt.Reads : Stmt → Prop
  | .insert _ => False
  | .write _ => False
  | _ => True

theorem Session.pending_loadAll (rows : List Category) (w : Session) (db : Db) :
    (rows.foldl (fun w row => w.load db row.id) w).pending = w.pending := by
  induction rows generalizing w with
  | nil => rfl
  | cons row rest ih => exact ih _

theorem Stmt.pending_execIn {s : Stmt} (hs : s.Reads) (w : Session) (db : Db) :
    (s.execIn w db).2.pending = w.pending := by
  cases s with
  | getCategory id => rfl
  | getCategoryBySlug slug =>
    simp only [Stmt.execIn]
    split <;> rfl
  | listAll => exact Session.pending_loadAll _ w db
  | countProducts categoryId => rfl
  | countChildren categoryId => rfl
  | insert row => exact hs.elim
  | write x => exact hs.elim

/-- A statement, and what follows it. -/
theorem wpe_send_bind {α : Type} {s : Stmt} {f : s.Resp → Tx α}
    {post : α → Session → List Uuid → Db → Prop}
    {failed : ShopError → Session → List Uuid → Db → Prop} :
    wpe engine CategoryRely (send s >>= f) w held db post failed ↔
      ∀ db', CategoryRely (s.needs w ++ held) db db' →
        wpe engine CategoryRely (f (s.execIn w db).1) (s.execIn w db).2 (s.needs w ++ held) db' post
          failed := Iff.rfl

/-- Nothing has been written. -/
abbrev Untouched {α : Type} : α → Session → List Uuid → Db → Prop := fun _ w _ _ => w.pending = []

theorem wpe_checkParent (parentId : Option Uuid) (hpending : w.pending = []) :
    wpe engine CategoryRely (CategoryService.checkParent parentId) w held db Untouched
      fun _ _ _ _ => True := by
  cases parentId with
  | none => exact hpending
  | some parentId =>
    refine wpe_send_bind.mpr fun db₁ _ => ?_
    refine wpe_orRaise_bind.mpr ⟨fun _ => trivial, fun parent _ => ?_⟩
    exact (Stmt.pending_execIn (s := .getCategory parentId) trivial w db).trans hpending

theorem wpe_create (data : CategoryCreate) (id : Uuid) (db : Db) :
    wpe engine CategoryRely (CategoryService.create data id) engine.start [] db (fun _ => Pending)
      fun _ _ _ _ => True := by
  refine wpe_send_bind.mpr fun db₁ _ => ?_
  have hslug := Stmt.pending_execIn (s := .getCategoryBySlug data.slug) trivial engine.start db
  refine wpe_raiseIfSome_bind.mpr ⟨fun _ => trivial, fun _ => ?_⟩
  refine (wpe_bind ..).mpr (wpe_mono (wpe_checkParent data.parentId hslug) ?_ fun _ _ _ _ h => h)
  intro _ w held db₂ hpending
  unfold insert
  rw [Prog.bind_assoc]
  refine wpe_send_bind.mpr fun db₃ h₃ => ?_
  have hview : w.view db₂ = db₂ := by
    unfold Session.view
    rw [hpending]
    rfl
  cases hfree : ((w.view db₂).categories.get (CategoryService.newCategory data id).id).isSome with
  | true =>
    simp only [Stmt.execIn, hfree]
    trivial
  | false =>
    simp only [Stmt.execIn, hfree]
    rw [hview] at hfree
    refine .added (CategoryService.newCategory data id) ?_ (List.mem_append_left _ ?_) ?_
    · change w.pending ++ [_] = _
      rw [hpending]
      rfl
    · exact List.mem_cons_self ..
    · rw [h₃ _ (List.mem_append_left _ (List.mem_cons_self ..))]
      exact Option.isNone_iff_eq_none.mp (Option.isSome_eq_false_iff.mp hfree)

/-- Changes that give no parent. -/
abbrev Quiet {α : Type} : α → Session → List Uuid → Db → Prop :=
  fun _ w _ _ => ∀ x ∈ w.pending, x.GivesNoParent

theorem wpe_assign {α : Type} [DecidableEq α] {old new : α} {x : Write} (hx : x.GivesNoParent)
    (hquiet : ∀ x ∈ w.pending, x.GivesNoParent) :
    wpe engine CategoryRely (CategoryService.assign old new x) w held db Quiet
      fun _ _ _ _ => True := by
  unfold CategoryService.assign
  split
  · exact hquiet
  · intro db₁ _ y hy
    rcases List.mem_append.mp hy with hold | hnew
    · exact hquiet y hold
    · rw [List.mem_singleton.mp hnew]
      exact hx

theorem wpe_assignIfGiven {α : Type} [DecidableEq α] {old : α} {new : Option α} {x : α → Write}
    (hx : ∀ value, (x value).GivesNoParent) (hquiet : ∀ x ∈ w.pending, x.GivesNoParent) :
    wpe engine CategoryRely (CategoryService.assignIfGiven old new x) w held db Quiet
      fun _ _ _ _ => True := by
  cases new with
  | none => exact hquiet
  | some value =>
    exact (wpe_bind ..).mpr (wpe_mono (wpe_assign (hx value) hquiet) (fun _ _ _ _ h => h)
      fun _ _ _ _ h => h)

theorem wpe_update (categoryId : Uuid) (data : CategoryUpdate) (db : Db) :
    wpe engine CategoryRely (CategoryService.update categoryId data) engine.start [] db
      (fun _ => Pending) fun _ _ _ _ => True := by
  refine wpe_send_bind.mpr fun db₁ _ => ?_
  refine wpe_orRaise_bind.mpr ⟨fun _ => trivial, fun category _ => ?_⟩
  have hstart : ∀ x ∈ ((Stmt.getCategory categoryId).execIn engine.start db).2.pending,
      x.GivesNoParent := fun _ hx => nomatch hx
  refine (wpe_bind ..).mpr (wpe_mono (wpe_assignIfGiven (fun _ => trivial) hstart) ?_
    fun _ _ _ _ h => h)
  intro name w held db₂ hname
  refine (wpe_bind ..).mpr (wpe_mono (wpe_assignIfGiven (fun _ => trivial) hname) ?_
    fun _ _ _ _ h => h)
  intro isActive w held db₃ hactive
  refine (wpe_bind ..).mpr (wpe_mono (wpe_assignIfGiven (fun _ => trivial) hactive) ?_
    fun _ _ _ _ h => h)
  intro sortOrder w held db₄ hsortOrder
  exact .quiet hsortOrder

theorem wpe_delete (categoryId : Uuid) (db : Db) :
    wpe engine CategoryRely (CategoryService.delete categoryId) engine.start [] db
      (fun _ => Pending) fun _ _ _ _ => True := by
  refine wpe_send_bind.mpr fun db₁ _ => ?_
  refine wpe_orRaise_bind.mpr ⟨fun _ => trivial, fun category _ => ?_⟩
  refine wpe_send_bind.mpr fun db₂ _ => ?_
  refine wpe_if_raise.mpr ⟨fun _ => trivial, fun _ => ?_⟩
  refine wpe_send_bind.mpr fun db₃ _ => ?_
  refine wpe_if_raise.mpr ⟨fun _ => trivial, fun _ => ?_⟩
  refine fun db₄ _ => .quiet fun x hx => ?_
  cases List.mem_singleton.mp hx
  trivial

/-- A new parent has passed the check against what `list_all` was answered with. -/
theorem wpe_checkNewParent (categoryId newParentId : Uuid) (hpending : w.pending = []) :
    wpe engine CategoryRely (CategoryService.checkNewParent categoryId newParentId) w held db
      (fun _ w _ _ => w.pending = [] ∧ newParentId ≠ categoryId ∧
        newParentId ∉ descendantIds w.listed categoryId) fun _ _ _ _ => True := by
  unfold CategoryService.checkNewParent
  refine wpe_if_raise.mpr ⟨fun _ => trivial, fun hne => ?_⟩
  refine wpe_send_bind.mpr fun db₁ _ => ?_
  refine wpe_orRaise_bind.mpr ⟨fun _ => trivial, fun parent _ => ?_⟩
  refine wpe_send_bind.mpr fun db₂ _ => ?_
  refine wpe_if_raise.mpr ⟨fun _ => trivial, fun hnot => ⟨?_, hne, hnot⟩⟩
  exact (Stmt.pending_execIn (s := .listAll) trivial _ db₁).trans hpending

theorem wpe_move (categoryId : Uuid) (newParentId : Option Uuid) (db : Db) :
    wpe engine CategoryRely (CategoryService.move categoryId newParentId) engine.start [] db
      (fun _ => Pending) fun _ _ _ _ => True := by
  refine wpe_send_bind.mpr fun db₁ _ => ?_
  refine wpe_orRaise_bind.mpr ⟨fun _ => trivial, fun category _ => ?_⟩
  cases newParentId with
  | none =>
    refine (wpe_bind ..).mpr (wpe_mono (wpe_assign trivial ?_) ?_ fun _ _ _ _ h => h)
    · exact fun _ hx => nomatch hx
    · exact fun _ _ _ _ h => .quiet h
  | some newParentId =>
    refine (wpe_bind ..).mpr (wpe_mono (wpe_checkNewParent categoryId newParentId rfl) ?_
      fun _ _ _ _ h => h)
    rintro _ w held db₂ ⟨hpending, hne, hnot⟩
    refine (wpe_bind ..).mpr ?_
    unfold CategoryService.assign
    split
    · refine .quiet fun x hx => ?_
      rw [hpending] at hx
      cases hx
    · intro db₃ _
      refine .moved categoryId newParentId ?_ hne hnot
      change w.pending ++ [_] = _
      rw [hpending]
      rfl

theorem wpe_operation (op : CategoryOperation) (db : Db) :
    wpe engine CategoryRely op.program engine.start [] db (fun _ => Pending)
      fun _ _ _ _ => True := by
  cases op with
  | create data id =>
    exact (wpe_bind ..).mpr (wpe_mono (wpe_create data id db) (fun _ _ _ _ h => h)
      fun _ _ _ _ h => h)
  | update categoryId data =>
    exact (wpe_bind ..).mpr (wpe_mono (wpe_update categoryId data db) (fun _ _ _ _ h => h)
      fun _ _ _ _ h => h)
  | move categoryId newParentId =>
    exact (wpe_bind ..).mpr (wpe_mono (wpe_move categoryId newParentId db) (fun _ _ _ _ h => h)
      fun _ _ _ _ h => h)
  | delete categoryId =>
    exact (wpe_bind ..).mpr (wpe_mono (wpe_delete categoryId db) (fun _ _ _ _ h => h)
      fun _ _ _ _ h => h)

end Wp

/-! ## What is committed -/

section Commit

variable {w : Session} {held : List Uuid} {db : Db}

/-- An update of one category, as far as the tree is concerned. -/
theorem Db.parentOf_modify (db : Db) (id : Uuid) (f : Category → Category)
    (hf : ∀ c, (f c).id = c.id) (y : Uuid) :
    Db.parentOf { db with categories := db.categories.modify id f } y =
      if y = id then (db.categories.get id).bind fun c => (f c).parentId else db.parentOf y := by
  unfold Db.parentOf
  rw [Table.get_modify _ _ _ hf]
  split
  · rw [Option.bind_map]
    rfl
  · rfl

/-- An update that is not about the parent leaves it as it is. -/
theorem Db.parentOf_modify_of_same (db : Db) (id : Uuid) (f : Category → Category)
    (hf : ∀ c, (f c).id = c.id) (hparent : ∀ c, (f c).parentId = c.parentId) (y : Uuid) :
    Db.parentOf { db with categories := db.categories.modify id f } y = db.parentOf y := by
  rw [Db.parentOf_modify _ _ _ hf]
  split
  · rename_i heq
    rw [heq]
    exact congrArg _ (funext hparent)
  · rfl

theorem Write.GivesNoParent.parentOf {x : Write} (hx : x.GivesNoParent) {y z : Uuid}
    (h : (x.apply db).parentOf y = some z) : db.parentOf y = some z := by
  have hsame := Db.parentOf_modify_of_same db
  cases x with
  | add row => exact hx.elim
  | setName id name =>
    exact (hsame id (fun c => { c with name }) (fun _ => rfl) (fun _ => rfl) y).symm.trans h
  | setActive id isActive =>
    exact (hsame id (fun c => { c with isActive }) (fun _ => rfl) (fun _ => rfl) y).symm.trans h
  | setSortOrder id sortOrder =>
    exact (hsame id (fun c => { c with sortOrder }) (fun _ => rfl) (fun _ => rfl) y).symm.trans h
  | setParent id parentId =>
    cases parentId with
    | some parentId => exact hx.elim
    | none =>
      have hparent := (Db.parentOf_modify db id (fun c => { c with parentId := none })
        (fun _ => rfl) y).symm.trans h
      split at hparent
      · cases hrow : db.categories.get id <;> simp [hrow] at hparent
      · exact hparent
  | delete id =>
    obtain ⟨row, hget, hparent⟩ := Option.bind_eq_some_iff.mp h
    have hrow : row ∈ db.categories.rows := (Table.mem_eraseIf.mp (Table.mem_of_get hget)).1
    have hkey : row.id = y := Table.key_of_get hget
    unfold Db.parentOf
    rw [← hkey, Table.get_of_mem hrow]
    exact hparent

/-- Writes that give no parent. -/
theorem acyclic_of_quiet {writes : List Write} (hquiet : ∀ x ∈ writes, x.GivesNoParent)
    (h : db.Acyclic) : (writes.foldl Write.apply db).Acyclic := by
  induction writes generalizing db with
  | nil => exact h
  | cons x rest ih =>
    rw [List.forall_mem_cons] at hquiet
    exact ih hquiet.2 (h.mono fun _ _ => hquiet.1.parentOf)

/-- A new category: nothing is below it. -/
theorem acyclic_of_added {row : Category} (hfree : db.categories.get row.id = none)
    (hparents : ∀ c ∈ db.categories.rows, ∀ p ∈ c.parentId, (db.categories.get p).isSome)
    (hself : row.parentId ≠ some row.id) (h : db.Acyclic) :
    ((Write.add row).apply db).Acyclic := by
  have hparentOf : ∀ y, ((Write.add row).apply db).parentOf y =
      if y = row.id then row.parentId else db.parentOf y := by
    intro y
    change ((db.categories.put row).get y).bind Category.parentId = _
    rw [Table.get_put]
    split <;> rfl
  refine Forest.Acyclic.update h (k := row.id) (fun x hx y hy => ?_) fun p hp hwalk => ?_
  · rwa [hparentOf, if_neg hx] at hy
  · rw [hparentOf, if_pos rfl] at hp
    rcases Relation.reflTransGen_iff_eq_or_transGen.mp hwalk with heq | hwalk
    · exact hself (heq ▸ hp)
    · -- the last category of the walk has the new one for its parent
      obtain ⟨x, -, hlast⟩ := Relation.TransGen.tail'_iff.mp hwalk
      obtain ⟨c, hget, hparent⟩ := Option.bind_eq_some_iff.mp hlast
      have hsome := hparents c (Table.mem_of_get hget) row.id hparent
      rw [hfree] at hsome
      cases hsome

/-- A move to a parent that is not below the category. -/
theorem acyclic_of_moved {id parentId : Uuid}
    (houtside : ¬ Relation.ReflTransGen (Forest.Up db.parentOf) parentId id) (h : db.Acyclic) :
    ((Write.setParent id (some parentId)).apply db).Acyclic := by
  have hparentOf := Db.parentOf_modify db id (fun c => { c with parentId := some parentId })
    fun _ => rfl
  refine Forest.Acyclic.update h (k := id) (fun x hx y hy => ?_) fun p hp => ?_
  · exact (if_neg hx).symm.trans ((hparentOf x).symm.trans hy)
  · have hbind := (if_pos rfl).symm.trans ((hparentOf id).symm.trans hp)
    obtain ⟨c, -, hc⟩ := Option.bind_eq_some_iff.mp hbind
    rw [← Option.some.inj hc]
    exact houtside

/-- What is committed is acyclic. -/
theorem Pending.acyclic (h : Pending w held db)
    (hcond : ∀ x ∈ w.pending, x.StaysOutside w.listed db)
    (hvalid : (w.view db).Constraints) (hdb : db.Constraints) (hacyclic : db.Acyclic) :
    (w.view db).Acyclic := by
  cases h with
  | quiet writes => exact acyclic_of_quiet writes hacyclic
  | added row writes locked free =>
    have hview : w.view db = (Write.add row).apply db := by
      unfold Session.view
      rw [writes]
      rfl
    rw [hview] at hvalid ⊢
    refine acyclic_of_added free hdb.parents (hvalid.notSelfParent row ?_) hacyclic
    exact Table.mem_of_get (Table.get_put_self db.categories row)
  | moved id parentId writes other outside =>
    have hview : w.view db = (Write.setParent id (some parentId)).apply db := by
      unfold Session.view
      rw [writes]
      rfl
    rw [hview]
    refine acyclic_of_moved (fun hwalk => ?_) hacyclic
    rcases Relation.reflTransGen_iff_eq_or_transGen.mp hwalk with heq | hwalk
    · exact other heq.symm
    · have hmove := hcond (.setParent id (some parentId)) (by rw [writes]; exact List.mem_singleton_self _)
      rcases hmove with hseen | hbelow
      · exact outside (hseen.mem_descendantIds hwalk)
      · exact hbelow (mem_descendantIds_rows.mpr hwalk)

/-- A write changes the row that it locks. -/
theorem Write.get_apply {x : Write} {id : Uuid} (hid : id ≠ x.row) :
    (x.apply db).categories.get id = db.categories.get id := by
  have hmodify : ∀ (row : Uuid) (f : Category → Category), (∀ c, (f c).id = c.id) → id ≠ row →
      (db.categories.modify row f).get id = db.categories.get id := by
    intro row f hf hrow
    rw [Table.get_modify _ _ _ hf, if_neg hrow]
  cases x with
  | add row => exact Table.get_put_of_ne _ hid
  | setName row name => exact hmodify row _ (fun _ => rfl) hid
  | setActive row isActive => exact hmodify row _ (fun _ => rfl) hid
  | setSortOrder row sortOrder => exact hmodify row _ (fun _ => rfl) hid
  | setParent row parentId => exact hmodify row _ (fun _ => rfl) hid
  | delete row => exact (Table.get_eraseIf ..).trans (if_neg hid)

/-- So a commit changes the rows that it locks. -/
theorem categoryRely_foldl {locks : List Uuid} (writes : List Write)
    (hlocks : ∀ id ∈ locks, id ∉ writes.map Write.row) (db : Db) :
    CategoryRely locks db (writes.foldl Write.apply db) := by
  induction writes generalizing db with
  | nil => exact fun _ _ => rfl
  | cons x rest ih =>
    intro id hid
    have hnot := hlocks id hid
    rw [List.map_cons, List.mem_cons, not_or] at hnot
    have hrest := ih (fun id' hid' h => hlocks id' hid' (List.mem_cons_of_mem _ h)) (x.apply db) id hid
    exact hrest.trans (Write.get_apply hnot.1)

end Commit

/-! ## Every interleaving -/

section Runs

variable {ι : Type} {ops : ι → CategoryOperation} {c : CategoryOperations ι}

theorem MovesOutside.done {i : ι} {answer : Option Category} {w : Session} {held : List Uuid}
    (h : MovesOutside c (.turn i)) (hi : c.clients i = .running (.done answer) w held) :
    ∀ x ∈ w.pending, x.StaysOutside w.listed c.db := by
  simpa only [MovesOutside, hi] using h

variable [DecidableEq ι]

/-- The proof outline. -/
def categoryOutline (ι : Type) [DecidableEq ι] :
    Outline engine (MovesOutside (ι := ι)) where
  rely _ := CategoryRely
  post _ _ := Pending
  inv db _ := db.Constraints ∧ db.Acyclic
  rely_refl _ _ _ _ _ := rfl
  rely_trans _ _ _ _ _ h₁ h₂ id hid := (h₂ id hid).trans (h₁ id hid)
  post_stable _ _ _ _ _ _ h hdb := h.stable hdb
  commit_ok := by
    rintro c i answer w held db' hi hcond ⟨hdb, hacyclic⟩ hpost hcommit
    obtain ⟨-, hvalid, rfl⟩ := engine_commit_ok hcommit
    exact ⟨⟨hvalid, hpost.acyclic (hcond.done hi) hvalid hdb hacyclic⟩, fun _ _ locks hlocks =>
      categoryRely_foldl w.pending (fun id hid => (hlocks id hid).2) c.db⟩

variable [Fintype ι]

/-- In every interleaving in which a category is moved below another only as far as the
    categories above that are where the move has seen them, or it is not below the category. -/
theorem category_tree_acyclic {store : Store} (hacyclic : store.db.Acyclic)
    (h : Reach engine MovesOutside (CategoryOperations.start store.db ops) c) : c.db.Acyclic := by
  have hgood : (categoryOutline ι).Good (CategoryOperations.start store.db ops) :=
    Outline.good_start _ store.db _ ⟨store.valid, hacyclic⟩ fun i db _ => (wpe_operation (ops i) db).wp
  exact ((categoryOutline ι).sound hgood h).inv.2

end Runs

/-- A shop without subcategories. -/
theorem acyclic_of_roots {db : Db} (h : ∀ c ∈ db.categories.rows, c.parentId = none) :
    db.Acyclic := by
  intro x hcycle
  obtain ⟨y, hstep, -⟩ := Relation.TransGen.head'_iff.mp hcycle
  obtain ⟨c, hget, hparent⟩ := Option.bind_eq_some_iff.mp hstep
  rw [h c (Table.mem_of_get hget)] at hparent
  cases hparent

def twoCategories : Store where
  db := { categories := ((∅ : Table Category.id).put ⟨1, none, "Phones", "phones", true, 0⟩).put
            ⟨2, none, "Laptops", "laptops", true, 1⟩
          products := ∅ }
  valid := by decide

theorem twoCategories_acyclic : twoCategories.db.Acyclic := acyclic_of_roots (by decide)

/-- Two managers move each of them below the other. -/
def moveBelowEachOther : Fin 2 → CategoryOperation
  | 0 => .move 1 (some 2)
  | 1 => .move 2 (some 1)

/-- One after the other: the second move is refused. -/
theorem category_tree_acyclic_refused : ∃ c : CategoryOperations (Fin 2),
    Reach engine MovesOutside (CategoryOperations.start twoCategories.db moveBelowEachOther) c ∧
    ((c.results 0).isSome ∧ c.results 1 = none) ∧ c.db.Acyclic := by
  let schedule : List (Event (Fin 2)) := List.replicate 5 (.turn 0) ++ List.replicate 4 (.turn 1)
  have hrun : ((CategoryOperations.start twoCategories.db moveBelowEachOther).execAll engine
      MovesOutside schedule).any (fun c => (c.results 0).isSome ∧ c.results 1 = none) = true := by
    decide +kernel
  obtain ⟨c, hreach, hresults⟩ := Reach.exists_of_execAll schedule hrun
  exact ⟨c, hreach, hresults, category_tree_acyclic twoCategories_acyclic hreach⟩

/-- At the same time: each is below the other then. -/
theorem category_tree_acyclic_fails : ∃ c : CategoryOperations (Fin 2),
    Reach engine anyEvent (CategoryOperations.start twoCategories.db moveBelowEachOther) c ∧
    twoCategories.db.Acyclic ∧ ¬ c.db.Acyclic := by
  let schedule : List (Event (Fin 2)) := List.replicate 4 (.turn 0) ++ List.replicate 5 (.turn 1) ++
    [.turn 0]
  have hrun : ((CategoryOperations.start twoCategories.db moveBelowEachOther).execAll engine
      anyEvent schedule).any (fun c =>
        c.db.parentOf 1 = some 2 ∧ c.db.parentOf 2 = some 1) = true := by
    decide +kernel
  obtain ⟨c, hreach, hfirst, hsecond⟩ := Reach.exists_of_execAll schedule hrun
  have hup : Forest.Up c.db.parentOf 1 2 := hfirst
  exact ⟨c, hreach, twoCategories_acyclic, fun hacyclic =>
    hacyclic 1 ((Relation.TransGen.single hup).tail hsecond)⟩

end Categories

end ElectronicShop
