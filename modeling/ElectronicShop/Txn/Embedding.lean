import ElectronicShop.Txn.Outcome

/-!
# Programs over part of a larger database

A transaction program that was written for one database is a program of a larger one,
when each of its statements is a statement there. Embedded, it does what it did to its
part of the state and leaves the rest alone.
-/

namespace Txn

/-- The statements of `I` as statements of `J`. -/
structure Embedding (I J : Interface) where
  stmt : I.Stmt → J.Stmt
  resp : ∀ s, J.Resp (stmt s) → I.Resp s

variable {I J : Interface} {ε ε' α β : Type}

/-- The same program in the larger database, with its errors renamed. -/
def Prog.embed (emb : Embedding I J) (err : ε → ε') : Prog I ε α → Prog J ε' α
  | .done a => .done a
  | .raise e => .raise (err e)
  | .step s next => .step (emb.stmt s) fun r => (next (emb.resp s r)).embed emb err

namespace Prog

variable {emb : Embedding I J} {err : ε → ε'}

@[simp] theorem embed_done (a : α) : (Prog.done a : Prog I ε α).embed emb err = .done a := rfl

@[simp] theorem embed_raise (e : ε) :
    (Prog.raise e : Prog I ε α).embed emb err = .raise (err e) := rfl

@[simp] theorem embed_step (s : I.Stmt) (next : I.Resp s → Prog I ε α) :
    (Prog.step s next).embed emb err =
      .step (emb.stmt s) fun r => (next (emb.resp s r)).embed emb err := rfl

/-- An embedded program sends no other statements. -/
theorem uses_embed (m : Prog I ε α) : (m.embed emb err).Uses fun t => ∃ s, t = emb.stmt s := by
  induction m with
  | done a => trivial
  | raise e => trivial
  | step s next ih => exact ⟨⟨s, rfl⟩, fun r => ih _⟩

end Prog

/-- How the embedded statements act: on a part of the state, which `get` reads and `put`
    replaces. -/
structure Embedding.Acts {σ τ : Type} (emb : Embedding I J)
    (execI : (s : I.Stmt) → σ → I.Resp s × σ) (execJ : (s : J.Stmt) → τ → J.Resp s × τ)
    (get : τ → σ) (put : τ → σ → τ) : Prop where
  resp : ∀ s t, emb.resp s (execJ (emb.stmt s) t).1 = (execI s (get t)).1
  state : ∀ s t, (execJ (emb.stmt s) t).2 = put t (execI s (get t)).2
  put_get : ∀ t, put t (get t) = t
  get_put : ∀ t s, get (put t s) = s
  put_put : ∀ t s s', put (put t s) s' = put t s'

/-- An embedded program runs as before, on its part of the state. -/
theorem Embedding.Acts.run_embed {σ τ : Type} {emb : Embedding I J}
    {execI : (s : I.Stmt) → σ → I.Resp s × σ} {execJ : (s : J.Stmt) → τ → J.Resp s × τ}
    {get : τ → σ} {put : τ → σ → τ} (h : emb.Acts execI execJ get put) (err : ε → ε')
    (m : Prog I ε α) (t : τ) : (m.embed emb err).run execJ t =
      match m.run execI (get t) with
      | .ok (a, s) => .ok (a, put t s)
      | .error e => .error (err e) := by
  induction m generalizing t with
  | done a => simp only [Prog.embed_done, Prog.run_done, h.put_get]
  | raise e => rfl
  | step s next ih =>
    simp only [Prog.embed_step, Prog.run_step, h.resp, h.state]
    rw [ih, h.get_put]
    cases (next (execI s (get t)).1).run execI (execI s (get t)).2 with
    | error e => rfl
    | ok r => simp only [h.put_put]

end Txn
