import Omnipax.Conc.Transaction

/-!
# A program of a smaller database

A program whose statements are among those of a larger database is a program of
the larger one.
-/

namespace Conc

namespace Database

variable {R R' D D' W W' K K' ω ω' E ε ε' α : Type} {db : Database R D W K ω E}
  {db' : Database R' D' W' K' ω' E}

/-- `f` is what a statement is in the larger database, `back` gives its answers,
and `err` is what an exception is there. -/
def embed (f : R → R') (back : ∀ q, db'.Ans (f q) → db.Ans q) (err : ε → ε') :
    Prog db.sig ε α → Prog db'.sig ε' α
  | .ret a => .ret a
  | .err e => .err (err e)
  | .call .begin k => .call .begin fun r => embed f back err (k r)
  | .call (.stmt tx q) k => .call (.stmt tx (f q)) fun r => embed f back err (k (r.map (back q)))
  | .call (.commit tx) k => .call (.commit tx) fun r => embed f back err (k r)
  | .call (.rollback tx) k => .call (.rollback tx) fun r => embed f back err (k r)

theorem all_embed {f : R → R'} {back : ∀ q, db'.Ans (f q) → db.Ans q} {err : ε → ε'}
    {P : R' → Prop} (h : ∀ q, P (f q)) (p : Prog db.sig ε α) :
    (embed f back err p).All (Stmts P) := by
  induction p with
  | ret a => exact trivial
  | err e => exact trivial
  | call c k ih =>
      cases c with
      | begin => exact ⟨trivial, fun r => ih r⟩
      | stmt tx q => exact ⟨h q, fun r => ih _⟩
      | commit tx => exact ⟨trivial, fun r => ih r⟩
      | rollback tx => exact ⟨trivial, fun r => ih r⟩

section Rules

variable {β : Type} {f : R → R'} {back : ∀ q, db'.Ans (f q) → db.Ans q} {err : ε → ε'}

end Rules

end Database

end Conc
