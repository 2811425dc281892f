/-!
# Programs over atomic commands

A program is a tree of atomic commands: it either returns, throws, or
issues one command and continues with the answer. The interface `Sig`
fixes the commands and the type of each one's answer; a `Machine` says
what a command does to the shared state. Everything a command may do
beyond its arguments and the state - fail, draw a random value, return
rows in some order - is decided by an *oracle* handed to it.

One program text then has two readings. `Prog.run` executes it without
interruption; `Conc.Pool` interleaves the commands of many programs.
`Prog.wlp` is the sequential logic: what holds after an uninterrupted
run, whatever the oracles.
-/

namespace Conc

/-- An interface: the atomic commands and the type of each one's answer. -/
structure Sig where
  Cmd : Type
  Resp : Cmd → Type

/-- Programs that issue the commands of `S`, throw `ε` and return `α`. -/
inductive Prog (S : Sig) (ε α : Type) : Type where
  | ret (a : α)
  | err (e : ε)
  | call (c : S.Cmd) (k : S.Resp c → Prog S ε α)

namespace Prog

variable {S : Sig} {ε α β : Type}

def bind : Prog S ε α → (α → Prog S ε β) → Prog S ε β
  | .ret a, f => f a
  | .err e, _ => .err e
  | .call c k, f => .call c fun r => (k r).bind f

instance : Monad (Prog S ε) where
  pure := .ret
  bind := bind

instance : MonadExcept ε (Prog S ε) where
  throw := .err
  tryCatch p h := go h p
where
  go {α : Type} (h : ε → Prog S ε α) : Prog S ε α → Prog S ε α
    | .ret a => .ret a
    | .err e => h e
    | .call c k => .call c fun r => go h (k r)

def throwIf (b : Bool) (e : ε) : Prog S ε Unit :=
  if b then .err e else .ret ()

/-- A program whose exception is looked at instead of thrown. -/
def attempt : Prog S ε α → Prog S ε (Except ε α)
  | .ret a => .ret (.ok a)
  | .err e => .ret (.error e)
  | .call c k => .call c fun r => (k r).attempt

@[simp] theorem pure_eq (a : α) : (pure a : Prog S ε α) = .ret a := rfl

@[simp] theorem throw_eq (e : ε) : (throw e : Prog S ε α) = .err e := rfl

@[simp] theorem ret_bind (a : α) (f : α → Prog S ε β) :
    (Prog.ret a : Prog S ε α) >>= f = f a := rfl

@[simp] theorem err_bind (e : ε) (f : α → Prog S ε β) :
    (Prog.err e : Prog S ε α) >>= f = .err e := rfl

@[simp] theorem call_bind (c : S.Cmd) (k : S.Resp c → Prog S ε α)
    (f : α → Prog S ε β) :
    Prog.call c k >>= f = .call c fun r => k r >>= f := rfl

@[simp] theorem map_eq (f : α → β) (p : Prog S ε α) :
    f <$> p = p >>= fun a => .ret (f a) := rfl

@[simp] theorem throwIf_true (e : ε) :
    (throwIf true e : Prog S ε Unit) = .err e := rfl

@[simp] theorem throwIf_false (e : ε) :
    (throwIf false e : Prog S ε Unit) = .ret () := rfl

theorem bind_ret (p : Prog S ε α) : p >>= Prog.ret = p := by
  induction p with
  | ret a => rfl
  | err e => rfl
  | call c k ih => exact congrArg (Prog.call c) (funext ih)

theorem bind_assoc {γ : Type} (p : Prog S ε α) (f : α → Prog S ε β)
    (g : β → Prog S ε γ) : p >>= f >>= g = p >>= fun a => f a >>= g := by
  induction p with
  | ret a => rfl
  | err e => rfl
  | call c k ih => exact congrArg (Prog.call c) (funext ih)

instance : LawfulMonad (Prog S ε) :=
  LawfulMonad.mk' _ (fun p => bind_ret p) (fun _ _ => rfl) bind_assoc

end Prog

/-! ## Machines and uninterrupted runs -/

/-- What the commands of `S` do to a shared state of type `σ`. The oracle
decides whatever the arguments and the state leave open. -/
structure Machine (S : Sig) (σ ω : Type) where
  exec : (c : S.Cmd) → ω → σ → S.Resp c × σ

namespace Prog

variable {S : Sig} {σ ω ε α β : Type}

/-- The outcome of an uninterrupted run: the result, the number of commands
executed so far, and the final state. -/
structure Outcome (σ ε α : Type) where
  result : Except ε α
  steps : Nat
  state : σ

/-- Execute without interruption; the `n`-th command is answered with the
oracle `os n`. -/
def run (M : Machine S σ ω) (os : Nat → ω) :
    Prog S ε α → Nat → σ → Outcome σ ε α
  | .ret a, n, s => ⟨.ok a, n, s⟩
  | .err e, n, s => ⟨.error e, n, s⟩
  | .call c k, n, s =>
      (k (M.exec c (os n) s).1).run M os (n + 1) (M.exec c (os n) s).2

variable (M : Machine S σ ω) (os : Nat → ω)

@[simp] theorem run_ret (a : α) (n : Nat) (s : σ) :
    (Prog.ret a : Prog S ε α).run M os n s = ⟨.ok a, n, s⟩ := rfl

@[simp] theorem run_err (e : ε) (n : Nat) (s : σ) :
    (Prog.err e : Prog S ε α).run M os n s = ⟨.error e, n, s⟩ := rfl

@[simp] theorem run_call (c : S.Cmd) (k : S.Resp c → Prog S ε α) (n : Nat) (s : σ) :
    (Prog.call c k).run M os n s
      = (k (M.exec c (os n) s).1).run M os (n + 1) (M.exec c (os n) s).2 := rfl

/-- A run of a sequence is a run of the first part and, when that returns,
a run of the second from where the first stopped. -/
theorem run_bind (p : Prog S ε α) (f : α → Prog S ε β) (n : Nat) (s : σ) :
    (p >>= f).run M os n s =
      match p.run M os n s with
      | ⟨.ok a, n', s'⟩ => (f a).run M os n' s'
      | ⟨.error e, n', s'⟩ => ⟨.error e, n', s'⟩ := by
  induction p generalizing n s with
  | ret a => rfl
  | err e => rfl
  | call c k ih =>
      rw [call_bind, run_call, run_call]
      exact ih _ _ _

/-- The two cases of `run_bind`, one equation each. -/
theorem run_bind_ok {p : Prog S ε α} {f : α → Prog S ε β} {n n' : Nat} {s s' : σ}
    {a : α} (h : p.run M os n s = ⟨.ok a, n', s'⟩) :
    (p >>= f).run M os n s = (f a).run M os n' s' := by
  rw [run_bind, h]

theorem run_attempt (p : Prog S ε α) (n : Nat) (s : σ) :
    p.attempt.run M os n s =
      ⟨.ok (p.run M os n s).result, (p.run M os n s).steps, (p.run M os n s).state⟩ := by
  induction p generalizing n s with
  | ret a => rfl
  | err e => rfl
  | call c k ih => exact ih _ _ _

theorem run_bind_error {p : Prog S ε α} {f : α → Prog S ε β} {n n' : Nat}
    {s s' : σ} {e : ε} (h : p.run M os n s = ⟨.error e, n', s'⟩) :
    (p >>= f).run M os n s = ⟨.error e, n', s'⟩ := by
  rw [run_bind, h]

end Prog

/-! ## The sequential logic -/

namespace Prog

variable {S : Sig} {σ ω ε α β : Type}

/-- The weakest liberal precondition of an uninterrupted run: whatever the
oracles, a returning run ends in `Q` and a throwing one in `E`. -/
def wlp (M : Machine S σ ω) :
    Prog S ε α → (α → σ → Prop) → (ε → σ → Prop) → σ → Prop
  | .ret a, Q, _, s => Q a s
  | .err e, _, E, s => E e s
  | .call c k, Q, E, s =>
      ∀ o, (k (M.exec c o s).1).wlp M Q E (M.exec c o s).2

variable {M : Machine S σ ω}

theorem wlp_bind (p : Prog S ε α) (f : α → Prog S ε β) (Q : β → σ → Prop)
    (E : ε → σ → Prop) (s : σ) :
    (p >>= f).wlp M Q E s ↔ p.wlp M (fun a => (f a).wlp M Q E) E s := by
  induction p generalizing s with
  | ret a => exact Iff.rfl
  | err e => exact Iff.rfl
  | call c k ih => exact forall_congr' fun o => ih _ _

theorem wlp_attempt (p : Prog S ε α) (Q : Except ε α → σ → Prop) (E : ε → σ → Prop) (s : σ) :
    p.attempt.wlp M Q E s ↔ p.wlp M (fun a => Q (.ok a)) (fun e => Q (.error e)) s := by
  induction p generalizing s with
  | ret a => exact Iff.rfl
  | err e => exact Iff.rfl
  | call c k ih => exact forall_congr' fun o => ih _ _

theorem wlp_mono {p : Prog S ε α} {Q Q' : α → σ → Prop} {E E' : ε → σ → Prop}
    {s : σ} (h : p.wlp M Q E s) (hQ : ∀ a s, Q a s → Q' a s)
    (hE : ∀ e s, E e s → E' e s) : p.wlp M Q' E' s := by
  induction p generalizing s with
  | ret a => exact hQ _ _ h
  | err e => exact hE _ _ h
  | call c k ih => exact fun o => ih _ (h o)

theorem wlp.and {p : Prog S ε α} {Q Q' : α → σ → Prop} {E E' : ε → σ → Prop} {s : σ}
    (h : p.wlp M Q E s) (h' : p.wlp M Q' E' s) :
    p.wlp M (fun a s => Q a s ∧ Q' a s) (fun e s => E e s ∧ E' e s) s := by
  induction p generalizing s with
  | ret a => exact ⟨h, h'⟩
  | err e => exact ⟨h, h'⟩
  | call c k ih => exact fun o => ih _ (h o) (h' o)

/-- The logic is sound for `run`. -/
theorem run_of_wlp {p : Prog S ε α} {Q : α → σ → Prop} {E : ε → σ → Prop} {s : σ}
    (h : p.wlp M Q E s) (os : Nat → ω) (n : Nat) :
    match p.run M os n s with
    | ⟨.ok a, _, s'⟩ => Q a s'
    | ⟨.error e, _, s'⟩ => E e s' := by
  induction p generalizing n s with
  | ret a => exact h
  | err e => exact h
  | call c k ih => exact ih _ (h (os n)) _

theorem wlp.outcome {p : Prog S ε α} {Q : α → σ → Prop} {E : ε → σ → Prop} {s : σ}
    (h : p.wlp M Q E s) (os : Nat → ω) (n : Nat) :
    (∃ a, (p.run M os n s).result = .ok a ∧ Q a (p.run M os n s).state) ∨
      ∃ e, (p.run M os n s).result = .error e ∧ E e (p.run M os n s).state := by
  have hmatch := run_of_wlp h os n
  generalize p.run M os n s = out at hmatch ⊢
  obtain ⟨a | a, steps, state⟩ := out
  · exact Or.inr ⟨a, rfl, hmatch⟩
  · exact Or.inl ⟨a, rfl, hmatch⟩

theorem wlp.result {p : Prog S ε α} {Q : α → σ → Prop} {E : ε → σ → Prop} {s : σ} {a : α}
    (h : p.wlp M Q E s) {os : Nat → ω} {n : Nat} (hrun : (p.run M os n s).result = .ok a) :
    Q a (p.run M os n s).state := by
  have hmatch := run_of_wlp h os n
  generalize p.run M os n s = out at hrun hmatch
  obtain ⟨result, steps, state⟩ := out
  obtain rfl : result = .ok a := hrun
  exact hmatch

end Prog

/-! ## Frames -/

namespace Prog

variable {S : Sig} {σ ω ε α β : Type}

/-- Every command that occurs in the program satisfies `P`. -/
def All (P : S.Cmd → Prop) : Prog S ε α → Prop
  | .ret _ => True
  | .err _ => True
  | .call c k => P c ∧ ∀ r, (k r).All P

@[simp] theorem all_ret (P : S.Cmd → Prop) (a : α) :
    (Prog.ret a : Prog S ε α).All P := trivial

@[simp] theorem all_err (P : S.Cmd → Prop) (e : ε) :
    (Prog.err e : Prog S ε α).All P := trivial

theorem All.bind {P : S.Cmd → Prop} {p : Prog S ε α} {f : α → Prog S ε β}
    (hp : p.All P) (hf : ∀ a, (f a).All P) : (p >>= f).All P := by
  induction p with
  | ret a => exact hf a
  | err e => trivial
  | call c k ih => exact ⟨hp.1, fun r => ih r (hp.2 r)⟩

theorem All.mono {P P' : S.Cmd → Prop} {p : Prog S ε α} (hp : p.All P)
    (h : ∀ c, P c → P' c) : p.All P' := by
  induction p with
  | ret a => trivial
  | err e => trivial
  | call c k ih => exact ⟨h c hp.1, fun r => ih r (hp.2 r)⟩

theorem All.and {P P' : S.Cmd → Prop} {p : Prog S ε α} (hp : p.All P) (hp' : p.All P') :
    p.All fun c => P c ∧ P' c := by
  induction p with
  | ret a => trivial
  | err e => trivial
  | call c k ih => exact ⟨⟨hp.1, hp'.1⟩, fun r => ih r (hp.2 r) (hp'.2 r)⟩

theorem All.attempt {P : S.Cmd → Prop} {p : Prog S ε α} (hp : p.All P) : p.attempt.All P := by
  induction p with
  | ret a => trivial
  | err e => trivial
  | call c k ih => exact ⟨hp.1, fun r => ih r (hp.2 r)⟩

theorem All.mapM {P : S.Cmd → Prop} {f : α → Prog S ε β} {l : List α}
    (h : ∀ a ∈ l, (f a).All P) : (l.mapM f).All P := by
  induction l with
  | nil => exact trivial
  | cons a l ih =>
      rw [List.mapM_cons]
      exact (h a (List.mem_cons_self ..)).bind fun _ =>
        (ih fun a' ha' => h a' (List.mem_cons_of_mem _ ha')).bind fun _ => trivial

theorem all_forall {γ : Type} {P : γ → S.Cmd → Prop} {l : List γ} {p : Prog S ε α}
    (h : ∀ g ∈ l, p.All (P g)) : p.All fun c => ∀ g ∈ l, P g c := by
  induction p with
  | ret a => trivial
  | err e => trivial
  | call c k ih => exact ⟨fun g hg => (h g hg).1, fun r => ih r fun g hg => (h g hg).2 r⟩

theorem all_true (p : Prog S ε α) : p.All fun _ => True := by
  induction p with
  | ret a => trivial
  | err e => trivial
  | call c k ih => exact ⟨trivial, ih⟩

theorem all_throwIf (P : S.Cmd → Prop) (b : Bool) (e : ε) :
    (throwIf b e : Prog S ε Unit).All P := by
  cases b <;> trivial

/-- The commands of an uninterrupted run, in their order, whether the program returns or
throws in the end. -/
def trace (M : Machine S σ ω) (os : Nat → ω) : Prog S ε α → Nat → σ → List S.Cmd
  | .ret _, _, _ => []
  | .err _, _, _ => []
  | .call c k, n, s => c :: (k (M.exec c (os n) s).1).trace M os (n + 1) (M.exec c (os n) s).2

theorem All.trace {P : S.Cmd → Prop} {M : Machine S σ ω} {p : Prog S ε α} (hp : p.All P)
    (os : Nat → ω) (n : Nat) (s : σ) : ∀ c ∈ p.trace M os n s, P c := by
  induction p generalizing n s with
  | ret a => exact fun c hc => by cases hc
  | err e => exact fun c hc => by cases hc
  | call c k ih =>
      intro c' hc'
      rcases List.mem_cons.mp hc' with rfl | hc'
      · exact hp.1
      · exact ih _ (hp.2 _) _ _ c' hc'

/-- What each command of a program leaves alone, an uninterrupted run
leaves alone: `obs` observes the part of the state in question. -/
theorem run_frame {M : Machine S σ ω} {γ : Type} (obs : σ → γ)
    {P : S.Cmd → Prop} (hP : ∀ c, P c → ∀ o s, obs (M.exec c o s).2 = obs s)
    {p : Prog S ε α} (hp : p.All P) (os : Nat → ω) (n : Nat) (s : σ) :
    obs (p.run M os n s).state = obs s := by
  induction p generalizing n s with
  | ret a => rfl
  | err e => rfl
  | call c k ih =>
      rw [run_call, ih _ (hp.2 _)]
      exact hP c hp.1 _ _

end Prog

end Conc
