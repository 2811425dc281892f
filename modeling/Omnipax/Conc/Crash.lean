import Omnipax.Conc.Rely

/-!
# Processes that may stop

`Prog.crash` is a program in a process that may stop after any of its
commands: such a command has had its effect, but nothing follows it. The
program ends in an `Ending`: it has returned, thrown, or been stopped. Since
it never throws, a pool of such programs promises something about every
ending, not about the returning calls only.

`Sig.sum` puts two interfaces side by side, and `Prog.left` reads a program
of the first one as a program of both.
-/

namespace Conc

abbrev Sig.sum (S T : Sig) : Sig where
  Cmd := S.Cmd ⊕ T.Cmd
  Resp := Sum.elim S.Resp T.Resp

/-- No answer: the process has stopped after the command. -/
abbrev Sig.crash (S : Sig) : Sig where
  Cmd := S.Cmd
  Resp c := Option (S.Resp c)

inductive Ending (ε α : Type) where
  | returned (a : α)
  | threw (e : ε)
  | stopped
deriving Repr, DecidableEq

def Ending.attempted {ε α : Type} : Ending ε α → Ending ε (Except ε α)
  | .returned a => .returned (.ok a)
  | .threw e => .returned (.error e)
  | .stopped => .stopped

namespace Prog

variable {S T : Sig} {ε ε' α β : Type}

/-- A program of the first interface. -/
def left (T : Sig) : Prog S ε α → Prog (S.sum T) ε α
  | .ret a => .ret a
  | .err e => .err e
  | .call c k => .call (.inl c) fun r => (k r).left T

/-- A program in a process that may stop. -/
def crash (ε' : Type) : Prog S ε α → Prog S.crash ε' (Ending ε α)
  | .ret a => .ret (.returned a)
  | .err e => .ret (.threw e)
  | .call c k => .call c fun r => r.elim (.ret .stopped) fun r => (k r).crash ε'

/-- What follows a part that has ended: the rest, if the part has returned. -/
def next (f : α → Prog S ε β) : Ending ε α → Prog S.crash ε' (Ending ε β)
  | .returned a => (f a).crash ε'
  | .threw e => .ret (.threw e)
  | .stopped => .ret .stopped

/-! ## Sequences -/

theorem crash_call (c : S.Cmd) (k : S.Resp c → Prog S ε α) :
    (Prog.call c k).crash ε' = .call (S := S.crash) c fun r =>
      r.elim (.ret .stopped) fun r => (k r).crash ε' := rfl

theorem left_bind (p : Prog S ε α) (f : α → Prog S ε β) :
    (p >>= f).left T = p.left T >>= fun a => (f a).left T := by
  induction p with
  | ret a => rfl
  | err e => rfl
  | call c k ih => exact congrArg (Prog.call (S := S.sum T) (.inl c)) (funext ih)

theorem crash_bind (p : Prog S ε α) (f : α → Prog S ε β) :
    (p >>= f).crash ε' = p.crash ε' >>= next f := by
  induction p with
  | ret a => rfl
  | err e => rfl
  | call c k ih =>
      rw [call_bind, crash_call, crash_call, call_bind]
      refine congrArg _ (funext fun r => ?_)
      cases r with
      | none => rfl
      | some r => exact ih r

theorem crash_attempt (p : Prog S ε α) :
    p.attempt.crash ε' = p.crash ε' >>= fun r => .ret r.attempted := by
  induction p with
  | ret a => rfl
  | err e => rfl
  | call c k ih =>
      rw [attempt, crash_call, crash_call, call_bind]
      refine congrArg _ (funext fun r => ?_)
      cases r with
      | none => rfl
      | some r => exact ih r

/-! ## Command by command -/

section All

variable {P : S.Cmd → Prop} {p : Prog S ε α}

theorem All.left {P' : (S.sum T).Cmd → Prop} (hp : p.All P) (h : ∀ c, P c → P' (.inl c)) :
    (p.left T).All P' := by
  induction p with
  | ret a => trivial
  | err e => trivial
  | call c k ih => exact ⟨h c hp.1, fun r => ih r (hp.2 r)⟩

theorem All.crash (hp : p.All P) : Prog.All (S := S.crash) P (p.crash ε') := by
  induction p with
  | ret a => trivial
  | err e => trivial
  | call c k ih =>
      rw [crash_call]
      refine ⟨hp.1, fun r => ?_⟩
      cases r with
      | none => trivial
      | some r => exact ih r (hp.2 r)

end All

/-! ## The rules under interference -/

section Rules

variable {σ ω η ρ Op : Type} {M : System S.crash σ ω η ε' ρ Op}
  {O : Outline S.crash σ ω Op} {i : Nat} {op : Op} {s : Snap S.crash σ ω Op}
  {E : ε' → Snap S.crash σ ω Op → Prop}

theorem wp_crash_bind {p : Prog S ε α} {f : α → Prog S ε β}
    {Q : Ending ε β → Snap S.crash σ ω Op → Prop} (hinv : O.inv s)
    (h : (p.crash ε').wp M O i op (fun r s => (next f r).wp M O i op Q E s) E s) :
    ((p >>= f).crash ε').wp M O i op Q E s := by
  rw [crash_bind]
  exact wp_bind hinv h

theorem wp_crash_attempt {p : Prog S ε α}
    {Q : Ending ε (Except ε α) → Snap S.crash σ ω Op → Prop}
    (h : (p.crash ε').wp M O i op (fun r s => Q r.attempted s) E s) :
    (p.attempt.crash ε').wp M O i op Q E s := by
  rw [crash_attempt]
  exact wp_map _ h

/-- The rule for one command: the stable fact `F` known before it carries its
assertion, what the rest needs if the process goes on, and what is promised
if it stops. -/
theorem wp_crash_call {F : Snap S.crash σ ω Op → Prop} (hF : Stable M O i F) (hs : F s)
    {c : S.Cmd} {k : S.Resp c → Prog S ε α}
    {Q : Ending ε α → Snap S.crash σ ω Op → Prop}
    (hpre : ∀ s, O.inv s → F s → O.pre i op c s)
    (hk : ∀ s o, O.inv s → F s → O.allows i op c o s → O.inv (s.exec M i op c o) →
      ((M.exec c o s.world).1.elim (.ret .stopped) fun r => (k r).crash ε').wp M O i op Q E
        (s.exec M i op c o)) :
    ((Prog.call c k).crash ε').wp M O i op Q E s := by
  rw [crash_call]
  exact wp_call hF hs hpre hk

end Rules

end Prog

end Conc
