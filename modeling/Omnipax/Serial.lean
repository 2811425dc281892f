import Omnipax.Conc.Serial
import Omnipax.Live

/-!
# Atomic calls

Each operation executed without interruption, its commands answered or
failed by arbitrary oracles. The sequential rules for `await` split on
what a command does: a read leaves the state as it is, whether it is
answered or not.
-/

namespace Omnipax

open Conc Prog

abbrev LiveTurn := Turn Oracle Time Op

def serial (P : Platform) (w : World) (xs : List LiveTurn) : World :=
  xs.foldl (live P).turn w

/-! ## Sequential rules -/

section Rules

variable {P : Platform} {α : Type} {w : World} {Q : α → World → Prop} {E : Exn → World → Prop}

theorem wlp_await {c : Cmd} {f : c.Ret → M α}
    (hE : ∀ o e, E e (exec P c o w).2)
    (hk : ∀ o a, (perform P o w c).1 = .ok a →
      (f a).wlp (machine P) Q E (perform P o w c).2) :
    (await c >>= f).wlp (machine P) Q E w := by
  intro o
  show ((match (exec P c o w).1 with
    | .ok a => .ret a
    | .error e => .err (.step e) : M c.Ret) >>= f).wlp _ Q E (exec P c o w).2
  cases h : (exec P c o w).1 with
  | ok a =>
      have hperf := perform_of_exec_ok h
      rw [hperf] at h ⊢
      exact hk o a h
  | error e => exact hE o _

theorem wlp_settle {c : Cmd} {f : Except StepError c.Ret → M α}
    (hk : ∀ o, (f (exec P c o w).1).wlp (machine P) Q E (exec P c o w).2) :
    (settle c >>= f).wlp (machine P) Q E w :=
  hk

theorem wlp_read {c : Cmd} {f : c.Ret → M α} (hread : c.readOnly = true) (hE : ∀ e, E e w)
    (hk : ∀ o a, (perform P o w c).1 = .ok a → (f a).wlp (machine P) Q E w) :
    (await c >>= f).wlp (machine P) Q E w := by
  refine wlp_await (fun o e => ?_) fun o a h => ?_
  · rw [exec_readOnly P o w hread]
    exact hE e
  · rw [perform_readOnly P o w c hread]
    exact hk o a h

theorem wlp_check {b : Bool} {e : Exn} {f : Unit → M α} (hE : E e w)
    (hk : b = false → (f ()).wlp (machine P) Q E w) :
    (throwIf b e >>= f).wlp (machine P) Q E w := by
  cases b with
  | true => exact hE
  | false => exact hk rfl

theorem wlp_frame {γ : Type} (obs : World → γ) {Pc : Cmd → Prop} {p : M α}
    (hPc : ∀ c, Pc c → ∀ o w, obs (exec P c o w).2 = obs w) (hp : p.All Pc) (x : γ)
    (hw : obs w = x) :
    p.wlp (machine P) (fun _ w => obs w = x) (fun _ w => obs w = x) w := by
  induction p generalizing w with
  | ret a => exact hw
  | err e => exact hw
  | call c k ih => exact fun o => ih _ (hp.2 _) ((hPc c hp.1 o w).trans hw)

end Rules

/-! ## Runs under given oracles -/

section Runs

variable {P : Platform} {α : Type} {os : Nat → Oracle} {n : Nat} {w : World}

theorem run_await (c : Cmd) (f : c.Ret → M α) :
    (await c >>= f).run (machine P) os n w =
      match exec P c (os n) w with
      | (.ok a, w') => (f a).run (machine P) os (n + 1) w'
      | (.error e, w') => ⟨.error (.step e), n + 1, w'⟩ := by
  show ((match (exec P c (os n) w).1 with
    | .ok a => .ret a
    | .error e => .err (.step e) : M c.Ret) >>= f).run _ os (n + 1) (exec P c (os n) w).2 = _
  rcases exec P c (os n) w with ⟨_ | _, w'⟩ <;> rfl

theorem run_await_ok {c : Cmd} {f : c.Ret → M α} {a : c.Ret} {w' : World}
    (hf : c.isLocal = true ∨ (os n).fault = none) (ha : perform P (os n) w c = (.ok a, w')) :
    (await c >>= f).run (machine P) os n w = (f a).run (machine P) os (n + 1) w' := by
  rw [run_await, exec_of_up hf, ha]

theorem run_await_fault {c : Cmd} (f : c.Ret → M α) (hc : c.isLocal = false)
    (hf : (os n).fault ≠ none) :
    (await c >>= f).run (machine P) os n w
      = ⟨.error (.step .unavailable), n + 1, (exec P c (os n) w).2⟩ := by
  rw [run_await]
  cases h : (os n).fault with
  | none => exact absurd h hf
  | some fault => cases fault <;> simp [exec, hc, h]

end Runs

end Omnipax
