import Omnipax.Conc.Pool

/-!
# Serial runs

Steps taken one after the other: a fold of a step function over a list of
labels. `Follows` says that every step obeys a rule in the state it is
taken in, and `Follows.invariant` is the one induction that serial safety
arguments need. The steps of a `System` are its turns: the environment
moves, then one operation runs without interruption.
-/

namespace Conc

section Follows

variable {σ L : Type}

/-- Every step of the list obeys the rule in the state where it is taken, which is the state
that the steps before it have led to. -/
def Follows (step : σ → L → σ) (rule : σ → L → Prop) : σ → List L → Prop
  | _, [] => True
  | s, l :: ls => rule s l ∧ Follows step rule (step s l) ls

instance decFollows (step : σ → L → σ) (rule : σ → L → Prop)
    [∀ s l, Decidable (rule s l)] : (s : σ) → (ls : List L) →
      Decidable (Follows step rule s ls)
  | _, [] => isTrue trivial
  | s, l :: ls =>
      have : Decidable (Follows step rule (step s l) ls) := decFollows step rule _ ls
      inferInstanceAs (Decidable (_ ∧ _))

theorem Follows.invariant {step : σ → L → σ} {rule : σ → L → Prop} {I : σ → Prop}
    (hstep : ∀ s l, I s → rule s l → I (step s l)) {s : σ} {ls : List L} (hs : I s)
    (h : Follows step rule s ls) : I (ls.foldl step s) := by
  induction ls generalizing s with
  | nil => exact hs
  | cons l ls ih => exact ih (hstep s l hs h.1) h.2

/-- What holds of every label can be added to the rule. -/
theorem Follows.and_of_forall {step : σ → L → σ} {rule : σ → L → Prop} {p : L → Prop} {s : σ}
    {ls : List L} (hp : ∀ l ∈ ls, p l) (h : Follows step rule s ls) :
    Follows step (fun s l => p l ∧ rule s l) s ls := by
  induction ls generalizing s with
  | nil => trivial
  | cons l ls ih =>
      exact ⟨⟨hp l (List.mem_cons_self ..), h.1⟩,
        ih (fun l' hl' => hp l' (List.mem_cons_of_mem _ hl')) h.2⟩

end Follows

/-! ## Turns -/

/-- One operation run without interruption, after a move of the
environment. -/
structure Turn (ω η Op : Type) where
  env : η
  op : Op
  oracles : Nat → ω

variable {S : Sig} {σ ω η ε ρ Op : Type}

namespace System

def outcome (M : System S σ ω η ε ρ Op) (s : σ) (x : Turn ω η Op) :
    Prog.Outcome σ ε ρ :=
  (M.body x.op).run M.toMachine x.oracles 0 (M.env x.env s)

def turn (M : System S σ ω η ε ρ Op) (s : σ) (x : Turn ω η Op) : σ :=
  (M.outcome s x).state

end System

/-! ## Serial runs are interleaved runs -/

/-- What is left of a call can be run to its end. -/
theorem Config.exists_run_prog {M : System S σ ω η ε ρ Op} {p : Prog S ε ρ}
    {cfg : Config S σ ω ε ρ Op} {i : Nat} {op : Op} (os : Nat → ω) (n : Nat)
    (hth : cfg.threads[i]? = some ⟨op, p⟩) :
    ∃ ls : List (Label ω η Op), (∀ op, .spawn op ∉ ls) ∧
      (cfg.run M ls).world = (p.run M.toMachine os n cfg.world).state := by
  induction p generalizing cfg n with
  | ret a => exact ⟨[], by simp, rfl⟩
  | err e => exact ⟨[], by simp, rfl⟩
  | call c k ih =>
      have hlt : i < cfg.threads.length := (List.getElem?_eq_some_iff.mp hth).1
      have hstep : cfg.step M (.step i (os n)) =
          { toSnap := cfg.toSnap.exec M i op c (os n)
            threads := cfg.threads.set i ⟨op, k (M.exec c (os n) cfg.world).1⟩ } := by
        simp only [Config.step, hth]
      have hth' : (cfg.step M (.step i (os n))).threads[i]?
          = some ⟨op, k (M.exec c (os n) cfg.world).1⟩ := by
        rw [hstep]
        simp [hlt]
      obtain ⟨ls, hspawn, hls⟩ := ih (M.exec c (os n) cfg.world).1 (n + 1) hth'
      refine ⟨.step i (os n) :: ls, by simpa using hspawn, ?_⟩
      rw [Config.run_cons, hls, hstep]
      rfl

/-- Every serial run is a run of the pool that starts the same operations. -/
theorem Config.exists_run_serial (M : System S σ ω η ε ρ Op) (xs : List (Turn ω η Op))
    (cfg : Config S σ ω ε ρ Op) :
    ∃ ls : List (Label ω η Op), (∀ op, .spawn op ∈ ls → ∃ x ∈ xs, x.op = op) ∧
      (cfg.run M ls).world = xs.foldl M.turn cfg.world := by
  induction xs generalizing cfg with
  | nil => exact ⟨[], by simp, rfl⟩
  | cons x xs ih =>
      have hth : ((cfg.step M (.env x.env)).step M (.spawn x.op)).threads[cfg.threads.length]?
          = some ⟨x.op, M.body x.op⟩ := by
        simp [Config.step]
      obtain ⟨ls, hspawn, hls⟩ := exists_run_prog x.oracles 0 hth
      obtain ⟨ls', hspawn', hls'⟩ :=
        ih (((cfg.step M (.env x.env)).step M (.spawn x.op)).run M ls)
      refine ⟨.env x.env :: .spawn x.op :: (ls ++ ls'), fun op hop => ?_, ?_⟩
      · simp only [List.mem_cons, List.mem_append, reduceCtorEq, false_or, Label.spawn.injEq]
          at hop
        rcases hop with rfl | hop | hop
        · exact ⟨x, List.mem_cons_self .., rfl⟩
        · exact absurd hop (hspawn op)
        · obtain ⟨y, hy, rfl⟩ := hspawn' op hop
          exact ⟨y, List.mem_cons_of_mem _ hy, rfl⟩
      · rw [Config.run_cons, Config.run_cons, Config.run_append, hls', hls]
        rfl

namespace Prog

variable {α : Type}

theorem state_of_wlp {M : Machine S σ ω} {p : Prog S ε α} {I : σ → Prop} {s : σ}
    (h : p.wlp M (fun _ => I) (fun _ => I) s) (os : Nat → ω) (n : Nat) :
    I (p.run M os n s).state := by
  have hrun := run_of_wlp h os n
  split at hrun <;> simp_all

/-! ## Checks -/

/-- Run from command `n` on in state `s`, the program changes nothing: if
`c` holds it returns `a`, the next command being `n'`, and otherwise it
throws. -/
structure Checks (M : Machine S σ ω) (os : Nat → ω) (s : σ) (p : Prog S ε α) (n n' : Nat)
    (c : Prop) (a : α) : Prop where
  passes : c → p.run M os n s = ⟨.ok a, n', s⟩
  throws : ¬c → ∃ e m, p.run M os n s = ⟨.error e, m, s⟩

section Checks

variable {M : Machine S σ ω} {os : Nat → ω} {s : σ} {β : Type} {n n' n'' : Nat} {c c' : Prop}
  {a : α}

theorem Checks.ret (a : α) : Checks M os s (.ret a : Prog S ε α) n n True a where
  passes _ := rfl
  throws h := absurd trivial h

theorem Checks.throwIf {b : Bool} {e : ε} (h : b = false ↔ c) :
    Checks M os s (throwIf b e) n n c () where
  passes hc := by rw [h.mpr hc]; rfl
  throws hc := by
    cases b with
    | false => exact absurd (h.mp rfl) hc
    | true => exact ⟨e, n, rfl⟩

theorem Checks.bind {p : Prog S ε α} {f : α → Prog S ε β} {b : β} (hp : Checks M os s p n n' c a)
    (hf : Checks M os s (f a) n' n'' c' b) : Checks M os s (p >>= f) n n'' (c ∧ c') b where
  passes h := by rw [run_bind_ok _ _ (hp.passes h.1), hf.passes h.2]
  throws h := by
    by_cases hc : c
    · rw [run_bind_ok _ _ (hp.passes hc)]
      exact hf.throws fun hc' => h ⟨hc, hc'⟩
    · obtain ⟨e, m, hrun⟩ := hp.throws hc
      exact ⟨e, m, run_bind_error _ _ hrun⟩

theorem Checks.congr {p : Prog S ε α} (h : Checks M os s p n n' c a) (hc : c ↔ c') :
    Checks M os s p n n' c' a where
  passes hc' := h.passes (hc.mpr hc')
  throws hc' := h.throws fun h => hc' (hc.mp h)

theorem Checks.mapM {f : β → Prog S ε α} {r : β → α} {C : Nat → Prop}
    (hf : ∀ b n, Checks M os s (f b) n (n + 1) (C n) (r b)) (l : List β) (n : Nat) :
    Checks M os s (l.mapM f) n (n + l.length) (∀ i < l.length, C (n + i)) (l.map r) := by
  induction l generalizing n with
  | nil => exact (Checks.ret []).congr (by simp)
  | cons b l ih =>
      have hrest : Checks M os s (l.mapM f >>= fun as => .ret (r b :: as)) (n + 1)
          (n + (b :: l).length) ((∀ i < l.length, C (n + 1 + i)) ∧ True) (r b :: l.map r) := by
        rw [List.length_cons, show n + (l.length + 1) = n + 1 + l.length by omega]
        exact (ih (n + 1)).bind (Checks.ret _)
      have hall : Checks M os s (f b >>= fun a => l.mapM f >>= fun as => .ret (a :: as)) n
          (n + (b :: l).length) _ (r b :: l.map r) := (hf b n).bind hrest
      rw [List.mapM_cons]
      refine hall.congr ⟨?_, fun h => ⟨h 0 (by simp), fun i hi => ?_, trivial⟩⟩
      · rintro ⟨h0, hrest, -⟩ i hi
        cases i with
        | zero => exact h0
        | succ i =>
            have hi := hrest i (by simpa using hi)
            rwa [show n + (i + 1) = n + 1 + i by omega]
      · have hi := h (i + 1) (by simpa using hi)
        rwa [show n + 1 + i = n + (i + 1) by omega]

end Checks

/-! ## Total correctness -/

/-- Every command of the run is answered as `ok` allows. -/
def Along (M : Machine S σ ω) (ok : S.Cmd → ω → σ → Prop) (os : Nat → ω) :
    Prog S ε α → Nat → σ → Prop
  | .ret _, _, _ => True
  | .err _, _, _ => True
  | .call c k, n, s =>
      ok c (os n) s ∧ (k (M.exec c (os n) s).1).Along M ok os (n + 1) (M.exec c (os n) s).2

instance decAlong (M : Machine S σ ω) (ok : S.Cmd → ω → σ → Prop)
    [∀ c o s, Decidable (ok c o s)] (os : Nat → ω) :
    (p : Prog S ε α) → (n : Nat) → (s : σ) → Decidable (p.Along M ok os n s)
  | .ret _, _, _ => isTrue trivial
  | .err _, _, _ => isTrue trivial
  | .call c k, n, s =>
      have : Decidable ((k (M.exec c (os n) s).1).Along M ok os (n + 1) (M.exec c (os n) s).2) :=
        decAlong M ok os _ (n + 1) _
      inferInstanceAs (Decidable (_ ∧ _))

/-- The weakest precondition of a run whose commands are answered as `ok`
allows: it returns, in `Q`. -/
def twp (M : Machine S σ ω) (ok : S.Cmd → ω → σ → Prop) :
    Prog S ε α → (α → σ → Prop) → σ → Prop
  | .ret a, Q, s => Q a s
  | .err _, _, _ => False
  | .call c k, Q, s => ∀ o, ok c o s → (k (M.exec c o s).1).twp M ok Q (M.exec c o s).2

section Total

variable {M : Machine S σ ω} {ok : S.Cmd → ω → σ → Prop} {β : Type} {s : σ}

theorem run_of_twp {p : Prog S ε α} {Q : α → σ → Prop} (h : p.twp M ok Q s) {os : Nat → ω}
    {n : Nat} (halong : p.Along M ok os n s) :
    ∃ a n' s', p.run M os n s = ⟨.ok a, n', s'⟩ ∧ Q a s' := by
  induction p generalizing n s with
  | ret a => exact ⟨a, n, s, rfl, h⟩
  | err e => exact h.elim
  | call c k ih => exact ih _ (h _ halong.1) halong.2

theorem twp_bind {p : Prog S ε α} {f : α → Prog S ε β} {Q : β → σ → Prop} :
    (p >>= f).twp M ok Q s ↔ p.twp M ok (fun a => (f a).twp M ok Q) s := by
  induction p generalizing s with
  | ret a => exact Iff.rfl
  | err e => exact Iff.rfl
  | call c k ih => exact forall₂_congr fun _ _ => ih _

theorem twp_mono {p : Prog S ε α} {Q Q' : α → σ → Prop} (h : p.twp M ok Q s)
    (hQ : ∀ a s, Q a s → Q' a s) : p.twp M ok Q' s := by
  induction p generalizing s with
  | ret a => exact hQ a s h
  | err e => exact h
  | call c k ih => exact fun o ho => ih _ (h o ho)

/-- What all commands of the program keep holds beside its postcondition. -/
theorem twp_frame {I : σ → Prop} {Pc : S.Cmd → Prop} {p : Prog S ε α} {Q : α → σ → Prop}
    (hkeeps : ∀ c, Pc c → ∀ o s, I s → I (M.exec c o s).2) (hp : p.All Pc)
    (h : p.twp M ok Q s) (hI : I s) : p.twp M ok (fun a s' => Q a s' ∧ I s') s := by
  induction p generalizing s with
  | ret a => exact ⟨h, hI⟩
  | err e => exact h
  | call c k ih => exact fun o ho => ih _ (hp.2 _) (h o ho) (hkeeps c hp.1 o s hI)

theorem twp_mapM {f : β → Prog S ε α} {R : α → Prop} {l : List β}
    (hf : ∀ b ∈ l, ∀ s, (f b).twp M ok (fun a _ => R a) s) (s : σ) :
    (l.mapM f).twp M ok (fun as _ => ∀ a ∈ as, R a) s := by
  induction l generalizing s with
  | nil => exact fun _ ha => nomatch ha
  | cons b l ih =>
      rw [List.mapM_cons, twp_bind]
      refine twp_mono (hf b (List.mem_cons_self ..) s) fun a s ha => ?_
      rw [twp_bind]
      refine twp_mono (ih (fun b' hb' => hf b' (List.mem_cons_of_mem _ hb')) s)
        fun as s has a' ha' => ?_
      rcases List.mem_cons.mp ha' with rfl | ha'
      · exact ha
      · exact has a' ha'

end Total

end Prog

end Conc
