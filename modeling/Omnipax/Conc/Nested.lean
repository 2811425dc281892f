import Omnipax.Conc.Rely

/-!
# A pool inside another state

Where a whole pool is part of a larger state, as a server is of a network, its
steps are moves of that state. These are the facts about one step of the pool
that such a state is reasoned with.
-/

namespace Conc

variable {S : Sig} {σ ω η ε ρ Op : Type} {M : System S σ ω η ε ρ Op} {cfg : Config S σ ω ε ρ Op}

/-- What no step breaks, a step of the pool does not. -/
theorem Persistent.step {F : Snap S σ ω Op → Prop} (hF : Persistent M F) (h : F cfg.toSnap)
    (l : Label ω η Op) : F (cfg.step M l).toSnap := by
  cases l with
  | spawn op => exact h
  | env e => exact hF.env h e
  | step i o =>
      unfold Config.step
      dsimp only
      split
      · exact hF.exec h ..
      · exact h

theorem Config.op_step {i : Nat} {th : Thread S ε ρ Op} (h : cfg.threads[i]? = some th)
    (l : Label ω η Op) : ∃ prog, (cfg.step M l).threads[i]? = some ⟨th.op, prog⟩ := by
  have hlt := (List.getElem?_eq_some_iff.mp h).1
  cases l with
  | spawn op =>
      refine ⟨th.prog, ?_⟩
      simp only [step]
      rw [List.getElem?_append_left hlt, h]
  | env e => exact ⟨th.prog, h⟩
  | step j o =>
      unfold step
      dsimp only
      split
      · rename_i op c k hth
        rw [List.getElem?_set]
        split
        · rename_i hij
          subst hij
          obtain rfl := Option.some.inj (hth.symm.trans h)
          exact ⟨_, if_pos hlt⟩
        · exact ⟨th.prog, h⟩
      · exact ⟨th.prog, h⟩

theorem Config.length_step (l : Label ω η Op) :
    cfg.threads.length ≤ (cfg.step M l).threads.length := by
  cases l with
  | spawn op => simp [step]
  | env e => exact Nat.le_refl _
  | step i o =>
      unfold step
      dsimp only
      split
      · exact Nat.le_of_eq (List.length_set ..).symm
      · exact Nat.le_refl _

theorem Config.mem_hist_step {l : Label ω η Op} {e : Event S σ ω Op}
    (h : e ∈ (cfg.step M l).hist) : e ∈ cfg.hist ∨ e.before = cfg.world := by
  cases l with
  | spawn op => exact Or.inl h
  | env e => exact Or.inl h
  | step i o =>
      unfold step at h
      dsimp only at h
      split at h
      · rcases List.mem_cons.mp h with rfl | h
        · exact Or.inr rfl
        · exact Or.inl h
      · exact Or.inl h

end Conc
