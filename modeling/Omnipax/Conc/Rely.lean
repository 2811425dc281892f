import Mathlib.Data.List.Forall2
import Mathlib.Logic.Relation
import Omnipax.Conc.Pool

/-!
# Rely-guarantee reasoning for pools

An `Outline` annotates a pool: a global invariant, and for each command
an assertion that holds whenever a call is about to execute it. What
other calls may do to a call (`Interferes`) is then no more than execute
commands whose assertion holds, and a call is correct (`wp`) when each of
its commands meets its assertion after any amount of such interference.

The annotations of all calls support each other, and `sound` resolves the
circle by one induction over the run: at every state reached the
invariant holds, every call satisfies `wp` of what is left of it, and so
the assertion of the next command holds whichever call moves next
(`pre_of_run`) and the result of a finished call is as promised
(`result_of_run`).
-/

namespace Conc

variable {S : Sig} {σ ω η ε ρ Op : Type}

/-- An annotated pool: an invariant, and for every command that a call may execute next an
assertion. Together with the discipline it says in which states the other calls take their
steps, which is all that one call has to know of them. -/
structure Outline (S : Sig) (σ ω Op : Type) extends Discipline S σ ω Op where
  inv : Snap S σ ω Op → Prop
  pre : Nat → Op → S.Cmd → Snap S σ ω Op → Prop

/-- What call `i` has to expect between two of its commands. -/
inductive Interferes (M : System S σ ω η ε ρ Op) (O : Outline S σ ω Op) (i : Nat) :
    Snap S σ ω Op → Snap S σ ω Op → Prop where
  | env {s : Snap S σ ω Op} (e : η) : O.inv s → Interferes M O i s (s.env M e)
  | other {s : Snap S σ ω Op} {j : Nat} {op : Op} {c : S.Cmd} {o : ω} :
      j ≠ i → O.starts op → O.inv s → O.pre j op c s → O.allows j op c o s →
      Interferes M O i s (s.exec M j op c o)

/-- A fact that no interference with call `i` breaks. -/
def Stable (M : System S σ ω η ε ρ Op) (O : Outline S σ ω Op) (i : Nat)
    (F : Snap S σ ω Op → Prop) : Prop :=
  ∀ s s', Interferes M O i s s' → F s → F s'

/-- A fact that no step at all breaks, the call's own included. -/
structure Persistent (M : System S σ ω η ε ρ Op) (F : Snap S σ ω Op → Prop) :
    Prop where
  exec : ∀ {s}, F s → ∀ i op c o, F (s.exec M i op c o)
  env : ∀ {s}, F s → ∀ e, F (s.env M e)

/-- A fact that neither interference with call `i` nor its own commands of
a kind break. -/
structure Kept (M : System S σ ω η ε ρ Op) (O : Outline S σ ω Op) (i : Nat) (op : Op)
    (P : S.Cmd → Prop) (F : Snap S σ ω Op → Prop) : Prop where
  stable : Stable M O i F
  own : ∀ {s}, F s → ∀ c o, P c → F (s.exec M i op c o)

/-- The same of its own commands that meet their assertions. -/
structure Carried (M : System S σ ω η ε ρ Op) (O : Outline S σ ω Op) (i : Nat) (op : Op)
    (P : S.Cmd → Prop) (F : Snap S σ ω Op → Prop) : Prop where
  stable : Stable M O i F
  own : ∀ {s c o}, O.inv s → O.pre i op c s → O.allows i op c o s → F s → P c →
    F (s.exec M i op c o)

section Stability

variable {M : System S σ ω η ε ρ Op} {O : Outline S σ ω Op} {i : Nat}
  {F G : Snap S σ ω Op → Prop}

theorem Persistent.stable (hF : Persistent M F) : Stable M O i F := by
  intro s s' h hs
  cases h with
  | env e _ => exact hF.env hs e
  | other _ _ _ _ _ => exact hF.exec hs ..

theorem Persistent.and (hF : Persistent M F) (hG : Persistent M G) :
    Persistent M fun s => F s ∧ G s where
  exec h i op c o := ⟨hF.exec h.1 i op c o, hG.exec h.2 i op c o⟩
  env h e := ⟨hF.env h.1 e, hG.env h.2 e⟩

theorem Persistent.forall₂ {α β : Type} {R : α → β → Snap S σ ω Op → Prop}
    (hR : ∀ a b, Persistent M (R a b)) (l : List α) (bs : List β) :
    Persistent M fun s => List.Forall₂ (fun a b => R a b s) l bs where
  exec h i op c o := h.imp fun a b hab => (hR a b).exec hab i op c o
  env h e := h.imp fun a b hab => (hR a b).env hab e

theorem Persistent.kept (hF : Persistent M F) {op : Op} {P : S.Cmd → Prop} :
    Kept M O i op P F where
  stable := hF.stable
  own h c o _ := hF.exec h i op c o

theorem Stable.and (hF : Stable M O i F) (hG : Stable M O i G) :
    Stable M O i fun s => F s ∧ G s :=
  fun s s' h hs => ⟨hF s s' h hs.1, hG s s' h hs.2⟩

theorem Kept.and {op : Op} {P : S.Cmd → Prop} (hF : Kept M O i op P F)
    (hG : Kept M O i op P G) : Kept M O i op P fun s => F s ∧ G s where
  stable := hF.stable.and hG.stable
  own h c o hc := ⟨hF.own h.1 c o hc, hG.own h.2 c o hc⟩

theorem persistent_true : Persistent M fun _ => True where
  exec _ _ _ _ _ := trivial
  env _ _ := trivial

theorem persistent_world {P : σ → Prop}
    (hexec : ∀ w, P w → ∀ c o, P (M.exec c o w).2)
    (henv : ∀ w, P w → ∀ e, P (M.env e w)) :
    Persistent M fun s => P s.world where
  exec h _ _ c o := hexec _ h c o
  env h e := henv _ h e

theorem Persistent.run {M : System S σ ω η ε ρ Op} {F : Snap S σ ω Op → Prop}
    (hF : Persistent M F) {cfg : Config S σ ω ε ρ Op} (h : F cfg.toSnap)
    (ls : List (Label ω η Op)) : F (cfg.run M ls).toSnap :=
  Config.run_snap_of_all (M := M) (I := F) (fun op _ => Prog.all_true (M.body op))
    (fun _ i op c o _ h => hF.exec h i op c o) (fun _ e h => hF.env h e)
    (fun th _ => Prog.all_true th.prog) h fun _ _ => (trivial : True)

/-- What has been so at some time, every later command has found so. -/
theorem Persistent.found {M : System S σ ω η ε ρ Op} {P : σ → Prop}
    (hP : Persistent M fun s => P s.world) {cfg : Config S σ ω ε ρ Op} (h : P cfg.world)
    (ls : List (Label ω η Op)) : ∀ e ∈ (cfg.run M ls).hist, e ∈ cfg.hist ∨ P e.before := by
  have hboth : Persistent M fun s : Snap S σ ω Op =>
      P s.world ∧ ∀ e ∈ s.hist, e ∈ cfg.hist ∨ P e.before := by
    refine ⟨fun hs i op c o => ⟨hP.exec hs.1 i op c o, fun e he => ?_⟩,
      fun hs e => ⟨hP.env hs.1 e, hs.2⟩⟩
    rcases List.mem_cons.mp he with rfl | he
    · exact Or.inr hs.1
    · exact hs.2 e he
  exact (hboth.run ⟨h, fun e he => Or.inl he⟩ ls).2

/-- A command of call `i` was one of these. -/
def Seen (i : Nat) (p : Event S σ ω Op → Prop) (s : Snap S σ ω Op) : Prop :=
  ∃ e ∈ s.hist, e.tid = i ∧ p e

theorem seen_persistent (i : Nat) (p : Event S σ ω Op → Prop) : Persistent M (Seen i p) where
  exec h _ _ _ _ := by
    obtain ⟨e, he, h⟩ := h
    exact ⟨e, List.mem_cons_of_mem _ he, h⟩
  env h _ := h

theorem seen_exec {p : Event S σ ω Op → Prop} {s : Snap S σ ω Op} {op : Op} {c : S.Cmd} {o : ω}
    (h : p ⟨i, op, c, o, s.world⟩) : Seen i p (s.exec M i op c o) :=
  ⟨_, List.mem_cons_self .., rfl, h⟩

theorem Seen.mono {p p' : Event S σ ω Op → Prop} {s : Snap S σ ω Op} (h : Seen i p s)
    (hp : ∀ e, p e → p' e) : Seen i p' s := by
  obtain ⟨e, he, htid, h⟩ := h
  exact ⟨e, he, htid, hp e h⟩

theorem persistent_tracksSince {β : Type} {p : Event S σ ω Op → Bool}
    {mem : σ → β → Prop} {V : β → Prop}
    (henv : ∀ w e x, mem (M.env e w) x → mem w x) :
    Persistent M (TracksSince M p mem V) where
  exec h i op c o := h.exec i op c o
  env h e := h.env fun x hx => henv _ e x hx

theorem Carried.forall {α : Type} {op : Op} {P : α → S.Cmd → Prop} {F : α → Snap S σ ω Op → Prop}
    (hF : ∀ a, Carried M O i op (P a) (F a)) (l : List α) :
    Carried M O i op (fun c => ∀ a ∈ l, P a c) fun s => ∀ a ∈ l, F a s where
  stable s s' h hs a ha := (hF a).stable s s' h (hs a ha)
  own hinv hpre ho hs hc a ha := (hF a).own hinv hpre ho (hs a ha) (hc a ha)

theorem Stable.star (hF : Stable M O i F) {s s' : Snap S σ ω Op}
    (h : Relation.ReflTransGen (Interferes M O i) s s') (hs : F s) : F s' := by
  induction h with
  | refl => exact hs
  | tail _ hstep ih => exact hF _ _ hstep ih

/-- Call `i` alone adds events of call `i`. -/
theorem stable_notMine (p : Event S σ ω Op → Bool)
    (hp : ∀ e, p e = true → e.tid = i) :
    Stable M O i fun s => s.hist.any p = false := by
  intro s s' h hs
  cases h with
  | env e _ => exact hs
  | other hj _ _ _ _ =>
      rw [Snap.exec_hist, List.any_cons, hs, Bool.or_false]
      exact Bool.eq_false_iff.mpr fun h => hj (hp _ h)

end Stability

/-! ## Weakest preconditions under interference -/

/-- After any interference, every command of what is left of call `i`
meets its assertion; a result satisfies `Q`, an exception `E`, and both
go on doing so. -/
def Prog.wp (M : System S σ ω η ε ρ Op) (O : Outline S σ ω Op) (i : Nat) (op : Op)
    {α : Type} : Prog S ε α → (α → Snap S σ ω Op → Prop) →
      (ε → Snap S σ ω Op → Prop) → Snap S σ ω Op → Prop
  | .ret a, Q, _, s => ∀ s', Relation.ReflTransGen (Interferes M O i) s s' →
      O.inv s' → Q a s'
  | .err e, _, E, s => ∀ s', Relation.ReflTransGen (Interferes M O i) s s' →
      O.inv s' → E e s'
  | .call c k, Q, E, s => ∀ s', Relation.ReflTransGen (Interferes M O i) s s' →
      O.inv s' → O.pre i op c s' ∧
        ∀ o, O.allows i op c o s' → O.inv (s'.exec M i op c o) →
          (k (M.exec c o s'.world).1).wp M O i op Q E (s'.exec M i op c o)

section Rules

variable {M : System S σ ω η ε ρ Op} {O : Outline S σ ω Op} {i : Nat} {op : Op}
  {α β : Type} {Q : α → Snap S σ ω Op → Prop} {E : ε → Snap S σ ω Op → Prop}
  {s s' : Snap S σ ω Op}

theorem Prog.wp.mono {p : Prog S ε α} {Q' : α → Snap S σ ω Op → Prop}
    {E' : ε → Snap S σ ω Op → Prop} (h : p.wp M O i op Q E s)
    (hQ : ∀ a s, O.inv s → Q a s → Q' a s) (hE : ∀ e s, O.inv s → E e s → E' e s) :
    p.wp M O i op Q' E' s := by
  induction p generalizing s with
  | ret a => exact fun s' hs' hinv => hQ a s' hinv (h s' hs' hinv)
  | err e => exact fun s' hs' hinv => hE e s' hinv (h s' hs' hinv)
  | call c k ih =>
      intro s' hs' hinv
      obtain ⟨hpre, hk⟩ := h s' hs' hinv
      exact ⟨hpre, fun o ho hinv' => ih _ (hk o ho hinv')⟩

theorem Prog.wp.later {p : Prog S ε α} (h : p.wp M O i op Q E s)
    (hs : Relation.ReflTransGen (Interferes M O i) s s') : p.wp M O i op Q E s' := by
  cases p with
  | ret a => exact fun s'' hs'' hinv => h s'' (hs.trans hs'') hinv
  | err e => exact fun s'' hs'' hinv => h s'' (hs.trans hs'') hinv
  | call c k => exact fun s'' hs'' hinv => h s'' (hs.trans hs'') hinv

theorem Prog.wp_bind {p : Prog S ε α} {f : α → Prog S ε β}
    {Q : β → Snap S σ ω Op → Prop} (hinv : O.inv s)
    (h : p.wp M O i op (fun a s => (f a).wp M O i op Q E s) E s) :
    (p >>= f).wp M O i op Q E s := by
  induction p generalizing s with
  | ret a => exact h s .refl hinv
  | err e => exact h
  | call c k ih =>
      intro s' hs' hinv'
      obtain ⟨hpre, hk⟩ := h s' hs' hinv'
      exact ⟨hpre, fun o ho hinv'' => ih _ hinv'' (hk o ho hinv'')⟩

theorem Prog.wp_map (g : α → β) {p : Prog S ε α} {Q : β → Snap S σ ω Op → Prop}
    (h : p.wp M O i op (fun a s => Q (g a) s) E s) :
    (p >>= fun a => .ret (g a)).wp M O i op Q E s := by
  induction p generalizing s with
  | ret a => exact h
  | err e => exact h
  | call c k ih =>
      intro s' hs' hinv
      obtain ⟨hpre, hk⟩ := h s' hs' hinv
      exact ⟨hpre, fun o ho hinv' => ih _ (hk o ho hinv')⟩

theorem Prog.wp_attempt {p : Prog S ε α} {Q : Except ε α → Snap S σ ω Op → Prop}
    (h : p.wp M O i op (fun a s => Q (.ok a) s) (fun e s => Q (.error e) s) s) :
    p.attempt.wp M O i op Q E s := by
  induction p generalizing s with
  | ret a => exact h
  | err e => exact h
  | call c k ih =>
      intro s' hs' hinv
      obtain ⟨hpre, hk⟩ := h s' hs' hinv
      exact ⟨hpre, fun o ho hinv' => ih _ (hk o ho hinv')⟩

/-- The rule for one command: the stable fact `F` known before it carries
its assertion and whatever the rest needs. -/
theorem Prog.wp_call {F : Snap S σ ω Op → Prop} (hF : Stable M O i F) (hs : F s)
    {c : S.Cmd} {k : S.Resp c → Prog S ε α}
    (hpre : ∀ s, O.inv s → F s → O.pre i op c s)
    (hk : ∀ s o, O.inv s → F s → O.allows i op c o s → O.inv (s.exec M i op c o) →
      (k (M.exec c o s.world).1).wp M O i op Q E (s.exec M i op c o)) :
    (Prog.call c k).wp M O i op Q E s := by
  intro s' hs' hinv
  have hF' : F s' := hF.star hs' hs
  exact ⟨hpre s' hinv hF', fun o ho hinv' => hk s' o hinv hF' ho hinv'⟩

theorem Prog.wp_ret {F : Snap S σ ω Op → Prop} (hF : Stable M O i F) (hs : F s)
    {a : α} (hQ : ∀ s, O.inv s → F s → Q a s) :
    (Prog.ret a : Prog S ε α).wp M O i op Q E s :=
  fun s' hs' hinv => hQ s' hinv (hF.star hs' hs)

theorem Prog.wp_err_of {e : ε} (hE : ∀ s, O.inv s → E e s) :
    (Prog.err e : Prog S ε α).wp M O i op Q E s :=
  fun s' _ hinv => hE s' hinv

/-- A program all of whose commands meet their assertion where `F` holds
keeps `F`, when its commands do. -/
theorem Prog.wp_keep {p : Prog S ε α} {P : S.Cmd → Prop} (hp : p.All P)
    {F : Snap S σ ω Op → Prop} (hP : ∀ c, P c → ∀ s, O.inv s → F s → O.pre i op c s)
    (hF : Kept M O i op P F) (hs : F s) :
    p.wp M O i op (fun _ s => F s) (fun _ s => F s) s := by
  induction p generalizing s with
  | ret a => exact fun s' hs' _ => hF.stable.star hs' hs
  | err e => exact fun s' hs' _ => hF.stable.star hs' hs
  | call c k ih =>
      intro s' hs' hinv
      have hF' : F s' := hF.stable.star hs' hs
      exact ⟨hP c hp.1 s' hinv hF', fun o _ _ => ih _ (hp.2 _) (hF.own hF' c o hp.1)⟩

/-- A fact that the commands of a program keep stays true across it, however it
ends. -/
theorem Prog.wp.frame_kept {p : Prog S ε α} (h : p.wp M O i op Q E s) {P : S.Cmd → Prop}
    (hp : p.All P) {F : Snap S σ ω Op → Prop} (hF : Kept M O i op P F) (hs : F s) :
    p.wp M O i op (fun a s => Q a s ∧ F s) (fun e s => E e s ∧ F s) s := by
  induction p generalizing s with
  | ret a => exact fun s' hs' hinv => ⟨h s' hs' hinv, hF.stable.star hs' hs⟩
  | err e => exact fun s' hs' hinv => ⟨h s' hs' hinv, hF.stable.star hs' hs⟩
  | call c k ih =>
      intro s' hs' hinv
      obtain ⟨hpre, hk⟩ := h s' hs' hinv
      have hF' : F s' := hF.stable.star hs' hs
      exact ⟨hpre, fun o ho hinv' => ih _ (hk o ho hinv') (hp.2 _) (hF.own hF' c o hp.1)⟩

theorem Prog.wp.frame_ends {p : Prog S ε α} (h : p.wp M O i op Q E s)
    {F : Snap S σ ω Op → Prop} (hF : Persistent M F) (hs : F s) :
    p.wp M O i op (fun a s => Q a s ∧ F s) (fun e s => E e s ∧ F s) s :=
  h.frame_kept (Prog.all_true p) hF.kept hs

theorem Prog.wp.frame {p : Prog S ε α} (h : p.wp M O i op Q E s)
    {F : Snap S σ ω Op → Prop} (hF : Persistent M F) (hs : F s) :
    p.wp M O i op (fun a s => Q a s ∧ F s) E s :=
  (h.frame_ends hF hs).mono (fun _ _ _ h => h) fun _ _ _ h => h.1

/-- The same where the program's own commands keep the fact as long as they meet
their assertions. -/
theorem Prog.wp.frame_carried {p : Prog S ε α} (h : p.wp M O i op Q E s) {P : S.Cmd → Prop}
    (hp : p.All P) {F : Snap S σ ω Op → Prop} (hF : Carried M O i op P F) (hs : F s) :
    p.wp M O i op (fun a s => Q a s ∧ F s) (fun e s => E e s ∧ F s) s := by
  induction p generalizing s with
  | ret a => exact fun s' hs' hinv => ⟨h s' hs' hinv, hF.stable.star hs' hs⟩
  | err e => exact fun s' hs' hinv => ⟨h s' hs' hinv, hF.stable.star hs' hs⟩
  | call c k ih =>
      intro s' hs' hinv
      obtain ⟨hpre, hk⟩ := h s' hs' hinv
      have hF' : F s' := hF.stable.star hs' hs
      exact ⟨hpre, fun o ho hinv' =>
        ih _ (hk o ho hinv') (hp.2 _) (hF.own hinv hpre ho hF' hp.1)⟩

theorem exists_of_forall₂ {R : α → β → Prop} {l : List α} {bs : List β}
    (h : List.Forall₂ R l bs) {a : α} (ha : a ∈ l) : ∃ b ∈ bs, R a b := by
  induction h with
  | nil => cases ha
  | cons hab _ ih =>
      rcases List.mem_cons.mp ha with rfl | ha
      · exact ⟨_, List.mem_cons_self .., hab⟩
      · obtain ⟨b, hb, hR⟩ := ih ha
        exact ⟨b, List.mem_cons_of_mem _ hb, hR⟩

/-- The rule for a loop: what a round establishes about its element and its
result persists to the end, and what is known for good when the loop begins is
known in every round. -/
theorem Prog.wp_mapM_in {f : α → Prog S ε β} {R : α → β → Snap S σ ω Op → Prop}
    {G : Snap S σ ω Op → Prop} {l : List α} (hR : ∀ a b, Persistent M (R a b))
    (hG : Persistent M G)
    (hf : ∀ a ∈ l, ∀ s, O.inv s → G s → (f a).wp M O i op (R a) E s) (hinv : O.inv s) (hs : G s) :
    (l.mapM f).wp M O i op (fun bs s => List.Forall₂ (fun a b => R a b s) l bs) E s := by
  induction l generalizing s with
  | nil => exact fun _ _ _ => .nil
  | cons a l ih =>
      rw [List.mapM_cons]
      refine wp_bind hinv (((hf a (List.mem_cons_self ..) s hinv hs).frame hG hs).mono
        (fun b s hinv hb => ?_) fun _ _ _ h => h)
      have hrest := ih (fun a' ha' => hf a' (List.mem_cons_of_mem _ ha')) hinv hb.2
      refine wp_bind hinv ((hrest.frame (hR a b) hb.1).mono (fun bs s _ h => ?_) fun _ _ _ h => h)
      exact wp_ret ((Persistent.forall₂ hR l bs).and (hR a b)).stable h
        fun _ _ h => .cons h.2 h.1

theorem Prog.wp_mapM {f : α → Prog S ε β} {R : α → β → Snap S σ ω Op → Prop} {l : List α}
    (hR : ∀ a b, Persistent M (R a b))
    (hf : ∀ a ∈ l, ∀ s, O.inv s → (f a).wp M O i op (R a) E s) (hinv : O.inv s) :
    (l.mapM f).wp M O i op (fun bs s => List.Forall₂ (fun a b => R a b s) l bs) E s :=
  wp_mapM_in hR persistent_true (fun a ha s hinv _ => hf a ha s hinv) hinv trivial

/-- The rule for a loop each round of which has a part of its own: what it needs
there is left alone by the rounds before it, and what it achieves by those after. -/
theorem Prog.wp_mapM_parts {f : α → Prog S ε β} {F G : α → Snap S σ ω Op → Prop}
    {P : α → S.Cmd → Prop} {l : List α} (hF : ∀ a, Carried M O i op (P a) (F a))
    (hG : ∀ a, Carried M O i op (P a) (G a))
    (hall : l.Pairwise fun a a' => (f a).All (P a') ∧ (f a').All (P a))
    (hf : ∀ a ∈ l, ∀ s, O.inv s → F a s → (f a).wp M O i op (fun _ => G a) (fun _ _ => True) s)
    (hinv : O.inv s) (hs : ∀ a ∈ l, F a s) :
    (l.mapM f).wp M O i op (fun _ s => ∀ a ∈ l, G a s) (fun _ _ => True) s := by
  induction l generalizing s with
  | nil => exact fun _ _ _ _ h => absurd h List.not_mem_nil
  | cons a l ih =>
      rw [List.mapM_cons]
      obtain ⟨hpair, hrest⟩ := List.pairwise_cons.mp hall
      have hround : (f a).wp M O i op (fun _ s => G a s ∧ ∀ a' ∈ l, F a' s) (fun _ _ => True) s :=
        ((hf a (List.mem_cons_self ..) s hinv (hs a (List.mem_cons_self ..))).frame_carried
          (Prog.all_forall fun a' ha' => (hpair a' ha').1) (Carried.forall hF l)
          fun a' ha' => hs a' (List.mem_cons_of_mem _ ha')).mono (fun _ _ _ h => h)
            fun _ _ _ _ => trivial
      refine wp_bind hinv (hround.mono (fun b s hinv hb => ?_) fun _ _ _ h => h)
      have hloop := ih hrest (fun a' ha' => hf a' (List.mem_cons_of_mem _ ha')) hinv hb.2
      refine wp_bind hinv ((hloop.frame_carried (All.mapM fun a' ha' => (hpair a' ha').2) (hG a)
        hb.1).mono (fun bs s _ h => ?_) fun _ _ _ _ => trivial)
      refine wp_ret ((Carried.forall hG l).stable.and (hG a).stable) h fun _ _ h a' ha' => ?_
      rcases List.mem_cons.mp ha' with rfl | ha'
      · exact h.2
      · exact h.1 a' ha'

/-- The rule for a loop that counts: `C` never falls, and a round lets it grow
when its result is `good`. -/
theorem Prog.wp_mapM_countP {f : α → Prog S ε β} {good : β → Bool} {C : Snap S σ ω Op → Nat}
    (hC : ∀ n, Persistent M fun s => n ≤ C s)
    (hf : ∀ a s n, O.inv s → n ≤ C s →
      (f a).wp M O i op (fun b s => n + (if good b then 1 else 0) ≤ C s) E s)
    (l : List α) {n : Nat} (hinv : O.inv s) (hn : n ≤ C s) :
    (l.mapM f).wp M O i op (fun bs s => n + bs.countP good ≤ C s) E s := by
  induction l generalizing s n with
  | nil => exact wp_ret (hC n).stable hn fun _ _ h => h
  | cons a l ih =>
      rw [List.mapM_cons]
      refine wp_bind hinv ((hf a s n hinv hn).mono (fun b s hinv hb => ?_) fun _ _ _ h => h)
      refine wp_bind hinv ((ih hinv hb).mono (fun bs s _ h => ?_) fun _ _ _ h => h)
      refine wp_ret (hC _).stable h fun _ _ h => ?_
      rw [List.countP_cons]
      omega

end Rules

/-! ## Soundness -/

namespace Outline

/-- The obligations of an outline: each command keeps the invariant where
its assertion holds, the environment keeps it, and every operation's
program, started afresh, satisfies `wp`. -/
structure Valid (M : System S σ ω η ε ρ Op) (O : Outline S σ ω Op)
    (Q : Nat → Op → ρ → Snap S σ ω Op → Prop) : Prop where
  inv_exec : ∀ {s}, O.inv s → ∀ i op c o, O.starts op → O.pre i op c s →
    O.allows i op c o s → O.inv (s.exec M i op c o)
  inv_env : ∀ {s}, O.inv s → ∀ e, O.inv (s.env M e)
  body : ∀ i op s, O.starts op → O.inv s → (∀ e ∈ s.hist, e.tid ≠ i) →
    (M.body op).wp M O i op (Q i op) (fun _ _ => True) s

/-- What holds at every configuration reached: the invariant, and for each call the weakest
precondition of what it has still to do. -/
structure Good (M : System S σ ω η ε ρ Op) (O : Outline S σ ω Op)
    (Q : Nat → Op → ρ → Snap S σ ω Op → Prop) (cfg : Config S σ ω ε ρ Op) : Prop where
  inv : O.inv cfg.toSnap
  fresh : ∀ e ∈ cfg.hist, e.tid < cfg.threads.length
  calls : ∀ (i : Nat) (th : Thread S ε ρ Op), cfg.threads[i]? = some th → O.starts th.op ∧
    th.prog.wp M O i th.op (Q i th.op) (fun _ _ => True) cfg.toSnap

section Soundness

variable {M : System S σ ω η ε ρ Op} {O : Outline S σ ω Op}
  {Q : Nat → Op → ρ → Snap S σ ω Op → Prop} {cfg : Config S σ ω ε ρ Op}

theorem Good.idle {w : σ} (h : O.inv ⟨w, []⟩) :
    Good M O Q (Config.idle w) where
  inv := h
  fresh := by simp [Config.idle]
  calls := by simp [Config.idle]

theorem Good.spawn (hO : Valid M O Q) (h : Good M O Q cfg) {op : Op}
    (hop : O.starts op) : Good M O Q (cfg.step M (.spawn op)) where
  inv := h.inv
  fresh e he := by
    have hlt := h.fresh e he
    simp only [Config.step, List.length_append, List.length_singleton]
    omega
  calls i th hth := by
    simp only [Config.step, List.getElem?_append] at hth
    split at hth
    · exact h.calls i th hth
    · -- the new call: no event carries its number yet
      rename_i hlen
      obtain ⟨hi, rfl⟩ : i - cfg.threads.length = 0 ∧ ⟨op, M.body op⟩ = th := by
        simpa [List.getElem?_singleton] using hth
      exact ⟨hop, hO.body i op cfg.toSnap hop h.inv fun e he => by
        have := h.fresh e he
        omega⟩

theorem Good.env (hO : Valid M O Q) (h : Good M O Q cfg) (e : η) :
    Good M O Q (cfg.step M (.env e)) where
  inv := hO.inv_env h.inv e
  fresh := h.fresh
  calls i th hth := by
    obtain ⟨hop, hwp⟩ := h.calls i th hth
    exact ⟨hop, hwp.later (.single (.env e h.inv))⟩

/-- One command: its own call goes on as `wp` says, and for every other
call it is interference. -/
theorem Good.exec (hO : Valid M O Q) (h : Good M O Q cfg) {i : Nat} {op : Op}
    {c : S.Cmd} {k : S.Resp c → Prog S ε ρ} {o : ω}
    (hth : cfg.threads[i]? = some ⟨op, .call c k⟩)
    (ho : O.allows i op c o cfg.toSnap) :
    Good M O Q { toSnap := cfg.toSnap.exec M i op c o
                 threads := cfg.threads.set i ⟨op, k (M.exec c o cfg.world).1⟩ } := by
  obtain ⟨hop, hwp⟩ := h.calls i _ hth
  obtain ⟨hpre, hk⟩ := hwp cfg.toSnap .refl h.inv
  have hinv : O.inv (cfg.toSnap.exec M i op c o) :=
    hO.inv_exec h.inv i op c o hop hpre ho
  have hlt : i < cfg.threads.length := (List.getElem?_eq_some_iff.mp hth).1
  refine ⟨hinv, ?_, ?_⟩
  · intro e he
    rw [List.length_set]
    rcases List.mem_cons.mp he with rfl | he
    · exact hlt
    · exact h.fresh e he
  · intro j th hj
    rw [List.getElem?_set] at hj
    split at hj
    · rename_i hij
      subst hij
      obtain rfl := Option.some.inj hj
      exact ⟨hop, hk o ho hinv⟩
    · rename_i hij
      obtain ⟨hop', hwp'⟩ := h.calls j th hj
      exact ⟨hop', hwp'.later (.single (.other hij hop h.inv hpre ho))⟩

theorem Good.step (hO : Valid M O Q) (h : Good M O Q cfg) {l : Label ω η Op}
    (hl : O.admits cfg l) : Good M O Q (cfg.step M l) := by
  cases l with
  | spawn op => exact h.spawn hO hl
  | env e => exact h.env hO e
  | step i o =>
      unfold Config.step
      unfold Discipline.admits at hl
      dsimp only at hl ⊢
      split
      · rename_i op c k hth
        rw [hth] at hl
        exact h.exec hO hth hl
      · exact h

/-- **Soundness**: a valid outline holds along every run of the
discipline. -/
theorem sound (hO : Valid M O Q) (h : Good M O Q cfg)
    {ls : List (Label ω η Op)} (hls : O.admitsRun M cfg ls) :
    Good M O Q (cfg.run M ls) := by
  induction ls generalizing cfg with
  | nil => exact h
  | cons l ls ih => exact ih (h.step hO hls.1) hls.2

theorem Good.pre (h : Good M O Q cfg) {i : Nat} {op : Op} {c : S.Cmd}
    {k : S.Resp c → Prog S ε ρ} (hth : cfg.threads[i]? = some ⟨op, .call c k⟩) :
    O.starts op ∧ O.pre i op c cfg.toSnap := by
  obtain ⟨hop, hwp⟩ := h.calls i _ hth
  exact ⟨hop, (hwp _ .refl h.inv).1⟩

/-- What every admitted step relates, a run relates, as long as the environment
does what relates too. -/
theorem Good.along_of {R : σ → σ → Prop} {E : η → Prop} (hO : Valid M O Q) (hrefl : ∀ w, R w w)
    (htrans : ∀ {w w' w''}, R w w' → R w' w'' → R w w'') (henv : ∀ w e, E e → R w (M.env e w))
    (hexec : ∀ {s} i op c o, O.inv s → O.starts op → O.pre i op c s → O.allows i op c o s →
      R s.world (M.exec c o s.world).2)
    (h : Good M O Q cfg) {ls : List (Label ω η Op)} (hls : O.admitsRun M cfg ls)
    (hE : ∀ e, Label.env e ∈ ls → E e) :
    R cfg.world (cfg.run M ls).world := by
  induction ls generalizing cfg with
  | nil => exact hrefl _
  | cons l ls ih =>
      refine htrans ?_ (ih (h.step hO hls.1) hls.2 fun e he => hE e (List.mem_cons_of_mem _ he))
      have hl := hls.1
      cases l with
      | spawn op => exact hrefl _
      | env e => exact henv _ e (hE e (List.mem_cons_self ..))
      | step i o =>
          unfold Config.step
          unfold Discipline.admits at hl
          dsimp only at hl ⊢
          split
          · rename_i op c k hth
            rw [hth] at hl
            obtain ⟨hop, hpre⟩ := h.pre hth
            exact hexec i op c o h.inv hop hpre hl
          · exact hrefl _

theorem Good.along {R : σ → σ → Prop} (hO : Valid M O Q) (hrefl : ∀ w, R w w)
    (htrans : ∀ {w w' w''}, R w w' → R w' w'' → R w w'') (henv : ∀ w e, R w (M.env e w))
    (hexec : ∀ {s} i op c o, O.inv s → O.starts op → O.pre i op c s → O.allows i op c o s →
      R s.world (M.exec c o s.world).2)
    (h : Good M O Q cfg) {ls : List (Label ω η Op)} (hls : O.admitsRun M cfg ls) :
    R cfg.world (cfg.run M ls).world :=
  h.along_of (E := fun _ => True) hO hrefl htrans (fun w e _ => henv w e) hexec hls
    fun _ _ => trivial

theorem Good.result (h : Good M O Q cfg) {i : Nat} {op : Op} {r : ρ}
    (hth : cfg.threads[i]? = some ⟨op, .ret r⟩) : Q i op r cfg.toSnap := by
  obtain ⟨-, hwp⟩ := h.calls i _ hth
  exact hwp _ .refl h.inv

end Soundness

end Outline

end Conc
