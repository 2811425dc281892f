import Mathlib.Data.List.Induction
import Omnipax.Conc.Prog

/-!
# Interleaved execution of a pool of programs

Any number of calls run at once, and one step executes one atomic command
of one of them. A `Config` holds the shared state, the calls in flight
and the history of all commands executed so far, newest first. The
history records the state *before* each command, so whatever a command
did can be read off it (`Event.after`).

The history is what a race is stated with: `since p hist` are the events
strictly newer than the oldest one satisfying `p`. `TracksSince` is the
fact every check-then-act argument rests on - what is there now was there
when the check read, or was put there since - and it survives every step
of every call.
-/

namespace Conc

/-- A machine, what the environment may do between the commands of any
program (`η` ranges over its moves), and the program of each operation. -/
structure System (S : Sig) (σ ω η ε ρ Op : Type) extends Machine S σ ω where
  env : η → σ → σ
  body : Op → Prog S ε ρ

/-- One executed command: which call has executed it, as part of which operation, with which
oracle, and in which state. The answer and the state after it follow from these. -/
structure Event (S : Sig) (σ ω Op : Type) where
  tid : Nat
  op : Op
  cmd : S.Cmd
  oracle : ω
  before : σ

/-- A call in flight: the operation it was started for, and what is left of its program. A
call that is over stays, with its result. -/
structure Thread (S : Sig) (ε ρ Op : Type) where
  op : Op
  prog : Prog S ε ρ

/-- What all calls share: the world that commands are executed in, and the commands executed
so far, each with its call and the state it was executed in. -/
structure Snap (S : Sig) (σ ω Op : Type) where
  world : σ
  hist : List (Event S σ ω Op)

structure Config (S : Sig) (σ ω ε ρ Op : Type) extends Snap S σ ω Op where
  threads : List (Thread S ε ρ Op)

/-- A call starts, the call number `i` executes its next command, or the
environment moves. -/
inductive Label (ω η Op : Type) where
  | spawn (op : Op)
  | step (i : Nat) (o : ω)
  | env (e : η)

variable {S : Sig} {σ ω η ε ρ Op : Type}

/-- The program has a next command, so it has neither returned nor thrown. -/
def Prog.running {α : Type} : Prog S ε α → Bool
  | .call .. => true
  | _ => false

def Event.after (M : System S σ ω η ε ρ Op) (e : Event S σ ω Op) : σ :=
  (M.exec e.cmd e.oracle e.before).2

/-! ## Steps -/

/-- The shared part after call `i` has executed `c`. -/
def Snap.exec (M : System S σ ω η ε ρ Op) (s : Snap S σ ω Op) (i : Nat) (op : Op)
    (c : S.Cmd) (o : ω) : Snap S σ ω Op :=
  ⟨(M.exec c o s.world).2, ⟨i, op, c, o, s.world⟩ :: s.hist⟩

def Snap.env (M : System S σ ω η ε ρ Op) (s : Snap S σ ω Op) (e : η) :
    Snap S σ ω Op :=
  ⟨M.env e s.world, s.hist⟩

@[simp] theorem Snap.exec_world (M : System S σ ω η ε ρ Op) (s : Snap S σ ω Op)
    (i : Nat) (op : Op) (c : S.Cmd) (o : ω) :
    (s.exec M i op c o).world = (M.exec c o s.world).2 := rfl

@[simp] theorem Snap.exec_hist (M : System S σ ω η ε ρ Op) (s : Snap S σ ω Op)
    (i : Nat) (op : Op) (c : S.Cmd) (o : ω) :
    (s.exec M i op c o).hist = ⟨i, op, c, o, s.world⟩ :: s.hist := rfl

@[simp] theorem Snap.env_world (M : System S σ ω η ε ρ Op) (s : Snap S σ ω Op) (e : η) :
    (s.env M e).world = M.env e s.world := rfl

@[simp] theorem Snap.env_hist (M : System S σ ω η ε ρ Op) (s : Snap S σ ω Op) (e : η) :
    (s.env M e).hist = s.hist := rfl

namespace Config

/-- One step: a call is started, the world moves by itself, or a call executes its next
command. A label that names no running call changes nothing. -/
def step (M : System S σ ω η ε ρ Op) (cfg : Config S σ ω ε ρ Op) :
    Label ω η Op → Config S σ ω ε ρ Op
  | .spawn op => { cfg with threads := cfg.threads ++ [⟨op, M.body op⟩] }
  | .env e => { cfg with toSnap := cfg.toSnap.env M e }
  | .step i o =>
      match cfg.threads[i]? with
      | some ⟨op, .call c k⟩ =>
          { toSnap := cfg.toSnap.exec M i op c o
            threads := cfg.threads.set i ⟨op, k (M.exec c o cfg.world).1⟩ }
      | _ => cfg

def run (M : System S σ ω η ε ρ Op) (cfg : Config S σ ω ε ρ Op)
    (ls : List (Label ω η Op)) : Config S σ ω ε ρ Op :=
  ls.foldl (step M) cfg

@[simp] theorem run_nil (M : System S σ ω η ε ρ Op) (cfg : Config S σ ω ε ρ Op) :
    cfg.run M [] = cfg := rfl

@[simp] theorem run_cons (M : System S σ ω η ε ρ Op) (cfg : Config S σ ω ε ρ Op)
    (l : Label ω η Op) (ls : List (Label ω η Op)) :
    cfg.run M (l :: ls) = (cfg.step M l).run M ls := rfl

theorem run_append (M : System S σ ω η ε ρ Op) (cfg : Config S σ ω ε ρ Op)
    (ls ls' : List (Label ω η Op)) :
    cfg.run M (ls ++ ls') = (cfg.run M ls).run M ls' :=
  List.foldl_append ..

/-- No call in flight and nothing executed yet: where every run begins. -/
def idle (w : σ) : Config S σ ω ε ρ Op := ⟨⟨w, []⟩, []⟩

/-- The history tells which call executed what. -/
def Attributed (cfg : Config S σ ω ε ρ Op) : Prop :=
  ∀ e ∈ cfg.hist, ∃ th : Thread S ε ρ Op, cfg.threads[e.tid]? = some th ∧ th.op = e.op

theorem attributed_step {M : System S σ ω η ε ρ Op} {cfg : Config S σ ω ε ρ Op}
    (h : cfg.Attributed) (l : Label ω η Op) : (cfg.step M l).Attributed := by
  cases l with
  | spawn op =>
      intro e he
      obtain ⟨th, hth, hop⟩ := h e he
      refine ⟨th, ?_, hop⟩
      simp only [step]
      rw [List.getElem?_append_left (List.getElem?_eq_some_iff.mp hth).1, hth]
  | env e => exact h
  | step i o =>
      unfold step
      dsimp only
      split
      · rename_i op c k hth
        intro e he
        rw [List.getElem?_set]
        rcases List.mem_cons.mp he with rfl | he
        · exact ⟨_, by rw [if_pos rfl, if_pos (List.getElem?_eq_some_iff.mp hth).1], rfl⟩
        · obtain ⟨th, hth', hop⟩ := h e he
          split
          · rename_i htid
            subst htid
            obtain rfl := Option.some.inj (hth.symm.trans hth')
            exact ⟨_, if_pos (List.getElem?_eq_some_iff.mp hth').1, hop⟩
          · exact ⟨th, hth', hop⟩
      · exact h

theorem attributed_run {M : System S σ ω η ε ρ Op} {cfg : Config S σ ω ε ρ Op}
    (h : cfg.Attributed) (ls : List (Label ω η Op)) : (cfg.run M ls).Attributed := by
  induction ls generalizing cfg with
  | nil => exact h
  | cons l ls ih => exact ih (attributed_step h l)

theorem attributed_idle (w : σ) : (idle w : Config S σ ω ε ρ Op).Attributed :=
  fun _ he => by cases he

end Config

/-- An invariant of every command that occurs in the programs of a system,
and of the environment, holds along every run. -/
theorem Config.run_snap_of_all {M : System S σ ω η ε ρ Op} {I : Snap S σ ω Op → Prop}
    {P : S.Cmd → Prop} {starts : Op → Prop} (hbody : ∀ op, starts op → (M.body op).All P)
    (hexec : ∀ s i op c o, P c → I s → I (s.exec M i op c o))
    (henv : ∀ s e, I s → I (s.env M e))
    {cfg : Config S σ ω ε ρ Op} (hcfg : ∀ th ∈ cfg.threads, th.prog.All P)
    (hI : I cfg.toSnap) {ls : List (Label ω η Op)} (hls : ∀ op, .spawn op ∈ ls → starts op) :
    I (cfg.run M ls).toSnap := by
  induction ls generalizing cfg with
  | nil => exact hI
  | cons l ls ih =>
      rw [run_cons]
      have hls' : ∀ op, .spawn op ∈ ls → starts op :=
        fun op hop => hls op (List.mem_cons_of_mem _ hop)
      cases l with
      | spawn op =>
          refine ih (fun th hth => ?_) hI hls'
          rcases List.mem_append.mp hth with hth | hth
          · exact hcfg th hth
          · obtain rfl := List.mem_singleton.mp hth
            exact hbody op (hls op (List.mem_cons_self ..))
      | env e => exact ih hcfg (henv _ e hI) hls'
      | step i o =>
          unfold Config.step
          dsimp only
          split
          · rename_i op c k hth
            have hall := hcfg _ (List.mem_of_getElem? hth)
            refine ih (fun th hth' => ?_) (hexec _ i op c o hall.1 hI) hls'
            rcases List.mem_or_eq_of_mem_set hth' with hth' | rfl
            · exact hcfg th hth'
            · exact hall.2 _
          · exact ih hcfg hI hls'

theorem Config.run_invariant_of_all {M : System S σ ω η ε ρ Op} {I : σ → Prop}
    {P : S.Cmd → Prop} {starts : Op → Prop} (hbody : ∀ op, starts op → (M.body op).All P)
    (hexec : ∀ c o w, P c → I w → I (M.exec c o w).2) (henv : ∀ w e, I w → I (M.env e w))
    {cfg : Config S σ ω ε ρ Op} (hcfg : ∀ th ∈ cfg.threads, th.prog.All P)
    (hI : I cfg.world) {ls : List (Label ω η Op)} (hls : ∀ op, .spawn op ∈ ls → starts op) :
    I (cfg.run M ls).world :=
  run_snap_of_all (I := fun s => I s.world) hbody (fun s _ _ c o => hexec c o s.world)
    (fun s => henv s.world) hcfg hI hls

/-! ## Disciplines: which runs are considered -/

/-- Which operations may start, and in which states a call may execute its
next command. -/
structure Discipline (S : Sig) (σ ω Op : Type) where
  starts : Op → Prop
  allows : Nat → Op → S.Cmd → ω → Snap S σ ω Op → Prop

namespace Discipline

def free (S : Sig) (σ ω : Type) {Op : Type} (starts : Op → Prop) :
    Discipline S σ ω Op :=
  ⟨starts, fun _ _ _ _ _ => True⟩

instance {starts : Op → Prop} [h : DecidablePred starts] :
    DecidablePred (free S σ ω starts).starts := h

instance {starts : Op → Prop} (i : Nat) (op : Op) (c : S.Cmd) (o : ω) :
    DecidablePred ((free S σ ω starts).allows i op c o) := fun _ => isTrue trivial

def admits (D : Discipline S σ ω Op) (cfg : Config S σ ω ε ρ Op) :
    Label ω η Op → Prop
  | .spawn op => D.starts op
  | .env _ => True
  | .step i o =>
      match cfg.threads[i]? with
      | some ⟨op, .call c _⟩ => D.allows i op c o cfg.toSnap
      | _ => True

/-- Every step of the run is admitted in the configuration where it is taken. This is how a
condition on the order of steps is stated for a whole run. -/
def admitsRun (M : System S σ ω η ε ρ Op) (D : Discipline S σ ω Op) :
    Config S σ ω ε ρ Op → List (Label ω η Op) → Prop
  | _, [] => True
  | cfg, l :: ls => D.admits cfg l ∧ D.admitsRun M (cfg.step M l) ls

instance (D : Discipline S σ ω Op) [DecidablePred D.starts]
    [∀ i op c o, DecidablePred (D.allows i op c o)] (cfg : Config S σ ω ε ρ Op) :
    (l : Label ω η Op) → Decidable (D.admits cfg l)
  | .spawn op => inferInstanceAs (Decidable (D.starts op))
  | .env _ => isTrue trivial
  | .step i o =>
      match h : cfg.threads[i]? with
      | some ⟨op, .call c _⟩ =>
          decidable_of_iff (D.allows i op c o cfg.toSnap) (by simp [admits, h])
      | some ⟨_, .ret _⟩ => isTrue (by simp [admits, h])
      | some ⟨_, .err _⟩ => isTrue (by simp [admits, h])
      | none => isTrue (by simp [admits, h])

instance decAdmitsRun (M : System S σ ω η ε ρ Op) (D : Discipline S σ ω Op)
    [DecidablePred D.starts] [∀ i op c o, DecidablePred (D.allows i op c o)] :
    (cfg : Config S σ ω ε ρ Op) → (ls : List (Label ω η Op)) →
      Decidable (D.admitsRun M cfg ls)
  | _, [] => isTrue trivial
  | cfg, l :: ls =>
      have : Decidable (D.admitsRun M (cfg.step M l) ls) :=
        decAdmitsRun M D (cfg.step M l) ls
      inferInstanceAs (Decidable (_ ∧ _))

theorem admitsRun_append {M : System S σ ω η ε ρ Op} {D : Discipline S σ ω Op}
    {cfg : Config S σ ω ε ρ Op} {ls ls' : List (Label ω η Op)} :
    D.admitsRun M cfg (ls ++ ls')
      ↔ D.admitsRun M cfg ls ∧ D.admitsRun M (cfg.run M ls) ls' := by
  induction ls generalizing cfg with
  | nil => simp [admitsRun]
  | cons l ls ih => simp [admitsRun, ih, and_assoc]

theorem admitsRun_free {M : System S σ ω η ε ρ Op} {starts : Op → Prop}
    {cfg : Config S σ ω ε ρ Op} {ls : List (Label ω η Op)}
    (h : ∀ op, .spawn op ∈ ls → starts op) : (free S σ ω starts).admitsRun M cfg ls := by
  induction ls generalizing cfg with
  | nil => trivial
  | cons l ls ih =>
      refine ⟨?_, ih fun op hop => h op (List.mem_cons_of_mem _ hop)⟩
      cases l with
      | spawn op => exact h op (List.mem_cons_self ..)
      | env e => trivial
      | step i o =>
          unfold admits
          dsimp only
          split <;> trivial

end Discipline

/-! ## Calls that do not throw -/

/-- Whatever its commands are answered of what `can` come, the program does not
throw. -/
def Prog.Throwless (can : (c : S.Cmd) → S.Resp c → Prop) {α : Type} : Prog S ε α → Prop
  | .ret _ => True
  | .err _ => False
  | .call c k => ∀ r, can c r → (k r).Throwless can

theorem Prog.Throwless.bind {can : (c : S.Cmd) → S.Resp c → Prop} {α β : Type} {p : Prog S ε α}
    {f : α → Prog S ε β} (hp : p.Throwless can) (hf : ∀ a, (f a).Throwless can) :
    (p >>= f).Throwless can := by
  induction p with
  | ret a => exact hf a
  | err e => exact hp.elim
  | call c k ih => exact fun r hr => ih r (hp r hr)

theorem Config.throwless_run {M : System S σ ω η ε ρ Op} {D : Discipline S σ ω Op}
    {can : (c : S.Cmd) → S.Resp c → Prop} (hbody : ∀ op, D.starts op → (M.body op).Throwless can)
    (hcan : ∀ i op c o s, D.allows i op c o s → can c (M.exec c o s.world).1)
    {cfg : Config S σ ω ε ρ Op} (hcfg : ∀ th ∈ cfg.threads, th.prog.Throwless can)
    {ls : List (Label ω η Op)} (hls : D.admitsRun M cfg ls) :
    ∀ th ∈ (cfg.run M ls).threads, th.prog.Throwless can := by
  induction ls generalizing cfg with
  | nil => exact hcfg
  | cons l ls ih =>
      rw [run_cons]
      refine ih ?_ hls.2
      have hl := hls.1
      cases l with
      | spawn op =>
          intro th hth
          rcases List.mem_append.mp hth with hth | hth
          · exact hcfg th hth
          · obtain rfl := List.mem_singleton.mp hth
            exact hbody op hl
      | env e => exact hcfg
      | step i o =>
          unfold Config.step
          unfold Discipline.admits at hl
          dsimp only at hl ⊢
          split
          · rename_i op c k hth
            rw [hth] at hl
            intro th hth'
            rcases List.mem_or_eq_of_mem_set hth' with hth' | rfl
            · exact hcfg th hth'
            · exact hcfg _ (List.mem_of_getElem? hth) _ (hcan i op c o cfg.toSnap hl)
          · exact hcfg

/-! ## What the calls have done -/

section Counting

variable {p : Event S σ ω Op → Bool} {hist : List (Event S σ ω Op)}

/-- The events of the calls below `n` and those of call `n`. -/
theorem countP_below_succ (n : Nat) :
    hist.countP (fun e => decide (e.tid < n) && p e) + hist.countP (fun e => e.tid == n && p e)
      = hist.countP fun e => decide (e.tid < n + 1) && p e := by
  induction hist with
  | nil => simp
  | cons e hist ih =>
      simp only [List.countP_cons, Bool.and_eq_true, decide_eq_true_eq, beq_iff_eq]
      by_cases hp : p e = true
      · simp only [hp, and_true]
        split <;> split <;> split <;> omega
      · simp only [hp, Bool.false_eq_true, and_false, if_false]
        omega

/-- What each call has to show is backed by events of its own. -/
theorem countP_flatMap_le {τ : Type} {shows : Thread S ε ρ Op → List τ} {good : τ → Bool}
    {threads : List (Thread S ε ρ Op)}
    (h : ∀ (i : Nat) (th : Thread S ε ρ Op), threads[i]? = some th →
      (shows th).countP good ≤ hist.countP fun e => e.tid == i && p e) :
    (threads.flatMap shows).countP good ≤ hist.countP p := by
  have hbelow : (threads.flatMap shows).countP good
      ≤ hist.countP fun e => decide (e.tid < threads.length) && p e := by
    induction threads using List.reverseRecOn with
    | nil => simp
    | append_singleton l th ih =>
        have hl := ih fun i th' hth' =>
          h i th' (by rw [List.getElem?_append_left (List.getElem?_eq_some_iff.mp hth').1, hth'])
        have hth := h l.length th (by simp)
        rw [List.flatMap_append, List.countP_append, List.length_append, List.length_singleton,
          List.flatMap_singleton]
        have := @countP_below_succ _ _ _ _ p hist l.length
        omega
  refine Nat.le_trans hbelow (List.countP_mono_left fun e _ he => ?_)
  rw [Bool.and_eq_true] at he
  exact he.2

/-- Where this is all that they have done, it is all that has been done. -/
theorem countP_flatMap_eq {τ : Type} {shows : Thread S ε ρ Op → List τ} {good : τ → Bool}
    {threads : List (Thread S ε ρ Op)} (hfresh : ∀ e ∈ hist, e.tid < threads.length)
    (h : ∀ (i : Nat) (th : Thread S ε ρ Op), threads[i]? = some th →
      (shows th).countP good = hist.countP fun e => e.tid == i && p e) :
    (threads.flatMap shows).countP good = hist.countP p := by
  have hbelow : (threads.flatMap shows).countP good
      = hist.countP fun e => decide (e.tid < threads.length) && p e := by
    clear hfresh
    induction threads using List.reverseRecOn with
    | nil => simp
    | append_singleton l th ih =>
        have hl := ih fun i th' hth' =>
          h i th' (by rw [List.getElem?_append_left (List.getElem?_eq_some_iff.mp hth').1, hth'])
        have hth := h l.length th (by simp)
        rw [List.flatMap_append, List.countP_append, List.length_append, List.length_singleton,
          List.flatMap_singleton, hl, hth, countP_below_succ]
  rw [hbelow]
  refine List.countP_congr fun e he => ?_
  simp [hfresh e he]

end Counting

/-! ## What happened since -/

section Since

variable {p : Event S σ ω Op → Bool}

/-- The events strictly newer than the oldest one satisfying `p`. -/
def since (p : Event S σ ω Op → Bool) : List (Event S σ ω Op) → List (Event S σ ω Op)
  | [] => []
  | e :: h => if h.any p then e :: since p h else []

@[simp] theorem since_nil : since p [] = [] := rfl

theorem since_cons_of_any {e : Event S σ ω Op} {h : List (Event S σ ω Op)}
    (hp : h.any p = true) : since p (e :: h) = e :: since p h := by
  rw [since, if_pos hp]

/-- What is there now (`mem`) satisfies `V` or was put there by a command
executed since the first event satisfying `p`. -/
def TracksSince {β : Type} (M : System S σ ω η ε ρ Op) (p : Event S σ ω Op → Bool)
    (mem : σ → β → Prop) (V : β → Prop) (s : Snap S σ ω Op) : Prop :=
  s.hist.any p = true ∧ ∀ x, mem s.world x →
    V x ∨ ∃ e ∈ since p s.hist, ¬mem e.before x ∧ mem (e.after M) x

variable {β : Type} {M : System S σ ω η ε ρ Op} {mem : σ → β → Prop} {V : β → Prop}
  {s : Snap S σ ω Op}

/-- The command that satisfies `p` starts the tracking. -/
theorem TracksSince.intro {i : Nat} {op : Op} {c : S.Cmd} {o : ω}
    (hp : p ⟨i, op, c, o, s.world⟩ = true)
    (hV : ∀ x, mem (M.exec c o s.world).2 x → V x) :
    TracksSince M p mem V (s.exec M i op c o) := by
  refine ⟨?_, fun x hx => Or.inl (hV x hx)⟩
  rw [Snap.exec_hist, List.any_cons, hp, Bool.true_or]

/-- No step of any call breaks it: what the step puts there, it puts there
since. -/
theorem TracksSince.exec (h : TracksSince M p mem V s) (i : Nat) (op : Op)
    (c : S.Cmd) (o : ω) : TracksSince M p mem V (s.exec M i op c o) := by
  obtain ⟨hany, hmem⟩ := h
  refine ⟨by rw [Snap.exec_hist, List.any_cons, hany, Bool.or_true], fun x hx => ?_⟩
  rw [Snap.exec_hist, since_cons_of_any hany]
  by_cases hold : mem s.world x
  · rcases hmem x hold with hV | ⟨e, he, hbefore, hafter⟩
    · exact Or.inl hV
    · exact Or.inr ⟨e, List.mem_cons_of_mem _ he, hbefore, hafter⟩
  · exact Or.inr ⟨_, List.mem_cons_self .., hold, hx⟩

theorem TracksSince.env (h : TracksSince M p mem V s) {e : η}
    (henv : ∀ x, mem (M.env e s.world) x → mem s.world x) :
    TracksSince M p mem V (s.env M e) :=
  ⟨h.1, fun x hx => h.2 x (henv x hx)⟩

/-- If nothing outside `A` was put there since, what is there now is in
`V` or in `A`. -/
theorem TracksSince.elim (h : TracksSince M p mem V s) {A : β → Prop}
    (hA : ∀ e ∈ since p s.hist, ∀ x, ¬mem e.before x → mem (e.after M) x → A x)
    {x : β} (hx : mem s.world x) : V x ∨ A x := by
  rcases h.2 x hx with hV | ⟨e, he, hbefore, hafter⟩
  · exact Or.inl hV
  · exact Or.inr (hA e he x hbefore hafter)

end Since

end Conc
