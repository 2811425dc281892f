import Omnipax.Conc.Transaction

/-!
# Calls that nothing interrupts

A discipline can say of a command in which states it may be executed. Whether
calls meet such a condition that run one after another (`visits`) is a question
about one call: between two of its commands nothing happens, so that what it has
read is still so when it writes. The rules for calls amid others answer it, under
an outline in which there are none (`solo`).
-/

namespace Conc

variable {S : Sig} {σ ω η ε ρ Op : Type}

/-! ## Runs -/

/-- A call that executes a command for each answer, after what happens before it
starts. -/
structure Visit (ω η Op : Type) where
  before : List η
  op : Op
  answers : List ω

/-- The call with the number `i`, once it has started. -/
def steps (i : Nat) (answers : List ω) : List (Label ω η Op) := answers.map (.step i)

/-- One call after another, the first of them with the number `i`. -/
def visits (i : Nat) : List (Visit ω η Op) → List (Label ω η Op)
  | [] => []
  | x :: xs => x.before.map .env ++ .spawn x.op :: steps i x.answers ++ visits (i + 1) xs

/-- Every call starts in a state of the kind. -/
def StartsIn (M : System S σ ω η ε ρ Op) (ready : Op → Snap S σ ω Op → Prop) :
    Config S σ ω ε ρ Op → List (Visit ω η Op) → Prop
  | _, [] => True
  | cfg, x :: xs =>
      ready x.op (cfg.run M (x.before.map .env)).toSnap ∧
        StartsIn M ready ((cfg.run M (x.before.map .env)).run M
          (.spawn x.op :: steps cfg.threads.length x.answers)) xs

theorem startsIn_of_forall {M : System S σ ω η ε ρ Op} {ready : Op → Snap S σ ω Op → Prop}
    (h : ∀ op s, ready op s) (cfg : Config S σ ω ε ρ Op) (xs : List (Visit ω η Op)) :
    StartsIn M ready cfg xs := by
  induction xs generalizing cfg with
  | nil => trivial
  | cons x xs ih => exact ⟨h _ _, ih _⟩

theorem StartsIn.and {M : System S σ ω η ε ρ Op} {ready ready' : Op → Snap S σ ω Op → Prop}
    {cfg : Config S σ ω ε ρ Op} {xs : List (Visit ω η Op)} (h : StartsIn M ready cfg xs)
    (h' : StartsIn M ready' cfg xs) :
    StartsIn M (fun op s => ready op s ∧ ready' op s) cfg xs := by
  induction xs generalizing cfg with
  | nil => trivial
  | cons x xs ih => exact ⟨⟨h.1, h'.1⟩, ih h.2 h'.2⟩

/-- What holds in every state reached holds when a call starts. -/
theorem startsIn_of_run {M : System S σ ω η ε ρ Op} {I : Snap S σ ω Op → Prop} {starts : Op → Prop}
    {cfg : Config S σ ω ε ρ Op} {xs : List (Visit ω η Op)}
    (h : ∀ ls : List (Label ω η Op), (∀ op, .spawn op ∈ ls → starts op) → I (cfg.run M ls).toSnap)
    (hxs : ∀ x ∈ xs, starts x.op) : StartsIn M (fun _ s => I s) cfg xs := by
  induction xs generalizing cfg with
  | nil => trivial
  | cons x xs ih =>
      have henv : ∀ op, .spawn op ∉ (x.before.map .env : List (Label ω η Op)) := by
        intro op hop
        obtain ⟨e, -, he⟩ := List.mem_map.mp hop
        cases he
      refine ⟨h _ fun op hop => absurd hop (henv op), ih (fun ls hls => ?_) fun y hy =>
        hxs y (List.mem_cons_of_mem _ hy)⟩
      rw [← Config.run_append, ← Config.run_append]
      refine h _ fun op hop => ?_
      rcases List.mem_append.mp hop with hop | hop
      · exact absurd hop (henv op)
      · rcases List.mem_append.mp hop with hop | hop
        · rcases List.mem_cons.mp hop with hop | hop
          · cases hop
            exact hxs x (List.mem_cons_self ..)
          · obtain ⟨o, -, ho⟩ := List.mem_map.mp hop
            cases ho
        · exact hls op hop

theorem starts_of_visits {M : System S σ ω η ε ρ Op} {D : Discipline S σ ω Op} {i : Nat}
    {cfg : Config S σ ω ε ρ Op} {xs : List (Visit ω η Op)} (h : D.admitsRun M cfg (visits i xs)) :
    ∀ x ∈ xs, D.starts x.op := by
  induction xs generalizing i cfg with
  | nil => exact fun _ hx => absurd hx List.not_mem_nil
  | cons x xs ih =>
      rw [visits, Discipline.admitsRun_append, Discipline.admitsRun_append] at h
      intro y hy
      rcases List.mem_cons.mp hy with rfl | hy
      · exact h.1.2.1
      · exact ih h.2 y hy

theorem Config.threads_env (M : System S σ ω η ε ρ Op) (cfg : Config S σ ω ε ρ Op) (es : List η) :
    (cfg.run M (es.map .env)).threads = cfg.threads := by
  induction es generalizing cfg with
  | nil => rfl
  | cons e es ih => exact ih _

theorem Config.length_steps (M : System S σ ω η ε ρ Op) (cfg : Config S σ ω ε ρ Op) (i : Nat)
    (answers : List ω) : (cfg.run M (steps i answers)).threads.length = cfg.threads.length := by
  induction answers generalizing cfg with
  | nil => rfl
  | cons o answers ih =>
      rw [steps, List.map_cons, run_cons]
      refine (ih _).trans ?_
      unfold Config.step
      dsimp only
      split
      · exact List.length_set
      · rfl

theorem Discipline.admitsRun_env {M : System S σ ω η ε ρ Op} (D : Discipline S σ ω Op)
    (cfg : Config S σ ω ε ρ Op) (es : List η) : D.admitsRun M cfg (es.map .env) := by
  induction es generalizing cfg with
  | nil => trivial
  | cons e es ih => exact ⟨trivial, ih _⟩

/-! ## One call -/

namespace Database

variable {R D W K ω E η ε ρ Op : Type} [DecidableEq K] {db : Database R D W K ω E}
  {move : η → D → D} {body : Op → Prog db.sig ε ρ}
  {C C₀ : Discipline db.sig (Store D W) ω Op} {i : Nat} {op : Op}
  {s : Snap db.sig (Store D W) ω Op}

/-- The outline of a call without others: where no command waits for a lock, the
condition allows it. -/
def solo (C : Discipline db.sig (Store D W) ω Op) : Outline db.sig (Store D W) ω Op where
  starts _ := False
  allows _ _ c o s := db.waits c o s.world = false
  inv s := db.StoreOk s.world ∧ Openers s
  pre i op c s := Own i c s ∧ ∀ o, db.waits c o s.world = false → C.allows i op c o s

/-- A database whose data nothing changes but its calls. -/
abbrev still (db : Database R D W K ω E) (body : Op → Prog db.sig ε ρ) :
    System db.sig (Store D W) ω (DbEnv Empty) ε ρ Op :=
  db.system (fun e _ => e.elim) body

theorem tracks_solo (C : Discipline db.sig (Store D W) ω Op) : Tracks (solo C) where
  store h := h.1
  openers h := h.2
  own h := h.1
  waits h := h

/-- What is known of the data and of the events, nobody changes. -/
theorem solo_stable (F : D → List (Event db.sig (Store D W) ω Op) → Prop) :
    Stable (db.still body) (solo C) i fun s => F s.world.data s.hist := by
  intro s s' h hs
  cases h with
  | env e _ =>
      cases e with
      | data e => exact e.elim
      | abort tx => exact hs
  | other _ hop _ _ _ => exact hop.elim

theorem solo_inTx (tx : Nat) (F : Session W → D → Prop) :
    Stable (db.still body) (solo C) i (InTx i tx F) := by
  intro s s' h ⟨hi, hs⟩
  cases h with
  | env e _ =>
      refine ⟨(Opened.persistent i tx).env hi e, fun ss hss => ?_⟩
      cases e with
      | data e => exact e.elim
      | abort tx' => exact hs ss (Store.session?_drop_some hss)
  | other _ hop _ _ _ => exact hop.elim

/-- The commands of the program are allowed when nothing interrupts it. -/
abbrev Meets {α : Type} (body : Op → Prog db.sig ε ρ) (C : Discipline db.sig (Store D W) ω Op)
    (i : Nat) (op : Op) (p : Prog db.sig ε α) (s : Snap db.sig (Store D W) ω Op) : Prop :=
  p.wp (db.still body) (solo C) i op (fun _ _ => True) (fun _ _ => True) s

theorem solo_exec {c : TxCmd R} {o : ω} (h : (solo C).inv s)
    (hwaits : db.waits c o s.world = false) :
    (solo C).inv (s.exec (db.system move body) i op c o) :=
  ⟨storeOk_step h.1 hwaits, openers_exec h.2 i op c o⟩

theorem solo_env (h : (solo C).inv s) (e : DbEnv η) :
    (solo C).inv (s.env (db.system move body) e) := by
  refine ⟨?_, openers_env h.2 e⟩
  rw [Snap.env_world]
  exact storeOk_env h.1 e

theorem solo_envs {cfg : Config db.sig (Store D W) ω ε ρ Op} (h : (solo C).inv cfg.toSnap)
    (es : List (DbEnv η)) : (solo C).inv (cfg.run (db.system move body) (es.map .env)).toSnap := by
  induction es generalizing cfg with
  | nil => exact h
  | cons e es ih => exact ih (solo_env h e)

theorem admitsRun_steps (hwaits : ∀ {i op c o s}, C₀.allows i op c o s → db.waits c o s.world = false)
    {p : Prog db.sig ε ρ} {cfg : Config db.sig (Store D W) ω ε ρ Op}
    (hth : cfg.threads[i]? = some ⟨op, p⟩) (hinv : (solo C).inv cfg.toSnap)
    (hp : Meets body C i op p cfg.toSnap) {answers : List ω}
    (h : C₀.admitsRun (db.system move body) cfg (steps i answers)) :
    C.admitsRun (db.system move body) cfg (steps i answers) ∧
      (solo C).inv (cfg.run (db.system move body) (steps i answers)).toSnap := by
  induction answers generalizing cfg p with
  | nil => exact ⟨trivial, hinv⟩
  | cons o answers ih =>
      obtain ⟨hfirst, hrest⟩ := h
      have hdone : cfg.step (db.system move body) (.step i o) = cfg →
          C.admits cfg (.step i o : Label ω (DbEnv η) Op) →
          C.admitsRun (db.system move body) cfg (steps i (o :: answers)) ∧
            (solo C).inv (cfg.run (db.system move body) (steps i (o :: answers))).toSnap := by
        intro hstep hadmits
        rw [hstep] at hrest
        obtain ⟨hadmits', hinv'⟩ := ih hth hinv hp hrest
        refine ⟨⟨hadmits, by rw [hstep]; exact hadmits'⟩, ?_⟩
        rw [steps, List.map_cons, Config.run_cons, hstep]
        exact hinv'
      cases p with
      | ret a =>
          refine hdone ?_ ?_
          · simp only [Config.step, hth]
          · simp only [Discipline.admits, hth]
      | err e =>
          refine hdone ?_ ?_
          · simp only [Config.step, hth]
          · simp only [Discipline.admits, hth]
      | call c k =>
          have hstep : cfg.step (db.system move body) (.step i o) =
              { toSnap := cfg.toSnap.exec (db.system move body) i op c o
                threads := cfg.threads.set i ⟨op, k (db.step c o cfg.world).1⟩ } := by
            simp only [Config.step, hth]
            rfl
          have hallowed : C₀.allows i op c o cfg.toSnap := by
            simpa only [Discipline.admits, hth] using hfirst
          have hfree : db.waits c o cfg.world = false := hwaits hallowed
          obtain ⟨⟨-, hpre⟩, hnext⟩ := hp cfg.toSnap .refl hinv
          have hinv' : (solo C).inv (cfg.toSnap.exec (db.system move body) i op c o) :=
            solo_exec hinv hfree
          have hth' : (cfg.step (db.system move body) (.step i o)).threads[i]? =
              some ⟨op, k (db.step c o cfg.world).1⟩ := by
            rw [hstep]
            simp [(List.getElem?_eq_some_iff.mp hth).1]
          obtain ⟨hadmits, hend⟩ := ih hth' (by rw [hstep]; exact hinv')
            (by rw [hstep]; exact hnext o hfree hinv') hrest
          refine ⟨⟨?_, hadmits⟩, hend⟩
          simp only [Discipline.admits, hth]
          exact hpre o hfree

/-- A call that starts in a state from which its commands are allowed. -/
theorem admitsRun_call (hwaits : ∀ {i op c o s}, C₀.allows i op c o s → db.waits c o s.world = false)
    (hstarts : C₀.starts op → C.starts op) {cfg : Config db.sig (Store D W) ω ε ρ Op}
    (hinv : (solo C).inv cfg.toSnap) {answers : List ω}
    (hbody : C₀.starts op → Meets body C cfg.threads.length op (body op) cfg.toSnap)
    (h : C₀.admitsRun (db.system move body) cfg (.spawn op :: steps cfg.threads.length answers)) :
    C.admitsRun (db.system move body) cfg (.spawn op :: steps cfg.threads.length answers) ∧
      (solo C).inv (cfg.run (db.system move body)
        (.spawn op :: steps cfg.threads.length answers)).toSnap := by
  obtain ⟨hop, hsteps⟩ := h
  have hth : (cfg.step (db.system move body) (.spawn op)).threads[cfg.threads.length]? =
      some ⟨op, body op⟩ := by
    simp [Config.step]
    rfl
  obtain ⟨hadmits, hend⟩ := admitsRun_steps hwaits hth hinv (hbody hop) hsteps
  exact ⟨⟨hstarts hop, hadmits⟩, hend⟩

/-- **One after another**: where every call by itself meets the condition, calls that
nothing interrupts meet it, whatever happens between them. -/
theorem admitsRun_visits {ready : Op → Snap db.sig (Store D W) ω Op → Prop}
    {cfg : Config db.sig (Store D W) ω ε ρ Op} (hinv : (solo C).inv cfg.toSnap)
    {xs : List (Visit ω (DbEnv η) Op)}
    (h : C₀.admitsRun (db.system move body) cfg (visits cfg.threads.length xs))
    (hready : StartsIn (db.system move body) ready cfg xs)
    (hwaits : ∀ {i op c o s}, C₀.allows i op c o s → db.waits c o s.world = false)
    (hstarts : ∀ op, C₀.starts op → C.starts op)
    (hbody : ∀ i op s, C₀.starts op → (solo C).inv s → ready op s → Meets body C i op (body op) s) :
    C.admitsRun (db.system move body) cfg (visits cfg.threads.length xs) := by
  induction xs generalizing cfg with
  | nil => trivial
  | cons x xs ih =>
      rw [visits] at h ⊢
      rw [Discipline.admitsRun_append, Discipline.admitsRun_append] at h ⊢
      obtain ⟨⟨-, hcall⟩, hrest⟩ := h
      obtain ⟨hfirst, hready⟩ := hready
      obtain ⟨cfg₁, hcfg₁⟩ : ∃ cfg₁, cfg₁ = cfg.run (db.system move body) (x.before.map .env) :=
        ⟨_, rfl⟩
      have hlen₁ : cfg.threads.length = cfg₁.threads.length := by
        rw [hcfg₁, Config.threads_env]
      have hinv₁ : (solo C).inv cfg₁.toSnap := hcfg₁ ▸ solo_envs hinv x.before
      rw [Config.run_append, ← hcfg₁] at hrest ⊢
      rw [← hcfg₁] at hcall hfirst hready
      rw [hlen₁] at hcall hrest hready ⊢
      obtain ⟨hadmits, hinv₂⟩ := admitsRun_call hwaits (hstarts x.op) hinv₁
        (fun hop => hbody _ _ _ hop hinv₁ hfirst) hcall
      have hlen₂ : cfg₁.threads.length + 1 = (cfg₁.run (db.system move body)
          (.spawn x.op :: steps cfg₁.threads.length x.answers)).threads.length := by
        rw [Config.run_cons, Config.length_steps]
        simp [Config.step]
      rw [hlen₂] at hrest
      refine ⟨⟨C.admitsRun_env _ _, hadmits⟩, ?_⟩
      rw [hlen₂]
      exact ih hinv₂ hrest hready

/-! ## Rules -/

section Rules

variable {α β : Type} {wrap : E → ε} {q : R} {tx : Nat}

theorem meets_throwIf {b : Bool} {e : ε} {f : Unit → Prog db.sig ε β}
    (h : b = false → Meets body C i op (f ()) s) :
    Meets body C i op (Prog.throwIf b e >>= f) s := by
  cases b with
  | true => exact fine_err
  | false => exact h rfl

/-- A statement by itself, in a state of the kind `F`. -/
theorem meets_query {F : D → List (Event db.sig (Store D W) ω Op) → Prop}
    {f : db.Ans q → Prog db.sig ε β} (hs : F s.world.data s.hist)
    (hallows : ∀ s o, F s.world.data s.hist → db.waits (.stmt none q) o s.world = false →
      C.allows i op (.stmt none q) o s)
    (hok : ∀ (s : Snap db.sig (Store D W) ω Op) o a,
      (solo C).inv (s.exec (db.still body) i op (.stmt none q) o) → F s.world.data s.hist →
      db.exec q o s.world.data = (.ok a, (db.exec q o s.world.data).2) →
      (s.exec (db.still body) i op (.stmt none q) o).world.data =
        db.applyAll (db.exec q o s.world.data).2 s.world.data →
      Meets body C i op (f a) (s.exec (db.still body) i op (.stmt none q) o)) :
    Meets body C i op (db.query wrap none q >>= f) s := by
  refine wp_query (solo_stable F) hs persistent_true (fun _ _ => trivial)
    (fun s _ hs => ⟨nofun, fun o => hallows s o hs⟩) fun s o a _ hs _ ha hinv => ?_
  obtain ⟨hexec, hstep⟩ := query_ok ha
  refine hok s o a hinv hs (Prod.ext hexec rfl) ?_
  rw [Snap.exec_world, show (db.still body).exec = db.step from rfl, hstep]

theorem meets_last {F : D → List (Event db.sig (Store D W) ω Op) → Prop}
    (hs : F s.world.data s.hist)
    (hallows : ∀ s o, F s.world.data s.hist → db.waits (.stmt none q) o s.world = false →
      C.allows i op (.stmt none q) o s) :
    Meets body C i op (db.query wrap none q) s := by
  rw [← Prog.bind_ret (db.query wrap none q)]
  exact meets_query hs hallows fun _ _ _ _ _ _ _ => fine_ret

/-- In transaction `tx` of the call: its commands are allowed, and what it returns
goes with `B`. -/
abbrev MeetsIn (body : Op → Prog db.sig ε ρ) (C : Discipline db.sig (Store D W) ω Op) (i : Nat)
    (op : Op) (tx : Nat) (p : Prog db.sig ε α) (B : α → Session W → D → Prop)
    (s : Snap db.sig (Store D W) ω Op) : Prop :=
  p.wp (db.still body) (solo C) i op (fun a => InTx i tx (B a)) (fun _ s => Opened i tx s ∧ True) s

variable {B : β → Session W → D → Prop} {F : Session W → D → Prop} {G : D → Prop}

/-- What is known of the transaction, and of the data whatever becomes of it. -/
structure Within (i tx : Nat) (F : Session W → D → Prop) (G : D → Prop)
    (s : Snap db.sig (Store D W) ω Op) : Prop where
  own : InTx i tx F s
  data : G s.world.data

theorem Within.stable (tx : Nat) (F : Session W → D → Prop) (G : D → Prop) :
    Stable (db.still body) (solo C) i (Within i tx F G) := fun s s' h hs =>
  ⟨solo_inTx tx F s s' h hs.own, solo_stable (fun d _ => G d) s s' h hs.data⟩

theorem meetsIn_ret {b : β} (hs : InTx i tx (B b) s) : MeetsIn body C i op tx (.ret b) B s :=
  Prog.wp_ret (solo_inTx tx (B b)) hs fun _ _ h => h

theorem meetsIn_err {e : ε} (hs : Opened i tx s) : MeetsIn body C i op tx (.err e) B s :=
  fun _ hs' _ => ((Opened.persistent i tx).and persistent_true).stable.star hs' ⟨hs, trivial⟩

theorem meetsIn_stmt {H : db.Ans q → Session W → D → Prop} {L : db.Ans q → D → Prop}
    {f : db.Ans q → Prog db.sig ε β} (hs : Within i tx F G s)
    (hallows : ∀ s o, G s.world.data → db.waits (.stmt (some tx) q) o s.world = false →
      C.allows i op (.stmt (some tx) q) o s)
    (hF : ∀ a o ss d, F ss d → G d → db.exec q o (db.applyAll ss.writes d) =
      (.ok a, (db.exec q o (db.applyAll ss.writes d)).2) →
      H a { ss with writes := ss.writes ++ (db.exec q o (db.applyAll ss.writes d)).2 } d ∧ L a d)
    (hok : ∀ a s, (solo C).inv s → Within i tx (H a) (L a) s →
      MeetsIn body C i op tx (f a) B s) :
    MeetsIn body C i op tx (db.query wrap (some tx) q >>= f) B s := by
  refine wp_query ((Within.stable tx F G).and persistent_true.stable) ⟨hs, trivial⟩
    ((Opened.persistent i tx).and persistent_true) (fun _ h => ⟨h.1.own.1, trivial⟩)
    (fun s _ h => ⟨h.1.own.1.own rfl, fun o => hallows s o h.1.data⟩)
    fun s o a _ h _ ha hinv' => hok a _ hinv' ⟨?_, ?_⟩
  · exact h.1.own.stmt ha fun ss _ _ hss hexec => (hF a o ss _ hss h.1.data (Prod.ext hexec rfl)).1
  · obtain ⟨ss, hss, -, hexec, -⟩ := stmt_ok ha
    show L a (db.step (.stmt (some tx) q) o s.world).2.data
    rw [data_stmt]
    exact (hF a o ss _ (h.1.own.2 ss hss) h.1.data (Prod.ext hexec rfl)).2

/-- A statement of transaction `tx` that keeps what it has written in `F`, or one beside
it that keeps the data in `G`. -/
def Keeps (db : Database R D W K ω E) (tx : Nat) (F : List W → Prop) (G : D → Prop) :
    TxCmd R → Prop
  | .stmt (some tx') q => tx' = tx ∧ ∀ ws o d, F ws → F (ws ++ (db.exec q o d).2)
  | .stmt none q => ∀ o d, G d → G (db.applyAll (db.exec q o d).2 d)
  | _ => False

theorem wp_keeps {p : Prog db.sig ε β} {P : TxCmd R → Prop} {F : List W → Prop} (hp : p.All P)
    (hkeeps : ∀ c, P c → db.Keeps tx F G c) (hs : Within i tx (fun ss _ => F ss.writes) G s)
    (hallows : ∀ c s o, P c → G s.world.data → db.waits c o s.world = false →
      C.allows i op c o s) :
    p.wp (db.still body) (solo C) i op (fun _ => Within i tx (fun ss _ => F ss.writes) G)
      (fun _ => Within i tx (fun ss _ => F ss.writes) G) s := by
  refine Prog.wp_keep hp (fun c hc s _ hs => ?_) ⟨Within.stable tx _ G, fun {s} hs c o hc => ?_⟩ hs
  · refine ⟨?_, fun o => hallows c s o hc hs.data⟩
    have hc' := hkeeps c hc
    cases c with
    | stmt t q =>
        cases t with
        | none => exact nofun
        | some tx' => exact hs.own.1.own (congrArg some hc'.1)
    | _ => exact hc'.elim
  · have hc' := hkeeps c hc
    cases c with
    | stmt t q =>
        cases t with
        | none =>
            refine ⟨⟨(Opened.persistent i tx).exec hs.own.1 .., fun ss hss => hs.own.2 ss ?_⟩, ?_⟩
            · rw [Store.session?, Snap.exec_world, show (db.still body).exec = db.step from rfl,
                sessions_query] at hss
              exact hss
            · rcases step_data db (.stmt none q) o s.world with hd | ⟨q', hq', -, hd⟩ | ⟨ss, hc, -⟩
              · exact hd.symm ▸ hs.data
              · cases hq'
                exact hd.symm ▸ hc' o _ hs.data
              · cases hc
        | some tx' =>
            obtain ⟨rfl, hF⟩ := hc'
            refine ⟨hs.own.goes fun ws d => hF ws o d, ?_⟩
            show G (db.step (.stmt (some tx') q) o s.world).2.data
            rw [data_stmt]
            exact hs.data
    | _ => exact hc'.elim

theorem meetsIn_keeps {p : Prog db.sig ε β} {P : TxCmd R → Prop} {F : List W → Prop}
    (hp : p.All P) (hkeeps : ∀ c, P c → db.Keeps tx F G c)
    (hs : Within i tx (fun ss _ => F ss.writes) G s)
    (hallows : ∀ c s o, P c → G s.world.data → db.waits c o s.world = false →
      C.allows i op c o s) :
    MeetsIn body C i op tx p (fun _ ss d => F ss.writes ∧ G d) s :=
  (wp_keeps hp hkeeps hs hallows).mono
    (fun _ _ _ h => ⟨h.own.1, fun ss hss => ⟨h.own.2 ss hss, h.data⟩⟩)
    fun _ _ _ h => ⟨h.own.1, trivial⟩

theorem meetsIn_of_all {p : Prog db.sig ε β} {P : R → Prop}
    (hp : p.All fun c : TxCmd R => ∃ q, c = .stmt (some tx) q ∧ P q) (hs : Opened i tx s)
    (hG : G s.world.data)
    (hallows : ∀ q s o, P q → G s.world.data → db.waits (.stmt (some tx) q) o s.world = false →
      C.allows i op (.stmt (some tx) q) o s) :
    MeetsIn body C i op tx p (fun _ _ _ => True) s := by
  refine (meetsIn_keeps (F := fun _ => True) hp ?_ ⟨⟨hs, fun _ _ => trivial⟩, hG⟩ ?_).mono
    (fun _ _ _ h => h.mono fun _ _ _ => trivial) fun _ _ _ h => h
  · rintro c ⟨q, rfl, -⟩
    exact ⟨rfl, fun _ _ _ h => h⟩
  · rintro c s o ⟨q, rfl, hq⟩ hG hwaits
    exact hallows q s o hq hG hwaits

/-- A transaction beside this one, which its statements do not name. -/
theorem meetsIn_nested {p : Nat → Prog db.sig ε α} {f : α → Prog db.sig ε β} {F : List W → Prop}
    (hinv : (solo C).inv s) (hs : InTx i tx (fun ss _ => F ss.writes) s)
    (hp : ∀ tx', (p tx').All fun c : TxCmd R => ∀ t, c.tx? = some t → t = tx')
    (h : Meets body C i op (db.transaction wrap p) s)
    (hok : ∀ a s, (solo C).inv s → InTx i tx (fun ss _ => F ss.writes) s →
      MeetsIn body C i op tx (f a) B s) :
    MeetsIn body C i op tx (db.transaction wrap p >>= f) B s := by
  have hstable : Stable (db.still body) (solo C) i (InTx i tx fun ss _ => F ss.writes) :=
    solo_inTx tx fun ss _ => F ss.writes
  have hcarried : Carried (db.still body) (solo C) i op (fun c : TxCmd R => c.tx? ≠ some tx)
      (InTx i tx fun ss _ => F ss.writes) :=
    ⟨hstable, fun hinv _ _ hs hc => InTx.besides (F := fun ss => F ss.writes) hs hinv.2 hc⟩
  refine Prog.wp_bind hinv ?_
  suffices hkept : (db.transaction wrap p).wp (db.still body) (solo C) i op
      (fun _ s => True ∧ InTx i tx (fun ss _ => F ss.writes) s)
      (fun _ s => True ∧ InTx i tx (fun ss _ => F ss.writes) s) s from
    hkept.mono (fun a s hinv hs => hok a s hinv hs.2) fun _ s _ hs => ⟨hs.2.1, trivial⟩
  intro s' hs' hinv'
  obtain ⟨hpre, hk⟩ := h s' hs' hinv'
  have hin := hstable.star hs' hs
  refine ⟨hpre, fun o ho hinv'' => ?_⟩
  have hin' : InTx i tx (fun ss _ => F ss.writes) (s'.exec (db.still body) i op .begin o) :=
    hcarried.own hinv' hpre ho hin nofun
  refine (hk o ho hinv'').frame_carried ?_ hcarried hin'
  cases hbegin : ((db.still body).exec .begin o s'.world).1 with
  | error e => trivial
  | ok tx' =>
      obtain ⟨rfl, -⟩ := begin_ok hbegin
      have hne : s'.world.next ≠ tx := Nat.ne_of_gt (hin.1.lt hinv'.2)
      refine ((hp _).mono fun c hc hctx => hne (hc tx hctx).symm).attempt.bind fun r => ?_
      cases r with
      | error e => exact ⟨fun h => hne (Option.some.inj h), fun _ => trivial⟩
      | ok a =>
          refine ⟨fun h => hne (Option.some.inj h), fun r => ?_⟩
          cases r <;> trivial

/-- A transaction: its body, and what it is to be when it commits. -/
theorem meets_transaction {p : Nat → Prog db.sig ε β} (hs : G s.world.data)
    (hends : ∀ s c o, (∀ t q, c ≠ .stmt t q) → (∀ tx, c ≠ .commit tx) →
      db.waits c o s.world = false → C.allows i op c o s)
    (hbody : ∀ s tx, (solo C).inv s →
      Within i tx (fun ss _ => ss.writes = [] ∧ ss.failed = false) G s →
      MeetsIn body C i op tx (p tx) B s)
    (hcommit : ∀ s tx b o, InTx i tx (B b) s → db.waits (.commit tx) o s.world = false →
      C.allows i op (.commit tx) o s) :
    Meets body C i op (db.transaction wrap p) s := by
  refine wp_transaction_of (B := fun tx b => InTx i tx (B b)) (G := fun _ => True)
    (tracks_solo C) (solo_stable fun d _ => G d) hs persistent_true (fun _ _ => trivial)
    (fun s _ _ => ⟨nofun, fun o => hends s _ o nofun nofun⟩) (fun s o _ hs _ => ?_)
    (fun s tx _ h => ⟨h.own rfl, fun o => hends s _ o nofun nofun⟩)
    (fun s tx b _ h => ⟨h.1.own rfl, fun o => hcommit s tx b o h⟩)
    (fun tx b => solo_inTx tx (B b)) (fun _ _ _ _ => trivial)
    (fun s tx hinv hs hin => hbody s tx hinv ⟨hin, hs⟩) fun s tx b o _ _ _ _ _ => fine_ret
  show G (db.step .begin o s.world).2.data
  rcases step_data db .begin o s.world with hd | ⟨q, hq, -⟩ | ⟨ss, hc, -⟩
  · rw [hd]
    exact hs
  · cases hq
  · cases hc

end Rules

end Database

end Conc
