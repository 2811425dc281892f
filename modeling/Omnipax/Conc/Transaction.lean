import Omnipax.Conc.Store

/-!
# Transactions of a call

A pool of calls over a `Database`: commands are single statements, and the
statements, commits and rollbacks of interactive transactions. A transaction
belongs to the call that has begun it (`Openers`), so while it is open a call
knows its writes, and of the committed data all that its locks protect
(`InTx`).
-/

namespace Conc

/-- Data change by themselves, or the database gives up a transaction: its
connection is lost, or its time is over. -/
inductive DbEnv (η : Type) where
  | data (e : η)
  | abort (tx : Nat)

namespace Database

variable {R D W K ω E η ε ρ Op : Type}

def system (db : Database R D W K ω E) (move : η → D → D) (body : Op → Prog db.sig ε ρ) :
    System db.sig (Store D W) ω (DbEnv η) ε ρ Op where
  exec := db.step
  env
    | .data e, s => { s with data := move e s.data }
    | .abort tx, s => s.drop tx
  body := body

variable {db : Database R D W K ω E} {move : η → D → D} {body : Op → Prog db.sig ε ρ}
  {s : Snap db.sig (Store D W) ω Op} {i j tx : Nat}

theorem storeOk_env {w : Store D W} (h : db.StoreOk w) (e : DbEnv η) :
    db.StoreOk ((db.system move body).env e w) := by
  cases e with
  | data e => exact ⟨h.ids, h.fresh, h.exclusive⟩
  | abort tx =>
      have hmem : ∀ {ss}, ss ∈ (w.drop tx).sessions → ss ∈ w.sessions :=
        fun hss => (List.mem_filter.mp hss).1
      exact ⟨h.ids.sublist (List.filter_sublist.map _), fun ss hss => h.fresh ss (hmem hss),
        fun ss hss ss' hss' => h.exclusive ss (hmem hss) ss' (hmem hss')⟩

/-- Call `i` has opened transaction `tx`. -/
def Opened (i tx : Nat) (s : Snap db.sig (Store D W) ω Op) : Prop :=
  ∃ e ∈ s.hist, e.tid = i ∧ e.cmd = .begin ∧ e.before.next = tx

/-- The command names no transaction but those its call has opened. -/
def Own (i : Nat) (c : TxCmd R) (s : Snap db.sig (Store D W) ω Op) : Prop :=
  ∀ tx, c.tx? = some tx → Opened i tx s

theorem Opened.own {c : TxCmd R} (h : Opened i tx s) (hc : c.tx? = some tx) : Own i c s := by
  intro tx' htx'
  obtain rfl := Option.some.inj (hc.symm.trans htx')
  exact h

/-- The numbers of transactions are drawn once. So whatever the history says of a number,
one call has opened it, and no other call can use it. -/
structure Openers (s : Snap db.sig (Store D W) ω Op) : Prop where
  lt : ∀ e ∈ s.hist, e.cmd = .begin → e.before.next < s.world.next
  one : ∀ e ∈ s.hist, ∀ e' ∈ s.hist, e.cmd = .begin → e'.cmd = .begin →
    e.before.next = e'.before.next → e.tid = e'.tid

theorem openers_idle (w : Store D W) : Openers (⟨w, []⟩ : Snap db.sig (Store D W) ω Op) where
  lt _ he := by cases he
  one _ he := by cases he

theorem openers_exec (h : Openers s) (i : Nat) (op : Op) (c : TxCmd R) (o : ω) :
    Openers (s.exec (db.system move body) i op c o) := by
  have hle : s.world.next ≤ (db.step c o s.world).2.next := le_next_step c o s.world
  have hlt : ∀ e ∈ s.hist, e.cmd = .begin → e.before.next < (db.step c o s.world).2.next :=
    fun e he hc => Nat.lt_of_lt_of_le (h.lt e he hc) hle
  refine ⟨fun e he hc => ?_, fun e he e' he' hc hc' hn => ?_⟩
  · rcases List.mem_cons.mp he with rfl | he
    · obtain rfl : c = .begin := hc
      show s.world.next < (db.step .begin o s.world).2.next
      rw [next_begin]
      omega
    · exact hlt e he hc
  · rcases List.mem_cons.mp he with rfl | he
    · rcases List.mem_cons.mp he' with rfl | he'
      · rfl
      · have := h.lt e' he' hc'
        simp only at hn
        omega
    · rcases List.mem_cons.mp he' with rfl | he'
      · have := h.lt e he hc
        simp only at hn
        omega
      · exact h.one e he e' he' hc hc' hn

theorem openers_env (h : Openers s) (e : DbEnv η) : Openers (s.env (db.system move body) e) := by
  cases e <;> exact ⟨h.lt, h.one⟩

theorem Opened.persistent (i tx : Nat) : Persistent (db.system move body) (Opened i tx) where
  exec h _ _ _ _ := by
    obtain ⟨e, he, h⟩ := h
    exact ⟨e, List.mem_cons_of_mem _ he, h⟩
  env h _ := h

theorem Opened.intro (i : Nat) (op : Op) (o : ω) :
    Opened i s.world.next (s.exec (db.system move body) i op .begin o) :=
  ⟨_, List.mem_cons_self .., rfl, rfl, rfl⟩

theorem Opened.lt (h : Opened i tx s) (hs : Openers s) : tx < s.world.next := by
  obtain ⟨e, he, -, hc, rfl⟩ := h
  exact hs.lt e he hc

/-- A command that does not name a transaction leaves it as it is. -/
theorem session?_step {w : Store D W} {c : TxCmd R} {o : ω} (hlt : tx < w.next)
    (hc : c.tx? ≠ some tx) {ss : Session W} (h : (db.step c o w).2.session? tx = some ss) :
    w.session? tx = some ss := by
  have hne : ∀ {tx'}, c.tx? = some tx' → tx' ≠ tx := fun h heq => hc (heq ▸ h)
  rw [Store.session?] at h
  generalize hsess : (db.step c o w).2.sessions = l at h
  have hstep := step_sessions db c o w
  rw [hsess] at hstep
  cases hstep with
  | same => exact h
  | start _ => exact (Store.session?_start_of_lt hlt).symm.trans h
  | drop tx' hc' => exact (Store.session?_drop (hne hc')).symm.trans h
  | fail tx' hc' =>
      have hfail : (w.fail tx').session? tx = _ := Store.session?_fail
      rw [if_neg (hne hc').symm] at hfail
      exact hfail.symm.trans h
  | @write ss' q hc' _ _ =>
      have hwrite : (w.write ss'.id (db.wants (some ss'.id) q o w)).session? tx = _ :=
        Store.session?_write _
      rw [if_neg (hne (by rw [hc']; rfl)).symm] at hwrite
      exact hwrite.symm.trans h

/-- A transaction that is there after a command was there before, and has at most
one statement more. -/
theorem session?_of_step {w : Store D W} {c : TxCmd R} {o : ω} (hlt : tx < w.next) {ss : Session W}
    (h : (db.step c o w).2.session? tx = some ss) :
    ∃ ss₀ ws, w.session? tx = some ss₀ ∧ ss.writes = ss₀.writes ++ ws := by
  have hwas : w.session? tx = some ss → ∃ ss₀ ws, w.session? tx = some ss₀ ∧
      ss.writes = ss₀.writes ++ ws :=
    fun h => ⟨ss, [], h, (List.append_nil _).symm⟩
  by_cases hc : c.tx? = some tx
  · rw [Store.session?] at h
    generalize hsess : (db.step c o w).2.sessions = l at h
    have hstep := step_sessions db c o w
    rw [hsess] at hstep
    cases hstep with
    | same => exact hwas h
    | start _ => exact hwas ((Store.session?_start_of_lt hlt).symm.trans h)
    | drop tx' _ => exact hwas (Store.session?_drop_some h)
    | fail tx' hc' =>
        have hfail : (w.fail tx').session? tx = some ss := h
        obtain rfl := Option.some.inj (hc'.symm.trans hc)
        rw [Store.session?_fail, if_pos rfl] at hfail
        obtain ⟨ss₀, hss₀, rfl⟩ := Option.map_eq_some_iff.mp hfail
        exact ⟨ss₀, [], hss₀, (List.append_nil _).symm⟩
    | @write ss' q hc' hss' _ =>
        have hwrite : (w.write ss'.id (db.wants (some ss'.id) q o w)).session? tx = some ss := h
        rw [hc'] at hc
        obtain rfl := Option.some.inj hc
        rw [Store.session?_write, if_pos rfl] at hwrite
        obtain ⟨ss₀, hss₀, rfl⟩ := Option.map_eq_some_iff.mp hwrite
        exact ⟨ss₀, _, hss₀, rfl⟩
  · exact hwas (session?_step hlt hc h)

theorem ne_of_other (hs : Openers s) (hi : Opened i tx s) (hij : j ≠ i) {c : TxCmd R}
    (hj : Own j c s) : c.tx? ≠ some tx := by
  intro hc
  obtain ⟨e, he, rfl, hbegin, hn⟩ := hi
  obtain ⟨e', he', rfl, hbegin', hn'⟩ := hj tx hc
  exact hij (hs.one e' he' e he hbegin' hbegin (hn'.trans hn.symm))

/-- What call `i` knows of its transaction `tx` while it is open. -/
def InTx (i tx : Nat) (F : Session W → D → Prop) (s : Snap db.sig (Store D W) ω Op) : Prop :=
  Opened i tx s ∧ ∀ ss, s.world.session? tx = some ss → F ss s.world.data

/-! ### Programs -/

section Programs

variable {α : Type} (db : Database R D W K ω E) (wrap : E → ε)

def query (tx : Option Nat) (q : R) : Prog db.sig ε (db.Ans q) :=
  .call (.stmt tx q) fun
    | .ok a => .ret a
    | .error e => .err (wrap e)

/-- An interactive transaction: committed when its body returns, rolled back
when it throws. -/
def transaction (p : Nat → Prog db.sig ε α) : Prog db.sig ε α :=
  .call .begin fun
    | .error e => .err (wrap e)
    | .ok tx => (p tx).attempt >>= fun
        | .error e => .call (.rollback tx) fun _ => .err e
        | .ok a => .call (.commit tx) fun
            | .ok _ => .ret a
            | .error e => .err (wrap e)

variable {db} {wrap}

/-- All statements of a command are of a kind. -/
def Stmts (P : R → Prop) : TxCmd R → Prop
  | .stmt _ q => P q
  | _ => True

theorem Stmts.mono {P P' : R → Prop} (h : ∀ q, P q → P' q) : ∀ c, Stmts P c → Stmts P' c := by
  intro c hc
  cases c with
  | stmt t q => exact h q hc
  | _ => trivial

theorem all_query {P : R → Prop} {t : Option Nat} {q : R} (h : P q) :
    (db.query wrap t q).All (Stmts P) := by
  refine ⟨h, fun r => ?_⟩
  cases r <;> trivial

theorem all_transaction {P : R → Prop} {p : Nat → Prog db.sig ε α}
    (h : ∀ tx, (p tx).All (Stmts P)) : (db.transaction wrap p).All (Stmts P) := by
  refine ⟨trivial, fun r => ?_⟩
  cases r with
  | error e => trivial
  | ok tx =>
      refine (h tx).attempt.bind fun r => ?_
      cases r with
      | error e => exact ⟨trivial, fun _ => trivial⟩
      | ok a => exact ⟨trivial, fun r => by cases r <;> trivial⟩

end Programs

/-! ### Answers -/

section Answers

variable {w : Store D W} {q : R} {o : ω}

theorem begin_ok (h : (db.step .begin o w).1 = .ok tx) :
    tx = w.next ∧ (db.step .begin o w).2 = w.start := by
  simp only [step] at h ⊢
  split at h
  · exact ⟨(Except.ok.inj h).symm, rfl⟩
  · cases h
  · cases h

theorem query_ok {a : db.Ans q} (h : (db.step (.stmt none q) o w).1 = .ok a) :
    (db.exec q o w.data).1 = .ok a ∧
      (db.step (.stmt none q) o w).2
        = { w with data := db.applyAll (db.exec q o w.data).2 w.data } := by
  simp only [step, autocommit] at h ⊢
  split at h
  · exact ⟨h, rfl⟩
  · cases h
  · cases h

theorem data_stmt : (db.step (.stmt (some tx) q) o w).2.data = w.data := by
  rcases step_data db (.stmt (some tx) q) o w with hd | ⟨q', hq', -⟩ | ⟨ss, hc, -⟩
  · exact hd
  · cases hq'
  · cases hc

theorem sessions_query : (db.step (.stmt none q) o w).2.sessions = w.sessions := by
  simp only [step, autocommit]
  split <;> rfl

theorem stmt_ok {a : db.Ans q} (h : (db.step (.stmt (some tx) q) o w).1 = .ok a) :
    ∃ ss, w.session? tx = some ss ∧ ss.failed = false ∧
      (db.exec q o (db.applyAll ss.writes w.data)).1 = .ok a ∧
      (db.step (.stmt (some tx) q) o w).2
        = w.write tx (db.exec q o (db.applyAll ss.writes w.data)).2 := by
  simp only [step] at h ⊢
  cases hss : w.session? tx with
  | none =>
      rw [hss] at h
      cases h
  | some ss =>
      obtain ⟨-, rfl⟩ := Store.mem_of_session? hss
      rw [hss] at h
      simp only [stmtIn] at h ⊢
      split at h
      · cases h
      · rename_i hgo
        split at h
        · cases h
        · split at h
          · rename_i b ws hexec
            obtain rfl := Except.ok.inj h
            refine ⟨ss, rfl, by simpa using hgo, by rw [hexec], ?_⟩
            rw [if_neg hgo, hexec]
          · cases h

theorem begin_error {e : E} (h : (db.step .begin o w).1 = .error e) : e = db.gone := by
  simp only [step] at h
  split at h
  · cases h
  · exact (Except.error.inj h).symm
  · exact (Except.error.inj h).symm

/-- A statement fails because it is lost, or with an error of its own. -/
theorem query_error {e : E} (h : (db.step (.stmt none q) o w).1 = .error e) :
    e = db.gone ∨ (db.exec q o w.data).1 = .error e := by
  simp only [step, autocommit] at h
  split at h
  · exact Or.inr h
  · exact Or.inl (Except.error.inj h).symm
  · exact Or.inl (Except.error.inj h).symm

theorem stmt_error {e : E} (h : (db.step (.stmt (some tx) q) o w).1 = .error e) :
    e = db.gone ∨ ∃ ss, w.session? tx = some ss ∧
      (db.exec q o (db.applyAll ss.writes w.data)).1 = .error e := by
  simp only [step] at h
  split at h
  · exact Or.inl (Except.error.inj h).symm
  · rename_i ss hss
    unfold stmtIn at h
    split at h
    · exact Or.inl (Except.error.inj h).symm
    · split at h
      · exact Or.inl (Except.error.inj h).symm
      · split at h
        · cases h
        · rename_i e' ws hexec
          obtain rfl := Except.error.inj h
          exact Or.inr ⟨ss, hss, by rw [hexec]⟩

theorem commit_ok {u : Unit} (h : (db.step (.commit tx) o w).1 = .ok u) :
    ∃ ss, w.session? tx = some ss ∧ (ss.failed = false →
      (db.step (.commit tx) o w).2
        = { w.drop tx with data := db.applyAll ss.writes w.data }) := by
  simp only [step] at h ⊢
  cases hss : w.session? tx with
  | none =>
      rw [hss] at h
      cases h
  | some ss =>
      obtain ⟨-, rfl⟩ := Store.mem_of_session? hss
      rw [hss] at h
      refine ⟨ss, rfl, fun hgo => ?_⟩
      simp only [commit, hgo, Bool.false_eq_true, if_false] at h ⊢
      split at h
      · rfl
      · cases h
      · cases h

end Answers

/-! ### Rules -/

variable {db : Database R D W K ω E} {move : η → D → D} {body : Op → Prog db.sig ε ρ}
  {O : Outline db.sig (Store D W) ω Op} {s : Snap db.sig (Store D W) ω Op} {i tx : Nat} {op : Op}
  {F : Session W → D → Prop}

theorem InTx.mono {F' : Session W → D → Prop} (h : InTx i tx F s) (hF : ∀ ss d, F ss d → F' ss d) :
    InTx i tx F' s :=
  ⟨h.1, fun ss hss => hF ss _ (h.2 ss hss)⟩

/-- The outline keeps track of locks and of who has opened what. -/
structure Tracks [DecidableEq K] (O : Outline db.sig (Store D W) ω Op) : Prop where
  store : ∀ {s}, O.inv s → db.StoreOk s.world
  openers : ∀ {s}, O.inv s → Openers s
  own : ∀ {i op c s}, O.pre i op c s → Own i c s
  waits : ∀ {i op c o s}, O.allows i op c o s → db.waits c o s.world = false

/-- Other calls keep what is known of a transaction, when writes under other
keys and the environment do. -/
theorem InTx.stable [DecidableEq K] (hO : Tracks O)
    (hF : ∀ ss w d, (∀ k ∈ db.keys w, ¬db.holds ss k) → F ss d → F ss (db.apply w d))
    (henv : ∀ ss e d, F ss d → F ss (move e d)) :
    Stable (db.system move body) O i (InTx i tx F) := by
  intro s s' h ⟨hi, hs⟩
  cases h with
  | env e hinv =>
      refine ⟨(Opened.persistent i tx).env hi e, fun ss hss => ?_⟩
      cases e with
      | data e => exact henv ss e _ (hs ss hss)
      | abort tx' => exact hs ss (Store.session?_drop_some hss)
  | @other j op c o hj _ hinv hpre hallows =>
      refine ⟨(Opened.persistent i tx).exec hi j op c o, fun ss hss => ?_⟩
      have hne := ne_of_other (hO.openers hinv) hi hj (hO.own hpre)
      have hss' : s.world.session? tx = some ss :=
        session?_step (hi.lt (hO.openers hinv)) hne hss
      obtain ⟨hmem, rfl⟩ := Store.mem_of_session? hss'
      exact frozen_step (hO.store hinv) hmem (hF ss) (hO.waits hallows)
        (fun hc => hne (by rw [hc]; rfl)) (hs ss hss')

theorem InTx.begin {o : ω} (hO : db.StoreOk s.world) (h : (db.step .begin o s.world).1 = .ok tx) :
    InTx i tx (fun ss _ => ss.writes = [] ∧ ss.failed = false)
      (s.exec (db.system move body) i op .begin o) := by
  obtain ⟨rfl, hstart⟩ := begin_ok h
  refine ⟨Opened.intro i op o, fun ss hss => ?_⟩
  rw [Snap.exec_world, show (db.system move body).exec = db.step from rfl, hstart] at hss
  obtain ⟨hmem, hid⟩ := Store.mem_of_session? hss
  rcases List.mem_append.mp hmem with hmem | hmem
  · have := hO.fresh ss hmem
    omega
  · obtain rfl := List.mem_singleton.mp hmem
    exact ⟨rfl, rfl⟩

theorem InTx.stmt {F' : Session W → D → Prop} {q : R} {o : ω} {a : db.Ans q}
    (h : InTx i tx F s) (hok : (db.step (.stmt (some tx) q) o s.world).1 = .ok a)
    (hF : ∀ ss, s.world.session? tx = some ss → ss.failed = false → F ss s.world.data →
      (db.exec q o (db.applyAll ss.writes s.world.data)).1 = .ok a →
      F' { ss with writes := ss.writes ++
        (db.exec q o (db.applyAll ss.writes s.world.data)).2 } s.world.data) :
    InTx i tx F' (s.exec (db.system move body) i op (.stmt (some tx) q) o) := by
  obtain ⟨ss, hss, hgo, hexec, hstep⟩ := stmt_ok hok
  refine ⟨(Opened.persistent i tx).exec h.1 .., fun ss' hss' => ?_⟩
  rw [Snap.exec_world, show (db.system move body).exec = db.step from rfl, hstep] at hss' ⊢
  rw [Store.session?_write, if_pos rfl, hss] at hss'
  obtain rfl := Option.some.inj hss'
  exact hF ss hss hgo (h.2 ss hss) hexec

/-- What a transaction that goes on has written. -/
abbrev Wrote (F : List W → Prop) (ss : Session W) (_ : D) : Prop := F ss.writes ∧ ss.failed = false

theorem Wrote.stable [DecidableEq K] (hO : Tracks O) (F : List W → Prop) :
    Stable (db.system move body) O i (InTx i tx (Wrote F)) :=
  InTx.stable hO (fun _ _ _ _ h => h) fun _ _ _ h => h

theorem InTx.wrote {F F' : List W → Prop} {q : R} {o : ω} {a : db.Ans q}
    (h : InTx i tx (Wrote F) s) (hok : (db.step (.stmt (some tx) q) o s.world).1 = .ok a)
    (hF : ∀ ws ws', F ws → db.exec q o (db.applyAll ws s.world.data) = (.ok a, ws') →
      F' (ws ++ ws')) :
    InTx i tx (Wrote F') (s.exec (db.system move body) i op (.stmt (some tx) q) o) :=
  h.stmt hok fun _ _ hgo hws hexec => ⟨hF _ _ hws.1 (Prod.ext hexec rfl), hgo⟩

theorem InTx.goes {F : List W → Prop} {q : R} {o : ω} (h : InTx i tx (fun ss _ => F ss.writes) s)
    (hF : ∀ ws d, F ws → F (ws ++ (db.exec q o d).2)) :
    InTx i tx (fun ss _ => F ss.writes) (s.exec (db.system move body) i op (.stmt (some tx) q) o) := by
  refine ⟨(Opened.persistent i tx).exec h.1 .., fun ss hss => ?_⟩
  have hold : ∀ {ss'}, s.world.session? tx = some ss' → F ss'.writes := h.2 _
  rw [Snap.exec_world, show (db.system move body).exec = db.step from rfl] at hss
  generalize hsess : (db.step (.stmt (some tx) q) o s.world).2.sessions = l at hss
  rw [Store.session?, hsess] at hss
  have hstep := step_sessions db (.stmt (some tx) q) o s.world
  rw [hsess] at hstep
  cases hstep with
  | same => exact hold hss
  | start hc => cases hc
  | drop tx' _ => exact hold (Store.session?_drop_some hss)
  | fail tx' hc =>
      obtain rfl := Option.some.inj hc
      have hfail := Store.session?_fail.symm.trans hss
      rw [if_pos rfl] at hfail
      obtain ⟨ss', hss', rfl⟩ := Option.map_eq_some_iff.mp hfail
      exact h.2 ss' hss'
  | @write ss₁ q' hc hss₁ _ =>
      obtain ⟨htx, rfl⟩ := TxCmd.stmt.inj hc
      obtain rfl := Option.some.inj htx
      have hwrite := (Store.session?_write _).symm.trans hss
      rw [if_pos rfl, hss₁] at hwrite
      obtain rfl := Option.some.inj hwrite
      show F (ss₁.writes ++ db.wants (some ss₁.id) q o s.world)
      rw [wants, hss₁]
      dsimp only
      split
      · rw [List.append_nil]
        exact hold hss₁
      · exact hF _ _ (hold hss₁)

theorem InTx.besides {F : Session W → Prop} {c : TxCmd R} {o : ω}
    (h : InTx i tx (fun ss _ => F ss) s) (hs : Openers s) (hc : c.tx? ≠ some tx) :
    InTx i tx (fun ss _ => F ss) (s.exec (db.system move body) i op c o) :=
  ⟨(Opened.persistent i tx).exec h.1 .., fun ss hss => h.2 ss (session?_step (h.1.lt hs) hc hss)⟩

theorem InTx.beside {F : List W → Prop} {c : TxCmd R} {o : ω} (h : InTx i tx (Wrote F) s)
    (hs : Openers s) (hc : c.tx? ≠ some tx) :
    InTx i tx (Wrote F) (s.exec (db.system move body) i op c o) :=
  InTx.besides (F := fun ss => F ss.writes ∧ ss.failed = false) h hs hc

section Wp

variable {α β : Type} {wrap : E → ε} {Q : β → Snap db.sig (Store D W) ω Op → Prop}
  {G H : Snap db.sig (Store D W) ω Op → Prop}

theorem wp_query {t : Option Nat} {q : R} {f : db.Ans q → Prog db.sig ε β}
    (hH : Stable (db.system move body) O i H) (hs : H s) (hG : Persistent (db.system move body) G)
    (hHG : ∀ s, H s → G s) (hpre : ∀ s, O.inv s → H s → O.pre i op (.stmt t q) s)
    (hok : ∀ s o a, O.inv s → H s → O.allows i op (.stmt t q) o s →
      (db.step (.stmt t q) o s.world).1 = .ok a →
      O.inv (s.exec (db.system move body) i op (.stmt t q) o) →
      (f a).wp (db.system move body) O i op Q (fun _ => G)
        (s.exec (db.system move body) i op (.stmt t q) o)) :
    (db.query wrap t q >>= f).wp (db.system move body) O i op Q (fun _ => G) s := by
  refine Prog.wp_call hH hs hpre fun s o hinv hHs hallows hinv' => ?_
  cases h : ((db.system move body).exec (.stmt t q) o s.world).1 with
  | ok a => exact hok s o a hinv hHs hallows h hinv'
  | error e => exact fun s' hs' _ => hG.stable.star hs' (hG.exec (hHG s hHs) ..)

/-- The same with a fact that the statement keeps, whether it is answered or not. -/
theorem wp_query_kept {t : Option Nat} {q : R} {f : db.Ans q → Prog db.sig ε β}
    {F : Snap db.sig (Store D W) ω Op → Prop} {Pc : TxCmd R → Prop}
    (hH : Stable (db.system move body) O i H) (hs : H s)
    (hF : Kept (db.system move body) O i op Pc F) (hHF : ∀ s, H s → F s) (hc : Pc (.stmt t q))
    (hpre : ∀ s, O.inv s → H s → O.pre i op (.stmt t q) s)
    (hok : ∀ s o a, O.inv s → H s → (db.step (.stmt t q) o s.world).1 = .ok a →
      O.inv (s.exec (db.system move body) i op (.stmt t q) o) →
      F (s.exec (db.system move body) i op (.stmt t q) o) →
      (f a).wp (db.system move body) O i op Q (fun _ => F)
        (s.exec (db.system move body) i op (.stmt t q) o)) :
    (db.query wrap t q >>= f).wp (db.system move body) O i op Q (fun _ => F) s := by
  refine Prog.wp_call hH hs hpre fun s o hinv hHs _ hinv' => ?_
  have hafter := hF.own (hHF s hHs) (.stmt t q) o hc
  cases h : ((db.system move body).exec (.stmt t q) o s.world).1 with
  | ok a => exact hok s o a hinv hHs h hinv' hafter
  | error e => exact fun s' hs' _ => hF.stable.star hs' hafter

theorem wp_stmt {q : R} {f : db.Ans q → Prog db.sig ε β} (hG : Persistent (db.system move body) G)
    (hF : Stable (db.system move body) O i (InTx i tx F)) (hs : InTx i tx F s) (hGs : G s)
    (hpre : ∀ s, O.inv s → InTx i tx F s → O.pre i op (.stmt (some tx) q) s)
    (hok : ∀ s o a, O.inv s → InTx i tx F s → G s → O.allows i op (.stmt (some tx) q) o s →
      (db.step (.stmt (some tx) q) o s.world).1 = .ok a →
      (f a).wp (db.system move body) O i op Q (fun _ s => Opened i tx s ∧ G s)
        (s.exec (db.system move body) i op (.stmt (some tx) q) o)) :
    (db.query wrap (some tx) q >>= f).wp (db.system move body) O i op Q
      (fun _ s => Opened i tx s ∧ G s) s :=
  wp_query (hF.and hG.stable) ⟨hs, hGs⟩ ((Opened.persistent i tx).and hG)
    (fun _ h => ⟨h.1.1, h.2⟩) (fun s hinv h => hpre s hinv h.1)
    fun s o a hinv h hallows hok' _ => hok s o a hinv h.1 h.2 hallows hok'

/-- The same where what it has written is all that is known of the
transaction. -/
theorem wp_wrote [DecidableEq K] {F H : List W → Prop} {q : R} {f : db.Ans q → Prog db.sig ε β}
    (hO : Tracks O) (hG : Persistent (db.system move body) G) (hs : InTx i tx (Wrote F) s)
    (hGs : G s) (hpre : ∀ s, O.inv s → InTx i tx (Wrote F) s → O.pre i op (.stmt (some tx) q) s)
    (hF : ∀ a o d ws ws', F ws → db.exec q o d = (.ok a, ws') → H (ws ++ ws'))
    (hok : ∀ a s, O.inv s → InTx i tx (Wrote H) s → G s →
      (f a).wp (db.system move body) O i op Q (fun _ s => Opened i tx s ∧ G s) s) :
    (db.query wrap (some tx) q >>= f).wp (db.system move body) O i op Q
      (fun _ s => Opened i tx s ∧ G s) s :=
  wp_query ((Wrote.stable hO F).and hG.stable) ⟨hs, hGs⟩ ((Opened.persistent i tx).and hG)
    (fun _ h => ⟨h.1.1, h.2⟩) (fun s hinv h => hpre s hinv h.1)
    fun _ o a _ h _ ha hinv => hok a _ hinv
      (h.1.wrote ha fun ws ws' hws hexec => hF a o _ ws ws' hws hexec) (hG.exec h.2 ..)

/-- A transaction: its body, and then what its commit achieves. What is known before
need not last: the body is where it is put to use. -/
theorem wp_transaction_of [DecidableEq K] {p : Nat → Prog db.sig ε β}
    {B : Nat → β → Snap db.sig (Store D W) ω Op → Prop} (hO : Tracks O)
    (hH : Stable (db.system move body) O i H) (hs : H s) (hG : Persistent (db.system move body) G)
    (hHG : ∀ s, H s → G s) (hbegin : ∀ s, O.inv s → H s → O.pre i op .begin s)
    (hstart : ∀ s o, O.inv s → H s → O.allows i op .begin o s →
      H (s.exec (db.system move body) i op .begin o))
    (hrollback : ∀ s tx, O.inv s → Opened i tx s → O.pre i op (.rollback tx) s)
    (hpre : ∀ s tx a, O.inv s → B tx a s → O.pre i op (.commit tx) s)
    (hB : ∀ tx a, Stable (db.system move body) O i (B tx a))
    (hBG : ∀ tx a s, B tx a s → G s)
    (hbody : ∀ s tx, O.inv s → H s → InTx i tx (fun ss _ => ss.writes = [] ∧ ss.failed = false) s →
      (p tx).wp (db.system move body) O i op (B tx)
        (fun _ s => Opened i tx s ∧ G s) s)
    (hcommit : ∀ s tx a o, O.inv s → B tx a s → O.allows i op (.commit tx) o s →
      (db.step (.commit tx) o s.world).1 = .ok () →
      O.inv (s.exec (db.system move body) i op (.commit tx) o) →
      (Prog.ret a : Prog db.sig ε β).wp (db.system move body) O i op Q (fun _ => G)
        (s.exec (db.system move body) i op (.commit tx) o)) :
    (db.transaction wrap p).wp (db.system move body) O i op Q (fun _ => G) s := by
  have hthrow : ∀ (e : ε) s, G s → (Prog.err e : Prog db.sig ε β).wp (db.system move body) O i op Q
      (fun _ => G) s :=
    fun e s hs s' hs' _ => hG.stable.star hs' hs
  refine Prog.wp_call hH hs hbegin fun s o hinv hHs hallows hinv' => ?_
  cases hbegin : ((db.system move body).exec .begin o s.world).1 with
  | error e => exact hthrow _ _ (hG.exec (hHG s hHs) ..)
  | ok tx =>
      refine Prog.wp_bind hinv' (Prog.wp_attempt ((hbody _ tx hinv' (hstart s o hinv hHs hallows)
        (InTx.begin (hO.store hinv) hbegin)).mono (fun a s hinv hs => ?_) fun e s hinv hs => ?_))
      · refine Prog.wp_call (hB tx a) hs (fun s hinv hs => hpre s tx a hinv hs)
          fun s o hinv hs hallows hinv' => ?_
        cases hcom : ((db.system move body).exec (.commit tx) o s.world).1 with
        | ok u => exact hcommit s tx a o hinv hs hallows hcom hinv'
        | error e => exact hthrow _ _ (hG.exec (hBG tx a s hs) ..)
      · exact Prog.wp_call ((Opened.persistent i tx).and hG).stable hs
          (fun s hinv hs => hrollback s tx hinv hs.1) fun s o _ hs _ _ => hthrow _ _ (hG.exec hs.2 ..)

theorem wp_transaction [DecidableEq K] {p : Nat → Prog db.sig ε β}
    {B : Nat → β → Snap db.sig (Store D W) ω Op → Prop} (hO : Tracks O) (hs : G s)
    (hG : Persistent (db.system move body) G) (hbegin : ∀ s, O.inv s → G s → O.pre i op .begin s)
    (hrollback : ∀ s tx, O.inv s → Opened i tx s → O.pre i op (.rollback tx) s)
    (hpre : ∀ s tx a, O.inv s → B tx a s → O.pre i op (.commit tx) s)
    (hB : ∀ tx a, Stable (db.system move body) O i (B tx a))
    (hBG : ∀ tx a s, B tx a s → G s)
    (hbody : ∀ s tx, O.inv s → G s → InTx i tx (fun ss _ => ss.writes = [] ∧ ss.failed = false) s →
      (p tx).wp (db.system move body) O i op (B tx)
        (fun _ s => Opened i tx s ∧ G s) s)
    (hcommit : ∀ s tx a o, O.inv s → B tx a s → O.allows i op (.commit tx) o s →
      (db.step (.commit tx) o s.world).1 = .ok () →
      O.inv (s.exec (db.system move body) i op (.commit tx) o) →
      (Prog.ret a : Prog db.sig ε β).wp (db.system move body) O i op Q (fun _ => G)
        (s.exec (db.system move body) i op (.commit tx) o)) :
    (db.transaction wrap p).wp (db.system move body) O i op Q (fun _ => G) s :=
  wp_transaction_of hO hG.stable hs hG (fun _ h => h) hbegin (fun _ _ _ h _ => hG.exec h ..)
    hrollback hpre hB hBG hbody hcommit

end Wp

/-! ### Calls of which nothing is known

Where the assertions of commands say all there is to say, a call need not be
followed from one command to the next. -/

section Fine

variable {α β : Type} {wrap : E → ε}

/-- The commands of the program meet their assertions. -/
abbrev Fine (move : η → D → D) (body : Op → Prog db.sig ε ρ)
    (O : Outline db.sig (Store D W) ω Op) (i : Nat) (op : Op) (p : Prog db.sig ε α)
    (s : Snap db.sig (Store D W) ω Op) : Prop :=
  p.wp (db.system move body) O i op (fun _ _ => True) (fun _ _ => True) s

theorem fine_ret {a : α} : Fine move body O i op (.ret a) s := fun _ _ _ => trivial

theorem fine_err {e : ε} : Fine move body O i op (.err e : Prog db.sig ε α) s := fun _ _ _ => trivial

theorem fine_query {t : Option Nat} {q : R} {f : db.Ans q → Prog db.sig ε β}
    (hpre : ∀ s, O.inv s → O.pre i op (.stmt t q) s)
    (hok : ∀ s o a, O.inv s → (db.step (.stmt t q) o s.world).1 = .ok a →
      O.inv (s.exec (db.system move body) i op (.stmt t q) o) →
      Fine move body O i op (f a) (s.exec (db.system move body) i op (.stmt t q) o)) :
    Fine move body O i op (db.query wrap t q >>= f) s :=
  wp_query (H := fun _ => True) (G := fun _ => True) persistent_true.stable trivial persistent_true
    (fun _ _ => trivial) (fun s hinv _ => hpre s hinv)
    fun s o a hinv _ _ ha hinv' => hok s o a hinv ha hinv'

theorem fine_last {t : Option Nat} {q : R} (hpre : ∀ s, O.inv s → O.pre i op (.stmt t q) s) :
    Fine move body O i op (db.query wrap t q) s := by
  rw [← Prog.bind_ret (db.query wrap t q)]
  exact fine_query hpre fun _ _ _ _ _ _ => fine_ret

theorem fine_bind {p : Prog db.sig ε α} {f : α → Prog db.sig ε β} (hinv : O.inv s)
    (hp : Fine move body O i op p s) (h : ∀ a s, O.inv s → Fine move body O i op (f a) s) :
    Fine move body O i op (p >>= f) s :=
  Prog.wp_bind hinv (hp.mono (fun a s hinv _ => h a s hinv) fun _ _ _ h => h)

theorem fine_attempt {p : Prog db.sig ε α} {f : Except ε α → Prog db.sig ε β} (hinv : O.inv s)
    (hp : Fine move body O i op p s) (h : ∀ x s, O.inv s → Fine move body O i op (f x) s) :
    Fine move body O i op (p.attempt >>= f) s :=
  Prog.wp_bind hinv (Prog.wp_attempt (hp.mono (fun _ s hinv _ => h _ s hinv)
    fun _ s hinv _ => h _ s hinv))

theorem fine_mapM {f : α → Prog db.sig ε β} {l : List α} (hinv : O.inv s)
    (h : ∀ a ∈ l, ∀ s, O.inv s → Fine move body O i op (f a) s) :
    Fine move body O i op (l.mapM f) s :=
  (Prog.wp_mapM (R := fun _ _ _ => True) (fun _ _ => persistent_true) h hinv).mono
    (fun _ _ _ _ => trivial) fun _ _ _ h => h

/-- A transaction under an outline that does not mind who opens and ends one. -/
theorem fine_transaction {p : Nat → Prog db.sig ε α}
    (hends : ∀ c s, (∀ t q, c ≠ .stmt t q) → O.inv s → O.pre i op c s)
    (hp : ∀ tx s, O.inv s → Fine move body O i op (p tx) s) :
    Fine move body O i op (db.transaction wrap p) s := by
  refine Prog.wp_call persistent_true.stable trivial (fun s hinv _ => hends _ s nofun hinv)
    fun s o _ _ _ hinv => ?_
  cases ((db.system move body).exec .begin o s.world).1 with
  | error e => exact fine_err
  | ok tx =>
      refine fine_attempt hinv (hp tx _ hinv) fun r s hinv => ?_
      cases r with
      | error e =>
          exact Prog.wp_call persistent_true.stable trivial (fun s hinv _ => hends _ s nofun hinv)
            fun _ _ _ _ _ _ => fine_err
      | ok a =>
          refine Prog.wp_call persistent_true.stable trivial (fun s hinv _ => hends _ s nofun hinv)
            fun s o _ _ _ _ => ?_
          cases ((db.system move body).exec (.commit tx) o s.world).1 with
          | ok u => exact fine_ret
          | error e => exact fine_err

theorem fine_of_all {p : Prog db.sig ε α} {Pc : TxCmd R → Prop} (hp : p.All Pc)
    (hpre : ∀ c, Pc c → ∀ s, O.inv s → O.pre i op c s) : Fine move body O i op p s :=
  Prog.wp_keep hp (F := fun _ => True) (fun c hc s hinv _ => hpre c hc s hinv)
    persistent_true.kept trivial

end Fine

end Database

end Conc
