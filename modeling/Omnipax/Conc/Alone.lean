import Omnipax.Conc.Transaction

/-!
# A call that runs alone

The sequential logic on a database: what an uninterrupted run of statements
and transactions leaves. A transaction may be open around another one, as
long as it has a number of its own. Errors are followed to where they are
caught only; what a run that throws leaves is not described.
-/

namespace Conc

namespace Store

variable {D W : Type} {s : Store D W} {tx : Nat} {ws ws' : List W}

/-- Transaction `tx` opened on top of `s`, with the writes it has made. -/
def within (s : Store D W) (tx : Nat) (ws : List W) : Store D W :=
  { s with sessions := s.sessions ++ [⟨tx, ws, false⟩] }

/-- `tx` is the number of no open transaction. -/
def Lacks (s : Store D W) (tx : Nat) : Prop := ∀ ss ∈ s.sessions, ss.id ≠ tx

/-- Open transactions have numbers below the next one. -/
def Numbered (s : Store D W) : Prop := ∀ ss ∈ s.sessions, ss.id < s.next

theorem Numbered.lacks (h : s.Numbered) : s.Lacks s.next :=
  fun ss hss => Nat.ne_of_lt (h ss hss)

theorem Numbered.within (h : s.Numbered) (htx : tx < s.next) : (s.within tx ws).Numbered := by
  intro ss hss
  rcases List.mem_append.mp hss with hss | hss
  · exact h ss hss
  · obtain rfl := List.mem_singleton.mp hss
    exact htx

theorem numbered_idle (d : D) : (Store.idle d : Store D W).Numbered := by
  intro ss hss
  cases hss

theorem session?_within (h : s.Lacks tx) : (s.within tx ws).session? tx = some ⟨tx, ws, false⟩ := by
  have hnone : s.sessions.find? (·.id == tx) = none :=
    List.find?_eq_none.mpr fun ss hss => by simpa using h ss hss
  simp [session?, within, List.find?_append, hnone]

theorem write_within (h : s.Lacks tx) : (s.within tx ws).write tx ws' = s.within tx (ws ++ ws') := by
  have hmap : s.sessions.map (fun ss => if ss.id = tx then { ss with writes := ss.writes ++ ws' }
      else ss) = s.sessions := by
    refine (List.map_congr_left fun ss hss => ?_).trans (List.map_id _)
    rw [if_neg (h ss hss)]
    rfl
  simp [write, within, hmap]

theorem drop_within (h : s.Lacks tx) : (s.within tx ws).drop tx = s := by
  have hfilter : s.sessions.filter (·.id != tx) = s.sessions :=
    List.filter_eq_self.mpr fun ss hss => by simpa using h ss hss
  simp [drop, within, hfilter]

end Store

namespace Database

variable {R D W K ω E ε : Type} {db : Database R D W K ω E}

def machine (db : Database R D W K ω E) : Machine db.sig (Store D W) ω := ⟨db.step⟩

theorem numbered_step {s : Store D W} (h : s.Numbered) (c : TxCmd R) (o : ω) :
    (db.step c o s).2.Numbered := by
  intro ss hss
  have hle : s.next ≤ (db.step c o s).2.next := le_next_step c o s
  have hold : ∀ ss ∈ s.sessions, ss.id < (db.step c o s).2.next :=
    fun ss hss => Nat.lt_of_lt_of_le (h ss hss) hle
  have hstep := step_sessions db c o s
  generalize (db.step c o s).2.sessions = l at hstep hss
  cases hstep with
  | same => exact hold ss hss
  | start hc =>
      subst hc
      rcases List.mem_append.mp hss with hss | hss
      · exact hold ss hss
      · obtain rfl := List.mem_singleton.mp hss
        rw [next_begin]
        exact Nat.lt_succ_self _
  | drop tx _ => exact hold ss (List.mem_filter.mp hss).1
  | fail tx _ =>
      obtain ⟨ss₀, hss₀, rfl⟩ := List.mem_map.mp hss
      split <;> exact hold ss₀ hss₀
  | write _ _ _ =>
      obtain ⟨ss₀, hss₀, rfl⟩ := List.mem_map.mp hss
      split <;> exact hold ss₀ hss₀

theorem numbered_run {α : Type} {p : Prog db.sig ε α} {os : Nat → ω} {n : Nat} {s : Store D W}
    (h : s.Numbered) : (p.run db.machine os n s).state.Numbered := by
  induction p generalizing n s with
  | ret a => exact h
  | err e => exact h
  | call c k ih => exact ih _ (numbered_step h c (os n))

variable {α β : Type} {wrap : E → ε} {s : Store D W} {t : Option Nat} {tx : Nat} {ws : List W}
  {q : R} {Q : β → Store D W → Prop} {T : ε → Store D W → Prop}

/-! ### Commands that are not lost -/

section Answered

variable {o : ω} {a : db.Ans q} {ws' : List W} {e : E}

theorem step_query (h : db.loss o = none) :
    db.step (.stmt none q) o s
      = ((db.exec q o s.data).1, { s with data := db.applyAll (db.exec q o s.data).2 s.data }) := by
  simp only [step, autocommit, h, ite_self]

theorem step_begin (h : db.loss o = none) :
    db.step .begin o s = (.ok s.next, ({ s with next := s.next + 1 } : Store D W).within s.next []) := by
  simp only [step, h]
  rfl

theorem step_stmt (hs : s.Lacks tx) (h : db.loss o = none)
    (hexec : db.exec q o (db.applyAll ws s.data) = (.ok a, ws')) :
    db.step (.stmt (some tx) q) o (s.within tx ws) = (.ok a, s.within tx (ws ++ ws')) := by
  have hview : db.exec q o (db.applyAll ws (s.within tx ws).data) = (.ok a, ws') := hexec
  simp only [step, Store.session?_within hs, stmtIn, h, hview, Bool.false_eq_true, if_false,
    Store.write_within hs]

theorem step_stmt_error (hs : s.Lacks tx) (h : db.loss o = none)
    (hexec : (db.exec q o (db.applyAll ws s.data)).1 = .error e) :
    db.step (.stmt (some tx) q) o (s.within tx ws) = (.error e, (s.within tx ws).fail tx) := by
  have hview : (db.exec q o (db.applyAll ws (s.within tx ws).data)).1 = .error e := hexec
  simp only [step, Store.session?_within hs, stmtIn, h, Bool.false_eq_true, if_false]
  generalize db.exec q o (db.applyAll ws (s.within tx ws).data) = r at hview
  obtain ⟨r, ws'⟩ := r
  obtain rfl : r = .error e := hview
  rfl

theorem step_commit (hs : s.Lacks tx) (h : db.loss o = none) :
    db.step (.commit tx) o (s.within tx ws)
      = (.ok (), { s with data := db.applyAll ws s.data }) := by
  simp only [step, Store.session?_within hs, commit, h, Bool.false_eq_true, if_false,
    Store.drop_within hs]
  rfl

theorem run_query {f : db.Ans q → Prog db.sig ε β} {os : Nat → ω} {n : Nat}
    (h : db.loss (os n) = none) (hexec : db.exec q (os n) s.data = (.ok a, ws')) :
    (db.query wrap none q >>= f).run db.machine os n s
      = (f a).run db.machine os (n + 1) { s with data := db.applyAll ws' s.data } := by
  have hstep : db.machine.exec (.stmt none q) (os n) s = _ := step_query h
  rw [query, Prog.call_bind, Prog.run_call, hstep, hexec]
  rfl

theorem run_stmt {f : db.Ans q → Prog db.sig ε β} {os : Nat → ω} {n : Nat} (hs : s.Lacks tx)
    (h : db.loss (os n) = none)
    (hexec : db.exec q (os n) (db.applyAll ws s.data) = (.ok a, ws')) :
    (db.query wrap (some tx) q >>= f).run db.machine os n (s.within tx ws)
      = (f a).run db.machine os (n + 1) (s.within tx (ws ++ ws')) := by
  have hstep : db.machine.exec (.stmt (some tx) q) (os n) (s.within tx ws) = _ :=
    step_stmt hs h hexec
  rw [query, Prog.call_bind, Prog.run_call, hstep]
  rfl

theorem run_stmt_error {f : db.Ans q → Prog db.sig ε β} {os : Nat → ω} {n : Nat}
    (hs : s.Lacks tx) (h : db.loss (os n) = none)
    (hexec : (db.exec q (os n) (db.applyAll ws s.data)).1 = .error e) :
    (db.query wrap (some tx) q >>= f).run db.machine os n (s.within tx ws)
      = ⟨.error (wrap e), n + 1, (s.within tx ws).fail tx⟩ := by
  have hstep : db.machine.exec (.stmt (some tx) q) (os n) (s.within tx ws) = _ :=
    step_stmt_error hs h hexec
  rw [query, Prog.call_bind, Prog.run_call, hstep]
  rfl

theorem run_transaction {p : Nat → Prog db.sig ε α} {os : Nat → ω} {n m : Nat} {a : α}
    {s₁ : Store D W} (hb : db.loss (os n) = none) (hs₁ : s₁.Lacks s.next)
    (hbody : (p s.next).run db.machine os (n + 1) ({ s with next := s.next + 1 }.within s.next [])
      = ⟨.ok a, m, s₁.within s.next ws⟩) (hc : db.loss (os m) = none) :
    (db.transaction wrap p).run db.machine os n s
      = ⟨.ok a, m + 1, { s₁ with data := db.applyAll ws s₁.data }⟩ := by
  have hbegin : db.machine.exec .begin (os n) s = _ := step_begin hb
  have hcommit : db.machine.exec (.commit s.next) (os m) (s₁.within s.next ws) = _ :=
    step_commit hs₁ hc
  rw [transaction, Prog.run_call, hbegin]
  refine (Prog.run_bind_ok _ _ ((Prog.run_attempt ..).trans (by rw [hbody]))).trans ?_
  rw [Prog.run_call, hcommit]
  rfl

theorem run_transaction_error {p : Nat → Prog db.sig ε α} {os : Nat → ω} {n : Nat} {e : ε}
    (hb : db.loss (os n) = none)
    (hbody : ((p s.next).run db.machine os (n + 1)
      ({ s with next := s.next + 1 }.within s.next [])).result = .error e) :
    ((db.transaction wrap p).run db.machine os n s).result = .error e := by
  have hbegin : db.machine.exec .begin (os n) s = _ := step_begin hb
  rw [transaction, Prog.run_call, hbegin]
  refine (congrArg Prog.Outcome.result (Prog.run_bind_ok _ _ (Prog.run_attempt ..))).trans ?_
  rw [hbody]
  rfl

end Answered

/-! ### The logic -/

theorem wlp_of_step {f : db.Ans q → Prog db.sig ε β}
    (hok : ∀ o a, (db.step (.stmt t q) o s).1 = .ok a →
      (f a).wlp db.machine Q T (db.step (.stmt t q) o s).2)
    (hthrow : ∀ o e, (db.step (.stmt t q) o s).1 = .error e →
      T (wrap e) (db.step (.stmt t q) o s).2) :
    (db.query wrap t q >>= f).wlp db.machine Q T s := by
  intro o
  cases h : (db.machine.exec (.stmt t q) o s).1 with
  | ok a => exact hok o a h
  | error e => exact hthrow o e h

theorem wlp_query {f : db.Ans q → Prog db.sig ε β}
    (hok : ∀ o a ws, db.exec q o s.data = (.ok a, ws) →
      (f a).wlp db.machine Q T { s with data := db.applyAll ws s.data })
    (hthrow : ∀ e s', T (wrap e) s') :
    (db.query wrap none q >>= f).wlp db.machine Q T s := by
  refine wlp_of_step (fun o a h => ?_) fun o e _ => hthrow e _
  obtain ⟨hexec, hstep⟩ := query_ok h
  rw [hstep]
  exact hok o a _ (Prod.ext hexec rfl)

theorem wlp_stmt {f : db.Ans q → Prog db.sig ε β} (hs : s.Lacks tx)
    (hok : ∀ o a ws', db.exec q o (db.applyAll ws s.data) = (.ok a, ws') →
      (f a).wlp db.machine Q T (s.within tx (ws ++ ws')))
    (hthrow : ∀ e s', (e = db.gone ∨ ∃ o, (db.exec q o (db.applyAll ws s.data)).1 = .error e) →
      T (wrap e) s') :
    (db.query wrap (some tx) q >>= f).wlp db.machine Q T (s.within tx ws) := by
  refine wlp_of_step (fun o a h => ?_) fun o e h => hthrow e _ ?_
  · obtain ⟨ss, hss, -, hexec, hstep⟩ := stmt_ok h
    obtain rfl := Option.some.inj ((Store.session?_within hs).symm.trans hss)
    rw [hstep, Store.write_within hs]
    exact hok o a _ (Prod.ext hexec rfl)
  · rcases stmt_error h with he | ⟨ss, hss, he⟩
    · exact Or.inl he
    · obtain rfl := Option.some.inj ((Store.session?_within hs).symm.trans hss)
      exact Or.inr ⟨o, he⟩

/-- A program whose statements make writes of a kind keeps what these keep. -/
theorem wlp_of_all {p : Prog db.sig ε β} {P : R → Prop} {V : W → Prop} {I : D → Prop}
    (hp : p.All (Stmts P)) (hP : ∀ q, P q → ∀ o d, ∀ w ∈ (db.exec q o d).2, V w)
    (hI : ∀ w d, V w → I d → I (db.apply w d)) (hw : WritesIn V s) (hs : I s.data) :
    p.wlp db.machine (fun _ s' => I s'.data) (fun _ s' => I s'.data) s := by
  induction p generalizing s with
  | ret a => exact hs
  | err e => exact hs
  | call c k ih =>
      intro o
      obtain ⟨hw', ws, hws, hdata⟩ := writesIn_step (c := c) (o := o) hw (by
        rintro t q rfl w hmem
        obtain ⟨d, hd⟩ := mem_wants hmem
        exact hP q hp.1 o d w hd)
      refine ih _ (hp.2 _) hw' ?_
      rw [show (db.machine.exec c o s).2.data = _ from hdata]
      exact applyAll_of_forall (fun w hw d => hI w d (hws w hw)) hs

theorem wlp_stmt_attempt {f : Except ε (db.Ans q) → Prog db.sig ε β} (hs : s.Lacks tx)
    (hok : ∀ o a ws', db.exec q o (db.applyAll ws s.data) = (.ok a, ws') →
      (f (.ok a)).wlp db.machine Q T (s.within tx (ws ++ ws')))
    (hthrow : ∀ e s', (e = db.gone ∨ ∃ o, (db.exec q o (db.applyAll ws s.data)).1 = .error e) →
      (f (.error (wrap e))).wlp db.machine Q T s') :
    ((db.query wrap (some tx) q).attempt >>= f).wlp db.machine Q T (s.within tx ws) := by
  rw [Prog.wlp_bind, Prog.wlp_attempt, ← Prog.bind_ret (db.query wrap (some tx) q)]
  exact wlp_stmt hs hok hthrow

theorem wlp_query_sure {f : db.Ans q → Prog db.sig ε β} {a : db.Ans q} {ws : List W}
    (hq : ∀ o, db.exec q o s.data = (.ok a, ws))
    (hok : (f a).wlp db.machine Q T { s with data := db.applyAll ws s.data })
    (hthrow : ∀ e s', T (wrap e) s') :
    (db.query wrap none q >>= f).wlp db.machine Q T s := by
  refine wlp_query (fun o a' ws' h => ?_) hthrow
  obtain ⟨rfl, rfl⟩ : a = a' ∧ ws = ws' := by simpa using (hq o).symm.trans h
  exact hok

theorem wlp_stmt_sure {f : db.Ans q → Prog db.sig ε β} {a : db.Ans q} {ws' : List W}
    (hs : s.Lacks tx) (hq : ∀ o, db.exec q o (db.applyAll ws s.data) = (.ok a, ws'))
    (hok : (f a).wlp db.machine Q T (s.within tx (ws ++ ws')))
    (hthrow : ∀ e s', T (wrap e) s') :
    (db.query wrap (some tx) q >>= f).wlp db.machine Q T (s.within tx ws) := by
  refine wlp_stmt hs (fun o a' ws'' h => ?_) fun e s' _ => hthrow e s'
  obtain ⟨rfl, rfl⟩ : a = a' ∧ ws' = ws'' := by simpa using (hq o).symm.trans h
  exact hok

/-- A transaction: its body leaves its writes, and they are committed. -/
theorem wlp_transaction_alone {p : Nat → Prog db.sig ε β}
    (hthrow : ∀ e s', T e s')
    (hbody : (p s.next).wlp db.machine
      (fun a s' => ∃ (s₁ : Store D W) (ws : List W), s₁.Lacks s.next ∧ s' = s₁.within s.next ws ∧
        Q a { s₁ with data := db.applyAll ws s₁.data })
      (fun _ _ => True) ({ s with next := s.next + 1 }.within s.next [])) :
    (db.transaction wrap p).wlp db.machine Q T s := by
  intro o
  cases h : (db.machine.exec .begin o s).1 with
  | error e => exact hthrow _ _
  | ok tx =>
      obtain ⟨rfl, hstart⟩ := begin_ok h
      rw [show (db.machine.exec .begin o s).2 = s.start from hstart]
      refine (Prog.wlp_bind _ _ _ _ _).mpr ((Prog.wlp_attempt _ _ _ _).mpr (Prog.wlp_mono hbody
        ?_ fun e s' _ o => hthrow e _))
      rintro a _ ⟨s₁, ws, hs₁, rfl, hQ⟩ o
      cases hc : (db.machine.exec (.commit s.next) o (s₁.within s.next ws)).1 with
      | error e => exact hthrow _ _
      | ok u =>
          obtain ⟨ss, hss, hdone⟩ := commit_ok hc
          obtain rfl := Option.some.inj ((Store.session?_within hs₁).symm.trans hss)
          rw [show (db.machine.exec _ o _).2 = _ from hdone rfl, Store.drop_within hs₁]
          exact hQ

theorem wlp_transaction_fails {p : Nat → Prog db.sig ε β} {T : ε → Prop} (hgone : T (wrap db.gone))
    (hbody : (p s.next).wlp db.machine (fun _ _ => False) (fun e _ => T e)
      ({ s with next := s.next + 1 }.within s.next [])) :
    (db.transaction wrap p).wlp db.machine Q (fun e _ => T e) s := by
  intro o
  cases h : (db.machine.exec .begin o s).1 with
  | error e =>
      obtain rfl : e = db.gone := begin_error h
      exact hgone
  | ok tx =>
      obtain ⟨rfl, hstart⟩ := begin_ok h
      rw [show (db.machine.exec .begin o s).2 = s.start from hstart]
      exact (Prog.wlp_bind _ _ _ _ _).mpr ((Prog.wlp_attempt _ _ _ _).mpr (Prog.wlp_mono hbody
        (fun _ _ h => h.elim) fun e s' he o => he))

/-! ### Programs that only read -/

/-- No open transaction has written anything. -/
def Blank (s : Store D W) : Prop := ∀ ss ∈ s.sessions, ss.writes = []

/-- Whatever becomes of its commands, a program that starts on data in `I`, with
nothing written, keeps to it and writes nothing in a transaction; what it
returns is in `Q`. -/
def Looks (db : Database R D W K ω E) (p : Prog db.sig ε α) (I : D → Prop) (Q : α → Prop) : Prop :=
  ∀ s : Store D W, Blank s → I s.data →
    p.wlp db.machine (fun a s' => (Blank s' ∧ I s'.data) ∧ Q a) (fun _ s' => Blank s' ∧ I s'.data) s

section Looks

variable {I : D → Prop}

theorem blank_step {c : TxCmd R} {o : ω} {s : Store D W} (hs : Blank s)
    (hc : ∀ t q, c = .stmt t q → (db.exec q o s.data).2 = []) :
    Blank (db.step c o s).2 ∧ (db.step c o s).2.data = s.data := by
  have hw : WritesIn (fun _ : W => False) s := fun ss hss w hw => by
    rw [hs ss hss] at hw
    cases hw
  obtain ⟨hw', ws, hws, hdata⟩ := writesIn_step (c := c) (o := o) hw (by
    rintro t q rfl w hmem
    have hwrites := hc t q rfl
    cases t with
    | none =>
        change w ∈ (db.exec q o s.data).2 at hmem
        rw [hwrites] at hmem
        cases hmem
    | some tx =>
        simp only [wants] at hmem
        split at hmem
        · cases hmem
        · rename_i ss hss
          rw [hs ss (Store.mem_of_session? hss).1] at hmem
          split at hmem
          · cases hmem
          · rw [show db.applyAll [] s.data = s.data from rfl, hwrites] at hmem
            cases hmem)
  refine ⟨fun ss hss => List.eq_nil_iff_forall_not_mem.mpr fun w => hw' ss hss w, ?_⟩
  rw [hdata, List.eq_nil_iff_forall_not_mem.mpr hws]
  rfl

theorem looks_ret {a : α} {Q : α → Prop} (h : Q a) : db.Looks (.ret a : Prog db.sig ε α) I Q :=
  fun _ hs hd => ⟨⟨hs, hd⟩, h⟩

theorem looks_err {e : ε} {Q : α → Prop} : db.Looks (.err e : Prog db.sig ε α) I Q :=
  fun _ hs hd => ⟨hs, hd⟩

theorem Looks.mono {p : Prog db.sig ε α} {Q Q' : α → Prop} (h : db.Looks p I Q)
    (hQ : ∀ a, Q a → Q' a) : db.Looks p I Q' :=
  fun s hs hd => Prog.wlp_mono (h s hs hd) (fun a _ h => ⟨h.1, hQ a h.2⟩) fun _ _ h => h

theorem looks_bind {p : Prog db.sig ε α} {f : α → Prog db.sig ε β} {Q : β → Prop}
    (h : db.Looks p I fun a => db.Looks (f a) I Q) : db.Looks (p >>= f) I Q :=
  fun s hs hd => (Prog.wlp_bind _ _ _ _ _).mpr (Prog.wlp_mono (h s hs hd)
    (fun _ s' h => h.2 s' h.1.1 h.1.2) fun _ _ h => h)

theorem looks_attempt {p : Prog db.sig ε α} {Q : Except ε α → Prop}
    (h : db.Looks p I fun a => Q (.ok a)) (herr : ∀ e, Q (.error e)) : db.Looks p.attempt I Q :=
  fun s hs hd => (Prog.wlp_attempt _ _ _ _).mpr (Prog.wlp_mono (h s hs hd) (fun _ _ h => h)
    fun e _ h => ⟨h, herr e⟩)

/-- A statement by itself, which may write what keeps to `I`. -/
theorem looks_query {q : R} {Q : db.Ans q → Prop}
    (hI : ∀ o d, I d → I (db.applyAll (db.exec q o d).2 d))
    (h : ∀ o d a, I d → (db.exec q o d).1 = .ok a → Q a) : db.Looks (db.query wrap none q) I Q := by
  intro s hs hd o
  have hkept : Blank (db.step (.stmt none q) o s).2 ∧ I (db.step (.stmt none q) o s).2.data := by
    simp only [step, autocommit]
    split
    · exact ⟨hs, hI o s.data hd⟩
    · exact ⟨hs, hd⟩
    · exact ⟨hs, hI o s.data hd⟩
  cases hstep : (db.machine.exec (.stmt none q) o s).1 with
  | error e => exact hkept
  | ok a => exact ⟨hkept, h o s.data a hd (query_ok hstep).1⟩

theorem looks_stmt {tx : Nat} {q : R} {Q : db.Ans q → Prop}
    (hwrites : ∀ o d, I d → (db.exec q o d).2 = [])
    (h : ∀ o d a, I d → (db.exec q o d).1 = .ok a → Q a) :
    db.Looks (db.query wrap (some tx) q) I Q := by
  intro s hs hd o
  obtain ⟨hs', hd'⟩ := blank_step (c := .stmt (some tx) q) (o := o) hs
    fun t' q' hq => by cases hq; exact hwrites o s.data hd
  have hkept : Blank (db.step (.stmt (some tx) q) o s).2 ∧
      I (db.step (.stmt (some tx) q) o s).2.data := ⟨hs', by rwa [hd']⟩
  cases hstep : (db.machine.exec (.stmt (some tx) q) o s).1 with
  | error e => exact hkept
  | ok a =>
      obtain ⟨ss, hss, -, hexec, -⟩ := stmt_ok hstep
      rw [hs ss (Store.mem_of_session? hss).1] at hexec
      exact ⟨hkept, h o s.data a hd hexec⟩

theorem looks_transaction {p : Nat → Prog db.sig ε α} {Q : α → Prop}
    (h : ∀ tx, db.Looks (p tx) I Q) : db.Looks (db.transaction wrap p) I Q := by
  have hstep : ∀ c o (s : Store D W), Blank s ∧ I s.data → (∀ t q, c ≠ .stmt t q) →
      Blank (db.step c o s).2 ∧ I (db.step c o s).2.data := by
    intro c o s hs hc
    obtain ⟨hs', hd'⟩ : Blank (db.step c o s).2 ∧ (db.step c o s).2.data = s.data :=
      blank_step hs.1 fun t q hq => absurd hq (hc t q)
    exact ⟨hs', by rw [hd']; exact hs.2⟩
  intro s hs hd o
  have hs' := hstep .begin o s ⟨hs, hd⟩ nofun
  cases hbegin : (db.machine.exec .begin o s).1 with
  | error e => exact hs'
  | ok tx =>
      refine (Prog.wlp_bind _ _ _ _ _).mpr ((Prog.wlp_attempt _ _ _ _).mpr (Prog.wlp_mono
        (h tx _ hs'.1 hs'.2) (fun a s₁ h₁ o => ?_) fun e s₁ h₁ o =>
          hstep (.rollback tx) o s₁ h₁ nofun))
      have hs₂ := hstep (.commit tx) o s₁ h₁.1 nofun
      cases hcommit : (db.machine.exec (.commit tx) o s₁).1 with
      | error e => exact hs₂
      | ok u => exact ⟨hs₂, h₁.2⟩

theorem looks_mapM {f : α → Prog db.sig ε β} {l : List α} {Q : β → Prop}
    (h : ∀ a ∈ l, db.Looks (f a) I Q) : db.Looks (l.mapM f) I fun bs => ∀ b ∈ bs, Q b := by
  induction l with
  | nil => exact looks_ret fun b hb => absurd hb List.not_mem_nil
  | cons a l ih =>
      rw [List.mapM_cons]
      refine looks_bind ((h a (List.mem_cons_self ..)).mono fun b hb => looks_bind ?_)
      refine (ih fun a' ha' => h a' (List.mem_cons_of_mem _ ha')).mono fun bs hbs => looks_ret ?_
      intro b' hb'
      rcases List.mem_cons.mp hb' with rfl | hb'
      · exact hb
      · exact hbs b' hb'

end Looks

end Database

end Conc
