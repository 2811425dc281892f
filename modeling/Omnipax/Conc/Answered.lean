import Omnipax.Conc.Alone

/-!
# A call whose steps do not fail

The sequential logic of the runs in which every command is answered. What
comes of the failures is left out, so a program that only throws where a step
has failed does not throw, and its transactions are its statements and a
commit: `Leaves` says what such a program makes of the data, and `Writes` what
its transaction has written so far.
-/

namespace Conc

namespace Prog

variable {S : Sig} {σ ω ε α β : Type}

/-- Every answer that an uninterrupted run of the program gets is a good one; the oracles
are those from the number on. -/
def answered (M : Machine S σ ω) (good : (c : S.Cmd) → S.Resp c → Bool) (os : Nat → ω) :
    Prog S ε α → Nat → σ → Bool
  | .ret _, _, _ => true
  | .err _, _, _ => true
  | .call c k, n, s => good c (M.exec c (os n) s).1 &&
      (k (M.exec c (os n) s).1).answered M good os (n + 1) (M.exec c (os n) s).2

/-- The weakest liberal precondition over the runs whose answers are good. -/
def wlpOn (M : Machine S σ ω) (good : (c : S.Cmd) → S.Resp c → Bool) :
    Prog S ε α → (α → σ → Prop) → (ε → σ → Prop) → σ → Prop
  | .ret a, Q, _, s => Q a s
  | .err e, _, E, s => E e s
  | .call c k, Q, E, s => ∀ o, good c (M.exec c o s).1 = true →
      (k (M.exec c o s).1).wlpOn M good Q E (M.exec c o s).2

variable {M : Machine S σ ω} {good : (c : S.Cmd) → S.Resp c → Bool}

theorem wlpOn_bind (p : Prog S ε α) (f : α → Prog S ε β) (Q : β → σ → Prop) (E : ε → σ → Prop)
    (s : σ) :
    (p >>= f).wlpOn M good Q E s ↔ p.wlpOn M good (fun a => (f a).wlpOn M good Q E) E s := by
  induction p generalizing s with
  | ret a => exact Iff.rfl
  | err e => exact Iff.rfl
  | call c k ih => exact forall₂_congr fun o _ => ih _ _

theorem wlpOn_attempt (p : Prog S ε α) (Q : Except ε α → σ → Prop) (E : ε → σ → Prop) (s : σ) :
    p.attempt.wlpOn M good Q E s ↔
      p.wlpOn M good (fun a => Q (.ok a)) (fun e => Q (.error e)) s := by
  induction p generalizing s with
  | ret a => exact Iff.rfl
  | err e => exact Iff.rfl
  | call c k ih => exact forall₂_congr fun o _ => ih _ _

theorem wlpOn_mono {p : Prog S ε α} {Q Q' : α → σ → Prop} {E E' : ε → σ → Prop} {s : σ}
    (h : p.wlpOn M good Q E s) (hQ : ∀ a s, Q a s → Q' a s) (hE : ∀ e s, E e s → E' e s) :
    p.wlpOn M good Q' E' s := by
  induction p generalizing s with
  | ret a => exact hQ _ _ h
  | err e => exact hE _ _ h
  | call c k ih => exact fun o ho => ih _ (h o ho)

/-- The logic is sound: such a run does not throw where no exception is
allowed, and ends in the postcondition. -/
theorem wlpOn.run {p : Prog S ε α} {Q : α → σ → Prop} {s : σ}
    (h : p.wlpOn M good Q (fun _ _ => False) s) {os : Nat → ω} {n : Nat}
    (hgood : p.answered M good os n s = true) :
    ∃ a, (p.run M os n s).result = .ok a ∧ Q a (p.run M os n s).state := by
  induction p generalizing n s with
  | ret a => exact ⟨a, rfl, h⟩
  | err e => exact absurd h id
  | call c k ih =>
      rw [answered, Bool.and_eq_true] at hgood
      exact ih _ (h (os n) hgood.1) hgood.2

end Prog

namespace Database

variable {R D W K ω E ε α β : Type} {db : Database R D W K ω E} {wrap : E → ε}

def succeeds (db : Database R D W K ω E) : (c : TxCmd R) → db.Resp c → Bool
  | .begin, r => r.isOk
  | .stmt _ _, r => r.isOk
  | .commit _, r => r.isOk
  | .rollback _, _ => true

theorem throwless_query {t : Option Nat} {q : R} {f : db.Ans q → Prog db.sig ε β}
    (h : ∀ a, (f a).Throwless fun c r => db.succeeds c r = true) :
    (db.query wrap t q >>= f).Throwless fun c r => db.succeeds c r = true := by
  intro r hr
  cases r with
  | ok a => exact h a
  | error e => cases hr

/-- A program that runs alone on data `d`, and whose commands succeed, returns,
with `Q` of what it leaves. -/
def Leaves (db : Database R D W K ω E) (p : Prog db.sig ε α) (d : D) (Q : α → D → Prop) : Prop :=
  ∀ s : Store D W, s.sessions = [] → s.data = d →
    p.wlpOn db.machine db.succeeds (fun a s' => s'.sessions = [] ∧ Q a s'.data)
      (fun _ _ => False) s

/-- The same of a program in its transaction `tx`, which has made the writes
`ws`. -/
def Writes (db : Database R D W K ω E) (tx : Nat) (p : Prog db.sig ε α) (ws : List W) (d : D)
    (Q : α → List W → D → Prop) : Prop :=
  ∀ s : Store D W, s.sessions = [] → s.data = d →
    p.wlpOn db.machine db.succeeds (fun a s' => ∃ (s₁ : Store D W) (ws' : List W),
      s₁.sessions = [] ∧ s' = s₁.within tx ws' ∧ Q a ws' s₁.data) (fun _ _ => False)
      (s.within tx ws)

section Rules

variable {d : D} {tx : Nat} {ws : List W}

theorem lacks_of_idle {s : Store D W} (h : s.sessions = []) : s.Lacks tx := by
  intro ss hss
  rw [h] at hss
  cases hss

theorem leaves_ret {a : α} {Q : α → D → Prop} (h : Q a d) :
    db.Leaves (.ret a : Prog db.sig ε α) d Q := by
  rintro s hs rfl
  exact ⟨hs, h⟩

theorem Leaves.mono {p : Prog db.sig ε α} {Q Q' : α → D → Prop} (h : db.Leaves p d Q)
    (hQ : ∀ a d', Q a d' → Q' a d') : db.Leaves p d Q' :=
  fun s hs hd => Prog.wlpOn_mono (h s hs hd) (fun a _ hq => ⟨hq.1, hQ a _ hq.2⟩) fun _ _ h => h

theorem leaves_bind {p : Prog db.sig ε α} {f : α → Prog db.sig ε β} {Q : β → D → Prop}
    (h : db.Leaves p d fun a d' => db.Leaves (f a) d' Q) : db.Leaves (p >>= f) d Q := by
  intro s hs hd
  exact (Prog.wlpOn_bind _ _ _ _ _).mpr (Prog.wlpOn_mono (h s hs hd)
    (fun a s' hq => hq.2 s' hq.1 rfl) fun _ _ h => h)

theorem leaves_attempt {p : Prog db.sig ε α} {Q : Except ε α → D → Prop}
    (h : db.Leaves p d fun a => Q (.ok a)) : db.Leaves p.attempt d Q := by
  intro s hs hd
  exact (Prog.wlpOn_attempt _ _ _ _).mpr (Prog.wlpOn_mono (h s hs hd) (fun _ _ hq => hq)
    fun _ _ h => h.elim)

theorem leaves_query {q : R} {Q : db.Ans q → D → Prop}
    (h : ∀ o a ws, db.exec q o d = (.ok a, ws) → Q a (db.applyAll ws d)) :
    db.Leaves (db.query wrap none q) d Q := by
  rintro s hs rfl o hok
  cases hstep : (db.machine.exec (.stmt none q) o s).1 with
  | error e =>
      rw [hstep] at hok
      cases hok
  | ok a =>
      obtain ⟨hexec, hs'⟩ := query_ok hstep
      rw [show (db.machine.exec (.stmt none q) o s).2 = _ from hs']
      exact ⟨hs, h o a _ (Prod.ext hexec rfl)⟩

theorem writes_ret {a : α} {Q : α → List W → D → Prop} (h : Q a ws d) :
    db.Writes tx (.ret a : Prog db.sig ε α) ws d Q := by
  rintro s hs rfl
  exact ⟨s, ws, hs, rfl, h⟩

theorem Writes.mono {p : Prog db.sig ε α} {Q Q' : α → List W → D → Prop}
    (h : db.Writes tx p ws d Q) (hQ : ∀ a ws d', Q a ws d' → Q' a ws d') :
    db.Writes tx p ws d Q' := by
  refine fun s hs hd => Prog.wlpOn_mono (h s hs hd) (fun a s' hq => ?_) fun _ _ h => h
  obtain ⟨s₁, ws', hs₁, rfl, hq⟩ := hq
  exact ⟨s₁, ws', hs₁, rfl, hQ a _ _ hq⟩

theorem writes_bind {p : Prog db.sig ε α} {f : α → Prog db.sig ε β} {Q : β → List W → D → Prop}
    (h : db.Writes tx p ws d fun a ws' d' => db.Writes tx (f a) ws' d' Q) :
    db.Writes tx (p >>= f) ws d Q := by
  intro s hs hd
  refine (Prog.wlpOn_bind _ _ _ _ _).mpr (Prog.wlpOn_mono (h s hs hd) (fun a s' hq => ?_)
    fun _ _ h => h)
  obtain ⟨s₁, ws', hs₁, rfl, hq⟩ := hq
  exact hq s₁ hs₁ rfl

theorem writes_stmt {q : R} {Q : db.Ans q → List W → D → Prop}
    (h : ∀ o a ws', db.exec q o (db.applyAll ws d) = (.ok a, ws') → Q a (ws ++ ws') d) :
    db.Writes tx (db.query wrap (some tx) q) ws d Q := by
  rintro s hs rfl o hok
  cases hstep : (db.machine.exec (.stmt (some tx) q) o (s.within tx ws)).1 with
  | error e =>
      rw [hstep] at hok
      cases hok
  | ok a =>
      obtain ⟨ss, hss, -, hexec, hs'⟩ := stmt_ok hstep
      obtain rfl := Option.some.inj ((Store.session?_within (lacks_of_idle hs)).symm.trans hss)
      rw [show (db.machine.exec (.stmt (some tx) q) o (s.within tx ws)).2 = _ from hs',
        Store.write_within (lacks_of_idle hs)]
      exact ⟨s, _, hs, rfl, h o a _ (Prod.ext hexec rfl)⟩

theorem writes_query {q : R} {Q : db.Ans q → List W → D → Prop}
    (h : ∀ o a ws', db.exec q o d = (.ok a, ws') → Q a ws (db.applyAll ws' d)) :
    db.Writes tx (db.query wrap none q) ws d Q := by
  rintro s hs rfl o hok
  cases hstep : (db.machine.exec (.stmt none q) o (s.within tx ws)).1 with
  | error e =>
      rw [hstep] at hok
      cases hok
  | ok a =>
      obtain ⟨hexec, hs'⟩ := query_ok hstep
      rw [show (db.machine.exec (.stmt none q) o (s.within tx ws)).2 = _ from hs']
      exact ⟨{ s with data := db.applyAll (db.exec q o s.data).2 s.data }, ws, hs, rfl,
        h o a _ (Prod.ext hexec rfl)⟩

theorem leaves_transaction {p : Nat → Prog db.sig ε β} {Q : β → D → Prop}
    (h : ∀ tx, db.Writes tx (p tx) [] d fun a ws d' => Q a (db.applyAll ws d')) :
    db.Leaves (db.transaction wrap p) d Q := by
  rintro s hs rfl o hok
  cases hbegin : (db.machine.exec .begin o s).1 with
  | error e =>
      rw [hbegin] at hok
      cases hok
  | ok tx =>
      obtain ⟨rfl, hstart⟩ := begin_ok hbegin
      rw [show (db.machine.exec .begin o s).2 = ({ s with next := s.next + 1 } : Store D W).within
        s.next [] from hstart]
      refine (Prog.wlpOn_bind _ _ _ _ _).mpr ((Prog.wlpOn_attempt _ _ _ _).mpr (Prog.wlpOn_mono
        (h s.next { s with next := s.next + 1 } hs rfl) ?_ fun _ _ h => h.elim))
      rintro a _ ⟨s₁, ws, hs₁, rfl, hq⟩ o hok
      cases hcommit : (db.machine.exec (.commit s.next) o (s₁.within s.next ws)).1 with
      | error e =>
          rw [hcommit] at hok
          cases hok
      | ok u =>
          obtain ⟨ss, hss, hdone⟩ := commit_ok hcommit
          obtain rfl := Option.some.inj ((Store.session?_within (lacks_of_idle hs₁)).symm.trans hss)
          rw [show (db.machine.exec (.commit s.next) o (s₁.within s.next ws)).2 = _ from hdone rfl,
            Store.drop_within (lacks_of_idle hs₁)]
          exact ⟨hs₁, hq⟩

/-- A loop: what a round leaves is what the next one starts from. -/
theorem leaves_mapM {f : α → Prog db.sig ε β} {l : List α} {I : List α → List β → D → Prop}
    (hf : ∀ done a rest bs d, done ++ a :: rest = l → I done bs d →
      db.Leaves (f a) d fun b d' => I (done ++ [a]) (bs ++ [b]) d')
    (h : I [] [] d) : db.Leaves (l.mapM f) d fun bs d' => I l bs d' := by
  suffices hloop : ∀ rest done bs d, done ++ rest = l → I done bs d →
      db.Leaves (rest.mapM f) d fun bs' d' => I l (bs ++ bs') d' from hloop l [] [] d rfl h
  intro rest
  induction rest with
  | nil =>
      intro done bs d hl hd
      rw [List.append_nil] at hl
      subst hl
      rw [List.mapM_nil]
      exact leaves_ret (by rwa [List.append_nil])
  | cons a rest ih =>
      intro done bs d hl hd
      rw [List.mapM_cons]
      refine leaves_bind ((hf done a rest bs d hl hd).mono fun b d' hd' => leaves_bind ?_)
      refine (ih (done ++ [a]) (bs ++ [b]) d' ?_ hd').mono fun bs' _ h => leaves_ret ?_
      · rw [List.append_assoc, List.singleton_append, hl]
      · rwa [List.append_assoc, List.singleton_append] at h

end Rules

end Database

end Conc
