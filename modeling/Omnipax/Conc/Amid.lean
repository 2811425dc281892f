import Omnipax.Conc.Answered
import Omnipax.Conc.Serial

/-!
# A call amid changes by others

A call that nobody stops, on data that others change between its steps: before
each command a function is applied to the data. `Ends` and `EndsIn` are the total
correctness of the runs whose commands succeed, whose changes are of a kind `F`
and whose answers are of a kind `A`; with no change but the identity they are runs
alone.
-/

namespace Conc

namespace Prog

variable {S : Sig} {σ ω ε α : Type} {M : Machine S σ ω} {ok : S.Cmd → ω → σ → Prop} {s : σ}

theorem twp_attempt {p : Prog S ε α} {Q : Except ε α → σ → Prop}
    (h : p.twp M ok (fun a => Q (.ok a)) s) : p.attempt.twp M ok Q s := by
  induction p generalizing s with
  | ret a => exact h
  | err e => exact h.elim
  | call c k ih => exact fun o ho => ih _ (h o ho)

theorem along_bind {β : Type} {p : Prog S ε α} {f : α → Prog S ε β} {os : Nat → ω} {n : Nat}
    (h : (p >>= f).Along M ok os n s) : p.Along M ok os n s ∧ ∀ a n' s',
      p.run M os n s = ⟨.ok a, n', s'⟩ → (f a).Along M ok os n' s' := by
  induction p generalizing n s with
  | ret a =>
      refine ⟨trivial, fun a' n' s' hrun => ?_⟩
      cases hrun
      exact h
  | err e => exact ⟨trivial, fun a' n' s' hrun => by cases hrun⟩
  | call c k ih =>
      obtain ⟨hrest, hthen⟩ := ih _ h.2
      exact ⟨⟨h.1, hrest⟩, hthen⟩

theorem along_attempt {p : Prog S ε α} {os : Nat → ω} {n : Nat}
    (h : p.attempt.Along M ok os n s) : p.Along M ok os n s := by
  induction p generalizing n s with
  | ret a => trivial
  | err e => trivial
  | call c k ih => exact ⟨h.1, ih _ h.2⟩

end Prog

namespace Store

variable {D W : Type} {s : Store D W}

theorem Numbered.of_sessions {s' : Store D W} (h : s.Numbered) (hsess : s'.sessions = s.sessions)
    (hnext : s.next ≤ s'.next) : s'.Numbered := by
  intro ss hss
  rw [hsess] at hss
  exact Nat.lt_of_lt_of_le (h ss hss) hnext

end Store

namespace Database

variable {R D W K ω E ε α β : Type} {db : Database R D W K ω E} {wrap : E → ε}

/-- Others change the data first, and then the command is executed. The oracle says what the
others have made of the data, so a run of this machine is a call amid any of them. -/
def amid (db : Database R D W K ω E) : Machine db.sig (Store D W) (ω × (D → D)) :=
  ⟨fun c o s => db.step c o.1 { s with data := o.2 s.data }⟩

/-- The command succeeds; what others have done to the data before is a change of the kind
`F`, and the answer is one of the kind `A`. -/
def Undisturbed (db : Database R D W K ω E) (F : (D → D) → Prop)
    (A : (c : TxCmd R) → db.Resp c → Prop) (c : TxCmd R) (o : ω × (D → D)) (s : Store D W) : Prop :=
  F o.2 ∧ db.succeeds c (db.amid.exec c o s).1 = true ∧ A c (db.amid.exec c o s).1

/-- With changes of the kind, only the answers are to be looked at. -/
theorem along_undisturbed {F : (D → D) → Prop} {A : (c : TxCmd R) → db.Resp c → Prop}
    {p : Prog db.sig ε α} {os : Nat → ω × (D → D)} {n : Nat} {s : Store D W}
    (hF : ∀ n, F (os n).2) (h : p.Along db.amid (fun c o s =>
      db.succeeds c (db.amid.exec c o s).1 = true ∧ A c (db.amid.exec c o s).1) os n s) :
    p.Along db.amid (db.Undisturbed F A) os n s := by
  induction p generalizing n s with
  | ret a => trivial
  | err e => trivial
  | call c k ih => exact ⟨⟨hF n, h.1⟩, ih _ h.2⟩

/-- A program that starts on data `d` returns, with `Q` of what it leaves. -/
def Ends (db : Database R D W K ω E) (F : (D → D) → Prop) (A : (c : TxCmd R) → db.Resp c → Prop)
    (p : Prog db.sig ε α) (d : D) (Q : α → D → Prop) : Prop :=
  ∀ s : Store D W, s.Numbered → s.data = d →
    p.twp db.amid (db.Undisturbed F A) (fun a s' => s'.Numbered ∧ Q a s'.data) s

/-- The same of a program in its transaction `tx`, which has made the writes
`ws`. -/
def EndsIn (db : Database R D W K ω E) (F : (D → D) → Prop)
    (A : (c : TxCmd R) → db.Resp c → Prop) (tx : Nat) (p : Prog db.sig ε α) (ws : List W) (d : D)
    (Q : α → List W → D → Prop) : Prop :=
  ∀ s : Store D W, s.Numbered → s.Lacks tx → s.data = d →
    p.twp db.amid (db.Undisturbed F A) (fun a s' => ∃ (s₁ : Store D W) (ws' : List W),
      s₁.Numbered ∧ s₁.Lacks tx ∧ s' = s₁.within tx ws' ∧ Q a ws' s₁.data) (s.within tx ws)

section Rules

variable {F : (D → D) → Prop} {A : (c : TxCmd R) → db.Resp c → Prop} {d : D} {tx : Nat}
  {ws : List W}

theorem Ends.mono {p : Prog db.sig ε α} {Q Q' : α → D → Prop} (h : db.Ends F A p d Q)
    (hQ : ∀ a d', Q a d' → Q' a d') : db.Ends F A p d Q' :=
  fun s hs hd => Prog.twp_mono (h s hs hd) fun a _ hq => ⟨hq.1, hQ a _ hq.2⟩

theorem ends_query {q : R} {Q : db.Ans q → D → Prop}
    (h : ∀ f o a ws, F f → A (.stmt none q) (.ok a) → db.exec q o (f d) = (.ok a, ws) →
      Q a (db.applyAll ws (f d))) :
    db.Ends F A (db.query wrap none q) d Q := by
  rintro s hs rfl ⟨o, f⟩ ⟨hf, hok, ha⟩
  cases hstep : (db.amid.exec (.stmt none q) (o, f) s).1 with
  | error e =>
      rw [hstep] at hok
      cases hok
  | ok a =>
      obtain ⟨hexec, hs'⟩ := query_ok hstep
      rw [show (db.amid.exec (.stmt none q) (o, f) s).2 = _ from hs']
      rw [hstep] at ha
      exact ⟨hs, h f o a _ hf ha (Prod.ext hexec rfl)⟩

theorem endsIn_ret {a : α} {Q : α → List W → D → Prop} (h : Q a ws d) :
    db.EndsIn F A tx (.ret a : Prog db.sig ε α) ws d Q := by
  rintro s hs htx rfl
  exact ⟨s, ws, hs, htx, rfl, h⟩

theorem EndsIn.mono {p : Prog db.sig ε α} {Q Q' : α → List W → D → Prop}
    (h : db.EndsIn F A tx p ws d Q) (hQ : ∀ a ws d', Q a ws d' → Q' a ws d') :
    db.EndsIn F A tx p ws d Q' := by
  refine fun s hs htx hd => Prog.twp_mono (h s hs htx hd) fun a s' hq => ?_
  obtain ⟨s₁, ws', hs₁, htx₁, rfl, hq⟩ := hq
  exact ⟨s₁, ws', hs₁, htx₁, rfl, hQ a _ _ hq⟩

theorem endsIn_bind {p : Prog db.sig ε α} {f : α → Prog db.sig ε β} {Q : β → List W → D → Prop}
    (h : db.EndsIn F A tx p ws d fun a ws' d' => db.EndsIn F A tx (f a) ws' d' Q) :
    db.EndsIn F A tx (p >>= f) ws d Q := by
  intro s hs htx hd
  refine Prog.twp_bind.mpr (Prog.twp_mono (h s hs htx hd) fun a s' hq => ?_)
  obtain ⟨s₁, ws', hs₁, htx₁, rfl, hq⟩ := hq
  exact hq s₁ hs₁ htx₁ rfl

theorem endsIn_stmt {q : R} {Q : db.Ans q → List W → D → Prop}
    (h : ∀ f o a ws', F f → db.exec q o (db.applyAll ws (f d)) = (.ok a, ws') →
      Q a (ws ++ ws') (f d)) :
    db.EndsIn F A tx (db.query wrap (some tx) q) ws d Q := by
  rintro s hs htx rfl ⟨o, f⟩ ⟨hf, hok, -⟩
  have hchanged : ({ s with data := f s.data } : Store D W).Lacks tx := htx
  cases hstep : (db.amid.exec (.stmt (some tx) q) (o, f) (s.within tx ws)).1 with
  | error e =>
      rw [hstep] at hok
      cases hok
  | ok a =>
      obtain ⟨ss, hss, -, hexec, hs'⟩ := stmt_ok hstep
      obtain rfl := Option.some.inj ((Store.session?_within hchanged).symm.trans hss)
      have hwritten : (db.amid.exec (.stmt (some tx) q) (o, f) (s.within tx ws)).2 = _ :=
        hs'.trans (Store.write_within hchanged)
      rw [hwritten]
      exact ⟨{ s with data := f s.data }, _, hs, htx, rfl, h f o a _ hf (Prod.ext hexec rfl)⟩

/-- A loop in a transaction: `I` of the elements done, the writes and the
data. -/
theorem endsIn_mapM {f : α → Prog db.sig ε β} {l : List α} {I : List α → List W → D → Prop}
    (hf : ∀ done a rest ws d, done ++ a :: rest = l → I done ws d →
      db.EndsIn F A tx (f a) ws d fun _ ws' d' => I (done ++ [a]) ws' d')
    (h : I [] ws d) : db.EndsIn F A tx (l.mapM f) ws d fun _ ws' d' => I l ws' d' := by
  suffices hloop : ∀ rest done ws d, done ++ rest = l → I done ws d →
      db.EndsIn F A tx (rest.mapM f) ws d fun _ ws' d' => I l ws' d' from hloop l [] ws d rfl h
  intro rest
  induction rest with
  | nil =>
      intro done ws d hl hd
      rw [List.append_nil] at hl
      subst hl
      exact endsIn_ret hd
  | cons a rest ih =>
      intro done ws d hl hd
      rw [List.mapM_cons]
      refine endsIn_bind ((hf done a rest ws d hl hd).mono fun b ws' d' hd' => endsIn_bind ?_)
      refine (ih (done ++ [a]) ws' d' ?_ hd').mono fun _ _ _ h => endsIn_ret h
      rw [List.append_assoc, List.singleton_append, hl]

/-- A transaction: what it has written is committed to what the data are by
then. -/
theorem ends_transaction {p : Nat → Prog db.sig ε β} {Q : β → D → Prop}
    (h : ∀ tx f, F f → db.EndsIn F A tx (p tx) [] (f d) fun a ws d' =>
      ∀ f, F f → Q a (db.applyAll ws (f d'))) :
    db.Ends F A (db.transaction wrap p) d Q := by
  rintro s hs rfl ⟨o, f⟩ ⟨hf, hok, -⟩
  cases hbegin : (db.amid.exec .begin (o, f) s).1 with
  | error e =>
      rw [hbegin] at hok
      cases hok
  | ok tx =>
      obtain ⟨rfl, hstart⟩ := begin_ok hbegin
      have hopen : (db.amid.exec .begin (o, f) s).2 =
          ({ s with data := f s.data, next := s.next + 1 } : Store D W).within s.next [] := hstart
      have hnumbered : ({ s with data := f s.data, next := s.next + 1 } : Store D W).Numbered :=
        hs.of_sessions rfl (Nat.le_succ _)
      rw [hopen]
      refine Prog.twp_bind.mpr (Prog.twp_attempt (Prog.twp_mono
        (h s.next f hf _ hnumbered hs.lacks rfl) ?_))
      rintro a _ ⟨s₁, ws, hs₁, htx₁, rfl, hq⟩ ⟨o, f⟩ ⟨hf, hok, -⟩
      cases hcommit : (db.amid.exec (.commit s.next) (o, f) (s₁.within s.next ws)).1 with
      | error e =>
          rw [hcommit] at hok
          cases hok
      | ok u =>
          have hchanged : ({ s₁ with data := f s₁.data } : Store D W).Lacks s.next := htx₁
          obtain ⟨ss, hss, hdone⟩ := commit_ok hcommit
          obtain rfl := Option.some.inj ((Store.session?_within hchanged).symm.trans hss)
          have hdropped : (db.amid.exec (.commit s.next) (o, f) (s₁.within s.next ws)).2 =
              { s₁ with data := db.applyAll ws (f s₁.data) } := by
            refine (hdone rfl).trans ?_
            exact congrArg (fun w : Store D W => { w with data := db.applyAll ws (f s₁.data) })
              (Store.drop_within hchanged)
          rw [hdropped]
          exact ⟨hs₁, hq f hf⟩

end Rules

end Database

end Conc
