import Mathlib.Data.List.Nodup
import Omnipax.Conc.Rely

/-!
# A database at READ COMMITTED

`Database` is a set of statements over some data: what a statement answers
on the data it sees, and the writes it makes there. A `Store` is the
committed data and the open transactions, each with the writes it has made
so far: a statement sees the committed data and the writes of its own
transaction, and a commit applies these to what is then committed.

A write takes a lock on its keys (a row, or a value of a unique index) until
its transaction is over. A statement that wants to write under a lock of
another transaction waits: a run takes its step when it no longer does
(`Database.waits`). So no two open transactions hold one key (`Store.Ok`),
and what depends on a locked key only is frozen until the holder commits
(`frozen_step`).

A request may be lost on its way, or its answer on the way back. A
transaction whose statement has failed takes no further statement, and its
commit is a rollback.
-/

namespace Conc

inductive Loss where
  | request
  | answer
deriving Repr, DecidableEq

/-- The statements `R` over data `D`, with writes `W` that lock keys `K`. -/
structure Database (R D W K ω E : Type) where
  Ans : R → Type
  exec : (q : R) → ω → D → Except E (Ans q) × List W
  apply : W → D → D
  keys : W → List K
  loss : ω → Option Loss
  /-- Answered in the process, without a request. -/
  inProcess : R → Bool
  /-- The error of what is lost, and of a transaction that is gone. -/
  gone : E

structure Session (W : Type) where
  id : Nat
  writes : List W
  failed : Bool

structure Store (D W : Type) where
  data : D
  sessions : List (Session W)
  next : Nat

inductive TxCmd (R : Type) where
  | begin
  | stmt (tx : Option Nat) (q : R)
  | commit (tx : Nat)
  | rollback (tx : Nat)

def TxCmd.tx? {R : Type} : TxCmd R → Option Nat
  | .begin => none
  | .stmt tx _ => tx
  | .commit tx => some tx
  | .rollback tx => some tx

namespace Store

variable {D W : Type}

def session? (s : Store D W) (tx : Nat) : Option (Session W) :=
  s.sessions.find? (·.id == tx)

def start (s : Store D W) : Store D W :=
  { s with sessions := s.sessions ++ [⟨s.next, [], false⟩], next := s.next + 1 }

def drop (s : Store D W) (tx : Nat) : Store D W :=
  { s with sessions := s.sessions.filter (·.id != tx) }

def write (s : Store D W) (tx : Nat) (ws : List W) : Store D W :=
  { s with sessions := s.sessions.map fun ss =>
      if ss.id = tx then { ss with writes := ss.writes ++ ws } else ss }

def fail (s : Store D W) (tx : Nat) : Store D W :=
  { s with sessions := s.sessions.map fun ss =>
      if ss.id = tx then { ss with failed := true } else ss }

def idle (d : D) : Store D W := ⟨d, [], 0⟩

end Store

namespace Database

variable {R D W K ω E : Type} (db : Database R D W K ω E)

abbrev Resp : TxCmd R → Type
  | .begin => Except E Nat
  | .stmt _ q => Except E (db.Ans q)
  | .commit _ => Except E Unit
  | .rollback _ => Unit

abbrev sig : Sig := ⟨TxCmd R, db.Resp⟩

def applyAll (ws : List W) (d : D) : D := ws.foldl (fun d w => db.apply w d) d

/-- The writes a statement makes if its request gets through: on the committed
data, or on what its open transaction sees. -/
def wants (tx : Option Nat) (q : R) (o : ω) (s : Store D W) : List W :=
  match tx with
  | none => (db.exec q o s.data).2
  | some tx =>
      match s.session? tx with
      | none => []
      | some ss => if ss.failed then [] else (db.exec q o (db.applyAll ss.writes s.data)).2

/-- A statement by itself: it is committed at once. -/
def autocommit (q : R) (o : ω) (s : Store D W) : Except E (db.Ans q) × Store D W :=
  match if db.inProcess q then none else db.loss o with
  | none =>
      ((db.exec q o s.data).1, { s with data := db.applyAll (db.exec q o s.data).2 s.data })
  | some .request => (.error db.gone, s)
  | some .answer =>
      (.error db.gone, { s with data := db.applyAll (db.exec q o s.data).2 s.data })

/-- A statement of an open transaction. -/
def stmtIn (ss : Session W) (q : R) (o : ω) (s : Store D W) :
    Except E (db.Ans q) × Store D W :=
  if ss.failed then (.error db.gone, s)
  else
    match db.loss o with
    | some _ => (.error db.gone, s.fail ss.id)
    | none =>
        match db.exec q o (db.applyAll ss.writes s.data) with
        | (.ok a, ws) => (.ok a, s.write ss.id ws)
        | (.error e, _) => (.error e, s.fail ss.id)

def commit (ss : Session W) (o : ω) (s : Store D W) : Except E Unit × Store D W :=
  if ss.failed then (.ok (), s.drop ss.id)
  else
    match db.loss o with
    | none => (.ok (), { s.drop ss.id with data := db.applyAll ss.writes s.data })
    | some .request => (.error db.gone, s.drop ss.id)
    | some .answer => (.error db.gone, { s.drop ss.id with data := db.applyAll ss.writes s.data })

def step : (c : TxCmd R) → ω → Store D W → db.Resp c × Store D W
  | .begin, o, s =>
      match db.loss o with
      | none => (.ok s.next, s.start)
      | some .request => (.error db.gone, { s with next := s.next + 1 })
      | some .answer => (.error db.gone, s.start)
  | .stmt none q, o, s => db.autocommit q o s
  | .stmt (some tx) q, o, s =>
      match s.session? tx with
      | none => (.error db.gone, s)
      | some ss => db.stmtIn ss q o s
  | .commit tx, o, s =>
      match s.session? tx with
      | none => (.error db.gone, s)
      | some ss => db.commit ss o s
  | .rollback tx, _, s => ((), s.drop tx)

/-! ## Locks -/

def holds (ss : Session W) (k : K) : Prop := ∃ w ∈ ss.writes, k ∈ db.keys w

variable [DecidableEq K]

/-- The statement wants to write under a lock of another transaction. -/
def blocked (tx : Option Nat) (q : R) (o : ω) (s : Store D W) : Bool :=
  (db.wants tx q o s).any fun w => (db.keys w).any fun k =>
    s.sessions.any fun ss => some ss.id != tx && ss.writes.any fun w' => (db.keys w').contains k

/-- The command gets to the database and has to wait there. -/
def waits (c : TxCmd R) (o : ω) (s : Store D W) : Bool :=
  match c with
  | .stmt tx q => db.blocked tx q o s && (db.inProcess q || db.loss o != some .request)
  | _ => false

/-- Transactions have numbers of their own, and no two of them hold a key. -/
structure StoreOk (s : Store D W) : Prop where
  ids : (s.sessions.map (·.id)).Nodup
  fresh : ∀ ss ∈ s.sessions, ss.id < s.next
  exclusive : ∀ ss ∈ s.sessions, ∀ ss' ∈ s.sessions, ss.id ≠ ss'.id → ∀ k, db.holds ss k →
    ¬db.holds ss' k

end Database

/-! ## Sessions -/

namespace Store

variable {D W : Type} {s : Store D W} {tx tx' : Nat} {ss : Session W}

theorem mem_of_session? (h : s.session? tx = some ss) : ss ∈ s.sessions ∧ ss.id = tx :=
  ⟨List.mem_of_find?_eq_some h, by simpa using List.find?_some h⟩

theorem session?_drop_self : (s.drop tx).session? tx = none := by
  simp [session?, drop]

theorem session?_drop (h : tx ≠ tx') : (s.drop tx).session? tx' = s.session? tx' := by
  unfold session? drop
  rw [List.find?_filter]
  congr 1
  funext ss
  by_cases hid : ss.id = tx'
  · simp [hid, h.symm]
  · simp [hid]

theorem session?_drop_some (h : (s.drop tx).session? tx' = some ss) : s.session? tx' = some ss := by
  by_cases htx : tx = tx'
  · subst htx
    rw [session?_drop_self] at h
    cases h
  · rwa [session?_drop htx] at h

theorem session?_map {f : Session W → Session W} (hf : ∀ ss, (f ss).id = ss.id) :
    (s.sessions.map f).find? (·.id == tx) = (s.session? tx).map f := by
  rw [List.find?_map]
  congr 1
  exact congrArg (fun p => s.sessions.find? p) (funext fun ss => by simp [hf])

theorem session?_write (ws : List W) :
    (s.write tx ws).session? tx' =
      if tx' = tx then (s.session? tx').map fun ss => { ss with writes := ss.writes ++ ws }
      else s.session? tx' := by
  unfold write
  rw [session?, session?_map (fun ss => by split <;> rfl)]
  cases h : s.session? tx' with
  | none => simp
  | some ss =>
      obtain ⟨-, hid⟩ := mem_of_session? h
      by_cases htx : tx' = tx
      · simp [htx, hid]
      · simp [htx, hid]

theorem session?_fail :
    (s.fail tx).session? tx' =
      if tx' = tx then (s.session? tx').map fun ss => { ss with failed := true }
      else s.session? tx' := by
  unfold fail
  rw [session?, session?_map (fun ss => by split <;> rfl)]
  cases h : s.session? tx' with
  | none => simp
  | some ss =>
      obtain ⟨-, hid⟩ := mem_of_session? h
      by_cases htx : tx' = tx
      · simp [htx, hid]
      · simp [htx, hid]

theorem session?_start_of_lt (h : tx < s.next) : s.start.session? tx = s.session? tx := by
  unfold start session?
  rw [List.find?_append]
  cases hs : s.sessions.find? (·.id == tx) with
  | some ss => rfl
  | none =>
      simp
      omega

end Store

/-! ## What a command can do -/

namespace Database

variable {R D W K ω E : Type} {db : Database R D W K ω E} {s : Store D W} {c : TxCmd R} {o : ω}

theorem applyAll_cons (w : W) (ws : List W) (d : D) :
    db.applyAll (w :: ws) d = db.applyAll ws (db.apply w d) := rfl

theorem mem_wants {t : Option Nat} {q : R} {w : W} (h : w ∈ db.wants t q o s) :
    ∃ d, w ∈ (db.exec q o d).2 := by
  unfold wants at h
  split at h
  · exact ⟨_, h⟩
  · split at h
    · cases h
    · split at h
      · cases h
      · exact ⟨_, h⟩

theorem applyAll_append (ws ws' : List W) (d : D) :
    db.applyAll (ws ++ ws') d = db.applyAll ws' (db.applyAll ws d) :=
  List.foldl_append ..

theorem applyAll_of_forall {I : D → Prop} {ws : List W} {d : D} (hI : ∀ w ∈ ws, ∀ d, I d →
    I (db.apply w d)) (h : I d) : I (db.applyAll ws d) := by
  induction ws generalizing d with
  | nil => exact h
  | cons w ws ih =>
      exact ih (fun w' hw' => hI w' (List.mem_cons_of_mem _ hw')) (hI w (List.mem_cons_self ..) d h)

/-- What a command makes of the committed data and of the open transactions. -/
inductive Effect (db : Database R D W K ω E) (c : TxCmd R) (o : ω) (s : Store D W) :
    D → List (Session W) → Prop where
  | none : Effect db c o s s.data s.sessions
  | start : c = .begin → Effect db c o s s.data s.start.sessions
  | autocommit {q : R} : c = .stmt none q → (db.inProcess q || db.loss o != some .request) = true →
      Effect db c o s (db.applyAll (db.wants none q o s) s.data) s.sessions
  | drop (tx : Nat) : c.tx? = some tx → Effect db c o s s.data (s.drop tx).sessions
  | fail (tx : Nat) : c.tx? = some tx → Effect db c o s s.data (s.fail tx).sessions
  | write {ss : Session W} {q : R} : c = .stmt (some ss.id) q → s.session? ss.id = some ss →
      ss.failed = false → db.loss o = none →
      Effect db c o s s.data (s.write ss.id (db.wants (some ss.id) q o s)).sessions
  | commit {ss : Session W} : c = .commit ss.id → s.session? ss.id = some ss → ss.failed = false →
      db.loss o ≠ some .request →
      Effect db c o s (db.applyAll ss.writes s.data) (s.drop ss.id).sessions

theorem step_effect (db : Database R D W K ω E) (c : TxCmd R) (o : ω) (s : Store D W) :
    Effect db c o s (db.step c o s).2.data (db.step c o s).2.sessions := by
  cases c with
  | begin =>
      simp only [step]
      split
      · exact .start rfl
      · exact .none
      · exact .start rfl
  | stmt tx q =>
      cases tx with
      | none =>
          simp only [step, Database.autocommit]
          split
          · rename_i h
            refine .autocommit rfl ?_
            split at h
            · rename_i hq
              rw [hq]
              rfl
            · simp [h]
          · exact .none
          · rename_i h
            refine .autocommit rfl ?_
            split at h
            · cases h
            · simp [h]
      | some tx =>
          simp only [step]
          split
          · exact .none
          · rename_i ss hss
            obtain ⟨-, rfl⟩ := Store.mem_of_session? hss
            unfold stmtIn
            split
            · exact .none
            · rename_i hgo
              split
              · exact .fail _ rfl
              · rename_i hloss
                split
                · rename_i a ws hexec
                  have hwants : db.wants (some ss.id) q o s = ws := by
                    rw [wants, hss]
                    dsimp only
                    rw [if_neg hgo, hexec]
                  rw [← hwants]
                  exact .write rfl hss (by simpa using hgo) hloss
                · exact .fail _ rfl
  | commit tx =>
      simp only [step]
      split
      · exact .none
      · rename_i ss hss
        obtain ⟨-, rfl⟩ := Store.mem_of_session? hss
        unfold Database.commit
        by_cases hf : ss.failed = true
        · rw [if_pos hf]
          exact .drop _ rfl
        · rw [if_neg hf]
          have hgo : ss.failed = false := by simpa using hf
          split
          · rename_i hloss
            exact .commit rfl hss hgo (by simp [hloss])
          · exact .drop _ rfl
          · rename_i hloss
            exact .commit rfl hss hgo (by simp [hloss])
  | rollback tx => exact .drop tx rfl

/-- Committed data change by the writes of a statement by itself, or by
those of a transaction that commits. -/
theorem step_data (db : Database R D W K ω E) (c : TxCmd R) (o : ω) (s : Store D W) :
    (db.step c o s).2.data = s.data ∨
      (∃ q, c = .stmt none q ∧ (db.inProcess q || db.loss o != some .request) = true ∧
        (db.step c o s).2.data = db.applyAll (db.wants none q o s) s.data) ∨
      ∃ ss, c = .commit ss.id ∧ ss ∈ s.sessions ∧ ss.failed = false ∧
        (db.step c o s).2.data = db.applyAll ss.writes s.data := by
  have h := step_effect db c o s
  generalize (db.step c o s).2.data = d at h ⊢
  generalize (db.step c o s).2.sessions = l at h
  cases h with
  | none => exact Or.inl rfl
  | start _ => exact Or.inl rfl
  | autocommit hc hsent => exact Or.inr (Or.inl ⟨_, hc, hsent, rfl⟩)
  | drop _ _ => exact Or.inl rfl
  | fail _ _ => exact Or.inl rfl
  | write _ _ _ _ => exact Or.inl rfl
  | commit hc hss hgo _ =>
      exact Or.inr (Or.inr ⟨_, hc, (Store.mem_of_session? hss).1, hgo, rfl⟩)

theorem data_of_forall {I : D → Prop} (hI : ∀ w d, I d → I (db.apply w d)) (c : TxCmd R) (o : ω)
    (h : I s.data) : I (db.step c o s).2.data := by
  rcases step_data db c o s with hd | ⟨q, -, -, hd⟩ | ⟨ss, -, -, -, hd⟩ <;> rw [hd]
  · exact h
  · exact applyAll_of_forall (fun w _ => hI w) h
  · exact applyAll_of_forall (fun w _ => hI w) h

/-- What a command does to the open transactions. -/
inductive Sessions (db : Database R D W K ω E) (c : TxCmd R) (o : ω) (s : Store D W) :
    List (Session W) → Prop where
  | same : Sessions db c o s s.sessions
  | start : c = .begin → Sessions db c o s s.start.sessions
  | drop (tx : Nat) : c.tx? = some tx → Sessions db c o s (s.drop tx).sessions
  | fail (tx : Nat) : c.tx? = some tx → Sessions db c o s (s.fail tx).sessions
  | write {ss : Session W} {q : R} : c = .stmt (some ss.id) q → s.session? ss.id = some ss →
      db.loss o = none → Sessions db c o s (s.write ss.id (db.wants (some ss.id) q o s)).sessions

theorem step_sessions (db : Database R D W K ω E) (c : TxCmd R) (o : ω) (s : Store D W) :
    Sessions db c o s (db.step c o s).2.sessions := by
  have h := step_effect db c o s
  generalize (db.step c o s).2.data = d at h
  generalize (db.step c o s).2.sessions = l at h ⊢
  cases h with
  | none => exact .same
  | start hc => exact .start hc
  | autocommit _ _ => exact .same
  | drop tx hc => exact .drop tx hc
  | fail tx hc => exact .fail tx hc
  | write hc hss _ hloss => exact .write hc hss hloss
  | commit hc _ _ _ => exact .drop _ (by rw [hc]; rfl)

theorem next_begin (o : ω) (s : Store D W) : (db.step .begin o s).2.next = s.next + 1 := by
  simp only [step]
  split <;> rfl

theorem le_next_step (c : TxCmd R) (o : ω) (s : Store D W) :
    s.next ≤ (db.step c o s).2.next := by
  cases c with
  | begin =>
      rw [next_begin]
      omega
  | stmt tx q =>
      cases tx with
      | none =>
          simp only [step, autocommit]
          split <;> exact Nat.le_refl _
      | some tx =>
          simp only [step]
          split
          · exact Nat.le_refl _
          · unfold stmtIn
            split
            · exact Nat.le_refl _
            · split
              · exact Nat.le_refl _
              · split <;> exact Nat.le_refl _
  | commit tx =>
      simp only [step]
      split
      · exact Nat.le_refl _
      · unfold commit
        split
        · exact Nat.le_refl _
        · split <;> exact Nat.le_refl _
  | rollback tx => exact Nat.le_refl _

/-- All the open transactions have written are writes of a kind. -/
def WritesIn (Pw : W → Prop) (s : Store D W) : Prop :=
  ∀ ss ∈ s.sessions, ∀ w ∈ ss.writes, Pw w

/-- A command whose statement makes writes of the kind does no others. -/
theorem writesIn_step {Pw : W → Prop} (h : WritesIn Pw s)
    (hq : ∀ t q, c = .stmt t q → ∀ w ∈ db.wants t q o s, Pw w) :
    WritesIn Pw (db.step c o s).2 ∧
      ∃ ws, (∀ w ∈ ws, Pw w) ∧ (db.step c o s).2.data = db.applyAll ws s.data := by
  have heffect := step_effect db c o s
  generalize (db.step c o s).2 = s' at heffect ⊢
  have hsame : ∃ ws, (∀ w ∈ ws, Pw w) ∧ s.data = db.applyAll ws s.data := ⟨[], nofun, rfl⟩
  obtain ⟨d, l, n⟩ := s'
  cases heffect with
  | none => exact ⟨h, hsame⟩
  | start hc =>
      refine ⟨fun ss hss => ?_, hsame⟩
      rcases List.mem_append.mp hss with hss | hss
      · exact h ss hss
      · obtain rfl := List.mem_singleton.mp hss
        nofun
  | autocommit hc _ => exact ⟨h, _, hq _ _ hc, rfl⟩
  | drop tx _ => exact ⟨fun ss hss => h ss (List.mem_filter.mp hss).1, hsame⟩
  | fail tx _ =>
      refine ⟨fun ss hss => ?_, hsame⟩
      obtain ⟨ss₀, hss₀, rfl⟩ := List.mem_map.mp hss
      split <;> exact h ss₀ hss₀
  | @write ss₁ q hc _ _ _ =>
      refine ⟨fun ss hss => ?_, hsame⟩
      obtain ⟨ss₀, hss₀, rfl⟩ := List.mem_map.mp hss
      split
      · intro w hw
        rcases List.mem_append.mp hw with hw | hw
        · exact h ss₀ hss₀ w hw
        · exact hq _ _ hc w hw
      · exact h ss₀ hss₀
  | @commit ss hc hss _ _ =>
      exact ⟨fun ss' hss' => h ss' (List.mem_filter.mp hss').1, _,
        h ss (Store.mem_of_session? hss).1, rfl⟩

/-- A session after a command: a new one, or one that was there, with what its
statement has written. -/
theorem session_of_step {ss : Session W} (h : ss ∈ (db.step c o s).2.sessions) :
    ss.writes = [] ∨ ∃ ss₀ ∈ s.sessions, ss₀.id = ss.id ∧
      (ss.writes = ss₀.writes ∨ ∃ q, c = .stmt (some ss.id) q ∧ db.loss o = none ∧
        ss.writes = ss₀.writes ++ db.wants (some ss.id) q o s) := by
  generalize hsess : (db.step c o s).2.sessions = l at h
  have hstep := step_sessions db c o s
  rw [hsess] at hstep
  cases hstep with
  | same => exact Or.inr ⟨ss, h, rfl, Or.inl rfl⟩
  | start _ =>
      rcases List.mem_append.mp h with h | h
      · exact Or.inr ⟨ss, h, rfl, Or.inl rfl⟩
      · obtain rfl := List.mem_singleton.mp h
        exact Or.inl rfl
  | drop tx _ => exact Or.inr ⟨ss, (List.mem_filter.mp h).1, rfl, Or.inl rfl⟩
  | fail tx _ =>
      obtain ⟨ss₀, hss₀, rfl⟩ := List.mem_map.mp h
      exact Or.inr ⟨ss₀, hss₀, by split <;> rfl, Or.inl (by split <;> rfl)⟩
  | @write ss₁ q hc hss₁ hloss =>
      obtain ⟨ss₀, hss₀, rfl⟩ := List.mem_map.mp h
      refine Or.inr ⟨ss₀, hss₀, by split <;> rfl, ?_⟩
      split
      · rename_i hid
        rw [hid]
        exact Or.inr ⟨q, hc, hloss, rfl⟩
      · exact Or.inl rfl

theorem mem_writes_of_step {ss : Session W} (h : ss ∈ (db.step c o s).2.sessions) {w : W}
    (hw : w ∈ ss.writes) : ∃ ss₀ ∈ s.sessions, ss₀.id = ss.id ∧
      (w ∈ ss₀.writes ∨ ∃ q, c = .stmt (some ss.id) q ∧ db.loss o = none ∧
        w ∈ db.wants (some ss.id) q o s) := by
  rcases session_of_step h with hnil | ⟨ss₀, hss₀, hid, hsame | ⟨q, hc, hloss, happ⟩⟩
  · rw [hnil] at hw
    cases hw
  · exact ⟨ss₀, hss₀, hid, Or.inl (hsame ▸ hw)⟩
  · rw [happ] at hw
    refine ⟨ss₀, hss₀, hid, (List.mem_append.mp hw).imp id fun hw => ⟨q, hc, hloss, hw⟩⟩

theorem id_ne_of_commit {tx : Nat} {ss : Session W}
    (h : ss ∈ (db.step (.commit tx) o s).2.sessions) : ss.id ≠ tx := by
  have hdrop : ss ∈ (s.drop tx).sessions → ss.id ≠ tx := fun h => by
    simpa using (List.mem_filter.mp h).2
  simp only [step] at h
  cases hss : s.session? tx with
  | none =>
      rw [hss] at h
      simpa using List.find?_eq_none.mp hss ss h
  | some ss' =>
      obtain ⟨-, rfl⟩ := Store.mem_of_session? hss
      rw [hss] at h
      simp only [commit] at h
      split at h
      · exact hdrop h
      · split at h <;> exact hdrop h

theorem holds_of_step {ss : Session W} (h : ss ∈ (db.step c o s).2.sessions) {k : K}
    (hk : db.holds ss k) : ∃ ss₀ ∈ s.sessions, ss₀.id = ss.id ∧
      (db.holds ss₀ k ∨ ∃ q, c = .stmt (some ss.id) q ∧ db.loss o = none ∧
        ∃ w ∈ db.wants (some ss.id) q o s, k ∈ db.keys w) := by
  obtain ⟨w, hw, hkw⟩ := hk
  obtain ⟨ss₀, hss₀, hid, hw | ⟨q, hc, hloss, hwant⟩⟩ := mem_writes_of_step h hw
  · exact ⟨ss₀, hss₀, hid, Or.inl ⟨w, hw, hkw⟩⟩
  · exact ⟨ss₀, hss₀, hid, Or.inr ⟨q, hc, hloss, w, hwant, hkw⟩⟩

theorem ids_step (h : db.StoreOk s) : ((db.step c o s).2.sessions.map (·.id)).Nodup ∧
    ∀ ss ∈ (db.step c o s).2.sessions, ss.id < (db.step c o s).2.next := by
  have hnext : s.next ≤ (db.step c o s).2.next := le_next_step c o s
  have hlt : ∀ ss ∈ s.sessions, ss.id < (db.step c o s).2.next :=
    fun ss hss => Nat.lt_of_lt_of_le (h.fresh ss hss) hnext
  have hmap : ∀ f : Session W → Session W, (∀ ss, (f ss).id = ss.id) →
      ((s.sessions.map f).map (·.id)).Nodup ∧ ∀ ss ∈ s.sessions.map f,
        ss.id < (db.step c o s).2.next := by
    intro f hf
    constructor
    · rw [List.map_map, show (fun ss : Session W => ss.id) ∘ f = (·.id) from funext hf]
      exact h.ids
    · intro ss hss
      obtain ⟨ss₀, hss₀, rfl⟩ := List.mem_map.mp hss
      rw [hf]
      exact hlt ss₀ hss₀
  generalize hsess : (db.step c o s).2.sessions = l
  have hstep := step_sessions db c o s
  rw [hsess] at hstep
  cases hstep with
  | same => exact ⟨h.ids, hlt⟩
  | start hc =>
      subst hc
      simp only [Store.start, List.map_append, List.mem_append, List.mem_singleton, List.map_cons,
        List.map_nil]
      constructor
      · refine List.nodup_append.mpr ⟨h.ids, List.pairwise_singleton .., fun id hid id' hid' => ?_⟩
        obtain ⟨ss, hss, rfl⟩ := List.mem_map.mp hid
        obtain rfl : id' = s.next := by simpa using hid'
        have := h.fresh ss hss
        omega
      · rintro ss (hss | rfl)
        · exact hlt ss hss
        · rw [next_begin]
          exact Nat.lt_succ_self _
  | drop tx _ =>
      refine ⟨h.ids.sublist (List.filter_sublist.map _), fun ss hss => ?_⟩
      exact hlt ss (List.mem_filter.mp hss).1
  | fail tx _ => exact hmap _ fun ss => by split <;> rfl
  | write _ _ _ => exact hmap _ fun ss => by split <;> rfl

variable [DecidableEq K]

theorem not_blocked {tx : Option Nat} {q : R} (h : db.blocked tx q o s = false) {w : W}
    (hw : w ∈ db.wants tx q o s) {k : K} (hk : k ∈ db.keys w) {ss : Session W}
    (hss : ss ∈ s.sessions) (hid : some ss.id ≠ tx) :
    ¬db.holds ss k := by
  rintro ⟨w', hw', hk'⟩
  refine Bool.eq_false_iff.mp h (List.any_eq_true.mpr ⟨w, hw, List.any_eq_true.mpr ⟨k, hk,
    List.any_eq_true.mpr ⟨ss, hss, ?_⟩⟩⟩)
  rw [Bool.and_eq_true, bne_iff_ne, List.any_eq_true]
  exact ⟨hid, w', hw', by simpa using hk'⟩

omit [DecidableEq K] in
theorem session?_of_mem (h : db.StoreOk s) {ss : Session W} (hss : ss ∈ s.sessions) :
    s.session? ss.id = some ss := by
  cases hf : s.session? ss.id with
  | none => simpa using List.find?_eq_none.mp hf ss hss
  | some ss' =>
      obtain ⟨hmem, hid⟩ := Store.mem_of_session? hf
      exact congrArg some (List.inj_on_of_nodup_map h.ids hmem hss hid)

/-- **Step**: locks stay exclusive. -/
theorem storeOk_step (h : db.StoreOk s) (hw : db.waits c o s = false) :
    db.StoreOk (db.step c o s).2 where
  ids := (ids_step h).1
  fresh := (ids_step h).2
  exclusive ss hss ss' hss' hne k hk hk' := by
    obtain ⟨ss₀, hss₀, hid, hold⟩ := holds_of_step hss hk
    obtain ⟨ss₁, hss₁, hid', hold'⟩ := holds_of_step hss' hk'
    have hne₀ : ss₀.id ≠ ss₁.id := fun heq => hne (hid.symm.trans (heq.trans hid'))
    have hblocked : ∀ {tx q}, c = .stmt (some tx) q → db.loss o = none →
        db.blocked (some tx) q o s = false := by
      rintro tx q rfl hloss
      simpa [waits, hloss] using hw
    rcases hold with hold | ⟨q, hc, hloss, w, hwant, hkw⟩
    · rcases hold' with hold' | ⟨q, hc, hloss, w, hwant, hkw⟩
      · exact h.exclusive ss₀ hss₀ ss₁ hss₁ hne₀ k hold hold'
      · refine not_blocked (hblocked hc hloss) hwant hkw hss₀ ?_ hold
        rw [← hid']
        simpa using hne₀
    · rcases hold' with hold' | ⟨q', hc', -⟩
      · refine not_blocked (hblocked hc hloss) hwant hkw hss₁ ?_ hold'
        rw [← hid]
        simpa using hne₀.symm
      · rw [hc] at hc'
        simp only [TxCmd.stmt.injEq, Option.some.injEq] at hc'
        exact hne hc'.1

/-- What the writes under other keys keep is kept until the holder commits. -/
theorem frozen_step {F : D → Prop} (h : db.StoreOk s) {ss : Session W} (hss : ss ∈ s.sessions)
    (hF : ∀ w d, (∀ k ∈ db.keys w, ¬db.holds ss k) → F d → F (db.apply w d))
    (hw : db.waits c o s = false) (hc : c ≠ .commit ss.id) (hs : F s.data) :
    F (db.step c o s).2.data := by
  have hall : ∀ ws : List W, (∀ w ∈ ws, ∀ k ∈ db.keys w, ¬db.holds ss k) →
      F (db.applyAll ws s.data) :=
    fun ws hws => applyAll_of_forall (fun w hw' d => hF w d (hws w hw')) hs
  rcases step_data db c o s with hd | ⟨q, rfl, hsent, hd⟩ | ⟨ss', rfl, hss', -, hd⟩ <;> rw [hd]
  · exact hs
  · have hb : db.blocked none q o s = false := by
      simpa [waits, hsent] using hw
    exact hall _ fun w hw' k hkw => not_blocked hb hw' hkw hss nofun
  · refine hall _ fun w hw' k hkw hk => ?_
    exact h.exclusive ss hss ss' hss' (fun hid => hc (by rw [hid])) k hk ⟨w, hw', hkw⟩

end Database

end Conc
