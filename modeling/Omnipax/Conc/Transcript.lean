import Omnipax.Conc.Transaction

/-!
# What a call has been told

The transcript of a call is its own commands so far with their answers. No
other call can change it, so an assertion about it needs no stability:
`Prog.told` is the logic of a program that is interrupted anywhere by
anything, where all that is known is what it has asked and been answered.

What such assertions say about the shared state is a matter for the
invariant of the pool (`toldOutline`): the assertion tells why the call
issues a command, and the invariant what the command then does.
-/

namespace Conc

variable {S : Sig} {σ ω η ε ρ Op : Type}

/-- Commands and their answers, the newest first. -/
abbrev Transcript (S : Sig) := List ((c : S.Cmd) × S.Resp c)

def transcript (M : System S σ ω η ε ρ Op) (i : Nat) (hist : List (Event S σ ω Op)) :
    Transcript S :=
  hist.filterMap fun e =>
    if e.tid = i then some ⟨e.cmd, (M.exec e.cmd e.oracle e.before).1⟩ else none

section Transcript

variable {M : System S σ ω η ε ρ Op} {O : Outline S σ ω Op} {i j : Nat} {s s' : Snap S σ ω Op}

theorem transcript_exec (op : Op) (c : S.Cmd) (o : ω) :
    transcript M i (s.exec M i op c o).hist =
      ⟨c, (M.exec c o s.world).1⟩ :: transcript M i s.hist := by
  rw [Snap.exec_hist, transcript, List.filterMap_cons, if_pos rfl]
  rfl

theorem transcript_exec_other (hij : j ≠ i) (op : Op) (c : S.Cmd) (o : ω) :
    transcript M i (s.exec M j op c o).hist = transcript M i s.hist := by
  rw [Snap.exec_hist, transcript, List.filterMap_cons, if_neg hij]
  rfl

theorem transcript_interferes (h : Relation.ReflTransGen (Interferes M O i) s s') :
    transcript M i s'.hist = transcript M i s.hist := by
  induction h with
  | refl => rfl
  | tail _ hstep ih =>
      refine Eq.trans ?_ ih
      cases hstep with
      | env e _ => rfl
      | other hj _ _ _ _ => exact transcript_exec_other hj ..

theorem transcript_of_not_mine {hist : List (Event S σ ω Op)} (h : ∀ e ∈ hist, e.tid ≠ i) :
    transcript M i hist = [] :=
  List.filterMap_eq_nil_iff.mpr fun e he => if_neg (h e he)

theorem mem_transcript {said : (c : S.Cmd) × S.Resp c}
    (h : said ∈ transcript M i s.hist) : ∃ e ∈ s.hist, e.tid = i ∧
      said = ⟨e.cmd, (M.exec e.cmd e.oracle e.before).1⟩ := by
  obtain ⟨e, he, hsaid⟩ := List.mem_filterMap.mp h
  by_cases htid : e.tid = i
  · rw [if_pos htid] at hsaid
    exact ⟨e, he, htid, (Option.some.inj hsaid).symm⟩
  · rw [if_neg htid] at hsaid
    cases hsaid

theorem mem_transcript_of_mem {e : Event S σ ω Op} (h : e ∈ s.hist) :
    ⟨e.cmd, (M.exec e.cmd e.oracle e.before).1⟩ ∈ transcript M e.tid s.hist :=
  List.mem_filterMap.mpr ⟨e, h, if_pos rfl⟩

end Transcript

/-! ## The logic -/

namespace Prog

variable {α β : Type} {ok : Transcript S → S.Cmd → Prop}
  {can : Transcript S → (c : S.Cmd) → S.Resp c → Prop}

/-- Every command meets `ok` of what has been said before, whatever answers
that `can` come have come; a result ends in `Q` and an exception in `E`. -/
def told (ok : Transcript S → S.Cmd → Prop)
    (can : Transcript S → (c : S.Cmd) → S.Resp c → Prop) : Prog S ε α →
      (α → Transcript S → Prop) → (ε → Transcript S → Prop) → Transcript S → Prop
  | .ret a, Q, _, t => Q a t
  | .err e, _, E, t => E e t
  | .call c k, Q, E, t => ok t c ∧ ∀ r, can t c r → (k r).told ok can Q E (⟨c, r⟩ :: t)

variable {p : Prog S ε α} {Q Q' : α → Transcript S → Prop} {E E' : ε → Transcript S → Prop}
  {t : Transcript S}

theorem told_bind {f : α → Prog S ε β} {Q : β → Transcript S → Prop} :
    (p >>= f).told ok can Q E t ↔ p.told ok can (fun a => (f a).told ok can Q E) E t := by
  induction p generalizing t with
  | ret a => exact Iff.rfl
  | err e => exact Iff.rfl
  | call c k ih => exact and_congr_right' (forall₂_congr fun r _ => ih r)

theorem told_attempt {Q : Except ε α → Transcript S → Prop} :
    p.attempt.told ok can Q E t ↔
      p.told ok can (fun a => Q (.ok a)) (fun e => Q (.error e)) t := by
  induction p generalizing t with
  | ret a => exact Iff.rfl
  | err e => exact Iff.rfl
  | call c k ih => exact and_congr_right' (forall₂_congr fun r _ => ih r)

theorem told_mono (h : p.told ok can Q E t) (hQ : ∀ a t, Q a t → Q' a t)
    (hE : ∀ e t, E e t → E' e t) : p.told ok can Q' E' t := by
  induction p generalizing t with
  | ret a => exact hQ _ _ h
  | err e => exact hE _ _ h
  | call c k ih => exact ⟨h.1, fun r hr => ih r (h.2 r hr)⟩

theorem told_weaken {ok' : Transcript S → S.Cmd → Prop} (h : p.told ok can Q E t)
    (hok : ∀ t c, ok t c → ok' t c) : p.told ok' can Q E t := by
  induction p generalizing t with
  | ret a => exact h
  | err e => exact h
  | call c k ih => exact ⟨hok t c h.1, fun r hr => ih r (h.2 r hr)⟩

theorem told_throwIf {b : Bool} {e : ε} {f : Unit → Prog S ε β} {Q : β → Transcript S → Prop}
    (hE : E e t) (h : b = false → (f ()).told ok can Q E t) :
    (throwIf b e >>= f).told ok can Q E t := by
  cases b with
  | true => exact hE
  | false => exact h rfl

/-- What the commands of a program do not touch stays known. -/
theorem told_keep (h : p.told ok can Q E t) {P : S.Cmd → Prop} (hp : p.All P)
    {F : Transcript S → Prop} (hF : ∀ c r t, P c → can t c r → F t → F (⟨c, r⟩ :: t)) (ht : F t) :
    p.told ok can (fun a t => Q a t ∧ F t) (fun e t => E e t ∧ F t) t := by
  induction p generalizing t with
  | ret a => exact ⟨h, ht⟩
  | err e => exact ⟨h, ht⟩
  | call c k ih => exact ⟨h.1, fun r hr => ih r (h.2 r hr) (hp.2 r) (hF c r t hp.1 hr ht)⟩

/-- A program all of whose commands are fine where `F` holds. -/
theorem told_of_all {P : S.Cmd → Prop} (hp : p.All P) {F : Transcript S → Prop}
    (hok : ∀ c t, P c → F t → ok t c) (hF : ∀ c r t, P c → can t c r → F t → F (⟨c, r⟩ :: t))
    (ht : F t) :
    p.told ok can (fun _ => F) (fun _ => F) t := by
  induction p generalizing t with
  | ret a => exact ht
  | err e => exact ht
  | call c k ih => exact ⟨hok c t hp.1 ht, fun r hr => ih r (hp.2 r) (hF c r t hp.1 hr ht)⟩

/-- All commands of a program are of a kind, and so all that have been issued. -/
theorem told_all (h : p.told ok can Q E t) {P : S.Cmd → Prop} (hp : p.All P)
    (ht : ∀ said ∈ t, P said.1) :
    p.told (fun t c => ok t c ∧ P c ∧ ∀ said ∈ t, P said.1) can Q E t := by
  induction p generalizing t with
  | ret a => exact h
  | err e => exact h
  | call c k ih =>
      refine ⟨⟨h.1, hp.1, ht⟩, fun r hr => ih r (h.2 r hr) (hp.2 r) fun said hsaid => ?_⟩
      rcases List.mem_cons.mp hsaid with rfl | hsaid
      · exact hp.1
      · exact ht said hsaid

/-- A loop over elements each of which has a fact of its own, that the rounds
before it keep. -/
theorem told_mapM {f : α → Prog S ε β} {F : α → Transcript S → Prop} {P : α → S.Cmd → Prop}
    {l : List α} (hF : ∀ a c r t, P a c → can t c r → F a t → F a (⟨c, r⟩ :: t))
    (hall : l.Pairwise fun a a' => (f a).All (P a'))
    (hf : ∀ a ∈ l, ∀ t, F a t → (f a).told ok can (fun _ _ => True) E t)
    (ht : ∀ a ∈ l, F a t) : (l.mapM f).told ok can (fun _ _ => True) E t := by
  induction l generalizing t with
  | nil => trivial
  | cons a l ih =>
      rw [List.pairwise_cons] at hall
      have hround : ∀ l' ⊆ l, (f a).told ok can (fun _ t => ∀ a' ∈ l', F a' t) E t := by
        intro l' hsub
        induction l' with
        | nil =>
            exact told_mono (hf a (List.mem_cons_self ..) t (ht a (List.mem_cons_self ..)))
              (fun _ _ _ _ h => nomatch h) fun _ _ h => h
        | cons a' l' ih' =>
            have ha' : a' ∈ l := hsub (List.mem_cons_self ..)
            refine told_mono (told_keep (ih' fun x hx => hsub (List.mem_cons_of_mem _ hx))
              (hall.1 a' ha') (hF a') (ht a' (List.mem_cons_of_mem _ ha')))
              (fun _ _ h => ?_) fun _ _ h => h.1
            exact List.forall_mem_cons.mpr ⟨h.2, h.1⟩
      rw [List.mapM_cons, told_bind]
      refine told_mono (hround l fun _ h => h) (fun b t ht => ?_) fun _ _ h => h
      rw [told_bind]
      exact told_mono (ih hall.2 (fun a' ha' => hf a' (List.mem_cons_of_mem _ ha')) ht)
        (fun _ _ _ => trivial) fun _ _ h => h

theorem told_mapM' {f : α → Prog S ε β} {F : Transcript S → Prop} {l : List α}
    (hf : ∀ a ∈ l, ∀ t, F t → (f a).told ok can (fun _ => F) E t) (ht : F t) :
    (l.mapM f).told ok can (fun _ => F) E t := by
  induction l generalizing t with
  | nil => exact ht
  | cons a l ih =>
      rw [List.mapM_cons, told_bind]
      refine told_mono (hf a (List.mem_cons_self ..) t ht) (fun b t ht => ?_) fun _ _ h => h
      rw [told_bind]
      exact told_mono (ih (fun a' ha' => hf a' (List.mem_cons_of_mem _ ha')) ht)
        (fun _ _ h => h) fun _ _ h => h

end Prog

/-! ## Soundness -/

section Outline

variable {M : System S σ ω η ε ρ Op} {D : Discipline S σ ω Op} {inv : Snap S σ ω Op → Prop}
  {ok : Op → Transcript S → S.Cmd → Prop} {can : Transcript S → (c : S.Cmd) → S.Resp c → Prop}

/-- The outline whose assertions are about transcripts. -/
def toldOutline (M : System S σ ω η ε ρ Op) (D : Discipline S σ ω Op)
    (inv : Snap S σ ω Op → Prop) (ok : Op → Transcript S → S.Cmd → Prop) :
    Outline S σ ω Op where
  toDiscipline := D
  inv := inv
  pre i op c s := ok op (transcript M i s.hist) c

theorem Prog.wp_of_reasons {α : Type} {p : Prog S ε α} {Q : α → Transcript S → Prop}
    {E : ε → Transcript S → Prop} {O : Outline S σ ω Op} {reason : Transcript S → S.Cmd → Prop}
    {i : Nat} {op : Op} {s : Snap S σ ω Op}
    (hcan : ∀ s, O.inv s → ∀ c o, can (transcript M i s.hist) c (M.exec c o s.world).1)
    (hpre : ∀ s c, O.inv s → reason (transcript M i s.hist) c → O.pre i op c s)
    (h : p.told reason can Q E (transcript M i s.hist)) :
    p.wp M O i op (fun a s => Q a (transcript M i s.hist))
      (fun e s => E e (transcript M i s.hist)) s := by
  induction p generalizing s with
  | ret a =>
      intro s' hs' _
      rw [transcript_interferes hs']
      exact h
  | err e =>
      intro s' hs' _
      rw [transcript_interferes hs']
      exact h
  | call c k ih =>
      intro s' hs' hinv
      rw [← transcript_interferes hs'] at h
      refine ⟨hpre s' c hinv h.1, fun o _ _ => ih _ ?_⟩
      rw [transcript_exec]
      exact h.2 _ (hcan s' hinv c o)

theorem Prog.wp_of_told {α : Type} {p : Prog S ε α} {Q : α → Transcript S → Prop}
    {E : ε → Transcript S → Prop} {i : Nat} {op : Op} {s : Snap S σ ω Op}
    (hcan : ∀ s, inv s → ∀ i c o, can (transcript M i s.hist) c (M.exec c o s.world).1)
    (h : p.told (ok op) can Q E (transcript M i s.hist)) :
    p.wp M (toldOutline M D inv ok) i op (fun a s => Q a (transcript M i s.hist))
      (fun e s => E e (transcript M i s.hist)) s :=
  Prog.wp_of_reasons (fun s hinv c o => hcan s hinv i c o) (fun _ _ _ h => h) h

/-- **Soundness**: bodies that are fine by what they have been told make a
valid outline with any invariant their commands keep. -/
theorem toldOutline_valid {Q : Op → ρ → Transcript S → Prop}
    (hcan : ∀ s, inv s → ∀ i c o, can (transcript M i s.hist) c (M.exec c o s.world).1)
    (hexec : ∀ s, inv s → ∀ i op c o, D.starts op → ok op (transcript M i s.hist) c →
      D.allows i op c o s → inv (s.exec M i op c o))
    (henv : ∀ s, inv s → ∀ e, inv (s.env M e))
    (hbody : ∀ op, D.starts op → (M.body op).told (ok op) can (Q op) (fun _ _ => True) []) :
    Outline.Valid M (toldOutline M D inv ok) fun i op a s => Q op a (transcript M i s.hist) where
  inv_exec hinv i op c o hop hpre hallows := hexec _ hinv i op c o hop hpre hallows
  inv_env hinv e := henv _ hinv e
  body i op s hop _ hnew := by
    have htold : (M.body op).told (ok op) can (Q op) (fun _ _ => True) (transcript M i s.hist) := by
      rw [transcript_of_not_mine hnew]
      exact hbody op hop
    exact Prog.wp_of_told hcan htold

end Outline

/-! ## Databases -/

namespace Database

variable {R D W K E : Type} {db : Database R D W K ω E}

/-- The call has opened the transaction. -/
def Began (tx : Nat) (t : Transcript db.sig) : Prop :=
  (⟨.begin, .ok tx⟩ : (c : TxCmd R) × db.Resp c) ∈ t

theorem Began.cons {tx : Nat} {t : Transcript db.sig} (h : Began tx t)
    (said : (c : TxCmd R) × db.Resp c) : Began tx (said :: t) := List.mem_cons_of_mem _ h

/-- Some state answers so, and a transaction that begins has not been named
before. -/
def Can (t : Transcript db.sig) (c : TxCmd R) (r : db.Resp c) : Prop :=
  (∃ (o : ω) (s : Store D W), (db.step c o s).1 = r) ∧
    ∀ tx, (⟨c, r⟩ : (c : TxCmd R) × db.Resp c) = ⟨.begin, .ok tx⟩ →
      ∀ said ∈ t, said.1.tx? ≠ some tx

/-- Locks are exclusive, every transaction belongs to the call that names it,
and what it has written comes from statements in it. -/
structure Owned [DecidableEq K] (s : Snap db.sig (Store D W) ω Op) : Prop where
  store : db.StoreOk s.world
  openers : Openers s
  named : ∀ e ∈ s.hist, ∀ tx, e.cmd.tx? = some tx → Opened e.tid tx s
  written : ∀ ss ∈ s.world.sessions, ∀ w ∈ ss.writes, ∃ e ∈ s.hist, ∃ (q : R) (o : ω) (d : D),
    e.cmd = .stmt (some ss.id) q ∧ w ∈ (db.exec q o d).2

section Owned

variable [DecidableEq K] {move : η → D → D} {body : Op → Prog db.sig ε ρ}
  {s : Snap db.sig (Store D W) ω Op} {i tx : Nat}

omit [DecidableEq K] in
theorem opened_of_began (h : Began tx (transcript (db.system move body) i s.hist)) :
    Opened i tx s := by
  obtain ⟨e, he, htid, hsaid⟩ := mem_transcript h
  obtain ⟨hc, hr⟩ := Sigma.mk.inj hsaid
  refine ⟨e, he, htid, hc.symm, ?_⟩
  obtain ⟨tid, op, cmd, o, w⟩ := e
  subst hc
  exact (begin_ok (eq_of_heq hr).symm).1.symm

theorem owned_idle (d : D) : Owned (⟨Store.idle d, []⟩ : Snap db.sig (Store D W) ω Op) where
  store := ⟨List.nodup_nil, nofun, nofun⟩
  openers := openers_idle _
  named := nofun
  written := nofun

theorem Owned.exec (h : Owned s) {op : Op} {c : TxCmd R} {o : ω} (hc : Own i c s)
    (hw : db.waits c o s.world = false) : Owned (s.exec (db.system move body) i op c o) where
  store := storeOk_step h.store hw
  openers := openers_exec h.openers ..
  named := by
    intro e he tx htx
    rcases List.mem_cons.mp he with rfl | he
    · exact (Opened.persistent i tx).exec (hc tx htx) ..
    · exact (Opened.persistent e.tid tx).exec (h.named e he tx htx) ..
  written := by
    intro ss hss w hw
    obtain ⟨ss₀, hss₀, hid, hw | ⟨q, rfl, -, hwant⟩⟩ := mem_writes_of_step hss hw
    · obtain ⟨e, he, hfrom⟩ := h.written ss₀ hss₀ w hw
      rw [hid] at hfrom
      exact ⟨e, List.mem_cons_of_mem _ he, hfrom⟩
    · obtain ⟨d, hw⟩ := mem_wants hwant
      exact ⟨_, List.mem_cons_self .., q, o, d, rfl, hw⟩

theorem owned_exec (h : Owned s) {op : Op} {c : TxCmd R} {o : ω}
    (hc : ∀ tx, c.tx? = some tx → Began tx (transcript (db.system move body) i s.hist))
    (hw : db.waits c o s.world = false) : Owned (s.exec (db.system move body) i op c o) :=
  h.exec (fun tx htx => opened_of_began (hc tx htx)) hw

/-- A transaction of a call has been written by its own statements. -/
theorem written_of_opened (h : Owned s) (hi : Opened i tx s) {ss : Session W}
    (hss : s.world.session? tx = some ss) {w : W} (hw : w ∈ ss.writes) :
    ∃ (q : R) (r : Except E (db.Ans q)) (o : ω) (d : D),
      (⟨.stmt (some tx) q, r⟩ : (c : TxCmd R) × db.Resp c) ∈
        transcript (db.system move body) i s.hist ∧ w ∈ (db.exec q o d).2 := by
  obtain ⟨hmem, rfl⟩ := Store.mem_of_session? hss
  obtain ⟨⟨tid, op, c, o', w'⟩, he, q, o, d, hc, hw⟩ := h.written ss hmem w hw
  obtain rfl : c = .stmt (some ss.id) q := hc
  -- the call that names the transaction is the one that began it
  obtain ⟨e₁, he₁, rfl, hbegin₁, hnext₁⟩ := hi
  obtain ⟨e₂, he₂, htid₂, hbegin₂, hnext₂⟩ := h.named _ he ss.id rfl
  have htid : tid = e₁.tid := htid₂.symm.trans
    (h.openers.one e₂ he₂ e₁ he₁ hbegin₂ hbegin₁ (hnext₂.trans hnext₁.symm))
  subst htid
  exact ⟨q, _, o, d, mem_transcript_of_mem he, hw⟩

theorem written_of_began (h : Owned s)
    (hb : Began tx (transcript (db.system move body) i s.hist)) {ss : Session W}
    (hss : s.world.session? tx = some ss) {w : W} (hw : w ∈ ss.writes) :
    ∃ (q : R) (r : Except E (db.Ans q)) (o : ω) (d : D),
      (⟨.stmt (some tx) q, r⟩ : (c : TxCmd R) × db.Resp c) ∈
        transcript (db.system move body) i s.hist ∧ w ∈ (db.exec q o d).2 :=
  written_of_opened h (opened_of_began hb) hss hw

theorem owned_env (h : Owned s) (e : DbEnv η) : Owned (s.env (db.system move body) e) where
  store := by
    have hstore : db.StoreOk ((db.system move body).env e s.world) := storeOk_env h.store e
    exact hstore
  openers := openers_env h.openers e
  named e' he tx htx := (Opened.persistent e'.tid tx).env (h.named e' he tx htx) e
  written := by
    cases e with
    | data e => exact h.written
    | abort tx => exact fun ss hss => h.written ss (List.mem_filter.mp hss).1

theorem can_step (h : Owned s) (i : Nat) (c : TxCmd R) (o : ω) :
    Can (transcript (db.system move body) i s.hist) c
      ((db.system move body).exec c o s.world).1 := by
  refine ⟨⟨o, s.world, rfl⟩, fun tx hbegin said hsaid htx => ?_⟩
  obtain ⟨rfl, hr⟩ := Sigma.mk.inj hbegin
  obtain ⟨rfl, -⟩ := begin_ok (eq_of_heq hr)
  obtain ⟨e, he, -, rfl⟩ := mem_transcript hsaid
  exact Nat.lt_irrefl _ ((h.named e he _ htx).lt h.openers)

end Owned

/-! ### Rules -/

section Rules

variable {α β : Type} {wrap : E → ε} {ok : Transcript db.sig → TxCmd R → Prop}
  {Q : β → Transcript db.sig → Prop} {T : ε → Transcript db.sig → Prop}
  {t : Transcript db.sig}

theorem exec_of_can {tx : Option Nat} {q : R} {a : db.Ans q}
    (h : Can t (.stmt tx q) (.ok a : Except E (db.Ans q))) :
    ∃ (o : ω) (d : D), (db.exec q o d).1 = .ok a := by
  obtain ⟨⟨o, s, hs⟩, -⟩ := h
  cases tx with
  | none => exact ⟨o, _, (query_ok hs).1⟩
  | some tx =>
      obtain ⟨ss, -, -, hexec, -⟩ := stmt_ok hs
      exact ⟨o, _, hexec⟩

theorem told_query {tx : Option Nat} {q : R} {f : db.Ans q → Prog db.sig ε β}
    (hok : ok t (.stmt tx q))
    (h : ∀ a (o : ω) (d : D), (db.exec q o d).1 = .ok a →
      (f a).told ok Can Q T (⟨.stmt tx q, .ok a⟩ :: t))
    (herr : ∀ e, T (wrap e) (⟨.stmt tx q, .error e⟩ :: t)) :
    (db.query wrap tx q >>= f).told ok Can Q T t := by
  refine ⟨hok, fun r hr => ?_⟩
  cases r with
  | ok a =>
      obtain ⟨o, d, hexec⟩ := exec_of_can hr
      exact h a o d hexec
  | error e => exact herr e

/-- A transaction whose body gives the reason for its commit; it begins with a
number not named before. -/
theorem told_transaction_of {p : Nat → Prog db.sig ε β} (hbegin : ok t .begin)
    (hrollback : ∀ tx t, Began tx t → ok t (.rollback tx))
    (hbody : ∀ tx, (∀ said ∈ t, said.1.tx? ≠ some tx) →
      (p tx).told ok Can (fun a t => ok t (.commit tx) ∧ ∀ r, Q a (⟨.commit tx, r⟩ :: t) ∧
          ∀ e, T (wrap e) (⟨.commit tx, r⟩ :: t))
        (fun e t => Began tx t ∧ T e (⟨.rollback tx, ()⟩ :: t)) (⟨.begin, .ok tx⟩ :: t))
    (herr : ∀ e, T (wrap e) (⟨.begin, .error e⟩ :: t)) :
    (db.transaction wrap p).told ok Can Q T t := by
  refine ⟨hbegin, fun r hr => ?_⟩
  cases r with
  | error e => exact herr e
  | ok tx =>
      dsimp only
      rw [Prog.told_bind, Prog.told_attempt]
      refine Prog.told_mono (hbody tx (hr.2 tx rfl)) (fun a t ht => ?_) fun e t ht => ?_
      · refine ⟨ht.1, fun r _ => ?_⟩
        cases r with
        | ok u => exact (ht.2 (.ok u)).1
        | error e => exact (ht.2 (.error e)).2 e
      · exact ⟨hrollback tx t ht.1, fun _ _ => ht.2⟩

theorem told_transaction {p : Nat → Prog db.sig ε β} (hbegin : ok t .begin)
    (hend : ∀ tx t, Began tx t → ok t (.commit tx) ∧ ok t (.rollback tx))
    (hbody : ∀ tx, (∀ said ∈ t, said.1.tx? ≠ some tx) →
      (p tx).told ok Can (fun a t => Began tx t ∧ ∀ r, Q a (⟨.commit tx, r⟩ :: t) ∧
          ∀ e, T (wrap e) (⟨.commit tx, r⟩ :: t))
        (fun e t => Began tx t ∧ T e (⟨.rollback tx, ()⟩ :: t)) (⟨.begin, .ok tx⟩ :: t))
    (herr : ∀ e, T (wrap e) (⟨.begin, .error e⟩ :: t)) :
    (db.transaction wrap p).told ok Can Q T t :=
  told_transaction_of hbegin (fun tx t h => (hend tx t h).2) (fun tx hnew =>
    Prog.told_mono (hbody tx hnew) (fun _ t ht => ⟨(hend tx t ht.1).1, ht.2⟩) fun _ _ ht => ht) herr

theorem told_transaction_safe {p : Nat → Prog db.sig ε β} (hbegin : ok t .begin)
    (hend : ∀ tx t, Began tx t → ok t (.commit tx) ∧ ok t (.rollback tx))
    (hbody : ∀ tx, (∀ said ∈ t, said.1.tx? ≠ some tx) →
      (p tx).told ok Can (fun _ _ => True) (fun _ _ => True) (⟨.begin, .ok tx⟩ :: t)) :
    (db.transaction wrap p).told ok Can (fun _ _ => True) (fun _ _ => True) t := by
  refine told_transaction hbegin hend (fun tx hnew => ?_) fun _ => trivial
  refine Prog.told_mono (Prog.told_keep (hbody tx hnew) (Prog.all_true (p tx))
    (F := Began tx) (fun _ _ _ _ _ h => List.mem_cons_of_mem _ h) (List.mem_cons_self ..))
    (fun _ _ h => ⟨h.2, fun _ => ⟨trivial, fun _ => trivial⟩⟩) fun _ _ h => ⟨h.2, trivial⟩

end Rules

end Database

end Conc
