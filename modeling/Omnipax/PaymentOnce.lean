import Omnipax.StatusPaths

/-!
# One log row for a payment

`PaymentReconciliationService.reconcileBooking` looks for a log row of the
payment, asks Razorpay, and only then opens its transaction. Any number of
calls with one payment id may pass that first look. What stops all but one of
them is the unique index on the payment id: a transaction enters its log row
before it writes anything else, so a transaction that has written holds the key
of the payment, and one that finds the key taken has nothing to commit.
-/

namespace Omnipax.Payments

open Conc Prog Database

/-! ## The transaction of a call -/

/-- Everything but the time and what Razorpay has. -/
def PayData.tables (d : PayData) : PayData := { d with clock := 0, razorpay := {} }

/-- The log rows of a payment. -/
def PayData.logsOf (d : PayData) (razorpayPaymentId : String) : Nat :=
  d.paymentLogs.countP (·.razorpayPaymentId == razorpayPaymentId)

def PayData.hasLog (d : PayData) (razorpayPaymentId : String) : Bool :=
  d.paymentLogs.any (·.razorpayPaymentId == razorpayPaymentId)

/-- The row that `recordPayment` enters. -/
def paymentLogOf (booking : Booking) (razorpayOrderId razorpayPaymentId tenantId : String)
    (isVerified : Bool) : PaymentLog where
  bookingId := booking.id
  razorpayOrderId
  razorpayPaymentId
  verified := isVerified
  amount := booking.finalAmount
  status := if isVerified then .VERIFIED else .MISMATCH
  tenantId

def recorded (booking : Booking) (razorpayOrderId razorpayPaymentId tenantId : String)
    (isVerified : Bool) (now : Time) : List PayWrite :=
  .paymentLog (paymentLogOf booking razorpayOrderId razorpayPaymentId tenantId isVerified) ::
    if isVerified then
      [.booking booking.id { status := some .CONFIRMED, razorpayPaymentId := some razorpayPaymentId,
                             paymentCapturedAt := some now },
       .revenue tenantId booking.finalAmount]
    else [.booking booking.id { status := some .FAILED }]

section Writes

variable {p : String} {d d' : PayData} {booking : Booking} {razorpayOrderId tenantId : String}
  {isVerified : Bool} {now : Time} {ws : List PayWrite}

theorem tables_recorded :
    (payDb.applyAll (recorded booking razorpayOrderId p tenantId isVerified now) d).tables
      = payDb.applyAll (recorded booking razorpayOrderId p tenantId isVerified now) d.tables := by
  cases isVerified <;> rfl

theorem paymentLogs_recorded :
    (payDb.applyAll (recorded booking razorpayOrderId p tenantId isVerified now) d).paymentLogs
      = d.paymentLogs ++ [paymentLogOf booking razorpayOrderId p tenantId isVerified] := by
  cases isVerified <;> rfl

theorem paymentLogs_eq_of_tables (h : d'.tables = d.tables) : d'.paymentLogs = d.paymentLogs :=
  congrArg (·.paymentLogs) h

theorem bookings_eq_of_tables (h : d'.tables = d.tables) : d'.bookings = d.bookings :=
  congrArg (·.bookings) h

theorem logsOf_eq_zero (h : d.hasLog p = false) : d.logsOf p = 0 := by
  simpa [PayData.hasLog, PayData.logsOf, List.countP_eq_zero] using h

theorem hasLog_apply (w : PayWrite) (h : d.hasLog p = true) : (payDb.apply w d).hasLog p = true := by
  cases w with
  | paymentLog row =>
      show (d.paymentLogs ++ [row]).any _ = true
      rw [List.any_append, show d.paymentLogs.any _ = true from h, Bool.true_or]
  | _ => exact h

theorem hasLog_applyAll (h : d.hasLog p = true) : (payDb.applyAll ws d).hasLog p = true :=
  applyAll_of_forall (I := fun d : PayData => d.hasLog p = true) (fun w _ _ => hasLog_apply w) h

/-- The index: a row is entered where there is none of its payment. -/
theorem exec_paymentLogCreate (row : PaymentLog) (o : PayOracle) (d : PayData) :
    (payDb.exec (.paymentLogCreate row) o d).2
      = if d.hasLog row.razorpayPaymentId = true then [] else [.paymentLog row] := by
  show (PayStmt.exec o d (.paymentLogCreate row)).2 = _
  simp only [PayStmt.exec]
  exact apply_ite Prod.snd _ _ _

theorem mem_paymentLogCreate {row : PaymentLog} {o : PayOracle} {w : PayWrite}
    (h : w ∈ (payDb.exec (.paymentLogCreate row) o d).2) : w = .paymentLog row := by
  rw [exec_paymentLogCreate] at h
  split at h
  · cases h
  · exact List.mem_singleton.mp h

theorem holds_of_paymentLog {ss : Session PayWrite} {row : PaymentLog}
    (h : .paymentLog row ∈ ss.writes) (hrow : row.razorpayPaymentId = p) :
    payDb.holds ss (.paymentLog p) :=
  ⟨_, h, List.mem_singleton.mpr (congrArg PayKey.paymentLog hrow.symm)⟩

end Writes

/-! ## Calls with one payment id -/

def StatusOp.reconciles (razorpayPaymentId : String) : StatusOp → Bool
  | .reconcileBooking _ _ id _ => id == razorpayPaymentId
  | _ => false

/-- Every call reconciles this payment, and a statement that meets a locked row waits. What
the calls are given besides, and how their steps are mixed, is open. -/
def reconcileCalls (razorpayPaymentId : String) :
    Discipline payDb.sig PayStore PayOracle StatusOp where
  starts op := op.reconciles razorpayPaymentId = true
  allows _ _ c o s := payDb.waits c o s.world = false

section Decidable

variable (razorpayPaymentId : String)

instance (op : StatusOp) : Decidable ((reconcileCalls razorpayPaymentId).starts op) :=
  inferInstanceAs (Decidable (op.reconciles razorpayPaymentId = true))

instance (i : Nat) (op : StatusOp) (c : TxCmd PayStmt) (o : PayOracle) (s : StatusSnap) :
    Decidable ((reconcileCalls razorpayPaymentId).allows i op c o s) :=
  inferInstanceAs (Decidable (payDb.waits c o s.world = false))

end Decidable

/-- What is next to be committed by a call with the payment id `p` that has found
its booking in `d`. -/
def Records (p : String) (d : PayData) (op : StatusOp) (ws : List PayWrite) : Prop :=
  ∃ bookingId razorpayOrderId tenantId booking isVerified now,
    op = .reconcileBooking bookingId razorpayOrderId p tenantId ∧
      d.bookings.find bookingId = some booking ∧
      ws = recorded booking razorpayOrderId p tenantId isVerified now

def SparesTables (P : SeatPlatform) (e : Conc.Event payDb.sig PayStore PayOracle StatusOp) : Prop :=
  (e.after (statusWriters P)).data.tables = e.before.data.tables

/-- What a run from `d` comes to: the tables are what they were, or they are
what one call, the winner, has made of them. Steps of other calls change
nothing. -/
inductive Outcome (P : SeatPlatform) (p : String) (d : PayData) (s : StatusSnap) : Prop where
  | untouched (same : s.world.data.tables = d.tables) (spares : ∀ e ∈ s.hist, SparesTables P e)
  | won (winner : Conc.Event payDb.sig PayStore PayOracle StatusOp) (mem : winner ∈ s.hist)
      (ws : List PayWrite) (records : Records p d winner.op ws) (first : d.hasLog p = false)
      (tables : s.world.data.tables = payDb.applyAll ws d.tables)
      (spares : ∀ e ∈ s.hist, e.tid ≠ winner.tid → SparesTables P e)

/-- Whoever has written has entered the log row, and nobody has where there is
one. -/
structure Once (P : SeatPlatform) (p : String) (d : PayData) (s : StatusSnap) : Prop where
  store : payDb.StoreOk s.world
  openers : Openers s
  logged : ∀ ss ∈ s.world.sessions, ss.writes ≠ [] → payDb.holds ss (.paymentLog p)
  closed : s.world.data.hasLog p = true → ∀ ss ∈ s.world.sessions, ss.writes = []
  outcome : Outcome P p d s

/-- The booking that a call has read is the one it was, unless the payment is
logged by now. -/
def Found (p : String) (d : PayData) (bookingId : String) (booking : Booking) (s : StatusSnap) :
    Prop :=
  s.world.data.hasLog p = true ∨ d.bookings.find bookingId = some booking

/-- A call writes in its transaction only, first the log row, and commits all
that `recordPayment` writes. -/
def OncePre (p : String) (d : PayData) (i : Nat) (op : StatusOp) (c : TxCmd PayStmt)
    (s : StatusSnap) : Prop :=
  Own i c s ∧
    match c with
    | .stmt none q => ∀ o d, (payDb.exec q o d).2 = []
    | .stmt (some tx) q => (∃ row, q = .paymentLogCreate row ∧ row.razorpayPaymentId = p) ∨
        ∀ ss, s.world.session? tx = some ss → payDb.holds ss (.paymentLog p)
    | .commit tx => ∀ ss, s.world.session? tx = some ss → ss.failed = false →
        s.world.data.hasLog p = true ∨ Records p d op ss.writes
    | _ => True

def onceOutline (P : SeatPlatform) (p : String) (d : PayData) :
    Outline payDb.sig PayStore PayOracle StatusOp where
  toDiscipline := reconcileCalls p
  inv := Once P p d
  pre := OncePre p d

/-! ## A step -/

section Step

variable {P : SeatPlatform} {p : String} {d : PayData} {i tx : Nat} {op : StatusOp} {s : StatusSnap}
  {c : TxCmd PayStmt} {o : PayOracle}

theorem Records.holds {ss : Session PayWrite} (h : Records p d op ss.writes) :
    payDb.holds ss (.paymentLog p) := by
  obtain ⟨_, order, tenantId, booking, isVerified, _, -, -, hws⟩ := h
  have hrow : .paymentLog (paymentLogOf booking order p tenantId isVerified) ∈ ss.writes := by
    rw [hws]
    exact List.mem_cons_self ..
  exact holds_of_paymentLog hrow rfl

theorem Records.hasLog {ws : List PayWrite} (h : Records p d op ws) (d' : PayData) :
    (payDb.applyAll ws d').hasLog p = true := by
  obtain ⟨_, _, _, _, _, _, -, -, rfl⟩ := h
  rw [PayData.hasLog, paymentLogs_recorded, List.any_append, Bool.or_eq_true]
  exact Or.inr (by simp [paymentLogOf])

theorem Records.logsOf {ws : List PayWrite} (h : Records p d op ws) (d' : PayData) :
    (payDb.applyAll ws d').logsOf p = d'.logsOf p + 1 := by
  obtain ⟨_, _, _, _, _, _, -, -, rfl⟩ := h
  rw [PayData.logsOf, paymentLogs_recorded, List.countP_append]
  simp [paymentLogOf, PayData.logsOf]

theorem Records.tables {ws : List PayWrite} (h : Records p d op ws) (d' : PayData) :
    (payDb.applyAll ws d').tables = payDb.applyAll ws d'.tables := by
  obtain ⟨_, _, _, _, _, _, -, -, rfl⟩ := h
  exact tables_recorded

theorem Outcome.keep (h : Outcome P p d s)
    (hdata : (payDb.step c o s.world).2.data = s.world.data) :
    Outcome P p d (s.exec (statusWriters P) i op c o) := by
  have hspares : SparesTables P ⟨i, op, c, o, s.world⟩ := congrArg PayData.tables hdata
  cases h with
  | untouched same spares =>
      exact .untouched (hspares.trans same) (List.forall_mem_cons.mpr ⟨hspares, spares⟩)
  | won winner mem ws records first tables spares =>
      exact .won winner (List.mem_cons_of_mem _ mem) ws records first (hspares.trans tables)
        (List.forall_mem_cons.mpr ⟨fun _ => hspares, spares⟩)

theorem Outcome.commit (h : Outcome P p d s) (hlog : s.world.data.hasLog p = false)
    {ws : List PayWrite} (hrecords : Records p d op ws)
    (hdata : (payDb.step c o s.world).2.data = payDb.applyAll ws s.world.data) :
    Outcome P p d (s.exec (statusWriters P) i op c o) := by
  cases h with
  | untouched same spares =>
      have htables : (s.exec (statusWriters P) i op c o).world.data.tables
          = payDb.applyAll ws d.tables := by
        rw [← same]
        exact (congrArg PayData.tables hdata).trans (hrecords.tables _)
      have hfirst : d.hasLog p = false := by
        rw [PayData.hasLog, ← paymentLogs_eq_of_tables same]
        exact hlog
      refine .won _ (List.mem_cons_self ..) ws hrecords hfirst htables fun e he hne => ?_
      rcases List.mem_cons.mp he with rfl | he
      · exact absurd rfl hne
      · exact spares e he
  | won winner mem ws' records first tables spares =>
      have hlogged : s.world.data.tables.hasLog p = true := by
        rw [tables]
        exact records.hasLog _
      rw [show s.world.data.tables.hasLog p = s.world.data.hasLog p from rfl, hlog] at hlogged
      cases hlogged

/-- A command commits nothing, or all that its call records, as the first. No
transaction has written anything where there is a log row. -/
theorem once_effect (h : Once P p d s) (hpre : OncePre p d i op c s) {d' : PayData}
    {l : List (Session PayWrite)} (heffect : Effect payDb c o s.world d' l) :
    (d'.hasLog p = true → ∀ ss ∈ l, ss.writes = []) ∧
      (d' = s.world.data ∨ s.world.data.hasLog p = false ∧ ∃ ws, Records p d op ws ∧
        d' = payDb.applyAll ws s.world.data) := by
  cases heffect with
  | none => exact ⟨h.closed, Or.inl rfl⟩
  | start _ =>
      refine ⟨fun hlog ss hss => ?_, Or.inl rfl⟩
      rcases List.mem_append.mp hss with hss | hss
      · exact h.closed hlog ss hss
      · rw [List.mem_singleton.mp hss]
  | @autocommit q hc _ =>
      subst hc
      have hwants : payDb.wants none q o s.world = [] := hpre.2 o s.world.data
      rw [hwants]
      exact ⟨h.closed, Or.inl rfl⟩
  | drop tx _ =>
      exact ⟨fun hlog ss hss => h.closed hlog ss (List.mem_filter.mp hss).1, Or.inl rfl⟩
  | fail tx _ =>
      refine ⟨fun hlog ss hss => ?_, Or.inl rfl⟩
      obtain ⟨ss₀, hss₀, rfl⟩ := List.mem_map.mp hss
      split <;> exact h.closed hlog ss₀ hss₀
  | @write ss₁ q hc hss₁ hgo _ =>
      subst hc
      refine ⟨fun hlog ss hss => ?_, Or.inl rfl⟩
      have hnone := h.closed hlog ss₁ (Store.mem_of_session? hss₁).1
      obtain ⟨ss₀, hss₀, rfl⟩ := List.mem_map.mp hss
      split
      · rw [h.closed hlog ss₀ hss₀, List.nil_append]
        rcases hpre.2 with ⟨row, rfl, rfl⟩ | hholds
        · -- the index refuses the row
          rw [wants, hss₁]
          dsimp only
          rw [if_neg (by simp [hgo]), exec_paymentLogCreate, if_pos (hasLog_applyAll hlog)]
        · obtain ⟨w, hw, -⟩ := hholds ss₁ hss₁
          rw [hnone] at hw
          cases hw
      · exact h.closed hlog ss₀ hss₀
  | @commit ss hc hss hgo _ =>
      subst hc
      have hmem := (Store.mem_of_session? hss).1
      cases hlog : s.world.data.hasLog p with
      | true =>
          rw [h.closed hlog ss hmem]
          exact ⟨fun _ ss' hss' => h.closed hlog ss' (List.mem_filter.mp hss').1, Or.inl rfl⟩
      | false =>
          have hrecords : Records p d op ss.writes := by
            refine (hpre.2 ss hss hgo).resolve_left ?_
            simp [hlog]
          refine ⟨fun _ ss' hss' => ?_, Or.inr ⟨rfl, _, hrecords, rfl⟩⟩
          obtain ⟨hss', hne⟩ := List.mem_filter.mp hss'
          by_contra hwrites
          exact h.store.exclusive ss' hss' ss hmem (by simpa using hne) _ (h.logged ss' hss' hwrites)
            hrecords.holds

/-- **Step**: one call at most commits. -/
theorem once_exec (h : Once P p d s) (hpre : OncePre p d i op c s)
    (hw : payDb.waits c o s.world = false) : Once P p d (s.exec (statusWriters P) i op c o) := by
  obtain ⟨hclosed, hdata⟩ := once_effect h hpre (step_effect payDb c o s.world)
  refine ⟨storeOk_step h.store hw, openers_exec h.openers .., fun ss hss hne => ?_, hclosed, ?_⟩
  · rcases session_of_step hss with hnil | ⟨ss₀, hss₀, hid, hsame | ⟨q, rfl, -, happ⟩⟩
    · exact absurd hnil hne
    · obtain ⟨w, hwr, hkey⟩ := h.logged ss₀ hss₀ (hsame ▸ hne)
      exact ⟨w, hsame ▸ hwr, hkey⟩
    · have hold : payDb.holds ss₀ (.paymentLog p) → payDb.holds ss (.paymentLog p) := by
        rintro ⟨w, hwr, hkey⟩
        exact ⟨w, happ ▸ List.mem_append_left _ hwr, hkey⟩
      by_cases hold₀ : ss₀.writes = []
      · rcases hpre.2 with ⟨row, rfl, hrow⟩ | hholds
        · -- all it has written is the log row
          obtain ⟨w, hwr⟩ := List.exists_mem_of_ne_nil _ hne
          have hwant := hwr
          rw [happ, hold₀, List.nil_append] at hwant
          obtain ⟨_, hexec⟩ := mem_wants hwant
          rw [mem_paymentLogCreate hexec] at hwr
          exact holds_of_paymentLog hwr hrow
        · refine hold (hholds ss₀ ?_)
          rw [← hid]
          exact session?_of_mem h.store hss₀
      · exact hold (h.logged ss₀ hss₀ hold₀)
  · rcases hdata with hsame | ⟨hlog, ws, hrecords, happ⟩
    · exact h.outcome.keep hsame
    · exact h.outcome.commit hlog hrecords happ

end Step

/-! ## A call -/

section Call

variable {P : SeatPlatform} {p : String} {d : PayData} {i tx : Nat} {op : StatusOp} {s : StatusSnap}
  {bookingId razorpayOrderId tenantId : String} {booking : Booking} {isVerified : Bool}

theorem tracks_once : Tracks (onceOutline P p d) where
  store h := h.store
  openers h := h.openers
  own h := h.1
  waits h := h

theorem found_persistent : Persistent (statusWriters P) (Found p d bookingId booking) where
  exec h _ _ c o := by
    refine h.imp (fun hlog => ?_) id
    exact data_of_forall (I := fun d : PayData => d.hasLog p = true) (fun w _ => hasLog_apply w) c o
      hlog
  env h e := by
    refine h.imp (fun hlog => ?_) id
    cases e with
    | data m => cases m <;> exact hlog
    | abort tx => exact hlog

theorem found_of_find (h : Once P p d s) (hfind : s.world.data.bookings.find bookingId = some booking) :
    Found p d bookingId booking s := by
  cases h.outcome with
  | untouched same _ =>
      rw [bookings_eq_of_tables same] at hfind
      exact Or.inr hfind
  | won _ _ ws records _ tables _ =>
      refine Or.inl ?_
      rw [show s.world.data.hasLog p = s.world.data.tables.hasLog p from rfl, tables]
      exact records.hasLog _

/-- A statement of a transaction that has entered the log row. -/
theorem oncePre_logged {q : PayStmt} {F : List PayWrite → Prop} (h : InTx i tx (Wrote F) s)
    {row : PaymentLog} (hF : ∀ ws, F ws → .paymentLog row ∈ ws) (hrow : row.razorpayPaymentId = p) :
    OncePre p d i op (.stmt (some tx) q) s :=
  ⟨h.1.own rfl, Or.inr fun ss hss => holds_of_paymentLog (hF _ (h.2 ss hss).1) hrow⟩

/-- What a call knows in its transaction. -/
def Writing (p : String) (d : PayData) (bookingId : String) (booking : Booking) (i tx : Nat)
    (F : List PayWrite → Prop) (s : StatusSnap) : Prop :=
  InTx i tx (Wrote F) s ∧ Found p d bookingId booking s

theorem writing_stable (F : List PayWrite → Prop) :
    Stable (statusWriters P) (onceOutline P p d) i (Writing p d bookingId booking i tx F) :=
  Stable.and (Wrote.stable tracks_once F) found_persistent.stable

theorem writing_over (P : SeatPlatform) : Persistent (statusWriters P) fun s =>
    Opened i tx s ∧ Found p d bookingId booking s :=
  (Opened.persistent i tx).and found_persistent

theorem wp_write {β : Type} {q : PayStmt} {f : q.Ret → PayM β} {Q : β → StatusSnap → Prop}
    {F G : List PayWrite → Prop} (hs : Writing p d bookingId booking i tx F s)
    (hpre : ∀ s, InTx i tx (Wrote F) s → OncePre p d i op (.stmt (some tx) q) s)
    (hF : ∀ a o d ws ws', F ws → payDb.exec q o d = (.ok a, ws') → G (ws ++ ws'))
    (h : ∀ a s, Writing p d bookingId booking i tx G s →
      (f a).wp (statusWriters P) (onceOutline P p d) i op Q
        (fun _ s => Opened i tx s ∧ Found p d bookingId booking s) s) :
    (ask (some tx) q >>= f).wp (statusWriters P) (onceOutline P p d) i op Q
      (fun _ s => Opened i tx s ∧ Found p d bookingId booking s) s :=
  wp_wrote tracks_once found_persistent hs.1 hs.2 (fun s _ h => hpre s h) hF
    fun a s _ hin hfound => h a s ⟨hin, hfound⟩

theorem wp_record (hs : Writing p d bookingId booking i tx (· = []) s) :
    Prog.wp (statusWriters P) (onceOutline P p d) i op (do
      ask (some tx) (.paymentLogCreate
        (paymentLogOf booking razorpayOrderId p tenantId isVerified))
      if isVerified then do
        let now ← ask none .dateNow
        ask (some tx) (.bookingUpdate booking.id none
          { status := some .CONFIRMED, razorpayPaymentId := some p, paymentCapturedAt := some now })
        ask (some tx) (.tenantUpdate tenantId booking.finalAmount)
      else ask (some tx) (.bookingUpdate booking.id none { status := some .FAILED }))
      (fun _ => Writing p d bookingId booking i tx fun ws => ∃ now, ws =
        recorded booking razorpayOrderId p tenantId isVerified now)
      (fun _ s => Opened i tx s ∧ Found p d bookingId booking s) s := by
  refine wp_write (G := (· = [.paymentLog
      (paymentLogOf booking razorpayOrderId p tenantId isVerified)])) hs
    (fun s h => ⟨h.1.own rfl, Or.inl ⟨_, rfl, rfl⟩⟩) (fun a o d ws ws' hws hexec => ?_)
    fun _ s hs => ?_
  · rw [hws, paymentLogCreate_ok hexec, List.nil_append]
  have hlogged : ∀ ws : List PayWrite, ws = [.paymentLog
      (paymentLogOf booking razorpayOrderId p tenantId isVerified)] →
      .paymentLog (paymentLogOf booking razorpayOrderId p tenantId isVerified) ∈ ws := by
    rintro ws rfl
    exact List.mem_singleton_self _
  cases isVerified with
  | false =>
      simp only [Bool.false_eq_true, if_false]
      rw [← bind_ret (ask _ _)]
      refine wp_write (G := fun ws => ∃ now, ws = recorded booking razorpayOrderId p tenantId false now)
        hs (fun s h => oncePre_logged h hlogged rfl) (fun a o d ws ws' hws hexec => ?_)
        fun _ s hs => wp_ret (writing_stable _) hs fun _ _ h => h
      rw [hws, bookingUpdate_ok hexec]
      exact ⟨0, rfl⟩
  | true =>
      simp only [if_true]
      refine wp_query (writing_stable _) hs (writing_over P) (fun _ h => ⟨h.1.1, h.2⟩)
        (fun _ _ _ => ⟨nofun, fun _ _ => rfl⟩) fun s o now hinv hs _ _ _ => ?_
      have hs' : Writing p d bookingId booking i tx (· = [.paymentLog
          (paymentLogOf booking razorpayOrderId p tenantId true)])
          (s.exec (statusWriters P) i op (.stmt none .dateNow) o) :=
        ⟨hs.1.beside hinv.openers nofun, found_persistent.exec hs.2 ..⟩
      refine wp_write (G := (· = [.paymentLog (paymentLogOf booking razorpayOrderId p tenantId true),
          .booking booking.id { status := some .CONFIRMED, razorpayPaymentId := some p,
                                paymentCapturedAt := some now }])) hs'
        (fun s h => oncePre_logged h hlogged rfl) (fun a o d ws ws' hws hexec => ?_) fun _ s hs => ?_
      · rw [hws, bookingUpdate_ok hexec]
        rfl
      rw [← bind_ret (ask _ _)]
      refine wp_write (G := fun ws => ∃ now, ws = recorded booking razorpayOrderId p tenantId true now)
        hs (fun s h => oncePre_logged h (fun ws hws => hws ▸ List.mem_cons_self ..) rfl)
        (fun a o d ws ws' hws hexec => ?_) fun _ s hs => wp_ret (writing_stable _) hs fun _ _ h => h
      rw [hws, tenantUpdate_ok hexec]
      exact ⟨now, rfl⟩

open PaymentReconciliationService in
theorem wp_recordPayment (hfound : Found p d bookingId booking s) :
    (recordPayment booking razorpayOrderId p tenantId isVerified).wp (statusWriters P)
      (onceOutline P p d) i (.reconcileBooking bookingId razorpayOrderId p tenantId)
      (fun _ _ => True) (fun _ _ => True) s := by
  have hrecords : ∀ {tx : Nat} {s : StatusSnap}, Writing p d bookingId booking i tx (fun ws =>
      ∃ now, ws = recorded booking razorpayOrderId p tenantId isVerified now) s →
      OncePre p d i (.reconcileBooking bookingId razorpayOrderId p tenantId) (.commit tx) s := by
    intro tx s hs
    refine ⟨hs.1.1.own rfl, fun ss hss _ => ?_⟩
    obtain ⟨now, hws⟩ := (hs.1.2 ss hss).1
    exact hs.2.imp id fun hfind => ⟨_, _, _, booking, isVerified, now, rfl, hfind, hws⟩
  refine (wp_transaction (B := fun tx _ => Writing p d bookingId booking i tx fun ws =>
      ∃ now, ws = recorded booking razorpayOrderId p tenantId isVerified now) tracks_once hfound
    found_persistent (fun _ _ _ => ⟨nofun, trivial⟩) (fun _ _ _ h => ⟨h.own rfl, trivial⟩)
    (fun _ _ _ _ hs => hrecords hs) (fun tx _ => writing_stable _) (fun _ _ _ hs => hs.2)
    (fun s tx _ hfound hin => wp_record ⟨hin, hfound⟩)
    fun _ _ _ _ _ _ _ _ _ => fun _ _ _ => trivial).mono (fun _ _ _ h => h) fun _ _ _ _ => trivial

/-- A statement by itself that writes nothing. -/
def Reads (c : TxCmd PayStmt) : Prop := ∃ q, c = .stmt none q ∧ ∀ o d, (payDb.exec q o d).2 = []

open PaymentReconciliationService in
theorem reads_verifyPayment {paymentId orderId : String} {expectedAmount : Money} :
    (verifyPayment paymentId orderId expectedAmount).All Reads := by
  refine ⟨⟨_, rfl, fun o d => ?_⟩, fun r => ?_⟩
  · change (PayStmt.exec o d (.paymentsFetch paymentId)).2 = []
    simp only [PayStmt.exec]
    split <;> rfl
  · cases r with
    | ok payment => trivial
    | error e => trivial

open PaymentReconciliationService in
theorem wp_reconcileBooking :
    (PaymentReconciliationService.reconcileBooking bookingId razorpayOrderId p tenantId).wp
      (statusWriters P) (onceOutline P p d) i (.reconcileBooking bookingId razorpayOrderId p tenantId)
      (fun _ _ => True) (fun _ _ => True) s := by
  refine fine_query (fun _ _ => ⟨nofun, fun _ _ => rfl⟩) fun s o log? _ _ _ => ?_
  cases log? with
  | some log => exact fun _ _ _ => trivial
  | none =>
      refine fine_query (fun _ _ => ⟨nofun, fun _ _ => rfl⟩) fun s o booking? hinv hok hinv' => ?_
      cases booking? with
      | none => exact fun _ _ _ => trivial
      | some booking =>
          have hfind : s.world.data.bookings.find bookingId = some booking :=
            Except.ok.inj (query_ok hok).1
          have hfound := found_persistent.exec (M := statusWriters P) (found_of_find hinv hfind) i
            (.reconcileBooking bookingId razorpayOrderId p tenantId)
            (TxCmd.stmt none (.bookingFindUnique bookingId)) o
          refine wp_bind hinv' ((wp_keep reads_verifyPayment (fun c hc s _ _ => ?_)
            found_persistent.kept hfound).mono (fun isVerified s _ hfound => ?_)
            fun _ _ _ _ => trivial)
          · obtain ⟨q, rfl, hq⟩ := hc
            exact ⟨nofun, hq⟩
          · exact wp_recordPayment hfound

end Call

/-! ## Runs -/

theorem onceOutline_valid (P : SeatPlatform) (p : String) (d : PayData) :
    Outline.Valid (statusWriters P) (onceOutline P p d) fun _ _ _ _ => True where
  inv_exec hinv _ _ _ _ _ hpre hallows := once_exec hinv hpre hallows
  inv_env := by
    intro s h e
    have htables : (s.env (statusWriters P) e).world.data.tables = s.world.data.tables := by
      cases e with
      | data m => cases m <;> rfl
      | abort tx => rfl
    have hsessions : ∀ ss ∈ (s.env (statusWriters P) e).world.sessions, ss ∈ s.world.sessions := by
      cases e with
      | data m => exact fun _ h => h
      | abort tx => exact fun _ h => (List.mem_filter.mp h).1
    refine ⟨?_, openers_env h.openers e, fun ss hss => h.logged ss (hsessions ss hss),
      fun hlog ss hss => h.closed ?_ ss (hsessions ss hss), ?_⟩
    · rw [Snap.env_world]
      exact storeOk_env h.store e
    · rwa [PayData.hasLog, paymentLogs_eq_of_tables htables] at hlog
    · cases h.outcome with
      | untouched same spares => exact .untouched (htables.trans same) spares
      | won winner mem ws records first tables spares =>
          exact .won winner mem ws records first (htables.trans tables) spares
  body := by
    intro i op s hop hinv _
    cases op with
    | reconcileBooking bookingId razorpayOrderId id tenantId =>
        obtain rfl : id = p := by simpa [onceOutline, reconcileCalls, StatusOp.reconciles] using hop
        exact wp_map _ wp_reconcileBooking
    | _ => cases hop

theorem Outcome.logsOf_le {P : SeatPlatform} {p : String} {d : PayData} {s : StatusSnap}
    (h : Outcome P p d s) (hd : d.logsOf p ≤ 1) : s.world.data.logsOf p ≤ 1 := by
  cases h with
  | untouched same _ => rwa [PayData.logsOf, paymentLogs_eq_of_tables same]
  | won _ _ ws records first tables _ =>
      calc s.world.data.logsOf p
        _ = s.world.data.tables.logsOf p := rfl
        _ = (payDb.applyAll ws d.tables).logsOf p := congrArg (PayData.logsOf · p) tables
        _ = d.logsOf p + 1 := records.logsOf d.tables
        _ ≤ 1 := by rw [logsOf_eq_zero first]

/-- **Exactly once**: however the calls for a payment overlap, its log has at
most one row, and the tables are what the transaction of one call has made of
them, if of any: it enters the row, and where the payment is verified confirms
its booking and adds the final amount of that to the revenue of the tenant. No
other call changes a table. -/
theorem reconciledOnce_run (P : SeatPlatform) (razorpayPaymentId : String) (d : PayData)
    (hd : d.logsOf razorpayPaymentId ≤ 1) {ls : List StatusLabel}
    (hls : (reconcileCalls razorpayPaymentId).admitsRun (statusWriters P) (Config.idle (.idle d)) ls) :
    ((Config.idle (.idle d)).run (statusWriters P) ls).world.data.logsOf razorpayPaymentId ≤ 1 ∧
      Outcome P razorpayPaymentId d ((Config.idle (.idle d)).run (statusWriters P) ls).toSnap := by
  have hidle : Once P razorpayPaymentId d ⟨.idle d, []⟩ :=
    ⟨⟨List.nodup_nil, nofun, nofun⟩, openers_idle _, fun _ h => absurd h List.not_mem_nil,
      fun _ _ h => absurd h List.not_mem_nil, .untouched rfl fun _ h => absurd h List.not_mem_nil⟩
  have houtcome := (Outline.sound (onceOutline_valid P razorpayPaymentId d) (Outline.Good.idle hidle)
    hls).inv.outcome
  exact ⟨houtcome.logsOf_le hd, houtcome⟩

namespace Sample

/-- A captured payment, and its booking. -/
def capturedData : PayData :=
  { data { booking .PAYMENT_IN_PROGRESS with finalAmount := ⟨50000⟩ } with
    tenants := [⟨"t1", ⟨0⟩⟩]
    razorpay := { payments := [⟨"pay_1", "order_1", true, 50000⟩] } }

/-- Both calls have found no log row before either enters one. -/
def reconcileTwice : List StatusLabel :=
  [.spawn (.reconcileBooking "b1" "order_1" "pay_1" "t1"),
   .spawn (.reconcileBooking "b1" "order_1" "pay_1" "t1"), .step 0 {}, .step 1 {}] ++
    List.replicate 8 (.step 0 {}) ++ List.replicate 5 (.step 1 {})

end Sample

theorem reconciledOnce_twice :
    ((Config.idle (.idle Sample.capturedData)).run (statusWriters Sample.seatPlatform)
        Sample.reconcileTwice).world.data.tenants = [⟨"t1", ⟨50000⟩⟩] ∧
      ((Config.idle (.idle Sample.capturedData)).run (statusWriters Sample.seatPlatform)
        Sample.reconcileTwice).world.data.logsOf "pay_1" ≤ 1 ∧
      Outcome Sample.seatPlatform "pay_1" Sample.capturedData
        ((Config.idle (.idle Sample.capturedData)).run (statusWriters Sample.seatPlatform)
          Sample.reconcileTwice).toSnap :=
  ⟨by decide +kernel, reconciledOnce_run Sample.seatPlatform "pay_1" Sample.capturedData (by decide)
    (by decide +kernel)⟩

end Omnipax.Payments
