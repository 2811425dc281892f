import Omnipax.Conc.Undisturbed
import Omnipax.StatusEntries

/-!
# One ledger row for a captured payment

The ledger has no unique index. What stands between a payment and its second row
is the status of its booking: a payment that is entered for a LOCKED booking or
for one whose payment is in progress comes with a status that is neither, and
nothing in the webhook of captured payments and in the sweep of the worker brings
such a status back. So a transaction that still finds one of the two when it
commits enters the first row. Where a booking has changed since it was read, and
where it is dead, nothing but the ledger itself tells whether the payment has been
entered.
-/

namespace Omnipax.Payments.LedgerOnce

open Conc Prog Database

/-! ## Rows and statuses -/

/-- A payment confirms a booking in one of these. -/
def awaits (status : BookingStatus) : Bool := status == .LOCKED || status == .PAYMENT_IN_PROGRESS

def Awaits (id : String) (d : PayData) : Prop := (d.statusOf id).any awaits = true

instance (id : String) (d : PayData) : Decidable (Awaits id d) :=
  inferInstanceAs (Decidable (_ = true))

/-- The row of a captured payment. -/
def captures (e : LedgerEntry) : Bool := e.type == .PAYMENT && e.status == .SUCCESS

def capturesOf (paymentId : String) (e : LedgerEntry) : Bool := captures e && e.razorpayId == paymentId

/-- The rows that writes enter for captured payments; every other write enters none. -/
def entered (ws : List PayWrite) : List LedgerEntry := rowsOf captures ws

theorem captures_applyAll (ws : List PayWrite) (d : PayData) :
    (payDb.applyAll ws d).paymentLedger.filter captures
      = d.paymentLedger.filter captures ++ entered ws := by
  rw [ledger_applyAll, List.filter_append]
  rfl

theorem count_eq {paymentId : String} (d : PayData) :
    d.paymentLedger.countP (capturesOf paymentId)
      = (d.paymentLedger.filter captures).countP (·.razorpayId == paymentId) := by
  rw [List.countP_filter]
  refine List.countP_congr fun e _ => ?_
  rw [capturesOf, Bool.and_comm]

/-! ## The calls -/

/-- Deliveries of captured payments, and sweeps of the worker. -/
def takesPayments : PayOp → Bool
  | .handleWebhook r => r.body.event == "payment.captured"
  | .handleReconciliation _ => true
  | _ => false

def captureServices : Discipline payDb.sig PayStore PayOracle PayOp where
  starts op := takesPayments op = true
  allows _ _ c o s := payDb.waits c o s.world = false

/-- A booking that still awaits its payment takes one that is entered for no other
booking, and any other booking one that is not entered at all. -/
def fits (d : PayData) (e : LedgerEntry) : Bool :=
  d.paymentLedger.all fun e' => !capturesOf e.razorpayId e' ||
    (d.statusOf e.bookingId).any awaits && e'.bookingId == e.bookingId

/-- The payments that a transaction has entered fit, when it commits. -/
def settles (s : PayStore) : TxCmd PayStmt → Bool
  | .commit tx =>
      match s.session? tx with
      | some ss => ss.failed || (entered ss.writes).all (fits s.data)
      | none => true
  | _ => true

/-- The services, with payments that fit when they are committed: a booking that is in
another status by then, or a payment that has a row by then, was read too early. -/
def fittingCaptures : Discipline payDb.sig PayStore PayOracle PayOp where
  starts op := takesPayments op = true
  allows _ _ c o s := payDb.waits c o s.world = false ∧ settles s.world c = true

/-- What an open transaction has written, on data `d`: one payment at most, together
with the status it leaves. -/
structure Entering (ws : List PayWrite) (d : PayData) : Prop where
  leaves : ∀ w ∈ ws, ∀ id b, w.setsStatus id = some b → awaits b = false
  one : (entered ws).length ≤ 1
  status : ∀ e ∈ entered ws, ¬Awaits e.bookingId d ∨
    ∃ w ∈ ws, (w.setsStatus e.bookingId).isSome = true

/-- No payment has two rows of a capture, and a booking that has one does not await a
payment any more, so that the check of its status keeps others out. -/
structure Settled (d : PayData) : Prop where
  once : ∀ paymentId, d.paymentLedger.countP (capturesOf paymentId) ≤ 1
  closed : ∀ e ∈ d.paymentLedger, captures e = true → ¬Awaits e.bookingId d

structure EnteredOnce (s : PaySnap) : Prop where
  store : payDb.StoreOk s.world
  openers : Openers s
  settled : Settled s.world.data
  entering : ∀ ss ∈ s.world.sessions, Entering ss.writes s.world.data

/-- Payments are entered in transactions, once, which have given the booking a
status, or have found it closed. -/
def CapturePre (i : Nat) (c : TxCmd PayStmt) (s : PaySnap) : Prop :=
  Own i c s ∧
    match c with
    | .stmt none q => q.gives awaits = false ∧ q.rowsOf captures = []
    | .stmt (some tx) q => q.gives awaits = false ∧ (q.rowsOf captures = [] ∨
        (q.rowsOf captures).length ≤ 1 ∧
          (∀ ss, s.world.session? tx = some ss → entered ss.writes = []) ∧
          ∀ e ∈ q.rowsOf captures, ¬Awaits e.bookingId s.world.data ∨
            ∀ ss, s.world.session? tx = some ss →
              ∃ w ∈ ss.writes, (w.setsStatus e.bookingId).isSome = true)
    | _ => True

def captureOutline : PayOutline where
  toDiscipline := fittingCaptures
  inv := EnteredOnce
  pre i _ c s := CapturePre i c s

/-! ## A step -/

section Step

variable {P : PayPlatform} {d d' : PayData} {ws : List PayWrite} {s : PaySnap} {i : Nat}
  {op : PayOp} {c : TxCmd PayStmt} {o : PayOracle}

theorem entering_nil : Entering [] d where
  leaves _ h := absurd h List.not_mem_nil
  one := Nat.zero_le _
  status _ h := absurd h List.not_mem_nil

theorem Entering.mono (h : Entering ws d) (hd : ∀ id, ¬Awaits id d → ¬Awaits id d') : Entering ws d' :=
  ⟨h.leaves, h.one, fun e he => (h.status e he).imp_left (hd _)⟩

theorem Settled.commit (h : Settled d) (hws : Entering ws d) (hfits : (entered ws).all (fits d) = true) :
    Settled (payDb.applyAll ws d) where
  once paymentId := by
    rw [count_eq, captures_applyAll, List.countP_append, ← count_eq]
    have hone := hws.one
    cases hrows : entered ws with
    | nil => exact h.once paymentId
    | cons e rows =>
        rw [hrows] at hone hfits
        obtain rfl : rows = [] := List.eq_nil_of_length_eq_zero (by simpa using hone)
        rw [List.countP_singleton]
        split
        · rename_i hid
          obtain rfl : e.razorpayId = paymentId := by simpa using hid
          -- a row of the payment would be one of a booking that awaits it
          have hnone : d.paymentLedger.countP (capturesOf e.razorpayId) = 0 := by
            refine List.countP_eq_zero.mpr fun e' he' hcaptures => ?_
            have hfit : fits d e = true := List.all_eq_true.mp hfits e (List.mem_singleton_self _)
            have hboth := List.all_eq_true.mp hfit e' he'
            rw [hcaptures, Bool.not_true, Bool.false_or, Bool.and_eq_true, beq_iff_eq] at hboth
            rw [capturesOf, Bool.and_eq_true] at hcaptures
            exact h.closed e' he' hcaptures.1 (hboth.2 ▸ hboth.1)
          rw [hnone]
        · exact h.once paymentId
  closed e he hcaptures := by
    rw [ledger_applyAll] at he
    rcases List.mem_append.mp he with he | he
    · exact not_inStatus_applyAll (fun w hw b => hws.leaves w hw _ b) (Or.inl (h.closed e he hcaptures))
    · have hmem : e ∈ entered ws := List.mem_filter.mpr ⟨he, hcaptures⟩
      exact not_inStatus_applyAll (fun w hw b => hws.leaves w hw _ b) (hws.status e hmem)

theorem Settled.plain (h : Settled d) (hws : ∀ w ∈ ws, ∀ id b, w.setsStatus id = some b → awaits b = false)
    (hnone : entered ws = []) : Settled (payDb.applyAll ws d) :=
  h.commit ⟨hws, by rw [hnone]; exact Nat.zero_le _, fun e he => by rw [hnone] at he; cases he⟩
    (by rw [hnone]; rfl)

/-- The data after a command: no booking awaits a payment again, and the ledger
is settled. -/
theorem capture_data (h : EnteredOnce s) (hpre : CapturePre i c s)
    (hallows : fittingCaptures.allows i op c o s) :
    (∀ id, ¬Awaits id s.world.data → ¬Awaits id (payDb.step c o s.world).2.data) ∧
      Settled (payDb.step c o s.world).2.data := by
  rcases step_data payDb c o s.world with hd | ⟨q, rfl, -, hd⟩ | ⟨ss, rfl, hss, hgo, hd⟩ <;> rw [hd]
  · exact ⟨fun _ hid => hid, h.settled⟩
  · obtain ⟨hq, hnone⟩ : q.gives awaits = false ∧ q.rowsOf captures = [] := hpre.2
    have hleaves : ∀ w ∈ (payDb.exec q o s.world.data).2, ∀ id b, w.setsStatus id = some b →
        awaits b = false := fun w hw id b => status_of_exec hq hw
    refine ⟨fun id hid => not_inStatus_applyAll (fun w hw b => hleaves w hw id b) (Or.inl hid), ?_⟩
    exact h.settled.plain hleaves ((rowsOf_exec q o _).trans hnone)
  · have hentering := h.entering ss hss
    have hfits := hallows.2
    rw [settles, session?_of_mem h.store hss] at hfits
    dsimp only at hfits
    rw [hgo, Bool.false_or] at hfits
    exact ⟨fun id hid => not_inStatus_applyAll (fun w hw b => hentering.leaves w hw id b) (Or.inl hid),
      h.settled.commit hentering hfits⟩

/-- **Step**: a command that meets its assertion keeps payments from a second row. -/
theorem enteredOnce_exec (h : EnteredOnce s) (hpre : CapturePre i c s)
    (hallows : fittingCaptures.allows i op c o s) : EnteredOnce (s.exec (payments P) i op c o) := by
  obtain ⟨hclosed, hsettled⟩ := capture_data h hpre hallows
  refine ⟨storeOk_step h.store hallows.1, openers_exec h.openers .., hsettled, fun ss hss => ?_⟩
  have hkept : ∀ ss₀ ∈ s.world.sessions,
      Entering ss₀.writes (s.exec (payments P) i op c o).world.data := fun ss₀ hss₀ =>
    (h.entering ss₀ hss₀).mono hclosed
  rcases session_of_step hss with hnil | ⟨ss₀, hss₀, hid, hsame | ⟨q, rfl, -, happ⟩⟩
  · rw [hnil]
    exact entering_nil
  · rw [hsame]
    exact hkept ss₀ hss₀
  · obtain ⟨hq, hrows⟩ := hpre.2
    have hss₀' : s.world.session? ss.id = some ss₀ := hid ▸ session?_of_mem h.store hss₀
    have hold := hkept ss₀ hss₀
    rw [happ, wants, hss₀']
    dsimp only
    split
    · rw [List.append_nil]
      exact hold
    · refine ⟨fun w hw id b hb => ?_, ?_, fun e he => ?_⟩
      · rcases List.mem_append.mp hw with hw | hw
        · exact hold.leaves w hw id b hb
        · exact status_of_exec hq hw hb
      · rw [entered, rowsOf_append, rowsOf_exec, List.length_append]
        rcases hrows with hnone | ⟨hone, hempty, -⟩
        · rw [hnone]
          exact hold.one
        · rw [show rowsOf captures ss₀.writes = [] from hempty ss₀ hss₀', List.length_nil, Nat.zero_add]
          exact hone
      · have hweak : (∃ w ∈ ss₀.writes, (w.setsStatus e.bookingId).isSome = true) →
            ∃ w ∈ ss₀.writes ++ (payDb.exec q o (payDb.applyAll ss₀.writes s.world.data)).2,
              (w.setsStatus e.bookingId).isSome = true := by
          rintro ⟨w, hw, hs⟩
          exact ⟨w, List.mem_append_left _ hw, hs⟩
        rw [entered, rowsOf_append, rowsOf_exec] at he
        rcases List.mem_append.mp he with he | he
        · exact (hold.status e he).imp_right hweak
        · rcases hrows with hnone | ⟨-, -, hstatus⟩
          · rw [hnone] at he
            cases he
          · exact (hstatus e he).imp (hclosed _) fun hset => hweak (hset ss₀ hss₀')

end Step

/-! ## The calls -/

section Calls

variable {P : PayPlatform} {bookingId tenantId : String} {i tx : Nat} {op : PayOp} {s : PaySnap}
  {α : Type}

theorem tracks_captures : Tracks captureOutline where
  store h := h.store
  openers h := h.openers
  own h := h.1
  waits h := h.1

theorem addsCaptures (P : PayPlatform) : AddsRows PayMove.apply (PayOp.body P) captureOutline
    (fun _ => True) awaits captures where
  tracks := tracks_captures
  left {i id} _ s s' hstep hs := by
    cases hstep with
    | env e _ =>
        cases e with
        | data m => cases m <;> exact hs
        | abort tx => exact hs
    | other _ _ hinv hpre hallows => exact (capture_data hinv hpre hallows).1 id hs
  start := ⟨nofun, trivial⟩
  commit ho := ⟨ho.own rfl, trivial⟩
  rollback ho := ⟨ho.own rfl, trivial⟩
  plain {_ _ t _ _} hown hq hrows _ := by
    cases t with
    | none => exact ⟨hown, hq, hrows⟩
    | some tx => exact ⟨hown, hq, Or.inl hrows⟩
  row {_ _ _ rows _ _} hs hrows hone := by
    refine ⟨hs.1.1.own rfl, rfl, Or.inr ⟨hone, hs.1.2, fun e he => ?_⟩⟩
    rw [hrows e (List.mem_filter.mp he).1]
    exact (hs.2 trivial).imp_right fun hin => hin.2

theorem captures_aside : LetsAside captureOutline i op :=
  (addsCaptures Payments.Sample.platform).letsAside fun b hb => by
    cases b <;> first | rfl | cases hb

abbrev Capturing (P : PayPlatform) (i : Nat) (op : PayOp) (p : PayM α) (s : PaySnap) : Prop :=
  Fine PayMove.apply (PayOp.body P) captureOutline i op p s

theorem capturing_processPaymentSuccess {paymentId signature : String} :
    Capturing P i op (processPaymentSuccess bookingId paymentId signature tenantId) s := by
  have h := addsCaptures P
  refine h.transaction fun tx s _ hs => ?_
  refine h.find hs (fun s hs => entryBody_throw hs.1.1) fun booking s hs hclosed => ?_
  dsimp only
  split
  · exact entryBody_throw hs.1
  · split
    · refine h.dateNow hs fun now s hs => ?_
      refine h.status hs rfl rfl fun s hs => ?_
      refine h.between hs rfl rfl rfl fun _ s hs => ?_
      refine h.between hs rfl rfl rfl fun _ s hs => ?_
      exact h.add hs (by simp [paymentEntry]) (Nat.le_refl 1) fun s hs => entryBody_ret hs
    · split
      · rename_i hexpired
        exact h.add (hclosed (by rw [hexpired]; rfl)) (by simp [paymentEntry, refundFlag])
          (Nat.le_refl 1) fun s hs => entryBody_ret hs
      · exact entryBody_ret hs.1

theorem capturing_syncPayment {paymentId : String} {finalAmount : Money} :
    Capturing P i op (syncPayment bookingId paymentId tenantId finalAmount) s := by
  have h := addsCaptures P
  refine h.transaction fun tx s _ hs => ?_
  refine h.find hs (fun s hs => entryBody_ret hs.1.1) fun bk s hs _ => ?_
  dsimp only
  split
  · rename_i hstatus
    rw [hstatus, show validateTransition .PAYMENT_IN_PROGRESS .CONFIRMED = .ret () from rfl, ret_bind]
    refine h.dateNow hs fun now s hs => ?_
    refine h.status hs rfl rfl fun s hs => ?_
    refine h.between hs rfl rfl rfl fun _ s hs => ?_
    refine h.between hs rfl rfl rfl fun _ s hs => ?_
    rw [← bind_ret (ask (some tx) _)]
    exact h.add hs (by simp [paymentEntry]) (Nat.le_refl 1) fun s hs => entryBody_ret hs
  · split
    · rename_i hdead
      have hallowed : validateTransition bk.status .REFUND_INITIATED = .ret () := by
        rcases hdead with h | h | h <;> rw [h] <;> rfl
      rw [hallowed, ret_bind]
      refine h.dateNow hs fun paymentCapturedAt s hs => ?_
      refine h.dateNow hs fun refundInitiatedAt s hs => ?_
      refine h.status hs rfl rfl fun s hs => ?_
      rw [← bind_ret (ask (some tx) _)]
      exact h.add hs (by simp [paymentEntry, refundFlag]) (Nat.le_refl 1) fun s hs => entryBody_ret hs
    · exact entryBody_ret hs.1

/-! ### Transactions that enter nothing -/

/-- A statement that enters no payment and gives no booking a status in which it awaits
one. -/
def Plain (q : PayStmt) : Prop :=
  q.gives awaits = false ∧ q.rowsOf captures = [] ∧ q.refundAmount? = none

theorem plain_ofRefund {q : PayStmt} (hq : q.ofRefund = true) : Plain q := by
  cases q with
  | bookingUpdate id status data =>
      refine ⟨?_, rfl, rfl⟩
      show data.status.any awaits = false
      rcases Bool.or_eq_true_iff.mp hq with h | h <;> rw [eq_of_beq h] <;> rfl
  | ledgerCreateMany rows =>
      refine ⟨rfl, List.filter_eq_nil_iff.mpr fun e he => ?_, rfl⟩
      rw [captures, eq_of_beq (List.all_eq_true.mp hq e he)]
      nofun
  | dateNow | bookingFindUnique | deadLetterCreate => exact ⟨rfl, rfl, rfl⟩
  | _ => cases hq

theorem transacts_failBooking : Transacts Plain (failBooking bookingId) := by
  refine ⟨_, rfl, fun tx => (all_own ⟨rfl, rfl, rfl⟩).bind fun bk => ?_⟩
  cases bk with
  | none => trivial
  | some bk =>
      dsimp only
      split
      · exact (all_throwIf ..).bind fun _ => (all_own ⟨rfl, rfl, rfl⟩).bind fun _ =>
          all_own ⟨rfl, rfl, rfl⟩
      · trivial

theorem entryBody_plain {p : PayM α} (hp : p.All (SaysIn tx Plain)) (hs : Opened i tx s) :
    EntryBody PayMove.apply (PayOp.body P) captureOutline i tx op p s := by
  refine (wp_keep hp (F := Opened i tx) (fun c hc s _ hs => ?_)
    (Opened.persistent i tx).kept hs).mono (fun _ _ _ h => h) fun _ _ _ h => ⟨h, trivial⟩
  cases c with
  | stmt t q =>
      obtain ⟨ht, hq, hrows, hasks⟩ := hc
      refine (addsCaptures P).plain ?_ hq hrows hasks
      rcases ht with rfl | rfl
      · exact nofun
      · exact hs.own rfl
  | _ => exact hc.elim

theorem capturing_of_transacts {p : PayM α} (hp : Transacts Plain p) : Capturing P i op p s := by
  obtain ⟨body, rfl, hbody⟩ := hp
  exact (addsCaptures P).transaction fun tx s _ hs => entryBody_plain (hbody tx) hs.1

/-! ### The worker and the webhook -/

theorem capturing_sweepPendingRefunds : Capturing P i op sweepPendingRefunds s :=
  fine_sweepPendingRefunds captures_aside fun _ _ _ _ => fine_processRefund captures_aside
    (fun _ _ _ _ _ => ⟨nofun, rfl, rfl⟩)
    (fun _ _ _ _ => capturing_of_transacts (transacts_recordRefund.mono fun _ => plain_ofRefund))
    fun _ _ _ => capturing_of_transacts (transacts_handleRefundFailure.mono fun _ => plain_ofRefund)

theorem capturing_handleReconciliation {process : String} :
    Capturing P i op (handleReconciliation process) s :=
  fine_handleReconciliation captures_aside
    (fun _ _ _ _ _ hinv => fine_reconcileBooking captures_aside hinv
      (fun _ => capturing_of_transacts transacts_failBooking)
      fun _ _ _ _ => capturing_syncPayment)
    fun _ => capturing_sweepPendingRefunds

variable {r : Delivery} {payment : PaymentEntity}

theorem capturing_recordCapture : Capturing P i op (recordCapture r payment bookingId) s := by
  have h := addsCaptures P
  refine h.transaction fun tx s hinv hs => ?_
  have hcreate : (ask (some tx) (.webhookEventCreate (eventKey r.body payment))).All
      (SaysIn tx Plain) := all_own ⟨rfl, rfl, rfl⟩
  refine wp_bind hinv (wp_attempt ((entryBody_plain hcreate hs.1).mono (fun _ s hinv hs => ?_)
    fun e s hinv hs => ?_))
  · dsimp only
    split
    · exact entryBody_throw hs
    · refine h.ask hs rfl rfl rfl fun paymentEventId s hinv hs => ?_
      refine entryBody_nested hinv hs capturing_processPaymentSuccess fun _ s _ hs => ?_
      exact entryBody_plain (all_own ⟨rfl, rfl, rfl⟩) hs
  · dsimp only
    split
    · exact entryBody_ret hs.1
    · exact entryBody_throw hs.1

theorem capturing_paymentCaptured (hinv : EnteredOnce s) :
    Capturing P i op (paymentCaptured r payment bookingId) s := by
  refine fine_attempt hinv capturing_recordCapture fun captured s hinv => ?_
  cases captured with
  | ok u => exact fine_ret
  | error e => exact fine_bind hinv (fine_last_aside captures_aside rfl) fun _ _ _ => fine_err

theorem capturing_handleWebhook (hinv : EnteredOnce s) (hevent : r.body.event = "payment.captured") :
    Capturing P i op (handleWebhook P r) s := by
  unfold handleWebhook
  split
  · exact fine_err
  · refine fine_bind hinv (fine_aside captures_aside (all_throwIf ..)) fun _ s hinv => ?_
    split
    · exact fine_ret
    · rename_i payment _
      refine fine_bind hinv (fine_aside captures_aside all_resolveBookingId) fun bookingId s hinv => ?_
      cases bookingId with
      | none => exact fine_ret
      | some bookingId =>
          have hdispatch : dispatch r payment bookingId = paymentCaptured r payment bookingId :=
            if_pos hevent
          dsimp only
          rw [hdispatch]
          exact fine_bind hinv (capturing_paymentCaptured hinv) fun _ _ _ => fine_ret

end Calls

/-! ## Runs -/

theorem captureOutline_valid (P : PayPlatform) :
    Outline.Valid (payments P) captureOutline fun _ _ _ _ => True where
  inv_exec h _ _ _ _ _ hpre hallows := enteredOnce_exec h hpre hallows
  inv_env {s} h e := by
    have hstore : payDb.StoreOk (s.env (payments P) e).world := by
      rw [Snap.env_world]
      exact storeOk_env h.store e
    cases e with
    | data m =>
        cases m <;> exact ⟨hstore, openers_env h.openers _, ⟨h.settled.once, h.settled.closed⟩,
          fun ss hss => (h.entering ss hss).mono fun _ hid => hid⟩
    | abort tx =>
        exact ⟨hstore, openers_env h.openers _, h.settled, fun ss hss =>
          h.entering ss (List.mem_filter.mp hss).1⟩
  body i op s hop hinv _ := by
    cases op with
    | handleReconciliation process => exact wp_map _ capturing_handleReconciliation
    | handleWebhook r =>
        exact wp_map _ (capturing_handleWebhook hinv (by simpa [captureOutline, fittingCaptures,
          takesPayments] using hop))
    | _ => cases hop

section Decidable

instance (op : PayOp) : Decidable (captureServices.starts op) :=
  inferInstanceAs (Decidable (takesPayments op = true))

instance (i : Nat) (op : PayOp) (c : TxCmd PayStmt) (o : PayOracle) (s : PaySnap) :
    Decidable (captureServices.allows i op c o s) :=
  inferInstanceAs (Decidable (payDb.waits c o s.world = false))

instance (op : PayOp) : Decidable (fittingCaptures.starts op) :=
  inferInstanceAs (Decidable (takesPayments op = true))

instance (i : Nat) (op : PayOp) (c : TxCmd PayStmt) (o : PayOracle) (s : PaySnap) :
    Decidable (fittingCaptures.allows i op c o s) :=
  inferInstanceAs (Decidable (payDb.waits c o s.world = false ∧ settles s.world c = true))

end Decidable

theorem settled_of_empty {d : PayData} (hd : d.paymentLedger = []) : Settled d where
  once _ := by rw [hd]; exact Nat.zero_le _
  closed _ he := by rw [hd] at he; cases he

/-- **Exactly once**: as long as every transaction that has entered a payment finds,
when it commits, the ledger without it, or its booking still waiting for it, the
ledger has no payment twice. -/
theorem enteredOnce_run (P : PayPlatform) {d : PayData} (hd : Settled d) {ls : List PayLabel}
    (hls : fittingCaptures.admitsRun (payments P) (Config.idle (.idle d)) ls) (paymentId : String) :
    ((Config.idle (.idle d)).run (payments P) ls).world.data.paymentLedger.countP (capturesOf paymentId)
      ≤ 1 := by
  have hidle : captureOutline.inv (⟨.idle d, []⟩ : PaySnap) :=
    ⟨⟨List.nodup_nil, nofun, nofun⟩, openers_idle _, hd, fun _ h => absurd h List.not_mem_nil⟩
  exact (Outline.sound (captureOutline_valid P) (Outline.Good.idle hidle) hls).inv.settled.once paymentId

namespace Sample

open Payments.Sample

/-- `n` steps of the delivery of an event. -/
def deliver (i : Nat) (eventId : String) (n : Nat) : List PayLabel :=
  .spawn (.handleWebhook (delivery eventId)) :: List.replicate n (.step i { fresh := eventId })

/-- Two events of a payment, one after the other. -/
def twoEvents : List PayLabel := deliver 0 "evt_1" 14 ++ deliver 1 "evt_2" 14

/-- The second is handled between the first's reading its booking and its writing. -/
def overlapping : List PayLabel :=
  deliver 0 "evt_1" 6 ++ deliver 1 "evt_2" 14 ++ List.replicate 8 (.step 0 { fresh := "evt_1" })

end Sample

open Payments.Sample in
theorem enteredOnce_twoEvents :
    ((Config.idle (.idle (data (booking .PAYMENT_IN_PROGRESS)))).run (payments platform)
      Sample.twoEvents).world.data.paymentLedger.countP (capturesOf "pay_1") ≤ 1 :=
  enteredOnce_run platform (settled_of_empty rfl) (by decide +kernel) "pay_1"

open Payments.Sample in
/-- A booking that is dead stays so, and each event enters its payment anew. -/
theorem not_enteredOnce_expired :
    ¬∀ (P : PayPlatform) (d : PayData), d.paymentLedger = [] → ∀ ls : List PayLabel,
      captureServices.admitsRun (payments P) (Config.idle (.idle d)) ls → ∀ paymentId,
        ((Config.idle (.idle d)).run (payments P) ls).world.data.paymentLedger.countP
          (capturesOf paymentId) ≤ 1 := fun h =>
  absurd (h platform (data (booking .EXPIRED)) rfl Sample.twoEvents (by decide +kernel) "pay_1")
    (by decide +kernel)

open Payments.Sample in
-- the second of two that have read the booking before either confirms it
example :
    captureServices.admitsRun (payments platform)
        (Config.idle (.idle (data (booking .PAYMENT_IN_PROGRESS)))) Sample.overlapping ∧
      ((Config.idle (.idle (data (booking .PAYMENT_IN_PROGRESS)))).run (payments platform)
        Sample.overlapping).world.data.paymentLedger.countP (capturesOf "pay_1") = 2 := by
  decide +kernel

/-! ## One call after another

A sweep looks into the ledger itself before it enters a payment, so that it enters
none twice when nothing comes between. A delivery does not look: what it enters fits
when the payment fits its booking as the delivery starts. -/

/-- A delivery enters its payment for a booking in one of these. -/
def takesIn (b : BookingStatus) : Bool := awaits b || b == .EXPIRED

/-- If the booking takes the payment, it fits. -/
def TakesFitting (bookingId paymentId : String) (d : PayData) : Prop :=
  (d.statusOf bookingId).any takesIn = true →
    fits d (paymentEntry bookingId 0 paymentId "") = true

/-- What `resolveBookingId` finds. -/
def bookingOf (payment : PaymentEntity) (d : PayData) : Option String :=
  match truthy? payment.notes.bookingId with
  | some bookingId => some bookingId
  | none => (truthy? payment.order_id).bind fun orderId =>
      truthy? ((d.bookings.rows.find? (·.razorpayOrderId == some orderId)).map (·.id))

/-- The payment of a delivery fits when the delivery starts. -/
def Fitting : PayOp → PaySnap → Prop
  | .handleWebhook r, s => ∀ payment ∈ r.body.payment, ∀ bookingId ∈ bookingOf payment s.world.data,
      TakesFitting bookingId payment.id s.world.data
  | _, _ => True

section Visits

variable {P : PayPlatform} {bookingId tenantId paymentId : String} {i tx : Nat} {op : PayOp}
  {s : PaySnap} {α : Type} {K : LedgerEntry → Prop} {G : PayData → Prop}

abbrev Alone (P : PayPlatform) (i : Nat) (op : PayOp) (p : PayM α) (s : PaySnap) : Prop :=
  Meets (PayOp.body P) fittingCaptures i op p s

theorem solo_aside : LetsAside (solo fittingCaptures) i op :=
  fun _ _ _ _ => ⟨nofun, fun _ hwaits => ⟨hwaits, rfl⟩⟩

/-- A statement of the transaction that enters such payments only, or a look at the
clock. -/
def Enters (K : LedgerEntry → Prop) (tx : Nat) : TxCmd PayStmt → Prop
  | .stmt (some tx') q => tx' = tx ∧ ∀ e ∈ q.rowsOf captures, K e
  | .stmt none q => q = .dateNow
  | _ => False

theorem all_enters {q : PayStmt} (h : ∀ e ∈ q.rowsOf captures, K e) :
    (ask (some tx) q).All (Enters K tx) :=
  ⟨⟨rfl, h⟩, fun r => by cases r <;> trivial⟩

theorem all_enters_dateNow : (ask none .dateNow).All (Enters K tx) :=
  ⟨rfl, fun r => by cases r <;> trivial⟩

theorem entered_exec {q : PayStmt} (h : ∀ e ∈ q.rowsOf captures, K e) (ws : List PayWrite)
    (o : PayOracle) (d : PayData) (hws : ∀ e ∈ entered ws, K e) :
    ∀ e ∈ entered (ws ++ (payDb.exec q o d).2), K e := by
  intro e he
  rw [entered, rowsOf_append, rowsOf_exec] at he
  exact (List.mem_append.mp he).elim (hws e) (h e)

theorem keeps_of_enters {c : TxCmd PayStmt} (h : Enters K tx c) :
    payDb.Keeps tx (fun ws => ∀ e ∈ entered ws, K e) G c := by
  cases c with
  | stmt t q =>
      cases t with
      | none =>
          obtain rfl : q = .dateNow := h
          exact fun _ _ hG => hG
      | some tx' => exact ⟨h.1, entered_exec h.2⟩
  | _ => exact h.elim

theorem settles_of_enters {c : TxCmd PayStmt} (h : Enters K tx c) : settles s.world c = true := by
  cases c with
  | stmt t q => rfl
  | _ => exact h.elim

theorem alone_transaction {p : Nat → PayM α} (hs : G s.world.data)
    (hp : ∀ (s : PaySnap) (tx : Nat), (solo fittingCaptures).inv s →
      Database.Within i tx (fun ss _ => ss.writes = [] ∧ ss.failed = false) G s →
      MeetsIn (PayOp.body P) fittingCaptures i op tx (p tx)
        (fun _ ss d => (entered ss.writes).all (fits d) = true) s) :
    Alone P i op (inTransaction p) s := by
  refine meets_transaction hs (fun s c o hstmt hcommit hwaits => ⟨hwaits, ?_⟩) hp
    fun s tx b o hin hwaits => ⟨hwaits, ?_⟩
  · cases c with
    | commit tx => exact absurd rfl (hcommit tx)
    | _ => rfl
  · rw [settles]
    cases hss : s.world.session? tx with
    | none => rfl
    | some ss => exact Bool.or_eq_true_iff.mpr (Or.inr (hin.2 ss hss))

theorem alone_body {p : PayM α} {Pc : TxCmd PayStmt → Prop} (hp : p.All Pc)
    (hkeeps : ∀ c, Pc c → payDb.Keeps tx (fun ws => ∀ e ∈ entered ws, K e) G c)
    (hs : Database.Within i tx (fun ss _ => ∀ e ∈ entered ss.writes, K e) G s)
    (hfits : ∀ d e, G d → K e → fits d e = true) :
    MeetsIn (PayOp.body P) fittingCaptures i op tx p
      (fun _ ss d => (entered ss.writes).all (fits d) = true) s := by
  refine (meetsIn_keeps hp hkeeps hs fun c s o hc _ hwaits => ?_).mono
    (fun _ _ _ h => h.mono fun ss d hss => List.all_eq_true.mpr fun e he =>
      hfits d e hss.2 (hss.1 e he)) fun _ _ _ h => h
  have hc' := hkeeps c hc
  cases c with
  | stmt t q => exact ⟨hwaits, rfl⟩
  | _ => exact hc'.elim

theorem entered_nil {ss : Session PayWrite} (h : ss.writes = [] ∧ ss.failed = false) :
    ∀ e ∈ entered ss.writes, K e := by
  rw [h.1]
  exact nofun

theorem alone_of_transacts {p : PayM α} (hp : Transacts Plain p) : Alone P i op p s := by
  obtain ⟨body, rfl, hbody⟩ := hp
  refine alone_transaction (G := fun _ => True) trivial fun s tx _ hs => ?_
  refine alone_body (K := fun _ => False) (G := fun _ => True) (hbody tx) (fun c hc => ?_)
    ⟨hs.own.mono fun ss _ => entered_nil, trivial⟩ fun _ _ _ => False.elim
  cases c with
  | stmt t q =>
      obtain ⟨ht, -, hrows, -⟩ := hc
      rcases ht with rfl | rfl
      · exact fun _ _ _ => trivial
      · exact ⟨rfl, entered_exec (by rw [hrows]; exact nofun)⟩
  | _ => exact hc.elim

/-! ### A sweep -/

/-- The payment is entered where the ledger has no row of it. -/
theorem alone_syncPayment {finalAmount : Money}
    (hs : ∀ e ∈ s.world.data.paymentLedger, capturesOf paymentId e = false) :
    Alone P i op (syncPayment bookingId paymentId tenantId finalAmount) s := by
  refine alone_transaction (G := fun d => ∀ e ∈ d.paymentLedger, capturesOf paymentId e = false) hs
    fun s tx _ hs => ?_
  have hrows : ∀ {rows : List LedgerEntry}, (∀ e ∈ rows, e.razorpayId = paymentId) →
      ∀ e ∈ PayStmt.rowsOf captures (.ledgerCreateMany rows), e.razorpayId = paymentId :=
    fun h e he => h e (List.mem_filter.mp he).1
  refine alone_body (K := fun e => e.razorpayId = paymentId)
    (G := fun d => ∀ e ∈ d.paymentLedger, capturesOf paymentId e = false) ?_
    (fun _ => keeps_of_enters) ⟨hs.own.mono fun ss _ => entered_nil, hs.data⟩ ?_
  · refine (all_enters nofun).bind fun bk => ?_
    cases bk with
    | none => trivial
    | some bk =>
        dsimp only
        split
        · exact (all_throwIf ..).bind fun _ => all_enters_dateNow.bind fun _ =>
            (all_enters nofun).bind fun _ => (all_enters nofun).bind fun _ =>
              (all_enters nofun).bind fun _ => all_enters (hrows (by simp [paymentEntry]))
        · split
          · exact (all_throwIf ..).bind fun _ => all_enters_dateNow.bind fun _ =>
              all_enters_dateNow.bind fun _ => (all_enters nofun).bind fun _ =>
                all_enters (hrows (by simp [paymentEntry, refundFlag]))
          · trivial
  · rintro d e hnone rfl
    exact List.all_eq_true.mpr fun e' he' => by rw [hnone e' he']; rfl

theorem alone_handleReconciliation {process : String} :
    Alone P i op (handleReconciliation process) s := by
  have hrefunds : ∀ s, Alone P i op sweepPendingRefunds s := fun s =>
    fine_sweepPendingRefunds solo_aside fun _ _ _ _ => fine_processRefund solo_aside
      (fun _ _ _ _ _ => ⟨nofun, fun _ hwaits => ⟨hwaits, rfl⟩⟩)
      (fun _ _ _ _ => alone_of_transacts (transacts_recordRefund.mono fun _ => plain_ofRefund))
      fun _ _ _ => alone_of_transacts (transacts_handleRefundFailure.mono fun _ => plain_ofRefund)
  refine fine_handleReconciliation solo_aside (fun _ _ _ _ _ hinv => fine_reconcileBooking solo_aside
    hinv (fun _ => alone_of_transacts transacts_failBooking) fun paymentId s o hnone => ?_) hrefunds
  obtain ⟨hexec, hstep⟩ := query_ok hnone
  have hfind := List.find?_eq_none.mp (Except.ok.inj hexec)
  refine alone_syncPayment fun e he => ?_
  rw [Snap.exec_world, show (payDb.system _ (PayOp.body P)).exec = payDb.step from rfl, hstep] at he
  have hnot := hfind e he
  rw [Bool.not_eq_true, Bool.and_eq_false_iff] at hnot
  rw [capturesOf, captures]
  rcases hnot with h | h <;> simp [h]

/-! ### A delivery -/

/-- Of this payment for this booking, which has had such a status. -/
def Taken (bookingId paymentId : String) (status : Option BookingStatus) (e : LedgerEntry) : Prop :=
  e.bookingId = bookingId ∧ e.razorpayId = paymentId ∧ status.any takesIn = true

theorem enters_processPaymentSuccess (bookingId paymentId signature tenantId : String) :
    ∃ f : Nat → Option Booking → PayM Processed,
      processPaymentSuccess bookingId paymentId signature tenantId =
        inTransaction (fun tx => ask (some tx) (.bookingFindUnique bookingId) >>= f tx) ∧
      ∀ tx b, (f tx b).All (Enters (Taken bookingId paymentId (b.map (·.status))) tx) := by
  refine ⟨_, rfl, fun tx b => ?_⟩
  cases b with
  | none => trivial
  | some booking =>
      dsimp only
      split
      · trivial
      · split
        · rename_i hstatus
          refine all_enters_dateNow.bind fun _ => (all_enters nofun).bind fun _ =>
            (all_enters nofun).bind fun _ => (all_enters nofun).bind fun _ =>
              (all_enters fun e he => ?_).bind fun _ => trivial
          obtain rfl := List.mem_singleton.mp (List.mem_filter.mp he).1
          exact ⟨rfl, rfl, by rcases hstatus with h | h <;> rw [Option.map_some, h] <;> rfl⟩
        · split
          · rename_i hexpired
            refine (all_enters fun e he => ?_).bind fun _ => trivial
            obtain ⟨hmem, hcaptures⟩ := List.mem_filter.mp he
            rcases List.mem_cons.mp hmem with rfl | hmem
            · exact ⟨rfl, rfl, by rw [Option.map_some, hexpired]; rfl⟩
            · obtain rfl := List.mem_singleton.mp hmem
              cases hcaptures
          · trivial

theorem alone_processPaymentSuccess {signature : String}
    (hs : TakesFitting bookingId paymentId s.world.data) :
    Alone P i op (processPaymentSuccess bookingId paymentId signature tenantId) s := by
  obtain ⟨f, heq, hf⟩ := enters_processPaymentSuccess bookingId paymentId signature tenantId
  rw [heq]
  refine alone_transaction hs fun s tx _ hs => ?_
  refine meetsIn_stmt (H := fun _ ss _ => ∀ e ∈ entered ss.writes, False)
    (L := fun b d => TakesFitting bookingId paymentId d ∧ d.bookings.find bookingId = b) hs
    (fun _ _ _ hwaits => ⟨hwaits, rfl⟩) (fun b o ss d hss hd hexec => ?_) fun b s _ hs => ?_
  · obtain ⟨hwrites, -⟩ := hss
    rw [hwrites] at hexec ⊢
    exact ⟨nofun, hd, Except.ok.inj (Prod.mk.inj hexec).1⟩
  · refine alone_body
      (G := fun d => TakesFitting bookingId paymentId d ∧ d.bookings.find bookingId = b)
      (hf tx b) (fun _ => keeps_of_enters)
      ⟨hs.own.mono fun ss _ hnone e he => (hnone e he).elim, hs.data⟩ ?_
    rintro d e ⟨htakes, hfind⟩ ⟨rfl, rfl, hstatus⟩
    refine htakes ?_
    rw [PayData.statusOf, hfind]
    exact hstatus

variable {r : Delivery} {payment : PaymentEntity}

theorem named_of_enters {c : TxCmd PayStmt} (h : Enters K tx c) : ∀ t, c.tx? = some t → t = tx := by
  cases c with
  | stmt t q =>
      cases t with
      | none => exact nofun
      | some tx' =>
          rintro _ ⟨⟩
          exact h.1
  | _ => exact h.elim

/-- A statement of a transaction that has entered nothing, and does not. -/
theorem alone_stmt {β : Type} {q : PayStmt} {f : q.Ret → PayM β}
    (hs : Database.Within i tx (fun ss _ => ∀ e ∈ entered ss.writes, False) G s)
    (hrows : q.rowsOf captures = [])
    (hok : ∀ a s, (solo fittingCaptures).inv s →
      Database.Within i tx (fun ss _ => ∀ e ∈ entered ss.writes, False) G s →
      MeetsIn (PayOp.body P) fittingCaptures i op tx (f a)
        (fun _ ss d => (entered ss.writes).all (fits d) = true) s) :
    MeetsIn (PayOp.body P) fittingCaptures i op tx (ask (some tx) q >>= f)
      (fun _ ss d => (entered ss.writes).all (fits d) = true) s :=
  meetsIn_stmt (H := fun _ ss _ => ∀ e ∈ entered ss.writes, False) (L := fun _ => G) hs
    (fun _ _ _ hwaits => ⟨hwaits, rfl⟩)
    (fun _ o ss _ hss hd _ => ⟨entered_exec (by rw [hrows]; exact nofun) ss.writes o _ hss, hd⟩) hok

theorem alone_recordCapture (hs : TakesFitting bookingId payment.id s.world.data) :
    Alone P i op (recordCapture r payment bookingId) s := by
  refine alone_transaction hs fun s tx hinv hs => ?_
  have hnone : ∀ {s : PaySnap}, InTx i tx (fun ss _ => ∀ e ∈ entered ss.writes, False) s →
      InTx i tx (fun ss d => (entered ss.writes).all (fits d) = true) s := fun h =>
    h.mono fun ss d hss => List.all_eq_true.mpr fun e he => (hss e he).elim
  have hcreate : (ask (some tx) (.webhookEventCreate (eventKey r.body payment))).All
      (Enters (fun _ => False) tx) := all_enters nofun
  refine wp_bind hinv (wp_attempt ((wp_keeps (C := fittingCaptures)
    (G := TakesFitting bookingId payment.id) hcreate (fun _ => keeps_of_enters)
    ⟨hs.own.mono fun ss _ => entered_nil, hs.data⟩
    fun c s o hc _ hwaits => ⟨hwaits, settles_of_enters hc⟩).mono (fun _ s hinv hs => ?_)
      fun e s _ hs => ?_))
  · dsimp only
    split
    · exact meetsIn_err hs.own.1
    · rename_i tenantId _
      refine alone_stmt hs rfl fun paymentEventId s hinv hs => ?_
      have hinner : Alone P i op
          (processPaymentSuccess bookingId payment.id (r.signature.getD "") tenantId) s :=
        alone_processPaymentSuccess hs.data
      obtain ⟨f, heq, hf⟩ :=
        enters_processPaymentSuccess bookingId payment.id (r.signature.getD "") tenantId
      rw [heq] at hinner ⊢
      refine meetsIn_nested (F := fun ws => ∀ e ∈ entered ws, False) hinv hs.own (fun tx' => ?_)
        hinner fun _ s _ hs => ?_
      · refine All.bind ⟨?_, fun a => ?_⟩ fun b => (hf tx' b).mono fun c => named_of_enters
        · rintro t ⟨⟩
          rfl
        · cases a <;> trivial
      · rw [← bind_ret (ask (some tx) _)]
        exact alone_stmt (G := fun _ => True) ⟨hs, trivial⟩ rfl fun _ s _ hs =>
          meetsIn_ret (hnone hs.own)
  · dsimp only
    split
    · exact meetsIn_ret (hnone hs.own)
    · exact meetsIn_err hs.own.1

theorem alone_paymentCaptured (hinv : (solo fittingCaptures).inv s)
    (hs : TakesFitting bookingId payment.id s.world.data) :
    Alone P i op (paymentCaptured r payment bookingId) s := by
  refine fine_attempt hinv (alone_recordCapture hs) fun captured s hinv => ?_
  cases captured with
  | ok u => exact fine_ret
  | error e => exact fine_bind hinv (fine_last_aside solo_aside rfl) fun _ _ _ => fine_err

theorem alone_handleWebhook (hinv : (solo fittingCaptures).inv s)
    (hevent : r.body.event = "payment.captured") (hs : Fitting (.handleWebhook r) s) :
    Alone P i op (handleWebhook P r) s := by
  unfold handleWebhook
  split
  · exact fine_err
  · refine meets_throwIf fun _ => ?_
    split
    · exact fine_ret
    · rename_i payment hpayment
      have hdispatch : ∀ (bookingId : String) (s : PaySnap), (solo fittingCaptures).inv s →
          TakesFitting bookingId payment.id s.world.data →
          Alone P i op (do dispatch r payment bookingId; return "ok") s := by
        intro bookingId s hinv hs
        rw [show dispatch r payment bookingId = paymentCaptured r payment bookingId from
          if_pos hevent]
        exact fine_bind hinv (alone_paymentCaptured hinv hs) fun _ _ _ => fine_ret
      have hfits := hs payment (Option.mem_def.mpr hpayment)
      unfold resolveBookingId
      cases hnotes : truthy? payment.notes.bookingId with
      | some bookingId =>
          refine hdispatch bookingId s hinv (hfits bookingId ?_)
          rw [bookingOf, hnotes]
          rfl
      | none =>
          cases horder : truthy? payment.order_id with
          | none => exact fine_ret
          | some orderId =>
              dsimp only
              rw [bind_assoc]
              refine meets_query (F := fun d _ => ∀ bookingId ∈ bookingOf payment d,
                TakesFitting bookingId payment.id d) hfits (fun _ _ _ hwaits => ⟨hwaits, rfl⟩)
                fun s o booking hinv hs hexec hdata => ?_
              have hfind := Except.ok.inj (Prod.mk.inj hexec).1
              cases hid : truthy? (booking.map (·.id)) with
              | none =>
                  exact fine_ret
              | some bookingId =>
                  refine hdispatch bookingId _ hinv ?_
                  rw [hdata]
                  refine hs bookingId ?_
                  rw [bookingOf, hnotes, horder, Option.bind_some, hfind]
                  exact hid

/-- **Alone**: where nothing comes between the steps of a call, and deliveries start
with payments that fit, all that is entered fits. -/
theorem fittingCaptures_visits (P : PayPlatform) (d : PayData)
    {xs : List (Visit PayOracle (DbEnv PayMove) PayOp)}
    (hready : StartsIn (payments P) Fitting (Config.idle (.idle d)) xs)
    (h : captureServices.admitsRun (payments P) (Config.idle (.idle d)) (visits 0 xs)) :
    fittingCaptures.admitsRun (payments P) (Config.idle (.idle d)) (visits 0 xs) := by
  have hinv : (solo fittingCaptures).inv (⟨.idle d, []⟩ : PaySnap) :=
    ⟨⟨List.nodup_nil, nofun, nofun⟩, openers_idle _⟩
  refine admitsRun_visits hinv h hready (fun h => h) (fun _ h => h) fun i op s hop hinv hs => ?_
  cases op with
  | handleReconciliation process => exact wp_map _ alone_handleReconciliation
  | handleWebhook r => exact wp_map _ (alone_handleWebhook hinv (eq_of_beq hop) hs)
  | _ => cases hop

end Visits

end Omnipax.Payments.LedgerOnce
