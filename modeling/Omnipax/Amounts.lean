import Omnipax.CapturedPayments

/-!
# The amounts of the money paths

What an order charges, what the processor and the reconciliation worker enter
in the ledger and what a refund asks for, each a function of the row of the
booking. The ledger entries and the refund take `finalAmount`, which is there
whatever its value; the order takes it when a discount was applied, and
`totalAmount` otherwise.
-/

namespace Omnipax.Payments

open Conc Prog Database

/-! ## Functions of the row -/

theorem mathRound_toDecimal (m : Money) : mathRound (m.toDecimal * 100) = m.hundredths := by
  rw [mathRound, m.toDecimal_mul, Int.floor_intCast_add]
  norm_num

theorem ledgerAmount_eq (b : Booking) : ledgerAmount b = b.finalAmount.hundredths :=
  mathRound_toDecimal _

theorem refundInPaise_eq (b : Booking) : refundInPaise b = b.finalAmount.hundredths :=
  mathRound_toDecimal _

theorem chargeInPaise_eq (b : Booking) :
    chargeInPaise b = if 0 < b.discountAmount.hundredths then (b.finalAmount.hundredths : Rat)
      else b.totalAmount.hundredths := by
  have hpos : b.discountAmount.toDecimal > 0 ↔ 0 < b.discountAmount.hundredths := by
    simp [Money.toDecimal]
  unfold chargeInPaise
  by_cases h : 0 < b.discountAmount.hundredths
  · rw [if_pos h, if_pos (hpos.mpr h), Money.toDecimal_mul]
  · rw [if_neg h, if_neg (mt hpos.mp h), Money.toDecimal_mul]

/-! ## The order -/

section Order

variable {P : PayPlatform} {s : PayStore} {booking : Booking}

/-- The row that is left charges what is charged. -/
def Charged (id : String) (amount : Rat) (d : PayData) : Prop :=
  ∃ booking, d.bookings.find id = some booking ∧ chargeInPaise booking = amount

theorem wlp_checkOrderable {userId : String} {Q : PayStore → Prop} (hQ : Q s) :
    (checkOrderable booking userId).wlp payDb.machine (fun _ => Q) (fun _ _ => True) s := by
  unfold checkOrderable
  cases booking.userId != userId with
  | true => trivial
  | false =>
      cases booking.status != .LOCKED with
      | true => trivial
      | false =>
          rw [throwIf_false, ret_bind, throwIf_false, ret_bind]
          cases booking.expiresAt with
          | none => exact hQ
          | some expiresAt =>
              refine wlp_query_sure (fun _ => rfl) ?_ fun _ _ => trivial
              cases decide (expiresAt < s.data.clock) with
              | true => trivial
              | false => exact hQ

/-- The booking goes on with the total it has in the table. -/
theorem wlp_withTotal (hfind : s.data.bookings.find booking.id = some booking) :
    (withTotal P booking).wlp payDb.machine
      (fun booking' s' => booking'.id = booking.id ∧
        s'.data.bookings.find booking.id = some booking') (fun _ _ => True) s := by
  unfold withTotal
  split
  · refine wlp_query_sure (fun _ => rfl) (wlp_query_sure
      (a := s.data.shows.find? (·.id == booking.showId)) (fun _ => rfl) ?_ fun _ _ => trivial)
      fun _ _ => trivial
    cases s.data.shows.find? (·.id == booking.showId) with
    | none => trivial
    | some shw =>
        refine wlp_query (fun o a ws h => ?_) fun _ _ => trivial
        obtain rfl := bookingUpdate_ok h
        exact ⟨rfl, (BookingTable.find_update.trans (if_pos rfl)).trans
          (congrArg (Option.map _) hfind)⟩
  · exact ⟨rfl, hfind⟩

theorem wlp_newOrder (hfind : s.data.bookings.find booking.id = some booking) :
    (newOrder P booking).wlp payDb.machine
      (fun _ s' => s'.data.bookings.find booking.id = some booking) (fun _ _ => True) s := by
  have hsame : ∀ {q : PayStmt} {o a ws}, q.updatesBooking = false →
      payDb.exec q o s.data = (.ok a, ws) →
      (payDb.applyAll ws s.data).bookings.find booking.id = some booking := by
    intro q o a ws hq h
    rw [bookings_applyAll (spares_exec hq h)]
    exact hfind
  unfold newOrder
  split
  · exact wlp_query (fun o a ws h => hsame rfl h) fun _ _ => trivial
  · rw [← bind_ret (ask _ _)]
    exact wlp_query (fun o a ws h => hsame rfl h) fun _ _ => trivial

theorem wlp_placeOrder {keyId : String} {T : PayExn → PayStore → Prop}
    (hfind : s.data.bookings.find booking.id = some booking) (hthrow : ∀ e s', T e s') :
    (placeOrder P booking keyId).wlp payDb.machine
      (fun answer s' => Charged booking.id answer.amount s'.data) T s := by
  unfold placeOrder
  cases truthy? booking.razorpayOrderId with
  | some orderId => exact ⟨booking, hfind, rfl⟩
  | none =>
      dsimp only
      rw [wlp_bind]
      refine wlp_mono (wlp_newOrder hfind) (fun orderId s' hs' => ?_) fun e s' _ => hthrow e s'
      refine wlp_query (fun o a ws h => ?_) fun _ _ => hthrow _ _
      obtain rfl := bookingUpdate_ok h
      exact wlp_query_sure (fun _ => rfl) ⟨_, (BookingTable.find_update.trans (if_pos rfl)).trans
        (congrArg (Option.map _) hs'), rfl⟩ fun _ _ => hthrow _ _

/-- What is charged is what the row says that order creation leaves. -/
theorem wlp_createRazorpayOrder (bookingId userId : String) :
    (createRazorpayOrder P bookingId userId).wlp payDb.machine
      (fun answer s' => Charged bookingId answer.amount s'.data) (fun _ _ => True) s := by
  unfold createRazorpayOrder
  split
  · refine wlp_query_sure (a := s.data.bookings.find bookingId) (fun _ => rfl) ?_ fun _ _ => trivial
    cases hfind : s.data.bookings.find bookingId with
    | none => trivial
    | some booking =>
        obtain ⟨-, rfl⟩ := BookingTable.mem_of_find hfind
        dsimp only
        rw [wlp_bind]
        refine wlp_checkOrderable ?_
        rw [wlp_bind]
        refine wlp_mono (wlp_withTotal hfind) (fun booking' s' ⟨hid, hfind'⟩ => ?_) fun _ _ _ => trivial
        refine wlp_query_sure (fun _ => rfl) ?_ fun _ _ => trivial
        rw [← hid] at hfind' ⊢
        cases (s'.data.circuit.check s'.data.clock).1 with
        | false => trivial
        | true =>
            rw [Bool.not_true, throwIf_false, ret_bind, wlp_bind, wlp_attempt]
            refine wlp_mono (wlp_placeOrder hfind' (T := fun _ _ => True) fun _ _ => trivial)
              (fun answer s' h => h) fun e s' _ => ?_
            exact wlp_of_step (fun _ _ _ => trivial) fun _ _ _ => trivial
  · trivial

end Order

/-! ## What is appended -/

section Appends

variable {α : Type} {list : PayData → List α} {row? : PayWrite → Option α} {p : α → Prop}
  {d d' : PayData}

/-- The rows added to a list, all of a kind. -/
def Appends (list : PayData → List α) (p : α → Prop) (d d' : PayData) : Prop :=
  ∃ new, list d' = list d ++ new ∧ ∀ x ∈ new, p x

theorem Appends.refl : Appends list p d d :=
  ⟨[], (List.append_nil _).symm, nofun⟩

theorem Appends.write (hlist : ∀ w d, list (payDb.apply w d) = list d ++ (row? w).toList)
    {w : PayWrite} (hw : ∀ x ∈ row? w, p x) (h : Appends list p d d') :
    Appends list p d (payDb.apply w d') := by
  obtain ⟨new, hnew, hall⟩ := h
  refine ⟨new ++ (row? w).toList, by rw [hlist, hnew, List.append_assoc], fun x hx => ?_⟩
  rcases List.mem_append.mp hx with hx | hx
  · exact hall x hx
  · exact hw x (by simpa using hx)

end Appends

/-- Payments entered in the ledger, with their amount. -/
abbrev Enters (amount : Int) : PayData → PayData → Prop :=
  Appends PayData.paymentLedger fun e => e.type = .PAYMENT → e.amount = amount

abbrev Refunds (amount : Int) : PayData → PayData → Prop :=
  Appends (·.razorpay.refunds) fun r => r.amount = amount

/-! ## The entries of the processor -/

section Processor

variable {bookingId paymentId signature tenantId : String} {s : PayStore} {booking : Booking}

theorem enters_processorWrites (now : Time) (d : PayData) :
    Enters (ledgerAmount booking) d (payDb.applyAll
      (processorWrites booking bookingId paymentId signature tenantId now) d) := by
  have hrow : ∀ w ∈ processorWrites booking bookingId paymentId signature tenantId now,
      ∀ e ∈ w.ledgerRow?, e.type = .PAYMENT → e.amount = ledgerAmount booking := by
    intro w hw e he _
    unfold processorWrites at hw
    split at hw
    · simp only [List.mem_cons, List.not_mem_nil, or_false] at hw
      rcases hw with rfl | rfl | rfl | rfl <;> cases he
      rfl
    · split at hw
      · simp only [List.mem_cons, List.not_mem_nil, or_false] at hw
        rcases hw with rfl | rfl <;> cases he <;> rfl
      · cases hw
  exact applyAll_of_forall (fun w hw d' h => h.write ledger_apply (hrow w hw)) Appends.refl

theorem wlp_processor_enters (hs : s.Numbered)
    (hfind : s.data.bookings.find bookingId = some booking) :
    (processPaymentSuccess bookingId paymentId signature tenantId).wlp payDb.machine
      (fun _ s' => Enters (ledgerAmount booking) s.data s'.data) (fun _ _ => True) s := by
  refine wlp_processPaymentSuccess hs (fun _ _ => trivial) fun booking' now _ hfind' _ => ?_
  obtain rfl := Option.some.inj (hfind.symm.trans hfind')
  exact enters_processorWrites now s.data

end Processor

/-! ## The entries of the worker and the refund -/

section Static

variable {bookingId paymentId tenantId : String} {amount : Int}

/-- A statement that enters payments with this amount only. -/
def EntersOnly (amount : Int) (q : PayStmt) : Prop :=
  ∀ e ∈ q.ledgerRows, e.type = .PAYMENT → e.amount = amount

theorem all_ask {P : PayStmt → Prop} {t : Option Nat} {q : PayStmt} (h : P q) :
    (ask t q).All (Stmts P) := all_query h

theorem entersOnly_of_nil {q : PayStmt} (h : q.ledgerRows = []) : EntersOnly amount q := by
  intro e he
  rw [h] at he
  cases he

/-- The statements that the worker makes about a booking. -/
inductive WorkerStmt (bookingId : String) (amount : Int) : PayStmt → Prop where
  | dateNow : WorkerStmt bookingId amount .dateNow
  | fetchPayments (orderId : String) : WorkerStmt bookingId amount (.ordersFetchPayments orderId)
  | findPayment (paymentId : String) : WorkerStmt bookingId amount (.ledgerFindFirst paymentId)
  | find : WorkerStmt bookingId amount (.bookingFindUnique bookingId)
  | update (status : Option BookingStatus) (data : BookingUpdate) :
      WorkerStmt bookingId amount (.bookingUpdate bookingId status data)
  | locks (status : SeatLockStatus) :
      WorkerStmt bookingId amount (.seatLockUpdateMany bookingId status)
  | seats (status : BookingStatus) :
      WorkerStmt bookingId amount (.bookingSeatUpdateMany bookingId status)
  | ledger (rows : List LedgerEntry) (h : ∀ e ∈ rows, e.amount = amount) :
      WorkerStmt bookingId amount (.ledgerCreateMany rows)

theorem WorkerStmt.entersOnly {q : PayStmt} (h : WorkerStmt bookingId amount q) :
    EntersOnly amount q := by
  cases h with
  | ledger rows h => exact fun e he _ => h e he
  | _ => exact entersOnly_of_nil rfl

theorem all_failBooking : (failBooking bookingId).All (Stmts (WorkerStmt bookingId amount)) := by
  refine all_transaction fun tx => (all_ask .find).bind fun bk => ?_
  cases bk with
  | none => trivial
  | some bk =>
      dsimp only
      split
      · exact (all_throwIf _ _ _).bind fun _ => (all_ask (.update ..)).bind fun _ => all_ask (.locks _)
      · trivial

theorem all_syncPayment (finalAmount : Money) :
    (syncPayment bookingId paymentId tenantId finalAmount).All
      (Stmts (WorkerStmt bookingId (workerAmount finalAmount))) := by
  refine all_transaction fun tx => (all_ask .find).bind fun bk => ?_
  cases bk with
  | none => trivial
  | some bk =>
      dsimp only
      split
      · refine (all_throwIf _ _ _).bind fun _ => (all_ask .dateNow).bind fun now => ?_
        refine (all_ask (.update ..)).bind fun _ => (all_ask (.locks _)).bind fun _ =>
          (all_ask (.seats _)).bind fun _ => all_ask (.ledger _ ?_)
        intro e he
        obtain rfl := List.mem_singleton.mp he
        rfl
      · split
        · refine (all_throwIf _ _ _).bind fun _ => (all_ask .dateNow).bind fun _ => ?_
          refine (all_ask .dateNow).bind fun _ => (all_ask (.update ..)).bind fun _ =>
            all_ask (.ledger _ ?_)
          intro e he
          simp only [List.mem_cons, List.not_mem_nil, or_false] at he
          rcases he with rfl | rfl <;> rfl
        · trivial

theorem all_reconcileBooking {razorpayOrderId : Option String} (finalAmount : Money) :
    (reconcileBooking bookingId razorpayOrderId tenantId finalAmount).All
      (Stmts (WorkerStmt bookingId (workerAmount finalAmount))) := by
  unfold reconcileBooking
  split
  · exact all_ask (.update ..)
  · refine (all_ask (.fetchPayments _)).attempt.bind fun r => ?_
    cases r with
    | error e => trivial
    | ok payments =>
        dsimp only
        split
        · exact all_failBooking
        · refine (all_ask (.findPayment _)).bind fun existing => ?_
          cases existing with
          | none => exact all_syncPayment finalAmount
          | some row => exact all_ask (.update ..)

/-- A statement that asks for refunds of this amount only. -/
def RefundsOnly (amount : Int) (q : PayStmt) : Prop := ∀ a ∈ q.refundAmount?, a = amount

theorem refundsOnly_of_none {q : PayStmt} (h : q.refundAmount? = none) : RefundsOnly amount q := by
  intro a ha
  rw [h] at ha
  cases ha

theorem all_handleRefundFailure {retryCount : Nat} {fee : Int} :
    (handleRefundFailure bookingId paymentId tenantId fee retryCount).All
      (Stmts (RefundsOnly amount)) := by
  refine all_transaction fun tx => (all_ask (refundsOnly_of_none rfl)).bind fun bk => ?_
  have hmark : (markRefundFailed tx bookingId bk).All (Stmts (RefundsOnly amount)) := by
    cases bk with
    | none => trivial
    | some bk =>
        dsimp only [markRefundFailed]
        split
        · exact (all_throwIf _ _ _).bind fun _ => all_ask (refundsOnly_of_none rfl)
        · trivial
  exact hmark.bind fun _ => (all_ask (refundsOnly_of_none rfl)).bind fun _ =>
    all_ask (refundsOnly_of_none rfl)

theorem all_recordRefund {refundId : String} {fee : Int} :
    (recordRefund bookingId paymentId tenantId fee refundId).All (Stmts (RefundsOnly amount)) := by
  refine all_transaction fun tx => (all_ask (refundsOnly_of_none rfl)).bind fun bk => ?_
  have hmark : (markRefunded tx bookingId refundId bk).All (Stmts (RefundsOnly amount)) := by
    cases bk with
    | none => trivial
    | some bk =>
        dsimp only [markRefunded]
        split
        · exact (all_throwIf _ _ _).bind fun _ => (all_ask (refundsOnly_of_none rfl)).bind fun _ =>
            (all_ask (refundsOnly_of_none rfl)).bind fun _ => all_ask (refundsOnly_of_none rfl)
        · trivial
  exact hmark.bind fun _ => all_ask (refundsOnly_of_none rfl)

end Static

section Runs

variable {bookingId tenantId : String} {d : PayData} {booking : Booking}

theorem wlp_worker_enters {razorpayOrderId : Option String} (finalAmount : Money) :
    (reconcileBooking bookingId razorpayOrderId tenantId finalAmount).wlp payDb.machine
      (fun _ s' => Enters (workerAmount finalAmount) d s'.data)
      (fun _ s' => Enters (workerAmount finalAmount) d s'.data) (Store.idle d) :=
  wlp_of_all (I := Enters (workerAmount finalAmount) d)
    (V := fun w => ∀ e ∈ w.ledgerRow?, e.type = .PAYMENT → e.amount = workerAmount finalAmount)
    ((all_reconcileBooking finalAmount).mono (Stmts.mono fun _ hq => hq.entersOnly))
    (fun _ hq _ _ _ hw e he => hq e (ledgerRow_exec hw he))
    (fun _ _ hw h => h.write ledger_apply hw) nofun Appends.refl

theorem wlp_processRefund {retryCount : Nat} (hfind : d.bookings.find bookingId = some booking) :
    (processRefund bookingId tenantId retryCount).wlp payDb.machine
      (fun _ s' => Refunds (refundInPaise booking) d s'.data) (fun _ _ => True) (Store.idle d) := by
  refine wlp_query_sure (a := d.bookings.find bookingId) (fun _ => rfl) ?_ fun _ _ => trivial
  rw [hfind]
  cases htarget : refundTarget (some booking) tenantId with
  | none => exact (Appends.refl : Refunds (refundInPaise booking) d d)
  | some target =>
      obtain ⟨booking', paymentId⟩ := target
      obtain ⟨rfl, -⟩ := refundTarget_eq_some.mp htarget
      refine wlp_mono (wlp_of_all (I := Refunds (refundInPaise booking) d)
        (V := fun w => ∀ r ∈ w.refund?, r.amount = refundInPaise booking)
        (P := RefundsOnly (refundInPaise booking)) ?_
        (fun _ hq _ _ _ hw r hr => hq _ (refund_exec hw hr))
        (fun _ _ hw h => h.write refunds_apply hw) nofun Appends.refl)
        (fun _ _ h => h) fun _ _ _ => trivial
      have hrefund : RefundsOnly (refundInPaise booking)
          (.paymentsRefund paymentId (refundInPaise booking) booking.id) :=
        fun a ha => (Option.some.inj ha).symm
      refine (all_ask hrefund).attempt.bind fun r => ?_
      cases r with
      | error e => exact all_handleRefundFailure.bind fun _ => trivial
      | ok refundId =>
          refine all_recordRefund.attempt.bind fun r => ?_
          cases r with
          | ok u => trivial
          | error e => exact (all_ask (refundsOnly_of_none rfl)).bind fun _ => trivial

end Runs

/-! ## Agreement -/

/-- Some call for the booking returns an order over this amount, and the booking is a row of
the data it leaves, so that what has been charged is about these columns. -/
def Charges (P : PayPlatform) (booking : Booking) (amount : Rat) : Prop :=
  ∃ d userId os answer, ((createRazorpayOrder P booking.id userId).run payDb.machine os 0
      (Store.idle d)).result = .ok answer ∧ answer.amount = amount ∧
    booking ∈ ((createRazorpayOrder P booking.id userId).run payDb.machine os 0
      (Store.idle d)).state.data.bookings.rows

/-- A call that returns enters a payment of the amount in the ledger. -/
def EntersPayment {α : Type} (p : PayM α) (booking : Booking) (amount : Int) : Prop :=
  ∃ d os r new, booking ∈ d.bookings.rows ∧ (p.run payDb.machine os 0 (Store.idle d)).result = .ok r ∧
    (p.run payDb.machine os 0 (Store.idle d)).state.data.paymentLedger = d.paymentLedger ++ new ∧
    ∃ e ∈ new, e.type = .PAYMENT ∧ e.amount = amount

def ProcessorEnters (booking : Booking) (amount : Int) : Prop :=
  ∃ paymentId signature tenantId, EntersPayment
    (processPaymentSuccess booking.id paymentId signature tenantId) booking amount

def WorkerEnters (booking : Booking) (amount : Int) : Prop :=
  ∃ tenantId, EntersPayment
    (reconcileBooking booking.id booking.razorpayOrderId tenantId booking.finalAmount) booking amount

/-- Some call of `processRefund` that returns, on data with the booking, has made Razorpay
accept a refund of this amount. -/
def RefundsAmount (booking : Booking) (amount : Int) : Prop :=
  ∃ d tenantId retryCount os r new, booking ∈ d.bookings.rows ∧
    ((processRefund booking.id tenantId retryCount).run payDb.machine os 0
      (Store.idle d)).result = .ok r ∧
    ((processRefund booking.id tenantId retryCount).run payDb.machine os 0
      (Store.idle d)).state.data.razorpay.refunds = d.razorpay.refunds ++ new ∧
    ∃ refund ∈ new, refund.amount = amount

/-- Rows of one booking at different times, as its order, its capture, the reconciliation
and its refund find them: the statuses may differ, the three amounts do not. -/
def SameAmounts (booking booking' : Booking) : Prop :=
  booking.totalAmount = booking'.totalAmount ∧ booking.discountAmount = booking'.discountAmount ∧
    booking.finalAmount = booking'.finalAmount

theorem Charges.eq {P : PayPlatform} {booking : Booking} {amount : Rat}
    (h : Charges P booking amount) : amount = chargeInPaise booking := by
  obtain ⟨d, userId, os, answer, hok, rfl, hmem⟩ := h
  obtain ⟨booking', hfind, hcharge⟩ := (wlp_createRazorpayOrder booking.id userId).result hok
  obtain rfl := Option.some.inj ((BookingTable.find_of_mem hmem).symm.trans hfind)
  exact hcharge.symm

theorem Appends.of_append {α : Type} {list : PayData → List α} {p : α → Prop} {d d' : PayData}
    (h : Appends list p d d') {new : List α} (hnew : list d' = list d ++ new) {x : α}
    (hx : x ∈ new) : p x := by
  obtain ⟨new', hnew', hall⟩ := h
  obtain rfl := List.append_cancel_left (hnew.symm.trans hnew')
  exact hall x hx

theorem ProcessorEnters.eq {booking : Booking} {amount : Int} (h : ProcessorEnters booking amount) :
    amount = booking.finalAmount.hundredths := by
  obtain ⟨paymentId, signature, tenantId, d, os, r, new, hmem, hok, hnew, e, he, htype, rfl⟩ := h
  have hent := (wlp_processor_enters (Store.numbered_idle d)
    (BookingTable.find_of_mem hmem)).result hok
  exact (hent.of_append hnew he htype).trans (ledgerAmount_eq booking)

theorem WorkerEnters.eq {booking : Booking} {amount : Int} (h : WorkerEnters booking amount) :
    amount = booking.finalAmount.hundredths := by
  obtain ⟨tenantId, d, os, r, new, -, hok, hnew, e, he, htype, rfl⟩ := h
  have hent := (wlp_worker_enters (d := d) booking.finalAmount).result hok
  exact (hent.of_append hnew he htype).trans (mathRound_toDecimal _)

theorem RefundsAmount.eq {booking : Booking} {amount : Int} (h : RefundsAmount booking amount) :
    amount = booking.finalAmount.hundredths := by
  obtain ⟨d, tenantId, retryCount, os, r, new, hmem, hok, hnew, refund, hrefund, rfl⟩ := h
  have href := (wlp_processRefund (BookingTable.find_of_mem hmem)).result hok
  exact (href.of_append hnew hrefund).trans (refundInPaise_eq booking)

/-- **Money paths**: the four amounts of a booking are one amount exactly when
a discount was applied or the final amount is the total. -/
theorem amounts_agree_iff (P : PayPlatform) (booking b₁ b₂ b₃ : Booking) (charge : Rat)
    (entered entered' refunded : Int) (h₁ : SameAmounts booking b₁) (h₂ : SameAmounts booking b₂)
    (h₃ : SameAmounts booking b₃) (hcharge : Charges P booking charge)
    (hprocessor : ProcessorEnters b₁ entered) (hworker : WorkerEnters b₂ entered')
    (hrefund : RefundsAmount b₃ refunded) :
    (charge = entered ∧ entered = entered' ∧ entered' = refunded) ↔
      0 < booking.discountAmount.hundredths ∨ booking.totalAmount = booking.finalAmount := by
  rw [hcharge.eq, hprocessor.eq, hworker.eq, hrefund.eq, ← h₁.2.2, ← h₂.2.2, ← h₃.2.2,
    chargeInPaise_eq]
  by_cases hdiscount : 0 < booking.discountAmount.hundredths
  · simp [hdiscount]
  · have hmoney : booking.totalAmount = booking.finalAmount ↔
        booking.totalAmount.hundredths = booking.finalAmount.hundredths := by
      cases booking.totalAmount
      cases booking.finalAmount
      simp
    simp [hdiscount, hmoney]

/-! The four calls on the sample booking: it is charged in full, and everything
else is over nothing. -/

namespace Sample

/-- The row that order creation leaves. -/
def ordered : Booking := { booking .PAYMENT_IN_PROGRESS with razorpayOrderId := some "id_3" }

def refundable : Booking := { booking .REFUND_INITIATED with razorpayPaymentId := some "pay_1" }

def paid : PayData :=
  { data (booking .PAYMENT_IN_PROGRESS) with
    razorpay := { payments := [⟨"pay_1", "order_1", true, 50000⟩] } }

theorem charges : Charges platform ordered 50000 :=
  ⟨data { booking .LOCKED with razorpayOrderId := none }, "u1", oracles,
    ⟨"id_3", 50000, "INR", "rzp_key"⟩, by decide +kernel, rfl, by decide +kernel⟩

theorem processorEnters : ProcessorEnters (booking .PAYMENT_IN_PROGRESS) 0 :=
  ⟨"pay_1", "sig", "t1", data (booking .PAYMENT_IN_PROGRESS), oracles,
    ⟨false, some "b1", some "s1", some "t1"⟩, [paymentEntry "b1" 0 "pay_1" "t1"],
    List.mem_singleton_self _, by decide +kernel, by decide +kernel, _, List.mem_singleton_self _,
    rfl, rfl⟩

theorem workerEnters : WorkerEnters (booking .PAYMENT_IN_PROGRESS) 0 :=
  ⟨"t1", paid, oracles, (), [paymentEntry "b1" 0 "pay_1" "t1"], List.mem_singleton_self _,
    by decide +kernel, by decide +kernel, _, List.mem_singleton_self _, rfl, rfl⟩

theorem refundsAmount : RefundsAmount refundable 0 :=
  ⟨data refundable, "t1", 0, oracles, true, [⟨"id_1", "pay_1", 0, "b1"⟩],
    List.mem_singleton_self _, by decide +kernel, by decide +kernel, _, List.mem_singleton_self _, rfl⟩

end Sample

theorem amounts_agree_iff_sample :
    ((50000 : Rat) = (0 : Int) ∧ (0 : Int) = 0 ∧ (0 : Int) = 0) ↔
      0 < Sample.ordered.discountAmount.hundredths ∨
        Sample.ordered.totalAmount = Sample.ordered.finalAmount :=
  amounts_agree_iff Sample.platform Sample.ordered (Sample.booking .PAYMENT_IN_PROGRESS)
    (Sample.booking .PAYMENT_IN_PROGRESS) Sample.refundable 50000 0 0 0 ⟨rfl, rfl, rfl⟩
    ⟨rfl, rfl, rfl⟩ ⟨rfl, rfl, rfl⟩ Sample.charges Sample.processorEnters Sample.workerEnters
    Sample.refundsAmount

/-- A booking without a discount is charged what nothing else accounts for. -/
theorem not_amounts_agree :
    ¬ ∀ (P : PayPlatform) (booking b₁ b₂ b₃ : Booking) (charge : Rat)
      (entered entered' refunded : Int), SameAmounts booking b₁ → SameAmounts booking b₂ →
      SameAmounts booking b₃ → Charges P booking charge → ProcessorEnters b₁ entered →
      WorkerEnters b₂ entered' → RefundsAmount b₃ refunded →
      charge = entered ∧ entered = entered' ∧ entered' = refunded := by
  intro h
  have hagree := h Sample.platform Sample.ordered (Sample.booking .PAYMENT_IN_PROGRESS)
    (Sample.booking .PAYMENT_IN_PROGRESS) Sample.refundable 50000 0 0 0 ⟨rfl, rfl, rfl⟩
    ⟨rfl, rfl, rfl⟩ ⟨rfl, rfl, rfl⟩ Sample.charges Sample.processorEnters Sample.workerEnters
    Sample.refundsAmount
  norm_num at hagree

end Omnipax.Payments
