import Omnipax.StatusPaths

/-!
# The statements of the calls

Which statements the writers of bookings may make at all, call by call. Most make
those that several have in common; only calls about payments enter records, only
`PaymentReconciliationService` logs payments, and only the sweep of the locks
releases locks by their ids.
-/

namespace Omnipax.Payments

open Conc Prog Database

/-- Statements that enter nothing in the ledger, the events or the books, lock
nothing, free no seat and release no lock by its id. -/
def PayStmt.common : PayStmt → Bool
  | .ledgerCreateMany _ => false
  | .paymentEventCreate .. => false
  | .paymentLogCreate _ => false
  | .tenantUpdate .. => false
  | .seatLockUpdateMany _ status => status != .LOCKED
  | .seatLockUpdateByIds .. => false
  | .seatAvailabilityRelease .. => false
  | _ => true

def PayStmt.records : PayStmt → Bool
  | .ledgerCreateMany _ => true
  | .paymentEventCreate .. => true
  | _ => false

def PayStmt.books : PayStmt → Bool
  | .paymentLogCreate _ => true
  | .tenantUpdate .. => true
  | _ => false

/-- Locks by their ids, and seats. -/
def PayStmt.sweeps : PayStmt → Bool
  | .seatLockUpdateByIds _ status => status != .LOCKED
  | .seatAvailabilityRelease .. => true
  | _ => false

def StatusOp.vocabulary : StatusOp → PayStmt → Bool
  | .pay _, q => q.common || q.records
  | .reconcileBooking .., q => q.common || q.books
  | .releaseExpiredLocks .., q => q.common || q.sweeps
  | _, q => q.common

/-- The calls that need the missing function. -/
def StatusOp.callsRelease : StatusOp → Bool
  | .refundPayment .. => true
  | .handleAutoExpiry _ => true
  | _ => false

section Says

variable {F : PayStmt → Prop} {bookingId tenantId : String} {P : SeatPlatform} {α β : Type}

/-- All statements that the program may execute are of a kind, whatever the answers to those
before. -/
abbrev Says (F : PayStmt → Prop) (p : PayM α) : Prop := p.All (Stmts F)

/-- What the code relies on of `releaseSeatsSafely`, which it calls and no file defines: its
statements are of this kind, for every booking and in every transaction. -/
def SeatPlatform.Says (P : SeatPlatform) (F : PayStmt → Prop) : Prop :=
  ∀ bookingId tx, Payments.Says F (P.releaseSeatsSafely bookingId tx)

def Common (F : PayStmt → Prop) : Prop := ∀ q, q.common = true → F q

def Paying (F : PayStmt → Prop) : Prop := ∀ q, (q.common || q.records) = true → F q

theorem Common.ask (hF : Common F) {t : Option Nat} {q : PayStmt} (hq : q.common = true) :
    Says F (ask t q) :=
  all_query (hF q hq)

theorem Paying.ask (hF : Paying F) {t : Option Nat} {q : PayStmt}
    (hq : (q.common || q.records) = true) : Says F (ask t q) :=
  all_query (hF q hq)

theorem Paying.common (hF : Paying F) : Common F := fun q hq => hF q (by rw [hq]; rfl)

theorem says_map {p : PayM α} {f : α → β} (hp : Says F p) : Says F (f <$> p) :=
  hp.bind fun _ => trivial

theorem says_mapM {l : List α} {f : α → PayM β} (h : ∀ a, Says F (f a)) :
    Says F (do let _ ← l.mapM f; return ()) :=
  (All.mapM fun a _ => h a).bind fun _ => trivial

theorem says_validateTransition (src dst : BookingStatus) : Says F (validateTransition src dst) :=
  all_throwIf ..

/-! ### Orders -/

theorem says_checkOrderable (hF : Common F) {booking : Booking} {userId : String} :
    Says F (checkOrderable booking userId) := by
  unfold checkOrderable
  refine (all_throwIf ..).bind fun _ => (all_throwIf ..).bind fun _ => ?_
  split
  · trivial
  · exact (hF.ask rfl).bind fun _ => all_throwIf ..

theorem says_withTotal (hF : Common F) {P : PayPlatform} {booking : Booking} : Says F
    (withTotal P booking) := by
  unfold withTotal
  split
  · refine (hF.ask rfl).bind fun _ => (hF.ask rfl).bind fun shw => ?_
    cases shw with
    | none => trivial
    | some shw => exact (hF.ask rfl).bind fun _ => trivial
  · trivial

theorem says_placeOrder (hF : Common F) {P : PayPlatform} {booking : Booking} {keyId : String} :
    Says F (placeOrder P booking keyId) := by
  unfold placeOrder
  split
  · trivial
  · have horder : Says F (newOrder P booking) := by
      unfold newOrder
      split
      · exact says_map (hF.ask rfl)
      · exact hF.ask rfl
    exact horder.bind fun _ => (hF.ask rfl).bind fun _ => (hF.ask rfl).bind fun _ => trivial

theorem says_createRazorpayOrder (hF : Common F) {P : PayPlatform} {userId : String} :
    Says F (createRazorpayOrder P bookingId userId) := by
  unfold createRazorpayOrder
  split
  · refine (hF.ask rfl).bind fun booking => ?_
    cases booking with
    | none => trivial
    | some booking =>
        refine (says_checkOrderable hF).bind fun _ => (says_withTotal hF).bind fun booking => ?_
        refine (hF.ask rfl).bind fun closed => (all_throwIf ..).bind fun _ => ?_
        refine (says_placeOrder hF).attempt.bind fun answer => ?_
        cases answer with
        | ok answer => trivial
        | error cause => exact (hF.ask rfl).bind fun _ => trivial
  · trivial

/-! ### The webhook -/

theorem says_processPaymentSuccess (hF : Paying F) {paymentId signature : String} :
    Says F (processPaymentSuccess bookingId paymentId signature tenantId) := by
  refine all_transaction fun tx => (hF.ask rfl).bind fun booking => ?_
  cases booking with
  | none => trivial
  | some booking =>
      dsimp only
      split
      · trivial
      · split
        · exact (hF.ask rfl).bind fun _ => (hF.ask rfl).bind fun _ => (hF.ask rfl).bind fun _ =>
            (hF.ask rfl).bind fun _ => (hF.ask rfl).bind fun _ => trivial
        · split
          · exact (hF.ask rfl).bind fun _ => trivial
          · trivial

theorem says_recordCapture (hF : Paying F) {r : Delivery} {payment : PaymentEntity} :
    Says F (recordCapture r payment bookingId) := by
  refine all_transaction fun tx => (hF.ask rfl).attempt.bind fun created => ?_
  cases created with
  | error e =>
      dsimp only
      split <;> trivial
  | ok u =>
      dsimp only
      split
      · trivial
      · exact (hF.ask rfl).bind fun _ => (says_processPaymentSuccess hF).bind fun _ => hF.ask rfl

theorem says_bookingOfRefund (hF : Common F) {refund : Option RefundEntity} : Says F
    (bookingOfRefund refund) := by
  unfold bookingOfRefund
  split
  · trivial
  · exact hF.ask rfl

theorem says_refundProcessed (hF : Common F) {refund : Option RefundEntity} : Says F
    (refundProcessed refund) := by
  refine (says_bookingOfRefund hF).bind fun booking => ?_
  cases booking with
  | none => trivial
  | some booking =>
      dsimp only
      split
      · exact hF.ask rfl
      · exact (hF.ask rfl).bind fun _ => (hF.ask rfl).bind fun _ => hF.ask rfl

theorem says_refundFailed (hF : Common F) {refund : Option RefundEntity} : Says F
    (refundFailed refund) := by
  refine (says_bookingOfRefund hF).bind fun booking => ?_
  cases booking with
  | none => trivial
  | some booking => exact (hF.ask rfl).bind fun _ => hF.ask rfl

theorem says_resolveBookingId (hF : Common F) {payment : PaymentEntity} : Says F
    (resolveBookingId payment) := by
  unfold resolveBookingId
  split
  · trivial
  · split
    · trivial
    · exact (hF.ask rfl).bind fun _ => trivial

theorem says_dispatch (hF : Paying F) {r : Delivery} {payment : PaymentEntity} :
    Says F (dispatch r payment bookingId) := by
  unfold dispatch
  split
  · refine (says_recordCapture hF).attempt.bind fun captured => ?_
    cases captured with
    | ok u => trivial
    | error e => exact (hF.ask rfl).bind fun _ => trivial
  · split
    · exact says_refundProcessed hF.common
    · split
      · exact says_refundFailed hF.common
      · trivial

theorem says_handleWebhook (hF : Paying F) {P : PayPlatform} {r : Delivery} : Says F
    (handleWebhook P r) := by
  unfold handleWebhook
  split
  · trivial
  · refine (all_throwIf ..).bind fun _ => ?_
    split
    · trivial
    · refine (says_resolveBookingId hF.common).bind fun bookingId => ?_
      cases bookingId with
      | none => trivial
      | some bookingId => exact (says_dispatch hF).bind fun _ => trivial

/-! ### Refunds -/

theorem says_handleRefundFailure (hF : Paying F) {paymentId : String} {amount : Int}
    {retryCount : Nat} :
    Says F (handleRefundFailure bookingId paymentId tenantId amount retryCount) := by
  refine all_transaction fun tx => (hF.ask rfl).bind fun bk => ?_
  have hmark : Says F (markRefundFailed tx bookingId bk) := by
    unfold markRefundFailed
    cases bk with
    | none => trivial
    | some bk =>
        dsimp only
        split
        · exact (says_validateTransition ..).bind fun _ => hF.ask rfl
        · trivial
  exact hmark.bind fun _ => (hF.ask rfl).bind fun _ => hF.ask rfl

theorem says_recordRefund (hF : Paying F) {paymentId refundId : String} {amount : Int} :
    Says F (recordRefund bookingId paymentId tenantId amount refundId) := by
  refine all_transaction fun tx => (hF.ask rfl).bind fun latestBk => ?_
  have hmark : Says F (markRefunded tx bookingId refundId latestBk) := by
    unfold markRefunded
    cases latestBk with
    | none => trivial
    | some latestBk =>
        dsimp only
        split
        · exact (says_validateTransition ..).bind fun _ => (hF.ask rfl).bind fun _ =>
            (hF.ask rfl).bind fun _ => hF.ask rfl
        · trivial
  exact hmark.bind fun _ => hF.ask rfl

theorem says_processRefund (hF : Paying F) {retryCount : Nat} : Says F
    (processRefund bookingId tenantId retryCount) := by
  refine (hF.ask rfl).bind fun found => ?_
  cases refundTarget found tenantId with
  | none => trivial
  | some target =>
      refine (hF.ask rfl).attempt.bind fun refund => ?_
      cases refund with
      | error e => exact (says_handleRefundFailure hF).bind fun _ => trivial
      | ok refundId =>
          refine (says_recordRefund hF).attempt.bind fun recorded => ?_
          cases recorded with
          | ok u => trivial
          | error dbError => exact (hF.ask rfl).bind fun _ => trivial

theorem says_forTenant {booking : Booking} {p : String → PayM α}
    (h : ∀ tenantId, Says F (p tenantId)) :
    Says F (forTenant booking p) := by
  unfold forTenant
  split
  · trivial
  · exact (h _).attempt.bind fun _ => trivial

theorem says_sweepPendingRefunds (hF : Paying F) : Says F sweepPendingRefunds :=
  (hF.ask rfl).bind fun _ => says_mapM fun _ => says_forTenant fun _ => says_processRefund hF

theorem says_refundPayment (hF : Common F) {seatsToRefund : Option Int} (hP : P.Says F) :
    Says F (refundPayment P bookingId seatsToRefund) := by
  refine (hF.ask rfl).bind fun found => ?_
  cases found with
  | none => trivial
  | some found =>
      dsimp only
      split
      · trivial
      · have hinitiate : ∀ id amount, Says F (initiateRefund P.toPayPlatform id amount) := by
          intro id amount
          unfold initiateRefund
          split
          · exact says_map (hF.ask rfl)
          · exact hF.ask rfl
        exact (all_throwIf ..).bind fun _ => (all_throwIf ..).bind fun _ =>
          (all_throwIf ..).bind fun _ =>
          (hinitiate ..).bind fun _ => (hF.ask rfl).bind fun _ => (hF.ask rfl).bind fun _ =>
            (hP ..).bind fun _ => trivial

/-! ### The reconciliation worker -/

theorem says_failBooking (hF : Common F) : Says F (failBooking bookingId) := by
  refine all_transaction fun tx => (hF.ask rfl).bind fun bk => ?_
  cases bk with
  | none => trivial
  | some bk =>
      dsimp only
      split
      · exact (all_throwIf ..).bind fun _ => (hF.ask rfl).bind fun _ => hF.ask rfl
      · trivial

theorem says_syncPayment (hF : Paying F) {paymentId : String} {finalAmount : Money} :
    Says F (syncPayment bookingId paymentId tenantId finalAmount) := by
  refine all_transaction fun tx => (hF.ask rfl).bind fun bk => ?_
  cases bk with
  | none => trivial
  | some bk =>
      dsimp only
      split
      · exact (says_validateTransition ..).bind fun _ => (hF.ask rfl).bind fun _ =>
          (hF.ask rfl).bind fun _ => (hF.ask rfl).bind fun _ => (hF.ask rfl).bind fun _ =>
            hF.ask rfl
      · split
        · exact (says_validateTransition ..).bind fun _ => (hF.ask rfl).bind fun _ =>
            (hF.ask rfl).bind fun _ => (hF.ask rfl).bind fun _ => hF.ask rfl
        · trivial

theorem says_reconcileWorker (hF : Paying F) {razorpayOrderId : Option String}
    {finalAmount : Money} :
    Says F (reconcileBooking bookingId razorpayOrderId tenantId finalAmount) := by
  unfold reconcileBooking
  split
  · exact hF.ask rfl
  · refine (hF.ask rfl).attempt.bind fun fetched => ?_
    cases fetched with
    | error e => trivial
    | ok payments =>
        dsimp only
        split
        · exact says_failBooking hF.common
        · refine (hF.ask rfl).bind fun existingLedger => ?_
          cases existingLedger with
          | some row => exact hF.ask rfl
          | none => exact says_syncPayment hF

theorem says_handleReconciliation (hF : Paying F) {process : String} : Says F
    (handleReconciliation process) := by
  have hstale : Says F reconcileStale := by
    refine (hF.ask rfl).bind fun now => (hF.ask rfl).bind fun staleBookings => ?_
    split
    · trivial
    · exact (All.mapM fun booking _ => says_forTenant fun _ =>
        says_reconcileWorker hF).bind fun _ =>
        says_sweepPendingRefunds hF
  refine (hF.ask rfl).bind fun isEntered => ?_
  cases isEntered with
  | false => trivial
  | true => exact hstale.attempt.bind fun _ => hF.ask rfl

/-! ### Sweeps -/

theorem says_guarded (hF : Common F) {guard : Guard} {process : String} {sweep : PayM Unit}
    (h : Says F sweep) :
    Says F (guarded guard process sweep) := by
  refine (hF.ask rfl).bind fun isEntered => ?_
  cases isEntered with
  | false => trivial
  | true => exact h.attempt.bind fun _ => hF.ask rfl

theorem says_handleAutoExpiry (hF : Common F) {process : String} (hP : P.Says F) :
    Says F (BookingExpiryService.handleAutoExpiry P process) := by
  refine says_guarded hF ((hF.ask rfl).bind fun now => (hF.ask rfl).bind fun stale => ?_)
  refine says_mapM fun booking => All.attempt (all_transaction fun tx => ?_)
  refine (hF.ask rfl).bind fun current => ?_
  cases current with
  | none => trivial
  | some current =>
      dsimp only
      split
      · trivial
      · exact (hF.ask rfl).bind fun _ => hP ..

theorem says_handleInitiatedCleanup (hF : Common F) {process : String} :
    Says F (BookingExpiryService.handleInitiatedCleanup process) := by
  refine says_guarded hF ((hF.ask rfl).bind fun now => (hF.ask rfl).bind fun stale => ?_)
  refine says_mapM fun booking => All.attempt (all_transaction fun tx => ?_)
  refine (hF.ask rfl).bind fun current => ?_
  cases current with
  | none => trivial
  | some current =>
      dsimp only
      split
      · trivial
      · exact hF.ask rfl

theorem says_handleExpiredBookings (hF : Common F) : Says F handleExpiredBookings :=
  (hF.ask rfl).bind fun _ => (hF.ask rfl).bind fun _ => says_mapM fun _ => hF.ask rfl

theorem says_releaseBatches (hF : ∀ q, (q.common || q.sweeps) = true → F q) (now : Time)
    (rounds : Nat) : Says F (SeatLockWorker.releaseBatches now rounds) := by
  have hask : ∀ {t : Option Nat} {q : PayStmt}, (q.common || q.sweeps) = true → Says F (ask t q) :=
    fun hq => all_query (hF _ hq)
  have hfree : ∀ tx bookingId, Says F (SeatLockWorker.freeSeats tx bookingId) := by
    intro tx bookingId
    refine (hask rfl).bind fun bookingSeats => ?_
    split
    · trivial
    · exact (hask rfl).bind fun _ => hask rfl
  induction rounds with
  | zero => trivial
  | succ rounds ih =>
      refine (hask rfl).bind fun expiredLocks => ?_
      split
      · trivial
      · refine All.bind (all_transaction fun tx => ?_) fun _ => ?_
        · exact (hask rfl).bind fun _ => (hask rfl).bind fun _ => says_mapM fun _ => hfree ..
        · split
          · trivial
          · exact ih

theorem says_releaseExpiredLocks (hF : ∀ q, (q.common || q.sweeps) = true → F q)
    {process : String} {rounds : Nat} :
    Says F (SeatLockWorker.releaseExpiredLocks process rounds) := by
  have hcommon : Common F := fun q hq => hF q (by rw [hq]; rfl)
  exact says_guarded hcommon ((hcommon.ask rfl).bind fun _ => says_releaseBatches hF ..)

/-! ### `PaymentReconciliationService` -/

theorem says_reconcileBooking (hF : ∀ q, (q.common || q.books) = true → F q)
    {orderId paymentId : String} :
    Says F (PaymentReconciliationService.reconcileBooking bookingId orderId paymentId tenantId) := by
  have hask : ∀ {t : Option Nat} {q : PayStmt}, (q.common || q.books) = true → Says F (ask t q) :=
    fun hq => all_query (hF _ hq)
  refine (hask rfl).bind fun existingLog => ?_
  cases existingLog with
  | some row => trivial
  | none =>
      refine (hask rfl).bind fun booking => ?_
      cases booking with
      | none => trivial
      | some booking =>
          have hverify : Says F (PaymentReconciliationService.verifyPayment paymentId orderId
              booking.finalAmount) :=
            (hask rfl).attempt.bind fun fetched => by cases fetched <;> trivial
          refine hverify.bind fun isVerified => all_transaction fun tx => (hask rfl).bind fun _ =>
            ?_
          cases isVerified with
          | true => exact (hask rfl).bind fun _ => (hask rfl).bind fun _ => hask rfl
          | false => exact hask rfl

/-- **Statements**: a call says nothing that is not in its vocabulary. -/
theorem says_body {op : StatusOp} (hF : ∀ q, op.vocabulary q = true → F q)
    (hP : op.callsRelease = true → P.Says F) : Says F (op.body P) := by
  cases op with
  | pay op =>
      replace hF : Paying F := hF
      refine says_map ?_
      cases op with
      | createRazorpayOrder bookingId userId => exact says_map (says_createRazorpayOrder hF.common)
      | handleWebhook r => exact says_map (says_handleWebhook hF)
      | handleReconciliation process => exact says_map (says_handleReconciliation hF)
      | sweepPendingRefunds => exact says_map (says_sweepPendingRefunds hF)
      | processRefund bookingId tenantId retryCount => exact says_map (says_processRefund hF)
  | refundPayment bookingId seatsToRefund => exact says_map (says_refundPayment hF (hP rfl))
  | reconcileBooking bookingId orderId paymentId tenantId => exact says_map (says_reconcileBooking hF)
  | handleAutoExpiry process => exact says_map (says_handleAutoExpiry hF (hP rfl))
  | handleInitiatedCleanup process => exact says_map (says_handleInitiatedCleanup hF)
  | handleExpiredBookings => exact says_map (says_handleExpiredBookings hF)
  | releaseExpiredLocks process rounds =>
      exact says_map (says_releaseExpiredLocks hF)

end Says

/-! ## Calls of which no more is known -/

section Rule

variable {F : PayStmt → Prop} {P : SeatPlatform} {η : Type} {move : η → PayData → PayData}
  {s : StatusSnap} {i tx : Nat} {op : StatusOp}

/-- Where an open transaction of such a call has its writes from. -/
def WrittenBy (F : PayStmt → Prop) (ss : Session PayWrite) : Prop :=
  ∀ w ∈ ss.writes, ∃ (q : PayStmt) (o : PayOracle) (d : PayData), F q ∧ w ∈ (payDb.exec q o d).2

theorem writtenBy_of_said (hown : Owned s) (hi : Opened i tx s)
    (hsaid : ∀ said ∈ transcript (payDb.system move (StatusOp.body P)) i s.hist, Stmts F said.1)
    {ss : Session PayWrite} (hss : s.world.session? tx = some ss) : WrittenBy F ss := by
  intro w hw
  obtain ⟨q, r, o, d, hmem, hexec⟩ := written_of_opened hown hi hss hw
  exact ⟨q, o, d, hsaid _ hmem, hexec⟩

/-- A call meets assertions that follow from what it says, and from what it has
said in its transactions. -/
theorem fine_of_says {O : Outline payDb.sig PayStore PayOracle StatusOp} (hR : P.Releases)
    (hall : Says F (op.body P)) (hown : ∀ s, O.inv s → Owned s)
    (hpre : ∀ s c, O.inv s → Own i c s → Stmts F c →
      (∀ tx, c = .commit tx → ∀ ss, s.world.session? tx = some ss → WrittenBy F ss) →
      O.pre i op c s)
    (hnew : ∀ e ∈ s.hist, e.tid ≠ i) :
    Fine move (StatusOp.body P) O i op (op.body P) s := by
  have htold : (op.body P).told (fun t c => StatusOk op t c ∧ Stmts F c ∧
      ∀ said ∈ t, Stmts F said.1) Can (fun _ _ => True) (fun _ _ => True)
      (transcript (payDb.system move (StatusOp.body P)) i s.hist) := by
    rw [transcript_of_not_mine hnew]
    exact told_all (safe_body hR op) hall fun _ h => absurd h List.not_mem_nil
  refine (wp_of_reasons (O := O) (fun s hinv c o => can_step (hown s hinv) i c o)
    (fun s c hinv hc => ?_) htold).mono (fun _ _ _ _ => trivial) fun _ _ _ _ => trivial
  have hi : Own i c s := fun tx htx => opened_of_began (hc.1.own tx htx)
  refine hpre s c hinv hi hc.2.1 fun tx hcommit ss hss => ?_
  exact writtenBy_of_said (hown s hinv) (hi tx (by rw [hcommit]; rfl)) hc.2.2 hss

end Rule

end Omnipax.Payments
