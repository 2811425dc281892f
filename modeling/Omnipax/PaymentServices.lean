import Omnipax.Payments

/-!
# The payment services

The order creation of `PaymentService`, `PaymentWebhookController`,
`PaymentProcessorService`, `RefundService` and `ReconciliationWorker`, as
programs over the payments database. Prices and amounts are exact numbers
here, and `toFixed(2)` rounds a half up.
-/

namespace Omnipax.Payments

open Conc Prog

/-- What the payment services are given from outside: their configuration and fees, and the
hash that signatures are compared by. -/
structure PayPlatform where
  RAZORPAY_KEY_ID : Option String
  RAZORPAY_KEY_SECRET : Option String
  RAZORPAY_WEBHOOK_SECRET : Option String
  PAYMENT_PROVIDER : Option String
  FIXED_FEE : Rat
  SERVICE_PERCENTAGE : Rat
  /-- `createHmac('sha256', secret).update(text).digest('hex')` -/
  hmacSha256Hex : String → String → String

abbrev PayM := Prog payDb.sig PayExn

abbrev ask (tx : Option Nat) (q : PayStmt) : PayM q.Ret := payDb.query PayExn.step tx q

/-- `prisma.$transaction` -/
abbrev inTransaction {α : Type} (p : Nat → PayM α) : PayM α := payDb.transaction PayExn.step p

namespace BookingStatus

def text : BookingStatus → String
  | .PENDING => "PENDING"
  | .LOCKED => "LOCKED"
  | .PAYMENT_IN_PROGRESS => "PAYMENT_IN_PROGRESS"
  | .CONFIRMED => "CONFIRMED"
  | .FAILED => "FAILED"
  | .EXPIRED => "EXPIRED"
  | .CANCELLED => "CANCELLED"
  | .REFUND_INITIATED => "REFUND_INITIATED"
  | .REFUNDED => "REFUNDED"
  | .REFUND_FAILED => "REFUND_FAILED"

end BookingStatus

def validateTransition (src dst : BookingStatus) : PayM Unit :=
  throwIf (!src.allowed.contains dst)
    (.badRequest ("Invalid booking state transition: " ++ src.text ++ " → " ++ dst.text))

/-! ## Orders -/

def toFixed2 (x : Rat) : Money := ⟨⌊x * 100 + 1 / 2⌋⟩

/-- The `totalAmount` of `PricingService.calculateTotal`. -/
def calculateTotal (P : PayPlatform) (basePrice : Rat) (quantity : Nat) : Money :=
  let baseTotal := basePrice * quantity
  let convenienceFee := P.FIXED_FEE * quantity
  let serviceFee := baseTotal * (P.SERVICE_PERCENTAGE / 100)
  toFixed2 (baseTotal + convenienceFee + serviceFee)

structure OrderAnswer where
  orderId : String
  /-- In paise. -/
  amount : Rat
  currency : String
  keyId : String
deriving DecidableEq

/-- What `createRazorpayOrder` charges, in paise. -/
def chargeInPaise (booking : Booking) : Rat :=
  let chargeAmount :=
    if booking.discountAmount.toDecimal > 0 then booking.finalAmount.toDecimal
    else booking.totalAmount.toDecimal
  chargeAmount * 100

/-- A total that is not positive is computed again and stored. -/
def withTotal (P : PayPlatform) (booking : Booking) : PayM Booking := do
  if booking.totalAmount.toDecimal ≤ 0 then
    let bookingSeatsCount ← ask none (.bookingSeatCount booking.id)
    match ← ask none (.showFindUnique booking.showId) with
    | none => throw (.error "Cannot read properties of null (reading 'price')")
    | some shw => do
        let totalAmount := calculateTotal P shw.price bookingSeatsCount
        ask none (.bookingUpdate booking.id none { totalAmount := some totalAmount })
        return { booking with totalAmount }
  else return booking

/-- A mock order, or one at Razorpay. -/
def newOrder (P : PayPlatform) (booking : Booking) : PayM String :=
  if P.PAYMENT_PROVIDER = some "mock" then
    (fun random => "order_mock_" ++ random) <$> ask none .mathRandom
  else ask none (.ordersCreate (chargeInPaise booking) booking.id)

/-- The order of the booking: the one it has, or a new one. -/
def placeOrder (P : PayPlatform) (booking : Booking) (keyId : String) : PayM OrderAnswer :=
  match truthy? booking.razorpayOrderId with
  | some orderId =>
      return { orderId, amount := chargeInPaise booking, currency := "INR", keyId }
  | none => do
      let orderId ← newOrder P booking
      ask none (.bookingUpdate booking.id none
        { razorpayOrderId := some orderId, status := some .PAYMENT_IN_PROGRESS })
      ask none .recordSuccess
      return { orderId, amount := chargeInPaise booking, currency := "INR", keyId }

/-- The checks of the booking an order is asked for. -/
def checkOrderable (booking : Booking) (userId : String) : PayM Unit := do
  throwIf (booking.userId != userId) (.badRequest "Unauthorized booking access")
  throwIf (booking.status != .LOCKED)
    (.badRequest ("Booking is in " ++ booking.status.text ++ " state"))
  match booking.expiresAt with
  | none => return ()
  | some expiresAt => do
      let now ← ask none .dateNow
      throwIf (decide (expiresAt < now)) (.badRequest "Booking expired")

def createRazorpayOrder (P : PayPlatform) (bookingId userId : String) : PayM OrderAnswer :=
  match truthy? P.RAZORPAY_KEY_ID, truthy? P.RAZORPAY_KEY_SECRET with
  | some keyId, some _ => do
      match ← ask none (.bookingFindUnique bookingId) with
      | none => throw (.notFound "Booking not found")
      | some booking => do
          checkOrderable booking userId
          let booking ← withTotal P booking
          let closed ← ask none .checkCircuit
          throwIf (!closed) (.app "CIRCUIT_OPEN" "Payment service temporarily unavailable.")
          match ← (placeOrder P booking keyId).attempt with
          | .ok answer => return answer
          | .error cause => do
              ask none .recordFailure
              throw (.orderFailed cause)
  | _, _ => throw (.badRequest "Payment configuration error")

/-! ## Captured payments -/

/-- What the processor answers; the webhook does not look at it. -/
structure Processed where
  requiresRefund : Bool := false
  successfulBookingId : Option String := none
  successfulShowId : Option String := none
  successfulTenantId : Option String := none
deriving Repr, DecidableEq

/-- The amount of the processor's ledger entries, in paise. -/
def ledgerAmount (booking : Booking) : Int :=
  mathRound (decimalOr booking.finalAmount.toDecimal booking.totalAmount.toDecimal * 100)

/-- A captured payment, and a refund that has been flagged. -/
def paymentEntry (bookingId : String) (amount : Int) (paymentId tenantId : String) : LedgerEntry :=
  { bookingId, amount, type := .PAYMENT, razorpayId := paymentId, status := .SUCCESS, tenantId }

def refundFlag (bookingId : String) (amount : Int) (paymentId tenantId : String) : LedgerEntry :=
  { bookingId, amount, type := .REFUND, razorpayId := paymentId, status := .REFUND_INITIATED,
    tenantId }

def processPaymentSuccess (bookingId razorpayPaymentId signature tenantId : String) :
    PayM Processed :=
  inTransaction fun tx => do
    match ← ask (some tx) (.bookingFindUnique bookingId) with
    | none => throw (.error ("Booking " ++ bookingId ++ " not found or tenant mismatch"))
    | some booking =>
        if booking.tenantId ≠ some tenantId then
          throw (.error ("Booking " ++ bookingId ++ " not found or tenant mismatch"))
        else if booking.status = .PAYMENT_IN_PROGRESS ∨ booking.status = .LOCKED then do
          let now ← ask none .dateNow
          ask (some tx) (.bookingUpdate bookingId none
            { status := some .CONFIRMED, razorpayPaymentId := some razorpayPaymentId,
              razorpaySignature := some signature, paymentCapturedAt := some now })
          ask (some tx) (.seatLockUpdateMany bookingId .CONFIRMED)
          ask (some tx) (.bookingSeatUpdateMany bookingId .CONFIRMED)
          ask (some tx) (.ledgerCreateMany
            [paymentEntry bookingId (ledgerAmount booking) razorpayPaymentId tenantId])
          return { successfulBookingId := some bookingId, successfulShowId := some booking.showId,
                   successfulTenantId := some tenantId }
        else if booking.status = .EXPIRED then do
          ask (some tx) (.ledgerCreateMany
            [paymentEntry bookingId (ledgerAmount booking) razorpayPaymentId tenantId,
             refundFlag bookingId (ledgerAmount booking) razorpayPaymentId tenantId])
          return { requiresRefund := true }
        else
          -- CONFIRMED is logged, every other status is logged as an error
          return {}

/-! ## The webhook -/

structure PaymentNotes where
  bookingId : Option String := none
  tenantId : Option String := none
deriving Repr, DecidableEq

structure PaymentEntity where
  id : String
  order_id : Option String := none
  notes : PaymentNotes := {}
deriving Repr, DecidableEq

structure RefundEntity where
  id : Option String
  payment_id : Option String
deriving Repr, DecidableEq

/-- What the webhook reads of a parsed body. -/
structure RazorpayEvent where
  id : Option String
  event : String
  payment : Option PaymentEntity
  refund : Option RefundEntity := none
deriving Repr, DecidableEq

/-- A delivery: its raw text if it was captured, its body and the text that
`JSON.stringify` makes of it, and its signature header. -/
structure Delivery where
  rawBody : Option String
  body : RazorpayEvent
  serialized : String
  signature : Option String
deriving Repr, DecidableEq

def Delivery.bodyForVerification (r : Delivery) : String := r.rawBody.getD r.serialized

/-- The key of a delivery in `RazorpayWebhookEvent` and `PaymentEvent`. -/
def eventKey (event : RazorpayEvent) (payment : PaymentEntity) : String :=
  stringOr event.id payment.id

/-- The transaction of a captured payment. The processor runs in a transaction
of its own inside. -/
def recordCapture (r : Delivery) (payment : PaymentEntity) (bookingId : String) : PayM Unit :=
  inTransaction fun tx => do
    match ← (ask (some tx) (.webhookEventCreate (eventKey r.body payment))).attempt with
    | .error e =>
        -- the transaction has failed by now: its commit will be a rollback
        if e = .step (.prisma "P2002") then return () else throw e
    | .ok _ => do
        match truthy? payment.notes.tenantId with
        | none => throw (.badRequest "Missing tenantId in notes")
        | some tenantId => do
            let paymentEventId ← ask (some tx)
              (.paymentEventCreate (eventKey r.body payment) bookingId r.body.event tenantId)
            let _ ← processPaymentSuccess bookingId payment.id (r.signature.getD "") tenantId
            ask (some tx) (.paymentEventUpdate paymentEventId)

def paymentCaptured (r : Delivery) (payment : PaymentEntity) (bookingId : String) : PayM Unit := do
  match ← (recordCapture r payment bookingId).attempt with
  | .ok _ => return ()
  | .error e => do
      ask none (.deadLetterCreate
        { type := r.body.event, reason := .inl e, bookingId := some bookingId,
          razorpayEventId := r.body.id, tenantId := stringOr payment.notes.tenantId "UNKNOWN" })
      throw e

/-- The booking of a refund event. -/
def bookingOfRefund (refund : Option RefundEntity) : PayM (Option Booking) :=
  match truthy? (refund.bind (·.payment_id)) with
  | none => return none
  | some refundPaymentId => ask none (.bookingFindByPayment refundPaymentId)

def refundProcessed (refund : Option RefundEntity) : PayM Unit := do
  match ← bookingOfRefund refund with
  | none => return ()
  | some booking =>
      if booking.status ≠ .REFUND_INITIATED then
        ask none (.systemEventLogCreate ⟨"WEBHOOK_REPLAY", booking.id⟩)
      else do
        let now ← ask none .dateNow
        ask none (.bookingUpdate booking.id none
          { status := some .REFUNDED, refundedAt := some now,
            razorpayRefundId := refund.bind (·.id) })
        ask none (.systemEventLogCreate ⟨"REFUND_COMPLETED", booking.id⟩)

def refundFailed (refund : Option RefundEntity) : PayM Unit := do
  match ← bookingOfRefund refund with
  | none => return ()
  | some booking => do
      ask none (.bookingUpdate booking.id none { status := some .REFUND_FAILED })
      ask none (.systemEventLogCreate ⟨"REFUND_FAILED", booking.id⟩)

/-- The booking of a payment: the one in its notes, or the one of its order. -/
def resolveBookingId (payment : PaymentEntity) : PayM (Option String) :=
  match truthy? payment.notes.bookingId with
  | some bookingId => return (some bookingId)
  | none =>
      match truthy? payment.order_id with
      | none => return none
      | some orderId => do
          let booking ← ask none (.bookingFindByOrder orderId)
          return truthy? (booking.map (·.id))

/-- The events the webhook acts on. -/
def dispatch (r : Delivery) (payment : PaymentEntity) (bookingId : String) : PayM Unit :=
  if r.body.event = "payment.captured" then paymentCaptured r payment bookingId
  else if r.body.event = "refund.processed" then refundProcessed r.body.refund
  else if r.body.event = "refund.failed" then refundFailed r.body.refund
  else return ()

/-- `PaymentWebhookController.handleWebhook` -/
def handleWebhook (P : PayPlatform) (r : Delivery) : PayM String :=
  match truthy? P.RAZORPAY_WEBHOOK_SECRET with
  | none => throw (.badRequest "Webhook secret not configured")
  | some secret => do
      throwIf (some (P.hmacSha256Hex secret r.bodyForVerification) != r.signature)
        (.badRequest "Invalid signature")
      match r.body.payment with
      | none => return "ignored"
      | some payment => do
          match ← resolveBookingId payment with
          | none => return "ignored_no_booking_id"
          | some bookingId => do
              dispatch r payment bookingId
              return "ok"

/-! ## Refunds -/

/-- The guards of `processRefund`: the booking and the payment to refund. -/
def refundTarget (booking : Option Booking) (tenantId : String) : Option (Booking × String) := do
  let booking ← booking
  guard (booking.tenantId = some tenantId)
  let razorpayPaymentId ← truthy? booking.razorpayPaymentId
  guard (booking.status = .REFUND_INITIATED)
  return (booking, razorpayPaymentId)

/-- What `processRefund` refunds, in paise. -/
def refundInPaise (booking : Booking) : Int :=
  mathRound (decimalOr booking.finalAmount.toDecimal booking.totalAmount.toDecimal * 100)

def refundEntry (bookingId : String) (amount : Int) (razorpayId : String) (status : LedgerStatus)
    (tenantId : String) : LedgerEntry :=
  { bookingId, amount, type := .REFUND, razorpayId, status, tenantId }

/-- The booking of a failed refund, if its refund is still pending. -/
def markRefundFailed (tx : Nat) (bookingId : String) : Option Booking → PayM Unit
  | none => return ()
  | some bk =>
      if bk.status = .REFUND_INITIATED then do
        validateTransition bk.status .REFUND_FAILED
        ask (some tx) (.bookingUpdate bookingId none { status := some .REFUND_FAILED })
      else return ()

def handleRefundFailure (bookingId paymentId tenantId : String) (amount : Int) (retryCount : Nat) :
    PayM Unit :=
  inTransaction fun tx => do
    markRefundFailed tx bookingId (← ask (some tx) (.bookingFindUnique bookingId))
    ask (some tx) (.ledgerCreateMany [refundEntry bookingId amount paymentId .FAILED tenantId])
    ask (some tx) (.deadLetterCreate
      { type := "REFUND_API_FAILED", reason := .inr "External API Call Failed",
        bookingId := some bookingId, razorpayEventId := some paymentId, tenantId,
        retryCount := retryCount + 1 })

/-- The booking of an accepted refund, if its refund is still pending. -/
def markRefunded (tx : Nat) (bookingId refundId : String) : Option Booking → PayM Unit
  | none => return ()
  | some latestBk =>
      if latestBk.status = .REFUND_INITIATED then do
        validateTransition latestBk.status .REFUNDED
        let refundCompletedAt ← ask none .dateNow
        let refundedAt ← ask none .dateNow
        ask (some tx) (.bookingUpdate bookingId none
          { status := some .REFUNDED, razorpayRefundId := some refundId,
            refundCompletedAt := some refundCompletedAt, refundedAt := some refundedAt })
      else return ()

def recordRefund (bookingId paymentId tenantId : String) (amount : Int) (refundId : String) :
    PayM Unit :=
  inTransaction fun tx => do
    markRefunded tx bookingId refundId (← ask (some tx) (.bookingFindUnique bookingId))
    ask (some tx) (.ledgerCreateMany
      [refundEntry bookingId amount (stringOr (some refundId) paymentId) .SUCCESS tenantId])

def processRefund (bookingId tenantId : String) (retryCount : Nat) : PayM Bool := do
  match refundTarget (← ask none (.bookingFindUnique bookingId)) tenantId with
  | none => return false
  | some (booking, paymentId) => do
      let amountInPaise := refundInPaise booking
      match ← (ask none (.paymentsRefund paymentId amountInPaise booking.id)).attempt with
      | .error _ => do
          handleRefundFailure bookingId paymentId tenantId amountInPaise retryCount
          return false
      | .ok refundId => do
          match ← (recordRefund bookingId paymentId tenantId amountInPaise refundId).attempt with
          | .ok _ => return true
          | .error dbError => do
              ask none (.deadLetterCreate
                { type := "REFUND_SYNC_FAILED", reason := .inl dbError, bookingId := some bookingId,
                  razorpayEventId := some paymentId, tenantId, retryCount })
              return false

/-! ## Reconciliation -/

/-- A booking of a sweep; what goes wrong with one does not stop the sweep. -/
def forTenant {α : Type} (booking : Booking) (p : String → PayM α) : PayM Unit :=
  match truthy? booking.tenantId with
  | none => return ()
  | some tenantId => do
      let _ ← (p tenantId).attempt
      return ()

def sweepPendingRefunds : PayM Unit := do
  let pendingRefunds ← ask none .bookingFindPendingRefunds
  let _ ← pendingRefunds.mapM fun booking =>
    forTenant booking fun tenantId => processRefund booking.id tenantId 0
  return ()

/-- The amount of the worker's ledger entries, in paise. -/
def workerAmount (finalAmount : Money) : Int := mathRound (finalAmount.toDecimal * 100)

/-- Razorpay has a captured payment that the ledger does not know. -/
def syncPayment (bookingId paymentId tenantId : String) (finalAmount : Money) : PayM Unit :=
  inTransaction fun tx => do
    match ← ask (some tx) (.bookingFindUnique bookingId) with
    | none => return ()
    | some bk =>
        if bk.status = .PAYMENT_IN_PROGRESS then do
          validateTransition bk.status .CONFIRMED
          let now ← ask none .dateNow
          ask (some tx) (.bookingUpdate bookingId none
            { status := some .CONFIRMED, razorpayPaymentId := some paymentId,
              paymentCapturedAt := some now })
          ask (some tx) (.seatLockUpdateMany bookingId .CONFIRMED)
          ask (some tx) (.bookingSeatUpdateMany bookingId .CONFIRMED)
          ask (some tx) (.ledgerCreateMany
            [paymentEntry bookingId (workerAmount finalAmount) paymentId tenantId])
        else if bk.status = .EXPIRED ∨ bk.status = .CANCELLED ∨ bk.status = .FAILED then do
          validateTransition bk.status .REFUND_INITIATED
          let paymentCapturedAt ← ask none .dateNow
          let refundInitiatedAt ← ask none .dateNow
          ask (some tx) (.bookingUpdate bookingId none
            { status := some .REFUND_INITIATED, razorpayPaymentId := some paymentId,
              paymentCapturedAt := some paymentCapturedAt,
              refundInitiatedAt := some refundInitiatedAt })
          ask (some tx) (.ledgerCreateMany
            [paymentEntry bookingId (workerAmount finalAmount) paymentId tenantId,
             refundFlag bookingId (workerAmount finalAmount) paymentId tenantId])
        else return ()

def failBooking (bookingId : String) : PayM Unit :=
  inTransaction fun tx => do
    match ← ask (some tx) (.bookingFindUnique bookingId) with
    | none => return ()
    | some bk =>
        if bk.status = .PAYMENT_IN_PROGRESS then do
          validateTransition bk.status .FAILED
          ask (some tx) (.bookingUpdate bookingId none { status := some .FAILED })
          ask (some tx) (.seatLockUpdateMany bookingId .RELEASED)
        else return ()

/-- `ReconciliationWorker.reconcileBooking` -/
def reconcileBooking (bookingId : String) (razorpayOrderId : Option String) (tenantId : String)
    (finalAmount : Money) : PayM Unit :=
  match truthy? razorpayOrderId with
  | none => ask none (.bookingUpdate bookingId none { status := some .FAILED })
  | some orderId => do
      match ← (ask none (.ordersFetchPayments orderId)).attempt with
      | .error _ => return ()
      | .ok payments => do
          match payments.find? (·.captured) with
          | none => failBooking bookingId
          | some successfulPayment => do
              match ← ask none (.ledgerFindFirst successfulPayment.id) with
              | some _ =>
                  ask none (.bookingUpdate bookingId (some .PAYMENT_IN_PROGRESS)
                    { status := some .CONFIRMED })
              | none => syncPayment bookingId successfulPayment.id tenantId finalAmount

/-- The bookings of a sweep, and then the refunds. -/
def reconcileStale : PayM Unit := do
  let now ← ask none .dateNow
  let staleBookings ← ask none (.bookingFindStale (now - 10 * 60 * 1000))
  if staleBookings = [] then return ()
  else do
    let _ ← staleBookings.mapM fun booking =>
      forTenant booking fun tenantId =>
        reconcileBooking booking.id booking.razorpayOrderId tenantId booking.finalAmount
    sweepPendingRefunds

/-- `ReconciliationWorker.handleReconciliation`, in a process -/
def handleReconciliation (process : String) : PayM Unit := do
  let entered ← ask none (.enterSweep process)
  if entered then do
    let _ ← reconcileStale.attempt
    ask none (.leaveSweep process)
  else return ()

/-! ## The system -/

inductive PayOp where
  | createRazorpayOrder (bookingId userId : String)
  | handleWebhook (r : Delivery)
  | handleReconciliation (process : String)
  | sweepPendingRefunds
  | processRefund (bookingId tenantId : String) (retryCount : Nat)

inductive PayAnswer where
  | order (answer : OrderAnswer)
  | webhook (status : String)
  | refund (done : Bool)
  | done

/-- Time passes, or Razorpay takes a payment. -/
inductive PayMove where
  | tick (t : Time)
  | payment (p : RazorpayPayment)

def PayMove.apply : PayMove → PayData → PayData
  | .tick t, d => { d with clock := max d.clock t }
  | .payment p, d =>
      { d with razorpay := { d.razorpay with payments := d.razorpay.payments ++ [p] } }

def PayOp.body (P : PayPlatform) : PayOp → PayM PayAnswer
  | .createRazorpayOrder bookingId userId =>
      .order <$> Payments.createRazorpayOrder P bookingId userId
  | .handleWebhook r => .webhook <$> Payments.handleWebhook P r
  | .handleReconciliation process => (fun _ => .done) <$> Payments.handleReconciliation process
  | .sweepPendingRefunds => (fun _ => .done) <$> Payments.sweepPendingRefunds
  | .processRefund bookingId tenantId retryCount =>
      .refund <$> Payments.processRefund bookingId tenantId retryCount

abbrev PayStore := Store PayData PayWrite
abbrev PaySystem := System payDb.sig PayStore PayOracle (DbEnv PayMove) PayExn PayAnswer PayOp
abbrev PaySnap := Snap payDb.sig PayStore PayOracle PayOp
abbrev PayEvent := Conc.Event payDb.sig PayStore PayOracle PayOp
abbrev PayLabel := Label PayOracle (DbEnv PayMove) PayOp
abbrev PayOutline := Outline payDb.sig PayStore PayOracle PayOp

def payments (P : PayPlatform) : PaySystem := payDb.system PayMove.apply (PayOp.body P)

end Omnipax.Payments
