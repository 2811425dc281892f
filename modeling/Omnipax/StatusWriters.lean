import Omnipax.Discounts

/-!
# The other writers of bookings

`PaymentService.refundPayment`, `PaymentReconciliationService`,
`BookingExpiryService`, `BookingProcessor` and `SeatLockWorker`, as programs
over the payments database. `releaseSeatsSafely` is called by two of them and
is not in the repository: it is a parameter.
-/

namespace Omnipax.Payments

open Conc Prog

/-- The services and the missing function of the booking service, which runs
in the transaction it is given or by itself. -/
structure SeatPlatform extends PayPlatform where
  releaseSeatsSafely : String → Option Nat → PayM Unit

/-! ## Refunds of a booking -/

/-- A mock refund, or one at Razorpay. Its notes name no booking. -/
def initiateRefund (P : PayPlatform) (razorpayPaymentId : String) (refundAmount : Money) :
    PayM String :=
  if P.PAYMENT_PROVIDER = some "mock" then
    (fun random => "refund_mock_" ++ random) <$> ask none .mathRandom
  else ask none (.paymentsRefund razorpayPaymentId refundAmount.hundredths "")

def refundPayment (P : SeatPlatform) (bookingId : String) (seatsToRefund : Option Int) :
    PayM (String × Money) := do
  let noPayment := PayExn.badRequest "Refund failed: No Razorpay payment ID found"
  match ← ask none (.bookingFindWithSeats bookingId) with
  | none => throw noPayment
  | some (booking, bookingSeats) =>
      match truthy? booking.razorpayPaymentId with
      | none => throw noPayment
      | some razorpayPaymentId => do
          throwIf (booking.status != .CONFIRMED && booking.status != .CANCELLED)
            (.badRequest "Only confirmed or cancelled bookings can be refunded")
          let totalSeats : Int := bookingSeats.length
          let requestingRefundCount := seatsToRefund.getD (totalSeats - booking.refundedSeatsCount)
          throwIf (decide (totalSeats < requestingRefundCount + booking.refundedSeatsCount))
            (.badRequest "Double-refund exploit detected: Requested seats exceed booked seats")
          -- without seats the amount is not a number: the code sends it to Razorpay as
          -- `null` before its update fails, and here the call ends before the request
          throwIf (totalSeats == 0) (.error "[DecimalError] Invalid argument")
          let refundAmount := Discounts.toDecimalPlaces2
            (booking.ticketAmount.toDecimal * requestingRefundCount / totalSeats)
          let refundId ← initiateRefund P.toPayPlatform razorpayPaymentId refundAmount
          let now ← ask none .dateNow
          ask none (.bookingUpdate bookingId none
            { status := some .REFUND_INITIATED, razorpayRefundId := some refundId,
              refundAmount := some refundAmount, refundedSeatsCount := some requestingRefundCount,
              refundedAt := some now })
          P.releaseSeatsSafely bookingId none
          return (refundId, refundAmount)

/-! ## `PaymentReconciliationService` -/

namespace PaymentReconciliationService

/-- `verifyPayment`: the code compares the payment's amount with the double product
`expectedAmount * 100`, which for 19.99 is not 1999, where the comparison here is
exact. No result depends on how it ends: a run may take either branch, as Razorpay
may answer with any amount. -/
def verifyPayment (paymentId orderId : String) (expectedAmount : Money) : PayM Bool := do
  match ← (ask none (.paymentsFetch paymentId)).attempt with
  | .error _ => return false
  | .ok payment =>
      return payment.captured && payment.orderId == orderId &&
        payment.amount == expectedAmount.hundredths

/-- The transaction of a verified or a mismatched payment. -/
def recordPayment (booking : Booking) (razorpayOrderId razorpayPaymentId tenantId : String)
    (isVerified : Bool) : PayM Unit :=
  inTransaction fun tx => do
    ask (some tx) (.paymentLogCreate
      { bookingId := booking.id, razorpayOrderId, razorpayPaymentId, verified := isVerified,
        amount := booking.finalAmount, status := if isVerified then .VERIFIED else .MISMATCH,
        tenantId })
    if isVerified then do
      let now ← ask none .dateNow
      ask (some tx) (.bookingUpdate booking.id none
        { status := some .CONFIRMED, razorpayPaymentId := some razorpayPaymentId,
          paymentCapturedAt := some now })
      ask (some tx) (.tenantUpdate tenantId booking.finalAmount)
    else ask (some tx) (.bookingUpdate booking.id none { status := some .FAILED })

def reconcileBooking (bookingId razorpayOrderId razorpayPaymentId tenantId : String) :
    PayM Unit := do
  match ← ask none (.paymentLogFindUnique razorpayPaymentId) with
  | some _ => return ()
  | none =>
      match ← ask none (.bookingFindUnique bookingId) with
      | none => return ()
      | some booking => do
          let isVerified ← verifyPayment razorpayPaymentId razorpayOrderId booking.finalAmount
          recordPayment booking razorpayOrderId razorpayPaymentId tenantId isVerified

end PaymentReconciliationService

/-! ## Sweeps -/

/-- A sweep that runs once at a time in a process, and whose exceptions are
logged. -/
def guarded (guard : Guard) (process : String) (sweep : PayM Unit) : PayM Unit := do
  let entered ← ask none (.enterGuard guard process)
  if entered then do
    let _ ← sweep.attempt
    ask none (.leaveGuard guard process)
  else return ()

namespace BookingExpiryService

def expireBooking (P : SeatPlatform) (bookingId : String) : PayM Unit :=
  inTransaction fun tx => do
    match ← ask (some tx) (.bookingFindUnique bookingId) with
    | none => return ()
    | some current =>
        if current.status ≠ .LOCKED ∨ (truthy? current.razorpayPaymentId).isSome then return ()
        else do
          ask (some tx) (.bookingUpdate bookingId none { status := some .EXPIRED })
          P.releaseSeatsSafely bookingId (some tx)

def handleAutoExpiry (P : SeatPlatform) (process : String) : PayM Unit :=
  guarded .isExpiryRunning process do
    let now ← ask none .dateNow
    let staleBookings ← ask none (.bookingFindAutoExpiry now)
    let _ ← staleBookings.mapM fun booking => (expireBooking P booking.id).attempt
    return ()

def failPending (bookingId : String) : PayM Unit :=
  inTransaction fun tx => do
    match ← ask (some tx) (.bookingFindUnique bookingId) with
    | none => return ()
    | some current =>
        if current.status ≠ .PENDING then return ()
        else ask (some tx) (.bookingUpdate bookingId none { status := some .FAILED })

def handleInitiatedCleanup (process : String) : PayM Unit :=
  guarded .isCleanupRunning process do
    let now ← ask none .dateNow
    let stalePending ← ask none (.bookingFindStalePending (now - 15 * 60 * 1000))
    let _ ← stalePending.mapM fun booking => (failPending booking.id).attempt
    return ()

end BookingExpiryService

/-- `BookingProcessor.handleExpiredBookings` -/
def handleExpiredBookings : PayM Unit := do
  let now ← ask none .dateNow
  let expired ← ask none (.bookingFindExpired now)
  let _ ← expired.mapM fun booking =>
    ask none (.bookingUpdate booking.id none { status := some .EXPIRED })
  return ()

namespace SeatLockWorker

/-- The seats of a booking become available, those of the show of its first. -/
def freeSeats (tx : Nat) (bookingId : String) : PayM Unit := do
  let bookingSeats ← ask (some tx) (.bookingSeatFindMany bookingId)
  match bookingSeats.head?.bind fun s => truthy? s.showId with
  | none => return ()
  | some showId => do
      ask (some tx) (.seatAvailabilityRelease showId (bookingSeats.map (·.seatId)))
      ask (some tx) (.bookingSeatUpdateMany bookingId .EXPIRED)

def releaseBatch (expiredLocks : List SeatLock) : PayM Unit :=
  let bookingIds := (expiredLocks.map (·.bookingId)).eraseDups
  inTransaction fun tx => do
    ask (some tx) (.seatLockUpdateByIds (expiredLocks.map (·.id)) .RELEASED)
    ask (some tx) (.bookingUpdateMany bookingIds .LOCKED { status := some .EXPIRED })
    let _ ← bookingIds.mapM (freeSeats tx)
    return ()

/-- The batches of a sweep, as many as the `while (true)` runs. -/
def releaseBatches (now : Time) : Nat → PayM Unit
  | 0 => return ()
  | rounds + 1 => do
      let expiredLocks ← ask none (.seatLockFindExpired now)
      if expiredLocks = [] then return ()
      else do
        releaseBatch expiredLocks
        if expiredLocks.length < 200 then return () else releaseBatches now rounds

def releaseExpiredLocks (process : String) (rounds : Nat) : PayM Unit :=
  guarded .isSweeping process do
    let now ← ask none .dateNow
    releaseBatches now rounds

end SeatLockWorker

/-! ## The system -/

inductive StatusOp where
  | pay (op : PayOp)
  | refundPayment (bookingId : String) (seatsToRefund : Option Int)
  /-- Of `PaymentReconciliationService`. -/
  | reconcileBooking (bookingId razorpayOrderId razorpayPaymentId tenantId : String)
  | handleAutoExpiry (process : String)
  | handleInitiatedCleanup (process : String)
  | handleExpiredBookings
  | releaseExpiredLocks (process : String) (rounds : Nat)

inductive StatusAnswer where
  | pay (answer : PayAnswer)
  | refunded (refundId : String) (refundAmount : Money)
  | done

def StatusOp.body (P : SeatPlatform) : StatusOp → PayM StatusAnswer
  | .pay op => .pay <$> op.body P.toPayPlatform
  | .refundPayment bookingId seatsToRefund =>
      (fun r => .refunded r.1 r.2) <$> Payments.refundPayment P bookingId seatsToRefund
  | .reconcileBooking bookingId razorpayOrderId razorpayPaymentId tenantId =>
      (fun _ => .done) <$> PaymentReconciliationService.reconcileBooking bookingId razorpayOrderId
        razorpayPaymentId tenantId
  | .handleAutoExpiry process =>
      (fun _ => .done) <$> BookingExpiryService.handleAutoExpiry P process
  | .handleInitiatedCleanup process =>
      (fun _ => .done) <$> BookingExpiryService.handleInitiatedCleanup process
  | .handleExpiredBookings => (fun _ => .done) <$> Payments.handleExpiredBookings
  | .releaseExpiredLocks process rounds =>
      (fun _ => .done) <$> SeatLockWorker.releaseExpiredLocks process rounds

abbrev StatusSystem :=
  System payDb.sig PayStore PayOracle (DbEnv PayMove) PayExn StatusAnswer StatusOp
abbrev StatusSnap := Snap payDb.sig PayStore PayOracle StatusOp
abbrev StatusLabel := Label PayOracle (DbEnv PayMove) StatusOp

def statusWriters (P : SeatPlatform) : StatusSystem :=
  payDb.system PayMove.apply (StatusOp.body P)

end Omnipax.Payments
