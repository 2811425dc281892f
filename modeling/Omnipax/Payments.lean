import Mathlib.Algebra.Order.Floor.Ring
import Mathlib.Data.List.Sort
import Mathlib.Data.Rat.Floor
import Omnipax.Commands
import Omnipax.Conc.Transaction

/-!
# The payments database

The tables behind the payment services, with the indexes their migrations
give them, and what Razorpay knows: orders, payments and refunds. A request
to Razorpay is a statement like any other: it is made outside transactions,
and it or its answer may be lost.

Booking amounts are `DECIMAL(10,2)` columns. Prisma hands them out as
`Decimal` objects, whose arithmetic is exact here.
-/

namespace Omnipax.Payments

open Conc

/-! ## Amounts -/

/-- A `DECIMAL(10,2)` value. -/
structure Money where
  hundredths : Int
deriving Repr, DecidableEq

/-- The `Prisma.Decimal` of a column. -/
def Money.toDecimal (m : Money) : Rat := m.hundredths / 100

theorem Money.toDecimal_mul (m : Money) : m.toDecimal * 100 = (m.hundredths : Rat) :=
  div_mul_cancel₀ _ (by norm_num)

/-- `Math.round` -/
def mathRound (x : Rat) : Int := ⌊x + 1 / 2⌋

/-- `a || b` on `Decimal` objects: an object is truthy, that of 0 too. -/
def decimalOr (a _b : Rat) : Rat := a

/-- `s || d` on strings. -/
def stringOr (s : Option String) (d : String) : String :=
  match s with
  | some s => if s = "" then d else s
  | none => d

/-- A string that is there and not empty, which is what a condition of the source lets
through. -/
def truthy? (s : Option String) : Option String := s.filter (· ≠ "")

/-! ## Rows -/

inductive BookingStatus where
  | PENDING
  | LOCKED
  | PAYMENT_IN_PROGRESS
  | CONFIRMED
  | FAILED
  | EXPIRED
  | CANCELLED
  | REFUND_INITIATED
  | REFUNDED
  | REFUND_FAILED
deriving Repr, DecidableEq

/-- `ALLOWED_TRANSITIONS` -/
def BookingStatus.allowed : BookingStatus → List BookingStatus
  | .PENDING => [.LOCKED]
  | .LOCKED => [.PAYMENT_IN_PROGRESS, .EXPIRED, .FAILED, .CANCELLED]
  | .PAYMENT_IN_PROGRESS => [.CONFIRMED, .FAILED, .REFUND_INITIATED]
  | .CONFIRMED => [.CANCELLED, .REFUND_INITIATED]
  | .FAILED => [.REFUND_INITIATED]
  | .EXPIRED => [.REFUND_INITIATED]
  | .CANCELLED => [.REFUND_INITIATED]
  | .REFUND_INITIATED => [.REFUNDED, .REFUND_FAILED]
  | .REFUNDED => []
  | .REFUND_FAILED => [.REFUND_INITIATED]

structure Booking where
  id : String
  userId : String
  showId : String
  totalAmount : Money
  status : BookingStatus
  expiresAt : Option Time
  createdAt : Time
  refundedAt : Option Time
  razorpayOrderId : Option String
  razorpayPaymentId : Option String
  razorpaySignature : Option String
  razorpayRefundId : Option String
  discountAmount : Money
  finalAmount : Money
  paymentCapturedAt : Option Time
  refundInitiatedAt : Option Time
  refundCompletedAt : Option Time
  tenantId : Option String
  ticketAmount : Money := ⟨0⟩
  refundAmount : Money := ⟨0⟩
  refundedSeatsCount : Int := 0
  /-- The ticket of the booking, and when and by whom it has been scanned. -/
  qrToken : Option String := none
  scannedAt : Option Time := none
  validatedBy : Option String := none
deriving Repr, DecidableEq

/-- The table, with its primary key. The unique indexes are checked by the
statements. -/
structure BookingTable where
  rows : List Booking
  ids : (rows.map (·.id)).Nodup
deriving DecidableEq

/-- A seat lock is LOCKED, CONFIRMED, RELEASED or some other text. -/
inductive SeatLockStatus where
  | LOCKED
  | CONFIRMED
  | RELEASED
  | other (text : String)
deriving Repr, DecidableEq

structure SeatLock where
  id : String
  bookingId : String
  status : SeatLockStatus
  expiresAt : Time
deriving Repr, DecidableEq

structure BookingSeat where
  id : String
  bookingId : String
  seatId : String
  showId : Option String
  status : Option BookingStatus
deriving Repr, DecidableEq

inductive SeatStatus where
  | AVAILABLE
  | LOCKED
  | BOOKED
deriving Repr, DecidableEq

structure SeatAvailability where
  showId : String
  seatId : String
  status : SeatStatus
  lockedUntil : Option Time
  userId : Option String
deriving Repr, DecidableEq

inductive LedgerType where
  | PAYMENT
  | REFUND
deriving Repr, DecidableEq

inductive LedgerStatus where
  | SUCCESS
  | REFUND_INITIATED
  | FAILED
deriving Repr, DecidableEq

structure LedgerEntry where
  bookingId : String
  amount : Int
  currency : String := "INR"
  type : LedgerType
  razorpayId : String
  status : LedgerStatus
  tenantId : String
deriving Repr, DecidableEq

structure PaymentEvent where
  id : String
  razorpayEventId : String
  bookingId : String
  eventType : String
  processed : Bool
  tenantId : String
deriving Repr, DecidableEq

inductive PaymentLogStatus where
  | VERIFIED
  | MISMATCH
deriving Repr, DecidableEq

/-- A row of `PaymentLog`. The migration gives `amount` the type `DOUBLE PRECISION`,
which rounds a sum of money that the rows here hold exactly. -/
structure PaymentLog where
  bookingId : String
  razorpayOrderId : String
  razorpayPaymentId : String
  verified : Bool
  amount : Money
  status : PaymentLogStatus
  tenantId : String
deriving Repr, DecidableEq

structure Tenant where
  id : String
  monthlyRevenue : Money
deriving Repr, DecidableEq

structure Show where
  id : String
  price : Rat
deriving DecidableEq

/-- The exceptions of the payment services. -/
inductive PayExn where
  | badRequest (message : String)
  | notFound (message : String)
  | error (message : String)
  | app (code message : String)
  | step (e : StepError)
  /-- A `BadRequestException` with the message of its cause. -/
  | orderFailed (cause : PayExn)
deriving Repr, DecidableEq

/-- `reason` is the message of the exception, or the given text. -/
structure DeadLetterEvent where
  type : String
  reason : PayExn ⊕ String
  bookingId : Option String
  razorpayEventId : Option String
  retryCount : Nat := 0
  tenantId : String
deriving DecidableEq

structure SystemEventLog where
  eventType : String
  entityId : String
deriving Repr, DecidableEq

/-! ## Razorpay -/

structure RazorpayOrder where
  id : String
  /-- In paise. -/
  amount : Rat
  bookingId : String
deriving DecidableEq

structure RazorpayPayment where
  id : String
  orderId : String
  captured : Bool
  /-- In paise. -/
  amount : Int
deriving Repr, DecidableEq

structure RazorpayRefund where
  id : String
  paymentId : String
  /-- In paise. -/
  amount : Int
  /-- The booking in its notes. -/
  bookingId : String
deriving Repr, DecidableEq

structure Razorpay where
  orders : List RazorpayOrder := []
  payments : List RazorpayPayment := []
  refunds : List RazorpayRefund := []
deriving DecidableEq

/-! ## The circuit breaker -/

inductive CircuitState where
  | CLOSED
  | OPEN
  | HALF_OPEN
deriving Repr, DecidableEq

structure Circuit where
  state : CircuitState := .CLOSED
  failureCount : Nat := 0
  lastErrorTime : Time := 0
deriving Repr, DecidableEq

namespace Circuit

def FAILURE_THRESHOLD : Nat := 5

def COOLDOWN_PERIOD : Int := 120000

def WINDOW_PERIOD : Int := 60000

/-- `checkCircuit`: whether it lets the call through. -/
def check (c : Circuit) (now : Time) : Bool × Circuit :=
  if c.state = .OPEN then
    if now - c.lastErrorTime > COOLDOWN_PERIOD then (true, { c with state := .HALF_OPEN })
    else (false, c)
  else (true, c)

def recordFailure (c : Circuit) (now : Time) : Circuit :=
  let failureCount := (if now - c.lastErrorTime > WINDOW_PERIOD then 0 else c.failureCount) + 1
  { state := if failureCount ≥ FAILURE_THRESHOLD then .OPEN else c.state
    failureCount
    lastErrorTime := now }

def recordSuccess (c : Circuit) : Circuit := { c with failureCount := 0, state := .CLOSED }

end Circuit

/-! ## The data -/

/-- The flags that keep a process from running a sweep twice at once. -/
inductive Guard where
  | isExpiryRunning
  | isCleanupRunning
  | isSweeping
deriving Repr, DecidableEq

/-- The committed tables, Razorpay, the memory of the service processes, and
the time. -/
structure PayData where
  clock : Time := 0
  bookings : BookingTable
  seatLocks : List SeatLock := []
  bookingSeats : List BookingSeat := []
  shows : List Show := []
  paymentLedger : List LedgerEntry := []
  /-- The event ids of `RazorpayWebhookEvent`. -/
  razorpayWebhookEvents : List String := []
  paymentEvents : List PaymentEvent := []
  deadLetterEvents : List DeadLetterEvent := []
  systemEventLogs : List SystemEventLog := []
  razorpay : Razorpay := {}
  circuit : Circuit := {}
  /-- The processes whose `isReconciling` is set. -/
  reconciling : List String := []
  seatAvailability : List SeatAvailability := []
  paymentLogs : List PaymentLog := []
  tenants : List Tenant := []
  /-- The guards that are set, with their processes. -/
  guards : List (Guard × String) := []
deriving DecidableEq

/-- The columns an update sets. -/
structure BookingUpdate where
  status : Option BookingStatus := none
  totalAmount : Option Money := none
  refundedAt : Option Time := none
  razorpayOrderId : Option String := none
  razorpayPaymentId : Option String := none
  razorpaySignature : Option String := none
  razorpayRefundId : Option String := none
  paymentCapturedAt : Option Time := none
  refundInitiatedAt : Option Time := none
  refundCompletedAt : Option Time := none
  /-- `{ increment }` -/
  refundAmount : Option Money := none
  /-- `{ increment }` -/
  refundedSeatsCount : Option Int := none
deriving Repr, DecidableEq

def BookingUpdate.apply (u : BookingUpdate) (b : Booking) : Booking :=
  { b with
    status := u.status.getD b.status
    totalAmount := u.totalAmount.getD b.totalAmount
    refundedAt := u.refundedAt <|> b.refundedAt
    razorpayOrderId := u.razorpayOrderId <|> b.razorpayOrderId
    razorpayPaymentId := u.razorpayPaymentId <|> b.razorpayPaymentId
    razorpaySignature := u.razorpaySignature <|> b.razorpaySignature
    razorpayRefundId := u.razorpayRefundId <|> b.razorpayRefundId
    paymentCapturedAt := u.paymentCapturedAt <|> b.paymentCapturedAt
    refundInitiatedAt := u.refundInitiatedAt <|> b.refundInitiatedAt
    refundCompletedAt := u.refundCompletedAt <|> b.refundCompletedAt
    refundAmount := u.refundAmount.elim b.refundAmount fun a =>
      ⟨b.refundAmount.hundredths + a.hundredths⟩
    refundedSeatsCount := u.refundedSeatsCount.elim b.refundedSeatsCount fun n =>
      b.refundedSeatsCount + n }

@[simp] theorem BookingUpdate.apply_id (u : BookingUpdate) (b : Booking) :
    (u.apply b).id = b.id := rfl

namespace BookingTable

def update (t : BookingTable) (id : String) (u : BookingUpdate) : BookingTable where
  rows := t.rows.map fun b => if b.id = id then u.apply b else b
  ids := by
    have hid : (fun b : Booking => b.id) ∘ (fun b => if b.id = id then u.apply b else b)
        = (·.id) := by
      funext b
      simp only [Function.comp_apply]
      split <;> rfl
    rw [List.map_map, hid]
    exact t.ids

/-- Another row has the value in a column with a unique index. -/
def taken (t : BookingTable) (id : String) (column : Booking → Option String)
    (value : Option String) : Bool :=
  value.isSome && t.rows.any fun b => b.id != id && column b == value

/-- The update violates a unique index. -/
def conflicts (t : BookingTable) (id : String) (u : BookingUpdate) : Bool :=
  t.taken id (·.razorpayOrderId) u.razorpayOrderId ||
    t.taken id (·.razorpayPaymentId) u.razorpayPaymentId ||
    t.taken id (·.razorpayRefundId) u.razorpayRefundId

/-- `take: 50` of the bookings in a status, the oldest first; bookings of one
age come in the order `ns` encodes. -/
def oldest (t : BookingTable) (ns : List Nat) (p : Booking → Bool) : List Booking :=
  ((shuffle ns (t.rows.filter p)).insertionSort fun b b' => b.createdAt ≤ b'.createdAt).take 50

def stale (now : Time) (b : Booking) : Bool :=
  b.status == .LOCKED && b.expiresAt.any fun t => decide (t < now)

end BookingTable

/-! ## Statements -/

inductive PayStmt where
  | dateNow
  /-- Test and set of `isReconciling`, in a process. -/
  | enterSweep (process : String)
  | leaveSweep (process : String)
  | checkCircuit
  | recordFailure
  | recordSuccess
  | bookingFindUnique (id : String)
  | bookingFindByOrder (razorpayOrderId : String)
  | bookingFindByPayment (razorpayPaymentId : String)
  /-- PAYMENT_IN_PROGRESS, created before. -/
  | bookingFindStale (cutoffDate : Time)
  /-- REFUND_INITIATED. -/
  | bookingFindPendingRefunds
  /-- Where the id matches, and the status if one is given. -/
  | bookingUpdate (id : String) (status : Option BookingStatus) (data : BookingUpdate)
  | bookingSeatCount (bookingId : String)
  | bookingSeatUpdateMany (bookingId : String) (status : BookingStatus)
  /-- The locks of the booking that are LOCKED. -/
  | seatLockUpdateMany (bookingId : String) (status : SeatLockStatus)
  | showFindUnique (id : String)
  /-- With status SUCCESS. -/
  | ledgerFindFirst (razorpayId : String)
  | ledgerCreateMany (data : List LedgerEntry)
  | webhookEventCreate (eventId : String)
  | paymentEventCreate (razorpayEventId bookingId eventType tenantId : String)
  | paymentEventUpdate (id : String)
  | deadLetterCreate (row : DeadLetterEvent)
  | systemEventLogCreate (row : SystemEventLog)
  | ordersCreate (amount : Rat) (bookingId : String)
  | ordersFetchPayments (orderId : String)
  | paymentsRefund (paymentId : String) (amount : Int) (bookingId : String)
  /-- A random identifier of the mock provider. -/
  | mathRandom
  /-- Test and set of a guard, in a process. -/
  | enterGuard (guard : Guard) (process : String)
  | leaveGuard (guard : Guard) (process : String)
  /-- With its `bookingSeats`. -/
  | bookingFindWithSeats (id : String)
  /-- LOCKED, with an `expiresAt` before. -/
  | bookingFindExpired (now : Time)
  /-- The same without a payment, 100 of them, the earliest `expiresAt` first. -/
  | bookingFindAutoExpiry (now : Time)
  /-- PENDING, created before, 100 of them, the oldest first. -/
  | bookingFindStalePending (cutoff : Time)
  | bookingSeatFindMany (bookingId : String)
  /-- Where the id is in the list, and the status matches. -/
  | bookingUpdateMany (ids : List String) (status : BookingStatus) (data : BookingUpdate)
  /-- LOCKED, with an `expiresAt` that is not after, 200 of them, the earliest first. -/
  | seatLockFindExpired (now : Time)
  /-- Where the id is in the list. -/
  | seatLockUpdateByIds (ids : List String) (status : SeatLockStatus)
  /-- LOCKED seats of the show become AVAILABLE, with no user. -/
  | seatAvailabilityRelease (showId : String) (seatIds : List String)
  | paymentLogFindUnique (razorpayPaymentId : String)
  | paymentLogCreate (row : PaymentLog)
  /-- `monthlyRevenue: { increment }` -/
  | tenantUpdate (id : String) (monthlyRevenue : Money)
  | paymentsFetch (paymentId : String)

abbrev PayStmt.Ret : PayStmt → Type
  | .dateNow => Time
  | .enterSweep _ => Bool
  | .leaveSweep _ => Unit
  | .checkCircuit => Bool
  | .recordFailure => Unit
  | .recordSuccess => Unit
  | .bookingFindUnique _ => Option Booking
  | .bookingFindByOrder _ => Option Booking
  | .bookingFindByPayment _ => Option Booking
  | .bookingFindStale _ => List Booking
  | .bookingFindPendingRefunds => List Booking
  | .bookingUpdate .. => Unit
  | .bookingSeatCount _ => Nat
  | .bookingSeatUpdateMany .. => Unit
  | .seatLockUpdateMany .. => Unit
  | .showFindUnique _ => Option Show
  | .ledgerFindFirst _ => Option LedgerEntry
  | .ledgerCreateMany _ => Unit
  | .webhookEventCreate _ => Unit
  | .paymentEventCreate .. => String
  | .paymentEventUpdate _ => Unit
  | .deadLetterCreate _ => Unit
  | .systemEventLogCreate _ => Unit
  | .ordersCreate .. => String
  | .ordersFetchPayments _ => List RazorpayPayment
  | .paymentsRefund .. => String
  | .mathRandom => String
  | .enterGuard .. => Bool
  | .leaveGuard .. => Unit
  | .bookingFindWithSeats _ => Option (Booking × List BookingSeat)
  | .bookingFindExpired _ => List Booking
  | .bookingFindAutoExpiry _ => List Booking
  | .bookingFindStalePending _ => List Booking
  | .bookingSeatFindMany _ => List BookingSeat
  | .bookingUpdateMany .. => Unit
  | .seatLockFindExpired _ => List SeatLock
  | .seatLockUpdateByIds .. => Unit
  | .seatAvailabilityRelease .. => Unit
  | .paymentLogFindUnique _ => Option PaymentLog
  | .paymentLogCreate _ => Unit
  | .tenantUpdate .. => Unit
  | .paymentsFetch _ => RazorpayPayment

inductive PayWrite where
  | booking (id : String) (data : BookingUpdate)
  | bookingSeats (bookingId : String) (status : BookingStatus)
  | seatLocks (bookingId : String) (status : SeatLockStatus)
  | ledger (row : LedgerEntry)
  | webhookEvent (eventId : String)
  | paymentEvent (row : PaymentEvent)
  | paymentEventProcessed (id : String)
  | deadLetter (row : DeadLetterEvent)
  | systemEventLog (row : SystemEventLog)
  | order (row : RazorpayOrder)
  | refund (row : RazorpayRefund)
  | circuit (c : Circuit)
  | reconciling (processes : List String)
  | guards (set : List (Guard × String))
  /-- One lock, of the booking it is for. -/
  | seatLock (id bookingId : String) (status : SeatLockStatus)
  /-- A seat that is free again. -/
  | seatAvailable (showId seatId : String)
  | paymentLog (row : PaymentLog)
  | revenue (tenantId : String) (amount : Money)

/-- The rows and the values of unique indexes that are locked. -/
inductive PayKey where
  | booking (id : String)
  | orderId (value : String)
  | paymentId (value : String)
  | refundId (value : String)
  | bookingSeats (bookingId : String)
  | seatLocks (bookingId : String)
  | webhookEvent (eventId : String)
  | paymentEvent (razorpayEventId : String)
  | paymentEventRow (id : String)
  | seatAvailability (showId seatId : String)
  | paymentLog (razorpayPaymentId : String)
  | tenant (id : String)
deriving Repr, DecidableEq

def PayWrite.keys : PayWrite → List PayKey
  | .booking id u =>
      .booking id :: (u.razorpayOrderId.toList.map .orderId ++
        u.razorpayPaymentId.toList.map .paymentId ++ u.razorpayRefundId.toList.map .refundId)
  | .bookingSeats bookingId _ => [.bookingSeats bookingId]
  | .seatLocks bookingId _ => [.seatLocks bookingId]
  | .webhookEvent eventId => [.webhookEvent eventId]
  | .paymentEvent row => [.paymentEvent row.razorpayEventId, .paymentEventRow row.id]
  | .paymentEventProcessed id => [.paymentEventRow id]
  | .seatLock _ bookingId _ => [.seatLocks bookingId]
  | .seatAvailable showId seatId => [.seatAvailability showId seatId]
  | .paymentLog row => [.paymentLog row.razorpayPaymentId]
  | .revenue tenantId _ => [.tenant tenantId]
  | _ => []

def PayWrite.apply : PayWrite → PayData → PayData
  | .booking id u, d => { d with bookings := d.bookings.update id u }
  | .bookingSeats bookingId status, d =>
      { d with bookingSeats := d.bookingSeats.map fun s =>
          if s.bookingId = bookingId then { s with status := some status } else s }
  | .seatLocks bookingId status, d =>
      { d with seatLocks := d.seatLocks.map fun l =>
          if l.bookingId = bookingId ∧ l.status = .LOCKED then { l with status } else l }
  | .ledger row, d => { d with paymentLedger := d.paymentLedger ++ [row] }
  | .webhookEvent eventId, d =>
      { d with razorpayWebhookEvents := d.razorpayWebhookEvents ++ [eventId] }
  | .paymentEvent row, d => { d with paymentEvents := d.paymentEvents ++ [row] }
  | .paymentEventProcessed id, d =>
      { d with paymentEvents := d.paymentEvents.map fun e =>
          if e.id = id then { e with processed := true } else e }
  | .deadLetter row, d => { d with deadLetterEvents := d.deadLetterEvents ++ [row] }
  | .systemEventLog row, d => { d with systemEventLogs := d.systemEventLogs ++ [row] }
  | .order row, d => { d with razorpay := { d.razorpay with orders := d.razorpay.orders ++ [row] } }
  | .refund row, d =>
      { d with razorpay := { d.razorpay with refunds := d.razorpay.refunds ++ [row] } }
  | .circuit c, d => { d with circuit := c }
  | .reconciling processes, d => { d with reconciling := processes }
  | .guards set, d => { d with guards := set }
  | .seatLock id _ status, d =>
      { d with seatLocks := d.seatLocks.map fun l => if l.id = id then { l with status } else l }
  | .seatAvailable showId seatId, d =>
      { d with seatAvailability := d.seatAvailability.map fun a =>
          if a.showId = showId ∧ a.seatId = seatId then
            { a with status := .AVAILABLE, lockedUntil := none, userId := none }
          else a }
  | .paymentLog row, d => { d with paymentLogs := d.paymentLogs ++ [row] }
  | .revenue tenantId amount, d =>
      { d with tenants := d.tenants.map fun t =>
          if t.id = tenantId then
            { t with monthlyRevenue := ⟨t.monthlyRevenue.hundredths + amount.hundredths⟩ }
          else t }

/-- What a step draws, an id and the order in which a query returns its rows, and whether
its request or its answer is lost. -/
structure PayOracle where
  loss : Option Loss := none
  fresh : String := ""
  order : List Nat := []
deriving Repr, DecidableEq

def PayStmt.exec (o : PayOracle) (d : PayData) :
    (q : PayStmt) → Except StepError q.Ret × List PayWrite
  | .dateNow => (.ok d.clock, [])
  | .enterSweep process =>
      if d.reconciling.contains process then (.ok false, [])
      else (.ok true, [.reconciling (process :: d.reconciling)])
  | .leaveSweep process => (.ok (), [.reconciling (d.reconciling.filter (· != process))])
  | .checkCircuit =>
      (.ok (d.circuit.check d.clock).1, [.circuit (d.circuit.check d.clock).2])
  | .recordFailure => (.ok (), [.circuit (d.circuit.recordFailure d.clock)])
  | .recordSuccess => (.ok (), [.circuit d.circuit.recordSuccess])
  | .bookingFindUnique id => (.ok (d.bookings.rows.find? (·.id == id)), [])
  | .bookingFindByOrder razorpayOrderId =>
      (.ok (d.bookings.rows.find? (·.razorpayOrderId == some razorpayOrderId)), [])
  | .bookingFindByPayment razorpayPaymentId =>
      (.ok (d.bookings.rows.find? (·.razorpayPaymentId == some razorpayPaymentId)), [])
  | .bookingFindStale cutoffDate =>
      (.ok (d.bookings.oldest o.order fun b =>
        b.status == .PAYMENT_IN_PROGRESS && decide (b.createdAt < cutoffDate)), [])
  | .bookingFindPendingRefunds =>
      (.ok (d.bookings.oldest o.order fun b => b.status == .REFUND_INITIATED), [])
  | .bookingUpdate id status data =>
      if d.bookings.rows.any fun b => b.id == id && (status.isNone || status == some b.status) then
        if d.bookings.conflicts id data then (.error (.prisma "P2002"), [])
        else (.ok (), [.booking id data])
      else (.error (.prisma "P2025"), [])
  | .bookingSeatCount bookingId => (.ok (d.bookingSeats.countP (·.bookingId == bookingId)), [])
  | .bookingSeatUpdateMany bookingId status => (.ok (), [.bookingSeats bookingId status])
  | .seatLockUpdateMany bookingId status => (.ok (), [.seatLocks bookingId status])
  | .showFindUnique id => (.ok (d.shows.find? (·.id == id)), [])
  | .ledgerFindFirst razorpayId =>
      (.ok (d.paymentLedger.find? fun l => l.razorpayId == razorpayId && l.status == .SUCCESS), [])
  | .ledgerCreateMany data => (.ok (), data.map .ledger)
  | .webhookEventCreate eventId =>
      if d.razorpayWebhookEvents.contains eventId then (.error (.prisma "P2002"), [])
      else (.ok (), [.webhookEvent eventId])
  | .paymentEventCreate razorpayEventId bookingId eventType tenantId =>
      if d.paymentEvents.any fun e => e.razorpayEventId == razorpayEventId || e.id == o.fresh then
        (.error (.prisma "P2002"), [])
      else
        (.ok o.fresh, [.paymentEvent { id := o.fresh, razorpayEventId, bookingId, eventType,
                                       processed := false, tenantId }])
  | .paymentEventUpdate id =>
      if d.paymentEvents.any (·.id == id) then (.ok (), [.paymentEventProcessed id])
      else (.error (.prisma "P2025"), [])
  | .deadLetterCreate row => (.ok (), [.deadLetter row])
  | .systemEventLogCreate row => (.ok (), [.systemEventLog row])
  | .ordersCreate amount bookingId => (.ok o.fresh, [.order ⟨o.fresh, amount, bookingId⟩])
  | .ordersFetchPayments orderId =>
      (.ok (d.razorpay.payments.filter (·.orderId == orderId)), [])
  | .paymentsRefund paymentId amount bookingId =>
      (.ok o.fresh, [.refund ⟨o.fresh, paymentId, amount, bookingId⟩])
  | .mathRandom => (.ok o.fresh, [])
  | .enterGuard guard process =>
      if d.guards.contains (guard, process) then (.ok false, [])
      else (.ok true, [.guards ((guard, process) :: d.guards)])
  | .leaveGuard guard process => (.ok (), [.guards (d.guards.filter (· != (guard, process)))])
  | .bookingFindWithSeats id =>
      (.ok ((d.bookings.rows.find? (·.id == id)).map fun b =>
        (b, shuffle o.order (d.bookingSeats.filter (·.bookingId == id)))), [])
  | .bookingFindExpired now =>
      (.ok (shuffle o.order (d.bookings.rows.filter (BookingTable.stale now))), [])
  | .bookingFindAutoExpiry now =>
      (.ok (((shuffle o.order (d.bookings.rows.filter fun b =>
        BookingTable.stale now b && b.razorpayPaymentId.isNone)).insertionSort fun b b' =>
          b.expiresAt.getD 0 ≤ b'.expiresAt.getD 0).take 100), [])
  | .bookingFindStalePending cutoff =>
      (.ok (((shuffle o.order (d.bookings.rows.filter fun b =>
        b.status == .PENDING && decide (b.createdAt < cutoff))).insertionSort fun b b' =>
          b.createdAt ≤ b'.createdAt).take 100), [])
  | .bookingSeatFindMany bookingId =>
      (.ok (shuffle o.order (d.bookingSeats.filter (·.bookingId == bookingId))), [])
  | .bookingUpdateMany ids status data =>
      (.ok (), (d.bookings.rows.filter fun b => ids.contains b.id && b.status == status).map
        fun b => .booking b.id data)
  | .seatLockFindExpired now =>
      (.ok (((shuffle o.order (d.seatLocks.filter fun l =>
        l.status == .LOCKED && decide (l.expiresAt ≤ now))).insertionSort fun l l' =>
          l.expiresAt ≤ l'.expiresAt).take 200), [])
  | .seatLockUpdateByIds ids status =>
      (.ok (), (d.seatLocks.filter fun l => ids.contains l.id).map
        fun l => .seatLock l.id l.bookingId status)
  | .seatAvailabilityRelease showId seatIds =>
      (.ok (), (d.seatAvailability.filter fun a =>
        a.showId == showId && seatIds.contains a.seatId && a.status == .LOCKED).map
          fun a => .seatAvailable a.showId a.seatId)
  | .paymentLogFindUnique razorpayPaymentId =>
      (.ok (d.paymentLogs.find? (·.razorpayPaymentId == razorpayPaymentId)), [])
  | .paymentLogCreate row =>
      if d.paymentLogs.any (·.razorpayPaymentId == row.razorpayPaymentId) then
        (.error (.prisma "P2002"), [])
      else (.ok (), [.paymentLog row])
  | .tenantUpdate id monthlyRevenue =>
      if d.tenants.any (·.id == id) then (.ok (), [.revenue id monthlyRevenue])
      else (.error (.prisma "P2025"), [])
  | .paymentsFetch paymentId =>
      match d.razorpay.payments.find? (·.id == paymentId) with
      | some payment => (.ok payment, [])
      | none => (.error .unavailable, [])

def PayStmt.inProcess : PayStmt → Bool
  | .dateNow => true
  | .enterSweep _ => true
  | .leaveSweep _ => true
  | .checkCircuit => true
  | .recordFailure => true
  | .recordSuccess => true
  | .mathRandom => true
  | .enterGuard .. => true
  | .leaveGuard .. => true
  | _ => false

def payDb : Database PayStmt PayData PayWrite PayKey PayOracle StepError where
  Ans := PayStmt.Ret
  exec q o d := q.exec o d
  apply := PayWrite.apply
  keys := PayWrite.keys
  loss := PayOracle.loss
  inProcess := PayStmt.inProcess
  gone := .unavailable

end Omnipax.Payments
