import Omnipax.SeatLocks

/-!
# `BookingsService` and `EventsService`

`initiateBooking`, `processPaymentWebhook`, `expirePendingBooking` and
`getSeatMap`, one `await` a line, with the checks, defaults and error
texts of the source.
-/

namespace Omnipax

open Conc Prog

structure TenantContext where
  id : String
  slug : String
deriving Repr, DecidableEq

structure InitiateBookingDto where
  eventId : String
  seatIds : List String
  amount : Int
  currency : Option String := none
deriving Repr, DecidableEq

structure InitiateBookingResult where
  bookingId : String
  status : BookingStatus
  expiresAt : Time
  order : Order
deriving Repr, DecidableEq

/-! ## `initiateBooking` -/

/-- `[...new Set(xs)]`: the first occurrences, in order. -/
def newSet (xs : List String) : List String := xs.eraseDups

/-- `(dto.currency || 'INR').toUpperCase()` -/
def currencyOf (P : Platform) (dto : InitiateBookingDto) : String :=
  P.toUpperCase (match dto.currency with
    | some c => if c = "" then "INR" else c
    | none => "INR")

def initiateBooking (P : Platform) (tenant : TenantContext) (userId : String)
    (dto : InitiateBookingDto) : M InitiateBookingResult := do
  let seatIds := newSet dto.seatIds
  let event ← await (.eventFindFirst dto.eventId tenant.id)
  throwIf event.isNone (.notFound "Event not found")
  let seats ← await (.seatFindMany seatIds dto.eventId)
  throwIf (seats.length != seatIds.length)
    (.conflict "Invalid seats selected for this event")
  validateLocksOwned tenant.slug dto.eventId seatIds userId
  let now ← await .dateNow
  let existing ← await (.bookingSeatFindMany seatIds tenant.id dto.eventId now)
  throwIf (existing.length > 0) (.conflict "Some seats are no longer available")
  let currency := currencyOf P dto
  let receiptAt ← await .dateNow
  let receiptSalt ← await .randomBytesHex
  let order ← await (.ordersCreate
    { amount := dto.amount
      currency
      receipt := "bk_" ++ toString receiptAt ++ "_" ++ receiptSalt
      tenantSlug := tenant.slug
      eventId := dto.eventId
      userId })
  let expiresAt := now + P.bookingTtlMinutes * 60 * 1000
  let booking ← await (.bookingCreate
    { tenantId := tenant.id
      userId
      eventId := dto.eventId
      status := .PENDING
      amount := dto.amount
      currency
      razorpayOrderId := order.id
      expiresAt
      seatIds })
  let addedAt ← await .dateNow
  await (.bookingExpiryAdd { bookingId := booking.id } (max (expiresAt - addedAt) 0)
    ("booking-expiry:" ++ booking.id))
  releaseMany tenant.slug dto.eventId seatIds
  await (.emit (.SEATS_RESERVED_PENDING_PAYMENT tenant.slug dto.eventId seatIds))
  return { bookingId := booking.id
           status := booking.status
           expiresAt := booking.expiresAt
           order }

/-! ### Its phases -/

/-- The event and all seats are there. -/
def lookUp (tenant : TenantContext) (dto : InitiateBookingDto) : M Unit := do
  let event ← await (.eventFindFirst dto.eventId tenant.id)
  throwIf event.isNone (.notFound "Event not found")
  let seats ← await (.seatFindMany (newSet dto.seatIds) dto.eventId)
  throwIf (seats.length != (newSet dto.seatIds).length)
    (.conflict "Invalid seats selected for this event")

/-- The existing-booking check, as of the `now` it returns. -/
def existingCheck (tenantId eventId : String) (seatIds : List String) : M Time := do
  let now ← await .dateNow
  let existing ← await (.bookingSeatFindMany seatIds tenantId eventId now)
  throwIf (existing.length > 0) (.conflict "Some seats are no longer available")
  return now

/-- The checks that depend on locks and bookings. -/
def admissionChecks (tenant : TenantContext) (eventId : String) (seatIds : List String)
    (userId : String) : M Time := do
  validateLocksOwned tenant.slug eventId seatIds userId
  existingCheck tenant.id eventId seatIds

def createOrder (P : Platform) (tenant : TenantContext) (userId : String)
    (dto : InitiateBookingDto) : M Order := do
  let receiptAt ← await .dateNow
  let receiptSalt ← await .randomBytesHex
  await (.ordersCreate
    { amount := dto.amount
      currency := currencyOf P dto
      receipt := "bk_" ++ toString receiptAt ++ "_" ++ receiptSalt
      tenantSlug := tenant.slug
      eventId := dto.eventId
      userId })

/-- The row a reservation asks for. -/
def bookingData (P : Platform) (tenant : TenantContext) (userId : String)
    (dto : InitiateBookingDto) (now : Time) (orderId : String) : BookingCreate where
  tenantId := tenant.id
  userId := userId
  eventId := dto.eventId
  status := .PENDING
  amount := dto.amount
  currency := currencyOf P dto
  razorpayOrderId := orderId
  expiresAt := now + P.bookingTtlMinutes * 60 * 1000
  seatIds := newSet dto.seatIds

def finish (P : Platform) (tenant : TenantContext) (dto : InitiateBookingDto) (now : Time)
    (order : Order) (booking : Booking) : M InitiateBookingResult := do
  let addedAt ← await .dateNow
  await (.bookingExpiryAdd { bookingId := booking.id }
    (max (now + P.bookingTtlMinutes * 60 * 1000 - addedAt) 0) ("booking-expiry:" ++ booking.id))
  releaseMany tenant.slug dto.eventId (newSet dto.seatIds)
  await (.emit (.SEATS_RESERVED_PENDING_PAYMENT tenant.slug dto.eventId (newSet dto.seatIds)))
  return { bookingId := booking.id
           status := booking.status
           expiresAt := booking.expiresAt
           order }

theorem initiateBooking_eq (P : Platform) (tenant : TenantContext) (userId : String)
    (dto : InitiateBookingDto) :
    initiateBooking P tenant userId dto = (do
      lookUp tenant dto
      let now ← admissionChecks tenant dto.eventId (newSet dto.seatIds) userId
      let order ← createOrder P tenant userId dto
      let booking ← await (.bookingCreate (bookingData P tenant userId dto now order.id))
      finish P tenant dto now order booking) := by
  simp only [initiateBooking, lookUp, admissionChecks, existingCheck, createOrder, finish,
    bind_assoc]
  rfl

/-! ## `getTicketByBookingId` and `verifyTicket` -/

structure VerifyTicketDto where
  ticketCode : String
deriving Repr, DecidableEq

structure VerifyTicketResult where
  valid : Bool
  booking : VerifiedTicket
deriving Repr, DecidableEq

def getTicketByBookingId (tenantId bookingId userId : String) : M OwnTicket := do
  match ← await (.bookingFindFirstOwn bookingId tenantId userId) with
  | none => throw (.notFound "Booking not found")
  | some booking => do
      throwIf (booking.status != .CONFIRMED) (.conflict "Booking is not confirmed yet")
      return booking

def verifyTicket (tenantId : String) (dto : VerifyTicketDto) : M VerifyTicketResult := do
  match ← await (.bookingFindFirstTicket tenantId dto.ticketCode) with
  | none => throw (.notFound "Ticket not found or invalid")
  | some booking => return { valid := true, booking }

/-! ## `processPaymentWebhook` -/

inductive WebhookStatus where
  | duplicate
  | ignored
  | booking_not_found
  | already_confirmed
  | not_pending
  | confirmed
deriving Repr, DecidableEq

/-- A webhook request: the raw body and what the JSON parser made of it,
the signature (empty when the header is missing) and the event id header. -/
structure WebhookRequest where
  rawBody : String
  signature : String
  eventIdHeader : Option String
  payload : JsonObject

namespace WebhookRequest

def paymentEntity (r : WebhookRequest) : Option Json :=
  Json.get? (Json.get? (JsonObject.get? r.payload "payload") "payment") "entity"

def paymentId (r : WebhookRequest) : Option Json :=
  Json.get? r.paymentEntity "id"

def orderId (r : WebhookRequest) : Option Json :=
  Json.get? r.paymentEntity "order_id"

/-- `payload.event || 'unknown'` -/
def eventType (r : WebhookRequest) : Json :=
  match JsonObject.get? r.payload "event" with
  | some v => if Json.truthy (some v) then v else .str "unknown"
  | none => .str "unknown"

end WebhookRequest

/-- A value in a template string. Only strings get past the column types of
`paymentWebhookEvent.create`, so the text of anything else never counts. -/
def templateText : Json → String
  | .str s => s
  | _ => "[object Object]"

/-- `verifyWebhookSignature`: equal lengths, then `timingSafeEqual`. -/
def verifyWebhookSignature (P : Platform) (rawBody signature : String) : Bool :=
  let expected := P.hmacSha256Hex P.razorpayWebhookSecret rawBody
  if expected.utf8ByteSize != signature.utf8ByteSize then false
  else expected == signature

/-- `eventIdHeader || ${eventType || 'unknown'}:${paymentId || random}` -/
def webhookEventId (r : WebhookRequest) : M String :=
  match r.eventIdHeader with
  | some h => if h = "" then fallback else return h
  | none => fallback
where
  fallback : M String :=
    match r.paymentId with
    | some v =>
        if Json.truthy (some v) then
          return templateText r.eventType ++ ":" ++ templateText v
        else random
    | none => random
  random : M String := do
    let salt ← await .randomBytesHex
    return templateText r.eventType ++ ":" ++ salt

def generateTicketCode (P : Platform) : M String := do
  let salt ← await .randomBytesHex
  return "OMX-" ++ P.toUpperCase salt

/-- `processPaymentWebhook` from the booking found for the order on. -/
def confirmPending (P : Platform) (signature paymentId : String)
    (found : BookingWithTenant) : M WebhookStatus := do
  let booking := found.booking
  if booking.status = .CONFIRMED then return .already_confirmed
  else if booking.status ≠ .PENDING then return .not_pending
  else do
    let ticketCode ← generateTicketCode P
    let ticketQrData ← await (.toDataURL
      { bookingId := booking.id, tenantSlug := found.tenantSlug, ticketCode })
    let updated ← await (.bookingUpdate booking.id
      { status := .CONFIRMED
        razorpayPaymentId := some paymentId
        razorpaySignature := some signature
        ticketCode := some ticketCode
        ticketQrData := some ticketQrData })
    await (.emit (.BOOKING_CONFIRMED updated.tenantSlug updated.booking.eventId
      updated.booking.bookingSeats))
    return .confirmed

/-- `processPaymentWebhook` after the event row has been inserted. -/
def confirmOrder (P : Platform) (r : WebhookRequest) : M WebhookStatus :=
  if !Json.truthy r.orderId || !Json.truthy r.paymentId then return .ignored
  else
    match Json.str? r.orderId, Json.str? r.paymentId with
    | some orderId, some paymentId => do
        match ← await (.bookingFindUniqueByOrder orderId) with
        | none => return .booking_not_found
        | some found => confirmPending P r.signature paymentId found
    | _, _ => throw (.step .prismaValidation)

/-- `processPaymentWebhook` after the signature check and the event id. -/
def processEvent (P : Platform) (r : WebhookRequest) (eventId : String) :
    M WebhookStatus := do
  match ← settle (.webhookEventCreate
      { eventId, eventType := r.eventType, paymentId := r.paymentId,
        orderId := r.orderId }) with
  | .error (.prisma "P2002") => return .duplicate
  | .error e => throw (.step e)
  | .ok _ => confirmOrder P r

def processPaymentWebhook (P : Platform) (r : WebhookRequest) : M WebhookStatus := do
  throwIf (r.rawBody == "" || r.signature == "") (.unauthorized "Invalid webhook request")
  throwIf (!verifyWebhookSignature P r.rawBody r.signature)
    (.unauthorized "Webhook signature verification failed")
  let eventId ← webhookEventId r
  processEvent P r eventId

/-! ## `expirePendingBooking` -/

/-- `expirePendingBooking` from the booking found on. -/
def expireFound (now : Time) (found : BookingWithTenant) : M Unit := do
  let booking := found.booking
  if booking.status ≠ .PENDING then return ()
  else if booking.expiresAt > now then return ()
  else do
    let _ ← await (.bookingUpdate booking.id { status := .EXPIRED })
    await (.emit (.BOOKING_EXPIRED found.tenantSlug booking.eventId booking.bookingSeats))

def expirePendingBooking (bookingId : String) : M Unit := do
  let now ← await .dateNow
  match ← await (.bookingFindUnique bookingId) with
  | none => return ()
  | some found => expireFound now found

theorem expireFound_of_due {now : Time} {found : BookingWithTenant}
    (hp : found.booking.status = .PENDING) (hd : found.booking.expiresAt ≤ now) :
    expireFound now found = (do
      let _ ← await (.bookingUpdate found.booking.id { status := .EXPIRED })
      await (.emit (.BOOKING_EXPIRED found.tenantSlug found.booking.eventId
        found.booking.bookingSeats))) := by
  unfold expireFound
  dsimp only
  rw [if_neg (not_not_intro hp), if_neg (Int.not_lt.mpr hd)]

/-- A booking that is not PENDING, or not due yet, is left alone. -/
theorem expireFound_of_not_due {now : Time} {found : BookingWithTenant}
    (h : ¬(found.booking.status = .PENDING ∧ found.booking.expiresAt ≤ now)) :
    expireFound now found = .ret () := by
  unfold expireFound
  dsimp only
  split
  · rfl
  · rename_i hp
    rw [if_pos (Int.not_le.mp fun hd => h ⟨not_not.mp hp, hd⟩)]
    rfl

/-! ## `EventsService.getSeatMap` -/

inductive SeatStatus where
  | BOOKED
  | PENDING_PAYMENT
  | LOCKED_BY_ME
  | LOCKED
  | AVAILABLE
deriving Repr, DecidableEq

structure SeatView where
  id : String
  seatNumber : Int
  status : SeatStatus
  mine : Bool
deriving Repr, DecidableEq

structure SeatMap where
  event : Event
  seats : List SeatView
deriving Repr, DecidableEq

/-- `new Map(entries).get(k)`: of several entries with one key the last
counts. -/
def mapGet {β : Type} (entries : List (String × β)) (k : String) : Option β :=
  entries.reverse.lookup k

/-- One row of the seat map. -/
def seatView (busy : List (String × BookedSeat)) (locked : List (String × SeatLockPayload))
    (userId : Option String) (seat : Seat) : SeatView :=
  match mapGet busy seat.id with
  | some booked =>
      { id := seat.id
        seatNumber := seat.seatNumber
        status := if booked.status = .CONFIRMED then .BOOKED else .PENDING_PAYMENT
        mine := some booked.userId == userId }
  | none =>
      match mapGet locked seat.id with
      | some lock =>
          { id := seat.id
            seatNumber := seat.seatNumber
            status := if some lock.userId = userId then .LOCKED_BY_ME else .LOCKED
            mine := some lock.userId == userId }
      | none =>
          { id := seat.id
            seatNumber := seat.seatNumber
            status := .AVAILABLE
            mine := false }

def getSeatMap (tenantId tenantSlug eventId : String) (userId : Option String) :
    M SeatMap := do
  match ← await (.eventFindFirstWithSeats eventId tenantId) with
  | none => throw (.notFound "Event not found")
  | some (event, seats) => do
      let now ← await .dateNow
      let busySeatRows ← await
        (.bookingSeatFindMany (seats.map (·.id)) tenantId eventId now)
      let lockedSeats ← getLocksForEvent tenantSlug eventId
      return { event
               seats := seats.map (seatView (busySeatRows.map fun r => (r.seatId, r))
                 (lockedSeats.map fun l => (l.seatId, l)) userId) }

end Omnipax
