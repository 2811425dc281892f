import Omnipax.Serial

/-!
# A sample platform

One tenant, one event with two seats, and a configuration whose library
functions take on the inputs used here the values the real ones take: the
signatures are the HMAC-SHA256 of the bodies under the sample secret. The
races and failures of the later modules are shown on it.
-/

namespace Omnipax.Sample

def catalog : Catalog where
  tenants := [⟨"t1", "acme"⟩]
  events := [⟨"e1", "t1", "Opening night", 1000000000⟩]
  seats := [⟨"s1", "e1", 1⟩, ⟨"s2", "e1", 2⟩]

/-! ## Webhook bodies -/

/-- The body Razorpay sends for an event about a payment of an order. -/
def body (event paymentId orderId status : String) : String :=
  "\x7b\"event\":\"" ++ event ++ "\",\"payload\":\x7b\"payment\":\x7b\"entity\":\x7b\"id\":\""
    ++ paymentId ++ "\",\"order_id\":\"" ++ orderId ++ "\",\"status\":\"" ++ status
    ++ "\"\x7d\x7d\x7d\x7d"

def payload (event paymentId orderId status : String) : JsonObject :=
  [("event", .str event),
    ("payload", .obj [("payment", .obj [("entity", .obj
      [("id", .str paymentId), ("order_id", .str orderId), ("status", .str status)])])])]

/-- HMAC-SHA256 under the secret `whsec`, on the bodies in use. -/
def hmacSha256Hex (secret text : String) : String :=
  if secret = "whsec" then
    if text = body "payment.captured" "pay_1" "order_1" "captured" then
      "98a2ec58dddd6e17e672df420d01a4d4f2332c573153919acbebfdd0d0a1f377"
    else if text = body "payment.captured" "pay_2" "order_1" "captured" then
      "17d80f559e50d77ede4c6befde83d8ac3b7beeacf248315db65a80bf8f750249"
    else if text = body "payment.captured" "pay_2" "order_2" "captured" then
      "570a93d193f5aca85ffcae17efe075a415a28a64364ef3398511483c96a787d2"
    else if text = body "payment.failed" "pay_1" "order_1" "failed" then
      "520e8b194df8fabbcbd5731bfa3edcfa2908d4e8dbdde039e7d9d562fc45a178"
    else ""
  else ""

def platform : Platform where
  seatLockTtlSeconds := 300
  bookingTtlMinutes := 10
  razorpayWebhookSecret := "whsec"
  hmacSha256Hex := hmacSha256Hex
  toUpperCase s := String.ofList (s.toList.map Char.toUpper)
  toDataURL p := "data:image/png;base64," ++ p.ticketCode

/-- The signed request that delivers an event under an event id. -/
def request (eventId event paymentId orderId status : String) : WebhookRequest where
  rawBody := body event paymentId orderId status
  signature := hmacSha256Hex "whsec" (body event paymentId orderId status)
  eventIdHeader := some eventId
  payload := payload event paymentId orderId status

def world : World := World.init 0 catalog

def tenant : TenantContext := ⟨"t1", "acme"⟩

/-- A request for the first seat. -/
def dto : InitiateBookingDto := { eventId := "e1", seatIds := ["s1"], amount := 50000 }

/-! ## Runs -/

/-- Call `i` executes `n` commands; whatever they draw is `fresh`. -/
def steps (i n : Nat) (fresh : String) : List LiveLabel :=
  List.replicate n (.step i { fresh })

/-- A turn at time `t`, answered without faults; command `n` draws
`fresh n`. -/
def turn (t : Time) (op : Op) (fresh : Nat → String) : LiveTurn where
  env := t
  op := op
  oracles n := { fresh := fresh n }

/-- User `u` locks the first seat and books it under an order, as of `t`. -/
def lockAndBook (t : Time) (u token orderId bookingId : String) : List LiveTurn :=
  [turn t (.lockSeat "acme" "e1" "s1" u) fun _ => token,
    turn t (.initiateBooking tenant u dto) fun n => if n = 7 then orderId else bookingId]

def pay (t : Time) (eventId paymentId orderId salt : String) : LiveTurn :=
  turn t (.processPaymentWebhook
    (request eventId "payment.captured" paymentId orderId "captured")) fun _ => salt

/-- The first seat booked by `u1` under `order_1`, until 600000. -/
def booked : World := serial platform world (lockAndBook 0 "u1" "tok_1" "order_1" "b1")

/-- The captured payment of `order_1`. -/
def captured (eventId paymentId : String) : Op :=
  .processPaymentWebhook (request eventId "payment.captured" paymentId "order_1" "captured")

/-- The booking in `booked`. -/
def booking : Booking where
  id := "b1"
  tenantId := "t1"
  userId := "u1"
  eventId := "e1"
  status := .PENDING
  amount := 50000
  currency := "INR"
  razorpayOrderId := some "order_1"
  razorpayPaymentId := none
  razorpaySignature := none
  ticketCode := none
  ticketQrData := none
  expiresAt := 600000
  bookingSeats := ["s1"]

/-- The captured payment of `order_1`, delivered under one event id. -/
def capturedRequest : WebhookRequest :=
  request "evt_1" "payment.captured" "pay_1" "order_1" "captured"

end Omnipax.Sample
