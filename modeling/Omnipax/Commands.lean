import Mathlib.Data.List.Perm.Subperm
import Omnipax.Conc.Rely
import Omnipax.Json
import Omnipax.Tables

/-!
# The atomic commands of the booking core

One command per awaited Redis, Prisma, Razorpay, BullMQ or QR call, plus
the synchronous reads of the clock and of random bytes and the emission of
a gateway message. `perform` says what a command does when the service
answers; `exec` adds that a call to a service may fail, before or after it
took effect, in which case the caller sees a rejected promise either way.
-/

namespace Omnipax

open Conc

/-! ## Configuration and oracles -/

/-- The text of the QR code: `JSON.stringify({ bookingId, tenantSlug,
ticketCode })`. -/
structure QrPayload where
  bookingId : String
  tenantSlug : String
  ticketCode : String
deriving Repr, DecidableEq

def QrPayload.stringify (p : QrPayload) : String :=
  String.ofList ("\x7b\"bookingId\":".toList ++ Json.quote p.bookingId ++
    ",\"tenantSlug\":".toList ++ Json.quote p.tenantSlug ++
    ",\"ticketCode\":".toList ++ Json.quote p.ticketCode ++ ['\x7d'])

theorem QrPayload.stringify_injective : Function.Injective QrPayload.stringify := by
  intro p q h
  have hlist := String.ofList_injective h
  simp only [List.append_assoc, List.append_cancel_left_eq] at hlist
  obtain ⟨hid, hlist⟩ := Json.quote_append_inj hlist
  obtain ⟨hslug, hlist⟩ := Json.quote_append_inj (List.append_cancel_left hlist)
  obtain ⟨hcode, -⟩ := Json.quote_append_inj (List.append_cancel_left hlist)
  cases p
  cases q
  simp_all

/-- What the booking core is given from outside: its configuration, and the library
functions it calls and whose results it stores or compares. -/
structure Platform where
  seatLockTtlSeconds : Int
  bookingTtlMinutes : Int
  razorpayWebhookSecret : String
  /-- `createHmac('sha256', secret).update(text).digest('hex')` -/
  hmacSha256Hex : String → String → String
  /-- `String.prototype.toUpperCase` -/
  toUpperCase : String → String
  /-- `QRCode.toDataURL` of the stringified payload -/
  toDataURL : QrPayload → String

/-- How a call to a service fails: without effect, or after taking effect
(the answer is lost). -/
inductive Fault where
  | before
  | after
deriving Repr, DecidableEq

/-- What the services and the random generators decide: whether the call
fails, the fresh string it draws, the order in which unordered rows come. -/
structure Oracle where
  fault : Option Fault := none
  fresh : String := ""
  order : List Nat := []
deriving Repr, DecidableEq

/-- Rows without `ORDER BY`, in the order `ns` encodes. -/
def shuffle {α : Type} : List Nat → List α → List α
  | n :: ns, a :: l => (shuffle ns l).insertIdx (min n (shuffle ns l).length) a
  | _, l => l

theorem shuffle_perm {α : Type} (ns : List Nat) (l : List α) : (shuffle ns l).Perm l := by
  induction l generalizing ns with
  | nil => cases ns <;> exact List.Perm.refl _
  | cons a l ih =>
      cases ns with
      | nil => exact List.Perm.refl _
      | cons n ns =>
          exact (List.perm_insertIdx a _ (Nat.min_le_right ..)).trans ((ih ns).cons a)

@[simp] theorem mem_shuffle {α : Type} {ns : List Nat} {l : List α} {a : α} :
    a ∈ shuffle ns l ↔ a ∈ l := (shuffle_perm ns l).mem_iff

@[simp] theorem shuffle_eq_nil {α : Type} {ns : List Nat} {l : List α} :
    shuffle ns l = [] ↔ l = [] :=
  ⟨fun h => List.Perm.nil_eq (h ▸ shuffle_perm ns l) |>.symm,
    fun h => List.perm_nil.mp (h ▸ shuffle_perm ns l)⟩

/-! ## Commands and their answers -/

/-- The arguments of `razorpay.orders.create`. -/
structure OrderRequest where
  amount : Int
  currency : String
  receipt : String
  tenantSlug : String
  eventId : String
  userId : String
deriving Repr, DecidableEq

structure Order where
  id : String
  amount : Int
  currency : String
deriving Repr, DecidableEq

/-- The data of `booking.create`. -/
structure BookingCreate where
  tenantId : String
  userId : String
  eventId : String
  status : BookingStatus
  amount : Int
  currency : String
  razorpayOrderId : String
  expiresAt : Time
  seatIds : List String
deriving Repr, DecidableEq

def BookingCreate.row (d : BookingCreate) (id : String) : Booking where
  id := id
  tenantId := d.tenantId
  userId := d.userId
  eventId := d.eventId
  status := d.status
  amount := d.amount
  currency := d.currency
  razorpayOrderId := some d.razorpayOrderId
  razorpayPaymentId := none
  razorpaySignature := none
  ticketCode := none
  ticketQrData := none
  expiresAt := d.expiresAt
  bookingSeats := d.seatIds

/-- The data of `paymentWebhookEvent.create`, with the payload's fields as
they came. -/
structure WebhookEventCreate where
  eventId : String
  eventType : Json
  paymentId : Option Json
  orderId : Option Json

/-- A `BookingSeat` row joined with its booking. -/
structure BookedSeat where
  seatId : String
  status : BookingStatus
  userId : String
deriving Repr, DecidableEq

/-- A booking joined with its tenant's slug. -/
structure BookingWithTenant where
  booking : Booking
  tenantSlug : String
deriving Repr, DecidableEq

/-- The columns of an event that a ticket shows. -/
structure EventInfo where
  id : String
  name : String
  startsAt : Time
deriving Repr, DecidableEq

/-- A booking as its owner sees it: what `getTicketByBookingId` selects. -/
structure OwnTicket where
  id : String
  status : BookingStatus
  ticketCode : Option String
  ticketQrData : Option String
  event : Option EventInfo
  seatNumbers : List Int
deriving Repr, DecidableEq

/-- A booking as the door sees it: what `verifyTicket` selects. -/
structure VerifiedTicket where
  id : String
  ticketCode : Option String
  event : Option EventInfo
  seatNumbers : List Int
deriving Repr, DecidableEq

inductive Cmd where
  | dateNow
  | randomUUID
  | randomBytesHex
  | emit (message : SeatUpdate)
  | redisSet (key : String) (value : SeatLockPayload) (px : Int)
  | redisGet (key : String)
  | redisDel (key : String)
  | redisPttl (key : String)
  | redisKeys (pattern : String)
  | redisMget (keys : List String)
  | eventFindFirst (id tenantId : String)
  | eventFindFirstWithSeats (id tenantId : String)
  | seatFindMany (ids : List String) (eventId : String)
  | bookingSeatFindMany (seatIds : List String) (tenantId eventId : String) (now : Time)
  | ordersCreate (request : OrderRequest)
  | bookingCreate (data : BookingCreate)
  | bookingFindUnique (id : String)
  | bookingFindUniqueByOrder (orderId : String)
  | bookingFindFirstOwn (id tenantId userId : String)
  | bookingFindFirstTicket (tenantId ticketCode : String)
  | bookingUpdate (id : String) (data : BookingUpdate)
  | webhookEventCreate (data : WebhookEventCreate)
  | toDataURL (payload : QrPayload)
  | seatLockExpiryAdd (data : SeatLockExpiryJobData) (delay : Int) (jobId : String)
  | bookingExpiryAdd (data : BookingExpiryJobData) (delay : Int) (jobId : String)

/-- What a service answers when it answers. -/
abbrev Cmd.Ret : Cmd → Type
  | .dateNow => Time
  | .randomUUID => String
  | .randomBytesHex => String
  | .emit _ => Unit
  | .redisSet .. => Bool
  | .redisGet _ => Option SeatLockPayload
  | .redisDel _ => Unit
  | .redisPttl _ => Int
  | .redisKeys _ => List String
  | .redisMget _ => List (Option SeatLockPayload)
  | .eventFindFirst .. => Option Event
  | .eventFindFirstWithSeats .. => Option (Event × List Seat)
  | .seatFindMany .. => List String
  | .bookingSeatFindMany .. => List BookedSeat
  | .ordersCreate _ => Order
  | .bookingCreate _ => Booking
  | .bookingFindUnique _ => Option BookingWithTenant
  | .bookingFindUniqueByOrder _ => Option BookingWithTenant
  | .bookingFindFirstOwn .. => Option OwnTicket
  | .bookingFindFirstTicket .. => Option VerifiedTicket
  | .bookingUpdate .. => BookingWithTenant
  | .webhookEventCreate _ => Unit
  | .toDataURL _ => String
  | .seatLockExpiryAdd .. => Unit
  | .bookingExpiryAdd .. => Unit

/-- The row an insert asks for. -/
def Cmd.create? : Cmd → Option BookingCreate
  | .bookingCreate d => some d
  | _ => none

/-- The row an update asks for, and what to write there. -/
def Cmd.update? : Cmd → Option (String × BookingUpdate)
  | .bookingUpdate id d => some (id, d)
  | _ => none

theorem Cmd.create?_eq_some {c : Cmd} {d : BookingCreate} :
    c.create? = some d ↔ c = .bookingCreate d := by
  cases c <;> simp [create?]

theorem Cmd.update?_eq_some {c : Cmd} {id : String} {d : BookingUpdate} :
    c.update? = some (id, d) ↔ c = .bookingUpdate id d := by
  cases c <;> simp [update?]

/-- Why a call to a service is rejected. -/
inductive StepError where
  | unavailable
  | redis (message : String)
  | prisma (code : String)
  | prismaValidation
deriving Repr, DecidableEq

abbrev sig : Sig := ⟨Cmd, fun c => Except StepError c.Ret⟩

/-- The exceptions of the services: HTTP exceptions with their messages, or
the error of a rejected call. -/
inductive Exn where
  | unauthorized (message : String)
  | forbidden (message : String)
  | notFound (message : String)
  | conflict (message : String)
  | step (e : StepError)
deriving Repr, DecidableEq

abbrev M := Prog sig Exn

/-- `await`: a rejected call throws. -/
def await (c : Cmd) : M c.Ret :=
  .call c fun
    | .ok a => .ret a
    | .error e => .err (.step e)

/-- A call whose rejection is looked at instead of thrown. -/
def settle (c : Cmd) : M (Except StepError c.Ret) :=
  .call c .ret

/-- The branches of a `Promise.all` run to their end; the first rejection
is then the rejection of the whole. -/
def allOf {α : Type} (l : List (Except StepError α)) : M Unit :=
  match l.findSome? fun | .ok _ => none | .error e => some e with
  | none => .ret ()
  | some e => .err (.step e)

/-! ## What the commands do -/

namespace Catalog

/-- The slug of a tenant. The foreign keys of the schema make the row exist
wherever this is used. -/
def tenantSlug (c : Catalog) (tenantId : String) : String :=
  ((c.tenants.find? (·.id == tenantId)).map (·.slug)).getD ""

def findEvent (c : Catalog) (id tenantId : String) : Option Event :=
  c.events.find? fun e => e.id == id && e.tenantId == tenantId

def seatsOf (c : Catalog) (eventId : String) : List Seat :=
  c.seats.filter (·.eventId == eventId)

/-- The event of a booking and the numbers of its seats. The foreign keys
make the rows exist. -/
def eventInfo (c : Catalog) (eventId : String) : Option EventInfo :=
  (c.events.find? (·.id == eventId)).map fun e => ⟨e.id, e.name, e.startsAt⟩

def seatNumbers (c : Catalog) (seatIds : List String) : List Int :=
  seatIds.filterMap fun s => (c.seats.find? (·.id == s)).map (·.seatNumber)

theorem findEvent_some {c : Catalog} {id tenantId : String}
    (h : (c.findEvent id tenantId).isSome = true) :
    ∃ e ∈ c.events, e.id = id ∧ e.tenantId = tenantId := by
  obtain ⟨e, he⟩ := Option.isSome_iff_exists.mp h
  exact ⟨e, List.mem_of_find?_eq_some he, by simpa using List.find?_some he⟩

theorem findEvent_of_mem {c : Catalog} {e : Event} (he : e ∈ c.events) :
    c.findEvent e.id e.tenantId = some e := by
  have hfound : (c.findEvent e.id e.tenantId).isSome = true := by
    rw [findEvent, List.find?_isSome]
    exact ⟨e, he, by simp⟩
  obtain ⟨e', he'⟩ := Option.isSome_iff_exists.mp hfound
  have hid := List.find?_some he'
  simp only [Bool.and_eq_true, beq_iff_eq] at hid
  rw [he', List.inj_on_of_nodup_map c.event_id_nodup (List.mem_of_find?_eq_some he') he hid.1]

theorem nodup_seatsOf (c : Catalog) (eventId : String) :
    ((c.seatsOf eventId).map (·.id)).Nodup :=
  c.seat_id_nodup.sublist (List.filter_sublist.map _)

/-- As many rows as ids: every id is the id of a seat of the event. -/
theorem seats_found_of_length {c : Catalog} {eventId : String} {ids : List String}
    (ns : List Nat)
    (h : (shuffle ns (((c.seatsOf eventId).map (·.id)).filter (ids.contains ·))).length
      = ids.length) {s : String} (hs : s ∈ ids) : ∃ seat ∈ c.seatsOf eventId, seat.id = s := by
  have hsub : ((c.seatsOf eventId).map (·.id)).filter (ids.contains ·) ⊆ ids :=
    fun x hx => by simpa using (List.mem_filter.mp hx).2
  have hperm := (((nodup_seatsOf c eventId).filter _).subperm hsub).perm_of_length_le
    (by rw [← h, (shuffle_perm ns _).length_eq])
  have hmem := (List.mem_filter.mp (hperm.mem_iff.mpr hs)).1
  simpa using hmem

end Catalog

namespace World

/-- `bookingSeat.findMany` with the admission check's `where` clause. -/
def bookedSeats (w : World) (seatIds : List String) (tenantId eventId : String)
    (now : Time) : List BookedSeat :=
  (w.bookings.rows.filter fun b =>
      b.tenantId == tenantId && b.eventId == eventId && b.activeAt now).flatMap fun b =>
    (b.bookingSeats.filter (seatIds.contains ·)).map fun s => ⟨s, b.status, b.userId⟩

theorem mem_bookedSeats {w : World} {seatIds : List String} {tenantId eventId : String}
    {now : Time} {x : BookedSeat} :
    x ∈ w.bookedSeats seatIds tenantId eventId now ↔
      ∃ b ∈ w.bookings.rows, (b.tenantId = tenantId ∧ b.eventId = eventId ∧
        b.activeAt now = true) ∧
        ∃ s ∈ b.bookingSeats, s ∈ seatIds ∧ x = ⟨s, b.status, b.userId⟩ := by
  simp only [bookedSeats, List.mem_flatMap, List.mem_filter, Bool.and_eq_true, beq_iff_eq,
    List.mem_map, List.contains_iff_mem, and_assoc]
  constructor
  · rintro ⟨b, hb, ht, he, hact, s, hs, hmem, rfl⟩
    exact ⟨b, hb, ht, he, hact, s, hs, hmem, rfl⟩
  · rintro ⟨b, hb, ht, he, hact, s, hs, hmem, rfl⟩
    exact ⟨b, hb, ht, he, hact, s, hs, hmem, rfl⟩

def withTenant (w : World) (b : Booking) : BookingWithTenant :=
  ⟨b, w.catalog.tenantSlug b.tenantId⟩

def ownTicket (w : World) (b : Booking) : OwnTicket where
  id := b.id
  status := b.status
  ticketCode := b.ticketCode
  ticketQrData := b.ticketQrData
  event := w.catalog.eventInfo b.eventId
  seatNumbers := w.catalog.seatNumbers b.bookingSeats

def verifiedTicket (w : World) (b : Booking) : VerifiedTicket where
  id := b.id
  ticketCode := b.ticketCode
  event := w.catalog.eventInfo b.eventId
  seatNumbers := w.catalog.seatNumbers b.bookingSeats

/-- The bookings of `verifyTicket`'s `where` clause. -/
def ticketHolders (w : World) (tenantId ticketCode : String) : List Booking :=
  w.bookings.rows.filter fun b =>
    b.tenantId == tenantId && b.ticketCode == some ticketCode && b.status == .CONFIRMED

theorem mem_ticketHolders {w : World} {tenantId ticketCode : String} {b : Booking} :
    b ∈ w.ticketHolders tenantId ticketCode ↔ b ∈ w.bookings.rows ∧ b.tenantId = tenantId ∧
      b.ticketCode = some ticketCode ∧ b.status = .CONFIRMED := by
  simp only [ticketHolders, List.mem_filter, Bool.and_eq_true, beq_iff_eq, and_assoc]

def matchingKeys (w : World) (pattern : String) : List String :=
  w.locks.keys.filter fun k => (w.liveLock k).isSome && globMatch pattern k

end World

/-- The effect and the answer of a command when the service is up. -/
def perform (P : Platform) (o : Oracle) (w : World) :
    (c : Cmd) → Except StepError c.Ret × World
  | .dateNow => (.ok w.clock, w)
  | .randomUUID => (.ok o.fresh, w)
  | .randomBytesHex => (.ok o.fresh, w)
  | .emit m => (.ok (), { w with messages := w.messages ++ [m] })
  | .redisSet key value px =>
      if px ≤ 0 then (.error (.redis "ERR invalid expire time in 'set' command"), w)
      else if (w.liveLock key).isSome then (.ok false, w)
      else (.ok true, { w with locks := w.locks.insert key ⟨value, w.clock + px⟩ })
  | .redisGet key => (.ok ((w.liveLock key).map (·.value)), w)
  | .redisDel key => (.ok (), { w with locks := w.locks.erase key })
  | .redisPttl key =>
      (.ok (match w.liveLock key with
        | some e => e.expireAt - w.clock
        | none => -2), w)
  | .redisKeys pattern => (.ok (shuffle o.order (w.matchingKeys pattern)), w)
  | .redisMget keys => (.ok (keys.map fun k => (w.liveLock k).map (·.value)), w)
  | .eventFindFirst id tenantId => (.ok (w.catalog.findEvent id tenantId), w)
  | .eventFindFirstWithSeats id tenantId =>
      (.ok ((w.catalog.findEvent id tenantId).map fun e =>
        (e, (w.catalog.seatsOf id).mergeSort fun a b => a.seatNumber ≤ b.seatNumber)), w)
  | .seatFindMany ids eventId =>
      (.ok (shuffle o.order
        (((w.catalog.seatsOf eventId).map (·.id)).filter (ids.contains ·))), w)
  | .bookingSeatFindMany seatIds tenantId eventId now =>
      (.ok (shuffle o.order (w.bookedSeats seatIds tenantId eventId now)), w)
  | .ordersCreate r => (.ok ⟨o.fresh, r.amount, r.currency⟩, w)
  | .bookingCreate d =>
      match w.bookings.create (d.row o.fresh) with
      | some t => (.ok (d.row o.fresh), { w with bookings := t })
      | none => (.error (.prisma (if int4 d.amount then "P2002" else "P2020")), w)
  | .bookingFindUnique id => (.ok ((w.bookings.find? id).map w.withTenant), w)
  | .bookingFindUniqueByOrder orderId =>
      (.ok ((w.bookings.findByOrder? orderId).map w.withTenant), w)
  | .bookingFindFirstOwn id tenantId userId =>
      (.ok ((w.bookings.rows.find? fun b =>
        b.id == id && b.tenantId == tenantId && b.userId == userId).map w.ownTicket), w)
  | .bookingFindFirstTicket tenantId ticketCode =>
      (.ok ((shuffle o.order (w.ticketHolders tenantId ticketCode)).head?.map
        w.verifiedTicket), w)
  | .bookingUpdate id d =>
      match w.bookings.find? id with
      | none => (.error (.prisma "P2025"), w)
      | some b =>
          match w.bookings.update id d with
          | some t => (.ok (w.withTenant (d.apply b)), { w with bookings := t })
          | none => (.error (.prisma "P2002"), w)
  | .webhookEventCreate d =>
      match Json.str? (some d.eventType), Json.column? d.paymentId, Json.column? d.orderId with
      | some eventType, some paymentId, some orderId =>
          if w.webhookEvents.any (·.eventId == d.eventId) then
            (.error (.prisma "P2002"), w)
          else
            (.ok (), { w with
              webhookEvents := w.webhookEvents ++ [⟨d.eventId, eventType, paymentId, orderId⟩] })
      | _, _, _ => (.error .prismaValidation, w)
  | .toDataURL p => (.ok (P.toDataURL p), w)
  | .seatLockExpiryAdd data delay jobId =>
      (.ok (), { w with
        seatLockExpiryQueue := w.seatLockExpiryQueue ++ [⟨data, w.clock + delay, jobId⟩] })
  | .bookingExpiryAdd data delay jobId =>
      (.ok (), { w with
        bookingExpiryQueue := w.bookingExpiryQueue ++ [⟨data, w.clock + delay, jobId⟩] })

/-- The clock, the random generators and the gateway are in the process and
do not fail. -/
def Cmd.isLocal : Cmd → Bool
  | .dateNow => true
  | .randomUUID => true
  | .randomBytesHex => true
  | .emit _ => true
  | _ => false

def exec (P : Platform) (c : Cmd) (o : Oracle) (w : World) :
    Except StepError c.Ret × World :=
  match (if c.isLocal then none else o.fault) with
  | none => perform P o w c
  | some .before => (.error .unavailable, w)
  | some .after => (.error .unavailable, (perform P o w c).2)

def machine (P : Platform) : Machine sig World Oracle := ⟨exec P⟩

/-- The two effects a command can have: its own, or none. -/
theorem exec_state (P : Platform) (c : Cmd) (o : Oracle) (w : World) :
    (exec P c o w).2 = (perform P o w c).2 ∨ (exec P c o w).2 = w := by
  unfold exec
  split
  · exact Or.inl rfl
  · exact Or.inr rfl
  · exact Or.inl rfl

theorem perform_of_exec_ok {P : Platform} {c : Cmd} {o : Oracle} {w : World} {a : c.Ret}
    (h : (exec P c o w).1 = .ok a) : exec P c o w = perform P o w c := by
  unfold exec at h ⊢
  split at h
  · simp_all
  · cases h
  · cases h

/-- A call that fails before it reaches its service changes nothing. -/
theorem exec_before {P : Platform} {c : Cmd} {o : Oracle} {w : World}
    (h : o.fault = some .before) (hc : c.isLocal = false) :
    exec P c o w = (.error .unavailable, w) := by
  simp [exec, h, hc]

theorem exec_after {P : Platform} {c : Cmd} {o : Oracle} {w : World}
    (h : o.fault = some .after) (hc : c.isLocal = false) :
    exec P c o w = (.error .unavailable, (perform P o w c).2) := by
  simp [exec, h, hc]

theorem exec_of_up {P : Platform} {c : Cmd} {o : Oracle} {w : World}
    (h : c.isLocal = true ∨ o.fault = none) : exec P c o w = perform P o w c := by
  unfold exec
  rcases h with h | h <;> simp [h]

end Omnipax
