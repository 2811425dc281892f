import Omnipax.Serial

/-!
# Webhook deliveries

`processPaymentWebhook` taken apart by the request: an unsigned request
throws at once, a signed one whose payload names no order and payment
never looks at a booking, and every other one inserts its event row, looks
the order up and - for a PENDING booking - draws a ticket, encodes it and
updates the row. The last kind is followed command by command through an
atomic run, under whatever faults the services produce.
-/

namespace Omnipax

open Conc Prog

namespace WebhookRequest

/-- The request passes the signature check. -/
def signed (P : Platform) (r : WebhookRequest) : Bool :=
  r.rawBody != "" && r.signature != "" && verifyWebhookSignature P r.rawBody r.signature

/-- The order and the payment the payload names, both non-empty strings. -/
def refs? (r : WebhookRequest) : Option (String × String) :=
  match Json.str? r.orderId, Json.str? r.paymentId with
  | some orderId, some paymentId =>
      if orderId = "" ∨ paymentId = "" then none else some (orderId, paymentId)
  | _, _ => none

/-- The event id of a delivery that names a payment. -/
def rowId (r : WebhookRequest) (paymentId : String) : String :=
  match r.eventIdHeader with
  | some h => if h = "" then templateText r.eventType ++ ":" ++ paymentId else h
  | none => templateText r.eventType ++ ":" ++ paymentId

theorem refs?_eq_some {r : WebhookRequest} {orderId paymentId : String} :
    r.refs? = some (orderId, paymentId) ↔ r.orderId = some (.str orderId) ∧
      r.paymentId = some (.str paymentId) ∧ orderId ≠ "" ∧ paymentId ≠ "" := by
  unfold refs?
  constructor
  · intro h
    split at h
    · rename_i o p ho hp
      split at h
      · cases h
      · rename_i hne
        obtain ⟨rfl, rfl⟩ := Prod.mk.injEq .. |>.mp (Option.some.inj h)
        exact ⟨Json.str?_eq_some.mp ho, Json.str?_eq_some.mp hp, fun h => hne (Or.inl h),
          fun h => hne (Or.inr h)⟩
    · cases h
  · rintro ⟨ho, hp, hone, hpne⟩
    rw [ho, hp]
    simp [Json.str?, hone, hpne]

end WebhookRequest

/-! ## The three kinds of requests -/

/-- The commands of a delivery before its update. -/
def Cmd.ofLookup : Cmd → Bool
  | .randomBytesHex => true
  | .webhookEventCreate _ => true
  | .bookingFindUniqueByOrder _ => true
  | .toDataURL _ => true
  | _ => false

theorem Cmd.writesBookings_of_ofLookup {c : Cmd} (h : c.ofLookup = true) :
    c.writesBookings = false := by
  cases c <;> first | rfl | cases h

section Kinds

variable {P : Platform} {r : WebhookRequest}

theorem all_webhookEventId : (webhookEventId r).All (Cmd.ofLookup · = true) := by
  have hrandom : (webhookEventId.random r).All (Cmd.ofLookup · = true) :=
    .bind (all_await rfl) fun _ => trivial
  have hfallback : (webhookEventId.fallback r).All (Cmd.ofLookup · = true) := by
    unfold webhookEventId.fallback
    split
    · split
      · trivial
      · exact hrandom
    · exact hrandom
  unfold webhookEventId
  split
  · split
    · exact hfallback
    · trivial
  · exact hfallback

theorem processPaymentWebhook_of_unsigned (h : r.signed P = false) :
    ∃ e, processPaymentWebhook P r = .err e := by
  unfold processPaymentWebhook
  cases h1 : r.rawBody == "" || r.signature == "" with
  | true => exact ⟨_, rfl⟩
  | false =>
      cases h2 : verifyWebhookSignature P r.rawBody r.signature with
      | false => exact ⟨_, rfl⟩
      | true =>
          simp only [Bool.or_eq_false_iff] at h1
          simp [WebhookRequest.signed, bne, h1, h2] at h

theorem processPaymentWebhook_of_signed (h : r.signed P = true) :
    processPaymentWebhook P r = webhookEventId r >>= processEvent P r := by
  simp only [WebhookRequest.signed, Bool.and_eq_true, bne, Bool.not_eq_true'] at h
  unfold processPaymentWebhook
  simp [h]

theorem webhookEventId_of_refs {orderId paymentId : String}
    (h : r.refs? = some (orderId, paymentId)) :
    webhookEventId r = .ret (r.rowId paymentId) := by
  obtain ⟨-, hp, -, hne⟩ := WebhookRequest.refs?_eq_some.mp h
  have hfallback : webhookEventId.fallback r
      = .ret (templateText r.eventType ++ ":" ++ paymentId) := by
    simp [webhookEventId.fallback, hp, Json.truthy_str, hne, templateText]
  unfold webhookEventId WebhookRequest.rowId
  cases r.eventIdHeader with
  | none => exact hfallback
  | some h =>
      dsimp only
      split
      · exact hfallback
      · rfl

theorem confirmOrder_of_refs {orderId paymentId : String}
    (h : r.refs? = some (orderId, paymentId)) :
    confirmOrder P r = (do
      match ← await (.bookingFindUniqueByOrder orderId) with
      | none => return .booking_not_found
      | some found => confirmPending P r.signature paymentId found) := by
  obtain ⟨ho, hp, hone, hpne⟩ := WebhookRequest.refs?_eq_some.mp h
  unfold confirmOrder
  rw [ho, hp, if_neg (by simp [Json.truthy_str, hone, hpne])]
  rfl

/-- Without an order and a payment no booking is looked at. -/
theorem confirmOrder_of_no_refs (h : r.refs? = none) :
    confirmOrder P r = .ret .ignored ∨ confirmOrder P r = .err (.step .prismaValidation) := by
  unfold confirmOrder
  split
  · exact Or.inl rfl
  · rename_i htruthy
    split
    · rename_i o p ho hp
      rw [Json.str?_eq_some] at ho hp
      exfalso
      simp_all [WebhookRequest.refs?, Json.truthy_str, Json.str?]
    · exact Or.inr rfl

theorem confirmPending_of_not_pending {signature paymentId : String} {found : BookingWithTenant}
    (h : found.booking.status ≠ .PENDING) :
    confirmPending P signature paymentId found
      = .ret (if found.booking.status = .CONFIRMED then .already_confirmed else .not_pending) := by
  unfold confirmPending
  dsimp only
  split
  · rfl
  · rfl

theorem confirmPending_of_pending {signature paymentId : String} {found : BookingWithTenant}
    (h : found.booking.status = .PENDING) :
    confirmPending P signature paymentId found = (do
      let salt ← await .randomBytesHex
      let ticketCode := "OMX-" ++ P.toUpperCase salt
      let ticketQrData ← await (.toDataURL
        { bookingId := found.booking.id, tenantSlug := found.tenantSlug, ticketCode })
      let updated ← await (.bookingUpdate found.booking.id
        { status := .CONFIRMED
          razorpayPaymentId := some paymentId
          razorpaySignature := some signature
          ticketCode := some ticketCode
          ticketQrData := some ticketQrData })
      await (.emit (.BOOKING_CONFIRMED updated.tenantSlug updated.booking.eventId
        updated.booking.bookingSeats))
      return .confirmed) := by
  unfold confirmPending
  dsimp only
  rw [if_neg (by simp [h]), if_neg (by simp [h]), generateTicketCode, bind_assoc]
  rfl

theorem all_confirmPending {Pc : Cmd → Prop} {signature paymentId : String}
    {found : BookingWithTenant} (hsalt : Pc .randomBytesHex) (hqr : ∀ p, Pc (.toDataURL p))
    (hupdate : ∀ d : BookingUpdate, d.status = .CONFIRMED → Pc (.bookingUpdate found.booking.id d))
    (hemit : ∀ m, Pc (.emit m)) :
    (confirmPending P signature paymentId found).All Pc := by
  by_cases h : found.booking.status = .PENDING
  · rw [confirmPending_of_pending h]
    exact .bind (all_await hsalt) fun _ => .bind (all_await (hqr _)) fun _ =>
      .bind (all_await (hupdate _ rfl)) fun _ => .bind (all_await (hemit _)) fun _ => trivial
  · rw [confirmPending_of_not_pending h]
    trivial

theorem all_confirmOrder : (confirmOrder P r).All (Cmd.writesWebhookEvents · = false) := by
  cases hrefs : r.refs? with
  | none =>
      rcases confirmOrder_of_no_refs (P := P) hrefs with h | h <;> rw [h] <;> trivial
  | some x =>
      rw [confirmOrder_of_refs hrefs]
      refine .bind (all_await rfl) fun found => ?_
      cases found with
      | none => trivial
      | some found =>
          exact all_confirmPending rfl (fun _ => rfl) (fun _ _ => rfl) fun _ => rfl

end Kinds

/-! ## A delivery about a PENDING booking -/

/-- What a delivery writes into the booking it confirms. -/
def confirmUpdate (P : Platform) (r : WebhookRequest) (paymentId : String)
    (found : BookingWithTenant) (salt : String) : BookingUpdate :=
  let ticketCode := "OMX-" ++ P.toUpperCase salt
  { status := .CONFIRMED
    razorpayPaymentId := some paymentId
    razorpaySignature := some r.signature
    ticketCode := some ticketCode
    ticketQrData := some (P.toDataURL
      { bookingId := found.booking.id, tenantSlug := found.tenantSlug, ticketCode }) }

/-- The services let a delivery get to its update: the insert of the event
row, the lookup and the QR encoding are answered, and the update reaches
the database. (Command 2 draws the ticket code, in the process.) -/
structure LetThrough (os : Nat → Oracle) : Prop where
  insert : (os 0).fault = none
  lookup : (os 1).fault = none
  encode : (os 3).fault = none
  update : (os 4).fault ≠ some .before

instance : DecidablePred LetThrough := fun os =>
  decidable_of_iff ((os 0).fault = none ∧ (os 1).fault = none ∧ (os 3).fault = none ∧
    (os 4).fault ≠ some .before) ⟨fun ⟨a, b, c, d⟩ => ⟨a, b, c, d⟩, fun ⟨a, b, c, d⟩ => ⟨a, b, c, d⟩⟩

/-- The row of this event id is in the table. -/
def World.recorded (w : World) (eventId : String) : Bool :=
  w.webhookEvents.any (·.eventId == eventId)

/-- The request is signed, names an order and a payment, and its event type
fits its column. -/
structure Carries (P : Platform) (r : WebhookRequest) (orderId paymentId : String) : Prop where
  signed : r.signed P = true
  eventType : ∃ s, r.eventType = .str s
  refs : r.refs? = some (orderId, paymentId)

/-- Such a request whose order is the one of the PENDING booking `b`. -/
structure Concerns (P : Platform) (w : World) (r : WebhookRequest) (orderId paymentId : String)
    (b : Booking) : Prop extends Carries P r orderId paymentId where
  found : w.bookings.findByOrder? orderId = some b
  pending : b.status = .PENDING

/-- The booking a signed delivery of a new event names by its order. -/
def World.addressee (P : Platform) (w : World) (r : WebhookRequest) : Option Booking :=
  match r.refs? with
  | some (orderId, paymentId) =>
      if r.signed P && !w.recorded (r.rowId paymentId) then w.bookings.findByOrder? orderId
      else none
  | none => none

theorem Concerns.addressee {P : Platform} {w : World} {r : WebhookRequest}
    {orderId paymentId : String} {b : Booking} (h : Concerns P w r orderId paymentId b)
    (hnew : w.recorded (r.rowId paymentId) = false) : w.addressee P r = some b := by
  simp [World.addressee, h.refs, h.signed, hnew, h.found]

section Delivery

variable {P : Platform} {w : World} {r : WebhookRequest} {orderId paymentId : String}
  {b : Booking} {os : Nat → Oracle}

/-- What a delivery does to the table: its update when that gets through
and breaks no unique index, else nothing, and then it throws. -/
structure Settles (P : Platform) (w : World) (id : String) (d : BookingUpdate)
    (through : Prop) (out : Outcome World Exn WebhookStatus) : Prop where
  applied : through → ∀ t, w.bookings.update id d = some t → out.state.bookings = t
  refused : (through → w.bookings.update id d = none) →
    out.state.bookings = w.bookings ∧ ∃ e, out.result = .error e

theorem perform_update {o : Oracle} {id : String} {d : BookingUpdate}
    (hb : w.bookings.find? id = some b) :
    perform P o w (.bookingUpdate id d) =
      match w.bookings.update id d with
      | some t => (.ok (w.withTenant (d.apply b)), { w with bookings := t })
      | none => (.error (.prisma "P2002"), w) := by
  cases h : w.bookings.update id d <;> simp [perform, hb, h]

theorem Settles.of_failed {through : Prop} {id : String} {d : BookingUpdate} {e : Exn}
    {n : Nat} {w' : World} (h : ¬through) (hw : w'.bookings = w.bookings) :
    Settles P w id d through ⟨.error e, n, w'⟩ where
  applied ht := absurd ht h
  refused _ := ⟨hw, e, rfl⟩

variable (os)

theorem run_update {id : String} {d : BookingUpdate} {n : Nat}
    {f : BookingWithTenant → M WebhookStatus} (hb : w.bookings.find? id = some b)
    (hf : ∀ u, (f u).All (Cmd.writesBookings · = false)) :
    Settles P w id d ((os n).fault ≠ some .before)
      ((await (.bookingUpdate id d) >>= f).run (machine P) os n w) := by
  have hperf := perform_update (P := P) (o := os n) (d := d) hb
  rw [run_await (.bookingUpdate id d) f]
  cases hupd : w.bookings.update id d with
  | none =>
      -- refused by an index: an error whichever way the call goes
      rw [hupd] at hperf
      refine ⟨fun _ t ht => (by rw [hupd] at ht; cases ht), fun _ => ?_⟩
      rcases hfault : (os n).fault with _ | _ | _ <;>
        simp [exec, Cmd.isLocal, hfault, hperf]
  | some t =>
      rw [hupd] at hperf
      by_cases hreach : (os n).fault = some .before
      · rw [exec_before hreach rfl]
        exact Settles.of_failed (fun h => h hreach) rfl
      -- accepted: it takes effect, whether the answer is lost or not
      refine ⟨fun _ t' ht' => ?_, fun h => by rw [h hreach] at hupd; cases hupd⟩
      obtain rfl : t = t' := Option.some.inj (hupd.symm.trans ht')
      rcases hfault : (os n).fault with _ | _ | _
      · rw [exec_of_up (.inr hfault), hperf]
        exact run_frame World.bookings (fun c hc o w => exec_bookings P o w hc) (hf _) ..
      · exact absurd hfault hreach
      · rw [exec_after hfault rfl, hperf]

/-- From the booking found on: commands 2 to 5 draw the ticket code, encode
it, update the row and emit. -/
theorem run_confirmPending (hb : b ∈ w.bookings.rows) (hp : b.status = .PENDING) :
    Settles P w b.id (confirmUpdate P r paymentId (w.withTenant b) (os 2).fresh)
      ((os 3).fault = none ∧ (os 4).fault ≠ some .before)
      ((confirmPending P r.signature paymentId (w.withTenant b)).run (machine P) os 2 w) := by
  rw [confirmPending_of_pending hp, run_await_ok (.inl rfl) rfl]
  by_cases hqr : (os 3).fault = none
  · rw [run_await_ok (.inr hqr) rfl]
    have := run_update os (n := 4) (P := P)
      (d := confirmUpdate P r paymentId (w.withTenant b) (os 2).fresh)
      (BookingTable.find?_of_mem hb)
      (f := fun updated => do
        await (.emit (.BOOKING_CONFIRMED updated.tenantSlug updated.booking.eventId
          updated.booking.bookingSeats))
        return .confirmed) fun _ => .bind (all_await rfl) fun _ => trivial
    exact ⟨fun h => this.applied h.2, fun h => this.refused fun h4 => h ⟨hqr, h4⟩⟩
  · rw [run_await_fault _ rfl hqr, exec_readOnly P _ w rfl]
    exact Settles.of_failed (fun h => hqr h.1) rfl

/-- The event row a delivery inserts. -/
def eventRow (r : WebhookRequest) (paymentId : String) : WebhookEventCreate where
  eventId := r.rowId paymentId
  eventType := r.eventType
  paymentId := r.paymentId
  orderId := r.orderId

/-- A delivery inserts its row first, and goes on as the insert went. -/
theorem Carries.run_eq (h : Carries P r orderId paymentId) :
    (processPaymentWebhook P r).run (machine P) os 0 w =
      match exec P (.webhookEventCreate (eventRow r paymentId)) (os 0) w with
      | (.ok _, w') => (confirmOrder P r).run (machine P) os 1 w'
      | (.error (.prisma "P2002"), w') => ⟨.ok .duplicate, 1, w'⟩
      | (.error e, w') => ⟨.error (.step e), 1, w'⟩ := by
  rw [processPaymentWebhook_of_signed h.signed, webhookEventId_of_refs h.refs, ret_bind]
  have hexec : ∀ c o w, (machine P).exec c o w = exec P c o w := fun _ _ _ => rfl
  simp only [processEvent, settle, call_bind, run_call, ret_bind, hexec]
  rw [eventRow]
  generalize exec P _ (os 0) w = x
  obtain ⟨e | _, w'⟩ := x
  · dsimp only
    split <;> simp_all
  · rfl

/-- The insert of the event row is refused when the event id is there. -/
theorem Carries.perform_insert (h : Carries P r orderId paymentId) (o : Oracle) :
    if w.recorded (r.rowId paymentId) = true then
      perform P o w (.webhookEventCreate (eventRow r paymentId)) = (.error (.prisma "P2002"), w)
    else ∃ row : PaymentWebhookEvent, row.eventId = r.rowId paymentId ∧
      perform P o w (.webhookEventCreate (eventRow r paymentId))
        = (.ok (), { w with webhookEvents := w.webhookEvents ++ [row] }) := by
  obtain ⟨eventType, het⟩ := h.eventType
  obtain ⟨ho, hp, -, -⟩ := WebhookRequest.refs?_eq_some.mp h.refs
  simp only [perform, eventRow, het, ho, hp, Json.str?, Json.column?, World.recorded]
  split
  · rfl
  · exact ⟨_, rfl, rfl⟩

/-- A delivery whose event row is not inserted: lost before the database,
or there already. Nothing changes, and only a duplicate is answered. -/
theorem run_delivery_rejected (h : Carries P r orderId paymentId)
    (hrej : (os 0).fault = some .before ∨ w.recorded (r.rowId paymentId) = true) :
    let out := (processPaymentWebhook P r).run (machine P) os 0 w
    out.state = w ∧
      if (os 0).fault = none then out.result = .ok .duplicate else ∃ e, out.result = .error e := by
  have hins := h.perform_insert (w := w) (os 0)
  intro out
  have hout : out = _ := h.run_eq os
  rcases hfault : (os 0).fault with _ | _ | _
  · have hrec := hrej.resolve_left (by simp [hfault])
    rw [if_pos hrec] at hins
    rw [hout, exec_of_up (.inr hfault), hins]
    exact ⟨rfl, rfl⟩
  · rw [hout, exec_before hfault rfl]
    exact ⟨rfl, _, rfl⟩
  · have hrec := hrej.resolve_left (by simp [hfault])
    rw [if_pos hrec] at hins
    rw [hout, exec_after hfault rfl, hins]
    exact ⟨rfl, _, rfl⟩

/-- A new event whose insert reaches the database is recorded from then on. -/
theorem run_delivery_recorded (h : Carries P r orderId paymentId)
    (hreach : (os 0).fault ≠ some .before) :
    ((processPaymentWebhook P r).run (machine P) os 0 w).state.recorded (r.rowId paymentId)
      = true := by
  have hins := h.perform_insert (w := w) (os 0)
  have hrec : (perform P (os 0) w (.webhookEventCreate (eventRow r paymentId))).2.recorded
      (r.rowId paymentId) = true := by
    split at hins
    · rw [hins]
      assumption
    · obtain ⟨row, hid, hins⟩ := hins
      rw [hins]
      simp [World.recorded, hid]
  rw [h.run_eq os]
  rcases hfault : (os 0).fault with _ | _ | _
  · rw [exec_of_up (.inr hfault)]
    split
    · rename_i w' hperf
      rw [hperf] at hrec
      rw [World.recorded, run_frame World.webhookEvents
        (fun c hc o w => exec_webhookEvents P o w hc) (all_confirmOrder ..)]
      exact hrec
    · rename_i w' hperf
      rw [hperf] at hrec
      exact hrec
    · rename_i w' _ hperf
      rw [hperf] at hrec
      exact hrec
  · exact absurd hfault hreach
  · rw [exec_after hfault rfl]
    exact hrec

theorem run_delivery (h : Concerns P w r orderId paymentId b)
    (hnew : w.recorded (r.rowId paymentId) = false) :
    Settles P w b.id (confirmUpdate P r paymentId (w.withTenant b) (os 2).fresh)
      (LetThrough os) ((processPaymentWebhook P r).run (machine P) os 0 w) := by
  have hins := h.perform_insert (w := w) (os 0)
  rw [if_neg (by simp [hnew])] at hins
  obtain ⟨row, -, hins⟩ := hins
  rw [h.run_eq os]
  rcases hfault : (os 0).fault with _ | _ | _
  · rw [exec_of_up (.inr hfault), hins]
    show Settles _ _ _ _ _ ((confirmOrder P r).run (machine P) os 1 _)
    rw [confirmOrder_of_refs h.refs]
    by_cases hlook : (os 1).fault = none
    · rw [run_await_ok (.inr hlook) rfl]
      simp only [h.found, Option.map_some]
      have hrest : Settles P { w with webhookEvents := w.webhookEvents ++ [row] } b.id
          (confirmUpdate P r paymentId (w.withTenant b) (os 2).fresh) _ _ :=
        run_confirmPending os (BookingTable.mem_of_findByOrder? h.found).1 h.pending
      exact ⟨fun ht => hrest.applied ⟨ht.encode, ht.update⟩,
        fun ht => hrest.refused fun h' => ht ⟨hfault, hlook, h'.1, h'.2⟩⟩
    · rw [run_await_fault _ rfl hlook, exec_readOnly P _ _ rfl]
      exact Settles.of_failed (fun ht => hlook ht.lookup) rfl
  · rw [exec_before hfault rfl]
    exact Settles.of_failed (fun ht => by rw [ht.insert] at hfault; cases hfault) rfl
  · rw [exec_after hfault rfl, hins]
    exact Settles.of_failed (fun ht => by rw [ht.insert] at hfault; cases hfault) rfl

end Delivery

end Omnipax
