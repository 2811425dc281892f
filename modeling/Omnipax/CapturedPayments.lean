import Omnipax.Conc.Alone
import Omnipax.PaymentServices
import Omnipax.PaymentWrites

/-!
# Captured payments

What a delivery of `payment.captured` leaves of the booking it names, when it
is answered without an error. The processor's transaction is inside the one of
the delivery but not part of it: its writes are committed first, and the rest
of the delivery does not touch bookings.
-/

namespace Omnipax.Payments

open Conc Prog Database

/-! ## The processor -/

section Processor

variable {bookingId paymentId signature tenantId : String} {s : PayStore}

/-- The columns of a booking that is confirmed. -/
def confirmation (paymentId signature : String) (now : Time) : BookingUpdate :=
  { status := some .CONFIRMED, razorpayPaymentId := some paymentId,
    razorpaySignature := some signature, paymentCapturedAt := some now }

/-- What the processor writes for a booking it finds. -/
def processorWrites (booking : Booking) (bookingId paymentId signature tenantId : String)
    (now : Time) : List PayWrite :=
  if booking.status = .PAYMENT_IN_PROGRESS ∨ booking.status = .LOCKED then
    [.booking bookingId (confirmation paymentId signature now),
     .seatLocks bookingId .CONFIRMED, .bookingSeats bookingId .CONFIRMED,
     .ledger (paymentEntry bookingId (ledgerAmount booking) paymentId tenantId)]
  else if booking.status = .EXPIRED then
    [.ledger (paymentEntry bookingId (ledgerAmount booking) paymentId tenantId),
     .ledger (refundFlag bookingId (ledgerAmount booking) paymentId tenantId)]
  else []

theorem wlp_processPaymentSuccess {Q : Processed → PayStore → Prop} {T : PayExn → PayStore → Prop}
    (hs : s.Numbered) (hthrow : ∀ e s', T e s')
    (hQ : ∀ booking now r, s.data.bookings.find bookingId = some booking →
      booking.tenantId = some tenantId →
      Q r { s with
        data := payDb.applyAll
          (processorWrites booking bookingId paymentId signature tenantId now) s.data
        next := s.next + 1 }) :
    (processPaymentSuccess bookingId paymentId signature tenantId).wlp payDb.machine Q T s := by
  have hlacks : ({ s with next := s.next + 1 } : PayStore).Lacks s.next := hs.lacks
  refine wlp_transaction_alone hthrow (wlp_stmt_sure (a := s.data.bookings.find bookingId) hlacks
    (fun _ => rfl) ?_ fun _ _ => trivial)
  cases hfind : s.data.bookings.find bookingId with
  | none => trivial
  | some booking =>
      have hdone : ∀ now ws r, processorWrites booking bookingId paymentId signature tenantId now = ws →
          booking.tenantId = some tenantId →
          ∃ (s₁ : PayStore) (ws' : List PayWrite), s₁.Lacks s.next ∧
            ({ s with next := s.next + 1 } : PayStore).within s.next ws = s₁.within s.next ws' ∧
            Q r { s₁ with data := payDb.applyAll ws' s₁.data } := by
        rintro now _ r rfl htenant
        exact ⟨_, _, hlacks, rfl, hQ booking now r hfind htenant⟩
      dsimp only
      split
      · trivial
      · rename_i htenant
        rw [not_not] at htenant
        split
        · rename_i hopen
          refine wlp_query_sure (fun _ => rfl) (wlp_stmt hlacks (fun o a ws h => ?_)
            fun _ _ _ => trivial) fun _ _ => trivial
          obtain rfl := bookingUpdate_ok h
          refine wlp_stmt_sure hlacks (fun _ => rfl) (wlp_stmt_sure hlacks (fun _ => rfl)
            (wlp_stmt_sure hlacks (fun _ => rfl) ?_ fun _ _ => trivial) fun _ _ => trivial)
            fun _ _ => trivial
          exact hdone _ _ _ (if_pos hopen) htenant
        · rename_i hopen
          split
          · rename_i hexpired
            refine wlp_stmt_sure hlacks (fun _ => rfl) ?_ fun _ _ => trivial
            exact hdone 0 _ _ ((if_neg hopen).trans (if_pos hexpired)) htenant
          · rename_i hexpired
            exact hdone 0 _ _ ((if_neg hopen).trans (if_neg hexpired)) htenant

end Processor

/-! ## The webhook -/

section Webhook

variable {P : PayPlatform} {r : Delivery} {payment : PaymentEntity} {bookingId : String}
  {s : PayStore}

/-- What a recorded delivery leaves of the bookings. -/
def Recorded (r : Delivery) (payment : PaymentEntity) (bookingId : String) (d d' : PayData) :
    Prop :=
  ∃ booking tenantId now, payment.notes.tenantId = some tenantId ∧
    d.bookings.find bookingId = some booking ∧ booking.tenantId = some tenantId ∧
    d'.bookings = (payDb.applyAll
      (processorWrites booking bookingId payment.id (r.signature.getD "") tenantId now) d).bookings

theorem truthy?_eq_some {x : Option String} {y : String} :
    truthy? x = some y ↔ x = some y ∧ y ≠ "" := by
  simp [truthy?, Option.filter_eq_some_iff]

theorem webhookEventCreate_fresh {eventId : String} {o : PayOracle} {d : PayData}
    (h : eventId ∉ d.razorpayWebhookEvents) :
    (payDb.exec (.webhookEventCreate eventId) o d).1 = .ok () := by
  change (PayStmt.exec o d (.webhookEventCreate eventId)).1 = _
  simp only [PayStmt.exec]
  exact congrArg Prod.fst (if_neg (by simpa using h))

theorem wlp_recordCapture {Q : Unit → PayStore → Prop} {T : PayExn → PayStore → Prop}
    (hs : s.Numbered) (hfresh : eventKey r.body payment ∉ s.data.razorpayWebhookEvents)
    (hthrow : ∀ e s', T e s')
    (hQ : ∀ s' : PayStore, Recorded r payment bookingId s.data s'.data → Q () s') :
    (recordCapture r payment bookingId).wlp payDb.machine Q T s := by
  have hlacks : ({ s with next := s.next + 1 } : PayStore).Lacks s.next := hs.lacks
  have hnumbered : ({ s with next := s.next + 1 } : PayStore).Numbered :=
    fun ss hss => Nat.lt_succ_of_lt (hs ss hss)
  refine wlp_transaction_alone hthrow (wlp_stmt_attempt hlacks (fun o a ws h => ?_)
    fun e s' he => ?_)
  · have hws := spares_exec rfl h
    cases htruthy : truthy? payment.notes.tenantId with
    | none => trivial
    | some tenantId =>
        refine wlp_stmt hlacks (fun o id ws' h' => ?_) fun _ _ _ => trivial
        have hws' := spares_exec rfl h'
        rw [wlp_bind]
        refine wlp_processPaymentSuccess (hnumbered.within (Nat.lt_succ_self _))
          (fun _ _ => trivial) fun booking now _ hfind htenant => ?_
        generalize hd : payDb.applyAll (processorWrites booking bookingId payment.id
          (r.signature.getD "") tenantId now) _ = d
        rw [← bind_ret (ask _ _)]
        refine wlp_stmt (s := { s with data := d, next := s.next + 1 + 1 }) hlacks
          (fun o a ws'' h'' => ?_) fun _ _ _ => trivial
        refine ⟨{ s with data := d, next := s.next + 1 + 1 }, _, hlacks, rfl, hQ _
          ⟨booking, tenantId, now, (truthy?_eq_some.mp htruthy).1, hfind, htenant, ?_⟩⟩
        refine (bookings_applyAll ?_ _).trans (congrArg PayData.bookings hd).symm
        simp only [List.all_append, List.all_nil, hws, hws', spares_exec rfl h'', Bool.and_true]
  · dsimp only
    rw [if_neg]
    · trivial
    · rintro ⟨⟩
      rcases he with he | ⟨o, he⟩
      · cases he
      · cases (webhookEventCreate_fresh hfresh).symm.trans he

/-- The delivery of a captured payment, from where its signature is checked. -/
theorem wlp_handleWebhook {Q : String → PayStore → Prop} (hpayment : r.body.payment = some payment)
    (hevent : r.body.event = "payment.captured") (hbooking : payment.notes.bookingId = some bookingId)
    (hne : bookingId ≠ "") (hs : s.Numbered)
    (hfresh : eventKey r.body payment ∉ s.data.razorpayWebhookEvents)
    (hQ : ∀ s' : PayStore, Recorded r payment bookingId s.data s'.data → Q "ok" s') :
    (handleWebhook P r).wlp payDb.machine Q (fun _ _ => True) s := by
  unfold handleWebhook
  cases truthy? P.RAZORPAY_WEBHOOK_SECRET with
  | none => trivial
  | some secret =>
      dsimp only
      cases some (P.hmacSha256Hex secret r.bodyForVerification) != r.signature with
      | true => trivial
      | false =>
          have hresolve : resolveBookingId payment = .ret (some bookingId) := by
            rw [resolveBookingId, truthy?_eq_some.mpr ⟨hbooking, hne⟩]
            rfl
          rw [throwIf_false, ret_bind, hpayment]
          dsimp only
          rw [hresolve, ret_bind]
          dsimp only
          rw [dispatch, if_pos hevent, paymentCaptured, wlp_bind, wlp_bind, wlp_attempt]
          exact wlp_recordCapture hs hfresh (fun e s' => wlp_of_step (fun _ _ _ => trivial)
            fun _ _ _ => trivial) hQ

end Webhook

/-! ## Kept payments -/

theorem refundTarget_eq_some {booking booking' : Booking} {tenantId paymentId : String} :
    refundTarget (some booking) tenantId = some (booking', paymentId) ↔
      booking = booking' ∧ booking.tenantId = some tenantId ∧ booking.status = .REFUND_INITIATED ∧
        booking.razorpayPaymentId = some paymentId ∧ paymentId ≠ "" := by
  have hguard : ∀ {p : Prop} [Decidable p] {u : Unit}, (guard p : Option Unit) = some u ↔ p := by
    intro p _ u
    by_cases h : p <;> simp [guard, h]
  simp only [refundTarget, Option.bind_eq_bind, Option.bind_some, Option.bind_eq_some_iff, hguard,
    truthy?_eq_some, Option.pure_def, Option.some.injEq, Prod.mk.injEq]
  constructor
  · rintro ⟨-, htenant, _, ⟨hpayment, hne⟩, -, hstatus, rfl, rfl⟩
    exact ⟨rfl, htenant, hstatus, hpayment, hne⟩
  · rintro ⟨rfl, htenant, hstatus, hpayment, hne⟩
    exact ⟨(), htenant, _, ⟨hpayment, hne⟩, (), hstatus, rfl, rfl⟩

/-- The payment is kept for a ticket, or `processRefund` would refund it. -/
def Kept (d : PayData) (bookingId tenantId paymentId : String) : Prop :=
  ∃ booking ∈ d.bookings.find bookingId,
    booking.status = .CONFIRMED ∧ booking.razorpayPaymentId = some paymentId ∨
      refundTarget (some booking) tenantId = some (booking, paymentId)

instance (d : PayData) (bookingId tenantId paymentId : String) :
    Decidable (Kept d bookingId tenantId paymentId) :=
  inferInstanceAs (Decidable (∃ booking ∈ d.bookings.find bookingId, _))

/-- The booking is open for the payment, in progress or LOCKED, or it has been settled with
this very payment: confirmed, or with its refund asked for. -/
def Booking.takes (booking : Booking) (paymentId : String) : Prop :=
  booking.status = .PAYMENT_IN_PROGRESS ∨ booking.status = .LOCKED ∨
    booking.razorpayPaymentId = some paymentId ∧
      (booking.status = .CONFIRMED ∨ booking.status = .REFUND_INITIATED ∧ paymentId ≠ "")

theorem kept_iff {d : PayData} {bookingId tenantId paymentId : String} {booking : Booking}
    (hfind : d.bookings.find bookingId = some booking) (htenant : booking.tenantId = some tenantId) :
    Kept d bookingId tenantId paymentId ↔ booking.razorpayPaymentId = some paymentId ∧
      (booking.status = .CONFIRMED ∨ booking.status = .REFUND_INITIATED ∧ paymentId ≠ "") := by
  simp only [Kept, hfind, Option.mem_some_iff, exists_eq_left', refundTarget_eq_some, htenant,
    true_and]
  constructor
  · rintro (⟨hc, hp⟩ | ⟨hr, hp, hne⟩)
    · exact ⟨hp, Or.inl hc⟩
    · exact ⟨hp, Or.inr ⟨hr, hne⟩⟩
  · rintro ⟨hp, hc | ⟨hr, hne⟩⟩
    · exact Or.inl ⟨hc, hp⟩
    · exact Or.inr ⟨hr, hp, hne⟩

/-- What the processor leaves is kept when it takes the payment or had it. -/
theorem kept_recorded {r : Delivery} {payment : PaymentEntity} {bookingId tenantId : String}
    {d d' : PayData} {booking : Booking} (hfind : d.bookings.find bookingId = some booking)
    (htenant : payment.notes.tenantId = some tenantId) (h : Recorded r payment bookingId d d') :
    Kept d' bookingId tenantId payment.id ↔ booking.takes payment.id := by
  obtain ⟨booking', tenantId', now, htenant', hfind', hown, hbookings⟩ := h
  obtain rfl := Option.some.inj (hfind.symm.trans hfind')
  obtain rfl := Option.some.inj (htenant.symm.trans htenant')
  by_cases hopen : booking.status = .PAYMENT_IN_PROGRESS ∨ booking.status = .LOCKED
  · have hfind : d'.bookings.find bookingId = some
        ((confirmation payment.id (r.signature.getD "") now).apply booking) := by
      rw [hbookings, processorWrites, if_pos hopen, applyAll_cons, bookings_applyAll rfl]
      exact BookingTable.find_update.trans (by rw [if_pos rfl, hfind]; rfl)
    refine iff_of_true ((kept_iff hfind hown).mpr ⟨rfl, Or.inl rfl⟩) ?_
    exact hopen.imp id Or.inl
  · have hspares : (processorWrites booking bookingId payment.id (r.signature.getD "") tenantId
        now).all (·.sparesBookings) = true := by
      unfold processorWrites
      rw [if_neg hopen]
      split <;> rfl
    rw [bookings_applyAll hspares] at hbookings
    rw [kept_iff (by rw [hbookings, hfind]) hown]
    unfold Booking.takes
    refine ⟨fun h => Or.inr (Or.inr h), ?_⟩
    rintro (h | h | h)
    · exact absurd (Or.inl h) hopen
    · exact absurd (Or.inr h) hopen
    · exact h

/-- **Captured payments**: an answered delivery of a fresh event leaves its
payment kept exactly when the booking was open for it or settled with it. -/
theorem kept_iff_takes (P : PayPlatform) (d : PayData) (r : Delivery) (payment : PaymentEntity)
    (tenantId : String) (booking : Booking) (os : Nat → PayOracle) (status : String)
    (hpayment : r.body.payment = some payment) (hevent : r.body.event = "payment.captured")
    (hbooking : booking ∈ d.bookings.rows) (hid : booking.id ≠ "")
    (hnotes : payment.notes = ⟨some booking.id, some tenantId⟩)
    (hfresh : eventKey r.body payment ∉ d.razorpayWebhookEvents)
    (hok : ((handleWebhook P r).run payDb.machine os 0 (Store.idle d)).result = .ok status) :
    Kept ((handleWebhook P r).run payDb.machine os 0 (Store.idle d)).state.data booking.id tenantId
      payment.id ↔ booking.takes payment.id := by
  have hfind := BookingTable.find_of_mem hbooking
  exact (wlp_handleWebhook (Q := fun _ s' => Kept s'.data booking.id tenantId payment.id ↔ _)
    hpayment hevent (by rw [hnotes]) hid (Store.numbered_idle d) hfresh fun s' hs' =>
      kept_recorded hfind (by rw [hnotes]) hs').result hok

/-! ## A sample booking

One booking of one seat, and deliveries of its captured payment under two
event ids, signed with HMAC-SHA256 under the sample secret. -/

namespace Sample

/-- The body of the captured payment `pay_1` of `b1`. -/
def text (eventId : String) : String :=
  "\x7b\"id\":\"" ++ eventId ++ "\",\"event\":\"payment.captured\",\"payload\":\x7b\"payment\":" ++
    "\x7b\"entity\":\x7b\"id\":\"pay_1\",\"order_id\":\"order_1\",\"notes\":" ++
    "\x7b\"bookingId\":\"b1\",\"tenantId\":\"t1\"\x7d\x7d\x7d\x7d\x7d"

def hmacSha256Hex (secret text' : String) : String :=
  if secret = "whsec" then
    if text' = text "evt_1" then "531e031dc3b6bbeaf171c893d33c7fe5222818e13a15821b3ca1b69007cea8c0"
    else if text' = text "evt_2" then
      "70e2d9b406213907c45e58c8463c4716808bd1e9e20f47df5e7e477c338edd60"
    else ""
  else ""

def platform : PayPlatform where
  RAZORPAY_KEY_ID := some "rzp_key"
  RAZORPAY_KEY_SECRET := some "rzp_secret"
  RAZORPAY_WEBHOOK_SECRET := some "whsec"
  PAYMENT_PROVIDER := some "razorpay"
  FIXED_FEE := 1999 / 100
  SERVICE_PERCENTAGE := 2
  hmacSha256Hex := hmacSha256Hex

def payment : PaymentEntity where
  id := "pay_1"
  order_id := some "order_1"
  notes := ⟨some "b1", some "t1"⟩

def delivery (eventId : String) : Delivery where
  rawBody := some (text eventId)
  body := { id := some eventId, event := "payment.captured", payment := some payment }
  serialized := text eventId
  signature := some (hmacSha256Hex "whsec" (text eventId))

/-- A booking over 500.00 that no discount was applied to. -/
def booking (status : BookingStatus) : Booking where
  id := "b1"
  userId := "u1"
  showId := "s1"
  totalAmount := ⟨50000⟩
  status
  expiresAt := some 600000
  createdAt := 0
  refundedAt := none
  razorpayOrderId := some "order_1"
  razorpayPaymentId := none
  razorpaySignature := none
  razorpayRefundId := none
  discountAmount := ⟨0⟩
  finalAmount := ⟨0⟩
  paymentCapturedAt := none
  refundInitiatedAt := none
  refundCompletedAt := none
  tenantId := some "t1"

def data (booking : Booking) : PayData where
  bookings := ⟨[booking], List.nodup_singleton _⟩

/-- Nothing is lost, and what is drawn is fresh. -/
def oracles (n : Nat) : PayOracle := { fresh := "id_" ++ toString n }

end Sample

/-- A payment in time confirms its booking. -/
theorem kept_sample : Kept ((handleWebhook Sample.platform (Sample.delivery "evt_1")).run
    payDb.machine Sample.oracles 0
    (Store.idle (Sample.data (Sample.booking .PAYMENT_IN_PROGRESS)))).state.data "b1" "t1" "pay_1" ↔
      (Sample.booking .PAYMENT_IN_PROGRESS).takes "pay_1" :=
  kept_iff_takes Sample.platform (Sample.data (Sample.booking .PAYMENT_IN_PROGRESS))
    (Sample.delivery "evt_1") Sample.payment "t1" (Sample.booking .PAYMENT_IN_PROGRESS)
    Sample.oracles "ok" rfl rfl (List.mem_singleton_self _) (by decide) rfl nofun (by decide +kernel)

/-- A payment of an expired booking is not kept. -/
theorem not_kept_expired :
    ¬ ∀ (P : PayPlatform) (d : PayData) (r : Delivery) (payment : PaymentEntity) (tenantId : String)
      (booking : Booking) (os : Nat → PayOracle) (status : String),
      r.body.payment = some payment → r.body.event = "payment.captured" →
      booking ∈ d.bookings.rows → booking.id ≠ "" →
      payment.notes = ⟨some booking.id, some tenantId⟩ →
      eventKey r.body payment ∉ d.razorpayWebhookEvents →
      ((handleWebhook P r).run payDb.machine os 0 (Store.idle d)).result = .ok status →
      Kept ((handleWebhook P r).run payDb.machine os 0 (Store.idle d)).state.data booking.id
        tenantId payment.id := by
  intro h
  have hkept := h Sample.platform (Sample.data (Sample.booking .EXPIRED)) (Sample.delivery "evt_1")
    Sample.payment "t1" (Sample.booking .EXPIRED) Sample.oracles "ok" rfl rfl
    (List.mem_singleton_self _) (by decide) rfl nofun (by decide +kernel)
  revert hkept
  decide +kernel

end Omnipax.Payments
