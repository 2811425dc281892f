import Omnipax.Reachable
import Omnipax.Redelivery

/-!
# Captured payments

`processPaymentWebhook` never looks at the type of the event nor at the
status of the payment: every signed body with an order and a payment id
confirms the PENDING booking of that order, a `payment.failed` as much as a
`payment.captured`. The filter sits in a sibling
(`PaymentService.handleWebhook`) only.

A delivery therefore moves bookings for captured payments only if and only
if the body reports one, or the delivery is stopped before its update is
applied.
-/

namespace Omnipax

open Conc Prog

/-- The body reports a captured payment: by the event it names, or by the status of the
payment it carries. Any one of the three is enough for the code. -/
def WebhookRequest.reportsCapture (r : WebhookRequest) : Bool :=
  Json.str? (JsonObject.get? r.payload "event") == some "payment.captured" ||
    Json.str? (JsonObject.get? r.payload "event") == some "order.paid" ||
    Json.str? (Json.get? r.paymentEntity "status") == some "captured"

/-- From `w` to `w'` a delivery of `r` confirms only the booking of the
order whose capture it reports, and without a report it leaves status,
payment and ticket of every booking as they are. -/
structure MovesOnCapture (r : WebhookRequest) (w w' : World) : Prop where
  confirmed : ∀ b ∈ w.bookings.rows, ∀ b' ∈ w'.bookings.rows, b'.id = b.id →
    b.status ≠ .CONFIRMED → b'.status = .CONFIRMED → r.reportsCapture = true ∧
      ∃ orderId, r.orderId = some (.str orderId) ∧ b.razorpayOrderId = some orderId
  unchanged : r.reportsCapture = false → ∀ b ∈ w.bookings.rows, ∀ b' ∈ w'.bookings.rows,
    b'.id = b.id → b'.status = b.status ∧ b'.razorpayPaymentId = b.razorpayPaymentId ∧
      b'.ticketCode = b.ticketCode ∧ b'.ticketQrData = b.ticketQrData

/-- The delivery is not stopped: a signed new event that names a PENDING
booking, no failing service before the update, and an update the unique
indexes accept. -/
def Unstopped (P : Platform) (w : World) (r : WebhookRequest) (os : Nat → Oracle) : Prop :=
  ∃ orderId paymentId b, Concerns P w r orderId paymentId b ∧
    w.recorded (r.rowId paymentId) = false ∧ LetThrough os ∧
    (w.bookings.update b.id
      (confirmUpdate P r paymentId (w.withTenant b) (os 2).fresh)).isSome = true

section Captured

variable {P : Platform} {w : World} {r : WebhookRequest} {os : Nat → Oracle}

theorem bookings_of_stopped (h : ¬Unstopped P w r os) :
    (deliver P r w os).state.bookings = w.bookings := by
  rcases state_of_wlp (wlp_webhook_rows P r w) os 0 with hsame |
    ⟨b, orderId, paymentId, hconcerns, hnew, -⟩
  · exact hsame
  · refine ((run_delivery os hconcerns hnew).refused fun hl => ?_).1
    exact Option.not_isSome_iff_eq_none.mp fun hs =>
      h ⟨orderId, paymentId, b, hconcerns, hnew, hl, hs⟩

/-- **Captured payments**: a delivery moves bookings for captured payments
only if and only if it reports one or is stopped. -/
theorem movesOnCapture_iff (P : Platform) (w : World) (r : WebhookRequest)
    (os : Nat → Oracle) :
    MovesOnCapture r w (deliver P r w os).state ↔
      r.reportsCapture = true ∨ ¬Unstopped P w r os := by
  by_cases hstop : Unstopped P w r os
  · obtain ⟨orderId, paymentId, b, hconcerns, hnew, hl, hs⟩ := hstop
    obtain ⟨t, ht⟩ := Option.isSome_iff_exists.mp hs
    obtain ⟨hb, ho⟩ := BookingTable.mem_of_findByOrder? hconcerns.found
    have hrows : (deliver P r w os).state.bookings = t :=
      (run_delivery os hconcerns hnew).applied hl t ht
    rw [or_iff_left (not_not_intro ⟨orderId, paymentId, b, hconcerns, hnew, hl, hs⟩)]
    constructor
    · -- the booking did move
      intro hmoves
      have hmem := BookingTable.apply_mem_update hb ht
      rw [← hrows] at hmem
      exact (hmoves.confirmed b hb _ hmem rfl (by rw [hconcerns.pending]; exact nofun) rfl).1
    · intro hcap
      refine ⟨fun b₁ hb₁ b' hb' hid hne hc => ⟨hcap, ?_⟩, fun h => ?_⟩
      · rw [hrows] at hb'
        rcases BookingTable.mem_update hb ht hb' with rfl | ⟨hb', -⟩
        · rw [BookingTable.eq_of_id hb₁ hb hid.symm]
          exact ⟨orderId, (WebhookRequest.refs?_eq_some.mp hconcerns.refs).1, ho⟩
        · rw [BookingTable.eq_of_id hb' hb₁ hid] at hc
          exact absurd hc hne
      · rw [hcap] at h
        cases h
  · -- stopped: every row is as it was
    have hrows := bookings_of_stopped hstop
    refine iff_of_true ⟨fun b hb b' hb' hid hne hc => ?_, fun _ b hb b' hb' hid => ?_⟩
      (Or.inr hstop)
    all_goals
      rw [hrows] at hb'
      obtain rfl := BookingTable.eq_of_id hb' hb hid
    · exact absurd hc hne
    · exact ⟨rfl, rfl, rfl, rfl⟩

end Captured

namespace Sample

/-- A failed payment of `order_1`. -/
def failedRequest : WebhookRequest :=
  request "evt_1" "payment.failed" "pay_1" "order_1" "failed"

theorem reachable_booked : Reachable platform booked :=
  reachable_serial platform 0 catalog _ (by decide)

end Sample

/-- A failed payment confirms a booking. -/
theorem not_movesOnCapture :
    ¬ ∀ (P : Platform) (w : World) (r : WebhookRequest) (os : Nat → Oracle), Reachable P w →
      r.signed P = true → MovesOnCapture r w (deliver P r w os).state := by
  intro h
  have hmoves := h Sample.platform Sample.booked Sample.failedRequest Sample.succeeds
    Sample.reachable_booked (by decide +kernel)
  have hrow : ∃ b' ∈ (deliver Sample.platform Sample.failedRequest Sample.booked
      Sample.succeeds).state.bookings.rows,
      b'.id = Sample.booking.id ∧ b'.status = .CONFIRMED := by decide +kernel
  obtain ⟨b', hb', hid, hc⟩ := hrow
  have hcap := (hmoves.confirmed Sample.booking (by decide +kernel) b' hb' hid nofun hc).1
  revert hcap
  decide +kernel

end Omnipax
