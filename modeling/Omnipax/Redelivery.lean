import Omnipax.Effects

/-!
# Redelivery

A delivery inserts its event row first and confirms the booking last, and
nothing ties the two together. When a step between them fails, the delivery
throws and Razorpay delivers the event again - but the row is there now, and
every later delivery is answered `duplicate` while the booking stays PENDING.

Exactly one delivery can confirm: the first one whose insert reaches the
database. Redelivery is safe if and only if that one also gets its update
applied, or no delivery is answered any more.
-/

namespace Omnipax

open Conc Prog

/-- The booking is CONFIRMED with this payment. -/
def ConfirmedWith (w : World) (id paymentId : String) : Prop :=
  ∃ b ∈ w.bookings.rows, b.id = id ∧ b.status = .CONFIRMED ∧
    b.razorpayPaymentId = some paymentId

instance (w : World) (id paymentId : String) : Decidable (ConfirmedWith w id paymentId) :=
  inferInstanceAs (Decidable (∃ _ ∈ _, _))

def deliver (P : Platform) (r : WebhookRequest) (w : World) (os : Nat → Oracle) :
    Outcome World Exn WebhookStatus :=
  (processPaymentWebhook P r).run (machine P) os 0 w

/-- Deliveries of one event, one after the other: as soon as one of them is
answered, the booking is CONFIRMED with the payment. -/
def SafeRedelivery (P : Platform) (r : WebhookRequest) (id paymentId : String) :
    World → List (Nat → Oracle) → Prop
  | _, [] => True
  | w, os :: rest =>
      ((deliver P r w os).result.isOk = true →
        ConfirmedWith (deliver P r w os).state id paymentId) ∧
      SafeRedelivery P r id paymentId (deliver P r w os).state rest

/-- The first delivery whose insert reaches the database finds the event id
free and gets its update applied, or no delivery after that is answered. -/
def FirstRecordedConfirms (P : Platform) (w : World) (r : WebhookRequest) (paymentId : String)
    (b : Booking) : List (Nat → Oracle) → Prop
  | [] => True
  | os :: rest =>
      if (os 0).fault = some .before then FirstRecordedConfirms P w r paymentId b rest
      else if w.recorded (r.rowId paymentId) = true then
        ∀ os' ∈ os :: rest, (os' 0).fault ≠ none
      else
        (LetThrough os ∧ (w.bookings.update b.id
          (confirmUpdate P r paymentId (w.withTenant b) (os 2).fresh)).isSome = true) ∨
        ∀ os' ∈ rest, (os' 0).fault ≠ none

instance decFirstRecordedConfirms (P : Platform) (w : World) (r : WebhookRequest)
    (paymentId : String) (b : Booking) :
    (oss : List (Nat → Oracle)) → Decidable (FirstRecordedConfirms P w r paymentId b oss)
  | [] => isTrue trivial
  | os :: rest =>
      have := decFirstRecordedConfirms P w r paymentId b rest
      inferInstanceAs (Decidable
        (if (os 0).fault = some .before then FirstRecordedConfirms P w r paymentId b rest
        else if w.recorded (r.rowId paymentId) = true then
          ∀ os' ∈ os :: rest, (os' 0).fault ≠ none
        else _ ∨ ∀ os' ∈ rest, (os' 0).fault ≠ none))

theorem isOk_of_error {ε α : Type} {x : Except ε α} (h : ∃ e, x = .error e) :
    x.isOk = false := by
  obtain ⟨e, rfl⟩ := h
  rfl

section Redelivery

variable {P : Platform} {w : World} {r : WebhookRequest} {orderId paymentId : String}
  {b : Booking}

/-- Once the event is recorded, deliveries change nothing, and the answered
ones are answered `duplicate`. -/
theorem safeRedelivery_recorded (h : Carries P r orderId paymentId)
    (hrec : w.recorded (r.rowId paymentId) = true) (id : String) (oss : List (Nat → Oracle)) :
    SafeRedelivery P r id paymentId w oss ↔
      ConfirmedWith w id paymentId ∨ ∀ os ∈ oss, (os 0).fault ≠ none := by
  induction oss with
  | nil => simp [SafeRedelivery]
  | cons os rest ih =>
      obtain ⟨hstate, hresult⟩ := run_delivery_rejected os h (.inr hrec)
      have hok : (deliver P r w os).result.isOk = true ↔ (os 0).fault = none := by
        split at hresult
        · rename_i hf
          exact iff_of_true (by rw [show (deliver P r w os).result = _ from hresult]; rfl) hf
        · rename_i hf
          exact iff_of_false (Bool.eq_false_iff.mp (isOk_of_error hresult)) hf
      rw [SafeRedelivery, hok, show (deliver P r w os).state = w from hstate, ih]
      simp only [List.forall_mem_cons]
      tauto

/-- **Redelivery**: deliveries of one signed event about a PENDING booking
are safe if and only if the first one recorded confirms, or none is
answered after it. -/
theorem safeRedelivery_iff (h : Concerns P w r orderId paymentId b)
    (oss : List (Nat → Oracle)) :
    SafeRedelivery P r b.id paymentId w oss ↔ FirstRecordedConfirms P w r paymentId b oss := by
  have hb := (BookingTable.mem_of_findByOrder? h.found).1
  have hpend : ¬ConfirmedWith w b.id paymentId := by
    rintro ⟨b', hb', hid, hc, -⟩
    rw [BookingTable.eq_of_id hb' hb hid, h.pending] at hc
    cases hc
  induction oss with
  | nil => simp [SafeRedelivery, FirstRecordedConfirms]
  | cons os rest ih =>
      have hupd := run_delivery os h
      rw [FirstRecordedConfirms]
      split
      · -- the delivery does not reach the database
        rename_i hf
        obtain ⟨hstate, hresult⟩ := run_delivery_rejected os h.toCarries (.inl hf)
        rw [if_neg (by simp [hf])] at hresult
        have herror : (deliver P r w os).result.isOk = false := isOk_of_error hresult
        rw [SafeRedelivery, show (deliver P r w os).state = w from hstate, herror]
        simpa using ih
      rename_i hreach
      split
      · rename_i hrec
        rw [safeRedelivery_recorded h.toCarries hrec]
        exact or_iff_right hpend
      · rename_i hnew
        replace hupd := hupd (Bool.eq_false_iff.mpr hnew)
        have hrec : (deliver P r w os).state.recorded (r.rowId paymentId) = true :=
          run_delivery_recorded os h.toCarries hreach
        rw [SafeRedelivery, safeRedelivery_recorded h.toCarries hrec]
        by_cases hthrough : LetThrough os ∧ (w.bookings.update b.id
            (confirmUpdate P r paymentId (w.withTenant b) (os 2).fresh)).isSome = true
        · -- confirmed, and from then on for good
          obtain ⟨t, ht⟩ := Option.isSome_iff_exists.mp hthrough.2
          have hbookings : (deliver P r w os).state.bookings = t :=
            hupd.applied hthrough.1 t ht
          have hconf : ConfirmedWith (deliver P r w os).state b.id paymentId :=
            ⟨(confirmUpdate P r paymentId (w.withTenant b) (os 2).fresh).apply b,
              by rw [hbookings]; exact BookingTable.apply_mem_update hb ht, rfl, rfl, rfl⟩
          exact iff_of_true ⟨fun _ => hconf, .inl hconf⟩ (.inl hthrough)
        · -- thrown, and nothing confirmed
          obtain ⟨hsame, herr⟩ := hupd.refused fun hl =>
            Option.not_isSome_iff_eq_none.mp fun hs => hthrough ⟨hl, hs⟩
          have herror : (deliver P r w os).result.isOk = false := isOk_of_error herr
          have hpend' : ¬ConfirmedWith (deliver P r w os).state b.id paymentId := by
            rintro ⟨b', hb', hrest⟩
            rw [show (deliver P r w os).state.bookings = w.bookings from hsame] at hb'
            exact hpend ⟨b', hb', hrest⟩
          rw [or_iff_right hthrough, or_iff_right hpend', herror]
          simp

end Redelivery

namespace Sample

/-- A delivery whose command `k` fails. -/
def failsAt (k : Nat) : Nat → Oracle := fun n =>
  { fault := if n = k then some .before else none, fresh := "aa" }

/-- A delivery that no service fails. -/
def succeeds : Nat → Oracle := fun _ => { fresh := "aa" }

theorem concerns_captured :
    Concerns platform booked capturedRequest "order_1" "pay_1" booking where
  signed := by decide +kernel
  eventType := ⟨"payment.captured", rfl⟩
  refs := by decide +kernel
  found := by decide +kernel
  pending := rfl

end Sample

/-- A delivery lost on its way, one that confirms, and a duplicate. -/
theorem safeRedelivery_retried :
    SafeRedelivery Sample.platform Sample.capturedRequest Sample.booking.id "pay_1" Sample.booked
      [Sample.failsAt 0, Sample.succeeds, Sample.succeeds] :=
  (safeRedelivery_iff Sample.concerns_captured _).mpr (by decide +kernel)

/-- The first delivery fails at the QR encoding, the second is answered
`duplicate`. -/
theorem not_safeRedelivery :
    ¬ ∀ (P : Platform) (w : World) (r : WebhookRequest) (orderId paymentId : String)
      (b : Booking), Concerns P w r orderId paymentId b →
      JsonObject.get? r.payload "event" = some (.str "payment.captured") →
      ∀ oss, SafeRedelivery P r b.id paymentId w oss := by
  intro h
  have hrun := h _ _ _ _ _ _ Sample.concerns_captured rfl [Sample.failsAt 3, Sample.succeeds]
  have hconfirmed := hrun.2.1 (by decide +kernel)
  revert hconfirmed
  decide +kernel

end Omnipax
