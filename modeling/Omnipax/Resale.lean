import Omnipax.Effects

/-!
# Resale

`initiateBooking` takes a PENDING booking past its `expiresAt` for gone and
sells its seats again; `processPaymentWebhook` looks only at the status and
confirms it whenever its payment arrives. A late payment thus confirms a
booking whose seat another booking holds by then.

Where no late payment arrives for a resold seat, atomic calls keep every
seat in at most one active booking: the admission check sees every other
booking of a seat, because all bookings of a seat are of one event and
tenant (`Booking.Coherent`).
-/

namespace Omnipax

open Conc Prog

/-! ## Coherent bookings -/

/-- The booking is for seats of an event of its tenant. -/
structure Booking.Coherent (c : Catalog) (b : Booking) : Prop where
  event_found : (c.findEvent b.eventId b.tenantId).isSome = true
  seats_found : ∀ s ∈ b.bookingSeats, ∃ seat ∈ c.seatsOf b.eventId, seat.id = s

/-- All coherent bookings of one seat are of one event and one tenant. -/
theorem Booking.Coherent.same_event {c : Catalog} {b b' : Booking} (h : b.Coherent c)
    (h' : b'.Coherent c) (hs : b.holdsAny b'.bookingSeats = true) :
    b.tenantId = b'.tenantId ∧ b.eventId = b'.eventId := by
  obtain ⟨s, hb, hb'⟩ := Booking.holdsAny_iff.mp hs
  obtain ⟨seat, hseat, rfl⟩ := h.seats_found s hb
  obtain ⟨seat', hseat', hid⟩ := h'.seats_found _ hb'
  simp only [Catalog.seatsOf, List.mem_filter, beq_iff_eq] at hseat hseat'
  obtain rfl := List.inj_on_of_nodup_map c.seat_id_nodup hseat'.1 hseat.1 hid
  have hevent : b.eventId = b'.eventId := hseat.2.symm.trans hseat'.2
  obtain ⟨e, he, heid, het⟩ := Catalog.findEvent_some h.event_found
  obtain ⟨e', he', heid', het'⟩ := Catalog.findEvent_some h'.event_found
  obtain rfl := List.inj_on_of_nodup_map c.event_id_nodup he he'
    (heid.trans (hevent.trans heid'.symm))
  exact ⟨het.symm.trans het', hevent⟩

/-! ## The invariant -/

/-- Every seat in at most one active booking, every booking coherent. -/
structure Orderly (w : World) : Prop where
  exclusive : SeatsExclusive w
  coherent : ∀ b ∈ w.bookings.rows, b.Coherent w.catalog

theorem orderly_init (clock : Time) (catalog : Catalog) : Orderly (.init clock catalog) where
  exclusive _ hb := nomatch hb
  coherent _ hb := nomatch hb

/-- An update that leaves its booking inactive, or free of other active
bookings, keeps seats exclusive. -/
theorem SeatsExclusive.update {w w' : World} {b₀ : Booking} {d : BookingUpdate}
    (h : SeatsExclusive w) (hb₀ : b₀ ∈ w.bookings.rows)
    (ht : w.bookings.update b₀.id d = some w'.bookings) (hc : w'.clock = w.clock)
    (hfree : (d.apply b₀).activeAt w.clock = true → ∀ b ∈ w.bookings.rows, b ≠ b₀ →
      b.activeAt w.clock = true → b.holdsAny b₀.bookingSeats = false) :
    SeatsExclusive w' := by
  intro b hb b' hb' hact hact' hshare
  rw [hc] at hact hact'
  rcases BookingTable.mem_update hb₀ ht hb with rfl | ⟨hb, hne⟩ <;>
    rcases BookingTable.mem_update hb₀ ht hb' with rfl | ⟨hb', hne'⟩
  · rfl
  · rw [Booking.holdsAny_comm] at hshare
    exact absurd hshare (by
      rw [show (d.apply b₀).bookingSeats = b₀.bookingSeats from rfl, hfree hact b' hb' hne' hact']
      exact Bool.false_ne_true)
  · exact absurd hshare (by
      rw [show (d.apply b₀).bookingSeats = b₀.bookingSeats from rfl, hfree hact' b hb hne hact]
      exact Bool.false_ne_true)
  · exact h b hb b' hb' hact hact' hshare

section Steps

variable {P : Platform} {w w' : World} {b : Booking}

theorem Orderly.tick (h : Orderly w) (t : Time) : Orderly (w.tick t) where
  exclusive := h.exclusive.tick t
  coherent := h.coherent

/-- A reservation: the check saw every booking of the requested seats. -/
theorem Orderly.reserve (h : Orderly w) {tenant : TenantContext} {userId : String}
    {dto : InitiateBookingDto} {n : Booking} (hn : Reserves P tenant userId dto w n)
    (hrows : w'.bookings.rows = w.bookings.rows ++ [n]) (hclock : w'.clock = w.clock)
    (hcatalog : w'.catalog = w.catalog) : Orderly w' := by
  have hncoh : n.Coherent w.catalog :=
    ⟨by rw [hn.eventId, hn.tenantId]; exact hn.event_found,
      by rw [hn.eventId, hn.bookingSeats]; exact hn.seats_found⟩
  refine ⟨h.exclusive.append hrows hclock fun _ b hb hact => ?_, fun b hb => ?_⟩
  · by_contra hshare
    rw [Bool.not_eq_false] at hshare
    obtain ⟨ht, he⟩ := (h.coherent b hb).same_event hncoh hshare
    rw [hn.bookingSeats] at hshare
    exact mem_bookedSeats_of_holdsAny hb (ht.trans hn.tenantId) (he.trans hn.eventId) hact
      hshare hn.seats_free
  · rw [hrows, List.mem_append, List.mem_singleton] at hb
    rw [hcatalog]
    rcases hb with hb | rfl
    · exact h.coherent b hb
    · exact hncoh

/-- An update of one booking that ends inactive or free of others. -/
theorem Orderly.update (h : Orderly w) {d : BookingUpdate} (hb : b ∈ w.bookings.rows)
    (ht : w.bookings.update b.id d = some w'.bookings) (hclock : w'.clock = w.clock)
    (hcatalog : w'.catalog = w.catalog)
    (hfree : (d.apply b).activeAt w.clock = true → ∀ b' ∈ w.bookings.rows, b' ≠ b →
      b'.activeAt w.clock = true → b'.holdsAny b.bookingSeats = false) : Orderly w' where
  exclusive := h.exclusive.update hb ht hclock hfree
  coherent b' hb' := by
    rw [hcatalog]
    rcases BookingTable.mem_update hb ht hb' with rfl | ⟨hb', -⟩
    · exact ⟨(h.coherent b hb).event_found, (h.coherent b hb).seats_found⟩
    · exact h.coherent b' hb'

end Steps

/-! ## Runs of atomic calls -/

/-- A delivery that pays a booking past its `expiresAt` finds its seats
free of other active bookings. -/
def PaidSeatsFree (P : Platform) (w : World) (r : WebhookRequest) : Prop :=
  ∀ b ∈ w.addressee P r, b.status = .PENDING → b.expiresAt ≤ w.clock →
    ∀ b' ∈ w.bookings.rows, b'.activeAt w.clock = true → b'.holdsAny b.bookingSeats = false

instance (P : Platform) (w : World) : DecidablePred (PaidSeatsFree P w) := fun _ =>
  inferInstanceAs (Decidable (∀ _ ∈ World.addressee .., _ → _ → ∀ _ ∈ _, _ → _))

/-- A delivery does not confirm a booking over seats that are someone else's by now. It is
asked of the state just before the delivery. -/
def paysInTime (P : Platform) (w : World) (x : LiveTurn) : Prop :=
  ∀ r ∈ x.op.webhook?, PaidSeatsFree P (w.tick x.env) r

instance (P : Platform) (w : World) (x : LiveTurn) : Decidable (paysInTime P w x) :=
  inferInstanceAs (Decidable (∀ r ∈ x.op.webhook?, PaidSeatsFree P (w.tick x.env) r))

theorem Orderly.congr {w w' : World} (h : Orderly w) (hb : w'.bookings = w.bookings)
    (hclock : w'.clock = w.clock) (hcatalog : w'.catalog = w.catalog) : Orderly w' where
  exclusive := h.exclusive.congr hb hclock
  coherent := by
    rw [hb, hcatalog]
    exact h.coherent

/-- Every turn keeps seats exclusive, a late payment of a resold seat
apart. -/
theorem orderly_turn {P : Platform} {w : World} (x : LiveTurn) (h : Orderly w)
    (hx : paysInTime P w x) : Orderly ((live P).turn w x) := by
  have heff := turn_bookings P w x
  have hclock := turn_clock P w x
  have hcatalog : _ = (w.tick x.env).catalog := turn_catalog P w x
  replace h : Orderly (w.tick x.env) := h.tick x.env
  obtain ⟨t, op, os⟩ := x
  cases op with
  | lockSeat slug e s u => exact h.congr heff hclock hcatalog
  | unlockSeat slug e s u => exact h.congr heff hclock hcatalog
  | handleExpiryJob d => exact h.congr heff hclock hcatalog
  | initiateBooking tenant u dto =>
      rcases heff with heff | ⟨n, hn, hrows⟩
      · exact h.congr heff hclock hcatalog
      · exact h.reserve hn hrows hclock hcatalog
  | processPaymentWebhook r =>
      rcases heff with heff | ⟨b, orderId, paymentId, hconcerns, hnew, salt, ht⟩
      · exact h.congr heff hclock hcatalog
      have hb := (BookingTable.mem_of_findByOrder? hconcerns.found).1
      refine h.update hb ht hclock hcatalog fun _ b' hb' hne hact => ?_
      by_cases hlate : b.expiresAt ≤ (w.tick t).clock
      · exact hx r rfl b (hconcerns.addressee hnew) hconcerns.pending hlate b' hb' hact
      · -- still in time: the booking was active before
        by_contra hshare
        rw [Bool.not_eq_false] at hshare
        exact hne (h.exclusive b' hb' b hb hact
          (Booking.activeAt_iff.mpr (.inr ⟨hconcerns.pending, Int.not_le.mp hlate⟩)) hshare)
  | expirePendingBooking id =>
      rcases heff with heff | ⟨b, hfind, -, -, ht⟩
      · exact h.congr heff hclock hcatalog
      · refine h.update (BookingTable.mem_of_find? hfind).1 ht hclock hcatalog fun hact => ?_
        cases hact

/-- No seat lies in the `bookingSeats` of two CONFIRMED bookings. -/
def SoldOnce (w : World) : Prop :=
  ∀ b ∈ w.bookings.rows, ∀ b' ∈ w.bookings.rows, b.status = .CONFIRMED →
    b'.status = .CONFIRMED → b.holdsAny b'.bookingSeats = true → b = b'

instance : DecidablePred SoldOnce := fun _ =>
  inferInstanceAs (Decidable (∀ _ ∈ _, ∀ _ ∈ _, _ → _ → _ → _))

theorem Orderly.soldOnce {w : World} (h : Orderly w) : SoldOnce w := by
  intro b hb b' hb' hc hc' hs
  exact h.exclusive b hb b' hb' (Booking.activeAt_iff.mpr (.inl hc))
    (Booking.activeAt_iff.mpr (.inl hc')) hs

/-- **Resale**: in a run of atomic calls in which no late payment is for a
resold seat, no seat is ever in two CONFIRMED bookings. -/
theorem soldOnce_serial (P : Platform) (clock : Time) (catalog : Catalog)
    (xs : List LiveTurn) (hxs : Follows (live P).turn (paysInTime P) (.init clock catalog) xs) :
    SoldOnce (serial P (.init clock catalog) xs) :=
  (hxs.invariant (fun _ x h hx => orderly_turn x h hx) (orderly_init clock catalog)).soldOnce

namespace Sample

/-- The first booking runs out, its seat is sold again, and then both
payments arrive. -/
def lateThenResold : List LiveTurn :=
  lockAndBook 0 "u1" "tok_1" "order_1" "b1" ++ lockAndBook 700000 "u2" "tok_2" "order_2" "b2"
    ++ [pay 700001 "evt_2" "pay_2" "order_2" "aa", pay 700002 "evt_1" "pay_1" "order_1" "bb"]

/-- The first booking is paid late, but nobody took the seat meanwhile. -/
def lateNotResold : List LiveTurn :=
  lockAndBook 0 "u1" "tok_1" "order_1" "b1" ++ [pay 700002 "evt_1" "pay_1" "order_1" "bb"]

end Sample

theorem soldOnce_lateNotResold :
    SoldOnce (serial Sample.platform Sample.world Sample.lateNotResold) :=
  soldOnce_serial Sample.platform 0 Sample.catalog Sample.lateNotResold (by decide +kernel)

/-- A late payment confirms a booking whose seat is sold already. -/
theorem not_soldOnce_serial :
    ¬ ∀ (P : Platform) (clock : Time) (catalog : Catalog) (xs : List LiveTurn),
      (∀ x ∈ xs, x.op.lockJob? = none) → SoldOnce (serial P (.init clock catalog) xs) := by
  intro h
  have hrun := h Sample.platform 0 Sample.catalog Sample.lateThenResold (by decide)
  revert hrun
  decide +kernel

end Omnipax
