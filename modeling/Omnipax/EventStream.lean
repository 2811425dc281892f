import Omnipax.SeatMapView

/-!
# The seat map and the message stream

A client reads the seat map once and then follows the `seat_update`
messages. The messages are emitted by operations that know one lock or one
booking, not the seat: the expiry job of a lock announces the seat as free
once the lock is gone, also when it is gone because the seat was booked.

The stream stays true to the map in a run in which nothing is announced that
another booking or lock of the seat contradicts (`Truthful`). The invariant
behind this (`Tracked`) relates the last message about the seat to its active
bookings and its lock, and every lock and PENDING booking to the job that is
going to announce its end.
-/

namespace Omnipax

open Conc Prog

/-! ## Classes of seats -/

inductive SeatClass where
  | AVAILABLE
  | LOCKED
  | PENDING_PAYMENT
  | BOOKED
deriving Repr, DecidableEq

/-- The class of a status of the map, whosever lock it is. -/
def SeatStatus.seatClass : SeatStatus → SeatClass
  | .BOOKED => .BOOKED
  | .PENDING_PAYMENT => .PENDING_PAYMENT
  | .LOCKED_BY_ME => .LOCKED
  | .LOCKED => .LOCKED
  | .AVAILABLE => .AVAILABLE

/-- The class of a seat in an active booking. -/
def BookingStatus.seatClass (status : BookingStatus) : SeatClass :=
  if status = .CONFIRMED then .BOOKED else .PENDING_PAYMENT

/-- A seat with its event and its tenant. Messages and locks name tenants by their slugs,
rows by their ids, so it carries both. -/
structure SeatRef where
  tenantId : String
  tenantSlug : String
  eventId : String
  seatId : String
deriving Repr, DecidableEq

namespace SeatRef

def key (r : SeatRef) : String := getLockKey r.tenantSlug r.eventId r.seatId

/-- A slug, an event string and a seat string that mean this seat. -/
def Names (r : SeatRef) (t e s : String) : Prop :=
  t = r.tenantSlug ∧ e = r.eventId ∧ s = r.seatId

instance (r : SeatRef) (t e s : String) : Decidable (r.Names t e s) :=
  inferInstanceAs (Decidable (_ ∧ _ ∧ _))

/-- A lock taken with these strings shows up in the map of the event. -/
def ShadowedBy (r : SeatRef) (t e s : String) : Prop :=
  t = r.tenantSlug ∧ Shadows r.eventId e ∧ s = r.seatId

instance (r : SeatRef) (t e s : String) : Decidable (r.ShadowedBy t e s) :=
  inferInstanceAs (Decidable (_ ∧ _ ∧ _))

end SeatRef

/-- The booking is for the seat. -/
def Booking.Holds (b : Booking) (r : SeatRef) : Prop :=
  b.tenantId = r.tenantId ∧ b.eventId = r.eventId ∧ r.seatId ∈ b.bookingSeats

instance (b : Booking) (r : SeatRef) : Decidable (b.Holds r) :=
  inferInstanceAs (Decidable (_ ∧ _ ∧ _))

/-! ## Replaying the messages -/

/-- The class that a message gives to the seat, if it is about it; a message for many seats
is about each of them. -/
def SeatUpdate.shows (r : SeatRef) : SeatUpdate → Option SeatClass
  | .SEAT_LOCKED t e s _ => if r.Names t e s then some .LOCKED else none
  | .SEAT_UNLOCKED t e s _ => if r.Names t e s then some .AVAILABLE else none
  | .SEATS_RESERVED_PENDING_PAYMENT t e seats =>
      if r.Names t e r.seatId ∧ r.seatId ∈ seats then some .PENDING_PAYMENT else none
  | .BOOKING_CONFIRMED t e seats =>
      if r.Names t e r.seatId ∧ r.seatId ∈ seats then some .BOOKED else none
  | .BOOKING_EXPIRED t e seats =>
      if r.Names t e r.seatId ∧ r.seatId ∈ seats then some .AVAILABLE else none

/-- What the messages say about the seat: the last one about it counts. -/
def replay (r : SeatRef) (messages : List SeatUpdate) : SeatClass :=
  messages.foldl (fun shown m => (m.shows r).getD shown) .AVAILABLE

theorem replay_concat (r : SeatRef) (messages : List SeatUpdate) (m : SeatUpdate) :
    replay r (messages ++ [m]) = (m.shows r).getD (replay r messages) := by
  rw [replay, List.foldl_append]
  rfl

theorem replay_append_of_none {r : SeatRef} {messages ms : List SeatUpdate}
    (h : ∀ m ∈ ms, m.shows r = none) : replay r (messages ++ ms) = replay r messages := by
  induction ms generalizing messages with
  | nil => rw [List.append_nil]
  | cons m ms ih =>
      have hfirst := h m (List.mem_cons_self ..)
      have hrest : replay r (messages ++ [m] ++ ms) = replay r (messages ++ [m]) :=
        ih fun m' hm' => h m' (List.mem_cons_of_mem _ hm')
      rw [List.append_assoc] at hrest
      rw [show m :: ms = [m] ++ ms from rfl, hrest, replay_concat, hfirst]
      rfl

/-! ## Real seats -/

/-- The seat is one of the catalogue, with the event it belongs to and the tenant that has
the event. -/
structure SeatRef.Real (c : Catalog) (r : SeatRef) : Prop where
  tenant : ⟨r.tenantId, r.tenantSlug⟩ ∈ c.tenants
  event : ∃ e ∈ c.events, e.id = r.eventId ∧ e.tenantId = r.tenantId
  seat : ∃ s ∈ c.seats, s.id = r.seatId ∧ s.eventId = r.eventId

namespace SeatRef.Real

variable {c : Catalog} {r : SeatRef}

theorem isSlug (h : r.Real c) : isSlug r.tenantSlug = true := c.slug_ok _ h.tenant

theorem isCuid_event (h : r.Real c) : isCuid r.eventId = true := by
  obtain ⟨e, he, hid, -⟩ := h.event
  rw [← hid]
  exact c.event_cuid e he

theorem noColon_seat (h : r.Real c) : NoColon r.seatId := by
  obtain ⟨s, hs, hid, -⟩ := h.seat
  rw [← hid]
  exact noColon_of_isCuid (c.seat_cuid s hs)

theorem names_of_key (h : r.Real c) {t e s : String} (ht : NoColon t)
    (hkey : getLockKey t e s = r.key) : r.Names t e s :=
  getLockKey_inj (noColon_of_isSlug h.isSlug) (noColon_of_isCuid h.isCuid_event) h.noColon_seat ht
    hkey

/-- The slug of the seat's tenant is found under no other id. -/
theorem tenantSlug_iff (h : r.Real c) {id : String} :
    c.tenantSlug id = r.tenantSlug ↔ id = r.tenantId := by
  constructor
  · intro hslug
    rw [Catalog.tenantSlug] at hslug
    cases hfind : c.tenants.find? (·.id == id) with
    | none =>
        rw [hfind] at hslug
        have hempty := h.isSlug
        rw [← hslug] at hempty
        exact absurd hempty (by decide)
    | some row =>
        rw [hfind] at hslug
        have hid : row.id = id := by simpa using List.find?_some hfind
        have hrow := List.inj_on_of_nodup_map c.slug_nodup (List.mem_of_find?_eq_some hfind)
          h.tenant hslug
        rw [← hid, hrow]
  · rintro rfl
    have hfind := find?_of_nodup_map c.tenant_id_nodup h.tenant
    rw [Catalog.tenantSlug, hfind]
    rfl

/-- The tenant a request comes from is this seat's tenant by its slug when
it is by its id. -/
theorem slug_iff_of_guarded (h : r.Real c) {tenant : TenantContext}
    (hguard : (c.tenants.any fun row => row.id == tenant.id && row.slug == tenant.slug) = true) :
    tenant.slug = r.tenantSlug ↔ tenant.id = r.tenantId := by
  simp only [List.any_eq_true, Bool.and_eq_true, beq_iff_eq] at hguard
  obtain ⟨row, hrow, hid, hslug⟩ := hguard
  have hfind := find?_of_nodup_map c.tenant_id_nodup hrow
  have hsame : c.tenantSlug tenant.id = tenant.slug := by
    rw [Catalog.tenantSlug, ← hid, hfind, ← hslug]
    rfl
  rw [← hsame, h.tenantSlug_iff]

end SeatRef.Real

/-! ## What the map shows -/

/-- No active booking holds the seat. -/
def World.FreeAt (w : World) (r : SeatRef) : Prop := w.Free r.tenantId r.eventId r.seatId

instance (w : World) (r : SeatRef) : Decidable (w.FreeAt r) :=
  inferInstanceAs (Decidable (w.Free ..))

theorem World.freeAt_iff {w : World} {r : SeatRef} :
    w.FreeAt r ↔ ∀ b ∈ w.bookings.rows, b.Holds r → b.activeAt w.clock = false := by
  rw [FreeAt, Free, List.eq_nil_iff_forall_not_mem]
  constructor
  · rintro h b hb ⟨ht, he, hs⟩
    by_contra hact
    rw [Bool.not_eq_false] at hact
    exact h _ (World.mem_bookedSeats.mpr
      ⟨b, hb, ⟨ht, he, hact⟩, _, hs, List.mem_singleton_self _, rfl⟩)
  · intro h x hx
    obtain ⟨b, hb, ⟨ht, he, hact⟩, s, hs, hmem, -⟩ := World.mem_bookedSeats.mp hx
    obtain rfl := List.mem_singleton.mp hmem
    rw [h b hb ⟨ht, he, hs⟩] at hact
    cases hact

/-- The class the map gives to the seat. -/
def shownClass (P : Platform) (w : World) (r : SeatRef) (userId : Option String)
    (os : Nat → Oracle) : Option SeatClass :=
  match ((getSeatMap r.tenantId r.tenantSlug r.eventId userId).run (machine P) os 0 w).result with
  | .ok map => (map.seats.find? (·.id == r.seatId)).map (·.status.seatClass)
  | .error _ => none

/-- A seat in an active booking has the class of such a booking, any other
is LOCKED or AVAILABLE as the map finds a lock. -/
theorem shownClass_eq {P : Platform} {w : World} {r : SeatRef} {os : Nat → Oracle} (hup : Up os)
    (hr : r.Real w.catalog) (userId : Option String) :
    ∃ c, shownClass P w r userId os = some c ∧
      (¬w.FreeAt r → ∃ b ∈ w.bookings.rows, b.Holds r ∧ b.activeAt w.clock = true ∧
        c = b.status.seatClass) ∧
      (w.FreeAt r → c = if (w.mapLock r.tenantSlug r.eventId r.seatId (os 3).order).isSome
        then .LOCKED else .AVAILABLE) := by
  obtain ⟨event, hevent, hid, htenant⟩ := hr.event
  obtain ⟨seat, hseat, hsid, hseid⟩ := hr.seat
  let tenant : TenantContext := ⟨r.tenantId, r.tenantSlug⟩
  have hfindEvent : w.catalog.findEvent r.eventId tenant.id = some event := by
    rw [← hid, show tenant.id = event.tenantId from htenant.symm]
    exact Catalog.findEvent_of_mem hevent
  have hmemSeat : seat ∈ w.catalog.seatsOf r.eventId :=
    List.mem_filter.mpr ⟨hseat, by simpa using hseid⟩
  obtain ⟨seatIds, rows, map, hmem, hrows, hmap, hfind⟩ :=
    run_getSeatMap hup userId hfindEvent hmemSeat
  rw [hsid] at hmem hfind
  have hfree := mapGet_bookedSeats hrows hmem
  let busy := rows.map fun x => (x.seatId, x)
  let locked := (w.mapLocks r.tenantSlug r.eventId (os 3).order).map fun l => (l.seatId, l)
  refine ⟨(seatView busy locked userId seat).status.seatClass, ?_, fun hbusy => ?_, fun hfreeAt => ?_⟩
  · rw [shownClass, hmap]
    simp only [hfind, Option.map_some]
    rfl
  · -- the booking found last gives the status
    obtain ⟨booked, hbooked⟩ := Option.ne_none_iff_exists'.mp fun hnone => hbusy (hfree.mp hnone)
    obtain ⟨x, hx, hxeq⟩ := List.mem_map.mp (mem_of_mapGet hbooked)
    obtain ⟨hxid, rfl⟩ := Prod.mk.inj hxeq
    obtain ⟨b, hb, ⟨ht, he, hact⟩, s, hs, -, rfl⟩ := World.mem_bookedSeats.mp ((hrows x).mp hx)
    refine ⟨b, hb, ⟨ht, he, hxid ▸ hs⟩, hact, ?_⟩
    rw [← hsid] at hbooked
    simp only [seatView, busy, hbooked, BookingStatus.seatClass]
    split <;> rfl
  · have hnone := hfree.mpr hfreeAt
    rw [← hsid] at hnone
    simp only [seatView, busy, hnone, World.mapLock, locked, ← hsid]
    cases hlock : mapGet ((w.mapLocks r.tenantSlug r.eventId (os 3).order).map
        fun l => (l.seatId, l)) seat.id with
    | none => rfl
    | some lock =>
        dsimp only
        split <;> rfl

end Omnipax
