import Omnipax.Admission
import Omnipax.Reachable

/-!
# A free seat can be booked

Whatever earlier runs have left behind - expired and cancelled bookings,
PENDING ones past their time, calls that stopped halfway, locks under odd
strings - a seat that no active booking holds and whose lock key does not
exist can be locked and booked by any user. Nothing is assumed of the state
beyond that: the lock check looks at the key of the seat alone, the booking
check at active bookings alone, and the unique indexes of the insert concern
ids that the services draw anew. All that is asked of the request is an amount
the column takes: `InitiateBookingDto` has `@Min(1)` but no maximum, and the
insert refuses a larger amount once the order has been made.

Time passes before every command, so the programs are run on a machine that
ticks; the lock has to last through the run.
-/

namespace Omnipax

open Conc Prog

/-- Each command is executed at a time of its own, which the oracle names, so that a lock
may lapse in the middle of a call. -/
def timed (P : Platform) : Machine sig World (Time × Oracle) where
  exec c x w := exec P c x.2 (w.tick x.1)

/-- The ids the command draws are not in use: the generators of Razorpay and
of the database do not repeat themselves. -/
def Cmd.DrawsNew (o : Oracle) (w : World) : Cmd → Prop
  | .ordersCreate _ => ∀ b ∈ w.bookings.rows, b.razorpayOrderId ≠ some o.fresh
  | .bookingCreate _ => ∀ b ∈ w.bookings.rows, b.id ≠ o.fresh
  | _ => True

instance (o : Oracle) (w : World) : DecidablePred (Cmd.DrawsNew o w) := fun c => by
  unfold Cmd.DrawsNew
  split <;> infer_instance

/-- The service answers, the lock under the key does not run out before the
command, and drawn ids are new. -/
structure Served (key : String) (c : Cmd) (x : Time × Oracle) (w : World) : Prop where
  answered : x.2.fault = none
  lasts : ∀ en ∈ w.liveLock key, (w.tick x.1).liveLock key = some en
  drawsNew : c.DrawsNew x.2 w

instance (key : String) (c : Cmd) (x : Time × Oracle) (w : World) :
    Decidable (Served key c x w) :=
  decidable_of_iff (x.2.fault = none ∧ (∀ en ∈ w.liveLock key, (w.tick x.1).liveLock key = some en)
    ∧ c.DrawsNew x.2 w) ⟨fun ⟨h1, h2, h3⟩ => ⟨h1, h2, h3⟩, fun ⟨h1, h2, h3⟩ => ⟨h1, h2, h3⟩⟩

/-- The seat is in no active booking. -/
def World.Idle (w : World) (seatId : String) : Prop :=
  ∀ b ∈ w.bookings.rows, seatId ∈ b.bookingSeats → b.activeAt w.clock = false

theorem World.Idle.tick {w : World} {seatId : String} (h : w.Idle seatId) (t : Time) :
    (w.tick t).Idle seatId := by
  intro b hb hs
  cases hact : b.activeAt (w.tick t).clock with
  | false => rfl
  | true =>
      rw [← h b hb hs]
      exact (Booking.activeAt_mono (w.le_tick t) hact).symm

theorem World.Idle.bookedSeats {w : World} {seatId : String} (h : w.Idle seatId)
    (tenantId eventId : String) : w.bookedSeats [seatId] tenantId eventId w.clock = [] := by
  rw [List.eq_nil_iff_forall_not_mem]
  intro x hx
  obtain ⟨b, hb, ⟨-, -, hact⟩, s, hs, hmem, -⟩ := World.mem_bookedSeats.mp hx
  obtain rfl := List.mem_singleton.mp hmem
  rw [h b hb hs] at hact
  cases hact

/-- A key that does not exist does not come into being by waiting. -/
theorem World.liveLock_tick_none {w : World} {key : String} (h : w.liveLock key = none) (t : Time) :
    (w.tick t).liveLock key = none := by
  cases hlive : (w.tick t).liveLock key with
  | none => rfl
  | some en =>
      obtain ⟨hen, hle⟩ := World.liveLock_eq_some.mp hlive
      have hold := (World.liveLock_eq_some (w := w)).mpr ⟨hen, Int.le_trans (w.le_tick t) hle⟩
      rw [h] at hold
      cases hold

section Served

variable {P : Platform} {key : String} {α : Type} {Q : α → World → Prop} {w : World}

theorem twp_await {c : Cmd} {f : c.Ret → M α}
    (h : ∀ x, Served key c x w → ∃ a w', perform P x.2 (w.tick x.1) c = (.ok a, w') ∧
      (f a).twp (timed P) (Served key) Q w') :
    (await c >>= f).twp (timed P) (Served key) Q w := by
  intro x hx
  obtain ⟨a, w', hperf, hrest⟩ := h x hx
  have hexec : (timed P).exec c x w = (.ok a, w') := (exec_of_up (.inr hx.answered)).trans hperf
  rw [hexec]
  exact hrest

theorem twp_throwIf {b : Bool} {e : Exn} {f : Unit → M α} (hb : b = false)
    (h : (f ()).twp (timed P) (Served key) Q w) :
    (throwIf b e >>= f).twp (timed P) (Served key) Q w := by
  rw [hb]
  exact h

theorem twp_settle {c : Cmd} (h : ∀ o w, ∃ a, (perform P o w c).1 = .ok a) :
    (settle c).twp (timed P) (Served key) (fun r _ => r.isOk = true) w := by
  intro x hx
  obtain ⟨a, ha⟩ := h x.2 (w.tick x.1)
  have hexec : ((timed P).exec c x w).1 = .ok a := (congrArg Prod.fst
    (exec_of_up (.inr hx.answered))).trans ha
  rw [hexec]
  rfl

theorem twp_allOf {β : Type} {l : List (Except StepError β)} (h : ∀ x ∈ l, x.isOk = true) :
    (allOf l).twp (timed P) (Served key) (fun _ _ => True) w := by
  unfold allOf
  split
  · trivial
  · rename_i e he
    obtain ⟨x, hx, hxe⟩ := List.exists_of_findSome?_eq_some he
    cases x with
    | ok a => cases hxe
    | error e => cases h _ hx

/-! ## Locking -/

/-- The seat is in no active booking, and the user holds its lock. -/
structure World.Held (w : World) (key u seatId : String) : Prop where
  idle : w.Idle seatId
  locked : ∃ en, w.liveLock key = some en ∧ en.value.userId = u

theorem World.Held.tick {u seatId : String} (h : w.Held key u seatId) {c : Cmd}
    {x : Time × Oracle} (hx : Served key c x w) : (w.tick x.1).Held key u seatId := by
  obtain ⟨en, hen, hu⟩ := h.locked
  exact ⟨h.idle.tick x.1, en, hx.lasts en hen, hu⟩

/-- `SET NX PX` of a key that does not exist. -/
theorem perform_set {o : Oracle} {v : SeatLockPayload} {px : Int} (hpx : 0 < px)
    (hfree : w.liveLock key = none) :
    perform P o w (.redisSet key v px)
      = (.ok true, { w with locks := w.locks.insert key ⟨v, w.clock + px⟩ }) := by
  simp only [perform, if_neg (Int.not_le.mpr hpx), hfree, Option.isSome_none, Bool.false_eq_true,
    if_false]

theorem twp_lockSeat {t e s u : String} (httl : 0 < P.seatLockTtlSeconds) (hidle : w.Idle s)
    (hfree : w.liveLock (getLockKey t e s) = none) :
    (lockSeat P t e s u).twp (timed P) (Served (getLockKey t e s))
      (fun _ w' => w'.catalog = w.catalog ∧ w'.Held (getLockKey t e s) u s) w := by
  have hpx : 0 < P.seatLockTtlSeconds * 1000 := by omega
  unfold lockSeat
  refine twp_await fun x _ => ⟨_, _, rfl, twp_await fun y _ => ⟨_, _, rfl, twp_await fun z _ => ?_⟩⟩
  have hnone := World.liveLock_tick_none
    (World.liveLock_tick_none (World.liveLock_tick_none hfree x.1) y.1) z.1
  refine ⟨true, _, perform_set hpx hnone, twp_throwIf rfl ?_⟩
  generalize hset : World.mk _ _ _ _ _ _ _ _ = w'
  have hheld : w'.Held (getLockKey t e s) u s := by
    subst hset
    refine ⟨((hidle.tick x.1).tick y.1).tick z.1, _, World.liveLock_eq_some.mpr
      ⟨AList.lookup_insert _, ?_⟩, rfl⟩
    exact Int.le_add_of_nonneg_right (Int.le_of_lt hpx)
  have hcatalog : w'.catalog = w.catalog := by
    subst hset
    rfl
  refine twp_await fun x hx => ⟨_, _, rfl, twp_await fun y hy => ⟨_, _, rfl, hcatalog, ?_⟩⟩
  obtain ⟨hidle', en, hen, hu⟩ := hheld.tick hx
  refine ⟨hidle'.tick y.1, en, hy.lasts en hen, hu⟩

/-! ## Booking -/

theorem filter_seatsOf {c : Catalog} {seat : Seat} (hseat : seat ∈ c.seats) :
    (((c.seatsOf seat.eventId).map (·.id)).filter ([seat.id].contains ·)).length = 1 := by
  have hmem : seat.id ∈ ((c.seatsOf seat.eventId).map (·.id)).filter ([seat.id].contains ·) := by
    simp only [List.mem_filter, List.contains_iff_mem, List.mem_singleton, and_true]
    exact List.mem_map_of_mem (List.mem_filter.mpr ⟨hseat, by simp⟩)
  have hsub : ((c.seatsOf seat.eventId).map (·.id)).filter ([seat.id].contains ·) ⊆ [seat.id] :=
    fun x hx => by simpa using (List.mem_filter.mp hx).2
  have hle := (((c.nodup_seatsOf seat.eventId).filter _).subperm hsub).length_le
  have hpos := List.length_pos_of_mem hmem
  rw [List.length_singleton] at hle
  omega

theorem twp_releaseMany {t e : String} {seats : List String} :
    (releaseMany t e seats).twp (timed P) (Served key) (fun _ _ => True) w := by
  unfold releaseMany
  rw [twp_bind]
  refine twp_mono (twp_mapM (R := (·.isOk = true)) (fun s _ w => twp_settle fun o w => ⟨_, rfl⟩) w)
    fun found w hfound => ?_
  rw [twp_bind]
  refine twp_mono (twp_mapM (R := (·.isOk = true)) (fun x hx w => ?_) w) fun outcomes w hok =>
    twp_allOf hok
  obtain ⟨s, r⟩ := x
  match r, hfound r (List.of_mem_zip hx).2 with
  | .ok none, _ => rfl
  | .ok (some _), _ =>
      unfold releaseFound
      rw [twp_bind]
      refine twp_mono (twp_settle fun o w => ⟨_, rfl⟩) fun outcome w houtcome => ?_
      match outcome, houtcome with
      | .ok _, _ => exact twp_await fun x _ => ⟨_, _, rfl, rfl⟩

theorem twp_validateLocksOwned {t e s u : String} (h : w.Held (getLockKey t e s) u s) :
    (validateLocksOwned t e [s] u).twp (timed P) (Served (getLockKey t e s))
      (fun _ w' => w'.Held (getLockKey t e s) u s) w := by
  unfold validateLocksOwned
  rw [List.mapM_cons, List.mapM_nil, bind_assoc]
  refine twp_await fun x hx => ⟨_, _, rfl, ?_⟩
  have hheld := h.tick hx
  obtain ⟨en, hen, hu⟩ := hheld.locked
  have hown : notOwned u (((w.tick x.1).liveLock (getLockKey t e s)).map (·.value)) = false := by
    rw [hen]
    simp [notOwned, hu]
  show (throwIf ([_].any (notOwned u)) _).twp _ _ _ _
  rw [List.any_cons, List.any_nil, hown]
  exact hheld

/-- No row has the new row's id or order id, and it has no payment and no
ticket yet: no unique index refuses it. -/
theorem create_of_new {t : BookingTable} {d : BookingCreate} {id : String}
    (hamount : int4 d.amount = true)
    (hid : ∀ b ∈ t.rows, b.id ≠ id)
    (horder : ∀ b ∈ t.rows, b.razorpayOrderId ≠ some d.razorpayOrderId) :
    ∃ t', t.create (d.row id) = some t' := by
  have hunique : BookingsUnique (t.rows ++ [d.row id]) := by
    constructor
    · rw [List.map_append, List.nodup_append]
      refine ⟨t.unique.id, List.nodup_singleton _, fun x hx y hy => ?_⟩
      obtain ⟨b, hb, rfl⟩ := List.mem_map.mp hx
      obtain rfl := List.mem_singleton.mp hy
      exact hid b hb
    · rw [List.filterMap_append, List.nodup_append]
      refine ⟨t.unique.razorpayOrderId, List.nodup_singleton _, fun x hx y hy => ?_⟩
      obtain ⟨b, hb, hx⟩ := List.mem_filterMap.mp hx
      obtain rfl := List.mem_singleton.mp hy
      rintro rfl
      exact horder b hb hx
    · rw [List.filterMap_append]
      exact (List.append_nil _).symm ▸ t.unique.razorpayPaymentId
    · rw [List.filterMap_append]
      exact (List.append_nil _).symm ▸ t.unique.ticketCode
  have hamounts : ∀ b ∈ t.rows ++ [d.row id], int4 b.amount = true := fun b hb =>
    (List.mem_append.mp hb).elim (t.amount_int4 b) fun hnew => List.mem_singleton.mp hnew ▸ hamount
  exact ⟨⟨_, hunique, hamounts⟩, BookingTable.create_eq_some.mpr rfl⟩

theorem perform_create {o : Oracle} {d : BookingCreate} {t : BookingTable}
    (ht : w.bookings.create (d.row o.fresh) = some t) :
    perform P o w (.bookingCreate d) = (.ok (d.row o.fresh), { w with bookings := t }) := by
  simp only [perform, ht]

/-- What `initiateBooking` answers is the row of a booking of this seat alone,
still to be paid. -/
structure PendingRow (tenant : TenantContext) (eventId seatId userId : String)
    (r : InitiateBookingResult) (b : Booking) : Prop where
  id : b.id = r.bookingId
  status : b.status = .PENDING
  tenantId : b.tenantId = tenant.id
  eventId : b.eventId = eventId
  userId : b.userId = userId
  bookingSeats : b.bookingSeats = [seatId]
  razorpayOrderId : b.razorpayOrderId = some r.order.id
  expiresAt : b.expiresAt = r.expiresAt

theorem twp_initiateBooking {tenant : TenantContext} {event : Event} {seat : Seat} {u : String}
    {dto : InitiateBookingDto} (hevent : event ∈ w.catalog.events)
    (htenant : event.tenantId = tenant.id) (hseat : seat ∈ w.catalog.seats)
    (hseatEvent : seat.eventId = event.id) (heventId : dto.eventId = event.id)
    (hseatIds : newSet dto.seatIds = [seat.id]) (hamount : int4 dto.amount = true)
    (hheld : w.Held (getLockKey tenant.slug event.id seat.id) u seat.id) :
    (initiateBooking P tenant u dto).twp (timed P)
      (Served (getLockKey tenant.slug event.id seat.id))
      (fun r w' => r.status = .PENDING ∧
        ∃ b ∈ w'.bookings.rows, PendingRow tenant event.id seat.id u r b) w := by
  unfold initiateBooking
  rw [hseatIds, heventId]
  refine twp_await fun x hx => ⟨_, _, rfl, twp_throwIf ?_ ?_⟩
  · have hfound := Catalog.findEvent_of_mem hevent
    rw [htenant] at hfound
    rw [World.tick_catalog, hfound]
    rfl
  replace hheld := hheld.tick hx
  refine twp_await fun y hy => ⟨_, _, rfl, twp_throwIf ?_ ?_⟩
  · have hlen := filter_seatsOf (c := w.catalog) hseat
    rw [hseatEvent] at hlen
    rw [(shuffle_perm _ _).length_eq, World.tick_catalog, World.tick_catalog, hlen]
    rfl
  replace hheld := hheld.tick hy
  generalize (w.tick x.1).tick y.1 = w at hheld
  rw [twp_bind]
  refine twp_mono (twp_validateLocksOwned hheld) fun _ w hheld => ?_
  refine twp_await fun x hx => ⟨_, _, rfl, twp_await fun y hy => ⟨_, _, rfl, ?_⟩⟩
  refine twp_throwIf ?_ ?_
  · have hnone : ((w.tick x.1).tick y.1).bookedSeats [seat.id] tenant.id event.id
        (w.tick x.1).clock = [] := (hheld.idle.tick x.1).bookedSeats tenant.id event.id
    rw [shuffle_eq_nil.mpr hnone]
    rfl
  refine twp_await fun z _ => ⟨_, _, rfl, twp_await fun z' _ => ⟨_, _, rfl, ?_⟩⟩
  refine twp_await fun o ho => ⟨_, _, rfl, twp_await fun n hn => ?_⟩
  obtain ⟨t, ht⟩ := create_of_new (t := w.bookings) (d :=
    { tenantId := tenant.id, userId := u, eventId := event.id, status := .PENDING,
      amount := dto.amount, currency := currencyOf P dto, razorpayOrderId := o.2.fresh,
      expiresAt := (w.tick x.1).clock + P.bookingTtlMinutes * 60 * 1000, seatIds := [seat.id] })
    hamount hn.drawsNew ho.drawsNew
  refine ⟨_, _, perform_create ht, ?_⟩
  refine twp_await fun x _ => ⟨_, _, rfl, twp_await fun y _ => ⟨_, _, rfl, ?_⟩⟩
  rw [twp_bind]
  -- the release leaves the new row as it is
  refine twp_mono (twp_frame (I := fun w => w.bookings = t)
    (fun c hc o w hw => (exec_bookings P o.2 (w.tick o.1)
      (Cmd.writesBookings_of_ofSeatLocks hc)).trans hw) (all_releaseMany ..) twp_releaseMany rfl)
    fun _ w hw => ?_
  refine twp_await fun x _ => ⟨_, _, rfl, rfl, _, ?_, ⟨rfl, rfl, rfl, rfl, rfl, rfl, rfl, rfl⟩⟩
  show _ ∈ w.bookings.rows
  rw [hw.2, BookingTable.create_eq_some.mp ht]
  exact List.mem_append_right _ (List.mem_singleton_self _)

end Served

/-- **Availability**: from any state, a seat that no active booking holds and
whose lock key does not exist can be locked and then booked by any user for any
amount the column takes, as long as the services answer and the lock lasts. The
PENDING row with the seat is stored. -/
theorem lockThenBook_ok (P : Platform) (w : World) (tenant : TenantContext) (event : Event)
    (seat : Seat) (userId : String) (dto : InitiateBookingDto) (xs : Nat → Time × Oracle)
    (httl : 0 < P.seatLockTtlSeconds) (hevent : event ∈ w.catalog.events)
    (htenant : event.tenantId = tenant.id) (hseat : seat ∈ w.catalog.seats)
    (hseatEvent : seat.eventId = event.id) (heventId : dto.eventId = event.id)
    (hseatIds : newSet dto.seatIds = [seat.id]) (hamount : int4 dto.amount = true)
    (hidle : ∀ b ∈ w.bookings.rows, seat.id ∈ b.bookingSeats → b.activeAt w.clock = false)
    (hfree : w.liveLock (getLockKey tenant.slug event.id seat.id) = none)
    (hserved : (lockSeat P tenant.slug event.id seat.id userId >>= fun _ =>
      initiateBooking P tenant userId dto).Along (timed P)
        (Served (getLockKey tenant.slug event.id seat.id)) xs 0 w) :
    ∃ r n w', (lockSeat P tenant.slug event.id seat.id userId >>= fun _ =>
      initiateBooking P tenant userId dto).run (timed P) xs 0 w = ⟨.ok r, n, w'⟩ ∧
        r.status = .PENDING ∧
        ∃ b ∈ w'.bookings.rows, PendingRow tenant event.id seat.id userId r b := by
  have htwp : (lockSeat P tenant.slug event.id seat.id userId >>= fun _ =>
      initiateBooking P tenant userId dto).twp (timed P)
        (Served (getLockKey tenant.slug event.id seat.id)) (fun r w' => r.status = .PENDING ∧
          ∃ b ∈ w'.bookings.rows, PendingRow tenant event.id seat.id userId r b) w := by
    rw [twp_bind]
    refine twp_mono (twp_lockSeat httl hidle hfree) fun _ w' hw' => ?_
    obtain ⟨hcatalog, hheld⟩ := hw'
    rw [← hcatalog] at hevent hseat
    exact twp_initiateBooking hevent htenant hseat hseatEvent heventId hseatIds hamount hheld
  exact run_of_twp htwp hserved

/-- The first booking of the seat has run out, but its row is still there as
PENDING. -/
theorem lockThenBook_runOut :
    ∃ r n w', (lockSeat Sample.platform "acme" "e1" "s1" "u2" >>= fun _ =>
      initiateBooking Sample.platform Sample.tenant "u2" Sample.dto).run (timed Sample.platform)
        (fun _ => (600001, { fresh := "x2" })) 0 (Sample.booked.tick 600000) = ⟨.ok r, n, w'⟩ ∧
        r.status = .PENDING ∧ ∃ b ∈ w'.bookings.rows, PendingRow Sample.tenant "e1" "s1" "u2" r b :=
  lockThenBook_ok Sample.platform (Sample.booked.tick 600000) Sample.tenant
    ⟨"e1", "t1", "Opening night", 1000000000⟩ ⟨"s1", "e1", 1⟩ "u2" Sample.dto _ (by decide)
    (by decide +kernel) rfl (by decide +kernel) rfl rfl (by decide +kernel) (by decide)
    (by decide +kernel) (by decide +kernel) (by decide +kernel)

/-- No booking can be made for 3000000000 paise: the order is created, and the
insert refuses the amount. -/
theorem not_lockThenBook_amount :
    ¬ ∀ (P : Platform) (w : World) (tenant : TenantContext) (event : Event) (seat : Seat)
      (userId : String) (dto : InitiateBookingDto) (xs : Nat → Time × Oracle),
      Reachable P w → 0 < P.seatLockTtlSeconds → event ∈ w.catalog.events →
      event.tenantId = tenant.id → seat ∈ w.catalog.seats → seat.eventId = event.id →
      dto.eventId = event.id → newSet dto.seatIds = [seat.id] → 1 ≤ dto.amount →
      (∀ b ∈ w.bookings.rows, seat.id ∈ b.bookingSeats → b.activeAt w.clock = false) →
      w.liveLock (getLockKey tenant.slug event.id seat.id) = none →
      (lockSeat P tenant.slug event.id seat.id userId >>= fun _ =>
        initiateBooking P tenant userId dto).Along (timed P)
          (Served (getLockKey tenant.slug event.id seat.id)) xs 0 w →
      ∃ r, ((lockSeat P tenant.slug event.id seat.id userId >>= fun _ =>
        initiateBooking P tenant userId dto).run (timed P) xs 0 w).result = .ok r := by
  intro h
  obtain ⟨r, hr⟩ := h Sample.platform Sample.world Sample.tenant
    ⟨"e1", "t1", "Opening night", 1000000000⟩ ⟨"s1", "e1", 1⟩ "u1"
    { Sample.dto with amount := 3000000000 } (fun _ => (0, { fresh := "x1" }))
    ⟨0, Sample.catalog, [], by simp, rfl⟩
    (by decide) (by decide) rfl (by decide) rfl rfl rfl (by decide) (by decide +kernel)
    (by decide +kernel) (by decide +kernel)
  have hrefused : ((lockSeat Sample.platform "acme" "e1" "s1" "u1" >>= fun _ =>
      initiateBooking Sample.platform Sample.tenant "u1"
        { Sample.dto with amount := 3000000000 }).run (timed Sample.platform)
          (fun _ => (0, { fresh := "x1" })) 0 Sample.world).result
      = .error (.step (.prisma "P2020")) := by decide +kernel
  cases hr.symm.trans hrefused

end Omnipax
