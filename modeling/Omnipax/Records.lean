import Omnipax.Settlement

/-!
# What the rows of the booking table hold

A row is written by the insert of a reservation and by the updates of
deliveries and expiry jobs. Nothing in the schema ties a seat to the event
of its booking, the event to the tenant, or the ticket code to the QR code;
what ties them is that each insert follows the two lookups of its own call,
and that the QR code is made from the row the update then writes to. The
catalogue does not change, a row keeps its id and tenant, so what a call
has read still holds when it writes, however the calls interleave.
-/

namespace Omnipax

open Conc Prog

/-! ## The rows -/

/-- The booking has its ticket: a code, the QR code of the booking with this
code, and the payment. -/
structure Booking.Ticketed (P : Platform) (c : Catalog) (b : Booking) : Prop where
  payment : b.razorpayPaymentId.isSome = true
  code : ∃ ticketCode, b.ticketCode = some ticketCode ∧ b.ticketQrData = some (P.toDataURL
    { bookingId := b.id, tenantSlug := c.tenantSlug b.tenantId, ticketCode })

/-- The booking is for distinct seats of an event of its tenant, a list of
seats as `Q` says, and has its ticket when it is CONFIRMED. -/
structure Booking.Regular (P : Platform) (c : Catalog) (Q : List String → Prop) (b : Booking) :
    Prop where
  coherent : b.Coherent c
  nodup : b.bookingSeats.Nodup
  seats : Q b.bookingSeats
  ticketed : b.status = .CONFIRMED → b.Ticketed P c

/-- The row a call has found is still there under its id, of the same
tenant. -/
def StillThere (c : Catalog) (found : BookingWithTenant) (s : LiveSnap) : Prop :=
  ∃ b ∈ s.world.bookings.rows, b.id = found.booking.id ∧
    c.tenantSlug b.tenantId = found.tenantSlug

/-- Rows are regular; an insert asks for a regular row, an update expires
its row or makes it a ticketed one. -/
def recordsOutline (P : Platform) (c : Catalog) (Q : List String → Prop) (starts : Op → Prop) :
    LiveOutline where
  toDiscipline := .free sig World Oracle starts
  inv s := s.world.catalog = c ∧ ∀ b ∈ s.world.bookings.rows, b.Regular P c Q
  pre _ _ cmd s :=
    (∀ d ∈ cmd.create?, ∀ id, (d.row id).Regular P c Q) ∧
    ∀ u ∈ cmd.update?, u.2 = { status := .EXPIRED } ∨
      ∃ b ∈ s.world.bookings.rows, b.id = u.1 ∧ (u.2.apply b).Ticketed P c

section Records

variable {P : Platform} {c : Catalog} {Q : List String → Prop} {starts : Op → Prop}
  {s : LiveSnap} {i : Nat} {op : Op}

theorem StillThere.persistent (P : Platform) (c : Catalog) (found : BookingWithTenant) :
    Persistent (live P) (StillThere c found) :=
  persistent_row fun _ _ h => h

/-- **Step**: commands that meet their assertion keep the rows regular. -/
theorem regular_exec (h : (recordsOutline P c Q starts).inv s) {cmd : Cmd} {o : Oracle}
    (hpre : (recordsOutline P c Q starts).pre i op cmd s) :
    (recordsOutline P c Q starts).inv (s.exec (live P) i op cmd o) := by
  obtain ⟨hcatalog, hrows⟩ := h
  refine ⟨(exec_catalog ..).trans hcatalog, fun b hb => ?_⟩
  rw [Snap.exec_world, live_exec] at hb
  cases hd : cmd.create? with
  | some d =>
      obtain rfl := Cmd.create?_eq_some.mp hd
      rcases exec_create P o s.world d with hsame | hadded
      · rw [hsame] at hb
        exact hrows b hb
      · rw [hadded, List.mem_append, List.mem_singleton] at hb
        rcases hb with hb | rfl
        · exact hrows b hb
        · exact hpre.1 d hd o.fresh
  | none =>
      cases hu : cmd.update? with
      | none =>
          rw [exec_bookings P o s.world (Cmd.writesBookings_of_none hd hu)] at hb
          exact hrows b hb
      | some u =>
          obtain ⟨id, d⟩ := u
          obtain rfl := Cmd.update?_eq_some.mp hu
          rcases exec_update P o s.world id d with hsame | ⟨-, t, ht, hres⟩
          · rw [hsame] at hb
            exact hrows b hb
          · rw [hres, BookingTable.update_eq_some.mp ht] at hb
            obtain ⟨b₁, hb₁, rfl⟩ := List.mem_map.mp hb
            split
            · have hb₁' := hrows b₁ hb₁
              refine ⟨⟨hb₁'.coherent.event_found, hb₁'.coherent.seats_found⟩, hb₁'.nodup,
                hb₁'.seats, fun hc => ?_⟩
              rcases hpre.2 _ hu with hd | ⟨b₂, hb₂, hid, hticket⟩
              · rw [show d = _ from hd] at hc
                cases hc
              · -- one row has this id
                rename_i hid₁
                rwa [BookingTable.eq_of_id hb₁ hb₂ (hid₁.trans hid.symm)]
            · exact hrows b₁ hb₁

theorem records_pre {cmd : Cmd} (hc : cmd.writesBookings = false) (s : LiveSnap) :
    (recordsOutline P c Q starts).pre i op cmd s := by
  rw [recordsOutline]
  simp [Cmd.create?_of_writesBookings hc, Cmd.update?_of_writesBookings hc]

theorem wp_records {α : Type} {p : M α} (hp : p.All (Cmd.writesBookings · = false)) :
    p.wp (live P) (recordsOutline P c Q starts) i op (fun _ _ => True) (fun _ _ => True) s :=
  wp_keep hp (fun _ hc s _ _ => records_pre hc s) persistent_true.kept trivial

/-! ## Reservations -/

theorem nodup_newSet (xs : List String) : (newSet xs).Nodup := by
  induction hn : xs.length using Nat.strong_induction_on generalizing xs with
  | h n ih =>
      cases xs with
      | nil => exact List.nodup_nil
      | cons x xs =>
          have hle := List.length_filter_le (fun b => !b == x) xs
          rw [List.length_cons] at hn
          rw [newSet, List.eraseDups_cons, List.nodup_cons]
          refine ⟨fun hmem => ?_, ih _ (by omega) _ rfl⟩
          simpa using (List.mem_filter.mp (List.mem_eraseDups.mp hmem)).2

/-- An insert comes after the two lookups of its call, in a catalogue that
stays as it is. -/
theorem wp_initiateBooking_records {tenant : TenantContext} {userId : String}
    {dto : InitiateBookingDto} (hQ : Q (newSet dto.seatIds)) :
    (initiateBooking P tenant userId dto).wp (live P) (recordsOutline P c Q starts) i op
      (fun _ _ => True) (fun _ _ => True) s := by
  have hpre : ∀ {cmd : Cmd}, cmd.writesBookings = false → ∀ s,
      (recordsOutline P c Q starts).inv s → True →
        (recordsOutline P c Q starts).pre i op cmd s :=
    fun hc s _ _ => records_pre hc s
  have htrue : Stable (live P) (recordsOutline P c Q starts) i fun _ => True :=
    persistent_true.stable
  unfold initiateBooking
  refine wp_await htrue trivial (hpre rfl) fun s _ event hinv _ _ _ hevent => ?_
  refine wp_throwIf fun hsome => ?_
  rw [perform_of_exec_ok hevent] at hevent
  have hfound : (c.findEvent dto.eventId tenant.id).isSome = true := by
    obtain rfl := Except.ok.inj hevent
    rw [hinv.1] at hsome
    simpa using hsome
  refine wp_await htrue trivial (hpre rfl) fun s o seats hinv _ _ hinv' hseats => ?_
  refine wp_throwIf fun hlen => ?_
  rw [perform_of_exec_ok hseats] at hseats
  have hseatsOf : ∀ seatId ∈ newSet dto.seatIds,
      ∃ seat ∈ c.seatsOf dto.eventId, seat.id = seatId := by
    intro seatId hseatId
    obtain rfl := Except.ok.inj hseats
    rw [hinv.1] at hlen
    exact Catalog.seats_found_of_length o.order (by simpa using hlen) hseatId
  refine wp_bind hinv' ((wp_records ((all_validateLocksOwned ..).mono
    fun _ => Cmd.writesBookings_of_readOnly)).mono (fun _ s _ _ => ?_) fun _ _ _ h => h)
  refine wp_await htrue trivial (hpre rfl) fun _ _ now _ _ _ _ _ => ?_
  refine wp_await htrue trivial (hpre rfl) fun _ _ existing _ _ _ _ _ => ?_
  refine wp_throwIf fun _ => ?_
  refine wp_await htrue trivial (hpre rfl) fun _ _ _ _ _ _ _ _ => ?_
  refine wp_await htrue trivial (hpre rfl) fun _ _ _ _ _ _ _ _ => ?_
  refine wp_await htrue trivial (hpre rfl) fun _ _ order _ _ _ _ _ => ?_
  refine wp_await htrue trivial (fun s _ _ => ⟨fun d hd id => ?_, fun u hu => nomatch hu⟩)
    fun _ _ booking _ _ _ _ _ => ?_
  · obtain rfl := Option.some.inj hd
    exact ⟨⟨hfound, hseatsOf⟩, nodup_newSet _, hQ, nofun⟩
  · exact wp_records (.bind (all_await rfl) fun _ => .bind (all_await rfl) fun _ =>
      .bind ((all_releaseMany ..).mono fun _ => Cmd.writesBookings_of_ofSeatLocks) fun _ =>
        .bind (all_await rfl) fun _ => trivial)

/-! ## Deliveries and expiry jobs -/

/-- The QR code a delivery writes is made from the row it has found, which
is the row the update finds. -/
theorem confirmOutline_records (r : WebhookRequest) :
    ConfirmOutline P (recordsOutline P c Q starts) i op r (fun _ => True)
      (StillThere c) (fun _ _ => True) fun _ _ => True where
  pre cmd hc s _ := records_pre (Cmd.writesBookings_of_ofLookup hc) s
  before := persistent_true.kept
  read found := (StillThere.persistent P c found).kept
  written _ := persistent_true.stable
  done _ := persistent_true.stable
  on_read s o orderId paymentId b hinv _ _ hfind _ := by
    refine ⟨b, ?_, rfl, ?_⟩
    · rw [Snap.exec_world, live_exec, exec_readOnly P o s.world rfl]
      exact (BookingTable.mem_of_findByOrder? hfind).1
    · rw [World.withTenant, hinv.1]
  update_pre s found paymentId salt _ hG := by
    refine ⟨?_, fun u hu => Or.inr ?_⟩
    · intro d hd
      cases hd
    obtain rfl := Option.some.inj hu
    obtain ⟨b, hb, hid, hslug⟩ := hG
    refine ⟨b, hb, hid, rfl, _, rfl, ?_⟩
    show some (P.toDataURL ⟨found.booking.id, found.tenantSlug, _⟩) =
      some (P.toDataURL ⟨b.id, c.tenantSlug b.tenantId, _⟩)
    rw [hid, hslug]
  on_update _ _ _ _ _ _ _ _ _ := trivial
  emit_pre s _ _ _ _ _ _ := records_pre rfl s
  on_emit _ _ _ _ _ _ _ _ := trivial

theorem wp_expirePendingBooking_records (id : String) :
    (expirePendingBooking id).wp (live P) (recordsOutline P c Q starts) i op
      (fun _ _ => True) (fun _ _ => True) s := by
  have htrue : Stable (live P) (recordsOutline P c Q starts) i fun _ => True :=
    persistent_true.stable
  unfold expirePendingBooking
  refine wp_await htrue trivial (fun s _ _ => records_pre rfl s) fun _ _ now _ _ _ _ _ => ?_
  refine wp_await htrue trivial (fun s _ _ => records_pre rfl s)
    fun _ _ found _ _ _ _ _ => ?_
  cases found with
  | none => exact wp_ret htrue trivial fun _ _ _ => trivial
  | some found =>
      dsimp only
      by_cases hdue : found.booking.status = .PENDING ∧ found.booking.expiresAt ≤ now
      · rw [expireFound_of_due hdue.1 hdue.2]
        refine wp_await htrue trivial (fun s _ _ => ⟨(fun d hd => nomatch hd), fun u hu => ?_⟩)
          fun _ _ _ _ _ _ _ _ => wp_records (all_await rfl)
        obtain rfl := Option.some.inj hu
        exact .inl rfl
      · rw [expireFound_of_not_due hdue]
        exact wp_ret htrue trivial fun _ _ _ => trivial

end Records

theorem recordsOutline_valid (P : Platform) (c : Catalog) {Q : List String → Prop}
    {starts : Op → Prop}
    (hQ : ∀ tenant userId dto, starts (.initiateBooking tenant userId dto) →
      Q (newSet dto.seatIds)) :
    Outline.Valid (live P) (recordsOutline P c Q starts) fun _ _ _ _ => True where
  inv_exec hinv _ _ _ _ _ hpre _ := regular_exec hinv hpre
  inv_env h _ := h
  body := by
    intro i op s hop hinv _
    cases op with
    | lockSeat t e seat u =>
        exact wp_records ((all_map _ (all_lockSeat ..)).mono
          fun _ => Cmd.writesBookings_of_ofLockSeat)
    | unlockSeat t e seat u =>
        exact wp_records ((all_map _ (all_unlockSeat ..)).mono
          fun _ => Cmd.writesBookings_of_ofSeatLocks)
    | handleExpiryJob d =>
        exact wp_records ((all_map _ (all_handleExpiryJob d)).mono
          fun _ => Cmd.writesBookings_of_ofSeatLocks)
    | initiateBooking tenant u dto =>
        exact wp_bind hinv ((wp_initiateBooking_records (hQ tenant u dto hop)).mono
          (fun _ _ _ _ _ _ _ => trivial) fun _ _ _ h => h)
    | processPaymentWebhook r =>
        exact wp_bind hinv (((confirmOutline_records r).wp_webhook hinv trivial).mono
          (fun _ _ _ _ _ _ _ => trivial) fun _ _ _ h => h)
    | expirePendingBooking id =>
        exact wp_bind hinv ((wp_expirePendingBooking_records id).mono
          (fun _ _ _ _ _ _ _ => trivial) fun _ _ _ h => h)

/-- However the operations interleave and whatever fails, every row is
regular. -/
theorem regular_run (P : Platform) (clock : Time) (catalog : Catalog) {Q : List String → Prop}
    {starts : Op → Prop} (hQ : ∀ tenant userId dto, starts (.initiateBooking tenant userId dto) →
      Q (newSet dto.seatIds)) {ls : List LiveLabel} (hls : ∀ op, .spawn op ∈ ls → starts op) :
    ∀ b ∈ ((Config.idle (.init clock catalog)).run (live P) ls).world.bookings.rows,
      b.Regular P catalog Q := by
  have hidle : (recordsOutline P catalog Q starts).inv ⟨.init clock catalog, []⟩ :=
    ⟨rfl, fun _ hb => nomatch hb⟩
  have hgood := Outline.sound (recordsOutline_valid P catalog hQ) (Outline.Good.idle hidle)
    (Discipline.admitsRun_free hls)
  exact hgood.inv.2

/-! ## Coherent bookings -/

/-- What the decorators of `InitiateBookingDto` let through: `ArrayMinSize(1)`
seat ids and an amount of `Min(1)`. -/
def InitiateBookingDto.valid (dto : InitiateBookingDto) : Bool :=
  1 ≤ dto.seatIds.length && 1 ≤ dto.amount

/-- The body of the request has passed the validation of its DTO; the other operations take
none. -/
def Op.validated : Op → Bool
  | .initiateBooking _ _ dto => dto.valid
  | _ => true

theorem newSet_ne_nil {xs : List String} (h : xs ≠ []) : newSet xs ≠ [] := by
  obtain ⟨x, hx⟩ := List.exists_mem_of_ne_nil xs h
  exact List.ne_nil_of_mem (List.mem_eraseDups.mpr hx)

/-- **Coherence**: however reservations of any validated requests, deliveries
and expiry jobs interleave, every booking has seats, distinct ones, all of
the event of the booking, and the event is one of the booking's tenant. -/
theorem coherent_run (P : Platform) (clock : Time) (catalog : Catalog) (ls : List LiveLabel)
    (hls : ∀ op, .spawn op ∈ ls → op.validated = true) :
    ∀ b ∈ ((Config.idle (.init clock catalog)).run (live P) ls).world.bookings.rows,
      b.bookingSeats ≠ [] ∧ b.bookingSeats.Nodup ∧
      (∀ s ∈ b.bookingSeats, ∃ seat ∈ catalog.seats, seat.id = s ∧ seat.eventId = b.eventId) ∧
      ∃ e ∈ catalog.events, e.id = b.eventId ∧ e.tenantId = b.tenantId := by
  intro b hb
  have hQ : ∀ tenant userId dto, Op.validated (.initiateBooking tenant userId dto) = true →
      newSet dto.seatIds ≠ [] := by
    intro tenant userId dto hvalid
    simp only [Op.validated, InitiateBookingDto.valid, Bool.and_eq_true, decide_eq_true_eq]
      at hvalid
    exact newSet_ne_nil (List.length_pos_iff.mp hvalid.1)
  have hreg := regular_run P clock catalog (Q := (· ≠ [])) hQ hls b hb
  refine ⟨hreg.seats, hreg.nodup, fun s hs => ?_, Catalog.findEvent_some hreg.coherent.event_found⟩
  obtain ⟨seat, hseat, hid⟩ := hreg.coherent.seats_found s hs
  simp only [Catalog.seatsOf, List.mem_filter, beq_iff_eq] at hseat
  exact ⟨seat, hseat.1, hid, hseat.2⟩

/-- Two requests for one seat, of which one is let in. -/
theorem coherent_insertThenCheck :
    ∃ b ∈ ((Config.idle Sample.world).run (live Sample.platform)
        Sample.insertThenCheck).world.bookings.rows,
      b.bookingSeats ≠ [] ∧ b.bookingSeats.Nodup ∧
      (∀ s ∈ b.bookingSeats, ∃ seat ∈ Sample.catalog.seats,
        seat.id = s ∧ seat.eventId = b.eventId) ∧
      ∃ e ∈ Sample.catalog.events, e.id = b.eventId ∧ e.tenantId = b.tenantId := by
  have hrows : 0 < ((Config.idle Sample.world).run (live Sample.platform)
      Sample.insertThenCheck).world.bookings.rows.length := by decide +kernel
  obtain ⟨b, hb⟩ := List.exists_mem_of_length_pos hrows
  refine ⟨b, hb, coherent_run Sample.platform 0 Sample.catalog Sample.insertThenCheck
    (fun op hop => ?_) b hb⟩
  simp only [Sample.insertThenCheck, Sample.lockFirst, Sample.steps, List.mem_append,
    List.mem_cons, List.mem_replicate, Label.spawn.injEq, List.not_mem_nil, or_false,
    reduceCtorEq, and_false] at hop
  rcases hop with rfl | rfl | rfl
  all_goals decide

end Omnipax
