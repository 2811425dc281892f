import Omnipax.Admission
import Omnipax.Webhook

/-!
# What an atomic call does to the bookings

One specification for each operation that writes the `Booking` table, from
any state and whatever the services answer. A reservation adds at most one
row, and only after every check passed; a delivery or an expiry job changes
at most the row it is about, and only when it is PENDING.
-/

namespace Omnipax

open Conc Prog

/-- An update followed by commands that leave the table alone: the table
as it was, or updated. -/
theorem wlp_update {P : Platform} {α : Type} {w : World} {id : String} {d : BookingUpdate}
    {f : BookingWithTenant → M α} {post : World → Prop}
    (hf : ∀ u, (f u).All (Cmd.writesBookings · = false))
    (hpost : ∀ w', w'.bookings = w.bookings ∨ w.bookings.update id d = some w'.bookings →
      post w') :
    (await (.bookingUpdate id d) >>= f).wlp (machine P) (fun _ => post) (fun _ => post) w := by
  have hexec : ∀ o w', w'.bookings = (exec P (.bookingUpdate id d) o w).2.bookings →
      post w' := by
    intro o w' hw'
    rcases exec_update P o w id d with hsame | ⟨-, t, ht, hres⟩
    · exact hpost w' (Or.inl (hw'.trans hsame))
    · exact hpost w' (Or.inr ((hw'.trans hres) ▸ ht))
  refine wlp_await (fun o _ => hexec o _ rfl) fun o updated hok => ?_
  refine wlp_mono (wlp_frame World.bookings
    (fun _ hc o w => exec_bookings P o w hc) (hf updated) _ rfl)
    (fun _ w' hw' => hexec {} w' ?_) fun _ w' hw' => hexec {} w' ?_
  all_goals
    rw [hw', exec_of_up (.inr rfl)]
    rfl

/-! ## `initiateBooking` -/

/-- `initiateBooking` adds the row `n`: what the row holds, and what the
checks before it established. -/
structure Reserves (P : Platform) (tenant : TenantContext) (userId : String)
    (dto : InitiateBookingDto) (w : World) (n : Booking) : Prop where
  tenantId : n.tenantId = tenant.id
  userId : n.userId = userId
  eventId : n.eventId = dto.eventId
  status : n.status = .PENDING
  expiresAt : n.expiresAt = w.clock + P.bookingTtlMinutes * 60 * 1000
  bookingSeats : n.bookingSeats = newSet dto.seatIds
  event_found : (w.catalog.findEvent dto.eventId tenant.id).isSome = true
  seats_found : ∀ s ∈ newSet dto.seatIds, ∃ seat ∈ w.catalog.seatsOf dto.eventId, seat.id = s
  seats_free : w.bookedSeats (newSet dto.seatIds) tenant.id dto.eventId w.clock = []

/-- An atomic `initiateBooking` leaves the table alone or adds one row, all
checks having passed in the state it started from. -/
theorem wlp_initiateBooking_rows (P : Platform) (tenant : TenantContext) (userId : String)
    (dto : InitiateBookingDto) (w : World) :
    let post := fun w' : World => w'.bookings = w.bookings ∨ ∃ n,
      Reserves P tenant userId dto w n ∧ w'.bookings.rows = w.bookings.rows ++ [n]
    (initiateBooking P tenant userId dto).wlp (machine P) (fun _ => post) (fun _ => post) w := by
  intro post
  have hw : post w := Or.inl rfl
  unfold initiateBooking
  refine wlp_read rfl (fun _ => hw) fun _ event hevent => ?_
  refine wlp_check hw fun hsome => ?_
  refine wlp_read rfl (fun _ => hw) fun o seats hseats => ?_
  refine wlp_check hw fun hlen => ?_
  rw [wlp_bind]
  refine wlp_mono (wlp_frame (fun w : World => w)
    (fun _ hc o w => exec_readOnly P o w hc) (all_validateLocksOwned ..) w rfl)
    (fun _ w' (hw' : w' = w) => ?_) fun _ w' (hw' : w' = w) => hw' ▸ hw
  rw [hw']
  refine wlp_read rfl (fun _ => hw) fun _ now hnow => ?_
  refine wlp_read rfl (fun _ => hw) fun _ existing hexisting => ?_
  refine wlp_check hw fun hnone => ?_
  refine wlp_read rfl (fun _ => hw) fun _ _ _ => ?_
  refine wlp_read rfl (fun _ => hw) fun _ _ _ => ?_
  refine wlp_read rfl (fun _ => hw) fun _ order _ => ?_
  have hnow : w.clock = now := Except.ok.inj hnow
  have hseats := Except.ok.inj hseats
  have hexisting := Except.ok.inj hexisting
  have hres : ∀ id, Reserves P tenant userId dto w (BookingCreate.row
      { tenantId := tenant.id, userId, eventId := dto.eventId, status := .PENDING,
        amount := dto.amount, currency := currencyOf P dto, razorpayOrderId := order.id,
        expiresAt := now + P.bookingTtlMinutes * 60 * 1000, seatIds := newSet dto.seatIds }
      id) := fun id =>
    { tenantId := rfl, userId := rfl, eventId := rfl, status := rfl
      expiresAt := by rw [hnow]; rfl
      bookingSeats := rfl
      event_found := by
        obtain rfl := Except.ok.inj hevent
        simpa using hsome
      seats_found := fun s hs => by
        refine Catalog.seats_found_of_length o.order ?_ hs
        rw [hseats]
        simpa using hlen
      seats_free := by
        rw [hnow, ← shuffle_eq_nil, hexisting]
        simpa using hnone }
  refine wlp_await (fun o _ => ?_) fun o booking hbooking => ?_
  · rcases exec_create P o w _ with hsame | hrows
    · exact Or.inl (congrArg World.bookings hsame)
    · exact Or.inr ⟨_, hres o.fresh, hrows⟩
  · -- the insert was answered; nothing after it writes the table
    have hcreated := perform_create_ok hbooking
    refine wlp_mono (wlp_frame World.bookings
      (fun _ hc o w => exec_bookings P o w hc) ?_ _ rfl)
      (fun _ w' hw' => Or.inr ⟨_, hres o.fresh, ?_⟩)
      fun _ w' hw' => Or.inr ⟨_, hres o.fresh, ?_⟩
    · exact .bind (all_await rfl) fun _ => .bind (all_await rfl) fun _ =>
        .bind ((all_releaseMany ..).mono fun _ => Cmd.writesBookings_of_ofSeatLocks) fun _ =>
          .bind (all_await rfl) fun _ => trivial
    · rw [hw', hcreated]
    · rw [hw', hcreated]

/-! ## `processPaymentWebhook` -/

/-- A delivery confirms the booking it concerns: a new event, an update
the unique indexes accept. -/
structure Confirms (P : Platform) (w : World) (r : WebhookRequest) (b : Booking)
    (t : BookingTable) : Prop where
  concerns : ∃ orderId paymentId, Concerns P w r orderId paymentId b ∧
    w.recorded (r.rowId paymentId) = false ∧
    ∃ salt, w.bookings.update b.id (confirmUpdate P r paymentId (w.withTenant b) salt) = some t

theorem perform_insert_ok {P : Platform} {o : Oracle} {w : World} {d : WebhookEventCreate}
    {a : Unit} (h : (perform P o w (.webhookEventCreate d)).1 = .ok a) :
    (∃ s, d.eventType = .str s) ∧ w.recorded d.eventId = false := by
  simp only [perform] at h
  split at h
  · rename_i het _ _
    split at h
    · cases h
    · rename_i hnew
      exact ⟨⟨_, Option.some.inj (Json.str?_eq_some.mp het)⟩, by
        simpa [World.recorded] using hnew⟩
  · cases h

theorem all_webhook_of_no_refs {P : Platform} {r : WebhookRequest} (h : r.refs? = none) :
    (webhookEventId r >>= processEvent P r).All (Cmd.ofLookup · = true) := by
  refine .bind all_webhookEventId fun eventId => ?_
  unfold processEvent
  refine .bind (all_settle rfl) fun inserted => ?_
  split
  · trivial
  · trivial
  · rcases confirmOrder_of_no_refs (P := P) h with h | h <;> rw [h] <;> trivial

theorem wlp_confirmOrder_rows {P : Platform} {r : WebhookRequest} {orderId paymentId : String}
    {w : World} {post : World → Prop} (hrefs : r.refs? = some (orderId, paymentId))
    (hsame : ∀ w', w'.bookings = w.bookings → post w')
    (hupd : ∀ w' b t salt, w.bookings.findByOrder? orderId = some b → b.status = .PENDING →
      w.bookings.update b.id (confirmUpdate P r paymentId (w.withTenant b) salt) = some t →
      w'.bookings = t → post w') :
    (confirmOrder P r).wlp (machine P) (fun _ => post) (fun _ => post) w := by
  have hw : post w := hsame w rfl
  rw [confirmOrder_of_refs hrefs]
  refine wlp_read rfl (fun _ => hw) fun _ found hfound => ?_
  obtain rfl := Except.ok.inj hfound
  cases hb : w.bookings.findByOrder? orderId with
  | none => exact hw
  | some b =>
      simp only [Option.map_some]
      by_cases hpend : b.status = .PENDING
      · rw [confirmPending_of_pending hpend]
        refine wlp_read rfl (fun _ => hw) fun o salt _ => ?_
        refine wlp_read rfl (fun _ => hw) fun o qr hqr => ?_
        obtain rfl := Except.ok.inj hqr
        refine wlp_update (d := confirmUpdate P r paymentId (w.withTenant b) salt)
          (fun _ => .bind (all_await rfl) fun _ => trivial) fun w' hw' => ?_
        rcases hw' with hw' | ht
        · exact hsame w' hw'
        · exact hupd w' b _ salt hb hpend ht rfl
      · rw [confirmPending_of_not_pending hpend]
        exact hw

/-- An atomic delivery leaves the table alone or confirms the PENDING
booking it concerns. -/
theorem wlp_webhook_rows (P : Platform) (r : WebhookRequest) (w : World) :
    let post := fun w' : World => w'.bookings = w.bookings ∨
      ∃ b, Confirms P w r b w'.bookings
    (processPaymentWebhook P r).wlp (machine P) (fun _ => post) (fun _ => post) w := by
  intro post
  have hw : post w := Or.inl rfl
  cases hsigned : r.signed P with
  | false =>
      obtain ⟨e, he⟩ := processPaymentWebhook_of_unsigned hsigned
      rw [he]
      exact hw
  | true =>
      rw [processPaymentWebhook_of_signed hsigned]
      cases hrefs : r.refs? with
      | none =>
          exact wlp_mono (wlp_frame World.bookings
            (fun _ hc o w => exec_bookings P o w (Cmd.writesBookings_of_ofLookup hc))
            (all_webhook_of_no_refs hrefs) _ rfl)
            (fun _ _ h => Or.inl h) fun _ _ h => Or.inl h
      | some x =>
          obtain ⟨orderId, paymentId⟩ := x
          rw [webhookEventId_of_refs hrefs, ret_bind]
          refine wlp_settle fun o => ?_
          rw [← eventRow]
          have hb : (exec P (.webhookEventCreate (eventRow r paymentId)) o w).2.bookings
              = w.bookings := exec_bookings P o w rfl
          split
          · exact Or.inl hb
          · exact Or.inl hb
          · rename_i a hok
            have hperf := perform_of_exec_ok hok
            rw [hperf] at hok
            obtain ⟨het, hnew⟩ := perform_insert_ok hok
            refine wlp_confirmOrder_rows hrefs (fun w' hw' => Or.inl (hw'.trans hb)) ?_
            intro w' b t salt hfind hpend ht hw'
            rw [hb] at hfind ht
            rw [withTenant_congr (exec_catalog ..)] at ht
            exact Or.inr ⟨b, orderId, paymentId, ⟨⟨hsigned, het, hrefs⟩, hfind, hpend⟩, hnew,
              salt, hw' ▸ ht⟩

/-! ## `expirePendingBooking` -/

/-- An atomic expiry job leaves the table alone or expires its booking,
PENDING and past its `expiresAt`. -/
theorem wlp_expire_rows (P : Platform) (id : String) (w : World) :
    let post := fun w' : World => w'.bookings = w.bookings ∨
      ∃ b, w.bookings.find? id = some b ∧ b.status = .PENDING ∧ b.expiresAt ≤ w.clock ∧
        w.bookings.update b.id { status := .EXPIRED } = some w'.bookings
    (expirePendingBooking id).wlp (machine P) (fun _ => post) (fun _ => post) w := by
  intro post
  have hw : post w := Or.inl rfl
  unfold expirePendingBooking
  refine wlp_read rfl (fun _ => hw) fun _ now hnow => ?_
  obtain rfl := Except.ok.inj hnow
  refine wlp_read rfl (fun _ => hw) fun _ found hfound => ?_
  obtain rfl := Except.ok.inj hfound
  cases hb : w.bookings.find? id with
  | none => exact hw
  | some b =>
      simp only [Option.map_some]
      by_cases hdue : b.status = .PENDING ∧ b.expiresAt ≤ w.clock
      · rw [expireFound_of_due hdue.1 hdue.2]
        exact wlp_update (fun _ => all_await rfl) fun w' hw' =>
          hw'.imp_right fun ht => ⟨b, hb, hdue.1, hdue.2, ht⟩
      · rw [expireFound_of_not_due hdue]
        exact hw

/-! ## Turns -/

/-- What a turn of each operation may make of the table. -/
def BookingEffect (P : Platform) (w : World) (t : BookingTable) : Op → Prop
  | .initiateBooking tenant userId dto => t = w.bookings ∨ ∃ n,
      Reserves P tenant userId dto w n ∧ t.rows = w.bookings.rows ++ [n]
  | .processPaymentWebhook r => t = w.bookings ∨ ∃ b, Confirms P w r b t
  | .expirePendingBooking id => t = w.bookings ∨
      ∃ b, w.bookings.find? id = some b ∧ b.status = .PENDING ∧ b.expiresAt ≤ w.clock ∧
        w.bookings.update b.id { status := .EXPIRED } = some t
  | _ => t = w.bookings

theorem wlp_map {P : Platform} {α β : Type} {p : M α} {f : α → β} {I : World → Prop} {w : World}
    (h : p.wlp (machine P) (fun _ => I) (fun _ => I) w) :
    (f <$> p).wlp (machine P) (fun _ => I) (fun _ => I) w :=
  (wlp_bind ..).mpr h

theorem turn_bookings (P : Platform) (w : World) (x : LiveTurn) :
    BookingEffect P (w.tick x.env) ((live P).turn w x).bookings x.op := by
  obtain ⟨t, op, os⟩ := x
  refine state_of_wlp (I := fun w' : World => BookingEffect P (w.tick t) w'.bookings op) ?_ os 0
  show (op.body P).wlp (machine P) _ _ (w.tick t)
  have hframe : ∀ {α : Type} {p : M α}, p.All (Cmd.writesBookings · = false) →
      p.wlp (machine P) (fun _ w' => World.bookings w' = (w.tick t).bookings)
        (fun _ w' => World.bookings w' = (w.tick t).bookings) (w.tick t) := fun hp =>
    wlp_frame World.bookings (fun _ hc o w => exec_bookings P o w hc) hp _ rfl
  cases op with
  | lockSeat slug e s u =>
      exact hframe ((all_map _ (all_lockSeat ..)).mono
        fun _ => Cmd.writesBookings_of_ofLockSeat)
  | unlockSeat slug e s u =>
      exact hframe ((all_map _ (all_unlockSeat ..)).mono
        fun _ => Cmd.writesBookings_of_ofSeatLocks)
  | initiateBooking tenant u dto => exact wlp_map (wlp_initiateBooking_rows P tenant u dto _)
  | processPaymentWebhook r => exact wlp_map (wlp_webhook_rows P r _)
  | expirePendingBooking id => exact wlp_map (wlp_expire_rows P id _)
  | handleExpiryJob d =>
      exact wlp_map (hframe ((all_handleExpiryJob d).mono
        fun _ => Cmd.writesBookings_of_ofSeatLocks))

theorem turn_catalog (P : Platform) (w : World) (x : LiveTurn) :
    ((live P).turn w x).catalog = w.catalog :=
  run_frame (M := machine P) World.catalog (fun c _ o w => exec_catalog P o w c)
    (all_true _) x.oracles 0 (w.tick x.env)

theorem turn_clock (P : Platform) (w : World) (x : LiveTurn) :
    ((live P).turn w x).clock = (w.tick x.env).clock :=
  run_frame (M := machine P) World.clock (fun c _ o w => exec_clock P o w c)
    (all_true _) x.oracles 0 (w.tick x.env)

end Omnipax
