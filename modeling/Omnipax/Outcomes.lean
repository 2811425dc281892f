import Omnipax.Effects
import Omnipax.Phases

/-!
# What answered calls leave behind

The state after an atomic call whose commands are all answered, one lemma
for each operation. Such a call either changes nothing that locks, seats and
messages depend on, or makes one of the named changes below, and the lemma
says which and when.
-/

namespace Omnipax

open Conc Prog

def Up (os : Nat → Oracle) : Prop := ∀ n, (os n).fault = none

/-! ## The changes -/

namespace World

def emit (w : World) (m : SeatUpdate) : World :=
  { w with messages := w.messages ++ [m] }

/-- A seat is locked: the lock, the job that watches it, the message. -/
def acquire (P : Platform) (w : World) (v : SeatLockPayload) : World :=
  let key := getLockKey v.tenantSlug v.eventId v.seatId
  let expireAt := w.clock + P.seatLockTtlSeconds * 1000
  let job : Job SeatLockExpiryJobData :=
    ⟨⟨v.tenantSlug, v.eventId, v.seatId, v.token⟩, expireAt, key ++ ":" ++ v.token⟩
  { w with
    locks := w.locks.insert key ⟨v, expireAt⟩
    seatLockExpiryQueue := w.seatLockExpiryQueue ++ [job]
    messages := w.messages ++ [.SEAT_LOCKED v.tenantSlug v.eventId v.seatId v.userId] }

/-- A lock is deleted, and that is announced. -/
def release (w : World) (t e s : String) (reason : UnlockReason) : World :=
  { w with
    locks := w.locks.erase (getLockKey t e s)
    messages := w.messages ++ [.SEAT_UNLOCKED t e s reason] }

/-- The locks of some seats are deleted one after the other. -/
def releaseAll (w : World) (t e : String) (seats : List String) : World :=
  seats.foldl (fun w s => w.release t e s .system) w

/-- What follows the insert of a booking: its expiry job is added, the locks
of its seats are released and the seats announced as reserved. -/
def reserve (w : World) (tenant : TenantContext) (dto : InitiateBookingDto) (n : Booking) :
    World :=
  let job : Job BookingExpiryJobData :=
    ⟨⟨n.id⟩, w.clock + max (n.expiresAt - w.clock) 0, "booking-expiry:" ++ n.id⟩
  let w := { w with bookingExpiryQueue := w.bookingExpiryQueue ++ [job] }
  (w.releaseAll tenant.slug dto.eventId (newSet dto.seatIds)).emit
    (.SEATS_RESERVED_PENDING_PAYMENT tenant.slug dto.eventId (newSet dto.seatIds))

section Release

variable {w : World} {t e : String} {seats : List String}

/-- Deleting locks and announcing it is all `releaseAll` does. -/
theorem releaseAll_eq (w : World) (t e : String) (seats : List String) :
    w.releaseAll t e seats = { w with
      locks := (w.releaseAll t e seats).locks
      messages := w.messages ++ seats.map (.SEAT_UNLOCKED t e · .system) } := by
  induction seats generalizing w with
  | nil => simp [releaseAll]
  | cons s seats ih =>
      have hrest : w.releaseAll t e (s :: seats) = (w.release t e s .system).releaseAll t e seats :=
        rfl
      rw [hrest, ih]
      simp [release]

@[simp] theorem releaseAll_bookings : (w.releaseAll t e seats).bookings = w.bookings := by
  rw [releaseAll_eq]

@[simp] theorem releaseAll_clock : (w.releaseAll t e seats).clock = w.clock := by
  rw [releaseAll_eq]

@[simp] theorem releaseAll_catalog : (w.releaseAll t e seats).catalog = w.catalog := by
  rw [releaseAll_eq]

@[simp] theorem releaseAll_seatLockExpiryQueue :
    (w.releaseAll t e seats).seatLockExpiryQueue = w.seatLockExpiryQueue := by
  rw [releaseAll_eq]

@[simp] theorem releaseAll_bookingExpiryQueue :
    (w.releaseAll t e seats).bookingExpiryQueue = w.bookingExpiryQueue := by
  rw [releaseAll_eq]

@[simp] theorem releaseAll_messages : (w.releaseAll t e seats).messages
    = w.messages ++ seats.map (.SEAT_UNLOCKED t e · .system) := by
  rw [releaseAll_eq]

theorem lookup_releaseAll_of_ne {key : String} (h : ∀ s ∈ seats, key ≠ getLockKey t e s) :
    (w.releaseAll t e seats).locks.lookup key = w.locks.lookup key := by
  induction seats generalizing w with
  | nil => rfl
  | cons s seats ih =>
      have hrest : (w.releaseAll t e (s :: seats)).locks.lookup key
          = (w.release t e s .system).locks.lookup key :=
        ih fun s' hs' => h s' (List.mem_cons_of_mem _ hs')
      rw [hrest]
      exact AList.lookup_erase_ne (h s (List.mem_cons_self ..))

theorem lookup_of_lookup_release {s : String} {reason : UnlockReason} {key : String}
    {en : LockEntry} (h : (w.release t e s reason).locks.lookup key = some en) :
    w.locks.lookup key = some en ∧ key ≠ getLockKey t e s := by
  have hlocks : (w.release t e s reason).locks = w.locks.erase (getLockKey t e s) := rfl
  rw [hlocks] at h
  have hne : key ≠ getLockKey t e s := by
    rintro rfl
    rw [AList.lookup_erase] at h
    cases h
  rw [AList.lookup_erase_ne hne] at h
  exact ⟨h, hne⟩

theorem lookup_of_lookup_releaseAll {key : String} {en : LockEntry}
    (h : (w.releaseAll t e seats).locks.lookup key = some en) :
    w.locks.lookup key = some en ∧ ∀ s ∈ seats, key ≠ getLockKey t e s := by
  induction seats generalizing w with
  | nil => exact ⟨h, by simp⟩
  | cons s seats ih =>
      obtain ⟨hrest, hne⟩ := ih (w := w.release t e s .system) h
      obtain ⟨hfirst, hs⟩ := lookup_of_lookup_release hrest
      exact ⟨hfirst, List.forall_mem_cons.mpr ⟨hs, hne⟩⟩

end Release

end World

section Outcomes

variable {P : Platform} {w : World} {os : Nat → Oracle}

/-! ## Seat locks -/

theorem run_lockSeat (hup : Up os) (t e s u : String) :
    let out := (lockSeat P t e s u).run (machine P) os 0 w
    if 0 < P.seatLockTtlSeconds ∧ w.liveLock (getLockKey t e s) = none then
      out.result.isOk = true ∧ out.state = w.acquire P ⟨t, e, s, u, (os 0).fresh, w.clock⟩
    else out.result.isOk = false ∧ out.state = w := by
  intro out
  have hout : out = (lockSeat P t e s u).run (machine P) os 0 w := rfl
  unfold lockSeat at hout
  rw [run_await_ok (.inl rfl) rfl, run_await_ok (.inl rfl) rfl, run_await,
    exec_of_up (.inr (hup _))] at hout
  by_cases hpx : P.seatLockTtlSeconds * 1000 ≤ 0
  · -- Redis refuses the expiry
    rw [if_neg fun h => by omega]
    simp only [perform, hpx, if_true] at hout
    rw [hout]
    exact ⟨rfl, rfl⟩
  by_cases hfree : w.liveLock (getLockKey t e s) = none
  · rw [if_pos ⟨by omega, hfree⟩]
    simp only [perform, hpx, hfree, if_false, Option.isSome_none, Bool.false_eq_true,
      Bool.not_true, throwIf_false, ret_bind] at hout
    rw [run_await_ok (.inr (hup _)) rfl, run_await_ok (.inl rfl) rfl] at hout
    rw [hout]
    exact ⟨rfl, rfl⟩
  · rw [if_neg fun h => hfree h.2]
    obtain ⟨en, hen⟩ := Option.ne_none_iff_exists'.mp hfree
    simp only [perform, hpx, hen, if_false, Option.isSome_some, if_true, Bool.not_false,
      throwIf_true, err_bind] at hout
    rw [hout]
    exact ⟨rfl, rfl⟩

/-- The user holds a live lock of the seat. -/
def World.holdsLock (w : World) (t e s u : String) : Bool :=
  (w.lockAt t e s).any (·.userId == u)

theorem run_unlockSeat (hup : Up os) (t e s u : String) :
    ((unlockSeat t e s u).run (machine P) os 0 w).state =
      if w.holdsLock t e s u then w.release t e s .user else w := by
  unfold unlockSeat World.holdsLock World.lockAt
  rw [run_await_ok (.inr (hup _)) rfl]
  cases w.liveLock (getLockKey t e s) with
  | none => rfl
  | some en =>
      by_cases hown : en.value.userId = u
      · simp only [Option.map_some, unlockFound, hown, Bool.not_false, Bool.true_and,
          bne_self_eq_false, throwIf_false, ret_bind, Option.any_some, beq_self_eq_true, if_true]
        rw [run_await_ok (.inr (hup _)) rfl, run_await_ok (.inl rfl) rfl]
        rfl
      · have hbad : (en.value.userId != u) = true := bne_iff_ne.mpr hown
        simp [unlockFound, hown, hbad]

/-- The job has something to announce: the lock is gone, or it is the job's
own and out of time. -/
def World.runOut (w : World) (d : SeatLockExpiryJobData) : Bool :=
  (w.liveLock (getLockKey d.tenantSlug d.eventId d.seatId)).all fun en =>
    en.value.token == d.token && en.expireAt ≤ w.clock

theorem run_handleExpiryJob (hup : Up os) (d : SeatLockExpiryJobData) :
    ((handleExpiryJob d).run (machine P) os 0 w).state =
      if w.runOut d then
        if (w.liveLock (getLockKey d.tenantSlug d.eventId d.seatId)).isSome then
          w.release d.tenantSlug d.eventId d.seatId .expired
        else w.emit (.SEAT_UNLOCKED d.tenantSlug d.eventId d.seatId .expired)
      else w := by
  unfold handleExpiryJob World.runOut
  rw [run_await_ok (.inr (hup _)) rfl]
  cases hen : w.liveLock (getLockKey d.tenantSlug d.eventId d.seatId) with
  | none => rfl
  | some en =>
      simp only [Option.map_some, Option.all_some, Option.isSome_some, if_true,
        Bool.and_eq_true, beq_iff_eq, decide_eq_true_eq]
      by_cases htoken : en.value.token = d.token
      · rw [if_pos htoken, run_await_ok (.inr (hup _)) rfl]
        simp only [hen]
        by_cases hout : en.expireAt ≤ w.clock
        · have hmine : en.value.token = d.token ∧ en.expireAt ≤ w.clock := ⟨htoken, hout⟩
          rw [if_pos hmine, if_pos (Int.sub_nonpos_of_le hout), run_await_ok (.inr (hup _)) rfl]
          rfl
        · have hearly : ¬(en.value.token = d.token ∧ en.expireAt ≤ w.clock) := fun h => hout h.2
          rw [if_neg hearly, if_neg fun h => hout (Int.le_of_sub_nonpos h)]
          rfl
      · have hother : ¬(en.value.token = d.token ∧ en.expireAt ≤ w.clock) := fun h => htoken h.1
        rw [if_neg htoken, if_neg hother]
        rfl

/-! ## Reservations -/

/-- The `DEL`s of locks found by `GET`s in an earlier state `w`. -/
theorem run_releaseFounds (hup : Up os) {t e : String} {seats : List String} (w₁ : World) (n : Nat)
    (hlocked : ∀ s ∈ seats, ∃ lock, w.lockAt t e s = some lock) :
    let found : List (Except StepError (Option SeatLockPayload)) :=
      seats.map fun s => .ok (w.lockAt t e s)
    ∃ n', ((seats.zip found).mapM (releaseFound t e)).run (machine P) os n w₁
      = ⟨.ok (seats.map fun _ => .ok ()), n', w₁.releaseAll t e seats⟩ := by
  induction seats generalizing w₁ n with
  | nil => exact ⟨n, rfl⟩
  | cons s seats ih =>
      obtain ⟨lock, hlock⟩ := hlocked s (List.mem_cons_self ..)
      obtain ⟨n', hrest⟩ := ih (w₁.release t e s .system) (n + 2)
        fun s hs => hlocked s (List.mem_cons_of_mem _ hs)
      have hfirst : (releaseFound t e (s, .ok (some lock))).run (machine P) os n w₁
          = ⟨.ok (.ok ()), n + 2, w₁.release t e s .system⟩ :=
        run_releaseFound_ok (exec_of_up (.inr (hup _)))
      refine ⟨n', ?_⟩
      rw [List.map_cons, List.zip_cons_cons, List.mapM_cons, hlock, run_bind_ok _ _ hfirst,
        run_bind_ok _ _ hrest]
      rfl

theorem allOf_ok {α : Type} (l : List α) :
    allOf (l.map fun _ => (.ok () : Except StepError Unit)) = .ret () := by
  unfold allOf
  split
  · rfl
  · rename_i hsome
    obtain ⟨x, hx, herr⟩ := List.exists_of_findSome?_eq_some hsome
    obtain ⟨_, -, rfl⟩ := List.mem_map.mp hx
    cases herr

theorem run_releaseMany_up (hup : Up os) {t e : String} {seats : List String} (n : Nat)
    (hlocked : ∀ s ∈ seats, ∃ lock, w.lockAt t e s = some lock) :
    ∃ n', (releaseMany t e seats).run (machine P) os n w
      = ⟨.ok (), n', w.releaseAll t e seats⟩ := by
  obtain ⟨found, hgets, -, hfound⟩ := run_settledGets P os w t e seats n
  have hanswered : AnsweredFrom os n 1 seats.length := fun _ _ => hup _
  rw [if_pos hanswered] at hfound
  obtain ⟨n', hrun⟩ := run_releaseFounds (P := P) hup w (n + seats.length) hlocked
  refine ⟨n', ?_⟩
  rw [show releaseMany t e seats = settledGets t e seats >>= fun found =>
    (seats.zip found).mapM (releaseFound t e) >>= allOf from rfl, run_bind_ok _ _ hgets, hfound,
    run_bind_ok _ _ hrun, allOf_ok]
  rfl

theorem run_finish_up (hup : Up os) {tenant : TenantContext} {dto : InitiateBookingDto}
    {order : Order} {booking : Booking} {now : Time} (n : Nat)
    (hexpires : booking.expiresAt = now + P.bookingTtlMinutes * 60 * 1000)
    (hlocked : ∀ s ∈ newSet dto.seatIds, ∃ lock, w.lockAt tenant.slug dto.eventId s = some lock) :
    ((finish P tenant dto now order booking).run (machine P) os n w).state
      = w.reserve tenant dto booking := by
  let job : Job BookingExpiryJobData :=
    ⟨⟨booking.id⟩, w.clock + max (booking.expiresAt - w.clock) 0, "booking-expiry:" ++ booking.id⟩
  obtain ⟨n', hrun⟩ := run_releaseMany_up (P := P)
    (w := { w with bookingExpiryQueue := w.bookingExpiryQueue ++ [job] }) hup (n + 1 + 1) hlocked
  rw [finish, ← hexpires, run_await_ok (.inl rfl) rfl, run_await_ok (.inr (hup _)) rfl,
    run_bind_ok _ _ hrun, run_await_ok (.inl rfl) rfl]
  rfl

/-- A reservation throws with nothing changed, or is admitted and reserves
the seats under a new row. -/
theorem run_initiateBooking_up (hup : Up os) (tenant : TenantContext) (u : String)
    (dto : InitiateBookingDto) :
    let w' := ((initiateBooking P tenant u dto).run (machine P) os 0 w).state
    w' = w ∨ ∃ t, Admits tenant u dto w os ∧
      w.bookings.create (insertedRow P tenant u dto w os) = some t ∧
      w' = { w with bookings := t }.reserve tenant dto (insertedRow P tenant u dto w os) := by
  intro w'
  have huntil := checks_untilInsert P tenant u dto w os
  have hw' : w' = ((untilInsert P tenant u dto >>= insert P tenant u dto).run
      (machine P) os 0 w).state := by
    rw [← initiateBooking_eq_untilInsert]
  by_cases had : Admits tenant u dto w os
  swap
  · obtain ⟨err, n, hrun⟩ := huntil.throws had
    rw [hw', run_bind_error _ _ hrun]
    exact .inl rfl
  rw [run_bind_ok _ _ (huntil.passes had), insert, run_await, exec_of_up (.inr (hup _))] at hw'
  cases hcreate : w.bookings.create (insertedRow P tenant u dto w os) with
  | none =>
      rw [insertedRow] at hcreate
      simp only [perform, hcreate] at hw'
      exact .inl hw'
  | some t =>
      refine .inr ⟨t, had, rfl, ?_⟩
      have hlocked : ∀ s ∈ newSet dto.seatIds, ∃ lock,
          w.lockAt tenant.slug dto.eventId s = some lock := fun s hs => by
        obtain ⟨en, hen, -⟩ := had.owned s hs
        exact ⟨en.value, by rw [World.lockAt, hen]; rfl⟩
      rw [insertedRow] at hcreate
      simp only [perform, hcreate] at hw'
      rw [hw', run_finish_up (w := { w with bookings := t }) hup _ rfl hlocked]
      rfl

/-! ## Payments and expiry -/

/-- The commands before the update change nothing but the event rows. -/
theorem exec_ofLookup (P : Platform) (o : Oracle) (w : World) {c : Cmd} (h : c.ofLookup = true) :
    { (exec P c o w).2 with webhookEvents := [] } = { w with webhookEvents := [] } := by
  rcases exec_state P c o w with h' | h' <;> rw [h']
  cases c with
  | webhookEventCreate d =>
      simp only [perform]
      repeat' split
      all_goals rfl
  | randomBytesHex => rfl
  | bookingFindUniqueByOrder o => rfl
  | toDataURL p => rfl
  | _ => cases h

theorem eq_of_except_webhookEvents {w w' : World}
    (h : { w' with webhookEvents := [] } = { w with webhookEvents := [] }) :
    w' = { w with webhookEvents := w'.webhookEvents } := by
  cases w
  cases w'
  simp_all

theorem perform_insert_error {o : Oracle} {d : WebhookEventCreate} {e : StepError} {w₁ : World}
    (h : perform P o w (.webhookEventCreate d) = (.error e, w₁)) : w₁ = w := by
  simp only [perform] at h
  split at h
  · split at h
    · exact (Prod.mk.inj h).2.symm
    · cases h
  · exact (Prod.mk.inj h).2.symm

theorem perform_insert_state {o : Oracle} {d : WebhookEventCreate} {a : Unit} {w₁ : World}
    (h : perform P o w (.webhookEventCreate d) = (.ok a, w₁)) :
    ∃ events, w₁ = { w with webhookEvents := events } := by
  simp only [perform] at h
  split at h
  · split at h
    · cases h
    · exact ⟨_, (Prod.mk.inj h).2.symm⟩
  · cases h

/-- The booking a delivery confirms was PENDING, and all that the delivery has changed is
its row and the one message. -/
structure Confirmation (w : World) (b : Booking) (w' : World) : Prop where
  pending : b.status = .PENDING
  updated : ∃ d t, d.status = .CONFIRMED ∧ w.bookings.update b.id d = some t ∧ w' = { w with
    bookings := t
    messages := w.messages ++
      [.BOOKING_CONFIRMED (w.catalog.tenantSlug b.tenantId) b.eventId b.bookingSeats] }

theorem run_confirmOrder_up (hup : Up os) {r : WebhookRequest} {orderId paymentId : String}
    (hrefs : r.refs? = some (orderId, paymentId)) (n : Nat) :
    let w' := ((confirmOrder P r).run (machine P) os n w).state
    w' = w ∨ ∃ b, w.bookings.findByOrder? orderId = some b ∧ Confirmation w b w' := by
  intro w'
  have hw' : w' = ((confirmOrder P r).run (machine P) os n w).state := rfl
  rw [confirmOrder_of_refs hrefs, run_await_ok (.inr (hup _)) rfl] at hw'
  cases hfind : w.bookings.findByOrder? orderId with
  | none =>
      rw [hfind] at hw'
      exact .inl hw'
  | some b =>
      simp only [hfind, Option.map_some] at hw'
      by_cases hpend : b.status = .PENDING
      swap
      · rw [confirmPending_of_not_pending hpend] at hw'
        exact .inl hw'
      let d := confirmUpdate P r paymentId (w.withTenant b) (os (n + 1)).fresh
      rw [confirmPending_of_pending hpend, run_await_ok (.inl rfl) rfl,
        run_await_ok (.inr (hup _)) rfl] at hw'
      have hlast : w' = ((await (.bookingUpdate b.id d) >>= fun updated => do
          await (.emit (.BOOKING_CONFIRMED updated.tenantSlug updated.booking.eventId
            updated.booking.bookingSeats))
          return .confirmed : M WebhookStatus).run (machine P) os (n + 1 + 1 + 1) w).state := hw'
      have hperf := perform_update (P := P) (o := os (n + 1 + 1 + 1)) (d := d)
        (BookingTable.find?_of_mem (BookingTable.mem_of_findByOrder? hfind).1)
      cases ht : w.bookings.update b.id d with
      | none =>
          rw [ht] at hperf
          rw [run_await, exec_of_up (.inr (hup _)), hperf] at hlast
          exact .inl hlast
      | some t =>
          rw [ht] at hperf
          rw [run_await_ok (.inr (hup _)) hperf] at hlast
          exact .inr ⟨b, rfl, hpend, d, t, rfl, ht, hlast⟩

theorem mem_of_addressee {r : WebhookRequest} {b : Booking} (h : w.addressee P r = some b) :
    b ∈ w.bookings.rows := by
  unfold World.addressee at h
  split at h
  · split at h
    · exact (BookingTable.mem_of_findByOrder? h).1
    · cases h
  · cases h

/-- A delivery inserts at most its event row, or confirms the PENDING
booking it is about. -/
theorem run_webhook_up (hup : Up os) (r : WebhookRequest) :
    let w' := ((processPaymentWebhook P r).run (machine P) os 0 w).state
    ∃ events, w' = { w with webhookEvents := events } ∨
      ∃ b, w.addressee P r = some b ∧ Confirmation { w with webhookEvents := events } b w' := by
  intro w'
  have hw' : w' = ((processPaymentWebhook P r).run (machine P) os 0 w).state := rfl
  cases hsigned : r.signed P with
  | false =>
      obtain ⟨e, he⟩ := processPaymentWebhook_of_unsigned hsigned
      rw [he] at hw'
      exact ⟨w.webhookEvents, .inl hw'⟩
  | true =>
      rw [processPaymentWebhook_of_signed hsigned] at hw'
      cases hrefs : r.refs? with
      | none =>
          have hsame := run_frame (M := machine P) (fun w : World => { w with webhookEvents := [] })
            (fun c hc o w => exec_ofLookup P o w hc) (all_webhook_of_no_refs (P := P) hrefs)
            os 0 w
          rw [← hw'] at hsame
          exact ⟨w'.webhookEvents, .inl (eq_of_except_webhookEvents hsame)⟩
      | some x =>
          obtain ⟨orderId, paymentId⟩ := x
          rw [webhookEventId_of_refs hrefs, ret_bind, processEvent, ← eventRow, settle, call_bind,
            run_call, show (machine P).exec = exec P from rfl, exec_of_up (.inr (hup _))] at hw'
          cases hins : perform P (os 0) w (.webhookEventCreate (eventRow r paymentId)) with
          | mk a w₁ =>
              rw [hins] at hw'
              cases a with
              | error e =>
                  have hw₁ : w₁ = w := perform_insert_error hins
                  refine ⟨w.webhookEvents, .inl ?_⟩
                  rw [hw', hw₁]
                  simp only [ret_bind]
                  split <;> first | rfl | contradiction
              | ok a =>
                  have hok : (perform P (os 0) w
                      (.webhookEventCreate (eventRow r paymentId))).1 = .ok a := by rw [hins]
                  have hnew : w.recorded (r.rowId paymentId) = false := (perform_insert_ok hok).2
                  obtain ⟨events, hw₁⟩ := perform_insert_state hins
                  have hfind : w.addressee P r = w.bookings.findByOrder? orderId := by
                    simp [World.addressee, hrefs, hsigned, hnew]
                  refine ⟨events, ?_⟩
                  rw [hfind, ← hw₁]
                  have hrest := run_confirmOrder_up (P := P) (w := w₁) hup hrefs 1
                  rw [hw₁] at hrest ⊢
                  rw [hw', hw₁]
                  exact hrest

/-- An expiry job changes nothing, its booking being settled or not due, or
expires its booking. -/
theorem run_expire_up (hup : Up os) (id : String) :
    let w' := ((expirePendingBooking id).run (machine P) os 0 w).state
    (w' = w ∧ ∀ b, w.bookings.find? id = some b → b.status = .PENDING → w.clock < b.expiresAt) ∨
      ∃ b t, w.bookings.find? id = some b ∧ b.status = .PENDING ∧ b.expiresAt ≤ w.clock ∧
        w.bookings.update b.id { status := .EXPIRED } = some t ∧
        w' = { w with
          bookings := t
          messages := w.messages ++ [.BOOKING_EXPIRED (w.catalog.tenantSlug b.tenantId) b.eventId
            b.bookingSeats] } := by
  intro w'
  have hw' : w' = ((expirePendingBooking id).run (machine P) os 0 w).state := rfl
  rw [expirePendingBooking, run_await_ok (.inl rfl) rfl, run_await_ok (.inr (hup _)) rfl] at hw'
  cases hfind : w.bookings.find? id with
  | none =>
      rw [hfind] at hw'
      exact .inl ⟨hw', fun b hb => by cases hb⟩
  | some b =>
      simp only [hfind, Option.map_some] at hw'
      by_cases hdue : b.status = .PENDING ∧ b.expiresAt ≤ w.clock
      swap
      · rw [expireFound_of_not_due hdue] at hw'
        refine .inl ⟨hw', fun b' hb' hp => ?_⟩
        obtain rfl := Option.some.inj hb'
        exact Int.not_le.mp fun hle => hdue ⟨hp, hle⟩
      rw [expireFound_of_due hdue.1 hdue.2] at hw'
      have hlast : w' = ((await (.bookingUpdate b.id { status := .EXPIRED }) >>= fun _ =>
          await (.emit (.BOOKING_EXPIRED (w.catalog.tenantSlug b.tenantId) b.eventId
            b.bookingSeats)) : M Unit).run (machine P) os 2 w).state := hw'
      have hperf := perform_update (P := P) (o := os 2) (d := { status := .EXPIRED })
        (BookingTable.find?_of_mem (BookingTable.mem_of_find? hfind).1)
      obtain ⟨t, ht⟩ := BookingTable.exists_update_status w.bookings b.id .EXPIRED
      rw [ht] at hperf
      rw [run_await_ok (.inr (hup _)) hperf] at hlast
      exact .inr ⟨b, t, rfl, hdue.1, hdue.2, ht, hlast⟩

end Outcomes

end Omnipax
