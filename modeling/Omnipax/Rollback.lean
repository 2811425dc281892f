import Omnipax.Phases
import Omnipax.Sample

/-!
# Errors in the middle of a reservation

`initiateBooking` writes three systems one after the other - the database,
the queue and Redis - and undoes nothing. A call that throws after its
insert reached the database leaves the booking behind, and with it
whatever locks it had released by then.

Everything before the insert only reads. So a call that throws leaves
tables and locks as they were if and only if its insert did not take
effect.

`lockSeat` writes two systems: Redis, and then the queue. What holds for the
insert holds there for the `SET`.
-/

namespace Omnipax

open Conc Prog

/-! ## After the insert -/

section Run

variable {P : Platform} {tenant : TenantContext} {u : String} {dto : InitiateBookingDto}
  {w : World} {os : Nat → Oracle}

theorem run_finish {now : Time} {order : Order} {booking : Booking} {n : Nat}
    (howned : w.Owned tenant.slug dto.eventId u (newSet dto.seatIds)) :
    ((finish P tenant dto now order booking).run (machine P) os n w).result.isOk = true ↔
      (os (n + 1)).fault = none ∧ AnsweredFrom os (n + 2) 1 (newSet dto.seatIds).length ∧
        AnsweredFrom os (n + 2 + (newSet dto.seatIds).length) 2 (newSet dto.seatIds).length := by
  unfold finish
  rw [run_await_ok (.inl rfl) rfl]
  by_cases hadd : (os (n + 1)).fault = none
  swap
  · rw [run_await_fault _ rfl hadd]
    exact iff_of_false Bool.false_ne_true fun h => hadd h.1
  rw [run_await_ok (.inr hadd) rfl, and_iff_right hadd, run_bind]
  have hlocked : ∀ s ∈ newSet dto.seatIds, ∃ lock, w.lockAt tenant.slug dto.eventId s = some lock :=
    fun s hs => by
      obtain ⟨en, hen, -⟩ := howned s hs
      exact ⟨en.value, by rw [World.lockAt, hen]; rfl⟩
  rw [← run_releaseMany (P := P) (w := { w with
    bookingExpiryQueue := w.bookingExpiryQueue ++ [⟨{ bookingId := booking.id }, _, _⟩] }) _ _
    hlocked]
  generalize (releaseMany tenant.slug dto.eventId (newSet dto.seatIds)).run (machine P) os _ _ = out
  rcases out with ⟨_ | _, n', w'⟩
  · exact Iff.rfl
  · exact iff_of_true rfl rfl

theorem all_finish (now : Time) (order : Order) (booking : Booking) :
    (finish P tenant dto now order booking).All (Cmd.writesBookings · = false) :=
  .bind (all_await rfl) fun _ => .bind (all_await rfl) fun _ =>
    .bind ((all_releaseMany ..).mono fun _ => Cmd.writesBookings_of_ofSeatLocks) fun _ =>
      .bind (all_await rfl) fun _ => trivial

end Run

/-! ## Atomicity -/

/-- If the call throws, the bookings and the lock store are what they were when it began. -/
def AtomicOnError (P : Platform) (tenant : TenantContext) (u : String)
    (dto : InitiateBookingDto) (w : World) (os : Nat → Oracle) : Prop :=
  let out := (initiateBooking P tenant u dto).run (machine P) os 0 w
  out.result.isOk = false → out.state.bookings = w.bookings ∧ out.state.locks = w.locks

/-- The call gets as far as its insert, which reaches the database and breaks no unique
index, so that the row is stored even when the answer is lost. -/
structure Inserts (P : Platform) (tenant : TenantContext) (u : String)
    (dto : InitiateBookingDto) (w : World) (os : Nat → Oracle) : Prop where
  admits : Admits tenant u dto w os
  reaches : (os (afterLocks dto + 5)).fault ≠ some .before
  accepted : (w.bookings.create (insertedRow P tenant u dto w os)).isSome = true

/-- The insert, the queue and all the releases after it are answered, wherever in the call
they come. -/
structure Completes (dto : InitiateBookingDto) (os : Nat → Oracle) : Prop where
  insert : (os (afterLocks dto + 5)).fault = none
  queue : (os (afterLocks dto + 7)).fault = none
  gets : AnsweredFrom os (afterLocks dto + 8) 1 (newSet dto.seatIds).length
  dels : AnsweredFrom os (afterLocks dto + 8 + (newSet dto.seatIds).length) 2
    (newSet dto.seatIds).length

section Atomicity

variable {P : Platform} {tenant : TenantContext} {u : String} {dto : InitiateBookingDto}
  {w : World} {os : Nat → Oracle}

/-- Without an applied insert a call that throws has changed nothing. -/
theorem atomicOnError_of_not_inserts (h : ¬Inserts P tenant u dto w os) :
    AtomicOnError P tenant u dto w os := by
  intro _
  have huntil := checks_untilInsert P tenant u dto w os
  rw [initiateBooking_eq_untilInsert]
  by_cases had : Admits tenant u dto w os
  · -- the insert is lost on the way or refused
    have hsame : ∃ err, exec P (.bookingCreate (bookingData P tenant u dto w.clock
        (placedOrder P dto os).id)) (os (afterLocks dto + 5)) w = (.error err, w) := by
      by_cases hreach : (os (afterLocks dto + 5)).fault = some .before
      · exact ⟨_, exec_before hreach rfl⟩
      have hnone : w.bookings.create (insertedRow P tenant u dto w os) = none :=
        Option.not_isSome_iff_eq_none.mp fun hacc => h ⟨had, hreach, hacc⟩
      have hperf : perform P (os (afterLocks dto + 5)) w (.bookingCreate
          (bookingData P tenant u dto w.clock (placedOrder P dto os).id))
          = (.error (.prisma (if int4 dto.amount then "P2002" else "P2020")), w) := by
        rw [insertedRow] at hnone
        simp only [perform, hnone]
        rfl
      rcases hfault : (os (afterLocks dto + 5)).fault with _ | _ | _
      · rw [exec_of_up (.inr hfault), hperf]
        exact ⟨_, rfl⟩
      · exact absurd hfault hreach
      · rw [exec_after hfault rfl, hperf]
        exact ⟨_, rfl⟩
    obtain ⟨err, hexec⟩ := hsame
    rw [run_bind_ok _ _ (huntil.passes had), insert, run_await, hexec]
    exact ⟨rfl, rfl⟩
  · obtain ⟨err, n, hrun⟩ := huntil.throws had
    rw [run_bind_error _ _ hrun]
    exact ⟨rfl, rfl⟩

theorem bookings_ne_of_create {t t' : BookingTable} {b : Booking} (h : t.create b = some t') :
    t' ≠ t := by
  rintro rfl
  have hlen := congrArg List.length (BookingTable.create_eq_some.mp h)
  rw [List.length_append, List.length_singleton] at hlen
  omega

/-- With an applied insert the booking stays, and the call throws unless
everything after it is answered. -/
theorem run_of_inserts (h : Inserts P tenant u dto w os) :
    let out := (initiateBooking P tenant u dto).run (machine P) os 0 w
    out.state.bookings ≠ w.bookings ∧ (out.result.isOk = true ↔ Completes dto os) := by
  intro out
  have hout : out = (initiateBooking P tenant u dto).run (machine P) os 0 w := rfl
  obtain ⟨t, ht⟩ := Option.isSome_iff_exists.mp h.accepted
  have hperf : perform P (os (afterLocks dto + 5)) w (.bookingCreate
      (bookingData P tenant u dto w.clock (placedOrder P dto os).id))
      = (.ok (insertedRow P tenant u dto w os), { w with bookings := t }) := by
    rw [insertedRow] at ht ⊢
    simp only [perform, ht]
  rw [initiateBooking_eq_untilInsert, run_bind_ok _ _ ((checks_untilInsert ..).passes h.admits), insert,
    run_await] at hout
  have hne := bookings_ne_of_create ht
  rcases hfault : (os (afterLocks dto + 5)).fault with _ | _ | _
  · rw [exec_of_up (.inr hfault), hperf] at hout
    rw [hout]
    refine ⟨?_, ?_⟩
    · rw [run_frame World.bookings (fun c hc o w => exec_bookings P o w hc) (all_finish ..)]
      exact hne
    · rw [run_finish (w := { w with bookings := t }) h.admits.owned]
      exact ⟨fun hc => ⟨hfault, hc.1, hc.2.1, hc.2.2⟩, fun hc => ⟨hc.queue, hc.gets, hc.dels⟩⟩
  · exact absurd hfault h.reaches
  · rw [exec_after hfault rfl, hperf] at hout
    rw [hout]
    refine ⟨hne, iff_of_false Bool.false_ne_true fun hc => ?_⟩
    rw [hc.insert] at hfault
    cases hfault

/-- **Atomicity**: a call of `initiateBooking` that throws leaves bookings
and locks as they were if and only if its insert did not take effect; a
call whose insert did must be answered to the end. -/
theorem atomicOnError_iff (P : Platform) (tenant : TenantContext) (u : String)
    (dto : InitiateBookingDto) (w : World) (os : Nat → Oracle) :
    AtomicOnError P tenant u dto w os ↔
      ¬Inserts P tenant u dto w os ∨ Completes dto os := by
  by_cases h : Inserts P tenant u dto w os
  · obtain ⟨hchanged, hok⟩ := run_of_inserts h
    rw [or_iff_right (not_not_intro h)]
    constructor
    · intro hatomic
      refine hok.mp ?_
      by_contra herr
      exact hchanged (hatomic (by simpa using herr)).1
    · intro hc herr
      rw [hok.mpr hc] at herr
      cases herr
  · exact iff_of_true (atomicOnError_of_not_inserts h) (Or.inl h)

end Atomicity

/-! ## The job id -/

/-- What BullMQ accepts as a custom job id: no colon, or three parts. -/
def customJobIdOk (jobId : String) : Bool :=
  jobId.toList.count ':' == 0 || jobId.toList.count ':' == 2

/-- A generated id has no colon, so the job id of a booking has two parts. -/
theorem customJobIdOk_bookingExpiry {id : String} (h : NoColon id) :
    customJobIdOk ("booking-expiry:" ++ id) = false := by
  have hcount : ("booking-expiry:" ++ id).toList.count ':' = 1 := by
    rw [String.toList_append, List.count_append, List.count_eq_zero.mpr h]
    rfl
  rw [customJobIdOk, hcount]
  rfl

/-- So with a queue that refuses such ids no call that inserts a booking is
atomic: it throws, and the booking stays. -/
theorem not_atomicOnError_of_customJobId {P : Platform} {tenant : TenantContext} {u : String}
    {dto : InitiateBookingDto} {w : World} {os : Nat → Oracle}
    (h : Inserts P tenant u dto w os) (hid : NoColon (insertedRow P tenant u dto w os).id)
    (hqueue : customJobIdOk ("booking-expiry:" ++ (insertedRow P tenant u dto w os).id) = false →
      (os (afterLocks dto + 7)).fault ≠ none) :
    ¬AtomicOnError P tenant u dto w os := by
  intro hatomic
  obtain ⟨hchanged, hok⟩ := run_of_inserts h
  refine hchanged (hatomic ?_).1
  by_contra hne
  exact hqueue (customJobIdOk_bookingExpiry hid) (hok.mp (by simpa using hne)).queue

namespace Sample

/-- The user holds the lock of the first seat; the order is `order_1`, the
booking `b1`, and the queue refuses the job. -/
def queueRefuses (n : Nat) : Oracle :=
  { fault := if n = 10 then some .before else none
    fresh := if n = 7 then "order_1" else "b1" }

/-- The user locks the first seat. -/
def lockedFirst : World :=
  serial platform world [turn 0 (.lockSeat "acme" "e1" "s1" "u1") fun _ => "tok_1"]

end Sample

/-- The queue refuses the job, the call throws, and the booking stays. -/
theorem not_atomicOnError :
    ¬ ∀ (P : Platform) (tenant : TenantContext) (u : String) (dto : InitiateBookingDto)
        (w : World) (os : Nat → Oracle), AtomicOnError P tenant u dto w os := by
  intro h
  have hatomic := h Sample.platform Sample.tenant "u1" Sample.dto Sample.lockedFirst
    Sample.queueRefuses
  have hrows := congrArg (fun t => t.rows.length) (hatomic (by decide +kernel)).1
  revert hrows
  decide +kernel

/-! ## `lockSeat` -/

/-- If the call rejects, the lock store is what it was: no lock has been left behind, and
none taken. -/
def LocksKeptOnError (P : Platform) (tenantSlug eventId seatId userId : String) (w : World)
    (os : Nat → Oracle) : Prop :=
  let out := (lockSeat P tenantSlug eventId seatId userId).run (machine P) os 0 w
  out.result.isOk = false → out.state.locks = w.locks

/-- The `SET` reaches Redis, which finds no live lock and accepts the expiry. -/
structure Sets (P : Platform) (tenantSlug eventId seatId : String) (w : World) (os : Nat → Oracle) :
    Prop where
  reaches : (os 2).fault ≠ some .before
  ttl : 0 < P.seatLockTtlSeconds
  free : w.liveLock (getLockKey tenantSlug eventId seatId) = none

section LockSeat

variable {P : Platform} {t e seat u : String} {w : World} {os : Nat → Oracle}

/-- What the call stores under the key. -/
def newLock (P : Platform) (t e seat u : String) (w : World) (os : Nat → Oracle) : LockEntry where
  value :=
    { tenantSlug := t, eventId := e, seatId := seat, userId := u
      token := (os 0).fresh, lockedAt := w.clock }
  expireAt := w.clock + P.seatLockTtlSeconds * 1000

/-- The call after its `SET`. -/
def afterSet (P : Platform) (t e seat u token : String) (lockResult : Bool) : M LockSeatResult := do
  throwIf (!lockResult) (.conflict "Seat is already locked")
  await (.seatLockExpiryAdd { tenantSlug := t, eventId := e, seatId := seat, token }
    (P.seatLockTtlSeconds * 1000) (getLockKey t e seat ++ ":" ++ token))
  await (.emit (.SEAT_LOCKED t e seat u))
  return { seatId := seat, eventId := e, expiresInSeconds := P.seatLockTtlSeconds }

theorem afterSet_true (token : String) : afterSet P t e seat u token true = (do
    await (.seatLockExpiryAdd { tenantSlug := t, eventId := e, seatId := seat, token }
      (P.seatLockTtlSeconds * 1000) (getLockKey t e seat ++ ":" ++ token))
    await (.emit (.SEAT_LOCKED t e seat u))
    return { seatId := seat, eventId := e, expiresInSeconds := P.seatLockTtlSeconds }) := rfl

/-- The `SET` is the third command. -/
theorem run_lockSeat_from_set : (lockSeat P t e seat u).run (machine P) os 0 w =
    (await (.redisSet (getLockKey t e seat) (newLock P t e seat u w os).value
      (P.seatLockTtlSeconds * 1000)) >>= afterSet P t e seat u (os 0).fresh).run
      (machine P) os 2 w := by
  unfold lockSeat
  rw [run_await_ok (.inl rfl) rfl, run_await_ok (.inl rfl) rfl]
  rfl

/-- A `SET` that does not take effect is lost or answered with a refusal. -/
theorem exec_set_of_not_sets (h : ¬Sets P t e seat w os) (v : SeatLockPayload) :
    ∃ r, exec P (.redisSet (getLockKey t e seat) v (P.seatLockTtlSeconds * 1000)) (os 2) w = (r, w) ∧
      r ≠ .ok true := by
  have hperf : (os 2).fault ≠ some .before → ∃ r, perform P (os 2) w (.redisSet (getLockKey t e seat)
      v (P.seatLockTtlSeconds * 1000)) = (r, w) ∧ r ≠ .ok true := by
    intro hreach
    by_cases httl : P.seatLockTtlSeconds * 1000 ≤ 0
    · refine ⟨.error (.redis "ERR invalid expire time in 'set' command"), ?_, by simp⟩
      simp only [perform, if_pos httl]
    · have hlocked : (w.liveLock (getLockKey t e seat)).isSome = true := by
        rw [Option.isSome_iff_ne_none]
        exact fun hfree => h ⟨hreach, by omega, hfree⟩
      exact ⟨.ok false, by simp only [perform, if_neg httl, if_pos hlocked], by simp⟩
  rcases hfault : (os 2).fault with _ | _ | _
  · rw [exec_of_up (.inr hfault)]
    exact hperf (by simp [hfault])
  · exact ⟨_, exec_before hfault rfl, by simp⟩
  · obtain ⟨r, hr, -⟩ := hperf (by simp [hfault])
    rw [exec_after hfault rfl, hr]
    exact ⟨_, rfl, by simp⟩

theorem locksKeptOnError_of_not_sets (h : ¬Sets P t e seat w os) :
    LocksKeptOnError P t e seat u w os := by
  obtain ⟨r, hexec, hr⟩ := exec_set_of_not_sets h (newLock P t e seat u w os).value
  intro _
  rw [run_lockSeat_from_set, run_await, hexec]
  cases r with
  | error err => rfl
  | ok lockResult =>
      cases lockResult with
      | false => rfl
      | true => exact absurd rfl hr

theorem insert_newLock_ne (h : Sets P t e seat w os) :
    w.locks.insert (getLockKey t e seat) (newLock P t e seat u w os) ≠ w.locks := by
  intro hsame
  have hlookup := congrArg (AList.lookup (getLockKey t e seat)) hsame
  rw [AList.lookup_insert] at hlookup
  have httl := h.ttl
  have hfree := h.free
  have halive : w.clock ≤ (newLock P t e seat u w os).expireAt :=
    Int.le_add_of_nonneg_right (by omega)
  rw [World.liveLock_eq_some.mpr ⟨hlookup.symm, halive⟩] at hfree
  cases hfree

/-- With an applied `SET` the lock stays, and the call rejects unless the `SET`
and the queue are answered. -/
theorem run_of_sets (h : Sets P t e seat w os) :
    let out := (lockSeat P t e seat u).run (machine P) os 0 w
    out.state.locks ≠ w.locks ∧
      (out.result.isOk = true ↔ (os 2).fault = none ∧ (os 3).fault = none) := by
  intro out
  have hout : out = _ := run_lockSeat_from_set
  have httl := h.ttl
  have hperf : perform P (os 2) w (.redisSet (getLockKey t e seat) (newLock P t e seat u w os).value
      (P.seatLockTtlSeconds * 1000)) = (.ok true, { w with
        locks := w.locks.insert (getLockKey t e seat) (newLock P t e seat u w os) }) := by
    simp only [perform, if_neg (show ¬P.seatLockTtlSeconds * 1000 ≤ 0 by omega), h.free,
      Option.isSome_none, Bool.false_eq_true, if_false]
    rfl
  have hne := insert_newLock_ne (u := u) h
  rw [run_await] at hout
  rcases hfault : (os 2).fault with _ | _ | _
  · rw [exec_of_up (.inr hfault), hperf] at hout
    dsimp only at hout
    rw [afterSet_true] at hout
    by_cases hadd : (os 3).fault = none
    · rw [run_await_ok (.inr hadd) rfl, run_await_ok (.inl rfl) rfl] at hout
      rw [hout]
      exact ⟨hne, iff_of_true rfl ⟨rfl, hadd⟩⟩
    · rw [run_await_fault _ rfl hadd] at hout
      rw [hout]
      refine ⟨?_, iff_of_false Bool.false_ne_true fun hup => hadd hup.2⟩
      rcases exec_state P (.seatLockExpiryAdd _ _ _) (os 3) { w with
        locks := w.locks.insert (getLockKey t e seat) (newLock P t e seat u w os) } with hs | hs <;>
        rw [hs] <;> exact hne
  · exact absurd hfault h.reaches
  · rw [exec_after hfault rfl, hperf] at hout
    rw [hout]
    exact ⟨hne, by simp [Except.isOk, Except.toBool]⟩

/-- **Atomicity**: a call of `lockSeat` that rejects leaves the locks as they
were if and only if its `SET` did not take effect; a call whose `SET` did must
be answered by Redis and by the queue. -/
theorem locksKeptOnError_iff (P : Platform) (tenantSlug eventId seatId userId : String) (w : World)
    (os : Nat → Oracle) :
    LocksKeptOnError P tenantSlug eventId seatId userId w os ↔
      ¬Sets P tenantSlug eventId seatId w os ∨ (os 2).fault = none ∧ (os 3).fault = none := by
  by_cases h : Sets P tenantSlug eventId seatId w os
  · obtain ⟨hchanged, hok⟩ := run_of_sets (u := userId) h
    rw [or_iff_right (not_not_intro h)]
    constructor
    · intro hatomic
      refine hok.mp ?_
      by_contra herr
      exact hchanged (hatomic (by simpa using herr))
    · intro hup herr
      rw [hok.mpr hup] at herr
      cases herr
  · exact iff_of_true (locksKeptOnError_of_not_sets h) (Or.inl h)

end LockSeat

/-! ## The job id of a lock -/

/-- The job id has at least five parts, whatever the strings. -/
theorem customJobIdOk_seatLockExpiry (t e seat token : String) :
    customJobIdOk (getLockKey t e seat ++ ":" ++ token) = false := by
  have hcount : 4 ≤ (getLockKey t e seat ++ ":" ++ token).toList.count ':' := by
    have hprefix : "seat-lock:".toList.count ':' = 1 := by decide
    have hcolon : ":".toList.count ':' = 1 := by decide
    rw [String.toList_append, String.toList_append, getLockKey_toList]
    simp only [List.count_append, List.count_cons_self, hprefix, hcolon]
    omega
  rw [customJobIdOk, Bool.or_eq_false_iff, beq_eq_false_iff_ne, beq_eq_false_iff_ne]
  omega

/-- So with a queue that refuses such ids every call that takes a lock rejects,
and the lock stays. -/
theorem not_locksKeptOnError_of_customJobId {P : Platform} {t e seat u : String} {w : World}
    {os : Nat → Oracle} (h : Sets P t e seat w os)
    (hqueue : customJobIdOk (getLockKey t e seat ++ ":" ++ (os 0).fresh) = false →
      (os 3).fault ≠ none) : ¬LocksKeptOnError P t e seat u w os := by
  intro hkept
  obtain ⟨hchanged, hok⟩ := run_of_sets (u := u) h
  refine hchanged (hkept ?_)
  by_contra hne
  exact hqueue (customJobIdOk_seatLockExpiry ..) (hok.mp (by simpa using hne)).2

namespace Sample

/-- The queue refuses the job of the lock. -/
def seatQueueRefuses (n : Nat) : Oracle :=
  { fault := if n = 3 then some .before else none
    fresh := "tok_1" }

end Sample

/-- The queue refuses the job, the call rejects, and the seat is locked. -/
theorem not_locksKeptOnError :
    ¬ ∀ (P : Platform) (tenantSlug eventId seatId userId : String) (w : World) (os : Nat → Oracle),
      LocksKeptOnError P tenantSlug eventId seatId userId w os := by
  intro h
  have hkept := congrArg AList.keys (h Sample.platform "acme" "e1" "s1" "u1" Sample.world
    Sample.seatQueueRefuses (by decide +kernel))
  revert hkept
  decide +kernel

end Omnipax
