import Omnipax.Tracking

/-!
# Fidelity of the message stream

Every operation, and every worker handling a due job, keeps the last message
about a seat right, as long as it announces nothing that another booking or
lock of the seat contradicts. So in a run of such steps the replayed messages
and the seat map give the seat one class in every quiet state.
-/

namespace Omnipax

open Conc Prog

/-! ## The changes -/

section Changes

variable {r : SeatRef} {w w' : World}

theorem not_names_symm {t e s t' e' s' : String} (h : ¬r.Names t' e' s')
    (hsame : t = t' ∧ e = e' ∧ s = s') : ¬r.Names t e s := by
  obtain ⟨rfl, rfl, rfl⟩ := hsame
  exact h

/-- `lockSeat` of a seat that no active booking holds. -/
theorem Tracked.acquire (h : Tracked r w) {P : Platform} {v : SeatLockPayload}
    (hslug : NoColon v.tenantSlug) (httl : 0 < P.seatLockTtlSeconds)
    (hfree : r.Names v.tenantSlug v.eventId v.seatId → w.FreeAt r)
    (hshadow : ¬r.ShadowedBy v.tenantSlug v.eventId v.seatId) : Tracked r (w.acquire P v) := by
  have hkeyed : WellKeyed r (w.acquire P v) := by
    refine h.wellKeyed.of_locks rfl (fun key en hen => ?_) fun j hj => ?_
    · by_cases hkey : key = getLockKey v.tenantSlug v.eventId v.seatId
      · subst hkey
        rw [show (w.acquire P v).locks = w.locks.insert _ _ from rfl, AList.lookup_insert] at hen
        obtain rfl := Option.some.inj hen
        exact .inr ⟨rfl, hslug, hshadow⟩
      · rw [show (w.acquire P v).locks = w.locks.insert _ _ from rfl,
          AList.lookup_insert_ne hkey] at hen
        exact .inl hen
    · rcases List.mem_append.mp hj with hold | hnew
      · exact .inl hold
      · obtain rfl := List.mem_singleton.mp hnew
        exact .inr hslug
  by_cases hnames : r.Names v.tenantSlug v.eventId v.seatId
  swap
  · refine h.of_sameSeat ⟨rfl, fun _ _ => Iff.rfl, ?_, ?_, fun j hj _ => .inl ?_, fun j hj => .inl hj⟩
      hkeyed
    · exact AList.lookup_insert_ne fun hkey =>
        hnames (h.wellKeyed.real.names_of_key hslug hkey.symm)
    · rw [show (w.acquire P v).messages = w.messages ++ [_] from rfl, replay_concat,
        SeatUpdate.shows, if_neg hnames]
      rfl
    · exact List.mem_append_left _ hj
  have hfreeAt := hfree hnames
  obtain ⟨ht, he, hs⟩ := hnames
  have hkey : getLockKey v.tenantSlug v.eventId v.seatId = r.key := by
    rw [ht, he, hs]
    rfl
  have hshown : replay r (w.acquire P v).messages = .LOCKED := by
    rw [show (w.acquire P v).messages = w.messages ++ [_] from rfl, replay_concat,
      SeatUpdate.shows, if_pos ⟨ht, he, hs⟩]
    rfl
  have hidle : ∀ b ∈ w.bookings.rows, b.Holds r → b.activeAt w.clock ≠ true :=
    fun b hb hholds hact => by
      rw [World.freeAt_iff.mp hfreeAt b hb hholds] at hact
      cases hact
  obtain ⟨en, hen, -⟩ := holdsLock_acquire (P := P) (w := w) (v := v) httl
  rw [hkey] at hen
  have hlive : (w.acquire P v).liveLock r.key ≠ none := by
    rw [hen]
    exact Option.some_ne_none en
  exact
    { wellKeyed := hkeyed
      active := fun b hb hholds hact => absurd hact (hidle b hb hholds)
      locked := fun _ _ => hshown
      lockWatched := fun en' hen' => by
        have hstored := (World.liveLock_eq_some.mp hen').1
        rw [show (w.acquire P v).locks = w.locks.insert _ _ from rfl, ← hkey,
          AList.lookup_insert] at hstored
        obtain rfl := Option.some.inj hstored
        refine ⟨_, List.mem_append_right _ (List.mem_singleton_self _), ?_, rfl⟩
        rw [← ht, ← he, ← hs]
      lockedShown := fun _ => .inl hlive
      pendingWatched := h.pendingWatched
      pendingShown := fun hp => by
        rw [hshown] at hp
        cases hp
      bookedShown := fun hb => by
        rw [hshown] at hb
        cases hb
      unlocked := fun b hb hholds _ hact => absurd hact (hidle b hb hholds) }

/-- The lock of a seat is gone, and `SEAT_UNLOCKED` went out. Only jobs about
that seat may have left the queue. -/
structure Unlocks (w w' : World) (t e s : String) : Prop where
  bookings : w'.bookings = w.bookings
  clock : w'.clock = w.clock
  catalog : w'.catalog = w.catalog
  bookingJobs : w'.bookingExpiryQueue = w.bookingExpiryQueue
  lockJobs_old : ∀ j ∈ w'.seatLockExpiryQueue, j ∈ w.seatLockExpiryQueue
  lockJobs_kept : ∀ j ∈ w.seatLockExpiryQueue, j ∈ w'.seatLockExpiryQueue ∨
    (j.data.tenantSlug = t ∧ j.data.eventId = e ∧ j.data.seatId = s)
  message : ∃ reason, w'.messages = w.messages ++ [.SEAT_UNLOCKED t e s reason]
  locks_old : ∀ key en, w'.locks.lookup key = some en → w.locks.lookup key = some en
  locks_kept : ∀ key, key ≠ getLockKey t e s → w'.locks.lookup key = w.locks.lookup key
  gone : w'.liveLock (getLockKey t e s) = none

theorem unlocks_release (w : World) (t e s : String) (reason : UnlockReason) :
    Unlocks w (w.release t e s reason) t e s where
  bookings := rfl
  clock := rfl
  catalog := rfl
  bookingJobs := rfl
  lockJobs_old _ hj := hj
  lockJobs_kept _ hj := .inl hj
  message := ⟨reason, rfl⟩
  locks_old _ _ hen := (World.lookup_of_lookup_release hen).1
  locks_kept _ hkey := AList.lookup_erase_ne hkey
  gone := by
    cases hlive : (w.release t e s reason).liveLock (getLockKey t e s) with
    | none => rfl
    | some en =>
        exact absurd rfl (World.lookup_of_lookup_release (World.liveLock_eq_some.mp hlive).1).2

theorem unlocks_emit {t e s : String} (hgone : w.liveLock (getLockKey t e s) = none)
    (reason : UnlockReason) : Unlocks w (w.emit (.SEAT_UNLOCKED t e s reason)) t e s where
  bookings := rfl
  clock := rfl
  catalog := rfl
  bookingJobs := rfl
  lockJobs_old _ hj := hj
  lockJobs_kept _ hj := .inl hj
  message := ⟨reason, rfl⟩
  locks_old _ _ hen := hen
  locks_kept _ _ := rfl
  gone := hgone

/-- A job about the seat may have been taken from the queue before. -/
theorem Unlocks.of_taken {t e s : String} {queue : List (Job SeatLockExpiryJobData)}
    (h : Unlocks { w with seatLockExpiryQueue := queue } w' t e s)
    (hold : ∀ j ∈ queue, j ∈ w.seatLockExpiryQueue)
    (hkept : ∀ j ∈ w.seatLockExpiryQueue, j ∈ queue ∨
      (j.data.tenantSlug = t ∧ j.data.eventId = e ∧ j.data.seatId = s)) : Unlocks w w' t e s where
  bookings := h.bookings
  clock := h.clock
  catalog := h.catalog
  bookingJobs := h.bookingJobs
  lockJobs_old j hj := hold j (h.lockJobs_old j hj)
  lockJobs_kept j hj := by
    rcases hkept j hj with hq | hsame
    · exact h.lockJobs_kept j hq
    · exact .inr hsame
  message := h.message
  locks_old := h.locks_old
  locks_kept := h.locks_kept
  gone := h.gone

theorem Tracked.unlock (h : Tracked r w) {t e s : String} (hslug : NoColon t)
    (hunlocks : Unlocks w w' t e s) (hfree : r.Names t e s → w.FreeAt r) : Tracked r w' := by
  obtain ⟨reason, hmessage⟩ := hunlocks.message
  have hkeyed : WellKeyed r w' := h.wellKeyed.of_locks hunlocks.catalog
    (fun key en hen => .inl (hunlocks.locks_old key en hen))
    fun j hj => .inl (hunlocks.lockJobs_old j hj)
  by_cases hnames : r.Names t e s
  swap
  · refine h.of_sameSeat ⟨hunlocks.clock, fun b _ => by rw [hunlocks.bookings], ?_, ?_,
      fun j hj hj' => .inl ?_, fun j hj => .inl (by rwa [hunlocks.bookingJobs])⟩ hkeyed
    · exact hunlocks.locks_kept _ fun hkey =>
        hnames (h.wellKeyed.real.names_of_key hslug hkey.symm)
    · rw [hmessage, replay_concat, SeatUpdate.shows, if_neg hnames]
      rfl
    · rcases hunlocks.lockJobs_kept j hj with hkept | hsame
      · exact hkept
      · exact absurd hj' (not_names_symm hnames hsame)
  have hfreeAt := hfree hnames
  have hnone := hunlocks.gone
  rw [show getLockKey t e s = r.key by rw [hnames.1, hnames.2.1, hnames.2.2]; rfl] at hnone
  refine Tracked.of_available hkeyed ?_ hnone ?_ ?_
  · rw [World.freeAt_iff, hunlocks.bookings, hunlocks.clock]
    exact World.freeAt_iff.mp hfreeAt
  · rw [hmessage, replay_concat, SeatUpdate.shows, if_pos hnames]
    rfl
  · rw [hunlocks.bookings, hunlocks.clock, hunlocks.bookingJobs]
    exact h.pendingWatched

/-- The job of a booking is due when the booking runs out, or at once. -/
theorem expiryDue_bounds (now expiresAt : Int) :
    expiresAt ≤ now + max (expiresAt - now) 0 ∧
      (now + max (expiresAt - now) 0 ≤ expiresAt ∨ now + max (expiresAt - now) 0 ≤ now) := by
  omega

/-- What a reservation that goes through makes of the world: the row, its job, its two kinds
of messages, and the locks of its seats gone. -/
structure Reserved (w w' : World) (tenant : TenantContext) (dto : InitiateBookingDto)
    (n : Booking) : Prop where
  rows : w'.bookings.rows = w.bookings.rows ++ [n]
  clock : w'.clock = w.clock
  catalog : w'.catalog = w.catalog
  lockJobs : w'.seatLockExpiryQueue = w.seatLockExpiryQueue
  bookingJobs : ∃ jobId, w'.bookingExpiryQueue = w.bookingExpiryQueue ++
    [⟨⟨n.id⟩, w.clock + max (n.expiresAt - w.clock) 0, jobId⟩]
  messages : w'.messages = w.messages ++
    (newSet dto.seatIds).map (.SEAT_UNLOCKED tenant.slug dto.eventId · .system) ++
    [.SEATS_RESERVED_PENDING_PAYMENT tenant.slug dto.eventId (newSet dto.seatIds)]
  locks_old : ∀ key en, w'.locks.lookup key = some en → w.locks.lookup key = some en ∧
    ∀ s ∈ newSet dto.seatIds, key ≠ getLockKey tenant.slug dto.eventId s
  locks_kept : ∀ key, (∀ s ∈ newSet dto.seatIds, key ≠ getLockKey tenant.slug dto.eventId s) →
    w'.locks.lookup key = w.locks.lookup key

theorem reserved_reserve {tenant : TenantContext} {dto : InitiateBookingDto} {t : BookingTable}
    {n : Booking} (ht : w.bookings.create n = some t) :
    Reserved w ({ w with bookings := t }.reserve tenant dto n) tenant dto n := by
  have hrows := BookingTable.create_eq_some.mp ht
  constructor
  all_goals simp only [World.reserve, World.emit, World.releaseAll_bookings,
    World.releaseAll_clock, World.releaseAll_catalog, World.releaseAll_seatLockExpiryQueue,
    World.releaseAll_bookingExpiryQueue, World.releaseAll_messages]
  · exact hrows
  · exact ⟨_, rfl⟩
  · intro key en hen
    have hold := World.lookup_of_lookup_releaseAll hen
    exact hold
  · exact fun key hkey => World.lookup_releaseAll_of_ne hkey

/-- `initiateBooking` past its checks. -/
theorem Tracked.reserve (h : Tracked r w) {tenant : TenantContext} {dto : InitiateBookingDto}
    {n : Booking} (hres : Reserved w w' tenant dto n) (hslug : NoColon tenant.slug)
    (htenant : tenant.slug = r.tenantSlug ↔ tenant.id = r.tenantId)
    (hn : n.tenantId = tenant.id ∧ n.eventId = dto.eventId ∧ n.status = .PENDING ∧
      n.bookingSeats = newSet dto.seatIds)
    (hfree : w.bookedSeats (newSet dto.seatIds) tenant.id dto.eventId w.clock = []) :
    Tracked r w' := by
  obtain ⟨hnt, hne, hnp, hns⟩ := hn
  obtain ⟨jobId, hjobs⟩ := hres.bookingJobs
  have hmem : ∀ b, b ∈ w'.bookings.rows ↔ b ∈ w.bookings.rows ∨ b = n := fun b => by
    rw [hres.rows, List.mem_append, List.mem_singleton]
  have hkeyed : WellKeyed r w' := h.wellKeyed.of_locks hres.catalog
    (fun key en hen => .inl (hres.locks_old key en hen).1)
    fun j hj => .inl (hres.lockJobs ▸ hj)
  by_cases hholds : n.Holds r
  swap
  · -- another seat: its key and its messages are others too
    have hother : ∀ s ∈ newSet dto.seatIds, ¬r.Names tenant.slug dto.eventId s := by
      rintro s hs ⟨ht, he, rfl⟩
      exact hholds ⟨hnt.trans (htenant.mp ht), hne.trans he, hns ▸ hs⟩
    refine h.of_sameSeat ⟨hres.clock, fun b hb => ?_, ?_, ?_, fun j hj _ => .inl ?_,
      fun j hj => .inl ?_⟩ hkeyed
    · rw [hmem, or_iff_left]
      rintro rfl
      exact hholds hb
    · exact hres.locks_kept _ fun s hs hkey =>
        hother s hs (h.wellKeyed.real.names_of_key hslug hkey.symm)
    · have hlast : ¬(r.Names tenant.slug dto.eventId r.seatId ∧ r.seatId ∈ newSet dto.seatIds) :=
        fun hlast => hother _ hlast.2 hlast.1
      rw [hres.messages, replay_concat, SeatUpdate.shows, if_neg hlast, Option.getD_none]
      refine replay_append_of_none fun m hm => ?_
      obtain ⟨s, hs, rfl⟩ := List.mem_map.mp hm
      rw [SeatUpdate.shows, if_neg (hother s hs)]
    · rwa [hres.lockJobs]
    · rw [hjobs]
      exact List.mem_append_left _ hj
  obtain ⟨ht, he, hs⟩ := hholds
  rw [hns] at hs
  have hnames : r.Names tenant.slug dto.eventId r.seatId :=
    ⟨htenant.mpr (hnt.symm.trans ht), hne.symm.trans he, rfl⟩
  have hshown : replay r w'.messages = .PENDING_PAYMENT := by
    rw [hres.messages, replay_concat, SeatUpdate.shows, if_pos ⟨hnames, hs⟩]
    rfl
  have hnone : w'.liveLock r.key = none := by
    cases hlive : w'.liveLock r.key with
    | none => rfl
    | some en =>
        refine absurd ?_ ((hres.locks_old _ en (World.liveLock_eq_some.mp hlive).1).2 _ hs)
        rw [hnames.1, hnames.2.1]
        rfl
  have hidle : ∀ b ∈ w.bookings.rows, b.Holds r → b.activeAt w.clock ≠ true := by
    rintro b hb ⟨hbt, hbe, hbs⟩ hact
    have hrow := World.mem_bookedSeats.mpr ⟨b, hb, ⟨hbt.trans (ht.symm.trans hnt),
      hbe.trans (he.symm.trans hne), hact⟩, _, hbs, hs, rfl⟩
    rw [hfree] at hrow
    cases hrow
  obtain ⟨hdue, hearly⟩ := expiryDue_bounds w.clock n.expiresAt
  exact
    { wellKeyed := hkeyed
      active := fun b hb hbholds hact => by
        rw [hres.clock] at hact
        rcases (hmem b).mp hb with hold | rfl
        · exact absurd hact (hidle b hold hbholds)
        · rw [hshown, BookingStatus.seatClass, hnp]
          rfl
      locked := fun _ hlive => absurd hnone hlive
      lockWatched := fun en hen => by
        rw [hnone] at hen
        cases hen
      lockedShown := fun hl => by
        rw [hshown] at hl
        cases hl
      pendingWatched := fun b hb hbholds hp => by
        rw [hjobs, hres.clock]
        rcases (hmem b).mp hb with hold | rfl
        · obtain ⟨j, hj, hwatch⟩ := h.pendingWatched b hold hbholds hp
          exact ⟨j, List.mem_append_left _ hj, hwatch⟩
        · exact ⟨_, List.mem_append_right _ (List.mem_singleton_self _), rfl, hdue, hearly⟩
      pendingShown := fun _ => ⟨n, (hmem n).mpr (.inr rfl), ⟨ht, he, hns ▸ hs⟩, hnp⟩
      bookedShown := fun hb => by
        rw [hshown] at hb
        cases hb
      unlocked := fun _ _ _ _ _ => hnone }

/-- One booking has been updated and one message says so; the locks and the other bookings
are as they were, and no job but the booking's own is gone. -/
structure Announced (w w' : World) (b : Booking) (d : BookingUpdate) (m : SeatUpdate) : Prop where
  updated : w.bookings.update b.id d = some w'.bookings
  clock : w'.clock = w.clock
  catalog : w'.catalog = w.catalog
  locks : w'.locks = w.locks
  lockJobs : w'.seatLockExpiryQueue = w.seatLockExpiryQueue
  bookingJobs : ∀ j ∈ w.bookingExpiryQueue, j ∈ w'.bookingExpiryQueue ∨ j.data.bookingId = b.id
  messages : w'.messages = w.messages ++ [m]

/-- The messages about a booking are about the seats it holds. -/
theorem names_iff_holds {c : Catalog} (hr : r.Real c) {b : Booking} :
    r.Names (c.tenantSlug b.tenantId) b.eventId r.seatId ∧ r.seatId ∈ b.bookingSeats ↔
      b.Holds r := by
  rw [SeatRef.Names, hr.tenantSlug_iff, Booking.Holds]
  simp only [and_true, and_assoc]

section Announced

variable {b : Booking} {d : BookingUpdate} {m : SeatUpdate}

theorem Announced.wellKeyed (hset : Announced w w' b d m) (h : WellKeyed r w) : WellKeyed r w' :=
  h.of_locks hset.catalog (fun _ _ hen => .inl (hset.locks ▸ hen))
    fun _ hj => .inl (hset.lockJobs ▸ hj)

theorem Announced.liveLock (hset : Announced w w' b d m) (key : String) :
    w'.liveLock key = w.liveLock key := by
  rw [World.liveLock, World.liveLock, hset.locks, hset.clock]

theorem Announced.pendingWatched (hset : Announced w w' b d m) (h : Tracked r w)
    (hb : b ∈ w.bookings.rows) {b' : Booking} (hb' : b' ∈ w.bookings.rows) (hne : b' ≠ b)
    (hholds : b'.Holds r) (hp : b'.status = .PENDING) :
    ∃ j ∈ w'.bookingExpiryQueue, b'.WatchedBy w'.clock j := by
  rw [hset.clock]
  obtain ⟨j, hj, hwatch⟩ := h.pendingWatched b' hb' hholds hp
  rcases hset.bookingJobs j hj with hkept | hid
  · exact ⟨j, hkept, hwatch⟩
  · exact absurd (BookingTable.eq_of_id hb' hb (hwatch.1.symm.trans hid)) hne

theorem Tracked.settle_other (h : Tracked r w) (hset : Announced w w' b d m)
    (hb : b ∈ w.bookings.rows) (hholds : ¬b.Holds r) (hm : m.shows r = none) : Tracked r w' := by
  refine h.of_sameSeat ⟨hset.clock, fun b' hb' => ⟨fun hmem => ?_, fun hmem => ?_⟩,
    by rw [hset.locks], ?_, fun j hj _ => .inl (by rwa [hset.lockJobs]), fun j hj => ?_⟩
    (hset.wellKeyed h.wellKeyed)
  · rcases BookingTable.mem_update hb hset.updated hmem with rfl | ⟨hold, -⟩
    · exact absurd hb' hholds
    · exact hold
  · refine BookingTable.mem_update_of_ne hb hset.updated hmem ?_
    rintro rfl
    exact hholds hb'
  · rw [hset.messages, replay_concat, hm, Option.getD_none]
  · rcases hset.bookingJobs j hj with hkept | hid
    · exact .inl hkept
    · refine .inr fun b' hb' hholds' _ hwatch => hholds ?_
      rwa [← BookingTable.eq_of_id hb' hb (hwatch.1.symm.trans hid)]

/-- A payment: no other PENDING booking in force holds the seat. -/
theorem Tracked.confirm (h : Tracked r w) (hb : b ∈ w.bookings.rows) (hd : d.status = .CONFIRMED)
    (hset : Announced w w' b d
      (.BOOKING_CONFIRMED (w.catalog.tenantSlug b.tenantId) b.eventId b.bookingSeats))
    (hothers : b.Holds r → ∀ b' ∈ w.bookings.rows, b' ≠ b → b'.Holds r →
      b'.activeAt w.clock = true → b'.status = .CONFIRMED) : Tracked r w' := by
  by_cases hholds : b.Holds r
  swap
  · refine h.settle_other hset hb hholds ?_
    rw [SeatUpdate.shows, if_neg ((names_iff_holds h.wellKeyed.real).not.mpr hholds)]
  have hshown : replay r w'.messages = .BOOKED := by
    rw [hset.messages, replay_concat, SeatUpdate.shows,
      if_pos ((names_iff_holds h.wellKeyed.real).mpr hholds)]
    rfl
  have hmem := BookingTable.apply_mem_update hb hset.updated
  have hactive : ∀ b' ∈ w'.bookings.rows, b'.Holds r → b'.activeAt w'.clock = true →
      b'.status = .CONFIRMED := fun b' hb' hholds' hact => by
    rcases BookingTable.mem_update hb hset.updated hb' with rfl | ⟨hold, hne⟩
    · exact hd
    · exact hothers hholds b' hold hne hholds' (hset.clock ▸ hact)
  exact
    { wellKeyed := hset.wellKeyed h.wellKeyed
      active := fun b' hb' hholds' hact => by
        rw [hshown, BookingStatus.seatClass, if_pos (hactive b' hb' hholds' hact)]
      locked := fun hfree _ => by
        have hact : (d.apply b).activeAt w'.clock = true := Booking.activeAt_iff.mpr (.inl hd)
        rw [World.freeAt_iff.mp hfree _ hmem hholds] at hact
        cases hact
      lockWatched := fun en hen => by
        rw [hset.liveLock] at hen
        rw [hset.lockJobs]
        exact h.lockWatched en hen
      lockedShown := fun hl => by
        rw [hshown] at hl
        cases hl
      pendingWatched := fun b' hb' hholds' hp => by
        rcases BookingTable.mem_update hb hset.updated hb' with rfl | ⟨hold, hne⟩
        · rw [show (d.apply b).status = d.status from rfl, hd] at hp
          cases hp
        · exact hset.pendingWatched h hb hold hne hholds' hp
      pendingShown := fun hp => by
        rw [hshown] at hp
        cases hp
      bookedShown := fun _ => ⟨_, hmem, hholds, hd⟩
      unlocked := fun b' hb' hholds' hp hact => by
        rw [hactive b' hb' hholds' hact] at hp
        cases hp }

theorem Tracked.expire (h : Tracked r w) (hb : b ∈ w.bookings.rows) (hd : d.status = .EXPIRED)
    (hset : Announced w w' b d
      (.BOOKING_EXPIRED (w.catalog.tenantSlug b.tenantId) b.eventId b.bookingSeats))
    (hfree : b.Holds r → w.FreeAt r ∧ w.liveLock r.key = none) : Tracked r w' := by
  by_cases hholds : b.Holds r
  swap
  · refine h.settle_other hset hb hholds ?_
    rw [SeatUpdate.shows, if_neg ((names_iff_holds h.wellKeyed.real).not.mpr hholds)]
  obtain ⟨hfreeAt, hnone⟩ := hfree hholds
  refine Tracked.of_available (hset.wellKeyed h.wellKeyed) ?_ ?_ ?_ fun b' hb' hholds' hp => ?_
  · refine World.freeAt_iff.mpr fun b' hb' hholds' => ?_
    rcases BookingTable.mem_update hb hset.updated hb' with rfl | ⟨hold, -⟩
    · rw [Booking.activeAt, show (d.apply b).status = d.status from rfl, hd]
      rfl
    · rw [hset.clock]
      exact World.freeAt_iff.mp hfreeAt b' hold hholds'
  · rw [hset.liveLock, hnone]
  · rw [hset.messages, replay_concat, SeatUpdate.shows,
      if_pos ((names_iff_holds h.wellKeyed.real).mpr hholds)]
    rfl
  · rcases BookingTable.mem_update hb hset.updated hb' with rfl | ⟨hold, hne⟩
    · rw [show (d.apply b).status = d.status from rfl, hd] at hp
      cases hp
    · exact hset.pendingWatched h hb hold hne hholds' hp

end Announced

end Changes

/-! ## The operations -/

/-- What the operation announces about the seat, no booking or lock of the
seat contradicts: a lock is taken, released or found gone only while no
active booking holds the seat, and not under a shadowing event string; a
payment is for a seat that no other PENDING booking in force holds; a booking
expires while the seat is neither booked again nor locked again. -/
def Truthful (P : Platform) (r : SeatRef) (w : World) : Op → Prop
  | .lockSeat t e s _ => 0 < P.seatLockTtlSeconds → w.liveLock (getLockKey t e s) = none →
      (r.Names t e s → w.FreeAt r) ∧ ¬r.ShadowedBy t e s
  | .unlockSeat t e s u => w.holdsLock t e s u = true → r.Names t e s → w.FreeAt r
  | .handleExpiryJob d => w.runOut d = true →
      r.Names d.tenantSlug d.eventId d.seatId → w.FreeAt r
  | .initiateBooking .. => True
  | .processPaymentWebhook request => ∀ b ∈ w.addressee P request, b.Holds r →
      ∀ b' ∈ w.bookings.rows, b' ≠ b → b'.Holds r → b'.activeAt w.clock = true →
        b'.status = .CONFIRMED
  | .expirePendingBooking id => ∀ b ∈ w.bookings.find? id, b.status = .PENDING →
      b.expiresAt ≤ w.clock → b.Holds r → w.FreeAt r ∧ w.liveLock r.key = none

instance (P : Platform) (r : SeatRef) (w : World) : DecidablePred (Truthful P r w)
  | .lockSeat .. => inferInstanceAs (Decidable (_ → _ → (_ → _) ∧ ¬_))
  | .unlockSeat .. => inferInstanceAs (Decidable (_ → _ → _))
  | .handleExpiryJob _ => inferInstanceAs (Decidable (_ → _ → _))
  | .initiateBooking .. => isTrue trivial
  | .processPaymentWebhook _ =>
      inferInstanceAs (Decidable (∀ _ ∈ World.addressee .., _ → ∀ _ ∈ _, _ → _ → _ → _))
  | .expirePendingBooking _ =>
      inferInstanceAs (Decidable (∀ _ ∈ BookingTable.find? .., _ → _ → _ → _))

section Operations

variable {P : Platform} {r : SeatRef} {w : World} {os : Nat → Oracle}

/-- The worker's job is out of the queue when the handler runs. -/
theorem tracked_handleExpiryJob (h : Tracked r w) (hup : Up os) {d : SeatLockExpiryJobData}
    (hslug : NoColon d.tenantSlug) {queue : List (Job SeatLockExpiryJobData)}
    (hold : ∀ j ∈ queue, j ∈ w.seatLockExpiryQueue)
    (hkept : ∀ j ∈ w.seatLockExpiryQueue, j ∈ queue ∨ j.data = d ∧ j.dueAt ≤ w.clock)
    (htrue : Truthful P r w (.handleExpiryJob d)) :
    Tracked r ((handleExpiryJob d).run (machine P) os 0
      { w with seatLockExpiryQueue := queue }).state := by
  have hkept' : ∀ j ∈ w.seatLockExpiryQueue, j ∈ queue ∨ (j.data.tenantSlug = d.tenantSlug ∧
      j.data.eventId = d.eventId ∧ j.data.seatId = d.seatId) := fun j hj => by
    rcases hkept j hj with hq | ⟨rfl, -⟩
    · exact .inl hq
    · exact .inr ⟨rfl, rfl, rfl⟩
  rw [run_handleExpiryJob hup]
  have hrunOut : World.runOut { w with seatLockExpiryQueue := queue } d = w.runOut d := rfl
  rw [hrunOut]
  split
  · rename_i hout
    split
    · exact h.unlock hslug ((unlocks_release ..).of_taken hold hkept') (htrue hout)
    · rename_i hgone
      rw [Option.not_isSome_iff_eq_none] at hgone
      exact h.unlock hslug ((unlocks_emit hgone _).of_taken hold hkept') (htrue hout)
  · -- the lock is live and not this job's, or not out of time
    rename_i hout
    refine h.of_sameSeat ⟨rfl, fun _ _ => Iff.rfl, rfl, rfl, fun j hj hnames => ?_,
      fun j hj => .inl hj⟩ (h.wellKeyed.of_locks rfl (fun _ _ hen => .inl hen)
      fun j hj => .inl (hold j hj))
    rcases hkept j hj with hq | ⟨rfl, hdue⟩
    · exact .inl hq
    · refine .inr ?_
      have hkey : getLockKey j.data.tenantSlug j.data.eventId j.data.seatId = r.key := by
        rw [hnames.1, hnames.2.1, hnames.2.2]
        rfl
      rw [World.runOut, hkey] at hout
      cases hlive : w.liveLock r.key with
      | none =>
          rw [hlive] at hout
          exact absurd rfl hout
      | some en =>
          refine ⟨en, rfl, fun hwatch => hout ?_⟩
          rw [hlive, Option.all_some, hwatch.1, ← hwatch.2]
          simpa using hdue

/-- The worker's job is out of the queue when the handler runs. -/
theorem tracked_expirePendingBooking (h : Tracked r w) (hup : Up os) {id : String}
    {queue : List (Job BookingExpiryJobData)}
    (hkept : ∀ j ∈ w.bookingExpiryQueue, j ∈ queue ∨ j.data.bookingId = id ∧ j.dueAt ≤ w.clock)
    (htrue : Truthful P r w (.expirePendingBooking id)) :
    Tracked r ((expirePendingBooking id).run (machine P) os 0
      { w with bookingExpiryQueue := queue }).state := by
  rcases run_expire_up (P := P) (w := { w with bookingExpiryQueue := queue }) hup id with
    ⟨hsame, hearly⟩ | ⟨b, t, hfind, hp, hdue, ht, hw'⟩
  · rw [hsame]
    refine h.of_sameSeat ⟨rfl, fun _ _ => Iff.rfl, rfl, rfl, fun j hj _ => .inl hj,
      fun j hj => ?_⟩ (h.wellKeyed.of_locks rfl (fun _ _ hen => .inl hen) fun j hj => .inl hj)
    rcases hkept j hj with hq | ⟨hid, hdue⟩
    · exact .inl hq
    · -- the job of a PENDING booking is not due before the booking is
      refine .inr fun b hb _ hp hwatch => ?_
      have hfind := BookingTable.find?_of_mem hb
      rw [← hwatch.1, hid] at hfind
      have hlate := hearly b hfind hp
      exact Int.not_le.mpr hlate (Int.le_trans hwatch.2.1 hdue)
  · obtain ⟨hb, hid⟩ := BookingTable.mem_of_find? hfind
    rw [hw']
    refine h.expire hb (d := { status := .EXPIRED }) rfl ?_ (htrue b hfind hp hdue)
    refine ⟨ht, rfl, rfl, rfl, rfl, fun j hj => ?_, rfl⟩
    rcases hkept j hj with hq | ⟨hjid, -⟩
    · exact .inl hq
    · exact .inr (hjid.trans hid.symm)

theorem run_map_state {α β : Type} (f : α → β) (p : M α) (n : Nat) :
    ((f <$> p).run (machine P) os n w).state = (p.run (machine P) os n w).state := by
  rw [map_eq, run_bind]
  rcases p.run (machine P) os n w with ⟨_ | _, n', w'⟩ <;> rfl

theorem tracked_turn (h : Tracked r w) {x : LiveTurn} (hup : Up x.oracles)
    (hguard : x.op.guarded w.catalog = true) (htrue : Truthful P r (w.tick x.env) x.op) :
    Tracked r ((live P).turn w x) := by
  obtain ⟨t, op, os⟩ := x
  replace h : Tracked r (w.tick t) := h.tick t
  replace hguard : op.guarded (w.tick t).catalog = true := hguard
  show Tracked r ((op.body P).run (machine P) os 0 (w.tick t)).state
  generalize w.tick t = w at h hguard htrue
  cases op with
  | lockSeat slug e s u =>
      have hslug : NoColon slug := Catalog.noColon_of_hasSlug hguard
      have hlock := run_lockSeat (P := P) (w := w) hup slug e s u
      rw [Op.body, run_map_state]
      dsimp only at hlock
      split at hlock
      · rename_i hok
        obtain ⟨hfree, hshadow⟩ := htrue hok.1 hok.2
        rw [hlock.2]
        exact h.acquire hslug hok.1 hfree hshadow
      · rw [hlock.2]
        exact h
  | unlockSeat slug e s u =>
      have hslug : NoColon slug := Catalog.noColon_of_hasSlug hguard
      rw [Op.body, run_map_state, run_unlockSeat hup]
      split
      · rename_i hown
        exact h.unlock hslug (unlocks_release ..) (htrue hown)
      · exact h
  | handleExpiryJob d =>
      have hslug : NoColon d.tenantSlug := Catalog.noColon_of_hasSlug hguard
      rw [Op.body, run_map_state]
      exact tracked_handleExpiryJob h hup hslug (fun _ hj => hj) (fun _ hj => .inl hj) htrue
  | initiateBooking tenant u dto =>
      have htenant := h.wellKeyed.real.slug_iff_of_guarded hguard
      have hslug : NoColon tenant.slug := by
        refine Catalog.noColon_of_hasSlug (c := w.catalog) ?_
        simp only [Op.guarded, List.any_eq_true, Bool.and_eq_true, beq_iff_eq] at hguard
        obtain ⟨row, hrow, -, heq⟩ := hguard
        rw [Catalog.hasSlug, List.any_eq_true]
        exact ⟨row, hrow, beq_iff_eq.mpr heq⟩
      rw [Op.body, run_map_state]
      rcases run_initiateBooking_up (P := P) (w := w) hup tenant u dto with hsame | ⟨t, had, ht, hw'⟩
      · rw [hsame]
        exact h
      · rw [hw']
        exact h.reserve (reserved_reserve ht) hslug htenant ⟨rfl, rfl, rfl, rfl⟩ had.free
  | processPaymentWebhook request =>
      rw [Op.body, run_map_state]
      obtain ⟨events, hsame | ⟨b, haddr, hpend, d, t, hd, ht, hw'⟩⟩ :=
        run_webhook_up (P := P) (w := w) hup request
      · rw [hsame]
        exact h.of_sameSeat ⟨rfl, fun _ _ => Iff.rfl, rfl, rfl, fun _ hj _ => .inl hj,
          fun _ hj => .inl hj⟩ (h.wellKeyed.of_locks rfl (fun _ _ hen => .inl hen)
          fun _ hj => .inl hj)
      · have hb : b ∈ w.bookings.rows := mem_of_addressee haddr
        rw [hw']
        exact h.confirm hb hd ⟨ht, rfl, rfl, rfl, rfl, fun _ hj => .inl hj, rfl⟩
          fun hholds => htrue b haddr hholds
  | expirePendingBooking id =>
      rw [Op.body, run_map_state]
      exact tracked_expirePendingBooking h hup (fun _ hj => .inl hj) htrue

end Operations

/-! ## Runs with workers -/

/-- A step of the platform with its workers: a call, or a worker that takes
job `i` of its queue, if it is due, and handles it. -/
inductive Step where
  | call (x : LiveTurn)
  | lockJob (i : Nat) (t : Time) (oracles : Nat → Oracle)
  | bookingJob (i : Nat) (t : Time) (oracles : Nat → Oracle)

/-- The data of the job, if it is due. -/
def Job.due? {α : Type} (queue : List (Job α)) (i : Nat) (now : Time) : Option α :=
  (queue[i]?.filter (·.dueAt ≤ now)).map (·.data)

def step (P : Platform) (w : World) : Step → World
  | .call x => (live P).turn w x
  | .lockJob i t os =>
      let w := w.tick t
      match Job.due? w.seatLockExpiryQueue i w.clock with
      | none => w
      | some d => ((handleExpiryJob d).run (machine P) os 0
          { w with seatLockExpiryQueue := w.seatLockExpiryQueue.eraseIdx i }).state
  | .bookingJob i t os =>
      let w := w.tick t
      match Job.due? w.bookingExpiryQueue i w.clock with
      | none => w
      | some d => ((expirePendingBooking d.bookingId).run (machine P) os 0
          { w with bookingExpiryQueue := w.bookingExpiryQueue.eraseIdx i }).state

/-- A step in which the services answer. A request has passed the tenant guard besides,
where its route has one. -/
def Step.Proper (catalog : Catalog) : Step → Prop
  | .call x => Up x.oracles ∧ x.op.guarded catalog = true
  | .lockJob _ _ os => Up os
  | .bookingJob _ _ os => Up os

/-- The step announces nothing that the seat contradicts, in the state it is taken in. A job
speaks of the lock or the booking it was queued for. -/
def TruthfulStep (P : Platform) (r : SeatRef) (w : World) : Step → Prop
  | .call x => Truthful P r (w.tick x.env) x.op
  | .lockJob i t _ => ∀ d ∈ Job.due? w.seatLockExpiryQueue i (w.tick t).clock,
      Truthful P r (w.tick t) (.handleExpiryJob d)
  | .bookingJob i t _ => ∀ d ∈ Job.due? w.bookingExpiryQueue i (w.tick t).clock,
      Truthful P r (w.tick t) (.expirePendingBooking d.bookingId)

instance (P : Platform) (r : SeatRef) (w : World) : DecidablePred (TruthfulStep P r w)
  | .call _ => inferInstanceAs (Decidable (Truthful ..))
  | .lockJob .. => inferInstanceAs (Decidable (∀ _ ∈ Job.due? .., Truthful ..))
  | .bookingJob .. => inferInstanceAs (Decidable (∀ _ ∈ Job.due? .., Truthful ..))

/-- A due job that leaves the queue is the one handled. -/
theorem Job.kept_or_taken {α : Type} {queue : List (Job α)} {i : Nat} {now : Time} {d : α}
    (h : Job.due? queue i now = some d) {j : Job α} (hj : j ∈ queue) :
    j ∈ queue.eraseIdx i ∨ j.data = d ∧ j.dueAt ≤ now := by
  simp only [Job.due?, Option.map_eq_some_iff, Option.filter_eq_some_iff, decide_eq_true_eq] at h
  obtain ⟨j', ⟨hget, hdue⟩, rfl⟩ := h
  by_cases hsame : j = j'
  · rw [hsame]
    exact .inr ⟨rfl, hdue⟩
  · refine .inl ?_
    obtain ⟨k, hk, rfl⟩ := List.mem_iff_getElem.mp hj
    rw [List.mem_eraseIdx_iff_getElem]
    refine ⟨k, hk, ?_, rfl⟩
    rintro rfl
    rw [List.getElem?_eq_getElem hk, Option.some_inj] at hget
    exact hsame hget

theorem tracked_step {P : Platform} {r : SeatRef} {w : World} {x : Step} (h : Tracked r w)
    (hproper : x.Proper w.catalog) (htrue : TruthfulStep P r w x) : Tracked r (step P w x) := by
  cases x with
  | call x => exact tracked_turn h hproper.1 hproper.2 htrue
  | lockJob i t os =>
      rw [step]
      split
      · exact h.tick t
      · rename_i d hdue
        refine tracked_handleExpiryJob (h.tick t) hproper ?_ (fun j hj => List.mem_of_mem_eraseIdx hj)
          (fun j hj => Job.kept_or_taken hdue hj) (htrue d hdue)
        obtain ⟨j, hj, rfl⟩ := Option.map_eq_some_iff.mp hdue
        exact h.wellKeyed.slugs j (List.mem_of_getElem? (Option.filter_eq_some_iff.mp hj).1)
  | bookingJob i t os =>
      rw [step]
      split
      · exact h.tick t
      · rename_i d hdue
        refine tracked_expirePendingBooking (h.tick t) hproper (fun j hj => ?_) (htrue d hdue)
        rcases Job.kept_or_taken hdue hj with hkept | ⟨hdata, hdueAt⟩
        · exact .inl hkept
        · exact .inr ⟨congrArg BookingExpiryJobData.bookingId hdata, hdueAt⟩

theorem step_catalog (P : Platform) (w : World) (x : Step) : (step P w x).catalog = w.catalog := by
  have hrun : ∀ {α : Type} (p : M α) (os : Nat → Oracle) (w' : World),
      (p.run (machine P) os 0 w').state.catalog = w'.catalog := fun p os w' =>
    run_frame World.catalog (fun c _ o w => exec_catalog P o w c) (all_true _) os 0 w'
  cases x with
  | call x => exact turn_catalog P w x
  | lockJob i t os =>
      rw [step]
      split
      · rfl
      · exact hrun ..
  | bookingJob i t os =>
      rw [step]
      split
      · rfl
      · exact hrun ..

/-- **The message stream**: in a run of calls and jobs that announce nothing
the seat contradicts, the messages and the map give the seat one class
whenever every job that is due has been handled. -/
theorem shownClass_run (P : Platform) (clock : Time) (catalog : Catalog) (r : SeatRef)
    (xs : List Step) (t : Time) (userId : Option String) (os : Nat → Oracle)
    (hr : r.Real catalog) (hproper : ∀ x ∈ xs, x.Proper catalog)
    (hxs : Follows (step P) (TruthfulStep P r) (.init clock catalog) xs) (hup : Up os)
    (hquiet : Quiet ((xs.foldl (step P) (.init clock catalog)).tick t)) :
    let w := (xs.foldl (step P) (.init clock catalog)).tick t
    shownClass P w r userId os = some (replay r w.messages) := by
  let I := fun w : World => Tracked r w ∧ w.catalog = catalog
  have hI : I (xs.foldl (step P) (.init clock catalog)) := by
    refine (hxs.and_of_forall hproper).invariant (I := I) (fun w x hw hx => ?_)
      ⟨tracked_init hr clock, rfl⟩
    obtain ⟨htracked, rfl⟩ := hw
    exact ⟨tracked_step htracked hx.1 hx.2, step_catalog P w x⟩
  exact (hI.1.tick t).shownClass hquiet P userId hup

namespace Sample

def seatRef : SeatRef := ⟨"t1", "acme", "e1", "s1"⟩

theorem real_seatRef : seatRef.Real catalog where
  tenant := List.mem_singleton_self _
  event := ⟨_, List.mem_singleton_self _, rfl, rfl⟩
  seat := ⟨_, List.mem_cons_self, rfl, rfl⟩

/-- The first seat is locked, booked and paid for. -/
def bookedAndPaid : List Step :=
  [.call (turn 0 (.lockSeat "acme" "e1" "s1" "u1") fun _ => "tok_1"),
    .call (turn 0 (.initiateBooking tenant "u1" dto) fun n => if n = 7 then "order_1" else "b1"),
    .call (pay 1000 "evt_1" "pay_1" "order_1" "s4lt1")]

/-- The job of the lock runs when the seat has long been booked. -/
def lateLockJob : List Step :=
  [.call (turn 0 (.lockSeat "acme" "e1" "s1" "u1") fun _ => "tok_1"),
    .call (turn 0 (.initiateBooking tenant "u1" dto) fun n => if n = 7 then "order_1" else "b1"),
    .lockJob 0 300000 fun _ => {}]

end Sample

theorem shownClass_bookedAndPaid :
    shownClass Sample.platform
      ((Sample.bookedAndPaid.foldl (step Sample.platform) (.init 0 Sample.catalog)).tick 2000)
      Sample.seatRef none (fun _ => {}) = some .BOOKED := by
  have hshown := shownClass_run Sample.platform 0 Sample.catalog Sample.seatRef
    Sample.bookedAndPaid 2000 none (fun _ => {}) Sample.real_seatRef
    (fun x hx => ?_) (by decide +kernel) (fun _ => rfl) (by decide +kernel)
  · have hreplay : replay Sample.seatRef ((Sample.bookedAndPaid.foldl (step Sample.platform)
        (.init 0 Sample.catalog)).tick 2000).messages = .BOOKED := by decide +kernel
    rw [← hreplay]
    exact hshown
  · simp only [Sample.bookedAndPaid, List.mem_cons, List.not_mem_nil, or_false] at hx
    rcases hx with rfl | rfl | rfl
    all_goals exact ⟨fun _ => rfl, by decide +kernel⟩

/-- The message of the job says that the seat is free, the map that it is
pending payment. -/
theorem not_shownClass_lateLockJob :
    ¬ ∀ (P : Platform) (clock : Time) (catalog : Catalog) (r : SeatRef) (xs : List Step)
        (t : Time) (userId : Option String) (os : Nat → Oracle), r.Real catalog →
      (∀ x ∈ xs, x.Proper catalog) → Up os →
      Quiet ((xs.foldl (step P) (.init clock catalog)).tick t) →
      shownClass P ((xs.foldl (step P) (.init clock catalog)).tick t) r userId os =
        some (replay r ((xs.foldl (step P) (.init clock catalog)).tick t).messages) := by
  intro h
  have hagree := h Sample.platform 0 Sample.catalog Sample.seatRef Sample.lateLockJob 300000 none
    (fun _ => {}) Sample.real_seatRef (fun x hx => ?_) (fun _ => rfl) (by decide +kernel)
  · generalize hw : (Sample.lateLockJob.foldl (step Sample.platform)
        (.init 0 Sample.catalog)).tick 300000 = w at hagree
    have hreplay : replay Sample.seatRef w.messages = .AVAILABLE := by
      rw [← hw]
      decide +kernel
    have hpending : ∀ b ∈ w.bookings.rows, b.status = .PENDING := by
      rw [← hw]
      decide +kernel
    have hbusy : ¬w.FreeAt Sample.seatRef := by
      rw [← hw]
      decide +kernel
    have hcatalog : w.catalog = Sample.catalog := by
      rw [← hw]
      rfl
    have hup : Up fun _ => {} := fun _ => rfl
    obtain ⟨c, hc, hclass, -⟩ := shownClass_eq (P := Sample.platform) hup
      (hcatalog ▸ Sample.real_seatRef : Sample.seatRef.Real w.catalog) none
    obtain ⟨b, hb, -, -, rfl⟩ := hclass hbusy
    rw [hc, hreplay, hpending b hb, Option.some_inj] at hagree
    exact absurd hagree (by decide)
  · simp only [Sample.lateLockJob, List.mem_cons, List.not_mem_nil, or_false] at hx
    rcases hx with rfl | rfl | rfl
    · exact ⟨fun _ => rfl, by decide +kernel⟩
    · exact ⟨fun _ => rfl, by decide +kernel⟩
    · exact fun _ => rfl

end Omnipax
