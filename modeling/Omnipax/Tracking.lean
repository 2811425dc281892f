import Omnipax.EventStream
import Omnipax.Resale

/-!
# The last message about a seat

The invariant that relates the messages about one seat to its bookings, its
lock and the jobs in the queues, and its preservation: time passing, changes
that are not about the seat, and the five changes that are.
-/

namespace Omnipax

open Conc Prog

/-! ## The invariant -/

/-- The locks of the state lie under their own keys, and none shadows the
seat; the jobs carry slugs. -/
structure WellKeyed (r : SeatRef) (w : World) : Prop where
  real : r.Real w.catalog
  keyed : KeyedLocks w
  unshadowed : ∀ key en, w.locks.lookup key = some en →
    ¬r.ShadowedBy en.value.tenantSlug en.value.eventId en.value.seatId
  slugs : ∀ j ∈ w.seatLockExpiryQueue, NoColon j.data.tenantSlug

/-- The job that is to announce the end of a lock of the seat. -/
def SeatRef.WatchedBy (r : SeatRef) (en : LockEntry) (j : Job SeatLockExpiryJobData) : Prop :=
  j.data = ⟨r.tenantSlug, r.eventId, r.seatId, en.value.token⟩ ∧ j.dueAt = en.expireAt

/-- The job that is to announce the end of a booking, due when the booking
runs out or at once. -/
def Booking.WatchedBy (b : Booking) (now : Time) (j : Job BookingExpiryJobData) : Prop :=
  j.data.bookingId = b.id ∧ b.expiresAt ≤ j.dueAt ∧ (j.dueAt ≤ b.expiresAt ∨ j.dueAt ≤ now)

/-- The last message about the seat is about what it is now, or a job that
is due will correct it. -/
structure Tracked (r : SeatRef) (w : World) : Prop where
  wellKeyed : WellKeyed r w
  active : ∀ b ∈ w.bookings.rows, b.Holds r → b.activeAt w.clock = true →
    replay r w.messages = b.status.seatClass
  locked : w.FreeAt r → w.liveLock r.key ≠ none → replay r w.messages = .LOCKED
  lockWatched : ∀ en, w.liveLock r.key = some en → ∃ j ∈ w.seatLockExpiryQueue, r.WatchedBy en j
  lockedShown : replay r w.messages = .LOCKED → w.liveLock r.key ≠ none ∨
    ∃ j ∈ w.seatLockExpiryQueue,
      r.Names j.data.tenantSlug j.data.eventId j.data.seatId ∧ j.dueAt ≤ w.clock
  pendingWatched : ∀ b ∈ w.bookings.rows, b.Holds r → b.status = .PENDING →
    ∃ j ∈ w.bookingExpiryQueue, b.WatchedBy w.clock j
  pendingShown : replay r w.messages = .PENDING_PAYMENT →
    ∃ b ∈ w.bookings.rows, b.Holds r ∧ b.status = .PENDING
  bookedShown : replay r w.messages = .BOOKED →
    ∃ b ∈ w.bookings.rows, b.Holds r ∧ b.status = .CONFIRMED
  unlocked : ∀ b ∈ w.bookings.rows, b.Holds r → b.status = .PENDING →
    b.activeAt w.clock = true → w.liveLock r.key = none

/-! ## Quiet states -/

/-- Every job that is due has been handled: what is left in the two queues is for later than
now. -/
structure Quiet (w : World) : Prop where
  locks : ∀ j ∈ w.seatLockExpiryQueue, w.clock < j.dueAt
  bookings : ∀ j ∈ w.bookingExpiryQueue, w.clock < j.dueAt

instance : DecidablePred Quiet := fun w =>
  decidable_of_iff ((∀ j ∈ w.seatLockExpiryQueue, w.clock < j.dueAt) ∧
    ∀ j ∈ w.bookingExpiryQueue, w.clock < j.dueAt) ⟨fun h => ⟨h.1, h.2⟩, fun h => ⟨h.1, h.2⟩⟩

section Quiet

variable {r : SeatRef} {w : World}

/-- The map finds a lock of the seat exactly when its own lock is live. -/
theorem WellKeyed.mapLock_isSome (h : WellKeyed r w) (order : List Nat) :
    (w.mapLock r.tenantSlug r.eventId r.seatId order).isSome = true ↔
      w.liveLock r.key ≠ none := by
  have ht := h.real.isSlug
  have he := h.real.isCuid_event
  constructor
  · intro hsome
    obtain ⟨v, hv⟩ := Option.isSome_iff_exists.mp hsome
    obtain ⟨hmem, hid⟩ := mem_of_mapLock hv
    rcases own_or_shadow h.keyed ht he hmem hid with ⟨en, hen, -⟩ | ⟨en, hen, -⟩
    · rw [SeatRef.key, hen]
      exact Option.some_ne_none en
    · obtain ⟨key, hkey⟩ := hen.live
      exact absurd ⟨hen.tenantSlug, hen.eventId, hen.seatId⟩
        (h.unshadowed key en (World.liveLock_eq_some.mp hkey).1)
  · intro hlive
    obtain ⟨en, hen⟩ := Option.ne_none_iff_exists'.mp hlive
    obtain ⟨hmem, hid⟩ := own_mem_mapLocks h.keyed ht he h.real.noColon_seat hen order
    rw [Option.isSome_iff_ne_none]
    intro hnone
    exact mapGet_eq_none.mp hnone _ (List.mem_map_of_mem hmem) hid

theorem Tracked.shownClass (h : Tracked r w) (hq : Quiet w) (P : Platform)
    (userId : Option String) {os : Nat → Oracle} (hup : Up os) :
    shownClass P w r userId os = some (replay r w.messages) := by
  obtain ⟨c, hc, hbusy, hfree⟩ := shownClass_eq (P := P) hup h.wellKeyed.real userId
  rw [hc, Option.some_inj]
  by_cases hfreeAt : w.FreeAt r
  swap
  · obtain ⟨b, hb, hholds, hact, rfl⟩ := hbusy hfreeAt
    exact (h.active b hb hholds hact).symm
  rw [hfree hfreeAt]
  have hidle := World.freeAt_iff.mp hfreeAt
  by_cases hlock : w.liveLock r.key = none
  swap
  · rw [if_pos ((h.wellKeyed.mapLock_isSome _).mpr hlock), h.locked hfreeAt hlock]
  rw [if_neg fun hsome => (h.wellKeyed.mapLock_isSome _).mp hsome hlock]
  cases hshown : replay r w.messages with
  | AVAILABLE => rfl
  | LOCKED =>
      exfalso
      rcases h.lockedShown hshown with hlive | ⟨j, hj, -, hdue⟩
      · exact hlive hlock
      · exact absurd (hq.locks j hj) (Int.not_lt.mpr hdue)
  | PENDING_PAYMENT =>
      exfalso
      obtain ⟨b, hb, hholds, hp⟩ := h.pendingShown hshown
      obtain ⟨j, hj, -, -, hdue⟩ := h.pendingWatched b hb hholds hp
      have hlate := hq.bookings j hj
      have hexpired : ¬w.clock < b.expiresAt := fun hlt => by
        have hact : b.activeAt w.clock = true := Booking.activeAt_iff.mpr (.inr ⟨hp, hlt⟩)
        rw [hidle b hb hholds] at hact
        cases hact
      rcases hdue with hdue | hdue
      · exact hexpired (Int.lt_of_lt_of_le hlate hdue)
      · exact Int.not_le.mpr hlate hdue
  | BOOKED =>
      exfalso
      obtain ⟨b, hb, hholds, hconf⟩ := h.bookedShown hshown
      have hact : b.activeAt w.clock = true := Booking.activeAt_iff.mpr (.inl hconf)
      rw [hidle b hb hholds] at hact
      cases hact

end Quiet

/-! ## Preservation -/

section Preservation

variable {r : SeatRef} {w w' : World}

theorem WellKeyed.of_locks (h : WellKeyed r w) (hcatalog : w'.catalog = w.catalog)
    (hlocks : ∀ key en, w'.locks.lookup key = some en → w.locks.lookup key = some en ∨
      (key = getLockKey en.value.tenantSlug en.value.eventId en.value.seatId ∧
        NoColon en.value.tenantSlug ∧
        ¬r.ShadowedBy en.value.tenantSlug en.value.eventId en.value.seatId))
    (hjobs : ∀ j ∈ w'.seatLockExpiryQueue, j ∈ w.seatLockExpiryQueue ∨
      NoColon j.data.tenantSlug) : WellKeyed r w' where
  real := hcatalog ▸ h.real
  keyed key en hen := by
    rcases hlocks key en hen with hold | ⟨hkey, hslug, -⟩
    · exact h.keyed key en hold
    · exact ⟨hkey, hslug⟩
  unshadowed key en hen := by
    rcases hlocks key en hen with hold | ⟨-, -, hshadow⟩
    · exact h.unshadowed key en hold
    · exact hshadow
  slugs j hj := by
    rcases hjobs j hj with hold | hnew
    · exact h.slugs j hold
    · exact hnew

theorem Tracked.of_available (hkeyed : WellKeyed r w) (hfree : w.FreeAt r)
    (hlock : w.liveLock r.key = none) (hshown : replay r w.messages = .AVAILABLE)
    (hwatched : ∀ b ∈ w.bookings.rows, b.Holds r → b.status = .PENDING →
      ∃ j ∈ w.bookingExpiryQueue, b.WatchedBy w.clock j) : Tracked r w where
  wellKeyed := hkeyed
  active b hb hholds hact := by
    rw [World.freeAt_iff.mp hfree b hb hholds] at hact
    cases hact
  locked _ hlive := absurd hlock hlive
  lockWatched en hen := by
    rw [hlock] at hen
    cases hen
  lockedShown h := by
    rw [hshown] at h
    cases h
  pendingWatched := hwatched
  pendingShown h := by
    rw [hshown] at h
    cases h
  bookedShown h := by
    rw [hshown] at h
    cases h
  unlocked _ _ _ _ _ := hlock

theorem tracked_init {catalog : Catalog} (hr : r.Real catalog) (clock : Time) :
    Tracked r (.init clock catalog) := by
  have hnone : (World.init clock catalog).liveLock r.key = none := by
    rw [World.liveLock, lookup_init]
    rfl
  refine Tracked.of_available ⟨hr, fun key en hen => ?_, fun key en hen => ?_, fun j hj => ?_⟩ rfl
    hnone rfl fun b hb => ?_
  · rw [lookup_init] at hen
    cases hen
  · rw [lookup_init] at hen
    cases hen
  · cases hj
  · cases hb

theorem liveLock_of_tick {key : String} {en : LockEntry} {t : Time}
    (h : (w.tick t).liveLock key = some en) : w.liveLock key = some en := by
  rw [World.liveLock_eq_some] at h ⊢
  exact ⟨h.1, Int.le_trans (w.le_tick t) h.2⟩

theorem Tracked.tick (h : Tracked r w) (t : Time) : Tracked r (w.tick t) where
  wellKeyed := ⟨h.wellKeyed.real, h.wellKeyed.keyed, h.wellKeyed.unshadowed, h.wellKeyed.slugs⟩
  active b hb hholds hact := h.active b hb hholds (Booking.activeAt_mono (w.le_tick t) hact)
  locked hfree hlive := by
    obtain ⟨en, hen⟩ := Option.ne_none_iff_exists'.mp hlive
    have hold := liveLock_of_tick hen
    have hlive' : w.liveLock r.key ≠ none := by
      rw [hold]
      exact Option.some_ne_none en
    refine h.locked (World.freeAt_iff.mpr fun b hb hholds => ?_) hlive'
    -- a booking that ran out meanwhile would have been PENDING, next to a lock
    by_contra hact
    rw [Bool.not_eq_false] at hact
    rcases Booking.activeAt_iff.mp hact with hconf | ⟨hp, -⟩
    · have hlater : b.activeAt (w.tick t).clock = true := Booking.activeAt_iff.mpr (.inl hconf)
      rw [World.freeAt_iff.mp hfree b hb hholds] at hlater
      cases hlater
    · exact hlive' (h.unlocked b hb hholds hp hact)
  lockWatched en hen := h.lockWatched en (liveLock_of_tick hen)
  lockedShown hshown := by
    rcases h.lockedShown hshown with hlive | ⟨j, hj, hnames, hdue⟩
    · obtain ⟨en, hen⟩ := Option.ne_none_iff_exists'.mp hlive
      by_cases hlater : (w.tick t).liveLock r.key = none
      · obtain ⟨j, hj, hdata, hdue⟩ := h.lockWatched en hen
        refine .inr ⟨j, hj, ?_, ?_⟩
        · rw [hdata]
          exact ⟨rfl, rfl, rfl⟩
        · rw [hdue]
          by_contra hearly
          have hstill : (w.tick t).liveLock r.key = some en := World.liveLock_eq_some.mpr
            ⟨(World.liveLock_eq_some.mp hen).1, Int.le_of_lt (Int.not_le.mp hearly)⟩
          rw [hlater] at hstill
          cases hstill
      · exact .inl hlater
    · exact .inr ⟨j, hj, hnames, Int.le_trans hdue (w.le_tick t)⟩
  pendingWatched b hb hholds hp := by
    obtain ⟨j, hj, hid, hdue, hearly⟩ := h.pendingWatched b hb hholds hp
    exact ⟨j, hj, hid, hdue, hearly.imp_right fun hle => Int.le_trans hle (w.le_tick t)⟩
  pendingShown := h.pendingShown
  bookedShown := h.bookedShown
  unlocked b hb hholds hp hact := by
    have hnone := h.unlocked b hb hholds hp (Booking.activeAt_mono (w.le_tick t) hact)
    cases hlock : (w.tick t).liveLock r.key with
    | none => rfl
    | some en =>
        rw [liveLock_of_tick hlock] at hnone
        cases hnone

/-- A change that is not about the seat: its bookings, its lock, the last
message about it and the jobs that watch it are as before. -/
structure SameSeat (r : SeatRef) (w w' : World) : Prop where
  clock : w'.clock = w.clock
  rows : ∀ b, b.Holds r → (b ∈ w'.bookings.rows ↔ b ∈ w.bookings.rows)
  lock : w'.locks.lookup r.key = w.locks.lookup r.key
  shown : replay r w'.messages = replay r w.messages
  lockJobs : ∀ j ∈ w.seatLockExpiryQueue,
    r.Names j.data.tenantSlug j.data.eventId j.data.seatId →
    j ∈ w'.seatLockExpiryQueue ∨ ∃ en, w.liveLock r.key = some en ∧ ¬r.WatchedBy en j
  bookingJobs : ∀ j ∈ w.bookingExpiryQueue, j ∈ w'.bookingExpiryQueue ∨
    ∀ b ∈ w.bookings.rows, b.Holds r → b.status = .PENDING → ¬b.WatchedBy w.clock j

theorem SameSeat.liveLock (h : SameSeat r w w') : w'.liveLock r.key = w.liveLock r.key := by
  rw [World.liveLock, World.liveLock, h.lock, h.clock]

theorem SameSeat.freeAt (h : SameSeat r w w') : w'.FreeAt r ↔ w.FreeAt r := by
  rw [World.freeAt_iff, World.freeAt_iff, h.clock]
  constructor
  · exact fun hfree b hb hholds => hfree b ((h.rows b hholds).mpr hb) hholds
  · exact fun hfree b hb hholds => hfree b ((h.rows b hholds).mp hb) hholds

theorem Tracked.of_sameSeat (h : Tracked r w) (hsame : SameSeat r w w')
    (hkeyed : WellKeyed r w') : Tracked r w' where
  wellKeyed := hkeyed
  active b hb hholds hact := by
    rw [hsame.clock] at hact
    rw [hsame.shown]
    exact h.active b ((hsame.rows b hholds).mp hb) hholds hact
  locked hfree hlive := by
    rw [hsame.liveLock] at hlive
    rw [hsame.shown]
    exact h.locked (hsame.freeAt.mp hfree) hlive
  lockWatched en hen := by
    rw [hsame.liveLock] at hen
    obtain ⟨j, hj, hwatch⟩ := h.lockWatched en hen
    have hnames : r.Names j.data.tenantSlug j.data.eventId j.data.seatId := by
      rw [hwatch.1]
      exact ⟨rfl, rfl, rfl⟩
    rcases hsame.lockJobs j hj hnames with hkept | ⟨en', hen', hnot⟩
    · exact ⟨j, hkept, hwatch⟩
    · obtain rfl := Option.some.inj (hen.symm.trans hen')
      exact absurd hwatch hnot
  lockedShown hshown := by
    rw [hsame.shown] at hshown
    rw [hsame.liveLock, hsame.clock]
    rcases h.lockedShown hshown with hlive | ⟨j, hj, hnames, hdue⟩
    · exact .inl hlive
    · rcases hsame.lockJobs j hj hnames with hkept | ⟨en, hen, -⟩
      · exact .inr ⟨j, hkept, hnames, hdue⟩
      · refine .inl ?_
        rw [hen]
        exact Option.some_ne_none en
  pendingWatched b hb hholds hp := by
    rw [hsame.clock]
    have hold := (hsame.rows b hholds).mp hb
    obtain ⟨j, hj, hwatch⟩ := h.pendingWatched b hold hholds hp
    rcases hsame.bookingJobs j hj with hkept | hnot
    · exact ⟨j, hkept, hwatch⟩
    · exact absurd hwatch (hnot b hold hholds hp)
  pendingShown hshown := by
    rw [hsame.shown] at hshown
    obtain ⟨b, hb, hholds, hp⟩ := h.pendingShown hshown
    exact ⟨b, (hsame.rows b hholds).mpr hb, hholds, hp⟩
  bookedShown hshown := by
    rw [hsame.shown] at hshown
    obtain ⟨b, hb, hholds, hconf⟩ := h.bookedShown hshown
    exact ⟨b, (hsame.rows b hholds).mpr hb, hholds, hconf⟩
  unlocked b hb hholds hp hact := by
    rw [hsame.clock] at hact
    rw [hsame.liveLock]
    exact h.unlocked b ((hsame.rows b hholds).mp hb) hholds hp hact

end Preservation

end Omnipax
