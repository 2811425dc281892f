import Omnipax.Sample

/-!
# Concurrent admission

`initiateBooking` reads the existing bookings, calls Razorpay and only then
inserts; nothing ties the insert to the check. Two calls of one user that
both check before either inserts sell the same seat twice, the lock being
the same for both.

What the check does guarantee is stated with the events since it: an
active booking that holds a requested seat at the insert was put there
after the check, or is one the check does not look for (of another tenant
or event). Runs in which no insert meets such a booking keep every seat in
at most one active booking, whatever else the calls, the locks and the
clock do.
-/

namespace Omnipax

open Conc Prog

/-! ## Exclusive seats -/

/-- Some seat of the booking is among these. -/
def Booking.holdsAny (b : Booking) (seatIds : List String) : Bool :=
  b.bookingSeats.any (seatIds.contains ·)

theorem Booking.holdsAny_iff {b : Booking} {seatIds : List String} :
    b.holdsAny seatIds = true ↔ ∃ s ∈ b.bookingSeats, s ∈ seatIds := by
  simp [holdsAny]

theorem Booking.holdsAny_comm {b b' : Booking} :
    b.holdsAny b'.bookingSeats = true ↔ b'.holdsAny b.bookingSeats = true := by
  simp only [holdsAny_iff]
  exact ⟨fun ⟨s, h, h'⟩ => ⟨s, h', h⟩, fun ⟨s, h, h'⟩ => ⟨s, h', h⟩⟩

theorem Booking.activeAt_iff {b : Booking} {now : Time} :
    b.activeAt now = true ↔
      b.status = .CONFIRMED ∨ b.status = .PENDING ∧ now < b.expiresAt := by
  simp [activeAt]

/-- A booking only ever stops being active by the passing of time. -/
theorem Booking.activeAt_mono {b : Booking} {t t' : Time} (ht : t ≤ t')
    (h : b.activeAt t' = true) : b.activeAt t = true := by
  rw [activeAt_iff] at h ⊢
  exact h.imp_right fun ⟨hp, hlt⟩ => ⟨hp, Int.lt_of_le_of_lt ht hlt⟩

/-- No seat lies in the `bookingSeats` of two active bookings. -/
def SeatsExclusive (w : World) : Prop :=
  ∀ b ∈ w.bookings.rows, ∀ b' ∈ w.bookings.rows, b.activeAt w.clock = true →
    b'.activeAt w.clock = true → b.holdsAny b'.bookingSeats = true → b = b'

instance : DecidablePred SeatsExclusive := fun _ =>
  inferInstanceAs (Decidable (∀ _ ∈ _, ∀ _ ∈ _, _ → _ → _ → _))

theorem SeatsExclusive.tick {w : World} (h : SeatsExclusive w) (t : Time) :
    SeatsExclusive (w.tick t) := by
  intro b hb b' hb' hact hact'
  exact h b hb b' hb' (Booking.activeAt_mono (w.le_tick t) hact)
    (Booking.activeAt_mono (w.le_tick t) hact')

theorem SeatsExclusive.congr {w w' : World} (h : SeatsExclusive w)
    (hb : w'.bookings = w.bookings) (hc : w'.clock = w.clock) : SeatsExclusive w' := by
  unfold SeatsExclusive
  rw [hb, hc]
  exact h

/-- A new row that, when active, shares no seat with an active one. -/
theorem SeatsExclusive.append {w w' : World} {n : Booking} (h : SeatsExclusive w)
    (hrows : w'.bookings.rows = w.bookings.rows ++ [n]) (hc : w'.clock = w.clock)
    (hn : n.activeAt w.clock = true → ∀ b ∈ w.bookings.rows, b.activeAt w.clock = true →
      b.holdsAny n.bookingSeats = false) : SeatsExclusive w' := by
  intro b hb b' hb' hact hact' hshare
  rw [hrows, List.mem_append, List.mem_singleton] at hb hb'
  rw [hc] at hact hact'
  rcases hb with hb | rfl <;> rcases hb' with hb' | rfl
  · exact h b hb b' hb' hact hact' hshare
  · exact absurd hshare (by rw [hn hact' b hb hact]; exact Bool.false_ne_true)
  · rw [Booking.holdsAny_comm] at hshare
    exact absurd hshare (by rw [hn hact b' hb' hact']; exact Bool.false_ne_true)
  · rfl

/-! ## The check and the insert -/

/-- The operations of users: locks and bookings. -/
def Op.reserves : Op → Bool
  | .lockSeat .. => true
  | .unlockSeat .. => true
  | .initiateBooking .. => true
  | _ => false

/-- The existing-booking check of call `i`. -/
def isExistingCheck (i : Nat) (e : LiveEvent) : Bool :=
  e.tid == i && match e.cmd with
    | .bookingSeatFindMany .. => true
    | _ => false

/-- Every active booking that holds a requested seat is of the tenant and
event the check of call `i` looked at, and was not put there since. -/
def SeenByCheck (P : Platform) (i : Nat) (d : BookingCreate) (s : LiveSnap) : Prop :=
  ∀ b ∈ s.world.bookings.rows, b.activeAt s.world.clock = true →
    b.holdsAny d.seatIds = true →
      (b.tenantId = d.tenantId ∧ b.eventId = d.eventId) ∧
      ∀ e ∈ since (isExistingCheck i) s.hist,
        b ∈ (e.after (live P)).bookings.rows → b ∈ e.before.bookings.rows

instance (P : Platform) (i : Nat) (d : BookingCreate) :
    DecidablePred (SeenByCheck P i d) := fun _ =>
  inferInstanceAs (Decidable (∀ _ ∈ _, _ → _ → _))

/-- Locking and booking by any number of users at once, except that no
insert that reaches the database with a row still active meets a booking
its check could not see. -/
def admission (P : Platform) : Discipline sig World Oracle Op where
  starts op := op.reserves = true
  allows i _ c o s := ∀ d ∈ c.create?, o.fault ≠ some .before →
    (d.row o.fresh).activeAt s.world.clock = true → SeenByCheck P i d s

instance (P : Platform) : DecidablePred (admission P).starts := fun op =>
  inferInstanceAs (Decidable (op.reserves = true))

instance (P : Platform) (i : Nat) (op : Op) (c : Cmd) (o : Oracle) :
    DecidablePred ((admission P).allows i op c o) := fun s =>
  inferInstanceAs (Decidable (∀ d ∈ c.create?, _ → _ → SeenByCheck P i d s))

/-! ## What the check establishes -/

/-- The check of call `i` for the seats of `d`, as of time `now`, found
nothing; whatever else is in the table was put there since. -/
def Checked (P : Platform) (i : Nat) (tenantId eventId : String) (seatIds : List String)
    (now : Time) : LiveSnap → Prop :=
  TracksSince (live P) (isExistingCheck i) (fun w b => b ∈ w.bookings.rows)
    fun b => b.tenantId = tenantId → b.eventId = eventId → b.activeAt now = true →
      b.holdsAny seatIds = false

theorem mem_bookedSeats_of_holdsAny {w : World} {seatIds : List String}
    {tenantId eventId : String} {now : Time} {b : Booking} (hb : b ∈ w.bookings.rows)
    (ht : b.tenantId = tenantId) (he : b.eventId = eventId) (hact : b.activeAt now = true)
    (hs : b.holdsAny seatIds = true) :
    w.bookedSeats seatIds tenantId eventId now ≠ [] := by
  obtain ⟨s, hsb, hsi⟩ := Booking.holdsAny_iff.mp hs
  exact List.ne_nil_of_mem
    (World.mem_bookedSeats.mpr ⟨b, hb, ⟨ht, he, hact⟩, s, hsb, hsi, rfl⟩)

theorem Checked.intro {P : Platform} {s : LiveSnap} {i : Nat} {op : Op}
    {tenantId eventId : String} {seatIds : List String} {now : Time} {o : Oracle}
    (h : (exec P (.bookingSeatFindMany seatIds tenantId eventId now) o s.world).1 = .ok []) :
    Checked P i tenantId eventId seatIds now
      (s.exec (live P) i op (.bookingSeatFindMany seatIds tenantId eventId now) o) := by
  refine TracksSince.intro (by simp [isExistingCheck]) fun b hb ht he hact => ?_
  rw [live_exec, exec_bookings _ _ _ rfl] at hb
  rw [perform_of_exec_ok h] at h
  simp only [perform, Except.ok.injEq, shuffle_eq_nil] at h
  by_contra hs
  exact mem_bookedSeats_of_holdsAny hb ht he hact (by simpa using hs) h

theorem Checked.persistent (P : Platform) (i : Nat) (tenantId eventId : String)
    (seatIds : List String) (now : Time) :
    Persistent (live P) (Checked P i tenantId eventId seatIds now) :=
  persistent_tracksSince fun _ _ _ h => h

/-- The clock has not been before `now` since. -/
theorem persistent_clock (P : Platform) (now : Time) :
    Persistent (live P) fun s => now ≤ s.world.clock :=
  persistent_world (P := fun w : World => now ≤ w.clock)
    (fun w h c o => by rw [live_exec, exec_clock]; exact h)
    fun w h t => Int.le_trans h (w.le_tick t)

/-! ## The invariant -/

/-- What call `i` has established when it inserts. -/
def Admitted (P : Platform) (i : Nat) (d : BookingCreate) (s : LiveSnap) : Prop :=
  ∃ now, now ≤ s.world.clock ∧ Checked P i d.tenantId d.eventId d.seatIds now s

/-- The outline: every state keeps seats exclusive, every insert follows a
check. -/
def admissionOutline (P : Platform) : LiveOutline where
  toDiscipline := admission P
  inv s := SeatsExclusive s.world
  pre i _ c s := (∀ d ∈ c.create?, Admitted P i d s) ∧ c.update? = none

/-- An insert that the discipline admits after a check keeps seats
exclusive. -/
theorem seatsExclusive_create {P : Platform} {s : LiveSnap} {i : Nat} {d : BookingCreate}
    {o : Oracle} (h : SeatsExclusive s.world) (had : Admitted P i d s)
    (hseen : o.fault ≠ some .before → (d.row o.fresh).activeAt s.world.clock = true →
      SeenByCheck P i d s) :
    SeatsExclusive (exec P (.bookingCreate d) o s.world).2 := by
  by_cases hf : o.fault = some .before
  · rw [exec_before hf rfl]
    exact h
  rcases exec_create P o s.world d with hsame | hrows
  · rw [hsame]
    exact h
  refine h.append hrows (exec_clock ..) fun hact b hb hbact => ?_
  obtain ⟨now, hnow, hchecked⟩ := had
  by_contra hs
  have hs' : b.holdsAny d.seatIds = true := (Bool.not_eq_false _).mp hs
  -- the discipline: the check looked for `b`, and `b` was there already
  obtain ⟨⟨ht, he⟩, hold⟩ := hseen hf hact b hb hbact hs'
  rcases hchecked.2 b hb with hV | ⟨e, hemem, hbefore, hafter⟩
  · rw [hV ht he (Booking.activeAt_mono hnow hbact)] at hs'
    cases hs'
  · exact hbefore (hold e hemem hafter)

section Body

variable {P : Platform} {i : Nat} {op : Op} {s : LiveSnap}

theorem admission_pre {c : Cmd} (hc : c.writesBookings = false) (s : LiveSnap) :
    (admissionOutline P).pre i op c s :=
  ⟨fun d hd => absurd hd (by rw [Cmd.create?_of_writesBookings hc]; exact nofun),
    Cmd.update?_of_writesBookings hc⟩

/-- A program without writes to `Booking` meets every assertion. -/
theorem wp_admission {α : Type} {p : M α} (hp : p.All (Cmd.writesBookings · = false)) :
    p.wp (live P) (admissionOutline P) i op (fun _ _ => True) (fun _ _ => True) s :=
  wp_keep hp (fun _ hc s _ _ => admission_pre hc s) persistent_true.kept trivial

theorem wp_initiateBooking (tenant : TenantContext) (userId : String)
    (dto : InitiateBookingDto) :
    (initiateBooking P tenant userId dto).wp (live P) (admissionOutline P) i op
      (fun _ _ => True) (fun _ _ => True) s := by
  have hpre : ∀ {c : Cmd} {F : LiveSnap → Prop}, c.writesBookings = false →
      ∀ s, (admissionOutline P).inv s → F s → (admissionOutline P).pre i op c s :=
    fun hc s _ _ => admission_pre hc s
  have htrue : Stable (live P) (admissionOutline P) i fun _ => True := persistent_true.stable
  unfold initiateBooking
  refine wp_await htrue trivial (hpre rfl) fun _ _ _ _ _ _ _ _ => ?_
  refine wp_throwIf fun _ => ?_
  refine wp_await htrue trivial (hpre rfl) fun s _ _ _ _ _ hinv _ => ?_
  refine wp_throwIf fun _ => ?_
  refine wp_bind hinv ((wp_admission ((all_validateLocksOwned ..).mono
    fun _ => Cmd.writesBookings_of_readOnly)).mono (fun _ s hinv _ => ?_) fun _ _ _ h => h)
  refine wp_await htrue trivial (hpre rfl) fun s o now _ _ _ _ hnow => ?_
  have hclock : now ≤ (s.exec (live P) i op .dateNow o).world.clock := by
    rw [Snap.exec_world, live_exec, exec_clock]
    exact Int.le_of_eq (dateNow_ok hnow)
  refine wp_await (persistent_clock P now).stable hclock (hpre rfl)
    fun s o existing _ hclock _ _ hexisting => ?_
  refine wp_throwIf fun hnone => ?_
  obtain rfl : existing = [] := by simpa using hnone
  have hF := (persistent_clock P now).and
    (Checked.persistent P i tenant.id dto.eventId (newSet dto.seatIds) now)
  refine wp_await hF.stable
    ⟨(persistent_clock P now).exec hclock .., Checked.intro hexisting⟩ (hpre rfl)
    fun s o _ _ h _ _ _ => ?_
  refine wp_await hF.stable (hF.exec h ..) (hpre rfl) fun s o _ _ h _ _ _ => ?_
  refine wp_await hF.stable (hF.exec h ..) (hpre rfl) fun s o order _ h _ _ _ => ?_
  refine wp_await hF.stable (hF.exec h ..) (fun s _ h => ⟨fun d hd => ?_, rfl⟩)
    fun s o booking _ _ _ _ _ => ?_
  · obtain rfl := Option.some.inj hd
    exact ⟨now, h⟩
  · exact wp_admission (.bind (all_await rfl) fun _ => .bind (all_await rfl) fun _ =>
      .bind ((all_releaseMany ..).mono fun _ => Cmd.writesBookings_of_ofSeatLocks) fun _ =>
        .bind (all_await rfl) fun _ => trivial)

end Body

theorem admissionOutline_valid (P : Platform) :
    Outline.Valid (live P) (admissionOutline P) fun _ _ _ _ => True where
  inv_exec := by
    intro s hinv i op c o _ hpre hallow
    cases hc : c.create? with
    | some d =>
        obtain rfl := Cmd.create?_eq_some.mp hc
        exact seatsExclusive_create hinv (hpre.1 d rfl) (hallow d rfl)
    | none =>
        exact hinv.congr (exec_bookings P o s.world (Cmd.writesBookings_of_none hc hpre.2))
          (exec_clock ..)
  inv_env hinv t := hinv.tick t
  body := by
    intro i op s hop hinv _
    cases op with
    | lockSeat t e seat u =>
        exact wp_admission ((all_map _ (all_lockSeat ..)).mono
          fun _ => Cmd.writesBookings_of_ofLockSeat)
    | unlockSeat t e seat u =>
        exact wp_admission ((all_map _ (all_unlockSeat ..)).mono
          fun _ => Cmd.writesBookings_of_ofSeatLocks)
    | initiateBooking tenant u dto =>
        exact wp_bind hinv ((wp_initiateBooking tenant u dto).mono
          (fun _ _ _ _ _ _ _ => trivial) fun _ _ _ h => h)
    | processPaymentWebhook r => cases hop
    | expirePendingBooking id => cases hop
    | handleExpiryJob d => cases hop

/-- **Admission**: however the steps of lockings, unlockings and bookings
and the passing of time interleave, no seat gets into two active bookings
as long as no insert meets a booking its own check could not see. -/
theorem seatsExclusive_run (P : Platform) (w : World) (ls : List LiveLabel)
    (hw : SeatsExclusive w) (hls : (admission P).admitsRun (live P) (Config.idle w) ls) :
    SeatsExclusive ((Config.idle w).run (live P) ls).world :=
  (Outline.sound (O := admissionOutline P) (admissionOutline_valid P)
    (Outline.Good.idle hw) hls).inv

/-! ## The race -/

namespace Sample

def lockFirst : List LiveLabel :=
  .spawn (.lockSeat "acme" "e1" "s1" "u1") :: steps 0 5 "tok"

/-- Two requests of the same user for the seat they hold: both check, then
both insert. -/
def checkTwiceThenInsert : List LiveLabel :=
  lockFirst
    ++ [.spawn (.initiateBooking tenant "u1" dto), .spawn (.initiateBooking tenant "u1" dto)]
    ++ steps 1 8 "order_1" ++ steps 2 8 "order_2" ++ steps 1 1 "b1" ++ steps 2 1 "b2"

/-- The second request comes when the first has inserted. -/
def insertThenCheck : List LiveLabel :=
  lockFirst
    ++ [.spawn (.initiateBooking tenant "u1" dto), .spawn (.initiateBooking tenant "u1" dto)]
    ++ steps 1 8 "order_1" ++ steps 1 1 "b1" ++ steps 2 8 "order_2"

end Sample

/-- The second request is refused, its check sees the first booking. -/
theorem seatsExclusive_insertThenCheck :
    SeatsExclusive
      ((Config.idle Sample.world).run (live Sample.platform) Sample.insertThenCheck).world :=
  seatsExclusive_run Sample.platform Sample.world Sample.insertThenCheck (by decide)
    (by decide +kernel)

/-- The steps of two bookings alone put a seat into two active bookings. -/
theorem not_seatsExclusive_interleaved :
    ¬ ∀ (P : Platform) (w : World) (ls : List LiveLabel), SeatsExclusive w →
      (Discipline.free sig World Oracle fun op : Op => op.reserves = true).admitsRun
        (live P) (Config.idle w) ls →
      SeatsExclusive ((Config.idle w).run (live P) ls).world := by
  intro h
  have hrun := h Sample.platform Sample.world Sample.checkTwiceThenInsert (by decide)
    (by decide +kernel)
  revert hrun
  decide +kernel

end Omnipax
