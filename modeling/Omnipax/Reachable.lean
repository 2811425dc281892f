import Omnipax.Webhook

/-!
# Reachable states

The states some run of the platform gets to, all operations interleaved and
all services failing as they like. Whatever holds of the arguments of every
command the operations issue (`Cmd.Issued`) is there to build invariants of
these states from: a PENDING booking has no ticket, and a lock lies under the
key of its own value.
-/

namespace Omnipax

open Conc Prog

/-- A state some run of the platform gets to, from nothing sold or locked,
by operations that passed the tenant guard. -/
def Reachable (P : Platform) (w : World) : Prop :=
  ∃ clock catalog ls, (∀ op, .spawn op ∈ ls → op.guarded catalog = true) ∧
    ((Config.idle (.init clock catalog)).run (live P) ls).world = w

theorem reachable_serial (P : Platform) (clock : Time) (catalog : Catalog) (xs : List LiveTurn)
    (h : ∀ x ∈ xs, x.op.guarded catalog = true) :
    Reachable P (serial P (.init clock catalog) xs) := by
  obtain ⟨ls, hspawn, hls⟩ :=
    Config.exists_run_serial (live P) xs (Config.idle (.init clock catalog))
  refine ⟨clock, catalog, ls, fun op hop => ?_, hls⟩
  obtain ⟨x, hx, rfl⟩ := hspawn op hop
  exact h x hx

/-! ## What the operations issue -/

/-- What is known of the arguments of a command. -/
def Cmd.Issued (P : Platform) : Cmd → Prop
  | .redisSet key value px =>
      key = getLockKey value.tenantSlug value.eventId value.seatId ∧
        NoColon value.tenantSlug ∧ px = P.seatLockTtlSeconds * 1000
  | .bookingCreate d => d.status = .PENDING
  | .bookingUpdate _ d => d.status = .CONFIRMED ∨ d.status = .EXPIRED
  | _ => True

section Issued

variable {P : Platform}

theorem Cmd.issued_of_ofLockSeat {t : String} (ht : NoColon t) {c : Cmd}
    (h : c.ofLockSeat P t) : c.Issued P := by
  cases c with
  | redisSet key value px =>
      obtain ⟨rfl, hkey, hpx⟩ := h
      exact ⟨hkey, ht, hpx⟩
  | bookingCreate d => cases h
  | bookingUpdate id d => cases h
  | _ => trivial

theorem Cmd.issued_of_ofSeatLocks {keys : List String} {c : Cmd}
    (h : c.ofSeatLocks keys = true) : c.Issued P := by
  cases c <;> trivial

theorem Cmd.issued_of_readOnly {c : Cmd} (h : c.readOnly = true) : c.Issued P := by
  cases c <;> trivial

theorem Cmd.issued_of_ofLookup {c : Cmd} (h : c.ofLookup = true) : c.Issued P := by
  cases c <;> trivial

theorem all_initiateBooking_issued (tenant : TenantContext) (u : String)
    (dto : InitiateBookingDto) : (initiateBooking P tenant u dto).All (Cmd.Issued P) := by
  unfold initiateBooking
  exact .bind (all_await trivial) fun _ => .bind (all_throwIf ..) fun _ =>
    .bind (all_await trivial) fun _ => .bind (all_throwIf ..) fun _ =>
    .bind ((all_validateLocksOwned ..).mono fun _ => Cmd.issued_of_readOnly) fun _ =>
    .bind (all_await trivial) fun _ => .bind (all_await trivial) fun _ =>
    .bind (all_throwIf ..) fun _ => .bind (all_await trivial) fun _ =>
    .bind (all_await trivial) fun _ => .bind (all_await trivial) fun _ =>
    .bind (all_await rfl) fun _ => .bind (all_await trivial) fun _ =>
    .bind (all_await trivial) fun _ =>
    .bind ((all_releaseMany ..).mono fun _ => Cmd.issued_of_ofSeatLocks) fun _ =>
    .bind (all_await trivial) fun _ => trivial

/-- The commands of a delivery: its lookup, a confirmation, a message. -/
theorem all_processPaymentWebhook {Pc : Cmd → Prop} (hlookup : ∀ c, c.ofLookup = true → Pc c)
    (hupdate : ∀ id d, d.status = .CONFIRMED → Pc (.bookingUpdate id d))
    (hemit : ∀ m, Pc (.emit m)) (r : WebhookRequest) : (processPaymentWebhook P r).All Pc := by
  have hconfirm : (confirmOrder P r).All Pc := by
    cases hrefs : r.refs? with
    | none => rcases confirmOrder_of_no_refs (P := P) hrefs with h | h <;> rw [h] <;> trivial
    | some x =>
        rw [confirmOrder_of_refs hrefs]
        refine .bind (all_await (hlookup _ rfl)) fun found => ?_
        cases found with
        | none => trivial
        | some found =>
            exact all_confirmPending (hlookup _ rfl) (fun _ => hlookup _ rfl) (hupdate _) hemit
  unfold processPaymentWebhook
  refine .bind (all_throwIf ..) fun _ => .bind (all_throwIf ..) fun _ =>
    .bind (all_webhookEventId.mono hlookup) fun _ => ?_
  unfold processEvent
  refine .bind (all_settle (hlookup _ rfl)) fun inserted => ?_
  split
  · trivial
  · trivial
  · exact hconfirm

theorem all_expirePendingBooking {Pc : Cmd → Prop} (hclock : Pc .dateNow)
    (hfind : ∀ id, Pc (.bookingFindUnique id))
    (hupdate : ∀ id d, d.status = .EXPIRED → Pc (.bookingUpdate id d))
    (hemit : ∀ m, Pc (.emit m)) (id : String) : (expirePendingBooking id).All Pc := by
  unfold expirePendingBooking
  refine .bind (all_await hclock) fun now => .bind (all_await (hfind _)) fun found => ?_
  cases found with
  | none => trivial
  | some found =>
      by_cases h : found.booking.status = .PENDING ∧ found.booking.expiresAt ≤ now
      · simp only [expireFound_of_due h.1 h.2]
        exact .bind (all_await (hupdate _ _ rfl)) fun _ => all_await (hemit _)
      · simp only [expireFound_of_not_due h]
        trivial

theorem all_processPaymentWebhook_issued (r : WebhookRequest) :
    (processPaymentWebhook P r).All (Cmd.Issued P) :=
  all_processPaymentWebhook (fun _ => Cmd.issued_of_ofLookup) (fun _ _ h => Or.inl h)
    (fun _ => trivial) r

theorem all_expirePendingBooking_issued (id : String) :
    (expirePendingBooking id).All (Cmd.Issued P) :=
  all_expirePendingBooking trivial (fun _ => trivial) (fun _ _ h => Or.inr h) (fun _ => trivial) id

theorem all_body {catalog : Catalog} {op : Op} (hop : op.guarded catalog = true) :
    (op.body P).All (Cmd.Issued P) := by
  cases op with
  | lockSeat t e s u =>
      exact all_map _ ((all_lockSeat ..).mono
        fun _ => Cmd.issued_of_ofLockSeat (Catalog.noColon_of_hasSlug hop))
  | unlockSeat t e s u =>
      exact all_map _ ((all_unlockSeat ..).mono fun _ => Cmd.issued_of_ofSeatLocks)
  | initiateBooking tenant u dto => exact all_map _ (all_initiateBooking_issued ..)
  | processPaymentWebhook r => exact all_map _ (all_processPaymentWebhook_issued r)
  | expirePendingBooking id => exact all_map _ (all_expirePendingBooking_issued id)
  | handleExpiryJob d =>
      exact all_map _ ((all_handleExpiryJob d).mono fun _ => Cmd.issued_of_ofSeatLocks)

theorem Reachable.invariant {I : World → Prop} (hinit : ∀ clock catalog, I (.init clock catalog))
    (hexec : ∀ c o w, c.Issued P → I w → I (exec P c o w).2) (htick : ∀ w t, I w → I (w.tick t))
    {w : World} (h : Reachable P w) : I w := by
  obtain ⟨clock, catalog, ls, hls, rfl⟩ := h
  exact Config.run_invariant_of_all (M := live P) (fun _ => all_body) hexec htick
    (by simp [Config.idle]) (hinit clock catalog) hls

end Issued

/-! ## Tickets -/

/-- A PENDING booking has no ticket yet. -/
def Ticketless (w : World) : Prop :=
  ∀ b ∈ w.bookings.rows, b.status = .PENDING → b.ticketCode = none ∧ b.ticketQrData = none

theorem ticketless_exec {P : Platform} {c : Cmd} (o : Oracle) {w : World} (h : Ticketless w)
    (hc : ∀ u ∈ c.update?, u.2.status ≠ .PENDING) : Ticketless (exec P c o w).2 := by
  cases hu : c.update? with
  | some u =>
      obtain ⟨id, d⟩ := u
      obtain rfl := Cmd.update?_eq_some.mp hu
      rcases exec_update P o w id d with hsame | ⟨-, t, ht, hres⟩
      · unfold Ticketless
        rw [hsame]
        exact h
      · intro b hb hp
        rw [hres, BookingTable.update_eq_some.mp ht] at hb
        obtain ⟨b₁, hb₁, rfl⟩ := List.mem_map.mp hb
        split at hp
        · exact absurd hp (hc _ hu)
        · rename_i hid
          rw [if_neg hid]
          exact h b₁ hb₁ hp
  | none =>
      cases hd : c.create? with
      | some d =>
          obtain rfl := Cmd.create?_eq_some.mp hd
          rcases exec_create P o w d with hsame | hrows
          · rw [hsame]
            exact h
          · intro b hb hp
            rw [hrows, List.mem_append, List.mem_singleton] at hb
            rcases hb with hb | rfl
            · exact h b hb hp
            · exact ⟨rfl, rfl⟩
      | none =>
          unfold Ticketless
          rw [exec_bookings P o w (Cmd.writesBookings_of_none hd hu)]
          exact h

theorem Reachable.ticketless {P : Platform} {w : World} (h : Reachable P w) : Ticketless w := by
  refine h.invariant (fun _ _ _ hb => nomatch hb) (fun c o w hc hw => ticketless_exec o hw ?_)
    fun _ _ hw => hw
  rintro ⟨id, d⟩ hu
  obtain rfl := Cmd.update?_eq_some.mp hu
  rcases hc with hc | hc <;> rw [hc] <;> exact nofun

/-! ## Locks -/

/-- Every lock lies under the key of its own value, whose slug has no
colon. -/
def KeyedLocks (w : World) : Prop :=
  ∀ key en, w.locks.lookup key = some en →
    key = getLockKey en.value.tenantSlug en.value.eventId en.value.seatId ∧
      NoColon en.value.tenantSlug

theorem keyedLocks_exec {P : Platform} {c : Cmd} (o : Oracle) {w : World} (h : KeyedLocks w)
    (hc : ∀ key value px, c = .redisSet key value px →
      key = getLockKey value.tenantSlug value.eventId value.seatId ∧
        NoColon value.tenantSlug) : KeyedLocks (exec P c o w).2 := by
  intro key en hen
  rcases exec_lookup P c o w hen with hold | ⟨value, px, rfl, -, rfl⟩
  · exact h key en hold
  · exact hc _ _ _ rfl

theorem lookup_init (clock : Time) (catalog : Catalog) (key : String) :
    (World.init clock catalog).locks.lookup key = none :=
  AList.lookup_empty key

theorem Reachable.keyedLocks {P : Platform} {w : World} (h : Reachable P w) : KeyedLocks w := by
  refine h.invariant (fun clock catalog key en hen => ?_)
    (fun c o w hc hw => keyedLocks_exec o hw ?_) fun _ _ hw => hw
  · rw [lookup_init] at hen
    cases hen
  · rintro key value px rfl
    exact ⟨hc.1, hc.2.1⟩

theorem Reachable.ttl_pos {P : Platform} {w : World} (h : Reachable P w) {key : String}
    {en : LockEntry} (hen : w.locks.lookup key = some en) : 0 < P.seatLockTtlSeconds := by
  let I := fun w : World => ∀ key en, w.locks.lookup key = some en → 0 < P.seatLockTtlSeconds
  have hI : I w := by
    refine h.invariant (fun clock catalog key en hen => ?_) (fun c o w hc hw key en hen => ?_)
      fun _ _ hw => hw
    · rw [lookup_init] at hen
      cases hen
    · rcases exec_lookup P c o w hen with hold | ⟨value, px, rfl, hpx, -⟩
      · exact hw key en hold
      · have httl : px = P.seatLockTtlSeconds * 1000 := hc.2.2
        omega
  exact hI key en hen

end Omnipax
