import Omnipax.Bookings

/-!
# The live system

The operations that requests, webhooks and jobs start, each with its
program, and the system that interleaves them. Between two commands of a
call any commands of other calls may run and any time may pass; a lock's
TTL runs out by the clock passing its `expireAt`.

The frame lemmas say which commands touch which part of the state. They
are the only place where `perform` is taken apart command by command for
the parts a command leaves alone.
-/

namespace Omnipax

open Conc Prog

/-! ## Operations -/

inductive Op where
  | lockSeat (tenantSlug eventId seatId userId : String)
  | unlockSeat (tenantSlug eventId seatId userId : String)
  | initiateBooking (tenant : TenantContext) (userId : String) (dto : InitiateBookingDto)
  | processPaymentWebhook (request : WebhookRequest)
  | expirePendingBooking (bookingId : String)
  | handleExpiryJob (data : SeatLockExpiryJobData)

/-- The request of a webhook delivery. -/
def Op.webhook? : Op → Option WebhookRequest
  | .processPaymentWebhook r => some r
  | _ => none

/-- The data of a seat-lock-expiry job. -/
def Op.lockJob? : Op → Option SeatLockExpiryJobData
  | .handleExpiryJob d => some d
  | _ => none

/-- What `TenantGuard` lets through: requests under the slug of a tenant,
with the id of that tenant. A job carries the slug of the request it came
from; webhooks and expiry jobs carry none. -/
def Op.guarded (c : Catalog) : Op → Bool
  | .lockSeat t _ _ _ => c.hasSlug t
  | .unlockSeat t _ _ _ => c.hasSlug t
  | .initiateBooking t _ _ => c.tenants.any fun row => row.id == t.id && row.slug == t.slug
  | .handleExpiryJob d => c.hasSlug d.tenantSlug
  | .processPaymentWebhook _ => true
  | .expirePendingBooking _ => true

inductive Answer where
  | lockSeat (r : LockSeatResult)
  | unlockSeat (r : UnlockSeatResult)
  | initiateBooking (r : InitiateBookingResult)
  | webhook (status : WebhookStatus)
  | done
deriving Repr, DecidableEq

def Op.body (P : Platform) : Op → M Answer
  | .lockSeat t e s u => .lockSeat <$> Omnipax.lockSeat P t e s u
  | .unlockSeat t e s u => .unlockSeat <$> Omnipax.unlockSeat t e s u
  | .initiateBooking t u dto => .initiateBooking <$> Omnipax.initiateBooking P t u dto
  | .processPaymentWebhook r => .webhook <$> Omnipax.processPaymentWebhook P r
  | .expirePendingBooking b => (fun _ => .done) <$> Omnipax.expirePendingBooking b
  | .handleExpiryJob d => (fun _ => .done) <$> Omnipax.handleExpiryJob d

abbrev LiveSystem := System sig World Oracle Time Exn Answer Op
abbrev LiveSnap := Snap sig World Oracle Op
abbrev LiveEvent := Conc.Event sig World Oracle Op
abbrev LiveConfig := Config sig World Oracle Exn Answer Op
abbrev LiveLabel := Label Oracle Time Op
abbrev LiveOutline := Outline sig World Oracle Op

/-- The system of all calls in flight. -/
def live (P : Platform) : LiveSystem where
  exec := exec P
  env t w := w.tick t
  body := Op.body P

/-- Call `i` ran `op` and has answered `a`. -/
def Answered (cfg : LiveConfig) (i : Nat) (op : Op) (a : Answer) : Prop :=
  cfg.threads[i]? = some ⟨op, .ret a⟩

@[simp] theorem live_exec (P : Platform) : (live P).exec = exec P := rfl

@[simp] theorem live_env (P : Platform) (t : Time) (w : World) :
    (live P).env t w = w.tick t := rfl

/-! ## Frames -/

/-- The command writes the `Booking` table. -/
def Cmd.writesBookings : Cmd → Bool
  | .bookingCreate _ => true
  | .bookingUpdate .. => true
  | _ => false

/-- The command writes the seat-lock store. -/
def Cmd.writesLocks : Cmd → Bool
  | .redisSet .. => true
  | .redisDel _ => true
  | _ => false

/-- The key a `DEL` deletes. -/
def Cmd.del? : Cmd → Option String
  | .redisDel key => some key
  | _ => none

/-- The command changes nothing at all. -/
def Cmd.readOnly : Cmd → Bool
  | .emit _ => false
  | .redisSet .. => false
  | .redisDel _ => false
  | .bookingCreate _ => false
  | .bookingUpdate .. => false
  | .webhookEventCreate _ => false
  | .seatLockExpiryAdd .. => false
  | .bookingExpiryAdd .. => false
  | _ => true

/-- The command writes the `PaymentWebhookEvent` table. -/
def Cmd.writesWebhookEvents : Cmd → Bool
  | .webhookEventCreate _ => true
  | _ => false

section Frames

variable (P : Platform) (o : Oracle) (w : World) (c : Cmd)

theorem perform_catalog : (perform P o w c).2.catalog = w.catalog := by
  cases c <;> simp only [perform] <;> (repeat' split) <;> rfl

theorem perform_clock : (perform P o w c).2.clock = w.clock := by
  cases c <;> simp only [perform] <;> (repeat' split) <;> rfl

theorem perform_bookings (h : c.writesBookings = false) :
    (perform P o w c).2.bookings = w.bookings := by
  cases c with
  | bookingCreate d => cases h
  | bookingUpdate id d => cases h
  | _ => simp only [perform] <;> (repeat' split) <;> rfl

theorem perform_locks (h : c.writesLocks = false) :
    (perform P o w c).2.locks = w.locks := by
  cases c with
  | redisSet key value px => cases h
  | redisDel key => cases h
  | _ => simp only [perform] <;> (repeat' split) <;> rfl

theorem perform_readOnly (h : c.readOnly = true) : (perform P o w c).2 = w := by
  cases c <;> first | rfl | cases h

theorem perform_webhookEvents (h : c.writesWebhookEvents = false) :
    (perform P o w c).2.webhookEvents = w.webhookEvents := by
  cases c with
  | webhookEventCreate d => cases h
  | _ => simp only [perform] <;> (repeat' split) <;> rfl

@[simp] theorem exec_catalog : (exec P c o w).2.catalog = w.catalog := by
  rcases exec_state P c o w with h | h <;> rw [h]
  exact perform_catalog P o w c

@[simp] theorem exec_clock : (exec P c o w).2.clock = w.clock := by
  rcases exec_state P c o w with h | h <;> rw [h]
  exact perform_clock P o w c

variable {c}

theorem exec_bookings (h : c.writesBookings = false) :
    (exec P c o w).2.bookings = w.bookings := by
  rcases exec_state P c o w with h' | h' <;> rw [h']
  exact perform_bookings P o w c h

theorem exec_locks (h : c.writesLocks = false) :
    (exec P c o w).2.locks = w.locks := by
  rcases exec_state P c o w with h' | h' <;> rw [h']
  exact perform_locks P o w c h

theorem exec_webhookEvents (h : c.writesWebhookEvents = false) :
    (exec P c o w).2.webhookEvents = w.webhookEvents := by
  rcases exec_state P c o w with h' | h' <;> rw [h']
  exact perform_webhookEvents P o w c h

theorem exec_readOnly (h : c.readOnly = true) : (exec P c o w).2 = w := by
  rcases exec_state P c o w with h' | h' <;> rw [h']
  exact perform_readOnly P o w c h

end Frames

theorem Cmd.update?_of_writesBookings {c : Cmd} (h : c.writesBookings = false) :
    c.update? = none := by
  cases c <;> first | rfl | cases h

theorem Cmd.create?_of_writesBookings {c : Cmd} (h : c.writesBookings = false) :
    c.create? = none := by
  cases c <;> first | rfl | cases h

theorem Cmd.writesBookings_of_none {c : Cmd} (hc : c.create? = none)
    (hu : c.update? = none) : c.writesBookings = false := by
  cases c <;> simp_all [create?, update?, writesBookings]

theorem dateNow_ok {P : Platform} {o : Oracle} {w : World} {t : Time}
    (h : (exec P .dateNow o w).1 = .ok t) : t = w.clock := by
  rw [perform_of_exec_ok h] at h
  exact (Except.ok.inj h).symm

theorem withTenant_congr {w w' : World} (h : w'.catalog = w.catalog) (b : Booking) :
    w'.withTenant b = w.withTenant b := by
  rw [World.withTenant, h]
  rfl

/-- An entry of the lock store after a command was there before, or is the
one a `SET` has stored. -/
theorem exec_lookup (P : Platform) (c : Cmd) (o : Oracle) (w : World) {key : String}
    {en : LockEntry} (h : (exec P c o w).2.locks.lookup key = some en) :
    w.locks.lookup key = some en ∨
      ∃ value px, c = .redisSet key value px ∧ 0 < px ∧ en = ⟨value, w.clock + px⟩ := by
  rcases exec_state P c o w with h' | h' <;> rw [h'] at h
  · cases c with
    | redisSet k value px =>
        simp only [perform] at h
        split at h
        · exact Or.inl h
        · rename_i hpx
          split at h
          · exact Or.inl h
          · by_cases hk : key = k
            · subst hk
              rw [AList.lookup_insert] at h
              obtain rfl := Option.some.inj h
              exact Or.inr ⟨value, px, rfl, Int.not_le.mp hpx, rfl⟩
            · rw [AList.lookup_insert_ne hk] at h
              exact Or.inl h
    | redisDel k =>
        simp only [perform] at h
        by_cases hk : key = k
        · subst hk
          rw [AList.lookup_erase] at h
          cases h
        · rw [AList.lookup_erase_ne hk] at h
          exact Or.inl h
    | _ =>
        rw [perform_locks P o w _ rfl] at h
        exact Or.inl h
  · exact Or.inl h

/-- Only a `DEL` that reaches Redis removes a live lock: a `SET` never
overwrites one. -/
theorem exec_removes {P : Platform} {c : Cmd} {o : Oracle} {w : World} {key : String}
    {en : LockEntry} (hen : w.liveLock key = some en)
    (h : (exec P c o w).2.locks.lookup key ≠ some en) :
    c = .redisDel key ∧ o.fault ≠ some .before := by
  have hold : w.locks.lookup key = some en := (World.liveLock_eq_some.mp hen).1
  cases c with
  | redisDel k =>
      have hf : o.fault ≠ some .before := fun hf => by
        rw [exec_before hf rfl] at h
        exact h hold
      by_cases hk : key = k
      · exact ⟨by rw [hk], hf⟩
      · refine absurd ?_ h
        rcases exec_state P (.redisDel k) o w with h' | h' <;> rw [h']
        · simp only [perform]
          rw [AList.lookup_erase_ne hk, hold]
        · exact hold
  | redisSet k value px =>
      refine absurd ?_ h
      rcases exec_state P (.redisSet k value px) o w with h' | h' <;> rw [h']
      · simp only [perform]
        split
        · exact hold
        split
        · exact hold
        · rename_i hfree
          have hk : key ≠ k := fun hk => hfree (by rw [← hk, hen]; rfl)
          rw [AList.lookup_insert_ne hk, hold]
      · exact hold
  | _ =>
      rw [exec_locks P o w rfl] at h
      exact absurd hold h

/-- What `booking.create` leaves in the table: at most the new row more. -/
theorem exec_create (P : Platform) (o : Oracle) (w : World) (d : BookingCreate) :
    (exec P (.bookingCreate d) o w).2 = w ∨
      (exec P (.bookingCreate d) o w).2.bookings.rows
        = w.bookings.rows ++ [d.row o.fresh] := by
  rcases exec_state P (.bookingCreate d) o w with h | h
  · rw [h]
    simp only [perform]
    split
    · rename_i t ht
      exact Or.inr (BookingTable.create_eq_some.mp ht)
    · exact Or.inl rfl
  · exact Or.inl h

theorem perform_create_ok {P : Platform} {o : Oracle} {w : World} {d : BookingCreate}
    {b : Booking} (h : (perform P o w (.bookingCreate d)).1 = .ok b) :
    (perform P o w (.bookingCreate d)).2.bookings.rows = w.bookings.rows ++ [d.row o.fresh] := by
  simp only [perform] at h ⊢
  split at h
  · rename_i t ht
    exact BookingTable.create_eq_some.mp ht
  · cases h

/-- An update that reaches the database and breaks no index takes effect,
whether it is answered or not. -/
theorem exec_update_applied {P : Platform} {o : Oracle} {w : World} {id : String}
    {d : BookingUpdate} {b : Booking} {t : BookingTable} (ho : o.fault ≠ some .before)
    (hb : w.bookings.find? id = some b) (ht : w.bookings.update id d = some t) :
    (exec P (.bookingUpdate id d) o w).2.bookings = t := by
  have hperf : (perform P o w (.bookingUpdate id d)).2.bookings = t := by
    simp only [perform, hb, ht]
  rcases hf : o.fault with _ | _ | _
  · rw [exec_of_up (.inr hf), hperf]
  · exact absurd hf ho
  · rw [exec_after hf rfl]
    exact hperf

theorem exec_update_ok {P : Platform} {o : Oracle} {w : World} {id : String}
    {d : BookingUpdate} {u : BookingWithTenant}
    (h : (exec P (.bookingUpdate id d) o w).1 = .ok u) :
    w.bookings.update id d = some (exec P (.bookingUpdate id d) o w).2.bookings := by
  have hperf := perform_of_exec_ok h
  rw [hperf] at h ⊢
  simp only [perform] at h ⊢
  split at h
  · cases h
  · split at h
    · rename_i ht
      exact ht
    · cases h

/-- What `booking.update` leaves in the table: the rows as they were, or
the row with this id updated. -/
theorem exec_update (P : Platform) (o : Oracle) (w : World) (id : String)
    (d : BookingUpdate) :
    (exec P (.bookingUpdate id d) o w).2.bookings = w.bookings ∨
      o.fault ≠ some .before ∧ ∃ t, w.bookings.update id d = some t ∧
        (exec P (.bookingUpdate id d) o w).2.bookings = t := by
  by_cases hf : o.fault = some .before
  · rw [exec_before hf rfl]
    exact Or.inl rfl
  rcases exec_state P (.bookingUpdate id d) o w with h | h
  · rw [h]
    simp only [perform]
    split
    · exact Or.inl rfl
    · split
      · rename_i t ht
        exact Or.inr ⟨hf, t, ht, rfl⟩
      · exact Or.inl rfl
  · exact Or.inl (congrArg World.bookings h)

/-! ## Programs command by command -/

section All

variable {α β : Type} {Pc : Cmd → Prop}

theorem all_await {c : Cmd} (h : Pc c) : (await c).All Pc :=
  ⟨h, fun r => by cases r <;> trivial⟩

theorem all_settle {c : Cmd} (h : Pc c) : (settle c).All Pc :=
  ⟨h, fun _ => trivial⟩

theorem all_allOf (l : List (Except StepError α)) : (allOf l).All Pc := by
  unfold allOf
  split <;> trivial

theorem all_mapM {f : α → M β} {l : List α} (h : ∀ a ∈ l, (f a).All Pc) :
    (l.mapM f).All Pc := Prog.All.mapM h

theorem all_map {p : M α} (f : α → β) (h : p.All Pc) : (f <$> p).All Pc :=
  h.bind fun _ => trivial

end All

/-- The commands of `lockSeat` under a slug: the value of its `SET` has this
slug and goes under its own key, for the configured time. -/
def Cmd.ofLockSeat (P : Platform) (tenantSlug : String) : Cmd → Prop
  | .dateNow => True
  | .randomUUID => True
  | .emit _ => True
  | .redisSet key value px =>
      value.tenantSlug = tenantSlug ∧
        key = getLockKey value.tenantSlug value.eventId value.seatId ∧
        px = P.seatLockTtlSeconds * 1000
  | .seatLockExpiryAdd .. => True
  | _ => False

/-- The commands of the releasing operations of `SeatLocksService`, which
delete no keys but these. -/
def Cmd.ofSeatLocks (keys : List String) : Cmd → Bool
  | .dateNow => true
  | .randomUUID => true
  | .emit _ => true
  | .redisGet _ => true
  | .redisDel key => keys.contains key
  | .redisPttl _ => true
  | .seatLockExpiryAdd .. => true
  | _ => false

theorem Cmd.writesBookings_of_ofLockSeat {P : Platform} {t : String} {c : Cmd}
    (h : c.ofLockSeat P t) : c.writesBookings = false := by
  cases c <;> first | rfl | cases h

theorem Cmd.writesBookings_of_ofSeatLocks {keys : List String} {c : Cmd}
    (h : c.ofSeatLocks keys = true) : c.writesBookings = false := by
  cases c <;> first | rfl | cases h

theorem Cmd.writesBookings_of_readOnly {c : Cmd} (h : c.readOnly = true) :
    c.writesBookings = false := by
  cases c <;> first | rfl | cases h

section SeatLocks

variable (P : Platform) (t e s u : String) (seats : List String)

theorem all_lockSeat : (lockSeat P t e s u).All (Cmd.ofLockSeat P t) := by
  unfold lockSeat
  exact .bind (all_await trivial) fun _ => .bind (all_await trivial) fun _ =>
    .bind (all_await ⟨rfl, rfl, rfl⟩) fun _ => .bind (all_throwIf ..) fun _ =>
      .bind (all_await trivial) fun _ => .bind (all_await trivial) fun _ => trivial

theorem all_unlockSeat (force : Bool) :
    (unlockSeat t e s u force).All (Cmd.ofSeatLocks [getLockKey t e s] · = true) := by
  unfold unlockSeat
  refine .bind (all_await rfl) fun existing => ?_
  cases existing with
  | none => trivial
  | some lock =>
      exact .bind (all_throwIf ..) fun _ => .bind (all_await (by simp [Cmd.ofSeatLocks])) fun _ =>
        .bind (all_await rfl) fun _ => trivial

theorem all_validateLocksOwned :
    (validateLocksOwned t e seats u).All (Cmd.readOnly · = true) := by
  unfold validateLocksOwned
  exact .bind (all_mapM fun _ _ => all_await rfl) fun _ => all_throwIf ..

theorem all_lookUp (tenant : TenantContext) (dto : InitiateBookingDto) :
    (lookUp tenant dto).All (Cmd.readOnly · = true) := by
  unfold lookUp
  exact .bind (all_await rfl) fun _ => .bind (all_throwIf ..) fun _ =>
    .bind (all_await rfl) fun _ => all_throwIf ..

theorem all_admissionChecks (tenant : TenantContext) :
    (admissionChecks tenant e seats u).All (Cmd.readOnly · = true) := by
  unfold admissionChecks existingCheck
  exact .bind (all_validateLocksOwned ..) fun _ => .bind (all_await rfl) fun _ =>
    .bind (all_await rfl) fun _ => .bind (all_throwIf ..) fun _ => trivial

theorem all_createOrder (tenant : TenantContext) (dto : InitiateBookingDto) :
    (createOrder P tenant u dto).All (Cmd.readOnly · = true) := by
  unfold createOrder
  exact .bind (all_await rfl) fun _ => .bind (all_await rfl) fun _ => all_await rfl

theorem all_releaseFound {keys : List String}
    (x : String × Except StepError (Option SeatLockPayload)) (hx : getLockKey t e x.1 ∈ keys) :
    (releaseFound t e x).All (Cmd.ofSeatLocks keys · = true) := by
  obtain ⟨seatId, r⟩ := x
  match r with
  | .error _ => trivial
  | .ok none => trivial
  | .ok (some _) =>
      refine .bind (all_settle (by simpa [Cmd.ofSeatLocks] using hx)) fun outcome => ?_
      cases outcome with
      | error _ => trivial
      | ok _ => exact .bind (all_await rfl) fun _ => trivial

theorem all_releaseMany :
    (releaseMany t e seats).All (Cmd.ofSeatLocks (seats.map (getLockKey t e)) · = true) := by
  unfold releaseMany
  refine .bind (all_mapM fun _ _ => all_settle rfl) fun found =>
    .bind (all_mapM fun x hx => all_releaseFound t e x ?_) fun _ => all_allOf _
  exact List.mem_map_of_mem (List.of_mem_zip hx).1

theorem all_handleExpiryJob (d : SeatLockExpiryJobData) :
    (handleExpiryJob d).All
      (Cmd.ofSeatLocks [getLockKey d.tenantSlug d.eventId d.seatId] · = true) := by
  unfold handleExpiryJob
  refine .bind (all_await rfl) fun current => ?_
  cases current with
  | none => exact all_await rfl
  | some lock =>
      dsimp only
      split
      · refine .bind (all_await rfl) fun ttl => ?_
        split
        · exact .bind (all_await (by simp [Cmd.ofSeatLocks])) fun _ => all_await rfl
        · trivial
      · trivial

end SeatLocks

/-! ## The rules for `await` under interference -/

section Rules

variable {P : Platform} {O : LiveOutline} {i : Nat} {op : Op} {α : Type}
  {Q : α → LiveSnap → Prop} {s : LiveSnap}

/-- An awaited command followed by the rest: only an answered command
reaches the rest. -/
theorem wp_await {F : LiveSnap → Prop} (hF : Stable (live P) O i F) (hs : F s)
    {c : Cmd} {f : c.Ret → M α} (hpre : ∀ s, O.inv s → F s → O.pre i op c s)
    (hk : ∀ s o a, O.inv s → F s → O.allows i op c o s →
      O.inv (s.exec (live P) i op c o) → (exec P c o s.world).1 = .ok a →
      (f a).wp (live P) O i op Q (fun _ _ => True) (s.exec (live P) i op c o)) :
    (await c >>= f).wp (live P) O i op Q (fun _ _ => True) s := by
  refine wp_call hF hs hpre fun s o hinv hFs hallow hinv' => ?_
  rw [live_exec]
  cases h : (exec P c o s.world).1 with
  | ok a => exact hk s o a hinv hFs hallow hinv' h
  | error e => exact wp_err_of fun _ _ => trivial

theorem wp_settle {F : LiveSnap → Prop} (hF : Stable (live P) O i F) (hs : F s) {c : Cmd}
    {f : Except StepError c.Ret → M α} (hpre : ∀ s, O.inv s → F s → O.pre i op c s)
    (hk : ∀ s o, O.inv s → F s → O.inv (s.exec (live P) i op c o) →
      (f (exec P c o s.world).1).wp (live P) O i op Q (fun _ _ => True)
        (s.exec (live P) i op c o)) :
    (settle c >>= f).wp (live P) O i op Q (fun _ _ => True) s :=
  wp_call hF hs hpre fun s o hinv hFs _ hinv' => hk s o hinv hFs hinv'

theorem wp_throwIf {b : Bool} {e : Exn} {f : Unit → M α}
    (h : b = false → (f ()).wp (live P) O i op Q (fun _ _ => True) s) :
    (throwIf b e >>= f).wp (live P) O i op Q (fun _ _ => True) s := by
  cases b with
  | true => exact wp_err_of fun _ _ => trivial
  | false => exact h rfl

end Rules

end Omnipax
