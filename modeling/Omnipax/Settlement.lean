import Omnipax.Resale

/-!
# Confirming against expiring

A delivery and an expiry job both read a booking, decide on the status they
saw and then update the row by its id alone. Between the read and the
update another call may have settled the booking, and the update settles
it again: a booking just confirmed, and answered as confirmed, becomes
EXPIRED, or an expired one CONFIRMED.

As long as no update comes after somebody else has moved its booking to
another status, every status moves at most once, from PENDING, and a
booking whose delivery answered `confirmed` stays CONFIRMED.
-/

namespace Omnipax

open Conc Prog

/-! ## The webhook under interference -/

section Webhook

variable {P : Platform} {O : LiveOutline} {i : Nat} {op : Op} {r : WebhookRequest}
  {s : LiveSnap}

/-- A delivery, command by command. `F` holds until the lookup, `G found` from
the lookup of a PENDING booking to its update, `H found` from the update to
the emission, `K found` from then on. -/
structure ConfirmOutline (P : Platform) (O : LiveOutline) (i : Nat) (op : Op)
    (r : WebhookRequest) (F : LiveSnap → Prop) (G H K : BookingWithTenant → LiveSnap → Prop) :
    Prop where
  pre : ∀ c, c.ofLookup = true → ∀ s, O.inv s → O.pre i op c s
  before : Kept (live P) O i op (Cmd.ofLookup · = true) F
  read : ∀ found, Kept (live P) O i op (Cmd.ofLookup · = true) (G found)
  written : ∀ found, Stable (live P) O i (H found)
  done : ∀ found, Stable (live P) O i (K found)
  on_read : ∀ s o orderId paymentId b, O.inv s → F s → r.refs? = some (orderId, paymentId) →
    s.world.bookings.findByOrder? orderId = some b → b.status = .PENDING →
    G (s.world.withTenant b) (s.exec (live P) i op (.bookingFindUniqueByOrder orderId) o)
  update_pre : ∀ s found paymentId salt, O.inv s → G found s →
    O.pre i op (.bookingUpdate found.booking.id (confirmUpdate P r paymentId found salt)) s
  on_update : ∀ s o found paymentId salt, O.inv s → G found s →
    O.allows i op (.bookingUpdate found.booking.id (confirmUpdate P r paymentId found salt)) o s →
    (∃ u, (exec P (.bookingUpdate found.booking.id
      (confirmUpdate P r paymentId found salt)) o s.world).1 = .ok u) →
    H found (s.exec (live P) i op
      (.bookingUpdate found.booking.id (confirmUpdate P r paymentId found salt)) o)
  emit_pre : ∀ s found t e ss, O.inv s → H found s →
    O.pre i op (.emit (.BOOKING_CONFIRMED t e ss)) s
  on_emit : ∀ s o found t e ss, O.inv s → H found s →
    K found (s.exec (live P) i op (.emit (.BOOKING_CONFIRMED t e ss)) o)

section

variable {F : LiveSnap → Prop} {G H K : BookingWithTenant → LiveSnap → Prop}

theorem ConfirmOutline.wp_confirmOrder (hO : ConfirmOutline P O i op r F G H K) (hs : F s) :
    (confirmOrder P r).wp (live P) O i op
      (fun status s => status = .confirmed → ∃ found, K found s) (fun _ _ => True) s := by
  have hquiet : ∀ {status : WebhookStatus} {s : LiveSnap}, status ≠ .confirmed →
      (Prog.ret status : M WebhookStatus).wp (live P) O i op
        (fun status s => status = .confirmed → ∃ found, K found s) (fun _ _ => True) s :=
    fun hne => wp_ret persistent_true.stable trivial fun _ _ _ h => absurd h hne
  cases hrefs : r.refs? with
  | none =>
      rcases confirmOrder_of_no_refs (P := P) hrefs with h | h <;> rw [h]
      · exact hquiet nofun
      · exact wp_err_of fun _ _ => trivial
  | some x =>
      obtain ⟨orderId, paymentId⟩ := x
      rw [confirmOrder_of_refs hrefs]
      refine wp_await hO.before.stable hs (fun s hinv _ => hO.pre _ rfl s hinv)
        fun s o found hinv hF _ hinv' hfound => ?_
      rw [perform_of_exec_ok hfound] at hfound
      obtain rfl := Except.ok.inj hfound
      cases hb : s.world.bookings.findByOrder? orderId with
      | none => exact hquiet nofun
      | some b =>
          simp only [Option.map_some]
          by_cases hpend : b.status = .PENDING
          · have hG := hO.on_read s o orderId paymentId b hinv hF hrefs hb hpend
            generalize hfound : s.world.withTenant b = found at hG
            have hp : found.booking.status = .PENDING := by rw [← hfound]; exact hpend
            rw [confirmPending_of_pending hp]
            refine wp_await (hO.read found).stable hG (fun s hinv _ => hO.pre _ rfl s hinv)
              fun s o salt hinv hG _ _ _ => ?_
            refine wp_await (hO.read found).stable ((hO.read found).own hG _ o rfl)
              (fun s hinv _ => hO.pre _ rfl s hinv) fun s o qr hinv hG _ _ hqr => ?_
            rw [perform_of_exec_ok hqr] at hqr
            obtain rfl := Except.ok.inj hqr
            refine wp_await (hO.read found).stable ((hO.read found).own hG _ o rfl)
              (fun s hinv hG => hO.update_pre s found paymentId salt hinv hG)
              fun s o updated hinv hG hallow _ hok => ?_
            refine wp_await (hO.written found)
              (hO.on_update s o found paymentId salt hinv hG hallow ⟨_, hok⟩)
              (fun s hinv hH => hO.emit_pre s found _ _ _ hinv hH) fun s o _ hinv hH _ _ _ => ?_
            exact wp_ret (hO.done found) (hO.on_emit s o found _ _ _ hinv hH)
              fun _ _ hK _ => ⟨found, hK⟩
          · rw [confirmPending_of_not_pending hpend]
            refine hquiet ?_
            split <;> exact nofun

theorem ConfirmOutline.wp_webhook (hO : ConfirmOutline P O i op r F G H K) (hinv : O.inv s)
    (hs : F s) :
    (processPaymentWebhook P r).wp (live P) O i op
      (fun status s => status = .confirmed → ∃ found, K found s) (fun _ _ => True) s := by
  cases hsigned : r.signed P with
  | false =>
      obtain ⟨e, he⟩ := processPaymentWebhook_of_unsigned hsigned
      rw [he]
      exact wp_err_of fun _ _ => trivial
  | true =>
      rw [processPaymentWebhook_of_signed hsigned]
      refine wp_bind hinv ((wp_keep all_webhookEventId
        (fun c hc s hinv _ => hO.pre c hc s hinv) hO.before hs).mono
        (fun eventId s hinv hs => ?_) fun _ _ _ _ => trivial)
      refine wp_settle hO.before.stable hs (fun s hinv _ => hO.pre _ rfl s hinv)
        fun s o hinv hs _ => ?_
      split
      · exact wp_ret persistent_true.stable trivial fun _ _ _ h => nomatch h
      · exact wp_err_of fun _ _ => trivial
      · exact hO.wp_confirmOrder (hO.before.own hs _ o rfl)

end

/-- The same where no more is asked of the update than that it confirms the
booking found. -/
structure DeliveryOutline (P : Platform) (O : LiveOutline) (i : Nat) (op : Op)
    (r : WebhookRequest) (F : LiveSnap → Prop) (G H K : Booking → LiveSnap → Prop) : Prop where
  pre : ∀ c, c.ofLookup = true → ∀ s, O.inv s → O.pre i op c s
  before : Kept (live P) O i op (Cmd.ofLookup · = true) F
  read : ∀ b, Kept (live P) O i op (Cmd.ofLookup · = true) (G b)
  written : ∀ b, Stable (live P) O i (H b)
  done : ∀ b, Stable (live P) O i (K b)
  on_read : ∀ s o orderId paymentId b, O.inv s → F s → r.refs? = some (orderId, paymentId) →
    s.world.bookings.findByOrder? orderId = some b → b.status = .PENDING →
    G b (s.exec (live P) i op (.bookingFindUniqueByOrder orderId) o)
  update_pre : ∀ s b d, O.inv s → G b s → d.status = .CONFIRMED →
    O.pre i op (.bookingUpdate b.id d) s
  on_update : ∀ s o b d, O.inv s → G b s → d.status = .CONFIRMED →
    O.allows i op (.bookingUpdate b.id d) o s →
    (∃ u, (exec P (.bookingUpdate b.id d) o s.world).1 = .ok u) →
    H b (s.exec (live P) i op (.bookingUpdate b.id d) o)
  emit_pre : ∀ s b t e ss, O.inv s → H b s → O.pre i op (.emit (.BOOKING_CONFIRMED t e ss)) s
  on_emit : ∀ s o b t e ss, O.inv s → H b s →
    K b (s.exec (live P) i op (.emit (.BOOKING_CONFIRMED t e ss)) o)

variable {F : LiveSnap → Prop} {G H K : Booking → LiveSnap → Prop}

theorem DeliveryOutline.confirm (hO : DeliveryOutline P O i op r F G H K) :
    ConfirmOutline P O i op r F (fun found => G found.booking) (fun found => H found.booking)
      fun found => K found.booking where
  pre := hO.pre
  before := hO.before
  read found := hO.read found.booking
  written found := hO.written found.booking
  done found := hO.done found.booking
  on_read := hO.on_read
  update_pre s found _ _ hinv hG := hO.update_pre s found.booking _ hinv hG rfl
  on_update s o found _ _ hinv hG := hO.on_update s o found.booking _ hinv hG rfl
  emit_pre s found := hO.emit_pre s found.booking
  on_emit s o found := hO.on_emit s o found.booking

theorem wp_processPaymentWebhook (hO : DeliveryOutline P O i op r F G H K) (hinv : O.inv s)
    (hs : F s) :
    (processPaymentWebhook P r).wp (live P) O i op
      (fun status s => status = .confirmed → ∃ b, K b s) (fun _ _ => True) s := by
  refine (hO.confirm.wp_webhook hinv hs).mono (fun _ _ _ h hc => ?_) fun _ _ _ h => h
  obtain ⟨found, hK⟩ := h hc
  exact ⟨found.booking, hK⟩

end Webhook

/-! ## How rows evolve -/

/-- Every row of `w` is still there in `w'`, changed as `R` allows. -/
def Evolves (R : Booking → Booking → Prop) (w w' : World) : Prop :=
  ∀ b ∈ w.bookings.rows, ∃ b' ∈ w'.bookings.rows, R b b'

instance (R : Booking → Booking → Prop) [∀ b b', Decidable (R b b')] (w w' : World) :
    Decidable (Evolves R w w') :=
  inferInstanceAs (Decidable (∀ _ ∈ _, ∃ _ ∈ _, _))

section Evolves

variable {R : Booking → Booking → Prop} {P : Platform} {w w' w'' : World}

theorem Evolves.refl (hR : ∀ b, R b b) (w : World) : Evolves R w w :=
  fun b hb => ⟨b, hb, hR b⟩

theorem Evolves.trans (hR : ∀ {a b c}, R a b → R b c → R a c) (h : Evolves R w w')
    (h' : Evolves R w' w'') : Evolves R w w'' := by
  intro b hb
  obtain ⟨b', hb', hbb'⟩ := h b hb
  obtain ⟨b'', hb'', hbb''⟩ := h' b' hb'
  exact ⟨b'', hb'', hR hbb' hbb''⟩

/-- One command: only an update that reaches the database changes a row. -/
theorem evolves_exec (hR : ∀ b, R b b) {c : Cmd} {o : Oracle}
    (h : ∀ id d, c = .bookingUpdate id d → o.fault ≠ some .before →
      ∀ b ∈ w.bookings.rows, b.id = id → R b (d.apply b)) :
    Evolves R w (exec P c o w).2 := by
  cases hu : c.update? with
  | some u =>
      obtain ⟨id, d⟩ := u
      obtain rfl := Cmd.update?_eq_some.mp hu
      intro b hb
      rcases exec_update P o w id d with hsame | ⟨hf, t, ht, hres⟩
      · exact ⟨b, by rw [hsame]; exact hb, hR b⟩
      · rw [hres, BookingTable.update_eq_some.mp ht]
        refine ⟨_, List.mem_map_of_mem hb, ?_⟩
        split
        · rename_i hid
          exact h id d rfl hf b hb hid
        · exact hR b
  | none =>
      intro b hb
      refine ⟨b, ?_, hR b⟩
      cases hc : c.create? with
      | some d =>
          obtain rfl := Cmd.create?_eq_some.mp hc
          rcases exec_create P o w d with hsame | hrows
          · rw [hsame]
            exact hb
          · rw [hrows]
            exact List.mem_append_left _ hb
      | none =>
          rw [exec_bookings P o w (Cmd.writesBookings_of_none hc hu)]
          exact hb

theorem persistent_row {p : Booking → Prop} (hp : ∀ b d, p b → p (BookingUpdate.apply d b)) :
    Persistent (live P) fun s => ∃ b ∈ s.world.bookings.rows, p b where
  exec := by
    rintro s ⟨b, hb, hpb⟩ i op c o
    obtain ⟨b', hb', h⟩ := evolves_exec (P := P) (R := fun b b' => p b → p b') (c := c) (o := o)
      (fun _ h => h) (fun _ d _ _ b _ _ => hp b d) b hb
    exact ⟨b', hb', h hpb⟩
  env h _ := h

end Evolves

/-! ## Statuses -/

/-- The stored status of a booking. -/
def World.statusOf (w : World) (id : String) : Option BookingStatus :=
  (w.bookings.find? id).map (·.status)

theorem statusOf_of_mem {w : World} {b : Booking} (hb : b ∈ w.bookings.rows) :
    w.statusOf b.id = some b.status := by
  rw [World.statusOf, BookingTable.find?_of_mem hb]
  rfl

/-- The same booking, its status as it was or moved from PENDING to
CONFIRMED or EXPIRED. -/
structure Booking.SettlesTo (b b' : Booking) : Prop where
  id : b'.id = b.id
  razorpayOrderId : b'.razorpayOrderId = b.razorpayOrderId
  status : b'.status = b.status ∨
    b.status = .PENDING ∧ (b'.status = .CONFIRMED ∨ b'.status = .EXPIRED)

instance (b b' : Booking) : Decidable (b.SettlesTo b') :=
  decidable_of_iff (b'.id = b.id ∧ b'.razorpayOrderId = b.razorpayOrderId ∧
    (b'.status = b.status ∨
      b.status = .PENDING ∧ (b'.status = .CONFIRMED ∨ b'.status = .EXPIRED)))
    ⟨fun ⟨hi, ho, hs⟩ => ⟨hi, ho, hs⟩, fun ⟨hi, ho, hs⟩ => ⟨hi, ho, hs⟩⟩

theorem Booking.SettlesTo.refl (b : Booking) : b.SettlesTo b := ⟨rfl, rfl, .inl rfl⟩

theorem Booking.SettlesTo.trans {a b c : Booking} (h : a.SettlesTo b) (h' : b.SettlesTo c) :
    a.SettlesTo c where
  id := h'.id.trans h.id
  razorpayOrderId := h'.razorpayOrderId.trans h.razorpayOrderId
  status := by
    rcases h.status with hs | ⟨hp, hs⟩
    · rw [← hs]
      exact h'.status
    · -- settled already: the second move is none
      refine Or.inr ⟨hp, ?_⟩
      rcases h'.status with hs' | ⟨hp', -⟩
      · rw [hs']
        exact hs
      · rw [hp'] at hs
        rcases hs with hs | hs <;> cases hs

/-- The lookup of a booking by call `i`. -/
def isBookingRead (i : Nat) (e : LiveEvent) : Bool :=
  e.tid == i && match e.cmd with
    | .bookingFindUnique _ => true
    | .bookingFindUniqueByOrder _ => true
    | _ => false

/-- Call `i` read the booking as PENDING; any other status was set since. -/
def ReadPending (P : Platform) (i : Nat) (id : String) : LiveSnap → Prop :=
  TracksSince (live P) (isBookingRead i) (fun w st => w.statusOf id = some st)
    fun st => st = .PENDING

theorem ReadPending.persistent (P : Platform) (i : Nat) (id : String) :
    Persistent (live P) (ReadPending P i id) :=
  persistent_tracksSince fun _ _ _ h => h

theorem ReadPending.intro {P : Platform} {s : LiveSnap} {i : Nat} {op : Op} {c : Cmd}
    {o : Oracle} {b : Booking} (hc : isBookingRead i ⟨i, op, c, o, s.world⟩ = true)
    (hread : c.readOnly = true) (hb : b ∈ s.world.bookings.rows) (hp : b.status = .PENDING) :
    ReadPending P i b.id (s.exec (live P) i op c o) := by
  refine TracksSince.intro hc fun st hst => ?_
  rw [live_exec, exec_readOnly P o s.world hread, statusOf_of_mem hb] at hst
  rw [← Option.some.inj hst, hp]

/-- Since call `i` looked the booking up, its status changed to `T` or not
at all. -/
def OnlySetTo (P : Platform) (i : Nat) (id : String) (T : BookingStatus) (s : LiveSnap) :
    Prop :=
  ∀ e ∈ since (isBookingRead i) s.hist,
    (e.after (live P)).statusOf id = e.before.statusOf id ∨
      (e.after (live P)).statusOf id = some T

instance (P : Platform) (i : Nat) (id : String) (T : BookingStatus) :
    DecidablePred (OnlySetTo P i id T) := fun _ =>
  inferInstanceAs (Decidable (∀ _ ∈ _, _ ∨ _))

/-- Then a booking read as PENDING is PENDING or has status `T` already. -/
theorem ReadPending.status {P : Platform} {i : Nat} {s : LiveSnap} {b : Booking}
    {T : BookingStatus} (h : ReadPending P i b.id s) (hT : OnlySetTo P i b.id T s)
    (hb : b ∈ s.world.bookings.rows) : b.status = .PENDING ∨ b.status = T := by
  refine h.elim (A := fun st => st = T) (fun e he st hbefore hafter => ?_) (statusOf_of_mem hb)
  rcases hT e he with hsame | hset
  · exact absurd (hsame.symm.trans hafter) hbefore
  · exact Option.some.inj (hafter.symm.trans hset)

/-! ## The discipline and its outline -/

def Op.settles : Op → Bool
  | .processPaymentWebhook _ => true
  | .expirePendingBooking _ => true
  | _ => false

/-- Deliveries and expiry jobs, except that no update reaches the database after another
call has moved its booking to another status: both read the booking first and then update it
by id. -/
def settlement (P : Platform) : Discipline sig World Oracle Op where
  starts op := op.settles = true
  allows i _ c o s := ∀ u ∈ c.update?, o.fault ≠ some .before → OnlySetTo P i u.1 u.2.status s

instance (P : Platform) : DecidablePred (settlement P).starts := fun op =>
  inferInstanceAs (Decidable (op.settles = true))

instance (P : Platform) (i : Nat) (op : Op) (c : Cmd) (o : Oracle) :
    DecidablePred ((settlement P).allows i op c o) := fun s =>
  inferInstanceAs (Decidable (∀ u ∈ c.update?, _ → OnlySetTo P i u.1 u.2.status s))

/-- Every update settles a booking read as PENDING. -/
def settlementOutline (P : Platform) : LiveOutline where
  toDiscipline := settlement P
  inv _ := True
  pre i _ c s := ∀ u ∈ c.update?,
    (u.2.status = .CONFIRMED ∨ u.2.status = .EXPIRED) ∧ ReadPending P i u.1 s

/-- The booking of the order a request names is CONFIRMED. -/
def OrderConfirmed (r : WebhookRequest) (w : World) : Prop :=
  ∃ orderId paymentId, r.refs? = some (orderId, paymentId) ∧
    ∃ b ∈ w.bookings.rows, b.razorpayOrderId = some orderId ∧ b.status = .CONFIRMED

theorem OrderConfirmed.evolves {r : WebhookRequest} {w w' : World} (h : OrderConfirmed r w)
    (hw : Evolves Booking.SettlesTo w w') : OrderConfirmed r w' := by
  obtain ⟨orderId, paymentId, hrefs, b, hb, ho, hc⟩ := h
  obtain ⟨b', hb', hbb'⟩ := hw b hb
  refine ⟨orderId, paymentId, hrefs, b', hb', hbb'.razorpayOrderId.trans ho, ?_⟩
  rcases hbb'.status with hs | ⟨hp, -⟩
  · exact hs.trans hc
  · rw [hc] at hp
    cases hp

/-- The row of `b` is the one of the order a request names. -/
def NamesOrder (r : WebhookRequest) (b : Booking) (s : LiveSnap) : Prop :=
  ∃ orderId paymentId, r.refs? = some (orderId, paymentId) ∧
    ∃ b' ∈ s.world.bookings.rows, b'.id = b.id ∧ b'.razorpayOrderId = some orderId

theorem NamesOrder.persistent (P : Platform) (r : WebhookRequest) (b : Booking) :
    Persistent (live P) (NamesOrder r b) where
  exec := by
    rintro s ⟨orderId, paymentId, hrefs, hrow⟩ i op c o
    exact ⟨orderId, paymentId, hrefs, (persistent_row fun _ _ h => h).exec hrow i op c o⟩
  env h _ := h

theorem NamesOrder.intro {P : Platform} {r : WebhookRequest} {s : LiveSnap} {i : Nat} {op : Op}
    {o : Oracle} {orderId paymentId : String} {b : Booking}
    (hrefs : r.refs? = some (orderId, paymentId))
    (hfind : s.world.bookings.findByOrder? orderId = some b) :
    NamesOrder r b (s.exec (live P) i op (.bookingFindUniqueByOrder orderId) o) := by
  obtain ⟨hb, ho⟩ := BookingTable.mem_of_findByOrder? hfind
  refine ⟨orderId, paymentId, hrefs, b, ?_, rfl, ho⟩
  rw [Snap.exec_world, live_exec, exec_readOnly P o s.world rfl]
  exact hb

theorem NamesOrder.confirmed {P : Platform} {r : WebhookRequest} {s : LiveSnap} {b : Booking}
    {d : BookingUpdate} {o : Oracle} {u : BookingWithTenant} (h : NamesOrder r b s)
    (hd : d.status = .CONFIRMED)
    (hok : (exec P (.bookingUpdate b.id d) o s.world).1 = .ok u) :
    OrderConfirmed r (exec P (.bookingUpdate b.id d) o s.world).2 := by
  obtain ⟨orderId, paymentId, hrefs, b', hb', hid, ho⟩ := h
  rw [← hid] at hok ⊢
  exact ⟨orderId, paymentId, hrefs, d.apply b',
    BookingTable.apply_mem_update hb' (exec_update_ok hok), ho, hd⟩

section Outline

variable {P : Platform} {i : Nat} {op : Op} {s : LiveSnap}

/-- **Step**: a command that meets its assertion settles bookings at most. -/
theorem settlesTo_exec {c : Cmd} {o : Oracle} (hpre : (settlementOutline P).pre i op c s)
    (hallow : (settlementOutline P).allows i op c o s) :
    Evolves Booking.SettlesTo s.world (exec P c o s.world).2 := by
  refine evolves_exec Booking.SettlesTo.refl fun id d hc hf b hb hid => ?_
  subst hc hid
  obtain ⟨hstatus, hread⟩ := hpre _ rfl
  refine ⟨rfl, rfl, ?_⟩
  rcases hread.status (hallow _ rfl hf) hb with hp | hT
  · exact Or.inr ⟨hp, hstatus⟩
  · exact Or.inl hT.symm

theorem settlement_pre {c : Cmd} (hc : c.writesBookings = false) (s : LiveSnap) :
    (settlementOutline P).pre i op c s :=
  fun u hu => absurd hu (by rw [Cmd.update?_of_writesBookings hc]; exact nofun)

/-- A program without writes to `Booking` meets every assertion. -/
theorem wp_settlement {α : Type} {p : M α} (hp : p.All (Cmd.writesBookings · = false)) :
    p.wp (live P) (settlementOutline P) i op (fun _ _ => True) (fun _ _ => True) s :=
  wp_keep hp (fun _ hc s _ _ => settlement_pre hc s) persistent_true.kept trivial

theorem stable_orderConfirmed (r : WebhookRequest) :
    Stable (live P) (settlementOutline P) i fun s => OrderConfirmed r s.world := by
  intro s s' h hs
  cases h with
  | env t _ => exact hs
  | other _ _ _ hpre hallow => exact hs.evolves (settlesTo_exec hpre hallow)

/-- A delivery: from the lookup on it knows the booking of its order as
read PENDING, from the update on as CONFIRMED. -/
theorem deliveryOutline_settlement (r : WebhookRequest) :
    DeliveryOutline P (settlementOutline P) i op r (fun _ => True)
      (fun b s => ReadPending P i b.id s ∧ NamesOrder r b s)
      (fun _ s => OrderConfirmed r s.world) (fun _ s => OrderConfirmed r s.world) where
  pre c hc s _ := settlement_pre (Cmd.writesBookings_of_ofLookup hc) s
  before := persistent_true.kept
  read b := ((ReadPending.persistent P i b.id).and (NamesOrder.persistent P r b)).kept
  written _ := stable_orderConfirmed r
  done _ := stable_orderConfirmed r
  on_read s o orderId paymentId b _ _ hrefs hfind hp :=
    ⟨ReadPending.intro (by simp [isBookingRead]) rfl
      (BookingTable.mem_of_findByOrder? hfind).1 hp, NamesOrder.intro hrefs hfind⟩
  update_pre s b d _ hG hd := by
    rintro u ⟨⟩
    exact ⟨Or.inl hd, hG.1⟩
  on_update s o b d _ hG hd _ := fun ⟨_, hok⟩ => hG.2.confirmed hd hok
  emit_pre s b t e ss _ _ := settlement_pre rfl s
  on_emit s o b t e ss _ hH := by
    obtain ⟨orderId, paymentId, hrefs, hrow⟩ := hH
    refine ⟨orderId, paymentId, hrefs, ?_⟩
    rw [Snap.exec_world, live_exec, exec_bookings P o s.world rfl]
    exact hrow

/-- An expiry job reads its booking as PENDING before it updates it. -/
theorem wp_expirePendingBooking (id : String) :
    (expirePendingBooking id).wp (live P) (settlementOutline P) i op (fun _ _ => True)
      (fun _ _ => True) s := by
  have htrue : Stable (live P) (settlementOutline P) i fun _ => True := persistent_true.stable
  unfold expirePendingBooking
  refine wp_await htrue trivial (fun s _ _ => settlement_pre rfl s) fun s _ now _ _ _ _ _ => ?_
  refine wp_await htrue trivial (fun s _ _ => settlement_pre rfl s)
    fun s o found _ _ _ _ hfound => ?_
  rw [perform_of_exec_ok hfound] at hfound
  obtain rfl := Except.ok.inj hfound
  cases hb : s.world.bookings.find? id with
  | none => exact wp_ret htrue trivial fun _ _ _ => trivial
  | some b =>
      simp only [Option.map_some]
      by_cases hdue : b.status = .PENDING ∧ b.expiresAt ≤ now
      · rw [expireFound_of_due hdue.1 hdue.2]
        have hread : ReadPending P i b.id
            (s.exec (live P) i op (.bookingFindUnique id) o) :=
          ReadPending.intro (by simp [isBookingRead]) rfl
            (BookingTable.mem_of_find? hb).1 hdue.1
        refine wp_await (ReadPending.persistent P i b.id).stable hread (fun s _ h => ?_)
          fun s _ _ _ _ _ _ _ => ?_
        · rintro u ⟨⟩
          exact ⟨Or.inr rfl, h⟩
        · exact wp_settlement (all_await rfl)
      · rw [expireFound_of_not_due hdue]
        exact wp_ret htrue trivial fun _ _ _ => trivial

end Outline

def confirmedStays (op : Op) (a : Answer) (s : LiveSnap) : Prop :=
  ∀ r ∈ op.webhook?, a = .webhook .confirmed → OrderConfirmed r s.world

theorem settlementOutline_valid (P : Platform) :
    Outline.Valid (live P) (settlementOutline P) fun _ => confirmedStays where
  inv_exec _ _ _ _ _ _ _ _ := trivial
  inv_env _ _ := trivial
  body := by
    intro i op s hop hinv _
    cases op with
    | processPaymentWebhook r =>
        refine wp_bind hinv ((wp_processPaymentWebhook (deliveryOutline_settlement r) hinv
          trivial).mono (fun status s _ hs => ?_) fun _ _ _ h => h)
        intro s' hs' _ r' hr' hconf
        obtain rfl := Option.some.inj hr'
        obtain ⟨b, hb⟩ := hs (Answer.webhook.inj hconf)
        exact (stable_orderConfirmed r).star hs' hb
    | expirePendingBooking id =>
        refine wp_bind hinv ((wp_expirePendingBooking id).mono (fun _ s _ _ => ?_)
          fun _ _ _ h => h)
        exact wp_ret persistent_true.stable trivial fun _ _ _ r hr => nomatch hr
    | lockSeat t e seat u => cases hop
    | unlockSeat t e seat u => cases hop
    | initiateBooking tenant u dto => cases hop
    | handleExpiryJob d => cases hop

/-- **Settlement**: as long as no update comes after another call has moved
its booking elsewhere, however the steps of deliveries and expiry jobs
interleave, between any two states reached every status stays or moves
from PENDING to CONFIRMED or EXPIRED, and the booking of a delivery that
has answered `confirmed` is CONFIRMED from then on. -/
theorem settlement_run (P : Platform) (w : World) (ls ls' : List LiveLabel)
    (hls : (settlement P).admitsRun (live P) (Config.idle w) (ls ++ ls')) :
    let cfg : LiveConfig := (Config.idle w).run (live P) ls
    let cfg' : LiveConfig := (Config.idle w).run (live P) (ls ++ ls')
    Evolves Booking.SettlesTo cfg.world cfg'.world ∧
      ∀ i r, Answered cfg i (.processPaymentWebhook r) (.webhook .confirmed) →
        OrderConfirmed r cfg'.world := by
  intro cfg cfg'
  obtain ⟨hls, hls'⟩ := Discipline.admitsRun_append.mp hls
  have hgood : Outline.Good (live P) (settlementOutline P) (fun _ => confirmedStays) cfg :=
    Outline.sound (settlementOutline_valid P) (Outline.Good.idle trivial) hls
  have hrun : cfg' = cfg.run (live P) ls' := Config.run_append ..
  have hevolves : Evolves Booking.SettlesTo cfg.world cfg'.world := by
    rw [hrun]
    exact hgood.along (settlementOutline_valid P) (Evolves.refl Booking.SettlesTo.refl)
      (Evolves.trans Booking.SettlesTo.trans) (fun w _ => Evolves.refl Booking.SettlesTo.refl w)
      (fun i op c o _ _ hpre hallow => settlesTo_exec hpre hallow) hls'
  refine ⟨hevolves, fun i r hth => ?_⟩
  have hresult : confirmedStays _ _ _ := hgood.result hth
  exact (hresult r rfl rfl).evolves hevolves

namespace Sample

/-- The payment comes when the booking is about to expire. -/
def payAndExpire : List LiveLabel :=
  [.env 700000, .spawn (captured "evt_1" "pay_1"), .spawn (.expirePendingBooking "b1")]

/-- Both calls read the booking, the delivery confirms it, the job expires
it. -/
def readBoth : List LiveLabel := payAndExpire ++ steps 0 4 "aa" ++ steps 1 2 "" ++ steps 0 2 ""

/-- The job reads the booking when the delivery has confirmed it. -/
def confirmFirst : List LiveLabel := payAndExpire ++ steps 0 6 "aa"

end Sample

theorem settlement_confirmFirst :
    Evolves Booking.SettlesTo
      ((Config.idle Sample.booked).run (live Sample.platform) Sample.confirmFirst).world
      ((Config.idle Sample.booked).run (live Sample.platform)
        (Sample.confirmFirst ++ Sample.steps 1 3 "")).world :=
  (settlement_run Sample.platform Sample.booked Sample.confirmFirst (Sample.steps 1 3 "")
    (by decide +kernel)).1

/-- A booking that was confirmed, and answered as confirmed, expires. -/
theorem not_settlement_interleaved :
    ¬ ∀ (P : Platform) (w : World) (ls ls' : List LiveLabel),
      (Discipline.free sig World Oracle fun op : Op => op.settles = true).admitsRun
        (live P) (Config.idle w) (ls ++ ls') →
      Evolves Booking.SettlesTo ((Config.idle w).run (live P) ls).world
        ((Config.idle w).run (live P) (ls ++ ls')).world := by
  intro h
  have hrun := h Sample.platform Sample.booked Sample.readBoth (Sample.steps 1 1 "")
    (by decide +kernel)
  revert hrun
  decide +kernel

end Omnipax
