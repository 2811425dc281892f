import Omnipax.Captured
import Omnipax.Settlement

/-!
# One ticket for one order

Deliveries are deduplicated by event id, bookings are found by order id.
Two events of one order - a retry under another id, two payments - both
find the booking PENDING when neither has updated it yet, and both update
it: two tickets are issued, the second overwriting the first, and
`BOOKING_CONFIRMED` goes out twice.

As long as no delivery updates the booking after another one has settled it
behind its back, one delivery confirms, one message goes out, and the
ticket never changes.
-/

namespace Omnipax

open Conc Prog

/-! ## Confirmations in the history -/

/-- The command announces a confirmed booking. -/
def Cmd.announces : Cmd → Bool
  | .emit (.BOOKING_CONFIRMED ..) => true
  | _ => false

/-- The event is a confirming update that took effect. -/
def confirms (e : LiveEvent) : Bool :=
  match e.cmd.update? with
  | some (id, d) => d.status == .CONFIRMED && e.oracle.fault != some .before &&
      (e.before.bookings.update id d).isSome
  | none => false

/-- The event announces a confirmed booking. -/
def announces (e : LiveEvent) : Bool := e.cmd.announces

theorem countP_eq_zero_of_any {α : Type} {p : α → Bool} {l : List α} (h : l.any p = false) :
    l.countP p = 0 := by
  rw [List.countP_eq_zero]
  exact fun a ha => by simpa using List.any_eq_false.mp h a ha

/-- The payment of this order has arrived: the booking that has the order is CONFIRMED. -/
def Settled (orderId : String) (w : World) : Prop :=
  ∃ b ∈ w.bookings.rows, b.razorpayOrderId = some orderId ∧ b.status = .CONFIRMED

/-- The row with this id is the one of the order. -/
def OfOrder (orderId id : String) (s : LiveSnap) : Prop :=
  ∃ b ∈ s.world.bookings.rows, b.id = id ∧ b.razorpayOrderId = some orderId

/-- The same booking later: if it had a ticket code or a QR text, it has the same one. -/
structure Booking.KeepsTicket (b b' : Booking) : Prop where
  id : b'.id = b.id
  ticketCode : b.ticketCode ≠ none → b'.ticketCode = b.ticketCode
  ticketQrData : b.ticketQrData ≠ none → b'.ticketQrData = b.ticketQrData

theorem Booking.KeepsTicket.refl (b : Booking) : b.KeepsTicket b :=
  ⟨rfl, fun _ => rfl, fun _ => rfl⟩

theorem Booking.KeepsTicket.trans {a b c : Booking} (h : a.KeepsTicket b)
    (h' : b.KeepsTicket c) : a.KeepsTicket c where
  id := h'.id.trans h.id
  ticketCode hne := by
    have hb := h.ticketCode hne
    exact (h'.ticketCode (by rw [hb]; exact hne)).trans hb
  ticketQrData hne := by
    have hb := h.ticketQrData hne
    exact (h'.ticketQrData (by rw [hb]; exact hne)).trans hb

/-! ## The discipline and its outline -/

/-- Since call `i` looked the booking up, its status did not change. -/
def Untouched (P : Platform) (i : Nat) (id : String) (s : LiveSnap) : Prop :=
  ∀ e ∈ since (isBookingRead i) s.hist,
    (e.after (live P)).statusOf id = e.before.statusOf id

instance (P : Platform) (i : Nat) (id : String) : DecidablePred (Untouched P i id) := fun _ =>
  inferInstanceAs (Decidable (∀ _ ∈ _, _))

/-- A signed delivery that reports a captured payment of the order. -/
def Op.pays (P : Platform) (orderId : String) (op : Op) : Bool :=
  match op with
  | .processPaymentWebhook r =>
      r.signed P && r.reportsCapture && Json.str? r.orderId == some orderId
  | _ => false

/-- Deliveries of payments of one order, except that none updates the
booking after another one has changed its status. -/
def ticketing (P : Platform) (orderId : String) : Discipline sig World Oracle Op where
  starts op := op.pays P orderId = true
  allows i _ c o s := ∀ u ∈ c.update?, o.fault ≠ some .before → Untouched P i u.1 s

instance (P : Platform) (orderId : String) : DecidablePred (ticketing P orderId).starts :=
  fun op => inferInstanceAs (Decidable (op.pays P orderId = true))

instance (P : Platform) (orderId : String) (i : Nat) (op : Op) (c : Cmd) (o : Oracle) :
    DecidablePred ((ticketing P orderId).allows i op c o) := fun s =>
  inferInstanceAs (Decidable (∀ u ∈ c.update?, _ → Untouched P i u.1 s))

/-- At most one update so far, none before the booking is CONFIRMED; every
announcement follows an update of its own call, which announces once. -/
structure OneTicket (orderId : String) (s : LiveSnap) : Prop where
  ticketless : Ticketless s.world
  confirms_le : s.hist.countP confirms ≤ 1
  settled : s.hist.any confirms = true → Settled orderId s.world
  announced : ∀ e ∈ s.hist, announces e = true → ∃ e' ∈ s.hist, confirms e' = true ∧
    e'.tid = e.tid
  announced_once : ((s.hist.filter announces).map (·.tid)).Nodup

/-- Call `i` has announced nothing. -/
def Silent (i : Nat) (s : LiveSnap) : Prop :=
  s.hist.any (fun e => e.tid == i && announces e) = false

/-- Call `i` has confirmed. -/
def HasConfirmed (i : Nat) (s : LiveSnap) : Prop :=
  ∃ e ∈ s.hist, confirms e = true ∧ e.tid = i

/-- Updates confirm the order's booking, read as PENDING; announcements come
after an update, once. -/
def ticketingOutline (P : Platform) (orderId : String) : LiveOutline where
  toDiscipline := ticketing P orderId
  inv := OneTicket orderId
  pre i _ c s := c.create? = none ∧
    (∀ u ∈ c.update?, u.2.status = .CONFIRMED ∧ ReadPending P i u.1 s ∧ OfOrder orderId u.1 s) ∧
    (c.announces = true → HasConfirmed i s ∧ Silent i s)

section Step

variable {P : Platform} {orderId : String} {s : LiveSnap} {i : Nat} {op : Op} {c : Cmd}
  {o : Oracle}

theorem Settled.evolves {w w' : World} (h : Settled orderId w)
    (hw : Evolves (fun b b' => b'.razorpayOrderId = b.razorpayOrderId ∧
      (b.status = .CONFIRMED → b'.status = .CONFIRMED)) w w') : Settled orderId w' := by
  obtain ⟨b, hb, ho, hc⟩ := h
  obtain ⟨b', hb', ho', hc'⟩ := hw b hb
  exact ⟨b', hb', ho'.trans ho, hc' hc⟩

theorem pending_of_untouched {id : String} (hread : ReadPending P i id s)
    (huntouched : Untouched P i id s) {b : Booking} (hb : b ∈ s.world.bookings.rows)
    (hid : b.id = id) : b.status = .PENDING := by
  subst hid
  exact (hread.status (fun e he => Or.inl (huntouched e he)) hb).elim id id

/-- **Step**: commands that meet their assertion keep to one ticket. -/
theorem oneTicket_exec (h : OneTicket orderId s)
    (hpre : (ticketingOutline P orderId).pre i op c s)
    (hallow : (ticketingOutline P orderId).allows i op c o s) :
    OneTicket orderId (s.exec (live P) i op c o) := by
  obtain ⟨hcreate, hupdate, hannounce⟩ := hpre
  have hsettled : Settled orderId s.world → Settled orderId (exec P c o s.world).2 := by
    refine fun hs => hs.evolves (evolves_exec (fun b => ⟨rfl, id⟩) fun id d hc _ b _ _ => ?_)
    subst hc
    exact ⟨rfl, fun _ => (hupdate _ rfl).1⟩
  -- an update that takes effect is the first one
  have hfirst : confirms ⟨i, op, c, o, s.world⟩ = true →
      s.hist.any confirms = false ∧ Settled orderId (exec P c o s.world).2 := by
    intro hconf
    unfold confirms at hconf
    dsimp only at hconf
    split at hconf
    · rename_i id d hu
      obtain rfl := Cmd.update?_eq_some.mp hu
      simp only [Bool.and_eq_true, bne_iff_ne, ne_eq] at hconf
      obtain ⟨⟨-, hf⟩, hsome⟩ := hconf
      obtain ⟨t, ht⟩ := Option.isSome_iff_exists.mp hsome
      obtain ⟨hd, hread, b, hb, hid, ho⟩ := hupdate _ hu
      have hpend := pending_of_untouched hread (hallow _ hu hf) hb hid
      subst hid
      refine ⟨?_, d.apply b, ?_, ho, hd⟩
      · by_contra hany
        obtain ⟨b', hb', ho', hc'⟩ := h.settled (by simpa using hany)
        rw [BookingTable.eq_of_order hb' hb ho' ho, hpend] at hc'
        cases hc'
      · rw [exec_update_applied hf (BookingTable.find?_of_mem hb) ht]
        exact BookingTable.apply_mem_update hb ht
    · cases hconf
  refine ⟨ticketless_exec o h.ticketless fun u hu => by rw [(hupdate u hu).1]; exact nofun,
    ?_, fun hany => ?_, fun e he hann => ?_, ?_⟩
  · -- confirms_le
    rw [Snap.exec_hist]
    by_cases hconf : confirms ⟨i, op, c, o, s.world⟩ = true
    · rw [List.countP_cons_of_pos hconf, countP_eq_zero_of_any (hfirst hconf).1]
    · rw [List.countP_cons_of_neg hconf]
      exact h.confirms_le
  · -- settled
    rw [Snap.exec_hist, List.any_cons, Bool.or_eq_true] at hany
    rcases hany with hconf | hany
    · exact (hfirst hconf).2
    · exact hsettled (h.settled hany)
  · -- announced
    rcases List.mem_cons.mp he with rfl | he
    · obtain ⟨e', he', hconf, htid⟩ := (hannounce hann).1
      exact ⟨e', List.mem_cons_of_mem _ he', hconf, htid⟩
    · obtain ⟨e', he', hconf, htid⟩ := h.announced e he hann
      exact ⟨e', List.mem_cons_of_mem _ he', hconf, htid⟩
  · -- announced_once
    rw [Snap.exec_hist]
    by_cases hann : announces ⟨i, op, c, o, s.world⟩ = true
    · rw [List.filter_cons_of_pos hann, List.map_cons, List.nodup_cons]
      refine ⟨fun hmem => ?_, h.announced_once⟩
      obtain ⟨e, he, htid⟩ := List.mem_map.mp hmem
      obtain ⟨he, hann'⟩ := List.mem_filter.mp he
      have hsilent := List.any_eq_false.mp (hannounce hann).2 e he
      exact hsilent (by simp [hann', htid])
    · rw [List.filter_cons_of_neg hann]
      exact h.announced_once

theorem keepsTicket_exec (h : OneTicket orderId s)
    (hpre : (ticketingOutline P orderId).pre i op c s)
    (hallow : (ticketingOutline P orderId).allows i op c o s) :
    Evolves Booking.KeepsTicket s.world (exec P c o s.world).2 := by
  refine evolves_exec Booking.KeepsTicket.refl fun id d hc hf b hb hid => ?_
  subst hc
  have hpend := pending_of_untouched (hpre.2.1 _ rfl).2.1 (hallow _ rfl hf) hb hid
  obtain ⟨hcode, hqr⟩ := h.ticketless b hb hpend
  exact ⟨rfl, fun hne => absurd hcode hne, fun hne => absurd hqr hne⟩

theorem ticketing_pre (hw : c.writesBookings = false) (ha : c.announces = false)
    (s : LiveSnap) : (ticketingOutline P orderId).pre i op c s :=
  ⟨Cmd.create?_of_writesBookings hw,
    fun u hu => absurd hu (by rw [Cmd.update?_of_writesBookings hw]; exact nofun),
    fun h => absurd h (by rw [ha]; exact nofun)⟩

theorem Cmd.announces_of_ofLookup (h : c.ofLookup = true) : c.announces = false := by
  cases c <;> first | rfl | cases h

theorem Silent.exec (h : Silent i s) (hc : c.announces = false) :
    Silent i (s.exec (live P) i op c o) := by
  show ((_ :: s.hist).any _) = false
  rw [List.any_cons, show s.hist.any _ = false from h, Bool.or_false]
  simp [announces, hc]

theorem Silent.stable : Stable (live P) (ticketingOutline P orderId) i (Silent i) :=
  stable_notMine _ fun e he => by
    simp only [Bool.and_eq_true, beq_iff_eq] at he
    exact he.1

theorem Silent.kept : Kept (live P) (ticketingOutline P orderId) i op
    (Cmd.ofLookup · = true) (Silent i) where
  stable := Silent.stable
  own h _ _ hc := h.exec (Cmd.announces_of_ofLookup hc)

theorem HasConfirmed.persistent (i : Nat) : Persistent (live P) (HasConfirmed i) where
  exec := by
    rintro s ⟨e, he, hconf, htid⟩ j op c o
    exact ⟨e, List.mem_cons_of_mem _ he, hconf, htid⟩
  env h _ := h

theorem OfOrder.persistent (orderId id : String) : Persistent (live P) (OfOrder orderId id) :=
  persistent_row fun _ _ h => h

/-- An answered confirming update is in the history from then on. -/
theorem HasConfirmed.intro {id : String} {d : BookingUpdate} {u : BookingWithTenant}
    (hd : d.status = .CONFIRMED) (hok : (Omnipax.exec P (.bookingUpdate id d) o s.world).1 = .ok u) :
    HasConfirmed i (s.exec (live P) i op (.bookingUpdate id d) o) := by
  refine ⟨_, List.mem_cons_self .., ?_, rfl⟩
  have hf : o.fault ≠ some .before := by
    intro hf
    rw [exec_before hf rfl] at hok
    cases hok
  simp [confirms, Cmd.update?, hd, hf, exec_update_ok hok]

theorem deliveryOutline_ticketing {r : WebhookRequest}
    (hr : Json.str? r.orderId = some orderId) :
    DeliveryOutline P (ticketingOutline P orderId) i op r (Silent i)
      (fun b s => (ReadPending P i b.id s ∧ OfOrder orderId b.id s) ∧ Silent i s)
      (fun _ s => HasConfirmed i s ∧ Silent i s) (fun _ _ => True) where
  pre c hc s _ :=
    ticketing_pre (Cmd.writesBookings_of_ofLookup hc) (Cmd.announces_of_ofLookup hc) s
  before := Silent.kept
  read b := ((ReadPending.persistent P i b.id).and (OfOrder.persistent orderId b.id)).kept.and
    Silent.kept
  written _ := (HasConfirmed.persistent i).stable.and Silent.stable
  done _ := persistent_true.stable
  on_read s o orderId' paymentId b _ hsilent hrefs hfind hp := by
    obtain ⟨hb, ho⟩ := BookingTable.mem_of_findByOrder? hfind
    obtain rfl : orderId' = orderId := by
      rw [(WebhookRequest.refs?_eq_some.mp hrefs).1] at hr
      exact Option.some.inj hr
    refine ⟨⟨ReadPending.intro (by simp [isBookingRead]) rfl hb hp, b, ?_, rfl, ho⟩,
      hsilent.exec rfl⟩
    rw [Snap.exec_world, live_exec, exec_readOnly P o s.world rfl]
    exact hb
  update_pre s b d _ hG hd := by
    refine ⟨rfl, fun u hu => ?_, fun h => by cases h⟩
    obtain rfl := Option.some.inj hu
    exact ⟨hd, hG.1.1, hG.1.2⟩
  on_update s o b d _ hG hd _ h := by
    obtain ⟨_, hok⟩ := h
    exact ⟨HasConfirmed.intro hd hok, hG.2.exec rfl⟩
  emit_pre s b t e ss _ hH := ⟨rfl, fun _ hu => (by cases hu), fun _ => hH⟩
  on_emit _ _ _ _ _ _ _ _ := trivial

end Step

theorem ticketingOutline_valid (P : Platform) (orderId : String) :
    Outline.Valid (live P) (ticketingOutline P orderId) fun _ _ _ _ => True where
  inv_exec hinv _ _ _ _ _ hpre hallow := oneTicket_exec hinv hpre hallow
  inv_env h _ := ⟨h.ticketless, h.confirms_le, h.settled, h.announced, h.announced_once⟩
  body := by
    intro i op s hop hinv hfresh
    cases op with
    | processPaymentWebhook r =>
        have hop : (r.signed P && r.reportsCapture && Json.str? r.orderId == some orderId)
          = true := hop
        simp only [Bool.and_eq_true, beq_iff_eq] at hop
        have hsilent : Silent i s :=
          List.any_eq_false.mpr fun e he => by simp [hfresh e he]
        refine wp_bind hinv ((wp_processPaymentWebhook (deliveryOutline_ticketing hop.2) hinv
          hsilent).mono (fun _ s _ _ => ?_) fun _ _ _ h => h)
        exact wp_ret persistent_true.stable trivial fun _ _ _ => trivial
    | lockSeat t e seat u => cases hop
    | unlockSeat t e seat u => cases hop
    | initiateBooking tenant u dto => cases hop
    | expirePendingBooking id => cases hop
    | handleExpiryJob d => cases hop

theorem OneTicket.announces_le {orderId : String} {s : LiveSnap} (h : OneTicket orderId s) :
    s.hist.countP announces ≤ 1 := by
  have hsub : (s.hist.filter announces).map (·.tid) ⊆ (s.hist.filter confirms).map (·.tid) := by
    intro t ht
    obtain ⟨e, he, rfl⟩ := List.mem_map.mp ht
    obtain ⟨he, hann⟩ := List.mem_filter.mp he
    obtain ⟨e', he', hconf, htid⟩ := h.announced e he hann
    exact List.mem_map.mpr ⟨e', List.mem_filter.mpr ⟨he', hconf⟩, htid⟩
  have hle := (h.announced_once.subperm hsub).length_le
  rw [List.length_map, List.length_map, ← List.countP_eq_length_filter,
    ← List.countP_eq_length_filter] at hle
  exact hle.trans h.confirms_le

theorem oneTicket_idle {w : World} {orderId : String} (h : Ticketless w) :
    OneTicket orderId ⟨w, []⟩ where
  ticketless := h
  confirms_le := by simp
  settled := by simp
  announced := by simp
  announced_once := by simp

/-- **One ticket**: as long as no delivery updates the booking after another
one has changed its status, however deliveries of payments of one order
interleave, at most one executes the confirming update, at most one
announces it, and a ticket once issued never changes. -/
theorem oneTicket_run (P : Platform) (w : World) (orderId : String) (ls ls' : List LiveLabel)
    (hw : Reachable P w)
    (hls : (ticketing P orderId).admitsRun (live P) (Config.idle w) (ls ++ ls')) :
    let cfg : LiveConfig := (Config.idle w).run (live P) ls
    let cfg' : LiveConfig := (Config.idle w).run (live P) (ls ++ ls')
    cfg'.hist.countP confirms ≤ 1 ∧ cfg'.hist.countP announces ≤ 1 ∧
      Evolves Booking.KeepsTicket cfg.world cfg'.world := by
  intro cfg cfg'
  have hidle : OneTicket orderId ⟨w, []⟩ := oneTicket_idle hw.ticketless
  have hvalid := ticketingOutline_valid P orderId
  have hgood' : Outline.Good (live P) (ticketingOutline P orderId) (fun _ _ _ _ => True) cfg' :=
    Outline.sound hvalid (Outline.Good.idle hidle) hls
  obtain ⟨hls, hls'⟩ := Discipline.admitsRun_append.mp hls
  have hgood : Outline.Good (live P) (ticketingOutline P orderId) (fun _ _ _ _ => True) cfg :=
    Outline.sound hvalid (Outline.Good.idle hidle) hls
  have hrun : cfg' = cfg.run (live P) ls' := Config.run_append ..
  have hinv : OneTicket orderId cfg'.toSnap := hgood'.inv
  refine ⟨hinv.confirms_le, hinv.announces_le, ?_⟩
  rw [hrun]
  exact hgood.along hvalid (Evolves.refl Booking.KeepsTicket.refl)
    (Evolves.trans Booking.KeepsTicket.trans) (fun w _ => Evolves.refl Booking.KeepsTicket.refl w)
    (fun i op c o hinv _ hpre hallow => keepsTicket_exec hinv hpre hallow) hls'

namespace Sample

/-- Two captured events of one order, under different event ids. -/
def payTwice : List LiveLabel :=
  [.spawn (captured "evt_1" "pay_1"), .spawn (captured "evt_2" "pay_2")]

/-- Both deliveries find the booking PENDING, then both confirm it. -/
def confirmTwice : List LiveLabel :=
  payTwice ++ steps 0 4 "aa" ++ steps 1 4 "bb" ++ steps 0 2 ""

/-- The second delivery finds it CONFIRMED. -/
def confirmOnce : List LiveLabel := payTwice ++ steps 0 6 "aa"

end Sample

theorem oneTicket_confirmOnce :
    ((Config.idle Sample.booked).run (live Sample.platform)
        (Sample.confirmOnce ++ Sample.steps 1 2 "bb")).hist.countP confirms ≤ 1 :=
  (oneTicket_run Sample.platform Sample.booked "order_1" Sample.confirmOnce
    (Sample.steps 1 2 "bb") Sample.reachable_booked (by decide +kernel)).1

/-- Two events of one payment confirm the booking twice, announce it twice,
and the second ticket replaces the first. -/
theorem not_oneTicket_interleaved :
    ¬ ∀ (P : Platform) (w : World) (orderId : String) (ls ls' : List LiveLabel), Reachable P w →
      (Discipline.free sig World Oracle fun op : Op => op.pays P orderId = true).admitsRun
        (live P) (Config.idle w) (ls ++ ls') →
      ((Config.idle w).run (live P) (ls ++ ls')).hist.countP confirms ≤ 1 ∧
      ((Config.idle w).run (live P) (ls ++ ls')).hist.countP announces ≤ 1 ∧
      Evolves Booking.KeepsTicket ((Config.idle w).run (live P) ls).world
        ((Config.idle w).run (live P) (ls ++ ls')).world := by
  intro h
  have hrun := h Sample.platform Sample.booked "order_1" Sample.confirmTwice
    (Sample.steps 1 2 "bb") Sample.reachable_booked (by decide +kernel)
  have hconfirms := hrun.1
  revert hconfirms
  decide +kernel

end Omnipax
