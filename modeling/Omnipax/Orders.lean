import Omnipax.CapturedPayments
import Omnipax.Conc.Transcript
import Omnipax.Conc.Undisturbed

/-!
# One order for a booking

Calls of `createRazorpayOrder`, in any interleaving and with any failures. A
call looks at the row it has read for an order, asks for a new one, and writes
its id and the next status in one update. No second order is created as long
as a call that asks for one finds the row still without an id, and every order
before it has been written.
-/

namespace Omnipax.Payments

open Conc Prog Database

/-! ## Statements -/

/-- The statements of an order creation, all by themselves. -/
inductive OrderStmt (bookingId : String) : PayStmt → Prop where
  | find : OrderStmt bookingId (.bookingFindUnique bookingId)
  | dateNow : OrderStmt bookingId .dateNow
  | seatCount : OrderStmt bookingId (.bookingSeatCount bookingId)
  | findShow (showId : String) : OrderStmt bookingId (.showFindUnique showId)
  | total (totalAmount : Money) :
      OrderStmt bookingId (.bookingUpdate bookingId none { totalAmount := some totalAmount })
  | checkCircuit : OrderStmt bookingId .checkCircuit
  | mathRandom : OrderStmt bookingId .mathRandom
  | ordersCreate (amount : Rat) : OrderStmt bookingId (.ordersCreate amount bookingId)
  | placed (orderId : String) : OrderStmt bookingId (.bookingUpdate bookingId none
      { razorpayOrderId := some orderId, status := some .PAYMENT_IN_PROGRESS })
  | recordSuccess : OrderStmt bookingId .recordSuccess
  | recordFailure : OrderStmt bookingId .recordFailure

def OrderOk (bookingId : String) (_ : Transcript payDb.sig) (c : TxCmd PayStmt) : Prop :=
  ∃ q, c = .stmt none q ∧ OrderStmt bookingId q

/-- A statement has been answered so. -/
def Said {q : PayStmt} (a : q.Ret) (t : Transcript payDb.sig) : Prop :=
  (⟨.stmt none q, .ok a⟩ : (c : TxCmd PayStmt) × payDb.Resp c) ∈ t

/-- Where an order comes from: Razorpay, the mock provider, or the row. -/
inductive GotOrder (bookingId : String) : String → Transcript payDb.sig → Prop where
  | created {orderId : String} {t : Transcript payDb.sig} (amount : Rat) :
      Said (q := .ordersCreate amount bookingId) orderId t → GotOrder bookingId orderId t
  | mock {random : String} {t : Transcript payDb.sig} :
      Said (q := .mathRandom) random t → GotOrder bookingId ("order_mock_" ++ random) t
  | stored {orderId : String} {t : Transcript payDb.sig} (booking : Booking) :
      Said (q := .bookingFindUnique bookingId) (some booking) t → booking.status = .LOCKED →
      booking.razorpayOrderId = some orderId → GotOrder bookingId orderId t

theorem GotOrder.cons {bookingId orderId : String} {t : Transcript payDb.sig}
    (h : GotOrder bookingId orderId t) (said : (c : TxCmd PayStmt) × payDb.Resp c) :
    GotOrder bookingId orderId (said :: t) := by
  cases h with
  | created amount h => exact .created amount (List.mem_cons_of_mem _ h)
  | mock h => exact .mock (List.mem_cons_of_mem _ h)
  | stored booking h hlocked hid => exact .stored booking (List.mem_cons_of_mem _ h) hlocked hid

section Program

variable {P : PayPlatform} {bookingId : String} {booking : Booking} {t : Transcript payDb.sig}
  {α : Type} {T : PayExn → Transcript payDb.sig → Prop}

/-- The booking has been read, and is LOCKED. -/
def ReadLocked (bookingId : String) (booking : Booking) (t : Transcript payDb.sig) : Prop :=
  Said (q := .bookingFindUnique bookingId) (some booking) t ∧ booking.status = .LOCKED

theorem ReadLocked.cons (h : ReadLocked bookingId booking t)
    (said : (c : TxCmd PayStmt) × payDb.Resp c) : ReadLocked bookingId booking (said :: t) :=
  ⟨List.mem_cons_of_mem _ h.1, h.2⟩

theorem told_step {q : PayStmt} {f : q.Ret → PayM α} {Q : α → Transcript payDb.sig → Prop}
    (h : ReadLocked bookingId booking t) (hq : OrderStmt bookingId q)
    (hf : ∀ a t, ReadLocked bookingId booking t → Said a t →
      (f a).told (OrderOk bookingId) Can Q T t)
    (hT : ∀ e t, T e t) : (ask none q >>= f).told (OrderOk bookingId) Can Q T t :=
  told_query ⟨q, rfl, hq⟩ (fun a _ _ _ => hf a _ (h.cons _) (List.mem_cons_self ..)) fun _ => hT _ _

theorem told_orderable {userId : String}
    (h : Said (q := .bookingFindUnique bookingId) (some booking) t) :
    (checkOrderable booking userId).told (OrderOk bookingId) Can
      (fun _ t => ReadLocked bookingId booking t) (fun _ _ => True) t := by
  unfold checkOrderable
  refine told_throwIf trivial fun _ => told_throwIf trivial fun hstatus => ?_
  have hread : ReadLocked bookingId booking t := ⟨h, by simpa using hstatus⟩
  cases booking.expiresAt with
  | none => exact hread
  | some expiresAt =>
      refine told_step hread .dateNow (fun now t hread _ => ?_) fun _ _ => trivial
      rw [← bind_ret (throwIf _ _)]
      exact told_throwIf trivial fun _ => hread

theorem told_total (h : ReadLocked bookingId booking t) (hid : booking.id = bookingId) :
    (withTotal P booking).told (OrderOk bookingId) Can
      (fun booking' t => ReadLocked bookingId booking t ∧ booking'.id = bookingId ∧
        booking'.razorpayOrderId = booking.razorpayOrderId) (fun _ _ => True) t := by
  unfold withTotal
  rw [hid]
  split
  · refine told_step h .seatCount (fun count t h _ => ?_) fun _ _ => trivial
    refine told_step h (.findShow _) (fun shw t h _ => ?_) fun _ _ => trivial
    cases shw with
    | none => trivial
    | some shw => exact told_step h (.total _) (fun _ t h _ => ⟨h, rfl, rfl⟩) fun _ _ => trivial
  · exact ⟨h, hid, rfl⟩

theorem told_order {booking' : Booking} (h : ReadLocked bookingId booking t)
    (hid : booking'.id = bookingId) (hT : ∀ e t, T e t) :
    (newOrder P booking').told (OrderOk bookingId) Can
      (fun orderId t => ReadLocked bookingId booking t ∧ GotOrder bookingId orderId t) T t := by
  unfold newOrder
  rw [hid]
  split
  · exact told_step h .mathRandom (fun _ t h hsaid => ⟨h, .mock hsaid⟩) hT
  · rw [← bind_ret (ask _ _)]
    exact told_step h (.ordersCreate _) (fun _ t h hsaid => ⟨h, .created _ hsaid⟩) hT

theorem told_placeOrder {booking' : Booking} {keyId : String}
    (h : ReadLocked bookingId booking t) (hid : booking'.id = bookingId)
    (horder : booking'.razorpayOrderId = booking.razorpayOrderId) (hT : ∀ e t, T e t) :
    (placeOrder P booking' keyId).told (OrderOk bookingId) Can
      (fun answer t => GotOrder bookingId answer.orderId t) T t := by
  unfold placeOrder
  split
  · rename_i orderId hsome
    rw [truthy?, horder] at hsome
    exact .stored booking h.1 h.2 (Option.filter_eq_some_iff.mp hsome).1
  · refine told_bind.mpr (told_mono (told_order h hid hT) (fun orderId t h => ?_) fun _ _ h => h)
    obtain ⟨h, hgot⟩ := h
    rw [hid]
    refine told_query ⟨_, rfl, .placed orderId⟩ (fun _ _ _ _ => ?_) fun _ => hT _ _
    exact told_query ⟨_, rfl, .recordSuccess⟩ (fun _ _ _ _ => (hgot.cons _).cons _) fun _ => hT _ _

theorem told_createRazorpayOrder {userId : String} :
    (createRazorpayOrder P bookingId userId).told (OrderOk bookingId) Can
      (fun answer t => GotOrder bookingId answer.orderId t) (fun _ _ => True) t := by
  unfold createRazorpayOrder
  split
  · refine told_query ⟨_, rfl, .find⟩ (fun x o d hexec => ?_) fun _ => trivial
    cases x with
    | none => trivial
    | some booking =>
        have hid : booking.id = bookingId := (BookingTable.mem_of_find (Except.ok.inj hexec)).2
        dsimp only
        refine told_bind.mpr (told_mono (told_orderable (List.mem_cons_self ..)) (fun _ t h => ?_)
          fun _ _ h => h)
        refine told_bind.mpr (told_mono (told_total h hid) (fun booking' t h => ?_)
          fun _ _ h => h)
        obtain ⟨h, hid', horder⟩ := h
        refine told_step h .checkCircuit (fun closed t h _ => told_throwIf trivial fun _ => ?_)
          fun _ _ => trivial
        refine told_bind.mpr (told_attempt.mpr (told_mono
          (told_placeOrder (T := fun _ _ => True) h hid' horder fun _ _ => trivial)
          (fun answer t h => h) fun e t _ => ?_))
        exact told_query ⟨_, rfl, .recordFailure⟩ (fun _ _ _ _ => trivial) fun _ => trivial
  · trivial

end Program

/-! ## Rows -/

def HasOrder (bookingId : String) (d : PayData) : Prop :=
  ∃ booking, d.bookings.find bookingId = some booking ∧ booking.razorpayOrderId.isSome = true

/-- The row has an order and a status in which one is created. -/
def OrderedLocked (bookingId : String) (d : PayData) : Prop :=
  ∃ booking, d.bookings.find bookingId = some booking ∧
    booking.razorpayOrderId.isSome = true ∧ booking.status = .LOCKED

theorem OrderedLocked.hasOrder {bookingId : String} {d : PayData} (h : OrderedLocked bookingId d) :
    HasOrder bookingId d := by
  obtain ⟨booking, hfind, horder, -⟩ := h
  exact ⟨booking, hfind, horder⟩

/-- An order id is written with the next status, and neither otherwise. -/
def PayWrite.ofOrders : PayWrite → Prop
  | .booking _ data => (data.razorpayOrderId = none ∧ data.status = none) ∨
      (data.razorpayOrderId.isSome = true ∧ data.status = some .PAYMENT_IN_PROGRESS)
  | _ => True

section Rows

variable {bookingId : String} {w : PayWrite} {d : PayData} {q : PayStmt} {o : PayOracle}

theorem ofOrders_exec (hq : OrderStmt bookingId q) (hw : w ∈ (payDb.exec q o d).2) :
    w.ofOrders := by
  have hwrites := writes_exec hw
  cases w with
  | booking id data =>
      cases hq with
      | total totalAmount =>
          obtain ⟨-, rfl⟩ := hwrites
          exact Or.inl ⟨rfl, rfl⟩
      | placed orderId =>
          obtain ⟨-, rfl⟩ := hwrites
          exact Or.inr ⟨rfl, rfl⟩
      | _ => cases hwrites
  | _ => trivial

theorem hasOrder_apply (h : HasOrder bookingId d) : HasOrder bookingId (payDb.apply w d) := by
  obtain ⟨booking, hfind, horder⟩ := h
  cases w with
  | booking id data =>
      change HasOrder bookingId { d with bookings := d.bookings.update id data }
      by_cases hid : bookingId = id
      · refine ⟨data.apply booking, ?_, ?_⟩
        · exact (BookingTable.find_update.trans (if_pos hid)).trans (congrArg (Option.map _) hfind)
        · change (data.razorpayOrderId <|> booking.razorpayOrderId).isSome = true
          cases data.razorpayOrderId with
          | none => exact horder
          | some orderId => rfl
      · exact ⟨booking, (BookingTable.find_update.trans (if_neg hid)).trans hfind, horder⟩
  | _ => exact ⟨booking, hfind, horder⟩

theorem orderedLocked_apply (hw : w.ofOrders) (h : OrderedLocked bookingId (payDb.apply w d)) :
    OrderedLocked bookingId d := by
  cases w with
  | booking id data =>
      obtain ⟨booking, hfind, horder, hlocked⟩ := h
      have hfind' := BookingTable.find_update.symm.trans hfind
      by_cases hid : bookingId = id
      · rw [if_pos hid] at hfind'
        obtain ⟨booking', hfound, rfl⟩ := Option.map_eq_some_iff.mp hfind'
        rcases hw with ⟨hnone, hsame⟩ | ⟨-, hstatus⟩
        · refine ⟨booking', hfound, ?_, ?_⟩
          · change (data.razorpayOrderId <|> booking'.razorpayOrderId).isSome = true at horder
            rw [hnone] at horder
            exact horder
          · change data.status.getD booking'.status = .LOCKED at hlocked
            rw [hsame] at hlocked
            exact hlocked
        · -- the write moves the booking on
          change data.status.getD booking'.status = .LOCKED at hlocked
          rw [hstatus] at hlocked
          cases hlocked
      · rw [if_neg hid] at hfind'
        exact ⟨booking, hfind', horder, hlocked⟩
  | _ => exact h

end Rows

/-! ## Events -/

/-- The booking for which a command creates an order. -/
def orderFor? : PayOp → TxCmd PayStmt → Option String
  | .createRazorpayOrder bookingId _, .stmt _ .mathRandom => some bookingId
  | .createRazorpayOrder _ _, .stmt _ (.ordersCreate _ bookingId) => some bookingId
  | _, _ => none

/-- The order that the event creates for the booking. -/
def createdOrder (bookingId : String) (e : PayEvent) : Option String :=
  if orderFor? e.op e.cmd = some bookingId then
    match e.cmd with
    | .stmt _ .mathRandom => some ("order_mock_" ++ e.oracle.fresh)
    | _ => if e.oracle.loss = some .request then none else some e.oracle.fresh
  else none

def ordersOf (bookingId : String) (hist : List PayEvent) : List String :=
  hist.filterMap (createdOrder bookingId)

/-- The event writes an order id into the booking, and is answered. -/
def placesOrder (bookingId : String) (e : PayEvent) : Bool :=
  match e.cmd with
  | .stmt none (.bookingUpdate id status data) =>
      id == bookingId && data.razorpayOrderId.isSome &&
        (payDb.step (.stmt none (.bookingUpdate id status data)) e.oracle e.before).1.isOk
  | _ => false

theorem orderFor_of_created {bookingId orderId : String} {e : PayEvent}
    (h : createdOrder bookingId e = some orderId) : orderFor? e.op e.cmd = some bookingId := by
  unfold createdOrder at h
  split at h
  · assumption
  · cases h

theorem hasOrder_of_places {bookingId : String} {e : PayEvent}
    (h : placesOrder bookingId e = true) :
    HasOrder bookingId (payDb.step e.cmd e.oracle e.before).2.data := by
  obtain ⟨tid, op, c, o, s⟩ := e
  unfold placesOrder at h
  dsimp only at h ⊢
  split at h
  · rename_i id status data
    simp only [Bool.and_eq_true, beq_iff_eq] at h
    obtain ⟨⟨rfl, horder⟩, hanswer⟩ := h
    cases hstep : (payDb.step (.stmt none (.bookingUpdate id status data)) o s).1 with
    | error e =>
        rw [hstep] at hanswer
        cases hanswer
    | ok u =>
        obtain ⟨hexec, hdata⟩ := query_ok hstep
        have hws := bookingUpdate_ok (Prod.ext hexec rfl)
        have happly : (payDb.step (.stmt none (.bookingUpdate id status data)) o s).2.data =
            payDb.apply (.booking id data) s.data := by
          rw [hdata]
          exact congrArg (payDb.applyAll · s.data) hws
        rw [happly]
        have hrow : (s.data.bookings.find id).isSome = true := by
          change (PayStmt.exec o s.data (.bookingUpdate id status data)).1 = _ at hexec
          simp only [PayStmt.exec] at hexec
          split at hexec
          · rename_i hany
            obtain ⟨row, hrow, hmatch⟩ := List.any_eq_true.mp hany
            rw [Bool.and_eq_true, beq_iff_eq] at hmatch
            rw [← hmatch.1, BookingTable.find_of_mem hrow]
            rfl
          · cases hexec
        obtain ⟨booking, hfind⟩ := Option.isSome_iff_exists.mp hrow
        refine ⟨data.apply booking, ?_, ?_⟩
        · exact (BookingTable.find_update.trans (if_pos rfl)).trans (congrArg (Option.map _) hfind)
        · change (data.razorpayOrderId <|> booking.razorpayOrderId).isSome = true
          obtain ⟨orderId, hid⟩ := Option.isSome_iff_exists.mp horder
          rw [hid]
          rfl
  · cases h

/-! ## Runs -/

def PayOp.createsOrder : PayOp → Bool
  | .createRazorpayOrder .. => true
  | _ => false

def orderCalls : Discipline payDb.sig PayStore PayOracle PayOp where
  starts op := op.createsOrder = true
  allows _ _ c o s := payDb.waits c o s.world = false

/-- Every order that has been created for the booking has also been written to it, by the
call that created it. -/
def Settled (bookingId : String) (hist : List PayEvent) : Prop :=
  ∀ e ∈ hist, (createdOrder bookingId e).isSome = true →
    ∃ e' ∈ hist, e'.tid = e.tid ∧ placesOrder bookingId e' = true

/-- A call that asks for an order finds the committed row without an id, and every order
that was created for the booking before is written to it: no other call is between its order
and its write. -/
def oneByOne : Discipline payDb.sig PayStore PayOracle PayOp where
  starts op := op.createsOrder = true
  allows _ op c o s := payDb.waits c o s.world = false ∧ ∀ bookingId ∈ orderFor? op c,
    (s.world.data.bookings.find bookingId).all (·.razorpayOrderId.isNone) = true ∧
      Settled bookingId s.hist

section Decidable

instance (op : PayOp) : Decidable (orderCalls.starts op) :=
  inferInstanceAs (Decidable (op.createsOrder = true))

instance (i : Nat) (op : PayOp) (c : TxCmd PayStmt) (o : PayOracle) (s : PaySnap) :
    Decidable (orderCalls.allows i op c o s) :=
  inferInstanceAs (Decidable (payDb.waits c o s.world = false))

instance (op : PayOp) : Decidable (oneByOne.starts op) :=
  inferInstanceAs (Decidable (op.createsOrder = true))

instance (bookingId : String) (hist : List PayEvent) : Decidable (Settled bookingId hist) :=
  inferInstanceAs (Decidable (∀ e ∈ hist, _ → ∃ e' ∈ hist, _))

instance (i : Nat) (op : PayOp) (c : TxCmd PayStmt) (o : PayOracle) (s : PaySnap) :
    Decidable (oneByOne.allows i op c o s) :=
  inferInstanceAs (Decidable (_ ∧ ∀ bookingId ∈ orderFor? op c, _ ∧ _))

end Decidable

/-- The invariant of one booking: at most one order has been created for it, and when one
has, its row has the id and is LOCKED no more, so that no check lets a second through. -/
structure OneOrder (bookingId : String) (s : PaySnap) : Prop where
  one : (ordersOf bookingId s.hist).length ≤ 1
  placed : ∀ e ∈ s.hist, placesOrder bookingId e = true → HasOrder bookingId s.world.data
  /-- A booking with a new order is not LOCKED any more. -/
  gone : ordersOf bookingId s.hist ≠ [] → ¬OrderedLocked bookingId s.world.data
  /-- A booking that was LOCKED with an order gets no other. -/
  kept : ∀ e ∈ s.hist, OrderedLocked bookingId e.before.data →
    ordersOf bookingId s.hist = [] ∧ HasOrder bookingId s.world.data

theorem oneOrder_idle (bookingId : String) (d : PayData) :
    OneOrder bookingId ⟨Store.idle d, []⟩ where
  one := Nat.zero_le 1
  placed _ he := absurd he List.not_mem_nil
  gone hne := absurd rfl hne
  kept _ he := absurd he List.not_mem_nil

section Runs

variable {P : PayPlatform} {bookingId : String} {s : PaySnap} {i : Nat} {op : PayOp}
  {c : TxCmd PayStmt} {o : PayOracle}

theorem not_created_of_hasOrder
    (hallows : oneByOne.allows i op c o s) (h : HasOrder bookingId s.world.data) :
    createdOrder bookingId ⟨i, op, c, o, s.world⟩ = none := by
  cases hcreated : createdOrder bookingId ⟨i, op, c, o, s.world⟩ with
  | none => rfl
  | some orderId =>
      obtain ⟨hrow, -⟩ := hallows.2 bookingId (orderFor_of_created hcreated)
      obtain ⟨booking, hfind, horder⟩ := h
      rw [hfind, Option.all_some, Option.isNone_iff_eq_none] at hrow
      rw [hrow] at horder
      cases horder

/-- **Step**: with such a command there is at most one order. -/
theorem OneOrder.exec (h : OneOrder bookingId s) {id : String} {q : PayStmt}
    (hc : c = .stmt none q) (hq : OrderStmt id q) (hallows : oneByOne.allows i op c o s) :
    OneOrder bookingId (s.exec (payments P) i op c o) := by
  have hwrites : ∀ w ∈ (payDb.exec q o s.world.data).2, w.ofOrders := fun w hw => ofOrders_exec hq hw
  have hdata : (s.exec (payments P) i op c o).world.data = s.world.data ∨
      (s.exec (payments P) i op c o).world.data =
        payDb.applyAll (payDb.exec q o s.world.data).2 s.world.data := by
    subst hc
    rcases step_data payDb (.stmt none q) o s.world with hd | ⟨q', hq', -, hd⟩ | ⟨ss, hss, -⟩
    · exact Or.inl hd
    · cases hq'
      exact Or.inr hd
    · cases hss
  have hhas : HasOrder bookingId s.world.data →
      HasOrder bookingId (s.exec (payments P) i op c o).world.data := by
    intro hs
    rcases hdata with hd | hd <;> rw [hd]
    · exact hs
    · exact applyAll_of_forall (fun w _ d => hasOrder_apply) hs
  have hlocked : ¬OrderedLocked bookingId s.world.data →
      ¬OrderedLocked bookingId (s.exec (payments P) i op c o).world.data := by
    intro hs
    rcases hdata with hd | hd <;> rw [hd]
    · exact hs
    · exact applyAll_of_forall (I := fun d => ¬OrderedLocked bookingId d)
        (fun w hw d hd => mt (orderedLocked_apply (hwrites w hw)) hd) hs
  have hnew : ordersOf bookingId (s.exec (payments P) i op c o).hist =
      (createdOrder bookingId ⟨i, op, c, o, s.world⟩).toList ++ ordersOf bookingId s.hist := by
    rw [Snap.exec_hist, ordersOf, List.filterMap_cons]
    cases createdOrder bookingId ⟨i, op, c, o, s.world⟩ <;> rfl
  -- who creates an order finds none, in the row and in the history
  have hfirst : ∀ orderId, createdOrder bookingId ⟨i, op, c, o, s.world⟩ = some orderId →
      ordersOf bookingId s.hist = [] ∧ ¬HasOrder bookingId s.world.data := by
    intro orderId hcreated
    have hnone : ¬HasOrder bookingId s.world.data := by
      intro hs
      rw [not_created_of_hasOrder hallows hs] at hcreated
      cases hcreated
    refine ⟨List.filterMap_eq_nil_iff.mpr fun e he => ?_, hnone⟩
    cases hold : createdOrder bookingId e with
    | none => rfl
    | some orderId' =>
        obtain ⟨-, hsettled⟩ := hallows.2 bookingId (orderFor_of_created hcreated)
        obtain ⟨e', he', -, hplaces⟩ := hsettled e he (by rw [hold]; rfl)
        exact absurd (h.placed e' he' hplaces) hnone
  constructor
  · rw [hnew]
    cases hcreated : createdOrder bookingId ⟨i, op, c, o, s.world⟩ with
    | none => exact h.one
    | some orderId =>
        rw [(hfirst orderId hcreated).1]
        exact Nat.le_refl 1
  · intro e he hplaces
    rcases List.mem_cons.mp he with rfl | he
    · exact hasOrder_of_places hplaces
    · exact hhas (h.placed e he hplaces)
  · intro hne
    cases hcreated : createdOrder bookingId ⟨i, op, c, o, s.world⟩ with
    | none =>
        rw [hnew, hcreated] at hne
        exact hlocked (h.gone hne)
    | some orderId => exact hlocked fun hs => (hfirst orderId hcreated).2 hs.hasOrder
  · have hstill : ordersOf bookingId s.hist = [] → HasOrder bookingId s.world.data →
        ordersOf bookingId (s.exec (payments P) i op c o).hist = [] ∧
          HasOrder bookingId (s.exec (payments P) i op c o).world.data := by
      intro hnil hs
      rw [hnew, not_created_of_hasOrder hallows hs, hnil]
      exact ⟨rfl, hhas hs⟩
    intro e he hbefore
    rcases List.mem_cons.mp he with rfl | he
    · refine hstill ?_ hbefore.hasOrder
      by_contra hne
      exact h.gone hne hbefore
    · obtain ⟨hnil, hs⟩ := h.kept e he hbefore
      exact hstill hnil hs

theorem OneOrder.env (h : OneOrder bookingId s) (e : DbEnv PayMove) :
    OneOrder bookingId (s.env (payments P) e) := by
  have hsame : (s.env (payments P) e).world.data.bookings = s.world.data.bookings := by
    cases e with
    | data m => cases m <;> rfl
    | abort tx => rfl
  have hhas : HasOrder bookingId (s.env (payments P) e).world.data ↔
      HasOrder bookingId s.world.data := by
    unfold HasOrder
    rw [hsame]
  have hlocked : OrderedLocked bookingId (s.env (payments P) e).world.data ↔
      OrderedLocked bookingId s.world.data := by
    unfold OrderedLocked
    rw [hsame]
  exact ⟨h.one, fun e he hplaces => hhas.mpr (h.placed e he hplaces),
    fun hne => mt hlocked.mp (h.gone hne), fun e he hbefore =>
      ⟨(h.kept e he hbefore).1, hhas.mpr (h.kept e he hbefore).2⟩⟩

/-- What a call knows when it returns. -/
def OrderResult : PayOp → PayAnswer → Transcript payDb.sig → Prop
  | .createRazorpayOrder bookingId _, .order answer, t => GotOrder bookingId answer.orderId t
  | _, _, _ => True

def orderReason (op : PayOp) (t : Transcript payDb.sig) (c : TxCmd PayStmt) : Prop :=
  ∃ bookingId userId, op = .createRazorpayOrder bookingId userId ∧ OrderOk bookingId t c

theorem oneOrder_valid (P : PayPlatform) :
    Outline.Valid (payments P) (toldOutline (payments P) oneByOne
      (fun s => Owned s ∧ ∀ bookingId, OneOrder bookingId s) orderReason)
      fun i op a s => OrderResult op a (transcript (payments P) i s.hist) := by
  refine toldOutline_valid (fun _ h i c o => can_step h.1 i c o) ?_ (fun s h e =>
    ⟨owned_env h.1 e, fun id => (h.2 id).env e⟩) ?_
  · rintro s h i op c o - ⟨id, userId, rfl, q, rfl, hq⟩ hallows
    exact ⟨owned_exec h.1 (fun _ htx => nomatch htx) hallows.1,
      fun bookingId => (h.2 bookingId).exec rfl hq hallows⟩
  · intro op hop
    cases op with
    | createRazorpayOrder bookingId userId =>
        refine told_weaken (told_bind.mpr (told_mono told_createRazorpayOrder
          (fun answer t h => h) fun _ _ h => h)) fun t c h => ⟨bookingId, userId, rfl, h⟩
    | _ => cases hop

/-- The order a call got is one of the orders created, or the row had it. -/
theorem GotOrder.source {orderId userId : String}
    (h : GotOrder bookingId orderId (transcript (payments P) i s.hist))
    (hop : ∀ e ∈ s.hist, e.tid = i → e.op = .createRazorpayOrder bookingId userId) :
    orderId ∈ ordersOf bookingId s.hist ∨
      ∃ e ∈ s.hist, OrderedLocked bookingId e.before.data := by
  cases h with
  | created amount hsaid =>
      obtain ⟨⟨tid, op, c, o, w⟩, he, htid, heq⟩ := mem_transcript hsaid
      obtain ⟨rfl, hr⟩ := Sigma.mk.inj heq
      have hstep : (payDb.step (.stmt none (.ordersCreate amount bookingId)) o w).1 = .ok orderId :=
        (eq_of_heq hr).symm
      obtain rfl : o.fresh = orderId := Except.ok.inj (query_ok hstep).1
      refine Or.inl (List.mem_filterMap.mpr ⟨_, he, ?_⟩)
      have hsent : o.loss ≠ some .request := by
        intro hloss
        simp only [step, autocommit, payDb, PayStmt.inProcess, hloss] at hstep
        cases hstep
      obtain rfl := hop _ he htid
      exact (if_pos rfl).trans (if_neg hsent)
  | mock hsaid =>
      obtain ⟨⟨tid, op, c, o, w⟩, he, htid, heq⟩ := mem_transcript hsaid
      obtain ⟨rfl, hr⟩ := Sigma.mk.inj heq
      have hstep : (payDb.step (.stmt none .mathRandom) o w).1 = .ok _ := (eq_of_heq hr).symm
      obtain rfl := Except.ok.inj (query_ok hstep).1
      obtain rfl := hop _ he htid
      exact Or.inl (List.mem_filterMap.mpr ⟨_, he, if_pos rfl⟩)
  | stored booking hsaid hlocked hid =>
      obtain ⟨⟨tid, op, c, o, w⟩, he, -, heq⟩ := mem_transcript hsaid
      obtain ⟨rfl, hr⟩ := Sigma.mk.inj heq
      have hstep : (payDb.step (.stmt none (.bookingFindUnique bookingId)) o w).1 =
          .ok (some booking) := (eq_of_heq hr).symm
      refine Or.inr ⟨_, he, booking, Except.ok.inj (query_ok hstep).1, ?_, hlocked⟩
      rw [hid]
      rfl

/-- **One order**: at most one is created for a booking, and every call that
returns has that one. -/
theorem oneOrder_run (P : PayPlatform) (d : PayData) (ls : List PayLabel)
    (hls : oneByOne.admitsRun (payments P) (Config.idle (.idle d)) ls) (bookingId : String) :
    (ordersOf bookingId ((Config.idle (.idle d)).run (payments P) ls).hist).length ≤ 1 ∧
      ∀ (i : Nat) (userId : String) (answer : OrderAnswer),
        ((Config.idle (.idle d)).run (payments P) ls).threads[i]? =
            some ⟨.createRazorpayOrder bookingId userId, .ret (.order answer)⟩ →
          ∀ orderId ∈ ordersOf bookingId ((Config.idle (.idle d)).run (payments P) ls).hist,
            answer.orderId = orderId := by
  have hgood := Outline.sound (oneOrder_valid P) (Outline.Good.idle (w := Store.idle d)
    ⟨owned_idle d, fun id => oneOrder_idle id d⟩) hls
  have hattributed := Config.attributed_run (M := payments P)
    (Config.attributed_idle (Store.idle d)) ls
  generalize (Config.idle (.idle d)).run (payments P) ls = cfg at hgood hattributed ⊢
  have hone := hgood.inv.2 bookingId
  refine ⟨hone.one, fun i userId answer hth orderId hid => ?_⟩
  have hgot : GotOrder bookingId answer.orderId (transcript (payments P) i cfg.hist) :=
    hgood.result hth
  have hop : ∀ e ∈ cfg.hist, e.tid = i → e.op = .createRazorpayOrder bookingId userId := by
    intro e he htid
    obtain ⟨th, hth', hop⟩ := hattributed e he
    rw [htid, hth] at hth'
    rw [← hop, ← Option.some.inj hth']
  rcases hgot.source hop with hmem | ⟨e, he, hbefore⟩
  · -- the list has one element
    cases hlist : ordersOf bookingId cfg.hist with
    | nil =>
        rw [hlist] at hid
        cases hid
    | cons first rest =>
        have hlen := hone.one
        rw [hlist] at hid hmem hlen
        obtain rfl : rest = [] := List.eq_nil_of_length_eq_zero (by simpa using hlen)
        rw [List.mem_singleton.mp hid, List.mem_singleton.mp hmem]
  · rw [(hone.kept e he hbefore).1] at hid
    cases hid

end Runs

/-! One call after the other, and two calls that overlap. -/

namespace Sample

def orderable : PayData := data { booking .LOCKED with razorpayOrderId := none }

def order : PayOp := .createRazorpayOrder "b1" "u1"

/-- A call that returns, and one that comes too late. -/
def orderedOnce : List PayLabel :=
  .spawn order :: List.replicate 6 (.step 0 { fresh := "order_1" }) ++
    [.spawn order, .step 1 {}]

/-- Both calls have read the row and passed the breaker before either asks. -/
def orderedTwice : List PayLabel :=
  [.spawn order, .spawn order] ++ List.replicate 3 (.step 0 {}) ++ List.replicate 3 (.step 1 {}) ++
    [.step 0 { fresh := "order_1" }, .step 1 { fresh := "order_2" }]

end Sample

theorem oneOrder_once :
    (ordersOf "b1" ((Config.idle (.idle Sample.orderable)).run (payments Sample.platform)
        Sample.orderedOnce).hist).length ≤ 1 ∧
      ∀ (i : Nat) (userId : String) (answer : OrderAnswer),
        ((Config.idle (.idle Sample.orderable)).run (payments Sample.platform)
            Sample.orderedOnce).threads[i]? =
            some ⟨.createRazorpayOrder "b1" userId, .ret (.order answer)⟩ →
          ∀ orderId ∈ ordersOf "b1" ((Config.idle (.idle Sample.orderable)).run
            (payments Sample.platform) Sample.orderedOnce).hist, answer.orderId = orderId :=
  oneOrder_run Sample.platform Sample.orderable Sample.orderedOnce (by decide +kernel) "b1"

/-- Two calls create two orders. -/
theorem not_oneOrder_overlapping :
    ¬ ∀ (P : PayPlatform) (d : PayData) (ls : List PayLabel),
      orderCalls.admitsRun (payments P) (Config.idle (.idle d)) ls → ∀ bookingId : String,
      (ordersOf bookingId ((Config.idle (.idle d)).run (payments P) ls).hist).length ≤ 1 ∧
        ∀ (i : Nat) (userId : String) (answer : OrderAnswer),
          ((Config.idle (.idle d)).run (payments P) ls).threads[i]? =
              some ⟨.createRazorpayOrder bookingId userId, .ret (.order answer)⟩ →
            ∀ orderId ∈ ordersOf bookingId ((Config.idle (.idle d)).run (payments P) ls).hist,
              answer.orderId = orderId := by
  intro h
  have hlen := (h Sample.platform Sample.orderable Sample.orderedTwice (by decide +kernel) "b1").1
  revert hlen
  decide +kernel

/-! ## One call after another

Between its read and its order a call that nothing interrupts finds the row as it
has read it. That the orders before it have been written is what it starts with: a
write that is lost is not made good by a later call. -/

/-- A write of an order id. -/
def PayWrite.orders : PayWrite → Bool
  | .booking _ data => data.razorpayOrderId.isSome
  | _ => false

/-- A statement of the way to an order: the draw for the mock provider, the request to
Razorpay, or an update that sets the id. -/
def PayStmt.orders : PayStmt → Bool
  | .mathRandom | .ordersCreate .. => true
  | .bookingUpdate _ _ data | .bookingUpdateMany _ _ data => data.razorpayOrderId.isSome
  | _ => false

def PayData.orderIdOf (d : PayData) (bookingId : String) : Option (Option String) :=
  (d.bookings.find bookingId).map (·.razorpayOrderId)

section Visits

variable {P : PayPlatform} {bookingId userId : String} {q : PayStmt} {o : PayOracle} {d : PayData}
  {w : PayWrite} {ws : List PayWrite} {i : Nat} {s : PaySnap} {α : Type} {booking : Booking}

theorem orders_exec (hw : w ∈ (payDb.exec q o d).2) (h : w.orders = true) : q.orders = true := by
  have hwrites := writes_exec hw
  cases w with
  | booking id data =>
      cases q with
      | bookingUpdate _ _ _ =>
          obtain ⟨-, rfl⟩ := hwrites
          exact h
      | bookingUpdateMany _ _ _ =>
          obtain ⟨-, rfl⟩ := hwrites
          exact h
      | _ => cases hwrites
  | _ => cases h

theorem orderIdOf_apply (h : w.orders = false) :
    (payDb.apply w d).orderIdOf bookingId = d.orderIdOf bookingId := by
  cases w with
  | booking id data =>
      change data.razorpayOrderId.isSome = false at h
      rw [Option.isSome_eq_false_iff, Option.isNone_iff_eq_none] at h
      change ((d.bookings.update id data).find bookingId).map _ = _
      rw [BookingTable.find_update]
      split
      · rw [Option.map_map]
        refine congrArg (Option.map · _) (funext fun b => ?_)
        simp only [Function.comp_apply, BookingUpdate.apply, h]
        rfl
      · rfl
  | _ => rfl

theorem orderFor_of_not (h : q.orders = false) (op : PayOp) (tx : Option Nat) :
    orderFor? op (.stmt tx q) = none := by
  cases op <;> cases q <;> first | rfl | cases h

theorem Settled.cons {hist : List PayEvent} {e : PayEvent} (h : Settled bookingId hist)
    (he : createdOrder bookingId e = none) : Settled bookingId (e :: hist) := by
  intro e₁ he₁ hcreated
  rcases List.mem_cons.mp he₁ with rfl | he₁
  · rw [he] at hcreated
    cases hcreated
  · obtain ⟨e₂, he₂, hplaces⟩ := h e₁ he₁ hcreated
    exact ⟨e₂, List.mem_cons_of_mem _ he₂, hplaces⟩

/-- What the call knows of the row, and what it has started with. -/
def ReadOrder (bookingId : String) (orderId? : Option String) (d : PayData)
    (hist : List PayEvent) : Prop :=
  Settled bookingId hist ∧ d.orderIdOf bookingId = some orderId?

theorem meets_quiet {op : PayOp} {f : q.Ret → PayM α} {orderId? : Option String}
    (hq : q.orders = false) (hs : ReadOrder bookingId orderId? s.world.data s.hist)
    (hok : ∀ a s, (solo oneByOne).inv s → ReadOrder bookingId orderId? s.world.data s.hist →
      Meets (PayOp.body P) oneByOne i op (f a) s) :
    Meets (PayOp.body P) oneByOne i op (ask none q >>= f) s := by
  have hnone := orderFor_of_not hq op none
  refine meets_query (F := ReadOrder bookingId orderId?) hs (fun s o _ hwaits => ⟨hwaits, ?_⟩)
    fun s o a hinv hs _ hdata => ?_
  · rw [hnone]
    exact nofun
  · refine hok a _ hinv ⟨hs.1.cons ?_, ?_⟩
    · rw [createdOrder, if_neg]
      rw [hnone]
      exact nofun
    · rw [hdata]
      refine applyAll_of_forall (I := fun d' : PayData => d'.orderIdOf bookingId = some orderId?)
        (fun w hw d' hd' => (orderIdOf_apply ?_).trans hd') hs.2
      by_contra horders
      rw [orders_exec hw (by simpa using horders)] at hq
      cases hq

theorem meets_noOrder {op : PayOp} {f : q.Ret → PayM α} (hq : orderFor? op (.stmt none q) = none)
    (hok : ∀ a s, Meets (PayOp.body P) oneByOne i op (f a) s) :
    Meets (PayOp.body P) oneByOne i op (ask none q >>= f) s := by
  refine fine_query (fun s _ => ⟨nofun, fun o hwaits => ⟨hwaits, ?_⟩⟩) fun s _ _ _ _ _ => hok _ _
  rw [hq]
  exact nofun

theorem meets_order {f : q.Ret → PayM α}
    (hq : ∀ id ∈ orderFor? (.createRazorpayOrder bookingId userId) (.stmt none q), id = bookingId)
    (hs : ReadOrder bookingId none s.world.data s.hist)
    (hok : ∀ a s, Meets (PayOp.body P) oneByOne i (.createRazorpayOrder bookingId userId) (f a) s) :
    Meets (PayOp.body P) oneByOne i (.createRazorpayOrder bookingId userId)
      (ask none q >>= f) s := by
  refine meets_query (F := ReadOrder bookingId none) hs (fun s o hs hwaits => ⟨hwaits, ?_⟩)
    fun s o a _ _ _ _ => hok a _
  intro id hid
  obtain rfl := hq id hid
  obtain ⟨row, hfind, hnone⟩ := Option.map_eq_some_iff.mp hs.2
  rw [hfind, Option.all_some, hnone]
  exact ⟨rfl, hs.1⟩

theorem meets_placeOrder {keyId : String} (hid : booking.id = bookingId)
    (hempty : booking.razorpayOrderId ≠ some "")
    (hs : ReadOrder bookingId booking.razorpayOrderId s.world.data s.hist) :
    Meets (PayOp.body P) oneByOne i (.createRazorpayOrder bookingId userId)
      (placeOrder P booking keyId) s := by
  unfold placeOrder
  split
  · exact fine_ret
  · rename_i hfalsy
    have hnone : booking.razorpayOrderId = none := by
      cases hold : booking.razorpayOrderId with
      | none => rfl
      | some orderId =>
          have hne : orderId ≠ "" := fun h => hempty (hold.trans (congrArg some h))
          rw [hold, truthy?, Option.filter_some, if_pos (by simpa using hne)] at hfalsy
          cases hfalsy
    rw [hnone] at hs
    subst hid
    have hrest : ∀ (orderId : String) (s : PaySnap),
        Meets (PayOp.body P) oneByOne i (.createRazorpayOrder booking.id userId) (do
          ask none (.bookingUpdate booking.id none
            { razorpayOrderId := some orderId, status := some .PAYMENT_IN_PROGRESS })
          ask none .recordSuccess
          return { orderId, amount := chargeInPaise booking, currency := "INR", keyId :
            OrderAnswer }) s :=
      fun orderId s => meets_noOrder rfl fun _ s => meets_noOrder rfl fun _ s => fine_ret
    unfold newOrder
    split
    · rw [map_eq, bind_assoc]
      exact meets_order (fun id hid => (Option.some.inj hid).symm) hs fun random s => hrest _ s
    · exact meets_order (fun id hid => (Option.some.inj hid).symm) hs fun orderId s => hrest _ s

theorem meets_order_tail {keyId : String} (hid : booking.id = bookingId)
    (hempty : booking.razorpayOrderId ≠ some "")
    (hs : ReadOrder bookingId booking.razorpayOrderId s.world.data s.hist) :
    Meets (PayOp.body P) oneByOne i (.createRazorpayOrder bookingId userId) (do
      let closed ← ask none .checkCircuit
      throwIf (!closed) (.app "CIRCUIT_OPEN" "Payment service temporarily unavailable.")
      match ← (placeOrder P booking keyId).attempt with
      | .ok answer => return answer
      | .error cause => do
          ask none .recordFailure
          throw (.orderFailed cause)) s := by
  refine meets_quiet rfl hs fun closed s hinv hs => meets_throwIf fun _ => ?_
  refine fine_attempt hinv (meets_placeOrder hid hempty hs) fun x s _ => ?_
  cases x with
  | ok answer => exact fine_ret
  | error cause => exact meets_noOrder rfl fun _ s => fine_err

theorem meets_withTotal {f : Booking → PayM α} (hid : booking.id = bookingId)
    (hs : ReadOrder bookingId booking.razorpayOrderId s.world.data s.hist)
    (hok : ∀ booking' s, booking'.id = bookingId →
      booking'.razorpayOrderId = booking.razorpayOrderId →
      ReadOrder bookingId booking.razorpayOrderId s.world.data s.hist →
      Meets (PayOp.body P) oneByOne i (.createRazorpayOrder bookingId userId) (f booking') s) :
    Meets (PayOp.body P) oneByOne i (.createRazorpayOrder bookingId userId)
      (withTotal P booking >>= f) s := by
  unfold withTotal
  split
  · rw [bind_assoc]
    refine meets_quiet rfl hs fun count s _ hs => ?_
    rw [bind_assoc]
    refine meets_quiet rfl hs fun shw s _ hs => ?_
    cases shw with
    | none => exact fine_err
    | some shw =>
        dsimp only
        rw [bind_assoc]
        exact meets_quiet rfl hs fun _ s _ hs => hok _ s hid rfl hs
  · exact hok _ s hid rfl hs

theorem meets_checkOrderable {f : Unit → PayM α} {orderId? : Option String}
    (hs : ReadOrder bookingId orderId? s.world.data s.hist)
    (hok : ∀ s, ReadOrder bookingId orderId? s.world.data s.hist →
      Meets (PayOp.body P) oneByOne i (.createRazorpayOrder bookingId userId) (f ()) s) :
    Meets (PayOp.body P) oneByOne i (.createRazorpayOrder bookingId userId)
      (checkOrderable booking userId >>= f) s := by
  unfold checkOrderable
  rw [bind_assoc]
  refine meets_throwIf fun _ => ?_
  rw [bind_assoc]
  refine meets_throwIf fun _ => ?_
  cases booking.expiresAt with
  | none => exact hok s hs
  | some expiresAt =>
      dsimp only
      rw [bind_assoc]
      exact meets_quiet rfl hs fun now s _ hs => meets_throwIf fun _ => hok s hs

/-- Every order of the booking has been written when the call starts, and the row has
no empty order id. -/
def AllWritten : PayOp → PaySnap → Prop
  | .createRazorpayOrder bookingId _, s => Settled bookingId s.hist ∧
      ∀ booking ∈ s.world.data.bookings.find bookingId, booking.razorpayOrderId ≠ some ""
  | _, _ => True

theorem meets_createRazorpayOrder (hs : AllWritten (.createRazorpayOrder bookingId userId) s) :
    Meets (PayOp.body P) oneByOne i (.createRazorpayOrder bookingId userId)
      (createRazorpayOrder P bookingId userId) s := by
  unfold createRazorpayOrder
  split
  · refine meets_query (F := fun d hist => Settled bookingId hist ∧
      ∀ booking ∈ d.bookings.find bookingId, booking.razorpayOrderId ≠ some "") hs
      (fun s o _ hwaits => ⟨hwaits, nofun⟩) fun s o found _ hs hexec hdata => ?_
    have hfind : s.world.data.bookings.find bookingId = found :=
      Except.ok.inj (Prod.mk.inj hexec).1
    cases found with
    | none => exact fine_err
    | some booking =>
        have hid : booking.id = bookingId := (BookingTable.mem_of_find hfind).2
        have hempty := hs.2 booking hfind
        dsimp only
        refine meets_checkOrderable
          (⟨hs.1.cons rfl, ?_⟩ : ReadOrder bookingId booking.razorpayOrderId _ _)
          fun s hs => meets_withTotal hid hs fun booking' s hid' horder hs => ?_
        · rw [hdata]
          exact congrArg (Option.map _) hfind
        · rw [← horder] at hempty hs
          exact meets_order_tail hid' hempty hs
  · exact fine_err

/-- Calls that nothing interrupts create an order only where there is none, as long as
what was created before each has been written. -/
theorem oneByOne_visits (P : PayPlatform) (d : PayData)
    {xs : List (Visit PayOracle (DbEnv PayMove) PayOp)}
    (hready : StartsIn (payments P) AllWritten (Config.idle (.idle d)) xs)
    (h : orderCalls.admitsRun (payments P) (Config.idle (.idle d)) (visits 0 xs)) :
    oneByOne.admitsRun (payments P) (Config.idle (.idle d)) (visits 0 xs) := by
  have hinv : (solo oneByOne).inv (⟨.idle d, []⟩ : PaySnap) :=
    ⟨⟨List.nodup_nil, nofun, nofun⟩, openers_idle _⟩
  refine admitsRun_visits hinv h hready (fun h => h) (fun _ h => h) fun i op s hop _ hs => ?_
  cases op with
  | createRazorpayOrder bookingId userId => exact wp_map _ (meets_createRazorpayOrder hs)
  | _ => cases hop

end Visits

end Omnipax.Payments
