import Omnipax.CapturedPayments

/-!
# The notes of an order

`createRazorpayOrder` puts the booking in the notes of an order and nothing
else. The webhook takes the tenant of a captured payment from the notes of the
payment, which are those of its order, and rejects the payment when it is not
there: so it rejects the payment of every order that was created so, and the
processor never sees one.
-/

namespace Omnipax.Payments

open Conc Prog Database

/-- `notes: { bookingId: booking.id }` -/
def RazorpayOrder.notes (o : RazorpayOrder) : PaymentNotes := { bookingId := some o.bookingId }

/-! ## The order -/

section Order

variable {P : PayPlatform} {bookingId userId : String} {d : PayData}

/-- A statement that creates orders of this booking only. -/
def OrdersFor (bookingId : String) : PayStmt → Prop
  | .ordersCreate _ id => id = bookingId
  | _ => True

def PayWrite.order? : PayWrite → Option RazorpayOrder
  | .order row => some row
  | _ => none

theorem order_exec {q : PayStmt} {o : PayOracle} {w : PayWrite} (hq : OrdersFor bookingId q)
    (hw : w ∈ (payDb.exec q o d).2) : ∀ row ∈ w.order?, row.bookingId = bookingId := by
  intro row hrow
  have hwrites := writes_exec hw
  cases w with
  | order row' =>
      obtain rfl := Option.some.inj hrow
      cases q with
      | ordersCreate amount id =>
          obtain rfl := PayWrite.order.inj (List.mem_singleton.mp hw)
          exact hq
      | _ => cases hwrites
  | _ => cases hrow

/-- The orders that were not there before are for the booking. -/
def NewOrders (bookingId : String) (d d' : PayData) : Prop :=
  ∀ o ∈ d'.razorpay.orders, o ∈ d.razorpay.orders ∨ o.bookingId = bookingId

theorem NewOrders.write {d' : PayData} {w : PayWrite}
    (hw : ∀ row ∈ w.order?, row.bookingId = bookingId) (h : NewOrders bookingId d d') :
    NewOrders bookingId d (payDb.apply w d') := by
  cases w with
  | order row =>
      intro o ho
      rcases List.mem_append.mp ho with ho | ho
      · exact h o ho
      · obtain rfl := List.mem_singleton.mp ho
        exact Or.inr (hw o rfl)
  | _ => exact h

theorem all_newOrder {booking : Booking} (hid : booking.id = bookingId) :
    (newOrder P booking).All (Stmts (OrdersFor bookingId)) := by
  unfold newOrder
  split
  · exact (all_query trivial).bind fun _ => trivial
  · exact all_query hid

theorem all_placeOrder {booking : Booking} (hid : booking.id = bookingId) (keyId : String) :
    (placeOrder P booking keyId).All (Stmts (OrdersFor bookingId)) := by
  unfold placeOrder
  split
  · trivial
  · exact (all_newOrder hid).bind fun _ => (all_query trivial).bind fun _ =>
      (all_query trivial).bind fun _ => trivial

theorem all_withTotal {α : Type} {booking : Booking} {f : Booking → PayM α}
    (hf : ∀ booking', booking'.id = booking.id → (f booking').All (Stmts (OrdersFor booking.id))) :
    (withTotal P booking >>= f).All (Stmts (OrdersFor booking.id)) := by
  unfold withTotal
  split
  · rw [bind_assoc]
    refine (all_query trivial).bind fun _ => ?_
    rw [bind_assoc]
    refine (all_query trivial).bind fun shw => ?_
    cases shw with
    | none => trivial
    | some shw =>
        dsimp only
        rw [bind_assoc]
        exact (all_query trivial).bind fun _ => hf _ rfl
  · exact hf booking rfl

theorem all_checkOrderable {booking : Booking} :
    (checkOrderable booking userId).All (Stmts (OrdersFor booking.id)) := by
  refine (all_throwIf _ _ _).bind fun _ => (all_throwIf _ _ _).bind fun _ => ?_
  cases booking.expiresAt with
  | none => trivial
  | some expiresAt => exact (all_query trivial).bind fun _ => all_throwIf _ _ _

/-- The orders of a call of `createRazorpayOrder` are for its booking. -/
theorem wlp_newOrders :
    (createRazorpayOrder P bookingId userId).wlp payDb.machine
      (fun _ s' => NewOrders bookingId d s'.data) (fun _ s' => NewOrders bookingId d s'.data)
      (Store.idle d) := by
  have hrefl : NewOrders bookingId d d := fun o ho => Or.inl ho
  unfold createRazorpayOrder
  split
  · refine wlp_of_step (fun o booking? h => ?_) fun o e h => ?_
    · obtain ⟨hexec, hstep⟩ := query_ok h
      rw [hstep]
      obtain rfl : d.bookings.find bookingId = booking? := Except.ok.inj hexec
      cases hfind : d.bookings.find bookingId with
      | none => exact hrefl
      | some booking =>
          obtain ⟨-, rfl⟩ := BookingTable.mem_of_find hfind
          refine wlp_of_all (I := NewOrders booking.id d)
            (V := fun w => ∀ row ∈ w.order?, row.bookingId = booking.id) ?_
            (fun _ hq _ _ _ hw => order_exec hq hw) (fun _ _ hw h => h.write hw)
            (fun ss hss => by cases hss) hrefl
          refine all_checkOrderable.bind fun _ => all_withTotal fun booking' hid => ?_
          refine (all_query trivial).bind fun closed => (all_throwIf _ _ _).bind fun _ => ?_
          refine (all_placeOrder hid _).attempt.bind fun r => ?_
          cases r with
          | ok answer => trivial
          | error cause => exact (all_query trivial).bind fun _ => trivial
    · -- the answer is lost, and a lookup has written nothing
      rcases step_data payDb _ o (Store.idle d) with hd | ⟨q, hc, -, hd⟩ | ⟨ss, hc, -⟩
      · rw [hd]
        exact hrefl
      · obtain ⟨-, rfl⟩ := TxCmd.stmt.inj hc
        rw [hd]
        exact hrefl
      · cases hc
  · exact hrefl

end Order

/-! ## The delivery -/

section Delivery

variable {P : PayPlatform} {r : Delivery} {payment : PaymentEntity} {bookingId : String}
  {s : PayStore}

/-- Everything but the first statement of the processor. -/
def BeforeProcessor (c : TxCmd PayStmt) : Prop :=
  match c with
  | .stmt (some _) (.bookingFindUnique _) => False
  | _ => True

/-- The processor has been reached: among the commands is its first statement, which reads
the booking inside its transaction. -/
def HandsOver (cmds : List (TxCmd PayStmt)) (bookingId : String) : Prop :=
  ∃ tx, .stmt (some tx) (.bookingFindUnique bookingId) ∈ cmds

theorem all_step {q : PayStmt} {t : Option Nat} (h : BeforeProcessor (.stmt t q)) :
    (ask t q).All BeforeProcessor := ⟨h, fun a => by cases a <;> trivial⟩

/-- The only statement of a recording that is rejected. -/
def PayStmt.registersEvent : PayStmt → Prop
  | .webhookEventCreate _ => True
  | _ => False

theorem all_recordCapture (hnotes : truthy? payment.notes.tenantId = none) :
    (recordCapture r payment bookingId).All (Stmts PayStmt.registersEvent) := by
  refine all_transaction fun tx => (all_query (by trivial)).attempt.bind fun a => ?_
  cases a with
  | ok _ =>
      rw [hnotes]
      trivial
  | error e =>
      dsimp only
      split <;> trivial

theorem beforeProcessor_of_registers {c : TxCmd PayStmt} (h : Stmts PayStmt.registersEvent c) :
    BeforeProcessor c := by
  cases c with
  | stmt t q =>
      cases q with
      | webhookEventCreate eventId => cases t <;> trivial
      | _ => exact h.elim
  | _ => trivial

theorem all_handleWebhook (hpayment : r.body.payment = some payment)
    (hevent : r.body.event = "payment.captured")
    (hnotes : truthy? payment.notes.tenantId = none) :
    (handleWebhook P r).All BeforeProcessor := by
  unfold handleWebhook
  cases truthy? P.RAZORPAY_WEBHOOK_SECRET with
  | none => trivial
  | some secret =>
      refine (all_throwIf _ _ _).bind fun _ => ?_
      rw [hpayment]
      have hresolve : (resolveBookingId payment).All BeforeProcessor := by
        unfold resolveBookingId
        split
        · trivial
        · split
          · trivial
          · exact (all_step (by trivial)).bind fun _ => trivial
      refine hresolve.bind fun bookingId => ?_
      cases bookingId with
      | none => trivial
      | some bookingId =>
          have hcaptured : (paymentCaptured r payment bookingId).All BeforeProcessor := by
            refine ((all_recordCapture hnotes).mono fun _ => beforeProcessor_of_registers).attempt.bind
              fun a => ?_
            cases a with
            | ok u => trivial
            | error e => exact (all_step (by trivial)).bind fun _ => trivial
          dsimp only
          rw [dispatch, if_pos hevent]
          exact hcaptured.bind fun _ => trivial

/-- Something is lost, or the payment is rejected. -/
def LostOrRejected (e : PayExn) : Prop :=
  e = .step .unavailable ∨ e = .badRequest "Missing tenantId in notes"

theorem wlp_recordCapture_rejects {Q : Unit → PayStore → Prop} (hs : s.Numbered)
    (hnotes : truthy? payment.notes.tenantId = none)
    (hfresh : eventKey r.body payment ∉ s.data.razorpayWebhookEvents) :
    (recordCapture r payment bookingId).wlp payDb.machine Q
      (fun e _ => LostOrRejected e) s := by
  have hlacks : ({ s with next := s.next + 1 } : PayStore).Lacks s.next := hs.lacks
  refine wlp_transaction_fails (T := LostOrRejected) (Or.inl rfl) ?_
  refine wlp_stmt_attempt hlacks (fun o a ws h => ?_) fun e s' he => ?_
  · rw [hnotes]
    exact Or.inr rfl
  · rcases he with rfl | ⟨o, he⟩
    · exact Or.inl rfl
    · cases (webhookEventCreate_fresh hfresh).symm.trans he

/-- The dead letter that is written of a payment which is rejected for notes without a
tenant. -/
def rejectionLetter (r : Delivery) (bookingId : String) : DeadLetterEvent where
  type := r.body.event
  reason := .inl (.badRequest "Missing tenantId in notes")
  bookingId := some bookingId
  razorpayEventId := r.body.id
  tenantId := "UNKNOWN"

theorem deadLetters_kept {q : PayStmt} {o : PayOracle} {d : PayData} {w : PayWrite}
    (hq : q.registersEvent) (hw : w ∈ (payDb.exec q o d).2) (d' : PayData) :
    (payDb.apply w d').deadLetterEvents = d'.deadLetterEvents := by
  cases q with
  | webhookEventCreate eventId =>
      have hwrites := writes_exec hw
      cases w with
      | webhookEvent eventId => rfl
      | _ => cases hwrites
  | _ => exact hq.elim

/-- A signed delivery whose payment has the notes of an order. -/
theorem wlp_handleWebhook_rejects {d : PayData} {secret : String}
    (hsecret : truthy? P.RAZORPAY_WEBHOOK_SECRET = some secret)
    (hsigned : r.signature = some (P.hmacSha256Hex secret r.bodyForVerification))
    (hpayment : r.body.payment = some payment) (hevent : r.body.event = "payment.captured")
    (hnotes : payment.notes = ⟨some bookingId, none⟩) (hne : bookingId ≠ "")
    (hfresh : eventKey r.body payment ∉ d.razorpayWebhookEvents) :
    (handleWebhook P r).wlp payDb.machine (fun _ _ => False)
      (fun e s' => e = .step .unavailable ∨ e = .badRequest "Missing tenantId in notes" ∧
        s'.data.deadLetterEvents = d.deadLetterEvents ++ [rejectionLetter r bookingId])
      (Store.idle d) := by
  have hresolve : resolveBookingId payment = .ret (some bookingId) := by
    rw [resolveBookingId, hnotes, truthy?_eq_some.mpr ⟨rfl, hne⟩]
    rfl
  have htenant : truthy? payment.notes.tenantId = none := by
    rw [hnotes]
    rfl
  have hrejects : (recordCapture r payment bookingId).wlp payDb.machine (fun _ _ => False)
      (fun e _ => LostOrRejected e) (Store.idle d) :=
    wlp_recordCapture_rejects (Store.numbered_idle d) htenant hfresh
  have hall : (recordCapture r payment bookingId).All (Stmts PayStmt.registersEvent) :=
    all_recordCapture htenant
  have hkept := wlp_of_all (I := fun d' : PayData => d'.deadLetterEvents = d.deadLetterEvents)
    (V := fun w => ∀ d', (payDb.apply w d').deadLetterEvents = d'.deadLetterEvents) hall
    (fun _ hq _ _ _ hw => deadLetters_kept hq hw) (fun _ _ hw h => (hw _).trans h)
    (fun ss hss => by cases hss) (s := Store.idle d) rfl
  unfold handleWebhook
  rw [hsecret]
  dsimp only
  rw [hsigned, bne_self_eq_false, throwIf_false, ret_bind, hpayment]
  dsimp only
  rw [hresolve, ret_bind]
  dsimp only
  rw [dispatch, if_pos hevent, paymentCaptured, wlp_bind, wlp_bind, wlp_attempt]
  refine wlp_mono (hrejects.and hkept) (fun _ _ h => h.1.elim) fun e s' h => ?_
  obtain ⟨he, hdata⟩ := h
  have hletter : stringOr payment.notes.tenantId "UNKNOWN" = "UNKNOWN" := by rw [hnotes]; rfl
  rw [hletter]
  refine wlp_of_step (fun o a h => ?_) fun o e' h => ?_
  · refine he.imp id fun he => ⟨he, ?_⟩
    subst he
    rw [(query_ok h).2]
    exact congrArg (· ++ _) hdata
  · rcases query_error h with rfl | he'
    · exact Or.inl rfl
    · cases he'

end Delivery

/-! ## Orders and their deliveries -/

/-- **Order notes**: the processor is handed no payment of an order that
`createRazorpayOrder` created. A signed delivery of it, under a new event id,
is rejected into the dead letters, unless something is lost before. The order
id of the payment makes no difference. -/
theorem orderNotes_rejected (P : PayPlatform) (d₀ d : PayData) (bookingId userId secret : String)
    (os₀ os : Nat → PayOracle) (o : RazorpayOrder) (r : Delivery) (payment : PaymentEntity)
    (hcreated : o ∈ ((createRazorpayOrder P bookingId userId).run payDb.machine os₀ 0
      (Store.idle d₀)).state.data.razorpay.orders)
    (hnew : o ∉ d₀.razorpay.orders)
    (hsecret : truthy? P.RAZORPAY_WEBHOOK_SECRET = some secret)
    (hsigned : r.signature = some (P.hmacSha256Hex secret r.bodyForVerification))
    (hpayment : r.body.payment = some payment) (hevent : r.body.event = "payment.captured")
    (hnotes : payment.notes = o.notes)
    (hfresh : eventKey r.body payment ∉ d.razorpayWebhookEvents) :
    (∀ id, ¬HandsOver ((handleWebhook P r).trace payDb.machine os 0 (Store.idle d)) id) ∧
      (bookingId ≠ "" → ∃ e,
        ((handleWebhook P r).run payDb.machine os 0 (Store.idle d)).result = .error e ∧
          (e = .step .unavailable ∨ e = .badRequest "Missing tenantId in notes" ∧
            ((handleWebhook P r).run payDb.machine os 0 (Store.idle d)).state.data.deadLetterEvents
              = d.deadLetterEvents ++ [rejectionLetter r bookingId])) := by
  have hbooking : o.bookingId = bookingId := by
    have horders : (createRazorpayOrder P bookingId userId).wlp payDb.machine _ _ (Store.idle d₀) :=
      wlp_newOrders
    rcases horders.outcome os₀ 0 with ⟨a, -, h⟩ | ⟨e, -, h⟩
    · exact (h o hcreated).resolve_left hnew
    · exact (h o hcreated).resolve_left hnew
  have hnotes' : payment.notes = ⟨some bookingId, none⟩ := by rw [hnotes, ← hbooking]; rfl
  refine ⟨fun id ⟨tx, hmem⟩ => ?_, fun hne => ?_⟩
  · exact (all_handleWebhook (P := P) hpayment hevent (by rw [hnotes']; rfl)).trace os 0 _ _ hmem
  · rcases (wlp_handleWebhook_rejects hsecret hsigned hpayment hevent hnotes' hne hfresh).outcome os 0
      with ⟨a, -, h⟩ | h
    · exact h.elim
    · exact h

namespace Sample

/-- The body of the captured payment `pay_1` of the order `id_3` of `b1`. -/
def orderText : String :=
  "\x7b\"id\":\"evt_1\",\"event\":\"payment.captured\",\"payload\":\x7b\"payment\":" ++
    "\x7b\"entity\":\x7b\"id\":\"pay_1\",\"order_id\":\"id_3\",\"notes\":" ++
    "\x7b\"bookingId\":\"b1\"\x7d\x7d\x7d\x7d\x7d"

def orderSignature : String :=
  "30ccbec3024e1da754fd161835447a66a9d186a2c7d5cbc9454bfddd6c30bd45"

def orderPlatform : PayPlatform :=
  { platform with
    hmacSha256Hex := fun secret text =>
      if secret = "whsec" ∧ text = orderText then orderSignature else "" }

def orderPayment : PaymentEntity where
  id := "pay_1"
  order_id := some "id_3"
  notes := ⟨some "b1", none⟩

def orderDelivery : Delivery where
  rawBody := some orderText
  body := { id := some "evt_1", event := "payment.captured", payment := some orderPayment }
  serialized := orderText
  signature := some orderSignature

/-- A booking that has no order yet. -/
def unordered : PayData := data { booking .LOCKED with razorpayOrderId := none }

/-- The data after its order was created. -/
def afterOrder : PayData :=
  ((createRazorpayOrder orderPlatform "b1" "u1").run payDb.machine oracles 0
    (Store.idle unordered)).state.data

end Sample

theorem orderNotes_rejected_sample :
    (∀ id, ¬HandsOver ((handleWebhook Sample.orderPlatform Sample.orderDelivery).trace payDb.machine
        Sample.oracles 0 (Store.idle Sample.afterOrder)) id) ∧
      ("b1" ≠ "" → ∃ e,
        ((handleWebhook Sample.orderPlatform Sample.orderDelivery).run payDb.machine Sample.oracles 0
          (Store.idle Sample.afterOrder)).result = .error e ∧
          (e = .step .unavailable ∨ e = .badRequest "Missing tenantId in notes" ∧
            ((handleWebhook Sample.orderPlatform Sample.orderDelivery).run payDb.machine
              Sample.oracles 0 (Store.idle Sample.afterOrder)).state.data.deadLetterEvents
              = Sample.afterOrder.deadLetterEvents ++ [rejectionLetter Sample.orderDelivery "b1"])) :=
  orderNotes_rejected Sample.orderPlatform Sample.unordered Sample.afterOrder "b1" "u1" "whsec"
    Sample.oracles Sample.oracles ⟨"id_3", 50000, "b1"⟩ Sample.orderDelivery Sample.orderPayment
    (by decide +kernel) (by decide +kernel) (by decide +kernel) (by decide +kernel) rfl rfl rfl
    (by decide +kernel)

/-- The payment of an order that was just created does not get through. -/
theorem orderNotes_disagree :
    ¬ ∀ (P : PayPlatform) (d₀ d : PayData) (bookingId userId secret : String)
      (os₀ os : Nat → PayOracle) (o : RazorpayOrder) (r : Delivery) (payment : PaymentEntity),
      o ∈ ((createRazorpayOrder P bookingId userId).run payDb.machine os₀ 0
        (Store.idle d₀)).state.data.razorpay.orders →
      o ∉ d₀.razorpay.orders →
      truthy? P.RAZORPAY_WEBHOOK_SECRET = some secret →
      r.signature = some (P.hmacSha256Hex secret r.bodyForVerification) →
      r.body.payment = some payment → r.body.event = "payment.captured" →
      payment.notes = o.notes → payment.order_id = some o.id →
      eventKey r.body payment ∉ d.razorpayWebhookEvents →
      HandsOver ((handleWebhook P r).trace payDb.machine os 0 (Store.idle d)) bookingId := by
  intro h
  obtain ⟨tx, hmem⟩ := h Sample.orderPlatform Sample.unordered Sample.afterOrder "b1" "u1" "whsec"
    Sample.oracles Sample.oracles ⟨"id_3", 50000, "b1"⟩ Sample.orderDelivery Sample.orderPayment
    (by decide +kernel) (by decide +kernel) (by decide +kernel) (by decide +kernel) rfl rfl rfl rfl
    (by decide +kernel)
  have hall : (handleWebhook Sample.orderPlatform Sample.orderDelivery).All BeforeProcessor :=
    @all_handleWebhook _ _ Sample.orderPayment rfl rfl rfl
  exact hall.trace _ _ _ _ hmem

end Omnipax.Payments
