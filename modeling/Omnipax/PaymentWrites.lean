import Omnipax.Payments

/-!
# Writes of the payments database

What a statement may write (`PayStmt.writes`), and what each kind of write
does to the bookings, the ledger and the refunds. Everything said later about
the writes of a statement goes through `writes_exec`.
-/

namespace Omnipax.Payments

open Conc Database

/-! ## Bookings under writes -/

namespace BookingTable

variable {t : BookingTable} {id id' : String} {u : BookingUpdate} {b : Booking}

def find (t : BookingTable) (id : String) : Option Booking := t.rows.find? (·.id == id)

theorem mem_of_find (h : t.find id = some b) : b ∈ t.rows ∧ b.id = id :=
  ⟨List.mem_of_find?_eq_some h, by simpa using List.find?_some h⟩

theorem find_of_mem (h : b ∈ t.rows) : t.find b.id = some b := by
  cases hf : t.find b.id with
  | none => simpa using List.find?_eq_none.mp hf b h
  | some b' =>
      obtain ⟨hmem, hid⟩ := mem_of_find hf
      exact congrArg some (List.inj_on_of_nodup_map t.ids hmem h hid)

theorem find_update :
    (t.update id u).find id' = if id' = id then (t.find id').map u.apply else t.find id' := by
  have hid : ∀ b : Booking, (if b.id = id then u.apply b else b).id = b.id := by
    intro b
    split <;> rfl
  unfold find update
  rw [List.find?_map, show (fun b : Booking => b.id == id') ∘
    (fun b => if b.id = id then u.apply b else b) = (·.id == id') from
      funext fun b => by simp only [Function.comp_apply, hid]]
  cases h : t.rows.find? (·.id == id') with
  | none => simp
  | some b =>
      obtain rfl : b.id = id' := by simpa using List.find?_some h
      by_cases hb : b.id = id <;> simp [hb]

end BookingTable

def PayWrite.sparesBookings : PayWrite → Bool
  | .booking .. => false
  | _ => true

def PayWrite.ledgerRow? : PayWrite → Option LedgerEntry
  | .ledger row => some row
  | _ => none

def PayWrite.refund? : PayWrite → Option RazorpayRefund
  | .refund row => some row
  | _ => none

theorem bookings_applyAll {ws : List PayWrite} (h : ws.all (·.sparesBookings) = true)
    (d : PayData) : (payDb.applyAll ws d).bookings = d.bookings := by
  refine applyAll_of_forall (I := fun d' : PayData => d'.bookings = d.bookings)
    (fun w hw d' hd' => ?_) rfl
  have hw' := List.all_eq_true.mp h w hw
  cases w with
  | booking id u => cases hw'
  | _ => exact hd'

theorem ledger_apply (w : PayWrite) (d : PayData) :
    (payDb.apply w d).paymentLedger = d.paymentLedger ++ w.ledgerRow?.toList := by
  cases w with
  | ledger row => rfl
  | _ => exact (List.append_nil _).symm

theorem refunds_apply (w : PayWrite) (d : PayData) :
    (payDb.apply w d).razorpay.refunds = d.razorpay.refunds ++ w.refund?.toList := by
  cases w with
  | refund row => rfl
  | _ => exact (List.append_nil _).symm

/-! ## What a statement writes -/

/-- The statement may make the write. -/
def PayStmt.writes : PayStmt → PayWrite → Prop
  | .enterSweep _, .reconciling _ => True
  | .leaveSweep _, .reconciling _ => True
  | .checkCircuit, .circuit _ => True
  | .recordFailure, .circuit _ => True
  | .recordSuccess, .circuit _ => True
  | .bookingUpdate id _ data, .booking id' data' => id = id' ∧ data = data'
  | .bookingSeatUpdateMany _ _, .bookingSeats _ _ => True
  | .seatLockUpdateMany _ _, .seatLocks _ _ => True
  | .ledgerCreateMany data, .ledger row => row ∈ data
  | .webhookEventCreate _, .webhookEvent _ => True
  | .paymentEventCreate .., .paymentEvent _ => True
  | .paymentEventUpdate _, .paymentEventProcessed _ => True
  | .deadLetterCreate _, .deadLetter _ => True
  | .systemEventLogCreate _, .systemEventLog _ => True
  | .ordersCreate .., .order _ => True
  | .paymentsRefund paymentId amount bookingId, .refund row =>
      row.paymentId = paymentId ∧ row.amount = amount ∧ row.bookingId = bookingId
  | .enterGuard .., .guards _ => True
  | .leaveGuard .., .guards _ => True
  | .bookingUpdateMany ids _ data, .booking id data' => id ∈ ids ∧ data = data'
  | .seatLockUpdateByIds ids status, .seatLock id _ status' => id ∈ ids ∧ status = status'
  | .seatAvailabilityRelease showId seatIds, .seatAvailable showId' seatId =>
      showId = showId' ∧ seatId ∈ seatIds
  | .paymentLogCreate row, .paymentLog row' => row = row'
  | .tenantUpdate id amount, .revenue id' amount' => id = id' ∧ amount = amount'
  | _, _ => False

theorem writes_exec {q : PayStmt} {o : PayOracle} {d : PayData} {w : PayWrite}
    (h : w ∈ (payDb.exec q o d).2) : q.writes w := by
  change w ∈ (PayStmt.exec o d q).2 at h
  have hone : ∀ {w' : PayWrite}, w ∈ [w'] → q.writes w' → q.writes w := by
    intro w' hw hq
    rw [List.mem_singleton.mp hw]
    exact hq
  cases q with
  | enterSweep process =>
      simp only [PayStmt.exec] at h
      split at h
      · cases h
      · exact hone h trivial
  | leaveSweep process => exact hone h trivial
  | checkCircuit => exact hone h trivial
  | recordFailure => exact hone h trivial
  | recordSuccess => exact hone h trivial
  | bookingUpdate id status data =>
      simp only [PayStmt.exec] at h
      split at h
      · split at h
        · cases h
        · exact hone h ⟨rfl, rfl⟩
      · cases h
  | bookingSeatUpdateMany bookingId status => exact hone h trivial
  | seatLockUpdateMany bookingId status => exact hone h trivial
  | ledgerCreateMany data =>
      obtain ⟨row, hrow, rfl⟩ := List.mem_map.mp h
      exact hrow
  | webhookEventCreate eventId =>
      simp only [PayStmt.exec] at h
      split at h
      · cases h
      · exact hone h trivial
  | paymentEventCreate razorpayEventId bookingId eventType tenantId =>
      simp only [PayStmt.exec] at h
      split at h
      · cases h
      · exact hone h trivial
  | paymentEventUpdate id =>
      simp only [PayStmt.exec] at h
      split at h
      · exact hone h trivial
      · cases h
  | deadLetterCreate row => exact hone h trivial
  | systemEventLogCreate row => exact hone h trivial
  | ordersCreate amount bookingId => exact hone h trivial
  | paymentsRefund paymentId amount bookingId => exact hone h ⟨rfl, rfl, rfl⟩
  | enterGuard guard process =>
      simp only [PayStmt.exec] at h
      split at h
      · cases h
      · exact hone h trivial
  | leaveGuard guard process => exact hone h trivial
  | bookingUpdateMany ids status data =>
      obtain ⟨b, hb, rfl⟩ := List.mem_map.mp h
      have hb := (List.mem_filter.mp hb).2
      simp only [Bool.and_eq_true, List.contains_iff_mem] at hb
      exact ⟨hb.1, rfl⟩
  | seatLockUpdateByIds ids status =>
      obtain ⟨l, hl, rfl⟩ := List.mem_map.mp h
      exact ⟨by simpa using (List.mem_filter.mp hl).2, rfl⟩
  | seatAvailabilityRelease showId seatIds =>
      obtain ⟨a, ha, rfl⟩ := List.mem_map.mp h
      have ha := (List.mem_filter.mp ha).2
      simp only [Bool.and_eq_true, beq_iff_eq, List.contains_iff_mem] at ha
      exact ⟨ha.1.1.symm, ha.1.2⟩
  | paymentLogCreate row =>
      simp only [PayStmt.exec] at h
      split at h
      · cases h
      · exact hone h rfl
  | tenantUpdate id amount =>
      simp only [PayStmt.exec] at h
      split at h
      · exact hone h ⟨rfl, rfl⟩
      · cases h
  | paymentsFetch paymentId =>
      simp only [PayStmt.exec] at h
      split at h <;> cases h
  | _ => cases h

/-- A statement that may update a booking. -/
def PayStmt.updatesBooking : PayStmt → Bool
  | .bookingUpdate .. => true
  | .bookingUpdateMany .. => true
  | _ => false

theorem spares_exec {q : PayStmt} (hq : q.updatesBooking = false) {o : PayOracle} {d : PayData}
    {a : Except StepError q.Ret} {ws : List PayWrite} (h : payDb.exec q o d = (a, ws)) :
    ws.all (·.sparesBookings) = true := by
  obtain rfl : (payDb.exec q o d).2 = ws := congrArg Prod.snd h
  refine List.all_eq_true.mpr fun w hw => ?_
  have hwrites := writes_exec hw
  cases w with
  | booking id u =>
      cases q with
      | bookingUpdate _ _ _ => cases hq
      | bookingUpdateMany _ _ _ => cases hq
      | _ => cases hwrites
  | _ => rfl

/-- The rows a statement enters in the ledger. -/
def PayStmt.ledgerRows : PayStmt → List LedgerEntry
  | .ledgerCreateMany data => data
  | _ => []

/-- The amount of a refund request. -/
def PayStmt.refundAmount? : PayStmt → Option Int
  | .paymentsRefund _ amount _ => some amount
  | _ => none

theorem ledgerRow_exec {q : PayStmt} {o : PayOracle} {d : PayData} {w : PayWrite}
    (hw : w ∈ (payDb.exec q o d).2) {e : LedgerEntry} (he : e ∈ w.ledgerRow?) :
    e ∈ q.ledgerRows := by
  have hwrites := writes_exec hw
  cases w with
  | ledger row =>
      obtain rfl := Option.some.inj he
      cases q with
      | ledgerCreateMany data => exact hwrites
      | _ => cases hwrites
  | _ => cases he

theorem refund_exec {q : PayStmt} {o : PayOracle} {d : PayData} {w : PayWrite}
    (hw : w ∈ (payDb.exec q o d).2) {r : RazorpayRefund} (hr : r ∈ w.refund?) :
    q.refundAmount? = some r.amount := by
  have hwrites := writes_exec hw
  cases w with
  | refund row =>
      obtain rfl := Option.some.inj hr
      cases q with
      | paymentsRefund _ _ _ => exact congrArg some hwrites.2.1.symm
      | _ => cases hwrites
  | _ => cases hr

theorem bookingUpdate_ok {id : String} {status : Option BookingStatus} {u : BookingUpdate}
    {o : PayOracle} {d : PayData} {a : Unit} {ws : List PayWrite}
    (h : payDb.exec (.bookingUpdate id status u) o d = (.ok a, ws)) : ws = [.booking id u] := by
  change PayStmt.exec o d (.bookingUpdate id status u) = _ at h
  simp only [PayStmt.exec] at h
  split at h
  · split at h
    · cases h
    · cases h
      rfl
  · cases h

theorem paymentLogCreate_ok {row : PaymentLog} {o : PayOracle} {d : PayData} {a : Unit}
    {ws : List PayWrite} (h : payDb.exec (.paymentLogCreate row) o d = (.ok a, ws)) :
    ws = [.paymentLog row] := by
  change PayStmt.exec o d (.paymentLogCreate row) = _ at h
  simp only [PayStmt.exec] at h
  split at h
  · cases h
  · cases h
    rfl

theorem tenantUpdate_ok {id : String} {amount : Money} {o : PayOracle} {d : PayData} {a : Unit}
    {ws : List PayWrite} (h : payDb.exec (.tenantUpdate id amount) o d = (.ok a, ws)) :
    ws = [.revenue id amount] := by
  change PayStmt.exec o d (.tenantUpdate id amount) = _ at h
  simp only [PayStmt.exec] at h
  split at h
  · cases h
    rfl
  · cases h

/-! ## What a statement reads -/

def PayStmt.rowsRead : (q : PayStmt) → q.Ret → List Booking
  | .bookingFindUnique _, r => Option.toList r
  | .bookingFindByOrder _, r => Option.toList r
  | .bookingFindByPayment _, r => Option.toList r
  | .bookingFindWithSeats _, r => (Option.toList r).map (·.1)
  | .bookingFindStale _, r => r
  | .bookingFindPendingRefunds, r => r
  | .bookingFindExpired _, r => r
  | .bookingFindAutoExpiry _, r => r
  | .bookingFindStalePending _, r => r
  | _, _ => []

/-- A statement whose answer may have bookings. -/
def PayStmt.readsBookings : PayStmt → Bool
  | .bookingFindUnique _ => true
  | .bookingFindByOrder _ => true
  | .bookingFindByPayment _ => true
  | .bookingFindWithSeats _ => true
  | .bookingFindStale _ => true
  | .bookingFindPendingRefunds => true
  | .bookingFindExpired _ => true
  | .bookingFindAutoExpiry _ => true
  | .bookingFindStalePending _ => true
  | _ => false

theorem rowsRead_eq_nil {q : PayStmt} (hq : q.readsBookings = false) (r : q.Ret) :
    q.rowsRead r = [] := by
  cases q <;> first | rfl | cases hq

end Omnipax.Payments
