import Omnipax.Conc.Answered
import Omnipax.StatusPaths

/-!
# What a reconciliation run settles

A run of `handleReconciliation` that nothing disturbs takes every stale booking
out of PAYMENT_IN_PROGRESS and refunds every booking in REFUND_INITIATED. It
gets to the refunds only after it has found a stale booking: with none it
returns at once (`cleared_iff`).
-/

namespace Omnipax.Payments

open Conc Prog Database

/-! ## Bookings that are due -/

/-- The bookings that the first sweep selects: PAYMENT_IN_PROGRESS, and created more than
ten minutes ago. -/
def PayData.due (d : PayData) : List Booking :=
  d.bookings.rows.filter fun b =>
    b.status == .PAYMENT_IN_PROGRESS && decide (b.createdAt < d.clock - 10 * 60 * 1000)

def PayData.pendingRefunds (d : PayData) : List Booking :=
  d.bookings.rows.filter (·.status == .REFUND_INITIATED)

/-- What was stale when the job began is not in progress any more, and no refund is left to
be asked for. -/
structure Cleared (d d' : PayData) : Prop where
  due : ∀ b ∈ d.due, ∀ b' ∈ d'.bookings.rows, b'.id = b.id → b'.status ≠ .PAYMENT_IN_PROGRESS
  refunds : d'.pendingRefunds = []

/-- The bookings of the ids have got a status of a kind, and the others are as
they were. -/
structure Moved (S : BookingStatus → Prop) (ids : List String) (d d' : PayData) : Prop where
  moved : ∀ id ∈ ids, ∃ b, d'.bookings.find id = some b ∧ S b.status
  others : ∀ id, id ∉ ids → d'.bookings.find id = d.bookings.find id

section Moved

variable {S : BookingStatus → Prop} {ids : List String} {id : String} {d d' d'' : PayData}
  {b : Booking} {u : BookingUpdate} {ws : List PayWrite}

theorem moved_nil (h : d'.bookings = d.bookings) : Moved S [] d d' where
  moved := nofun
  others := fun _ _ => by rw [h]

theorem Moved.trans_one (h : Moved S ids d d') (h' : Moved S [id] d' d'') :
    Moved S (ids ++ [id]) d d'' where
  moved := by
    intro id' hmem
    by_cases hid : id' = id
    · subst hid
      exact h'.moved id' (List.mem_singleton_self _)
    · obtain ⟨b, hb, hS⟩ := h.moved id' ((List.mem_append.mp hmem).resolve_right (by simpa using hid))
      exact ⟨b, (h'.others id' (by simpa using hid)).trans hb, hS⟩
  others := by
    intro id' hmem
    obtain ⟨hold, hnew⟩ := not_or.mp (mt List.mem_append.mpr hmem)
    exact (h'.others id' hnew).trans (h.others id' hold)

theorem moved_update (hfind : d.bookings.find id = some b) (hS : S (u.status.getD b.status))
    (hws : ws.all (·.sparesBookings) = true) :
    Moved S [id] d (payDb.applyAll (.booking id u :: ws) d) := by
  have hbookings : (payDb.applyAll (.booking id u :: ws) d).bookings = d.bookings.update id u :=
    bookings_applyAll hws _
  refine ⟨fun id' hid => ?_, fun id' hid => ?_⟩
  · rw [List.mem_singleton.mp hid, hbookings, BookingTable.find_update, if_pos rfl, hfind]
    exact ⟨_, rfl, hS⟩
  · rw [hbookings, BookingTable.find_update, if_neg (by simpa using hid)]

theorem Moved.congr {d₁ : PayData} (h : Moved S ids d d') (hd : d₁.bookings = d.bookings) :
    Moved S ids d₁ d' where
  moved := h.moved
  others := fun id hid => by rw [hd]; exact h.others id hid

end Moved

/-! ## Statements -/

section Statements

variable {α : Type} {d : PayData} {tx : Nat} {ws : List PayWrite} {id : String}

theorem leaves_read {q : PayStmt} {Q : q.Ret → PayData → Prop}
    (hq : ∀ o, (payDb.exec q o d).2 = []) (h : ∀ o a, (payDb.exec q o d).1 = .ok a → Q a d) :
    payDb.Leaves (ask none q) d Q := by
  refine leaves_query fun o a ws hexec => ?_
  obtain ⟨ha, hws⟩ := Prod.ext_iff.mp hexec
  obtain rfl : [] = ws := (hq o).symm.trans hws
  exact h o a ha

theorem leaves_bookingUpdate {status : Option BookingStatus} {u : BookingUpdate}
    {Q : Unit → PayData → Prop} (h : Q () (payDb.applyAll [.booking id u] d)) :
    payDb.Leaves (ask none (.bookingUpdate id status u)) d Q := by
  refine leaves_query fun o a ws hexec => ?_
  rw [bookingUpdate_ok hexec]
  exact h

theorem writes_bookingFind {f : Option Booking → PayM α} {Q : α → List PayWrite → PayData → Prop}
    (h : payDb.Writes tx (f (d.bookings.find id)) [] d Q) :
    payDb.Writes tx (ask (some tx) (.bookingFindUnique id) >>= f) [] d Q := by
  refine writes_bind (writes_stmt fun o a ws hexec => ?_)
  obtain ⟨ha, hws⟩ := Prod.ext_iff.mp hexec
  obtain rfl : [] = ws := hws
  obtain rfl : d.bookings.find id = a := Except.ok.inj ha
  exact h

theorem writes_dateNow {f : Time → PayM α} {Q : α → List PayWrite → PayData → Prop}
    (h : payDb.Writes tx (f d.clock) ws d Q) :
    payDb.Writes tx (ask none .dateNow >>= f) ws d Q := by
  refine writes_bind (writes_query fun o a ws' hexec => ?_)
  obtain ⟨ha, hws⟩ := Prod.ext_iff.mp hexec
  obtain rfl : [] = ws' := hws
  obtain rfl : d.clock = a := Except.ok.inj ha
  exact h

theorem writes_sure {q : PayStmt} {f : q.Ret → PayM α} {ws' : List PayWrite}
    {Q : α → List PayWrite → PayData → Prop}
    (hq : ∀ o d a ws, payDb.exec q o d = (.ok a, ws) → ws = ws')
    (h : ∀ a, payDb.Writes tx (f a) (ws ++ ws') d Q) :
    payDb.Writes tx (ask (some tx) q >>= f) ws d Q := by
  refine writes_bind (writes_stmt fun o a ws'' hexec => ?_)
  rw [hq o _ a ws'' hexec]
  exact h a

end Statements

/-! ## A booking of the sweep -/

def Reconciled (status : BookingStatus) : Prop := status = .CONFIRMED ∨ status = .FAILED

section Booking

variable {d : PayData} {b : Booking} {id tenantId paymentId refundId : String} {amount : Money}
  {paise : Int}

theorem leaves_syncPayment (hfind : d.bookings.find id = some b)
    (hstatus : b.status = .PAYMENT_IN_PROGRESS) :
    payDb.Leaves (syncPayment id paymentId tenantId amount) d fun _ d' =>
      Moved Reconciled [id] d d' := by
  refine leaves_transaction fun tx => writes_bookingFind ?_
  rw [hfind]
  dsimp only
  rw [if_pos hstatus, hstatus]
  refine writes_bind (writes_ret (writes_dateNow ?_))
  refine writes_sure (fun o d a ws hexec => bookingUpdate_ok hexec) fun _ => ?_
  refine writes_sure (fun o d a ws hexec => (Prod.ext_iff.mp hexec).2.symm) fun _ => ?_
  refine writes_sure (fun o d a ws hexec => (Prod.ext_iff.mp hexec).2.symm) fun _ => ?_
  rw [← bind_ret (ask _ _)]
  refine writes_sure (fun o d a ws hexec => (Prod.ext_iff.mp hexec).2.symm) fun _ => writes_ret ?_
  exact moved_update hfind (Or.inl rfl) rfl

theorem leaves_failBooking (hfind : d.bookings.find id = some b)
    (hstatus : b.status = .PAYMENT_IN_PROGRESS) :
    payDb.Leaves (failBooking id) d fun _ d' => Moved Reconciled [id] d d' := by
  refine leaves_transaction fun tx => writes_bookingFind ?_
  rw [hfind]
  dsimp only
  rw [if_pos hstatus, hstatus]
  refine writes_bind (writes_ret ?_)
  refine writes_sure (fun o d a ws hexec => bookingUpdate_ok hexec) fun _ => ?_
  rw [← bind_ret (ask _ _)]
  refine writes_sure (fun o d a ws hexec => (Prod.ext_iff.mp hexec).2.symm) fun _ => writes_ret ?_
  exact moved_update hfind (Or.inr rfl) rfl

theorem leaves_reconcileBooking {razorpayOrderId : Option String}
    (hfind : d.bookings.find id = some b) (hstatus : b.status = .PAYMENT_IN_PROGRESS) :
    payDb.Leaves (reconcileBooking id razorpayOrderId tenantId amount) d fun _ d' =>
      Moved Reconciled [id] d d' := by
  unfold reconcileBooking
  split
  · exact leaves_bookingUpdate (moved_update hfind (Or.inr rfl) rfl)
  · refine leaves_bind (leaves_attempt (leaves_read (fun _ => rfl) fun o payments _ => ?_))
    dsimp only
    split
    · exact leaves_failBooking hfind hstatus
    · refine leaves_bind (leaves_read (fun _ => rfl) fun o ledger _ => ?_)
      split
      · exact leaves_bookingUpdate (moved_update hfind (Or.inl rfl) rfl)
      · exact leaves_syncPayment hfind hstatus

theorem leaves_recordRefund (hfind : d.bookings.find id = some b)
    (hstatus : b.status = .REFUND_INITIATED) :
    payDb.Leaves (recordRefund id paymentId tenantId paise refundId) d fun _ d' =>
      Moved (· = .REFUNDED) [id] d d' := by
  refine leaves_transaction fun tx => writes_bookingFind ?_
  rw [hfind, markRefunded, if_pos hstatus, hstatus]
  refine writes_bind (writes_bind (writes_ret (writes_dateNow (writes_dateNow ?_))))
  rw [← bind_ret (ask _ _)]
  refine writes_sure (fun o d a ws hexec => bookingUpdate_ok hexec) fun _ => writes_ret ?_
  rw [← bind_ret (ask _ _)]
  refine writes_sure (fun o d a ws hexec => (Prod.ext_iff.mp hexec).2.symm) fun _ => writes_ret ?_
  exact moved_update hfind rfl rfl

theorem leaves_processRefund {retryCount : Nat} (hfind : d.bookings.find id = some b)
    (hstatus : b.status = .REFUND_INITIATED) (htenant : truthy? b.tenantId = some tenantId)
    (hpayment : truthy? b.razorpayPaymentId = some paymentId) :
    payDb.Leaves (processRefund id tenantId retryCount) d fun _ d' =>
      Moved (· = .REFUNDED) [id] d d' := by
  have htarget : refundTarget (some b) tenantId = some (b, paymentId) := by
    have htenant : b.tenantId = some tenantId := (Option.filter_eq_some_iff.mp htenant).1
    simp [refundTarget, hpayment, htenant, hstatus, guard]
  refine leaves_bind (leaves_read (fun _ => rfl) fun o found hfound => ?_)
  obtain rfl : d.bookings.find id = found := Except.ok.inj hfound
  rw [hfind, htarget]
  refine leaves_bind (leaves_attempt (leaves_query fun o refundId ws hexec => ?_))
  obtain ⟨-, hws⟩ := Prod.ext_iff.mp hexec
  obtain rfl : [_] = ws := hws
  have hfind' : (payDb.applyAll [.refund ⟨o.fresh, paymentId, refundInPaise b, b.id⟩] d).bookings.find id
      = some b := hfind
  refine leaves_bind (leaves_attempt ((leaves_recordRefund hfind' hstatus).mono fun _ d' hd' => ?_))
  exact leaves_ret (hd'.congr rfl)

end Booking

/-! ## The sweeps -/

section Sweeps

variable {S : BookingStatus → Prop} {d : PayData}

/-- A loop over bookings each of whose rounds moves its own. -/
theorem leaves_moves {f : Booking → PayM Unit} {l : List Booking} (hids : (l.map (·.id)).Nodup)
    (hl : ∀ b ∈ l, b ∈ d.bookings.rows)
    (hf : ∀ b ∈ l, ∀ d', d'.bookings.find b.id = some b →
      payDb.Leaves (f b) d' fun _ d'' => Moved S [b.id] d' d'') :
    payDb.Leaves (l.mapM f) d fun _ d' => Moved S (l.map (·.id)) d d' := by
  refine leaves_mapM (I := fun (done : List Booking) _ d' => Moved S (done.map (·.id)) d d') ?_
    (moved_nil rfl)
  rintro done b rest _ d' rfl hd'
  have hmem : b ∈ done ++ b :: rest := List.mem_append_right _ (List.mem_cons_self ..)
  have hnew : b.id ∉ done.map (·.id) := by
    rw [List.map_append, List.map_cons, List.nodup_append] at hids
    exact fun hdone => hids.2.2 _ hdone _ (List.mem_cons_self ..) rfl
  refine (hf b hmem d' ?_).mono fun _ d'' hd'' => ?_
  · rw [hd'.others b.id hnew]
    exact BookingTable.find_of_mem (hl b hmem)
  · rw [List.map_append]
    exact hd'.trans_one hd''

theorem perm_oldest (ns : List Nat) {p : Booking → Bool}
    (h : (d.bookings.rows.filter p).length ≤ 50) :
    (d.bookings.oldest ns p).Perm (d.bookings.rows.filter p) := by
  have hperm := (List.perm_insertionSort (fun b b' : Booking => b.createdAt ≤ b'.createdAt) _).trans
    (shuffle_perm ns (d.bookings.rows.filter p))
  rw [BookingTable.oldest, List.take_of_length_le (by rw [hperm.length_eq]; exact h)]
  exact hperm

theorem nodup_ids_filter (p : Booking → Bool) : ((d.bookings.rows.filter p).map (·.id)).Nodup :=
  d.bookings.ids.sublist (List.filter_sublist.map _)

/-- Every pending refund has what `processRefund` asks for. -/
def Payable (d : PayData) : Prop :=
  ∀ b ∈ d.pendingRefunds, (truthy? b.tenantId).isSome ∧ (truthy? b.razorpayPaymentId).isSome

theorem leaves_sweepPendingRefunds (hlength : d.pendingRefunds.length ≤ 50) (hpayable : Payable d) :
    payDb.Leaves sweepPendingRefunds d fun _ d' =>
      Moved (· = .REFUNDED) (d.pendingRefunds.map (·.id)) d d' := by
  refine leaves_bind (leaves_read (fun _ => rfl) fun o found hfound => ?_)
  obtain rfl : d.bookings.oldest o.order (·.status == .REFUND_INITIATED) = found :=
    Except.ok.inj hfound
  have hperm := perm_oldest o.order hlength
  refine leaves_bind ((leaves_moves (S := (· = .REFUNDED)) (d := d) ?_ (fun b hb => ?_) fun b hb d' hfind =>
    ?_).mono fun _ d' hd' => ?_)
  · exact (hperm.map _).nodup_iff.mpr (nodup_ids_filter _)
  · exact (List.mem_filter.mp (hperm.subset hb)).1
  · have hstatus : b.status = .REFUND_INITIATED := by
      simpa using (List.mem_filter.mp (hperm.subset hb)).2
    obtain ⟨htenant, hpayment⟩ := hpayable b (hperm.subset hb)
    obtain ⟨tenantId, htenant⟩ := Option.isSome_iff_exists.mp htenant
    obtain ⟨paymentId, hpayment⟩ := Option.isSome_iff_exists.mp hpayment
    rw [forTenant, htenant]
    exact leaves_bind (leaves_attempt ((leaves_processRefund hfind hstatus htenant hpayment).mono
      fun _ _ h => leaves_ret h))
  · exact leaves_ret ⟨fun id hid => hd'.moved id ((hperm.map _).mem_iff.mpr hid),
      fun id hid => hd'.others id fun hmem => hid ((hperm.map _).mem_iff.mp hmem)⟩

theorem Moved.pendingRefunds {ids : List String} {d₁ : PayData} (h : Moved Reconciled ids d d₁)
    {b : Booking} (hb : b ∈ d₁.pendingRefunds) : b ∈ d.pendingRefunds := by
  obtain ⟨hrow, hstatus⟩ := List.mem_filter.mp hb
  refine List.mem_filter.mpr ⟨?_, hstatus⟩
  have hfind := BookingTable.find_of_mem hrow
  by_cases hid : b.id ∈ ids
  · obtain ⟨b', hb', hkind⟩ := h.moved b.id hid
    obtain rfl := Option.some.inj (hfind.symm.trans hb')
    rw [beq_iff_eq] at hstatus
    rw [hstatus] at hkind
    rcases hkind with hkind | hkind <;> cases hkind
  · exact (BookingTable.mem_of_find ((h.others b.id hid).symm.trans hfind)).1

theorem Moved.length_pendingRefunds {ids : List String} {d₁ : PayData} (h : Moved Reconciled ids d d₁) :
    d₁.pendingRefunds.length ≤ d.pendingRefunds.length :=
  (List.subperm_of_subset (List.Nodup.of_map _ (nodup_ids_filter _)) fun _ hb =>
    h.pendingRefunds hb).length_le

/-- Both sweeps in their order, each of them with the bookings it found: the stale ones are
reconciled, and the refunds that are pending then are made. -/
def Swept (d d' : PayData) : Prop :=
  ∃ d₁, Moved Reconciled (d.due.map (·.id)) d d₁ ∧
    Moved (· = .REFUNDED) (d₁.pendingRefunds.map (·.id)) d₁ d'

theorem leaves_reconcileStale (hdue : d.due.length ≤ 50) (hrefunds : d.pendingRefunds.length ≤ 50)
    (htenant : ∀ b ∈ d.due, (truthy? b.tenantId).isSome) (hpayable : Payable d) :
    payDb.Leaves reconcileStale d fun _ d' =>
      (d.due = [] → d'.bookings = d.bookings) ∧ (d.due ≠ [] → Swept d d') := by
  refine leaves_bind (leaves_read (fun _ => rfl) fun o now hnow => ?_)
  obtain rfl : d.clock = now := Except.ok.inj hnow
  refine leaves_bind (leaves_read (fun _ => rfl) fun o found hfound => ?_)
  obtain rfl : d.bookings.oldest o.order (fun b => b.status == .PAYMENT_IN_PROGRESS &&
    decide (b.createdAt < d.clock - 10 * 60 * 1000)) = found := Except.ok.inj hfound
  have hperm := perm_oldest o.order hdue
  have hnil : d.bookings.oldest o.order (fun b => b.status == .PAYMENT_IN_PROGRESS &&
      decide (b.createdAt < d.clock - 10 * 60 * 1000)) = [] ↔ d.due = [] := by
    rw [← List.length_eq_zero_iff, hperm.length_eq, List.length_eq_zero_iff]
    rfl
  by_cases hnone : d.due = []
  · rw [if_pos (hnil.mpr hnone)]
    exact leaves_ret ⟨fun _ => rfl, fun h => absurd hnone h⟩
  rw [if_neg (mt hnil.mp hnone)]
  refine leaves_bind ((leaves_moves (S := Reconciled) (d := d) ?_ (fun b hb => ?_) fun b hb d' hfind =>
    ?_).mono fun _ d₁ hd₁ => ?_)
  · exact (hperm.map _).nodup_iff.mpr (nodup_ids_filter _)
  · exact (List.mem_filter.mp (hperm.subset hb)).1
  · have hstatus : b.status = .PAYMENT_IN_PROGRESS := by
      have hstale := (List.mem_filter.mp (hperm.subset hb)).2
      rw [Bool.and_eq_true, beq_iff_eq] at hstale
      exact hstale.1
    obtain ⟨tenantId, htenant⟩ := Option.isSome_iff_exists.mp (htenant b (hperm.subset hb))
    rw [forTenant, htenant]
    exact leaves_bind (leaves_attempt ((leaves_reconcileBooking hfind hstatus).mono
      fun _ _ h => leaves_ret h))
  · have hfirst : Moved Reconciled (d.due.map (·.id)) d d₁ :=
      ⟨fun id hid => hd₁.moved id ((hperm.map _).mem_iff.mpr hid),
        fun id hid => hd₁.others id fun hmem => hid ((hperm.map _).mem_iff.mp hmem)⟩
    refine (leaves_sweepPendingRefunds (hfirst.length_pendingRefunds.trans hrefunds)
      fun b hb => hpayable b (hfirst.pendingRefunds hb)).mono fun _ d' hd' => ?_
    exact ⟨fun h => absurd h hnone, fun _ => ⟨d₁, hfirst, hd'⟩⟩

theorem cleared_of_swept {d' : PayData} (h : Swept d d') : Cleared d d' := by
  obtain ⟨d₁, hfirst, hsecond⟩ := h
  constructor
  · intro b hb b' hb' hid hstatus
    have hfind := BookingTable.find_of_mem hb'
    by_cases hrefund : b'.id ∈ d₁.pendingRefunds.map (·.id)
    · obtain ⟨b₂, hb₂, hkind⟩ := hsecond.moved _ hrefund
      obtain rfl := Option.some.inj (hfind.symm.trans hb₂)
      rw [hstatus] at hkind
      cases hkind
    · obtain ⟨b₁, hb₁, hkind⟩ := hfirst.moved b'.id (hid ▸ List.mem_map_of_mem hb)
      obtain rfl := Option.some.inj (hfind.symm.trans ((hsecond.others _ hrefund).trans hb₁))
      rw [hstatus] at hkind
      rcases hkind with hkind | hkind <;> cases hkind
  · refine List.filter_eq_nil_iff.mpr fun b hb hstatus => ?_
    have hfind := BookingTable.find_of_mem hb
    by_cases hrefund : b.id ∈ d₁.pendingRefunds.map (·.id)
    · obtain ⟨b₂, hb₂, hkind⟩ := hsecond.moved _ hrefund
      obtain rfl := Option.some.inj (hfind.symm.trans hb₂)
      rw [beq_iff_eq] at hstatus
      rw [hstatus] at hkind
      cases hkind
    · have hb₁ := (hsecond.others _ hrefund).symm.trans hfind
      exact hrefund (List.mem_map_of_mem (List.mem_filter.mpr ⟨(BookingTable.mem_of_find hb₁).1,
        hstatus⟩))

theorem cleared_of_same {d' : PayData} (hdue : d.due = []) (h : d'.bookings = d.bookings) :
    Cleared d d' ↔ d.pendingRefunds = [] := by
  have hrefunds : d'.pendingRefunds = d.pendingRefunds := by rw [PayData.pendingRefunds, h]; rfl
  constructor
  · exact fun hcleared => hrefunds.symm.trans hcleared.refunds
  · exact fun hnone => ⟨fun b hb => absurd (hdue ▸ hb) List.not_mem_nil, hrefunds.trans hnone⟩

theorem leaves_handleReconciliation {process : String} (hfree : process ∉ d.reconciling)
    (hdue : d.due.length ≤ 50) (hrefunds : d.pendingRefunds.length ≤ 50)
    (htenant : ∀ b ∈ d.due, (truthy? b.tenantId).isSome) (hpayable : Payable d) :
    payDb.Leaves (handleReconciliation process) d fun _ d' =>
      (Cleared d d' ↔ d.due ≠ [] ∨ d.pendingRefunds = []) := by
  refine leaves_bind (leaves_query fun o entered ws hexec => ?_)
  change PayStmt.exec o d (.enterSweep process) = _ at hexec
  simp only [PayStmt.exec, List.contains_iff_mem, hfree, if_false] at hexec
  obtain ⟨hentered, hws⟩ := Prod.ext_iff.mp hexec
  obtain rfl : true = entered := Except.ok.inj hentered
  obtain rfl : [_] = ws := hws
  rw [if_pos rfl]
  refine leaves_bind (leaves_attempt ((leaves_reconcileStale (d := { d with
    reconciling := process :: d.reconciling }) hdue hrefunds htenant hpayable).mono fun _ d₁ hd₁ => ?_))
  refine leaves_query fun o _ ws hexec => ?_
  obtain rfl : [.reconciling (d₁.reconciling.filter (· != process))] = ws := (Prod.ext_iff.mp hexec).2
  by_cases hnone : d.due = []
  · have hsame : (payDb.applyAll [.reconciling (d₁.reconciling.filter (· != process))] d₁).bookings
        = d.bookings := hd₁.1 hnone
    exact (cleared_of_same hnone hsame).trans (or_iff_right (not_not_intro hnone)).symm
  · have hcleared := cleared_of_swept (hd₁.2 hnone)
    exact iff_of_true ⟨hcleared.due, hcleared.refunds⟩ (Or.inl hnone)

end Sweeps

/-! ## A run -/

/-- **Reconciliation**: a run that nothing disturbs, over no more bookings than
it reads, settles everything that is due if and only if some booking is stale
when it starts, or no refund is pending. -/
theorem cleared_iff (process : String) (d : PayData) (os : Nat → PayOracle)
    (hfree : process ∉ d.reconciling) (hdue : d.due.length ≤ 50)
    (hrefunds : d.pendingRefunds.length ≤ 50) (htenant : ∀ b ∈ d.due, (truthy? b.tenantId).isSome)
    (hpayable : Payable d)
    (hanswered : (handleReconciliation process).answered payDb.machine payDb.succeeds os 0
      (Store.idle d) = true) :
    Cleared d ((handleReconciliation process).run payDb.machine os 0 (Store.idle d)).state.data ↔
      d.due ≠ [] ∨ d.pendingRefunds = [] := by
  obtain ⟨-, -, -, h⟩ := (leaves_handleReconciliation hfree hdue hrefunds htenant hpayable
    (Store.idle d) rfl rfl).run hanswered
  exact h

namespace Sample

/-- A booking without a payment that is in progress for too long, and a refund
that is pending. -/
def dueData : PayData where
  clock := 700000
  bookings := ⟨[booking .PAYMENT_IN_PROGRESS,
    { booking .REFUND_INITIATED with id := "b2", razorpayOrderId := some "order_2",
                                     razorpayPaymentId := some "pay_2" }], by decide⟩

def refundData : PayData :=
  data { booking .REFUND_INITIATED with razorpayPaymentId := some "pay_2" }

end Sample

theorem cleared_dueData :
    Cleared Sample.dueData ((handleReconciliation "p1").run payDb.machine Sample.oracles 0
      (Store.idle Sample.dueData)).state.data ↔
      Sample.dueData.due ≠ [] ∨ Sample.dueData.pendingRefunds = [] :=
  cleared_iff "p1" Sample.dueData Sample.oracles (by decide) (by decide) (by decide) (by decide)
    (by unfold Payable; decide) (by decide +kernel)

/-- Nothing is stale, and the pending refund is not looked at. -/
theorem not_cleared_refundData :
    ¬ ∀ (process : String) (d : PayData) (os : Nat → PayOracle), process ∉ d.reconciling →
      d.due.length ≤ 50 → d.pendingRefunds.length ≤ 50 →
      (∀ b ∈ d.due, (truthy? b.tenantId).isSome) → Payable d →
      (handleReconciliation process).answered payDb.machine payDb.succeeds os 0 (Store.idle d) = true →
      Cleared d ((handleReconciliation process).run payDb.machine os 0 (Store.idle d)).state.data := by
  intro h
  have hcleared := h "p1" Sample.refundData Sample.oracles (by decide) (by decide) (by decide)
    (by decide) (by unfold Payable; decide) (by decide +kernel)
  have hrefunds := congrArg List.length hcleared.refunds
  revert hrefunds
  decide +kernel

end Omnipax.Payments
