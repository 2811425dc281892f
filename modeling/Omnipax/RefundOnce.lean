import Omnipax.Conc.Undisturbed
import Omnipax.StatusEntries

/-!
# One refund for a booking

`processRefund` reads that a refund is pending, asks Razorpay for it, and then
enters it in the ledger, in one transaction with the status of the booking. So
a refund that is in the ledger is not pending any more, and nothing in the
services of refunds makes it pending again. A request that finds the refund
still pending, and the ledger complete, is the first. The other two kinds of
requests are what goes wrong: the one that relies on an old read, and the one
after a refund whose entry was lost.
-/

namespace Omnipax.Payments

open Conc Prog Database

/-! ## Refunds and their entries -/

/-- How many refunds Razorpay has accepted for the booking, whether or not the answers have
arrived. -/
def refundsFor (id : String) (d : PayData) : Nat := d.razorpay.refunds.countP (·.bookingId == id)

/-- The entry of a refund of the booking. -/
def LedgerEntry.refunds (id : String) (e : LedgerEntry) : Bool := e.bookingId == id && e.type == .REFUND

def refundRows (id : String) (d : PayData) : Nat := d.paymentLedger.countP (·.refunds id)

/-- The refund of the booking is pending. -/
def Pends (id : String) (d : PayData) : Prop := d.statusOf id = some .REFUND_INITIATED

instance (id : String) (d : PayData) : Decidable (Pends id d) :=
  inferInstanceAs (Decidable (_ = _))

def pending (b : BookingStatus) : Bool := b == .REFUND_INITIATED

section Writes

variable {id : String} {w : PayWrite} {ws : List PayWrite} {d : PayData} {q : PayStmt} {o : PayOracle}

theorem pends_iff : Pends id d ↔ InStatus pending id d := by
  rw [Pends, InStatus]
  cases d.statusOf id <;> simp [pending]

/-- Writes that make no refund pending leave none pending where there is none,
or where they give the booking a status. -/
theorem not_pends_applyAll (hws : ∀ w ∈ ws, ∀ b, w.setsStatus id = some b → pending b = false)
    (h : ¬Pends id d ∨ ∃ w ∈ ws, (w.setsStatus id).isSome = true) :
    ¬Pends id (payDb.applyAll ws d) := by
  rw [pends_iff] at h ⊢
  exact not_inStatus_applyAll hws h

theorem refundRows_applyAll (h : ∀ w ∈ ws, ∀ e ∈ w.ledgerRow?, e.refunds id = false) :
    refundRows id (payDb.applyAll ws d) = refundRows id d := by
  refine applyAll_of_forall (I := fun d' : PayData => refundRows id d' = refundRows id d)
    (fun w hw d' hd' => ?_) rfl
  rw [refundRows, ledger_apply, List.countP_append, ← hd', refundRows, Nat.add_eq_left,
    List.countP_eq_zero]
  exact fun e he => by rw [h w hw e (Option.mem_toList.mp he)]; nofun

theorem refundsFor_applyAll (h : ∀ w ∈ ws, ∀ r ∈ w.refund?, r.bookingId ≠ id) :
    refundsFor id (payDb.applyAll ws d) = refundsFor id d := by
  refine applyAll_of_forall (I := fun d' : PayData => refundsFor id d' = refundsFor id d)
    (fun w hw d' hd' => ?_) rfl
  rw [refundsFor, refunds_apply, List.countP_append, ← hd', refundsFor, Nat.add_eq_left,
    List.countP_eq_zero]
  exact fun r hr => by simpa using h w hw r (Option.mem_toList.mp hr)

theorem refundRows_le (ws : List PayWrite) (d : PayData) :
    refundRows id d ≤ refundRows id (payDb.applyAll ws d) := by
  rw [refundRows, refundRows, ledger_applyAll, List.countP_append]
  exact Nat.le_add_right ..

theorem refundsFor_request (paymentId : String) (amount : Int) (bookingId : String) :
    refundsFor id (payDb.applyAll (payDb.exec (.paymentsRefund paymentId amount bookingId) o d).2 d)
      = refundsFor id d + if bookingId = id then 1 else 0 := by
  show List.countP _ (d.razorpay.refunds ++ [_]) = _
  rw [List.countP_append, List.countP_singleton]
  simp [refundsFor]

theorem refund_none_of_exec (hq : q.refundAmount? = none) (hw : w ∈ (payDb.exec q o d).2) :
    w.refund? = none := by
  cases hr : w.refund? with
  | none => rfl
  | some r =>
      have := refund_exec hw hr
      rw [hq] at this
      cases this

end Writes

/-! ## The calls -/

/-- Sweeps of pending refunds, other calls of `processRefund`, and the events of
refunds. -/
def PayOp.refunds : PayOp → Bool
  | .sweepPendingRefunds => true
  | .processRefund .. => true
  | .handleWebhook r => r.body.event == "refund.processed" || r.body.event == "refund.failed"
  | _ => false

/-- PostgreSQL, and the services of refunds. -/
def refundServices : Discipline payDb.sig PayStore PayOracle PayOp where
  starts op := op.refunds = true
  allows _ _ c o s := payDb.waits c o s.world = false

/-- A request for a refund finds it still pending, and every refund since `d₀`
in the ledger. -/
def PayStmt.findsPending (id : String) (d₀ d : PayData) : PayStmt → Prop
  | .paymentsRefund _ _ bookingId => bookingId = id → Pends id d ∧
      (refundsFor id d₀ < refundsFor id d → refundRows id d₀ < refundRows id d)
  | _ => True

/-- The services of refunds, with requests that find the booking so when they get to
Razorpay: neither an old read nor a refund that was accepted and not recorded. -/
def recordedRefunds (id : String) (d₀ : PayData) : Discipline payDb.sig PayStore PayOracle PayOp where
  starts op := op.refunds = true
  allows _ _ c o s := payDb.waits c o s.world = false ∧
    match c with
    | .stmt _ q => o.loss ≠ some .request → q.findsPending id d₀ s.world.data
    | _ => True

/-- What an open transaction has written, on data `d`: the entry of a refund
together with the status it leaves. -/
structure Recording (id : String) (ws : List PayWrite) (d : PayData) : Prop where
  leaves : ∀ w ∈ ws, ∀ b, w.setsStatus id = some b → pending b = false
  unasked : ∀ w ∈ ws, w.refund? = none
  rows : ∀ w ∈ ws, ∀ e ∈ w.ledgerRow?, e.refunds id = true →
    ¬Pends id d ∨ ∃ w ∈ ws, (w.setsStatus id).isSome = true

/-- The invariant: once a refund is in the ledger the booking is not pending any more,
Razorpay has accepted one at most, and what open transactions have written keeps it so. -/
structure RefundedOnce (id : String) (d₀ : PayData) (s : PaySnap) : Prop where
  store : payDb.StoreOk s.world
  openers : Openers s
  recorded : refundRows id d₀ < refundRows id s.world.data → ¬Pends id s.world.data
  once : refundsFor id s.world.data ≤ refundsFor id d₀ + 1
  recording : ∀ ss ∈ s.world.sessions, Recording id ss.writes s.world.data

/-- The entries are made in transactions, which have left the pending status, or
have found it left. -/
def RefundPre (id : String) (i : Nat) (c : TxCmd PayStmt) (s : PaySnap) : Prop :=
  Own i c s ∧
    match c with
    | .stmt none q => q.gives pending = false ∧ q.ledgerRows = []
    | .stmt (some tx) q => q.gives pending = false ∧ q.refundAmount? = none ∧
        ∀ e ∈ q.ledgerRows, e.refunds id = true → ¬Pends id s.world.data ∨
          ∀ ss, s.world.session? tx = some ss → ∃ w ∈ ss.writes, (w.setsStatus id).isSome = true
    | _ => True

def refundOutline (id : String) (d₀ : PayData) : PayOutline where
  toDiscipline := recordedRefunds id d₀
  inv := RefundedOnce id d₀
  pre i _ c s := RefundPre id i c s

/-! ## A step -/

section Step

variable {P : PayPlatform} {id : String} {d₀ d : PayData} {ws : List PayWrite} {s : PaySnap} {i : Nat}
  {op : PayOp} {c : TxCmd PayStmt} {o : PayOracle}

theorem recording_nil : Recording id [] d where
  leaves _ h := absurd h List.not_mem_nil
  unasked _ h := absurd h List.not_mem_nil
  rows _ h := absurd h List.not_mem_nil

theorem Recording.stmt {q : PayStmt} {d' : PayData} (h : Recording id ws d)
    (hq : q.gives pending = false) (hasks : q.refundAmount? = none)
    (hrows : ∀ e ∈ q.ledgerRows, e.refunds id = true →
      ¬Pends id d ∨ ∃ w ∈ ws, (w.setsStatus id).isSome = true) :
    Recording id (ws ++ (payDb.exec q o d').2) d where
  leaves w hw := (List.mem_append.mp hw).elim (h.leaves w) fun hw b => status_of_exec hq hw
  unasked w hw := (List.mem_append.mp hw).elim (h.unasked w) (refund_none_of_exec hasks)
  rows w hw e he hid := by
    have hweak : (¬Pends id d ∨ ∃ w ∈ ws, (w.setsStatus id).isSome = true) → ¬Pends id d ∨
        ∃ w ∈ ws ++ (payDb.exec q o d').2, (w.setsStatus id).isSome = true :=
      Or.imp_right fun hset => hset.imp fun _ h => h.imp_left (List.mem_append_left _)
    rcases List.mem_append.mp hw with hw | hw
    · exact hweak (h.rows w hw e he hid)
    · exact hweak (hrows e (ledgerRow_exec hw he) hid)

/-- The data after a command: it makes no refund pending, and a new entry comes
with a status. -/
theorem refund_data (h : RefundedOnce id d₀ s) (hpre : RefundPre id i c s)
    (hallows : (recordedRefunds id d₀).allows i op c o s) :
    (¬Pends id s.world.data → ¬Pends id (payDb.step c o s.world).2.data) ∧
      (refundRows id d₀ < refundRows id (payDb.step c o s.world).2.data →
        ¬Pends id (payDb.step c o s.world).2.data) ∧
      refundsFor id (payDb.step c o s.world).2.data ≤ refundsFor id d₀ + 1 := by
  rcases step_data payDb c o s.world with hd | ⟨q, rfl, hsent, hd⟩ | ⟨ss, rfl, hss, -, hd⟩ <;> rw [hd]
  · exact ⟨fun hp => hp, h.recorded, h.once⟩
  · obtain ⟨hq, hrows⟩ : q.gives pending = false ∧ q.ledgerRows = [] := hpre.2
    have hleaves : ∀ w ∈ (payDb.exec q o s.world.data).2, ∀ b, w.setsStatus id = some b →
        pending b = false := fun w hw b => status_of_exec hq hw
    have hkeeps : ¬Pends id s.world.data →
        ¬Pends id (payDb.applyAll (payDb.exec q o s.world.data).2 s.world.data) :=
      fun hp => not_pends_applyAll hleaves (Or.inl hp)
    refine ⟨hkeeps, fun hlt => ?_, ?_⟩
    · refine hkeeps (h.recorded ?_)
      rwa [refundRows_applyAll fun w hw e he => ?_] at hlt
      have hmem := ledgerRow_exec hw he
      rw [hrows] at hmem
      cases hmem
    · show refundsFor id (payDb.applyAll (payDb.exec q o s.world.data).2 s.world.data) ≤ _
      by_cases hasks : q.refundAmount? = none
      · rw [refundsFor_applyAll fun w hw => by rw [refund_none_of_exec hasks hw]; exact nofun]
        exact h.once
      · cases q with
        | paymentsRefund paymentId amount bookingId =>
            rw [refundsFor_request]
            split
            · rename_i hid
              have hgot : o.loss ≠ some .request := by simpa [payDb, PayStmt.inProcess] using hsent
              obtain ⟨hpends, hcomplete⟩ := hallows.2 hgot hid
              -- a refund accepted before would be in the ledger, and not pending
              have hfirst : ¬refundsFor id d₀ < refundsFor id s.world.data :=
                fun hlt => h.recorded (hcomplete hlt) hpends
              omega
            · exact h.once
        | _ => exact absurd rfl hasks
  · have hrec := h.recording ss hss
    refine ⟨fun hp => not_pends_applyAll hrec.leaves (Or.inl hp), fun hlt => ?_, ?_⟩
    · by_cases hnew : ∃ w ∈ ss.writes, ∃ e ∈ w.ledgerRow?, e.refunds id = true
      · obtain ⟨w, hw, e, he, hid⟩ := hnew
        exact not_pends_applyAll hrec.leaves (hrec.rows w hw e he hid)
      · refine not_pends_applyAll hrec.leaves (Or.inl (h.recorded ?_))
        rwa [refundRows_applyAll fun w hw e he => ?_] at hlt
        exact Bool.eq_false_iff.mpr fun hid => hnew ⟨w, hw, e, he, hid⟩
    · rw [refundsFor_applyAll fun w hw => by rw [hrec.unasked w hw]; exact nofun]
      exact h.once

/-- **Step**: a command that meets its assertion keeps the booking from a second
refund. -/
theorem refundedOnce_exec (h : RefundedOnce id d₀ s) (hpre : RefundPre id i c s)
    (hallows : (recordedRefunds id d₀).allows i op c o s) :
    RefundedOnce id d₀ (s.exec (payments P) i op c o) := by
  obtain ⟨hleft, hrecorded, honce⟩ := refund_data h hpre hallows
  refine ⟨storeOk_step h.store hallows.1, openers_exec h.openers .., hrecorded, honce, fun ss hss => ?_⟩
  have hkept : ∀ ss₀ ∈ s.world.sessions,
      Recording id ss₀.writes (s.exec (payments P) i op c o).world.data := fun ss₀ hss₀ =>
    have hrec := h.recording ss₀ hss₀
    ⟨hrec.leaves, hrec.unasked, fun w hw e he hid => (hrec.rows w hw e he hid).imp_left hleft⟩
  rcases session_of_step hss with hnil | ⟨ss₀, hss₀, hid, hsame | ⟨q, rfl, -, happ⟩⟩
  · rw [hnil]
    exact recording_nil
  · rw [hsame]
    exact hkept ss₀ hss₀
  · obtain ⟨hq, hasks, hrows⟩ : q.gives pending = false ∧ q.refundAmount? = none ∧ _ := hpre.2
    have hss₀' : s.world.session? ss.id = some ss₀ := hid ▸ session?_of_mem h.store hss₀
    rw [happ, wants, hss₀']
    dsimp only
    split
    · rw [List.append_nil]
      exact hkept ss₀ hss₀
    · exact (hkept ss₀ hss₀).stmt hq hasks fun e he hid =>
        (hrows e he hid).imp hleft fun hset => hset ss₀ hss₀'

end Step

/-! ## The calls -/

section Calls

variable {P : PayPlatform} {id bookingId tenantId : String} {d₀ : PayData} {i tx : Nat} {op : PayOp}
  {s : PaySnap} {α β : Type}

theorem tracks_refunds : Tracks (refundOutline id d₀) where
  store h := h.store
  openers h := h.openers
  own h := h.1
  waits h := h.1

theorem addsRefunds (P : PayPlatform) (id : String) (d₀ : PayData) :
    AddsRows PayMove.apply (PayOp.body P) (refundOutline id d₀) (· = id) pending fun _ => true where
  tracks := tracks_refunds
  left {i _} hid s s' hstep hs := by
    subst hid
    refine pends_iff.not.mp ?_
    have hleft := pends_iff.not.mpr hs
    cases hstep with
    | env e _ =>
        cases e with
        | data m => cases m <;> exact hleft
        | abort tx => exact hleft
    | other _ _ hinv hpre hallows => exact (refund_data hinv hpre hallows).1 hleft
  start := ⟨nofun, trivial⟩
  commit ho := ⟨ho.own rfl, trivial⟩
  rollback ho := ⟨ho.own rfl, trivial⟩
  plain {_ _ t q _} hown hq hrows hasks := by
    have hnil : q.ledgerRows = [] := (List.filter_eq_self.mpr fun _ _ => rfl).symm.trans hrows
    cases t with
    | none => exact ⟨hown, hq, hnil⟩
    | some tx => exact ⟨hown, hq, hasks, by rw [hnil]; exact nofun⟩
  row {_ _ _ _ _ _} hs hrows _ := by
    refine ⟨hs.1.1.own rfl, rfl, rfl, fun e he hid => ?_⟩
    rw [LedgerEntry.refunds, Bool.and_eq_true, beq_iff_eq] at hid
    obtain rfl : _ = id := (hrows e he).symm.trans hid.1
    exact (hs.2 rfl).imp pends_iff.not.mpr fun hin => hin.2

/-! ### The transactions -/

section Rows

variable {η : Type} {move : η → PayData → PayData} {body : PayOp → PayM PayAnswer} {O : PayOutline}
  {watched : String → Prop}

theorem fine_recordRefund (h : AddsRows move body O watched pending fun _ => true)
    {paymentId refundId : String} {amount : Int} :
    Fine move body O i op (recordRefund bookingId paymentId tenantId amount refundId) s := by
  refine h.transaction fun tx s _ hs => ?_
  have hrow : ∀ s, MayAdd watched pending (fun _ => true) bookingId i tx s →
      EntryBody move body O i tx op (ask (some tx) (.ledgerCreateMany
        [refundEntry bookingId amount (stringOr (some refundId) paymentId) .SUCCESS tenantId])) s := by
    intro s hs
    rw [← bind_ret (ask (some tx) _)]
    exact h.add hs (by simp [refundEntry]) (Nat.le_refl 1) fun s hs => entryBody_ret hs
  refine h.find hs hrow fun latestBk s hs hleft => ?_
  by_cases hstatus : latestBk.status = .REFUND_INITIATED
  · rw [markRefunded, if_pos hstatus, hstatus,
      show validateTransition .REFUND_INITIATED .REFUNDED = .ret () from rfl]
    simp only [ret_bind, bind_assoc]
    refine h.dateNow hs fun refundCompletedAt s hs => ?_
    refine h.dateNow hs fun refundedAt s hs => ?_
    exact h.status hs rfl rfl hrow
  · simp only [markRefunded, if_neg hstatus]
    exact hrow s (hleft (beq_eq_false_iff_ne.mpr hstatus))

theorem fine_handleRefundFailure (h : AddsRows move body O watched pending fun _ => true)
    {paymentId : String} {amount : Int} {retryCount : Nat} :
    Fine move body O i op (handleRefundFailure bookingId paymentId tenantId amount retryCount) s := by
  refine h.transaction fun tx s _ hs => ?_
  have hrow : ∀ s, MayAdd watched pending (fun _ => true) bookingId i tx s →
      EntryBody move body O i tx op (do
        ask (some tx) (.ledgerCreateMany [refundEntry bookingId amount paymentId .FAILED tenantId])
        ask (some tx) (.deadLetterCreate
          { type := "REFUND_API_FAILED", reason := .inr "External API Call Failed",
            bookingId := some bookingId, razorpayEventId := some paymentId, tenantId,
            retryCount := retryCount + 1 })) s := by
    intro s hs
    refine h.add hs (by simp [refundEntry]) (Nat.le_refl 1) fun s hs => ?_
    rw [← bind_ret (ask (some tx) _)]
    exact h.ask hs rfl rfl rfl fun _ s _ hs => entryBody_ret hs
  refine h.find hs hrow fun bk s hs hleft => ?_
  by_cases hstatus : bk.status = .REFUND_INITIATED
  · rw [markRefundFailed, if_pos hstatus, hstatus]
    exact h.status hs rfl rfl hrow
  · simp only [markRefundFailed, if_neg hstatus]
    exact hrow s (hleft (beq_eq_false_iff_ne.mpr hstatus))

end Rows

/-! ### The services -/

theorem pending_aside (h : AddsRows move body O watched pending fun _ => true) : LetsAside O i op :=
  h.letsAside fun b hb => by cases b <;> first | rfl | cases hb

theorem refunding_processRefund {retryCount : Nat} :
    Fine PayMove.apply (PayOp.body P) (refundOutline id d₀) i op
      (processRefund bookingId tenantId retryCount) s :=
  fine_processRefund (pending_aside (addsRefunds P id d₀)) (fun _ _ _ _ _ => ⟨nofun, rfl, rfl⟩)
    (fun _ _ _ _ => fine_recordRefund (addsRefunds P id d₀))
    fun _ _ _ => fine_handleRefundFailure (addsRefunds P id d₀)

theorem all_bookingOfRefund (refund : Option RefundEntity) : (bookingOfRefund refund).All Aside := by
  unfold bookingOfRefund
  split
  · trivial
  · exact all_aside rfl

theorem all_refundProcessed (refund : Option RefundEntity) : (refundProcessed refund).All Aside := by
  refine (all_bookingOfRefund refund).bind fun booking => ?_
  cases booking with
  | none => trivial
  | some booking =>
      dsimp only
      split
      · exact all_aside rfl
      · exact (all_aside rfl).bind fun _ => (all_aside rfl).bind fun _ => all_aside rfl

theorem all_refundFailed (refund : Option RefundEntity) : (refundFailed refund).All Aside := by
  refine (all_bookingOfRefund refund).bind fun booking => ?_
  cases booking with
  | none => trivial
  | some booking => exact (all_aside rfl).bind fun _ => all_aside rfl

theorem all_refundEvent {r : Delivery}
    (hevent : r.body.event = "refund.processed" ∨ r.body.event = "refund.failed") :
    (handleWebhook P r).All Aside := by
  unfold handleWebhook
  split
  · trivial
  · refine (all_throwIf ..).bind fun _ => ?_
    split
    · trivial
    · rename_i payment _
      refine all_resolveBookingId.bind fun bookingId => ?_
      cases bookingId with
      | none => trivial
      | some bookingId =>
          have hdispatch : (dispatch r payment bookingId).All Aside := by
            unfold dispatch
            rcases hevent with h | h
            · rw [if_neg (by rw [h]; decide), if_pos h]
              exact all_refundProcessed _
            · rw [if_neg (by rw [h]; decide), if_neg (by rw [h]; decide), if_pos h]
              exact all_refundFailed _
          exact hdispatch.bind fun _ => trivial

end Calls

/-! ## Runs -/

theorem refundOutline_valid (P : PayPlatform) (id : String) (d₀ : PayData) :
    Outline.Valid (payments P) (refundOutline id d₀) fun _ _ _ _ => True where
  inv_exec h _ _ _ _ _ hpre hallows := refundedOnce_exec h hpre hallows
  inv_env {s} h e := by
    have hstore : payDb.StoreOk (s.env (payments P) e).world := by
      rw [Snap.env_world]
      exact storeOk_env h.store e
    cases e with
    | data m =>
        cases m <;> exact ⟨hstore, openers_env h.openers _, h.recorded, h.once, fun ss hss =>
          have hrec := h.recording ss hss
          ⟨hrec.leaves, hrec.unasked, hrec.rows⟩⟩
    | abort tx =>
        exact ⟨hstore, openers_env h.openers _, h.recorded, h.once, fun ss hss =>
          h.recording ss (List.mem_filter.mp hss).1⟩
  body i op s hop hinv _ := by
    cases op with
    | sweepPendingRefunds =>
        exact wp_map _ (fine_sweepPendingRefunds (pending_aside (addsRefunds P id d₀))
          fun _ _ _ _ => refunding_processRefund)
    | processRefund bookingId tenantId retryCount => exact wp_map _ refunding_processRefund
    | handleWebhook r =>
        refine wp_map _ (fine_aside (pending_aside (addsRefunds P id d₀)) (all_refundEvent ?_))
        simpa [refundOutline, recordedRefunds, PayOp.refunds] using hop
    | createRazorpayOrder bookingId userId => cases hop
    | handleReconciliation process => cases hop

section Decidable

instance (op : PayOp) : Decidable (refundServices.starts op) :=
  inferInstanceAs (Decidable (op.refunds = true))

instance (i : Nat) (op : PayOp) (c : TxCmd PayStmt) (o : PayOracle) (s : PaySnap) :
    Decidable (refundServices.allows i op c o s) :=
  inferInstanceAs (Decidable (payDb.waits c o s.world = false))

instance (id : String) (d₀ : PayData) (op : PayOp) : Decidable ((recordedRefunds id d₀).starts op) :=
  inferInstanceAs (Decidable (op.refunds = true))

instance (id : String) (d₀ d : PayData) (q : PayStmt) : Decidable (q.findsPending id d₀ d) := by
  unfold PayStmt.findsPending
  split <;> infer_instance

instance (id : String) (d₀ : PayData) (i : Nat) (op : PayOp) (c : TxCmd PayStmt) (o : PayOracle)
    (s : PaySnap) : Decidable ((recordedRefunds id d₀).allows i op c o s) :=
  match c with
  | .stmt _ q => inferInstanceAs (Decidable (_ ∧ (_ → q.findsPending id d₀ s.world.data)))
  | .begin => inferInstanceAs (Decidable (_ ∧ True))
  | .commit _ => inferInstanceAs (Decidable (_ ∧ True))
  | .rollback _ => inferInstanceAs (Decidable (_ ∧ True))

end Decidable

/-- **One refund**: as long as every request that gets to Razorpay finds the
refund of the booking still pending, and all that Razorpay has accepted for it in
the ledger, Razorpay accepts one at most. -/
theorem refundedOnce_run (P : PayPlatform) (id : String) (d : PayData) (ls : List PayLabel)
    (hls : (recordedRefunds id d).admitsRun (payments P) (Config.idle (.idle d)) ls) :
    refundsFor id ((Config.idle (.idle d)).run (payments P) ls).world.data ≤ refundsFor id d + 1 := by
  have hidle : RefundedOnce id d ⟨.idle d, []⟩ :=
    ⟨⟨List.nodup_nil, nofun, nofun⟩, openers_idle _, fun h => absurd h (Nat.lt_irrefl _),
      Nat.le_succ _, fun _ h => absurd h List.not_mem_nil⟩
  exact (Outline.sound (refundOutline_valid P id d) (Outline.Good.idle hidle) hls).inv.once

namespace Sample

/-- A booking whose refund is pending. -/
def pendingData : PayData :=
  data { booking .REFUND_INITIATED with razorpayPaymentId := some "pay_1" }

/-- A refund that is recorded, and a sweep that finds nothing pending. -/
def refundThenSweep : List PayLabel :=
  .spawn (.processRefund "b1" "t1" 0) :: List.replicate 9 (.step 0 { fresh := "rfnd_1" }) ++
    [.spawn .sweepPendingRefunds, .step 1 {}]

/-- Razorpay has accepted the refund, and its entry is lost; then comes a
sweep. -/
def lostThenSweep : List PayLabel :=
  [.spawn (.processRefund "b1" "t1" 0), .step 0 {}, .step 0 { fresh := "rfnd_1" },
    .step 0 { loss := some .request }, .step 0 {}, .spawn .sweepPendingRefunds, .step 1 {},
    .step 1 {}, .step 1 { fresh := "rfnd_2" }]

end Sample

theorem refundedOnce_refundThenSweep :
    refundsFor "b1" ((Config.idle (.idle Sample.pendingData)).run (payments Sample.platform)
      Sample.refundThenSweep).world.data ≤ refundsFor "b1" Sample.pendingData + 1 :=
  refundedOnce_run Sample.platform "b1" Sample.pendingData Sample.refundThenSweep (by decide +kernel)

/-- A refund whose entry is lost is asked for again: the second request is as
good as the first to Razorpay. -/
theorem not_refundedOnce_lostThenSweep :
    ¬∀ (P : PayPlatform) (d : PayData) (ls : List PayLabel),
      refundServices.admitsRun (payments P) (Config.idle (.idle d)) ls →
        ∀ id, refundsFor id ((Config.idle (.idle d)).run (payments P) ls).world.data ≤
          refundsFor id d + 1 := fun h =>
  absurd (h Sample.platform Sample.pendingData Sample.lostThenSweep (by decide +kernel) "b1")
    (by decide +kernel)

/-! ## One call after another

A call reads its booking before it asks for the refund, and so does the sweep for
each booking of its list, which has none twice. That the refunds accepted before are
in the ledger is what a call starts with: no later one enters what was lost. -/

/-- Every refund since `d₀` is in the ledger. -/
def AllRecorded (id : String) (d₀ d : PayData) : Prop :=
  refundsFor id d₀ < refundsFor id d → refundRows id d₀ < refundRows id d

/-- The booking for which the statement asks for a refund. -/
def PayStmt.asksFor : PayStmt → Option String
  | .paymentsRefund _ _ bookingId => some bookingId
  | _ => none

/-- Refunds are asked for such bookings only, and in no transaction. -/
def Asks (A : String → Prop) : TxCmd PayStmt → Prop
  | .stmt none q => ∀ bookingId ∈ q.asksFor, A bookingId
  | .stmt (some _) q => q.refundAmount? = none
  | _ => True

/-- The refunds are recorded, and none is under way. -/
def Complete (id : String) (d₀ : PayData) (s : PayStore) : Prop :=
  AllRecorded id d₀ s.data ∧ WritesIn (fun w : PayWrite => w.refund? = none) s

/-- What `processRefund` does for a booking that has a refund to ask for. -/
def refundFound (bookingId tenantId : String) (retryCount : Nat) (booking : Booking)
    (paymentId : String) : PayM Bool := do
  let amountInPaise := refundInPaise booking
  match ← (ask none (.paymentsRefund paymentId amountInPaise booking.id)).attempt with
  | .error _ => do
      handleRefundFailure bookingId paymentId tenantId amountInPaise retryCount
      return false
  | .ok refundId => do
      match ← (recordRefund bookingId paymentId tenantId amountInPaise refundId).attempt with
      | .ok _ => return true
      | .error dbError => do
          ask none (.deadLetterCreate
            { type := "REFUND_SYNC_FAILED", reason := .inl dbError, bookingId := some bookingId,
              razorpayEventId := some paymentId, tenantId, retryCount })
          return false

theorem processRefund_eq (bookingId tenantId : String) (retryCount : Nat) :
    processRefund bookingId tenantId retryCount = (do
      match refundTarget (← ask none (.bookingFindUnique bookingId)) tenantId with
      | none => return false
      | some (booking, paymentId) => refundFound bookingId tenantId retryCount booking paymentId) :=
  rfl

section Visits

variable {P : PayPlatform} {id bookingId tenantId : String} {d₀ : PayData} {i : Nat} {op : PayOp}
  {s : PaySnap} {c : TxCmd PayStmt} {o : PayOracle} {w : PayStore} {A : String → Prop} {α : Type}

theorem unasked_step (hc : Asks A c) (h : WritesIn (fun w : PayWrite => w.refund? = none) w) :
    WritesIn (fun w : PayWrite => w.refund? = none) (payDb.step c o w).2 := by
  intro ss hss x hx
  rcases session_of_step hss with hnil | ⟨ss₀, hss₀, -, hsame | ⟨q, rfl, -, happ⟩⟩
  · rw [hnil] at hx
    cases hx
  · exact h ss₀ hss₀ x (hsame ▸ hx)
  · rw [happ] at hx
    rcases List.mem_append.mp hx with hx | hx
    · exact h ss₀ hss₀ x hx
    · obtain ⟨d, hd⟩ := mem_wants hx
      exact refund_none_of_exec hc hd

/-- What asks for refunds of other bookings only leaves this one's recorded. -/
theorem Complete.step (h : Complete id d₀ w) (hc : Asks (· ≠ id) c) :
    Complete id d₀ (payDb.step c o w).2 := by
  refine ⟨?_, unasked_step hc h.2⟩
  have hkeep : ∀ ws : List PayWrite, (∀ x ∈ ws, ∀ r ∈ x.refund?, r.bookingId ≠ id) →
      AllRecorded id d₀ (payDb.applyAll ws w.data) := by
    intro ws hws hlt
    rw [refundsFor_applyAll hws] at hlt
    exact (h.1 hlt).trans_le (refundRows_le ws w.data)
  rcases step_data payDb c o w with hd | ⟨q, rfl, -, hd⟩ | ⟨ss, rfl, hss, -, hd⟩ <;> rw [hd]
  · exact h.1
  · refine hkeep _ fun x hx r hr => ?_
    cases q with
    | paymentsRefund paymentId amount bookingId =>
        obtain rfl := List.mem_singleton.mp hx
        obtain rfl := Option.some.inj hr
        exact hc bookingId rfl
    | _ =>
        rw [refund_none_of_exec rfl hx] at hr
        cases hr
  · exact hkeep _ fun x hx r hr => by rw [h.2 ss hss x hx] at hr; cases hr

theorem asks_query {t : Option Nat} {q : PayStmt} (hq : q.refundAmount? = none) :
    (ask t q).All (Asks A) := by
  refine ⟨?_, fun r => by cases r <;> trivial⟩
  cases t with
  | none =>
      cases q with
      | paymentsRefund => cases hq
      | _ => exact nofun
  | some tx => exact hq

theorem asks_aside {p : PayM α} (hp : p.All Aside) : p.All (Asks A) := by
  refine hp.mono fun c hc => ?_
  obtain ⟨q, rfl, hq⟩ := hc
  cases q with
  | paymentsRefund => cases hq
  | _ => exact nofun

theorem not_asks_ofRefund {q : PayStmt} (hq : q.ofRefund = true) : q.refundAmount? = none := by
  cases q with
  | paymentsRefund => cases hq
  | _ => rfl

theorem asks_transacts {p : PayM α} (hp : Transacts (·.ofRefund = true) p) : p.All (Asks A) := by
  obtain ⟨body, rfl, hbody⟩ := hp
  have hasks : ∀ tx, (body tx).All (Stmts fun q : PayStmt => q.refundAmount? = none) :=
    fun tx => (hbody tx).mono fun c hc => by
      cases c with
      | stmt t q => exact not_asks_ofRefund hc.2
      | _ => trivial
  refine (all_transaction hasks).mono fun c hc => ?_
  cases c with
  | stmt t q =>
      cases t with
      | none =>
          cases q with
          | paymentsRefund => cases hc
          | _ => exact nofun
      | some tx => exact hc
  | _ => trivial

theorem addsRefunds_solo (P : PayPlatform) (id : String) (d₀ : PayData) :
    AddsRows (fun (e : Empty) (_ : PayData) => e.elim) (PayOp.body P) (solo (recordedRefunds id d₀))
      (· = id) pending fun _ => true where
  tracks := tracks_solo _
  left _ := solo_stable fun d _ => ¬InStatus pending _ d
  start := ⟨nofun, fun _ hwaits => ⟨hwaits, trivial⟩⟩
  commit ho := ⟨ho.own rfl, fun _ hwaits => ⟨hwaits, trivial⟩⟩
  rollback ho := ⟨ho.own rfl, fun _ hwaits => ⟨hwaits, trivial⟩⟩
  plain {_ _ _ q _} hown _ _ hasks := by
    refine ⟨hown, fun o hwaits => ⟨hwaits, fun _ => ?_⟩⟩
    cases q with
    | paymentsRefund => cases hasks
    | _ => trivial
  row hs _ _ := ⟨hs.1.1.own rfl, fun _ hwaits => ⟨hwaits, fun _ => trivial⟩⟩

theorem refundTarget_some {found : Option Booking} {booking : Booking} {paymentId : String}
    (h : refundTarget found tenantId = some (booking, paymentId)) :
    found = some booking ∧ booking.status = .REFUND_INITIATED := by
  simp only [refundTarget, Option.bind_eq_bind, Option.bind_eq_some_iff, Option.guard_eq_some',
    Option.pure_def, Option.some.injEq, Prod.mk.injEq] at h
  obtain ⟨b, rfl, -, -, p, -, -, hstatus, rfl, -⟩ := h
  exact ⟨rfl, hstatus⟩

theorem asks_refundFound {booking : Booking} {paymentId : String} {retryCount : Nat}
    (hA : A booking.id) :
    (refundFound bookingId tenantId retryCount booking paymentId).All (Asks A) := by
  refine All.bind (All.attempt ⟨?_, fun r => by cases r <;> trivial⟩) fun refund => ?_
  · rintro _ ⟨⟩
    exact hA
  · cases refund with
    | error e => exact (asks_transacts transacts_handleRefundFailure).bind fun _ => trivial
    | ok refundId =>
        refine (asks_transacts transacts_recordRefund).attempt.bind fun recorded => ?_
        cases recorded with
        | ok u => trivial
        | error dbError => exact (asks_query rfl).bind fun _ => trivial

theorem meets_refundFound {booking : Booking} {paymentId : String} {retryCount : Nat}
    (hinv : (solo (recordedRefunds id d₀)).inv s)
    (hs : booking.id = id → Pends id s.world.data ∧ AllRecorded id d₀ s.world.data) :
    Meets (PayOp.body P) (recordedRefunds id d₀) i op
      (refundFound bookingId tenantId retryCount booking paymentId) s := by
  refine fine_attempt hinv (meets_last (F := fun d _ => booking.id = id → Pends id d ∧
    AllRecorded id d₀ d) hs fun s o hs hwaits => ⟨hwaits, fun _ => hs⟩) fun refund s hinv => ?_
  have hrows := addsRefunds_solo P id d₀
  cases refund with
  | error e => exact fine_bind hinv (fine_handleRefundFailure hrows) fun _ _ _ => fine_ret
  | ok refundId =>
      refine fine_attempt hinv (fine_recordRefund hrows) fun recorded s hinv => ?_
      cases recorded with
      | ok u => exact fine_ret
      | error dbError =>
          exact fine_bind hinv (fine_last_aside (pending_aside hrows) rfl) fun _ _ _ => fine_ret

theorem complete_stable {L : Prop} : Stable (payDb.still (PayOp.body P))
    (solo (recordedRefunds id d₀)) i fun s => L → Complete id d₀ s.world := by
  intro s s' h hs hL
  cases h with
  | env e _ =>
      cases e with
      | data e => exact e.elim
      | abort tx => exact ⟨(hs hL).1, fun ss hss => (hs hL).2 ss (List.mem_filter.mp hss).1⟩
  | other _ hop _ _ _ => exact hop.elim

theorem complete_kept {L : Prop} : Conc.Kept (payDb.still (PayOp.body P))
    (solo (recordedRefunds id d₀)) i op (Asks (· ≠ id)) fun s => L → Complete id d₀ s.world :=
  ⟨complete_stable, fun h _ _ hc hL => (h hL).step hc⟩

/-- A call by itself; one for another booking leaves the refunds recorded. -/
theorem wp_processRefund {retryCount : Nat} {L : Prop}
    (hself : bookingId = id → Complete id d₀ s.world)
    (hs : L → bookingId ≠ id ∧ Complete id d₀ s.world) :
    (processRefund bookingId tenantId retryCount).wp (payDb.still (PayOp.body P))
      (solo (recordedRefunds id d₀)) i op (fun _ s => L → Complete id d₀ s.world)
      (fun _ s => L → Complete id d₀ s.world) s := by
  rw [processRefund_eq]
  have hkept : Conc.Kept (payDb.still (PayOp.body P)) (solo (recordedRefunds id d₀)) i op
      (Asks (· ≠ id)) fun s => L → Complete id d₀ s.world := complete_kept
  refine wp_query_kept (H := fun s => (bookingId = id → Complete id d₀ s.world) ∧
      (L → Complete id d₀ s.world))
    (fun s s' h hs => ⟨complete_stable s s' h hs.1, complete_stable s s' h hs.2⟩)
    ⟨hself, fun hL => (hs hL).2⟩ hkept (fun s hs => hs.2) nofun
    (fun s _ _ => ⟨nofun, fun o hwaits => ⟨hwaits, fun _ => trivial⟩⟩)
    fun s o found _ hstart ha hinv hafter => ?_
  obtain ⟨hexec, hstep⟩ := query_ok ha
  have hfind : s.world.data.bookings.find bookingId = found := Except.ok.inj hexec
  cases htarget : refundTarget found tenantId with
  | none => exact wp_ret hkept.stable hafter fun _ _ h => h
  | some target =>
      obtain ⟨booking, paymentId⟩ := target
      obtain ⟨rfl, hpending⟩ := refundTarget_some htarget
      have hid : booking.id = bookingId := (BookingTable.mem_of_find hfind).2
      have hmeets : Meets (PayOp.body P) (recordedRefunds id d₀) i op
          (refundFound bookingId tenantId retryCount booking paymentId)
          (s.exec (payDb.still (PayOp.body P)) i op (.stmt none (.bookingFindUnique bookingId)) o) := by
        refine meets_refundFound hinv fun hwatched => ?_
        rw [Snap.exec_world, show (payDb.still (PayOp.body P)).exec = payDb.step from rfl, hstep]
        refine ⟨?_, (hstart.1 (hid ▸ hwatched)).1⟩
        show s.world.data.statusOf id = some .REFUND_INITIATED
        rw [PayData.statusOf, ← hwatched, hid, hfind, Option.map_some, hpending]
      by_cases hL : L
      · exact (hmeets.frame_kept (asks_refundFound (hid ▸ (hs hL).1)) hkept hafter).mono
          (fun _ _ _ h => h.2) fun _ _ _ h => h.2
      · exact hmeets.mono (fun _ _ _ _ h => absurd h hL) fun _ _ _ _ h => absurd h hL

/-- The bookings of a sweep, one after another: the watched one comes once. -/
theorem meets_pendingRefunds {l : List Booking} (hl : (l.map (·.id)).Nodup)
    (hs : id ∈ l.map (·.id) → Complete id d₀ s.world) (hinv : (solo (recordedRefunds id d₀)).inv s) :
    Meets (PayOp.body P) (recordedRefunds id d₀) i op (l.mapM fun booking =>
      forTenant booking fun tenantId => processRefund booking.id tenantId 0) s := by
  induction l generalizing s with
  | nil => exact fine_ret
  | cons booking rest ih =>
      rw [List.mapM_cons]
      rw [List.map_cons, List.nodup_cons] at hl
      have hkept : Conc.Kept (payDb.still (PayOp.body P)) (solo (recordedRefunds id d₀)) i op
          (Asks (· ≠ id)) fun s => id ∈ rest.map (·.id) → Complete id d₀ s.world := complete_kept
      have hrest : id ∈ rest.map (·.id) → booking.id ≠ id ∧ Complete id d₀ s.world := fun hid =>
        ⟨fun heq => hl.1 (heq ▸ hid), hs (List.mem_cons_of_mem _ hid)⟩
      refine wp_bind hinv (Prog.wp.mono (E := fun _ _ => True)
        (Q := fun _ s => id ∈ rest.map (·.id) → Complete id d₀ s.world) ?_
        (fun _ s hinv hs => ?_) fun _ _ _ _ => trivial)
      · unfold forTenant
        split
        · exact wp_ret hkept.stable (fun hid => (hrest hid).2) fun _ _ h => h
        · refine wp_bind hinv (wp_attempt ((wp_processRefund (fun heq => hs (heq ▸
            List.mem_cons_self ..)) hrest).mono (fun _ s _ hs => ?_) fun _ s _ hs => ?_))
          · exact wp_ret hkept.stable hs fun _ _ h => h
          · exact wp_ret hkept.stable hs fun _ _ h => h
      · exact fine_bind hinv (ih hl.2 hs hinv) fun _ _ _ => fine_ret

theorem meets_sweepPendingRefunds (hs : Complete id d₀ s.world) :
    Meets (PayOp.body P) (recordedRefunds id d₀) i op sweepPendingRefunds s := by
  have hkept : Conc.Kept (payDb.still (PayOp.body P)) (solo (recordedRefunds id d₀)) i op
      (Asks (· ≠ id)) fun s => True → Complete id d₀ s.world := complete_kept
  refine wp_query hkept.stable (fun _ => hs) persistent_true (fun _ _ => trivial)
    (fun s _ hs => ⟨nofun, fun o hwaits => ⟨hwaits, fun _ => trivial⟩⟩) fun s o l _ hs _ ha hinv => ?_
  obtain ⟨hexec, -⟩ := query_ok ha
  refine fine_bind hinv (meets_pendingRefunds (rowsRead_nodup (q := .bookingFindPendingRefunds) hexec)
    (fun _ => ?_) hinv) fun _ _ _ => fine_ret
  exact hkept.own hs (.stmt none .bookingFindPendingRefunds) o nofun trivial

theorem all_refundEvents {r : Delivery} (hop : PayOp.refunds (.handleWebhook r) = true) :
    (handleWebhook P r).All Aside :=
  all_refundEvent (by simpa [PayOp.refunds] using hop)

theorem asks_processRefund {retryCount : Nat} :
    (processRefund bookingId tenantId retryCount).All (Asks fun _ => True) := by
  rw [processRefund_eq]
  refine (asks_query rfl).bind fun found => ?_
  cases refundTarget found tenantId with
  | none => trivial
  | some target => exact asks_refundFound trivial

theorem asks_body (hop : op.refunds = true) : (PayOp.body P op).All (Asks fun _ => True) := by
  cases op with
  | processRefund bookingId tenantId retryCount => exact asks_processRefund.bind fun _ => trivial
  | handleWebhook r => exact (asks_aside (all_refundEvents hop)).bind fun _ => trivial
  | sweepPendingRefunds =>
      refine All.bind ((asks_query rfl).bind fun pendingRefunds => ?_) fun _ => trivial
      refine (All.mapM fun booking _ => ?_).bind fun _ => trivial
      unfold forTenant
      split
      · trivial
      · exact asks_processRefund.attempt.bind fun _ => trivial
  | _ => cases hop

/-- Between two calls no transaction has a refund to ask for. -/
theorem unasked_run (P : PayPlatform) (d : PayData) (ls : List PayLabel)
    (hls : ∀ op, .spawn op ∈ ls → op.refunds = true) :
    WritesIn (fun w : PayWrite => w.refund? = none)
      ((Config.idle (.idle d)).run (payments P) ls).world := by
  refine Config.run_invariant_of_all (M := payments P) (fun op hop => asks_body hop)
    (fun c o w hc hw => unasked_step hc hw) (fun w e hw => ?_) (fun _ h => absurd h List.not_mem_nil)
    (fun _ h => absurd h List.not_mem_nil) hls
  cases e with
  | data m => exact hw
  | abort tx => exact fun ss hss => hw ss (List.mem_filter.mp hss).1

/-- **One after another**: calls that nothing interrupts find the refund pending and
the ledger complete whenever they ask Razorpay, if nothing was missing from it as
they started. -/
theorem recordedRefunds_visits (P : PayPlatform) (id : String) (d : PayData)
    {xs : List (Visit PayOracle (DbEnv PayMove) PayOp)}
    (hready : StartsIn (payments P) (fun _ s => AllRecorded id d s.world.data)
      (Config.idle (.idle d)) xs)
    (h : refundServices.admitsRun (payments P) (Config.idle (.idle d)) (visits 0 xs)) :
    (recordedRefunds id d).admitsRun (payments P) (Config.idle (.idle d)) (visits 0 xs) := by
  have hinv : (solo (recordedRefunds id d)).inv (⟨.idle d, []⟩ : PaySnap) :=
    ⟨⟨List.nodup_nil, nofun, nofun⟩, openers_idle _⟩
  have hunasked : StartsIn (payments P)
      (fun _ (s : PaySnap) => WritesIn (fun w : PayWrite => w.refund? = none) s.world)
      (Config.idle (.idle d)) xs := startsIn_of_run (unasked_run P d) (starts_of_visits h)
  refine admitsRun_visits hinv h (hready.and hunasked) (fun h => h) (fun _ h => h)
    fun i op s hop hinv hs => ?_
  cases op with
  | processRefund bookingId tenantId retryCount =>
      exact wp_map _ ((wp_processRefund (L := False) (fun _ => hs) False.elim).mono
        (fun _ _ _ _ => trivial) fun _ _ _ _ => trivial)
  | sweepPendingRefunds => exact wp_map _ (meets_sweepPendingRefunds hs)
  | handleWebhook r =>
      exact wp_map _ (fine_aside (pending_aside (addsRefunds_solo P id d)) (all_refundEvents hop))
  | _ => cases hop

end Visits

end Omnipax.Payments
