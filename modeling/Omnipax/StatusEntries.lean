import Omnipax.StatusPaths

/-!
# Ledger rows that come with a status

Payments and refunds are entered alike. A transaction reads its booking, gives it
another status and adds the row, or adds the row because it finds another status
already. So where the old status is never given back, a row says of its booking
that it has left it. These are the rules of such transactions (`AddsRows`), and the
calls of the services that consist of them.
-/

namespace Omnipax.Payments

open Conc Prog Database

/-! ## Rows and statuses -/

/-- The booking is in one of these statuses. -/
def InStatus (live : BookingStatus → Bool) (id : String) (d : PayData) : Prop :=
  (d.statusOf id).any live = true

/-- The statement gives a booking such a status. -/
def PayStmt.gives (live : BookingStatus → Bool) : PayStmt → Bool
  | .bookingUpdate _ _ data => data.status.any live
  | .bookingUpdateMany _ _ data => data.status.any live
  | _ => false

/-- The rows of a kind that writes add. -/
def rowsOf (sel : LedgerEntry → Bool) (ws : List PayWrite) : List LedgerEntry :=
  (ws.filterMap (·.ledgerRow?)).filter sel

def PayStmt.rowsOf (sel : LedgerEntry → Bool) (q : PayStmt) : List LedgerEntry :=
  q.ledgerRows.filter sel

section Writes

variable {live : BookingStatus → Bool} {sel : LedgerEntry → Bool} {id : String} {w : PayWrite}
  {ws ws' : List PayWrite} {d : PayData} {q : PayStmt} {o : PayOracle} {e : LedgerEntry}

theorem ledger_applyAll (ws : List PayWrite) (d : PayData) :
    (payDb.applyAll ws d).paymentLedger = d.paymentLedger ++ ws.filterMap (·.ledgerRow?) := by
  induction ws generalizing d with
  | nil => exact (List.append_nil _).symm
  | cons w ws ih =>
      rw [applyAll_cons, ih, ledger_apply, List.append_assoc]
      cases hrow : w.ledgerRow? with
      | none => rw [List.filterMap_cons_none hrow]; rfl
      | some row => rw [List.filterMap_cons_some hrow]; rfl

theorem rowsOf_append : rowsOf sel (ws ++ ws') = rowsOf sel ws ++ rowsOf sel ws' := by
  rw [rowsOf, List.filterMap_append, List.filter_append]
  rfl

theorem mem_rowsOf : e ∈ rowsOf sel ws ↔ (∃ w ∈ ws, w.ledgerRow? = some e) ∧ sel e = true := by
  rw [rowsOf, List.mem_filter, List.mem_filterMap]

theorem rowsOf_exec (q : PayStmt) (o : PayOracle) (d : PayData) :
    rowsOf sel (payDb.exec q o d).2 = q.rowsOf sel := by
  cases q with
  | ledgerCreateMany data =>
      show (List.filterMap _ (data.map PayWrite.ledger)).filter sel = data.filter sel
      rw [List.filterMap_map]
      exact congrArg (List.filter sel) List.filterMap_some
  | _ =>
      refine List.eq_nil_iff_forall_not_mem.mpr fun e he => ?_
      obtain ⟨⟨w, hw, hrow⟩, -⟩ := mem_rowsOf.mp he
      exact absurd (ledgerRow_exec hw (Option.mem_def.mpr hrow)) List.not_mem_nil

theorem status_of_exec (hq : q.gives live = false) (hw : w ∈ (payDb.exec q o d).2)
    {b : BookingStatus} (hs : w.setsStatus id = some b) : live b = false := by
  have hwrites := writes_exec hw
  cases w with
  | booking id' u =>
      have hu : u.status = some b := by
        rw [PayWrite.setsStatus] at hs
        split at hs
        · exact hs
        · cases hs
      cases q with
      | bookingUpdate _ _ data =>
          obtain ⟨-, rfl⟩ := hwrites
          rw [PayStmt.gives, hu] at hq
          exact hq
      | bookingUpdateMany _ _ data =>
          obtain ⟨-, rfl⟩ := hwrites
          rw [PayStmt.gives, hu] at hq
          exact hq
      | _ => cases hwrites
  | _ => cases hs

/-- Writes that give no such status leave a booking in none, where it is in none or
they give it a status. -/
theorem not_inStatus_applyAll (hws : ∀ w ∈ ws, ∀ b, w.setsStatus id = some b → live b = false)
    (h : ¬InStatus live id d ∨ ∃ w ∈ ws, (w.setsStatus id).isSome = true) :
    ¬InStatus live id (payDb.applyAll ws d) := by
  rw [InStatus, Bool.not_eq_true] at h ⊢
  exact not_statusOf_applyAll hws h

end Writes

/-! ## Transactions -/

/-- The transaction may add a row of the booking: it has added none, and has given
the booking a status or found it in another already. -/
def MayAdd (watched : String → Prop) (live : BookingStatus → Bool) (sel : LedgerEntry → Bool)
    (bookingId : String) (i tx : Nat) (s : PaySnap) : Prop :=
  InTx i tx (fun ss _ => rowsOf sel ss.writes = []) s ∧
    (watched bookingId → ¬InStatus live bookingId s.world.data ∨
      InTx i tx (fun ss _ => ∃ w ∈ ss.writes, (w.setsStatus bookingId).isSome = true) s)

/-- What an outline asks of commands where rows of the kind `sel` are added that way:
nobody gives a watched booking a `live` status back, a transaction that may adds one
row, and all else is allowed, but for the request for a refund. -/
structure AddsRows {η : Type} (move : η → PayData → PayData) (body : PayOp → PayM PayAnswer)
    (O : PayOutline) (watched : String → Prop) (live : BookingStatus → Bool)
    (sel : LedgerEntry → Bool) : Prop where
  tracks : Tracks O
  left : ∀ {i id}, watched id →
    Stable (payDb.system move body) O i fun s => ¬InStatus live id s.world.data
  start : ∀ {i op s}, O.pre i op .begin s
  commit : ∀ {i tx op s}, Opened i tx s → O.pre i op (.commit tx) s
  rollback : ∀ {i tx op s}, Opened i tx s → O.pre i op (.rollback tx) s
  plain : ∀ {i op t q s}, Own i (.stmt t q) s → q.gives live = false → q.rowsOf sel = [] →
    q.refundAmount? = none → O.pre i op (.stmt t q) s
  row : ∀ {i op tx rows bookingId s}, MayAdd watched live sel bookingId i tx s →
    (∀ e ∈ rows, e.bookingId = bookingId) → (rows.filter sel).length ≤ 1 →
    O.pre i op (.stmt (some tx) (.ledgerCreateMany rows)) s

abbrev EntryBody {η α : Type} (move : η → PayData → PayData) (body : PayOp → PayM PayAnswer)
    (O : PayOutline) (i tx : Nat) (op : PayOp) (p : PayM α) (s : PaySnap) : Prop :=
  p.wp (payDb.system move body) O i op (fun _ => Opened i tx) (fun _ s => Opened i tx s ∧ True) s

section Rules

variable {η α β : Type} {move : η → PayData → PayData} {body : PayOp → PayM PayAnswer}
  {O : PayOutline} {watched : String → Prop} {live : BookingStatus → Bool}
  {sel : LedgerEntry → Bool} {bookingId tenantId : String} {i tx : Nat} {op : PayOp} {s : PaySnap}

theorem entryBody_ret {a : α} (hs : Opened i tx s) : EntryBody move body O i tx op (.ret a) s :=
  wp_ret (Opened.persistent i tx).stable hs fun _ _ h => h

theorem entryBody_throw {e : PayExn} (hs : Opened i tx s) :
    EntryBody move body O i tx op (.err e : PayM α) s :=
  fun _ hs' _ => ⟨(Opened.persistent i tx).stable.star hs' hs, trivial⟩

theorem entryBody_nested {p : PayM α} {f : α → PayM β} (hinv : O.inv s) (hs : Opened i tx s)
    (hp : Fine move body O i op p s)
    (h : ∀ a s, O.inv s → Opened i tx s → EntryBody move body O i tx op (f a) s) :
    EntryBody move body O i tx op (p >>= f) s :=
  wp_bind hinv ((hp.frame_ends (Opened.persistent i tx) hs).mono (fun a s hinv hs => h a s hinv hs.2)
    fun _ _ _ hs => ⟨hs.2, trivial⟩)

namespace AddsRows

theorem transaction (h : AddsRows move body O watched live sel) {p : Nat → PayM α}
    (hp : ∀ tx s, O.inv s → InTx i tx (Wrote (· = [])) s → EntryBody move body O i tx op (p tx) s) :
    Fine move body O i op (inTransaction p) s := by
  refine wp_transaction (G := fun _ => True) (B := fun tx _ => Opened i tx) h.tracks trivial
    persistent_true (fun s _ _ => ?_) (fun s tx _ ho => ?_) (fun s tx a _ ho => ?_)
    (fun tx _ => (Opened.persistent i tx).stable) (fun _ _ _ _ => trivial)
    (fun s tx hinv _ hin => hp tx s hinv hin) fun _ _ _ _ _ _ _ _ _ => fine_ret
  · exact h.start
  · exact h.rollback ho
  · exact h.commit ho

theorem ask (h : AddsRows move body O watched live sel) {q : PayStmt} {f : q.Ret → PayM β}
    (hs : Opened i tx s) (hq : q.gives live = false) (hrows : q.rowsOf sel = [])
    (hasks : q.refundAmount? = none)
    (hf : ∀ a s, O.inv s → Opened i tx s → EntryBody move body O i tx op (f a) s) :
    EntryBody move body O i tx op (Payments.ask (some tx) q >>= f) s :=
  wp_query (H := Opened i tx) (Opened.persistent i tx).stable hs
    ((Opened.persistent i tx).and persistent_true) (fun _ h => ⟨h, trivial⟩)
    (fun _ _ ho => h.plain (ho.own rfl) hq hrows hasks)
    fun _ _ a _ hs _ _ hinv => hf a _ hinv ((Opened.persistent i tx).exec hs ..)

theorem mayAdd_stable (h : AddsRows move body O watched live sel) :
    Stable (payDb.system move body) O i (MayAdd watched live sel bookingId i tx) := by
  have hwritten : Stable (payDb.system move body) O i
      (InTx i tx fun ss _ => ∃ w ∈ ss.writes, (w.setsStatus bookingId).isSome = true) :=
    InTx.stable h.tracks (fun _ _ _ _ h => h) fun _ _ _ h => h
  have hnone : Stable (payDb.system move body) O i
      (InTx i tx fun ss _ => rowsOf sel ss.writes = []) :=
    InTx.stable h.tracks (fun _ _ _ _ h => h) fun _ _ _ h => h
  intro s s' hstep hs
  exact ⟨hnone s s' hstep hs.1, fun hw =>
    (hs.2 hw).imp (h.left hw s s' hstep) (hwritten s s' hstep)⟩

theorem add (h : AddsRows move body O watched live sel) {rows : List LedgerEntry}
    {f : Unit → PayM β} (hs : MayAdd watched live sel bookingId i tx s)
    (hrows : ∀ e ∈ rows, e.bookingId = bookingId) (hone : (rows.filter sel).length ≤ 1)
    (hf : ∀ s, Opened i tx s → EntryBody move body O i tx op (f ()) s) :
    EntryBody move body O i tx op (Payments.ask (some tx) (.ledgerCreateMany rows) >>= f) s :=
  wp_query h.mayAdd_stable hs ((Opened.persistent i tx).and persistent_true)
    (fun _ hs => ⟨hs.1.1, trivial⟩) (fun _ _ hs => h.row hs hrows hone)
    fun _ _ _ _ hs _ _ _ => hf _ ((Opened.persistent i tx).exec hs.1.1 ..)

theorem status (h : AddsRows move body O watched live sel) {data : BookingUpdate}
    {status : BookingStatus} {f : Unit → PayM β} (hs : InTx i tx (Wrote (· = [])) s)
    (hdata : data.status = some status) (hstatus : live status = false)
    (hf : ∀ s, MayAdd watched live sel bookingId i tx s → EntryBody move body O i tx op (f ()) s) :
    EntryBody move body O i tx op
      (Payments.ask (some tx) (.bookingUpdate bookingId none data) >>= f) s := by
  have hq : PayStmt.gives live (.bookingUpdate bookingId none data) = false := by
    rw [PayStmt.gives, hdata]
    exact hstatus
  refine wp_wrote (H := (· = [.booking bookingId data])) h.tracks persistent_true hs trivial
    (fun s _ hs => h.plain (hs.1.own rfl) hq rfl rfl) (fun a o d ws ws' hws hexec => ?_)
    fun _ s _ hs _ => hf s ⟨hs.mono fun ss _ hws => ?_, fun _ => Or.inr (hs.mono fun ss _ hws => ?_)⟩
  · rw [hws, bookingUpdate_ok hexec, List.nil_append]
  · rw [hws.1]
    rfl
  · refine ⟨_, hws.1 ▸ List.mem_singleton_self _, ?_⟩
    rw [PayWrite.setsStatus, if_pos rfl, hdata]
    rfl

theorem between (h : AddsRows move body O watched live sel) {q : PayStmt} {f : q.Ret → PayM β}
    (hs : MayAdd watched live sel bookingId i tx s) (hq : q.gives live = false)
    (hrows : q.rowsOf sel = []) (hasks : q.refundAmount? = none)
    (hf : ∀ a s, MayAdd watched live sel bookingId i tx s → EntryBody move body O i tx op (f a) s) :
    EntryBody move body O i tx op (Payments.ask (some tx) q >>= f) s := by
  refine wp_query h.mayAdd_stable hs ((Opened.persistent i tx).and persistent_true)
    (fun _ hs => ⟨hs.1.1, trivial⟩) (fun _ _ hs => h.plain (hs.1.1.own rfl) hq hrows hasks)
    fun s o a _ hs _ _ _ => hf a _ ⟨?_, fun hw => (hs.2 hw).imp (fun hleft => ?_) fun hin => ?_⟩
  · refine InTx.goes (F := fun ws => rowsOf sel ws = []) hs.1 fun ws d hws => ?_
    rw [rowsOf_append, hws, rowsOf_exec, hrows]
    rfl
  · rwa [Snap.exec_world, show (payDb.system move body).exec = payDb.step from rfl, data_stmt]
  · refine InTx.goes (F := fun ws : List PayWrite => ∃ w ∈ ws, (w.setsStatus bookingId).isSome = true)
      hin fun ws d hset => ?_
    obtain ⟨w, hw, hs⟩ := hset
    exact ⟨w, List.mem_append_left _ hw, hs⟩

theorem dateNow (h : AddsRows move body O watched live sel) {f : Time → PayM β}
    (hs : InTx i tx (Wrote (· = [])) s)
    (hf : ∀ now s, InTx i tx (Wrote (· = [])) s → EntryBody move body O i tx op (f now) s) :
    EntryBody move body O i tx op (Payments.ask none .dateNow >>= f) s :=
  wp_query (Wrote.stable h.tracks _) hs ((Opened.persistent i tx).and persistent_true)
    (fun _ h => ⟨h.1, trivial⟩) (fun _ _ _ => h.plain nofun rfl rfl rfl)
    fun _ _ now hinv hs _ _ _ => hf now _ (hs.beside (h.tracks.openers hinv) nofun)

/-- What the transaction finds of the booking: another status than a `live` one is
not left for one. -/
theorem find (h : AddsRows move body O watched live sel) {f : Option Booking → PayM β}
    (hs : InTx i tx (Wrote (· = [])) s)
    (hnone : ∀ s, MayAdd watched live sel bookingId i tx s → EntryBody move body O i tx op (f none) s)
    (hsome : ∀ b s, InTx i tx (Wrote (· = [])) s →
      (live b.status = false → MayAdd watched live sel bookingId i tx s) →
      EntryBody move body O i tx op (f (some b)) s) :
    EntryBody move body O i tx op (Payments.ask (some tx) (.bookingFindUnique bookingId) >>= f) s := by
  refine wp_stmt persistent_true (Wrote.stable h.tracks _) hs trivial
    (fun s _ hs => h.plain (hs.1.own rfl) rfl rfl rfl) fun s o b _ hs _ _ hok => ?_
  obtain ⟨ss, hss, -, hexec, hstep⟩ := stmt_ok hok
  have hview : s.world.data.bookings.find bookingId = b := by
    rw [show ss.writes = [] from (hs.2 ss hss).1] at hexec
    exact Except.ok.inj hexec
  have hin : InTx i tx (Wrote (· = [])) (s.exec (payDb.system move body) i op
      (.stmt (some tx) (.bookingFindUnique bookingId)) o) :=
    hs.wrote hok fun ws ws' hws hexec => by
      obtain rfl : [] = ws' := congrArg Prod.snd hexec
      rw [hws]
      rfl
  have hleft : (b.map (·.status)).any live = false → MayAdd watched live sel bookingId i tx
      (s.exec (payDb.system move body) i op (.stmt (some tx) (.bookingFindUnique bookingId)) o) := by
    refine fun hb => ⟨hin.mono fun ss _ hws => ?_, fun _ => Or.inl ?_⟩
    · rw [hws.1]
      rfl
    · rw [Snap.exec_world, show (payDb.system move body).exec = payDb.step from rfl, hstep, InStatus,
        show (s.world.write tx _).data = s.world.data from rfl, PayData.statusOf, hview,
        Bool.not_eq_true]
      exact hb
  cases b with
  | none => exact hnone _ (hleft rfl)
  | some b => exact hsome b _ hin fun hb => hleft hb

end AddsRows

end Rules

/-! ## Calls -/

/-- What the services execute by themselves, the requests for refunds apart: nothing
is added to the ledger, and a status that is given is one at an end. -/
def PayStmt.aside : PayStmt → Bool
  | .ledgerCreateMany _ => false
  | .paymentsRefund .. => false
  | .bookingUpdate _ _ data => data.status.all fun b =>
      b == .CONFIRMED || b == .FAILED || b == .REFUNDED || b == .REFUND_FAILED
  | .bookingUpdateMany .. => false
  | _ => true

def Aside (c : TxCmd PayStmt) : Prop := ∃ q, c = .stmt none q ∧ q.aside = true

def LetsAside (O : PayOutline) (i : Nat) (op : PayOp) : Prop :=
  ∀ ⦃q s⦄, q.aside = true → O.inv s → O.pre i op (.stmt none q) s

section Calls

variable {η α β : Type} {move : η → PayData → PayData} {body : PayOp → PayM PayAnswer}
  {O : PayOutline} {watched : String → Prop} {live : BookingStatus → Bool}
  {sel : LedgerEntry → Bool} {bookingId tenantId : String} {i tx : Nat} {op : PayOp} {s : PaySnap}

theorem all_aside {q : PayStmt} (hq : q.aside = true) : (ask none q).All Aside :=
  ⟨⟨q, rfl, hq⟩, fun r => by cases r <;> trivial⟩

theorem AddsRows.letsAside (h : AddsRows move body O watched live sel)
    (hlive : ∀ b : BookingStatus,
      (b == .CONFIRMED || b == .FAILED || b == .REFUNDED || b == .REFUND_FAILED) = true →
        live b = false) :
    LetsAside O i op := by
  intro q s hq _
  refine h.plain nofun ?_ ?_ ?_
  · cases q with
    | bookingUpdate id status data =>
        change data.status.any live = false
        change data.status.all _ = true at hq
        cases hstatus : data.status with
        | none => rfl
        | some b =>
            rw [hstatus] at hq
            exact hlive b hq
    | bookingUpdateMany => cases hq
    | _ => rfl
  · cases q with
    | ledgerCreateMany rows => cases hq
    | _ => rfl
  · cases q with
    | paymentsRefund paymentId amount bookingId => cases hq
    | _ => rfl

theorem fine_aside (haside : LetsAside O i op) {p : PayM α} (hp : p.All Aside) :
    Fine move body O i op p s := by
  refine fine_of_all hp fun c hc s hinv => ?_
  obtain ⟨q, rfl, hq⟩ := hc
  exact haside hq hinv

theorem fine_last_aside (haside : LetsAside O i op) {q : PayStmt} (hq : q.aside = true) :
    Fine move body O i op (ask none q) s := fine_aside haside (all_aside hq)

theorem fine_processRefund (haside : LetsAside O i op) {retryCount : Nat}
    (hrefund : ∀ paymentId amount bookingId s, O.inv s →
      O.pre i op (.stmt none (.paymentsRefund paymentId amount bookingId)) s)
    (hrecord : ∀ paymentId refundId amount s,
      Fine move body O i op (recordRefund bookingId paymentId tenantId amount refundId) s)
    (hfailure : ∀ paymentId amount s, Fine move body O i op
      (handleRefundFailure bookingId paymentId tenantId amount retryCount) s) :
    Fine move body O i op (processRefund bookingId tenantId retryCount) s := by
  refine fine_query (fun _ hinv => haside rfl hinv) fun _ _ found _ _ hinv => ?_
  cases refundTarget found tenantId with
  | none => exact fine_ret
  | some target =>
      refine fine_attempt hinv (fine_last fun s hinv => hrefund _ _ _ s hinv) fun refund s hinv => ?_
      cases refund with
      | error e => exact fine_bind hinv (hfailure _ _ s) fun _ _ _ => fine_ret
      | ok refundId =>
          refine fine_attempt hinv (hrecord _ _ _ s) fun recorded s hinv => ?_
          cases recorded with
          | ok u => exact fine_ret
          | error dbError =>
              exact fine_bind hinv (fine_last_aside haside rfl) fun _ _ _ => fine_ret

theorem fine_forTenant {booking : Booking} {p : String → PayM α} (hinv : O.inv s)
    (h : ∀ tenantId, Fine move body O i op (p tenantId) s) :
    Fine move body O i op (forTenant booking p) s := by
  unfold forTenant
  split
  · exact fine_ret
  · exact fine_attempt hinv (h _) fun _ _ _ => fine_ret

theorem fine_sweepPendingRefunds (haside : LetsAside O i op)
    (hprocess : ∀ bookingId tenantId s, O.inv s →
      Fine move body O i op (processRefund bookingId tenantId 0) s) :
    Fine move body O i op sweepPendingRefunds s := by
  refine fine_query (fun _ hinv => haside rfl hinv) fun _ _ pending _ _ hinv => ?_
  refine fine_bind hinv (fine_mapM hinv fun booking _ s hinv => ?_) fun _ _ _ => fine_ret
  exact fine_forTenant hinv fun tenantId => hprocess _ tenantId s hinv

/-- A payment is entered where the ledger has been found without it. -/
theorem fine_reconcileBooking (haside : LetsAside O i op) {razorpayOrderId : Option String}
    {finalAmount : Money} (hinv : O.inv s)
    (hfail : ∀ s, Fine move body O i op (failBooking bookingId) s)
    (hsync : ∀ paymentId (s : PaySnap) o,
      (payDb.step (.stmt none (.ledgerFindFirst paymentId)) o s.world).1 = .ok none →
      Fine move body O i op (syncPayment bookingId paymentId tenantId finalAmount)
        (s.exec (payDb.system move body) i op (.stmt none (.ledgerFindFirst paymentId)) o)) :
    Fine move body O i op (reconcileBooking bookingId razorpayOrderId tenantId finalAmount) s := by
  unfold reconcileBooking
  split
  · exact fine_last_aside haside rfl
  · refine fine_attempt hinv (fine_last_aside haside rfl) fun fetched s hinv => ?_
    cases fetched with
    | error e => exact fine_ret
    | ok payments =>
        dsimp only
        split
        · exact hfail s
        · refine fine_query (fun _ hinv => haside rfl hinv) fun s o existingLedger _ hok _ => ?_
          cases existingLedger with
          | some row => exact fine_last_aside haside rfl
          | none => exact hsync _ s o hok

theorem fine_handleReconciliation (haside : LetsAside O i op) {process : String}
    (hreconcile : ∀ bookingId razorpayOrderId tenantId finalAmount s, O.inv s →
      Fine move body O i op (reconcileBooking bookingId razorpayOrderId tenantId finalAmount) s)
    (hsweep : ∀ s, Fine move body O i op sweepPendingRefunds s) :
    Fine move body O i op (handleReconciliation process) s := by
  have hstale : ∀ s, Fine move body O i op reconcileStale s := by
    intro s
    refine fine_query (fun _ hinv => haside rfl hinv) fun _ _ now _ _ _ => ?_
    refine fine_query (fun _ hinv => haside rfl hinv) fun _ _ staleBookings _ _ hinv => ?_
    split
    · exact fine_ret
    · refine fine_bind hinv (fine_mapM hinv fun booking _ s hinv => ?_) fun _ s _ => hsweep s
      exact fine_forTenant hinv fun _ => hreconcile _ _ _ _ s hinv
  refine fine_query (fun _ hinv => haside rfl hinv) fun _ _ isEntered _ _ hinv => ?_
  cases isEntered with
  | false => exact fine_ret
  | true => exact fine_attempt hinv (hstale _) fun _ _ _ => fine_last_aside haside rfl

/-- A statement of the transaction, or one beside it, of a kind. -/
def SaysIn (tx : Nat) (F : PayStmt → Prop) : TxCmd PayStmt → Prop
  | .stmt t q => (t = none ∨ t = some tx) ∧ F q
  | _ => False

/-- The call is a transaction of such statements. -/
def Transacts (F : PayStmt → Prop) (p : PayM α) : Prop :=
  ∃ body : Nat → PayM α, p = inTransaction body ∧ ∀ tx, (body tx).All (SaysIn tx F)

theorem Transacts.mono {F F' : PayStmt → Prop} {p : PayM α} (hp : Transacts F p)
    (hF : ∀ q, F q → F' q) : Transacts F' p := by
  obtain ⟨body, rfl, hbody⟩ := hp
  refine ⟨body, rfl, fun tx => (hbody tx).mono fun c hc => ?_⟩
  cases c with
  | stmt t q => exact hc.imp_right (hF q)
  | _ => exact hc

theorem all_own {F : PayStmt → Prop} {q : PayStmt} (hq : F q) :
    (ask (some tx) q).All (SaysIn tx F) :=
  ⟨⟨Or.inr rfl, hq⟩, fun r => by cases r <;> trivial⟩

theorem all_beside {F : PayStmt → Prop} {q : PayStmt} (hq : F q) :
    (ask none q).All (SaysIn tx F) :=
  ⟨⟨Or.inl rfl, hq⟩, fun r => by cases r <;> trivial⟩

/-- What the transactions say that record how a request for a refund has ended. -/
def PayStmt.ofRefund : PayStmt → Bool
  | .dateNow | .bookingFindUnique _ | .deadLetterCreate _ => true
  | .bookingUpdate _ _ data => data.status == some .REFUNDED || data.status == some .REFUND_FAILED
  | .ledgerCreateMany rows => rows.all (·.type == .REFUND)
  | _ => false

theorem transacts_recordRefund {paymentId refundId : String} {amount : Int} :
    Transacts (·.ofRefund = true) (recordRefund bookingId paymentId tenantId amount refundId) := by
  refine ⟨_, rfl, fun tx => (all_own (by rfl)).bind fun latestBk => ?_⟩
  refine All.bind ?_ fun _ => all_own (by rfl)
  unfold markRefunded
  cases latestBk with
  | none => trivial
  | some latestBk =>
      dsimp only
      split
      · exact (all_throwIf ..).bind fun _ => (all_beside (by rfl)).bind fun _ =>
          (all_beside (by rfl)).bind fun _ => all_own (by rfl)
      · trivial

theorem transacts_handleRefundFailure {paymentId : String} {amount : Int} {retryCount : Nat} :
    Transacts (·.ofRefund = true)
      (handleRefundFailure bookingId paymentId tenantId amount retryCount) := by
  refine ⟨_, rfl, fun tx => (all_own (by rfl)).bind fun bk => ?_⟩
  refine All.bind ?_ fun _ => (all_own (by rfl)).bind fun _ => all_own (by rfl)
  unfold markRefundFailed
  cases bk with
  | none => trivial
  | some bk =>
      dsimp only
      split
      · exact (all_throwIf ..).bind fun _ => all_own (by rfl)
      · trivial

theorem all_resolveBookingId {payment : PaymentEntity} : (resolveBookingId payment).All Aside := by
  unfold resolveBookingId
  split
  · trivial
  · split
    · trivial
    · exact (all_aside rfl).bind fun _ => trivial

end Calls

end Omnipax.Payments
