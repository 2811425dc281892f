import Omnipax.CallStatements
import Omnipax.PaymentOnce

/-!
# What a tenant has earned

`PaymentReconciliationService` logs a payment and adds its amount to the revenue
of a tenant in one transaction, and a job of `ReliabilityProcessor` sets all
revenues to zero on the first of a month. Between two resets the revenue of a
tenant is what its verified payments have brought, whatever else runs and
whatever fails on the way.
-/

namespace Omnipax.Payments.Revenue

open Conc Prog Database

/-! ## `ReliabilityProcessor` -/

/-- The job `daily-usage-reset`, on a day of the month. -/
def handleUsageReset (getDate : Nat) (d : PayData) : PayData :=
  if getDate = 1 then { d with tenants := d.tenants.map fun t => { t with monthlyRevenue := ⟨0⟩ } }
  else d

/-- Time passes, Razorpay takes a payment, or the job runs. -/
inductive BookMove where
  | pay (m : PayMove)
  | usageReset (getDate : Nat)

def BookMove.apply : BookMove → PayData → PayData
  | .pay m, d => m.apply d
  | .usageReset getDate, d => handleUsageReset getDate d

abbrev BookSystem :=
  System payDb.sig PayStore PayOracle (DbEnv BookMove) PayExn StatusAnswer StatusOp
abbrev BookLabel := Label PayOracle (DbEnv BookMove) StatusOp

/-- The writers of bookings, each of them interrupted anywhere, with the monthly job that
resets the usage of tenants. -/
def bookkeeping (P : SeatPlatform) : BookSystem := payDb.system BookMove.apply (StatusOp.body P)

/-- The job runs on the first of a month. -/
def firstOfMonth : DbEnv BookMove := .data (.usageReset 1)

/-! ## The books -/

def revenueOf (tenantId : String) (d : PayData) : Option Int :=
  (d.tenants.find? (·.id == tenantId)).map (·.monthlyRevenue.hundredths)

/-- What the verified payments of the tenant amount to. -/
def earned (tenantId : String) (logs : List PaymentLog) : Int :=
  ((logs.filter fun l => l.verified && l.tenantId == tenantId).map (·.amount.hundredths)).sum

def log? : PayWrite → Option PaymentLog
  | .paymentLog row => some row
  | _ => none

/-- What a write adds to the revenue of the tenant. -/
def adds (tenantId : String) : PayWrite → Int
  | .revenue id amount => if id = tenantId then amount.hundredths else 0
  | _ => 0

def logged (ws : List PayWrite) : List PaymentLog := ws.filterMap log?

def added (tenantId : String) (ws : List PayWrite) : Int := (ws.map (adds tenantId)).sum

/-- The revenue of every tenant grows by what is logged. -/
def Balanced (ws : List PayWrite) : Prop := ∀ tenantId, added tenantId ws = earned tenantId (logged ws)

/-- The statement touches neither the logs nor a revenue. -/
def sparesBooks : PayStmt → Bool
  | .paymentLogCreate _ => false
  | .tenantUpdate .. => false
  | _ => true

/-- Nor the ledger, nor the events. -/
def sparesRecords : PayStmt → Bool
  | .ledgerCreateMany _ => false
  | .paymentEventCreate .. => false
  | q => sparesBooks q

/-- From `d` to `d'` logs are added, and what they bring. -/
def Earns (d d' : PayData) : Prop :=
  ∃ logs, d'.paymentLogs = d.paymentLogs ++ logs ∧
    ∀ tenantId, revenueOf tenantId d' = (revenueOf tenantId d).map (· + earned tenantId logs)

section Books

variable {w : PayWrite} {ws ws' : List PayWrite} {d d' d'' : PayData} {q : PayStmt} {o : PayOracle}
  {tenantId : String} {l l' : List PaymentLog}

theorem earned_append : earned tenantId (l ++ l') = earned tenantId l + earned tenantId l' := by
  rw [earned, List.filter_append, List.map_append, List.sum_append]
  rfl

theorem paymentLogs_apply (w : PayWrite) (d : PayData) :
    (payDb.apply w d).paymentLogs = d.paymentLogs ++ (log? w).toList := by
  cases w with
  | paymentLog row => rfl
  | _ => exact (List.append_nil _).symm

theorem paymentLogs_applyAll (ws : List PayWrite) (d : PayData) :
    (payDb.applyAll ws d).paymentLogs = d.paymentLogs ++ logged ws := by
  induction ws generalizing d with
  | nil => exact (List.append_nil _).symm
  | cons w ws ih =>
      rw [applyAll_cons, ih, paymentLogs_apply, List.append_assoc]
      cases hrow : log? w with
      | none => rw [logged, logged, List.filterMap_cons_none hrow]; rfl
      | some row => rw [logged, logged, List.filterMap_cons_some hrow]; rfl

theorem revenueOf_apply (w : PayWrite) (d : PayData) : revenueOf tenantId (payDb.apply w d)
    = (revenueOf tenantId d).map (· + adds tenantId w) := by
  have hsame : revenueOf tenantId d = (revenueOf tenantId d).map (· + 0) := by
    simp
  cases w with
  | revenue id amount =>
      show ((d.tenants.map _).find? fun t : Tenant => t.id == tenantId).map _ = _
      rw [List.find?_map, Option.map_map, revenueOf, Option.map_map]
      have hid : ((fun t : Tenant => t.id == tenantId) ∘ fun t => if t.id = id then
          { t with monthlyRevenue := ⟨t.monthlyRevenue.hundredths + amount.hundredths⟩ } else t)
          = (·.id == tenantId) := by
        funext t
        simp only [Function.comp_apply]
        split <;> rfl
      rw [hid]
      cases hfind : d.tenants.find? (·.id == tenantId) with
      | none => rfl
      | some t =>
          have ht : t.id = tenantId := by simpa using List.find?_some hfind
          simp only [Option.map_some, Function.comp_apply, adds, ht, eq_comm (a := tenantId)]
          split <;> simp
  | _ => exact hsame

theorem revenueOf_applyAll (ws : List PayWrite) (d : PayData) :
    revenueOf tenantId (payDb.applyAll ws d)
      = (revenueOf tenantId d).map (· + added tenantId ws) := by
  induction ws generalizing d with
  | nil =>
      show revenueOf tenantId d = _
      simp [added]
  | cons w ws ih =>
      rw [applyAll_cons, ih, revenueOf_apply, Option.map_map]
      refine congrArg (fun f => Option.map f _) (funext fun n => ?_)
      simp only [Function.comp_apply, added, List.map_cons, List.sum_cons]
      omega

theorem Earns.refl (d : PayData) : Earns d d := by
  refine ⟨[], (List.append_nil _).symm, fun tenantId => ?_⟩
  simp [earned]

theorem Earns.trans (h : Earns d d') (h' : Earns d' d'') : Earns d d'' := by
  obtain ⟨logs, hlogs, hrevenue⟩ := h
  obtain ⟨logs', hlogs', hrevenue'⟩ := h'
  refine ⟨logs ++ logs', by rw [hlogs', hlogs, List.append_assoc], fun tenantId => ?_⟩
  rw [hrevenue', hrevenue, Option.map_map, earned_append]
  refine congrArg (fun f => Option.map f _) (funext fun n => ?_)
  simp only [Function.comp_apply]
  omega

theorem Balanced.earns (h : Balanced ws) (d : PayData) : Earns d (payDb.applyAll ws d) :=
  ⟨logged ws, paymentLogs_applyAll ws d, fun tenantId => by rw [revenueOf_applyAll, h]⟩

theorem spares_write (hq : sparesBooks q = true) (hw : w ∈ (payDb.exec q o d).2) :
    log? w = none ∧ ∀ tenantId, adds tenantId w = 0 := by
  have hwrites := writes_exec hw
  cases w with
  | paymentLog row =>
      cases q with
      | paymentLogCreate _ => cases hq
      | _ => cases hwrites
  | revenue id amount =>
      cases q with
      | tenantUpdate _ _ => cases hq
      | _ => cases hwrites
  | _ => exact ⟨rfl, fun _ => rfl⟩

theorem balanced_of_spares
    (h : ∀ w ∈ ws, log? w = none ∧ ∀ tenantId, adds tenantId w = 0) :
    Balanced ws := by
  intro tenantId
  have hlogged : logged ws = [] := List.filterMap_eq_nil_iff.mpr fun w hw => (h w hw).1
  have hadded : added tenantId ws = 0 := List.sum_eq_zero fun n hn => by
    obtain ⟨w, hw, rfl⟩ := List.mem_map.mp hn
    exact (h w hw).2 tenantId
  rw [hlogged, hadded]
  rfl

end Books

/-! ## A step -/

/-- The payments that an open transaction has logged are in the log neither twice nor
already: the unique index has it so, and the keys of the transaction keep it so until it
ends. -/
structure NewLogs (ws : List PayWrite) (d : PayData) : Prop where
  nodup : ((logged ws).map (·.razorpayPaymentId)).Nodup
  new : ∀ l ∈ logged ws, ∀ l' ∈ d.paymentLogs, l'.razorpayPaymentId ≠ l.razorpayPaymentId

structure Books (s : StatusSnap) : Prop where
  owned : Owned s
  once : (s.world.data.paymentLogs.map (·.razorpayPaymentId)).Nodup
  new : ∀ ss ∈ s.world.sessions, NewLogs ss.writes s.world.data

/-- Books are kept in transactions, which balance when they commit. -/
def BookPre (i : Nat) (c : TxCmd PayStmt) (s : StatusSnap) : Prop :=
  Own i c s ∧
    match c with
    | .stmt none q => sparesBooks q = true
    | .commit tx => ∀ ss, s.world.session? tx = some ss → ss.failed = false → Balanced ss.writes
    | _ => True

def bookOutline : Outline payDb.sig PayStore PayOracle StatusOp where
  toDiscipline := waiting
  inv := Books
  pre i _ c s := BookPre i c s

section Step

variable {P : SeatPlatform} {d d' : PayData} {w : PayWrite} {ws : List PayWrite} {s : StatusSnap}
  {i : Nat} {op : StatusOp} {c : TxCmd PayStmt} {o : PayOracle} {q : PayStmt}

theorem mem_logged {l : PaymentLog} : l ∈ logged ws ↔ .paymentLog l ∈ ws := by
  rw [logged, List.mem_filterMap]
  constructor
  · rintro ⟨w, hw, hl⟩
    cases w with
    | paymentLog row => exact Option.some.inj hl ▸ hw
    | _ => cases hl
  · exact fun hl => ⟨_, hl, rfl⟩

theorem NewLogs.congr (h : NewLogs ws d) (hd : d'.paymentLogs = d.paymentLogs) : NewLogs ws d' :=
  ⟨h.nodup, hd ▸ h.new⟩

theorem paymentLogs_move (m : BookMove) (d : PayData) :
    (m.apply d).paymentLogs = d.paymentLogs := by
  cases m with
  | pay m => cases m <;> rfl
  | usageReset getDate =>
      rw [BookMove.apply, handleUsageReset]
      split <;> rfl

theorem NewLogs.frozen {ss : Session PayWrite} (hw : ∀ k ∈ payDb.keys w, ¬payDb.holds ss k)
    (h : NewLogs ss.writes d) : NewLogs ss.writes (payDb.apply w d) := by
  refine ⟨h.nodup, fun l hl l' hl' => ?_⟩
  rw [paymentLogs_apply] at hl'
  rcases List.mem_append.mp hl' with hl' | hl'
  · exact h.new l hl l' hl'
  · intro hid
    cases w with
    | paymentLog row =>
        obtain rfl := List.mem_singleton.mp hl'
        refine hw (.paymentLog l'.razorpayPaymentId) (List.mem_singleton_self _)
          ⟨.paymentLog l, mem_logged.mp hl, ?_⟩
        rw [hid]
        exact List.mem_singleton_self _
    | _ => cases hl'

/-- A statement logs a payment that is in no log it can see. -/
theorem logged_exec (q : PayStmt) (o : PayOracle) (d : PayData) :
    logged (payDb.exec q o d).2 = [] ∨ ∃ row, logged (payDb.exec q o d).2 = [row] ∧
      ∀ l ∈ d.paymentLogs, l.razorpayPaymentId ≠ row.razorpayPaymentId := by
  by_cases hq : ∃ row, q = .paymentLogCreate row
  · obtain ⟨row, rfl⟩ := hq
    show logged (PayStmt.exec o d (.paymentLogCreate row)).2 = [] ∨ _
    by_cases htaken : (d.paymentLogs.any (·.razorpayPaymentId == row.razorpayPaymentId)) = true
    · left
      simp only [PayStmt.exec, htaken, if_true]
      rfl
    · refine Or.inr ⟨row, ?_, fun l hl hid =>
        htaken (List.any_eq_true.mpr ⟨l, hl, by simpa using hid⟩)⟩
      show logged (PayStmt.exec o d (.paymentLogCreate row)).2 = [row]
      simp only [PayStmt.exec, htaken]
      rfl
  · refine Or.inl (List.filterMap_eq_nil_iff.mpr fun w hw => ?_)
    have hwrites := writes_exec hw
    cases w with
    | paymentLog row =>
        cases q with
        | paymentLogCreate row' => exact absurd ⟨row', rfl⟩ hq
        | _ => cases hwrites
    | _ => rfl

theorem books_data (h : Books s) (hpre : BookPre i c s) :
    Earns s.world.data (payDb.step c o s.world).2.data := by
  rcases step_data payDb c o s.world with hd | ⟨q, rfl, -, hd⟩ | ⟨ss, rfl, hss, hgo, hd⟩ <;> rw [hd]
  · exact Earns.refl _
  · exact (balanced_of_spares fun w hw => spares_write hpre.2 hw).earns _
  · exact (hpre.2 ss (session?_of_mem h.owned.store hss) hgo).earns _

theorem once_data (h : Books s) (hpre : BookPre i c s) :
    ((payDb.step c o s.world).2.data.paymentLogs.map (·.razorpayPaymentId)).Nodup := by
  rcases step_data payDb c o s.world with hd | ⟨q, rfl, -, hd⟩ | ⟨ss, rfl, hss, -, hd⟩ <;> rw [hd]
  · exact h.once
  · have hnone : logged (payDb.wants none q o s.world) = [] :=
      List.filterMap_eq_nil_iff.mpr fun w hw => (spares_write hpre.2 hw).1
    rw [paymentLogs_applyAll, hnone, List.append_nil]
    exact h.once
  · rw [paymentLogs_applyAll, List.map_append]
    refine List.Nodup.append h.once (h.new ss hss).nodup fun id hid hid' => ?_
    obtain ⟨l', hl', rfl⟩ := List.mem_map.mp hid
    obtain ⟨l, hl, heq⟩ := List.mem_map.mp hid'
    exact (h.new ss hss).new l hl l' hl' heq.symm

/-- **Step**: a command that meets its assertion keeps the books. -/
theorem books_exec (h : Books s) (hpre : BookPre i c s) (hallows : waiting.allows i op c o s) :
    Books (s.exec (bookkeeping P) i op c o) := by
  refine ⟨h.owned.exec hpre.1 hallows, once_data h hpre, fun ss hss => ?_⟩
  have hcommit : c ≠ .commit ss.id := by
    rintro rfl
    exact id_ne_of_commit hss rfl
  have hkept : ∀ ss₀ ∈ s.world.sessions, ss₀.id = ss.id →
      NewLogs ss₀.writes (payDb.step c o s.world).2.data := fun ss₀ hss₀ hid =>
    frozen_step h.owned.store hss₀ (fun w d hw => NewLogs.frozen hw) hallows (hid ▸ hcommit)
      (h.new ss₀ hss₀)
  rcases session_of_step hss with hnil | ⟨ss₀, hss₀, hid, hsame | ⟨q, rfl, -, happ⟩⟩
  · rw [hnil]
    exact ⟨List.nodup_nil, nofun⟩
  · rw [hsame]
    exact hkept ss₀ hss₀ hid
  · have hold := hkept ss₀ hss₀ hid
    have hss₀' : s.world.session? ss.id = some ss₀ := hid ▸ session?_of_mem h.owned.store hss₀
    have hdata : (payDb.step (.stmt (some ss.id) q) o s.world).2.data = s.world.data := by
      rcases step_data payDb (.stmt (some ss.id) q) o s.world with hd | ⟨_, hc, -⟩ | ⟨_, hc, -⟩
      · exact hd
      · cases hc
      · cases hc
    rw [happ, wants, hss₀']
    dsimp only
    split
    · rw [List.append_nil]
      exact hold
    · rcases logged_exec q o (payDb.applyAll ss₀.writes s.world.data) with hnone | ⟨row, hrow, hnew⟩
      · constructor <;> rw [logged, List.filterMap_append, ← logged, ← logged, hnone, List.append_nil]
        · exact hold.nodup
        · exact hold.new
      · rw [paymentLogs_applyAll] at hnew
        constructor <;> rw [logged, List.filterMap_append, ← logged, ← logged, hrow]
        · rw [List.map_append]
          refine List.Nodup.append hold.nodup (List.nodup_singleton _) fun id hid hid' => ?_
          obtain ⟨l, hl, rfl⟩ := List.mem_map.mp hid
          exact hnew l (List.mem_append_right _ hl) (List.mem_singleton.mp hid')
        · intro l hl l' hl'
          rcases List.mem_append.mp hl with hl | hl
          · exact hold.new l hl l' hl'
          · obtain rfl := List.mem_singleton.mp hl
            change l' ∈ (payDb.step (.stmt (some ss.id) q) o s.world).2.data.paymentLogs at hl'
            rw [hdata] at hl'
            exact hnew l' (List.mem_append_left _ hl')

end Step

/-! ## The other calls

All but `PaymentReconciliationService` leave the books alone. -/

/-- What the code relies on of the missing function, besides: it writes no log of a payment,
no figure of a tenant, nothing in the ledger and no payment event. -/
def SparesRecords (P : SeatPlatform) : Prop :=
  ∀ bookingId tx, (P.releaseSeatsSafely bookingId tx).All (Stmts fun q => sparesRecords q = true)

theorem sparesBooks_of_records {q : PayStmt}
    (h : sparesRecords q = true) : sparesBooks q = true := by
  cases q <;> first | rfl | cases h

theorem says_of_other {P : SeatPlatform} {op : StatusOp} (hP : SparesRecords P)
    (hop : ∀ bookingId orderId paymentId tenantId,
      op ≠ .reconcileBooking bookingId orderId paymentId tenantId) :
    Says (fun q => sparesBooks q = true) (op.body P) := by
  refine says_body (fun q hq => ?_) fun _ bookingId tx =>
    (hP bookingId tx).mono (Stmts.mono fun q => sparesBooks_of_records)
  cases op with
  | reconcileBooking b o p t => exact absurd rfl (hop b o p t)
  | _ => cases q <;> first | rfl | cases hq

/-! ## `PaymentReconciliationService` -/

section Service

variable {P : SeatPlatform} {i tx : Nat} {op : StatusOp} {s : StatusSnap} {α β : Type}

theorem tracks_books : Tracks bookOutline where
  store h := h.owned.store
  openers h := h.owned.openers
  own h := h.1
  waits h := h

abbrev Keeps (P : SeatPlatform) (i : Nat) (op : StatusOp) (p : PayM α) (s : StatusSnap) : Prop :=
  Fine BookMove.apply (StatusOp.body P) bookOutline i op p s

/-- The body of a transaction, which is to balance. -/
abbrev Within (P : SeatPlatform) (i tx : Nat) (op : StatusOp) (p : PayM α) (s : StatusSnap) : Prop :=
  p.wp (bookkeeping P) bookOutline i op (fun _ => InTx i tx (Wrote Balanced))
    (fun _ s => Opened i tx s ∧ True) s

theorem within_balanced {a : α} {ws : List PayWrite} (hs : InTx i tx (Wrote (· = ws)) s)
    (hws : Balanced ws) : Within P i tx op (.ret a) s :=
  wp_ret (Wrote.stable tracks_books _) hs fun _ _ h =>
    h.mono fun _ _ hw => ⟨hw.1 ▸ hws, hw.2⟩

theorem within_wrote {q : PayStmt} {f : q.Ret → PayM β} {w : PayWrite} {ws : List PayWrite}
    (hs : InTx i tx (Wrote (· = ws)) s)
    (hq : ∀ a o d ws', payDb.exec q o d = (.ok a, ws') → ws' = [w])
    (h : ∀ a s, InTx i tx (Wrote (· = ws ++ [w])) s → Within P i tx op (f a) s) :
    Within P i tx op (ask (some tx) q >>= f) s :=
  wp_wrote tracks_books persistent_true hs trivial (fun _ _ h => ⟨h.1.own rfl, trivial⟩)
    (fun a o d ws₀ ws' hws hexec => by rw [hws, hq a o d ws' hexec]) fun a s _ hs _ => h a s hs

theorem within_dateNow {f : Time → PayM β} {ws : List PayWrite} (hs : InTx i tx (Wrote (· = ws)) s)
    (h : ∀ now s, InTx i tx (Wrote (· = ws)) s → Within P i tx op (f now) s) :
    Within P i tx op (ask none .dateNow >>= f) s :=
  wp_query (Wrote.stable tracks_books _) hs ((Opened.persistent i tx).and persistent_true)
    (fun _ h => ⟨h.1, trivial⟩) (fun _ _ _ => ⟨nofun, rfl⟩)
    fun _ _ now hinv hs _ _ _ => h now _ (hs.beside hinv.owned.openers nofun)

theorem balanced_verified {row : PaymentLog} {id : String} {data : BookingUpdate}
    (h : row.verified = true) :
    Balanced [.paymentLog row, .booking id data, .revenue row.tenantId row.amount] := by
  intro tenantId
  have hlogged : logged [.paymentLog row, .booking id data, .revenue row.tenantId row.amount] = [row] := rfl
  rw [hlogged]
  by_cases hid : row.tenantId = tenantId <;> simp [added, adds, earned, h, hid]

theorem balanced_mismatch {row : PaymentLog} {id : String} {data : BookingUpdate}
    (h : row.verified = false) : Balanced [.paymentLog row, .booking id data] := by
  intro tenantId
  have hlogged : logged [.paymentLog row, .booking id data] = [row] := rfl
  rw [hlogged]
  simp [added, adds, earned, h]

theorem keeps_recordPayment {booking : Booking} {orderId paymentId tenantId : String}
    {isVerified : Bool} :
    Keeps P i op (PaymentReconciliationService.recordPayment booking orderId paymentId tenantId
      isVerified) s := by
  refine (wp_transaction (Q := fun _ _ => True) (G := fun _ => True)
    (B := fun tx _ => InTx i tx (Wrote Balanced)) tracks_books trivial persistent_true
    (fun _ _ _ => ⟨nofun, trivial⟩) (fun _ _ _ h => ⟨h.own rfl, trivial⟩)
    (fun _ _ _ _ h => ⟨h.1.own rfl, fun ss hss _ => (h.2 ss hss).1⟩)
    (fun _ _ => Wrote.stable tracks_books _) (fun _ _ _ _ => trivial) (fun s tx _ _ hs => ?_)
    fun _ _ _ _ _ _ _ _ _ => fun _ _ _ => trivial).mono (fun _ _ _ h => h) fun _ _ _ h => h
  have hs' : InTx i tx (Wrote (· = [])) s := hs
  refine within_wrote hs' (fun _ _ _ _ => paymentLogCreate_ok) fun _ s hs => ?_
  cases isVerified with
  | true =>
      refine within_dateNow hs fun now s hs => ?_
      refine within_wrote hs (fun _ _ _ _ => bookingUpdate_ok) fun _ s hs => ?_
      rw [← bind_ret (ask (some tx) _)]
      exact within_wrote hs (fun _ _ _ _ => tenantUpdate_ok) fun _ s hs =>
        within_balanced hs (balanced_verified rfl)
  | false =>
      rw [if_neg (by decide), ← bind_ret (ask (some tx) _)]
      exact within_wrote hs (fun _ _ _ _ => bookingUpdate_ok) fun _ s hs =>
        within_balanced hs (balanced_mismatch rfl)

theorem keeps_reconcileBooking {bookingId orderId paymentId tenantId : String} :
    Keeps P i op (PaymentReconciliationService.reconcileBooking bookingId orderId paymentId tenantId)
      s := by
  refine fine_query (fun _ _ => ⟨nofun, rfl⟩) fun _ _ existingLog _ _ _ => ?_
  cases existingLog with
  | some row => exact fine_ret
  | none =>
      refine fine_query (fun _ _ => ⟨nofun, rfl⟩) fun _ _ booking _ _ hinv => ?_
      cases booking with
      | none => exact fine_ret
      | some booking =>
          have hverify : Keeps P i op (PaymentReconciliationService.verifyPayment paymentId orderId
              booking.finalAmount) _ :=
            fine_attempt hinv (fine_last fun _ _ => ⟨nofun, rfl⟩) fun fetched s _ => by
              cases fetched <;> exact fine_ret
          exact fine_bind hinv hverify fun _ _ _ => keeps_recordPayment

end Service

/-! ## Runs -/

section Runs

variable {P : SeatPlatform}

theorem bookOutline_valid (hR : P.Releases) (hP : SparesRecords P) :
    Outline.Valid (bookkeeping P) bookOutline fun _ _ _ _ => True where
  inv_exec h _ _ _ _ _ hpre hallows := books_exec h hpre hallows
  inv_env {s} h e := by
    cases e with
    | abort tx =>
        exact ⟨owned_env h.owned _, h.once, fun ss hss => h.new ss (List.mem_filter.mp hss).1⟩
    | data m =>
        have hlogs := paymentLogs_move m s.world.data
        refine ⟨owned_env h.owned _, ?_, fun ss hss => (h.new ss hss).congr hlogs⟩
        change ((m.apply s.world.data).paymentLogs.map _).Nodup
        rw [hlogs]
        exact h.once
  body i op s _ hinv hnew := by
    by_cases hop : ∃ b o p t, op = .reconcileBooking b o p t
    · obtain ⟨b, o, p, t, rfl⟩ := hop
      exact wp_map _ keeps_reconcileBooking
    · refine fine_of_says hR (says_of_other hP fun b o p t h => hop ⟨b, o, p, t, h⟩)
        (fun _ h => h.owned) (fun s c hinv hown hc hwrites => ⟨hown, ?_⟩) hnew
      cases c with
      | stmt t q =>
          cases t with
          | none => exact hc
          | some tx => trivial
      | commit tx =>
          refine fun ss hss _ => balanced_of_spares fun w hw => ?_
          obtain ⟨q, o, d, hq, hexec⟩ := hwrites tx rfl ss hss w hw
          exact spares_write hq hexec
      | _ => trivial

theorem earns_env {w : PayStore} {e : DbEnv BookMove} (he : e ≠ firstOfMonth) :
    Earns w.data ((bookkeeping P).env e w).data := by
  cases e with
  | abort tx => exact Earns.refl _
  | data m =>
      cases m with
      | pay m => cases m <;> exact Earns.refl _
      | usageReset getDate =>
          have hday : getDate ≠ 1 := fun h => he (by rw [h]; rfl)
          show Earns w.data (handleUsageReset getDate w.data)
          rw [handleUsageReset, if_neg hday]
          exact Earns.refl _

/-- **Revenue**: between two resets the revenue of every tenant grows by the
amounts of the verified payments that are logged for it, and no payment is
logged twice. -/
theorem revenue_run (P : SeatPlatform) (hR : P.Releases) (hP : SparesRecords P) {d : PayData}
    (hd : (d.paymentLogs.map (·.razorpayPaymentId)).Nodup) {before after : List BookLabel}
    (h : waiting.admitsRun (bookkeeping P) (Config.idle (.idle d)) (before ++ after))
    (hafter : .env firstOfMonth ∉ after) :
    Earns ((Config.idle (.idle d)).run (bookkeeping P) before).world.data
        ((Config.idle (.idle d)).run (bookkeeping P) (before ++ after)).world.data ∧
      (((Config.idle (.idle d)).run (bookkeeping P) (before ++ after)).world.data.paymentLogs.map
        (·.razorpayPaymentId)).Nodup := by
  have hidle : Books (⟨.idle d, []⟩ : StatusSnap) :=
    ⟨owned_idle d, hd, fun _ h => absurd h List.not_mem_nil⟩
  have hvalid := bookOutline_valid hR hP
  refine ⟨?_, (Outline.sound hvalid (Outline.Good.idle hidle) h).inv.once⟩
  obtain ⟨hbefore, hrest⟩ := Discipline.admitsRun_append.mp h
  rw [Config.run_append]
  exact (Outline.sound hvalid (Outline.Good.idle hidle) hbefore).along_of
    (R := fun w w' => Earns w.data w'.data) (E := (· ≠ firstOfMonth)) hvalid
    (fun _ => Earns.refl _) Earns.trans (fun w e he => earns_env he)
    (fun i op c o hinv _ hpre _ => books_data hinv hpre) hrest fun e he heq => hafter (heq ▸ he)

end Runs

namespace Sample

open Payments.Sample

theorem seatPlatform_sparesRecords : SparesRecords seatPlatform := fun _ _ => all_query rfl

/-- The first call has logged its payment when a month begins. -/
def monthBegins : List BookLabel :=
  [.spawn (.reconcileBooking "b1" "order_1" "pay_1" "t1"),
   .spawn (.reconcileBooking "b1" "order_1" "pay_1" "t1"), .step 0 {}, .step 1 {}] ++
    List.replicate 4 (.step 0 {}) ++ [.env firstOfMonth]

def monthGoesOn : List BookLabel := List.replicate 5 (.step 0 {}) ++ List.replicate 5 (.step 1 {})

end Sample

open Payments.Sample in
theorem revenue_monthBegins :
    revenueOf "t1" ((Config.idle (.idle { capturedData with tenants := [⟨"t1", ⟨700⟩⟩] })).run
        (bookkeeping seatPlatform) (Sample.monthBegins ++ Sample.monthGoesOn)).world.data
        = some 50000 ∧
      Earns ((Config.idle (.idle { capturedData with tenants := [⟨"t1", ⟨700⟩⟩] })).run
          (bookkeeping seatPlatform) Sample.monthBegins).world.data
        ((Config.idle (.idle { capturedData with tenants := [⟨"t1", ⟨700⟩⟩] })).run
          (bookkeeping seatPlatform) (Sample.monthBegins ++ Sample.monthGoesOn)).world.data ∧
      (((Config.idle (.idle { capturedData with tenants := [⟨"t1", ⟨700⟩⟩] })).run
        (bookkeeping seatPlatform) (Sample.monthBegins ++ Sample.monthGoesOn)).world.data.paymentLogs.map
          (·.razorpayPaymentId)).Nodup :=
  ⟨by decide +kernel, revenue_run seatPlatform seatPlatform_releases Sample.seatPlatform_sparesRecords
    (by decide) (by decide +kernel) (by simp [Sample.monthGoesOn])⟩

end Omnipax.Payments.Revenue
