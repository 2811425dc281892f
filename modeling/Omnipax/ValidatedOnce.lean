import Omnipax.Refunds
import Omnipax.Validation

/-!
# A booking is let in once

The update of `validateTicket` asks for `scannedAt` again, so of all the calls
for a booking one lets it in, whatever happens in between. The status has been
read before: a refund between the read and the update goes unnoticed.
-/

namespace Omnipax.Payments.Validation

open Conc Database Prog

/-! ## The system -/

inductive ValidationOp where
  | validateTicket (bookingId qrToken adminId : String)
  | refundPayment (bookingId : String) (seatsToRefund : Option Int)

inductive ValidationOutcome where
  | validated (reply : ValidationReply)
  | refunded (refundId : String) (refundAmount : Money)
deriving DecidableEq

/-- A program of the payment services, in this database. -/
abbrev ofPay {α : Type} (p : PayM α) : ValidationM α :=
  embed ValidationStmt.pay (fun _ a => a) ValidationExn.pay p

def ValidationOp.body (P : SeatPlatform) (toISOString : Time → String) :
    ValidationOp → ValidationM ValidationOutcome
  | .validateTicket bookingId qrToken adminId =>
      .validated <$> Validation.validateTicket toISOString bookingId qrToken adminId
  | .refundPayment bookingId seatsToRefund =>
      (fun r => .refunded r.1 r.2) <$> ofPay (Payments.refundPayment P bookingId seatsToRefund)

abbrev ValidationStore := Store ValidationData ValidationWrite
abbrev ValidationSnap := Snap validationDb.sig ValidationStore PayOracle ValidationOp
abbrev ValidationEvent := Conc.Event validationDb.sig ValidationStore PayOracle ValidationOp
abbrev ValidationConfig :=
  Config validationDb.sig ValidationStore PayOracle ValidationExn ValidationOutcome ValidationOp
abbrev ValidationLabel := Label PayOracle (DbEnv Nat) ValidationOp

def tick (t : Nat) (d : ValidationData) : ValidationData :=
  { d with pay := { d.pay with clock := d.pay.clock + t } }

/-- Any number of validations and of refunds, which are what else moves a booking there,
while time goes on and transactions may be given up. -/
abbrev validation (P : SeatPlatform) (toISOString : Time → String) :
    System validationDb.sig ValidationStore PayOracle (DbEnv Nat) ValidationExn ValidationOutcome
      ValidationOp :=
  validationDb.system tick (ValidationOp.body P toISOString)

/-! ## What is observed -/

def scannedAt? (id : String) (d : ValidationData) : Option Time :=
  (d.booking? id).bind (·.scannedAt)

def status? (id : String) (d : ValidationData) : Option BookingStatus :=
  (d.booking? id).map (·.status)

section Observed

variable {d : ValidationData} {id : String}

theorem booking?_map {f : Booking → Booking} (hf : ∀ b, (f b).id = b.id) :
    (d.pay.bookings.rows.map f).find? (·.id == id) = (d.booking? id).map f := by
  rw [List.find?_map]
  congr 1
  exact congrArg (fun p => d.pay.bookings.rows.find? p) (funext fun b => by simp [hf])

/-- A write of the payment services leaves the columns of the door alone. -/
theorem scannedAt?_pay (w : PayWrite) :
    scannedAt? id (validationDb.apply (.pay w) d) = scannedAt? id d := by
  cases w with
  | booking bookingId u =>
      show ((d.pay.bookings.rows.map _).find? _).bind _ = _
      rw [booking?_map fun b => by split <;> rfl]
      unfold scannedAt?
      cases d.booking? id with
      | none => rfl
      | some b =>
          simp only [Option.map_some, Option.bind_some]
          split <;> rfl
  | _ => rfl

theorem id_of_booking? {b : Booking} (h : d.booking? id = some b) : b.id = id := by
  simpa using List.find?_some h

theorem scannedAt?_scan {bookingId validatedBy : String} {t : Time} :
    scannedAt? id (validationDb.apply (.scan bookingId t validatedBy) d)
      = if id = bookingId then (d.booking? id).map fun _ => t else scannedAt? id d := by
  show ((d.pay.bookings.rows.map _).find? _).bind _ = _
  rw [booking?_map fun b => by split <;> rfl]
  unfold scannedAt?
  cases h : d.booking? id with
  | none => simp
  | some b =>
      obtain rfl := id_of_booking? h
      by_cases hid : b.id = bookingId
      · simp [hid, scanned]
      · simp [hid]

end Observed

def ValidationWrite.scans : ValidationWrite → Bool
  | .scan .. => true
  | _ => false

/-- The booking a command lets in. -/
def admits? : TxCmd ValidationStmt → Option String
  | .stmt _ (.bookingScan id _ _) => some id
  | _ => none

def finds : TxCmd ValidationStmt → Bool
  | .stmt _ (.bookingFindWithShow _) => true
  | _ => false

def after (e : ValidationEvent) : ValidationData := (validationDb.step e.cmd e.oracle e.before).2.data

/-- The event lets the booking in. -/
def admitsBooking (id : String) (e : ValidationEvent) : Bool :=
  (scannedAt? id e.before.data).isNone && (scannedAt? id (after e)).isSome

/-- What has happened since call `i` has read its booking. -/
def sinceFound (i : Nat) (hist : List ValidationEvent) : List ValidationEvent :=
  hist.takeWhile fun e => !(e.tid == i && finds e.cmd)

/-! ## Rules -/

def validations : Discipline validationDb.sig ValidationStore PayOracle ValidationOp where
  starts _ := True
  allows _ _ c o s := validationDb.waits c o s.world = false

/-- The status of a booking does not change while a call is between its read of the booking
and its update, whoever would change it. -/
def steadyValidations : Discipline validationDb.sig ValidationStore PayOracle ValidationOp where
  starts _ := True
  allows i _ c o s := validationDb.waits c o s.world = false ∧
    ∀ id ∈ admits? c, ∀ e ∈ sinceFound i s.hist, status? id (after e) = status? id e.before.data

instance : DecidablePred validations.starts := fun _ => inferInstanceAs (Decidable True)

instance : DecidablePred steadyValidations.starts := fun _ => inferInstanceAs (Decidable True)

instance (i : Nat) (op : ValidationOp) (c : TxCmd ValidationStmt) (o : PayOracle) :
    DecidablePred (validations.allows i op c o) := fun s =>
  inferInstanceAs (Decidable (validationDb.waits c o s.world = false))

instance (i : Nat) (op : ValidationOp) (c : TxCmd ValidationStmt) (o : PayOracle) :
    DecidablePred (steadyValidations.allows i op c o) := fun s =>
  inferInstanceAs (Decidable (validationDb.waits c o s.world = false ∧
    ∀ id ∈ admits? c, ∀ e ∈ sinceFound i s.hist, status? id (after e) = status? id e.before.data))

/-! ## What a command does -/

section Step

variable {s : ValidationStore} {c : TxCmd ValidationStmt} {o : PayOracle} {id : String}

/-- The update is a statement by itself. -/
def ByItself (c : TxCmd ValidationStmt) : Prop :=
  ∀ tx id t validatedBy, c ≠ .stmt (some tx) (.bookingScan id t validatedBy)

theorem scans_exec {q : ValidationStmt} {d : ValidationData}
    (hq : ∀ id t validatedBy, q ≠ .bookingScan id t validatedBy) :
    ∀ w ∈ (validationDb.exec q o d).2, w.scans = false := by
  intro w hw
  change w ∈ (ValidationStmt.exec o d q).2 at hw
  cases q with
  | pay q =>
      obtain ⟨w, -, rfl⟩ := List.mem_map.mp hw
      rfl
  | bookingFindWithShow id => cases hw
  | bookingScan id t validatedBy => exact absurd rfl (hq id t validatedBy)
  | auditLogCreate row =>
      simp only [ValidationStmt.exec] at hw
      split at hw
      · obtain rfl := List.mem_singleton.mp hw
        rfl
      · cases hw

theorem scannedAt?_applyAll {ws : List ValidationWrite} {d : ValidationData}
    (hws : ∀ w ∈ ws, w.scans = false) :
    scannedAt? id (validationDb.applyAll ws d) = scannedAt? id d := by
  refine applyAll_of_forall (I := fun d' => scannedAt? id d' = scannedAt? id d)
    (fun w hw d' hd' => ?_) rfl
  cases w with
  | pay w => exact (scannedAt?_pay w).trans hd'
  | scan id t validatedBy => cases hws _ hw
  | auditLog row => exact hd'

/-- A command of the calls lets a booking in that has not been scanned, or
changes nothing of when bookings have been. -/
inductive Admission (c : TxCmd ValidationStmt) (d d' : ValidationData) : Prop where
  | same : (∀ id, scannedAt? id d' = scannedAt? id d) → Admission c d d'
  | scanned (id : String) (t : Time) : admits? c = some id → scannedAt? id d = none →
      scannedAt? id d' = some t → (∀ id', id' ≠ id → scannedAt? id' d' = scannedAt? id' d) →
      Admission c d d'

theorem step_admission (hw : WritesIn (fun w : ValidationWrite => w.scans = false) s)
    (hc : ByItself c) :
    WritesIn (fun w : ValidationWrite => w.scans = false) (validationDb.step c o s).2 ∧
      Admission c s.data (validationDb.step c o s).2.data := by
  by_cases hscan : ∃ id t validatedBy, c = .stmt none (.bookingScan id t validatedBy)
  · obtain ⟨id, t, validatedBy, rfl⟩ := hscan
    have hsessions :
        (validationDb.step (.stmt none (.bookingScan id t validatedBy)) o s).2.sessions
          = s.sessions := by
      simp only [step, autocommit]
      split <;> rfl
    refine ⟨by rwa [WritesIn, hsessions], ?_⟩
    rcases step_data validationDb (.stmt none (.bookingScan id t validatedBy)) o s with
      hd | ⟨q, hq, -, hd⟩ | ⟨ss, hss, -⟩
    · rw [hd]
      exact .same fun _ => rfl
    · obtain rfl : ValidationStmt.bookingScan id t validatedBy = q := by
        cases hq
        rfl
      rw [hd]
      show Admission _ _ (validationDb.applyAll
        (ValidationStmt.exec o s.data (.bookingScan id t validatedBy)).2 s.data)
      simp only [ValidationStmt.exec]
      split
      · rename_i hfree
        obtain ⟨b, hb, hnone⟩ : ∃ b, s.data.booking? id = some b ∧ b.scannedAt.isNone := by
          simpa [Option.any_eq_true] using hfree
        refine .scanned id t rfl ?_ ?_ fun id' hne => ?_
        · simpa [scannedAt?, hb] using hnone
        · refine scannedAt?_scan.trans ?_
          rw [if_pos rfl, hb]
          rfl
        · exact scannedAt?_scan.trans (if_neg hne)
      · exact .same fun _ => rfl
    · cases hss
  · have hq : ∀ t q, c = .stmt t q → ∀ w ∈ validationDb.wants t q o s, w.scans = false := by
      rintro t q rfl w hmem
      obtain ⟨d, hd⟩ := mem_wants hmem
      refine scans_exec (fun id t' validatedBy => ?_) w hd
      rintro rfl
      cases t with
      | none => exact hscan ⟨id, t', validatedBy, rfl⟩
      | some tx => exact hc tx id t' validatedBy rfl
    obtain ⟨hw', ws, hws, hd⟩ := writesIn_step hw hq
    refine ⟨hw', .same fun id => ?_⟩
    rw [hd, scannedAt?_applyAll hws]

end Step

/-! ## The outline -/

section Outline

variable {P : SeatPlatform} {toISOString : Time → String} {id bookingId : String} {i : Nat}
  {op : ValidationOp} {s : ValidationSnap} {c : TxCmd ValidationStmt} {o : PayOracle}

/-- The booking has been let in at most once so far, and while it was CONFIRMED;
when this was has not changed since. -/
structure Admitted (id : String) (s : ValidationSnap) : Prop where
  quiet : WritesIn (fun w : ValidationWrite => w.scans = false) s.world
  once : s.hist.countP (admitsBooking id) ≤ (scannedAt? id s.world.data).isSome.toNat
  kept : ∀ e ∈ s.hist, ∀ t, scannedAt? id e.before.data = some t → scannedAt? id (after e) = some t
  confirmed : ∀ e ∈ s.hist, admitsBooking id e = true →
    status? id e.before.data = some .CONFIRMED

/-- The booking that call `i` has read is CONFIRMED still, if its status has not
changed since. -/
def FoundConfirmed (i : Nat) (id : String) (s : ValidationSnap) : Prop :=
  (∀ e ∈ sinceFound i s.hist, status? id (after e) = status? id e.before.data) →
    status? id s.world.data = some .CONFIRMED

/-- A booking is let in by a statement by itself, after it has been found
CONFIRMED. -/
def validationOutline (id : String) :
    Outline validationDb.sig ValidationStore PayOracle ValidationOp where
  toDiscipline := steadyValidations
  inv := Admitted id
  pre i _ c s := ByItself c ∧ ∀ id ∈ admits? c, FoundConfirmed i id s

/-- **Step**: a booking is let in once, and while it is CONFIRMED. -/
theorem admitted_exec (h : Admitted id s) (hc : ByItself c)
    (hconfirmed : ∀ id ∈ admits? c, status? id s.world.data = some .CONFIRMED) :
    Admitted id (s.exec (validation P toISOString) i op c o) := by
  obtain ⟨hquiet, hadmission⟩ := step_admission (o := o) h.quiet hc
  have hafter : after (⟨i, op, c, o, s.world⟩ : ValidationEvent)
      = (validationDb.step c o s.world).2.data := rfl
  have hevent : admitsBooking id (⟨i, op, c, o, s.world⟩ : ValidationEvent)
      = ((scannedAt? id s.world.data).isNone &&
          (scannedAt? id (validationDb.step c o s.world).2.data).isSome) := rfl
  refine ⟨hquiet, ?_, fun e he => ?_, fun e he => ?_⟩
  · rw [Snap.exec_hist, List.countP_cons, hevent]
    show _ ≤ (scannedAt? id (validationDb.step c o s.world).2.data).isSome.toNat
    have hstep : scannedAt? id (validationDb.step c o s.world).2.data = scannedAt? id s.world.data ∨
        scannedAt? id s.world.data = none := by
      cases hadmission with
      | same hsame => exact Or.inl (hsame id)
      | scanned id' t _ hnone _ hothers =>
          by_cases hid : id = id'
          · subst hid
            exact Or.inr hnone
          · exact Or.inl (hothers id hid)
    have honce := h.once
    rcases hstep with hsame | hnone
    · rw [hsame]
      cases hs : scannedAt? id s.world.data <;> simp [hs] at honce ⊢ <;> omega
    · rw [hnone] at honce ⊢
      cases hs : scannedAt? id (validationDb.step c o s.world).2.data <;> simp at honce ⊢ <;> omega
  · rcases List.mem_cons.mp he with rfl | he
    · intro t ht
      rw [hafter]
      cases hadmission with
      | same hsame => exact (hsame id).trans ht
      | scanned id' t' _ hnone _ hothers =>
          by_cases hid : id = id'
          · subst hid
            cases hnone.symm.trans ht
          · exact (hothers id hid).trans ht
    · exact h.kept e he
  · rcases List.mem_cons.mp he with rfl | he
    · intro hadmits
      rw [hevent, Bool.and_eq_true, Option.isNone_iff_eq_none] at hadmits
      cases hadmission with
      | same hsame =>
          rw [hsame, hadmits.1] at hadmits
          cases hadmits.2
      | scanned id' t' hc' _ _ hothers =>
          by_cases hid : id = id'
          · subst hid
            exact hconfirmed id hc'
          · rw [hothers id hid, hadmits.1] at hadmits
            cases hadmits.2
    · exact h.confirmed e he

theorem FoundConfirmed.exec {j : Nat} (h : FoundConfirmed i id s)
    (hj : ¬(j = i ∧ finds c = true)) :
    FoundConfirmed i id (s.exec (validation P toISOString) j op c o) := by
  intro hsteady
  have hnotFound : (!(j == i && finds c)) = true := by
    rw [Bool.not_eq_true', ← Bool.not_eq_true, Bool.and_eq_true, beq_iff_eq]
    exact hj
  have hsince : sinceFound i (⟨j, op, c, o, s.world⟩ :: s.hist)
      = ⟨j, op, c, o, s.world⟩ :: sinceFound i s.hist :=
    List.takeWhile_cons_of_pos hnotFound
  rw [Snap.exec_hist, hsince] at hsteady
  have hstatus := h fun e he => hsteady e (List.mem_cons_of_mem _ he)
  exact (hsteady _ (List.mem_cons_self ..)).trans hstatus

theorem FoundConfirmed.stable (i : Nat) (bookingId : String) :
    Stable (validation P toISOString) (validationOutline id) i (FoundConfirmed i bookingId) := by
  intro s s' h hs
  cases h with
  | env e _ => cases e <;> exact hs
  | other hj _ _ _ _ => exact hs.exec fun hfound => hj hfound.1

/-- The call has let the booking in. -/
def AdmittedBy (i : Nat) (id : String) (s : ValidationSnap) : Prop :=
  1 ≤ s.hist.countP fun e => e.tid == i && admitsBooking id e

theorem AdmittedBy.persistent (P : SeatPlatform) (toISOString : Time → String) (i : Nat)
    (id : String) : Persistent (validation P toISOString) (AdmittedBy i id) where
  exec h j op c o := by
    rw [AdmittedBy, Snap.exec_hist, List.countP_cons]
    exact Nat.le_add_right_of_le h
  env h _ := h

/-! ## The calls -/

theorem fine_log {action : String} {metadata : ScanAudit} {userId : String}
    (hinv : Admitted id s) :
    Fine tick (ValidationOp.body P toISOString) (validationOutline id) i op
      (log action metadata userId) s :=
  fine_attempt hinv (fine_last fun _ _ => ⟨nofun, nofun⟩) fun _ _ _ => fine_ret

/-- The update counts a row only where it lets the booking in. -/
theorem admittedBy_scan {t : Time} {adminId : String} {count : Nat}
    (h : (validationDb.step (.stmt none (.bookingScan bookingId t adminId)) o s.world).1 = .ok count)
    (hcount : count ≠ 0) :
    AdmittedBy i bookingId (s.exec (validation P toISOString) i op
      (.stmt none (.bookingScan bookingId t adminId)) o) := by
  obtain ⟨hexec, hdata⟩ := query_ok h
  change (ValidationStmt.exec o s.world.data (.bookingScan bookingId t adminId)).1 = _ at hexec
  simp only [ValidationStmt.exec] at hexec
  split at hexec
  · rename_i hfree
    obtain ⟨b, hb, hnone⟩ : ∃ b, s.world.data.booking? bookingId = some b ∧ b.scannedAt.isNone := by
      simpa [Option.any_eq_true] using hfree
    have hwrites : (validationDb.exec (.bookingScan bookingId t adminId) o s.world.data).2
        = [.scan bookingId t adminId] := congrArg Prod.snd (if_pos hfree)
    have hevent : admitsBooking bookingId
        ⟨i, op, .stmt none (.bookingScan bookingId t adminId), o, s.world⟩ = true := by
      unfold admitsBooking after
      rw [hdata, hwrites]
      show ((scannedAt? bookingId s.world.data).isNone &&
        (scannedAt? bookingId (validationDb.apply (.scan bookingId t adminId) s.world.data)).isSome)
          = true
      rw [scannedAt?_scan, if_pos rfl, hb, scannedAt?, hb]
      simpa using hnone
    rw [AdmittedBy, Snap.exec_hist, List.countP_cons]
    simp [hevent]
  · exact absurd (Except.ok.inj hexec).symm hcount

theorem wp_letIn {adminId : String} {found : BookingWithShow} (hF : FoundConfirmed i bookingId s) :
    (letIn bookingId adminId found).wp (validation P toISOString) (validationOutline id) i op
      (fun _ => AdmittedBy i bookingId) (fun _ _ => True) s := by
  refine wp_query (FoundConfirmed.stable i bookingId) hF persistent_true (fun _ _ => trivial)
    (fun _ _ _ => ⟨nofun, nofun⟩) fun s o now _ hF _ _ _ => ?_
  refine wp_query (FoundConfirmed.stable i bookingId) (hF.exec (by simp [finds])) persistent_true
    (fun _ _ => trivial) (fun s _ hF => ⟨nofun, fun id hid => ?_⟩)
    fun s o (count : Nat) _ _ _ hscan _ => ?_
  · obtain rfl := Option.some.inj hid
    exact hF
  · have hby := AdmittedBy.persistent P toISOString i bookingId
    cases hcount : count == 0 with
    | true => exact fun _ _ _ => trivial
    | false =>
        rw [throwIf_false, ret_bind]
        refine wp_query hby.stable (admittedBy_scan hscan (by simpa using hcount)) persistent_true
          (fun _ _ => trivial) (fun _ _ _ => ⟨nofun, nofun⟩) fun s o updated _ hdone _ _ hinv => ?_
        cases updated with
        | none => exact fun _ _ _ => trivial
        | some updated =>
            refine Prog.wp_bind hinv (((fine_log hinv).frame hby (hby.exec hdone ..)).mono
              (fun _ s _ h => ?_) fun _ _ _ h => h)
            exact Prog.wp_ret hby.stable h.2 fun _ _ h => h

theorem wp_validateTicket {qrToken adminId : String} :
    (Validation.validateTicket toISOString bookingId qrToken adminId).wp (validation P toISOString)
      (validationOutline id) i op (fun _ => AdmittedBy i bookingId) (fun _ _ => True) s := by
  refine wp_query persistent_true.stable trivial persistent_true (fun _ _ => trivial)
    (fun _ _ _ => ⟨nofun, nofun⟩) fun s o found _ _ _ hfound hinv => ?_
  cases found with
  | none => exact fun _ _ _ => trivial
  | some found =>
      obtain ⟨hexec, hdata⟩ := query_ok hfound
      obtain ⟨booking, hbooking, hwith⟩ := Option.map_eq_some_iff.mp (Except.ok.inj hexec)
      obtain rfl : booking = found.booking := congrArg BookingWithShow.booking hwith
      dsimp only
      cases hstatus : found.booking.status != .CONFIRMED with
      | true => exact fun _ _ _ => trivial
      | false =>
          rw [throwIf_false, ret_bind]
          split
          · exact fun _ _ _ => trivial
          · split
            · exact fun _ _ _ => trivial
            · split
              · refine wp_letIn fun _ => ?_
                show status? bookingId (validationDb.step _ o s.world).2.data = _
                rw [hdata]
                show (s.world.data.booking? bookingId).map _ = _
                rw [hbooking]
                simpa using hstatus
              · exact Prog.wp_bind hinv ((fine_log hinv).mono (fun _ _ _ _ _ _ _ => trivial)
                  fun _ _ _ h => h)

theorem fine_ofPay {α : Type} (p : PayM α) :
    Fine tick (ValidationOp.body P toISOString) (validationOutline id) i op (ofPay p) s := by
  have hall : (ofPay p).All (Stmts fun q => ∃ q' : PayStmt, q = .pay q') :=
    all_embed (fun q => ⟨q, rfl⟩) p
  refine fine_of_all hall fun c hc s _ => ⟨?_, fun bookingId hid => ?_⟩
  · rintro tx bookingId t adminId rfl
    obtain ⟨q, hq⟩ := hc
    cases hq
  · cases c with
    | stmt tx q =>
        obtain ⟨q, rfl⟩ := hc
        cases hid
    | begin => cases hid
    | commit tx => cases hid
    | rollback tx => cases hid

theorem validationOutline_valid (id : String) :
    Outline.Valid (validation P toISOString) (validationOutline id) fun i op _ s =>
      ∀ bookingId qrToken adminId, op = .validateTicket bookingId qrToken adminId →
        AdmittedBy i bookingId s where
  inv_exec hinv _ _ _ _ _ hpre hallows :=
    admitted_exec hinv hpre.1 fun id hid => hpre.2 id hid (hallows.2 id hid)
  inv_env h e := by
    cases e with
    | data t => exact ⟨h.quiet, h.once, h.kept, h.confirmed⟩
    | abort tx =>
        exact ⟨fun ss hss => h.quiet ss (List.mem_filter.mp hss).1, h.once, h.kept, h.confirmed⟩
  body := by
    intro i op s _ _ _
    cases op with
    | validateTicket bookingId qrToken adminId =>
        refine wp_map _ (wp_validateTicket.mono (fun _ s _ h => ?_) fun _ _ _ h => h)
        rintro _ _ _ ⟨⟩
        exact h
    | refundPayment bookingId seatsToRefund =>
        exact wp_map _ ((fine_ofPay _).mono (fun _ s _ _ _ _ _ h => by cases h) fun _ _ _ h => h)

end Outline

/-! ## Runs -/

/-- The booking that this call has let in, if it is a validation that has returned. -/
def validated
    (th : Thread validationDb.sig ValidationExn ValidationOutcome ValidationOp) : List String :=
  match th.op, th.prog with
  | .validateTicket bookingId _ _, .ret _ => [bookingId]
  | _, _ => []

/-- One call for the booking succeeds, it is let in while it is CONFIRMED, and
when this was is not overwritten. -/
structure ValidatedOnce (cfg : ValidationConfig) (id : String) : Prop where
  once : (cfg.threads.flatMap validated).countP (· == id) ≤ 1
  kept : ∀ e ∈ cfg.hist, ∀ t, scannedAt? id e.before.data = some t → scannedAt? id (after e) = some t
  confirmed : ∀ e ∈ cfg.hist, scannedAt? id e.before.data = none → scannedAt? id (after e) ≠ none →
    status? id e.before.data = some .CONFIRMED

/-- **Validations**: along every run of `steadyValidations`, each booking is let
in once, and while it is CONFIRMED. -/
theorem validatedOnce_run (P : SeatPlatform) (toISOString : Time → String) (d : ValidationData)
    {ls : List ValidationLabel}
    (hls : steadyValidations.admitsRun (validation P toISOString) (Config.idle (.idle d)) ls)
    (id : String) :
    ValidatedOnce ((Config.idle (.idle d)).run (validation P toISOString) ls) id := by
  have hidle : Admitted id (⟨.idle d, []⟩ : ValidationSnap) :=
    ⟨fun _ h => (nomatch h), Nat.zero_le _, fun _ h => (nomatch h), fun _ h => (nomatch h)⟩
  have hgood := Outline.sound (validationOutline_valid id) (Outline.Good.idle hidle) hls
  generalize (Config.idle (.idle d)).run (validation P toISOString) ls = cfg at hgood ⊢
  refine ⟨?_, hgood.inv.kept, fun e he hbefore hafter => hgood.inv.confirmed e he ?_⟩
  · have hbacked : (cfg.threads.flatMap validated).countP (· == id)
        ≤ cfg.hist.countP (admitsBooking id) := by
      refine countP_flatMap_le fun i th hth => ?_
      obtain ⟨op, prog⟩ := th
      cases op with
      | refundPayment bookingId seatsToRefund => cases prog <;> exact Nat.zero_le _
      | validateTicket bookingId qrToken adminId =>
          cases prog with
          | err e => exact Nat.zero_le _
          | call c k => exact Nat.zero_le _
          | ret r =>
              have hresult := hgood.result hth bookingId qrToken adminId rfl
              show [bookingId].countP _ ≤ _
              by_cases hid : bookingId = id
              · subst hid
                exact Nat.le_trans (by simp) hresult
              · simp [hid]
    refine Nat.le_trans hbacked (Nat.le_trans hgood.inv.once ?_)
    cases (scannedAt? id cfg.world.data).isSome <;> decide
  · unfold admitsBooking
    rw [hbefore, Option.isNone_none, Bool.true_and]
    exact Option.isSome_iff_ne_none.mpr hafter

namespace Sample

/-- A booking over two seats, with its token. -/
def ticketed : ValidationData where
  pay := { Payments.Sample.twoSeatsData with
    bookings := ⟨[{ Payments.Sample.twoSeats with qrToken := some "c0ffee" }], by decide⟩ }
  users := [("u1", "ada@example.com"), ("door", "door@example.com")]

def toISOString (t : Time) : String := toString t

def atDoor : ValidationLabel := .spawn (.validateTicket "b1" "C0FFEE" "door")

def steps (i n : Nat) : List ValidationLabel := List.replicate n (.step i { fresh := "rfnd_1" })

/-- Two scanners read the booking, and both go on to the update. -/
def twoScanners : List ValidationLabel :=
  [atDoor, atDoor] ++ steps 0 1 ++ steps 1 1 ++ steps 0 4 ++ steps 1 4

/-- A refund between the read of a scanner and its update. -/
def refundInBetween : List ValidationLabel :=
  [atDoor, .spawn (.refundPayment "b1" none)] ++ steps 0 1 ++ steps 1 5 ++ steps 0 4

end Sample

theorem validatedOnce_twoScanners :
    scannedAt? "b1" ((Config.idle (.idle Sample.ticketed)).run
      (validation Payments.Sample.seatPlatform Sample.toISOString) Sample.twoScanners).world.data
        = some 0 ∧
    ValidatedOnce ((Config.idle (.idle Sample.ticketed)).run
      (validation Payments.Sample.seatPlatform Sample.toISOString) Sample.twoScanners) "b1" :=
  ⟨by decide +kernel, validatedOnce_run Payments.Sample.seatPlatform Sample.toISOString
    Sample.ticketed (by decide +kernel) "b1"⟩

/-- A booking whose refund has been initiated is let in. -/
theorem not_validatedOnce_refundInBetween :
    ¬ ∀ (P : SeatPlatform) (toISOString : Time → String) (d : ValidationData)
        (ls : List ValidationLabel) (id : String),
      validations.admitsRun (validation P toISOString) (Config.idle (.idle d)) ls →
      ValidatedOnce ((Config.idle (.idle d)).run (validation P toISOString) ls) id := by
  intro h
  have hrun := h Payments.Sample.seatPlatform Sample.toISOString Sample.ticketed
    Sample.refundInBetween "b1" (by decide +kernel)
  have hlate : ∃ e ∈ ((Config.idle (.idle Sample.ticketed)).run
      (validation Payments.Sample.seatPlatform Sample.toISOString) Sample.refundInBetween).hist,
      scannedAt? "b1" e.before.data = none ∧ scannedAt? "b1" (after e) ≠ none ∧
        status? "b1" e.before.data = some .REFUND_INITIATED := by decide +kernel
  obtain ⟨e, he, hbefore, hafter, hstatus⟩ := hlate
  cases hstatus.symm.trans (hrun.confirmed e he hbefore hafter)

end Omnipax.Payments.Validation
