import Omnipax.Amounts
import Omnipax.Conc.Transcript
import Omnipax.StatusWriters

/-!
# The paths of a booking's status

Nine services change the status of a booking. Few of them ask
`validateTransition`, and most update the row by its id alone after they have
read it in an earlier statement. Their updates follow `ALLOWED_TRANSITIONS`
as long as each finds the booking in the status its call has read last, and
the writers that do not look at the status have read one they may leave.
-/

namespace Omnipax.Payments

open Conc Prog Database

/-! ## Transitions -/

/-- No change, or one that `ALLOWED_TRANSITIONS` has. -/
def BookingStatus.Follows (a b : BookingStatus) : Prop := a ≠ b → b ∈ a.allowed

instance (a b : BookingStatus) : Decidable (a.Follows b) :=
  inferInstanceAs (Decidable (a ≠ b → b ∈ a.allowed))

/-- The stored status of a booking. -/
def PayData.statusOf (d : PayData) (id : String) : Option BookingStatus :=
  (d.bookings.find id).map (·.status)

/-- Every booking that is there before and after has kept its status or taken one allowed
transition. -/
def Conforms (d d' : PayData) : Prop :=
  ∀ id a b, d.statusOf id = some a → d'.statusOf id = some b → a.Follows b

/-- The status a write gives a booking. -/
def PayWrite.setsStatus (id : String) : PayWrite → Option BookingStatus
  | .booking id' u => if id' = id then u.status else none
  | _ => none

/-- The status writes leave a booking in, if they set one. -/
def lastStatus (id : String) : List PayWrite → Option BookingStatus
  | [] => none
  | w :: ws => (lastStatus id ws).or (w.setsStatus id)

section Writes

variable {id : String} {w : PayWrite} {ws : List PayWrite} {d : PayData} {a b : BookingStatus}

theorem statusOf_apply :
    (payDb.apply w d).statusOf id = (d.statusOf id).map ((w.setsStatus id).getD ·) := by
  have hsame : d.statusOf id = (d.statusOf id).map ((none : Option BookingStatus).getD ·) :=
    Option.map_id'.symm
  cases w with
  | booking id' u =>
      change (((d.bookings.update id' u).find id).map (·.status)) = _
      rw [BookingTable.find_update, PayWrite.setsStatus]
      by_cases hid : id = id'
      · rw [if_pos hid, if_pos hid.symm, PayData.statusOf, Option.map_map, Option.map_map]
        rfl
      · rw [if_neg hid, if_neg fun h => hid h.symm]
        exact hsame
  | _ => exact hsame

theorem statusOf_applyAll :
    (payDb.applyAll ws d).statusOf id = (d.statusOf id).map ((lastStatus id ws).getD ·) := by
  induction ws generalizing d with
  | nil => exact Option.map_id'.symm
  | cons w ws ih =>
      rw [applyAll_cons, ih, statusOf_apply, Option.map_map, lastStatus]
      congr 1
      funext a
      cases lastStatus id ws <;> rfl

theorem lastStatus_append (ws ws' : List PayWrite) :
    lastStatus id (ws ++ ws') = (lastStatus id ws').or (lastStatus id ws) := by
  induction ws with
  | nil => simp [lastStatus]
  | cons w ws ih => rw [List.cons_append, lastStatus, ih, lastStatus, Option.or_assoc]

theorem mem_of_lastStatus (h : lastStatus id ws = some b) :
    ∃ w ∈ ws, w.setsStatus id = some b := by
  induction ws with
  | nil => cases h
  | cons w ws ih =>
      rcases Option.or_eq_some_iff.mp h with h | ⟨-, h⟩
      · obtain ⟨w', hw', hs⟩ := ih h
        exact ⟨w', List.mem_cons_of_mem _ hw', hs⟩
      · exact ⟨w, List.mem_cons_self .., h⟩

theorem lastStatus_eq_none (h : ∀ w ∈ ws, w.setsStatus id = none) : lastStatus id ws = none := by
  cases hlast : lastStatus id ws with
  | none => rfl
  | some b =>
      obtain ⟨w, hw, hs⟩ := mem_of_lastStatus hlast
      rw [h w hw] at hs
      cases hs

/-- Writes that set no status of a kind leave a booking in none, if it is in none
before or they set its status. -/
theorem not_statusOf_applyAll {S : BookingStatus → Bool}
    (hws : ∀ w ∈ ws, ∀ b, w.setsStatus id = some b → S b = false)
    (h : (d.statusOf id).any S = false ∨ ∃ w ∈ ws, (w.setsStatus id).isSome = true) :
    ((payDb.applyAll ws d).statusOf id).any S = false := by
  rw [statusOf_applyAll]
  cases ha : d.statusOf id with
  | none => rfl
  | some a =>
      cases hlast : lastStatus id ws with
      | some b =>
          obtain ⟨w, hw, hs⟩ := mem_of_lastStatus hlast
          exact hws w hw b hs
      | none =>
          rcases h with hd | ⟨w, hw, hs⟩
          · rw [ha] at hd
            exact hd
          · obtain ⟨b, hb⟩ := Option.isSome_iff_exists.mp hs
            obtain ⟨before, after, rfl⟩ := List.append_of_mem hw
            rw [lastStatus_append, lastStatus] at hlast
            simp [hb] at hlast

theorem key_of_setsStatus (h : w.setsStatus id = some b) : PayKey.booking id ∈ payDb.keys w := by
  cases w with
  | booking id' u =>
      rw [PayWrite.setsStatus] at h
      split at h
      · rename_i hid
        subst hid
        exact List.mem_cons_self ..
      · cases h
  | _ => cases h

/-- The writes take bookings along allowed transitions only. -/
def WritesFollow (ws : List PayWrite) (d : PayData) : Prop :=
  ∀ id a b, d.statusOf id = some a → lastStatus id ws = some b → a.Follows b

theorem WritesFollow.conforms (h : WritesFollow ws d) : Conforms d (payDb.applyAll ws d) := by
  intro id a b ha hb
  rw [statusOf_applyAll, ha, Option.map_some, Option.some.injEq] at hb
  cases hlast : lastStatus id ws with
  | none =>
      rw [hlast] at hb
      exact fun hne => absurd hb hne
  | some b' =>
      rw [hlast] at hb
      exact hb ▸ h id a b' ha hlast

theorem Conforms.refl (d : PayData) : Conforms d d :=
  fun _ _ _ ha hb hne => absurd (Option.some.inj (ha.symm.trans hb)) hne

theorem writesFollow_nil : WritesFollow [] d := fun _ _ _ _ h => nomatch h

/-- A write to other rows leaves the bookings of a transaction where they are. -/
theorem WritesFollow.frozen {ss : Session PayWrite}
    (hw : ∀ k ∈ payDb.keys w, ¬payDb.holds ss k) (h : WritesFollow ss.writes d) :
    WritesFollow ss.writes (payDb.apply w d) := by
  intro id a b ha hlast
  obtain ⟨w', hw', hs⟩ := mem_of_lastStatus hlast
  have hnone : w.setsStatus id = none := by
    cases hset : w.setsStatus id with
    | none => rfl
    | some b' => exact absurd ⟨w', hw', key_of_setsStatus hs⟩ (hw _ (key_of_setsStatus hset))
  rw [statusOf_apply, hnone] at ha
  exact h id a b (Option.map_id'.symm.trans ha) hlast

end Writes

/-! ## Statements -/

/-- The status in which an answer has a booking. -/
def saidStatus (id : String) : ((c : TxCmd PayStmt) × payDb.Resp c) → Option BookingStatus
  | ⟨.stmt _ q, .ok a⟩ => ((q.rowsRead a).find? (·.id == id)).map (·.status)
  | _ => none

/-- The status in which a call has read a booking last. -/
def lastRead (id : String) (t : Transcript payDb.sig) : Option BookingStatus :=
  t.findSome? (saidStatus id)

/-- A status that is set whatever the stored one is, and for which booking. -/
def PayStmt.unguarded? : PayStmt → Option (String × BookingStatus)
  | .bookingUpdate id none data => data.status.map (id, ·)
  | _ => none

/-- A status that is set where another is stored. -/
def PayStmt.guarded? : PayStmt → Option (BookingStatus × BookingStatus)
  | .bookingUpdate _ (some status) data => data.status.map (status, ·)
  | .bookingUpdateMany _ status data => data.status.map (status, ·)
  | _ => none

def PayStmt.setsStatus (q : PayStmt) : Bool := q.unguarded?.isSome || q.guarded?.isSome

/-- What the writers that do not look at the status have to have read: the
webhook a booking that is not LOCKED when it confirms one, and a refund under
way when that has failed; `PaymentReconciliationService` a booking it may
confirm or fail; the cleanup of PENDING bookings has no status to read. -/
def StatusOp.meets (op : StatusOp) (a b : BookingStatus) : Bool :=
  match op with
  | .pay (.handleWebhook _) =>
      (b != .CONFIRMED || a != .LOCKED) &&
        (b != .REFUND_FAILED || a == .REFUND_INITIATED || a == .REFUND_FAILED)
  | .reconcileBooking .. =>
      (b != .CONFIRMED || a == .PAYMENT_IN_PROGRESS || a == .CONFIRMED) &&
        (b != .FAILED || a == .PAYMENT_IN_PROGRESS || a == .LOCKED || a == .FAILED)
  | .handleInitiatedCleanup _ => false
  | _ => true

/-- The writers wait for locks, and a status set by id alone is set where the
call has read the booking last, in a status the writer may leave. -/
def unraced (P : SeatPlatform) : Discipline payDb.sig PayStore PayOracle StatusOp where
  starts _ := True
  allows i op c o s := payDb.waits c o s.world = false ∧
    match c with
    | .stmt _ q => ∀ m ∈ q.unguarded?, ∀ a ∈ s.world.data.statusOf m.1,
        lastRead m.1 (transcript (statusWriters P) i s.hist) = some a ∧ op.meets a m.2 = true
    | _ => True

/-- The reason a call has for a command: transactions are its own, and set
statuses at most once; what is set is allowed where the call has read the
booking. -/
structure StatusOk (op : StatusOp) (t : Transcript payDb.sig) (c : TxCmd PayStmt) : Prop where
  own : ∀ tx, c.tx? = some tx → Began tx t
  first : ∀ tx q, c = .stmt (some tx) q → q.setsStatus = true → ∀ q' r,
    (⟨.stmt (some tx) q', r⟩ : (c : TxCmd PayStmt) × payDb.Resp c) ∈ t → q'.setsStatus = false
  guarded : ∀ tx q, c = .stmt tx q → ∀ m ∈ q.guarded?, m.1.Follows m.2
  unguarded : ∀ tx q, c = .stmt tx q → ∀ m ∈ q.unguarded?,
    ∃ a, lastRead m.1 t = some a ∧ (op.meets a m.2 = true → a.Follows m.2)

section Statements

variable {q : PayStmt} {o : PayOracle} {d d' : PayData} {w : PayWrite} {id : String}
  {b : BookingStatus}

theorem sets_exec (hw : w ∈ (payDb.exec q o d').2) (hs : w.setsStatus id = some b) :
    q.unguarded? = some (id, b) ∨ ∃ a, q.guarded? = some (a, b) ∧ d'.statusOf id = some a := by
  have hwrites := writes_exec hw
  cases w with
  | booking id' u =>
      rw [PayWrite.setsStatus] at hs
      split at hs
      · rename_i hid
        subst hid
        cases q with
        | bookingUpdate id'' status data =>
            obtain ⟨rfl, rfl⟩ := hwrites
            cases status with
            | none => exact Or.inl (by rw [PayStmt.unguarded?, hs]; rfl)
            | some a =>
                refine Or.inr ⟨a, by rw [PayStmt.guarded?, hs]; rfl, ?_⟩
                change _ ∈ (PayStmt.exec o d' (.bookingUpdate id'' (some a) data)).2 at hw
                simp only [PayStmt.exec] at hw
                split at hw
                · rename_i hrow
                  obtain ⟨row, hrow, hmatch⟩ := List.any_eq_true.mp hrow
                  simp only [Option.isNone_some, Bool.false_or, Bool.and_eq_true, beq_iff_eq,
                    Option.some.injEq] at hmatch
                  rw [PayData.statusOf, ← hmatch.1, BookingTable.find_of_mem hrow, hmatch.2]
                  rfl
                · cases hw
        | bookingUpdateMany ids status data =>
            obtain ⟨-, rfl⟩ := hwrites
            refine Or.inr ⟨status, by rw [PayStmt.guarded?, hs]; rfl, ?_⟩
            obtain ⟨row, hrow, hrow'⟩ := List.mem_map.mp hw
            obtain ⟨hmem, hmatch⟩ := List.mem_filter.mp hrow
            obtain ⟨rfl, -⟩ := PayWrite.booking.inj hrow'
            rw [Bool.and_eq_true, beq_iff_eq] at hmatch
            rw [PayData.statusOf, BookingTable.find_of_mem hmem, ← hmatch.2]
            rfl
        | _ => cases hwrites
      · cases hs
  | _ => cases hs

theorem setsStatus_of_exec (hw : w ∈ (payDb.exec q o d').2) (hs : w.setsStatus id = some b) :
    q.setsStatus = true := by
  unfold PayStmt.setsStatus
  rcases sets_exec hw hs with h | ⟨a, h, -⟩ <;> simp [h]

theorem writesFollow_exec (hsame : ∀ id, d'.statusOf id = d.statusOf id)
    (hguarded : ∀ m ∈ q.guarded?, m.1.Follows m.2)
    (hunguarded : ∀ m ∈ q.unguarded?, ∀ a ∈ d.statusOf m.1, a.Follows m.2) :
    WritesFollow (payDb.exec q o d').2 d := by
  intro id a b ha hlast
  obtain ⟨w, hw, hs⟩ := mem_of_lastStatus hlast
  rcases sets_exec hw hs with h | ⟨a', h, ha'⟩
  · exact hunguarded _ h a ha
  · obtain rfl := Option.some.inj (ha'.symm.trans ((hsame id).trans ha))
    exact hguarded _ h

end Statements

/-! ## Steps -/

section Step

variable {P : SeatPlatform} {s : StatusSnap} {i : Nat} {op : StatusOp} {c : TxCmd PayStmt}
  {o : PayOracle}

/-- What the open transactions have written follows the table. -/
def SessionsFollow (s : PayStore) : Prop := ∀ ss ∈ s.sessions, WritesFollow ss.writes s.data

theorem writesFollow_stmt {tx : Option Nat} {q : PayStmt} {d : PayData}
    (hok : StatusOk op (transcript (statusWriters P) i s.hist) (.stmt tx q))
    (hallows : (unraced P).allows i op (.stmt tx q) o s)
    (hsame : ∀ id, d.statusOf id = s.world.data.statusOf id) :
    WritesFollow (payDb.exec q o d).2 s.world.data := by
  refine writesFollow_exec hsame (hok.guarded tx q rfl) fun m hm a ha => ?_
  obtain ⟨a', hread, hfollows⟩ := hok.unguarded tx q rfl m hm
  obtain ⟨hread', hmeets⟩ := hallows.2 m hm a ha
  obtain rfl := Option.some.inj (hread.symm.trans hread')
  exact hfollows hmeets

/-- A transaction that is about to set a status has set none. -/
theorem view_statusOf (hown : Owned s) {tx : Nat} {q : PayStmt} {ss : Session PayWrite}
    (hok : StatusOk op (transcript (statusWriters P) i s.hist) (.stmt (some tx) q))
    (hss : s.world.session? tx = some ss) (hq : q.setsStatus = true) (id : String) :
    lastStatus id ss.writes = none := by
  refine lastStatus_eq_none fun w hw => ?_
  obtain ⟨q', r, o', d', hsaid, hexec⟩ := written_of_began hown (hok.own tx rfl) hss hw
  cases hs : w.setsStatus id with
  | none => rfl
  | some b =>
      have := hok.first tx q rfl hq q' r hsaid
      rw [setsStatus_of_exec hexec hs] at this
      cases this

theorem writesFollow_wants (hown : Owned s) {tx : Option Nat} {q : PayStmt}
    (hok : StatusOk op (transcript (statusWriters P) i s.hist) (.stmt tx q))
    (hallows : (unraced P).allows i op (.stmt tx q) o s) :
    WritesFollow (payDb.wants tx q o s.world) s.world.data := by
  cases tx with
  | none => exact writesFollow_stmt hok hallows fun _ => rfl
  | some tx =>
      unfold wants
      dsimp only
      cases hss : s.world.session? tx with
      | none => exact writesFollow_nil
      | some ss =>
          dsimp only
          split
          · exact writesFollow_nil
          · by_cases hq : q.setsStatus = true
            · refine writesFollow_stmt hok hallows fun id => ?_
              rw [statusOf_applyAll, view_statusOf hown hok hss hq]
              exact Option.map_id'
            · intro id a b _ hlast
              obtain ⟨w, hw, hs⟩ := mem_of_lastStatus hlast
              exact absurd (setsStatus_of_exec hw hs) hq

/-- **Step**: a command that meets its reason changes statuses as the table
has it, and keeps the open transactions to it. -/
theorem statusPaths_step (hown : Owned s) (hfollow : SessionsFollow s.world)
    (hok : StatusOk op (transcript (statusWriters P) i s.hist) c)
    (hallows : (unraced P).allows i op c o s) :
    Conforms s.world.data (payDb.step c o s.world).2.data ∧
      SessionsFollow (payDb.step c o s.world).2 := by
  constructor
  · rcases step_data payDb c o s.world with hd | ⟨q, rfl, -, hd⟩ | ⟨ss, rfl, hss, -, hd⟩ <;> rw [hd]
    · exact Conforms.refl _
    · exact (writesFollow_wants hown hok hallows).conforms
    · exact (hfollow ss hss).conforms
  · intro ss hss
    have hcommit : c ≠ .commit ss.id := by
      rintro rfl
      exact id_ne_of_commit hss rfl
    have hkept : ∀ ss₀ ∈ s.world.sessions, ss₀.id = ss.id →
        WritesFollow ss₀.writes (payDb.step c o s.world).2.data := fun ss₀ hss₀ hid =>
      frozen_step hown.store hss₀ (fun w d hw => WritesFollow.frozen hw) hallows.1 (hid ▸ hcommit)
        (hfollow ss₀ hss₀)
    rcases session_of_step hss with hnil | ⟨ss₀, hss₀, hid, hsame | ⟨q, rfl, -, happ⟩⟩
    · rw [hnil]
      exact writesFollow_nil
    · rw [hsame]
      exact hkept ss₀ hss₀ hid
    · -- its own statement: the committed data stay
      have hdata : (payDb.step (.stmt (some ss.id) q) o s.world).2.data = s.world.data := by
        rcases step_data payDb (.stmt (some ss.id) q) o s.world with hd | ⟨_, hc, -⟩ | ⟨_, hc, -⟩
        · exact hd
        · cases hc
        · cases hc
      rw [hdata, happ]
      intro id a b ha hlast
      rw [lastStatus_append] at hlast
      rcases Option.or_eq_some_iff.mp hlast with hlast | ⟨-, hlast⟩
      · exact writesFollow_wants hown hok hallows id a b ha hlast
      · exact hfollow ss₀ hss₀ id a b ha hlast

end Step

/-! ## What has been read -/

section Read

variable {q : PayStmt} {o : PayOracle} {d : PayData} {t : Transcript payDb.sig} {id : String}

/-- The answer of the statement may have the booking in it. -/
def PayStmt.looksAt (id : String) : PayStmt → Bool
  | .bookingFindUnique id' => id' == id
  | q => q.readsBookings

theorem nodup_oldest {l : List Booking} (hl : (l.map (·.id)).Nodup) (ns : List Nat)
    (r : Booking → Booking → Prop) [DecidableRel r] (n : Nat) (p : Booking → Bool) :
    ((((shuffle ns (l.filter p)).insertionSort r).take n).map (·.id)).Nodup := by
  have hperm := (List.perm_insertionSort r _).trans (shuffle_perm ns (l.filter p))
  have hfilter : ((l.filter p).map (·.id)).Nodup := hl.sublist (List.filter_sublist.map _)
  exact ((hperm.map _).nodup_iff.mpr hfilter).sublist ((List.take_sublist n _).map _)

theorem mem_oldest {l : List Booking} {ns : List Nat} {r : Booking → Booking → Prop}
    [DecidableRel r] {n : Nat} {p : Booking → Bool} {b : Booking}
    (h : b ∈ ((shuffle ns (l.filter p)).insertionSort r).take n) : b ∈ l ∧ p b = true :=
  List.mem_filter.mp ((shuffle_perm ns _).subset
    ((List.perm_insertionSort r _).subset (List.mem_of_mem_take h)))

theorem rowsRead_nodup {a : q.Ret} (h : (payDb.exec q o d).1 = .ok a) :
    ((q.rowsRead a).map (·.id)).Nodup := by
  have hsingle : ∀ {x : Option Booking}, (x.toList.map (·.id)).Nodup := by
    intro x
    cases x with
    | none => exact List.nodup_nil
    | some b => exact List.nodup_singleton _
  cases q with
  | bookingFindUnique id => exact hsingle
  | bookingFindByOrder id => exact hsingle
  | bookingFindByPayment id => exact hsingle
  | bookingFindWithSeats id =>
      cases (show Option (Booking × List BookingSeat) from a) with
      | none => exact List.nodup_nil
      | some b => exact List.nodup_singleton _
  | bookingFindStale cutoff =>
      obtain rfl := Except.ok.inj h
      exact nodup_oldest d.bookings.ids ..
  | bookingFindPendingRefunds =>
      obtain rfl := Except.ok.inj h
      exact nodup_oldest d.bookings.ids ..
  | bookingFindExpired now =>
      obtain rfl := Except.ok.inj h
      exact (((shuffle_perm o.order _).map _).nodup_iff.mpr
        (d.bookings.ids.sublist (List.filter_sublist.map _)))
  | bookingFindAutoExpiry now =>
      obtain rfl := Except.ok.inj h
      exact nodup_oldest d.bookings.ids ..
  | bookingFindStalePending cutoff =>
      obtain rfl := Except.ok.inj h
      exact nodup_oldest d.bookings.ids ..
  | _ => exact List.nodup_nil

theorem lastRead_read {tx : Option Nat} {a : q.Ret} (h : (payDb.exec q o d).1 = .ok a)
    {b : Booking} (hb : b ∈ q.rowsRead a) :
    lastRead b.id (⟨.stmt tx q, .ok a⟩ :: t) = some b.status := by
  have hfind : (q.rowsRead a).find? (·.id == b.id) = some b := by
    cases hf : (q.rowsRead a).find? (·.id == b.id) with
    | none => simpa using List.find?_eq_none.mp hf b hb
    | some b' =>
        have hid : b'.id = b.id := by simpa using List.find?_some hf
        exact congrArg some (List.inj_on_of_nodup_map (rowsRead_nodup h)
          (List.mem_of_find?_eq_some hf) hb hid)
  have hsaid : saidStatus b.id ⟨.stmt tx q, .ok a⟩ = some b.status := by
    change ((q.rowsRead a).find? (·.id == b.id)).map (·.status) = _
    rw [hfind]
    rfl
  rw [lastRead, List.findSome?_cons, hsaid]

theorem rowsRead_other {a : q.Ret} (hq : q.looksAt id = false)
    (h : (payDb.exec q o d).1 = .ok a) : (q.rowsRead a).find? (·.id == id) = none := by
  cases q with
  | bookingFindUnique id' =>
      obtain rfl := Except.ok.inj h
      refine List.find?_eq_none.mpr fun b hb hid => ?_
      have hid' : b.id = id' := by simpa using List.find?_some (Option.mem_toList.mp hb)
      rw [← hid', PayStmt.looksAt] at hq
      rw [hq] at hid
      cases hid
  | _ =>
      rw [rowsRead_eq_nil]
      · rfl
      · exact hq

theorem lastRead_cons {c : TxCmd PayStmt} {r : payDb.Resp c}
    (hc : Stmts (fun q => q.looksAt id = false) c) (hcan : Can t c r) :
    lastRead id (⟨c, r⟩ :: t) = lastRead id t := by
  suffices hsaid : saidStatus id ⟨c, r⟩ = none by
    rw [lastRead, List.findSome?_cons, hsaid]
    rfl
  cases c with
  | stmt tx q =>
      cases r with
      | error e => rfl
      | ok a =>
          obtain ⟨o, d, hexec⟩ := exec_of_can hcan
          have hq : q.looksAt id = false := hc
          change ((q.rowsRead a).find? (·.id == id)).map (·.status) = none
          rw [rowsRead_other hq hexec]
          rfl
  | _ => rfl

end Read

/-! ## Reasons -/

section Reasons

variable {op : StatusOp} {t : Transcript payDb.sig} {tx tx' : Option Nat} {q : PayStmt}
  {id : String} {a b : BookingStatus} {α β : Type}

/-- The transaction, if there is one, is the call's own. -/
def Begun (tx : Option Nat) (t : Transcript payDb.sig) : Prop := ∀ n, tx = some n → Began n t

theorem begun_none : Begun none t := nofun

theorem Begun.cons (h : Begun tx t) (said : (c : TxCmd PayStmt) × payDb.Resp c) :
    Begun tx (said :: t) := fun n hn => (h n hn).cons said

/-- The transaction has been begun and has set no status so far, so that what it reads of a
booking is what is committed. -/
structure Within (tx : Option Nat) (t : Transcript payDb.sig) : Prop where
  begun : Begun tx t
  unset : ∀ n q r, tx = some n →
    (⟨.stmt (some n) q, r⟩ : (c : TxCmd PayStmt) × payDb.Resp c) ∈ t → q.setsStatus = false

theorem within_none : Within none t where
  begun := begun_none
  unset := by
    rintro n q r ⟨⟩

theorem within_begin {n : Nat} (hnew : ∀ said ∈ t, said.1.tx? ≠ some n) :
    Within (some n) (⟨.begin, .ok n⟩ :: t) where
  begun := by
    rintro _ ⟨⟩
    exact List.mem_cons_self ..
  unset := by
    rintro _ q r ⟨⟩ h
    rcases List.mem_cons.mp h with h | h
    · obtain ⟨hc, -⟩ := Sigma.mk.inj h
      cases hc
    · exact absurd rfl (hnew _ h)

theorem Within.cons (h : Within tx t) (hq : q.setsStatus = false)
    (r : payDb.Resp (.stmt tx' q)) : Within tx (⟨.stmt tx' q, r⟩ :: t) where
  begun := h.begun.cons _
  unset n q' r' hn hsaid := by
    rcases List.mem_cons.mp hsaid with hsaid | hsaid
    · obtain ⟨hc, -⟩ := Sigma.mk.inj hsaid
      obtain ⟨-, rfl⟩ := TxCmd.stmt.inj hc
      exact hq
    · exact h.unset n q' r' hn hsaid

/-- Besides, the last that the call has read of the booking is this status. -/
structure Knows (tx : Option Nat) (id : String) (a : BookingStatus)
    (t : Transcript payDb.sig) : Prop extends Within tx t where
  read : lastRead id t = some a

theorem Knows.cons (h : Knows tx id a t) (hq : q.setsStatus = false)
    (hlooks : q.looksAt id = false) {r : payDb.Resp (.stmt tx' q)} (hcan : Can t (.stmt tx' q) r) :
    Knows tx id a (⟨.stmt tx' q, r⟩ :: t) where
  toWithin := h.toWithin.cons hq r
  read := (lastRead_cons (c := .stmt tx' q) hlooks hcan).trans h.read

theorem unguarded_of_quiet (hq : q.setsStatus = false) : q.unguarded? = none := by
  rw [PayStmt.setsStatus, Bool.or_eq_false_iff] at hq
  exact Option.not_isSome_iff_eq_none.mp (by simp [hq.1])

theorem guarded_of_quiet (hq : q.setsStatus = false) : q.guarded? = none := by
  rw [PayStmt.setsStatus, Bool.or_eq_false_iff] at hq
  exact Option.not_isSome_iff_eq_none.mp (by simp [hq.2])

theorem statusOk_quiet (ht : Begun tx t) (hq : q.setsStatus = false) :
    StatusOk op t (.stmt tx q) where
  own := ht
  first := by
    rintro tx' q' ⟨⟩ hq'
    rw [hq] at hq'
    cases hq'
  guarded := by
    rintro tx' q' ⟨⟩ m hm
    rw [guarded_of_quiet hq] at hm
    cases hm
  unguarded := by
    rintro tx' q' ⟨⟩ m hm
    rw [unguarded_of_quiet hq] at hm
    cases hm

theorem statusOk_control {c : TxCmd PayStmt} (hc : ∀ tx q, c ≠ .stmt tx q)
    (hown : ∀ n, c.tx? = some n → Began n t) : StatusOk op t c where
  own := hown
  first _ q h := absurd h (hc _ q)
  guarded tx q h := absurd h (hc tx q)
  unguarded tx q h := absurd h (hc tx q)

theorem statusOk_begin : StatusOk op t .begin :=
  statusOk_control (fun _ _ h => by cases h) fun _ h => by cases h

theorem statusOk_end {n : Nat} (h : Began n t) :
    StatusOk op t (.commit n) ∧ StatusOk op t (.rollback n) := by
  constructor <;> refine statusOk_control (fun _ _ h => by cases h) ?_ <;> rintro _ ⟨⟩ <;> exact h

theorem statusOk_set {data : BookingUpdate} (h : Knows tx id a t) (hb : data.status = some b)
    (hfollows : op.meets a b = true → a.Follows b) :
    StatusOk op t (.stmt tx (.bookingUpdate id none data)) where
  own := h.begun
  first := by
    rintro n q ⟨⟩ - q' r hsaid
    exact h.unset n q' r rfl hsaid
  guarded := by
    rintro tx' q ⟨⟩ m hm
    cases hm
  unguarded := by
    rintro tx' q ⟨⟩ m hm
    rw [PayStmt.unguarded?, hb] at hm
    obtain rfl := Option.some.inj hm
    exact ⟨a, h.read, hfollows⟩

/-- Where a status is stored that may be left for the new one. -/
theorem statusOk_where {m : BookingStatus × BookingStatus} (h : Within tx t)
    (hm : q.guarded? = some m) (hfollows : m.1.Follows m.2) (hnone : q.unguarded? = none) :
    StatusOk op t (.stmt tx q) where
  own := h.begun
  first := by
    rintro n q ⟨⟩ - q' r hsaid
    exact h.unset n q' r rfl hsaid
  guarded := by
    rintro tx' q' ⟨⟩ m' hm'
    obtain rfl := Option.some.inj (hm.symm.trans hm')
    exact hfollows
  unguarded := by
    rintro tx' q' ⟨⟩ m' hm'
    rw [hnone] at hm'
    cases hm'

/-! ### Rules -/

abbrev Told (op : StatusOp) (p : PayM α) (Q : α → Transcript payDb.sig → Prop)
    (t : Transcript payDb.sig) : Prop :=
  p.told (StatusOk op) Can Q (fun _ _ => True) t

abbrev Safe (op : StatusOp) (p : PayM α) (t : Transcript payDb.sig) : Prop :=
  Told op p (fun _ _ => True) t

variable {p : PayM α} {f : α → PayM β} {Q : β → Transcript payDb.sig → Prop}

theorem safe_bind (hp : Safe op p t) (ht : Begun tx t)
    (h : ∀ x t, Begun tx t → Safe op (f x) t) : Safe op (p >>= f) t := by
  refine told_bind.mpr (told_mono (told_keep hp (all_true p) (F := Begun tx)
    (fun _ _ _ _ _ h => h.cons _) ht) (fun x t hx => h x t hx.2) fun _ _ _ => trivial)

theorem safe_attempt {f : Except PayExn α → PayM β} (hp : Safe op p t) (ht : Begun tx t)
    (h : ∀ x t, Begun tx t → Safe op (f x) t) : Safe op (p.attempt >>= f) t := by
  refine told_bind.mpr (told_attempt.mpr (told_mono (told_keep hp (all_true p) (F := Begun tx)
    (fun _ _ _ _ _ h => h.cons _) ht) (fun x t hx => h _ t hx.2) fun e t he => h _ t he.2))

theorem safe_map {g : α → β} (hp : Safe op p t) : Safe op (g <$> p) t :=
  told_bind.mpr (told_mono hp (fun _ _ _ => trivial) fun _ _ h => h)

theorem safe_transaction {p : Nat → PayM β}
    (h : ∀ n t, Within (some n) t → Safe op (p n) t) : Safe op (inTransaction p) t :=
  told_transaction_safe statusOk_begin (fun _ _ h => statusOk_end h)
    fun n hnew => h n _ (within_begin hnew)

theorem safe_transaction_after {p : Nat → PayM β} (ht : lastRead id t = some a)
    (h : ∀ n t, Knows (some n) id a t → Safe op (p n) t) : Safe op (inTransaction p) t :=
  told_transaction_safe statusOk_begin (fun _ _ h => statusOk_end h)
    fun n hnew => h n _ ⟨within_begin hnew, ht⟩

theorem told_ask {f : q.Ret → PayM β} (ht : Begun tx t) (hq : q.setsStatus = false)
    (h : ∀ x (o : PayOracle) d, (payDb.exec q o d).1 = .ok x →
      Told op (f x) Q (⟨.stmt tx q, .ok x⟩ :: t)) : Told op (ask tx q >>= f) Q t :=
  told_query (statusOk_quiet ht hq) h fun _ => trivial

theorem safe_ask (ht : Begun tx t) (hq : q.setsStatus = false) : Safe op (ask tx q) t := by
  rw [← bind_ret (ask tx q)]
  exact told_ask ht hq fun _ _ _ _ => trivial

theorem told_still {f : q.Ret → PayM β} (hk : Knows tx id a t) (ht : Begun tx' t)
    (hq : q.setsStatus = false) (hlooks : q.looksAt id = false)
    (h : ∀ x t, Knows tx id a t → Told op (f x) Q t) : Told op (ask tx' q >>= f) Q t := by
  refine ⟨statusOk_quiet ht hq, fun r hr => ?_⟩
  cases r with
  | ok x => exact h x _ (hk.cons hq hlooks hr)
  | error e => trivial

theorem told_silent {f : q.Ret → PayM β} (hk : Knows tx id a t) (hq : q.setsStatus = false)
    (hlooks : q.looksAt id = false) (h : ∀ x t, Knows tx id a t → Told op (f x) Q t) :
    Told op (ask none q >>= f) Q t := told_still hk begun_none hq hlooks h

theorem told_read {f : q.Ret → PayM β} (hw : Within tx t) (hq : q.setsStatus = false)
    (h : ∀ x (o : PayOracle) d t, (payDb.exec q o d).1 = .ok x → Within tx t →
      (∀ b ∈ q.rowsRead x, Knows tx b.id b.status t) → Told op (f x) Q t) :
    Told op (ask tx q >>= f) Q t :=
  told_ask hw.begun hq fun x o d hexec => h x o d _ hexec (hw.cons hq _) fun _ hb =>
    ⟨hw.cons hq _, lastRead_read hexec hb⟩

theorem told_find {f : Option Booking → PayM β} (hw : Within tx t)
    (hnone : ∀ t, Within tx t → Told op (f none) Q t)
    (hsome : ∀ b t, b.id = id → Knows tx id b.status t → Told op (f (some b)) Q t) :
    Told op (ask tx (.bookingFindUnique id) >>= f) Q t := by
  refine told_read hw rfl fun x o d t hexec hw hknows => ?_
  cases x with
  | none => exact hnone t hw
  | some b =>
      have hid : b.id = id := (BookingTable.mem_of_find (Except.ok.inj hexec)).2
      exact hsome b t hid (hid ▸ hknows b (List.mem_singleton_self b))

/-- A statement after the one that sets the status: in its transaction or in none, and no
status is set by it. -/
def Quiet (tx : Option Nat) : TxCmd PayStmt → Prop
  | .stmt tx' q => (tx' = none ∨ tx' = tx) ∧ q.setsStatus = false
  | _ => False

theorem quiet_ask (htx : tx' = none ∨ tx' = tx) (hq : q.setsStatus = false) :
    (ask tx' q).All (Quiet tx) := by
  refine ⟨⟨htx, hq⟩, fun r => ?_⟩
  cases r <;> trivial

theorem safe_quiet (hp : p.All (Quiet tx)) (ht : Begun tx t) : Safe op p t := by
  refine told_mono (told_of_all hp (F := Begun tx) (fun c t hc ht => ?_)
    (fun _ _ _ _ _ h => h.cons _) ht) (fun _ _ _ => trivial) fun _ _ _ => trivial
  cases c with
  | stmt tx' q =>
      refine statusOk_quiet (fun n hn => ?_) hc.2
      rcases hc.1 with h | h
      · rw [h] at hn
        cases hn
      · exact ht n (h.symm.trans hn)
  | _ => cases hc

/-- A status is set by id, and no other after it. -/
theorem safe_set {data : BookingUpdate} {f : Unit → PayM β} (h : Knows tx id a t)
    (hb : data.status = some b) (hfollows : op.meets a b = true → a.Follows b)
    (hf : (f ()).All (Quiet tx)) : Safe op (ask tx (.bookingUpdate id none data) >>= f) t := by
  refine ⟨statusOk_set h hb hfollows, fun r _ => ?_⟩
  cases r with
  | ok u => exact safe_quiet hf (h.begun.cons _)
  | error e => trivial

theorem safe_set_ret {data : BookingUpdate} (h : Knows tx id a t) (hb : data.status = some b)
    (hfollows : op.meets a b = true → a.Follows b) :
    Safe op (ask tx (.bookingUpdate id none data)) t := by
  rw [← bind_ret (ask tx _)]
  exact safe_set h hb hfollows trivial

end Reasons

/-! ## The calls -/

/-- What the code relies on of the missing function: its statements use the
client it is given, and set no status of a booking. -/
def SeatPlatform.Releases (P : SeatPlatform) : Prop :=
  ∀ bookingId tx, (P.releaseSeatsSafely bookingId tx).All (Quiet tx)

section Calls

variable {t : Transcript payDb.sig} {op : StatusOp} {bookingId tenantId : String}

/-! ### Orders -/

theorem told_checkOrderable {booking : Booking} {userId : String}
    (h : Knows none bookingId booking.status t) :
    Told op (checkOrderable booking userId) (fun _ t => Knows none bookingId .LOCKED t) t := by
  unfold checkOrderable
  refine told_throwIf trivial fun _ => told_throwIf trivial fun hstatus => ?_
  have hlocked : booking.status = .LOCKED := by simpa using hstatus
  rw [hlocked] at h
  cases booking.expiresAt with
  | none => exact h
  | some expiresAt =>
      refine told_silent h rfl rfl fun now t h => ?_
      rw [← bind_ret (throwIf _ _)]
      exact told_throwIf trivial fun _ => h

theorem told_withTotal {P : PayPlatform} {booking : Booking}
    (h : Knows none booking.id .LOCKED t) :
    Told op (withTotal P booking)
      (fun booking' t => booking'.id = booking.id ∧ Knows none booking.id .LOCKED t) t := by
  unfold withTotal
  split
  · refine told_silent h rfl rfl fun count t h => told_silent h rfl rfl fun shw t h => ?_
    cases shw with
    | none => trivial
    | some shw => exact told_silent h rfl rfl fun _ t h => ⟨rfl, h⟩
  · exact ⟨rfl, h⟩

theorem told_newOrder {P : PayPlatform} {booking : Booking} (h : Knows none bookingId .LOCKED t) :
    Told op (newOrder P booking) (fun _ t => Knows none bookingId .LOCKED t) t := by
  unfold newOrder
  split
  · exact told_silent h rfl rfl fun _ t h => h
  · rw [← bind_ret (ask _ _)]
    exact told_silent h rfl rfl fun _ t h => h

theorem safe_placeOrder {P : PayPlatform} {booking : Booking} {keyId : String}
    (h : Knows none booking.id .LOCKED t) : Safe op (placeOrder P booking keyId) t := by
  unfold placeOrder
  split
  · trivial
  · refine told_bind.mpr (told_mono (told_newOrder h) (fun orderId t h => ?_) fun _ _ h => h)
    exact safe_set h rfl (fun _ => by decide) ((quiet_ask (Or.inl rfl) rfl).bind fun _ => trivial)

theorem safe_createRazorpayOrder {P : PayPlatform} {userId : String} :
    Safe op (createRazorpayOrder P bookingId userId) t := by
  unfold createRazorpayOrder
  split
  · refine told_find within_none (fun _ _ => trivial) fun booking t hid h => ?_
    dsimp only
    rw [← hid] at h
    refine told_bind.mpr (told_mono (told_checkOrderable h) (fun _ t h => ?_) fun _ _ h => h)
    refine told_bind.mpr (told_mono (told_withTotal h) (fun booking' t h => ?_) fun _ _ h => h)
    obtain ⟨hid', h⟩ := h
    rw [← hid'] at h
    refine told_silent h rfl rfl fun closed t h => told_throwIf trivial fun _ => ?_
    refine safe_attempt (safe_placeOrder h) begun_none fun r t _ => ?_
    cases r with
    | ok answer => trivial
    | error e => exact safe_quiet ((quiet_ask (Or.inl rfl) rfl).bind fun _ => trivial) begun_none
  · trivial

/-! ### The webhook -/

variable {r : Delivery}

theorem safe_processPaymentSuccess {paymentId signature : String} :
    Safe (.pay (.handleWebhook r)) (processPaymentSuccess bookingId paymentId signature tenantId)
      t := by
  refine safe_transaction fun tx t hw => told_find hw (fun _ _ => trivial) fun booking t _ h => ?_
  dsimp only
  split
  · trivial
  · split
    · rename_i hstatus
      refine told_silent h rfl rfl fun now t h => safe_set h rfl (fun hmeets => ?_) ?_
      · -- a LOCKED booking is not confirmed
        rcases hstatus with hstatus | hstatus <;> rw [hstatus] at hmeets ⊢
        · decide
        · cases hmeets
      · exact (quiet_ask (Or.inr rfl) rfl).bind fun _ => (quiet_ask (Or.inr rfl) rfl).bind fun _ =>
          (quiet_ask (Or.inr rfl) rfl).bind fun _ => trivial
    · split
      · exact safe_quiet ((quiet_ask (Or.inr rfl) rfl).bind fun _ => trivial) h.begun
      · trivial

theorem safe_recordCapture {payment : PaymentEntity} :
    Safe (.pay (.handleWebhook r)) (recordCapture r payment bookingId) t := by
  refine safe_transaction fun tx t hw => safe_attempt (safe_ask hw.begun rfl) hw.begun fun x t ht => ?_
  cases x with
  | error e =>
      dsimp only
      split <;> trivial
  | ok u =>
      dsimp only
      split
      · trivial
      · refine safe_bind (safe_ask ht rfl) ht fun paymentEventId t ht => ?_
        exact safe_bind safe_processPaymentSuccess ht fun _ t ht => safe_ask ht rfl

theorem safe_paymentCaptured {payment : PaymentEntity} :
    Safe (.pay (.handleWebhook r)) (paymentCaptured r payment bookingId) t := by
  refine safe_attempt safe_recordCapture begun_none fun x t _ => ?_
  cases x with
  | ok u => trivial
  | error e => exact safe_bind (safe_ask begun_none rfl) begun_none fun _ _ _ => trivial

theorem told_bookingOfRefund {β : Type} {refund : Option RefundEntity} {f : Option Booking → PayM β}
    (hnone : ∀ t, Safe op (f none) t)
    (hsome : ∀ b t, Knows none b.id b.status t → Safe op (f (some b)) t) :
    Safe op (bookingOfRefund refund >>= f) t := by
  unfold bookingOfRefund
  split
  · exact hnone t
  · refine told_read within_none rfl fun x o d t _ _ hknows => ?_
    cases x with
    | none => exact hnone t
    | some b => exact hsome b t (hknows b (List.mem_singleton_self b))

theorem safe_refundProcessed {refund : Option RefundEntity} :
    Safe op (refundProcessed refund) t := by
  refine told_bookingOfRefund (fun _ => trivial) fun b t h => ?_
  dsimp only
  split
  · exact safe_ask begun_none rfl
  · rename_i hstatus
    rw [not_not.mp hstatus] at h
    exact told_silent h rfl rfl fun now t h => safe_set h rfl (fun _ => by decide)
      (quiet_ask (Or.inl rfl) rfl)

theorem follows_refundFailed {a : BookingStatus}
    (h : (StatusOp.pay (.handleWebhook r)).meets a .REFUND_FAILED = true) :
    a.Follows .REFUND_FAILED := by
  cases a <;> first | decide | cases h

theorem safe_refundFailed {refund : Option RefundEntity} :
    Safe (.pay (.handleWebhook r)) (refundFailed refund) t := by
  refine told_bookingOfRefund (fun _ => trivial) fun b t h => ?_
  exact safe_set h rfl follows_refundFailed (quiet_ask (Or.inl rfl) rfl)

theorem safe_handleWebhook {P : PayPlatform} :
    Safe (.pay (.handleWebhook r)) (handleWebhook P r) t := by
  unfold handleWebhook
  split
  · trivial
  · refine told_throwIf trivial fun _ => ?_
    cases r.body.payment with
    | none => trivial
    | some payment =>
        have hresolve : Safe (.pay (.handleWebhook r)) (resolveBookingId payment) t := by
          unfold resolveBookingId
          split
          · trivial
          · split
            · trivial
            · exact safe_bind (safe_ask begun_none rfl) begun_none fun _ _ _ => trivial
        refine safe_bind hresolve begun_none fun x t _ => ?_
        cases x with
        | none => trivial
        | some bookingId =>
            refine safe_bind ?_ begun_none fun _ _ _ => trivial
            unfold dispatch
            split
            · exact safe_paymentCaptured
            · split
              · exact safe_refundProcessed
              · split
                · exact safe_refundFailed
                · trivial

/-! ### Refunds -/

theorem safe_handleRefundFailure {paymentId : String} {amount : Int} {retryCount : Nat} :
    Safe op (handleRefundFailure bookingId paymentId tenantId amount retryCount) t := by
  refine safe_transaction fun tx t hw => told_find hw (fun t hw => ?_) fun bk t _ h => ?_
  · exact safe_quiet ((quiet_ask (Or.inr rfl) rfl).bind fun _ => quiet_ask (Or.inr rfl) rfl) hw.begun
  · refine safe_bind ?_ h.begun fun _ t ht => safe_quiet
      ((quiet_ask (Or.inr rfl) rfl).bind fun _ => quiet_ask (Or.inr rfl) rfl) ht
    unfold markRefundFailed
    dsimp only
    split
    · rename_i hstatus
      rw [hstatus] at h
      exact told_throwIf trivial fun _ => safe_set_ret h rfl fun _ => by decide
    · trivial

theorem safe_recordRefund {paymentId refundId : String} {amount : Int} :
    Safe op (recordRefund bookingId paymentId tenantId amount refundId) t := by
  refine safe_transaction fun tx t hw => told_find hw (fun t hw => safe_ask hw.begun rfl)
    fun bk t _ h => ?_
  refine safe_bind ?_ h.begun fun _ t ht => safe_ask ht rfl
  unfold markRefunded
  dsimp only
  split
  · rename_i hstatus
    rw [hstatus] at h
    refine told_throwIf trivial fun _ => told_silent h rfl rfl fun _ t h => ?_
    exact told_silent h rfl rfl fun _ t h => safe_set_ret h rfl fun _ => by decide
  · trivial

theorem safe_processRefund {retryCount : Nat} :
    Safe op (processRefund bookingId tenantId retryCount) t := by
  refine safe_bind (safe_ask begun_none rfl) begun_none fun booking t _ => ?_
  split
  · trivial
  · refine safe_attempt (safe_ask begun_none rfl) begun_none fun x t _ => ?_
    cases x with
    | error e => exact safe_bind safe_handleRefundFailure begun_none fun _ _ _ => trivial
    | ok refundId =>
        refine safe_attempt safe_recordRefund begun_none fun x t _ => ?_
        cases x with
        | ok u => trivial
        | error e => exact safe_bind (safe_ask begun_none rfl) begun_none fun _ _ _ => trivial

theorem safe_forTenant {α : Type} {booking : Booking} {p : String → PayM α}
    (h : ∀ tenantId, Safe op (p tenantId) t) : Safe op (forTenant booking p) t := by
  unfold forTenant
  split
  · trivial
  · exact safe_attempt (h _) begun_none fun _ _ _ => trivial

theorem safe_sweepPendingRefunds : Safe op sweepPendingRefunds t := by
  refine safe_bind (safe_ask begun_none rfl) begun_none fun pendingRefunds t _ => ?_
  refine safe_bind ?_ begun_none fun _ _ _ => trivial
  exact told_mapM' (F := fun _ => True)
    (fun booking _ t _ => safe_forTenant fun _ => safe_processRefund) trivial

theorem safe_refundPayment {P : SeatPlatform} (hP : P.Releases) {seatsToRefund : Option Int} :
    Safe op (refundPayment P bookingId seatsToRefund) t := by
  refine told_read within_none rfl fun x o d t hexec _ hknows => ?_
  cases x with
  | none => trivial
  | some found =>
      obtain ⟨booking, bookingSeats⟩ := found
      have hid : booking.id = bookingId := by
        obtain ⟨b, hb, hfound⟩ := Option.map_eq_some_iff.mp (Except.ok.inj hexec)
        obtain ⟨rfl, -⟩ := Prod.mk.inj hfound
        exact (BookingTable.mem_of_find hb).2
      have h := hid ▸ hknows booking (List.mem_singleton_self _)
      dsimp only
      split
      · trivial
      · refine told_throwIf trivial fun hstatus => told_throwIf trivial fun _ =>
          told_throwIf trivial fun _ => ?_
        have hcan : booking.status.Follows .REFUND_INITIATED := by
          generalize booking.status = a at hstatus
          cases a <;> first | decide | cases hstatus
        refine told_bind.mpr ?_
        unfold initiateRefund
        split
        · refine told_silent h rfl rfl fun _ t h => told_silent h rfl rfl fun now t h => ?_
          exact safe_set h rfl (fun _ => hcan) ((hP bookingId none).bind fun _ => trivial)
        · rw [← bind_ret (ask none (.paymentsRefund _ _ _))]
          refine told_silent h rfl rfl fun _ t h => told_silent h rfl rfl fun now t h => ?_
          exact safe_set h rfl (fun _ => hcan) ((hP bookingId none).bind fun _ => trivial)

/-! ### The worker -/

theorem safe_failBooking : Safe op (failBooking bookingId) t := by
  refine safe_transaction fun tx t hw => told_find hw (fun _ _ => trivial) fun bk t _ h => ?_
  dsimp only
  split
  · rename_i hstatus
    rw [hstatus] at h
    exact told_throwIf trivial fun _ => safe_set h rfl (fun _ => by decide)
      (quiet_ask (Or.inr rfl) rfl)
  · trivial

theorem safe_syncPayment {paymentId : String} {finalAmount : Money} :
    Safe op (syncPayment bookingId paymentId tenantId finalAmount) t := by
  refine safe_transaction fun tx t hw => told_find hw (fun _ _ => trivial) fun bk t _ h => ?_
  dsimp only
  split
  · rename_i hstatus
    rw [hstatus] at h
    refine told_throwIf trivial fun _ => told_silent h rfl rfl fun _ t h => ?_
    exact safe_set h rfl (fun _ => by decide) ((quiet_ask (Or.inr rfl) rfl).bind fun _ =>
      (quiet_ask (Or.inr rfl) rfl).bind fun _ => quiet_ask (Or.inr rfl) rfl)
  · split
    · rename_i hstatus
      have hcan : bk.status.Follows .REFUND_INITIATED := by
        rcases hstatus with h | h | h <;> rw [h] <;> decide
      refine told_throwIf trivial fun _ => told_silent h rfl rfl fun _ t h => ?_
      exact told_silent h rfl rfl fun _ t h => safe_set h rfl (fun _ => hcan)
        (quiet_ask (Or.inr rfl) rfl)
    · trivial

theorem safe_reconcileBooking {razorpayOrderId : Option String} {finalAmount : Money}
    (h : Knows none bookingId .PAYMENT_IN_PROGRESS t) :
    Safe op (reconcileBooking bookingId razorpayOrderId tenantId finalAmount) t := by
  unfold reconcileBooking
  split
  · exact safe_set_ret h rfl fun _ => by decide
  · refine safe_attempt (safe_ask begun_none rfl) begun_none fun x t _ => ?_
    cases x with
    | error e => trivial
    | ok payments =>
        dsimp only
        split
        · exact safe_failBooking
        · refine safe_bind (safe_ask begun_none rfl) begun_none fun existing t _ => ?_
          cases existing with
          | none => exact safe_syncPayment
          | some row =>
              rw [← bind_ret (ask none (.bookingUpdate _ _ _))]
              exact ⟨statusOk_where within_none rfl (by decide) rfl, fun r _ => by
                cases r <;> trivial⟩

theorem WorkerStmt.looksAt {amount : Int} {id : String} {q : PayStmt}
    (h : WorkerStmt bookingId amount q) (hid : bookingId ≠ id) : q.looksAt id = false := by
  cases h with
  | find => exact beq_eq_false_iff_ne.mpr hid
  | _ => rfl

/-- The rounds of a sweep, over bookings that have been read in a status. -/
theorem safe_rounds {β : Type} {f : Booking → PayM β} {l : List Booking} {a : BookingStatus}
    (hl : (l.map (·.id)).Nodup) (ht : ∀ b ∈ l, Knows none b.id a t)
    (hall : ∀ b id, b.id ≠ id → (f b).All (Stmts fun q => q.looksAt id = false))
    (hf : ∀ b t, Knows none b.id a t → Safe op (f b) t) : Safe op (l.mapM f) t := by
  have hkept : ∀ (b : Booking) c r t, Stmts (fun q => q.looksAt b.id = false) c → Can t c r →
      lastRead b.id t = some a → lastRead b.id (⟨c, r⟩ :: t) = some a :=
    fun b c r t hc hr h => (lastRead_cons hc hr).trans h
  refine told_mapM hkept ?_
    (fun b _ t h => hf b t ⟨within_none, h⟩) fun b hb => (ht b hb).read
  exact (List.pairwise_map.mp hl).imp fun hne => hall _ _ hne

theorem safe_reconcileStale : Safe op reconcileStale t := by
  refine safe_bind (safe_ask begun_none rfl) begun_none fun now t _ => ?_
  refine told_read within_none rfl fun stale o d t hexec _ hknows => ?_
  split
  · trivial
  · refine safe_bind ?_ begun_none fun _ _ _ => safe_sweepPendingRefunds
    refine safe_rounds (a := .PAYMENT_IN_PROGRESS) (rowsRead_nodup hexec) (fun b hb => ?_)
      (fun b id hne => ?_) fun b t h => safe_forTenant fun _ => safe_reconcileBooking h
    · have hstatus : b.status = .PAYMENT_IN_PROGRESS := by
        obtain rfl := Except.ok.inj hexec
        have := (mem_oldest hb).2
        rw [Bool.and_eq_true, beq_iff_eq] at this
        exact this.1
      exact hstatus ▸ hknows b hb
    · unfold forTenant
      split
      · trivial
      · exact ((all_reconcileBooking b.finalAmount).mono
          (Stmts.mono fun _ hq => hq.looksAt hne)).attempt.bind fun _ => trivial

theorem safe_handleReconciliation {process : String} :
    Safe op (handleReconciliation process) t := by
  refine safe_bind (safe_ask begun_none rfl) begun_none fun entered t _ => ?_
  split
  · exact safe_attempt safe_reconcileStale begun_none fun _ _ _ => safe_ask begun_none rfl
  · trivial

/-! ### `PaymentReconciliationService` -/

section Service

open PaymentReconciliationService

variable {orderId paymentId : String}

theorem follows_confirmed {a : BookingStatus}
    (h : (StatusOp.reconcileBooking bookingId orderId paymentId tenantId).meets a .CONFIRMED
      = true) : a.Follows .CONFIRMED := by
  cases a <;> first | decide | cases h

theorem follows_failed {a : BookingStatus}
    (h : (StatusOp.reconcileBooking bookingId orderId paymentId tenantId).meets a .FAILED
      = true) : a.Follows .FAILED := by
  cases a <;> first | decide | cases h

theorem told_verifyPayment {expectedAmount : Money} {a : BookingStatus}
    (h : Knows none bookingId a t) :
    Told op (verifyPayment paymentId orderId expectedAmount) (fun _ t => Knows none bookingId a t)
      t := by
  refine told_bind.mpr (told_attempt.mpr ⟨statusOk_quiet begun_none rfl, fun r hr => ?_⟩)
  cases r with
  | ok payment => exact h.cons rfl rfl hr
  | error e => exact h.cons rfl rfl hr

theorem safe_reconcileService :
    Safe (.reconcileBooking bookingId orderId paymentId tenantId)
      (PaymentReconciliationService.reconcileBooking bookingId orderId paymentId tenantId) t := by
  refine safe_bind (safe_ask begun_none rfl) begun_none fun existing t _ => ?_
  cases existing with
  | some row => trivial
  | none =>
      refine told_find within_none (fun _ _ => trivial) fun booking t hid h => ?_
      refine told_bind.mpr (told_mono (told_verifyPayment h) (fun isVerified t h => ?_)
        fun _ _ h => h)
      rw [← hid] at h
      refine safe_transaction_after h.read fun tx t h => ?_
      refine told_still h h.begun rfl rfl fun _ t h => ?_
      cases isVerified with
      | true =>
          exact told_silent h rfl rfl fun now t h => safe_set h rfl follows_confirmed
            (quiet_ask (Or.inr rfl) rfl)
      | false => exact safe_set_ret h rfl follows_failed

end Service

/-! ### Sweeps -/

theorem safe_guarded {guard : Guard} {process : String} {sweep : PayM Unit}
    (h : ∀ t, Safe op sweep t) : Safe op (guarded guard process sweep) t := by
  refine safe_bind (safe_ask begun_none rfl) begun_none fun entered t _ => ?_
  split
  · exact safe_attempt (h t) begun_none fun _ _ _ => safe_ask begun_none rfl
  · trivial

theorem safe_expireBooking {P : SeatPlatform} (hP : P.Releases) :
    Safe op (BookingExpiryService.expireBooking P bookingId) t := by
  refine safe_transaction fun tx t hw => told_find hw (fun _ _ => trivial) fun current t _ h => ?_
  dsimp only
  split
  · trivial
  · rename_i hstatus
    rw [not_or, not_not] at hstatus
    rw [hstatus.1] at h
    exact safe_set h rfl (fun _ => by decide) (hP bookingId (some tx))

theorem safe_handleAutoExpiry {P : SeatPlatform} (hP : P.Releases) {process : String} :
    Safe op (BookingExpiryService.handleAutoExpiry P process) t := by
  refine safe_guarded fun t => safe_bind (safe_ask begun_none rfl) begun_none fun now t _ => ?_
  refine safe_bind (safe_ask begun_none rfl) begun_none fun stale t _ => ?_
  refine safe_bind ?_ begun_none fun _ _ _ => trivial
  refine told_mapM' (F := fun _ => True) (fun booking _ t _ => ?_) trivial
  exact told_attempt.mpr (safe_expireBooking hP)

theorem safe_failPending {process : String} :
    Safe (.handleInitiatedCleanup process) (BookingExpiryService.failPending bookingId) t := by
  refine safe_transaction fun tx t hw => told_find hw (fun _ _ => trivial) fun current t _ h => ?_
  dsimp only
  split
  · trivial
  · exact safe_set_ret h rfl fun hmeets => by cases hmeets

theorem safe_handleInitiatedCleanup {process : String} :
    Safe (.handleInitiatedCleanup process) (BookingExpiryService.handleInitiatedCleanup process)
      t := by
  refine safe_guarded fun t => safe_bind (safe_ask begun_none rfl) begun_none fun now t _ => ?_
  refine safe_bind (safe_ask begun_none rfl) begun_none fun stale t _ => ?_
  refine safe_bind ?_ begun_none fun _ _ _ => trivial
  refine told_mapM' (F := fun _ => True) (fun booking _ t _ => ?_) trivial
  exact told_attempt.mpr safe_failPending

theorem safe_handleExpiredBookings : Safe op handleExpiredBookings t := by
  refine safe_bind (safe_ask begun_none rfl) begun_none fun now t _ => ?_
  refine told_read within_none rfl fun expired o d t hexec _ hknows => ?_
  refine safe_bind ?_ begun_none fun _ _ _ => trivial
  refine safe_rounds (a := .LOCKED) (rowsRead_nodup hexec) (fun b hb => ?_)
    (fun b id _ => all_ask rfl) fun b t h => safe_set_ret h rfl fun _ => by decide
  have hstatus : b.status = .LOCKED := by
    obtain rfl := Except.ok.inj hexec
    have := (List.mem_filter.mp ((shuffle_perm o.order _).subset hb)).2
    rw [BookingTable.stale, Bool.and_eq_true, beq_iff_eq] at this
    exact this.1
  exact hstatus ▸ hknows b hb

open SeatLockWorker in
theorem quiet_freeSeats {tx : Nat} : (freeSeats tx bookingId).All (Quiet (some tx)) := by
  refine (quiet_ask (Or.inr rfl) rfl).bind fun seats => ?_
  split
  · trivial
  · exact (quiet_ask (Or.inr rfl) rfl).bind fun _ => quiet_ask (Or.inr rfl) rfl

open SeatLockWorker in
theorem safe_releaseBatch {expiredLocks : List SeatLock} :
    Safe op (releaseBatch expiredLocks) t := by
  refine safe_transaction fun tx t hw => ?_
  refine told_ask hw.begun rfl fun _ o d _ => ?_
  refine ⟨statusOk_where (hw.cons rfl _) rfl (by decide) rfl, fun r _ => ?_⟩
  cases r with
  | error e => trivial
  | ok u =>
      exact safe_quiet ((All.mapM fun _ _ => quiet_freeSeats).bind fun _ => trivial)
        ((hw.begun.cons _).cons _)

open SeatLockWorker in
theorem safe_releaseBatches (now : Time) (rounds : Nat) : Safe op (releaseBatches now rounds) t := by
  induction rounds generalizing t with
  | zero => trivial
  | succ rounds ih =>
      refine safe_bind (safe_ask begun_none rfl) begun_none fun expiredLocks t _ => ?_
      split
      · trivial
      · refine safe_bind safe_releaseBatch begun_none fun _ t _ => ?_
        split
        · trivial
        · exact ih

theorem safe_releaseExpiredLocks {process : String} {rounds : Nat} :
    Safe op (SeatLockWorker.releaseExpiredLocks process rounds) t :=
  safe_guarded fun _ => safe_bind (safe_ask begun_none rfl) begun_none fun now _ _ =>
    safe_releaseBatches now rounds

theorem safe_body {P : SeatPlatform} (hP : P.Releases) (op : StatusOp) : Safe op (op.body P) t := by
  cases op with
  | pay op =>
      refine safe_map ?_
      cases op with
      | createRazorpayOrder bookingId userId => exact safe_map safe_createRazorpayOrder
      | handleWebhook r => exact safe_map safe_handleWebhook
      | handleReconciliation process => exact safe_map safe_handleReconciliation
      | sweepPendingRefunds => exact safe_map safe_sweepPendingRefunds
      | processRefund bookingId tenantId retryCount => exact safe_map safe_processRefund
  | refundPayment bookingId seatsToRefund => exact safe_map (safe_refundPayment hP)
  | reconcileBooking bookingId orderId paymentId tenantId => exact safe_map safe_reconcileService
  | handleAutoExpiry process => exact safe_map (safe_handleAutoExpiry hP)
  | handleInitiatedCleanup process => exact safe_map safe_handleInitiatedCleanup
  | handleExpiredBookings => exact safe_map safe_handleExpiredBookings
  | releaseExpiredLocks process rounds => exact safe_map safe_releaseExpiredLocks

end Calls

/-! ## Runs -/

/-- PostgreSQL: who meets a locked row waits. -/
def waiting : Discipline payDb.sig PayStore PayOracle StatusOp where
  starts _ := True
  allows _ _ c o s := payDb.waits c o s.world = false

section Decidable

instance (op : StatusOp) : Decidable (waiting.starts op) := isTrue trivial

instance (i : Nat) (op : StatusOp) (c : TxCmd PayStmt) (o : PayOracle) (s : StatusSnap) :
    Decidable (waiting.allows i op c o s) :=
  inferInstanceAs (Decidable (payDb.waits c o s.world = false))

instance (P : SeatPlatform) (op : StatusOp) : Decidable ((unraced P).starts op) := isTrue trivial

instance (P : SeatPlatform) (i : Nat) (op : StatusOp) (c : TxCmd PayStmt) (o : PayOracle)
    (s : StatusSnap) : Decidable ((unraced P).allows i op c o s) :=
  match c with
  | .stmt _ q => inferInstanceAs (Decidable (_ ∧ ∀ m ∈ q.unguarded?,
      ∀ a ∈ s.world.data.statusOf m.1, _ ∧ _))
  | .begin => inferInstanceAs (Decidable (_ ∧ True))
  | .commit _ => inferInstanceAs (Decidable (_ ∧ True))
  | .rollback _ => inferInstanceAs (Decidable (_ ∧ True))

end Decidable

section Runs

variable {P : SeatPlatform}

/-- What holds in every state that is reached. -/
def PathsOk (s : StatusSnap) : Prop := Owned s ∧ SessionsFollow s.world

theorem statusPaths_valid (hP : P.Releases) :
    Outline.Valid (statusWriters P) (toldOutline (statusWriters P) (unraced P) PathsOk StatusOk)
      fun _ _ _ _ => True :=
  toldOutline_valid (Q := fun _ _ _ => True) (fun _ h i c o => can_step h.1 i c o)
    (fun _ h i _ c o _ hok hallows => ⟨owned_exec h.1 hok.own hallows.1,
      (statusPaths_step h.1 h.2 hok hallows).2⟩)
    (fun _ h e => ⟨owned_env h.1 e, by
      cases e with
      | data m => cases m <;> exact h.2
      | abort tx => exact fun ss hss => h.2 ss (List.mem_filter.mp hss).1⟩)
    fun op _ => safe_body hP op

/-- **Status paths**: in every run in which the updates by id find the status
that their call has read, and the writers that do not look at it one they may
leave, every change of a status is in the table. -/
theorem statusPaths_run (P : SeatPlatform) (hP : P.Releases) (d : PayData)
    (ls : List StatusLabel) (l : StatusLabel)
    (h : (unraced P).admitsRun (statusWriters P) (Config.idle (.idle d)) (ls ++ [l])) :
    Conforms ((Config.idle (.idle d)).run (statusWriters P) ls).world.data
      ((Config.idle (.idle d)).run (statusWriters P) (ls ++ [l])).world.data := by
  obtain ⟨hls, hl, -⟩ := Discipline.admitsRun_append.mp h
  have hgood := Outline.sound (statusPaths_valid hP)
    (Outline.Good.idle (w := Store.idle d) ⟨owned_idle d, nofun⟩) hls
  rw [Config.run_append, Config.run_cons, Config.run_nil]
  generalize (Config.idle (.idle d)).run (statusWriters P) ls = cfg at hgood hl
  cases l with
  | spawn op => exact Conforms.refl _
  | env e =>
      cases e with
      | data m => cases m <;> exact Conforms.refl _
      | abort tx => exact Conforms.refl _
  | step i o =>
      unfold Config.step
      unfold Discipline.admits at hl
      dsimp only at hl ⊢
      split
      · rename_i op c k hth
        rw [hth] at hl
        exact (statusPaths_step hgood.inv.1 hgood.inv.2 (hgood.pre hth).2 hl).1
      · exact Conforms.refl _

end Runs

/-! A booking that expires, and a refund that is reported to have failed after
it was reported as done. -/

namespace Sample

def seatPlatform : SeatPlatform where
  toPayPlatform := platform
  releaseSeatsSafely bookingId tx := ask tx (.seatLockUpdateMany bookingId .RELEASED)

theorem seatPlatform_releases : seatPlatform.Releases := fun _ _ => quiet_ask (Or.inr rfl) rfl

/-- `handleAutoExpiry`, up to the commit of the first booking. -/
def autoExpiry : List StatusLabel :=
  .spawn (.handleAutoExpiry "p1") :: List.replicate 7 (.step 0 {})

def late : PayData := { data (booking .LOCKED) with clock := 700000 }

/-- The body of a failed refund of `pay_1`. -/
def refundFailedText : String :=
  "\x7b\"id\":\"evt_3\",\"event\":\"refund.failed\",\"payload\":\x7b\"payment\":" ++
    "\x7b\"entity\":\x7b\"id\":\"pay_1\",\"order_id\":\"order_1\",\"notes\":" ++
    "\x7b\"bookingId\":\"b1\",\"tenantId\":\"t1\"\x7d\x7d\x7d," ++
    "\"refund\":\x7b\"entity\":\x7b\"id\":\"rfnd_1\",\"payment_id\":\"pay_1\"\x7d\x7d\x7d\x7d"

def refundFailedDelivery : Delivery where
  rawBody := some refundFailedText
  body := { id := some "evt_3", event := "refund.failed", payment := some payment,
            refund := some ⟨some "rfnd_1", some "pay_1"⟩ }
  serialized := refundFailedText
  signature := some "fd402cb3d26f7f3f9c189216904a53dc8d057993921edbe74a831c7e6ac2dc14"

def signedPlatform : SeatPlatform :=
  { seatPlatform with
    hmacSha256Hex := fun secret text =>
      if secret = "whsec" ∧ text = refundFailedText then
        "fd402cb3d26f7f3f9c189216904a53dc8d057993921edbe74a831c7e6ac2dc14"
      else "" }

theorem signedPlatform_releases : signedPlatform.Releases := fun _ _ => quiet_ask (Or.inr rfl) rfl

def refunded : PayData :=
  data { booking .REFUNDED with razorpayPaymentId := some "pay_1", razorpayRefundId := some "rfnd_1" }

/-- The event has been read; its update is next. -/
def refundFailedEvent : List StatusLabel :=
  [.spawn (.pay (.handleWebhook refundFailedDelivery)), .step 0 {}]

end Sample

theorem statusPaths_autoExpiry :
    ((Config.idle (.idle Sample.late)).run (statusWriters Sample.seatPlatform)
        (Sample.autoExpiry ++ [.step 0 {}])).world.data.statusOf "b1" = some .EXPIRED ∧
      Conforms
        ((Config.idle (.idle Sample.late)).run (statusWriters Sample.seatPlatform)
          Sample.autoExpiry).world.data
        ((Config.idle (.idle Sample.late)).run (statusWriters Sample.seatPlatform)
          (Sample.autoExpiry ++ [.step 0 {}])).world.data :=
  ⟨by decide +kernel, statusPaths_run Sample.seatPlatform Sample.seatPlatform_releases Sample.late
    Sample.autoExpiry (.step 0 {}) (by decide +kernel)⟩

/-- A refund that is done is marked as failed. -/
theorem not_statusPaths_waiting :
    ¬ ∀ (P : SeatPlatform) (d : PayData) (ls : List StatusLabel) (l : StatusLabel), P.Releases →
      waiting.admitsRun (statusWriters P) (Config.idle (.idle d)) (ls ++ [l]) →
      Conforms ((Config.idle (.idle d)).run (statusWriters P) ls).world.data
        ((Config.idle (.idle d)).run (statusWriters P) (ls ++ [l])).world.data := by
  intro h
  have hconforms := h Sample.signedPlatform Sample.refunded Sample.refundFailedEvent (.step 0 {})
    Sample.signedPlatform_releases (by decide +kernel) "b1" .REFUNDED .REFUND_FAILED
    (by decide +kernel) (by decide +kernel)
  revert hconforms
  decide


end Omnipax.Payments
