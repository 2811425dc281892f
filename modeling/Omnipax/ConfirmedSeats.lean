import Omnipax.StatusPaths

/-!
# The seats of a confirmed booking

A confirmation promotes the locks of its booking that are still LOCKED, and a
sweep releases locks by their own expiry, whatever their booking has come to.
The two meet on the rows of the locks: a transaction that has changed the locks
of a booking holds them until it commits. So it is enough to look at the moment
when a transaction gets hold of them. If a confirmation finds none released
then, and a sweep no confirmed booking, a confirmed booking keeps its seats.
-/

namespace Omnipax.Payments

open Conc Prog Database

/-! ## Locks and seats under writes -/

/-- The seats of the booking are promoted in full: all its locks are CONFIRMED, and so are
all the seats that have been recorded for it. -/
def SeatsConfirmed (id : String) (d : PayData) : Prop :=
  (∀ l ∈ d.seatLocks, l.bookingId = id → l.status = .CONFIRMED) ∧
    ∀ b ∈ d.bookingSeats, b.bookingId = id → b.status = some .CONFIRMED

/-- No lock of the booking has been released. -/
def Promotable (id : String) (d : PayData) : Prop :=
  ∀ l ∈ d.seatLocks, l.bookingId = id → l.status = .LOCKED ∨ l.status = .CONFIRMED

/-- There is no lock to promote, and no seat to confirm. -/
def NothingToPromote (id : String) (d : PayData) : Prop :=
  (∀ l ∈ d.seatLocks, l.bookingId ≠ id) ∧
    ∀ b ∈ d.bookingSeats, b.bookingId = id → b.status = some .CONFIRMED

section Decidable

variable (id : String) (d : PayData)

instance : Decidable (SeatsConfirmed id d) :=
  inferInstanceAs (Decidable ((∀ _ ∈ _, _ → _) ∧ ∀ _ ∈ _, _ → _))

instance : Decidable (Promotable id d) := inferInstanceAs (Decidable (∀ _ ∈ _, _ → _))

instance : Decidable (NothingToPromote id d) :=
  inferInstanceAs (Decidable ((∀ _ ∈ _, _) ∧ ∀ _ ∈ _, _ → _))

end Decidable

theorem NothingToPromote.seatsConfirmed {id : String} {d : PayData} (h : NothingToPromote id d) :
    SeatsConfirmed id d :=
  ⟨fun l hl hid => absurd hid (h.1 l hl), h.2⟩

/-- Which lock is for which booking. -/
def PayData.lockPairs (d : PayData) : List (String × String) :=
  d.seatLocks.map fun l => (l.id, l.bookingId)

/-- A write to a single lock is filed under the booking of the lock. -/
def Filed (pairs : List (String × String)) : PayWrite → Prop
  | .seatLock lockId bookingId _ => (lockId, bookingId) ∈ pairs
  | _ => True

/-- The write takes no seat from the booking. -/
def PayWrite.sparesSeats (id : String) : PayWrite → Prop
  | .seatLock _ bookingId _ => bookingId ≠ id
  | .bookingSeats bookingId status => bookingId = id → status = .CONFIRMED
  | _ => True

section Writes

variable {id : String} {w : PayWrite} {ws : List PayWrite} {d : PayData}

theorem lockPairs_apply (w : PayWrite) (d : PayData) :
    (payDb.apply w d).lockPairs = d.lockPairs := by
  have hmap : ∀ f : SeatLock → SeatLock, (∀ l, (f l).id = l.id ∧ (f l).bookingId = l.bookingId) →
      (d.seatLocks.map f).map (fun l => (l.id, l.bookingId)) = d.lockPairs := by
    intro f hf
    rw [List.map_map]
    exact List.map_congr_left fun l _ => Prod.ext (hf l).1 (hf l).2
  cases w with
  | seatLocks bookingId status => exact hmap _ fun l => by split <;> exact ⟨rfl, rfl⟩
  | seatLock lockId bookingId status => exact hmap _ fun l => by split <;> exact ⟨rfl, rfl⟩
  | _ => rfl

theorem lockPairs_applyAll (ws : List PayWrite) (d : PayData) :
    (payDb.applyAll ws d).lockPairs = d.lockPairs :=
  applyAll_of_forall (I := fun d' : PayData => d'.lockPairs = d.lockPairs)
    (fun w _ d' hd' => (lockPairs_apply w d').trans hd') rfl

/-- With the primary key, a lock is that of one booking. -/
theorem bookingId_of_filed (hids : (d.lockPairs.map (·.1)).Nodup) {l : SeatLock} {bookingId : String}
    (hl : l ∈ d.seatLocks) (h : (l.id, bookingId) ∈ d.lockPairs) : l.bookingId = bookingId := by
  have hmem : (l.id, l.bookingId) ∈ d.lockPairs := List.mem_map_of_mem hl
  exact congrArg Prod.snd (List.inj_on_of_nodup_map hids hmem h rfl)

/-- The locks of a booking keep what no write to them breaks. -/
theorem locks_apply {Q : SeatLockStatus → Prop} (hids : (d.lockPairs.map (·.1)).Nodup)
    (hfiled : Filed d.lockPairs w) (hnone : ∀ lockId status, w ≠ .seatLock lockId id status)
    (hQ : ∀ status, w = .seatLocks id status → Q .LOCKED → Q status)
    (h : ∀ l ∈ d.seatLocks, l.bookingId = id → Q l.status) :
    ∀ l ∈ (payDb.apply w d).seatLocks, l.bookingId = id → Q l.status := by
  cases w with
  | seatLocks bookingId status =>
      intro l' hl' hid
      obtain ⟨l, hl, rfl⟩ := List.mem_map.mp hl'
      by_cases hlocked : l.bookingId = bookingId ∧ l.status = .LOCKED
      · rw [if_pos hlocked] at hid ⊢
        obtain ⟨rfl, hlocked⟩ := hlocked
        obtain rfl : l.bookingId = id := hid
        exact hQ status rfl (hlocked ▸ h l hl rfl)
      · rw [if_neg hlocked] at hid ⊢
        exact h l hl hid
  | seatLock lockId bookingId status =>
      intro l' hl' hid
      obtain ⟨l, hl, rfl⟩ := List.mem_map.mp hl'
      by_cases hlock : l.id = lockId
      · rw [if_pos hlock] at hid
        subst hlock
        obtain rfl : bookingId = id := (bookingId_of_filed hids hl hfiled).symm.trans hid
        exact absurd rfl (hnone l.id status)
      · rw [if_neg hlock] at hid ⊢
        exact h l hl hid
  | _ => exact h

theorem seats_apply (hspares : w.sparesSeats id)
    (h : ∀ b ∈ d.bookingSeats, b.bookingId = id → b.status = some .CONFIRMED) :
    ∀ b ∈ (payDb.apply w d).bookingSeats, b.bookingId = id → b.status = some .CONFIRMED := by
  cases w with
  | bookingSeats bookingId status =>
      intro b' hb' hid
      obtain ⟨b, hb, rfl⟩ := List.mem_map.mp hb'
      by_cases hseat : b.bookingId = bookingId
      · rw [if_pos hseat] at hid ⊢
        exact congrArg some (hspares (hseat.symm.trans hid))
      · rw [if_neg hseat] at hid ⊢
        exact h b hb hid
  | _ => exact h

theorem locks_applyAll {Q : SeatLockStatus → Prop} (hids : (d.lockPairs.map (·.1)).Nodup)
    (hfiled : ∀ w ∈ ws, Filed d.lockPairs w) (hnone : ∀ lockId status, .seatLock lockId id status ∉ ws)
    (hQ : ∀ status, .seatLocks id status ∈ ws → Q .LOCKED → Q status)
    (h : ∀ l ∈ d.seatLocks, l.bookingId = id → Q l.status) :
    ∀ l ∈ (payDb.applyAll ws d).seatLocks, l.bookingId = id → Q l.status := by
  refine (applyAll_of_forall (I := fun d' : PayData => d'.lockPairs = d.lockPairs ∧
    ∀ l ∈ d'.seatLocks, l.bookingId = id → Q l.status) (fun w hw d' hd' => ?_) ⟨rfl, h⟩).2
  refine ⟨(lockPairs_apply w d').trans hd'.1, locks_apply ?_ ?_ ?_ ?_ hd'.2⟩
  · rwa [hd'.1]
  · rw [hd'.1]
    exact hfiled w hw
  · rintro lockId status rfl
    exact hnone lockId status hw
  · rintro status rfl
    exact hQ status hw

theorem seats_applyAll (hspares : ∀ w ∈ ws, w.sparesSeats id)
    (h : ∀ b ∈ d.bookingSeats, b.bookingId = id → b.status = some .CONFIRMED) :
    ∀ b ∈ (payDb.applyAll ws d).bookingSeats, b.bookingId = id → b.status = some .CONFIRMED :=
  applyAll_of_forall (I := fun d' : PayData => ∀ b ∈ d'.bookingSeats, b.bookingId = id →
    b.status = some .CONFIRMED) (fun w hw _ => seats_apply (hspares w hw)) h

theorem not_seatLock_of_spares (hspares : ∀ w ∈ ws, w.sparesSeats id) (lockId : String)
    (status : SeatLockStatus) : .seatLock lockId id status ∉ ws :=
  fun hw => hspares _ hw rfl

theorem SeatsConfirmed.applyAll (h : SeatsConfirmed id d) (hids : (d.lockPairs.map (·.1)).Nodup)
    (hfiled : ∀ w ∈ ws, Filed d.lockPairs w) (hspares : ∀ w ∈ ws, w.sparesSeats id) :
    SeatsConfirmed id (payDb.applyAll ws d) :=
  ⟨locks_applyAll (Q := (· = .CONFIRMED)) hids hfiled (not_seatLock_of_spares hspares) nofun h.1,
    seats_applyAll hspares h.2⟩

/-- All a transaction does to the locks and the seats is to confirm them. -/
structure Promotes (id : String) (ws : List PayWrite) : Prop where
  locks : .seatLocks id .CONFIRMED ∈ ws
  seats : .bookingSeats id .CONFIRMED ∈ ws
  only : ∀ status, .seatLocks id status ∈ ws → status = .CONFIRMED
  spares : ∀ w ∈ ws, w.sparesSeats id

theorem Promotes.seatsConfirmed (h : Promotes id ws) (hids : (d.lockPairs.map (·.1)).Nodup)
    (hfiled : ∀ w ∈ ws, Filed d.lockPairs w) (hd : Promotable id d) :
    SeatsConfirmed id (payDb.applyAll ws d) := by
  constructor
  · obtain ⟨before, after, hws⟩ := List.append_of_mem h.locks
    have hmem : ∀ w, w ∈ before ∨ w ∈ after → w ∈ ws := by
      rintro w (hw | hw) <;> rw [hws] <;> simp [hw]
    have hbefore := locks_applyAll (Q := fun st => st = .LOCKED ∨ st = .CONFIRMED) hids
      (fun w hw => hfiled w (hmem w (Or.inl hw)))
      (not_seatLock_of_spares fun w hw => h.spares w (hmem w (Or.inl hw)))
      (fun status hst _ => Or.inr (h.only status (hmem _ (Or.inl hst)))) hd
    rw [hws, applyAll_append, applyAll_cons]
    refine locks_applyAll (Q := (· = .CONFIRMED)) ?_ (fun w hw => ?_)
      (not_seatLock_of_spares fun w hw => h.spares w (hmem w (Or.inr hw))) nofun fun l' hl' hid => ?_
    · rwa [lockPairs_apply, lockPairs_applyAll]
    · rw [lockPairs_apply, lockPairs_applyAll]
      exact hfiled w (hmem w (Or.inr hw))
    · -- the promotion itself
      obtain ⟨l, hl, rfl⟩ := List.mem_map.mp hl'
      by_cases hlocked : l.bookingId = id ∧ l.status = .LOCKED
      · rw [if_pos hlocked]
      · rw [if_neg hlocked] at hid ⊢
        exact (hbefore l hl hid).resolve_left fun hst => hlocked ⟨hid, hst⟩
  · obtain ⟨before, after, hws⟩ := List.append_of_mem h.seats
    rw [hws, applyAll_append, applyAll_cons]
    refine seats_applyAll (fun w hw => h.spares w (by rw [hws]; simp [hw])) fun b' hb' hid => ?_
    obtain ⟨b, hb, rfl⟩ := List.mem_map.mp hb'
    by_cases hseat : b.bookingId = id
    · rw [if_pos hseat]
    · rw [if_neg hseat] at hid
      exact absurd hid hseat

end Writes

/-! ## The calls -/

inductive SeatOp where
  | releaseExpiredLocks (process : String) (rounds : Nat)
  | processPaymentSuccess (bookingId razorpayPaymentId signature tenantId : String)
  | reconcileBooking (bookingId : String) (razorpayOrderId : Option String) (tenantId : String)
      (finalAmount : Money)

def SeatOp.body : SeatOp → PayM Unit
  | .releaseExpiredLocks process rounds => SeatLockWorker.releaseExpiredLocks process rounds
  | .processPaymentSuccess bookingId razorpayPaymentId signature tenantId =>
      (fun _ => ()) <$> Payments.processPaymentSuccess bookingId razorpayPaymentId signature tenantId
  | .reconcileBooking bookingId razorpayOrderId tenantId finalAmount =>
      Payments.reconcileBooking bookingId razorpayOrderId tenantId finalAmount

abbrev SeatSnap := Snap payDb.sig PayStore PayOracle SeatOp
abbrev SeatLabel := Label PayOracle (DbEnv PayMove) SeatOp

def seatWriters : System payDb.sig PayStore PayOracle (DbEnv PayMove) PayExn Unit SeatOp :=
  payDb.system PayMove.apply SeatOp.body

/-- What a statement finds of the booking: a promotion no lock that has been
released, the release of expired locks no confirmed booking, and the shortcut of
the worker, which promotes nothing, no booking with something to promote. -/
def PayStmt.finds (id : String) (d : PayData) : PayStmt → Prop
  | .seatLockUpdateMany bookingId .CONFIRMED => bookingId = id → Promotable id d
  | .seatLockUpdateByIds ids _ => d.statusOf id = some .CONFIRMED →
      ∀ l ∈ d.seatLocks, l.bookingId = id → l.id ∉ ids
  | .bookingUpdate bookingId (some status) _ => bookingId = id → d.statusOf id = some status →
      NothingToPromote id d
  | _ => True

/-- The writers wait for locks, and each of their statements finds of the booking what its
call took it to be: no lock released before a promotion, none taken of a booking that is
confirmed. -/
def keepsSeats (id : String) : Discipline payDb.sig PayStore PayOracle SeatOp where
  starts _ := True
  allows _ _ c o s := payDb.waits c o s.world = false ∧
    match c with
    | .stmt _ q => q.finds id s.world.data
    | _ => True

/-- What an open transaction has written of the booking, on data `d`. -/
structure Pending (id : String) (ws : List PayWrite) (d : PayData) : Prop where
  filed : ∀ w ∈ ws, Filed d.lockPairs w
  promoted : .seatLocks id .CONFIRMED ∈ ws → Promotable id d
  released : ∀ lockId status, .seatLock lockId id status ∈ ws → d.statusOf id ≠ some .CONFIRMED
  seats : ∀ status, .bookingSeats id status ∈ ws →
    status = .CONFIRMED ∨ ∃ lockId status', .seatLock lockId id status' ∈ ws

/-- A confirmed booking has its seats, and no open transaction is about to take
them. -/
structure SeatsKept (id : String) (s : SeatSnap) : Prop where
  store : payDb.StoreOk s.world
  openers : Openers s
  ids : (s.world.data.lockPairs.map (·.1)).Nodup
  confirmed : s.world.data.statusOf id = some .CONFIRMED → SeatsConfirmed id s.world.data
  pending : ∀ ss ∈ s.world.sessions, Pending id ss.writes s.world.data

/-- The statements that run by themselves: of the writes to bookings, none that
confirms one but the shortcut of the worker. -/
def PayStmt.byItself : PayStmt → Bool
  | .dateNow => true
  | .enterGuard .. => true
  | .leaveGuard .. => true
  | .seatLockFindExpired _ => true
  | .ordersFetchPayments _ => true
  | .ledgerFindFirst _ => true
  | .bookingUpdate _ none data => data.status != some .CONFIRMED
  | .bookingUpdate _ (some _) _ => true
  | _ => false

/-- Writes that confirm the booking promote its locks and seats. -/
def Confirms (id : String) (ws : List PayWrite) : Prop :=
  ∀ w ∈ ws, w.setsStatus id = some .CONFIRMED → Promotes id ws

/-- A call releases the locks of a booking before it takes its seats, and what it
commits promotes them where it confirms the booking. -/
def SeatPre (id : String) (i : Nat) (c : TxCmd PayStmt) (s : SeatSnap) : Prop :=
  Own i c s ∧
    match c with
    | .stmt none q => q.byItself = true
    | .stmt (some tx) (.bookingSeatUpdateMany bookingId status) => status = .CONFIRMED ∨
        ∀ ss, s.world.session? tx = some ss → ∃ lockId status', .seatLock lockId bookingId status' ∈ ss.writes
    | .commit tx => ∀ ss, s.world.session? tx = some ss → Confirms id ss.writes
    | _ => True

def seatOutline (id : String) : Outline payDb.sig PayStore PayOracle SeatOp where
  toDiscipline := keepsSeats id
  inv := SeatsKept id
  pre i _ c s := SeatPre id i c s

/-! ## A step -/

section Statements

variable {q : PayStmt} {o : PayOracle} {d : PayData} {id bookingId lockId : String}

theorem seatLock_exec {status : SeatLockStatus}
    (h : .seatLock lockId bookingId status ∈ (payDb.exec q o d).2) :
    (∃ ids, q = .seatLockUpdateByIds ids status ∧ lockId ∈ ids) ∧ (lockId, bookingId) ∈ d.lockPairs := by
  have hwrites := writes_exec h
  cases q with
  | seatLockUpdateByIds ids status' =>
      obtain ⟨hmem, rfl⟩ := hwrites
      refine ⟨⟨ids, rfl, hmem⟩, ?_⟩
      obtain ⟨l, hl, hwrite⟩ := List.mem_map.mp h
      obtain ⟨rfl, rfl, -⟩ := PayWrite.seatLock.inj hwrite
      exact List.mem_map_of_mem (List.mem_filter.mp hl).1
  | _ => cases hwrites

theorem seatLocks_exec {status : SeatLockStatus}
    (h : .seatLocks bookingId status ∈ (payDb.exec q o d).2) :
    q = .seatLockUpdateMany bookingId status := by
  have hwrites := writes_exec h
  cases q with
  | seatLockUpdateMany bookingId' status' =>
      obtain ⟨rfl, rfl⟩ := PayWrite.seatLocks.inj (List.mem_singleton.mp h)
      rfl
  | _ => cases hwrites

theorem bookingSeats_exec {status : BookingStatus}
    (h : .bookingSeats bookingId status ∈ (payDb.exec q o d).2) :
    q = .bookingSeatUpdateMany bookingId status := by
  have hwrites := writes_exec h
  cases q with
  | bookingSeatUpdateMany bookingId' status' =>
      obtain ⟨rfl, rfl⟩ := PayWrite.bookingSeats.inj (List.mem_singleton.mp h)
      rfl
  | _ => cases hwrites

theorem filed_exec : ∀ w ∈ (payDb.exec q o d).2, Filed d.lockPairs w := by
  intro w hw
  cases w with
  | seatLock lockId bookingId status => exact (seatLock_exec hw).2
  | _ => trivial

theorem spares_byItself (hq : q.byItself = true) : ∀ w ∈ (payDb.exec q o d).2, w.sparesSeats id := by
  intro w hw
  cases w with
  | seatLock lockId bookingId status =>
      obtain ⟨⟨ids, rfl, -⟩, -⟩ := seatLock_exec hw
      cases hq
  | bookingSeats bookingId status =>
      obtain rfl := bookingSeats_exec hw
      cases hq
  | _ => trivial

theorem confirms_byItself (hq : q.byItself = true) (hfinds : q.finds id d) {w : PayWrite}
    (hw : w ∈ (payDb.exec q o d).2) (hs : w.setsStatus id = some .CONFIRMED) :
    NothingToPromote id d := by
  have hid : ∀ {id' : String} {u : BookingUpdate}, w = .booking id' u → id' = id := by
    rintro id' u rfl
    rw [PayWrite.setsStatus] at hs
    split at hs
    · assumption
    · cases hs
  have hwrites := writes_exec hw
  have hsets := sets_exec hw hs
  cases w with
  | booking id' u =>
      obtain rfl := hid rfl
      cases q with
      | bookingUpdate id'' status data =>
          obtain ⟨rfl, rfl⟩ := hwrites
          rcases hsets with hset | ⟨a, hset, ha⟩
          · cases status with
            | none =>
                obtain ⟨st, hst, hpair⟩ := Option.map_eq_some_iff.mp hset
                obtain ⟨-, rfl⟩ := Prod.mk.inj hpair
                rw [PayStmt.byItself, hst] at hq
                cases hq
            | some status => cases hset
          · cases status with
            | none => cases hset
            | some status =>
                obtain ⟨st, -, hpair⟩ := Option.map_eq_some_iff.mp hset
                obtain ⟨rfl, -⟩ := Prod.mk.inj hpair
                exact hfinds rfl ha
      | bookingUpdateMany ids status data => cases hq
      | _ => cases hwrites
  | _ => cases hs

end Statements

section Step

variable {id : String} {d : PayData} {ws : List PayWrite} {s : SeatSnap} {i : Nat} {op : SeatOp}
  {c : TxCmd PayStmt} {o : PayOracle}

/-- A booking that is confirmed by writes has been confirmed before, or one of
them confirms it. -/
theorem confirmed_applyAll (h : (payDb.applyAll ws d).statusOf id = some .CONFIRMED) :
    d.statusOf id = some .CONFIRMED ∨ ∃ w ∈ ws, w.setsStatus id = some .CONFIRMED := by
  rw [statusOf_applyAll] at h
  obtain ⟨a, ha, hlast⟩ := Option.map_eq_some_iff.mp h
  cases hws : lastStatus id ws with
  | none =>
      rw [hws] at hlast
      exact Or.inl (ha.trans (congrArg some hlast))
  | some b =>
      rw [hws] at hlast
      obtain rfl : b = .CONFIRMED := hlast
      exact Or.inr (mem_of_lastStatus hws)

/-- Writes under other keys, which confirm the booking with its locks or where
there are none, leave a transaction what it is. -/
theorem Pending.frozen {ss : Session PayWrite} (h : Pending id ss.writes d)
    (hids : (d.lockPairs.map (·.1)).Nodup) (hfiled : ∀ w ∈ ws, Filed d.lockPairs w)
    (hfree : ∀ w ∈ ws, ∀ k ∈ payDb.keys w, ¬payDb.holds ss k)
    (hconfirms : ∀ w ∈ ws, w.setsStatus id = some .CONFIRMED →
      .seatLocks id .CONFIRMED ∈ ws ∨ NothingToPromote id d) :
    Pending id ss.writes (payDb.applyAll ws d) where
  filed := by
    rw [lockPairs_applyAll]
    exact h.filed
  promoted hmem := by
    have hheld : payDb.holds ss (.seatLocks id) := ⟨_, hmem, List.mem_singleton_self _⟩
    refine locks_applyAll (Q := fun st => st = .LOCKED ∨ st = .CONFIRMED) hids hfiled
      (fun lockId status hw => ?_) (fun status hw => ?_) (h.promoted hmem)
    · exact absurd hheld (hfree _ hw _ (List.mem_singleton_self _))
    · exact absurd hheld (hfree _ hw _ (List.mem_singleton_self _))
  released lockId status hmem hconfirmed := by
    have hheld : payDb.holds ss (.seatLocks id) := ⟨_, hmem, List.mem_singleton_self _⟩
    rcases confirmed_applyAll hconfirmed with hd | ⟨w, hw, hs⟩
    · exact h.released lockId status hmem hd
    · rcases hconfirms w hw hs with hlocks | hnothing
      · exact hfree _ hlocks _ (List.mem_singleton_self _) hheld
      · obtain ⟨l, hl, hpair⟩ := List.mem_map.mp (h.filed _ hmem)
        exact hnothing.1 l hl (Prod.mk.inj hpair).2
  seats := h.seats

theorem Pending.stmt {q : PayStmt} (h : Pending id ws d) (hfinds : q.finds id d)
    (hseats : ∀ status, q = .bookingSeatUpdateMany id status →
      status = .CONFIRMED ∨ ∃ lockId status', .seatLock lockId id status' ∈ ws) :
    Pending id (ws ++ (payDb.exec q o (payDb.applyAll ws d)).2) d where
  filed w hw := by
    rcases List.mem_append.mp hw with hw | hw
    · exact h.filed w hw
    · rw [← lockPairs_applyAll ws d]
      exact filed_exec w hw
  promoted hmem := by
    rcases List.mem_append.mp hmem with hmem | hmem
    · exact h.promoted hmem
    · obtain rfl := seatLocks_exec hmem
      exact hfinds rfl
  released lockId status hmem hconfirmed := by
    rcases List.mem_append.mp hmem with hmem | hmem
    · exact h.released lockId status hmem hconfirmed
    · obtain ⟨⟨ids, rfl, hlock⟩, hpair⟩ := seatLock_exec hmem
      rw [lockPairs_applyAll] at hpair
      obtain ⟨l, hl, hpair⟩ := List.mem_map.mp hpair
      obtain ⟨rfl, rfl⟩ := Prod.mk.inj hpair
      exact hfinds hconfirmed l hl rfl hlock
  seats status hmem := by
    have hweak : (status = .CONFIRMED ∨ ∃ lockId status', .seatLock lockId id status' ∈ ws) →
        status = .CONFIRMED ∨ ∃ lockId status',
          .seatLock lockId id status' ∈ ws ++ (payDb.exec q o (payDb.applyAll ws d)).2 :=
      Or.imp_right fun ⟨lockId, status', h⟩ => ⟨lockId, status', List.mem_append_left _ h⟩
    rcases List.mem_append.mp hmem with hmem | hmem
    · exact hweak (h.seats status hmem)
    · exact hweak (hseats status (bookingSeats_exec hmem))

theorem pending_nil : Pending id [] d where
  filed _ h := absurd h List.not_mem_nil
  promoted h := absurd h List.not_mem_nil
  released _ _ h := absurd h List.not_mem_nil
  seats _ h := absurd h List.not_mem_nil

/-- A transaction that does not confirm the booking spares its seats, if it is
confirmed. -/
theorem Pending.spares (h : Pending id ws d) (hd : d.statusOf id = some .CONFIRMED) :
    ∀ w ∈ ws, w.sparesSeats id := by
  have hnone : ∀ lockId status, .seatLock lockId id status ∉ ws :=
    fun lockId status hw => h.released lockId status hw hd
  intro w hw
  cases w with
  | seatLock lockId bookingId status =>
      rintro rfl
      exact hnone lockId status hw
  | bookingSeats bookingId status =>
      rintro rfl
      rcases h.seats status hw with hst | ⟨lockId, status', hlock⟩
      · exact hst
      · exact absurd hlock (hnone lockId status')
  | _ => trivial

/-- What a command makes of the committed data, as the writes of a statement by
itself or of a transaction. -/
theorem seats_data (h : SeatsKept id s) (hpre : SeatPre id i c s)
    (hallows : (keepsSeats id).allows i op c o s) :
    ∃ ws, (payDb.step c o s.world).2.data = payDb.applyAll ws s.world.data ∧
      (∀ w ∈ ws, Filed s.world.data.lockPairs w) ∧
      (∀ w ∈ ws, w.setsStatus id = some .CONFIRMED →
        .seatLocks id .CONFIRMED ∈ ws ∨ NothingToPromote id s.world.data) ∧
      ((payDb.applyAll ws s.world.data).statusOf id = some .CONFIRMED →
        SeatsConfirmed id (payDb.applyAll ws s.world.data)) ∧
      ∀ ss ∈ s.world.sessions, c ≠ .commit ss.id → ∀ w ∈ ws, ∀ k ∈ payDb.keys w,
        ¬payDb.holds ss k := by
  rcases step_data payDb c o s.world with hd | ⟨q, rfl, hsent, hd⟩ | ⟨ss, rfl, hss, -, hd⟩
  · exact ⟨[], hd, fun _ h => absurd h List.not_mem_nil, fun _ h => absurd h List.not_mem_nil,
      h.confirmed, fun _ _ _ _ h => absurd h List.not_mem_nil⟩
  · have hbyItself : q.byItself = true := hpre.2
    have hfinds : q.finds id s.world.data := hallows.2
    have hnothing : ∀ w ∈ (payDb.exec q o s.world.data).2, w.setsStatus id = some .CONFIRMED →
        NothingToPromote id s.world.data := fun w => confirms_byItself hbyItself hfinds
    refine ⟨_, hd, filed_exec, fun w hw hs => Or.inr (hnothing w hw hs), fun hconfirmed => ?_, ?_⟩
    · have hbefore : SeatsConfirmed id s.world.data := by
        rcases confirmed_applyAll hconfirmed with hd | ⟨w, hw, hs⟩
        · exact h.confirmed hd
        · exact (hnothing w hw hs).seatsConfirmed
      exact hbefore.applyAll h.ids filed_exec (spares_byItself hbyItself)
    · have hblocked : payDb.blocked none q o s.world = false := by
        simpa [waits, hsent] using hallows.1
      exact fun ss hss _ w hw k hk => not_blocked hblocked hw hk hss (by simp)
  · have hpending := h.pending ss hss
    have hpromotes : Confirms id ss.writes := hpre.2 ss (session?_of_mem h.store hss)
    refine ⟨_, hd, hpending.filed, fun w hw hs => Or.inl (hpromotes w hw hs).locks,
      fun hconfirmed => ?_, fun ss' hss' hne w hw k hk hheld => ?_⟩
    · rcases confirmed_applyAll hconfirmed with hd | ⟨w, hw, hs⟩
      · exact (h.confirmed hd).applyAll h.ids hpending.filed (hpending.spares hd)
      · have hpro := hpromotes w hw hs
        exact hpro.seatsConfirmed h.ids hpending.filed (hpending.promoted hpro.locks)
    · exact h.store.exclusive ss hss ss' hss' (fun hid => hne (by rw [hid])) k ⟨w, hw, hk⟩ hheld

/-- **Step**: a command that meets its assertion and finds what it has to keeps
the seats of the booking. -/
theorem seatsKept_exec (h : SeatsKept id s) (hpre : SeatPre id i c s)
    (hallows : (keepsSeats id).allows i op c o s) :
    SeatsKept id (s.exec seatWriters i op c o) := by
  obtain ⟨ws, hdata, hfiled, hconfirms, hconfirmed, hfree⟩ := seats_data h hpre hallows
  have hworld : (s.exec seatWriters i op c o).world = (payDb.step c o s.world).2 := rfl
  refine ⟨storeOk_step h.store hallows.1, openers_exec h.openers .., ?_, ?_, fun ss hss => ?_⟩
  · rw [hworld, hdata, lockPairs_applyAll]
    exact h.ids
  · rw [hworld, hdata]
    exact hconfirmed
  · have hcommit : c ≠ .commit ss.id := by
      rintro rfl
      exact id_ne_of_commit hss rfl
    have hkept : ∀ ss₀ ∈ s.world.sessions, ss₀.id = ss.id →
        Pending id ss₀.writes (s.exec seatWriters i op c o).world.data := by
      intro ss₀ hss₀ hid
      rw [hworld, hdata]
      exact (h.pending ss₀ hss₀).frozen h.ids hfiled (hfree ss₀ hss₀ (hid ▸ hcommit)) hconfirms
    rcases session_of_step hss with hnil | ⟨ss₀, hss₀, hid, hsame | ⟨q, rfl, -, happ⟩⟩
    · rw [hnil]
      exact pending_nil
    · rw [hsame]
      exact hkept ss₀ hss₀ hid
    · -- its own statement: the committed data stay
      have hsame : (payDb.step (.stmt (some ss.id) q) o s.world).2.data = s.world.data := by
        rcases step_data payDb (.stmt (some ss.id) q) o s.world with hd | ⟨_, hc, -⟩ | ⟨_, hc, -⟩
        · exact hd
        · cases hc
        · cases hc
      have hss₀' : s.world.session? ss.id = some ss₀ := hid ▸ session?_of_mem h.store hss₀
      rw [hworld, hsame, happ, wants, hss₀']
      dsimp only
      split
      · rw [List.append_nil]
        exact h.pending ss₀ hss₀
      · refine (h.pending ss₀ hss₀).stmt hallows.2 ?_
        rintro status rfl
        exact hpre.2.imp_right fun hlock => hlock ss₀ hss₀'

end Step

/-! ## What a transaction has written -/

section Writing

variable {id bookingId : String} {ws : List PayWrite} {q : PayStmt} {o : PayOracle} {d : PayData}

/-- None of the writes confirms the booking. -/
def Unconfirming (id : String) (ws : List PayWrite) : Prop :=
  ∀ w ∈ ws, w.setsStatus id ≠ some .CONFIRMED

theorem Unconfirming.confirms (h : Unconfirming id ws) : Confirms id ws :=
  fun w hw hs => absurd hs (h w hw)

theorem Unconfirming.append (h : Unconfirming id ws) (hq : ∀ m ∈ q.unguarded?, m.2 ≠ .CONFIRMED)
    (hq' : ∀ m ∈ q.guarded?, m.2 ≠ .CONFIRMED) : Unconfirming id (ws ++ (payDb.exec q o d).2) := by
  intro w hw hs
  rcases List.mem_append.mp hw with hw | hw
  · exact h w hw hs
  · rcases sets_exec hw hs with hset | ⟨a, hset, -⟩
    · exact hq _ hset rfl
    · exact hq' _ hset rfl

theorem confirms_confirmation {data : BookingUpdate} {rows : List LedgerEntry} :
    Confirms id ([.booking bookingId data, .seatLocks bookingId .CONFIRMED,
      .bookingSeats bookingId .CONFIRMED] ++ rows.map .ledger) := by
  have hledger : ∀ w ∈ rows.map PayWrite.ledger, ∃ row, w = .ledger row := by
    intro w hw
    obtain ⟨row, -, rfl⟩ := List.mem_map.mp hw
    exact ⟨row, rfl⟩
  intro w hw hs
  have hid : bookingId = id := by
    rcases List.mem_append.mp hw with hw | hw
    · simp only [List.mem_cons, List.not_mem_nil, or_false] at hw
      rcases hw with rfl | rfl | rfl
      · rw [PayWrite.setsStatus] at hs
        split at hs
        · assumption
        · cases hs
      · cases hs
      · cases hs
    · obtain ⟨row, rfl⟩ := hledger w hw
      cases hs
  subst hid
  refine ⟨by simp, by simp, fun status hst => ?_, fun w hw => ?_⟩
  · rcases List.mem_append.mp hst with hst | hst
    · simp only [List.mem_cons, List.not_mem_nil, or_false, reduceCtorEq, false_or,
        PayWrite.seatLocks.injEq, true_and] at hst
      exact hst
    · obtain ⟨row, hrow⟩ := hledger _ hst
      cases hrow
  · rcases List.mem_append.mp hw with hw | hw
    · simp only [List.mem_cons, List.not_mem_nil, or_false] at hw
      rcases hw with rfl | rfl | rfl
      · trivial
      · trivial
      · exact fun _ => rfl
    · obtain ⟨row, rfl⟩ := hledger w hw
      trivial

end Writing

/-! ## The bodies -/

section Bodies

variable {id bookingId tenantId : String} {i tx : Nat} {op : SeatOp} {s : SeatSnap} {α β : Type}

theorem tracks_seats : Tracks (seatOutline id) where
  store h := h.store
  openers h := h.openers
  own h := h.1
  waits h := h.1

abbrev Keeps (id : String) (i : Nat) (op : SeatOp) (p : PayM α) (s : SeatSnap) : Prop :=
  Fine PayMove.apply SeatOp.body (seatOutline id) i op p s

theorem keeps_ask {q : PayStmt} {f : q.Ret → PayM β} (hq : q.byItself = true)
    (h : ∀ a s, SeatsKept id s → Keeps id i op (f a) s) : Keeps id i op (ask none q >>= f) s :=
  fine_query (fun _ _ => ⟨nofun, hq⟩) fun _ _ a _ _ hinv => h a _ hinv

theorem keeps_last {q : PayStmt} (hq : q.byItself = true) : Keeps id i op (ask none q) s :=
  fine_last fun _ _ => ⟨nofun, hq⟩

theorem stable_writes (tx : Nat) (F : List PayWrite → Prop) :
    Stable seatWriters (seatOutline id) i (InTx i tx fun ss _ => F ss.writes) :=
  InTx.stable tracks_seats (fun _ _ _ _ h => h) fun _ _ _ h => h

/-- What the body of a transaction comes to: a commit, or a rollback. -/
abbrev InBody (id : String) (i : Nat) (op : SeatOp) (tx : Nat) (G : SeatSnap → Prop) (p : PayM α)
    (s : SeatSnap) : Prop :=
  p.wp seatWriters (seatOutline id) i op (fun _ s => InTx i tx (fun ss _ => Confirms id ss.writes) s ∧ G s)
    (fun _ s => Opened i tx s ∧ G s) s

theorem keeps_transaction {p : Nat → PayM α} {G : SeatSnap → Prop} (hG : Persistent seatWriters G)
    (hs : G s) (h : ∀ tx s, InTx i tx (Wrote (· = [])) s → G s → InBody id i op tx G (p tx) s) :
    Keeps id i op (inTransaction p) s :=
  (wp_transaction (Q := fun _ _ => True)
    (B := fun tx _ s => InTx i tx (fun ss _ => Confirms id ss.writes) s ∧ G s)
    tracks_seats hs hG (fun _ _ _ => ⟨nofun, trivial⟩) (fun _ _ _ h => ⟨h.own rfl, trivial⟩)
    (fun _ _ _ _ h => ⟨h.1.1.own rfl, h.1.2⟩)
    (fun tx _ => (stable_writes tx _).and hG.stable)
    (fun _ _ _ h => h.2) (fun s tx _ hG hin => h tx s hin hG)
    fun _ _ _ _ _ _ _ _ _ => fun _ _ _ => trivial).mono (fun _ _ _ h => h) fun _ _ _ _ => trivial

section Body

variable {G : SeatSnap → Prop} (hG : Persistent seatWriters G) {F H : List PayWrite → Prop}
  {q : PayStmt} {f : q.Ret → PayM β}

include hG

theorem body_ask (hs : InTx i tx (Wrote F) s) (hGs : G s)
    (hq : ∀ bookingId status, q = .bookingSeatUpdateMany bookingId status → status = .CONFIRMED)
    (hF : ∀ a o d ws ws', F ws → payDb.exec q o d = (.ok a, ws') → H (ws ++ ws'))
    (h : ∀ a s, InTx i tx (Wrote H) s → G s → InBody id i op tx G (f a) s) :
    InBody id i op tx G (ask (some tx) q >>= f) s := by
  refine wp_wrote tracks_seats hG hs hGs (fun s _ hin => ⟨hin.1.own rfl, ?_⟩) hF
    fun a s _ hin hGs => h a s hin hGs
  cases q with
  | bookingSeatUpdateMany bookingId status => exact Or.inl (hq bookingId status rfl)
  | _ => trivial

theorem body_dateNow {f : Time → PayM β} (hs : InTx i tx (Wrote F) s) (hGs : G s)
    (h : ∀ now s, InTx i tx (Wrote F) s → G s → InBody id i op tx G (f now) s) :
    InBody id i op tx G (ask none .dateNow >>= f) s :=
  wp_query ((Wrote.stable tracks_seats F).and hG.stable) ⟨hs, hGs⟩
    ((Opened.persistent i tx).and hG) (fun _ h => ⟨h.1.1, h.2⟩) (fun _ _ _ => ⟨nofun, rfl⟩)
    fun _ _ now hinv hs _ _ _ => h now _ (hs.1.beside hinv.openers nofun) (hG.exec hs.2 ..)

theorem body_other (hs : InTx i tx (Wrote (Unconfirming id)) s) (hGs : G s)
    (hq : ∀ bookingId status, q = .bookingSeatUpdateMany bookingId status → status = .CONFIRMED)
    (hset : ∀ m ∈ q.unguarded?, m.2 ≠ .CONFIRMED) (hset' : ∀ m ∈ q.guarded?, m.2 ≠ .CONFIRMED)
    (h : ∀ a s, InTx i tx (Wrote (Unconfirming id)) s → G s → InBody id i op tx G (f a) s) :
    InBody id i op tx G (ask (some tx) q >>= f) s := by
  refine body_ask hG hs hGs hq (fun a o d ws ws' hws hexec => ?_) h
  obtain rfl : (payDb.exec q o d).2 = ws' := congrArg Prod.snd hexec
  exact hws.append hset hset'

theorem body_ret {a : α} (hF : ∀ ws, F ws → Confirms id ws) (hs : InTx i tx (Wrote F) s) (hGs : G s) :
    InBody id i op tx G (.ret a) s :=
  wp_ret ((Wrote.stable tracks_seats F).and hG.stable) ⟨hs, hGs⟩ fun _ _ h =>
    ⟨h.1.mono fun _ _ hF' => hF _ hF'.1, h.2⟩

omit hG in
theorem body_throw (hG : Persistent seatWriters G) {e : PayExn} (hs : InTx i tx (Wrote F) s)
    (hGs : G s) : InBody id i op tx G (.err e : PayM α) s :=
  fun _ hs' _ => ((Opened.persistent i tx).and hG).stable.star hs' ⟨hs.1, hGs⟩

theorem body_confirm {data : Time → BookingUpdate} {rows : List LedgerEntry} {f : Unit → PayM β}
    (hs : InTx i tx (Wrote (· = [])) s) (hGs : G s)
    (h : ∀ s, InTx i tx (Wrote (Confirms id)) s → G s → InBody id i op tx G (f ()) s) :
    InBody id i op tx G (ask none .dateNow >>= fun now =>
      ask (some tx) (.bookingUpdate bookingId none (data now)) >>= fun _ =>
      ask (some tx) (.seatLockUpdateMany bookingId .CONFIRMED) >>= fun _ =>
      ask (some tx) (.bookingSeatUpdateMany bookingId .CONFIRMED) >>= fun _ =>
      ask (some tx) (.ledgerCreateMany rows) >>= f) s := by
  refine body_dateNow hG hs hGs fun now s hs hGs => ?_
  refine body_ask hG (H := (· = [.booking bookingId (data now)])) hs hGs nofun
    (fun a o d ws ws' hws hexec => ?_) fun _ s hs hGs => ?_
  · rw [hws, bookingUpdate_ok hexec, List.nil_append]
  refine body_ask hG (H := (· = [.booking bookingId (data now), .seatLocks bookingId .CONFIRMED]))
    hs hGs nofun (fun a o d ws ws' hws hexec => ?_) fun _ s hs hGs => ?_
  · obtain rfl : [_] = ws' := congrArg Prod.snd hexec
    rw [hws]
    rfl
  refine body_ask hG (H := (· = [.booking bookingId (data now), .seatLocks bookingId .CONFIRMED,
      .bookingSeats bookingId .CONFIRMED])) hs hGs (fun _ _ h => ?_)
    (fun a o d ws ws' hws hexec => ?_) fun _ s hs hGs => ?_
  · exact (PayStmt.bookingSeatUpdateMany.inj h).2.symm
  · obtain rfl : [_] = ws' := congrArg Prod.snd hexec
    rw [hws]
    rfl
  refine body_ask hG hs hGs nofun (fun a o d ws ws' hws hexec => ?_) fun _ s hs hGs => h s hs hGs
  obtain rfl : rows.map PayWrite.ledger = ws' := congrArg Prod.snd hexec
  rw [hws]
  exact confirms_confirmation

end Body

theorem unconfirming_of_nil {ws : List PayWrite} (h : ws = []) : Unconfirming id ws := by
  subst h
  exact fun _ h => absurd h List.not_mem_nil

theorem keeps_found {f : Nat → Option Booking → PayM α}
    (h : ∀ tx b s, InTx i tx (Wrote (· = [])) s →
      InBody id i op tx (fun _ => True) (f tx b) s) :
    Keeps id i op (inTransaction fun tx => ask (some tx) (.bookingFindUnique bookingId) >>= f tx) s := by
  refine keeps_transaction persistent_true trivial fun tx s hs _ => ?_
  refine body_ask persistent_true hs trivial nofun (fun a o d ws ws' hws hexec => ?_)
    fun b s hs _ => h tx b s hs
  obtain rfl : [] = ws' := congrArg Prod.snd hexec
  rw [hws]
  rfl

theorem unconfirming_of_begun (hs : InTx i tx (Wrote (· = [])) s) :
    InTx i tx (Wrote (Unconfirming id)) s :=
  hs.mono fun _ _ h => ⟨unconfirming_of_nil h.1, h.2⟩

theorem body_nothing {a : α} (hs : InTx i tx (Wrote (· = [])) s) :
    InBody id i op tx (fun _ => True) (.ret a) s :=
  body_ret persistent_true (fun _ h => (unconfirming_of_nil h).confirms) hs trivial

theorem keeps_processPaymentSuccess {paymentId signature : String} :
    Keeps id i op (processPaymentSuccess bookingId paymentId signature tenantId) s := by
  refine keeps_found fun tx booking s hs => ?_
  cases booking with
  | none => exact body_throw persistent_true hs trivial
  | some booking =>
      dsimp only
      split
      · exact body_throw persistent_true hs trivial
      · split
        · exact body_confirm persistent_true hs trivial fun s hs _ =>
            body_ret persistent_true (fun _ h => h) hs trivial
        · split
          · exact body_other persistent_true (unconfirming_of_begun hs) trivial nofun nofun nofun fun _ s hs _ =>
              body_ret persistent_true (fun _ h => h.confirms) hs trivial
          · exact body_nothing hs

theorem keeps_syncPayment {paymentId : String} {finalAmount : Money} :
    Keeps id i op (syncPayment bookingId paymentId tenantId finalAmount) s := by
  refine keeps_found fun tx booking s hs => ?_
  cases booking with
  | none => exact body_nothing hs
  | some bk =>
      dsimp only
      split
      · rename_i hstatus
        rw [hstatus]
        rw [← bind_ret (ask (some tx) (.ledgerCreateMany _))]
        exact body_confirm persistent_true hs trivial fun s hs _ =>
            body_ret persistent_true (fun _ h => h) hs trivial
      · split
        · have hvalid : validateTransition bk.status .REFUND_INITIATED = .ret () := by
            rename_i hdead
            rcases hdead with h | h | h <;> rw [h] <;> rfl
          rw [hvalid]
          refine body_dateNow persistent_true (unconfirming_of_begun hs) trivial fun _ s hs _ =>
            body_dateNow persistent_true hs trivial fun _ s hs _ =>
            body_other persistent_true hs trivial nofun ?_ nofun fun _ s hs _ => ?_
          · rintro m ⟨⟩ hm
            cases hm
          rw [← bind_ret (ask (some tx) (.ledgerCreateMany _))]
          exact body_other persistent_true hs trivial nofun nofun nofun fun _ s hs _ =>
            body_ret persistent_true (fun _ h => h.confirms) hs trivial
        · exact body_nothing hs

theorem keeps_failBooking : Keeps id i op (failBooking bookingId) s := by
  refine keeps_found fun tx booking s hs => ?_
  cases booking with
  | none => exact body_nothing hs
  | some bk =>
      dsimp only
      split
      · rename_i hstatus
        rw [hstatus]
        refine body_other persistent_true (unconfirming_of_begun hs) trivial nofun ?_ nofun fun _ s hs _ => ?_
        · rintro m ⟨⟩ hm
          cases hm
        rw [← bind_ret (ask (some tx) (.seatLockUpdateMany _ _))]
        exact body_other persistent_true hs trivial nofun nofun nofun fun _ s hs _ =>
          body_ret persistent_true (fun _ h => h.confirms) hs trivial
      · exact body_nothing hs

theorem keeps_reconcileBooking {razorpayOrderId : Option String} {finalAmount : Money}
    (hinv : SeatsKept id s) :
    Keeps id i op (reconcileBooking bookingId razorpayOrderId tenantId finalAmount) s := by
  unfold reconcileBooking
  split
  · exact keeps_last rfl
  · refine fine_attempt hinv (keeps_last rfl) fun payments s hinv => ?_
    cases payments with
    | error e => exact fine_ret
    | ok payments =>
        dsimp only
        split
        · exact keeps_failBooking
        · refine keeps_ask rfl fun entry s _ => ?_
          cases entry with
          | some entry => exact keeps_last rfl
          | none => exact keeps_syncPayment

/-! ### The sweep -/

/-- The locks of a batch are locks of the table. -/
def Stored (locks : List SeatLock) (s : SeatSnap) : Prop :=
  ∀ l ∈ locks, (l.id, l.bookingId) ∈ s.world.data.lockPairs

theorem stored_persistent (locks : List SeatLock) : Persistent seatWriters (Stored locks) where
  exec {s} h _ _ c o l hl := by
    refine data_of_forall (I := fun d : PayData => (l.id, l.bookingId) ∈ d.lockPairs)
      (fun w d hd => ?_) c o (h l hl)
    rw [lockPairs_apply]
    exact hd
  env h e := by
    cases e with
    | data m => cases m <;> exact h
    | abort tx => exact h

theorem stored_of_find {now : Time} {o : PayOracle} {locks : List SeatLock}
    (h : (payDb.exec (.seatLockFindExpired now) o s.world.data).1 = .ok locks) : Stored locks s := by
  obtain rfl := Except.ok.inj h
  intro l hl
  have hmem := (List.perm_insertionSort _ _).subset (List.mem_of_mem_take hl)
  exact List.mem_map_of_mem (List.mem_filter.mp ((shuffle_perm o.order _).subset hmem)).1

/-- The batch has released a lock of each of its bookings, and confirms none. -/
structure Released (id : String) (locks : List SeatLock) (ws : List PayWrite) : Prop where
  locks : ∀ l ∈ locks, ∃ lockId status, .seatLock lockId l.bookingId status ∈ ws
  unconfirming : Unconfirming id ws

theorem Released.append {locks : List SeatLock} {ws : List PayWrite} (h : Released id locks ws)
    {q : PayStmt} {o : PayOracle} {d : PayData} (hq : ∀ m ∈ q.unguarded?, m.2 ≠ .CONFIRMED)
    (hq' : ∀ m ∈ q.guarded?, m.2 ≠ .CONFIRMED) :
    Released id locks (ws ++ (payDb.exec q o d).2) where
  locks l hl := by
    obtain ⟨lockId, status, hmem⟩ := h.locks l hl
    exact ⟨lockId, status, List.mem_append_left _ hmem⟩
  unconfirming := h.unconfirming.append hq hq'

theorem released_exec {locks : List SeatLock} (hstored : Stored locks s) {ws : List PayWrite}
    (hws : ws = []) (o : PayOracle) :
    Released id locks (ws ++ (payDb.exec (.seatLockUpdateByIds (locks.map (·.id)) .RELEASED) o
      (payDb.applyAll ws s.world.data)).2) where
  locks l hl := by
    subst hws
    obtain ⟨l', hl', hpair⟩ := List.mem_map.mp (hstored l hl)
    obtain ⟨hid, hbooking⟩ := Prod.mk.inj hpair
    refine ⟨l'.id, .RELEASED, ?_⟩
    rw [← hbooking]
    refine List.mem_map_of_mem (f := fun l : SeatLock => PayWrite.seatLock l.id l.bookingId .RELEASED)
      (List.mem_filter.mpr ⟨hl', ?_⟩)
    rw [hid, List.contains_iff_mem]
    exact List.mem_map_of_mem hl
  unconfirming := (unconfirming_of_nil hws).append nofun nofun

/-- A statement of `freeSeats` for a booking of the batch. -/
def Frees (tx : Nat) (locks : List SeatLock) (c : TxCmd PayStmt) : Prop :=
  ∃ q, c = .stmt (some tx) q ∧ q.setsStatus = false ∧
    ∀ bookingId status, q = .bookingSeatUpdateMany bookingId status →
      ∃ l ∈ locks, l.bookingId = bookingId

theorem all_freeSeats {locks : List SeatLock} (h : ∃ l ∈ locks, l.bookingId = bookingId) :
    (SeatLockWorker.freeSeats tx bookingId).All (Frees tx locks) := by
  have hask : ∀ {q : PayStmt}, q.setsStatus = false → (∀ bookingId status,
      q = .bookingSeatUpdateMany bookingId status → ∃ l ∈ locks, l.bookingId = bookingId) →
      (ask (some tx) q).All (Frees tx locks) := by
    refine fun hset hq => ⟨⟨_, rfl, hset, hq⟩, fun r => ?_⟩
    cases r <;> trivial
  refine (hask rfl fun _ _ h => by cases h).bind fun seats => ?_
  split
  · trivial
  · refine (hask rfl fun _ _ h => by cases h).bind fun _ => hask rfl ?_
    rintro _ _ ⟨⟩
    exact h

theorem kept_released (locks : List SeatLock) :
    Conc.Kept seatWriters (seatOutline id) i op (Frees tx locks)
      (InTx i tx fun ss _ => Released id locks ss.writes) where
  stable := stable_writes tx _
  own h c o hc := by
    obtain ⟨q, rfl, hset, -⟩ := hc
    refine InTx.goes h fun ws d hws => hws.append (fun m hm => ?_) fun m hm => ?_
    · rw [unguarded_of_quiet hset] at hm
      cases hm
    · rw [guarded_of_quiet hset] at hm
      cases hm

open SeatLockWorker in
theorem keeps_releaseBatch {locks : List SeatLock} (hstored : Stored locks s) :
    Keeps id i op (releaseBatch locks) s := by
  have hG := stored_persistent locks
  refine keeps_transaction hG hstored fun tx s hs hstored => ?_
  refine wp_stmt hG (Wrote.stable tracks_seats _) hs hstored (fun _ _ h => ⟨h.1.own rfl, trivial⟩)
    fun s o _ _ hs hstored _ hok => ?_
  have hs' : InTx i tx (Wrote (Released id locks)) (s.exec seatWriters i op (.stmt (some tx)
      (.seatLockUpdateByIds (locks.map (·.id)) .RELEASED)) o) :=
    hs.wrote hok fun ws ws' hws hexec => by
      obtain rfl := (Prod.ext_iff.mp hexec).2
      exact released_exec hstored hws o
  refine wp_wrote tracks_seats hG (H := Released id locks) hs' (hG.exec hstored _ _ _ _)
    (fun _ _ h => ⟨h.1.own rfl, trivial⟩) (fun _ o d ws ws' hws hexec => ?_)
    fun _ s hinv hs hstored => ?_
  · obtain rfl := (Prod.ext_iff.mp hexec).2
    refine hws.append nofun ?_
    rintro m ⟨⟩ hm
    cases hm
  · have hall : ((locks.map (·.bookingId)).eraseDups.mapM (freeSeats tx)).All (Frees tx locks) :=
      All.mapM fun bookingId hmem => all_freeSeats
        (List.mem_map.mp (List.mem_eraseDups.mp hmem))
    have hkept : Conc.Kept seatWriters (seatOutline id) i op (Frees tx locks) fun s =>
        InTx i tx (fun ss _ => Released id locks ss.writes) s ∧ Stored locks s :=
      (kept_released locks).and hG.kept
    refine wp_bind hinv ((wp_keep hall (fun c hc s _ hs => ?_) hkept
      ⟨hs.mono fun _ _ h => h.1, hstored⟩).mono (fun _ s _ hs => ?_) fun _ _ _ h => ⟨h.1.1, h.2⟩)
    · obtain ⟨q, rfl, -, hq⟩ := hc
      refine ⟨hs.1.1.own rfl, ?_⟩
      cases q with
      | bookingSeatUpdateMany bookingId status =>
          refine Or.inr fun ss hss => ?_
          obtain ⟨l, hl, rfl⟩ := hq bookingId status rfl
          exact (hs.1.2 ss hss).locks l hl
      | _ => trivial
    · exact wp_ret ((stable_writes tx _).and hG.stable) hs fun _ _ h =>
        ⟨h.1.mono fun _ _ hF => hF.unconfirming.confirms, h.2⟩

open SeatLockWorker in
theorem keeps_releaseBatches (now : Time) (rounds : Nat) :
    Keeps id i op (releaseBatches now rounds) s := by
  induction rounds generalizing s with
  | zero => exact fine_ret
  | succ rounds ih =>
      refine fine_query (fun _ _ => ⟨nofun, rfl⟩) fun s o locks _ hok hinv => ?_
      have hstored : Stored locks (s.exec seatWriters i op (.stmt none (.seatLockFindExpired now)) o) :=
        (stored_persistent locks).exec (stored_of_find (query_ok hok).1) _ _ _ _
      split
      · exact fine_ret
      · refine fine_bind hinv (keeps_releaseBatch hstored) fun _ s _ => ?_
        split
        · exact fine_ret
        · exact ih

theorem keeps_body (hinv : SeatsKept id s) (op' : SeatOp) : Keeps id i op op'.body s := by
  cases op' with
  | releaseExpiredLocks process rounds =>
      refine keeps_ask rfl fun entered s hinv => ?_
      split
      · exact fine_attempt hinv (keeps_ask rfl fun now s _ => keeps_releaseBatches now rounds)
          fun _ _ _ => keeps_last rfl
      · exact fine_ret
  | processPaymentSuccess bookingId paymentId signature tenantId =>
      exact wp_map _ keeps_processPaymentSuccess
  | reconcileBooking bookingId orderId tenantId finalAmount => exact keeps_reconcileBooking hinv

end Bodies

/-! ## Runs -/

theorem seatOutline_valid (id : String) :
    Outline.Valid seatWriters (seatOutline id) fun _ _ _ _ => True where
  inv_exec h _ _ _ _ _ hpre hallows := seatsKept_exec h hpre hallows
  inv_env {s} h e := by
    have hstore : payDb.StoreOk (s.env seatWriters e).world := by
      rw [Snap.env_world]
      exact storeOk_env h.store e
    cases e with
    | data m =>
        cases m <;> exact ⟨hstore, openers_env h.openers _, h.ids, h.confirmed, fun ss hss =>
          have hp := h.pending ss hss
          ⟨hp.filed, hp.promoted, hp.released, hp.seats⟩⟩
    | abort tx =>
        exact ⟨hstore, openers_env h.openers _, h.ids, h.confirmed, fun ss hss =>
          h.pending ss (List.mem_filter.mp hss).1⟩
  body _ op _ _ hinv _ := keeps_body hinv op

/-- PostgreSQL: who meets a locked row waits. -/
def seatCalls : Discipline payDb.sig PayStore PayOracle SeatOp where
  starts _ := True
  allows _ _ c o s := payDb.waits c o s.world = false

section Decidable

instance (op : SeatOp) : Decidable (seatCalls.starts op) := isTrue trivial

instance (i : Nat) (op : SeatOp) (c : TxCmd PayStmt) (o : PayOracle) (s : SeatSnap) :
    Decidable (seatCalls.allows i op c o s) :=
  inferInstanceAs (Decidable (payDb.waits c o s.world = false))

instance (id : String) (d : PayData) (q : PayStmt) : Decidable (q.finds id d) := by
  unfold PayStmt.finds
  split <;> infer_instance

instance (id : String) (op : SeatOp) : Decidable ((keepsSeats id).starts op) := isTrue trivial

instance (id : String) (i : Nat) (op : SeatOp) (c : TxCmd PayStmt) (o : PayOracle) (s : SeatSnap) :
    Decidable ((keepsSeats id).allows i op c o s) :=
  match c with
  | .stmt _ q => inferInstanceAs (Decidable (_ ∧ q.finds id s.world.data))
  | .begin => inferInstanceAs (Decidable (_ ∧ True))
  | .commit _ => inferInstanceAs (Decidable (_ ∧ True))
  | .rollback _ => inferInstanceAs (Decidable (_ ∧ True))

end Decidable

/-- **Confirmed seats**: as long as a promotion of the locks of a booking finds
none released, a sweep takes no lock of it once it is confirmed, and the
shortcut of the worker has nothing to promote, all its locks and its seats are
CONFIRMED whenever it is. -/
theorem confirmedSeats_run (id : String) (d : PayData) (hids : (d.seatLocks.map (·.id)).Nodup)
    (hd : d.statusOf id = some .CONFIRMED → SeatsConfirmed id d) {ls : List SeatLabel}
    (hls : (keepsSeats id).admitsRun seatWriters (Config.idle (.idle d)) ls)
    (hconfirmed : ((Config.idle (.idle d)).run seatWriters ls).world.data.statusOf id
      = some .CONFIRMED) :
    SeatsConfirmed id ((Config.idle (.idle d)).run seatWriters ls).world.data := by
  have hidle : SeatsKept id ⟨.idle d, []⟩ := by
    refine ⟨⟨List.nodup_nil, nofun, nofun⟩, openers_idle _, ?_, hd, fun _ h => absurd h List.not_mem_nil⟩
    rw [show (Store.idle d : PayStore).data.lockPairs.map (·.1) = d.seatLocks.map (·.id) from
      List.map_map]
    exact hids
  exact (Outline.sound (seatOutline_valid id) (Outline.Good.idle hidle) hls).inv.confirmed hconfirmed

namespace Sample

/-- A booking of one seat, whose lock has run out. -/
def heldData (status : BookingStatus) : PayData :=
  { data (booking status) with
    clock := 700000
    seatLocks := [⟨"l1", "b1", .LOCKED, 600000⟩]
    bookingSeats := [⟨"bs1", "b1", "A1", some "s1", none⟩] }

def capture : SeatOp := .processPaymentSuccess "b1" "pay_1" "sig" "t1"

/-- The payment is captured before the sweep. -/
def captureThenSweep : List SeatLabel :=
  .spawn capture :: List.replicate 8 (.step 0 {}) ++
    .spawn (.releaseExpiredLocks "p1" 1) :: List.replicate 4 (.step 1 {})

def sweepThenCapture : List SeatLabel :=
  .spawn (.releaseExpiredLocks "p1" 1) :: List.replicate 11 (.step 0 {}) ++
    .spawn capture :: List.replicate 8 (.step 1 {})

end Sample

theorem confirmedSeats_captureThenSweep :
    SeatsConfirmed "b1" ((Config.idle (.idle (Sample.heldData .PAYMENT_IN_PROGRESS))).run seatWriters
      Sample.captureThenSweep).world.data :=
  confirmedSeats_run "b1" (Sample.heldData .PAYMENT_IN_PROGRESS) (by decide) (by decide)
    (by decide +kernel) (by decide +kernel)

/-- A sweep releases the lock of a booking that is being paid for. -/
theorem not_confirmedSeats_sweepThenCapture :
    ¬ ∀ (d : PayData) (ls : List SeatLabel), (d.seatLocks.map (·.id)).Nodup →
      (∀ b ∈ d.bookings.rows, b.status = .LOCKED ∨ b.status = .PAYMENT_IN_PROGRESS →
        ∀ l ∈ d.seatLocks, l.bookingId = b.id → l.status = .LOCKED) →
      (∀ b ∈ d.bookings.rows, b.status = .CONFIRMED → SeatsConfirmed b.id d) →
      seatCalls.admitsRun seatWriters (Config.idle (.idle d)) ls →
      ((Config.idle (.idle d)).run seatWriters ls).world.sessions.length = 0 →
      ∀ id, ((Config.idle (.idle d)).run seatWriters ls).world.data.statusOf id = some .CONFIRMED →
        SeatsConfirmed id ((Config.idle (.idle d)).run seatWriters ls).world.data := by
  intro h
  have hseats := h (Sample.heldData .PAYMENT_IN_PROGRESS) Sample.sweepThenCapture (by decide)
    (by decide) (by decide) (by decide +kernel) (by decide +kernel) "b1" (by decide +kernel)
  revert hseats
  decide +kernel

end Omnipax.Payments
