import Omnipax.Conc.Amid
import Omnipax.StatusPaths

/-!
# What a lock sweep leaves

`releaseExpiredLocks` takes the expired locks two hundred at a time, and goes on
while a batch is full. Every full batch leaves two hundred fewer, so the loop
ends, also where the last batch is full and the next one empty; what the batches
have released and expired adds up to `Swept`. Other calls may do anything
meanwhile but change the locks, the status of a booking or the flag of this
worker.
-/

namespace Omnipax.Payments.SeatLockWorker

open Conc Database Prog

/-- A lock that a sweep at time `now` is after. -/
def lapsed (now : Time) (l : SeatLock) : Bool := l.status == .LOCKED && decide (l.expiresAt ≤ now)

def pending (now : Time) (d : PayData) : Nat := d.seatLocks.countP (lapsed now)

/-- The booking owns such a lock. -/
def Owns (now : Time) (d : PayData) (bookingId : String) : Prop :=
  ∃ l ∈ d.seatLocks, lapsed now l = true ∧ l.bookingId = bookingId

instance (now : Time) (d : PayData) (bookingId : String) : Decidable (Owns now d bookingId) :=
  inferInstanceAs (Decidable (∃ l ∈ d.seatLocks, lapsed now l = true ∧ l.bookingId = bookingId))

/-- What a sweep at time `now` makes of the locks and the bookings. -/
structure Swept (now : Time) (d d' : PayData) : Prop where
  noneLeft : ∀ l ∈ d'.seatLocks, ¬(l.status = .LOCKED ∧ l.expiresAt ≤ now)
  locks : d'.seatLocks = d.seatLocks.map fun l =>
    if lapsed now l then { l with status := .RELEASED } else l
  bookings : ∀ id status, d.statusOf id = some status → d'.statusOf id
    = some (if status = .LOCKED ∧ Owns now d id then .EXPIRED else status)

/-- The guard of the process is set. It is kept in the memory of the process, so it says
nothing of the sweeps of others. -/
def Sweeping (process : String) (d : PayData) : Prop := (Guard.isSweeping, process) ∈ d.guards

/-- The locks and the statuses of the bookings are as they were. -/
structure Unmoved (d d' : PayData) : Prop where
  locks : d'.seatLocks = d.seatLocks
  statuses : ∀ id status, d.statusOf id = some status → d'.statusOf id = some status

def Spares (process : String) (f : PayData → PayData) : Prop :=
  ∀ d, Unmoved d (f d) ∧ (Sweeping process (f d) ↔ Sweeping process d)

/-- The time, whenever the sweep asks for it. -/
def readsTime (now : Time) : (c : TxCmd PayStmt) → payDb.Resp c → Bool
  | .stmt _ .dateNow, .ok t => (show Time from t) == now
  | _, _ => true

def clockReads (now : Time) (c : TxCmd PayStmt) (r : payDb.Resp c) : Prop := readsTime now c r = true

instance (now : Time) (c : TxCmd PayStmt) (r : payDb.Resp c) : Decidable (clockReads now c r) :=
  inferInstanceAs (Decidable (_ = true))

section Unmoved

variable {d d' d'' : PayData}

theorem Unmoved.refl (d : PayData) : Unmoved d d := ⟨rfl, fun _ _ h => h⟩

theorem Unmoved.trans (h : Unmoved d d') (h' : Unmoved d' d'') : Unmoved d d'' :=
  ⟨h'.locks.trans h.locks, fun id status hd => h'.statuses id status (h.statuses id status hd)⟩

end Unmoved

/-! ## What writes do to a lock -/

def onLock (w : PayWrite) (l : SeatLock) : SeatLock :=
  match w with
  | .seatLocks bookingId status =>
      if l.bookingId = bookingId ∧ l.status = .LOCKED then { l with status } else l
  | .seatLock id _ status => if l.id = id then { l with status } else l
  | _ => l

def onLocks (ws : List PayWrite) (l : SeatLock) : SeatLock := ws.foldl (fun l w => onLock w l) l

def ofSeats : PayWrite → Bool
  | .seatAvailable .. | .bookingSeats .. => true
  | _ => false

section Writes

variable {d : PayData} {ws ws' : List PayWrite} {l : SeatLock} {id : String}

theorem seatLocks_apply (w : PayWrite) (d : PayData) :
    (payDb.apply w d).seatLocks = d.seatLocks.map (onLock w) := by
  cases w with
  | seatLocks bookingId status => rfl
  | seatLock id bookingId status => rfl
  | _ => exact (List.map_id' _).symm

theorem seatLocks_applyAll : (payDb.applyAll ws d).seatLocks = d.seatLocks.map (onLocks ws) := by
  induction ws generalizing d with
  | nil => exact (List.map_id' _).symm
  | cons w ws ih =>
      rw [applyAll_cons, ih, seatLocks_apply, List.map_map]
      rfl

theorem onLocks_append : onLocks (ws ++ ws') l = onLocks ws' (onLocks ws l) :=
  List.foldl_append ..

theorem onLocks_seatLock (locks : List SeatLock) (status : SeatLockStatus) (l : SeatLock) :
    onLocks (locks.map fun l => .seatLock l.id l.bookingId status) l
      = if l.id ∈ locks.map (·.id) then { l with status } else l := by
  induction locks generalizing l with
  | nil => rfl
  | cons l' locks ih =>
      rw [List.map_cons, List.map_cons]
      show onLocks _ (if l.id = l'.id then { l with status } else l) = _
      rw [ih]
      by_cases hid : l.id = l'.id
      · simp [hid]
      · simp [hid]

theorem onLocks_of_forall (h : ∀ w ∈ ws, onLock w l = l) : onLocks ws l = l := by
  induction ws with
  | nil => rfl
  | cons w ws ih =>
      show onLocks ws (onLock w l) = l
      rw [h w (List.mem_cons_self ..)]
      exact ih fun w' hw' => h w' (List.mem_cons_of_mem _ hw')

theorem lastStatus_releases (locks : List SeatLock) (id : String) :
    lastStatus id (locks.map fun l => .seatLock l.id l.bookingId .RELEASED) = none :=
  lastStatus_eq_none fun w hw => by
    obtain ⟨l, -, rfl⟩ := List.mem_map.mp hw
    rfl

theorem statusOf_releases (locks : List SeatLock) (d : PayData) (id : String) :
    (payDb.applyAll (locks.map fun l => .seatLock l.id l.bookingId .RELEASED) d).statusOf id
      = d.statusOf id := by
  rw [statusOf_applyAll, lastStatus_releases]
  cases d.statusOf id <;> rfl

theorem lastStatus_bookings (bookings : List Booking) (status : BookingStatus) (id : String) :
    lastStatus id (bookings.map fun b => .booking b.id { status := some status })
      = if id ∈ bookings.map (·.id) then some status else none := by
  induction bookings with
  | nil => rfl
  | cons b bookings ih =>
      rw [List.map_cons, lastStatus, ih, PayWrite.setsStatus, List.map_cons]
      by_cases hid : b.id = id
      · subst hid
        have hmem : b.id ∈ b.id :: bookings.map (·.id) := List.mem_cons_self ..
        rw [if_pos rfl, if_pos hmem]
        split <;> rfl
      · simp [hid, Ne.symm hid]

end Writes

/-! ## A batch -/

/-- The locks that a batch has read: each of them has lapsed, none comes twice, and there
are as many as the limit of the query leaves. -/
structure Batch (now : Time) (d : PayData) (locks : List SeatLock) : Prop where
  mem : ∀ l ∈ locks, l ∈ d.seatLocks ∧ lapsed now l = true
  nodup : locks.Nodup
  length : locks.length = min 200 (pending now d)

/-- What the transaction of a batch writes, on data on which nothing has moved: it releases
its locks, and has the LOCKED bookings of them EXPIRED. All other rows stay. -/
structure BatchWrites (d : PayData) (locks : List SeatLock) (ws : List PayWrite) : Prop where
  rows : ∀ l ∈ d.seatLocks, onLocks ws l
    = if l.id ∈ locks.map (·.id) then { l with status := .RELEASED } else l
  statuses : ∀ id status, d.statusOf id = some status → (lastStatus id ws).getD status
    = if status = .LOCKED ∧ id ∈ locks.map (·.bookingId) then .EXPIRED else status

section Batch

variable {now : Time} {process : String} {d d' : PayData} {locks : List SeatLock}
  {ws ws' : List PayWrite} {tx : Nat}

theorem batch_of_find (hids : (d.seatLocks.map (·.id)).Nodup) {o : PayOracle}
    (h : payDb.exec (.seatLockFindExpired now) o d = (.ok locks, ws)) :
    Batch now d locks ∧ ws = [] := by
  obtain ⟨hlocks, hws⟩ := Prod.ext_iff.mp h
  obtain rfl := Except.ok.inj hlocks
  have hperm := (List.perm_insertionSort (fun l l' : SeatLock => l.expiresAt ≤ l'.expiresAt)
    (shuffle o.order (d.seatLocks.filter (lapsed now)))).trans
      (shuffle_perm o.order (d.seatLocks.filter (lapsed now)))
  refine ⟨⟨fun l hl => List.mem_filter.mp (hperm.subset (List.mem_of_mem_take hl)), ?_, ?_⟩,
    hws.symm⟩
  · have hnodup : (d.seatLocks.filter (lapsed now)).Nodup := (List.Nodup.of_map _ hids).filter _
    exact (hperm.nodup_iff.mpr hnodup).sublist (List.take_sublist 200 _)
  · rw [pending, List.countP_eq_length_filter, ← hperm.length_eq]
    exact List.length_take

theorem BatchWrites.append (h : BatchWrites d locks ws) (hseats : ∀ w ∈ ws', ofSeats w = true) :
    BatchWrites d locks (ws ++ ws') where
  rows l hl := by
    rw [onLocks_append, onLocks_of_forall fun w hw => by
      have hw' := hseats w hw
      cases w <;> first | rfl | cases hw']
    exact h.rows l hl
  statuses id status hd := by
    have hnone : lastStatus id ws' = none := lastStatus_eq_none fun w hw => by
      have hw' := hseats w hw
      cases w <;> first | rfl | cases hw'
    rw [lastStatus_append, hnone, Option.none_or]
    exact h.statuses id status hd

theorem ofSeats_release (o : PayOracle) (d : PayData) (showId : String) (seatIds : List String) :
    ∀ w ∈ (payDb.exec (.seatAvailabilityRelease showId seatIds) o d).2, ofSeats w = true := by
  intro w hw
  obtain ⟨a, -, rfl⟩ := List.mem_map.mp hw
  rfl

theorem endsIn_freeSeats (bookingId : String) (hws : BatchWrites d locks ws)
    (hd : Unmoved d d') :
    payDb.EndsIn (Spares process) (clockReads now) tx (freeSeats tx bookingId) ws d' fun _ ws d'' =>
      BatchWrites d locks ws ∧ Unmoved d d'' := by
  unfold freeSeats
  refine endsIn_bind (endsIn_stmt fun f o seats ws' hf hexec => ?_)
  obtain rfl : [] = ws' := (Prod.ext_iff.mp hexec).2
  rw [List.append_nil]
  split
  · exact endsIn_ret ⟨hws, hd.trans (hf _).1⟩
  · refine endsIn_bind (endsIn_stmt fun f' o' _ ws₁ hf' hexec => ?_)
    obtain rfl := (Prod.ext_iff.mp hexec).2
    refine endsIn_stmt fun f'' o'' _ ws₂ hf'' hexec => ?_
    obtain rfl : [_] = ws₂ := (Prod.ext_iff.mp hexec).2
    refine ⟨(hws.append (ofSeats_release _ _ _ _)).append fun w hw => ?_,
      ((hd.trans (hf _).1).trans (hf' _).1).trans (hf'' _).1⟩
    obtain rfl := List.mem_singleton.mp hw
    rfl

theorem batchWrites_updates (locks : List SeatLock) (view : PayData)
    (hview : ∀ id status, d.statusOf id = some status → view.statusOf id = some status) :
    BatchWrites d locks (((d.seatLocks.filter fun l => (locks.map (·.id)).contains l.id).map
        fun l => .seatLock l.id l.bookingId .RELEASED)
      ++ (view.bookings.rows.filter fun b => (locks.map (·.bookingId)).eraseDups.contains b.id &&
        b.status == .LOCKED).map fun b => .booking b.id { status := some .EXPIRED }) where
  rows l hl := by
    rw [onLocks_append, onLocks_seatLock, onLocks_of_forall fun w hw => by
      obtain ⟨b, -, rfl⟩ := List.mem_map.mp hw
      rfl]
    refine if_congr ?_ rfl rfl
    constructor
    · intro hmem
      obtain ⟨l', hl', hid⟩ := List.mem_map.mp hmem
      rw [← hid]
      simpa using (List.mem_filter.mp hl').2
    · exact fun hmem => List.mem_map.mpr ⟨l, List.mem_filter.mpr ⟨hl, by simpa using hmem⟩, rfl⟩
  statuses id status hd := by
    rw [lastStatus_append, lastStatus_releases, Option.or_none, lastStatus_bookings]
    obtain ⟨b, hfind, rfl⟩ := Option.map_eq_some_iff.mp (hview id status hd)
    obtain ⟨hb, rfl⟩ := BookingTable.mem_of_find hfind
    have hmem : b.id ∈ (view.bookings.rows.filter fun b =>
        (locks.map (·.bookingId)).eraseDups.contains b.id && b.status == .LOCKED).map (·.id) ↔
          b.status = .LOCKED ∧ b.id ∈ locks.map (·.bookingId) := by
      constructor
      · intro hmem
        obtain ⟨b', hb', hid⟩ := List.mem_map.mp hmem
        obtain ⟨hrow, hmatch⟩ := List.mem_filter.mp hb'
        obtain rfl := List.inj_on_of_nodup_map view.bookings.ids hrow hb hid
        rw [Bool.and_eq_true, beq_iff_eq, List.contains_iff_mem, List.mem_eraseDups] at hmatch
        exact hmatch.symm
      · rintro ⟨hlocked, hmem⟩
        refine List.mem_map.mpr ⟨b, List.mem_filter.mpr ⟨hb, ?_⟩, rfl⟩
        rw [Bool.and_eq_true, beq_iff_eq, List.contains_iff_mem, List.mem_eraseDups]
        exact ⟨hmem, hlocked⟩
    by_cases h : b.status = .LOCKED ∧ b.id ∈ locks.map (·.bookingId)
    · rw [if_pos (hmem.mpr h), if_pos h]
      rfl
    · rw [if_neg (mt hmem.mp h), if_neg h]
      rfl

theorem endsIn_batch (hd : Unmoved d d') :
    payDb.EndsIn (Spares process) (clockReads now) tx (do
      ask (some tx) (.seatLockUpdateByIds (locks.map (·.id)) .RELEASED)
      ask (some tx) (.bookingUpdateMany (locks.map (·.bookingId)).eraseDups .LOCKED
        { status := some .EXPIRED })
      let _ ← (locks.map (·.bookingId)).eraseDups.mapM (freeSeats tx)
      return ()) [] d' fun _ ws d'' => BatchWrites d locks ws ∧ Unmoved d d'' := by
  refine endsIn_bind (endsIn_stmt fun f o _ ws₁ hf hexec => ?_)
  have hd₁ := hd.trans (hf d').1
  obtain rfl : ((f d').seatLocks.filter fun l => (locks.map (·.id)).contains l.id).map
    (fun l => PayWrite.seatLock l.id l.bookingId .RELEASED) = ws₁ := (Prod.ext_iff.mp hexec).2
  rw [hd₁.locks]
  refine endsIn_bind (endsIn_stmt fun f₂ o₂ _ ws₂ hf₂ hexec => ?_)
  have hd₂ := hd₁.trans (hf₂ (f d')).1
  obtain rfl := (Prod.ext_iff.mp hexec).2
  have hws := batchWrites_updates locks _ fun id status h =>
    (statusOf_releases (d.seatLocks.filter fun l => (locks.map (·.id)).contains l.id) _ id).trans
      (hd₂.statuses id status h)
  refine endsIn_bind ((endsIn_mapM (I := fun _ ws d'' => BatchWrites d locks ws ∧
    Unmoved d d'') (fun _ bookingId _ ws d'' _ h => endsIn_freeSeats bookingId h.1 h.2)
    ⟨hws, hd₂⟩).mono fun _ ws d'' h => endsIn_ret h)

/-- The data once a batch has been committed: the locks of the batch RELEASED, their
bookings EXPIRED where they were LOCKED, and nothing else changed. -/
structure Released (locks : List SeatLock) (d d' : PayData) : Prop where
  rows : d'.seatLocks = d.seatLocks.map fun l =>
    if l.id ∈ locks.map (·.id) then { l with status := .RELEASED } else l
  statuses : ∀ id status, d.statusOf id = some status → d'.statusOf id
    = some (if status = .LOCKED ∧ id ∈ locks.map (·.bookingId) then .EXPIRED else status)

theorem BatchWrites.released (h : BatchWrites d locks ws) (hd : Unmoved d d') :
    Released locks d (payDb.applyAll ws d') where
  rows := by
    rw [seatLocks_applyAll, hd.locks]
    exact List.map_congr_left h.rows
  statuses id status hstatus := by
    rw [statusOf_applyAll, hd.statuses id status hstatus, Option.map_some,
      h.statuses id status hstatus]

theorem ends_find (hids : (d.seatLocks.map (·.id)).Nodup) :
    payDb.Ends (Spares process) (clockReads now) (ask none (.seatLockFindExpired now)) d
      fun locks d' => Unmoved d d' ∧ Batch now d' locks := by
  refine ends_query fun f o locks ws hf _ hexec => ?_
  have hd := (hf d).1
  obtain ⟨hbatch, rfl⟩ := batch_of_find (by rw [hd.locks]; exact hids) hexec
  exact ⟨hd, hbatch⟩

theorem ends_releaseBatch :
    payDb.Ends (Spares process) (clockReads now) (releaseBatch locks) d
      fun _ d' => Released locks d d' :=
  ends_transaction fun _ _ hf => (endsIn_batch (hf d).1).mono fun _ _ d' h _ hf' =>
    h.1.released (h.2.trans (hf' d').1)

end Batch

/-! ## Batch after batch -/

section Swept

variable {now : Time} {process : String} {d d' d'' : PayData} {locks : List SeatLock}

theorem Batch.mem_ids (h : Batch now d locks) (hids : (d.seatLocks.map (·.id)).Nodup) {l : SeatLock}
    (hl : l ∈ d.seatLocks) : l.id ∈ locks.map (·.id) ↔ l ∈ locks := by
  refine ⟨fun hmem => ?_, fun hmem => List.mem_map_of_mem hmem⟩
  obtain ⟨l', hl', hid⟩ := List.mem_map.mp hmem
  obtain rfl := List.inj_on_of_nodup_map hids (h.mem l' hl').1 hl hid
  exact hl'

theorem Released.map_ids (h : Released locks d d') :
    d'.seatLocks.map (·.id) = d.seatLocks.map (·.id) := by
  rw [h.rows, List.map_map]
  refine List.map_congr_left fun l _ => ?_
  show (if l.id ∈ locks.map (·.id) then { l with status := .RELEASED } else l : SeatLock).id = l.id
  split <;> rfl

/-- The locks left are those that the batch did not take. -/
theorem Released.pending_add (h : Released locks d d') (hbatch : Batch now d locks)
    (hids : (d.seatLocks.map (·.id)).Nodup) : pending now d' + locks.length = pending now d := by
  have htaken : (d.seatLocks.filter fun l => decide (l ∈ locks)).Perm locks := by
    refine (List.perm_ext_iff_of_nodup ((List.Nodup.of_map _ hids).filter _) hbatch.nodup).mpr
      fun l => ?_
    rw [List.mem_filter, decide_eq_true_iff]
    exact ⟨And.right, fun hl => ⟨(hbatch.mem l hl).1, hl⟩⟩
  have hleft : pending now d' = (d.seatLocks.filter fun l => !decide (l ∈ locks)).countP
      (lapsed now) := by
    rw [pending, h.rows, List.countP_map, List.countP_filter]
    refine List.countP_congr fun l hl => ?_
    show lapsed now (if l.id ∈ locks.map (·.id) then _ else l) = true ↔ _
    by_cases hmem : l ∈ locks
    · rw [if_pos ((hbatch.mem_ids hids hl).mpr hmem)]
      simp [lapsed, hmem]
    · rw [if_neg (mt (hbatch.mem_ids hids hl).mp hmem)]
      simp [hmem]
  have hall : locks.countP (lapsed now) = locks.length :=
    List.countP_eq_length.mpr fun l hl => (hbatch.mem l hl).2
  rw [hleft, pending, List.countP_eq_countP_filter_add d.seatLocks (lapsed now)
    fun l => decide (l ∈ locks), htaken.countP_eq, hall, Nat.add_comm]

theorem Swept.of_none (h : pending now d = 0) : Swept now d d := by
  have hnone : ∀ l ∈ d.seatLocks, lapsed now l = false := fun l hl =>
    Bool.eq_false_iff.mpr (List.countP_eq_zero.mp h l hl)
  refine ⟨?_, ?_, fun id status hstatus => ?_⟩
  · rintro l hl ⟨hlocked, hexpired⟩
    have hl' := hnone l hl
    simp [lapsed, hlocked, hexpired] at hl'
  · conv_lhs => rw [← List.map_id d.seatLocks]
    refine List.map_congr_left fun l hl => ?_
    rw [hnone l hl]
    rfl
  · rw [hstatus, if_neg]
    rintro ⟨-, l, hl, hlapsed, -⟩
    rw [hnone l hl] at hlapsed
    cases hlapsed

theorem Swept.of_unmoved (h : Swept now d' d'') (hd : Unmoved d d') : Swept now d d'' where
  noneLeft := h.noneLeft
  locks := by rw [h.locks, hd.locks]
  bookings id status hstatus := by
    have howns : Owns now d' id ↔ Owns now d id := by rw [Owns, Owns, hd.locks]
    rw [h.bookings id status (hd.statuses id status hstatus)]
    simp only [howns]

theorem Swept.then_unmoved (h : Swept now d d') (hd : Unmoved d' d'') : Swept now d d'' where
  noneLeft := by rw [hd.locks]; exact h.noneLeft
  locks := hd.locks.trans h.locks
  bookings id status hstatus := hd.statuses id _ (h.bookings id status hstatus)

/-- A booking that owned a lock is one of the batch, or owns one afterwards. -/
theorem Released.owns_iff (h : Released locks d d') (hbatch : Batch now d locks)
    (hids : (d.seatLocks.map (·.id)).Nodup) (bookingId : String) :
    Owns now d bookingId ↔ bookingId ∈ locks.map (·.bookingId) ∨ Owns now d' bookingId := by
  constructor
  · rintro ⟨l, hl, hlapsed, rfl⟩
    by_cases hmem : l ∈ locks
    · exact .inl (List.mem_map_of_mem hmem)
    · refine .inr ⟨l, ?_, hlapsed, rfl⟩
      rw [h.rows]
      exact List.mem_map.mpr ⟨l, hl, if_neg (mt (hbatch.mem_ids hids hl).mp hmem)⟩
  · rintro (hmem | ⟨l', hl', hlapsed, rfl⟩)
    · obtain ⟨l, hl, rfl⟩ := List.mem_map.mp hmem
      exact ⟨l, (hbatch.mem l hl).1, (hbatch.mem l hl).2, rfl⟩
    · rw [h.rows] at hl'
      obtain ⟨l, hl, rfl⟩ := List.mem_map.mp hl'
      by_cases hmem : l.id ∈ locks.map (·.id)
      · rw [if_pos hmem] at hlapsed
        simp [lapsed] at hlapsed
      · rw [if_neg hmem] at hlapsed ⊢
        exact ⟨l, hl, hlapsed, rfl⟩

theorem Released.swept (h : Released locks d d') (hbatch : Batch now d locks)
    (hids : (d.seatLocks.map (·.id)).Nodup) (hrest : Swept now d' d'') : Swept now d d'' where
  noneLeft := hrest.noneLeft
  locks := by
    rw [hrest.locks, h.rows, List.map_map]
    refine List.map_congr_left fun l hl => ?_
    rw [Function.comp_apply]
    by_cases hmem : l.id ∈ locks.map (·.id)
    · have hlapsed := (hbatch.mem l ((hbatch.mem_ids hids hl).mp hmem)).2
      simp only [if_pos hmem, if_pos hlapsed]
      exact if_neg (by simp [lapsed])
    · simp only [if_neg hmem]
  bookings id status hstatus := by
    rw [hrest.bookings id _ (h.statuses id status hstatus)]
    have howns := h.owns_iff hbatch hids id
    by_cases hlocked : status = .LOCKED
    · by_cases hmem : id ∈ locks.map (·.bookingId)
      · simp [hlocked, hmem, howns]
      · simp [hlocked, hmem, howns]
    · simp [hlocked]

end Swept

/-! ## The runs -/

section Runs

variable {now : Time} {process : String} {d : PayData} {os : Nat → PayOracle × (PayData → PayData)}

/-- The batches end. More rounds would change nothing, and the induction is on
them: a full batch has one fewer to go. -/
theorem run_releaseBatches {rounds : Nat} : ∀ {n : Nat} {s : Store PayData PayWrite},
    s.Numbered → (s.data.seatLocks.map (·.id)).Nodup → pending now s.data < 200 * rounds →
    (releaseBatches now rounds).Along payDb.amid
      (payDb.Undisturbed (Spares process) (clockReads now)) os n s →
    ∃ n' s', (∀ more, (releaseBatches now (rounds + more)).run payDb.amid os n s = ⟨.ok (), n', s'⟩)
      ∧ s'.Numbered ∧ Swept now s.data s'.data := by
  induction rounds with
  | zero => exact fun _ _ h => absurd h (Nat.not_lt_zero _)
  | succ rounds ih =>
      intro n s hs hids hpending halong
      obtain ⟨hfind, hthen⟩ := along_bind halong
      obtain ⟨locks, n₁, s₁, hrun₁, hs₁, hd₁, hbatch⟩ := run_of_twp (ends_find hids s hs rfl) hfind
      have hids₁ : (s₁.data.seatLocks.map (·.id)).Nodup := by rwa [hd₁.locks]
      have hstart : ∀ more, (releaseBatches now (rounds + 1 + more)).run payDb.amid os n s
          = (if locks = [] then return () else do
              releaseBatch locks
              if locks.length < 200 then return () else releaseBatches now (rounds + more)
              : PayM Unit).run payDb.amid os n₁ s₁ := fun more => by
        rw [Nat.add_right_comm]
        exact run_bind_ok _ _ hrun₁
      have hrest := hthen _ _ _ hrun₁
      by_cases hempty : locks = []
      · -- the sweep stops at an empty batch
        have hnone : pending now s₁.data = 0 := by
          have hlength := hbatch.length
          rw [hempty, List.length_nil] at hlength
          omega
        refine ⟨n₁, s₁, fun more => ?_, hs₁, (Swept.of_none hnone).of_unmoved hd₁⟩
        rw [hstart, if_pos hempty]
        rfl
      · rw [if_neg hempty] at hrest
        obtain ⟨hrelease, hthen⟩ := along_bind hrest
        obtain ⟨_, n₂, s₂, hrun₂, hs₂, hreleased⟩ :=
          run_of_twp (ends_releaseBatch s₁ hs₁ rfl) hrelease
        have hrest := hthen _ _ _ hrun₂
        have hleft := hreleased.pending_add hbatch hids₁
        have hthen' : ∀ more, (releaseBatches now (rounds + 1 + more)).run payDb.amid os n s
            = (if locks.length < 200 then return () else releaseBatches now (rounds + more)
              : PayM Unit).run payDb.amid os n₂ s₂ := fun more => by
          rw [hstart, if_neg hempty]
          exact run_bind_ok _ _ hrun₂
        by_cases hpartial : locks.length < 200
        · have hnone : pending now s₂.data = 0 := by
            have hlength := hbatch.length
            omega
          refine ⟨n₂, s₂, fun more => ?_, hs₂,
            (hreleased.swept hbatch hids₁ (.of_none hnone)).of_unmoved hd₁⟩
          rw [hthen', if_pos hpartial]
          rfl
        · rw [if_neg hpartial] at hrest
          have hpending₂ : pending now s₂.data < 200 * rounds := by
            have hsame : pending now s₁.data = pending now s.data := by rw [pending, hd₁.locks]; rfl
            omega
          have hids₂ : (s₂.data.seatLocks.map (·.id)).Nodup := by rwa [hreleased.map_ids]
          obtain ⟨n', s', hrun, hs', hswept⟩ := ih hs₂ hids₂ hpending₂ hrest
          refine ⟨n', s', fun more => ?_, hs',
            (hreleased.swept hbatch hids₁ hswept).of_unmoved hd₁⟩
          rw [hthen', if_neg hpartial]
          exact hrun more

theorem ends_enterGuard (h : ¬Sweeping process d) :
    payDb.Ends (Spares process) (clockReads now) (ask none (.enterGuard .isSweeping process)) d
      fun entered d' => entered = true ∧ Unmoved d d' := by
  refine ends_query fun f o entered ws hf _ hexec => ?_
  obtain ⟨hd, hflag⟩ := hf d
  have henter : payDb.exec (.enterGuard .isSweeping process) o (f d)
      = (.ok true, [.guards ((.isSweeping, process) :: (f d).guards)]) :=
    if_neg fun hmem => h (hflag.mp (List.contains_iff_mem.mp hmem))
  obtain ⟨hentered, hws⟩ := Prod.ext_iff.mp (henter.symm.trans hexec)
  obtain rfl := Except.ok.inj hentered
  obtain rfl : [_] = ws := hws
  exact ⟨rfl, hd.locks, hd.statuses⟩

theorem ends_dateNow :
    payDb.Ends (Spares process) (clockReads now) (ask none .dateNow) d
      fun t d' => t = now ∧ Unmoved d d' := by
  refine ends_query fun f o t ws hf ht hexec => ?_
  obtain rfl : [] = ws := (Prod.ext_iff.mp hexec).2
  exact ⟨eq_of_beq (α := Time) ht, (hf d).1⟩

theorem ends_leaveGuard :
    payDb.Ends (Spares process) (clockReads now) (ask none (.leaveGuard .isSweeping process)) d
      fun _ d' => ¬Sweeping process d' ∧ Unmoved d d' := by
  refine ends_query fun f o _ ws hf _ hexec => ?_
  obtain rfl : [_] = ws := (Prod.ext_iff.mp hexec).2
  refine ⟨fun hmem => ?_, (hf d).1.locks, (hf d).1.statuses⟩
  simpa using (List.mem_filter.mp hmem).2

/-- **A sweep ends, and does what it is for.** -/
theorem swept_run {rounds : Nat} (hids : (d.seatLocks.map (·.id)).Nodup)
    (hfree : ¬Sweeping process d) (hpending : pending now d < 200 * rounds)
    (halong : (releaseExpiredLocks process rounds).Along payDb.amid
      (payDb.Undisturbed (Spares process) (clockReads now)) os 0 (.idle d)) :
    ∃ n s, (∀ more, (releaseExpiredLocks process (rounds + more)).run payDb.amid os 0 (.idle d)
      = ⟨.ok (), n, s⟩) ∧ Swept now d s.data ∧ ¬Sweeping process s.data := by
  obtain ⟨henter, hthen⟩ := along_bind halong
  obtain ⟨_, n₁, s₁, hrun₁, hs₁, rfl, hd₁⟩ :=
    run_of_twp (ends_enterGuard hfree _ (Store.numbered_idle d) rfl) henter
  have hinside := hthen _ _ _ hrun₁
  rw [if_pos rfl] at hinside
  obtain ⟨hattempt, hleave⟩ := along_bind hinside
  obtain ⟨hclock, hthen⟩ := along_bind (along_attempt hattempt)
  obtain ⟨t, n₂, s₂, hrun₂, hs₂, htime, hd₂⟩ := run_of_twp (ends_dateNow s₁ hs₁ rfl) hclock
  obtain rfl : now = t := htime.symm
  have hd := hd₁.trans hd₂
  have hids₂ : (s₂.data.seatLocks.map (·.id)).Nodup := by rwa [hd.locks]
  have hpending₂ : pending now s₂.data < 200 * rounds := by rwa [pending, hd.locks]
  obtain ⟨n₃, s₃, hrun₃, hs₃, hswept⟩ := run_releaseBatches hs₂ hids₂ hpending₂ (hthen _ _ _ hrun₂)
  have hsweep : ∀ more, (do let now ← ask none .dateNow; releaseBatches now (rounds + more)
      : PayM Unit).attempt.run payDb.amid os n₁ s₁ = ⟨.ok (.ok ()), n₃, s₃⟩ := fun more => by
    rw [run_attempt, run_bind_ok _ _ hrun₂, hrun₃]
  obtain ⟨_, n₄, s₄, hrun₄, -, hswept', hd₄⟩ :=
    run_of_twp (ends_leaveGuard s₃ hs₃ rfl) (hleave _ _ _ (hsweep 0))
  refine ⟨n₄, s₄, fun more => ?_, (hswept.of_unmoved hd).then_unmoved hd₄, hswept'⟩
  calc (releaseExpiredLocks process (rounds + more)).run payDb.amid os 0 (.idle d)
      = _ := run_bind_ok _ _ hrun₁
    _ = _ := run_bind_ok _ _ (hsweep more)
    _ = ⟨.ok (), n₄, s₄⟩ := hrun₄

end Runs

namespace Sample

def lock (id : String) (status : SeatLockStatus) (expiresAt : Time) : SeatLock where
  id := id
  bookingId := "b1"
  status := status
  expiresAt := expiresAt

/-- Two locks of the booking have expired, and one of the two is confirmed. -/
def expired : PayData :=
  { Payments.Sample.data (Payments.Sample.booking .LOCKED) with
    clock := 700000
    seatLocks := [lock "l1" .LOCKED 600000, lock "l2" .CONFIRMED 600000, lock "l3" .LOCKED 800000] }

end Sample

theorem swept_expired : ∃ n s, (∀ more, (releaseExpiredLocks "p1" (1 + more)).run payDb.amid
      (fun _ => ({}, id)) 0 (.idle Sample.expired) = ⟨.ok (), n, s⟩) ∧
    Swept 700000 Sample.expired s.data ∧ ¬Sweeping "p1" s.data :=
  swept_run (by decide) List.not_mem_nil (by decide +kernel)
    (along_undisturbed (fun _ d => ⟨.refl d, Iff.rfl⟩) (by decide +kernel))

end Omnipax.Payments.SeatLockWorker
