import Omnipax.LockedSeats

/-!
# Seats that are lost

A seat is stranded when it is LOCKED and no booking that has it has a LOCKED lock:
the sweeps select locks that are LOCKED, and a lock is never LOCKED again. The
reconciliation worker leaves seats so, since it releases the locks of a booking it
fails and nothing else. Only `releaseSeatsSafely` could free such a seat; no run of
the calls that do without it does.
-/

namespace Omnipax.Payments.LockedSeats

open Conc Prog Database

/-- The seat is LOCKED, and none of the locks of its bookings is LOCKED, so that no sweep
selects it. -/
structure Stranded (a : SeatAvailability) (d : PayData) : Prop where
  mem : a ∈ d.seatAvailability
  locked : a.status = .LOCKED
  lost : ∀ l ∈ d.seatLocks, Has d l.bookingId a → l.status ≠ .LOCKED

instance (a : SeatAvailability) (d : PayData) : Decidable (Stranded a d) :=
  decidable_of_iff (a ∈ d.seatAvailability ∧ a.status = .LOCKED ∧
      ∀ l ∈ d.seatLocks, Has d l.bookingId a → l.status ≠ .LOCKED)
    ⟨fun h => ⟨h.1, h.2.1, h.2.2⟩, fun h => ⟨h.mem, h.locked, h.lost⟩⟩

def locksAgain : PayWrite → Bool
  | .seatLocks _ status => status == .LOCKED
  | .seatLock _ _ status => status == .LOCKED
  | _ => false

/-- The statement may free the seat. -/
def mayFree (a : SeatAvailability) : PayStmt → Prop
  | .seatAvailabilityRelease showId seatIds => a.showId = showId ∧ a.seatId ∈ seatIds
  | _ => False

def relocks : PayStmt → Bool
  | .seatLockUpdateMany _ status => status == .LOCKED
  | .seatLockUpdateByIds _ status => status == .LOCKED
  | _ => false

/-- What may be written or said without an effect on a stranded seat. -/
def Leaves (a : SeatAvailability) (w : PayWrite) : Prop := frees a w = false ∧ locksAgain w = false

def LeavesStmt (a : SeatAvailability) (q : PayStmt) : Prop :=
  ¬mayFree a q ∧ relocks q = false

section Writes

variable {a : SeatAvailability} {w : PayWrite} {ws : List PayWrite} {d : PayData} {q : PayStmt}
  {o : PayOracle}

theorem Stranded.apply (h : Stranded a d) (hw : Leaves a w) : Stranded a (payDb.apply w d) := by
  obtain ⟨hmem, hlocked⟩ := locked_apply.mpr ⟨⟨h.mem, h.locked⟩, hw.1⟩
  refine ⟨hmem, hlocked, fun l hl hhas => ?_⟩
  rw [Has, seating_apply] at hhas
  have hagain := hw.2
  cases w with
  | seatLocks id status =>
      obtain ⟨l₀, hl₀, rfl⟩ := List.mem_map.mp hl
      have hnone : status ≠ .LOCKED := by simpa [locksAgain] using hagain
      split at hhas <;> rename_i hlock
      · rw [if_pos hlock]
        exact hnone
      · rw [if_neg hlock]
        exact h.lost l₀ hl₀ hhas
  | seatLock lockId id status =>
      obtain ⟨l₀, hl₀, rfl⟩ := List.mem_map.mp hl
      have hnone : status ≠ .LOCKED := by simpa [locksAgain] using hagain
      split at hhas <;> rename_i hlock
      · rw [if_pos hlock]
        exact hnone
      · rw [if_neg hlock]
        exact h.lost l₀ hl₀ hhas
  | _ => exact h.lost l hl hhas

theorem Stranded.applyAll (h : Stranded a d) (hws : ∀ w ∈ ws, Leaves a w) :
    Stranded a (payDb.applyAll ws d) :=
  applyAll_of_forall (I := Stranded a) (fun w hw _ hd => hd.apply (hws w hw)) h

theorem leaves_exec (hq : LeavesStmt a q) (hw : w ∈ (payDb.exec q o d).2) : Leaves a w := by
  obtain ⟨hfree, hagain⟩ := hq
  have hwrites := writes_exec hw
  cases w with
  | seatLocks id status =>
      obtain rfl := seatLocks_exec hw
      exact ⟨rfl, hagain⟩
  | seatLock lockId id status =>
      obtain ⟨⟨ids, rfl, -⟩, -⟩ := seatLock_exec hw
      exact ⟨rfl, hagain⟩
  | seatAvailable showId seatId =>
      cases q with
      | seatAvailabilityRelease showId' seatIds =>
          obtain ⟨rfl, hmem⟩ := hwrites
          refine ⟨Bool.eq_false_iff.mpr fun hseat => hfree ?_, rfl⟩
          simp only [frees, Bool.and_eq_true, beq_iff_eq] at hseat
          exact ⟨hseat.1, hseat.2 ▸ hmem⟩
      | _ => cases hwrites
  | _ => exact ⟨rfl, rfl⟩

end Writes

/-! ## A step -/

/-- The calls that do without `releaseSeatsSafely`, waiting for locks. What that function
does is not in the repository, so nothing can be said of seats it may have freed. -/
def unaided : Discipline payDb.sig PayStore PayOracle StatusOp where
  starts op := op.callsRelease = false
  allows _ _ c o s := payDb.waits c o s.world = false

/-- The seat is stranded, and no open transaction is about to change that. -/
structure Lost (a : SeatAvailability) (s : StatusSnap) : Prop where
  owned : Owned s
  shows : OneShow s.world.data
  stranded : Stranded a s.world.data
  sessions : ∀ ss ∈ s.world.sessions, ∀ w ∈ ss.writes, Leaves a w

def LostPre (a : SeatAvailability) (i : Nat) (c : TxCmd PayStmt) (s : StatusSnap) : Prop :=
  Own i c s ∧ Stmts (LeavesStmt a) c

def lostOutline (a : SeatAvailability) : Outline payDb.sig PayStore PayOracle StatusOp where
  toDiscipline := unaided
  inv := Lost a
  pre i _ c s := LostPre a i c s

section Step

variable {a : SeatAvailability} {P : SeatPlatform} {s : StatusSnap} {i : Nat} {op : StatusOp}
  {c : TxCmd PayStmt} {o : PayOracle}

/-- **Step**: a command that meets its assertion leaves the seat where it is. -/
theorem lost_exec (h : Lost a s) (hpre : LostPre a i c s) (hallows : unaided.allows i op c o s) :
    Lost a (s.exec (statusWriters P) i op c o) := by
  have hworld : (s.exec (statusWriters P) i op c o).world = (payDb.step c o s.world).2 := rfl
  refine ⟨h.owned.exec hpre.1 hallows, ?_, ?_, fun ss hss w hw => ?_⟩
  · obtain ⟨ws, hdata⟩ := data_step c o s.world
    rw [hworld, hdata]
    exact h.shows.congr (seating_applyAll ws _)
  · rw [hworld]
    rcases step_data payDb c o s.world with hd | ⟨q, rfl, -, hd⟩ | ⟨ss, rfl, hss, -, hd⟩ <;> rw [hd]
    · exact h.stranded
    · exact h.stranded.applyAll fun w hw => leaves_exec hpre.2 hw
    · exact h.stranded.applyAll (h.sessions ss hss)
  · obtain ⟨ss₀, hss₀, -, hw | ⟨q, rfl, -, hwant⟩⟩ := mem_writes_of_step hss hw
    · exact h.sessions ss₀ hss₀ w hw
    · obtain ⟨d, hexec⟩ := mem_wants hwant
      exact leaves_exec hpre.2 hexec

end Step

/-! ## The sweep -/

/-- The bookings of the locks have other seats. -/
def Elsewhere (a : SeatAvailability) (locks : List SeatLock) (d : PayData) : Prop :=
  ∀ l ∈ locks, ¬Has d l.bookingId a

section Sweep

variable {a : SeatAvailability} {P : SeatPlatform} {s : StatusSnap} {i tx : Nat} {op : StatusOp}
  {bookingId : String} {locks : List SeatLock}

theorem tracks_lost : Tracks (lostOutline a) where
  store h := h.owned.store
  openers h := h.owned.openers
  own h := h.1
  waits h := h

theorem elsewhere_persistent : Persistent
    (statusWriters P) fun s => Elsewhere a locks s.world.data :=
  persistent_filing fun _ _ hseating _ h l hl => by
    rw [Has, hseating]
    exact h l hl

/-- A sweep does not select the locks of a booking that has a stranded seat. -/
theorem elsewhere_find {now : Time} {o : PayOracle} (h : Stranded a s.world.data)
    (hfind : (payDb.exec (.seatLockFindExpired now) o s.world.data).1 = .ok locks) :
    Elsewhere a locks s.world.data := by
  obtain rfl := Except.ok.inj hfind
  intro l hl hhas
  have hmem := (List.perm_insertionSort _ _).subset (List.mem_of_mem_take hl)
  obtain ⟨hstored, hlapsed⟩ := List.mem_filter.mp ((shuffle_perm o.order _).subset hmem)
  rw [Bool.and_eq_true, beq_iff_eq] at hlapsed
  exact h.lost l hstored hhas hlapsed.1

abbrev Spared (P : SeatPlatform) (a : SeatAvailability) (i : Nat) (op : StatusOp) {α : Type}
    (p : PayM α) (s : StatusSnap) : Prop :=
  Fine PayMove.apply (StatusOp.body P) (lostOutline a) i op p s

open SeatLockWorker in
theorem wp_freeOthers {G : StatusSnap → Prop} (hG : Persistent (statusWriters P) G)
    (hopened : ∀ s, G s → Opened i tx s) (hother : ∀ s, G s → ¬Has s.world.data bookingId a)
    (hs : G s) :
    (freeSeats tx bookingId).wp (statusWriters P) (lostOutline a) i op (fun _ => G) (fun _ =>
      G) s := by
  refine wp_query hG.stable hs hG (fun _ h => h)
    (fun s _ h => ⟨(hopened s h).own rfl, fun h => h, rfl⟩) fun s o rows hinv hGs _ hok _ => ?_
  have hrows : SeatsOf bookingId rows s.world.data := by
    obtain ⟨ss, -, -, hexec, -⟩ := stmt_ok hok
    have hfound := seatsOf_find hexec
    unfold SeatsOf at hfound
    rw [seating_applyAll] at hfound
    exact hfound
  have hH : Persistent (statusWriters P) fun s => G s ∧ SeatsOf bookingId rows s.world.data :=
    hG.and seatsOf_persistent
  have hs' := hH.exec ⟨hGs, hrows⟩ i op (.stmt (some tx) (.bookingSeatFindMany bookingId)) o
  split
  · exact wp_ret hG.stable hs'.1 fun _ _ h => h
  · rename_i showId hshow
    refine wp_query hH.stable hs' hG (fun _ h => h.1)
      (fun s hinv h => ⟨(hopened s h.1).own rfl, fun hfree => ?_, rfl⟩) fun s o _ _ h _ _ _ => ?_
    · -- all rows are of the show, so the seat would be one of the booking's
      obtain ⟨hshowId, hseatId⟩ := hfree
      obtain ⟨b, hb, hseat⟩ := List.mem_map.mp hseatId
      obtain ⟨first, hhead, htruthy⟩ := Option.bind_eq_some_iff.mp hshow
      have hfirst := (h.2 first.showId first.seatId).mp
        ⟨first, List.mem_of_head? hhead, rfl, rfl⟩
      have hrow := (h.2 b.showId b.seatId).mp ⟨b, hb, rfl, rfl⟩
      have hsame : b.showId = first.showId := (hinv.shows _ hfirst).2 _ hrow rfl
      have hsome : first.showId = some showId := (Option.filter_eq_some_iff.mp htruthy).1
      refine hother s h.1 ?_
      rw [Has, hshowId, ← hsome, ← hsame, ← hseat]
      exact hrow
    · rw [← bind_ret (ask (some tx) _)]
      refine wp_query hG.stable (hG.exec h.1 ..) hG (fun _ h => h)
        (fun s _ h => ⟨(hopened s h).own rfl, fun h => h, rfl⟩) fun s o _ _ h _ _ _ => ?_
      exact wp_ret hG.stable (hG.exec h ..) fun _ _ h => h

open SeatLockWorker in
theorem spared_releaseBatch (hother : Elsewhere a locks s.world.data) :
    Spared P a i op (releaseBatch locks) s := by
  have hG : Persistent (statusWriters P) fun s => Elsewhere a locks s.world.data :=
    elsewhere_persistent
  have hGo : ∀ tx, Persistent (statusWriters P) fun s =>
      Opened i tx s ∧ Elsewhere a locks s.world.data := fun tx => (Opened.persistent i tx).and hG
  refine (wp_transaction (Q := fun _ _ => True) (G := fun s => Elsewhere a locks s.world.data)
    (B := fun tx _ s => Opened i tx s ∧ Elsewhere a locks s.world.data) tracks_lost hother hG
    (fun _ _ _ => ⟨nofun, trivial⟩) (fun _ _ _ h => ⟨h.own rfl, trivial⟩)
    (fun _ _ _ _ h => ⟨h.1.own rfl, trivial⟩) (fun tx _ => (hGo tx).stable) (fun _ _ _ h => h.2)
    (fun s tx hinv hother hs => ?_) fun _ _ _ _ _ _ _ _ _ => fun _ _ _ => trivial).mono
      (fun _ _ _ h => h) fun _ _ _ _ => trivial
  refine wp_query (hGo tx).stable ⟨hs.1, hother⟩ (hGo tx) (fun _ h => h)
    (fun s _ h => ⟨h.1.own rfl, fun h => h, rfl⟩) fun s o _ _ h _ _ _ => ?_
  refine wp_query (hGo tx).stable ((hGo tx).exec h ..) (hGo tx) (fun _ h => h)
    (fun s _ h => ⟨h.1.own rfl, fun h => h, rfl⟩) fun s o _ _ h _ _ hinv => ?_
  have hs' := (hGo tx).exec h i op (.stmt (some tx)
    (.bookingUpdateMany (locks.map (·.bookingId)).eraseDups .LOCKED { status := some .EXPIRED })) o
  refine wp_bind hinv (((wp_mapM_in (R := fun _ _ _ => True) (fun _ _ => persistent_true) (hGo tx)
    (fun id hid s _ h => (wp_freeOthers (hGo tx) (fun _ h => h.1) (fun s h => ?_) h).mono
      (fun _ _ _ _ => trivial) fun _ _ _ h => h) hinv hs').frame (hGo tx) hs').mono
        (fun _ s _ h => ?_) fun _ _ _ h => h)
  · obtain ⟨l, hl, rfl⟩ := List.mem_map.mp (List.mem_eraseDups.mp hid)
    exact h.2 l hl
  · exact wp_ret (hGo tx).stable h.2 fun _ _ h => h

open SeatLockWorker in
theorem spared_releaseBatches (now : Time) (rounds : Nat) :
    Spared P a i op (releaseBatches now rounds) s := by
  induction rounds generalizing s with
  | zero => exact fine_ret
  | succ rounds ih =>
      refine fine_query (fun _ _ => ⟨nofun, fun h => h, rfl⟩) fun s o locks hinv hok hinv' => ?_
      have hother : Elsewhere a locks (s.exec (statusWriters P) i op
          (.stmt none (.seatLockFindExpired now)) o).world.data :=
        elsewhere_persistent.exec (elsewhere_find hinv.stranded (query_ok hok).1) i op _ o
      split
      · exact fine_ret
      · refine fine_bind hinv' (spared_releaseBatch hother) fun _ s _ => ?_
        split
        · exact fine_ret
        · exact ih

theorem spared_releaseExpiredLocks {process : String} {rounds : Nat} :
    Spared P a i op (SeatLockWorker.releaseExpiredLocks process rounds) s := by
  refine fine_query (fun _ _ => ⟨nofun, fun h => h, rfl⟩) fun s o isEntered _ _ hinv => ?_
  cases isEntered with
  | false => exact fine_ret
  | true =>
      exact fine_attempt hinv (fine_query (fun _ _ => ⟨nofun, fun h => h, rfl⟩) fun _ _ now _ _ _ =>
        spared_releaseBatches now rounds) fun _ _ _ => fine_last fun _ _ => ⟨nofun, fun h => h, rfl⟩

end Sweep

/-! ## Runs -/

section Runs

variable {a : SeatAvailability} {P : SeatPlatform}

theorem leavesStmt_of_vocabulary {op : StatusOp} {q : PayStmt}
    (hop : ∀ process rounds, op ≠ .releaseExpiredLocks process rounds)
    (hq : op.vocabulary q = true) : LeavesStmt a q := by
  have hother : ∀ status : SeatLockStatus, (status != .LOCKED) = true → (status == .LOCKED) = false :=
    fun status h => by simpa using h
  cases op with
  | releaseExpiredLocks process rounds => exact absurd rfl (hop process rounds)
  | _ =>
      cases q with
      | seatLockUpdateMany id status =>
          refine ⟨fun h => h, hother status ?_⟩
          simpa [StatusOp.vocabulary, PayStmt.common, PayStmt.records, PayStmt.books] using hq
      | _ => first | exact ⟨fun h => h, rfl⟩ | cases hq

theorem lostOutline_valid (hR : P.Releases) :
    Outline.Valid (statusWriters P) (lostOutline a) fun _ _ _ _ => True where
  inv_exec h _ _ _ _ _ hpre hallows := lost_exec h hpre hallows
  inv_env {s} h e := by
    cases e with
    | abort tx =>
        exact ⟨owned_env h.owned _, h.shows, h.stranded, fun ss hss =>
          h.sessions ss (List.mem_filter.mp hss).1⟩
    | data m =>
        have hstranded : Stranded a (m.apply s.world.data) := by
          cases m <;> exact ⟨h.stranded.mem, h.stranded.locked, h.stranded.lost⟩
        cases m <;> exact ⟨owned_env h.owned _, h.shows, hstranded, h.sessions⟩
  body i op s hop _ hnew := by
    by_cases hsweep : ∃ process rounds, op = .releaseExpiredLocks process rounds
    · obtain ⟨process, rounds, rfl⟩ := hsweep
      exact wp_map _ spared_releaseExpiredLocks
    · refine fine_of_says hR (says_body (F := LeavesStmt a) (fun q hq =>
        leavesStmt_of_vocabulary (fun process rounds h => hsweep ⟨process, rounds, h⟩) hq)
        fun hcalls => absurd (hop.symm.trans hcalls) Bool.false_ne_true) (fun _ h => h.owned)
        (fun s c _ hown hc _ => ⟨hown, hc⟩) hnew

/-- **Stranded seats**: a seat that is LOCKED behind no LOCKED lock stays so in every
run of the calls that do without `releaseSeatsSafely`. -/
theorem strandedSeats_run (P : SeatPlatform) (hR : P.Releases) {d : PayData} (hshows : OneShow d)
    (h : Stranded a d) {ls : List StatusLabel}
    (hls : unaided.admitsRun (statusWriters P) (Config.idle (.idle d)) ls) :
    Stranded a ((Config.idle (.idle d)).run (statusWriters P) ls).world.data := by
  have hidle : Lost a (⟨.idle d, []⟩ : StatusSnap) :=
    ⟨owned_idle d, hshows, h, fun _ h => absurd h List.not_mem_nil⟩
  exact (Outline.sound (lostOutline_valid hR) (Outline.Good.idle hidle) hls).inv.stranded

end Runs

section Decidable

instance (op : StatusOp) : Decidable (unaided.starts op) :=
  inferInstanceAs (Decidable (_ = false))

instance (i : Nat) (op : StatusOp) (c : TxCmd PayStmt) (o : PayOracle) (s : StatusSnap) :
    Decidable (unaided.allows i op c o s) :=
  inferInstanceAs (Decidable (payDb.waits c o s.world = false))

end Decidable

namespace Sample

open Payments.Sample

/-- The worker finds no payment for the order of the booking, and fails it. -/
def noPayment : List StatusLabel :=
  .spawn (.pay (.handleReconciliation "p1")) :: List.replicate 12 (.step 0 {})

def seatA1 : SeatAvailability := ⟨"s1", "A1", .LOCKED, some 600000, some "u1"⟩

def failed : PayData :=
  ((Config.idle (.idle (twoHeld .PAYMENT_IN_PROGRESS))).run (statusWriters seatPlatform)
    noPayment).world.data

/-- The worker again, and a sweep that has B2 to free. -/
def sweeps : List StatusLabel :=
  [.env (.data (.tick 1000000)), .spawn (.releaseExpiredLocks "p1" 1),
    .spawn (.pay (.handleReconciliation "p2"))] ++
    List.replicate 12 (.step 0 {}) ++ List.replicate 12 (.step 1 {})

end Sample

open Payments.Sample in
theorem strandedSeats_sweeps :
    let d := ((Config.idle (.idle Sample.failed)).run (statusWriters seatPlatform) Sample.sweeps).world.data
    d.seatAvailability.map (·.status) = [.LOCKED, .AVAILABLE] ∧ Stranded Sample.seatA1 d :=
  ⟨by decide +kernel, strandedSeats_run seatPlatform seatPlatform_releases (by decide +kernel)
    (by decide +kernel) (by decide +kernel)⟩

open Payments.Sample in
/-- Nothing but waiting for locks is not enough for LOCKED seats to be behind locks. -/
theorem not_lockedSeats_waiting :
    ¬ ∀ (d : PayData) (ls : List StatusLabel), (d.seatLocks.map (·.id)).Nodup → OneShow d → Covered d →
      waiting.admitsRun (statusWriters seatPlatform) (Config.idle (.idle d)) ls →
      Covered ((Config.idle (.idle d)).run (statusWriters seatPlatform) ls).world.data := by
  intro h
  have hcovered := h (Sample.twoHeld .PAYMENT_IN_PROGRESS) Sample.noPayment (by decide) (by decide)
    (by decide) (by decide +kernel)
  revert hcovered
  decide +kernel

end Omnipax.Payments.LockedSeats
