import Omnipax.CallStatements
import Omnipax.ConfirmedSeats
import Omnipax.LockSweep

/-!
# The locks behind LOCKED seats

A seat of a show stays LOCKED until a call makes it AVAILABLE, and the one that
comes by on its own is the sweep of the expired locks, which gets to a seat
through a lock of a booking that has it. So a seat is lost if the locks go before
it does. The sweep frees the seats of the bookings whose locks it releases; as long
as no other call releases the locks of a booking over seats that are LOCKED, every
LOCKED seat is behind a lock that a sweep will find, or that has been paid for.
-/

namespace Omnipax.Payments.LockedSeats

open Conc Prog Database

/-! ## Seats and locks -/

/-- A lock counts while it is LOCKED, as a sweep finds it once it has lapsed, or CONFIRMED,
as it has been paid for. -/
def live : SeatLockStatus → Bool
  | .LOCKED => true
  | .CONFIRMED => true
  | _ => false

/-- Which booking has which seat of which show. -/
def seating (d : PayData) : List (String × Option String × String) :=
  d.bookingSeats.map fun b => (b.bookingId, b.showId, b.seatId)

def Has (d : PayData) (bookingId : String) (a : SeatAvailability) : Prop :=
  (bookingId, some a.showId, a.seatId) ∈ seating d

/-- No seat of the booking is LOCKED. -/
def Free (bookingId : String) (d : PayData) : Prop :=
  ∀ a ∈ d.seatAvailability, Has d bookingId a → a.status ≠ .LOCKED

/-- Every LOCKED seat is in a booking whose lock is live, so that it is either sold or will
be found by a sweep. -/
def Covered (d : PayData) : Prop :=
  ∀ a ∈ d.seatAvailability, a.status = .LOCKED →
    ∃ l ∈ d.seatLocks, live l.status = true ∧ Has d l.bookingId a

/-- All the seats of a booking are of one show, with an id, as `lockSeats` takes one show
for them all. -/
def OneShow (d : PayData) : Prop :=
  ∀ p ∈ seating d, p.2.1 ≠ some "" ∧ ∀ p' ∈ seating d, p'.1 = p.1 → p'.2.1 = p.2.1

section Decidable

variable (d : PayData) (bookingId : String) (a : SeatAvailability)

instance : Decidable (Has d bookingId a) := inferInstanceAs (Decidable (_ ∈ _))

instance : Decidable (Free bookingId d) := inferInstanceAs (Decidable (∀ _ ∈ _, _ → _))

instance : Decidable (Covered d) := inferInstanceAs (Decidable (∀ _ ∈ _, _ → ∃ _ ∈ _, _ ∧ _))

instance : Decidable (OneShow d) :=
  inferInstanceAs (Decidable (∀ _ ∈ _, _ ∧ ∀ _ ∈ _, _ → _))

end Decidable

def frees (a : SeatAvailability) : PayWrite → Bool
  | .seatAvailable showId seatId => a.showId == showId && a.seatId == seatId
  | _ => false

/-- The write takes a live lock from the booking, by its booking or by its own id. -/
def takes (bookingId : String) : PayWrite → Bool
  | .seatLocks id status => id == bookingId && !live status
  | .seatLock _ id status => id == bookingId && !live status
  | _ => false

/-- Who loses a lock to the writes has no LOCKED seat after them. -/
def Clears (ws : List PayWrite) (d : PayData) : Prop :=
  ∀ bookingId, (∃ w ∈ ws, takes bookingId w = true) → Free bookingId (payDb.applyAll ws d)

section Writes

variable {w : PayWrite} {ws ws' ws'' : List PayWrite} {d d' : PayData} {a : SeatAvailability}
  {bookingId : String}

theorem seating_apply (w : PayWrite) (d : PayData) : seating (payDb.apply w d) = seating d := by
  cases w with
  | bookingSeats id status =>
      show (d.bookingSeats.map _).map _ = _
      rw [List.map_map]
      refine List.map_congr_left fun b _ => ?_
      simp only [Function.comp_apply]
      split <;> rfl
  | _ => rfl

theorem seating_applyAll (ws : List PayWrite) (d : PayData) :
    seating (payDb.applyAll ws d) = seating d :=
  applyAll_of_forall (I := fun d' : PayData => seating d' = seating d)
    (fun w _ d' hd' => (seating_apply w d').trans hd') rfl

theorem has_applyAll : Has (payDb.applyAll ws d) bookingId a ↔ Has d bookingId a := by
  rw [Has, seating_applyAll]
  exact Iff.rfl

theorem OneShow.congr (h : OneShow d) (hd : seating d' = seating d) : OneShow d' := by
  rw [OneShow, hd]
  exact h

/-- A LOCKED seat has been LOCKED before, and is not freed. -/
theorem locked_apply : (a ∈ (payDb.apply w d).seatAvailability ∧ a.status = .LOCKED) ↔
    (a ∈ d.seatAvailability ∧ a.status = .LOCKED) ∧ frees a w = false := by
  have hsame : ∀ {p : Prop}, (p ↔ p ∧ false = false) := by simp
  cases w with
  | seatAvailable showId seatId =>
      have hfrees : frees a (.seatAvailable showId seatId) = false
          ↔ ¬(a.showId = showId ∧ a.seatId = seatId) := by
        simp [frees]
      constructor
      · rintro ⟨ha, hlocked⟩
        obtain ⟨a₀, ha₀, rfl⟩ := List.mem_map.mp ha
        by_cases hseat : a₀.showId = showId ∧ a₀.seatId = seatId
        · rw [if_pos hseat] at hlocked
          cases hlocked
        · rw [if_neg hseat] at hlocked hfrees ⊢
          exact ⟨⟨ha₀, hlocked⟩, hfrees.mpr hseat⟩
      · rintro ⟨⟨ha, hlocked⟩, hkept⟩
        exact ⟨List.mem_map.mpr ⟨a, ha, if_neg (hfrees.mp hkept)⟩, hlocked⟩
  | _ => exact hsame

theorem locked_applyAll : (a ∈ (payDb.applyAll ws d).seatAvailability ∧ a.status = .LOCKED) ↔
    (a ∈ d.seatAvailability ∧ a.status = .LOCKED) ∧ ∀ w ∈ ws, frees a w = false := by
  induction ws generalizing d with
  | nil => exact (and_iff_left fun _ h => absurd h List.not_mem_nil).symm
  | cons w ws ih =>
      rw [applyAll_cons, ih, locked_apply, List.forall_mem_cons, and_assoc]

theorem free_applyAll : Free bookingId (payDb.applyAll ws d) ↔
    ∀ a ∈ d.seatAvailability, Has d bookingId a → a.status = .LOCKED →
      ∃ w ∈ ws, frees a w = true := by
  constructor
  · intro h a ha hhas hlocked
    by_contra hnone
    have hkept : ∀ w ∈ ws, frees a w = false := fun w hw =>
      Bool.eq_false_iff.mpr fun hw' => hnone ⟨w, hw, hw'⟩
    obtain ⟨ha', -⟩ := locked_applyAll.mpr ⟨⟨ha, hlocked⟩, hkept⟩
    exact h a ha' (has_applyAll.mpr hhas) hlocked
  · intro h a ha hhas hlocked
    obtain ⟨⟨ha', -⟩, hkept⟩ := locked_applyAll.mp ⟨ha, hlocked⟩
    obtain ⟨w, hw, hfrees⟩ := h a ha' (has_applyAll.mp hhas) hlocked
    rw [hkept w hw] at hfrees
    cases hfrees

theorem free_more (ws ws' : List PayWrite) (h : Free bookingId (payDb.applyAll ws d)) :
    Free bookingId (payDb.applyAll (ws ++ ws'') (payDb.applyAll ws' d)) := by
  rw [free_applyAll] at h ⊢
  intro a ha hhas hlocked
  obtain ⟨⟨ha', -⟩, -⟩ := locked_applyAll.mp ⟨ha, hlocked⟩
  obtain ⟨w, hw, hfrees⟩ := h a ha' (has_applyAll.mp hhas) hlocked
  exact ⟨w, List.mem_append_left _ hw, hfrees⟩

theorem Clears.later (h : Clears ws d) : Clears ws (payDb.applyAll ws' d) := by
  intro bookingId htaken
  rw [← List.append_nil ws]
  exact free_more _ _ (h bookingId htaken)

/-- Who takes no lock of a booking leaves it a live one. -/
theorem live_applyAll (hids : (d.lockPairs.map (·.1)).Nodup)
    (hfiled : ∀ w ∈ ws, Filed d.lockPairs w)
    (hspared : ∀ w ∈ ws, takes bookingId w = false)
    (h : ∃ l ∈ d.seatLocks, live l.status = true ∧ l.bookingId = bookingId) :
    ∃ l ∈ (payDb.applyAll ws d).seatLocks, live l.status = true ∧ l.bookingId = bookingId := by
  refine (applyAll_of_forall (I := fun d' : PayData => d'.lockPairs = d.lockPairs ∧
    ∃ l ∈ d'.seatLocks, live l.status = true ∧ l.bookingId = bookingId) (fun w hw d' hd' => ?_)
      ⟨rfl, h⟩).2
  obtain ⟨hpairs, l, hl, hlive, hid⟩ := hd'
  refine ⟨(lockPairs_apply w d').trans hpairs, ?_⟩
  have htakes := hspared w hw
  cases w with
  | seatLocks id status =>
      refine ⟨_, List.mem_map_of_mem hl, ?_⟩
      by_cases hlock : l.bookingId = id ∧ l.status = .LOCKED
      · rw [if_pos hlock]
        refine ⟨?_, hid⟩
        have hsame : id = bookingId := hlock.1.symm.trans hid
        simpa [takes, hsame] using htakes
      · rw [if_neg hlock]
        exact ⟨hlive, hid⟩
  | seatLock lockId id status =>
      refine ⟨_, List.mem_map_of_mem hl, ?_⟩
      by_cases hlock : l.id = lockId
      · rw [if_pos hlock]
        refine ⟨?_, hid⟩
        subst hlock
        have hsame : id = bookingId :=
          (bookingId_of_filed (hpairs ▸ hids) hl (hpairs ▸ hfiled _ hw)).symm.trans hid
        simpa [takes, hsame] using htakes
      · rw [if_neg hlock]
        exact ⟨hlive, hid⟩
  | _ => exact ⟨l, hl, hlive, hid⟩

/-- **Cover**: writes that take no lock over a LOCKED seat leave every LOCKED seat
a lock. -/
theorem Covered.applyAll (h : Covered d) (hids : (d.lockPairs.map (·.1)).Nodup)
    (hfiled : ∀ w ∈ ws, Filed d.lockPairs w) (hclears : Clears ws d) :
    Covered (payDb.applyAll ws d) := by
  intro a ha hlocked
  obtain ⟨⟨ha', -⟩, -⟩ := locked_applyAll.mp ⟨ha, hlocked⟩
  obtain ⟨l, hl, hlive, hhas⟩ := h a ha' hlocked
  by_cases htaken : ∃ w ∈ ws, takes l.bookingId w = true
  · exact absurd hlocked (hclears l.bookingId htaken a ha (has_applyAll.mpr hhas))
  · have hspared : ∀ w ∈ ws, takes l.bookingId w = false := fun w hw =>
      Bool.eq_false_iff.mpr fun hw' => htaken ⟨w, hw, hw'⟩
    obtain ⟨l', hl', hlive', hid⟩ := live_applyAll hids hfiled hspared ⟨l, hl, hlive, rfl⟩
    exact ⟨l', hl', hlive', has_applyAll.mpr (hid ▸ hhas)⟩

end Writes

/-! ## A step -/

def seen (t : Option Nat) (w : PayStore) : PayData :=
  match t.bind w.session? with
  | some ss => payDb.applyAll ss.writes w.data
  | none => w.data

/-- A release of the locks of a booking finds none of its seats LOCKED. -/
def findsFree (d : PayData) : PayStmt → Prop
  | .seatLockUpdateMany bookingId status => live status = true ∨ Free bookingId d
  | _ => True

/-- The writers wait for locks, and release none over a LOCKED seat, but for the
sweep, which releases them by their ids. -/
def sparesLocked : Discipline payDb.sig PayStore PayOracle StatusOp where
  starts _ := True
  allows _ _ c o s := payDb.waits c o s.world = false ∧
    match c with
    | .stmt t q => findsFree (seen t s.world) q
    | _ => True

/-- The statement changes locks by their ids, as the sweep of lapsed locks does, and not by
their booking. -/
def byIds : PayStmt → Bool
  | .seatLockUpdateByIds .. => true
  | _ => false

def isSeatLock : PayWrite → Bool
  | .seatLock .. => true
  | _ => false

/-- Every LOCKED seat is behind a lock, and no open transaction but one of the
sweep is about to change that. -/
structure Guarded (s : StatusSnap) : Prop where
  owned : Owned s
  ids : (s.world.data.lockPairs.map (·.1)).Nodup
  shows : OneShow s.world.data
  covered : Covered s.world.data
  filed : ∀ ss ∈ s.world.sessions, ∀ w ∈ ss.writes, Filed s.world.data.lockPairs w
  others : ∀ ss ∈ s.world.sessions, (∀ w ∈ ss.writes, isSeatLock w = false) →
    Clears ss.writes s.world.data

/-- Locks are released by their ids in transactions, which commit when the seats
are free. -/
def LockPre (i : Nat) (c : TxCmd PayStmt) (s : StatusSnap) : Prop :=
  Own i c s ∧
    match c with
    | .stmt none q => byIds q = false
    | .commit tx => ∀ ss, s.world.session? tx = some ss → Clears ss.writes s.world.data
    | _ => True

def lockOutline : Outline payDb.sig PayStore PayOracle StatusOp where
  toDiscipline := sparesLocked
  inv := Guarded
  pre i _ c s := LockPre i c s

section Step

variable {P : SeatPlatform} {s : StatusSnap} {i : Nat} {op : StatusOp} {c : TxCmd PayStmt}
  {o : PayOracle} {q : PayStmt} {d : PayData} {w : PayWrite} {bookingId : String}

theorem takes_exec (hw : w ∈ (payDb.exec q o d).2) (ht : takes bookingId w = true) :
    byIds q = true ∨ ∃ status, q = .seatLockUpdateMany bookingId status ∧ live status = false := by
  cases w with
  | seatLocks id status =>
      obtain rfl := seatLocks_exec hw
      simp only [takes, Bool.and_eq_true, beq_iff_eq, Bool.not_eq_true'] at ht
      exact Or.inr ⟨status, by rw [ht.1], ht.2⟩
  | seatLock lockId id status =>
      obtain ⟨⟨ids, rfl, -⟩, -⟩ := seatLock_exec hw
      exact Or.inl rfl
  | _ => cases ht

theorem isSeatLock_exec (hq : byIds q = false) (hw : w ∈ (payDb.exec q o d).2) :
    isSeatLock w = false := by
  cases w with
  | seatLock lockId id status =>
      obtain ⟨⟨ids, rfl, -⟩, -⟩ := seatLock_exec hw
      cases hq
  | _ => rfl

/-- A statement that finds what it has to takes locks only where the seats are free. -/
theorem free_of_takes (hq : byIds q = false) (hfinds : findsFree d q)
    (hw : w ∈ (payDb.exec q o d).2) (ht : takes bookingId w = true) : Free bookingId d := by
  rcases takes_exec hw ht with hids | ⟨status, rfl, hdead⟩
  · rw [hq] at hids
    cases hids
  · rcases hfinds with hlive | hfree
    · rw [hdead] at hlive
      cases hlive
    · exact hfree

theorem guarded_data (h : Guarded s) (hpre : LockPre i c s)
    (hallows : sparesLocked.allows i op c o s) :
    ∃ ws, (payDb.step c o s.world).2.data = payDb.applyAll ws s.world.data ∧
      (∀ w ∈ ws, Filed s.world.data.lockPairs w) ∧ Clears ws s.world.data := by
  rcases step_data payDb c o s.world with hd | ⟨q, rfl, -, hd⟩ | ⟨ss, rfl, hss, -, hd⟩
  · refine ⟨[], hd, fun _ h =>
      absurd h List.not_mem_nil, fun _ ⟨_, h, _⟩ => absurd h List.not_mem_nil⟩
  · refine ⟨_, hd, filed_exec, fun bookingId ⟨w, hw, ht⟩ => ?_⟩
    have hfree : Free bookingId s.world.data := free_of_takes hpre.2 hallows.2 hw ht
    exact free_more [] [] hfree
  · exact ⟨_, hd, h.filed ss hss, hpre.2 ss (session?_of_mem h.owned.store hss)⟩

theorem clears_stmt {ws : List PayWrite} (h : (∀ w ∈ ws, isSeatLock w = false) → Clears ws d)
    (hfinds : findsFree (payDb.applyAll ws d) q)
    (hnone : ∀ w ∈ ws ++ (payDb.exec q o (payDb.applyAll ws d)).2, isSeatLock w = false) :
    Clears (ws ++ (payDb.exec q o (payDb.applyAll ws d)).2) d := by
  rintro bookingId ⟨w, hw, ht⟩
  have hfree : Free bookingId (payDb.applyAll ws d) := by
    rcases List.mem_append.mp hw with hw | hw
    · exact h (fun w hw => hnone w (List.mem_append_left _ hw)) bookingId ⟨w, hw, ht⟩
    · by_cases hq : byIds q = true
      · have hlock := hnone w (List.mem_append_right _ hw)
        cases w with
        | seatLock lockId id status => cases hlock
        | seatLocks id status =>
            obtain rfl := seatLocks_exec hw
            cases hq
        | _ => cases ht
      · exact free_of_takes (Bool.eq_false_iff.mpr hq) hfinds hw ht
  exact free_more _ [] hfree

/-- **Step**: a command that meets its assertion and finds what it has to leaves
every LOCKED seat a lock. -/
theorem guarded_exec (h : Guarded s) (hpre : LockPre i c s)
    (hallows : sparesLocked.allows i op c o s) :
    Guarded (s.exec (statusWriters P) i op c o) := by
  obtain ⟨ws, hdata, hfiled, hclears⟩ := guarded_data h hpre hallows
  have hworld : (s.exec (statusWriters P) i op c o).world = (payDb.step c o s.world).2 := rfl
  have hpairs : (payDb.step c o s.world).2.data.lockPairs = s.world.data.lockPairs := by
    rw [hdata, lockPairs_applyAll]
  refine ⟨h.owned.exec hpre.1 hallows.1, ?_, ?_, ?_, fun ss hss => ?_, fun ss hss => ?_⟩
  · rw [hworld, hpairs]
    exact h.ids
  · rw [hworld, hdata]
    exact h.shows.congr (seating_applyAll ws _)
  · rw [hworld, hdata]
    exact h.covered.applyAll h.ids hfiled hclears
  · rw [hworld, hpairs]
    intro w hw
    obtain ⟨ss₀, hss₀, -, hw | ⟨q, rfl, -, hwant⟩⟩ := mem_writes_of_step hss hw
    · exact h.filed ss₀ hss₀ w hw
    · rw [wants] at hwant
      split at hwant
      · cases hwant
      · split at hwant
        · cases hwant
        · rw [← lockPairs_applyAll _ s.world.data]
          exact filed_exec w hwant
  · rw [hworld]
    rcases session_of_step hss with hnil | ⟨ss₀, hss₀, hid, hsame | ⟨q, rfl, -, happ⟩⟩
    · rw [hnil]
      intro _ _ hlock
      obtain ⟨_, h, _⟩ := hlock
      exact absurd h List.not_mem_nil
    · rw [hsame, hdata]
      exact fun hnone => (h.others ss₀ hss₀ hnone).later
    · have hss₀' : s.world.session? ss.id = some ss₀ := hid ▸ session?_of_mem h.owned.store hss₀
      rw [happ, wants, hss₀', hdata]
      dsimp only
      split
      · rw [List.append_nil]
        exact fun hnone => (h.others ss₀ hss₀ hnone).later
      · have hfinds : findsFree (payDb.applyAll ss₀.writes s.world.data) q := by
          have hseen : findsFree (seen (some ss.id) s.world) q := hallows.2
          unfold seen at hseen
          rw [Option.bind_some, hss₀'] at hseen
          exact hseen
        exact fun hnone => (clears_stmt (h.others ss₀ hss₀) hfinds hnone).later

end Step

/-! ## The sweep -/

/-- What the transaction makes of the data, if it is still there, has no LOCKED seat
of the booking. -/
def Freed (tx : Nat) (bookingId : String) (s : StatusSnap) : Prop :=
  tx < s.world.next ∧ ∀ ss, s.world.session? tx = some ss →
    Free bookingId (payDb.applyAll ss.writes s.world.data)

/-- The rows are the seats of the booking. -/
def SeatsOf (bookingId : String) (rows : List BookingSeat) (d : PayData) : Prop :=
  ∀ showId seatId, (∃ b ∈ rows, b.showId = showId ∧ b.seatId = seatId) ↔
    (bookingId, showId, seatId) ∈ seating d

/-- The locks of a batch are in the table. -/
def OnFile (locks : List SeatLock) (d : PayData) : Prop :=
  ∀ l ∈ locks, (l.id, l.bookingId) ∈ d.lockPairs

/-- The writes take locks from these bookings only. -/
def TakesOnly (bookingIds : List String) (ws : List PayWrite) : Prop :=
  ∀ w ∈ ws, ∀ bookingId, takes bookingId w = true → bookingId ∈ bookingIds

section Facts

variable {P : SeatPlatform} {s : StatusSnap} {i tx : Nat} {op : StatusOp} {d : PayData}
  {bookingId : String} {rows : List BookingSeat}

theorem data_step (c : TxCmd PayStmt) (o : PayOracle) (w : PayStore) :
    ∃ ws, (payDb.step c o w).2.data = payDb.applyAll ws w.data := by
  rcases step_data payDb c o w with hd | ⟨q, -, -, hd⟩ | ⟨ss, -, -, -, hd⟩
  · exact ⟨[], hd⟩
  · exact ⟨_, hd⟩
  · exact ⟨_, hd⟩

theorem persistent_filing {I : PayData → Prop} (hI : ∀ d d', seating d' = seating d →
    d'.lockPairs = d.lockPairs → I d → I d') :
    Persistent (statusWriters P) fun s => I s.world.data where
  exec {s} h _ _ c o := by
    obtain ⟨ws, hdata⟩ := data_step c o s.world
    refine hI s.world.data (payDb.step c o s.world).2.data ?_ ?_ h
    · rw [hdata, seating_applyAll]
    · rw [hdata, lockPairs_applyAll]
  env {s} h e := by
    cases e with
    | data m => cases m <;> exact hI s.world.data _ rfl rfl h
    | abort tx => exact h

theorem seatsOf_persistent : Persistent
    (statusWriters P) fun s => SeatsOf bookingId rows s.world.data :=
  persistent_filing fun _ _ hseating _ h => by
    rw [SeatsOf, hseating]
    exact h

theorem onFile_persistent (locks : List SeatLock) :
    Persistent (statusWriters P) fun s => OnFile locks s.world.data :=
  persistent_filing fun _ _ _ hpairs h => by
    rw [OnFile, hpairs]
    exact h

theorem freed_persistent (tx : Nat) (bookingId : String) :
    Persistent (statusWriters P) (Freed tx bookingId) where
  exec {s} h i op c o := by
    refine ⟨Nat.lt_of_lt_of_le h.1 (le_next_step c o s.world), fun ss hss => ?_⟩
    obtain ⟨ss₀, ws, hss₀, happ⟩ := session?_of_step h.1 hss
    obtain ⟨ws', hdata⟩ := data_step c o s.world
    show Free bookingId (payDb.applyAll ss.writes (payDb.step c o s.world).2.data)
    rw [hdata, happ]
    exact free_more _ _ (h.2 ss₀ hss₀)
  env {s} h e := by
    cases e with
    | data m =>
        refine ⟨h.1, fun ss hss => ?_⟩
        have hfree := h.2 ss hss
        show Free bookingId (payDb.applyAll ss.writes (m.apply s.world.data))
        rw [free_applyAll] at hfree ⊢
        cases m <;> exact hfree
    | abort tx' => exact ⟨h.1, fun ss hss => h.2 ss (Store.session?_drop_some hss)⟩

theorem freedAll_persistent (tx : Nat) (bookingIds : List String) :
    Persistent (statusWriters P) fun s => ∀ bookingId ∈ bookingIds, Freed tx bookingId s where
  exec h i op c o bookingId hb := (freed_persistent tx bookingId).exec (h bookingId hb) i op c o
  env h e bookingId hb := (freed_persistent tx bookingId).env (h bookingId hb) e

theorem seatsOf_find {o : PayOracle}
    (h : (payDb.exec (.bookingSeatFindMany bookingId) o d).1 = .ok rows) :
    SeatsOf bookingId rows d := by
  obtain rfl : shuffle o.order (d.bookingSeats.filter (·.bookingId == bookingId)) = rows :=
    Except.ok.inj h
  intro showId seatId
  rw [seating, List.mem_map]
  constructor
  · rintro ⟨b, hb, rfl, rfl⟩
    obtain ⟨hmem, hid⟩ := List.mem_filter.mp ((shuffle_perm o.order _).subset hb)
    exact ⟨b, hmem, by rw [eq_of_beq hid]⟩
  · rintro ⟨b, hmem, hb⟩
    simp only [Prod.mk.injEq] at hb
    obtain ⟨rfl, rfl, rfl⟩ := hb
    exact ⟨b, (shuffle_perm o.order _).symm.subset (List.mem_filter.mpr ⟨hmem, beq_self_eq_true _⟩),
      rfl, rfl⟩

theorem not_has_of_no_show (hshows : OneShow d) (hrows : SeatsOf bookingId rows d)
    (hnone : (rows.head?.bind fun b => truthy? b.showId) = none) (a : SeatAvailability) :
    ¬Has d bookingId a := by
  intro hhas
  obtain ⟨b, hb, -, -⟩ := (hrows _ _).mpr hhas
  cases rows with
  | nil => cases hb
  | cons first rest =>
      have hfirst := (hrows first.showId first.seatId).mp ⟨first, List.mem_cons_self .., rfl, rfl⟩
      obtain ⟨hempty, -⟩ := hshows _ hfirst
      have hsame : some a.showId = first.showId := (hshows _ hfirst).2 _ hhas rfl
      have hblank : first.showId = some "" := by
        simpa [truthy?, ← hsame] using hnone
      exact hempty hblank

theorem show_of_has (hshows : OneShow d) (hrows : SeatsOf bookingId rows d) {showId : String}
    (hsome : (rows.head?.bind fun b => truthy? b.showId) = some showId) {a : SeatAvailability}
    (hhas : Has d bookingId a) : a.showId = showId ∧ a.seatId ∈ rows.map (·.seatId) := by
  obtain ⟨b, hb, -, hseat⟩ := (hrows _ _).mpr hhas
  obtain ⟨first, hhead, htruthy⟩ := Option.bind_eq_some_iff.mp hsome
  have hfirst := (hrows first.showId first.seatId).mp ⟨first, List.mem_of_head? hhead, rfl, rfl⟩
  have hsame : some a.showId = first.showId := (hshows _ hfirst).2 _ hhas rfl
  have hshow : first.showId = some showId := (Option.filter_eq_some_iff.mp htruthy).1
  exact ⟨Option.some.inj (hsame.trans hshow), List.mem_map.mpr ⟨b, hb, hseat⟩⟩

/-- Seats that the transaction makes AVAILABLE are not LOCKED in it. -/
theorem freed_release {showId : String} {seatIds : List String} {o : PayOracle} {u : Unit}
    (hlt : tx < s.world.next)
    (hok : (payDb.step (.stmt (some tx) (.seatAvailabilityRelease showId seatIds)) o s.world).1 = .ok u)
    (hseats : ∀ a, Has s.world.data bookingId a → a.showId = showId ∧ a.seatId ∈ seatIds) :
    Freed tx bookingId (s.exec (statusWriters P) i op
      (.stmt (some tx) (.seatAvailabilityRelease showId seatIds)) o) := by
  obtain ⟨ss, hss, -, -, hstep⟩ := stmt_ok hok
  refine ⟨Nat.lt_of_lt_of_le hlt (le_next_step _ o s.world), fun ss' hss' => ?_⟩
  change (payDb.step _ o s.world).2.session? tx = some ss' at hss'
  show Free bookingId (payDb.applyAll ss'.writes (payDb.step _ o s.world).2.data)
  rw [hstep] at hss' ⊢
  rw [Store.session?_write, if_pos rfl, hss] at hss'
  obtain rfl := Option.some.inj hss'
  show Free bookingId (payDb.applyAll (ss.writes ++ _) s.world.data)
  rw [free_applyAll]
  intro a ha hhas hlocked
  by_cases hfreed : ∃ w ∈ ss.writes, frees a w = true
  · obtain ⟨w, hw, hfrees⟩ := hfreed
    exact ⟨w, List.mem_append_left _ hw, hfrees⟩
  · -- still LOCKED when the statement comes
    have hkept : ∀ w ∈ ss.writes, frees a w = false := fun w hw =>
      Bool.eq_false_iff.mpr fun hw' => hfreed ⟨w, hw, hw'⟩
    obtain ⟨hview, -⟩ := locked_applyAll.mpr ⟨⟨ha, hlocked⟩, hkept⟩
    obtain ⟨hshow, hseat⟩ := hseats a hhas
    refine ⟨.seatAvailable a.showId a.seatId, List.mem_append_right _ ?_, by simp [frees]⟩
    refine List.mem_map.mpr ⟨a, List.mem_filter.mpr ⟨hview, ?_⟩, rfl⟩
    simp [hshow, hseat, hlocked]

end Facts

section Sweep

variable {P : SeatPlatform} {s : StatusSnap} {i tx : Nat} {op : StatusOp} {bookingId : String}
  {locks : List SeatLock}

theorem tracks_locks : Tracks lockOutline where
  store h := h.owned.store
  openers h := h.owned.openers
  own h := h.1
  waits h := h.1

theorem lockPre_stmt {q : PayStmt} (h : Opened i tx s) : LockPre i (.stmt (some tx) q) s :=
  ⟨h.own rfl, trivial⟩

open SeatLockWorker in
theorem wp_freeSeats {G : StatusSnap → Prop} (hG : Persistent (statusWriters P) G)
    (hopened : ∀ s, G s → Opened i tx s) (hs : G s) :
    (freeSeats tx bookingId).wp (statusWriters P) lockOutline i op
      (fun _ s => Freed tx bookingId s) (fun _ => G) s := by
  refine wp_query hG.stable hs hG (fun _ h => h) (fun s _ h => lockPre_stmt (hopened s h))
    fun s o rows hinv hGs _ hok _ => ?_
  have hrows : SeatsOf bookingId rows s.world.data := by
    obtain ⟨ss, -, -, hexec, -⟩ := stmt_ok hok
    have hfound := seatsOf_find hexec
    unfold SeatsOf at hfound
    rw [seating_applyAll] at hfound
    exact hfound
  have hH : Persistent (statusWriters P) fun s => G s ∧ SeatsOf bookingId rows s.world.data :=
    hG.and seatsOf_persistent
  have hs' := hH.exec ⟨hGs, hrows⟩ i op (.stmt (some tx) (.bookingSeatFindMany bookingId)) o
  cases hshow : rows.head?.bind fun b => truthy? b.showId with
  | none =>
      refine wp_ret hH.stable hs' fun s hinv h => ?_
      refine ⟨(hopened s h.1).lt hinv.owned.openers, fun ss _ a _ hhas _ => ?_⟩
      exact not_has_of_no_show hinv.shows h.2 hshow a (has_applyAll.mp hhas)
  | some showId =>
      refine wp_query hH.stable hs' hG (fun _ h => h.1) (fun s _ h => lockPre_stmt (hopened s h.1))
        fun s o u hinv h _ hok _ => ?_
      have hfreed : Freed tx bookingId (s.exec (statusWriters P) i op
          (.stmt (some tx) (.seatAvailabilityRelease showId (rows.map (·.seatId)))) o) :=
        freed_release ((hopened s h.1).lt hinv.owned.openers) hok fun a hhas =>
          show_of_has hinv.shows h.2 hshow hhas
      rw [← bind_ret (ask (some tx) _)]
      have hK : Persistent (statusWriters P) fun s => G s ∧ Freed tx bookingId s :=
        hG.and (freed_persistent tx bookingId)
      refine wp_query hK.stable ⟨hG.exec h.1 .., hfreed⟩ hG (fun _ h => h.1)
        (fun s _ h => lockPre_stmt (hopened s h.1)) fun s o _ _ h _ _ _ => ?_
      exact wp_ret hK.stable (hK.exec h ..) fun _ _ h => h.2

/-- A statement in the transaction that takes no lock. -/
def TakesNone (tx : Nat) (c : TxCmd PayStmt) : Prop :=
  ∃ q, c = .stmt (some tx) q ∧ ∀ o d, ∀ w ∈ (payDb.exec q o d).2, ∀ id, takes id w = false

theorem takesNone_freeSeats : (SeatLockWorker.freeSeats tx bookingId).All (TakesNone tx) := by
  have hask : ∀ {q : PayStmt}, (∀ o d, ∀ w ∈ (payDb.exec q o d).2, ∀ id, takes id w = false) →
      (ask (some tx) q).All (TakesNone tx) := by
    refine fun hq => ⟨⟨_, rfl, hq⟩, fun r => ?_⟩
    cases r <;> trivial
  refine (hask fun _ _ _ h => absurd h List.not_mem_nil).bind fun seats => ?_
  split
  · trivial
  · refine (hask fun o d w hw id => ?_).bind fun _ => hask fun o d w hw id => ?_
    · obtain ⟨a, -, rfl⟩ := List.mem_map.mp hw
      rfl
    · obtain rfl := List.mem_singleton.mp hw
      rfl

theorem kept_takesOnly (bookingIds : List String) :
    Conc.Kept (statusWriters P) lockOutline i op (TakesNone tx)
      (InTx i tx fun ss _ => TakesOnly bookingIds ss.writes) where
  stable := InTx.stable tracks_locks (fun _ _ _ _ h => h) fun _ _ _ h => h
  own h c o hc := by
    obtain ⟨q, rfl, hq⟩ := hc
    refine InTx.goes h fun ws d hws w hw id ht => ?_
    rcases List.mem_append.mp hw with hw | hw
    · exact hws w hw id ht
    · rw [hq o d w hw id] at ht
      cases ht

/-- The first statement of a batch takes locks from its bookings. -/
theorem takesOnly_exec (hids : (s.world.data.lockPairs.map (·.1)).Nodup)
    (hfile : OnFile locks s.world.data) {ws : List PayWrite} (hws : ws = []) (o : PayOracle) :
    TakesOnly (locks.map (·.bookingId)).eraseDups
      (ws ++ (payDb.exec (.seatLockUpdateByIds (locks.map (·.id)) .RELEASED) o
        (payDb.applyAll ws s.world.data)).2) := by
  subst hws
  intro w hw id ht
  obtain ⟨l, hl, rfl⟩ := List.mem_map.mp hw
  simp only [takes, Bool.and_eq_true, beq_iff_eq] at ht
  obtain ⟨hmem, hbatch⟩ := List.mem_filter.mp hl
  rw [List.contains_iff_mem] at hbatch
  obtain ⟨l', hl', hid⟩ := List.mem_map.mp hbatch
  have hbooking : l.bookingId = l'.bookingId :=
    bookingId_of_filed hids hmem (hid ▸ hfile l' hl')
  rw [List.mem_eraseDups, List.mem_map]
  exact ⟨l', hl', hbooking.symm.trans ht.1⟩

open SeatLockWorker in
/-- **Batch**: when it commits, the seats of all bookings it takes locks from are
free. -/
theorem fine_releaseBatch (hfile : OnFile locks s.world.data) :
    Fine PayMove.apply (StatusOp.body P) lockOutline i op (releaseBatch locks) s := by
  have hG := onFile_persistent (P := P) locks
  have htakes (tx : Nat) : Conc.Kept (statusWriters P) lockOutline i op (TakesNone tx)
      (InTx i tx fun ss _ => TakesOnly (locks.map (·.bookingId)).eraseDups ss.writes) :=
    kept_takesOnly _
  refine (wp_transaction (Q := fun _ _ => True) (G := fun s => OnFile locks s.world.data)
    (B := fun tx _ s => InTx i tx (fun ss _ =>
      TakesOnly (locks.map (·.bookingId)).eraseDups ss.writes) s ∧
      (∀ id ∈ (locks.map (·.bookingId)).eraseDups, Freed tx id s) ∧ OnFile locks s.world.data)
    tracks_locks hfile hG (fun _ _ _ => ⟨nofun, trivial⟩) (fun _ _ _ h => ⟨h.own rfl, trivial⟩)
    (fun s tx _ _ h => ?_) (fun tx _ => ?_) (fun _ _ _ h => h.2.2)
    (fun s tx hinv hfile hs => ?_) fun _ _ _ _ _ _ _ _ _ => fun _ _ _ => trivial).mono
      (fun _ _ _ h => h) fun _ _ _ _ => trivial
  · refine ⟨h.1.1.own rfl, fun ss hss id htaken => ?_⟩
    obtain ⟨w, hw, ht⟩ := htaken
    exact (h.2.1 id (h.1.2 ss hss w hw id ht)).2 ss hss
  · exact (htakes tx).stable.and ((freedAll_persistent tx _).and hG).stable
  · have hs : InTx i tx (Wrote (· = [])) s := hs
    refine wp_stmt hG (Wrote.stable tracks_locks _) hs hfile (fun _ _ h => lockPre_stmt h.1)
      fun s o _ hinv hs hfile _ hok => ?_
    have hs' : InTx i tx (Wrote (TakesOnly (locks.map (·.bookingId)).eraseDups))
        (s.exec (statusWriters P) i op (.stmt (some tx)
          (.seatLockUpdateByIds (locks.map (·.id)) .RELEASED)) o) :=
      hs.wrote hok fun ws ws' hws hexec => by
        obtain rfl := (Prod.ext_iff.mp hexec).2
        exact takesOnly_exec hinv.ids hfile hws o
    refine wp_wrote tracks_locks hG (H := TakesOnly (locks.map (·.bookingId)).eraseDups) hs'
      (hG.exec hfile i op _ o) (fun _ _ h =>
        lockPre_stmt h.1) (fun _ o d ws ws' hws hexec w hw id ht => ?_)
      fun _ s hinv hs hfile => ?_
    · rcases List.mem_append.mp hw with hw | hw
      · exact hws w hw id ht
      · obtain rfl := (Prod.ext_iff.mp hexec).2
        obtain ⟨b, -, rfl⟩ := List.mem_map.mp hw
        cases ht
    · have hGo : Persistent (statusWriters P) fun s => Opened i tx s ∧ OnFile locks s.world.data :=
        (Opened.persistent i tx).and hG
      have hloop : ((locks.map (·.bookingId)).eraseDups.mapM (freeSeats tx)).wp (statusWriters P)
          lockOutline i op _ (fun _ s => Opened i tx s ∧ OnFile locks s.world.data) s :=
        wp_mapM_in (R := fun id _ s => Freed tx id s) (fun id _ => freed_persistent tx id) hGo
          (fun id _ s _ h => wp_freeSeats hGo (fun _ h => h.1) h) hinv ⟨hs.1, hfile⟩
      have hkept := (htakes tx).and hG.kept
      refine wp_bind hinv ((hloop.frame_kept (All.mapM fun _ _ => takesNone_freeSeats) hkept
        ⟨hs.mono fun _ _ h => h.1, hfile⟩).mono (fun _ s _ h => ?_) fun _ _ _ h => h.1)
      refine wp_ret ((htakes tx).stable.and
        ((freedAll_persistent tx _).and hG).stable) ⟨h.2.1, fun id hid => ?_, h.2.2⟩ fun _ _ h => h
      obtain ⟨_, -, hfreed⟩ := exists_of_forall₂ h.1 hid
      exact hfreed

theorem onFile_find {now : Time} {o : PayOracle}
    (h : (payDb.exec (.seatLockFindExpired now) o s.world.data).1 = .ok locks) :
    OnFile locks s.world.data := by
  obtain rfl := Except.ok.inj h
  intro l hl
  have hmem := (List.perm_insertionSort _ _).subset (List.mem_of_mem_take hl)
  exact List.mem_map_of_mem (List.mem_filter.mp ((shuffle_perm o.order _).subset hmem)).1

open SeatLockWorker in
theorem fine_releaseBatches (now : Time) (rounds : Nat) :
    Fine PayMove.apply (StatusOp.body P) lockOutline i op (releaseBatches now rounds) s := by
  induction rounds generalizing s with
  | zero => exact fine_ret
  | succ rounds ih =>
      refine fine_query (fun _ _ => ⟨nofun, rfl⟩) fun s o locks _ hok hinv => ?_
      have hfile : OnFile locks (s.exec (statusWriters P) i op
          (.stmt none (.seatLockFindExpired now)) o).world.data :=
        (onFile_persistent locks).exec (onFile_find (query_ok hok).1) i op _ o
      split
      · exact fine_ret
      · refine fine_bind hinv (fine_releaseBatch hfile) fun _ s _ => ?_
        split
        · exact fine_ret
        · exact ih

theorem fine_releaseExpiredLocks {process : String} {rounds : Nat} :
    Fine PayMove.apply (StatusOp.body P) lockOutline i op
      (SeatLockWorker.releaseExpiredLocks process rounds) s := by
  refine fine_query (fun _ _ => ⟨nofun, rfl⟩) fun s o isEntered _ _ hinv => ?_
  cases isEntered with
  | false => exact fine_ret
  | true =>
      exact fine_attempt hinv (fine_query (fun _ _ => ⟨nofun, rfl⟩) fun _ _ now _ _ _ =>
        fine_releaseBatches now rounds) fun _ _ _ => fine_last fun _ _ => ⟨nofun, rfl⟩

end Sweep

/-! ## Runs -/

section Runs

variable {P : SeatPlatform}

theorem byIds_of_vocabulary {op : StatusOp} {q : PayStmt}
    (hop : ∀ process rounds, op ≠ .releaseExpiredLocks process rounds)
    (hq : op.vocabulary q = true) : byIds q = false := by
  cases op with
  | releaseExpiredLocks process rounds => exact absurd rfl (hop process rounds)
  | _ => cases q <;> first | rfl | cases hq

theorem lockOutline_valid (hR : P.Releases) (hP : P.Says fun q => byIds q = false) :
    Outline.Valid (statusWriters P) lockOutline fun _ _ _ _ => True where
  inv_exec h _ _ _ _ _ hpre hallows := guarded_exec h hpre hallows
  inv_env {s} h e := by
    cases e with
    | abort tx =>
        have hmem : ∀ {ss}, ss ∈ (s.world.drop tx).sessions → ss ∈ s.world.sessions :=
          fun hss => (List.mem_filter.mp hss).1
        exact ⟨owned_env h.owned _, h.ids, h.shows, h.covered, fun ss hss => h.filed ss (hmem hss),
          fun ss hss => h.others ss (hmem hss)⟩
    | data m =>
        have hothers : ∀ ss ∈ s.world.sessions, (∀ w ∈ ss.writes, isSeatLock w = false) →
            Clears ss.writes (m.apply s.world.data) := by
          intro ss hss hnone bookingId htaken
          have hfree := h.others ss hss hnone bookingId htaken
          rw [free_applyAll] at hfree ⊢
          cases m <;> exact hfree
        cases m <;> exact ⟨owned_env h.owned _, h.ids, h.shows, h.covered, h.filed, hothers⟩
  body i op s _ hinv hnew := by
    by_cases hop : ∃ process rounds, op = .releaseExpiredLocks process rounds
    · obtain ⟨process, rounds, rfl⟩ := hop
      exact wp_map _ fine_releaseExpiredLocks
    · refine fine_of_says hR (says_body (F := fun q => byIds q = false) (fun q hq =>
        byIds_of_vocabulary (fun process rounds h => hop ⟨process, rounds, h⟩) hq) fun _ => hP)
        (fun _ h => h.owned) (fun s c hinv hown hc hwrites => ⟨hown, ?_⟩) hnew
      cases c with
      | stmt t q =>
          cases t with
          | none => exact hc
          | some tx => trivial
      | commit tx =>
          intro ss hss
          obtain ⟨hmem, rfl⟩ := Store.mem_of_session? hss
          refine hinv.others ss hmem fun w hw => ?_
          obtain ⟨q, o, d, hq, hexec⟩ := hwrites ss.id rfl ss hss w hw
          exact isSeatLock_exec hq hexec
      | _ => trivial

/-- Once a sweep has left no expired lock, a live one has not expired or has been
paid for. -/
theorem Covered.swept {d : PayData} {now : Time} (h : Covered d)
    (hnone : ∀ l ∈ d.seatLocks, ¬(l.status = .LOCKED ∧ l.expiresAt ≤ now)) :
    ∀ a ∈ d.seatAvailability, a.status = .LOCKED → ∃ l ∈ d.seatLocks, Has d l.bookingId a ∧
      (l.status = .CONFIRMED ∨ l.status = .LOCKED ∧ now < l.expiresAt) := by
  intro a ha hlocked
  obtain ⟨l, hl, hlive, hhas⟩ := h a ha hlocked
  refine ⟨l, hl, hhas, ?_⟩
  cases hstatus : l.status with
  | CONFIRMED => exact Or.inl rfl
  | LOCKED =>
      have hkept : ¬l.expiresAt ≤ now := fun hle => hnone l hl ⟨hstatus, hle⟩
      exact Or.inr ⟨rfl, Int.not_le.mp hkept⟩
  | RELEASED =>
      rw [hstatus] at hlive
      cases hlive
  | other text =>
      rw [hstatus] at hlive
      cases hlive

/-- **Locked seats**: as long as nobody but the sweep releases the locks of a
booking over its LOCKED seats, every LOCKED seat is behind a live lock; so where a
sweep has left no expired lock, a LOCKED seat is one of a booking that still has
time, or has paid. -/
theorem lockedSeats_run (P : SeatPlatform) (hR : P.Releases) (hP : P.Says fun q => byIds q = false)
    {d : PayData} (hids : (d.seatLocks.map (·.id)).Nodup) (hshows : OneShow d) (hd : Covered d)
    {ls : List StatusLabel}
    (hls : sparesLocked.admitsRun (statusWriters P) (Config.idle (.idle d)) ls) :
    let d' := ((Config.idle (.idle d)).run (statusWriters P) ls).world.data
    Covered d' ∧ ∀ now, (∀ l ∈ d'.seatLocks, ¬(l.status = .LOCKED ∧ l.expiresAt ≤ now)) →
      ∀ a ∈ d'.seatAvailability, a.status = .LOCKED → ∃ l ∈ d'.seatLocks, Has d' l.bookingId a ∧
        (l.status = .CONFIRMED ∨ l.status = .LOCKED ∧ now < l.expiresAt) := by
  have hidle : Guarded (⟨.idle d, []⟩ : StatusSnap) := by
    refine ⟨owned_idle d, ?_, hshows, hd, fun _ h => absurd h List.not_mem_nil,
      fun _ h => absurd h List.not_mem_nil⟩
    rw [show (Store.idle d : PayStore).data.lockPairs.map (·.1) = d.seatLocks.map (·.id) from
      List.map_map]
    exact hids
  have hcovered := (Outline.sound (lockOutline_valid hR hP) (Outline.Good.idle hidle) hls).inv.covered
  exact ⟨hcovered, fun now hnone => hcovered.swept hnone⟩

end Runs

section Decidable

instance (d : PayData) (q : PayStmt) : Decidable (findsFree d q) := by
  unfold findsFree
  split <;> infer_instance

instance (op : StatusOp) : Decidable (sparesLocked.starts op) := isTrue trivial

instance (i : Nat) (op : StatusOp) (c : TxCmd PayStmt) (o : PayOracle) (s : StatusSnap) :
    Decidable (sparesLocked.allows i op c o s) :=
  match c with
  | .stmt t q => inferInstanceAs (Decidable (_ ∧ findsFree (seen t s.world) q))
  | .begin => inferInstanceAs (Decidable (_ ∧ True))
  | .commit _ => inferInstanceAs (Decidable (_ ∧ True))
  | .rollback _ => inferInstanceAs (Decidable (_ ∧ True))

end Decidable

namespace Sample

open Payments.Sample

theorem seatPlatform_says : seatPlatform.Says fun q => byIds q = false := fun _ _ => all_query rfl

/-- The seat A1 is LOCKED for the booking, and so is B2 for another one, which has
more time. -/
def twoHeld (status : BookingStatus) : PayData :=
  { heldData status with
    seatLocks := [⟨"l1", "b1", .LOCKED, 600000⟩, ⟨"l2", "b2", .LOCKED, 900000⟩]
    bookingSeats := [⟨"bs1", "b1", "A1", some "s1", none⟩, ⟨"bs2", "b2", "B2", some "s1", none⟩]
    seatAvailability := [⟨"s1", "A1", .LOCKED, some 600000, some "u1"⟩,
      ⟨"s1", "B2", .LOCKED, some 900000, some "u2"⟩] }

/-- A sweep, between whose statements another call expires the booking. -/
def sweepAmid : List StatusLabel :=
  .spawn (.releaseExpiredLocks "p1" 1) :: .spawn .handleExpiredBookings ::
    (List.replicate 3 (.step 0 {}) ++ List.replicate 3 (.step 1 {}) ++ List.replicate 8 (.step 0 {}))

end Sample

open Payments.Sample in
theorem lockedSeats_sweepAmid :
    let d := ((Config.idle (.idle (Sample.twoHeld .LOCKED))).run (statusWriters seatPlatform)
      Sample.sweepAmid).world.data
    (d.seatAvailability.map (·.status) = [.AVAILABLE, .LOCKED] ∧ d.statusOf "b1" = some .EXPIRED) ∧
      Covered d ∧ ∀ now, (∀ l ∈ d.seatLocks, ¬(l.status = .LOCKED ∧ l.expiresAt ≤ now)) →
        ∀ a ∈ d.seatAvailability, a.status = .LOCKED → ∃ l ∈ d.seatLocks, Has d l.bookingId a ∧
          (l.status = .CONFIRMED ∨ l.status = .LOCKED ∧ now < l.expiresAt) :=
  ⟨by decide +kernel, lockedSeats_run seatPlatform seatPlatform_releases Sample.seatPlatform_says
    (by decide) (by decide) (by decide) (by decide +kernel)⟩

end Omnipax.Payments.LockedSeats
