import Omnipax.Effects

/-!
# The phases of `initiateBooking`, run

What each phase answers when it runs without interruption, depending on
which of its commands the services answer: the lock check, the booking
check, and the releases at the end. The commands of a loop have
consecutive numbers, so a loop is answered when a range of commands is.
-/

namespace Omnipax

open Conc Prog

/-! ## Ranges of answered commands -/

/-- The commands `n`, `n + d`, `n + 2 d`, .. - `k` of them - are answered. -/
def AnsweredFrom (os : Nat → Oracle) (n d k : Nat) : Prop :=
  ∀ i < k, (os (n + d * i)).fault = none

instance (os : Nat → Oracle) (n d k : Nat) : Decidable (AnsweredFrom os n d k) :=
  inferInstanceAs (Decidable (∀ i < k, _))

theorem answeredFrom_succ {os : Nat → Oracle} {n d k : Nat} :
    AnsweredFrom os n d (k + 1) ↔ (os n).fault = none ∧ AnsweredFrom os (n + d) d k := by
  constructor
  · intro h
    refine ⟨h 0 (by omega), fun i hi => ?_⟩
    have hi := h (i + 1) (by omega)
    rwa [Nat.mul_succ, Nat.add_comm (d * i), ← Nat.add_assoc] at hi
  · rintro ⟨h0, h⟩ i hi
    cases i with
    | zero => exact h0
    | succ i =>
        have hi := h i (by omega)
        rwa [Nat.mul_succ, Nat.add_comm (d * i), ← Nat.add_assoc]

/-! ## The checks -/

/-- The user holds a live lock of every seat. -/
def World.Owned (w : World) (t e u : String) (seats : List String) : Prop :=
  ∀ s ∈ seats, ∃ en, w.liveLock (getLockKey t e s) = some en ∧ en.value.userId = u

/-- The lock a `GET` of the seat's key finds. -/
def World.lockAt (w : World) (t e s : String) : Option SeatLockPayload :=
  (w.liveLock (getLockKey t e s)).map (·.value)

section Phases

variable {P : Platform} {os : Nat → Oracle} {w : World} {t e : String} {n : Nat}

theorem checks_read {c : Cmd} {a : c.Ret} (hc : c.isLocal = false) (hread : c.readOnly = true)
    (ha : perform P (os n) w c = (.ok a, w)) :
    Checks (machine P) os w (await c) n (n + 1) ((os n).fault = none) a where
  passes hf := by
    rw [← bind_pure (await c), run_await_ok (.inr hf) ha]
    rfl
  throws hf := by
    rw [← bind_pure (await c), run_await_fault _ hc hf, exec_readOnly P _ w hread]
    exact ⟨_, _, rfl⟩

theorem checks_local {c : Cmd} {a : c.Ret} (hc : c.isLocal = true)
    (ha : perform P (os n) w c = (.ok a, w)) :
    Checks (machine P) os w (await c) n (n + 1) True a where
  passes _ := by
    rw [← bind_pure (await c), run_await_ok (.inl hc) ha]
    rfl
  throws h := absurd trivial h

theorem checks_lookUp (tenant : TenantContext) (dto : InitiateBookingDto) :
    Checks (machine P) os w (lookUp tenant dto) n (n + 2)
      (((os n).fault = none ∧ (os (n + 1)).fault = none) ∧
        (w.catalog.findEvent dto.eventId tenant.id).isSome = true ∧
        (((w.catalog.seatsOf dto.eventId).map (·.id)).filter
          ((newSet dto.seatIds).contains ·)).length = (newSet dto.seatIds).length) () := by
  refine (Checks.bind (checks_read rfl rfl rfl) (Checks.bind (Checks.throwIf Iff.rfl)
    (Checks.bind (checks_read rfl rfl rfl) (Checks.throwIf Iff.rfl)))).congr ?_
  rw [(shuffle_perm _ _).length_eq]
  simp only [Option.isNone_eq_false_iff, bne_eq_false_iff_eq]
  constructor
  · rintro ⟨h0, hevent, h1, hseats⟩
    exact ⟨⟨h0, h1⟩, hevent, hseats⟩
  · rintro ⟨⟨h0, h1⟩, hevent, hseats⟩
    exact ⟨h0, hevent, h1, hseats⟩

theorem any_notOwned_iff {u : String} {seats : List String} :
    (seats.map (w.lockAt t e)).any (notOwned u) = false ↔ w.Owned t e u seats := by
  rw [List.any_map, List.any_eq_false]
  refine forall₂_congr fun s _ => ?_
  cases h : w.liveLock (getLockKey t e s) <;> simp [World.lockAt, notOwned, h]

theorem checks_validateLocksOwned (t e u : String) (seats : List String) :
    Checks (machine P) os w (validateLocksOwned t e seats u) n (n + seats.length)
      (AnsweredFrom os n 1 seats.length ∧ w.Owned t e u seats) () := by
  have hget : ∀ s n, Checks (machine P) os w (await (.redisGet (getLockKey t e s))) n (n + 1)
      ((os n).fault = none) (w.lockAt t e s) := fun s n => checks_read rfl rfl rfl
  have hgets := Checks.mapM (C := fun n => (os n).fault = none) hget seats n
  refine (hgets.bind (Checks.throwIf any_notOwned_iff)).congr (and_congr_left fun _ => ?_)
  simp only [AnsweredFrom, Nat.one_mul]

theorem checks_existingCheck (tenantId eventId : String) (seatIds : List String) :
    Checks (machine P) os w (existingCheck tenantId eventId seatIds) n (n + 2)
      ((os (n + 1)).fault = none ∧ w.bookedSeats seatIds tenantId eventId w.clock = [])
      w.clock := by
  let refuse (existing : List BookedSeat) : M Unit :=
    throwIf (existing.length > 0) (.conflict "Some seats are no longer available")
  have hcheck : ∀ existing, Checks (machine P) os w (refuse existing >>= fun _ => .ret w.clock)
      (n + 2) (n + 2) (existing = [] ∧ True) w.clock := fun existing =>
    (Checks.throwIf (by simp)).bind (Checks.ret w.clock)
  refine (Checks.bind (checks_local rfl rfl)
    (Checks.bind (checks_read rfl rfl rfl) (hcheck _))).congr ?_
  simp

theorem checks_admissionChecks (tenant : TenantContext) (eventId u : String)
    (seats : List String) :
    Checks (machine P) os w (admissionChecks tenant eventId seats u) n (n + seats.length + 2)
      ((AnsweredFrom os n 1 seats.length ∧ w.Owned tenant.slug eventId u seats) ∧
        (os (n + seats.length + 1)).fault = none ∧
        w.bookedSeats seats tenant.id eventId w.clock = []) w.clock :=
  Checks.bind (checks_validateLocksOwned ..) (checks_existingCheck ..)

theorem checks_createOrder (tenant : TenantContext) (u : String) (dto : InitiateBookingDto) :
    Checks (machine P) os w (createOrder P tenant u dto) n (n + 3) ((os (n + 2)).fault = none)
      ⟨(os (n + 2)).fresh, dto.amount, currencyOf P dto⟩ :=
  (Checks.bind (checks_local rfl rfl) (Checks.bind (checks_local rfl rfl)
    (checks_read rfl rfl rfl))).congr (by simp)

/-! ## The releases -/

theorem run_allOf {α : Type} (l : List (Except StepError α)) (n : Nat) :
    ((allOf l).run (machine P) os n w).result.isOk = true ↔ ∀ x ∈ l, x.isOk = true := by
  unfold allOf
  split
  · rename_i hnone
    refine iff_of_true rfl fun x hx => ?_
    have := List.findSome?_eq_none_iff.mp hnone x hx
    cases x with
    | ok a => rfl
    | error err => cases this
  · rename_i err hsome
    obtain ⟨x, hx, herr⟩ := List.exists_of_findSome?_eq_some hsome
    refine iff_of_false Bool.false_ne_true fun h => ?_
    cases x with
    | ok a => cases herr
    | error err' => exact absurd (h _ hx) Bool.false_ne_true

/-- The `GET`s of `releaseMany`. -/
def settledGets (t e : String) (seats : List String) :
    M (List (Except StepError (Option SeatLockPayload))) :=
  seats.mapM fun s => settle (.redisGet (getLockKey t e s))

variable (P os w t e) in
theorem run_settledGets (seats : List String) (n : Nat) :
    ∃ found, (settledGets t e seats).run (machine P) os n w
        = ⟨.ok found, n + seats.length, w⟩ ∧ found.length = seats.length ∧
      if AnsweredFrom os n 1 seats.length then found = seats.map fun s => .ok (w.lockAt t e s)
      else ∃ x ∈ found, x.isOk = false := by
  induction seats generalizing n with
  | nil => exact ⟨[], rfl, rfl, by simp [AnsweredFrom]⟩
  | cons s seats ih =>
      obtain ⟨found, hrun, hlen, hfound⟩ := ih (n + 1)
      have hstep : (settledGets t e (s :: seats)).run (machine P) os n w
          = ⟨.ok ((exec P (.redisGet (getLockKey t e s)) (os n) w).1 :: found),
            n + (s :: seats).length, w⟩ := by
        rw [settledGets, List.mapM_cons]
        show (settledGets t e seats >>= _).run _ _ (n + 1)
          (exec P (.redisGet (getLockKey t e s)) (os n) w).2 = _
        rw [exec_readOnly P _ w rfl, run_bind_ok _ _ hrun, List.length_cons, Nat.add_assoc,
          Nat.add_comm 1]
        rfl
      refine ⟨_, hstep, by simp [hlen], ?_⟩
      rw [List.length_cons]
      by_cases h0 : (os n).fault = none
      · rw [exec_of_up (.inr h0)]
        split at hfound
        · rename_i hrest
          rw [if_pos (answeredFrom_succ.mpr ⟨h0, hrest⟩), hfound]
          rfl
        · rename_i hrest
          rw [if_neg fun h => hrest (answeredFrom_succ.mp h).2]
          obtain ⟨x, hx, herr⟩ := hfound
          exact ⟨x, List.mem_cons_of_mem _ hx, herr⟩
      · rw [if_neg fun h => h0 (answeredFrom_succ.mp h).1]
        refine ⟨_, List.mem_cons_self .., ?_⟩
        cases hf : (os n).fault with
        | none => exact absurd hf h0
        | some fault => cases fault <;> simp [exec, Cmd.isLocal, hf, Except.isOk, Except.toBool]

/-- `releaseMany` after a `GET` that found a lock: an answered `DEL` is
followed by a message. -/
theorem run_releaseFound_ok {s : String} {lock : SeatLockPayload} {n : Nat} {w w' : World}
    {a : Cmd.Ret (.redisDel (getLockKey t e s))}
    (h : exec P (.redisDel (getLockKey t e s)) (os n) w = (.ok a, w')) :
    (releaseFound t e (s, .ok (some lock))).run (machine P) os n w = ⟨.ok (.ok ()), n + 2,
      (perform P (os (n + 1)) w' (.emit (.SEAT_UNLOCKED t e s .system))).2⟩ := by
  show Prog.run (machine P) os (settle (.redisDel (getLockKey t e s)) >>= _) n w = _
  rw [settle, call_bind, run_call]
  simp only [machine, h]
  rfl

theorem run_releaseFound_error {s : String} {lock : SeatLockPayload} {n : Nat} {w w' : World}
    {x : StepError} (h : exec P (.redisDel (getLockKey t e s)) (os n) w = (.error x, w')) :
    (releaseFound t e (s, .ok (some lock))).run (machine P) os n w
      = ⟨.ok (.error x), n + 1, w'⟩ := by
  show Prog.run (machine P) os (settle (.redisDel (getLockKey t e s)) >>= _) n w = _
  rw [settle, call_bind, run_call]
  simp only [machine, h]
  rfl

variable (P os t e) in
theorem run_releaseFound (s : String) (r : Except StepError (Option SeatLockPayload)) (n : Nat)
    (w : World) :
    ∃ o n' w', (releaseFound t e (s, r)).run (machine P) os n w = ⟨.ok o, n', w'⟩ ∧
      (r.isOk = false → o.isOk = false) ∧
      (∀ lock, r = .ok (some lock) →
        if (os n).fault = none then o.isOk = true ∧ n' = n + 2 else o.isOk = false) := by
  match r with
  | .error _ => exact ⟨_, _, _, rfl, fun _ => rfl, fun lock h => by cases h⟩
  | .ok none => exact ⟨_, _, _, rfl, fun h => h, fun lock h => by cases h⟩
  | .ok (some lock) =>
      by_cases hf : (os n).fault = none
      · refine ⟨_, _, _, run_releaseFound_ok (exec_of_up (.inr hf)), fun h => h, fun _ _ => ?_⟩
        rw [if_pos hf]
        exact ⟨rfl, rfl⟩
      · have herr : (exec P (.redisDel (getLockKey t e s)) (os n) w).1 = .error .unavailable := by
          rcases hfault : (os n).fault with _ | _ | _
          · exact absurd hfault hf
          · rw [exec_before hfault rfl]
          · rw [exec_after hfault rfl]
        refine ⟨_, _, _, run_releaseFound_error (Prod.ext herr rfl), fun _ => rfl, fun _ _ => ?_⟩
        rw [if_neg hf]
        rfl

variable (P os t e) in
/-- The `DEL`s of `releaseMany`, two commands a seat as long as they are
answered. -/
theorem run_releases (xs : List (String × Except StepError (Option SeatLockPayload))) (n : Nat)
    (w : World) :
    ∃ outcomes n' w', (xs.mapM (releaseFound t e)).run (machine P) os n w
        = ⟨.ok outcomes, n', w'⟩ ∧
      ((∃ x ∈ xs, x.2.isOk = false) → ∃ o ∈ outcomes, o.isOk = false) ∧
      ((∀ x ∈ xs, ∃ lock, x.2 = .ok (some lock)) →
        ((∀ o ∈ outcomes, o.isOk = true) ↔ AnsweredFrom os n 2 xs.length)) := by
  induction xs generalizing n w with
  | nil => exact ⟨[], n, w, rfl, by simp, by simp [AnsweredFrom]⟩
  | cons x xs ih =>
      obtain ⟨s, r⟩ := x
      obtain ⟨o, n₁, w₁, hrun, herr, hok⟩ := run_releaseFound P os t e s r n w
      obtain ⟨outcomes, n₂, w₂, hruns, herrs, hoks⟩ := ih n₁ w₁
      refine ⟨o :: outcomes, n₂, w₂, ?_, ?_, fun hfound => ?_⟩
      · rw [List.mapM_cons, run_bind_ok _ _ hrun, run_bind_ok _ _ hruns]
        rfl
      · rintro ⟨x, hx, hxerr⟩
        rcases List.mem_cons.mp hx with rfl | hx
        · exact ⟨o, List.mem_cons_self .., herr hxerr⟩
        · obtain ⟨o', ho', herr'⟩ := herrs ⟨x, hx, hxerr⟩
          exact ⟨o', List.mem_cons_of_mem _ ho', herr'⟩
      · obtain ⟨lock, rfl⟩ := hfound _ (List.mem_cons_self ..)
        have hrest := hoks fun x hx => hfound x (List.mem_cons_of_mem _ hx)
        have hfirst := hok lock rfl
        rw [List.length_cons, answeredFrom_succ, List.forall_mem_cons, hrest]
        split at hfirst
        · rename_i hf
          rw [hfirst.2, and_iff_right hfirst.1, and_iff_right hf]
        · rename_i hf
          exact iff_of_false (fun h => by rw [hfirst] at h; exact absurd h.1 nofun)
            fun h => hf h.1

theorem run_releaseMany (seats : List String) (n : Nat)
    (hlocked : ∀ s ∈ seats, ∃ lock, w.lockAt t e s = some lock) :
    ((releaseMany t e seats).run (machine P) os n w).result.isOk = true ↔
      AnsweredFrom os n 1 seats.length ∧
        AnsweredFrom os (n + seats.length) 2 seats.length := by
  obtain ⟨found, hgets, hlen, hfound⟩ := run_settledGets P os w t e seats n
  obtain ⟨outcomes, n', w', hruns, herrs, hoks⟩ := run_releases P os t e
    (seats.zip found) (n + seats.length) w
  have hresult : ((releaseMany t e seats).run (machine P) os n w).result.isOk = true ↔
      ∀ o ∈ outcomes, o.isOk = true := by
    rw [show releaseMany t e seats = settledGets t e seats >>= fun found =>
      (seats.zip found).mapM (releaseFound t e) >>= allOf from rfl, run_bind_ok _ _ hgets,
      run_bind_ok _ _ hruns, run_allOf]
  rw [hresult]
  split at hfound
  · rename_i hup
    rw [and_iff_right hup, hoks, List.length_zip, hlen, Nat.min_self]
    intro x hx
    obtain ⟨hs, hfound'⟩ := List.of_mem_zip (a := x.1) (b := x.2) hx
    rw [hfound] at hfound'
    obtain ⟨s, hs', heq⟩ := List.mem_map.mp hfound'
    obtain ⟨lock, hlock⟩ := hlocked s hs'
    exact ⟨lock, by rw [← heq, hlock]⟩
  · rename_i hup
    refine iff_of_false (fun h => ?_) fun h => hup h.1
    obtain ⟨x, hx, hxerr⟩ := hfound
    rw [← List.map_snd_zip (show found.length ≤ seats.length by rw [hlen])] at hx
    obtain ⟨y, hy, rfl⟩ := List.mem_map.mp hx
    obtain ⟨o, ho, herr⟩ := herrs ⟨y, hy, hxerr⟩
    rw [h o ho] at herr
    cases herr

end Phases

/-! ## Admission and insertion -/

/-- The number of the first command after the lock check. -/
def afterLocks (dto : InitiateBookingDto) : Nat := 2 + (newSet dto.seatIds).length

/-- A call gets through to its insert: the event and the seats are found, every lock is the
user's own, no active booking holds a seat, and every call up to the order is answered. -/
structure Admits (tenant : TenantContext) (userId : String) (dto : InitiateBookingDto)
    (w : World) (os : Nat → Oracle) : Prop where
  lookups : (os 0).fault = none ∧ (os 1).fault = none
  event_found : (w.catalog.findEvent dto.eventId tenant.id).isSome = true
  seats_found : (((w.catalog.seatsOf dto.eventId).map (·.id)).filter
    ((newSet dto.seatIds).contains ·)).length = (newSet dto.seatIds).length
  gets : AnsweredFrom os 2 1 (newSet dto.seatIds).length
  owned : w.Owned tenant.slug dto.eventId userId (newSet dto.seatIds)
  query : (os (afterLocks dto + 1)).fault = none
  free : w.bookedSeats (newSet dto.seatIds) tenant.id dto.eventId w.clock = []
  order : (os (afterLocks dto + 4)).fault = none

/-- `initiateBooking` up to the insert. -/
def untilInsert (P : Platform) (tenant : TenantContext) (userId : String)
    (dto : InitiateBookingDto) : M (Time × Order) := do
  lookUp tenant dto
  let now ← admissionChecks tenant dto.eventId (newSet dto.seatIds) userId
  let order ← createOrder P tenant userId dto
  return (now, order)

/-- `initiateBooking` from the insert on. -/
def insert (P : Platform) (tenant : TenantContext) (userId : String)
    (dto : InitiateBookingDto) (x : Time × Order) : M InitiateBookingResult := do
  let booking ← await (.bookingCreate (bookingData P tenant userId dto x.1 x.2.id))
  finish P tenant dto x.1 x.2 booking

section Run

variable (P : Platform) (tenant : TenantContext) (u : String) (dto : InitiateBookingDto)
  (w : World) (os : Nat → Oracle)

theorem initiateBooking_eq_untilInsert :
    initiateBooking P tenant u dto = untilInsert P tenant u dto >>= insert P tenant u dto := by
  simp only [initiateBooking_eq, untilInsert, insert, bind_assoc, pure_bind]

def placedOrder : Order := ⟨(os (afterLocks dto + 4)).fresh, dto.amount, currencyOf P dto⟩

/-- A call that is admitted gets to its insert with nothing changed, any
other throws with nothing changed. -/
theorem checks_untilInsert :
    Checks (machine P) os w (untilInsert P tenant u dto) 0 (afterLocks dto + 5)
      (Admits tenant u dto w os) (w.clock, placedOrder P dto os) := by
  have horder : Checks (machine P) os w
      (createOrder P tenant u dto >>= fun order => .ret (w.clock, order)) (afterLocks dto + 2)
      (afterLocks dto + 5) ((os (afterLocks dto + 4)).fault = none ∧ True)
      (w.clock, placedOrder P dto os) :=
    Checks.bind (checks_createOrder ..) (Checks.ret (w.clock, placedOrder P dto os))
  have hchecks : Checks (machine P) os w
      (admissionChecks tenant dto.eventId (newSet dto.seatIds) u >>= fun now =>
        createOrder P tenant u dto >>= fun order => .ret (now, order)) 2 (afterLocks dto + 5) _
      (w.clock, placedOrder P dto os) :=
    Checks.bind (checks_admissionChecks ..) horder
  refine (Checks.bind (checks_lookUp tenant dto) hchecks).congr ?_
  constructor
  · rintro ⟨⟨h01, hevent, hseats⟩, ⟨⟨hgets, howned⟩, hquery, hfree⟩, horder, -⟩
    exact ⟨h01, hevent, hseats, hgets, howned, hquery, hfree, horder⟩
  · intro h
    exact ⟨⟨h.lookups, h.event_found, h.seats_found⟩, ⟨⟨h.gets, h.owned⟩, h.query, h.free⟩,
      h.order, trivial⟩

/-- The row an admitted call inserts. -/
def insertedRow (P : Platform) (tenant : TenantContext) (u : String)
    (dto : InitiateBookingDto) (w : World) (os : Nat → Oracle) : Booking :=
  (bookingData P tenant u dto w.clock (placedOrder P dto os).id).row
    (os (afterLocks dto + 5)).fresh

end Run

end Omnipax
