import Omnipax.Conc.Undisturbed
import Omnipax.StatusPaths

/-!
# The counters of a refund

`refundPayment` compares the seats it is asked for with the count it has read,
asks Razorpay for the refund, and then adds to the count and to the amount of
the row, whatever they are by then. So the counters stay in their bounds as
long as the comparison still holds of the row that is written: no call comes
between, or one that leaves enough.

The amounts add up too, if not exactly: each is rounded to two decimals.
-/

namespace Omnipax.Payments

open Conc Prog Database

/-! ## The columns -/

def BookingUpdate.increments (u : BookingUpdate) : Bool :=
  u.refundAmount.isSome || u.refundedSeatsCount.isSome

/-- A write that adds to the counters of a booking. -/
def PayWrite.increments : PayWrite → Bool
  | .booking _ u => u.increments
  | _ => false

def PayStmt.increments : PayStmt → Bool
  | .bookingUpdate _ _ u => u.increments
  | .bookingUpdateMany _ _ u => u.increments
  | _ => false

def PayData.seatsOf (d : PayData) (bookingId : String) : Nat :=
  d.bookingSeats.countP (·.bookingId == bookingId)

/-- What the counters of a booking are about. -/
def PayData.countersOf (d : PayData) (id : String) : Option (Money × Money × Int) :=
  (d.bookings.find id).map fun b => (b.ticketAmount, b.refundAmount, b.refundedSeatsCount)

section Columns

variable {q : PayStmt} {o : PayOracle} {d : PayData} {w : PayWrite} {ws : List PayWrite} {id : String}

theorem increments_exec (hw : w ∈ (payDb.exec q o d).2) (h : w.increments = true) :
    q.increments = true := by
  have hwrites := writes_exec hw
  cases w with
  | booking id u =>
      cases q with
      | bookingUpdate _ _ _ =>
          obtain ⟨-, rfl⟩ := hwrites
          exact h
      | bookingUpdateMany _ _ _ =>
          obtain ⟨-, rfl⟩ := hwrites
          exact h
      | _ => cases hwrites
  | _ => cases h

theorem seatsOf_apply (w : PayWrite) (d : PayData) :
    (payDb.apply w d).seatsOf id = d.seatsOf id := by
  cases w with
  | bookingSeats bookingId status =>
      show List.countP _ (d.bookingSeats.map _) = _
      rw [List.countP_map]
      refine List.countP_congr fun s _ => ?_
      simp only [Function.comp_apply]
      split <;> rfl
  | _ => rfl

theorem countersOf_apply (h : w.increments = false) :
    (payDb.apply w d).countersOf id = d.countersOf id := by
  cases w with
  | booking id' u =>
      change u.increments = false at h
      rw [BookingUpdate.increments, Bool.or_eq_false_iff, Option.isSome_eq_false_iff,
        Option.isSome_eq_false_iff, Option.isNone_iff_eq_none, Option.isNone_iff_eq_none] at h
      change ((d.bookings.update id' u).find id).map _ = _
      rw [BookingTable.find_update]
      split
      · rw [Option.map_map]
        refine congrArg (Option.map · _) (funext fun b => ?_)
        simp only [Function.comp_apply, BookingUpdate.apply, h.1, h.2, Option.elim_none]
      · rfl
  | _ => rfl

theorem counters_applyAll (h : ∀ w ∈ ws, w.increments = false) :
    (payDb.applyAll ws d).countersOf id = d.countersOf id ∧
      (payDb.applyAll ws d).seatsOf id = d.seatsOf id :=
  applyAll_of_forall
    (I := fun d' : PayData => d'.countersOf id = d.countersOf id ∧ d'.seatsOf id = d.seatsOf id)
    (fun w hw _ hd => ⟨(countersOf_apply (h w hw)).trans hd.1, (seatsOf_apply w _).trans hd.2⟩)
    ⟨rfl, rfl⟩

end Columns

/-! ## The bounds -/

/-- What has been refunded of `n` seats for `T`: `A` for `c` seats, rounded once. -/
structure Balanced (T : Int) (n : Nat) (A c : Int) : Prop where
  count_nonneg : 0 ≤ c
  count_le : c ≤ n
  amount_nonneg : 0 ≤ A
  amount_le : 2 * (A * n) ≤ 2 * (T * c) + n

theorem balanced_zero {T : Int} {n : Nat} : Balanced T n 0 0 :=
  ⟨le_refl _, by omega, le_refl _, by omega⟩

theorem Balanced.amount_le_ticket {T A c : Int} {n : Nat} (h : Balanced T n A c) (hn : 1 ≤ n)
    (hT : 0 ≤ T) : A ≤ T := by
  have hcost : T * c ≤ T * n := Int.mul_le_mul_of_nonneg_left h.count_le hT
  have hle := h.amount_le
  have hpos : (1 : Int) ≤ n := by omega
  by_contra hlt
  have hmore : (T + 1) * n ≤ A * n := Int.mul_le_mul_of_nonneg_right (by omega) (by omega)
  rw [Int.add_mul, Int.one_mul] at hmore
  omega

/-- The comparison of the request holds of the row, and what it gets is not
rounded up after an earlier refund. -/
def Refundable (booking : Booking) (totalSeats : Nat) (requestingRefundCount : Int) : Prop :=
  0 ≤ requestingRefundCount ∧
    requestingRefundCount + booking.refundedSeatsCount ≤ totalSeats ∧
    (booking.refundAmount.hundredths = 0 ∨ Int.fract
      ((booking.ticketAmount.hundredths * requestingRefundCount : Rat) / totalSeats) < 1 / 2)

instance (booking : Booking) (totalSeats : Nat) (r : Int) :
    Decidable (Refundable booking totalSeats r) :=
  inferInstanceAs (Decidable (_ ∧ _ ∧ (_ ∨ _)))

/-- `refundAmount` of a call. -/
def seatsAmount (ticketAmount : Money) (totalSeats : Nat) (r : Int) : Money :=
  Discounts.toDecimalPlaces2 (ticketAmount.toDecimal * r / (totalSeats : Int))

theorem seatsAmount_hundredths {T : Money} {n : Nat} {r : Int} (hT : 0 ≤ T.hundredths) (hr : 0 ≤ r) :
    (seatsAmount T n r).hundredths = ⌊(T.hundredths * r : Rat) / n + 1 / 2⌋ := by
  have hT' : (0 : Rat) ≤ T.hundredths := by exact_mod_cast hT
  have hr' : (0 : Rat) ≤ r := by exact_mod_cast hr
  have hx : 0 ≤ T.toDecimal * r / ((n : Int) : Rat) := by
    unfold Money.toDecimal
    positivity
  have hmul : T.toDecimal * r / ((n : Int) : Rat) * 100 = (T.hundredths * r : Rat) / n := by
    rw [← T.toDecimal_mul]
    push_cast
    ring
  rw [seatsAmount, Discounts.toDecimalPlaces2, if_pos hx, hmul]

/-- **Step**: a refund that fits keeps the bounds. -/
theorem Balanced.refund {T : Money} {n : Nat} {booking : Booking} {r : Int}
    (h : Balanced T.hundredths n booking.refundAmount.hundredths booking.refundedSeatsCount)
    (hticket : booking.ticketAmount = T) (hn : 1 ≤ n) (hT : 0 ≤ T.hundredths)
    (hr : Refundable booking n r) :
    0 ≤ (seatsAmount T n r).hundredths ∧
      Balanced T.hundredths n (booking.refundAmount.hundredths + (seatsAmount T n r).hundredths)
        (booking.refundedSeatsCount + r) := by
  subst hticket
  obtain ⟨hnonneg, hfits, hround⟩ := hr
  have hamount := seatsAmount_hundredths (n := n) hT hnonneg
  have hn' : (0 : Rat) < n := by exact_mod_cast hn
  have hT' : (0 : Rat) ≤ booking.ticketAmount.hundredths := by exact_mod_cast hT
  have hr' : (0 : Rat) ≤ r := by exact_mod_cast hnonneg
  set x : Rat := (booking.ticketAmount.hundredths * r : Rat) / n with hx
  have hxn : x * n = booking.ticketAmount.hundredths * r := div_mul_cancel₀ _ hn'.ne'
  have hpos : 0 ≤ (seatsAmount booking.ticketAmount n r).hundredths := by
    rw [hamount]
    exact Int.floor_nonneg.mpr (by positivity)
  refine ⟨hpos, ⟨by have := h.count_nonneg; omega, by omega, by have := h.amount_nonneg; omega, ?_⟩⟩
  have hle := h.amount_le
  have hcosts := Int.mul_add booking.ticketAmount.hundredths booking.refundedSeatsCount r
  rcases hround with hfirst | hdown
  · -- the first amount may be rounded up by half a hundredth
    have hup : (((seatsAmount booking.ticketAmount n r).hundredths : Int) : Rat) * n
        ≤ (x + 1 / 2) * n := by
      refine mul_le_mul_of_nonneg_right ?_ hn'.le
      rw [hamount]
      exact Int.floor_le _
    have hint : 2 * ((seatsAmount booking.ticketAmount n r).hundredths * n)
        ≤ 2 * (booking.ticketAmount.hundredths * r) + n := by
      have : (2 * ((seatsAmount booking.ticketAmount n r).hundredths * n) : Rat)
          ≤ 2 * (booking.ticketAmount.hundredths * r) + n := by linarith
      exact_mod_cast this
    have hcost : 0 ≤ booking.ticketAmount.hundredths * booking.refundedSeatsCount :=
      Int.mul_nonneg hT h.count_nonneg
    rw [hfirst, Int.zero_add, hcosts]
    omega
  · have hfloor : ⌊x + 1 / 2⌋ = ⌊x⌋ := by
      rw [Int.floor_eq_iff]
      have := Int.floor_add_fract x
      have := Int.fract_nonneg x
      constructor <;> linarith
    have hup : (((seatsAmount booking.ticketAmount n r).hundredths : Int) : Rat) * n ≤ x * n := by
      refine mul_le_mul_of_nonneg_right ?_ hn'.le
      rw [hamount, hfloor]
      exact Int.floor_le _
    have hint : (seatsAmount booking.ticketAmount n r).hundredths * n
        ≤ booking.ticketAmount.hundredths * r := by
      rw [hxn] at hup
      exact_mod_cast hup
    rw [Int.add_mul, hcosts]
    omega

/-! ## A call -/

/-- A counter is added to by an update by id, alone, of the amount that goes
with the count. -/
def RefundOk (id : String) (T : Money) (n : Nat) (c : TxCmd PayStmt) : Prop :=
  ∀ tx q, c = .stmt tx q → q.increments = true → ∃ bookingId u r, tx = none ∧
    q = .bookingUpdate bookingId none u ∧ (bookingId = id →
      u.refundedSeatsCount = some r ∧ u.refundAmount = some (seatsAmount T n r))

/-- Whoever reads the booking with its seats reads `T` and `n` seats. -/
def ReadsTicket (id : String) (T : Money) (n : Nat) (c : TxCmd PayStmt) (r : payDb.Resp c) : Prop :=
  ∀ b seats, (⟨c, r⟩ : (c : TxCmd PayStmt) × payDb.Resp c) =
    ⟨.stmt none (.bookingFindWithSeats id), .ok (some (b, seats))⟩ →
      b.ticketAmount = T ∧ seats.length = n

/-- What the code relies on of the missing function here: it leaves the
counters of bookings alone. -/
def SeatPlatform.SparesCounters (P : SeatPlatform) : Prop :=
  ∀ bookingId tx, (P.releaseSeatsSafely bookingId tx).All (Stmts fun q => q.increments = false)

section Call

variable {id : String} {T : Money} {n : Nat} {α : Type} {t : Transcript payDb.sig}

/-- The program adds to counters that way only. -/
abbrev Counts (id : String) (T : Money) (n : Nat) (p : PayM α) (t : Transcript payDb.sig) : Prop :=
  p.told (fun _ => RefundOk id T n) (fun _ => ReadsTicket id T n) (fun _ _ => True)
    (fun _ _ => True) t

theorem refundOk_of_stmts {c : TxCmd PayStmt} (h : Stmts (fun q => q.increments = false) c) :
    RefundOk id T n c := by
  intro tx q hc hq
  subst hc
  rw [show q.increments = false from h] at hq
  cases hq

theorem counts_of_all {p : PayM α} (h : p.All (Stmts fun q => q.increments = false)) :
    Counts id T n p t :=
  told_of_all (F := fun _ => True) h (fun _ _ hc _ => refundOk_of_stmts hc)
    (fun _ _ _ _ _ h => h) trivial

theorem counts_ask {q : PayStmt} {f : q.Ret → PayM α} (hq : q.increments = false)
    (h : ∀ a t, Counts id T n (f a) t) : Counts id T n (ask none q >>= f) t := by
  refine ⟨refundOk_of_stmts hq, fun r _ => ?_⟩
  cases r with
  | ok a => exact h a _
  | error e => trivial

theorem counts_refundPayment {P : SeatPlatform} (hP : P.SparesCounters) {bookingId : String}
    {seatsToRefund : Option Int} : Counts id T n (refundPayment P bookingId seatsToRefund) t := by
  unfold refundPayment
  refine ⟨refundOk_of_stmts rfl, fun r hr => ?_⟩
  cases r with
  | error e => trivial
  | ok found =>
      cases found with
      | none => trivial
      | some x =>
          obtain ⟨booking, bookingSeats⟩ := x
          show Counts id T n _ _
          dsimp only [Prog.bind]
          split
          · trivial
          · refine told_throwIf trivial fun _ => told_throwIf trivial fun _ =>
              told_throwIf trivial fun _ => ?_
            have hupdate : ∀ refundId t, Counts id T n (do
                let now ← ask none .dateNow
                ask none (.bookingUpdate bookingId none
                  { status := some .REFUND_INITIATED, razorpayRefundId := some refundId,
                    refundAmount := some (seatsAmount booking.ticketAmount bookingSeats.length
                      (seatsToRefund.getD (bookingSeats.length - booking.refundedSeatsCount))),
                    refundedSeatsCount :=
                      some (seatsToRefund.getD (bookingSeats.length - booking.refundedSeatsCount)),
                    refundedAt := some now })
                P.releaseSeatsSafely bookingId none
                return (refundId, seatsAmount booking.ticketAmount bookingSeats.length
                  (seatsToRefund.getD (bookingSeats.length - booking.refundedSeatsCount)))) t := by
              intro refundId t
              refine counts_ask rfl fun now t => ⟨?_, fun r _ => ?_⟩
              · intro tx q hc _
                obtain ⟨rfl, rfl⟩ := TxCmd.stmt.inj hc
                refine ⟨bookingId, _, _, rfl, rfl, fun hid => ⟨rfl, ?_⟩⟩
                subst hid
                obtain ⟨rfl, rfl⟩ := hr booking bookingSeats rfl
                rfl
              · cases r with
                | error e => trivial
                | ok _ => exact counts_of_all ((hP bookingId none).bind fun _ => trivial)
            unfold initiateRefund
            split
            · rw [map_eq, bind_assoc]
              exact counts_ask rfl fun _ t => hupdate _ t
            · exact counts_ask rfl fun refundId t => hupdate refundId t

end Call

/-! ## Runs -/

def StatusOp.refunds : StatusOp → Bool
  | .refundPayment .. => true
  | _ => false

/-- Refunds, each of which finds the booking with enough seats left when it adds to the
counters. What it compared before was read ahead of the request to Razorpay. -/
def fittingRefunds (id : String) : Discipline payDb.sig PayStore PayOracle StatusOp where
  starts op := op.refunds = true
  allows _ _ c _ s :=
    match c with
    | .stmt none (.bookingUpdate bookingId _ u) => bookingId = id →
        ∀ booking ∈ s.world.data.bookings.find id, ∀ r ∈ u.refundedSeatsCount,
          Refundable booking (s.world.data.seatsOf id) r
    | _ => True

def refundCalls : Discipline payDb.sig PayStore PayOracle StatusOp where
  starts op := op.refunds = true
  allows _ _ c o s := payDb.waits c o s.world = false

section Decidable

instance (id : String) (op : StatusOp) : Decidable ((fittingRefunds id).starts op) :=
  inferInstanceAs (Decidable (op.refunds = true))

instance (id : String) (i : Nat) (op : StatusOp) (c : TxCmd PayStmt) (o : PayOracle)
    (s : StatusSnap) : Decidable ((fittingRefunds id).allows i op c o s) := by
  unfold fittingRefunds
  dsimp only
  split
  · infer_instance
  · exact isTrue trivial

instance (op : StatusOp) : Decidable (refundCalls.starts op) :=
  inferInstanceAs (Decidable (op.refunds = true))

instance (i : Nat) (op : StatusOp) (c : TxCmd PayStmt) (o : PayOracle) (s : StatusSnap) :
    Decidable (refundCalls.allows i op c o s) :=
  inferInstanceAs (Decidable (payDb.waits c o s.world = false))

end Decidable

/-- The invariant of one booking under refunds: its counters are balanced, its ticket amount
and its seats are those of the start, and no open transaction is about to add to them. -/
structure RefundsFit (id : String) (T : Money) (n : Nat) (s : PayStore) : Prop where
  row : ∃ booking, s.data.bookings.find id = some booking ∧ booking.ticketAmount = T ∧
    Balanced T.hundredths n booking.refundAmount.hundredths booking.refundedSeatsCount
  seats : s.data.seatsOf id = n
  open_ : WritesIn (fun w : PayWrite => w.increments = false) s

/-- What the booking has got back so far, in hundredths, as its own counter says. -/
def PayData.refundedOf (d : PayData) (id : String) : Int :=
  (d.bookings.find id).elim 0 (·.refundAmount.hundredths)

section Runs

variable {id : String} {T : Money} {n : Nat} {s : PayStore} {c : TxCmd PayStmt} {o : PayOracle}

theorem countersOf_eq {d : PayData} {T A : Money} {c : Int} :
    d.countersOf id = some (T, A, c) ↔ ∃ b, d.bookings.find id = some b ∧ b.ticketAmount = T ∧
      b.refundAmount = A ∧ b.refundedSeatsCount = c := by
  simp only [PayData.countersOf, Option.map_eq_some_iff, Prod.mk.injEq]

theorem refundedOf_eq {d d' : PayData} (h : d'.countersOf id = d.countersOf id) :
    d'.refundedOf id = d.refundedOf id := by
  have hmap : ∀ d : PayData, d.refundedOf id = (d.countersOf id).elim 0 (·.2.1.hundredths) := by
    intro d
    unfold PayData.refundedOf PayData.countersOf
    cases d.bookings.find id <;> rfl
  rw [hmap, hmap, h]

theorem RefundsFit.of_same {s' : PayStore} (h : RefundsFit id T n s)
    (hcounters : s'.data.countersOf id = s.data.countersOf id)
    (hseats : s'.data.seatsOf id = s.data.seatsOf id)
    (hopen : WritesIn (fun w : PayWrite => w.increments = false) s') : RefundsFit id T n s' := by
  obtain ⟨booking, hfind, hticket, hbalanced⟩ := h.row
  have hold : s.data.countersOf id
      = some (T, booking.refundAmount, booking.refundedSeatsCount) :=
    countersOf_eq.mpr ⟨booking, hfind, hticket, rfl, rfl⟩
  obtain ⟨booking', hfind', hticket', hamount, hcount⟩ := countersOf_eq.mp (hcounters.trans hold)
  refine ⟨⟨booking', hfind', hticket', ?_⟩, hseats.trans h.seats, hopen⟩
  rw [hamount, hcount]
  exact hbalanced

theorem RefundsFit.add (h : RefundsFit id T n s) (hn : 1 ≤ n) (hT : 0 ≤ T.hundredths)
    {bookingId : String} {u : BookingUpdate} {r : Int} {s' : PayStore}
    (hu : bookingId = id → u.refundedSeatsCount = some r ∧ u.refundAmount = some (seatsAmount T n r))
    (hfits : bookingId = id → ∀ booking ∈ s.data.bookings.find id, ∀ r ∈ u.refundedSeatsCount,
      Refundable booking (s.data.seatsOf id) r)
    (hdata : s'.data = payDb.apply (.booking bookingId u) s.data)
    (hopen : WritesIn (fun w : PayWrite => w.increments = false) s') :
    RefundsFit id T n s' ∧ s.data.refundedOf id ≤ s'.data.refundedOf id := by
  obtain ⟨booking, hfind, hticket, hbalanced⟩ := h.row
  have hseats : s'.data.seatsOf id = s.data.seatsOf id := by
    rw [hdata]
    exact seatsOf_apply ..
  have hfind' : s'.data.bookings.find id = if id = bookingId then
      (s.data.bookings.find id).map u.apply else s.data.bookings.find id := by
    rw [hdata]
    exact BookingTable.find_update
  by_cases hid : id = bookingId
  · subst hid
    obtain ⟨hcount, hamount⟩ := hu rfl
    have hfits := hfits rfl booking hfind r hcount
    rw [h.seats] at hfits
    obtain ⟨hnonneg, hbalanced'⟩ := hbalanced.refund hticket hn hT hfits
    rw [if_pos rfl, hfind] at hfind'
    have hrefund : (u.apply booking).refundAmount.hundredths
        = booking.refundAmount.hundredths + (seatsAmount T n r).hundredths := by
      simp only [BookingUpdate.apply, hamount, Option.elim_some]
    have hrefunded : (u.apply booking).refundedSeatsCount = booking.refundedSeatsCount + r := by
      simp only [BookingUpdate.apply, hcount, Option.elim_some]
    refine ⟨⟨⟨u.apply booking, hfind', hticket, ?_⟩, hseats.trans h.seats, hopen⟩, ?_⟩
    · rw [hrefund, hrefunded]
      exact hbalanced'
    · unfold PayData.refundedOf
      rw [hfind', hfind, Option.map_some, Option.elim_some, Option.elim_some, hrefund]
      omega
  · rw [if_neg hid] at hfind'
    have hsame : s'.data.countersOf id = s.data.countersOf id := congrArg (Option.map _) hfind'
    exact ⟨h.of_same hsame hseats hopen, (refundedOf_eq hsame).ge⟩

/-- **Step**: a command of a refund that fits keeps the bounds, and takes
nothing back. -/
theorem RefundsFit.step (h : RefundsFit id T n s) (hn : 1 ≤ n) (hT : 0 ≤ T.hundredths)
    (hc : RefundOk id T n c) {i : Nat} {op : StatusOp} {snap : StatusSnap} (hs : snap.world = s)
    (hallows : (fittingRefunds id).allows i op c o snap) :
    RefundsFit id T n (payDb.step c o s).2 ∧
      s.data.refundedOf id ≤ (payDb.step c o s).2.data.refundedOf id := by
  subst hs
  have hopen : WritesIn (fun w : PayWrite => w.increments = false) (payDb.step c o snap.world).2 := by
    intro ss hss w hw
    obtain ⟨ss₀, hss₀, -, hw | ⟨q, hq, -, hwant⟩⟩ := mem_writes_of_step hss hw
    · exact h.open_ ss₀ hss₀ w hw
    · obtain ⟨d, hw⟩ := mem_wants hwant
      by_contra hinc
      have hinc : w.increments = true := by simpa using hinc
      obtain ⟨_, _, _, htx, -⟩ := hc _ _ hq (increments_exec hw hinc)
      cases htx
  have hkeep : ∀ ws : List PayWrite, (∀ w ∈ ws, w.increments = false) →
      (payDb.step c o snap.world).2.data = payDb.applyAll ws snap.world.data →
      RefundsFit id T n (payDb.step c o snap.world).2 ∧
        snap.world.data.refundedOf id ≤ (payDb.step c o snap.world).2.data.refundedOf id := by
    intro ws hws hdata
    obtain ⟨hcounters, hseats⟩ := counters_applyAll (d := snap.world.data) hws
    rw [← hdata] at hcounters hseats
    exact ⟨h.of_same hcounters hseats hopen, (refundedOf_eq hcounters).ge⟩
  rcases step_data payDb c o snap.world with hdata | ⟨q, rfl, -, hdata⟩ | ⟨ss, -, hss, -, hdata⟩
  · exact hkeep [] (fun _ hw => absurd hw List.not_mem_nil) hdata
  · by_cases hq : q.increments = true
    swap
    · refine hkeep _ (fun w hw => ?_) hdata
      by_contra hinc
      exact hq (increments_exec hw (by simpa using hinc))
    obtain ⟨bookingId, u, r, -, rfl, hu⟩ := hc none q rfl hq
    have hwants : payDb.wants none (.bookingUpdate bookingId none u) o snap.world = [] ∨
        payDb.wants none (.bookingUpdate bookingId none u) o snap.world = [.booking bookingId u] := by
      change (PayStmt.exec o snap.world.data (.bookingUpdate bookingId none u)).2 = _ ∨
        (PayStmt.exec o snap.world.data (.bookingUpdate bookingId none u)).2 = _
      simp only [PayStmt.exec]
      split
      · split
        · exact Or.inl rfl
        · exact Or.inr rfl
      · exact Or.inl rfl
    rcases hwants with hnil | hone
    · rw [hnil] at hdata
      exact hkeep [] (fun _ hw => absurd hw List.not_mem_nil) hdata
    rw [hone] at hdata
    exact h.add hn hT hu hallows hdata hopen
  · exact hkeep _ (h.open_ ss hss) hdata

theorem readsTicket_step (h : RefundsFit id T n s) : ReadsTicket id T n c (payDb.step c o s).1 := by
  intro b seats hsaid
  obtain ⟨rfl, hr⟩ := Sigma.mk.inj hsaid
  obtain ⟨hexec, -⟩ := query_ok (eq_of_heq hr)
  obtain ⟨booking, hfind, hticket, -⟩ := h.row
  obtain ⟨b', hb', hpair⟩ := Option.map_eq_some_iff.mp (Except.ok.inj hexec)
  obtain ⟨rfl, rfl⟩ := Prod.mk.inj hpair
  obtain rfl := Option.some.inj (hb'.symm.trans hfind)
  rw [(shuffle_perm _ _).length_eq, ← List.countP_eq_length_filter]
  exact ⟨hticket, h.seats⟩

theorem fittingRefunds_valid {P : SeatPlatform} (id : String) (hP : P.SparesCounters) (hn : 1 ≤ n)
    (hT : 0 ≤ T.hundredths) : Outline.Valid (statusWriters P)
      (toldOutline (statusWriters P) (fittingRefunds id) (fun s => RefundsFit id T n s.world)
        fun _ _ => RefundOk id T n) fun _ _ _ _ => True := by
  have hbody : ∀ op : StatusOp, op.refunds = true → Counts id T n (op.body P) [] := by
    intro op hop
    cases op with
    | refundPayment bookingId seatsToRefund =>
        exact told_bind.mpr (told_mono (counts_refundPayment hP) (fun _ _ _ => trivial)
          fun _ _ _ => trivial)
    | _ => cases hop
  refine toldOutline_valid (Q := fun _ _ _ => True) (fun _ h _ _ _ => readsTicket_step h)
    (fun _ h _ _ _ _ _ hc hallows => (h.step hn hT hc rfl hallows).1) (fun s h e => ?_) hbody
  cases e with
  | data m => cases m <;> exact ⟨h.row, h.seats, h.open_⟩
  | abort tx => exact ⟨h.row, h.seats, fun ss hss => h.open_ ss (List.mem_filter.mp hss).1⟩

end Runs

/-- The counters of a booking with `n` seats are in their bounds. -/
structure WithinTicket (n : Nat) (booking : Booking) : Prop where
  count_nonneg : 0 ≤ booking.refundedSeatsCount
  count_le : booking.refundedSeatsCount ≤ n
  amount_nonneg : 0 ≤ booking.refundAmount.hundredths
  amount_le : booking.refundAmount.hundredths ≤ booking.ticketAmount.hundredths

/-- **Refund guard**: in every run of refunds that find enough seats left when
they write, the counters stay in their bounds, and nothing is taken back. -/
theorem withinTicket_run (P : SeatPlatform) (hP : P.SparesCounters) (d : PayData) (booking : Booking)
    (hfind : d.bookings.find booking.id = some booking)
    (hticket : 0 ≤ booking.ticketAmount.hundredths) (hseats : 1 ≤ d.seatsOf booking.id)
    (hcount : booking.refundedSeatsCount = 0) (hamount : booking.refundAmount = ⟨0⟩)
    (ls ls' : List StatusLabel)
    (hls : (fittingRefunds booking.id).admitsRun (statusWriters P) (Config.idle (.idle d))
      (ls ++ ls')) :
    (∃ b, ((Config.idle (.idle d)).run (statusWriters P) ls).world.data.bookings.find booking.id
      = some b ∧ WithinTicket (d.seatsOf booking.id) b) ∧
    ((Config.idle (.idle d)).run (statusWriters P) ls).world.data.refundedOf booking.id ≤
      ((Config.idle (.idle d)).run (statusWriters P) (ls ++ ls')).world.data.refundedOf
        booking.id := by
  obtain ⟨hfirst, hrest⟩ := Discipline.admitsRun_append.mp hls
  have hvalid := fittingRefunds_valid booking.id hP hseats hticket
  have hstart : RefundsFit booking.id booking.ticketAmount (d.seatsOf booking.id) (.idle d) :=
    ⟨⟨booking, hfind, rfl, by rw [hcount, hamount]; exact balanced_zero⟩, rfl, nofun⟩
  have hgood := Outline.sound hvalid (Outline.Good.idle (w := Store.idle d) hstart) hfirst
  obtain ⟨b, hb, hsame, hbalanced⟩ := hgood.inv.row
  refine ⟨⟨b, hb, hbalanced.count_nonneg, hbalanced.count_le, hbalanced.amount_nonneg, ?_⟩, ?_⟩
  · rw [hsame]
    exact hbalanced.amount_le_ticket hseats hticket
  · rw [Config.run_append]
    refine Outline.Good.along (R := fun s s' => s.data.refundedOf booking.id ≤
      s'.data.refundedOf booking.id) hvalid (fun _ => le_refl _) le_trans (fun w e => ?_)
      (fun i op c o h _ hc hallows => (h.step hseats hticket hc rfl hallows).2) hgood hrest
    cases e with
    | data m => cases m <;> exact le_refl _
    | abort tx => exact le_refl _

/-! ## Two refunds of two seats -/

namespace Sample

theorem seatPlatform_sparesCounters : seatPlatform.SparesCounters := fun _ _ => all_query rfl

/-- A booking over two seats of 50.00 each. -/
def twoSeats : Booking :=
  { booking .CONFIRMED with razorpayPaymentId := some "pay_1", ticketAmount := ⟨10000⟩ }

def twoSeatsData : PayData :=
  { data twoSeats with bookingSeats := [⟨"bs1", "b1", "A1", some "s1", some .CONFIRMED⟩,
                                        ⟨"bs2", "b1", "A2", some "s1", some .CONFIRMED⟩] }

/-- Two calls that read the booking before either writes it. -/
def refundTwice (seatsToRefund : Option Int) : List StatusLabel :=
  [.spawn (.refundPayment "b1" seatsToRefund), .spawn (.refundPayment "b1" seatsToRefund),
    .step 0 {}, .step 1 {}] ++
    List.replicate 4 (.step 0 { fresh := "rfnd_1" }) ++ List.replicate 4 (.step 1 { fresh := "rfnd_2" })

end Sample

/-- Each of them refunds one of the seats. -/
theorem withinTicket_bothSeats :
    ((Config.idle (.idle Sample.twoSeatsData)).run (statusWriters Sample.seatPlatform)
      (Sample.refundTwice (some 1))).world.data.refundedOf "b1" = 10000 ∧
    ∃ b, ((Config.idle (.idle Sample.twoSeatsData)).run (statusWriters Sample.seatPlatform)
      (Sample.refundTwice (some 1))).world.data.bookings.find "b1" = some b ∧ WithinTicket 2 b :=
  ⟨by decide +kernel, (withinTicket_run Sample.seatPlatform Sample.seatPlatform_sparesCounters
    Sample.twoSeatsData Sample.twoSeats (by decide) (by decide) (by decide) rfl rfl
    (Sample.refundTwice (some 1)) [] (by decide +kernel)).1⟩

/-- Both read that nothing has been refunded, and refund four of two seats. -/
theorem not_withinTicket_overlapping :
    ¬ ∀ (P : SeatPlatform) (d : PayData) (booking : Booking) (ls : List StatusLabel),
      P.SparesCounters → d.bookings.find booking.id = some booking →
      0 ≤ booking.ticketAmount.hundredths → 1 ≤ d.seatsOf booking.id →
      booking.refundedSeatsCount = 0 → booking.refundAmount = ⟨0⟩ →
      refundCalls.admitsRun (statusWriters P) (Config.idle (.idle d)) ls →
      ∃ b, ((Config.idle (.idle d)).run (statusWriters P) ls).world.data.bookings.find booking.id
        = some b ∧ WithinTicket (d.seatsOf booking.id) b := by
  intro h
  obtain ⟨b, hb, hwithin⟩ := h Sample.seatPlatform Sample.twoSeatsData Sample.twoSeats
    (Sample.refundTwice none) Sample.seatPlatform_sparesCounters (by decide) (by decide) (by decide) rfl rfl
    (by decide +kernel)
  have hcount : b.refundedSeatsCount = 4 := by
    have hrow : (((Config.idle (.idle Sample.twoSeatsData)).run (statusWriters Sample.seatPlatform)
        (Sample.refundTwice none)).world.data.bookings.find "b1").map (·.refundedSeatsCount) = some 4 := by
      decide +kernel
    rw [show Sample.twoSeats.id = "b1" from rfl] at hb
    rw [hb] at hrow
    exact Option.some.inj hrow
  have hle : b.refundedSeatsCount ≤ 2 := hwithin.count_le
  omega

/-! ## One refund after another

Between its comparison and its update a call that nothing interrupts finds the
counters as it has read them. What it is asked for and how its amount is rounded is
not a question of other calls. -/

section Visits

variable {P : SeatPlatform} {id bookingId : String} {i : Nat} {op : StatusOp} {s : StatusSnap}
  {seatsToRefund : Option Int}

/-- What the call is asked for is no negative number of seats, and its amount is not
rounded up after another refund. -/
def RoundsEvenly (bookingId : String) (seatsToRefund : Option Int) (d : PayData) : Prop :=
  ∀ booking ∈ d.bookings.find bookingId,
    let r := seatsToRefund.getD (d.seatsOf bookingId - booking.refundedSeatsCount)
    0 ≤ r ∧ (booking.refundAmount.hundredths = 0 ∨
      Int.fract ((booking.ticketAmount.hundredths * r : Rat) / d.seatsOf bookingId) < 1 / 2)

/-- The call starts so, if it is one for the booking. -/
def Evenly (id : String) : StatusOp → StatusSnap → Prop
  | .refundPayment bookingId seatsToRefund, s =>
      bookingId = id → RoundsEvenly bookingId seatsToRefund s.world.data
  | _, _ => True

/-- The refund of `r` seats fits the booking. -/
def Fits (id : String) (r : Int) (d : PayData) : Prop :=
  ∀ booking ∈ d.bookings.find id, Refundable booking (d.seatsOf id) r

theorem fits_of_counters {r : Int} {d d' : PayData} (h : Fits id r d)
    (hcounters : d'.countersOf id = d.countersOf id) (hseats : d'.seatsOf id = d.seatsOf id) :
    Fits id r d' := by
  intro booking' hfind'
  have hnew : d.countersOf id = some (booking'.ticketAmount, booking'.refundAmount,
      booking'.refundedSeatsCount) :=
    hcounters.symm.trans (countersOf_eq.mpr ⟨booking', hfind', rfl, rfl, rfl⟩)
  obtain ⟨booking, hfind, hticket, hamount, hcount⟩ := countersOf_eq.mp hnew
  have hfits := h booking hfind
  rw [Refundable, hticket, hamount, hcount] at hfits
  rw [hseats]
  exact hfits

theorem fittingRefunds_spares {q : PayStmt} {o : PayOracle} (hq : q.increments = false) :
    (fittingRefunds id).allows i op (.stmt none q) o s := by
  cases q with
  | bookingUpdate id' expected u =>
      intro _ booking _ r hr
      have hnone := (Bool.or_eq_false_iff.mp hq).2
      rw [Option.isSome_eq_false_iff, Option.isNone_iff_eq_none] at hnone
      rw [hnone] at hr
      cases hr
  | _ => trivial

theorem meets_spares {α : Type} {q : PayStmt} {f : q.Ret → PayM α} {r : Int}
    (hq : q.increments = false) (hs : bookingId = id → Fits id r s.world.data)
    (hok : ∀ a s, (bookingId = id → Fits id r s.world.data) →
      Meets (StatusOp.body P) (fittingRefunds id) i op (f a) s) :
    Meets (StatusOp.body P) (fittingRefunds id) i op (ask none q >>= f) s := by
  refine meets_query (F := fun d _ => bookingId = id → Fits id r d) hs
    (fun s o _ _ => fittingRefunds_spares hq) fun s o a _ hs _ hdata => hok a _ fun hid => ?_
  have hspares : ∀ w ∈ (payDb.exec q o s.world.data).2, w.increments = false := by
    intro w hw
    by_contra hinc
    rw [increments_exec hw (by simpa using hinc)] at hq
    cases hq
  rw [hdata]
  exact fits_of_counters (hs hid) (counters_applyAll hspares).1 (counters_applyAll hspares).2

theorem meets_refund (hP : P.Releases) (hcounters : P.SparesCounters) {paymentId : String}
    {refundAmount : Money} {r : Int} (hs : bookingId = id → Fits id r s.world.data) :
    Meets (StatusOp.body P) (fittingRefunds id) i op (do
      let refundId ← initiateRefund P.toPayPlatform paymentId refundAmount
      let now ← ask none .dateNow
      ask none (.bookingUpdate bookingId none
        { status := some .REFUND_INITIATED, razorpayRefundId := some refundId,
          refundAmount := some refundAmount, refundedSeatsCount := some r, refundedAt := some now })
      P.releaseSeatsSafely bookingId none
      return (refundId, refundAmount)) s := by
  have hupdate : ∀ (refundId : String) (s : StatusSnap), (bookingId = id → Fits id r s.world.data) →
      Meets (StatusOp.body P) (fittingRefunds id) i op (do
        let now ← ask none .dateNow
        ask none (.bookingUpdate bookingId none
          { status := some .REFUND_INITIATED, razorpayRefundId := some refundId,
            refundAmount := some refundAmount, refundedSeatsCount := some r, refundedAt := some now })
        P.releaseSeatsSafely bookingId none
        return (refundId, refundAmount)) s := by
    intro refundId s hs
    refine meets_spares rfl hs fun now s hs => ?_
    refine meets_query (F := fun d _ => bookingId = id → Fits id r d) hs (fun s o hs _ => ?_)
      fun s o _ _ _ _ _ => ?_
    · intro hid booking hfind r' hr'
      obtain rfl := Option.some.inj hr'
      exact hs hid booking hfind
    · refine fine_of_all (((hP bookingId none).and (hcounters bookingId none)).bind fun _ => trivial)
        fun c hc s _ => ?_
      obtain ⟨hquiet, hspares⟩ := hc
      cases c with
      | stmt t q =>
          obtain rfl : t = none := hquiet.1.elim (fun h => h) fun h => h
          exact ⟨nofun, fun o _ => fittingRefunds_spares hspares⟩
      | _ => cases hquiet
  unfold initiateRefund
  split
  · rw [map_eq, bind_assoc]
    exact meets_spares rfl hs fun _ s hs => hupdate _ s hs
  · exact meets_spares rfl hs fun refundId s hs => hupdate refundId s hs

theorem meets_refundPayment (hP : P.Releases) (hcounters : P.SparesCounters)
    (hs : Evenly id (.refundPayment bookingId seatsToRefund) s) :
    Meets (StatusOp.body P) (fittingRefunds id) i op (refundPayment P bookingId seatsToRefund) s := by
  unfold refundPayment
  refine meets_query (F := fun d _ => bookingId = id → RoundsEvenly bookingId seatsToRefund d) hs
    (fun s o _ _ => fittingRefunds_spares rfl) fun s o found _ hs hexec hdata => ?_
  have hfound := Except.ok.inj (Prod.mk.inj hexec).1
  cases found with
  | none => exact fine_err
  | some x =>
      obtain ⟨booking, bookingSeats⟩ := x
      obtain ⟨b, hfind, hpair⟩ := Option.map_eq_some_iff.mp hfound
      obtain ⟨rfl, rfl⟩ := Prod.mk.inj hpair
      dsimp only
      split
      · exact fine_err
      · refine meets_throwIf fun _ => meets_throwIf fun hcount => meets_throwIf fun _ => ?_
        refine meets_refund hP hcounters fun hid booking hfind' => ?_
        subst hid
        have hseats : (shuffle o.order
            (s.world.data.bookingSeats.filter (·.bookingId == bookingId))).length =
              s.world.data.seatsOf bookingId := by
          rw [(shuffle_perm _ _).length_eq, PayData.seatsOf, List.countP_eq_length_filter]
        rw [hdata] at hfind' ⊢
        obtain rfl := Option.some.inj (hfind.symm.trans hfind')
        obtain ⟨hnonneg, hround⟩ := hs rfl _ hfind
        rw [hseats, decide_eq_false_iff_not, Int.not_lt] at hcount
        rw [hseats]
        exact ⟨hnonneg, hcount, hround⟩

/-- Refunds that nothing interrupts fit, where they are asked for and rounded so. -/
theorem fittingRefunds_visits (P : SeatPlatform) (hP : P.Releases) (hcounters : P.SparesCounters)
    (id : String) (d : PayData) {xs : List (Visit PayOracle (DbEnv PayMove) StatusOp)}
    (hready : StartsIn (statusWriters P) (Evenly id) (Config.idle (.idle d)) xs)
    (h : refundCalls.admitsRun (statusWriters P) (Config.idle (.idle d)) (visits 0 xs)) :
    (fittingRefunds id).admitsRun (statusWriters P) (Config.idle (.idle d)) (visits 0 xs) := by
  have hinv : (solo (fittingRefunds id)).inv (⟨.idle d, []⟩ : StatusSnap) :=
    ⟨⟨List.nodup_nil, nofun, nofun⟩, openers_idle _⟩
  refine admitsRun_visits hinv h hready (fun h => h) (fun _ h => h) fun i op s hop _ hs => ?_
  cases op with
  | refundPayment bookingId seatsToRefund =>
      exact wp_map _ (meets_refundPayment hP hcounters hs)
  | _ => cases hop

end Visits

end Omnipax.Payments
