import Omnipax.CapturedPayments
import Mathlib.Tactic.Ring

/-!
# Prices at the checkouts

`PricingService` charges a convenience fee for each seat. The two checkouts add
one for the whole booking, so they show what is charged where one seat is bought.
-/

namespace Omnipax.Payments

/-! ## What is charged -/

/-- What `PricingService.calculateTotal` returns; the other keys are aliases. -/
structure Pricing where
  baseTotal : Rat
  convenienceFee : Money
  serviceFee : Money
  total : Money
deriving DecidableEq

def pricing (P : PayPlatform) (basePrice : Rat) (quantity : Nat) : Pricing where
  baseTotal := basePrice * quantity
  convenienceFee := toFixed2 (P.FIXED_FEE * quantity)
  serviceFee := toFixed2 (basePrice * quantity * (P.SERVICE_PERCENTAGE / 100))
  total := calculateTotal P basePrice quantity

/-- The fees as `PricingService` has them where the configuration sets none, which are the
numbers the checkout page has written out. -/
def defaultFees (P : PayPlatform) : PayPlatform :=
  { P with FIXED_FEE := 1999 / 100, SERVICE_PERCENTAGE := 2 }

/-! ## What is shown -/

namespace Checkout

def FIXED_FEE : Rat := 1999 / 100

def PERCENTAGE_RATE : Rat := 2 / 100

structure Seat where
  id : String
  row : String
  number : Int
  category : String
  price : Rat
deriving DecidableEq

/-- `CheckoutSummary` -/
def baseTotal (selectedSeats : List Seat) : Money :=
  let ticketSubtotal := selectedSeats.foldl (fun sum s => sum + s.price) 0
  let percentageFee := toFixed2 (ticketSubtotal * PERCENTAGE_RATE)
  let totalConvenienceFee := toFixed2 (FIXED_FEE + percentageFee.toDecimal)
  toFixed2 (ticketSubtotal + totalConvenienceFee.toDecimal)

/-- `CheckoutScreen`, for a list of that many seats. -/
def total (pricePerSeat : Rat) (seatCount : Nat) : Rat :=
  let subtotal := pricePerSeat * seatCount
  let percentFee := subtotal * PERCENTAGE_RATE
  let convenienceFee := FIXED_FEE + percentFee
  subtotal + convenienceFee

end Checkout

/-! ## Fees in hundredths -/

theorem toFixed2_hundredths (n : Int) (x : Rat) :
    toFixed2 (n / 100 + x) = ⟨n + (toFixed2 x).hundredths⟩ := by
  have hsplit : ((n : Rat) / 100 + x) * 100 + 1 / 2 = n + (x * 100 + 1 / 2) := by ring
  rw [toFixed2, toFixed2, hsplit, Int.floor_intCast_add]

theorem toFixed2_toDecimal (m : Money) : toFixed2 m.toDecimal = m := by
  have hzero : (toFixed2 0).hundredths = 0 := by norm_num [toFixed2]
  have h := toFixed2_hundredths m.hundredths 0
  rwa [add_zero, hzero, add_zero] at h

theorem toDecimal_add (m n : Money) :
    m.toDecimal + n.toDecimal = (⟨m.hundredths + n.hundredths⟩ : Money).toDecimal := by
  simp only [Money.toDecimal, Int.cast_add]
  ring

section Prices

variable (price : Nat) (n : Nat)

/-- Two percent of the seats at this price, in hundredths. -/
def serviceHundredths : Int := (toFixed2 ((price : Rat) / 100 * n * (2 / 100))).hundredths

theorem calculateTotal_hundredths (P : PayPlatform) :
    (calculateTotal (defaultFees P) (price / 100) n).hundredths
      = price * n + 1999 * n + serviceHundredths price n := by
  have hsum : (price : Rat) / 100 * n + 1999 / 100 * n + (price : Rat) / 100 * n * (2 / 100)
      = ((price * n + 1999 * n : Int) : Rat) / 100 + (price : Rat) / 100 * n * (2 / 100) := by
    push_cast
    ring
  show (toFixed2 ((price : Rat) / 100 * n + 1999 / 100 * n + (price : Rat) / 100 * n * (2 / 100))
    ).hundredths = _
  rw [hsum, toFixed2_hundredths]
  rfl

theorem total_hundredths :
    (toFixed2 (Checkout.total (price / 100) n)).hundredths
      = price * n + 1999 + serviceHundredths price n := by
  have hsum : Checkout.total (price / 100) n
      = ((price * n + 1999 : Int) : Rat) / 100 + (price : Rat) / 100 * n * (2 / 100) := by
    simp only [Checkout.total, Checkout.FIXED_FEE, Checkout.PERCENTAGE_RATE]
    push_cast
    ring
  rw [hsum, toFixed2_hundredths]
  rfl

theorem foldl_price {p : Rat} {seats : List Checkout.Seat} (h : ∀ s ∈ seats, s.price = p)
    (sum : Rat) : seats.foldl (fun sum s => sum + s.price) sum = sum + p * seats.length := by
  induction seats generalizing sum with
  | nil => simp
  | cons s seats ih =>
      rw [List.foldl_cons, ih fun s hs => h s (List.mem_cons_of_mem _ hs), h s (List.mem_cons_self ..),
        List.length_cons]
      push_cast
      ring

/-- The web rounds the percentage before it adds, to the same effect. -/
theorem baseTotal_hundredths {seats : List Checkout.Seat}
    (h : ∀ s ∈ seats, s.price = (price : Rat) / 100) :
    (Checkout.baseTotal seats).hundredths
      = price * seats.length + 1999 + serviceHundredths price seats.length := by
  have hsub : (price : Rat) / 100 * seats.length
      = (⟨price * seats.length⟩ : Money).toDecimal := by
    simp only [Money.toDecimal]
    push_cast
    ring
  have hfee : Checkout.FIXED_FEE = (⟨1999⟩ : Money).toDecimal := by
    simp [Checkout.FIXED_FEE, Money.toDecimal]
  have hservice : (toFixed2 ((price : Rat) / 100 * seats.length * Checkout.PERCENTAGE_RATE)).hundredths
      = serviceHundredths price seats.length := rfl
  simp only [Checkout.baseTotal]
  rw [foldl_price h, zero_add, hfee, toDecimal_add, toFixed2_toDecimal, hservice, hsub,
    toDecimal_add, toFixed2_toDecimal, add_assoc]

end Prices

/-- **Checkouts**: what they show is what is charged for one seat, and for no
other number of seats. -/
theorem checkouts_agree (P : PayPlatform) (price : Nat) (seats : List Checkout.Seat)
    (hprice : ∀ s ∈ seats, s.price = (price : Rat) / 100) :
    (pricing (defaultFees P) (price / 100) seats.length).total = Checkout.baseTotal seats ∧
        (pricing (defaultFees P) (price / 100) seats.length).total
          = toFixed2 (Checkout.total (price / 100) seats.length) ↔
      seats.length = 1 := by
  have heq (m n : Money) : m = n ↔ m.hundredths = n.hundredths := by
    cases m
    cases n
    simp
  rw [heq, heq, baseTotal_hundredths price hprice, total_hundredths]
  show (calculateTotal (defaultFees P) _ _).hundredths = _ ∧
    (calculateTotal (defaultFees P) _ _).hundredths = _ ↔ _
  rw [calculateTotal_hundredths]
  omega

namespace Sample

def seatA (number : Int) : Checkout.Seat := ⟨"s1", "A", number, "REGULAR", (10000 : Nat) / 100⟩

end Sample

theorem checkouts_agree_one :
    (pricing (defaultFees Sample.platform) ((10000 : Nat) / 100) 1).total
          = Checkout.baseTotal [Sample.seatA 1] ∧
        (pricing (defaultFees Sample.platform) ((10000 : Nat) / 100) 1).total
          = toFixed2 (Checkout.total ((10000 : Nat) / 100) 1) ↔
      1 = 1 :=
  checkouts_agree Sample.platform 10000 [Sample.seatA 1] (by simp [Sample.seatA])

/-- Two seats cost more than either checkout shows. -/
theorem not_checkouts_agree :
    ¬ ∀ (P : PayPlatform) (price : Nat) (seats : List Checkout.Seat), 1 ≤ seats.length →
      (∀ s ∈ seats, s.price = (price : Rat) / 100) →
      (pricing (defaultFees P) (price / 100) seats.length).total = Checkout.baseTotal seats ∧
        (pricing (defaultFees P) (price / 100) seats.length).total
          = toFixed2 (Checkout.total (price / 100) seats.length) := by
  intro h
  have htwo := (h Sample.platform 10000 [Sample.seatA 1, Sample.seatA 2] (by decide) (by
    simp [Sample.seatA])).1
  revert htwo
  decide +kernel

end Omnipax.Payments
