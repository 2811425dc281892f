import Omnipax.PaymentServices

/-!
# Discounts

`DiscountService.applyDiscounts`: a coupon and a gift card on a booking that is
LOCKED and has no payment order. A call is one step here, on the tables it
reads and writes.

Amounts of a booking are `DECIMAL(10,2)` columns; the values of coupons and
gift cards are numbers with any decimals. The arithmetic of `Prisma.Decimal`
is exact, and a column the database does not have (`orderCreatedAt`) is never
set.
-/

namespace Omnipax.Discounts

open Payments (Money truthy?)

/-! ## Amounts -/

instance : Add Money := ⟨fun a b => ⟨a.hundredths + b.hundredths⟩⟩

instance : Sub Money := ⟨fun a b => ⟨a.hundredths - b.hundredths⟩⟩

instance : Zero Money := ⟨⟨0⟩⟩

/-- `toDecimalPlaces(2)`: a half is rounded away from zero. -/
def toDecimalPlaces2 (x : Rat) : Money :=
  if 0 ≤ x then ⟨⌊x * 100 + 1 / 2⌋⟩ else ⟨-⌊-x * 100 + 1 / 2⌋⟩

/-! ## Rows -/

inductive DiscountType where
  | PERCENTAGE
  | FLAT
deriving Repr, DecidableEq

structure Coupon where
  id : String
  code : String
  discountType : DiscountType
  discountValue : Rat
  minOrderAmount : Rat
  maxDiscount : Option Rat
  usageLimit : Option Int
  usageCount : Int
  isActive : Bool
  expiresAt : Option Time
deriving DecidableEq

structure GiftCard where
  id : String
  code : String
  balance : Rat
  isActive : Bool
  expiresAt : Option Time
deriving DecidableEq

/-- The columns of a booking that a discount is about. -/
structure Booking where
  id : String
  status : Payments.BookingStatus
  totalAmount : Money
  razorpayOrderId : Option String
  couponId : Option String
  giftCardId : Option String
  couponDiscountAmount : Money
  giftCardDiscountAmount : Money
  discountAmount : Money
  finalAmount : Money
deriving Repr, DecidableEq

/-- The tables of bookings, coupons and gift cards, with the time. Ids are primary keys, so
a row that is found by its id is the only one. -/
structure DiscountData where
  clock : Time
  bookings : List Booking
  coupons : List Coupon
  giftCards : List GiftCard
  bookingIds : (bookings.map (·.id)).Nodup
  couponIds : (coupons.map (·.id)).Nodup
  giftCardIds : (giftCards.map (·.id)).Nodup
deriving DecidableEq

/-- `belowMinimum` is a bad request too: `Order total ₹… is below the minimum ₹…
required for this coupon`. -/
inductive DiscountExn where
  | notFound (message : String)
  | badRequest (message : String)
  | belowMinimum (totalAmount : Money) (minOrderAmount : Rat)
deriving DecidableEq

structure DiscountBreakdown where
  totalAmount : Money
  couponDiscountAmount : Money
  giftCardDiscountAmount : Money
  discountAmount : Money
  finalAmount : Money
  couponCode : Option String
  giftCardCode : Option String
deriving Repr, DecidableEq

/-! ## The service -/

def checkCoupon (now : Time) (totalAmount : Money) (couponCode : String) :
    Option Coupon → Except DiscountExn Coupon
  | none => throw (.badRequest ("Coupon \"" ++ couponCode ++ "\" not found"))
  | some coupon => do
      if !coupon.isActive then
        throw (.badRequest ("Coupon \"" ++ couponCode ++ "\" is not active"))
      if coupon.expiresAt.any (· < now) then
        throw (.badRequest ("Coupon \"" ++ couponCode ++ "\" has expired"))
      if coupon.usageLimit.any (coupon.usageCount ≥ ·) then
        throw (.badRequest ("Coupon \"" ++ couponCode ++ "\" has reached its usage limit"))
      if totalAmount.toDecimal < coupon.minOrderAmount then
        throw (.belowMinimum totalAmount coupon.minOrderAmount)
      return coupon

def couponDiscount (totalAmount : Money) (coupon : Coupon) : Money :=
  toDecimalPlaces2 <|
    match coupon.discountType with
    | .PERCENTAGE =>
        let raw := totalAmount.toDecimal * coupon.discountValue / 100
        match coupon.maxDiscount with
        | some maxDiscount => min raw maxDiscount
        | none => raw
    | .FLAT => min coupon.discountValue totalAmount.toDecimal

/-- The checks of a gift card. -/
def checkGiftCard (now : Time) (giftCardCode : String) :
    Option GiftCard → Except DiscountExn GiftCard
  | none => throw (.badRequest ("Gift card \"" ++ giftCardCode ++ "\" not found"))
  | some giftCard => do
      if !giftCard.isActive then
        throw (.badRequest ("Gift card \"" ++ giftCardCode ++ "\" is not active"))
      if giftCard.expiresAt.any (· < now) then
        throw (.badRequest ("Gift card \"" ++ giftCardCode ++ "\" has expired"))
      if giftCard.balance ≤ 0 then
        throw (.badRequest ("Gift card \"" ++ giftCardCode ++ "\" has no remaining balance"))
      return giftCard

/-- What a gift card takes off what is left to pay. -/
def giftCardDiscount (runningTotal : Money) (giftCard : GiftCard) : Money :=
  toDecimalPlaces2 (min giftCard.balance runningTotal.toDecimal)

def checkBooking (booking : Booking) (couponCode giftCardCode : Option String) :
    Except DiscountExn Unit := do
  if booking.status ≠ .LOCKED then
    throw (.badRequest ("Discounts can only be applied to a LOCKED booking (current: "
      ++ booking.status.text ++ ")"))
  if (truthy? booking.razorpayOrderId).isSome then
    throw (.badRequest "Cannot modify discounts after a payment order has been created")
  if (truthy? couponCode).isSome && (truthy? booking.couponId).isSome then
    throw (.badRequest "A coupon has already been applied to this booking")
  if (truthy? giftCardCode).isSome && (truthy? booking.giftCardId).isSome then
    throw (.badRequest "A gift card has already been applied to this booking")

/-- The columns that are stored, for the coupon and the gift card of a call. -/
def discounted (coupon : Option Coupon) (giftCard : Option GiftCard) (booking : Booking) : Booking :=
  let couponDiscountAmount := (coupon.map (couponDiscount booking.totalAmount)).getD 0
  let afterCoupon := booking.totalAmount - couponDiscountAmount
  let giftCardDiscountAmount := (giftCard.map (giftCardDiscount afterCoupon)).getD 0
  let runningTotal := afterCoupon - giftCardDiscountAmount
  { booking with
    couponDiscountAmount
    giftCardDiscountAmount
    discountAmount := couponDiscountAmount + giftCardDiscountAmount
    finalAmount := ⟨max 0 runningTotal.hundredths⟩
    couponId := truthy? (coupon.map (·.id)) <|> booking.couponId
    giftCardId := truthy? (giftCard.map (·.id)) <|> booking.giftCardId }

theorem discounted_id (coupon : Option Coupon) (giftCard : Option GiftCard) (booking : Booking) :
    (discounted coupon giftCard booking).id = booking.id := rfl

/-- The update of the booking, by id. -/
def DiscountData.store (d : DiscountData) (row : Booking) : DiscountData :=
  { d with
    bookings := d.bookings.map fun b => if b.id = row.id then row else b
    bookingIds := by
      have hid : (fun b : Booking => b.id) ∘ (fun b => if b.id = row.id then row else b)
          = (·.id) := by
        funext b
        simp only [Function.comp_apply]
        split
        · rename_i h
          exact h.symm
        · rfl
      rw [List.map_map, hid]
      exact d.bookingIds }

/-- `DiscountService.applyDiscounts` -/
def applyDiscounts (d : DiscountData) (bookingId : String) (couponCode giftCardCode : Option String) :
    Except DiscountExn (DiscountBreakdown × DiscountData) := do
  match d.bookings.find? (·.id == bookingId) with
  | none => throw (.notFound "Booking not found")
  | some booking => do
      checkBooking booking couponCode giftCardCode
      let coupon ← (truthy? couponCode).mapM fun code =>
        checkCoupon d.clock booking.totalAmount code (d.coupons.find? (·.code == code))
      let giftCard ← (truthy? giftCardCode).mapM fun code =>
        checkGiftCard d.clock code (d.giftCards.find? (·.code == code))
      let row := discounted coupon giftCard booking
      return ({ totalAmount := booking.totalAmount
                couponDiscountAmount := row.couponDiscountAmount
                giftCardDiscountAmount := row.giftCardDiscountAmount
                discountAmount := row.discountAmount
                finalAmount := row.finalAmount
                couponCode := truthy? couponCode
                giftCardCode := truthy? giftCardCode }, d.store row)

/-! ## Runs -/

inductive DiscountStep where
  | applyDiscounts (bookingId : String) (couponCode giftCardCode : Option String)
  | tick (t : Time)
deriving Repr, DecidableEq

/-- A call that throws changes nothing. -/
def DiscountStep.next (d : DiscountData) : DiscountStep → DiscountData
  | .applyDiscounts bookingId couponCode giftCardCode =>
      match Discounts.applyDiscounts d bookingId couponCode giftCardCode with
      | .ok (_, d') => d'
      | .error _ => d
  | .tick t => { d with clock := max d.clock t }

def run (d : DiscountData) (steps : List DiscountStep) : DiscountData :=
  steps.foldl DiscountStep.next d

end Omnipax.Discounts
