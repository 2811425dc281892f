import Omnipax.DiscountLimits

/-!
# What a discount call stores

`applyDiscounts` rounds a coupon's discount after it is computed, takes it off
the total, and then gives the smaller one of the gift card's balance and of
what is left. Only a FLAT coupon is limited by the total, only the final amount
is kept from going below zero, and a balance is rounded too. The amounts that
are stored add up exactly when neither the coupon goes over the total nor the
balance is rounded up.

Each call computes from the total and writes all four amounts: a coupon and a
gift card in two calls are the two in one call only if the coupon takes off
nothing.
-/

namespace Omnipax.Discounts

open Payments (Money truthy?)

/-! ## Rounding, compared with two decimals -/

section Rounding

variable {x : Rat} {n : Int}

theorem toDecimalPlaces2_le_iff (h : 0 ≤ x) :
    (toDecimalPlaces2 x).hundredths ≤ n ↔ x * 100 < n + 1 / 2 := by
  rw [toDecimalPlaces2, if_pos h]
  show ⌊x * 100 + 1 / 2⌋ ≤ n ↔ _
  rw [← Int.lt_add_one_iff, Int.floor_lt]
  push_cast
  constructor <;> intro hlt <;> linarith

theorem le_toDecimalPlaces2_iff (h : 0 ≤ x) :
    n ≤ (toDecimalPlaces2 x).hundredths ↔ (n : Rat) ≤ x * 100 + 1 / 2 := by
  rw [toDecimalPlaces2, if_pos h]
  exact Int.le_floor

theorem toDecimalPlaces2_neg (x : Rat) :
    (toDecimalPlaces2 (-x)).hundredths = -(toDecimalPlaces2 x).hundredths := by
  unfold toDecimalPlaces2
  rcases lt_trichotomy x 0 with h | rfl | h
  · rw [if_pos (by linarith), if_neg (by linarith)]
    exact (Int.neg_neg _).symm
  · decide +kernel
  · rw [if_neg (by linarith), if_pos h.le, neg_neg]

theorem toDecimalPlaces2_eq_zero_iff : (toDecimalPlaces2 x).hundredths = 0 ↔ |x| < 1 / 200 := by
  have hnonneg : ∀ {y : Rat}, 0 ≤ y → ((toDecimalPlaces2 y).hundredths = 0 ↔ y < 1 / 200) := by
    intro y hy
    have hle := toDecimalPlaces2_le_iff (n := 0) hy
    have hge := toDecimalPlaces2_nonneg hy
    constructor
    · intro hzero
      have hlt := hle.mp hzero.le
      push_cast at hlt
      linarith
    · intro hlt
      have := hle.mpr (by push_cast; linarith)
      omega
  rcases le_total 0 x with h | h
  · rw [abs_of_nonneg h, hnonneg h]
  · rw [abs_of_nonpos h, ← hnonneg (neg_nonneg.mpr h), toDecimalPlaces2_neg]
    omega

end Rounding

/-! ## A coupon and a total -/

/-- What a coupon is worth on a total: a percentage of it, up to `maxDiscount`,
or a fixed amount. -/
def Coupon.worth (totalAmount : Money) (coupon : Coupon) : Rat :=
  match coupon.discountType with
  | .FLAT => coupon.discountValue
  | .PERCENTAGE =>
      let share := totalAmount.toDecimal * coupon.discountValue / 100
      (coupon.maxDiscount.map (min share)).getD share

section Coupons

variable {totalAmount : Money} {coupon : Coupon}

theorem Coupon.worth_nonneg (htotal : 0 ≤ totalAmount.hundredths) (hcoupon : coupon.Nonneg) :
    0 ≤ coupon.worth totalAmount := by
  have hdecimal : 0 ≤ totalAmount.toDecimal := by
    unfold Money.toDecimal
    positivity
  obtain ⟨hvalue, hmax⟩ := hcoupon
  unfold Coupon.worth
  cases coupon.discountType with
  | FLAT => exact hvalue
  | PERCENTAGE =>
      have hshare : 0 ≤ totalAmount.toDecimal * coupon.discountValue / 100 := by positivity
      cases hm : coupon.maxDiscount with
      | none => exact hshare
      | some m => exact le_min hshare (hmax m hm)

theorem couponDiscount_percentage (h : coupon.discountType = .PERCENTAGE) :
    couponDiscount totalAmount coupon = toDecimalPlaces2 (coupon.worth totalAmount) := by
  unfold couponDiscount Coupon.worth
  rw [h]
  cases coupon.maxDiscount <;> rfl

theorem couponDiscount_flat (h : coupon.discountType = .FLAT) :
    couponDiscount totalAmount coupon
      = toDecimalPlaces2 (min (coupon.worth totalAmount) totalAmount.toDecimal) := by
  unfold couponDiscount Coupon.worth
  rw [h]

theorem couponDiscount_le_iff (htotal : 0 ≤ totalAmount.hundredths) (hcoupon : coupon.Nonneg) :
    (couponDiscount totalAmount coupon).hundredths ≤ totalAmount.hundredths ↔
      (coupon.discountType = .PERCENTAGE →
        coupon.worth totalAmount < totalAmount.toDecimal + 1 / 200) := by
  have hworth := Coupon.worth_nonneg htotal hcoupon
  have hmul := totalAmount.toDecimal_mul
  cases htype : coupon.discountType with
  | PERCENTAGE =>
      rw [couponDiscount_percentage htype, toDecimalPlaces2_le_iff hworth]
      constructor
      · intro hlt _
        linarith
      · intro hlt
        have := hlt rfl
        linarith
  | FLAT =>
      have hmin : 0 ≤ min (coupon.worth totalAmount) totalAmount.toDecimal :=
        le_min hworth (by unfold Money.toDecimal; positivity)
      have hle := min_le_right (coupon.worth totalAmount) totalAmount.toDecimal
      rw [couponDiscount_flat htype, toDecimalPlaces2_le_iff hmin]
      constructor
      · intro _ hno
        cases hno
      · intro _
        linarith

/-- The discount leaves at most `k` to pay. -/
theorem couponDiscount_leaves_iff (htotal : 0 ≤ totalAmount.hundredths) (hcoupon : coupon.Nonneg)
    {k : Int} (hk : 0 ≤ k) :
    totalAmount.hundredths - (couponDiscount totalAmount coupon).hundredths ≤ k ↔
      totalAmount.toDecimal - k / 100 ≤ coupon.worth totalAmount + 1 / 200 := by
  have hworth := Coupon.worth_nonneg htotal hcoupon
  have hmul := totalAmount.toDecimal_mul
  have hk' : (0 : Rat) ≤ k := by exact_mod_cast hk
  rw [sub_le_comm]
  cases htype : coupon.discountType with
  | PERCENTAGE =>
      rw [couponDiscount_percentage htype, le_toDecimalPlaces2_iff hworth]
      push_cast
      constructor <;> intro hle <;> linarith
  | FLAT =>
      have hmin : 0 ≤ min (coupon.worth totalAmount) totalAmount.toDecimal :=
        le_min hworth (by unfold Money.toDecimal; positivity)
      rw [couponDiscount_flat htype, le_toDecimalPlaces2_iff hmin]
      push_cast
      constructor
      · intro hle
        have := min_le_left (coupon.worth totalAmount) totalAmount.toDecimal
        linarith
      · intro hle
        rcases min_choice (coupon.worth totalAmount) totalAmount.toDecimal with h | h <;> rw [h] <;>
          linarith

end Coupons

/-! ## A gift card and what is left to pay -/

section GiftCards

variable {left : Money} {giftCard : GiftCard}

theorem giftCardDiscount_nonneg (hleft : 0 ≤ left.hundredths) (hbalance : 0 < giftCard.balance) :
    0 ≤ (giftCardDiscount left giftCard).hundredths :=
  toDecimalPlaces2_nonneg (le_min hbalance.le (by unfold Money.toDecimal; positivity))

theorem giftCardDiscount_le_left (hleft : 0 ≤ left.hundredths) (hbalance : 0 < giftCard.balance) :
    (giftCardDiscount left giftCard).hundredths ≤ left.hundredths := by
  have hmin : 0 ≤ min giftCard.balance left.toDecimal :=
    le_min hbalance.le (by unfold Money.toDecimal; positivity)
  have hle := min_le_right giftCard.balance left.toDecimal
  have hmul := left.toDecimal_mul
  exact (toDecimalPlaces2_le_iff hmin).mpr (by linarith)

/-- Never more than the balance, unless the balance is rounded up. -/
theorem giftCardDiscount_le_balance_iff (hleft : 0 ≤ left.hundredths)
    (hbalance : 0 < giftCard.balance) :
    (giftCardDiscount left giftCard).toDecimal ≤ giftCard.balance ↔
      Int.fract (giftCard.balance * 100) < 1 / 2 ∨ left.hundredths ≤ ⌊giftCard.balance * 100⌋ := by
  have hmin : 0 ≤ min giftCard.balance left.toDecimal :=
    le_min hbalance.le (by unfold Money.toDecimal; positivity)
  have hfract := Int.floor_add_fract (giftCard.balance * 100)
  have hmul := left.toDecimal_mul
  have hgives := (giftCardDiscount left giftCard).toDecimal_mul
  calc (giftCardDiscount left giftCard).toDecimal ≤ giftCard.balance
      ↔ (giftCardDiscount left giftCard).hundredths ≤ ⌊giftCard.balance * 100⌋ := by
        rw [Int.le_floor]
        constructor <;> intro hle <;> linarith
    _ ↔ giftCard.balance * 100 < ⌊giftCard.balance * 100⌋ + 1 / 2 ∨
          left.toDecimal * 100 < ⌊giftCard.balance * 100⌋ + 1 / 2 := by
        rw [giftCardDiscount, toDecimalPlaces2_le_iff hmin,
          min_mul_of_nonneg _ _ (by norm_num : (0 : Rat) ≤ 100), min_lt_iff]
    _ ↔ _ := by
        refine or_congr ?_ ?_
        · constructor <;> intro hlt <;> linarith
        · rw [hmul, ← Int.lt_add_one_iff]
          constructor <;> intro hlt
          · have : (left.hundredths : Rat) < (⌊giftCard.balance * 100⌋ + 1 : Int) := by
              push_cast
              linarith
            exact_mod_cast this
          · have : (left.hundredths : Rat) ≤ ⌊giftCard.balance * 100⌋ := by
              exact_mod_cast Int.lt_add_one_iff.mp hlt
            linarith

end GiftCards

/-! ## Conservation -/

theorem eq_of_hundredths {a b : Money} (h : a.hundredths = b.hundredths) : a = b := by
  cases a
  exact congrArg Money.mk h

/-- The amounts of a row add up, and none is below zero or more than the card has. -/
structure Conserved (giftCard : Option GiftCard) (row : Booking) : Prop where
  coupon : 0 ≤ row.couponDiscountAmount.hundredths
  giftCard_nonneg : 0 ≤ row.giftCardDiscountAmount.hundredths
  giftCard_le : ∀ c ∈ giftCard, row.giftCardDiscountAmount.toDecimal ≤ c.balance
  final : 0 ≤ row.finalAmount.hundredths
  discount : row.discountAmount = row.couponDiscountAmount + row.giftCardDiscountAmount
  total : row.finalAmount + row.discountAmount = row.totalAmount

/-- A percentage, up to its maximum, is less than half a hundredth over the
total. The balance of the card is not rounded up at the second decimal, or,
cut to two decimals, covers with the coupon the total. -/
structure AmountsFit (totalAmount : Money) (coupon : Option Coupon) (giftCard : Option GiftCard) :
    Prop where
  couponFits : ∀ c ∈ coupon, c.discountType = .PERCENTAGE →
    c.worth totalAmount < totalAmount.toDecimal + 1 / 200
  giftCardFits : ∀ c ∈ giftCard, Int.fract (c.balance * 100) < 1 / 2 ∨
    totalAmount.toDecimal - ⌊c.balance * 100⌋ / 100
      ≤ (coupon.map (Coupon.worth totalAmount)).getD 0 + 1 / 200

section Rows

variable {d : DiscountData} {booking row : Booking}

theorem mem_store {coupon : Option Coupon} {giftCard : Option GiftCard} (h : booking ∈ d.bookings) :
    discounted coupon giftCard booking ∈ (d.store (discounted coupon giftCard booking)).bookings :=
  List.mem_map.mpr ⟨booking, h, if_pos rfl⟩

theorem find?_store {bookingId : String} (hfind : d.bookings.find? (·.id == bookingId) = some booking)
    (hid : row.id = booking.id) :
    (d.store row).bookings.find? (·.id == bookingId) = some row := by
  have hsame : (fun b : Booking => b.id == bookingId) ∘ (fun b => if b.id = row.id then row else b)
      = (·.id == bookingId) := by
    funext b
    simp only [Function.comp_apply]
    split
    · rename_i h
      rw [h]
    · rfl
  show (d.bookings.map _).find? _ = _
  rw [List.find?_map, hsame, hfind]
  exact congrArg some (if_pos hid.symm)

theorem eq_of_mem_store {new : Booking} (hid : new.id = row.id)
    (h : row ∈ (d.store new).bookings) : row = new := by
  obtain ⟨b, -, rfl⟩ := List.mem_map.mp h
  by_cases hb : b.id = new.id
  · exact if_pos hb
  · rw [if_neg hb] at hid
    exact absurd hid.symm hb

end Rows

section Conservation

variable {booking : Booking} {coupon : Option Coupon} {giftCard : Option GiftCard}

theorem leftToPay_nonneg_iff (htotal : 0 ≤ booking.totalAmount.hundredths)
    (hcoupon : ∀ c ∈ coupon, c.Nonneg) :
    0 ≤ (leftToPay coupon booking).hundredths ↔ ∀ c ∈ coupon, c.discountType = .PERCENTAGE →
      c.worth booking.totalAmount < booking.totalAmount.toDecimal + 1 / 200 := by
  cases coupon with
  | none =>
      show 0 ≤ booking.totalAmount.hundredths - 0 ↔ _
      simp [htotal]
  | some c =>
      show 0 ≤ booking.totalAmount.hundredths - (couponDiscount booking.totalAmount c).hundredths ↔ _
      rw [Int.sub_nonneg, couponDiscount_le_iff htotal (hcoupon c rfl)]
      simp

theorem leftToPay_le_iff (htotal : 0 ≤ booking.totalAmount.hundredths)
    (hcoupon : ∀ c ∈ coupon, c.Nonneg) {k : Int} (hk : 0 ≤ k) :
    (leftToPay coupon booking).hundredths ≤ k ↔ booking.totalAmount.toDecimal - k / 100
      ≤ (coupon.map (Coupon.worth booking.totalAmount)).getD 0 + 1 / 200 := by
  cases coupon with
  | some c => exact couponDiscount_leaves_iff htotal (hcoupon c rfl) hk
  | none =>
      have hmul := booking.totalAmount.toDecimal_mul
      show booking.totalAmount.hundredths - 0 ≤ k ↔ _ ≤ (0 : Rat) + 1 / 200
      constructor
      · intro hle
        have : (booking.totalAmount.hundredths : Rat) ≤ k := by exact_mod_cast (by omega)
        linarith
      · intro hle
        have : (booking.totalAmount.hundredths : Rat) < (k + 1 : Int) := by
          push_cast
          linarith
        have := Int.cast_lt.mp this
        omega

theorem conserved_discounted_iff (htotal : 0 ≤ booking.totalAmount.hundredths)
    (hcoupon : ∀ c ∈ coupon, c.Nonneg) (hbalance : ∀ c ∈ giftCard, 0 < c.balance) :
    Conserved giftCard (discounted coupon giftCard booking) ↔
      AmountsFit booking.totalAmount coupon giftCard := by
  have hleft := leftToPay_nonneg_iff htotal hcoupon
  have htotals : (leftToPay coupon booking).hundredths = booking.totalAmount.hundredths
      - (discounted coupon giftCard booking).couponDiscountAmount.hundredths := rfl
  have hdiscount : 0 ≤ (discounted coupon giftCard booking).couponDiscountAmount.hundredths := by
    have := leftToPay_le htotal hcoupon
    omega
  have hfinal : (discounted coupon giftCard booking).finalAmount.hundredths
      = max 0 ((leftToPay coupon booking).hundredths
        - (discounted coupon giftCard booking).giftCardDiscountAmount.hundredths) := rfl
  have hsum : (discounted coupon giftCard booking).discountAmount
      = (discounted coupon giftCard booking).couponDiscountAmount
        + (discounted coupon giftCard booking).giftCardDiscountAmount := rfl
  have hadds : ((discounted coupon giftCard booking).finalAmount
        + (discounted coupon giftCard booking).discountAmount).hundredths
      = (discounted coupon giftCard booking).finalAmount.hundredths
        + ((discounted coupon giftCard booking).couponDiscountAmount.hundredths
        + (discounted coupon giftCard booking).giftCardDiscountAmount.hundredths) := rfl
  cases giftCard with
  | none =>
      have hnothing : (discounted coupon none booking).giftCardDiscountAmount.hundredths = 0 := rfl
      constructor
      · intro h
        have htotal' := congrArg Money.hundredths h.total
        change _ = booking.totalAmount.hundredths at htotal'
        exact ⟨hleft.mp (by omega), nofun⟩
      · intro h
        have hpay := hleft.mpr h.couponFits
        refine ⟨hdiscount, hnothing.ge, nofun, by omega, hsum, ?_⟩
        refine eq_of_hundredths ?_
        show _ = booking.totalAmount.hundredths
        omega
  | some c =>
      have hgives : (discounted coupon (some c) booking).giftCardDiscountAmount
          = giftCardDiscount (leftToPay coupon booking) c := rfl
      have hfloor : 0 ≤ ⌊c.balance * 100⌋ :=
        Int.floor_nonneg.mpr (by linarith [hbalance c rfl])
      constructor
      · intro h
        have hpay : 0 ≤ (leftToPay coupon booking).hundredths := by
          -- less than nothing is left: the card gives all of it
          by_contra hneg
          have hbelow : (leftToPay coupon booking).toDecimal ≤ c.balance := by
            have : ((leftToPay coupon booking).hundredths : Rat) ≤ 0 := by exact_mod_cast (by omega)
            have hmul := (leftToPay coupon booking).toDecimal_mul
            linarith [hbalance c rfl]
          have hall := h.giftCard_nonneg
          rw [hgives, giftCardDiscount_of_le hbelow] at hall
          exact hneg hall
        refine ⟨hleft.mp hpay, fun c' hc' => ?_⟩
        obtain rfl := Option.some.inj hc'
        have hle := h.giftCard_le c rfl
        rw [hgives, giftCardDiscount_le_balance_iff hpay (hbalance c rfl),
          leftToPay_le_iff htotal hcoupon hfloor] at hle
        exact hle
      · intro h
        have hpay := hleft.mpr h.couponFits
        have hcard := h.giftCardFits c rfl
        rw [← leftToPay_le_iff htotal hcoupon hfloor,
          ← giftCardDiscount_le_balance_iff hpay (hbalance c rfl)] at hcard
        have hrest := giftCardDiscount_le_left hpay (hbalance c rfl)
        have hnonneg := giftCardDiscount_nonneg hpay (hbalance c rfl)
        rw [← hgives] at hcard hrest hnonneg
        refine ⟨hdiscount, hnonneg, fun c' hc' => ?_, by omega, hsum, ?_⟩
        · obtain rfl := Option.some.inj hc'
          exact hcard
        · refine eq_of_hundredths ?_
          show _ = booking.totalAmount.hundredths
          omega

theorem Passes.adds_up_iff {d : DiscountData} {bookingId : String}
    {couponCode giftCardCode : Option String}
    (h : Passes d bookingId couponCode giftCardCode booking coupon giftCard)
    (htotal : 0 ≤ booking.totalAmount.hundredths) (hcoupon : ∀ c ∈ coupon, c.Nonneg) :
    (∃ row ∈ (d.store (discounted coupon giftCard booking)).bookings,
      row.id = bookingId ∧ Conserved giftCard row) ↔
      AmountsFit booking.totalAmount coupon giftCard := by
  have hfound := h.applied
  rw [← conserved_discounted_iff htotal hcoupon h.giftCard_eq.2]
  constructor
  · rintro ⟨row, hrow, hrowId, hconserved⟩
    have hid : (discounted coupon giftCard booking).id = row.id := hfound.id.trans hrowId.symm
    rwa [eq_of_mem_store hid hrow] at hconserved
  · exact fun hconserved => ⟨_, mem_store hfound.mem, hfound.id, hconserved⟩

end Conservation

/-- **Conservation**: the amounts a call stores add up, without one that is
negative or more than the card has, just when they fit. -/
theorem conserved_iff {d d' : DiscountData} {bookingId : String}
    {couponCode giftCardCode : Option String} {breakdown : DiscountBreakdown} {booking : Booking}
    (hbooking : booking ∈ d.bookings) (hid : booking.id = bookingId)
    (htotal : 0 ≤ booking.totalAmount.hundredths)
    (hcoupon : ∀ coupon ∈ d.coupon? couponCode, coupon.Nonneg)
    (hok : applyDiscounts d bookingId couponCode giftCardCode = .ok (breakdown, d')) :
    (∃ row ∈ d'.bookings, row.id = bookingId ∧ Conserved (d.giftCard? giftCardCode) row) ↔
      AmountsFit booking.totalAmount (d.coupon? couponCode) (d.giftCard? giftCardCode) := by
  obtain ⟨found, coupon, giftCard, hpasses, rfl⟩ := Passes.of_ok hok
  obtain rfl := List.inj_on_of_nodup_map d.bookingIds hpasses.applied.mem hbooking
    (hpasses.applied.id.trans hid.symm)
  rw [hpasses.coupon_eq] at hcoupon ⊢
  rw [hpasses.giftCard_eq.1]
  exact hpasses.adds_up_iff htotal hcoupon

/-! ## In two calls -/

/-- The columns that a discount writes. -/
structure Amounts where
  couponDiscountAmount : Money
  giftCardDiscountAmount : Money
  discountAmount : Money
  finalAmount : Money
  couponId : Option String
  giftCardId : Option String
deriving Repr, DecidableEq

def Booking.amounts (b : Booking) : Amounts where
  couponDiscountAmount := b.couponDiscountAmount
  giftCardDiscountAmount := b.giftCardDiscountAmount
  discountAmount := b.discountAmount
  finalAmount := b.finalAmount
  couponId := b.couponId
  giftCardId := b.giftCardId

def DiscountData.amountsOf (d : DiscountData) (bookingId : String) : Option Amounts :=
  (d.bookings.find? (·.id == bookingId)).map (·.amounts)

/-- The coupon in one call and the gift card in a second, where `applyDiscounts` takes both
at once. -/
def inTwoCalls (d : DiscountData) (bookingId couponCode giftCardCode : String) :
    Except DiscountExn DiscountData := do
  let (_, d₁) ← applyDiscounts d bookingId (some couponCode) none
  let (_, d₂) ← applyDiscounts d₁ bookingId none (some giftCardCode)
  return d₂

/-- A coupon that takes off nothing: a percentage, up to its maximum, or a fixed
amount, up to the total, of less than half a hundredth. -/
def Coupon.Worthless (totalAmount : Money) (coupon : Coupon) : Prop :=
  match coupon.discountType with
  | .PERCENTAGE => |coupon.worth totalAmount| < 1 / 200
  | .FLAT => |min (coupon.worth totalAmount) totalAmount.toDecimal| < 1 / 200

theorem couponDiscount_eq_zero_iff {totalAmount : Money} {coupon : Coupon} :
    couponDiscount totalAmount coupon = 0 ↔ coupon.Worthless totalAmount := by
  have hzero : ∀ m : Money, m = 0 ↔ m.hundredths = 0 := fun m =>
    ⟨fun h => congrArg Money.hundredths h, fun h => eq_of_hundredths h⟩
  unfold Coupon.Worthless
  cases htype : coupon.discountType with
  | PERCENTAGE => rw [couponDiscount_percentage htype, hzero, toDecimalPlaces2_eq_zero_iff]
  | FLAT => rw [couponDiscount_flat htype, hzero, toDecimalPlaces2_eq_zero_iff]

section TwoCalls

variable {d d' : DiscountData} {booking : Booking} {bookingId : String}
  {couponCode giftCardCode : Option String} {coupon : Option Coupon} {giftCard : Option GiftCard}

theorem Passes.inTwoCalls {couponCode giftCardCode : String}
    (h : Passes d bookingId (some couponCode) (some giftCardCode) booking coupon giftCard) :
    inTwoCalls d bookingId couponCode giftCardCode
      = .ok ((d.store (discounted coupon none booking)).store
          (discounted none giftCard (discounted coupon none booking))) := by
  obtain ⟨hstatus, horder, hcoupon, hgift⟩ := checkBooking_ok_iff.mp h.guards
  have hfirst : Passes d bookingId (some couponCode) none booking coupon none :=
    ⟨h.found, checkBooking_ok_iff.mpr ⟨hstatus, horder, hcoupon, Or.inl rfl⟩, h.coupon, rfl⟩
  have hsecond : Passes (d.store (discounted coupon none booking)) bookingId none (some giftCardCode)
      (discounted coupon none booking) none giftCard :=
    ⟨find?_store h.found (discounted_id _ _ _),
      checkBooking_ok_iff.mpr ⟨hstatus, horder, Or.inl rfl, hgift⟩, rfl, h.giftCard⟩
  obtain ⟨_, hcall₁⟩ := hfirst.ok
  obtain ⟨_, hcall₂⟩ := hsecond.ok
  unfold Discounts.inTwoCalls
  rw [hcall₁]
  show (applyDiscounts _ bookingId none (some giftCardCode) >>= _) = _
  rw [hcall₂]
  rfl

theorem amounts_discounted_twice : (discounted none giftCard (discounted coupon none booking)).amounts
      = (discounted coupon giftCard booking).amounts ↔
    ∀ c ∈ coupon, couponDiscount booking.totalAmount c = 0 := by
  cases coupon with
  | none => exact ⟨fun _ => nofun, fun _ => rfl⟩
  | some c =>
      constructor
      · intro h c' hc'
        obtain rfl := Option.some.inj hc'
        exact (congrArg Amounts.couponDiscountAmount h).symm
      · intro h
        have hzero : couponDiscount booking.totalAmount c = 0 := h c rfl
        unfold Booking.amounts discounted
        simp only [Option.map_some, Option.getD_some, Option.map_none, Option.getD_none, hzero]
        rfl

theorem Passes.in_two_calls_iff {couponCode giftCardCode : String}
    (h : Passes d bookingId (some couponCode) (some giftCardCode) booking coupon giftCard) :
    (∃ d₂, Discounts.inTwoCalls d bookingId couponCode giftCardCode = .ok d₂ ∧
      d₂.amountsOf bookingId = (d.store (discounted coupon giftCard booking)).amountsOf bookingId) ↔
    ∀ c ∈ coupon, c.Worthless booking.totalAmount := by
  have hfirst := find?_store (d := d) h.found (discounted_id coupon none booking)
  have hlast := find?_store hfirst (discounted_id none giftCard (discounted coupon none booking))
  have hboth := find?_store h.found (discounted_id coupon giftCard booking)
  have hworth : (∀ c ∈ coupon, c.Worthless booking.totalAmount) ↔
      ∀ c ∈ coupon, couponDiscount booking.totalAmount c = 0 :=
    forall₂_congr fun _ _ => couponDiscount_eq_zero_iff.symm
  rw [h.inTwoCalls, hworth, ← amounts_discounted_twice]
  constructor
  · rintro ⟨d₂, hd₂, hsame⟩
    obtain rfl := Except.ok.inj hd₂
    rw [DiscountData.amountsOf, DiscountData.amountsOf, hlast, hboth] at hsame
    exact Option.some.inj hsame
  · intro hsame
    refine ⟨_, rfl, ?_⟩
    rw [DiscountData.amountsOf, DiscountData.amountsOf, hlast, hboth]
    exact congrArg some hsame

end TwoCalls

/-- **Two calls**: when one call with both codes gets through, so do two calls
with one code each, and they leave the same amounts just when the coupon takes
off nothing. -/
theorem inTwoCalls_iff {d d' : DiscountData} {bookingId couponCode giftCardCode : String}
    {breakdown : DiscountBreakdown} {booking : Booking}
    (hbooking : booking ∈ d.bookings) (hid : booking.id = bookingId)
    (hok : applyDiscounts d bookingId (some couponCode) (some giftCardCode) = .ok (breakdown, d')) :
    (∃ d₂, inTwoCalls d bookingId couponCode giftCardCode = .ok d₂ ∧
      d₂.amountsOf bookingId = d'.amountsOf bookingId) ↔
    ∀ coupon ∈ d.coupon? (some couponCode), coupon.Worthless booking.totalAmount := by
  obtain ⟨found, coupon, giftCard, hpasses, rfl⟩ := Passes.of_ok hok
  obtain rfl := List.inj_on_of_nodup_map d.bookingIds hpasses.applied.mem hbooking
    (hpasses.applied.id.trans hid.symm)
  rw [hpasses.coupon_eq]
  exact hpasses.in_two_calls_iff

/-! ## A coupon of 10 %, of 150 % and of 0 % -/

namespace Sample

/-- One booking, a card, and a coupon of a given percentage. -/
def withValue (discountValue : Rat) : DiscountData where
  clock := 0
  bookings := [booking "b1"]
  coupons := [{ coupon with discountValue }]
  giftCards := [giftCard]
  bookingIds := List.nodup_singleton _
  couponIds := List.nodup_singleton _
  giftCardIds := List.nodup_singleton _

theorem mem_withValue (discountValue : Rat) : booking "b1" ∈ (withValue discountValue).bookings :=
  List.mem_singleton_self _

theorem passes_withValue {discountValue : Rat}
    (h : discountValue = 10 ∨ discountValue = 150 ∨ discountValue = 0) :
    Passes (withValue discountValue) "b1" (some "TENOFF") (some "GIFT500") (booking "b1")
      (some { coupon with discountValue }) (some giftCard) := by
  rcases h with rfl | rfl | rfl <;> constructor <;> decide +kernel

end Sample

/-- 50.00 by the coupon, and 450.00 by the card. -/
theorem conserved_tenPercent : ∃ breakdown d',
    applyDiscounts (Sample.withValue 10) "b1" (some "TENOFF") (some "GIFT500") = .ok (breakdown, d') ∧
    ∃ row ∈ d'.bookings, row.id = "b1" ∧
      Conserved ((Sample.withValue 10).giftCard? (some "GIFT500")) row := by
  have hpasses := Sample.passes_withValue (Or.inl rfl)
  obtain ⟨breakdown, hok⟩ := hpasses.ok
  have hcoupon : ∀ {p : Coupon → Prop}, p { Sample.coupon with discountValue := 10 } →
      ∀ c ∈ (Sample.withValue 10).coupon? (some "TENOFF"), p c := by
    intro p hp c hc
    rw [hpasses.coupon_eq] at hc
    exact Option.some.inj hc ▸ hp
  refine ⟨breakdown, _, hok, (conserved_iff (Sample.mem_withValue 10) rfl
    (by decide) (hcoupon ⟨by norm_num, nofun⟩) hok).mpr ⟨hcoupon fun _ => by decide +kernel, ?_⟩⟩
  intro c hc
  rw [hpasses.giftCard_eq.1] at hc
  obtain rfl := Option.some.inj hc
  exact Or.inl (by decide +kernel)

/-- A coupon of 150 % takes 750.00 off 500.00. -/
theorem not_conserved_percentage :
    ¬ ∀ (d d' : DiscountData) (bookingId : String) (couponCode giftCardCode : Option String)
      (breakdown : DiscountBreakdown), ∀ booking ∈ d.bookings, booking.id = bookingId →
      0 ≤ booking.totalAmount.hundredths → (∀ coupon ∈ d.coupon? couponCode, coupon.Nonneg) →
      applyDiscounts d bookingId couponCode giftCardCode = .ok (breakdown, d') →
      ∃ row ∈ d'.bookings, row.id = bookingId ∧ Conserved (d.giftCard? giftCardCode) row := by
  intro h
  have hpasses := Sample.passes_withValue (Or.inr (Or.inl rfl))
  have hnonneg : Coupon.Nonneg { Sample.coupon with discountValue := 150 } := ⟨by norm_num, nofun⟩
  obtain ⟨breakdown, hok⟩ := hpasses.ok
  have hconserved := h _ _ _ _ _ _ _ (Sample.mem_withValue 150) rfl (by decide)
    (fun c hc => by
      rw [hpasses.coupon_eq] at hc
      exact Option.some.inj hc ▸ hnonneg) hok
  rw [hpasses.giftCard_eq.1] at hconserved
  have hfits := (hpasses.adds_up_iff (by decide)
    (fun c hc => Option.some.inj hc ▸ hnonneg)).mp hconserved
  have := hfits.couponFits _ rfl rfl
  revert this
  decide +kernel

/-- A coupon of 0 % can be used in a call of its own. -/
theorem inTwoCalls_zeroPercent : ∃ breakdown d' d₂,
    applyDiscounts (Sample.withValue 0) "b1" (some "TENOFF") (some "GIFT500") = .ok (breakdown, d') ∧
    inTwoCalls (Sample.withValue 0) "b1" "TENOFF" "GIFT500" = .ok d₂ ∧
    d₂.amountsOf "b1" = d'.amountsOf "b1" := by
  have hpasses := Sample.passes_withValue (Or.inr (Or.inr rfl))
  obtain ⟨breakdown, hok⟩ := hpasses.ok
  obtain ⟨d₂, hcalls, hsame⟩ := (inTwoCalls_iff (Sample.mem_withValue 0) rfl
    hok).mpr fun c hc => by
      rw [hpasses.coupon_eq] at hc
      obtain rfl := Option.some.inj hc
      show |Coupon.worth _ _| < 1 / 200
      decide +kernel
  exact ⟨breakdown, _, d₂, hok, hcalls, hsame⟩

/-- The call with the gift card sets the coupon's 50.00 back to nothing. -/
theorem not_inTwoCalls_tenPercent :
    ¬ ∀ (d d' : DiscountData) (bookingId couponCode giftCardCode : String)
      (breakdown : DiscountBreakdown), ∀ booking ∈ d.bookings, booking.id = bookingId →
      booking.couponId = none → booking.giftCardId = none →
      applyDiscounts d bookingId (some couponCode) (some giftCardCode) = .ok (breakdown, d') →
      ∃ d₂, inTwoCalls d bookingId couponCode giftCardCode = .ok d₂ ∧
        d₂.amountsOf bookingId = d'.amountsOf bookingId := by
  intro h
  have hpasses := Sample.passes_withValue (Or.inl rfl)
  obtain ⟨breakdown, hok⟩ := hpasses.ok
  have hsame := h _ _ _ _ _ _ _ (Sample.mem_withValue 10) rfl rfl rfl hok
  have hworthless : |Coupon.worth _ _| < 1 / 200 := hpasses.in_two_calls_iff.mp hsame _ rfl
  revert hworthless
  decide +kernel

end Omnipax.Discounts
