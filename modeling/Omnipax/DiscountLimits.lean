import Mathlib.Algebra.Order.BigOperators.Group.List
import Mathlib.Tactic.Linarith
import Omnipax.Discounts

/-!
# Limits of coupons and gift cards

`applyDiscounts` looks at the balance of a gift card and at the usage count of
a coupon, and no call ever changes either. So the limits hold for one booking
after the other, and across bookings only as long as no call relies on what an
earlier one has used up.
-/

namespace Omnipax.Discounts

open Payments (Money truthy?)

/-! ## Sums over the bookings -/

theorem sum_store {rows : List Booking} {f : Booking → Int} {b row : Booking}
    (hids : (rows.map (·.id)).Nodup) (hb : b ∈ rows) (hid : row.id = b.id) :
    ((rows.map fun x => if x.id = row.id then row else x).map f).sum
      = (rows.map f).sum - f b + f row := by
  induction rows with
  | nil => cases hb
  | cons x rows ih =>
      obtain ⟨hx, hrows⟩ := List.nodup_cons.mp hids
      simp only [List.map_cons, List.sum_cons]
      rcases List.mem_cons.mp hb with rfl | hb
      · have hrest : rows.map (fun x => if x.id = row.id then row else x) = rows := by
          refine (List.map_congr_left fun y hy => if_neg fun h => hx ?_).trans (List.map_id _)
          exact List.mem_map.mpr ⟨y, hy, h.trans hid⟩
        rw [if_pos hid.symm, hrest]
        omega
      · have hne : x.id ≠ row.id := fun h =>
          hx (List.mem_map.mpr ⟨b, hb, hid.symm.trans h.symm⟩)
        rw [if_neg hne, ih hrows hb]
        omega

theorem sum_le_sum {rows : List Booking} {f g : Booking → Int} (h : ∀ b, f b ≤ g b) :
    (rows.map f).sum ≤ (rows.map g).sum := by
  induction rows with
  | nil => exact Int.le_refl _
  | cons b rows ih =>
      have := h b
      simp only [List.map_cons, List.sum_cons]
      omega

/-- What a gift card gives to a booking that carries it, in hundredths. -/
def giftShare (giftCardId : String) (b : Booking) : Int :=
  if b.giftCardId = some giftCardId then b.giftCardDiscountAmount.hundredths else 0

def spentShare (giftCardId : String) (b : Booking) : Int :=
  if b.giftCardId = some giftCardId then max 0 b.giftCardDiscountAmount.hundredths else 0

def couponShare (couponId : String) (b : Booking) : Int :=
  if b.couponId = some couponId then 1 else 0

namespace DiscountData

/-- The sum of `giftCardDiscountAmount` over the bookings that carry the card. -/
def carried (d : DiscountData) (giftCardId : String) : Money :=
  ⟨(d.bookings.map (giftShare giftCardId)).sum⟩

def spent (d : DiscountData) (giftCardId : String) : Money :=
  ⟨(d.bookings.map (spentShare giftCardId)).sum⟩

/-- The number of bookings that carry the coupon. -/
def used (d : DiscountData) (couponId : String) : Int :=
  d.bookings.countP (·.couponId == some couponId)

end DiscountData

theorem carried_le_spent (d : DiscountData) (giftCardId : String) :
    (d.carried giftCardId).hundredths ≤ (d.spent giftCardId).hundredths := by
  refine sum_le_sum fun b => ?_
  unfold giftShare spentShare
  split <;> omega

theorem spentShare_nonneg (giftCardId : String) (b : Booking) : 0 ≤ spentShare giftCardId b := by
  unfold spentShare
  split <;> omega

theorem couponShare_nonneg (couponId : String) (b : Booking) : 0 ≤ couponShare couponId b := by
  unfold couponShare
  split <;> omega

theorem used_eq_sum (d : DiscountData) (couponId : String) :
    d.used couponId = (d.bookings.map (couponShare couponId)).sum := by
  unfold DiscountData.used
  induction d.bookings with
  | nil => rfl
  | cons b rows ih =>
      rw [List.map_cons, List.sum_cons, ← ih, List.countP_cons, couponShare]
      by_cases h : b.couponId = some couponId <;> simp [h, Int.add_comm]

/-! ## What a call does -/

theorem bind_ok {ε α β : Type} {x : Except ε α} {f : α → Except ε β} {b : β}
    (h : x >>= f = .ok b) : ∃ a, x = .ok a ∧ f a = .ok b := by
  cases x with
  | error e => cases h
  | ok a => exact ⟨a, rfl, h⟩

theorem mapM_ok {ε α β : Type} {f : α → Except ε β} {x : Option α} {y : Option β}
    (h : x.mapM f = .ok y) : x = none ∧ y = none ∨ ∃ a b, x = some a ∧ f a = .ok b ∧ y = some b := by
  cases x with
  | none => exact Or.inl ⟨rfl, (Except.ok.inj h).symm⟩
  | some a =>
      refine Or.inr ?_
      rw [Option.mapM_some] at h
      cases hf : f a with
      | error e =>
          rw [hf] at h
          cases h
      | ok b =>
          rw [hf] at h
          exact ⟨a, b, rfl, hf, (Except.ok.inj h).symm⟩

theorem guard_ok {ε α : Type} {p : Prop} [Decidable p] {e : ε} {rest : Except ε α} {a : α}
    (h : (if p then (do throw e; rest) else rest) = .ok a) : ¬p ∧ rest = .ok a := by
  by_cases hp : p
  · rw [if_pos hp] at h
    cases h
  · rw [if_neg hp] at h
    exact ⟨hp, h⟩

theorem checkBooking_ok_iff {booking : Booking} {couponCode giftCardCode : Option String} :
    checkBooking booking couponCode giftCardCode = .ok () ↔
      booking.status = .LOCKED ∧ truthy? booking.razorpayOrderId = none ∧
      (truthy? couponCode = none ∨ truthy? booking.couponId = none) ∧
      (truthy? giftCardCode = none ∨ truthy? booking.giftCardId = none) := by
  constructor
  · intro h
    unfold checkBooking at h
    obtain ⟨hstatus, h⟩ := guard_ok h
    obtain ⟨horder, h⟩ := guard_ok h
    obtain ⟨hcoupon, h⟩ := guard_ok h
    obtain ⟨hgift, -⟩ := guard_ok h
    have hnone : ∀ {x y : Option String}, ¬(x.isSome && y.isSome) = true → x = none ∨ y = none := by
      intro x y hxy
      cases x <;> cases y <;> simp at hxy ⊢
    exact ⟨not_not.mp hstatus, Option.not_isSome_iff_eq_none.mp horder, hnone hcoupon, hnone hgift⟩
  · rintro ⟨hstatus, horder, hcoupon, hgift⟩
    unfold checkBooking
    rw [if_neg (not_not.mpr hstatus), if_neg (by simp [horder]),
      if_neg (by rcases hcoupon with h | h <;> simp [h]),
      if_neg (by rcases hgift with h | h <;> simp [h])]
    rfl

theorem checkCoupon_ok {now : Time} {totalAmount : Money} {code : String} {coupon? : Option Coupon}
    {coupon : Coupon} (h : checkCoupon now totalAmount code coupon? = .ok coupon) :
    coupon? = some coupon := by
  cases coupon? with
  | none => cases h
  | some c =>
      unfold checkCoupon at h
      obtain ⟨-, h⟩ := guard_ok h
      obtain ⟨-, h⟩ := guard_ok h
      obtain ⟨-, h⟩ := guard_ok h
      obtain ⟨-, h⟩ := guard_ok h
      exact congrArg some (Except.ok.inj h)

theorem checkGiftCard_ok {now : Time} {code : String} {giftCard? : Option GiftCard}
    {giftCard : GiftCard} (h : checkGiftCard now code giftCard? = .ok giftCard) :
    giftCard? = some giftCard ∧ 0 < giftCard.balance := by
  cases giftCard? with
  | none => cases h
  | some c =>
      unfold checkGiftCard at h
      obtain ⟨-, h⟩ := guard_ok h
      obtain ⟨-, h⟩ := guard_ok h
      obtain ⟨hbalance, h⟩ := guard_ok h
      obtain rfl := Except.ok.inj h
      exact ⟨rfl, lt_of_not_ge hbalance⟩

/-- The gift card that the code names, if it is given and not empty, whatever the card has
left. -/
def DiscountData.giftCard? (d : DiscountData) (giftCardCode : Option String) : Option GiftCard :=
  (truthy? giftCardCode).bind fun code => d.giftCards.find? (·.code == code)

def DiscountData.coupon? (d : DiscountData) (couponCode : Option String) : Option Coupon :=
  (truthy? couponCode).bind fun code => d.coupons.find? (·.code == code)

section Calls

variable {d d' : DiscountData} {booking : Booking} {bookingId : String}
  {couponCode giftCardCode : Option String} {coupon : Option Coupon} {giftCard : Option GiftCard}

/-- The checks of a call all pass: the booking has been found, and so have the coupon and
the gift card that are named, each of them admitted. -/
structure Passes (d : DiscountData) (bookingId : String) (couponCode giftCardCode : Option String)
    (booking : Booking) (coupon : Option Coupon) (giftCard : Option GiftCard) : Prop where
  found : d.bookings.find? (·.id == bookingId) = some booking
  guards : checkBooking booking couponCode giftCardCode = .ok ()
  coupon : ((truthy? couponCode).mapM fun code =>
    checkCoupon d.clock booking.totalAmount code (d.coupons.find? (·.code == code))) = .ok coupon
  giftCard : ((truthy? giftCardCode).mapM fun code =>
    checkGiftCard d.clock code (d.giftCards.find? (·.code == code))) = .ok giftCard

theorem Passes.of_ok {breakdown : DiscountBreakdown}
    (h : applyDiscounts d bookingId couponCode giftCardCode = .ok (breakdown, d')) :
    ∃ booking coupon giftCard, Passes d bookingId couponCode giftCardCode booking coupon giftCard ∧
      d' = d.store (discounted coupon giftCard booking) := by
  unfold applyDiscounts at h
  cases hfind : d.bookings.find? (·.id == bookingId) with
  | none =>
      rw [hfind] at h
      cases h
  | some booking =>
      rw [hfind] at h
      obtain ⟨_, hguard, h⟩ := bind_ok h
      obtain ⟨coupon, hcoupon, h⟩ := bind_ok h
      obtain ⟨giftCard, hgiftCard, h⟩ := bind_ok h
      obtain ⟨-, rfl⟩ := Prod.mk.inj (Except.ok.inj h)
      exact ⟨booking, coupon, giftCard, ⟨hfind, hguard, hcoupon, hgiftCard⟩, rfl⟩

theorem Passes.ok (h : Passes d bookingId couponCode giftCardCode booking coupon giftCard) :
    ∃ breakdown, applyDiscounts d bookingId couponCode giftCardCode
      = .ok (breakdown, d.store (discounted coupon giftCard booking)) := by
  unfold applyDiscounts
  rw [h.found]
  dsimp only
  rw [h.guards, h.coupon, h.giftCard]
  exact ⟨_, rfl⟩

theorem Passes.coupon_eq (h : Passes d bookingId couponCode giftCardCode booking coupon giftCard) :
    d.coupon? couponCode = coupon := by
  unfold DiscountData.coupon?
  rcases mapM_ok h.coupon with ⟨hnone, rfl⟩ | ⟨code, c, hcode, hc, rfl⟩
  · rw [hnone]
    rfl
  · rw [hcode]
    exact checkCoupon_ok hc

theorem Passes.giftCard_eq (h : Passes d bookingId couponCode giftCardCode booking coupon giftCard) :
    d.giftCard? giftCardCode = giftCard ∧ ∀ c ∈ giftCard, 0 < c.balance := by
  unfold DiscountData.giftCard?
  rcases mapM_ok h.giftCard with ⟨hnone, rfl⟩ | ⟨code, c, hcode, hc, rfl⟩
  · rw [hnone]
    exact ⟨rfl, nofun⟩
  · obtain ⟨hfound, hbalance⟩ := checkGiftCard_ok hc
    rw [hcode]
    refine ⟨hfound, fun c' hc' => ?_⟩
    obtain rfl := Option.some.inj hc'
    exact hbalance

end Calls

/-- What a call that gets through has found: the booking carries neither coupon nor gift
card where the call names one, and the card has something left. -/
structure Applied (d : DiscountData) (bookingId : String) (couponCode giftCardCode : Option String)
    (booking : Booking) : Prop where
  mem : booking ∈ d.bookings
  id : booking.id = bookingId
  couponFree : d.coupon? couponCode = none ∨ truthy? booking.couponId = none
  giftCardFree : d.giftCard? giftCardCode = none ∨ truthy? booking.giftCardId = none
  balance : ∀ giftCard ∈ d.giftCard? giftCardCode, 0 < giftCard.balance

theorem Passes.applied {d : DiscountData} {bookingId : String} {couponCode giftCardCode : Option String}
    {booking : Booking} {coupon : Option Coupon} {giftCard : Option GiftCard}
    (h : Passes d bookingId couponCode giftCardCode booking coupon giftCard) :
    Applied d bookingId couponCode giftCardCode booking := by
  obtain ⟨-, -, hfreeCoupon, hfreeCard⟩ := checkBooking_ok_iff.mp h.guards
  refine ⟨List.mem_of_find?_eq_some h.found, by simpa using List.find?_some h.found, ?_, ?_, ?_⟩
  · exact hfreeCoupon.imp (fun hnone => by rw [DiscountData.coupon?, hnone]; rfl) id
  · exact hfreeCard.imp (fun hnone => by rw [DiscountData.giftCard?, hnone]; rfl) id
  · rw [h.giftCard_eq.1]
    exact h.giftCard_eq.2

theorem applied_of_ok {d d' : DiscountData} {bookingId : String}
    {couponCode giftCardCode : Option String} {breakdown : DiscountBreakdown}
    (h : applyDiscounts d bookingId couponCode giftCardCode = .ok (breakdown, d')) :
    ∃ booking, Applied d bookingId couponCode giftCardCode booking ∧
      d' = d.store (discounted (d.coupon? couponCode) (d.giftCard? giftCardCode) booking) := by
  obtain ⟨booking, coupon, giftCard, hpasses, rfl⟩ := Passes.of_ok h
  refine ⟨booking, hpasses.applied, ?_⟩
  rw [hpasses.coupon_eq, hpasses.giftCard_eq.1]

/-! ## Rounding -/

theorem toDecimalPlaces2_of_int (n : Int) : toDecimalPlaces2 ((n : Rat) / 100) = ⟨n⟩ := by
  have hfloor : ∀ m : Int, ⌊(m : Rat) / 100 * 100 + 1 / 2⌋ = m := by
    intro m
    rw [div_mul_cancel₀ _ (by norm_num : (100 : Rat) ≠ 0), Int.floor_intCast_add]
    norm_num
  unfold toDecimalPlaces2
  split
  · rw [hfloor]
  · have hneg : -((n : Rat) / 100) * 100 + 1 / 2 = ((-n : Int) : Rat) / 100 * 100 + 1 / 2 := by
      push_cast
      ring
    rw [hneg, hfloor, Int.neg_neg]

theorem toDecimalPlaces2_nonneg {x : Rat} (h : 0 ≤ x) : 0 ≤ (toDecimalPlaces2 x).hundredths := by
  rw [toDecimalPlaces2, if_pos h]
  exact Int.floor_nonneg.mpr (by linarith)

/-- The coupon takes nothing below zero: neither its value nor its greatest discount is
negative. No column and no DTO asks for this. -/
def Coupon.Nonneg (coupon : Coupon) : Prop :=
  0 ≤ coupon.discountValue ∧ ∀ maxDiscount ∈ coupon.maxDiscount, 0 ≤ maxDiscount

theorem couponDiscount_nonneg {totalAmount : Money} {coupon : Coupon}
    (htotal : 0 ≤ totalAmount.hundredths) (hcoupon : coupon.Nonneg) :
    0 ≤ (couponDiscount totalAmount coupon).hundredths := by
  have hdecimal : 0 ≤ totalAmount.toDecimal := by
    unfold Money.toDecimal
    positivity
  obtain ⟨hvalue, hmax⟩ := hcoupon
  refine toDecimalPlaces2_nonneg ?_
  cases coupon.discountType with
  | FLAT => exact le_min hvalue hdecimal
  | PERCENTAGE =>
      have hraw : 0 ≤ totalAmount.toDecimal * coupon.discountValue / 100 := by positivity
      dsimp only
      split
      · rename_i m hm
        exact le_min hraw (hmax m hm)
      · exact hraw

/-- All of what is left to pay, if the card has that much. -/
theorem giftCardDiscount_of_le {runningTotal : Money} {giftCard : GiftCard}
    (h : runningTotal.toDecimal ≤ giftCard.balance) :
    giftCardDiscount runningTotal giftCard = runningTotal := by
  rw [giftCardDiscount, min_eq_right h]
  exact toDecimalPlaces2_of_int runningTotal.hundredths

theorem giftCardDiscount_le {runningTotal : Money} {giftCard : GiftCard} {n : Int}
    (h : giftCard.balance * 100 = n) : (giftCardDiscount runningTotal giftCard).hundredths ≤ n := by
  have hbalance : giftCard.balance = (n : Rat) / 100 := by linarith
  rcases le_total runningTotal.toDecimal giftCard.balance with hle | hle
  · rw [giftCardDiscount_of_le hle]
    have hdecimal : (runningTotal.hundredths : Rat) / 100 ≤ n / 100 := hbalance ▸ hle
    exact_mod_cast (div_le_div_iff_of_pos_right (by norm_num : (0 : Rat) < 100)).mp hdecimal
  · rw [giftCardDiscount, min_eq_left hle, hbalance, toDecimalPlaces2_of_int]

/-! ## The limits -/

/-- What the bookings carry is within the balances of the cards, and within
what is left of the usage limits of the coupons, of `d₀`. -/
structure WithinLimits (d₀ d : DiscountData) : Prop where
  giftCards : ∀ giftCard ∈ d₀.giftCards, (d.carried giftCard.id).toDecimal ≤ giftCard.balance
  coupons : ∀ coupon ∈ d₀.coupons, ∀ usageLimit ∈ coupon.usageLimit,
    d.used coupon.id ≤ usageLimit - coupon.usageCount

/-- The limits again, with the amounts above zero only. A negative amount of one booking
makes no room for another, so this is what one call hands on to the next. -/
structure Solvent (d : DiscountData) : Prop where
  giftCards : ∀ giftCard ∈ d.giftCards, (d.spent giftCard.id).toDecimal ≤ giftCard.balance
  coupons : ∀ coupon ∈ d.coupons, ∀ usageLimit ∈ coupon.usageLimit,
    d.used coupon.id ≤ usageLimit - coupon.usageCount

/-- The card has not been used and its balance is in two decimals, or the
booking's total fits in what has not been used. -/
def Affordable (d : DiscountData) (booking : Booking) (coupon : Option Coupon)
    (giftCard : GiftCard) : Prop :=
  (d.spent giftCard.id).hundredths = 0 ∧ (∃ n : Int, giftCard.balance * 100 = n) ∨
    (d.spent giftCard.id + booking.totalAmount).toDecimal ≤ giftCard.balance ∧
      0 ≤ booking.totalAmount.hundredths ∧ ∀ c ∈ coupon, c.Nonneg

/-- The limits of what a call uses leave room for it. -/
def Fits (d : DiscountData) : DiscountStep → Prop
  | .applyDiscounts bookingId couponCode giftCardCode =>
      (∀ coupon ∈ d.coupon? couponCode, ∀ usageLimit ∈ coupon.usageLimit,
        d.used coupon.id + coupon.usageCount < usageLimit) ∧
      ∀ giftCard ∈ d.giftCard? giftCardCode, ∀ booking ∈ d.bookings, booking.id = bookingId →
        Affordable d booking (d.coupon? couponCode) giftCard
  | .tick _ => True

/-- Every call fits in the state it is made in, which is the state that the calls before it
have left. -/
def AllFit (d : DiscountData) : List DiscountStep → Prop
  | [] => True
  | step :: steps => Fits d step ∧ AllFit (step.next d) steps

section Step

variable {d : DiscountData} {coupon : Option Coupon} {giftCard : Option GiftCard} {booking : Booking}

theorem eq_of_orElse {new g : String} {old : Option String} (hold : truthy? old = none)
    (h : (truthy? (some new) <|> old) = some g) : g = new := by
  by_cases hnew : new = ""
  · subst hnew
    have hsome : old = some g := h
    rw [hsome] at hold
    by_contra hne
    simp [truthy?, hne] at hold
  · have htruthy : truthy? (some new) = some new := by simp [truthy?, hnew]
    rw [htruthy] at h
    exact (Option.some.inj h).symm

theorem spentShare_discounted (coupon : Option Coupon) (g : String) {c : GiftCard}
    (hold : truthy? booking.giftCardId = none) :
    spentShare g (discounted coupon (some c) booking) ≤ if c.id = g then
      max 0 (discounted coupon (some c) booking).giftCardDiscountAmount.hundredths else 0 := by
  unfold spentShare
  split
  · rename_i h
    rw [if_pos (eq_of_orElse hold h).symm]
  · split <;> omega

theorem spentShare_none (g : String) : spentShare g (discounted coupon none booking) = 0 := by
  unfold spentShare
  split <;> rfl

theorem couponShare_discounted (giftCard : Option GiftCard) (g : String) {c : Coupon}
    (hold : truthy? booking.couponId = none) :
    couponShare g (discounted (some c) giftCard booking) ≤ if c.id = g then 1 else 0 := by
  unfold couponShare
  split
  · rename_i h
    rw [if_pos (eq_of_orElse hold h).symm]
  · split <;> omega

theorem spent_nonneg (d : DiscountData) (g : String) : 0 ≤ (d.spent g).hundredths := by
  refine List.sum_nonneg fun x hx => ?_
  obtain ⟨b, -, rfl⟩ := List.mem_map.mp hx
  exact spentShare_nonneg g b

theorem toDecimal_mono {a b : Money} (h : a.hundredths ≤ b.hundredths) :
    a.toDecimal ≤ b.toDecimal := by
  have hcast : (a.hundredths : Rat) ≤ b.hundredths := by exact_mod_cast h
  unfold Money.toDecimal
  linarith

/-- What a coupon leaves to pay. -/
def leftToPay (coupon : Option Coupon) (booking : Booking) : Money :=
  booking.totalAmount - (coupon.map (couponDiscount booking.totalAmount)).getD 0

theorem leftToPay_le (htotal : 0 ≤ booking.totalAmount.hundredths) (hcoupon : ∀ c ∈ coupon, c.Nonneg) :
    (leftToPay coupon booking).hundredths ≤ booking.totalAmount.hundredths := by
  have hdiscount : 0 ≤ ((coupon.map (couponDiscount booking.totalAmount)).getD 0).hundredths := by
    cases coupon with
    | none => exact Int.le_refl _
    | some c => exact couponDiscount_nonneg htotal (hcoupon c rfl)
  show booking.totalAmount.hundredths - _ ≤ _
  omega

theorem spent_add_le {c : GiftCard} (hspent : (d.spent c.id).toDecimal ≤ c.balance)
    (h : Affordable d booking coupon c) :
    (d.spent c.id + ⟨max 0 (giftCardDiscount (leftToPay coupon booking) c).hundredths⟩).toDecimal
      ≤ c.balance := by
  rcases h with ⟨hzero, n, hn⟩ | ⟨hroom, htotal, hcoupon⟩
  · have hle : (giftCardDiscount (leftToPay coupon booking) c).hundredths ≤ n := giftCardDiscount_le hn
    have hnonneg : 0 ≤ n := by
      have hbalance : 0 ≤ c.balance := by simpa [Money.toDecimal, hzero] using hspent
      have : (0 : Rat) ≤ n := by linarith
      exact_mod_cast this
    have hbound : (d.spent c.id).hundredths
        + max 0 (giftCardDiscount (leftToPay coupon booking) c).hundredths ≤ n := by omega
    calc _ ≤ (⟨n⟩ : Money).toDecimal := toDecimal_mono hbound
      _ ≤ c.balance := by
        unfold Money.toDecimal
        linarith
  · have hleft := leftToPay_le htotal hcoupon
    have hnonneg := spent_nonneg d c.id
    have hfits : (leftToPay coupon booking).toDecimal ≤ c.balance := by
      refine le_trans (toDecimal_mono ?_) hroom
      show _ ≤ (d.spent c.id).hundredths + booking.totalAmount.hundredths
      omega
    rw [giftCardDiscount_of_le hfits]
    refine le_trans (toDecimal_mono ?_) hroom
    show (d.spent c.id).hundredths + max 0 _ ≤ (d.spent c.id).hundredths + booking.totalAmount.hundredths
    omega

theorem spent_store {row : Booking} (hb : booking ∈ d.bookings) (hid : row.id = booking.id)
    (g : String) : ((d.store row).spent g).hundredths
      = (d.spent g).hundredths - spentShare g booking + spentShare g row :=
  sum_store d.bookingIds hb hid

theorem used_store {row : Booking} (hb : booking ∈ d.bookings) (hid : row.id = booking.id)
    (c : String) : (d.store row).used c = d.used c - couponShare c booking + couponShare c row := by
  rw [used_eq_sum, used_eq_sum]
  exact sum_store d.bookingIds hb hid

theorem mem_of_giftCard? {giftCardCode : Option String} {c : GiftCard}
    (h : d.giftCard? giftCardCode = some c) : c ∈ d.giftCards := by
  obtain ⟨code, -, hfind⟩ := Option.bind_eq_some_iff.mp h
  exact List.mem_of_find?_eq_some hfind

theorem mem_of_coupon? {couponCode : Option String} {c : Coupon}
    (h : d.coupon? couponCode = some c) : c ∈ d.coupons := by
  obtain ⟨code, -, hfind⟩ := Option.bind_eq_some_iff.mp h
  exact List.mem_of_find?_eq_some hfind

/-- **Step**: what fits keeps the limits. -/
theorem solvent_store {bookingId : String} {couponCode giftCardCode : Option String}
    (h : Solvent d) (happlied : Applied d bookingId couponCode giftCardCode booking)
    (hfits : Fits d (.applyDiscounts bookingId couponCode giftCardCode)) :
    Solvent (d.store (discounted (d.coupon? couponCode) (d.giftCard? giftCardCode) booking)) := by
  constructor
  · intro giftCard hgiftCard
    have hold := h.giftCards giftCard hgiftCard
    have hstore := spent_store happlied.mem (discounted_id (d.coupon? couponCode)
      (d.giftCard? giftCardCode) booking) giftCard.id
    have hnonneg := spentShare_nonneg giftCard.id booking
    cases hcard : d.giftCard? giftCardCode with
    | none =>
        rw [hcard, spentShare_none] at hstore
        exact le_trans (toDecimal_mono (by omega)) hold
    | some c =>
        rw [hcard] at hstore
        have hfree : truthy? booking.giftCardId = none :=
          happlied.giftCardFree.resolve_left (by rw [hcard]; nofun)
        have hshare := spentShare_discounted (d.coupon? couponCode) giftCard.id (c := c) hfree
        by_cases hid : c.id = giftCard.id
        · obtain rfl := List.inj_on_of_nodup_map d.giftCardIds (mem_of_giftCard? hcard) hgiftCard hid
          rw [if_pos rfl] at hshare
          refine le_trans (toDecimal_mono ?_)
            (spent_add_le hold (hfits.2 c hcard booking happlied.mem happlied.id))
          change _ ≤ (d.spent c.id).hundredths + max 0
            (discounted (d.coupon? couponCode) (some c) booking).giftCardDiscountAmount.hundredths
          omega
        · rw [if_neg hid] at hshare
          exact le_trans (toDecimal_mono (by omega)) hold
  · intro coupon hcoupon usageLimit hlimit
    have hold := h.coupons coupon hcoupon usageLimit hlimit
    have hstore := used_store happlied.mem (discounted_id (d.coupon? couponCode)
      (d.giftCard? giftCardCode) booking) coupon.id
    have hnonneg := couponShare_nonneg coupon.id booking
    cases hc : d.coupon? couponCode with
    | none =>
        rw [hc] at hstore
        have hsame : couponShare coupon.id (discounted none (d.giftCard? giftCardCode) booking)
            = couponShare coupon.id booking := rfl
        omega
    | some c =>
        rw [hc] at hstore
        have hfree : truthy? booking.couponId = none :=
          happlied.couponFree.resolve_left (by rw [hc]; nofun)
        have hshare := couponShare_discounted (d.giftCard? giftCardCode) coupon.id (c := c) hfree
        by_cases hid : c.id = coupon.id
        · obtain rfl := List.inj_on_of_nodup_map d.couponIds (mem_of_coupon? hc) hcoupon hid
          have hroom := hfits.1 c hc usageLimit hlimit
          rw [if_pos rfl] at hshare
          omega
        · rw [if_neg hid] at hshare
          omega

theorem solvent_next {step : DiscountStep} (h : Solvent d) (hstep : Fits d step) :
    Solvent (step.next d) := by
  cases step with
  | tick t => exact ⟨h.giftCards, h.coupons⟩
  | applyDiscounts bookingId couponCode giftCardCode =>
      unfold DiscountStep.next
      dsimp only
      split
      · rename_i breakdown d' hok
        obtain ⟨booking, happlied, rfl⟩ := applied_of_ok hok
        exact solvent_store h happlied hstep
      · exact h

theorem tables_next (d : DiscountData) (step : DiscountStep) :
    (step.next d).giftCards = d.giftCards ∧ (step.next d).coupons = d.coupons := by
  cases step with
  | tick t => exact ⟨rfl, rfl⟩
  | applyDiscounts bookingId couponCode giftCardCode =>
      unfold DiscountStep.next
      dsimp only
      split
      · rename_i breakdown d' hok
        obtain ⟨booking, -, rfl⟩ := applied_of_ok hok
        exact ⟨rfl, rfl⟩
      · exact ⟨rfl, rfl⟩

end Step

theorem solvent_run {d : DiscountData} {steps : List DiscountStep} (h : Solvent d)
    (hsteps : AllFit d steps) : Solvent (run d steps) ∧
      (run d steps).giftCards = d.giftCards ∧ (run d steps).coupons = d.coupons := by
  induction steps generalizing d with
  | nil => exact ⟨h, rfl, rfl⟩
  | cons step steps ih =>
      obtain ⟨hsolvent, hcards, hcoupons⟩ := ih (solvent_next h hsteps.1) hsteps.2
      obtain ⟨hcards', hcoupons'⟩ := tables_next d step
      exact ⟨hsolvent, hcards.trans hcards', hcoupons.trans hcoupons'⟩

/-- **Limits**: along every run whose calls fit, what the bookings carry stays
within the balances and the usage limits before the first call. -/
theorem limits_run (d : DiscountData) (steps : List DiscountStep) (h : Solvent d)
    (hsteps : AllFit d steps) : WithinLimits d (run d steps) := by
  obtain ⟨hsolvent, hcards, hcoupons⟩ := solvent_run h hsteps
  refine ⟨fun giftCard hcard => ?_, fun coupon hcoupon => ?_⟩
  · exact le_trans (toDecimal_mono (carried_le_spent _ _))
      (hsolvent.giftCards giftCard (hcards ▸ hcard))
  · exact hsolvent.coupons coupon (hcoupons ▸ hcoupon)

/-! ## Two bookings and one card -/

namespace Sample

def booking (id : String) : Booking where
  id
  status := .LOCKED
  totalAmount := ⟨50000⟩
  razorpayOrderId := none
  couponId := none
  giftCardId := none
  couponDiscountAmount := 0
  giftCardDiscountAmount := 0
  discountAmount := 0
  finalAmount := ⟨50000⟩

def coupon : Coupon := ⟨"c1", "TENOFF", .PERCENTAGE, 10, 0, none, some 1, 0, true, none⟩

def giftCard : GiftCard := ⟨"g1", "GIFT500", 500, true, none⟩

def data : DiscountData where
  clock := 0
  bookings := [booking "b1", booking "b2"]
  coupons := [coupon]
  giftCards := [giftCard]
  bookingIds := by decide
  couponIds := by decide
  giftCardIds := by decide

theorem solvent_data : Solvent data := ⟨by decide +kernel, by decide +kernel⟩

/-- A card that covers both bookings. -/
def largeCard : GiftCard := ⟨"g1", "GIFT1000", 1000, true, none⟩

def largeData : DiscountData where
  clock := 0
  bookings := [booking "b1", booking "b2"]
  coupons := [coupon]
  giftCards := [largeCard]
  bookingIds := by decide
  couponIds := by decide
  giftCardIds := by decide

theorem solvent_largeData : Solvent largeData := ⟨by decide +kernel, by decide +kernel⟩

/-- A call that uses both for the first time. -/
def both : DiscountStep := .applyDiscounts "b1" (some "TENOFF") (some "GIFT1000")

/-- The other booking uses what the card has left. -/
def cardAgain : DiscountStep := .applyDiscounts "b2" none (some "GIFT1000")

theorem fits_first : Fits largeData both := by
  have hcoupon : largeData.coupon? (some "TENOFF") = some coupon := by decide +kernel
  have hcard : largeData.giftCard? (some "GIFT1000") = some largeCard := by decide +kernel
  refine ⟨fun c hc usageLimit hlimit => ?_, fun c hc _ _ _ => ?_⟩
  · obtain rfl := Option.some.inj (hcoupon.symm.trans hc)
    obtain rfl := Option.some.inj hlimit
    decide +kernel
  · obtain rfl := Option.some.inj (hcard.symm.trans hc)
    exact Or.inl ⟨by decide +kernel, 100000, by decide +kernel⟩

theorem fits_again : Fits (both.next largeData) cardAgain := by
  have hcard : (both.next largeData).giftCard? (some "GIFT1000") = some largeCard := by decide +kernel
  refine ⟨fun c hc => absurd (show (none : Option Coupon) = some c from hc) nofun,
    fun c hc b hb hid => ?_⟩
  obtain rfl := Option.some.inj (hcard.symm.trans hc)
  have hbooking : b = booking "b2" := by
    revert b
    decide +kernel
  subst hbooking
  exact Or.inr ⟨by decide +kernel, by decide +kernel, fun c hc => absurd hc nofun⟩

end Sample

/-- Two bookings use one card, and the first of them the coupon. -/
theorem limits_twoBookings :
    WithinLimits Sample.largeData (run Sample.largeData [Sample.both, Sample.cardAgain]) :=
  limits_run Sample.largeData [Sample.both, Sample.cardAgain] Sample.solvent_largeData
    ⟨Sample.fits_first, Sample.fits_again, trivial⟩

/-- Each of two bookings is given what one card has. -/
theorem not_withinLimits_twice :
    ¬ ∀ (d : DiscountData) (steps : List DiscountStep), Solvent d → WithinLimits d (run d steps) := by
  intro h
  have hcards := (h Sample.data [.applyDiscounts "b1" none (some "GIFT500"),
    .applyDiscounts "b2" none (some "GIFT500")] Sample.solvent_data).giftCards Sample.giftCard
    (List.mem_singleton_self _)
  revert hcards
  decide +kernel

end Omnipax.Discounts
