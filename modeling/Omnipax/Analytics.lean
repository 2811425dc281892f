import Omnipax.Grouping
import Omnipax.Payments
import Mathlib.Algebra.BigOperators.Ring.Finset

/-!
# Revenue of the theaters and of the platform

`getTheaterRevenueSummary` folds the ledger rows of a tenant, and
`getPlatformSummary` groups those of all. The money agrees; the bookings do
where each that counts has a tenant.
-/

namespace Omnipax.Analytics

open Grouping (groupBy having)

/-! ## Rows -/

structure PaymentLedger where
  id : String
  bookingId : String
  amount : Int
  currency : String
  type : String
  razorpayId : String
  status : String
  tenantId : String
  createdAt : Time
deriving Repr, DecidableEq

structure Booking where
  id : String
  tenantId : Option String
  status : Payments.BookingStatus
  createdAt : Time
deriving Repr, DecidableEq

structure Tenant where
  id : String
  createdAt : Time
deriving Repr, DecidableEq

/-- The tables. The identifier of a tenant is a primary key, which the bookings
refer to. -/
structure AnalyticsData where
  tenants : List Tenant
  paymentLedger : List PaymentLedger
  bookings : List Booking
  primary : (tenants.map (·.id)).Nodup
  foreign : ∀ b ∈ bookings, ∀ id ∈ b.tenantId, id ∈ tenants.map (·.id)

/-! ## The service -/

structure DateFilter where
  gte : Option Time
  lte : Option Time
deriving Repr, DecidableEq

/-- A date that is left out or empty is no bound. -/
def bound (newDate : String → Time) : Option String → Option Time
  | some text => if text = "" then none else some (newDate text)
  | none => none

def getUtcDateBoundaries (newDate : String → Time) (from_ to_ : Option String) :
    Option DateFilter :=
  let filter : DateFilter := ⟨bound newDate from_, bound newDate to_⟩
  if filter = ⟨none, none⟩ then none else some filter

def DateFilter.admits (filter : DateFilter) (createdAt : Time) : Bool :=
  filter.gte.all (· ≤ createdAt) && filter.lte.all (createdAt ≤ ·)

/-- `createdAt: dateFilter`, which restricts nothing where there is none. -/
def inWindow (dateFilter : Option DateFilter) (createdAt : Time) : Bool :=
  dateFilter.all (·.admits createdAt)

structure RevenueSummary where
  totalRevenue : Int
  totalRefunds : Int
  netRevenue : Int
  totalBookings : Nat
  conversionRate : Rat
  averageTicketValue : Rat
  refundRate : Rat
deriving Repr, DecidableEq

def confirmedStatuses : List Payments.BookingStatus :=
  [.CONFIRMED, .REFUND_INITIATED, .REFUNDED, .REFUND_FAILED]

variable (newDate : String → Time) (d : AnalyticsData)

def getTheaterRevenueSummary (tenantId : String) (from_ to_ : Option String) : RevenueSummary :=
  let dateFilter := getUtcDateBoundaries newDate from_ to_
  let ledgerEntries := d.paymentLedger.filter fun e =>
    e.tenantId == tenantId && e.status == "SUCCESS" && inWindow dateFilter e.createdAt
  let totalRevenueCents := ledgerEntries.foldl
    (fun n e => if e.type = "PAYMENT" then n + e.amount else n) 0
  let totalRefundsCents := ledgerEntries.foldl
    (fun n e => if e.type = "REFUND" then n + e.amount else n) 0
  let bookings := groupBy (·.status) (d.bookings.filter fun b =>
    b.tenantId == some tenantId && inWindow dateFilter b.createdAt)
  let confirmedCount : Nat := bookings.foldl
    (fun n g => if confirmedStatuses.contains g.1 then n + g.2.length else n) 0
  let totalInitiations : Nat := bookings.foldl (fun sum g => sum + g.2.length) 0
  { totalRevenue := totalRevenueCents
    totalRefunds := totalRefundsCents
    netRevenue := totalRevenueCents - totalRefundsCents
    totalBookings := confirmedCount
    conversionRate := if totalInitiations > 0 then (confirmedCount : Rat) / totalInitiations else 0
    averageTicketValue := if confirmedCount > 0 then (totalRevenueCents : Rat) / confirmedCount else 0
    refundRate := if totalRevenueCents > 0 then (totalRefundsCents : Rat) / totalRevenueCents else 0 }

structure PlatformSummary where
  globalRevenue : Int
  globalRefunds : Int
  netPlatformRevenue : Int
  totalBookings : Nat
  activeTheaters : Nat
  period : Option String × Option String
deriving Repr, DecidableEq

inductive AnalyticsExn where
  | forbidden (message : String)
deriving Repr, DecidableEq

def countedStatuses : List Payments.BookingStatus :=
  [.CONFIRMED, .REFUNDED, .REFUND_INITIATED, .REFUND_FAILED]

def getPlatformSummary (userRole : String) (from_ to_ : Option String) :
    Except AnalyticsExn PlatformSummary :=
  if userRole ≠ "SUPER_ADMIN" then
    .error (.forbidden "Only SUPER_ADMIN can access platform summaries")
  else
    let dateFilter := getUtcDateBoundaries newDate from_ to_
    let globalLedger := groupBy (·.type) (d.paymentLedger.filter fun e =>
      e.status == "SUCCESS" && inWindow dateFilter e.createdAt)
    let globalRevenue := globalLedger.foldl
      (fun n g => if g.1 = "PAYMENT" then (g.2.map (·.amount)).sum else n) 0
    let globalRefunds := globalLedger.foldl
      (fun n g => if g.1 = "REFUND" then (g.2.map (·.amount)).sum else n) 0
    .ok
      { globalRevenue
        globalRefunds
        netPlatformRevenue := globalRevenue - globalRefunds
        totalBookings := d.bookings.countP fun b =>
          countedStatuses.contains b.status && inWindow dateFilter b.createdAt
        activeTheaters := d.tenants.countP fun t => inWindow dateFilter t.createdAt
        period := (from_, to_) }

/-! ## Money -/

section Money

variable {newDate d} {from_ to_ : Option String}

/-- What succeeded of a type in the window. -/
def entries (d : AnalyticsData) (dateFilter : Option DateFilter) (type : String) :
    List PaymentLedger :=
  d.paymentLedger.filter fun e =>
    (e.status == "SUCCESS" && inWindow dateFilter e.createdAt) && e.type == type

theorem foldl_type (type : String) (l : List PaymentLedger) (n : Int) :
    l.foldl (fun n e => if e.type = type then n + e.amount else n) n
      = n + ((l.filter fun e => e.type == type).map (·.amount)).sum := by
  induction l generalizing n with
  | nil => simp
  | cons e l ih =>
      rw [List.foldl_cons, ih, List.filter_cons]
      by_cases h : e.type = type
      · rw [if_pos h, if_pos (by simpa using h), List.map_cons, List.sum_cons, add_assoc]
      · rw [if_neg h, if_neg (by simpa using h)]

/-- The fold of a tenant is the sum of its rows. -/
theorem foldl_entries (tenantId type : String) (dateFilter : Option DateFilter) :
    (d.paymentLedger.filter fun e =>
        e.tenantId == tenantId && e.status == "SUCCESS" && inWindow dateFilter e.createdAt).foldl
        (fun n e => if e.type = type then n + e.amount else n) 0
      = ((having (fun e => some e.tenantId) tenantId (entries d dateFilter type)).map
          (·.amount)).sum := by
  rw [foldl_type, zero_add, having, entries, List.filter_filter, List.filter_filter]
  refine congrArg (fun l : List PaymentLedger => (l.map (·.amount)).sum)
    (List.filter_congr fun e _ => ?_)
  have hid : (some e.tenantId == some tenantId) = (e.tenantId == tenantId) := rfl
  rw [hid]
  cases e.tenantId == tenantId <;> cases e.status == "SUCCESS" <;> cases e.type == type <;> simp

theorem foldl_ledger (type : String) (dateFilter : Option DateFilter) :
    (groupBy (·.type) (d.paymentLedger.filter fun e =>
        e.status == "SUCCESS" && inWindow dateFilter e.createdAt)).foldl
        (fun n g => if g.1 = type then (g.2.map (·.amount)).sum else n) 0
      = ((entries d dateFilter type).map (·.amount)).sum := by
  refine (Grouping.foldl_group (fun e : PaymentLedger => e.type) _ type
    (fun l => (l.map (·.amount)).sum) rfl).trans ?_
  rw [List.filter_filter, entries]
  refine congrArg (fun l : List PaymentLedger => (l.map (·.amount)).sum)
    (List.filter_congr fun e _ => ?_)
  rw [Bool.and_comm]

/-- Tenant by tenant the money of a type is all of it. -/
theorem sum_tenants (hledger : ∀ e ∈ d.paymentLedger, e.tenantId ∈ d.tenants.map (·.id))
    (dateFilter : Option DateFilter) (type : String) :
    (d.tenants.map fun t => ((having (fun e => some e.tenantId) t.id
        (entries d dateFilter type)).map (·.amount)).sum).sum
      = ((entries d dateFilter type).map (·.amount)).sum := by
  have hmem : ∀ e ∈ entries d dateFilter type,
      (some e.tenantId).any (· ∈ d.tenants.map (·.id)) = true :=
    fun e he => decide_eq_true (hledger e (List.mem_filter.mp he).1)
  have hsum := Grouping.sum_having_of_mem d.primary (fun e : PaymentLedger => some e.tenantId)
    (fun e => e.amount) hmem
  rwa [List.map_map] at hsum

end Money

/-! ## Bookings -/

section Bookings

variable (from_ to_ : Option String)

/-- The bookings of the window that count. -/
def counted (dateFilter : Option DateFilter) : List Booking :=
  d.bookings.filter fun b => countedStatuses.contains b.status && inWindow dateFilter b.createdAt

/-- A booking that counts for the platform and for no theater. -/
def orphans (dateFilter : Option DateFilter) : List Booking :=
  (counted d dateFilter).filter fun b => b.tenantId.isNone

theorem contains_statuses (status : Payments.BookingStatus) :
    confirmedStatuses.contains status = countedStatuses.contains status := by
  cases status <;> rfl

theorem totalBookings_theater (tenantId : String) :
    (getTheaterRevenueSummary newDate d tenantId from_ to_).totalBookings
      = (having (·.tenantId) tenantId
          (counted d (getUtcDateBoundaries newDate from_ to_))).length := by
  refine (Grouping.foldl_groups (fun b : Booking => b.status) _
    (fun status => confirmedStatuses.contains status)).trans ?_
  rw [List.countP_eq_length_filter, List.filter_filter, having, counted, List.filter_filter]
  refine congrArg List.length (List.filter_congr fun b _ => ?_)
  rw [contains_statuses]
  cases b.tenantId == some tenantId <;> simp

theorem sum_totalBookings :
    ((d.tenants.map fun t =>
        (getTheaterRevenueSummary newDate d t.id from_ to_).totalBookings).sum : Nat)
        + (orphans d (getUtcDateBoundaries newDate from_ to_)).length
      = (counted d (getUtcDateBoundaries newDate from_ to_)).length := by
  generalize hfilter : getUtcDateBoundaries newDate from_ to_ = dateFilter
  have hkeyed : ∀ b ∈ counted d dateFilter,
      b.tenantId.any (· ∈ d.tenants.map (·.id)) = !b.tenantId.isNone := by
    intro b hb
    have hforeign := d.foreign b (List.mem_filter.mp hb).1
    cases htenant : b.tenantId with
    | none => rfl
    | some id => exact decide_eq_true (hforeign id htenant)
  have hsum := Grouping.sum_having d.primary (fun b : Booking => b.tenantId) (fun _ => (1 : Int))
    (counted d dateFilter)
  rw [List.filter_congr hkeyed, Grouping.sum_map_one] at hsum
  have hsplit : ((counted d dateFilter).filter fun b => !b.tenantId.isNone).length
      + (orphans d dateFilter).length = (counted d dateFilter).length := by
    rw [orphans, Nat.add_comm]
    exact (List.length_eq_length_filter_add fun b : Booking => b.tenantId.isNone).symm
  rw [← hsplit, Nat.add_right_cancel_iff]
  refine Int.natCast_inj.mp (Eq.trans ?_ hsum)
  rw [List.map_map, Nat.cast_list_sum, List.map_map]
  refine congrArg List.sum (List.map_congr_left fun t _ => ?_)
  rw [Function.comp_apply, totalBookings_theater, hfilter]
  exact (Grouping.sum_map_one _).symm

end Bookings

/-! ## The platform -/

/-- The summary of the platform adds up: revenue, refunds, what is left of them and the
number of bookings are each the sum of those of the theaters. -/
structure Adds (s : PlatformSummary) (summaries : List RevenueSummary) : Prop where
  revenue : s.globalRevenue = (summaries.map (·.totalRevenue)).sum
  refunds : s.globalRefunds = (summaries.map (·.totalRefunds)).sum
  net : s.netPlatformRevenue = (summaries.map (·.netRevenue)).sum
  bookings : s.totalBookings = (summaries.map (·.totalBookings)).sum

/-- Every booking that is counted in the window belongs to some tenant. A booking without
one counts for the platform and for none of its theaters. -/
def NoOrphan (d : AnalyticsData) (dateFilter : Option DateFilter) : Prop :=
  ∀ b ∈ d.bookings, countedStatuses.contains b.status = true →
    inWindow dateFilter b.createdAt = true → b.tenantId ≠ none

theorem orphans_eq_nil {d : AnalyticsData} {dateFilter : Option DateFilter} :
    orphans d dateFilter = [] ↔ NoOrphan d dateFilter := by
  rw [orphans, counted, List.filter_filter, List.filter_eq_nil_iff]
  refine forall₂_congr fun b _ => ?_
  cases b.tenantId <;> simp

theorem sum_map_sub {α : Type} (l : List α) (f g : α → Int) :
    (l.map fun a => f a - g a).sum = (l.map f).sum - (l.map g).sum := by
  induction l with
  | nil => rfl
  | cons a l ih =>
      rw [List.map_cons, List.sum_cons, List.map_cons, List.sum_cons, List.map_cons, List.sum_cons, ih]
      omega

/-- **Platform summary**: it is the sum of the theaters exactly when no booking
that counts is without a tenant. -/
theorem adds_iff (newDate : String → Time) (d : AnalyticsData) (from_ to_ : Option String)
    (hledger : ∀ e ∈ d.paymentLedger, e.tenantId ∈ d.tenants.map (·.id)) :
    (∃ s, getPlatformSummary newDate d "SUPER_ADMIN" from_ to_ = .ok s ∧
        Adds s (d.tenants.map fun t => getTheaterRevenueSummary newDate d t.id from_ to_)) ↔
      NoOrphan d (getUtcDateBoundaries newDate from_ to_) := by
  have hmoney (type : String) :
      (groupBy (·.type) (d.paymentLedger.filter fun e => e.status == "SUCCESS"
          && inWindow (getUtcDateBoundaries newDate from_ to_) e.createdAt)).foldl
          (fun n g => if g.1 = type then (g.2.map (·.amount)).sum else n) 0
        = (d.tenants.map fun t => (d.paymentLedger.filter fun e => e.tenantId == t.id
            && e.status == "SUCCESS"
            && inWindow (getUtcDateBoundaries newDate from_ to_) e.createdAt).foldl
            (fun n e => if e.type = type then n + e.amount else n) 0).sum := by
    rw [foldl_ledger, ← sum_tenants hledger]
    exact congrArg List.sum (List.map_congr_left fun t _ => (foldl_entries t.id type _).symm)
  have hbookings := sum_totalBookings newDate d from_ to_
  have hcounted : d.bookings.countP (fun b => countedStatuses.contains b.status
      && inWindow (getUtcDateBoundaries newDate from_ to_) b.createdAt)
        = (counted d (getUtcDateBoundaries newDate from_ to_)).length := List.countP_eq_length_filter
  rw [← orphans_eq_nil, ← List.length_eq_zero_iff]
  constructor
  · rintro ⟨s, hs, hadds⟩
    obtain rfl := Except.ok.inj hs
    have hcount := hadds.bookings
    rw [List.map_map] at hcount
    have htotal := hcounted.symm.trans hcount
    exact Nat.add_left_cancel (hbookings.trans (htotal.trans (Nat.add_zero _).symm))
  · intro hnone
    refine ⟨_, rfl, ⟨?_, ?_, ?_, ?_⟩⟩
    · rw [List.map_map]
      exact hmoney "PAYMENT"
    · rw [List.map_map]
      exact hmoney "REFUND"
    · rw [List.map_map]
      exact (congrArg₂ (· - ·) (hmoney "PAYMENT") (hmoney "REFUND")).trans (sum_map_sub ..).symm
    · rw [List.map_map]
      rw [hnone, Nat.add_zero] at hbookings
      exact hcounted.trans hbookings.symm

namespace Sample

/-- One theater, with a booking of its own and one that has lost its tenant. -/
def twoBookings (tenantId : Option String) (h : ∀ id ∈ tenantId, id ∈ ["t1"]) : AnalyticsData where
  tenants := [⟨"t1", 0⟩]
  paymentLedger := [⟨"l1", "b1", 50000, "INR", "PAYMENT", "pay_1", "SUCCESS", "t1", 10⟩]
  bookings := [⟨"b1", some "t1", .CONFIRMED, 10⟩, ⟨"b2", tenantId, .CONFIRMED, 20⟩]
  primary := by decide
  foreign := by
    intro b hb id hid
    rcases List.mem_cons.mp hb with rfl | hb
    · obtain rfl := Option.mem_some_iff.mp hid
      exact List.mem_singleton_self _
    · obtain rfl := List.mem_singleton.mp hb
      exact h id hid

def kept : AnalyticsData := twoBookings (some "t1") (by decide)

def lost : AnalyticsData := twoBookings none (by decide)

end Sample

theorem adds_kept :
    (∃ s, getPlatformSummary (fun _ => 0) Sample.kept "SUPER_ADMIN" none none = .ok s ∧
        Adds s (Sample.kept.tenants.map fun t =>
          getTheaterRevenueSummary (fun _ => 0) Sample.kept t.id none none)) ↔
      NoOrphan Sample.kept (getUtcDateBoundaries (fun _ => 0) none none) :=
  adds_iff (fun _ => 0) Sample.kept none none (by decide)

/-- A booking without a tenant counts for the platform only. -/
theorem not_adds_lost :
    ¬ ∀ (newDate : String → Time) (d : AnalyticsData) (from_ to_ : Option String),
      (∀ e ∈ d.paymentLedger, e.tenantId ∈ d.tenants.map (·.id)) →
      ∃ s, getPlatformSummary newDate d "SUPER_ADMIN" from_ to_ = .ok s ∧
        Adds s (d.tenants.map fun t => getTheaterRevenueSummary newDate d t.id from_ to_) := by
  intro h
  obtain ⟨s, hs, hadds⟩ := h (fun _ => 0) Sample.lost none none (by decide)
  obtain rfl := Except.ok.inj hs
  have hbookings := hadds.bookings
  revert hbookings
  decide

end Omnipax.Analytics
