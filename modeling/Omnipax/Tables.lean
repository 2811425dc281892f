import Mathlib.Data.List.AList
import Mathlib.Data.List.Nodup
import Omnipax.LockKey
import Omnipax.Slug

/-!
# Tables, keys and queues

The rows of `schema.prisma` that the booking core reads or writes, the
seat-lock store in Redis, the two BullMQ queues and the messages of the
seat gateway. The constraints of the database are carried by the types: a
`Catalog` has unique ids and slugs, a `BookingTable` satisfies the four
unique indexes of `Booking` and its `INTEGER` amounts, and the only way to
change it is an operation that refuses a row breaking one of them.

Times are milliseconds since the epoch. Columns no operation of the core
looks at (names of users, audit timestamps) are left out.
-/

namespace Omnipax

abbrev Time := Int

/-! ## The catalogue: tenants, events and seats -/

structure Tenant where
  id : String
  slug : String
deriving Repr, DecidableEq

structure Event where
  id : String
  tenantId : String
  name : String
  startsAt : Time
deriving Repr, DecidableEq

structure Seat where
  id : String
  eventId : String
  seatNumber : Int
deriving Repr, DecidableEq

/-- `CreateTenantDto.slug`: `@MinLength(3) @Matches(/^[a-z0-9-]+$/)`. -/
def slugOk (slug : String) : Bool :=
  3 ≤ slug.length &&
    slug.toList.all fun c => ('a' ≤ c && c ≤ 'z') || ('0' ≤ c && c ≤ '9') || c == '-'

/-- What slugs consist of, both those asked for (`CreateTenantDto`) and those
`slugify` makes of the name of a theater. Only a name without a letter or digit
has an empty one, and no tenant of the catalogue is named so. -/
def isSlug (slug : String) : Bool :=
  slug != "" && slug.toList.all isSlugChar

/-- The shape of `@default(cuid())` ids: lower-case letters and digits. -/
def isCuid (s : String) : Bool :=
  s.toList.all fun c => c.isLower || c.isDigit

theorem isSlugChar_of_isSlug {slug : String} (h : isSlug slug = true) :
    ∀ c ∈ slug.toList, isSlugChar c = true :=
  List.all_eq_true.mp (Bool.and_eq_true_iff.mp h).2

theorem isSlug_of_slugOk {slug : String} (h : slugOk slug = true) : isSlug slug = true := by
  simp only [slugOk, Bool.and_eq_true, decide_eq_true_eq, List.all_eq_true] at h
  rw [isSlug, Bool.and_eq_true, bne_iff_ne, List.all_eq_true]
  refine ⟨?_, fun c hc => ?_⟩
  · rintro rfl
    exact absurd h.1 (by decide)
  · rw [isSlugChar, Bool.or_right_comm, h.2 c hc, Bool.true_or]

theorem noColon_of_isSlug {s : String} (h : isSlug s = true) : NoColon s :=
  fun hc => absurd (isSlugChar_of_isSlug h ':' hc) (by decide)

theorem noColon_of_isCuid {s : String} (h : isCuid s = true) : NoColon s := by
  intro hc
  exact absurd (List.all_eq_true.mp h ':' hc) (by decide)

/-- The tenants, events and seats of the platform. No operation of the
booking core writes them. -/
structure Catalog where
  tenants : List Tenant
  events : List Event
  seats : List Seat
  tenant_id_nodup : (tenants.map (·.id)).Nodup := by decide
  slug_nodup : (tenants.map (·.slug)).Nodup := by decide
  event_id_nodup : (events.map (·.id)).Nodup := by decide
  seat_id_nodup : (seats.map (·.id)).Nodup := by decide
  slug_ok : ∀ t ∈ tenants, isSlug t.slug = true := by decide
  event_cuid : ∀ e ∈ events, isCuid e.id = true := by decide
  seat_cuid : ∀ s ∈ seats, isCuid s.id = true := by decide

def Catalog.hasSlug (c : Catalog) (slug : String) : Bool :=
  c.tenants.any (·.slug == slug)

theorem Catalog.isSlug_of_hasSlug {c : Catalog} {slug : String} (h : c.hasSlug slug = true) :
    isSlug slug = true := by
  simp only [hasSlug, List.any_eq_true, beq_iff_eq] at h
  obtain ⟨t, ht, rfl⟩ := h
  exact c.slug_ok t ht

theorem Catalog.noColon_of_hasSlug {c : Catalog} {slug : String} (h : c.hasSlug slug = true) :
    NoColon slug :=
  noColon_of_isSlug (isSlug_of_hasSlug h)

/-! ## Bookings -/

inductive BookingStatus where
  | PENDING
  | CONFIRMED
  | EXPIRED
  | CANCELLED
  | FAILED
deriving Repr, DecidableEq

/-- A `Booking` row together with the seat ids of its `BookingSeat` rows. -/
structure Booking where
  id : String
  tenantId : String
  userId : String
  eventId : String
  status : BookingStatus
  amount : Int
  currency : String
  razorpayOrderId : Option String
  razorpayPaymentId : Option String
  razorpaySignature : Option String
  ticketCode : Option String
  ticketQrData : Option String
  expiresAt : Time
  bookingSeats : List String
deriving Repr, DecidableEq

/-- CONFIRMED, or PENDING with `expiresAt > now`: the `OR` of the admission
check and of the seat map. -/
def Booking.activeAt (b : Booking) (now : Time) : Bool :=
  b.status == .CONFIRMED || (b.status == .PENDING && now < b.expiresAt)

/-- The data of a `booking.update`; `none` leaves a column as it is. -/
structure BookingUpdate where
  status : BookingStatus
  razorpayPaymentId : Option String := none
  razorpaySignature : Option String := none
  ticketCode : Option String := none
  ticketQrData : Option String := none
deriving Repr, DecidableEq

def BookingUpdate.apply (d : BookingUpdate) (b : Booking) : Booking :=
  { b with
    status := d.status
    razorpayPaymentId := d.razorpayPaymentId.or b.razorpayPaymentId
    razorpaySignature := d.razorpaySignature.or b.razorpaySignature
    ticketCode := d.ticketCode.or b.ticketCode
    ticketQrData := d.ticketQrData.or b.ticketQrData }

/-- The primary key and the `@unique` columns of `Booking`. Null values do
not collide. -/
structure BookingsUnique (rows : List Booking) : Prop where
  id : (rows.map (·.id)).Nodup
  razorpayOrderId : (rows.filterMap (·.razorpayOrderId)).Nodup
  razorpayPaymentId : (rows.filterMap (·.razorpayPaymentId)).Nodup
  ticketCode : (rows.filterMap (·.ticketCode)).Nodup

theorem bookingsUnique_iff {rows : List Booking} :
    BookingsUnique rows ↔ (rows.map (·.id)).Nodup ∧
      (rows.filterMap (·.razorpayOrderId)).Nodup ∧
      (rows.filterMap (·.razorpayPaymentId)).Nodup ∧
      (rows.filterMap (·.ticketCode)).Nodup :=
  ⟨fun h => ⟨h.1, h.2, h.3, h.4⟩, fun h => ⟨h.1, h.2.1, h.2.2.1, h.2.2.2⟩⟩

instance (rows : List Booking) : Decidable (BookingsUnique rows) :=
  decidable_of_iff' _ bookingsUnique_iff

/-- Two members with one value in a duplicate-free column are one. -/
theorem eq_of_nodup_filterMap {α β : Type} {f : α → Option β} {l : List α}
    (hl : (l.filterMap f).Nodup) {a b : α} {x : β} (ha : a ∈ l) (hb : b ∈ l)
    (hfa : f a = some x) (hfb : f b = some x) : a = b := by
  induction l with
  | nil => cases ha
  | cons c l ih =>
      have hmem : ∀ {y}, y ∈ l → f y = some x → x ∈ l.filterMap f :=
        fun hy hfy => List.mem_filterMap.mpr ⟨_, hy, hfy⟩
      rcases List.mem_cons.mp ha with rfl | ha' <;> rcases List.mem_cons.mp hb with rfl | hb'
      · rfl
      · rw [List.filterMap_cons_some hfa, List.nodup_cons] at hl
        exact absurd (hmem hb' hfb) hl.1
      · rw [List.filterMap_cons_some hfb, List.nodup_cons] at hl
        exact absurd (hmem ha' hfa) hl.1
      · refine ih ?_ ha' hb'
        rw [List.filterMap_cons] at hl
        split at hl
        · exact hl
        · exact hl.of_cons

theorem find?_of_nodup_map {α : Type} {f : α → String} {l : List α} (hl : (l.map f).Nodup)
    {a : α} (ha : a ∈ l) : l.find? (f · == f a) = some a := by
  cases h : l.find? (f · == f a) with
  | none =>
      have := List.find?_eq_none.mp h a ha
      simp at this
  | some b =>
      have hb : f b = f a := by simpa using List.find?_some h
      rw [List.inj_on_of_nodup_map hl (List.mem_of_find?_eq_some h) ha hb]

/-- The values of an `INTEGER` column. -/
def int4 (n : Int) : Bool := -2147483648 ≤ n && n ≤ 2147483647

structure BookingTable where
  rows : List Booking
  unique : BookingsUnique rows
  amount_int4 : ∀ b ∈ rows, int4 b.amount = true

namespace BookingTable

/-- The table with these rows, unless they break a unique index (`P2002`) or
an amount is out of range (`P2020`). -/
def ofRows? (rows : List Booking) : Option BookingTable :=
  if h : BookingsUnique rows ∧ ∀ b ∈ rows, int4 b.amount = true then some ⟨rows, h.1, h.2⟩
  else none

def empty : BookingTable := ⟨[], by constructor <;> exact List.nodup_nil, nofun⟩

/-- `booking.create`. -/
def create (t : BookingTable) (b : Booking) : Option BookingTable :=
  ofRows? (t.rows ++ [b])

/-- `booking.update` on the row with this id. -/
def update (t : BookingTable) (id : String) (d : BookingUpdate) : Option BookingTable :=
  ofRows? (t.rows.map fun b => if b.id = id then d.apply b else b)

def find? (t : BookingTable) (id : String) : Option Booking :=
  t.rows.find? (·.id == id)

def findByOrder? (t : BookingTable) (orderId : String) : Option Booking :=
  t.rows.find? (·.razorpayOrderId == some orderId)

theorem ofRows?_eq_some {rows : List Booking} {t : BookingTable} :
    ofRows? rows = some t ↔ t.rows = rows := by
  unfold ofRows?
  constructor
  · intro h
    split at h
    · obtain rfl := Option.some.inj h
      rfl
    · cases h
  · rintro rfl
    rw [dif_pos ⟨t.unique, t.amount_int4⟩]

theorem create_eq_some {t t' : BookingTable} {b : Booking} :
    t.create b = some t' ↔ t'.rows = t.rows ++ [b] := ofRows?_eq_some

theorem update_eq_some {t t' : BookingTable} {id : String} {d : BookingUpdate} :
    t.update id d = some t' ↔
      t'.rows = t.rows.map fun b => if b.id = id then d.apply b else b := ofRows?_eq_some

theorem eq_of_id {t : BookingTable} {b b' : Booking} (hb : b ∈ t.rows)
    (hb' : b' ∈ t.rows) (h : b.id = b'.id) : b = b' :=
  List.inj_on_of_nodup_map t.unique.id hb hb' h

theorem eq_of_order {t : BookingTable} {b b' : Booking} {o : String} (hb : b ∈ t.rows)
    (hb' : b' ∈ t.rows) (ho : b.razorpayOrderId = some o) (ho' : b'.razorpayOrderId = some o) :
    b = b' :=
  eq_of_nodup_filterMap t.unique.razorpayOrderId hb hb' ho ho'

theorem mem_of_find? {t : BookingTable} {id : String} {b : Booking}
    (h : t.find? id = some b) : b ∈ t.rows ∧ b.id = id :=
  ⟨List.mem_of_find?_eq_some h, by simpa using List.find?_some h⟩

theorem mem_of_findByOrder? {t : BookingTable} {o : String} {b : Booking}
    (h : t.findByOrder? o = some b) : b ∈ t.rows ∧ b.razorpayOrderId = some o :=
  ⟨List.mem_of_find?_eq_some h, by simpa using List.find?_some h⟩

theorem find?_of_mem {t : BookingTable} {b : Booking} (hb : b ∈ t.rows) :
    t.find? b.id = some b :=
  find?_of_nodup_map t.unique.id hb

/-- The rows of an updated table: the updated one and the others. -/
theorem mem_update {t t' : BookingTable} {b₀ : Booking} {d : BookingUpdate}
    (hb₀ : b₀ ∈ t.rows) (ht : t.update b₀.id d = some t') {b : Booking} (hb : b ∈ t'.rows) :
    b = d.apply b₀ ∨ b ∈ t.rows ∧ b ≠ b₀ := by
  rw [update_eq_some.mp ht] at hb
  obtain ⟨b₁, hb₁, rfl⟩ := List.mem_map.mp hb
  split
  · rename_i hid
    rw [eq_of_id hb₁ hb₀ hid]
    exact Or.inl rfl
  · rename_i hid
    exact Or.inr ⟨hb₁, fun h => hid (congrArg Booking.id h)⟩

theorem mem_update_of_ne {t t' : BookingTable} {b₀ b : Booking} {d : BookingUpdate}
    (hb₀ : b₀ ∈ t.rows) (ht : t.update b₀.id d = some t') (hb : b ∈ t.rows) (hne : b ≠ b₀) :
    b ∈ t'.rows := by
  rw [update_eq_some.mp ht]
  exact List.mem_map.mpr ⟨b, hb, if_neg fun hid => hne (eq_of_id hb hb₀ hid)⟩

theorem apply_mem_update {t t' : BookingTable} {b : Booking} {d : BookingUpdate}
    (hb : b ∈ t.rows) (ht : t.update b.id d = some t') : d.apply b ∈ t'.rows := by
  rw [update_eq_some.mp ht]
  exact List.mem_map.mpr ⟨b, hb, if_pos rfl⟩

/-- What an update leaves alone, it leaves alone in the whole column. -/
theorem map_update {β : Type} {f : Booking → β} {d : BookingUpdate}
    (hf : ∀ b, f (d.apply b) = f b) (id : String) (rows : List Booking) :
    (rows.map fun b => if b.id = id then d.apply b else b).map f = rows.map f := by
  rw [List.map_map]
  refine List.map_congr_left fun b _ => ?_
  rw [Function.comp_apply]
  split
  · exact hf b
  · rfl

/-- An update of nothing but the status breaks no unique index. -/
theorem exists_update_status (t : BookingTable) (id : String) (status : BookingStatus) :
    ∃ t', t.update id { status } = some t' := by
  have hcol? : ∀ f : Booking → Option String,
      (∀ b, f (BookingUpdate.apply { status } b) = f b) →
      (t.rows.map fun b => if b.id = id then BookingUpdate.apply { status } b else b).filterMap f
        = t.rows.filterMap f := by
    intro f hf
    have hmap : ∀ l : List Booking, l.filterMap f = (l.map f).filterMap (fun x => x) :=
      fun l => by rw [List.filterMap_map]; rfl
    rw [hmap, map_update hf, ← hmap]
  have hunique : BookingsUnique
      (t.rows.map fun b => if b.id = id then BookingUpdate.apply { status } b else b) :=
    { id := by
        rw [map_update fun _ => rfl]
        exact t.unique.id
      razorpayOrderId := by
        rw [hcol? _ fun _ => rfl]
        exact t.unique.razorpayOrderId
      razorpayPaymentId := by
        rw [hcol? _ fun b => Option.none_or ..]
        exact t.unique.razorpayPaymentId
      ticketCode := by
        rw [hcol? _ fun b => Option.none_or ..]
        exact t.unique.ticketCode }
  have hamount : ∀ b' ∈ t.rows.map fun b =>
      if b.id = id then BookingUpdate.apply { status } b else b, int4 b'.amount = true := by
    intro b' hb'
    obtain ⟨b, hb, rfl⟩ := List.mem_map.mp hb'
    rw [apply_ite Booking.amount]
    exact (ite_self (b.amount)).symm ▸ t.amount_int4 b hb
  exact ⟨⟨_, hunique, hamount⟩, update_eq_some.mpr rfl⟩

end BookingTable

/-! ## Seat locks -/

/-- The JSON value stored under a lock key. -/
structure SeatLockPayload where
  tenantSlug : String
  eventId : String
  seatId : String
  userId : String
  token : String
  lockedAt : Time
deriving Repr, DecidableEq

/-- A stored value and the time at which its `PX` runs out. -/
structure LockEntry where
  value : SeatLockPayload
  expireAt : Time
deriving Repr, DecidableEq

abbrev LockStore := AList fun _ : String => LockEntry

structure SeatLockExpiryJobData where
  tenantSlug : String
  eventId : String
  seatId : String
  token : String
deriving Repr, DecidableEq

structure BookingExpiryJobData where
  bookingId : String
deriving Repr, DecidableEq

/-- A delayed BullMQ job: it is handed to its processor from `dueAt` on. -/
structure Job (α : Type) where
  data : α
  dueAt : Time
  jobId : String
deriving Repr, DecidableEq

/-! ## Webhook events and gateway messages -/

structure PaymentWebhookEvent where
  eventId : String
  eventType : String
  paymentId : Option String
  orderId : Option String
deriving Repr, DecidableEq

inductive UnlockReason where
  | user
  | expired
  | system
deriving Repr, DecidableEq

/-- The payloads of the `seat_update` message. -/
inductive SeatUpdate where
  | SEAT_LOCKED (tenantSlug eventId seatId userId : String)
  | SEAT_UNLOCKED (tenantSlug eventId seatId : String) (reason : UnlockReason)
  | SEATS_RESERVED_PENDING_PAYMENT (tenantSlug eventId : String) (seatIds : List String)
  | BOOKING_CONFIRMED (tenantSlug eventId : String) (seatIds : List String)
  | BOOKING_EXPIRED (tenantSlug eventId : String) (seatIds : List String)
deriving Repr, DecidableEq

/-! ## The shared state -/

/-- Everything the booking core shares: the clock, the database, Redis, the
queues and the messages emitted so far, oldest first. -/
structure World where
  clock : Time
  catalog : Catalog
  bookings : BookingTable
  webhookEvents : List PaymentWebhookEvent
  locks : LockStore
  seatLockExpiryQueue : List (Job SeatLockExpiryJobData)
  bookingExpiryQueue : List (Job BookingExpiryJobData)
  messages : List SeatUpdate

namespace World

/-- A platform as it is before its first call: a catalogue, nothing sold or locked yet, and
nothing queued or sent. -/
def init (clock : Time) (catalog : Catalog) : World where
  clock := clock
  catalog := catalog
  bookings := .empty
  webhookEvents := []
  locks := ∅
  seatLockExpiryQueue := []
  bookingExpiryQueue := []
  messages := []

/-- The entry a Redis command sees: one whose time has passed is gone
(Redis drops a key once the clock is strictly past its expiry). -/
def liveLock (w : World) (key : String) : Option LockEntry :=
  (w.locks.lookup key).filter fun e => w.clock ≤ e.expireAt

theorem liveLock_eq_some {w : World} {key : String} {e : LockEntry} :
    w.liveLock key = some e ↔ w.locks.lookup key = some e ∧ w.clock ≤ e.expireAt := by
  simp [liveLock, Option.filter_eq_some_iff]

/-- Time passes. A reading that lies before the last one leaves the clock as it is, so it
never runs backwards. -/
def tick (w : World) (t : Time) : World :=
  { w with clock := max w.clock t }

@[simp] theorem tick_catalog (w : World) (t : Time) : (w.tick t).catalog = w.catalog := rfl

@[simp] theorem tick_bookings (w : World) (t : Time) : (w.tick t).bookings = w.bookings := rfl

@[simp] theorem tick_locks (w : World) (t : Time) : (w.tick t).locks = w.locks := rfl

@[simp] theorem tick_clock (w : World) (t : Time) : (w.tick t).clock = max w.clock t := rfl

theorem le_tick (w : World) (t : Time) : w.clock ≤ (w.tick t).clock :=
  Int.le_max_left ..

end World

end Omnipax
