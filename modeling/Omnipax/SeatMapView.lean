import Omnipax.Outcomes
import Omnipax.Reachable

/-!
# The seat map and admission

`getSeatMap` finds the locks of an event by a `KEYS` glob and files them
under the `seatId` inside their values; `lockSeat` and `initiateBooking`
read one exact key. The glob of an event also matches the keys of event
strings that start with the event's id and a colon, and `lockSeat` takes
any string for an event: such a lock shadows a seat it does not lock.

The two agree about a seat if and only if it is busy, or every shadowing
lock is backed by a lock of the seat itself whose owner is the same user
or, like the shadowing one's, somebody else.
-/

namespace Omnipax

open Conc Prog

/-! ## Runs without failures -/

section Runs

variable {P : Platform} {w : World} {os : Nat → Oracle}

theorem run_admissionChecks (hup : Up os) (tenant : TenantContext) (eventId seat u : String)
    (n : Nat) :
    ((admissionChecks tenant eventId [seat] u).run (machine P) os n w).result.isOk = true ↔
      (∃ en, w.liveLock (getLockKey tenant.slug eventId seat) = some en ∧
        en.value.userId = u) ∧ w.bookedSeats [seat] tenant.id eventId w.clock = [] := by
  have hchecks : Checks (machine P) os w (admissionChecks tenant eventId [seat] u) n (n + 3)
      (w.Owned tenant.slug eventId u [seat] ∧
        w.bookedSeats [seat] tenant.id eventId w.clock = []) w.clock :=
    (checks_admissionChecks tenant eventId u [seat]).congr
      ⟨fun h => ⟨h.1.2, h.2.2⟩, fun h => ⟨⟨fun i _ => hup _, h.1⟩, hup _, h.2⟩⟩
  have howned : w.Owned tenant.slug eventId u [seat] ↔
      ∃ en, w.liveLock (getLockKey tenant.slug eventId seat) = some en ∧ en.value.userId = u := by
    simp [World.Owned]
  rw [← howned]
  by_cases h : w.Owned tenant.slug eventId u [seat] ∧
      w.bookedSeats [seat] tenant.id eventId w.clock = []
  · rw [hchecks.passes h]
    exact iff_of_true rfl h
  · obtain ⟨err, n', hrun⟩ := hchecks.throws h
    rw [hrun]
    exact iff_of_false Bool.false_ne_true h

theorem run_existingCheck (hup : Up os) (tenantId eventId seat : String) :
    ((existingCheck tenantId eventId [seat]).run (machine P) os 0 w).result
      = .error (.conflict "Some seats are no longer available") ↔
      w.bookedSeats [seat] tenantId eventId w.clock ≠ [] := by
  unfold existingCheck
  rw [run_await_ok (.inl rfl) rfl, run_await_ok (.inr (hup _)) rfl]
  by_cases h : w.bookedSeats [seat] tenantId eventId w.clock = []
  · rw [h, shuffle_eq_nil.mpr rfl]
    simp
  · have hpos : 0 < (shuffle (os 1).order
        (w.bookedSeats [seat] tenantId eventId w.clock)).length := by
      rw [(shuffle_perm ..).length_eq]
      exact List.length_pos_of_ne_nil h
    simp [hpos, h]

theorem holdsLock_acquire {v : SeatLockPayload} (h : 0 < P.seatLockTtlSeconds) :
    ∃ en, (w.acquire P v).liveLock (getLockKey v.tenantSlug v.eventId v.seatId) = some en ∧
      en.value.userId = v.userId := by
  have hlive : w.clock ≤ w.clock + P.seatLockTtlSeconds * 1000 :=
    Int.le_add_of_nonneg_right (by omega)
  exact ⟨_, World.liveLock_eq_some.mpr ⟨AList.lookup_insert _, hlive⟩, rfl⟩

/-- Locking a seat and then checking it: the lock must be free, and no
booking may hold the seat. -/
theorem run_lockThenCheck (hup : Up os) (tenant : TenantContext) (eventId seat u : String) :
    ((lockSeat P tenant.slug eventId seat u >>= fun _ =>
      admissionChecks tenant eventId [seat] u).run (machine P) os 0 w).result.isOk = true ↔
      (0 < P.seatLockTtlSeconds ∧ w.liveLock (getLockKey tenant.slug eventId seat) = none) ∧
        w.bookedSeats [seat] tenant.id eventId w.clock = [] := by
  have hlock := run_lockSeat (P := P) (w := w) hup tenant.slug eventId seat u
  rw [run_bind]
  rcases hout : (lockSeat P tenant.slug eventId seat u).run (machine P) os 0 w with ⟨r, n, w'⟩
  rw [hout] at hlock
  dsimp only at hlock
  split at hlock
  · rename_i hfree
    obtain ⟨hok, rfl⟩ := hlock
    cases r with
    | error e => cases hok
    | ok a =>
        dsimp only
        rw [run_admissionChecks hup, and_iff_right hfree]
        exact and_iff_right (holdsLock_acquire hfree.1)
  · rename_i hfree
    cases r with
    | error e => exact iff_of_false (by simp [Except.isOk, Except.toBool]) fun h => hfree h.1
    | ok a => cases hlock.1

end Runs

/-! ## What the map shows -/

theorem mapGet_eq_none {β : Type} {entries : List (String × β)} {k : String} :
    mapGet entries k = none ↔ ∀ x ∈ entries, x.1 ≠ k := by
  rw [mapGet, List.lookup_eq_none_iff]
  simp only [List.mem_reverse, bne_iff_ne]
  exact ⟨fun h x hx he => h x hx he.symm, fun h x hx he => h x hx he.symm⟩

theorem mem_of_mapGet {β : Type} {entries : List (String × β)} {k : String} {v : β}
    (h : mapGet entries k = some v) : (k, v) ∈ entries := by
  rw [mapGet, List.lookup_eq_some_iff] at h
  obtain ⟨l₁, l₂, hl, -⟩ := h
  rw [← List.mem_reverse, hl]
  simp

theorem mapGet_of_getLast {β : Type} {entries : List (String × β)} {k : String} {v : β}
    (h : entries.getLast? = some (k, v)) : mapGet entries k = some v := by
  obtain ⟨l, rfl⟩ := List.getLast?_eq_some_iff.mp h
  simp [mapGet]

theorem exists_shuffle_getLast {α : Type} {l : List α} {a : α} (ha : a ∈ l) :
    ∃ ns, (shuffle ns l).getLast? = some a := by
  induction l with
  | nil => cases ha
  | cons b l ih =>
      rcases List.mem_cons.mp ha with rfl | ha
      · refine ⟨[l.length], ?_⟩
        simp [shuffle]
      · obtain ⟨ns, hns⟩ := ih ha
        exact ⟨0 :: ns, by simp [shuffle, List.getLast?_cons, hns]⟩

section SeatView

variable {busy : List (String × BookedSeat)} {locked : List (String × SeatLockPayload)}
  {userId : Option String} {seat : Seat}

@[simp] theorem seatView_id : (seatView busy locked userId seat).id = seat.id := by
  unfold seatView
  cases mapGet busy seat.id with
  | some booked => rfl
  | none => cases mapGet locked seat.id <;> rfl

variable (busy locked userId seat) in
theorem seatView_status :
    (((seatView busy locked userId seat).status = .BOOKED ∨
      (seatView busy locked userId seat).status = .PENDING_PAYMENT) ↔
      mapGet busy seat.id ≠ none) ∧
    ((seatView busy locked userId seat).status = .LOCKED_BY_ME ↔
      mapGet busy seat.id = none ∧ ∃ lock, mapGet locked seat.id = some lock ∧
        some lock.userId = userId) ∧
    ((seatView busy locked userId seat).status = .AVAILABLE ↔
      mapGet busy seat.id = none ∧ mapGet locked seat.id = none) := by
  unfold seatView
  cases mapGet busy seat.id with
  | some booked => by_cases h : booked.status = .CONFIRMED <;> simp [h]
  | none =>
      cases mapGet locked seat.id with
      | none => simp
      | some lock => by_cases h : some lock.userId = userId <;> simp [h]

end SeatView

/-- The locks the map of an event sees, in the order of their keys. -/
def World.mapLocks (w : World) (tenantSlug eventId : String) (order : List Nat) :
    List SeatLockPayload :=
  (shuffle order (w.matchingKeys (locksPrefix tenantSlug eventId ++ "*"))).filterMap fun k =>
    (w.liveLock k).map (·.value)

/-- The lock the map of an event files under a seat. -/
def World.mapLock (w : World) (tenantSlug eventId seatId : String) (order : List Nat) :
    Option SeatLockPayload :=
  mapGet ((w.mapLocks tenantSlug eventId order).map fun l => (l.seatId, l)) seatId

theorem mem_of_mapLock {w : World} {t e seatId : String} {order : List Nat}
    {v : SeatLockPayload} (h : w.mapLock t e seatId order = some v) :
    v ∈ w.mapLocks t e order ∧ v.seatId = seatId := by
  obtain ⟨v', hv', heq⟩ := List.mem_map.mp (mem_of_mapGet h)
  obtain ⟨hid, rfl⟩ := Prod.mk.inj heq
  exact ⟨hv', hid⟩

theorem run_getLocksForEvent {P : Platform} {w : World} {os : Nat → Oracle} (hup : Up os)
    (t e : String) (n : Nat) : ∃ n', (getLocksForEvent t e).run (machine P) os n w
      = ⟨.ok (w.mapLocks t e (os n).order), n', w⟩ := by
  unfold getLocksForEvent World.mapLocks
  rw [run_await_ok (.inr (hup _)) rfl]
  cases hkeys : shuffle (os n).order (w.matchingKeys (locksPrefix t e ++ "*")) with
  | nil => exact ⟨n + 1, rfl⟩
  | cons k ks =>
      rw [if_neg (by simp), run_await_ok (.inr (hup _)) rfl, List.filterMap_map]
      exact ⟨n + 2, rfl⟩

/-- The status the map shows for a seat. -/
def reported (P : Platform) (w : World) (tenant : TenantContext) (eventId seatId u : String)
    (os : Nat → Oracle) : Option SeatStatus :=
  match ((getSeatMap tenant.id tenant.slug eventId (some u)).run (machine P) os 0 w).result with
  | .ok map => (map.seats.find? (·.id == seatId)).map (·.status)
  | .error _ => none

/-- No active booking of the event holds the seat, which is what a booking of it asks the
table. -/
def World.Free (w : World) (tenantId eventId seatId : String) : Prop :=
  w.bookedSeats [seatId] tenantId eventId w.clock = []

instance (w : World) (tenantId eventId seatId : String) :
    Decidable (w.Free tenantId eventId seatId) :=
  inferInstanceAs (Decidable (_ = _))

/-- The query for all seats of the event finds a seat when the query for it
alone does. -/
theorem mapGet_bookedSeats {w : World} {rows : List BookedSeat} {seatIds : List String}
    {tenantId eventId seatId : String}
    (hrows : ∀ x, x ∈ rows ↔ x ∈ w.bookedSeats seatIds tenantId eventId w.clock)
    (hmem : seatId ∈ seatIds) :
    mapGet (rows.map fun r => (r.seatId, r)) seatId = none ↔ w.Free tenantId eventId seatId := by
  rw [mapGet_eq_none, World.Free, List.eq_nil_iff_forall_not_mem]
  constructor
  · intro h x hx
    obtain ⟨b, hb, hact, s, hs, hids, rfl⟩ := World.mem_bookedSeats.mp hx
    obtain rfl := List.mem_singleton.mp hids
    exact h _ (List.mem_map_of_mem ((hrows _).mpr
      (World.mem_bookedSeats.mpr ⟨b, hb, hact, s, hs, hmem, rfl⟩))) rfl
  · rintro h _ hx rfl
    obtain ⟨r, hr, rfl⟩ := List.mem_map.mp hx
    obtain ⟨b, hb, hact, s, hs, -, rfl⟩ := World.mem_bookedSeats.mp ((hrows r).mp hr)
    exact h _ (World.mem_bookedSeats.mpr ⟨b, hb, hact, s, hs, List.mem_singleton_self _, rfl⟩)

/-- The view of one seat of the event: it is computed from the bookings that
hold seats of the event and the locks the map sees. -/
theorem run_getSeatMap {P : Platform} {w : World} {os : Nat → Oracle} (hup : Up os)
    {tenant : TenantContext} {eventId : String} {event : Event} {seat : Seat}
    (userId : Option String) (hevent : w.catalog.findEvent eventId tenant.id = some event)
    (hseat : seat ∈ w.catalog.seatsOf eventId) :
    ∃ (seatIds : List String) (rows : List BookedSeat) (map : SeatMap), seat.id ∈ seatIds ∧
      (∀ r, r ∈ rows ↔ r ∈ w.bookedSeats seatIds tenant.id eventId w.clock) ∧
      ((getSeatMap tenant.id tenant.slug eventId userId).run (machine P) os 0 w).result
        = .ok map ∧
      map.seats.find? (·.id == seat.id) = some (seatView (rows.map fun r => (r.seatId, r))
        ((w.mapLocks tenant.slug eventId (os 3).order).map fun l => (l.seatId, l)) userId seat) := by
  let locked := (w.mapLocks tenant.slug eventId (os 3).order).map fun l => (l.seatId, l)
  let seats := (w.catalog.seatsOf eventId).mergeSort fun a b => a.seatNumber ≤ b.seatNumber
  have hperm : seats.Perm (w.catalog.seatsOf eventId) := List.mergeSort_perm ..
  have hmem : seat ∈ seats := hperm.mem_iff.mpr hseat
  let rows := shuffle (os 2).order (w.bookedSeats (seats.map (·.id)) tenant.id eventId w.clock)
  let view := seatView (rows.map fun r => (r.seatId, r)) locked userId
  refine ⟨seats.map (·.id), rows, ⟨event, seats.map view⟩, List.mem_map_of_mem hmem,
    fun _ => mem_shuffle, ?_, ?_⟩
  · obtain ⟨n, hlocks⟩ := run_getLocksForEvent (P := P) (w := w) hup tenant.slug eventId 3
    unfold getSeatMap
    rw [run_await_ok (.inr (hup _)) rfl]
    simp only [hevent, Option.map_some]
    rw [run_await_ok (.inl rfl) rfl, run_await_ok (.inr (hup _)) rfl, run_bind_ok _ _ hlocks]
    rfl
  · have hnodup : (seats.map (·.id)).Nodup :=
      (hperm.map _).nodup_iff.mpr (Catalog.nodup_seatsOf w.catalog eventId)
    have hfind : seats.find? ((·.id == seat.id) ∘ view) = some seat := by
      simp only [Function.comp_def, view, seatView_id]
      exact find?_of_nodup_map hnodup hmem
    simp only [List.find?_map, hfind, Option.map_some]
    rfl

theorem reported_status {P : Platform} {w : World} {os : Nat → Oracle} (hup : Up os)
    {tenant : TenantContext} {eventId : String} {event : Event} {seat : Seat} (u : String)
    (hevent : w.catalog.findEvent eventId tenant.id = some event)
    (hseat : seat ∈ w.catalog.seatsOf eventId) :
    ∃ status, reported P w tenant eventId seat.id u os = some status ∧
      (status = .BOOKED ∨ status = .PENDING_PAYMENT ↔ ¬w.Free tenant.id eventId seat.id) ∧
      (status = .LOCKED_BY_ME ↔ w.Free tenant.id eventId seat.id ∧
        ∃ lock, w.mapLock tenant.slug eventId seat.id (os 3).order = some lock ∧
          lock.userId = u) ∧
      (status = .AVAILABLE ↔ w.Free tenant.id eventId seat.id ∧
        w.mapLock tenant.slug eventId seat.id (os 3).order = none) := by
  obtain ⟨seatIds, rows, map, hmem, hrows, hmap, hfind⟩ :=
    run_getSeatMap (P := P) hup (some u) hevent hseat
  let locked := (w.mapLocks tenant.slug eventId (os 3).order).map fun l => (l.seatId, l)
  have hfree := mapGet_bookedSeats hrows hmem
  refine ⟨(seatView (rows.map fun r => (r.seatId, r)) locked (some u) seat).status, ?_, ?_⟩
  · rw [reported, hmap]
    simp only [hfind, Option.map_some]
    rfl
  · obtain ⟨hbusy, hmine, havail⟩ :=
      seatView_status (rows.map fun r => (r.seatId, r)) locked (some u) seat
    rw [hbusy, hmine, havail, ← hfree]
    simp [World.mapLock, locked]

/-! ## Shadowing locks -/

/-- A live lock of the tenant that names the seat, but another event string
that starts with the event's id and a colon. -/
structure ShadowLock (w : World) (tenantSlug eventId seatId : String) (en : LockEntry) :
    Prop where
  live : ∃ key, w.liveLock key = some en
  tenantSlug : en.value.tenantSlug = tenantSlug
  eventId : Shadows eventId en.value.eventId
  seatId : en.value.seatId = seatId

/-- Every lock that shadows the seat is backed by a lock of the seat itself
that is just as much the user's, or not. -/
def Backed (w : World) (tenantSlug eventId seatId u : String) : Prop :=
  ∀ en, ShadowLock w tenantSlug eventId seatId en →
    ∃ real, w.liveLock (getLockKey tenantSlug eventId seatId) = some real ∧
      (en.value.userId = u ↔ real.value.userId = u)

theorem globLiteral_of_isSlugChar {c : Char} (h : isSlugChar c = true) :
    globLiteral c = true := by
  simp only [globLiteral, Bool.and_eq_true, bne_iff_ne, and_assoc]
  refine ⟨?_, ?_, ?_, ?_⟩
  all_goals
    rintro rfl
    exact absurd h (by decide)

theorem isSlugChar_of_cuidChar {c : Char} (h : (c.isLower || c.isDigit) = true) :
    isSlugChar c = true := by
  have hslug : isSlugChar c = (c.isLower || c.isDigit || c == '_' || c == '-') := rfl
  rw [hslug, h, Bool.true_or, Bool.true_or]

theorem globLiteral_locksPrefix {t e : String} (ht : isSlug t = true) (he : isCuid e = true) :
    ∀ c ∈ (locksPrefix t e).toList, globLiteral c = true := by
  intro c hc
  simp only [isCuid, List.all_eq_true] at he
  rw [locksPrefix_toList] at hc
  simp only [List.mem_append, List.mem_cons, List.not_mem_nil, or_false] at hc
  rcases hc with hc | hc | rfl | hc | rfl
  · have hall : "seat-lock:".toList.all globLiteral = true := by decide
    exact List.all_eq_true.mp hall c hc
  · exact globLiteral_of_isSlugChar (isSlugChar_of_isSlug ht c hc)
  · decide
  · exact globLiteral_of_isSlugChar (isSlugChar_of_cuidChar (he c hc))
  · decide

theorem mem_matchingKeys {w : World} (hw : KeyedLocks w) {t e : String} (ht : isSlug t = true)
    (he : isCuid e = true) {key : String} :
    key ∈ w.matchingKeys (locksPrefix t e ++ "*") ↔ ∃ en, w.liveLock key = some en ∧
      en.value.tenantSlug = t ∧ (en.value.eventId = e ∨ Shadows e en.value.eventId) := by
  have hmatch : ∀ en, w.liveLock key = some en →
      (globMatch (locksPrefix t e ++ "*") key = true ↔
        en.value.tenantSlug = t ∧ (en.value.eventId = e ∨ Shadows e en.value.eventId)) := by
    intro en hen
    obtain ⟨hkey, hslug⟩ := hw key en (World.liveLock_eq_some.mp hen).1
    rw [globMatch_iff (globLiteral_locksPrefix ht he), hkey,
      prefix_getLockKey_iff (noColon_of_isSlug ht) (noColon_of_isCuid he) hslug]
  simp only [World.matchingKeys, List.mem_filter, Bool.and_eq_true]
  constructor
  · rintro ⟨-, hsome, hglob⟩
    obtain ⟨en, hen⟩ := Option.isSome_iff_exists.mp hsome
    exact ⟨en, hen, (hmatch en hen).mp hglob⟩
  · rintro ⟨en, hen, h⟩
    refine ⟨?_, by rw [hen]; rfl, (hmatch en hen).mpr h⟩
    have hlookup : w.locks.lookup key = some en := (World.liveLock_eq_some.mp hen).1
    exact AList.mem_keys.mpr (AList.lookup_isSome.mp (by rw [hlookup]; rfl))

theorem mem_mapLocks {w : World} (hw : KeyedLocks w) {t e : String} (ht : isSlug t = true)
    (he : isCuid e = true) {order : List Nat} {v : SeatLockPayload} :
    v ∈ w.mapLocks t e order ↔ ∃ key en, w.liveLock key = some en ∧ en.value = v ∧
      v.tenantSlug = t ∧ (v.eventId = e ∨ Shadows e v.eventId) := by
  simp only [World.mapLocks, List.mem_filterMap, mem_shuffle, Option.map_eq_some_iff]
  constructor
  · rintro ⟨key, hkey, en, hen, rfl⟩
    obtain ⟨en', hen', h⟩ := (mem_matchingKeys hw ht he).mp hkey
    obtain rfl := Option.some.inj (hen.symm.trans hen')
    exact ⟨key, en, hen, rfl, h⟩
  · rintro ⟨key, en, hen, rfl, h⟩
    exact ⟨key, (mem_matchingKeys hw ht he).mpr ⟨en, hen, h⟩, en, hen, rfl⟩

/-- A lock the map files under the seat is the seat's own or shadows it. -/
theorem own_or_shadow {w : World} (hw : KeyedLocks w) {t e seatId : String}
    (ht : isSlug t = true) (he : isCuid e = true) {order : List Nat} {v : SeatLockPayload}
    (hv : v ∈ w.mapLocks t e order) (hs : v.seatId = seatId) :
    (∃ en, w.liveLock (getLockKey t e seatId) = some en ∧ en.value = v) ∨
      ∃ en, ShadowLock w t e seatId en ∧ en.value = v := by
  obtain ⟨key, en, hen, rfl, hslug, hevent⟩ := (mem_mapLocks hw ht he).mp hv
  rcases hevent with hevent | hevent
  · obtain ⟨hkey, -⟩ := hw key en (World.liveLock_eq_some.mp hen).1
    rw [hslug, hevent, hs] at hkey
    exact Or.inl ⟨en, hkey ▸ hen, rfl⟩
  · exact Or.inr ⟨en, ⟨⟨key, hen⟩, hslug, hevent, hs⟩, rfl⟩

/-- The seat's own lock is one the map files under the seat. -/
theorem own_mem_mapLocks {w : World} (hw : KeyedLocks w) {t e seatId : String}
    (ht : isSlug t = true) (he : isCuid e = true) (hs : NoColon seatId) {en : LockEntry}
    (hen : w.liveLock (getLockKey t e seatId) = some en) (order : List Nat) :
    en.value ∈ w.mapLocks t e order ∧ en.value.seatId = seatId := by
  obtain ⟨hkey, hslug⟩ := hw _ en (World.liveLock_eq_some.mp hen).1
  obtain ⟨h1, h2, h3⟩ :=
    getLockKey_inj (noColon_of_isSlug ht) (noColon_of_isCuid he) hs hslug hkey.symm
  exact ⟨(mem_mapLocks hw ht he).mpr ⟨_, en, hen, rfl, h1, Or.inl h2⟩, h3⟩

theorem exists_order_mapGet {w : World} (hw : KeyedLocks w) {t e seatId : String}
    (ht : isSlug t = true) (he : isCuid e = true) {en : LockEntry}
    (h : ShadowLock w t e seatId en) :
    ∃ order, w.mapLock t e seatId order = some en.value := by
  obtain ⟨key, hkey⟩ := h.live
  obtain ⟨order, hlast⟩ := exists_shuffle_getLast
    ((mem_matchingKeys hw ht he).mpr ⟨en, hkey, h.tenantSlug, Or.inr h.eventId⟩)
  refine ⟨order, mapGet_of_getLast ?_⟩
  obtain ⟨l, hl⟩ := List.getLast?_eq_some_iff.mp hlast
  simp [World.mapLocks, hl, hkey, h.seatId]

/-! ## Agreement -/

/-- The map and admission agree about a seat: it is shown as the user's own when a booking
of it would pass, as taken when a booking refuses it, and as available when it can be locked
and booked. -/
structure MapAgrees (P : Platform) (w : World) (tenant : TenantContext)
    (eventId seatId u : String) (os os' : Nat → Oracle) : Prop where
  mine : reported P w tenant eventId seatId u os = some .LOCKED_BY_ME ↔
    ((admissionChecks tenant eventId [seatId] u).run (machine P) os' 0 w).result.isOk = true
  busy : reported P w tenant eventId seatId u os = some .BOOKED ∨
      reported P w tenant eventId seatId u os = some .PENDING_PAYMENT ↔
    ((existingCheck tenant.id eventId [seatId]).run (machine P) os' 0 w).result
      = .error (.conflict "Some seats are no longer available")
  available : reported P w tenant eventId seatId u os = some .AVAILABLE ↔
    ((lockSeat P tenant.slug eventId seatId u >>= fun _ =>
      admissionChecks tenant eventId [seatId] u).run (machine P) os' 0 w).result.isOk = true

theorem mapAgrees_of_up {P : Platform} {w : World} {tenant : TenantContext} {eventId u : String}
    {event : Event} {seat : Seat} {os os' : Nat → Oracle} (hup : Up os) (hup' : Up os')
    (hevent : w.catalog.findEvent eventId tenant.id = some event)
    (hseat : seat ∈ w.catalog.seatsOf eventId) :
    MapAgrees P w tenant eventId seat.id u os os' ↔
      (w.Free tenant.id eventId seat.id →
        ((∃ lock, w.mapLock tenant.slug eventId seat.id (os 3).order = some lock ∧
            lock.userId = u) ↔
          ∃ en, w.liveLock (getLockKey tenant.slug eventId seat.id) = some en ∧
            en.value.userId = u) ∧
        (w.mapLock tenant.slug eventId seat.id (os 3).order = none ↔
          0 < P.seatLockTtlSeconds ∧
            w.liveLock (getLockKey tenant.slug eventId seat.id) = none)) := by
  obtain ⟨status, hstatus, hbusy, hmine, havail⟩ := reported_status (P := P) hup u hevent hseat
  have hchecks := run_admissionChecks (P := P) (w := w) hup' tenant eventId seat.id u 0
  have hlock := run_lockThenCheck (P := P) (w := w) hup' tenant eventId seat.id u
  have hreject := run_existingCheck (P := P) (w := w) hup' tenant.id eventId seat.id
  have hagree : MapAgrees P w tenant eventId seat.id u os os' ↔
      (status = .LOCKED_BY_ME ↔
        (∃ en, w.liveLock (getLockKey tenant.slug eventId seat.id) = some en ∧
          en.value.userId = u) ∧ w.Free tenant.id eventId seat.id) ∧
      (status = .AVAILABLE ↔
        (0 < P.seatLockTtlSeconds ∧
          w.liveLock (getLockKey tenant.slug eventId seat.id) = none) ∧
          w.Free tenant.id eventId seat.id) := by
    constructor
    · rintro ⟨h1, -, h3⟩
      rw [hstatus, Option.some_inj] at h1 h3
      exact ⟨h1.trans hchecks, h3.trans hlock⟩
    · rintro ⟨h1, h3⟩
      refine ⟨?_, ?_, ?_⟩
      · rw [hstatus, Option.some_inj]
        exact h1.trans hchecks.symm
      · rw [hstatus, Option.some_inj, Option.some_inj]
        exact hbusy.trans hreject.symm
      · rw [hstatus, Option.some_inj]
        exact h3.trans hlock.symm
  rw [hagree, hmine, havail]
  by_cases hfree : w.Free tenant.id eventId seat.id
  · simp only [hfree, true_and, and_true, forall_const]
  · simp only [hfree, false_and, and_false, false_implies, and_self]

/-- **The seat map**: it agrees with admission about a seat, in whatever
order Redis lists the keys, if and only if the seat is busy, or locks can
be taken and every lock that shadows the seat is backed by its own. -/
theorem mapAgrees_iff (P : Platform) (w : World) (tenant : TenantContext) (eventId u : String)
    (event : Event) (seat : Seat) (hw : Reachable P w) (hslug : w.catalog.hasSlug tenant.slug = true)
    (hevent : w.catalog.findEvent eventId tenant.id = some event)
    (hseat : seat ∈ w.catalog.seatsOf eventId) :
    (∀ os os', Up os → Up os' → MapAgrees P w tenant eventId seat.id u os os') ↔
      (w.Free tenant.id eventId seat.id →
        0 < P.seatLockTtlSeconds ∧ Backed w tenant.slug eventId seat.id u) := by
  have ht := Catalog.isSlug_of_hasSlug hslug
  have he : isCuid eventId = true := by
    obtain ⟨e, hmem, hid, -⟩ := Catalog.findEvent_some (by rw [hevent]; rfl)
    rw [← hid]
    exact w.catalog.event_cuid e hmem
  have hs : NoColon seat.id :=
    noColon_of_isCuid (w.catalog.seat_cuid seat (List.mem_filter.mp hseat).1)
  have hkeyed := hw.keyedLocks
  constructor
  · intro h hfree
    have hall : ∀ order, _ ∧ _ := fun order =>
      have hagree := h (fun _ => { order }) (fun _ => {}) (fun _ => rfl) fun _ => rfl
      (mapAgrees_of_up (fun _ => rfl) (fun _ => rfl) hevent hseat).mp hagree hfree
    have httl : 0 < P.seatLockTtlSeconds := by
      -- without a TTL there is no lock, so the seat is shown as available
      cases hm : w.mapLock tenant.slug eventId seat.id [] with
      | none => exact ((hall []).2.mp hm).1
      | some v =>
          obtain ⟨key, en, hen, -⟩ := (mem_mapLocks hkeyed ht he).mp (mem_of_mapLock hm).1
          exact hw.ttl_pos (World.liveLock_eq_some.mp hen).1
    refine ⟨httl, fun en hen => ?_⟩
    obtain ⟨order, horder⟩ := exists_order_mapGet hkeyed ht he hen
    obtain ⟨hmine, havail⟩ := hall order
    cases hown : w.liveLock (getLockKey tenant.slug eventId seat.id) with
    | none =>
        have hnone := havail.mpr ⟨httl, hown⟩
        rw [horder] at hnone
        cases hnone
    | some real =>
        refine ⟨real, rfl, ?_⟩
        simpa [horder, hown] using hmine
  · intro h os os' hup hup'
    rw [mapAgrees_of_up hup hup' hevent hseat]
    intro hfree
    obtain ⟨httl, hbacked⟩ := h hfree
    cases hm : w.mapLock tenant.slug eventId seat.id (os 3).order with
    | none =>
        have hown : w.liveLock (getLockKey tenant.slug eventId seat.id) = none := by
          by_contra hsome
          obtain ⟨en, hen⟩ := Option.ne_none_iff_exists'.mp hsome
          obtain ⟨hmem, hid⟩ := own_mem_mapLocks hkeyed ht he hs hen (os 3).order
          exact mapGet_eq_none.mp hm _ (List.mem_map_of_mem hmem) hid
        simp [hown, httl]
    | some v =>
        obtain ⟨hmem, hid⟩ := mem_of_mapLock hm
        obtain ⟨real, hreal, hsame⟩ : ∃ real,
            w.liveLock (getLockKey tenant.slug eventId seat.id) = some real ∧
              (v.userId = u ↔ real.value.userId = u) := by
          rcases own_or_shadow hkeyed ht he hmem hid with ⟨en, hen, rfl⟩ | ⟨en, hen, rfl⟩
          · exact ⟨en, hen, Iff.rfl⟩
          · exact hbacked en hen
        simp [hreal, hsame]

namespace Sample

def event : Event := ⟨"e1", "t1", "Opening night", 1000000000⟩

def seat : Seat := ⟨"s1", "e1", 1⟩

/-- Another user locks seat `s1` of the event string `e1:x`. -/
def shadowed : World :=
  serial platform world [turn 0 (.lockSeat "acme" "e1:x" "s1" "u2") fun _ => "tok_2"]

/-- The user locks the first seat itself. -/
def locked : World :=
  serial platform world [turn 0 (.lockSeat "acme" "e1" "s1" "u1") fun _ => "tok_1"]

theorem reachable_shadowed : Reachable platform shadowed :=
  reachable_serial platform 0 catalog _ (by decide)

theorem reachable_locked : Reachable platform locked :=
  reachable_serial platform 0 catalog _ (by decide)

end Sample

theorem mapAgrees_locked : Sample.locked.Free "t1" "e1" "s1" ∧
    ∀ os os', Up os → Up os' →
      MapAgrees Sample.platform Sample.locked Sample.tenant "e1" "s1" "u1" os os' := by
  refine ⟨by decide +kernel, (mapAgrees_iff Sample.platform Sample.locked Sample.tenant "e1" "u1"
    Sample.event Sample.seat Sample.reachable_locked (by decide +kernel) (by decide +kernel)
    (by decide +kernel)).mpr fun _ => ⟨by decide, fun en hen => ?_⟩⟩
  have hall : ∀ x ∈ Sample.locked.locks.entries, x.2.value.eventId = "e1" := by decide +kernel
  obtain ⟨key, hkey⟩ := hen.live
  have hmem := AList.mem_lookup_iff.mp (World.liveLock_eq_some.mp hkey).1
  have hshadows := hen.eventId
  rw [hall _ hmem] at hshadows
  exact absurd hshadows not_shadows_self

/-- Nobody has locked the seat, but the map shows it as locked. -/
theorem not_mapAgrees_shadowed :
    ¬ ∀ (P : Platform) (w : World) (tenant : TenantContext) (eventId u : String) (event : Event)
        (seat : Seat) (os os' : Nat → Oracle), Reachable P w →
      w.catalog.hasSlug tenant.slug = true →
      w.catalog.findEvent eventId tenant.id = some event →
      seat ∈ w.catalog.seatsOf eventId → Up os → Up os' →
      MapAgrees P w tenant eventId seat.id u os os' := by
  intro h
  have hevent : Sample.shadowed.catalog.findEvent "e1" Sample.tenant.id = some Sample.event := by
    decide +kernel
  have hseat : Sample.seat ∈ Sample.shadowed.catalog.seatsOf "e1" := by decide +kernel
  have hagree := h Sample.platform Sample.shadowed Sample.tenant "e1" "u1" Sample.event
    Sample.seat (fun _ => {}) (fun _ => {}) Sample.reachable_shadowed (by decide +kernel) hevent
    hseat (fun _ => rfl) fun _ => rfl
  have hfree : Sample.shadowed.Free "t1" "e1" "s1" := by decide +kernel
  have havail := ((mapAgrees_of_up (fun _ => rfl) (fun _ => rfl) hevent hseat).mp hagree hfree).2
  revert havail
  decide +kernel

end Omnipax
