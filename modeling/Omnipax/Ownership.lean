import Omnipax.Effects
import Omnipax.Reachable

/-!
# Who removes a lock

`unlockSeat` and `handleExpiryJob` read the value under a key, decide, and
delete the key in a later command; `initiateBooking` checks its locks long
before `releaseMany` deletes them, by force. In between the lock may run
out and another user may lock the seat: then the `DEL` removes a lock that
was never looked at.

The read still vouches for what was there: a lock at the key now is the
one read, or was put there since. So as long as no `DEL` meets a lock of
somebody else put there since the call's own read, every lock is removed
by an operation of its user or by the job with its token.
-/

namespace Omnipax

open Conc Prog

/-! ## Rightful removals -/

/-- The operation is one of the lock's user, or the job with its token. -/
def Op.owns : Op → SeatLockPayload → Bool
  | .unlockSeat _ _ _ u, v => u == v.userId
  | .initiateBooking _ u _, v => u == v.userId
  | .handleExpiryJob d, v => d.token == v.token
  | _, _ => false

/-- A booking may remove the locks of the seats it lists. -/
def Op.mayRemove : Op → SeatLockPayload → Bool
  | .initiateBooking _ u dto, v => u == v.userId && dto.seatIds.contains v.seatId
  | op, v => op.owns v

/-- If a live lock is gone after the event, its operation is one that may remove a lock of
this value: one of its owner for its seat, or the job that was queued for this very lock. -/
def Rightful (P : Platform) (e : LiveEvent) : Prop :=
  ∀ key en, e.before.liveLock key = some en →
    (e.after (live P)).locks.lookup key ≠ some en → e.op.mayRemove en.value = true

/-! ## The discipline -/

/-- The operations that write the lock store. -/
def Op.usesLocks : Op → Bool
  | .lockSeat .. => true
  | .unlockSeat .. => true
  | .initiateBooking .. => true
  | .handleExpiryJob _ => true
  | _ => false

/-- Call `i` reads the key. -/
def isGetOf (i : Nat) (key : String) (e : LiveEvent) : Bool :=
  e.tid == i && match e.cmd with
    | .redisGet k => k == key
    | _ => false

/-- The lock was put under the key since call `i` first read the key. -/
def PutSince (P : Platform) (i : Nat) (key : String) (en : LockEntry) (s : LiveSnap) : Prop :=
  ∃ e ∈ since (isGetOf i key) s.hist, e.before.locks.lookup key ≠ some en ∧
    (e.after (live P)).locks.lookup key = some en

instance (P : Platform) (i : Nat) (key : String) (en : LockEntry) :
    DecidablePred (PutSince P i key en) := fun _ =>
  inferInstanceAs (Decidable (∃ _ ∈ _, _))

/-- Operations on locks that passed the tenant guard, except that no `DEL`
meets a lock of somebody else put there since the call's read of the key. -/
def ownership (P : Platform) (catalog : Catalog) : Discipline sig World Oracle Op where
  starts op := (op.usesLocks && op.guarded catalog) = true
  allows i op c o s := ∀ key ∈ c.del?, o.fault ≠ some .before →
    ∀ en ∈ s.world.liveLock key, PutSince P i key en s → op.owns en.value = true

instance (P : Platform) (catalog : Catalog) : DecidablePred (ownership P catalog).starts :=
  fun op => inferInstanceAs (Decidable ((op.usesLocks && op.guarded catalog) = true))

instance (P : Platform) (catalog : Catalog) (i : Nat) (op : Op) (c : Cmd) (o : Oracle) :
    DecidablePred ((ownership P catalog).allows i op c o) := fun s =>
  inferInstanceAs (Decidable (∀ key ∈ c.del?, _ → ∀ en ∈ s.world.liveLock key,
    PutSince P i key en s → op.owns en.value = true))

/-! ## The outline -/

/-- Call `i` has read a lock it owns under the key; what is there now is
that lock, or was put there since. -/
def ReadOwn (P : Platform) (i : Nat) (op : Op) (key : String) : LiveSnap → Prop :=
  TracksSince (live P) (isGetOf i key) (fun w en => w.locks.lookup key = some en)
    fun en => op.owns en.value = true

/-- To own a lock under this key is enough to remove it: a booking lists
the seat. -/
def Lists (op : Op) (key : String) : Prop :=
  ∀ v : SeatLockPayload, NoColon v.tenantSlug →
    key = getLockKey v.tenantSlug v.eventId v.seatId → op.owns v = true → op.mayRemove v = true

/-- Every key deleted was read before, and is one the operation lists. -/
def ownershipOutline (P : Platform) (catalog : Catalog) : LiveOutline where
  toDiscipline := ownership P catalog
  inv s := KeyedLocks s.world ∧ ∀ e ∈ s.hist, Rightful P e
  pre i op c s := c.Issued P ∧ ∀ key ∈ c.del?, ReadOwn P i op key s ∧ Lists op key

section Body

variable {P : Platform} {catalog : Catalog} {i : Nat} {op : Op} {s : LiveSnap}

theorem ReadOwn.persistent (P : Platform) (i : Nat) (op : Op) (key : String) :
    Persistent (live P) (ReadOwn P i op key) :=
  persistent_tracksSince fun _ _ _ h => h

theorem ReadOwn.intro {key : String} {o : Oracle} {v : SeatLockPayload}
    (h : (exec P (.redisGet key) o s.world).1 = .ok (some v)) (hv : op.owns v = true) :
    ReadOwn P i op key (s.exec (live P) i op (.redisGet key) o) := by
  refine TracksSince.intro (by simp [isGetOf]) fun en hen => ?_
  rw [live_exec, exec_readOnly P o s.world rfl] at hen
  rw [perform_of_exec_ok h] at h
  obtain ⟨en', hen', rfl⟩ := Option.map_eq_some_iff.mp (Except.ok.inj h)
  rw [(World.liveLock_eq_some.mp hen').1] at hen
  obtain rfl := Option.some.inj hen
  exact hv

/-- **Step**: what a command removes, its operation may remove. -/
theorem rightful_exec {c : Cmd} {o : Oracle}
    (hinv : (ownershipOutline P catalog).inv s)
    (hpre : (ownershipOutline P catalog).pre i op c s)
    (hallow : (ownershipOutline P catalog).allows i op c o s) :
    Rightful P ⟨i, op, c, o, s.world⟩ := by
  intro key en hen hgone
  obtain ⟨rfl, hf⟩ := exec_removes hen hgone
  obtain ⟨hread, hlists⟩ := hpre.2 key rfl
  have hlookup : s.world.locks.lookup key = some en := (World.liveLock_eq_some.mp hen).1
  obtain ⟨hkey, hslug⟩ := hinv.1 key en hlookup
  refine hlists en.value hslug hkey ?_
  rcases hread.2 en hlookup with hown | hput
  · exact hown
  · exact hallow key rfl hf en hen hput

theorem ownership_pre {c : Cmd} (hc : c.Issued P) (hd : c.del? = none) (s : LiveSnap) :
    (ownershipOutline P catalog).pre i op c s :=
  ⟨hc, fun key hkey => by rw [hd] at hkey; cases hkey⟩

theorem Cmd.del?_of_ofLockSeat {t : String} {c : Cmd} (h : c.ofLockSeat P t) :
    c.del? = none := by
  cases c <;> first | rfl | cases h

theorem Cmd.mem_of_ofSeatLocks {keys : List String} {c : Cmd}
    (h : c.ofSeatLocks keys = true) : ∀ key ∈ c.del?, key ∈ keys := by
  intro key hkey
  cases c with
  | redisDel k =>
      obtain rfl := Option.some.inj hkey
      simpa [Cmd.ofSeatLocks] using h
  | _ => cases hkey

theorem wp_ownership {α : Type} {p : M α}
    (hp : p.All fun c : Cmd => c.Issued P ∧ c.del? = none) :
    p.wp (live P) (ownershipOutline P catalog) i op (fun _ _ => True) (fun _ _ => True) s :=
  wp_keep hp (fun _ hc s _ _ => ownership_pre hc.1 hc.2 s) persistent_true.kept trivial

theorem wp_unlockSeat (t e seat u : String) :
    (unlockSeat t e seat u).wp (live P) (ownershipOutline P catalog) i (.unlockSeat t e seat u)
      (fun _ _ => True) (fun _ _ => True) s := by
  have htrue : Stable (live P) (ownershipOutline P catalog) i fun _ => True :=
    persistent_true.stable
  unfold unlockSeat
  refine wp_await htrue trivial (fun s _ _ => ownership_pre (c := .redisGet _) trivial rfl s)
    fun s o existing _ _ _ _ hget => ?_
  cases existing with
  | none => exact wp_ret htrue trivial fun _ _ _ => trivial
  | some lock =>
      unfold unlockFound
      refine wp_throwIf fun hown => ?_
      have hu : u = lock.userId := by
        have : lock.userId = u := by simpa using hown
        exact this.symm
      have hread : ReadOwn P i (.unlockSeat t e seat u) (getLockKey t e seat) _ :=
        ReadOwn.intro hget (by simp [Op.owns, hu])
      refine wp_await (ReadOwn.persistent ..).stable hread (fun s _ hread => ⟨trivial, ?_⟩)
        fun s o _ _ _ _ _ _ => ?_
      · intro key hkey
        obtain rfl := Option.some.inj hkey
        exact ⟨hread, fun v _ _ hv => hv⟩
      · exact wp_ownership (.bind (all_await ⟨trivial, rfl⟩) fun _ => trivial)

theorem wp_handleExpiryJob (d : SeatLockExpiryJobData) :
    (handleExpiryJob d).wp (live P) (ownershipOutline P catalog) i (.handleExpiryJob d)
      (fun _ _ => True) (fun _ _ => True) s := by
  have htrue : Stable (live P) (ownershipOutline P catalog) i fun _ => True :=
    persistent_true.stable
  unfold handleExpiryJob
  refine wp_await htrue trivial (fun s _ _ => ownership_pre (c := .redisGet _) trivial rfl s)
    fun s o current _ _ _ _ hget => ?_
  cases current with
  | none => exact wp_ownership (all_await ⟨trivial, rfl⟩)
  | some lock =>
      dsimp only
      split
      · rename_i htoken
        have hread : ReadOwn P i (.handleExpiryJob d)
            (getLockKey d.tenantSlug d.eventId d.seatId) _ :=
          ReadOwn.intro hget (by simp [Op.owns, htoken])
        refine wp_await (ReadOwn.persistent ..).stable hread
          (fun s _ _ => ownership_pre (c := .redisPttl _) trivial rfl s)
          fun s o ttl _ hread _ _ _ => ?_
        split
        · refine wp_await (ReadOwn.persistent ..).stable ((ReadOwn.persistent ..).exec hread ..)
            (fun s _ hread => ⟨trivial, ?_⟩) fun s o _ _ _ _ _ _ => ?_
          · intro key hkey
            obtain rfl := Option.some.inj hkey
            exact ⟨hread, fun v _ _ hv => hv⟩
          · exact wp_ownership (all_await ⟨trivial, rfl⟩)
        · exact wp_ret htrue trivial fun _ _ _ => trivial
      · exact wp_ret htrue trivial fun _ _ _ => trivial

/-! ## `initiateBooking` -/

/-- `validateLocksOwned` has read a lock of the user for every seat. -/
theorem wp_validateLocksOwned {t e u : String} (hown : ∀ v, v.userId = u → op.owns v = true)
    (seats : List String) (hinv : (ownershipOutline P catalog).inv s) :
    (validateLocksOwned t e seats u).wp (live P) (ownershipOutline P catalog) i op
      (fun _ s => ∀ seat ∈ seats, ReadOwn P i op (getLockKey t e seat) s) (fun _ _ => True)
      s := by
  let R := fun (seat : String) (lock : Option SeatLockPayload) (s : LiveSnap) =>
    notOwned u lock = false → ReadOwn P i op (getLockKey t e seat) s
  have hR : ∀ seat lock, Persistent (live P) (R seat lock) := fun seat lock =>
    { exec := fun h i op c o hlock => (ReadOwn.persistent ..).exec (h hlock) i op c o
      env := fun h e hlock => (ReadOwn.persistent ..).env (h hlock) e }
  unfold validateLocksOwned
  refine wp_bind hinv ((wp_mapM hR (fun seat _ s hinv => ?_) hinv).mono
    (fun locks s _ hlocks => ?_) fun _ _ _ h => h)
  · rw [← bind_pure (await _)]
    refine wp_await persistent_true.stable trivial
      (fun s _ _ => ownership_pre (c := .redisGet _) trivial rfl s)
      fun s o lock _ _ _ _ hget => ?_
    refine wp_ret (hR seat lock).stable (fun hlock => ?_) fun _ _ h => h
    cases lock with
    | none => cases hlock
    | some v => exact ReadOwn.intro hget (hown v (by simpa [notOwned] using hlock))
  · cases hany : locks.any (notOwned u) with
    | true => exact wp_err_of fun _ _ => trivial
    | false =>
        refine wp_ret (Persistent.forall₂ hR seats locks).stable hlocks
          fun s _ hlocks seat hseat => ?_
        obtain ⟨lock, hlock, hread⟩ := exists_of_forall₂ hlocks hseat
        exact hread (by simpa using List.any_eq_false.mp hany lock hlock)

/-- The keys of the seats of an event are nobody else's. -/
theorem lists_initiateBooking {tenant : TenantContext} {u : String} {dto : InitiateBookingDto}
    {seat : String} (ht : NoColon tenant.slug) (he : NoColon dto.eventId) (hs : NoColon seat)
    (hmem : seat ∈ dto.seatIds) :
    Lists (.initiateBooking tenant u dto) (getLockKey tenant.slug dto.eventId seat) := by
  intro v hv hkey hown
  obtain ⟨-, -, hseat⟩ := getLockKey_inj ht he hs hv hkey.symm
  have hu : u = v.userId := by simpa [Op.owns] using hown
  simp [Op.mayRemove, hu, hseat, hmem]

theorem wp_initiateBooking_own {tenant : TenantContext} (ht : NoColon tenant.slug) (u : String)
    (dto : InitiateBookingDto) :
    (initiateBooking P tenant u dto).wp (live P) (ownershipOutline P catalog) i
      (.initiateBooking tenant u dto) (fun _ _ => True) (fun _ _ => True) s := by
  have htrue : Stable (live P) (ownershipOutline P catalog) i fun _ => True :=
    persistent_true.stable
  unfold initiateBooking
  refine wp_await htrue trivial
    (fun s _ _ => ownership_pre (c := .eventFindFirst ..) trivial rfl s)
    fun s o event _ _ _ _ hevent => ?_
  refine wp_throwIf fun hsome => ?_
  refine wp_await htrue trivial
    (fun s _ _ => ownership_pre (c := .seatFindMany ..) trivial rfl s)
    fun s o seats _ _ _ hinv hseats => ?_
  refine wp_throwIf fun hlen => ?_
  have he : NoColon dto.eventId := by
    rw [perform_of_exec_ok hevent] at hevent
    obtain rfl := Except.ok.inj hevent
    obtain ⟨e, he, hid, -⟩ := Catalog.findEvent_some (by simpa using hsome)
    rw [← hid]
    exact noColon_of_isCuid (Catalog.event_cuid _ e he)
  have hs : ∀ seat ∈ newSet dto.seatIds, NoColon seat := by
    intro seat hseat
    rw [perform_of_exec_ok hseats] at hseats
    obtain rfl := Except.ok.inj hseats
    obtain ⟨row, hrow, hid⟩ := Catalog.seats_found_of_length o.order (by simpa using hlen) hseat
    rw [← hid]
    exact noColon_of_isCuid (Catalog.seat_cuid _ row (List.mem_filter.mp hrow).1)
  refine wp_bind hinv ((wp_validateLocksOwned (fun v hv => by simp [Op.owns, hv]) _ hinv).mono
    (fun _ s _ hread => ?_) fun _ _ _ h => h)
  have hF : Persistent (live P) fun s => ∀ seat ∈ newSet dto.seatIds,
      ReadOwn P i (.initiateBooking tenant u dto) (getLockKey tenant.slug dto.eventId seat) s :=
    { exec := fun h i op c o seat hseat => (ReadOwn.persistent ..).exec (h seat hseat) i op c o
      env := fun h e seat hseat => (ReadOwn.persistent ..).env (h seat hseat) e }
  let Pc : Cmd → Prop := fun c => c.Issued P ∧ ∀ key ∈ c.del?,
    key ∈ (newSet dto.seatIds).map (getLockKey tenant.slug dto.eventId)
  have hrest : ∀ c : Cmd, c.Issued P → c.del? = none → Pc c := fun c hc hd =>
    ⟨hc, fun key hkey => by rw [hd] at hkey; cases hkey⟩
  refine (wp_keep (P := Pc) ?_ ?_ hF.kept hread).mono (fun _ _ _ _ => trivial) fun _ _ _ _ => trivial
  · refine .bind (all_await (hrest _ trivial rfl)) fun now => ?_
    refine .bind (all_await (hrest _ trivial rfl)) fun existing => .bind (all_throwIf ..) fun _ => ?_
    refine .bind (all_await (hrest _ trivial rfl)) fun receiptAt => ?_
    refine .bind (all_await (hrest _ trivial rfl)) fun receiptSalt => ?_
    refine .bind (all_await (hrest _ trivial rfl)) fun order => ?_
    refine .bind (all_await (hrest (.bookingCreate _) rfl rfl)) fun booking => ?_
    refine .bind (all_await (hrest _ trivial rfl)) fun addedAt => ?_
    refine .bind (all_await (hrest _ trivial rfl)) fun _ => ?_
    refine .bind ((all_releaseMany ..).mono fun c hc =>
      ⟨Cmd.issued_of_ofSeatLocks hc, Cmd.mem_of_ofSeatLocks hc⟩) fun _ => ?_
    exact .bind (all_await (hrest _ trivial rfl)) fun _ => trivial
  · intro c hc s _ hread
    refine ⟨hc.1, fun key hkey => ?_⟩
    obtain ⟨seat, hseat, rfl⟩ := List.mem_map.mp (hc.2 key hkey)
    exact ⟨hread seat hseat, lists_initiateBooking ht he (hs seat hseat)
      (List.mem_eraseDups.mp hseat)⟩

end Body

theorem ownershipOutline_valid (P : Platform) (catalog : Catalog) :
    Outline.Valid (live P) (ownershipOutline P catalog) fun _ _ _ _ => True where
  inv_exec := by
    intro s hinv i op c o _ hpre hallow
    refine ⟨keyedLocks_exec o hinv.1 ?_, fun e he => ?_⟩
    · rintro key value px rfl
      exact ⟨hpre.1.1, hpre.1.2.1⟩
    · rcases List.mem_cons.mp he with rfl | he
      · exact rightful_exec hinv hpre hallow
      · exact hinv.2 e he
  inv_env hinv _ := hinv
  body := by
    intro i op s hop hinv _
    obtain ⟨huses, hguard⟩ : op.usesLocks = true ∧ op.guarded catalog = true := by
      have h : (op.usesLocks && op.guarded catalog) = true := hop
      simpa using h
    have hdone : ∀ {α : Type} {p : M α} {f : α → Answer},
        p.wp (live P) (ownershipOutline P catalog) i op (fun _ _ => True) (fun _ _ => True) s →
        (f <$> p).wp (live P) (ownershipOutline P catalog) i op (fun _ _ => True)
          (fun _ _ => True) s := fun h =>
      wp_bind hinv (h.mono (fun _ _ _ _ _ _ _ => trivial) fun _ _ _ h => h)
    cases op with
    | lockSeat t e seat u =>
        exact hdone (wp_ownership ((all_lockSeat ..).mono fun c hc =>
          ⟨Cmd.issued_of_ofLockSeat (Catalog.noColon_of_hasSlug hguard) hc,
            Cmd.del?_of_ofLockSeat hc⟩))
    | unlockSeat t e seat u => exact hdone (wp_unlockSeat t e seat u)
    | initiateBooking tenant u dto =>
        have ht : NoColon tenant.slug := by
          simp only [Op.guarded, List.any_eq_true, Bool.and_eq_true, beq_iff_eq] at hguard
          obtain ⟨row, hrow, -, hslug⟩ := hguard
          rw [← hslug]
          exact noColon_of_isSlug (catalog.slug_ok row hrow)
        exact hdone (wp_initiateBooking_own ht u dto)
    | handleExpiryJob d => exact hdone (wp_handleExpiryJob d)
    | processPaymentWebhook r => cases huses
    | expirePendingBooking id => cases huses

/-- **Lock ownership**: however operations on locks and the passing of time
interleave, every live lock that a command removes is removed by an
operation of its user on the seat or by the job with its token, as long as
no `DEL` meets a lock of somebody else put there since the call's read. -/
theorem rightful_run (P : Platform) (w : World) (ls : List LiveLabel) (hw : Reachable P w)
    (hls : (ownership P w.catalog).admitsRun (live P) (Config.idle w) ls) :
    ∀ e ∈ ((Config.idle w).run (live P) ls).hist, Rightful P e := by
  have hidle : (ownershipOutline P w.catalog).inv ⟨w, []⟩ :=
    ⟨hw.keyedLocks, fun e he => by cases he⟩
  have hgood : Outline.Good (live P) (ownershipOutline P w.catalog) (fun _ _ _ _ => True)
      ((Config.idle w).run (live P) ls) :=
    Outline.sound (ownershipOutline_valid P w.catalog) (Outline.Good.idle hidle) hls
  exact hgood.inv.2

namespace Sample

/-- User `u1` locks the seat and asks to unlock it; before the `DEL` the
lock runs out and `u2` locks the seat. -/
def unlockLate : List LiveLabel :=
  .spawn (.lockSeat "acme" "e1" "s1" "u1") :: steps 0 5 "tok_1"
    ++ [.spawn (.unlockSeat "acme" "e1" "s1" "u1")] ++ steps 1 1 ""
    ++ [.env 300001, .spawn (.lockSeat "acme" "e1" "s1" "u2")] ++ steps 2 5 "tok_2"
    ++ steps 1 1 ""

def unlockInTime : List LiveLabel :=
  .spawn (.lockSeat "acme" "e1" "s1" "u1") :: steps 0 5 "tok_1"
    ++ [.spawn (.unlockSeat "acme" "e1" "s1" "u1")] ++ steps 1 2 ""
    ++ [.spawn (.lockSeat "acme" "e1" "s1" "u2")] ++ steps 2 5 "tok_2"

theorem reachable_world : Reachable platform world :=
  ⟨0, catalog, [], by simp, rfl⟩

end Sample

/-- The `unlockSeat` in time deletes the lock, which is the caller's. -/
theorem rightful_unlockInTime :
    ∃ e ∈ ((Config.idle Sample.world).run (live Sample.platform) Sample.unlockInTime).hist,
      (e.before.liveLock "seat-lock:acme:e1:s1").isSome = true ∧
      (e.after (live Sample.platform)).locks.lookup "seat-lock:acme:e1:s1" = none ∧
      Rightful Sample.platform e := by
  have hremoves : ∃ e ∈ ((Config.idle Sample.world).run (live Sample.platform)
      Sample.unlockInTime).hist,
      (e.before.liveLock "seat-lock:acme:e1:s1").isSome = true ∧
      (e.after (live Sample.platform)).locks.lookup "seat-lock:acme:e1:s1" = none := by
    decide +kernel
  obtain ⟨e, he, hlive, hgone⟩ := hremoves
  exact ⟨e, he, hlive, hgone, rightful_run Sample.platform Sample.world Sample.unlockInTime
    Sample.reachable_world (by decide +kernel) e he⟩

/-- The first user's `unlockSeat` deletes the second user's lock. -/
theorem not_rightful_interleaved :
    ¬ ∀ (P : Platform) (w : World) (ls : List LiveLabel), Reachable P w →
      (Discipline.free sig World Oracle fun op : Op =>
        (op.usesLocks && op.guarded w.catalog) = true).admitsRun (live P) (Config.idle w) ls →
      ∀ e ∈ ((Config.idle w).run (live P) ls).hist, Rightful P e := by
  intro h
  have hrun := h Sample.platform Sample.world Sample.unlockLate Sample.reachable_world
    (by decide +kernel)
  have hlate : ∃ e ∈ ((Config.idle Sample.world).run (live Sample.platform)
      Sample.unlockLate).hist,
      (e.before.liveLock "seat-lock:acme:e1:s1").any
        (fun en => !e.op.mayRemove en.value) = true ∧
      (e.after (live Sample.platform)).locks.lookup "seat-lock:acme:e1:s1" = none := by
    decide +kernel
  obtain ⟨e, he, hlive, hgone⟩ := hlate
  obtain ⟨en, hen, hnot⟩ := (Option.any_eq_true _ _).mp hlive
  have hmay := hrun e he _ en hen (by rw [hgone]; exact nofun)
  rw [hmay] at hnot
  cases hnot

end Omnipax
