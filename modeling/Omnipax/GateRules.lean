import Omnipax.ScanAdmission

/-!
# One rule for every gate

`scanTicket` tests the expiry of the token and the window of the show against
its own clock, and that clock is what it records on the ticket. An offline
scan is recorded at the time its device reports, and neither test is made of
it. Tenants and devices are checked on both ways.

What a call has checked is about columns that no scan writes (`Door.fixed`):
it is said of the door the run starts at, so only the readings of the clock
refer to the run itself. Whatever way a ticket is used, the event that does it
finds these checks made (`Gated`).
-/

namespace Omnipax.Scans

open Conc Database Prog

/-! ## What no scan writes -/

def Ticket.fixed (t : Ticket) : String × String × String × String :=
  (t.id, t.showId, t.qrHash, t.tenantId)

def ScannerDevice.fixed (v : ScannerDevice) : String × Bool × String :=
  (v.id, v.isActive, v.tenantId)

def Door.fixed (d : Door) :
    List (String × String × String × String) × List Show × List (String × Bool × String) :=
  (d.tickets.rows.map (·.fixed), d.shows, d.scannerDevices.map (·.fixed))

section Fixed

variable {d d' : Door} {t : Ticket}

theorem fixed_apply (w : ScanWrite) (d : Door) : (w.apply d).fixed = d.fixed := by
  have hmap : ∀ {α β : Type} (l : List α) (f : α → α) (g : α → β), (∀ a, g (f a) = g a) →
      (l.map f).map g = l.map g := by
    intro α β l f g h
    rw [List.map_map]
    exact List.map_congr_left fun a _ => h a
  cases w with
  | use id at_ by_ =>
      refine Prod.ext (hmap _ _ _ fun t => ?_) rfl
      split <;> rfl
  | seen id at_ =>
      refine Prod.ext rfl (Prod.ext rfl (hmap _ _ _ fun v => ?_))
      split <;> rfl
  | scanLog => rfl
  | offlineScan => rfl

theorem fixed_applyAll (ws : List ScanWrite) (d : Door) :
    (doorDb.applyAll ws d).fixed = d.fixed :=
  applyAll_of_forall (I := fun d' => d'.fixed = d.fixed)
    (fun w _ d' h => (fixed_apply w d').trans h) rfl

theorem ticket_of_fixed (h : d'.fixed = d.fixed) (ht : t ∈ d'.tickets.rows) :
    ∃ ticket ∈ d.tickets.rows, ticket.fixed = t.fixed := by
  have hrows : d'.tickets.rows.map (·.fixed) = d.tickets.rows.map (·.fixed) := congrArg Prod.fst h
  exact List.mem_map.mp (hrows ▸ List.mem_map_of_mem ht)

theorem shows_of_fixed (h : d'.fixed = d.fixed) : d'.shows = d.shows :=
  congrArg (fun x => x.2.1) h

theorem device_of_fixed (h : d'.fixed = d.fixed) {v : ScannerDevice} (hv : v ∈ d'.scannerDevices) :
    ∃ device ∈ d.scannerDevices, device.fixed = v.fixed := by
  have hdevices : d'.scannerDevices.map (·.fixed) = d.scannerDevices.map (·.fixed) :=
    congrArg (fun x => x.2.2) h
  exact List.mem_map.mp (hdevices ▸ List.mem_map_of_mem hv)

/-- A ticket that writes change is used by one of them. -/
theorem use_of_applyAll {ws : List ScanWrite} (ht : t ∈ (doorDb.applyAll ws d).tickets.rows) :
    t ∈ d.tickets.rows ∨
      ∃ scannedAt scannedBy, .use t.id scannedAt scannedBy ∈ ws ∧ t.scannedAt = some scannedAt := by
  induction ws generalizing d with
  | nil => exact Or.inl ht
  | cons w ws ih =>
      rcases ih ht with ht | ⟨scannedAt, scannedBy, hw, hat⟩
      · cases w with
        | use id scannedAt scannedBy =>
            obtain ⟨t₀, ht₀, rfl⟩ := List.mem_map.mp ht
            split
            · rename_i hid
              rw [hid]
              exact Or.inr ⟨scannedAt, scannedBy, List.mem_cons_self .., rfl⟩
            · exact Or.inl ht₀
        | _ => exact Or.inl ht
      · exact Or.inr ⟨scannedAt, scannedBy, List.mem_cons_of_mem _ hw, hat⟩

end Fixed

/-! ## The rules -/

def ScanOp.tenantId : ScanOp → String
  | .scanTicket _ _ scannerTenantId _ _ => scannerTenantId
  | .syncOfflineScans _ tenantId _ => tenantId

/-- The device a call is made from. -/
def ScanOp.device? : ScanOp → Option String
  | .scanTicket _ _ _ deviceId .DEVICE => deviceId.filter (· ≠ "")
  | .scanTicket _ _ _ _ .STAFF => none
  | .syncOfflineScans deviceId _ _ => some deviceId

/-- The call presents the token, at this time: that of its clock, or the one
that is reported. -/
def ScanOp.presents (P : DoorPlatform) (clock : Time) (op : ScanOp) (qrToken : String)
    (scannedAt : Time) : Prop :=
  match op with
  | .scanTicket token _ _ _ _ => token = qrToken ∧ scannedAt = clock
  | .syncOfflineScans _ _ scans =>
      ∃ scan ∈ scans, scan.qrToken = qrToken ∧ P.newDate scan.scannedAt = some scannedAt

def Show.admitsAt (shw : Show) (scannedAt : Time) : Prop :=
  shw.startTime - EARLY_ENTRY_WINDOW_MS ≤ scannedAt ∧ scannedAt ≤ shw.startTime + GRACE_PERIOD_MS

def Door.showOf (d : Door) (ticket : Ticket) : Option Show :=
  d.shows.find? (·.id == ticket.showId)

/-- The rules of admission. An `exp` is in seconds. -/
structure AdmissionRules (d : Door) (op : ScanOp) (ticket : Ticket) (exp : Int) (scannedAt : Time) :
    Prop where
  tenant : ticket.tenantId = op.tenantId
  device : ∀ id ∈ op.device?, ∃ v ∈ d.scannerDevices,
    v.id = id ∧ v.tenantId = op.tenantId ∧ v.isActive = true
  window : ∃ shw ∈ d.showOf ticket, shw.admitsAt scannedAt
  token : scannedAt ≤ exp * 1000

/-- The times at which a gate admits by the rules. Online, the show has only
to be there, and the time not to be within the second that begins with `exp`. -/
def InTime (d : Door) (op : ScanOp) (ticket : Ticket) (exp : Int) (scannedAt : Time) : Prop :=
  match op with
  | .scanTicket .. => d.showOf ticket ≠ none ∧ (scannedAt / 1000 = exp → scannedAt % 1000 = 0)
  | .syncOfflineScans .. =>
      (∃ shw ∈ d.showOf ticket, shw.admitsAt scannedAt) ∧ scannedAt ≤ exp * 1000

/-- In whole seconds not after `exp`, and in milliseconds. -/
theorem le_exp_iff {t exp : Int} (h : t / 1000 ≤ exp) :
    t ≤ exp * 1000 ↔ (t / 1000 = exp → t % 1000 = 0) := by
  constructor
  · intro hle heq
    omega
  · intro hsecond
    rcases Int.lt_or_eq_of_le h with hlt | heq
    · omega
    · have := hsecond heq
      omega

/-! ## What a call has checked -/

section Outline

variable (P : DoorPlatform) (d : Door)

/-- Call `i` has executed a command at this time. -/
def ReadAt (i : Nat) (now : Time) (s : DoorSnap) : Prop :=
  ∃ e ∈ s.hist, e.tid = i ∧ e.before.data.clock = now

def DeviceChecked (op : ScanOp) : Prop :=
  ∀ id ∈ op.device?, ∃ v ∈ d.scannerDevices, v.id = id ∧ v.tenantId = op.tenantId ∧ v.isActive = true

/-- What both gates check of a ticket apart from the time: the token is valid and the
ticket's own, the tenant is the caller's, and a device is an active one of it. -/
structure Entry (op : ScanOp) (ticket : Ticket) (qrToken : String) (payload : QRPayload) : Prop where
  known : ∃ ticket₀ ∈ d.tickets.rows, ticket₀.fixed = ticket.fixed
  valid : P.validateToken qrToken = some payload
  hash : P.hashToken qrToken = ticket.qrHash
  tenant : ticket.tenantId = op.tenantId
  device : DeviceChecked d op

/-- The tests of `scanTicket`, each against the clock as it read it. -/
def OnTime (i : Nat) (ticket : Ticket) (payload : QRPayload) (s : DoorSnap) : Prop :=
  (∃ now, ReadAt i now s ∧ now / 1000 ≤ payload.exp) ∧
    ∀ shw ∈ d.showOf ticket, ∃ nowMs, ReadAt i nowMs s ∧ shw.admitsAt nowMs

/-- What is known of the time that is recorded. -/
def Timed (i : Nat) (op : ScanOp) (ticket : Ticket) (qrToken : String) (payload : QRPayload)
    (scannedAt : Time) (s : DoorSnap) : Prop :=
  match op with
  | .scanTicket token _ _ _ _ =>
      token = qrToken ∧ ReadAt i scannedAt s ∧ OnTime d i ticket payload s
  | .syncOfflineScans _ _ scans =>
      ∃ scan ∈ scans, scan.qrToken = qrToken ∧ P.newDate scan.scannedAt = some scannedAt

/-- The call may use the ticket with this id. -/
def Checked (i : Nat) (op : ScanOp) (id : String) (scannedAt : Time) (s : DoorSnap) : Prop :=
  ∃ ticket qrToken payload, ticket.id = id ∧ Entry P d op ticket qrToken payload ∧
    Timed P d i op ticket qrToken payload scannedAt s

/-- The event finds the ticket ACTIVE and leaves it USED, in this row, which is what being
admitted comes to at either gate. -/
def Admits (e : DoorEvent) (id : String) (row : Ticket) : Prop :=
  (∃ t ∈ e.before.data.tickets.rows, t.id = id ∧ t.status = .ACTIVE) ∧
    row ∈ (e.after (door P)).data.tickets.rows ∧ row.id = id ∧ row.status = .USED

structure Gated (s : DoorSnap) : Prop where
  store : doorDb.StoreOk s.world
  openers : Openers s
  fixed : s.world.data.fixed = d.fixed
  events : ∀ e ∈ s.hist, ∀ id row, Admits P e id row → ∃ scannedAt, row.scannedAt = some scannedAt ∧
    Checked P d e.tid e.op id scannedAt s

/-- A statement by itself that uses no ticket. -/
def Plain (c : TxCmd ScanStmt) : Prop :=
  match c with
  | .stmt none (.ticketUpdateMany ..) => False
  | .stmt none (.ticketUpdate ..) => False
  | .stmt none _ => True
  | _ => False

/-- What is used has been checked: where it is claimed, and at a commit. -/
def gatePre (i : Nat) (op : ScanOp) (c : TxCmd ScanStmt) (s : DoorSnap) : Prop :=
  Own i c s ∧
    match c with
    | .stmt none (.ticketUpdateMany id scannedAt _) => Checked P d i op id scannedAt s
    | .stmt none (.ticketUpdate ..) => False
    | .commit tx => ∀ ss, s.world.session? tx = some ss → ∀ id scannedAt scannedBy,
        .use id scannedAt scannedBy ∈ ss.writes → Checked P d i op id scannedAt s
    | _ => True

def gateOutline : DoorOutline where
  toDiscipline := postgres
  inv := Gated P d
  pre := gatePre P d

end Outline

variable {P : DoorPlatform} {d : Door} {i : Nat} {op : ScanOp} {s : DoorSnap}

theorem ReadAt.persistent (i : Nat) (now : Time) : Persistent (door P) (ReadAt i now) where
  exec h _ _ _ _ := by
    obtain ⟨e, he, h⟩ := h
    exact ⟨e, List.mem_cons_of_mem _ he, h⟩
  env h _ := h

theorem OnTime.persistent (i : Nat) (ticket : Ticket) (payload : QRPayload) :
    Persistent (door P) (OnTime d i ticket payload) where
  exec h j op c o := by
    obtain ⟨⟨now, hnow, hexp⟩, hshow⟩ := h
    refine ⟨⟨now, (ReadAt.persistent i now).exec hnow j op c o, hexp⟩, fun shw hshw => ?_⟩
    obtain ⟨nowMs, hnowMs, hadmits⟩ := hshow shw hshw
    exact ⟨nowMs, (ReadAt.persistent i nowMs).exec hnowMs j op c o, hadmits⟩
  env h _ := h

theorem Checked.persistent (i : Nat) (op : ScanOp) (id : String) (scannedAt : Time) :
    Persistent (door P) (Checked P d i op id scannedAt) where
  exec h j op' c o := by
    obtain ⟨ticket, qrToken, payload, hid, hentry, htimed⟩ := h
    refine ⟨ticket, qrToken, payload, hid, hentry, ?_⟩
    cases op with
    | scanTicket =>
        obtain ⟨htoken, hread, hontime⟩ := htimed
        exact ⟨htoken, (ReadAt.persistent i scannedAt).exec hread j op' c o,
          (OnTime.persistent i ticket payload).exec hontime j op' c o⟩
    | syncOfflineScans => exact htimed
  env h _ := by
    obtain ⟨ticket, qrToken, payload, hid, hentry, htimed⟩ := h
    exact ⟨ticket, qrToken, payload, hid, hentry, by cases op <;> exact htimed⟩

theorem tracks_gate (P : DoorPlatform) (d : Door) : Tracks (gateOutline P d) where
  store h := h.store
  openers h := h.openers
  own h := h.1
  waits h := h

theorem fixed_step (c : TxCmd ScanStmt) (o : Option Loss) {w : DoorStore}
    (h : w.data.fixed = d.fixed) : (doorDb.step c o w).2.data.fixed = d.fixed :=
  data_of_forall (I := fun d' : Door => d'.fixed = d.fixed)
    (fun w d' h => (fixed_apply w d').trans h) c o h

theorem use_exec {q : ScanStmt} {o : Option Loss} {d' : Door} {id scannedBy : String}
    {scannedAt : Time} (h : .use id scannedAt scannedBy ∈ (doorDb.exec q o d').2) :
    q = .ticketUpdateMany id scannedAt scannedBy ∨ q = .ticketUpdate id (some scannedAt) scannedBy := by
  change _ ∈ (ScanStmt.exec d' q).2 at h
  cases q with
  | ticketUpdateMany id' at_ by_ =>
      simp only [ScanStmt.exec] at h
      split at h
      · cases List.mem_singleton.mp h
        exact Or.inl rfl
      · cases h
  | ticketUpdate id' at? by_ =>
      cases at? with
      | none => cases h
      | some at_ =>
          simp only [ScanStmt.exec] at h
          split at h
          · cases List.mem_singleton.mp h
            exact Or.inr rfl
          · cases h
  | deviceUpdate id' at_ =>
      simp only [ScanStmt.exec] at h
      split at h
      · cases List.mem_singleton.mp h
      · cases h
  | scanLogFindFirst _ _ at? => cases at? <;> cases h
  | offlineScanFindFirst _ _ at? => cases at? <;> cases h
  | offlineScanCreate _ _ at? _ _ =>
      cases at? with
      | none => cases h
      | some at_ => cases List.mem_singleton.mp h
  | scanLogCreate => cases List.mem_singleton.mp h
  | _ => cases h

theorem checked_of_admits {c : TxCmd ScanStmt} {o : Option Loss} {id : String} {row : Ticket}
    (hpre : gatePre P d i op c s) (h : Admits P ⟨i, op, c, o, s.world⟩ id row) :
    ∃ scannedAt, row.scannedAt = some scannedAt ∧ Checked P d i op id scannedAt s := by
  obtain ⟨⟨t, ht, hid, hactive⟩, hrow, rfl, hused⟩ := h
  have hnot : row ∉ s.world.data.tickets.rows := by
    intro hmem
    obtain rfl := List.inj_on_of_nodup_map s.world.data.tickets.ids ht hmem hid
    rw [hactive] at hused
    cases hused
  change row ∈ (doorDb.step c o s.world).2.data.tickets.rows at hrow
  have heffect := step_effect doorDb c o s.world
  generalize (doorDb.step c o s.world).2.sessions = l at heffect
  generalize (doorDb.step c o s.world).2.data = d' at heffect hrow
  cases heffect with
  | @autocommit q hc _ =>
      subst hc
      obtain ⟨scannedAt, scannedBy, huse, hat⟩ := (use_of_applyAll hrow).resolve_left hnot
      rcases use_exec huse with rfl | rfl
      · exact ⟨scannedAt, hat, hpre.2⟩
      · exact hpre.2.elim
  | @commit ss hc hss _ _ =>
      subst hc
      obtain ⟨scannedAt, scannedBy, huse, hat⟩ := (use_of_applyAll hrow).resolve_left hnot
      exact ⟨scannedAt, hat, hpre.2 ss hss row.id scannedAt scannedBy huse⟩
  | _ => exact absurd hrow hnot

/-- **Step**: whatever is used has been checked. -/
theorem gated_exec (h : Gated P d s) {c : TxCmd ScanStmt} {o : Option Loss}
    (hpre : gatePre P d i op c s) (hw : doorDb.waits c o s.world = false) :
    Gated P d (s.exec (door P) i op c o) where
  store := storeOk_step h.store hw
  openers := openers_exec h.openers i op c o
  fixed := fixed_step c o h.fixed
  events e he id row hadmits := by
    rcases List.mem_cons.mp he with rfl | he
    · obtain ⟨scannedAt, hat, hchecked⟩ := checked_of_admits hpre hadmits
      exact ⟨scannedAt, hat, (Checked.persistent i op id scannedAt).exec hchecked i op c o⟩
    · obtain ⟨scannedAt, hat, hchecked⟩ := h.events e he id row hadmits
      exact ⟨scannedAt, hat, (Checked.persistent e.tid e.op id scannedAt).exec hchecked i op c o⟩

/-! ## `scanTicket` -/

section Calls

variable {α : Type} {Q : α → DoorSnap → Prop} {F : DoorSnap → Prop}

theorem own_alone {q : ScanStmt} : Own i (.stmt none q) s := fun _ htx => by cases htx

theorem gatePre_plain {c : TxCmd ScanStmt} (hc : Plain c) : gatePre P d i op c s := by
  cases c with
  | stmt t q =>
      cases t with
      | some tx => exact hc.elim
      | none =>
          refine ⟨own_alone, ?_⟩
          cases q with
          | ticketUpdateMany => exact hc.elim
          | ticketUpdate => exact hc.elim
          | _ => trivial
  | _ => exact hc.elim

theorem wp_plain {p : ScanM α} (hp : p.All Plain) :
    p.wp (door P) (gateOutline P d) i op (fun _ _ => True) (fun _ _ => True) s :=
  wp_keep hp (F := fun _ => True) (fun _ hc _ _ _ => gatePre_plain hc) persistent_true.kept trivial

theorem wp_ask_plain {q : ScanStmt} {f : q.Ret → ScanM α} (hq : Plain (.stmt none q))
    (hF : Persistent (door P) F) (hs : F s)
    (hok : ∀ s o a, Gated P d s → F (s.exec (door P) i op (.stmt none q) o) →
      (doorDb.step (.stmt none q) o s.world).1 = .ok a →
      (f a).wp (door P) (gateOutline P d) i op Q (fun _ _ => True)
        (s.exec (door P) i op (.stmt none q) o)) :
    (ask none q >>= f).wp (door P) (gateOutline P d) i op Q (fun _ _ => True) s :=
  wp_query hF.stable hs persistent_true (fun _ _ => trivial) (fun _ _ _ => gatePre_plain hq)
    fun s o a hinv hs _ ha _ => hok s o a hinv (hF.exec hs ..) ha

theorem all_plain {q : ScanStmt} (hq : Plain (.stmt none q)) : (ask none q).All Plain :=
  ⟨hq, fun a => by cases a <;> trivial⟩

theorem all_finalizeScan {userId tenantId : String} {deviceId seat showId ticketId? : Option String}
    {source : ScanSource} {status : ScanStatus} :
    (finalizeScan userId tenantId deviceId source seat showId status ticketId?).All Plain :=
  (all_plain (by trivial)).bind fun _ => (all_plain (by trivial)).bind fun _ => trivial

theorem eq_of_device {qrToken userId tenantId id : String} {deviceId : Option String}
    (h : id ∈ (ScanOp.scanTicket qrToken userId tenantId deviceId .DEVICE).device?) :
    deviceId = some id ∧ id ≠ "" := by
  change deviceId.filter (· ≠ "") = some id at h
  simpa [Option.filter_eq_some_iff] using h

theorem deviceChecked_of_find {d' : Door} {id : String} {v : ScannerDevice}
    (hfixed : d'.fixed = d.fixed) (hop : ∀ id' ∈ op.device?, id' = id)
    (h : d'.scannerDevices.find? (fun v => v.id == id && v.tenantId == op.tenantId && v.isActive)
      = some v) : DeviceChecked d op := by
  intro id' hid'
  obtain rfl := hop id' hid'
  obtain ⟨v₀, hv₀, hsame⟩ := device_of_fixed hfixed (List.mem_of_find?_eq_some h)
  have hv := List.find?_some h
  simp only [Bool.and_eq_true, beq_iff_eq] at hv
  simp only [ScannerDevice.fixed, Prod.mk.injEq] at hsame
  exact ⟨v₀, hv₀, hsame.1.trans hv.1.1, hsame.2.2.trans hv.1.2, hsame.2.1.trans hv.2⟩

/-! The facts of `scanTicket`, one test after the other. -/

section ScanTicket

variable {qrToken userId tenantId : String} {deviceId : Option String} {source : ScanSource}
  {ticket : Ticket} {payload : QRPayload}

theorem readAt_dateNow (P : DoorPlatform) (i : Nat) (op : ScanOp) {o : Option Loss} {now : Time}
    (h : (doorDb.step (.stmt none .dateNow) o s.world).1 = .ok now) :
    ReadAt i now (s.exec (door P) i op (.stmt none .dateNow) o) :=
  ⟨_, List.mem_cons_self .., rfl, Except.ok.inj (query_ok h).1⟩

theorem wp_gate_claim
    (hentry : Entry P d (.scanTicket qrToken userId tenantId deviceId source) ticket qrToken payload)
    (hs : OnTime d i ticket payload s) :
    (claim userId tenantId deviceId source payload ticket).wp (door P) (gateOutline P d) i
      (.scanTicket qrToken userId tenantId deviceId source) (fun _ _ => True) (fun _ _ => True) s := by
  unfold claim
  cases ticket.status with
  | USED => exact wp_plain all_finalizeScan
  | other => exact wp_plain all_finalizeScan
  | ACTIVE =>
      refine wp_ask_plain (by trivial) (OnTime.persistent i ticket payload) hs
        fun s o scannedAt _ hs hnow => ?_
      have hread := readAt_dateNow P i (.scanTicket qrToken userId tenantId deviceId source) hnow
      refine wp_query ((ReadAt.persistent i scannedAt).and (OnTime.persistent i ticket payload)).stable
        ⟨hread, hs⟩ persistent_true (fun _ _ => trivial) (fun s _ h => ?_) fun s o count _ _ _ _ _ => ?_
      · exact ⟨own_alone, ticket, qrToken, payload, rfl, hentry, rfl, h⟩
      · split <;> exact wp_plain all_finalizeScan

theorem wp_gate_admit
    (hentry : ticket.tenantId = tenantId →
      Entry P d (.scanTicket qrToken userId tenantId deviceId source) ticket qrToken payload) :
    (admitTicket userId tenantId deviceId source payload ticket).wp (door P) (gateOutline P d) i
      (.scanTicket qrToken userId tenantId deviceId source) (fun _ _ => True) (fun _ _ => True) s := by
  unfold admitTicket
  split
  · exact wp_plain all_finalizeScan
  · rename_i htenant
    refine wp_ask_plain (by trivial) persistent_true trivial fun s o now hinv _ hnow => ?_
    have hread := readAt_dateNow P i (.scanTicket qrToken userId tenantId deviceId source) hnow
    split
    · exact wp_plain all_finalizeScan
    · rename_i hexp
      refine wp_ask_plain (by trivial) (ReadAt.persistent i now) hread fun s o show? hinv hread hfind => ?_
      have hshow : d.showOf ticket = show? := by
        rw [Door.showOf, ← shows_of_fixed hinv.fixed]
        exact Except.ok.inj (query_ok hfind).1
      have htoken : ∀ {s}, ReadAt i now s → ∃ now, ReadAt i now s ∧ now / 1000 ≤ payload.exp :=
        fun h => ⟨now, h, Int.not_lt.mp hexp⟩
      have hentry' := hentry (not_not.mp htenant)
      cases show? with
      | none =>
          exact wp_gate_claim hentry' ⟨htoken hread, fun shw hshw => by rw [hshow] at hshw; cases hshw⟩
      | some shw =>
          refine wp_ask_plain (by trivial) (ReadAt.persistent i now) hread fun s o nowMs _ hread hnow => ?_
          have hreadMs := readAt_dateNow P i (.scanTicket qrToken userId tenantId deviceId source) hnow
          split
          · exact wp_plain all_finalizeScan
          · rename_i hlate
            split
            · exact wp_plain all_finalizeScan
            · rename_i hearly
              refine wp_gate_claim hentry' ⟨htoken hread, fun shw' hshw' => ?_⟩
              obtain rfl := Option.some.inj (hshow.symm.trans hshw')
              exact ⟨nowMs, hreadMs, Int.not_lt.mp hearly, Int.not_lt.mp hlate⟩

theorem wp_gate_scanToken
    (hdevice : DeviceChecked d (.scanTicket qrToken userId tenantId deviceId source)) :
    (scanToken P qrToken userId tenantId deviceId source).wp (door P) (gateOutline P d) i
      (.scanTicket qrToken userId tenantId deviceId source) (fun _ _ => True) (fun _ _ => True) s := by
  unfold scanToken
  split
  · exact wp_plain all_finalizeScan
  · rename_i payload hvalid
    refine wp_ask_plain (by trivial) persistent_true trivial fun s o ticket? hinv _ hfind => ?_
    cases ticket? with
    | none => exact wp_plain all_finalizeScan
    | some ticket =>
        have hfound : s.world.data.tickets.rows.find? (·.qrHash == P.hashToken qrToken) = some ticket :=
          Except.ok.inj (query_ok hfind).1
        have hhash := List.find?_some hfound
        exact wp_gate_admit fun htenant =>
          { known := ticket_of_fixed hinv.fixed (List.mem_of_find?_eq_some hfound)
            valid := hvalid
            hash := (beq_iff_eq.mp hhash).symm
            tenant := htenant
            device := hdevice }

theorem wp_gate_scanTicket :
    (scanTicket P qrToken userId tenantId deviceId source).wp (door P) (gateOutline P d) i
      (.scanTicket qrToken userId tenantId deviceId source) (fun _ _ => True) (fun _ _ => True) s := by
  unfold scanTicket
  split
  · rename_i id
    split
    · rename_i hempty
      refine wp_gate_scanToken fun id' hid' => ?_
      obtain ⟨hsome, hne⟩ := eq_of_device hid'
      exact absurd ((Option.some.inj hsome).symm.trans hempty) hne
    · refine wp_ask_plain (by trivial) persistent_true trivial fun s o device? hinv _ hfind => ?_
      cases device? with
      | none => exact wp_plain all_finalizeScan
      | some v =>
          have hdevice : DeviceChecked d (.scanTicket qrToken userId tenantId (some id) .DEVICE) :=
            deviceChecked_of_find hinv.fixed
              (fun id' hid' => (Option.some.inj (eq_of_device hid').1).symm)
              (Except.ok.inj (query_ok hfind).1)
          refine wp_ask_plain (by trivial) persistent_true trivial fun _ _ _ _ _ _ => ?_
          exact wp_ask_plain (by trivial) persistent_true trivial fun _ _ _ _ _ _ =>
            wp_gate_scanToken hdevice
  · rename_i hno
    refine wp_gate_scanToken fun id hid => ?_
    cases source with
    | STAFF => cases hid
    | DEVICE => exact absurd (eq_of_device hid).1 (hno id rfl)

end ScanTicket

/-! ## `syncOfflineScans` -/

section Sync

variable {deviceId tenantId : String} {scans : List OfflineScanDto} {tx : Nat}

/-- Whatever is used by these writes has been checked. -/
def UsesChecked (P : DoorPlatform) (d : Door) (i : Nat) (op : ScanOp) (ws : List ScanWrite) : Prop :=
  ∀ id scannedAt scannedBy, .use id scannedAt scannedBy ∈ ws → ∀ s, Checked P d i op id scannedAt s

/-- In transaction `tx` of a call. -/
abbrev Syncs (P : DoorPlatform) (d : Door) (i : Nat) (op : ScanOp) (tx : Nat) : DoorSnap → Prop :=
  InTx i tx (Wrote (UsesChecked P d i op))

theorem wp_gate_stmt {q : ScanStmt} {f : q.Ret → ScanM α}
    (hs : Syncs P d i op tx s)
    (hq : ∀ id scannedAt scannedBy, q = .ticketUpdateMany id scannedAt scannedBy ∨
      q = .ticketUpdate id (some scannedAt) scannedBy → ∀ s, Checked P d i op id scannedAt s)
    (hok : ∀ s o a, Gated P d s → (doorDb.step (.stmt (some tx) q) o s.world).1 = .ok a →
      Syncs P d i op tx (s.exec (door P) i op (.stmt (some tx) q) o) →
      (f a).wp (door P) (gateOutline P d) i op Q (fun _ s => Opened i tx s ∧ True)
        (s.exec (door P) i op (.stmt (some tx) q) o)) :
    (ask (some tx) q >>= f).wp (door P) (gateOutline P d) i op Q (fun _ s => Opened i tx s ∧ True) s := by
  refine wp_stmt persistent_true (Wrote.stable (tracks_gate P d) _) hs trivial
    (fun s _ h => ⟨h.1.own rfl, by trivial⟩) fun s o a hinv hs _ _ ha => ?_
  refine hok s o a hinv ha (hs.wrote ha fun ws ws' hws hexec id scannedAt scannedBy huse => ?_)
  rcases List.mem_append.mp huse with huse | huse
  · exact hws id scannedAt scannedBy huse
  · rw [← show (doorDb.exec q o (doorDb.applyAll ws s.world.data)).2 = ws' from
      congrArg Prod.snd hexec] at huse
    exact hq id scannedAt scannedBy (use_exec huse)

theorem wp_gate_read {q : ScanStmt} {f : q.Ret → ScanM α} (hq : Plain (.stmt none q))
    (hs : Syncs P d i op tx s)
    (hok : ∀ s o a, Gated P d s → (doorDb.step (.stmt (some tx) q) o s.world).1 = .ok a →
      Syncs P d i op tx (s.exec (door P) i op (.stmt (some tx) q) o) →
      (f a).wp (door P) (gateOutline P d) i op Q (fun _ s => Opened i tx s ∧ True)
        (s.exec (door P) i op (.stmt (some tx) q) o)) :
    (ask (some tx) q >>= f).wp (door P) (gateOutline P d) i op Q (fun _ s => Opened i tx s ∧ True) s := by
  refine wp_gate_stmt hs (fun id scannedAt scannedBy h => ?_) hok
  rcases h with rfl | rfl <;> exact hq.elim

theorem wp_gate_logScan {ticket : Ticket} {scannedAtDate : JsDate} {finalStatus : SyncStatus}
    {qrToken : String} (hs : Syncs P d i op tx s) :
    (logScan deviceId tenantId tx ticket scannedAtDate finalStatus qrToken).wp (door P)
      (gateOutline P d) i op (fun _ => Syncs P d i op tx)
      (fun _ s => Opened i tx s ∧ True) s := by
  refine wp_gate_read (by trivial) hs fun s o _ _ _ hs => ?_
  refine wp_gate_read (by trivial) hs fun s o _ _ _ hs => ?_
  exact wp_ret (Wrote.stable (tracks_gate P d) _) hs fun _ _ h => h

/-- The body of the transaction of a scan of the batch. -/
theorem wp_gate_syncScan {scan : OfflineScanDto} (hscan : scan ∈ scans)
    (hdevice : DeviceChecked d (.syncOfflineScans deviceId tenantId scans))
    (hs : Syncs P d i (.syncOfflineScans deviceId tenantId scans) tx s) :
    (syncScan P deviceId tenantId scan tx).wp (door P) (gateOutline P d) i
      (.syncOfflineScans deviceId tenantId scans)
      (fun _ => Syncs P d i (.syncOfflineScans deviceId tenantId scans) tx)
      (fun _ s => Opened i tx s ∧ True) s := by
  have hret : ∀ {s : DoorSnap} (r : SyncResult),
      Syncs P d i (.syncOfflineScans deviceId tenantId scans) tx s →
      (Prog.ret r : ScanM SyncResult).wp (door P) (gateOutline P d) i
        (.syncOfflineScans deviceId tenantId scans)
        (fun _ => Syncs P d i (.syncOfflineScans deviceId tenantId scans) tx)
        (fun _ s => Opened i tx s ∧ True) s :=
    fun r hs => wp_ret (Wrote.stable (tracks_gate P d) _) hs fun _ _ h => h
  unfold syncScan
  dsimp only
  cases hvalid : P.validateToken scan.qrToken with
  | none => exact hret _ hs
  | some payload =>
      refine wp_gate_read (by trivial) hs fun s o existingLog _ _ hs => ?_
      split
      · exact hret _ hs
      · refine wp_gate_read (by trivial) hs fun s o existingQueue _ _ hs => ?_
        split
        · exact hret _ hs
        · refine wp_gate_read (by trivial) hs fun s o ticket? hinv hfind hs => ?_
          cases ticket? with
          | none => exact hret _ hs
          | some ticket =>
              dsimp only
              split
              · exact hret _ hs
              · rename_i htenant
                cases ticket.status with
                | USED => exact wp_gate_logScan hs
                | other => exact wp_gate_logScan hs
                | ACTIVE =>
                    obtain ⟨ss, -, -, hexec, -⟩ := stmt_ok hfind
                    have hfound : (doorDb.applyAll ss.writes s.world.data).tickets.rows.find?
                        (·.qrHash == P.hashToken scan.qrToken) = some ticket := Except.ok.inj hexec
                    have hhash := List.find?_some hfound
                    have hfixed := (fixed_applyAll ss.writes s.world.data).trans hinv.fixed
                    have hentry : Entry P d (.syncOfflineScans deviceId tenantId scans) ticket
                        scan.qrToken payload :=
                      { known := ticket_of_fixed hfixed (List.mem_of_find?_eq_some hfound)
                        valid := hvalid
                        hash := (beq_iff_eq.mp hhash).symm
                        tenant := not_not.mp htenant
                        device := hdevice }
                    refine wp_gate_stmt hs (fun id scannedAt scannedBy h s => ?_)
                      fun s o _ _ _ hs => wp_gate_logScan hs
                    rcases h with h | h
                    · cases h
                    · obtain ⟨rfl, hdate, -⟩ := ScanStmt.ticketUpdate.inj h
                      exact ⟨ticket, scan.qrToken, payload, rfl, hentry, scan, hscan, rfl, hdate⟩

theorem wp_gate_syncOne {scan : OfflineScanDto} (hscan : scan ∈ scans) (hinv : Gated P d s)
    (hdevice : DeviceChecked d (.syncOfflineScans deviceId tenantId scans)) :
    (syncOne P deviceId tenantId scan).wp (door P) (gateOutline P d) i
      (.syncOfflineScans deviceId tenantId scans) (fun _ _ => True) (fun _ _ => True) s := by
  refine wp_bind hinv (wp_attempt ?_)
  have htrue : ∀ {β : Type} {b : β} {s : DoorSnap}, (Prog.ret b : ScanM β).wp (door P)
      (gateOutline P d) i (.syncOfflineScans deviceId tenantId scans) (fun _ _ => True)
      (fun _ _ => True) s := fun _ _ _ => trivial
  have htx : (doorDb.transaction ScanExn.step (syncScan P deviceId tenantId scan)).wp (door P)
      (gateOutline P d) i (.syncOfflineScans deviceId tenantId scans) (fun _ _ => True)
      (fun _ _ => True) s := by
    refine wp_transaction (G := fun _ => True)
      (B := fun tx _ => Syncs P d i (.syncOfflineScans deviceId tenantId scans) tx)
      (tracks_gate P d) trivial persistent_true (fun s _ _ => ⟨nofun, trivial⟩)
      (fun s tx _ h => ⟨h.own rfl, trivial⟩) (fun s tx _ _ h => ?_)
      (fun tx _ => Wrote.stable (tracks_gate P d) _) (fun _ _ _ _ => trivial)
      (fun s tx _ _ h => wp_gate_syncScan hscan hdevice (h.mono fun ss _ h => ⟨?_, h.2⟩))
      fun _ _ _ _ _ _ _ _ _ => htrue
    · exact ⟨h.1.own rfl, fun ss hss id scannedAt scannedBy huse =>
        (h.2 ss hss).1 id scannedAt scannedBy huse s⟩
    · rw [h.1]
      intro id scannedAt scannedBy huse
      cases huse
  exact htx.mono (fun r s _ _ => htrue) fun e s _ _ => htrue

theorem wp_gate_syncOfflineScans :
    (syncOfflineScans P deviceId tenantId scans).wp (door P) (gateOutline P d) i
      (.syncOfflineScans deviceId tenantId scans) (fun _ _ => True) (fun _ _ => True) s := by
  unfold syncOfflineScans
  split
  · exact fun _ _ _ => trivial
  · refine wp_ask_plain (by trivial) persistent_true trivial fun s o device? hinv _ hfind => ?_
    cases device? with
    | none => exact fun _ _ _ => trivial
    | some v =>
        have hdevice : DeviceChecked d (.syncOfflineScans deviceId tenantId scans) :=
          deviceChecked_of_find hinv.fixed (fun id' hid' => (Option.some.inj hid').symm)
            (Except.ok.inj (query_ok hfind).1)
        refine wp_ask_plain (by trivial) persistent_true trivial fun s o lastSeenAt _ _ _ => ?_
        refine wp_query persistent_true.stable trivial persistent_true (fun _ _ => trivial)
          (fun s _ _ => show gatePre P d i (.syncOfflineScans deviceId tenantId scans) _ s from
            gatePre_plain (by trivial))
          fun s o _ _ _ _ _ hinv => ?_
        exact (wp_mapM (R := fun _ _ _ => True) (fun _ _ => persistent_true)
          (fun scan hscan s hinv => wp_gate_syncOne hscan hinv hdevice) hinv).mono
            (fun _ _ _ _ => trivial) fun _ _ _ _ => trivial

end Sync

end Calls

theorem gateOutline_valid (P : DoorPlatform) (d : Door) :
    Outline.Valid (door P) (gateOutline P d) fun _ _ _ _ => True where
  inv_exec hinv _ _ _ _ _ hpre hallows := gated_exec hinv hpre hallows
  inv_env h e := by
    refine ⟨?_, openers_env h.openers e, ?_, fun e' he' id row hadmits => ?_⟩
    · rw [Snap.env_world]
      exact storeOk_env h.store e
    · cases e <;> exact h.fixed
    · obtain ⟨scannedAt, hat, hchecked⟩ := h.events e' he' id row hadmits
      exact ⟨scannedAt, hat, (Checked.persistent e'.tid e'.op id scannedAt).env hchecked e⟩
  body := by
    intro i op s _ hinv _
    cases op with
    | scanTicket qrToken userId tenantId deviceId source =>
        exact wp_bind hinv (wp_gate_scanTicket.mono (fun _ _ _ _ _ _ _ => trivial)
          fun _ _ _ _ => trivial)
    | syncOfflineScans deviceId tenantId scans =>
        exact wp_bind hinv (wp_gate_syncOfflineScans.mono (fun _ _ _ _ _ _ _ => trivial)
          fun _ _ _ _ => trivial)

/-! ## The rules at every gate -/

/-- What is checked at a claim, with a clock that stands still. -/
theorem rules_iff_inTime {i : Nat} {op : ScanOp} {scannedAt clock : Time} {s : DoorSnap}
    {ticket : Ticket} (hclock : ∀ e ∈ s.hist, e.tid = i → e.before.data.clock = clock)
    (hticket : ticket ∈ d.tickets.rows) (h : Checked P d i op ticket.id scannedAt s) :
    ∃ qrToken payload, op.presents P clock qrToken scannedAt ∧
      P.validateToken qrToken = some payload ∧ P.hashToken qrToken = ticket.qrHash ∧
      (AdmissionRules d op ticket payload.exp scannedAt ↔
        InTime d op ticket payload.exp scannedAt) := by
  obtain ⟨t, qrToken, payload, hid, hentry, htimed⟩ := h
  obtain ⟨ticket₀, hticket₀, hfixed⟩ := hentry.known
  have hfixed' : ticket.fixed = t.fixed := by
    have heq : ticket₀.id = ticket.id := (congrArg (·.1) hfixed).trans hid
    rw [List.inj_on_of_nodup_map d.tickets.ids hticket hticket₀ heq.symm]
    exact hfixed
  simp only [Ticket.fixed, Prod.mk.injEq] at hfixed'
  obtain ⟨-, hshowId, hqrHash, htenantId⟩ := hfixed'
  have hshow : d.showOf ticket = d.showOf t := by rw [Door.showOf, Door.showOf, hshowId]
  have hread : ∀ now, ReadAt i now s → now = clock := by
    rintro now ⟨e, he, htid, rfl⟩
    exact hclock e he htid
  refine ⟨qrToken, payload, ?_, hentry.valid, hentry.hash.trans hqrHash.symm, ?_⟩
  · cases op with
    | scanTicket token userId tenantId deviceId source => exact ⟨htimed.1, hread _ htimed.2.1⟩
    | syncOfflineScans deviceId tenantId scans => exact htimed
  · have hrules : ∀ shw ∈ d.showOf ticket, shw.admitsAt scannedAt → scannedAt ≤ payload.exp * 1000 →
        AdmissionRules d op ticket payload.exp scannedAt := fun shw hshw hadmits htoken =>
      ⟨htenantId.trans hentry.tenant, hentry.device, ⟨shw, hshw, hadmits⟩, htoken⟩
    cases op with
    | scanTicket token userId tenantId deviceId source =>
        obtain ⟨-, hat, ⟨now, hnow, hexp⟩, hadmits⟩ := htimed
        have hexp' : scannedAt / 1000 ≤ payload.exp := by
          rwa [hread _ hat, ← hread _ hnow]
        constructor
        · intro h
          obtain ⟨shw, hshw, -⟩ := h.window
          refine ⟨?_, (le_exp_iff hexp').mp h.token⟩
          rw [hshw]
          nofun
        · rintro ⟨hwindow, hsecond⟩
          obtain ⟨shw, hshw⟩ := Option.ne_none_iff_exists'.mp hwindow
          obtain ⟨nowMs, hnowMs, hadmit⟩ := hadmits shw (hshow.symm.trans hshw)
          have hsame : nowMs = scannedAt := (hread _ hnowMs).trans (hread _ hat).symm
          exact hrules shw hshw (hsame ▸ hadmit) ((le_exp_iff hexp').mpr hsecond)
    | syncOfflineScans deviceId tenantId scans =>
        constructor
        · intro h
          exact ⟨h.window, h.token⟩
        · rintro ⟨⟨shw, hshw, hadmits⟩, htoken⟩
          exact hrules shw hshw hadmits htoken

/-- **Gates**: whenever a call uses a ticket, a token of the ticket was
presented at the time that is recorded, and the rules of admission hold
exactly when that time is as `InTime` says. -/
theorem gateRules_run (P : DoorPlatform) (d : Door) (ls : List DoorLabel)
    (hls : postgres.admitsRun (door P) (Config.idle (.idle d)) ls) (e : DoorEvent)
    (he : e ∈ ((Config.idle (.idle d)).run (door P) ls).hist) (ticket row : Ticket)
    (hticket : ticket ∈ d.tickets.rows) (hadmits : Admits P e ticket.id row)
    (hclock : ∀ e' ∈ ((Config.idle (.idle d)).run (door P) ls).hist, e'.tid = e.tid →
      e'.before.data.clock = e.before.data.clock) :
    ∃ scannedAt qrToken payload, row.scannedAt = some scannedAt ∧
      e.op.presents P e.before.data.clock qrToken scannedAt ∧
      P.validateToken qrToken = some payload ∧ P.hashToken qrToken = ticket.qrHash ∧
      (AdmissionRules d e.op ticket payload.exp scannedAt ↔
        InTime d e.op ticket payload.exp scannedAt) := by
  have hidle : Gated P d ⟨.idle d, []⟩ :=
    ⟨⟨List.nodup_nil, fun _ h => (nomatch h), fun _ h => (nomatch h)⟩, openers_idle _, rfl,
      fun _ h => (nomatch h)⟩
  have hgood := Outline.sound (gateOutline_valid P d) (Outline.Good.idle hidle) hls
  obtain ⟨scannedAt, hat, hchecked⟩ := hgood.inv.events e he ticket.id row hadmits
  obtain ⟨qrToken, payload, hrest⟩ := rules_iff_inTime hclock hticket hchecked
  exact ⟨scannedAt, qrToken, payload, hat, hrest⟩

/-! ## A scan in time and one that is reported late -/

instance (P : DoorPlatform) (e : DoorEvent) (id : String) (row : Ticket) :
    Decidable (Admits P e id row) :=
  inferInstanceAs (Decidable ((∃ t ∈ e.before.data.tickets.rows, _) ∧ _))

instance (shw : Show) (scannedAt : Time) : Decidable (shw.admitsAt scannedAt) :=
  inferInstanceAs (Decidable (_ ∧ _))

theorem mem_of_head? {α : Type} {l : List α} (a : α) (h : l.head?.isSome) : l.head?.getD a ∈ l := by
  cases l with
  | nil => cases h
  | cons b l => exact List.mem_cons_self ..

namespace Sample

def theTicket : Ticket := ⟨"tk1", "show1", "A1", tokenHash, .ACTIVE, none, none, "t1"⟩

def usedBy (scannedAt : Time) (scannedBy : String) : Ticket :=
  { theTicket with status := .USED, scannedAt := some scannedAt, scannedBy := some scannedBy }

def staffSteps : List DoorLabel := .spawn staffScan :: doorSteps 0 6

def staffEvent : DoorEvent :=
  ((Config.idle (.idle atTheDoor)).run (door platform) staffSteps).hist.head?.getD
    ⟨0, staffScan, .begin, none, .idle atTheDoor⟩

theorem staffEvent_admits :
    postgres.admitsRun (door platform) (Config.idle (.idle atTheDoor)) staffSteps ∧
    ((Config.idle (.idle atTheDoor)).run (door platform) staffSteps).hist.head?.isSome ∧
    Admits platform staffEvent "tk1" (usedBy 3600000 "u1") ∧
    ∀ e ∈ ((Config.idle (.idle atTheDoor)).run (door platform) staffSteps).hist,
      e.tid = staffEvent.tid → e.before.data.clock = staffEvent.before.data.clock := by
  decide +kernel

theorem staffEvent_mem :
    staffEvent ∈ ((Config.idle (.idle atTheDoor)).run (door platform) staffSteps).hist := by
  unfold staffEvent
  exact mem_of_head? _ staffEvent_admits.2.1

/-- A device reports a scan of the day after. -/
def latePlatform : DoorPlatform :=
  { platform with
    newDate := fun text => if text = "1970-01-02T00:00:00.000Z" then some 86400000 else none }

def lateBatch : ScanOp :=
  .syncOfflineScans "dev1" "t1" [⟨qrToken, "1970-01-02T00:00:00.000Z"⟩]

def lateSteps : List DoorLabel := .spawn lateBatch :: doorSteps 0 11

def lateEvent : DoorEvent :=
  ((Config.idle (.idle atTheDoor)).run (door latePlatform) lateSteps).hist.head?.getD
    ⟨0, lateBatch, .begin, none, .idle atTheDoor⟩

theorem lateEvent_admits :
    postgres.admitsRun (door latePlatform) (Config.idle (.idle atTheDoor)) lateSteps ∧
    ((Config.idle (.idle atTheDoor)).run (door latePlatform) lateSteps).hist.head?.isSome ∧
    Admits latePlatform lateEvent "tk1" (usedBy 86400000 "dev1") ∧
    ∀ e ∈ ((Config.idle (.idle atTheDoor)).run (door latePlatform) lateSteps).hist,
      e.tid = lateEvent.tid → e.before.data.clock = lateEvent.before.data.clock := by
  decide +kernel

theorem lateEvent_mem :
    lateEvent ∈ ((Config.idle (.idle atTheDoor)).run (door latePlatform) lateSteps).hist := by
  unfold lateEvent
  exact mem_of_head? _ lateEvent_admits.2.1

end Sample

/-- A member of the staff scans an hour before the show. -/
theorem gateRules_staffScan : ∃ scannedAt qrToken payload,
    (Sample.usedBy 3600000 "u1").scannedAt = some scannedAt ∧
      Sample.staffEvent.op.presents Sample.platform Sample.staffEvent.before.data.clock qrToken
        scannedAt ∧
      Sample.platform.validateToken qrToken = some payload ∧
      Sample.platform.hashToken qrToken = Sample.theTicket.qrHash ∧
      (AdmissionRules Sample.atTheDoor Sample.staffEvent.op Sample.theTicket payload.exp scannedAt ↔
        InTime Sample.atTheDoor Sample.staffEvent.op Sample.theTicket payload.exp scannedAt) :=
  gateRules_run Sample.platform Sample.atTheDoor Sample.staffSteps Sample.staffEvent_admits.1
    Sample.staffEvent Sample.staffEvent_mem Sample.theTicket (Sample.usedBy 3600000 "u1")
    (List.mem_singleton_self _) Sample.staffEvent_admits.2.2.1 Sample.staffEvent_admits.2.2.2

/-- An offline scan is recorded at the time it reports, a day after the show. -/
theorem not_gateRules_late :
    ¬ ∀ (P : DoorPlatform) (d : Door) (ls : List DoorLabel),
      postgres.admitsRun (door P) (Config.idle (.idle d)) ls →
      ∀ e ∈ ((Config.idle (.idle d)).run (door P) ls).hist, ∀ ticket ∈ d.tickets.rows, ∀ row,
        Admits P e ticket.id row →
        (∀ e' ∈ ((Config.idle (.idle d)).run (door P) ls).hist, e'.tid = e.tid →
          e'.before.data.clock = e.before.data.clock) →
        ∃ scannedAt qrToken payload, row.scannedAt = some scannedAt ∧
          e.op.presents P e.before.data.clock qrToken scannedAt ∧
          P.validateToken qrToken = some payload ∧ P.hashToken qrToken = ticket.qrHash ∧
          AdmissionRules d e.op ticket payload.exp scannedAt := by
  intro h
  obtain ⟨scannedAt, qrToken, payload, hat, -, -, -, hrules⟩ := h Sample.latePlatform Sample.atTheDoor
    Sample.lateSteps Sample.lateEvent_admits.1 Sample.lateEvent Sample.lateEvent_mem Sample.theTicket
    (List.mem_singleton_self _) (Sample.usedBy 86400000 "dev1") Sample.lateEvent_admits.2.2.1
    Sample.lateEvent_admits.2.2.2
  obtain rfl := Option.some.inj hat
  obtain ⟨shw, hshw, hadmits⟩ := hrules.window
  obtain rfl : (⟨"show1", 7200000⟩ : Show) = shw := Option.some.inj hshw
  revert hadmits
  decide

end Omnipax.Scans
