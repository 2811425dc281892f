import Omnipax.Conc.Nested
import Omnipax.ScanVerdict

/-!
# Scans of the app

The scanner app keeps its scans in a table of its own, and `doWork` sends those
that are pending to `scanTicket`, which judges them by the time at which they
arrive. A refusal is an answer like any other: the scan is marked as synced, and
is not sent again.
-/

namespace Omnipax.Scans

open Conc Database Prog

/-! ## The table of the app -/

inductive RecordStatus where
  | PENDING
  | SYNCED
deriving Repr, DecidableEq

structure ScanRecord where
  id : Nat
  qrToken : String
  scannedAt : Int
  status : RecordStatus := .PENDING
  deviceId : Option String := none
  retryCount : Nat := 0
deriving Repr, DecidableEq

structure ScanTicketDto where
  qrToken : String
  deviceId : Option String := none
deriving Repr, DecidableEq

/-- What is sent of a scan. -/
def ScanRecord.payload (r : ScanRecord) : ScanTicketDto := ⟨r.qrToken, r.deviceId⟩

/-! ## The endpoint -/

/-- As whom the app is logged in: as a device of a tenant, whose scans are admitted as those of a
DEVICE, or as a user of it, whose scans are those of STAFF. -/
inductive Login where
  | device (deviceId tenantId : String)
  | user (userId tenantId ip : String)
deriving Repr, DecidableEq

def Login.tenantId : Login → String
  | .device _ tenantId => tenantId
  | .user _ tenantId _ => tenantId

/-- `TicketsController.scanTicket` -/
def Login.scanTicket : Login → ScanTicketDto → ScanOp
  | .device deviceId tenantId, body =>
      .scanTicket body.qrToken deviceId tenantId (some deviceId) .DEVICE
  | .user userId tenantId ip, body =>
      let deviceId := match body.deviceId with
        | some id => if id = "" then ip else id
        | none => ip
      .scanTicket body.qrToken userId tenantId (some deviceId) .STAFF

structure Response where
  isSuccessful : Bool
  body : Option ScanAnswer
deriving Repr, DecidableEq

/-! ## Commands -/

/-- The statements of `ScanDao`, and a request and its response. -/
inductive PhoneCmd where
  | getPendingScansList
  | insertScan (qrToken : String) (deviceId : Option String)
  | markAsSynced (id : Nat)
  | incrementRetryCount (id : Nat)
  | request (payload : ScanTicketDto)
  | response (callId : Nat)
deriving Repr, DecidableEq

inductive PhoneExn where
  | sqlite
  | io
deriving Repr, DecidableEq

/-- A request that a guard refuses starts no call. -/
abbrev PhoneCmd.Ret : PhoneCmd → Type
  | .getPendingScansList => List ScanRecord
  | .insertScan .. => Unit
  | .markAsSynced _ => Unit
  | .incrementRetryCount _ => Unit
  | .request _ => Option Nat
  | .response _ => Response

abbrev phoneSig : Sig := ⟨PhoneCmd, fun c => Except PhoneExn c.Ret⟩

/-- Whether the step fails or is refused, the time of the app, and the order of
rows of the same time. -/
structure PhoneOracle where
  fails : Bool := false
  refused : Bool := false
  now : Int := 0
  rank : Nat → Nat := fun id => id

/-- The app and its server side by side: the table of recorded scans, and the server with
the calls that the app and others have made of it. -/
structure Phone where
  records : List ScanRecord
  nextId : Nat
  server : DoorConfig

/-- `ORDER BY scannedAt ASC` -/
def ordered (o : PhoneOracle) (a b : ScanRecord) : Bool :=
  a.scannedAt < b.scannedAt || (a.scannedAt == b.scannedAt && o.rank a.id ≤ o.rank b.id)

def setRecord (id : Nat) (f : ScanRecord → ScanRecord) (p : Phone) : Phone :=
  { p with records := p.records.map fun r => if r.id = id then f r else r }

def PhoneCmd.exn : PhoneCmd → PhoneExn
  | .request _ => .io
  | .response _ => .io
  | _ => .sqlite

section Server

variable (P : DoorPlatform) (login : Login)

/-- A call that does not answer in time is given up. -/
def PhoneCmd.run (o : PhoneOracle) (p : Phone) : (c : PhoneCmd) → Except PhoneExn c.Ret × Phone
  | .getPendingScansList =>
      (.ok ((p.records.filter (·.status == .PENDING)).mergeSort (ordered o)), p)
  | .insertScan qrToken deviceId =>
      (.ok (), { p with
        records := p.records ++ [{ id := p.nextId, qrToken, scannedAt := o.now, deviceId }]
        nextId := p.nextId + 1 })
  | .markAsSynced id => (.ok (), setRecord id (fun r => { r with status := .SYNCED }) p)
  | .incrementRetryCount id =>
      (.ok (), setRecord id (fun r => { r with retryCount := r.retryCount + 1 }) p)
  | .request payload =>
      if o.refused then (.ok none, p)
      else (.ok (some p.server.threads.length),
        { p with server := p.server.step (venue P) (.spawn (login.scanTicket payload)) })
  | .response callId =>
      match p.server.threads[callId]? with
      | some ⟨_, .ret (.scanTicket answer)⟩ => (.ok ⟨true, some answer⟩, p)
      | some ⟨_, .err _⟩ => (.ok ⟨false, none⟩, p)
      | _ => (.error .io, p)

/-- A step that fails has no effect. -/
def PhoneCmd.exec (c : PhoneCmd) (o : PhoneOracle) (p : Phone) : Except PhoneExn c.Ret × Phone :=
  if o.fails then (.error c.exn, p) else c.run P login o p

end Server

/-! ## The worker -/

abbrev PhoneM := Prog phoneSig PhoneExn

def perform (c : PhoneCmd) : PhoneM c.Ret := .call c fun
  | .ok a => .ret a
  | .error e => .err e

/-- `TicketsApi.scanTicket` -/
def scanTicketApi (payload : ScanTicketDto) : PhoneM Response := do
  match ← perform (.request payload) with
  | none => return ⟨false, none⟩
  | some callId => perform (.response callId)

/-- What the loop tries for a scan. -/
def trySync (scan : ScanRecord) : PhoneM Bool := do
  let response ← scanTicketApi scan.payload
  if response.isSuccessful then
    perform (.markAsSynced scan.id)
    return true
  else
    perform (.incrementRetryCount scan.id)
    return false

/-- The body of the loop: whether the scan has been synced. -/
def syncRecord (scan : ScanRecord) : PhoneM Bool := do
  match ← (trySync scan).attempt with
  | .ok synced => return synced
  | .error _ => do
      perform (.incrementRetryCount scan.id)
      return false

inductive WorkResult where
  | success
  | retry
  | failure
deriving Repr, DecidableEq

def doWork (runAttemptCount : Nat) : PhoneM WorkResult := do
  let pendingScans ← perform .getPendingScansList
  if pendingScans.isEmpty then return .success
  else
    let synced ← pendingScans.mapM syncRecord
    let allSuccessful := synced.all id
    if allSuccessful then return .success
    else if runAttemptCount > 10 then return .failure
    else return .retry

/-! ## The system -/

inductive PhoneOp where
  | insertScan (qrToken : String) (deviceId : Option String)
  | doWork (runAttemptCount : Nat)
deriving Repr, DecidableEq

inductive PhoneReply where
  | insertScan
  | doWork (result : WorkResult)
deriving Repr, DecidableEq

def PhoneOp.body : PhoneOp → PhoneM PhoneReply
  | .insertScan qrToken deviceId =>
      (fun _ => .insertScan) <$> perform (.insertScan qrToken deviceId)
  | .doWork runAttemptCount => .doWork <$> Scans.doWork runAttemptCount

/-- Any number of workers, while the server goes on with its calls, those of
other clients among them. One user is logged in for the whole run: that another one
logs in later, under whose name the unsynced scans would be sent, is not covered. -/
abbrev phone (P : DoorPlatform) (login : Login) :
    System phoneSig Phone PhoneOracle VenueLabel PhoneExn PhoneReply PhoneOp where
  exec c o p := c.exec P login o p
  env l p := { p with server := p.server.step (venue P) l }
  body := PhoneOp.body

abbrev PhoneSnap := Snap phoneSig Phone PhoneOracle PhoneOp
abbrev PhoneEvent := Conc.Event phoneSig Phone PhoneOracle PhoneOp
abbrev PhoneLabel := Label PhoneOracle VenueLabel PhoneOp
abbrev PhoneOutline := Outline phoneSig Phone PhoneOracle PhoneOp

def Phone.idle (d : Door) : Phone := ⟨[], 0, Config.idle (.idle d)⟩

/-- If this is the call of an answer to the scan, it has found the scan due at
each of its steps. -/
def AnsweredInTime (P : DoorPlatform) (login : Login) (payload : ScanTicketDto)
    (hist : List DoorEvent) (callId : Nat) :
    Option (Thread doorDb.sig ScanExn ScanReply ScanOp) → Prop
  | some ⟨op, .ret _⟩ => op = login.scanTicket payload →
      ∀ e ∈ hist, e.tid = callId → Due P op payload.qrToken e.before.data
  | _ => True

/-- The app takes an answer to this scan only from a call that has found it due at each of
its steps. What it does with the answers to other scans is not restricted. -/
def inTime (P : DoorPlatform) (login : Login) (payload : ScanTicketDto) :
    Discipline phoneSig Phone PhoneOracle PhoneOp where
  starts _ := True
  allows _ _ c _ s :=
    match c with
    | .response callId => AnsweredInTime P login payload s.world.server.hist callId
        s.world.server.threads[callId]?
    | _ => True

/-! ## What a step does -/

/-- Records stay, with their ids and payloads, and the server has taken a step
at most. -/
structure Grows (P : DoorPlatform) (w w' : Phone) : Prop where
  records : ∀ r ∈ w.records, ∃ r' ∈ w'.records, r'.id = r.id ∧ r'.payload = r.payload
  nextId : w.nextId ≤ w'.nextId
  server : w'.server = w.server ∨ ∃ l, w'.server = w.server.step (venue P) l

section Grows

variable {P : DoorPlatform} {login : Login} {w w' : Phone} {c : PhoneCmd} {o : PhoneOracle}

theorem grows_refl (P : DoorPlatform) (w : Phone) : Grows P w w :=
  ⟨fun r hr => ⟨r, hr, rfl, rfl⟩, Nat.le_refl _, Or.inl rfl⟩

theorem grows_server (P : DoorPlatform) (w : Phone) (l : VenueLabel) :
    Grows P w { w with server := w.server.step (venue P) l } :=
  ⟨fun r hr => ⟨r, hr, rfl, rfl⟩, Nat.le_refl _, Or.inr ⟨l, rfl⟩⟩

theorem grows_setRecord (P : DoorPlatform) (id : Nat) {f : ScanRecord → ScanRecord}
    (hf : ∀ r, (f r).id = r.id ∧ (f r).payload = r.payload) (w : Phone) :
    Grows P w (setRecord id f w) := by
  refine ⟨fun r hr => ⟨_, List.mem_map_of_mem hr, ?_⟩, Nat.le_refl _, Or.inl rfl⟩
  split
  · exact hf r
  · exact ⟨rfl, rfl⟩

theorem grows_run (c : PhoneCmd) (o : PhoneOracle) (w : Phone) :
    Grows P w (c.run P login o w).2 := by
  cases c with
  | getPendingScansList => exact grows_refl P w
  | insertScan qrToken deviceId =>
      exact ⟨fun r hr => ⟨r, List.mem_append_left _ hr, rfl, rfl⟩, Nat.le_succ _, Or.inl rfl⟩
  | markAsSynced id =>
      exact grows_setRecord P id (f := fun r => { r with status := .SYNCED }) (fun _ => ⟨rfl, rfl⟩) w
  | incrementRetryCount id =>
      exact grows_setRecord P id (f := fun r => { r with retryCount := r.retryCount + 1 })
        (fun _ => ⟨rfl, rfl⟩) w
  | request payload =>
      simp only [PhoneCmd.run]
      split
      · exact grows_refl P w
      · exact grows_server P w _
  | response callId =>
      simp only [PhoneCmd.run]
      split <;> exact grows_refl P w

theorem exec_eq_run (h : o.fails = false) : c.exec P login o w = c.run P login o w := by
  rw [PhoneCmd.exec, h]
  rfl

theorem exec_fails (h : o.fails = true) : (c.exec P login o w).2 = w := by
  rw [PhoneCmd.exec, h]
  rfl

theorem grows_exec (c : PhoneCmd) (o : PhoneOracle) (w : Phone) :
    Grows P w (c.exec P login o w).2 := by
  cases hfails : o.fails with
  | true =>
      rw [exec_fails hfails]
      exact grows_refl P w
  | false =>
      rw [exec_eq_run hfails]
      exact grows_run c o w

theorem Grows.keeps {F : DoorSnap → Prop} (hF : Persistent (venue P) F) (h : Grows P w w')
    (hw : F w.server.toSnap) : F w'.server.toSnap := by
  rcases h.server with hserver | ⟨l, hserver⟩ <;> rw [hserver]
  · exact hw
  · exact hF.step hw l

theorem Grows.op {callId : Nat} {op : ScanOp} (h : Grows P w w')
    (hw : ∃ prog, w.server.threads[callId]? = some ⟨op, prog⟩) :
    ∃ prog, w'.server.threads[callId]? = some ⟨op, prog⟩ := by
  obtain ⟨prog, hth⟩ := hw
  rcases h.server with hserver | ⟨l, hserver⟩ <;> rw [hserver]
  · exact ⟨prog, hth⟩
  · exact Config.op_step hth l

theorem persistent_grows {F : Phone → Prop} (hF : ∀ {w w'}, Grows P w w' → F w → F w') :
    Persistent (phone P login) fun s => F s.world :=
  persistent_world (fun w hw c o => hF (grows_exec c o w) hw) fun w hw l => hF (grows_server P w l) hw

end Grows

/-! ## A scan that has been recorded -/

section Target

variable (P : DoorPlatform) (login : Login) (payload : ScanTicketDto) (e₀ : PhoneEvent)

/-- The scan has been recorded when the token was valid and the tenant had the
ticket. -/
structure Target : Prop where
  cmd : e₀.cmd = .insertScan payload.qrToken payload.deviceId
  stored : e₀.oracle.fails = false
  known : Known P payload.qrToken login.tenantId e₀.before.server.world.data

/-- What holds of it from then on: the calls that have started since have seen
the ticket, and if it is marked as synced the ticket is not ACTIVE. -/
structure Tracked (w : Phone) : Prop where
  id : e₀.before.nextId < w.nextId
  calls : e₀.before.server.threads.length ≤ w.server.threads.length
  issued : Issued (P.hashToken payload.qrToken) login.tenantId w.server.world.data
  events : ∀ e ∈ w.server.hist, e₀.before.server.threads.length ≤ e.tid →
    Issued (P.hashToken payload.qrToken) login.tenantId e.before.data
  record : ∀ r ∈ w.records, r.id = e₀.before.nextId → r.payload = payload ∧
    (r.status = .SYNCED → Spent (P.hashToken payload.qrToken) w.server.world.data)

structure Custody (s : PhoneSnap) : Prop where
  good : Outline.Good (venue P) venueOutline (fun i op => op.verdict P i) s.world.server
  ids : ∀ r ∈ s.world.records, r.id < s.world.nextId
  tracked : e₀ ∈ s.hist → Tracked P login payload e₀ s.world

/-- A scan is marked as synced when its ticket is not ACTIVE. -/
def custodyOutline : PhoneOutline where
  toDiscipline := inTime P login payload
  inv := Custody P login payload e₀
  pre _ _ c s := ∀ id, c = .markAsSynced id → id = e₀.before.nextId → e₀ ∈ s.hist →
    Spent (P.hashToken payload.qrToken) s.world.server.world.data

end Target

section Steps

variable {P : DoorPlatform} {login : Login} {payload : ScanTicketDto} {e₀ : PhoneEvent} {w : Phone}
  {s : PhoneSnap} {i : Nat} {op : PhoneOp} {c : PhoneCmd} {o : PhoneOracle}

theorem good_step {cfg : DoorConfig}
    (h : Outline.Good (venue P) venueOutline (fun i op => op.verdict P i) cfg) (l : VenueLabel) :
    Outline.Good (venue P) venueOutline (fun i op => op.verdict P i) (cfg.step (venue P) l) := by
  have hls : venueOutline.admitsRun (venue P) cfg [l] := Discipline.admitsRun_free fun _ _ => trivial
  exact Outline.sound (venueOutline_valid P) h hls

theorem Tracked.serve (h : Tracked P login payload e₀ w) (l : VenueLabel) :
    Tracked P login payload e₀ { w with server := w.server.step (venue P) l } where
  id := h.id
  calls := Nat.le_trans h.calls (Config.length_step l)
  issued := (persistent_issued P _ _).step h.issued l
  events e he htid := by
    rcases Config.mem_hist_step he with he | hbefore
    · exact h.events e he htid
    · rw [hbefore]
      exact h.issued
  record r hr hid := by
    obtain ⟨hpayload, hspent⟩ := h.record r hr hid
    exact ⟨hpayload, fun hstatus => (persistent_spent P _).step (hspent hstatus) l⟩

theorem Tracked.setRecord (h : Tracked P login payload e₀ w) {id : Nat} {f : ScanRecord → ScanRecord}
    (hf : ∀ r, (f r).id = r.id ∧ (f r).payload = r.payload)
    (hstatus : id = e₀.before.nextId → ∀ r, (f r).status = .SYNCED → r.status = .SYNCED ∨
      Spent (P.hashToken payload.qrToken) w.server.world.data) :
    Tracked P login payload e₀ (setRecord id f w) where
  id := h.id
  calls := h.calls
  issued := h.issued
  events := h.events
  record r hr hid := by
    obtain ⟨r₀, hr₀, rfl⟩ := List.mem_map.mp hr
    split
    · rename_i hsame
      rw [if_pos hsame] at hid
      have hid₀ : r₀.id = e₀.before.nextId := (hf r₀).1.symm.trans hid
      obtain ⟨hpayload, hspent⟩ := h.record r₀ hr₀ hid₀
      refine ⟨(hf r₀).2.trans hpayload, fun hs => ?_⟩
      exact (hstatus (hsame.symm.trans hid₀) r₀ hs).elim hspent fun h => h
    · rename_i hne
      rw [if_neg hne] at hid
      exact h.record r₀ hr₀ hid

theorem tracked_insert (h₀ : Target P login payload e₀) (h : Custody P login payload e₀ s)
    (he : e₀ = ⟨i, op, .insertScan payload.qrToken payload.deviceId, o, s.world⟩) :
    Tracked P login payload e₀
      ((PhoneCmd.insertScan payload.qrToken payload.deviceId).run P login o s.world).2 := by
  have hbefore : e₀.before = s.world := congrArg Conc.Event.before he
  refine { id := ?_, calls := ?_, issued := ?_, events := fun e hmem htid => ?_,
           record := fun r hr hid => ?_ }
  · rw [hbefore]
    exact Nat.lt_succ_self _
  · rw [hbefore]
    exact Nat.le_refl _
  · rw [← hbefore]
    exact h₀.known.2
  · rw [hbefore] at htid
    exact absurd (h.good.fresh e hmem) (Nat.not_lt.mpr htid)
  · rw [hbefore] at hid
    rcases List.mem_append.mp hr with hr | hr
    · exact absurd hid (Nat.ne_of_lt (h.ids r hr))
    · obtain rfl := List.mem_singleton.mp hr
      exact ⟨rfl, nofun⟩

theorem ids_exec (h : ∀ r ∈ w.records, r.id < w.nextId) :
    ∀ r ∈ (c.exec P login o w).2.records, r.id < (c.exec P login o w).2.nextId := by
  have hset : ∀ (id : Nat) (f : ScanRecord → ScanRecord), (∀ r, (f r).id = r.id) →
      ∀ r ∈ (setRecord id f w).records, r.id < w.nextId := by
    intro id f hf r hr
    obtain ⟨r₀, hr₀, rfl⟩ := List.mem_map.mp hr
    split
    · rw [hf]
      exact h r₀ hr₀
    · exact h r₀ hr₀
  cases hfails : o.fails with
  | true =>
      rw [exec_fails hfails]
      exact h
  | false =>
      rw [exec_eq_run hfails]
      cases c with
      | getPendingScansList => exact h
      | insertScan qrToken deviceId =>
          intro r hr
          rcases List.mem_append.mp hr with hr | hr
          · exact Nat.lt_succ_of_lt (h r hr)
          · obtain rfl := List.mem_singleton.mp hr
            exact Nat.lt_succ_self _
      | markAsSynced id => exact hset id _ fun _ => rfl
      | incrementRetryCount id => exact hset id _ fun _ => rfl
      | request payload =>
          simp only [PhoneCmd.run]
          split <;> exact h
      | response callId =>
          simp only [PhoneCmd.run]
          split <;> exact h

theorem Tracked.run (h : Tracked P login payload e₀ w) (c : PhoneCmd) (o : PhoneOracle)
    (hc : ∀ id, c = .markAsSynced id → id = e₀.before.nextId →
      Spent (P.hashToken payload.qrToken) w.server.world.data) :
    Tracked P login payload e₀ (c.run P login o w).2 := by
  cases c with
  | getPendingScansList => exact h
  | insertScan qrToken deviceId =>
      refine { h with id := Nat.lt_succ_of_lt h.id, record := fun r hr hid => ?_ }
      rcases List.mem_append.mp hr with hr | hr
      · exact h.record r hr hid
      · obtain rfl := List.mem_singleton.mp hr
        exact absurd hid (Nat.ne_of_gt h.id)
  | markAsSynced id =>
      exact h.setRecord (f := fun r => { r with status := .SYNCED }) (fun _ => ⟨rfl, rfl⟩)
        fun hid _ _ => Or.inr (hc id rfl hid)
  | incrementRetryCount id =>
      exact h.setRecord (f := fun r => { r with retryCount := r.retryCount + 1 })
        (fun _ => ⟨rfl, rfl⟩) fun _ _ hs => Or.inl hs
  | request payload =>
      simp only [PhoneCmd.run]
      split
      · exact h
      · exact h.serve _
  | response callId =>
      simp only [PhoneCmd.run]
      split <;> exact h

theorem custody_exec (h₀ : Target P login payload e₀) (h : Custody P login payload e₀ s)
    (hpre : (custodyOutline P login payload e₀).pre i op c s) :
    Custody P login payload e₀ (s.exec (phone P login) i op c o) where
  good := by
    have hgrows : Grows P s.world (c.exec P login o s.world).2 := grows_exec c o s.world
    rcases hgrows.server with hserver | ⟨l, hserver⟩
    · rw [Snap.exec_world, hserver]
      exact h.good
    · rw [Snap.exec_world, hserver]
      exact good_step h.good l
  ids := ids_exec h.ids
  tracked he := by
    rw [Snap.exec_world, show (phone P login).exec c o s.world = c.exec P login o s.world from rfl]
    cases hfails : o.fails with
    | true =>
        rw [exec_fails hfails]
        rcases List.mem_cons.mp he with heq | he
        · have hstored := h₀.stored
          rw [heq] at hstored
          exact absurd (hfails.symm.trans hstored) nofun
        · exact h.tracked he
    | false =>
        rw [exec_eq_run hfails]
        rcases List.mem_cons.mp he with heq | he
        · obtain rfl : c = .insertScan payload.qrToken payload.deviceId :=
            (congrArg Conc.Event.cmd heq).symm.trans h₀.cmd
          exact tracked_insert h₀ h heq
        · exact (h.tracked he).run c o fun id hc hid => hpre id hc hid he

theorem custody_env (h : Custody P login payload e₀ s) (l : VenueLabel) :
    Custody P login payload e₀ (s.env (phone P login) l) where
  good := good_step h.good l
  ids := h.ids
  tracked he := (h.tracked he).serve l

end Steps

/-! ## The calls of the app -/

section Worker

variable {P : DoorPlatform} {login : Login} {payload : ScanTicketDto} {e₀ : PhoneEvent}
  {s : PhoneSnap} {i : Nat} {op : PhoneOp} {α β : Type} {scan : ScanRecord}

def Listed (scan : ScanRecord) (w : Phone) : Prop :=
  ∃ r ∈ w.records, r.id = scan.id ∧ r.payload = scan.payload

/-- `X` holds if the scan is the one that is tracked. -/
def IfTracked (e₀ : PhoneEvent) (scan : ScanRecord) (X : Phone → Prop) (s : PhoneSnap) : Prop :=
  scan.id < s.world.nextId ∧ (scan.id = e₀.before.nextId → e₀ ∈ s.hist → X s.world)

theorem persistent_listed (P : DoorPlatform) (login : Login) (scan : ScanRecord) :
    Persistent (phone P login) fun s => Listed scan s.world :=
  persistent_grows (P := P) fun h ⟨r, hr, hid, hpayload⟩ => by
    obtain ⟨r', hr', hid', hpayload'⟩ := h.records r hr
    exact ⟨r', hr', hid'.trans hid, hpayload'.trans hpayload⟩

theorem persistent_ifTracked {X : Phone → Prop} (hX : ∀ {w w'}, Grows P w w' → X w → X w') :
    Persistent (phone P login) (IfTracked e₀ scan X) where
  exec {s} h j op c o := by
    have hgrows : Grows P s.world (c.exec P login o s.world).2 := grows_exec c o s.world
    refine ⟨Nat.lt_of_lt_of_le h.1 hgrows.nextId, fun hid he => ?_⟩
    rcases List.mem_cons.mp he with heq | he
    · -- the scan was in the table before the tracked one was
      rw [heq] at hid
      exact absurd hid (Nat.ne_of_lt h.1)
    · exact hX hgrows (h.2 hid he)
  env {s} h l := ⟨h.1, fun hid he => hX (grows_server P s.world l) (h.2 hid he)⟩

/-- The commands of the program meet their assertions. -/
abbrev Works (P : DoorPlatform) (login : Login) (payload : ScanTicketDto) (e₀ : PhoneEvent)
    (i : Nat) (op : PhoneOp) (p : PhoneM α) (Q : α → PhoneSnap → Prop) (s : PhoneSnap) : Prop :=
  p.wp (phone P login) (custodyOutline P login payload e₀) i op Q (fun _ _ => True) s

theorem works_perform {c : PhoneCmd} {f : c.Ret → PhoneM β} {H : PhoneSnap → Prop}
    {Q : β → PhoneSnap → Prop} (hH : Persistent (phone P login) H) (hs : H s)
    (hpre : ∀ s, H s → (custodyOutline P login payload e₀).pre i op c s)
    (hok : ∀ s o a, Custody P login payload e₀ s → H s → (inTime P login payload).allows i op c o s →
      (c.exec P login o s.world).1 = .ok a →
      Custody P login payload e₀ (s.exec (phone P login) i op c o) →
      H (s.exec (phone P login) i op c o) →
      Works P login payload e₀ i op (f a) Q (s.exec (phone P login) i op c o)) :
    Works P login payload e₀ i op (perform c >>= f) Q s := by
  refine wp_call hH.stable hs (fun s _ hs => hpre s hs) fun s o hinv hs hallows hinv' => ?_
  cases h : ((phone P login).exec c o s.world).1 with
  | ok a => exact hok s o a hinv hs hallows h hinv' (hH.exec hs ..)
  | error e => exact fun _ _ _ => trivial

theorem pre_of_ne {c : PhoneCmd} (h : ∀ id, c ≠ .markAsSynced id) (s : PhoneSnap) :
    (custodyOutline P login payload e₀).pre i op c s := fun id hc => absurd hc (h id)

theorem works_plain {c : PhoneCmd} {a : α} (h : ∀ id, c ≠ .markAsSynced id) :
    Works P login payload e₀ i op (perform c >>= fun _ => .ret a) (fun _ _ => True) s :=
  works_perform persistent_true trivial (fun s _ => pre_of_ne h s)
    fun _ _ _ _ _ _ _ _ _ _ _ _ => trivial

abbrev Cleared (P : DoorPlatform) (payload : ScanTicketDto) (w : Phone) : Prop :=
  Spent (P.hashToken payload.qrToken) w.server.world.data

theorem persistent_cleared : Persistent (phone P login) (IfTracked e₀ scan (Cleared P payload)) :=
  persistent_ifTracked (P := P) fun h hw => h.keeps (persistent_spent P _) hw

/-- The scan is one of the table and the call is the one that was sent for it; if it is the
scan that is watched, the call is no older than its recording. -/
structure Sent (P : DoorPlatform) (login : Login) (e₀ : PhoneEvent) (scan : ScanRecord) (callId : Nat)
    (s : PhoneSnap) : Prop where
  listed : Listed scan s.world
  op : ∃ prog, s.world.server.threads[callId]? = some ⟨login.scanTicket scan.payload, prog⟩
  since : IfTracked e₀ scan (fun _ => e₀.before.server.threads.length ≤ callId) s

theorem persistent_sent (callId : Nat) : Persistent (phone P login) (Sent P login e₀ scan callId) where
  exec h j op c o :=
    { listed := (persistent_listed P login scan).exec h.listed j op c o
      op := (grows_exec (P := P) c o _).op h.op
      since := (persistent_ifTracked (P := P) fun _ h => h).exec h.since j op c o }
  env {s} h l :=
    { listed := (persistent_listed P login scan).env h.listed l
      op := (grows_server P s.world l).op h.op
      since := by
        have hsince : Persistent (phone P login) (IfTracked e₀ scan fun _ =>
            e₀.before.server.threads.length ≤ callId) := persistent_ifTracked (P := P) fun _ h => h
        exact hsince.env h.since l }

theorem verdict_scanTicket (P : DoorPlatform) (login : Login) (payload : ScanTicketDto) (callId : Nat)
    (reply : ScanReply) (s : DoorSnap) :
    (login.scanTicket payload).verdict P callId reply s
      = Judged P callId (login.scanTicket payload) payload.qrToken s := by
  cases login <;> rfl

theorem tenantId_scanTicket (login : Login) (payload : ScanTicketDto) :
    (login.scanTicket payload).tenantId = login.tenantId := by
  cases login <;> rfl

/-- A response that is successful is the answer of an ended call. -/
theorem ended_of_response {callId : Nat} {o : PhoneOracle} {response : Response} {w : Phone}
    (ha : ((PhoneCmd.response callId).exec P login o w).1 = .ok response)
    (hok : response.isSuccessful = true) :
    ∃ op reply, w.server.threads[callId]? = some ⟨op, .ret reply⟩ := by
  cases hfails : o.fails with
  | true =>
      rw [PhoneCmd.exec, hfails] at ha
      cases ha
  | false =>
      rw [exec_eq_run hfails] at ha
      simp only [PhoneCmd.run] at ha
      split at ha
      · exact ⟨_, _, by assumption⟩
      · obtain rfl := Except.ok.inj ha
        cases hok
      · cases ha

theorem cleared_of_response {callId : Nat} {o : PhoneOracle} {response : Response}
    (h₀ : Target P login payload e₀) (hinv : Custody P login payload e₀ s)
    (h : Sent P login e₀ scan callId s)
    (hallows : (inTime P login payload).allows i op (.response callId) o s)
    (ha : ((PhoneCmd.response callId).exec P login o s.world).1 = .ok response)
    (hok : response.isSuccessful = true) : IfTracked e₀ scan (Cleared P payload) s := by
  refine ⟨h.since.1, fun hid he => ?_⟩
  obtain ⟨r, hr, hrid, hrpayload⟩ := h.listed
  have htracked := hinv.tracked he
  obtain rfl : scan.payload = payload :=
    hrpayload.symm.trans (htracked.record r hr (hrid.trans hid)).1
  obtain ⟨prog, hop⟩ := h.op
  obtain ⟨op', reply, hth⟩ := ended_of_response ha hok
  obtain rfl : login.scanTicket scan.payload = op' :=
    congrArg Thread.op (Option.some.inj (hop.symm.trans hth))
  have hjudged := hinv.good.result hth
  rw [verdict_scanTicket] at hjudged
  have hdue : AnsweredInTime P login scan.payload s.world.server.hist callId
      s.world.server.threads[callId]? := hallows
  rw [hth] at hdue
  refine hjudged h₀.known.1 fun e hmem htid => ⟨?_, hdue rfl e hmem htid⟩
  rw [tenantId_scanTicket]
  refine htracked.events e hmem ?_
  rw [htid]
  exact h.since.2 hid he

theorem sent_of_request {callId : Nat} {o : PhoneOracle} (h₀ : Target P login payload e₀)
    (hinv : Custody P login payload e₀ s) (hs : Listed scan s.world)
    (ha : ((PhoneCmd.request scan.payload).exec P login o s.world).1 = .ok (some callId)) :
    Sent P login e₀ scan callId (s.exec (phone P login) i op (.request scan.payload) o) := by
  have hlisted := (persistent_listed P login scan).exec hs i op (.request scan.payload) o
  obtain ⟨r, hr, hid, -⟩ := hs
  have hlt : scan.id < s.world.nextId := hid ▸ hinv.ids r hr
  cases hfails : o.fails with
  | true =>
      rw [PhoneCmd.exec, hfails] at ha
      cases ha
  | false =>
      have hexec : (PhoneCmd.request scan.payload).exec P login o s.world
          = (PhoneCmd.request scan.payload).run P login o s.world := exec_eq_run hfails
      rw [hexec] at ha
      simp only [PhoneCmd.run] at ha hexec
      split at ha
      · cases ha
      · rename_i hgo
        rw [if_neg hgo] at hexec
        obtain rfl := Option.some.inj (Except.ok.inj ha)
        refine ⟨hlisted, ⟨(login.scanTicket scan.payload).body P, ?_⟩, ?_, fun hid he => ?_⟩
        · rw [Snap.exec_world, show (phone P login).exec = fun c o p => c.exec P login o p from rfl]
          dsimp only
          rw [hexec]
          exact List.getElem?_concat_length ..
        · exact Nat.lt_of_lt_of_le hlt (grows_exec (P := P) _ o _).nextId
        · rcases List.mem_cons.mp he with heq | he
          · have hcmd := h₀.cmd
            rw [heq] at hcmd
            cases hcmd
          · exact (hinv.tracked he).calls

theorem works_scanTicketApi (h₀ : Target P login payload e₀) (hs : Listed scan s.world) :
    Works P login payload e₀ i op (scanTicketApi scan.payload)
      (fun response s => response.isSuccessful = true → IfTracked e₀ scan (Cleared P payload) s) s := by
  refine works_perform (persistent_listed P login scan) hs (fun s _ => pre_of_ne (fun _ h => by cases h) s)
    fun s o callId? hinv hs _ ha _ _ => ?_
  cases callId? with
  | none => exact fun _ _ _ h => by cases h
  | some callId =>
      dsimp only
      rw [← bind_ret (perform _)]
      refine works_perform (persistent_sent callId) (sent_of_request h₀ hinv hs ha)
        (fun s _ => pre_of_ne (fun _ h => by cases h) s) fun s o response hinv hs hallows ha _ _ => ?_
      cases hok : response.isSuccessful with
      | false => exact fun _ _ _ h => by rw [hok] at h; cases h
      | true =>
          have hkept : Persistent (phone P login) (IfTracked e₀ scan (Cleared P payload)) :=
            persistent_cleared
          exact wp_ret hkept.stable
            (hkept.exec (cleared_of_response h₀ hinv hs hallows ha hok) i op _ o) fun _ _ h _ => h

theorem works_trySync (h₀ : Target P login payload e₀) (hinv : Custody P login payload e₀ s)
    (hs : Listed scan s.world) :
    Works P login payload e₀ i op (trySync scan) (fun _ _ => True) s := by
  refine wp_bind hinv ((works_scanTicketApi h₀ hs).mono (fun response s hinv h => ?_) fun _ _ _ h => h)
  split
  · rename_i hok
    refine works_perform persistent_cleared (h hok) (fun s hs id hid hid₀ he => ?_)
      fun s o _ hinv _ _ _ _ _ => fun _ _ _ => trivial
    obtain rfl := PhoneCmd.markAsSynced.inj hid
    exact hs.2 hid₀ he
  · exact works_plain fun _ => nofun

theorem works_syncRecord (h₀ : Target P login payload e₀) (hinv : Custody P login payload e₀ s)
    (hs : Listed scan s.world) :
    Works P login payload e₀ i op (syncRecord scan) (fun _ _ => True) s := by
  refine wp_bind hinv (wp_attempt ((works_trySync h₀ hinv hs).mono (fun _ _ _ _ => ?_)
    fun _ _ _ _ => ?_))
  · exact fun _ _ _ => trivial
  · exact works_plain fun _ => nofun

theorem works_syncRecords (h₀ : Target P login payload e₀) {scans : List ScanRecord}
    (hinv : Custody P login payload e₀ s) (hs : ∀ scan ∈ scans, Listed scan s.world) :
    Works P login payload e₀ i op (scans.mapM syncRecord) (fun _ _ => True) s := by
  induction scans generalizing s with
  | nil => exact fun _ _ _ => trivial
  | cons scan scans ih =>
      rw [List.mapM_cons]
      have hrest : Persistent (phone P login) fun s => ∀ scan ∈ scans, Listed scan s.world :=
        { exec := fun h j op c o scan hscan => (persistent_listed P login scan).exec (h scan hscan) j op c o
          env := fun h l scan hscan => (persistent_listed P login scan).env (h scan hscan) l }
      have hhead : Works P login payload e₀ i op (syncRecord scan) (fun _ _ => True) s :=
        works_syncRecord h₀ hinv (hs scan (List.mem_cons_self ..))
      refine wp_bind hinv ((hhead.frame hrest fun scan' hscan' =>
        hs scan' (List.mem_cons_of_mem _ hscan')).mono (fun _ s hinv h => ?_) fun _ _ _ h => h)
      refine wp_bind hinv ((ih hinv h.2).mono (fun _ _ _ _ => ?_) fun _ _ _ h => h)
      exact fun _ _ _ => trivial

theorem listed_of_pending {o : PhoneOracle} {w : Phone} {scans : List ScanRecord}
    (ha : (PhoneCmd.getPendingScansList.exec P login o w).1 = .ok scans) :
    ∀ scan ∈ scans, Listed scan w := by
  cases hfails : o.fails with
  | true =>
      rw [PhoneCmd.exec, hfails] at ha
      cases ha
  | false =>
      rw [exec_eq_run hfails] at ha
      obtain rfl := Except.ok.inj ha
      exact fun scan hscan =>
        ⟨scan, (List.mem_filter.mp ((List.mergeSort_perm _ _).mem_iff.mp hscan)).1, rfl, rfl⟩

theorem works_doWork (h₀ : Target P login payload e₀) (runAttemptCount : Nat) :
    Works P login payload e₀ i op (doWork runAttemptCount) (fun _ _ => True) s := by
  refine works_perform persistent_true trivial (fun s _ => pre_of_ne (fun _ h => by cases h) s)
    fun s o pendingScans _ _ _ ha hinv' _ => ?_
  split
  · exact fun _ _ _ => trivial
  · have hlisted : ∀ scan ∈ pendingScans,
        Listed scan (s.exec (phone P login) i op .getPendingScansList o).world := fun scan hscan =>
      (persistent_listed P login scan).exec (listed_of_pending ha scan hscan) ..
    refine wp_bind hinv' ((works_syncRecords h₀ hinv' hlisted).mono (fun synced _ _ _ => ?_)
      fun _ _ _ h => h)
    dsimp only
    split
    · exact fun _ _ _ => trivial
    · split <;> exact fun _ _ _ => trivial

theorem custodyOutline_valid (h₀ : Target P login payload e₀) :
    Outline.Valid (phone P login) (custodyOutline P login payload e₀) fun _ _ _ _ => True where
  inv_exec h _ _ _ _ _ hpre _ := custody_exec h₀ h hpre
  inv_env h l := custody_env h l
  body i op s _ hinv _ := by
    cases op with
    | insertScan qrToken deviceId => exact works_plain fun _ h => by cases h
    | doWork runAttemptCount => exact wp_map _ (works_doWork h₀ runAttemptCount)

theorem custody_idle (P : DoorPlatform) (login : Login) (payload : ScanTicketDto) (e₀ : PhoneEvent)
    (d : Door) : Custody P login payload e₀ ⟨Phone.idle d, []⟩ where
  good := Outline.Good.idle trivial
  ids _ h := absurd h List.not_mem_nil
  tracked h := absurd h List.not_mem_nil

/-- **Offline scans**: where the app takes the answer to a scan only from calls
that have found it due, a scan that is marked as synced, and would have been
answered SUCCESS when it was recorded, has its ticket ACTIVE no more. -/
theorem synced_run (P : DoorPlatform) (login : Login) (payload : ScanTicketDto) (d : Door)
    {ls : List PhoneLabel}
    (hls : (inTime P login payload).admitsRun (phone P login) (Config.idle (Phone.idle d)) ls) :
    let cfg := (Config.idle (Phone.idle d)).run (phone P login) ls
    ∀ e ∈ cfg.hist, e.cmd = .insertScan payload.qrToken payload.deviceId → e.oracle.fails = false →
      Succeeds P (login.scanTicket payload) e.before.server.world →
      ∀ r ∈ cfg.world.records, r.id = e.before.nextId → r.status = .SYNCED →
        Spent (P.hashToken payload.qrToken) cfg.world.server.world.data := by
  intro cfg e he hcmd hstored hsucceeds r hr hid hstatus
  have h₀ : Target P login payload e :=
    ⟨hcmd, hstored, by cases login <;> exact known_of_succeeds hsucceeds⟩
  have hgood := Outline.sound (custodyOutline_valid h₀)
    (Outline.Good.idle (custody_idle P login payload e d)) hls
  exact ((hgood.inv.tracked he).record r hr hid).2 hstatus

end Worker

/-! ## A sync in time, and one after the show -/

deriving instance DecidableEq for ScanOp

instance (d : Door) (op : ScanOp) : Decidable (DeviceChecked d op) :=
  inferInstanceAs (Decidable (∀ id ∈ op.device?, ∃ v ∈ d.scannerDevices,
    v.id = id ∧ v.tenantId = op.tenantId ∧ v.isActive = true))

instance (P : DoorPlatform) (op : ScanOp) (qrToken : String) (d : Door) :
    Decidable (Due P op qrToken d) :=
  decidable_of_iff (DeviceChecked d op ∧
    (∀ payload ∈ P.validateToken qrToken, d.clock / 1000 ≤ payload.exp) ∧
      ∀ t ∈ d.tickets.rows, t.qrHash = P.hashToken qrToken → ∀ shw ∈ d.showOf t,
        shw.admitsAt d.clock)
    ⟨fun ⟨hdevice, htoken, hwindow⟩ => ⟨hdevice, htoken, hwindow⟩,
      fun h => ⟨h.device, h.token, h.window⟩⟩

instance (qrHash : String) (d : Door) : Decidable (Spent qrHash d) :=
  inferInstanceAs (Decidable (∀ t ∈ d.tickets.rows, t.qrHash = qrHash → t.status ≠ .ACTIVE))

instance (P : DoorPlatform) (login : Login) (payload : ScanTicketDto) :
    DecidablePred (inTime P login payload).starts := fun _ => isTrue trivial

instance (P : DoorPlatform) (login : Login) (payload : ScanTicketDto) (hist : List DoorEvent)
    (callId : Nat) : DecidablePred (AnsweredInTime P login payload hist callId)
  | some ⟨op, .ret _⟩ => inferInstanceAs (Decidable (op = login.scanTicket payload →
      ∀ e ∈ hist, e.tid = callId → Due P op payload.qrToken e.before.data))
  | some ⟨_, .err _⟩ => isTrue trivial
  | some ⟨_, .call ..⟩ => isTrue trivial
  | none => isTrue trivial

instance (P : DoorPlatform) (login : Login) (payload : ScanTicketDto) (i : Nat) (op : PhoneOp)
    (c : PhoneCmd) (o : PhoneOracle) : DecidablePred ((inTime P login payload).allows i op c o) :=
  fun s => match c with
    | .response callId => inferInstanceAs (Decidable (AnsweredInTime P login payload
        s.world.server.hist callId s.world.server.threads[callId]?))
    | .getPendingScansList => isTrue trivial
    | .insertScan .. => isTrue trivial
    | .markAsSynced _ => isTrue trivial
    | .incrementRetryCount _ => isTrue trivial
    | .request _ => isTrue trivial

namespace Sample

def app : Login := .device "dev1" "t1"

/-- A scan is recorded an hour before the show, and sent `late` milliseconds
after that. -/
def sync (late : Nat) : List PhoneLabel :=
  [.spawn (.insertScan qrToken none), .step 0 {}, .env (.env (.data (.tick late))),
    .spawn (.doWork 0), .step 1 {}, .step 1 {}] ++
  List.replicate 11 (.env (.step 0 none)) ++ [.step 1 {}, .step 1 {}]

abbrev synced (late : Nat) : Config phoneSig Phone PhoneOracle PhoneExn PhoneReply PhoneOp :=
  (Config.idle (Phone.idle atTheDoor)).run (phone platform app) (sync late)

def recorded (late : Nat) : PhoneEvent :=
  (synced late).hist.getLast?.getD ⟨0, .doWork 0, .getPendingScansList, {}, Phone.idle atTheDoor⟩

def theRecord : ScanRecord := { id := 0, qrToken, scannedAt := 0, status := .SYNCED }

theorem recorded_spec : ∀ late ∈ [0, 7200000],
    (synced late).hist.getLast?.isSome = true ∧
    (recorded late).cmd = .insertScan qrToken none ∧ (recorded late).oracle.fails = false ∧
    (recorded late).before.nextId = 0 ∧ (synced late).world.records = [theRecord] ∧
    (((app.scanTicket ⟨qrToken, none⟩).body platform).run doorDb.machine (fun _ => none) 0
      (recorded late).before.server.world).result
      = .ok (.scanTicket ⟨.SUCCESS, some "A1", some "show1", 3600000⟩) := by
  decide +kernel

theorem recorded_mem {late : Nat} (h : (synced late).hist.getLast?.isSome = true) :
    recorded late ∈ (synced late).hist := by
  obtain ⟨e, he⟩ := Option.isSome_iff_exists.mp h
  rw [recorded, he]
  exact List.mem_of_getLast? he

end Sample

/-- The scan is sent at once. -/
theorem synced_atOnce : Spent Sample.tokenHash (Sample.synced 0).world.server.world.data := by
  have hls : (inTime Sample.platform Sample.app ⟨Sample.qrToken, none⟩).admitsRun
      (phone Sample.platform Sample.app) (Config.idle (Phone.idle Sample.atTheDoor)) (Sample.sync 0) := by
    decide +kernel
  obtain ⟨hlast, hcmd, hstored, hid, hrecords, hrun⟩ := Sample.recorded_spec 0 (by decide)
  exact synced_run Sample.platform Sample.app ⟨Sample.qrToken, none⟩ Sample.atTheDoor hls
    (Sample.recorded 0) (Sample.recorded_mem hlast) hcmd hstored ⟨_, hrun, rfl⟩ Sample.theRecord
    (by rw [hrecords]; exact List.mem_singleton_self _) hid.symm rfl

/-- It is sent an hour after the show has begun, and is answered EXPIRED. -/
theorem not_synced_late : ¬ ∀ (P : DoorPlatform) (login : Login) (payload : ScanTicketDto) (d : Door)
    (ls : List PhoneLabel),
    let cfg := (Config.idle (Phone.idle d)).run (phone P login) ls
    ∀ e ∈ cfg.hist, e.cmd = .insertScan payload.qrToken payload.deviceId → e.oracle.fails = false →
      Succeeds P (login.scanTicket payload) e.before.server.world →
      ∀ r ∈ cfg.world.records, r.id = e.before.nextId → r.status = .SYNCED →
        Spent (P.hashToken payload.qrToken) cfg.world.server.world.data := by
  intro h
  obtain ⟨hlast, hcmd, hstored, hid, hrecords, hrun⟩ := Sample.recorded_spec 7200000 (by decide)
  have hspent := h Sample.platform Sample.app ⟨Sample.qrToken, none⟩ Sample.atTheDoor
    (Sample.sync 7200000) (Sample.recorded 7200000) (Sample.recorded_mem hlast) hcmd hstored
    ⟨_, hrun, rfl⟩ Sample.theRecord (by rw [hrecords]; exact List.mem_singleton_self _) hid.symm rfl
  revert hspent
  decide +kernel

end Omnipax.Scans
