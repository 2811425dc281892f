import Omnipax.ScanAdmission
import Omnipax.Conc.Answered

/-!
# What the scan log says

When no statement fails, every call of `scanTicket` leaves one row in the log,
with the status it answers: `finalizeScan` is its only way out. A ticket is
used by the conditional update of one call, and this call answers SUCCESS. So
the tickets that are USED and the calls that have admitted them can be read
off each other, however the calls are interleaved and whatever their clocks
say.

A call is described by its own events alone (`CallRecord`), which no other call adds
to; what the events of all calls come to is an invariant (`Ledger`).
-/

namespace Omnipax.Scans

open Conc Database Prog

/-! ## The system -/

/-- Any number of calls, where each step may find the clock anywhere, so that nothing rests
on readings that follow each other. -/
abbrev doorAnyClock (P : DoorPlatform) :
    System doorDb.sig DoorStore (Option Loss) (DbEnv Time) ScanExn ScanReply ScanOp :=
  doorDb.system (fun t d => { d with clock := t }) (ScanOp.body P)

abbrev AnyClockLabel := Label (Option Loss) (DbEnv Time) ScanOp

def ScanOp.isScan : ScanOp → Bool
  | .scanTicket .. => true
  | .syncOfflineScans .. => false

def ScanOp.scanner : ScanOp → String
  | .scanTicket _ scannerUserId .. => scannerUserId
  | .syncOfflineScans deviceId .. => deviceId

/-- Calls of `scanTicket` whose statements succeed. -/
def answeredScans : Discipline doorDb.sig DoorStore (Option Loss) ScanOp where
  starts op := op.isScan = true
  allows _ _ c o s := doorDb.succeeds c (doorDb.step c o s.world).1 = true

instance : DecidablePred answeredScans.starts := fun op =>
  inferInstanceAs (Decidable (op.isScan = true))

instance (i : Nat) (op : ScanOp) (c : TxCmd ScanStmt) (o : Option Loss) :
    DecidablePred (answeredScans.allows i op c o) := fun s =>
  inferInstanceAs (Decidable (doorDb.succeeds c (doorDb.step c o s.world).1 = true))

/-! ## What is observed -/

def after (e : DoorEvent) : Door := (doorDb.step e.cmd e.oracle e.before).2.data

/-- The rows an event adds to the log. -/
def logs (e : DoorEvent) : List TicketScanLog :=
  (after e).ticketScanLogs.drop e.before.data.ticketScanLogs.length

def eventsBy (i : Nat) (hist : List DoorEvent) : List DoorEvent := hist.filter (·.tid == i)

/-- What is to be read off the log, from data `d` on. -/
structure Accounted (P : DoorPlatform) (d : Door) (cfg : DoorConfig) : Prop where
  logged : ∀ (i : Nat) th, cfg.threads[i]? = some th → ∃ answer row,
    th.prog = .ret (.scanTicket answer) ∧ (eventsBy i cfg.hist).flatMap logs = [row] ∧
      row.result = .inl answer.status
  complete : cfg.world.data.ticketScanLogs = d.ticketScanLogs ++ cfg.hist.reverse.flatMap logs
  used : ∀ t ∈ cfg.world.data.tickets.rows, t.status = .USED ↔ admissions P cfg t.qrHash = 1
  scannedBy : ∀ t ∈ cfg.world.data.tickets.rows, ∀ th ∈ cfg.threads, ∀ token ∈ tokensAdmitted th,
    P.hashToken token = t.qrHash → t.scannedBy = some th.op.scanner
  unchanged : ∀ (i : Nat) th answer, cfg.threads[i]? = some th →
    th.prog = .ret (.scanTicket answer) → answer.status ≠ .SUCCESS →
      ∀ e ∈ cfg.hist, e.tid = i → (after e).tickets = e.before.data.tickets

/-! ## What a step does -/

/-- A statement of this call's: it uses tickets for its scanner, and on a
condition. -/
def ScanStmt.OfScan (op : ScanOp) : ScanStmt → Prop
  | .ticketUpdateMany _ _ scannedBy => scannedBy = op.scanner
  | .ticketUpdate .. => False
  | _ => True

def OfScan (op : ScanOp) (c : TxCmd ScanStmt) : Prop := ∃ q, c = .stmt none q ∧ q.OfScan op

/-- It changes neither a ticket nor the log. -/
def ScanStmt.looks : ScanStmt → Bool
  | .ticketUpdateMany .. | .ticketUpdate .. | .scanLogCreate .. => false
  | _ => true

/-- What the door lets a statement of a scan do. -/
inductive Passage (scanner : String) (d d' : Door) : Prop where
  | quiet : d'.tickets = d.tickets → d'.ticketScanLogs = d.ticketScanLogs → Passage scanner d d'
  | logged (row : TicketScanLog) : d'.tickets = d.tickets →
      d'.ticketScanLogs = d.ticketScanLogs ++ [row] → Passage scanner d d'
  | used (t : Ticket) (scannedAt : Time) : t ∈ d.tickets.rows → t.status = .ACTIVE →
      d'.tickets = d.tickets.use t.id scannedAt scanner →
      d'.ticketScanLogs = d.ticketScanLogs → Passage scanner d d'

section Steps

variable {w : DoorStore} {o : Option Loss} {q : ScanStmt} {op : ScanOp} {d : Door}

theorem looks_exec (hq : q.looks = true) :
    (doorDb.applyAll (q.exec d).2 d).tickets = d.tickets ∧
      (doorDb.applyAll (q.exec d).2 d).ticketScanLogs = d.ticketScanLogs := by
  cases q with
  | deviceUpdate id lastSeenAt =>
      simp only [ScanStmt.exec]
      split <;> exact ⟨rfl, rfl⟩
  | scanLogFindFirst ticketId deviceId createdAt => cases createdAt <;> exact ⟨rfl, rfl⟩
  | offlineScanFindFirst ticketId deviceId scannedAt => cases scannedAt <;> exact ⟨rfl, rfl⟩
  | offlineScanCreate ticketId deviceId scannedAt result tenantId =>
      cases scannedAt <;> exact ⟨rfl, rfl⟩
  | ticketUpdateMany => cases hq
  | ticketUpdate => cases hq
  | scanLogCreate => cases hq
  | _ => exact ⟨rfl, rfl⟩

theorem scanLogCreate_exec {ticketId scannedBy tenantId : String} {deviceId : Option String}
    {source : ScanSource} {result : ScanStatus ⊕ SyncStatus} {createdAt : Option Time} {d' : Door}
    (h : d' = doorDb.applyAll (ScanStmt.exec d (.scanLogCreate ticketId scannedBy deviceId source
      result tenantId createdAt)).2 d) :
    d'.tickets = d.tickets ∧
      ∃ row, row.result = result ∧ d'.ticketScanLogs = d.ticketScanLogs ++ [row] := by
  subst h
  exact ⟨rfl, _, rfl, rfl⟩

theorem step_succeeds
    (h : doorDb.succeeds (.stmt none q) (doorDb.step (.stmt none q) o w).1 = true) :
    ∃ a, (doorDb.step (.stmt none q) o w).1 = .ok a ∧ (q.exec w.data).1 = .ok a ∧
      (doorDb.step (.stmt none q) o w).2
        = { w with data := doorDb.applyAll (q.exec w.data).2 w.data } := by
  cases hstep : (doorDb.step (.stmt none q) o w).1 with
  | error e =>
      rw [hstep] at h
      cases h
  | ok a => exact ⟨a, rfl, query_ok hstep⟩

theorem passage_exec (hq : q.OfScan op) :
    Passage op.scanner d (doorDb.applyAll (q.exec d).2 d) := by
  cases hlooks : q.looks with
  | true => exact .quiet (looks_exec hlooks).1 (looks_exec hlooks).2
  | false =>
      cases q with
      | scanLogCreate => exact .logged _ rfl rfl
      | ticketUpdate => exact hq.elim
      | ticketUpdateMany id scannedAt scannedBy =>
          obtain rfl : scannedBy = op.scanner := hq
          simp only [ScanStmt.exec]
          split
          · rename_i hany
            obtain ⟨t, ht, hmatch⟩ := List.any_eq_true.mp hany
            simp only [Bool.and_eq_true, beq_iff_eq] at hmatch
            obtain ⟨rfl, hactive⟩ := hmatch
            exact .used t scannedAt ht hactive rfl rfl
          · exact .quiet rfl rfl
      | _ => cases hlooks

theorem passage_step {c : TxCmd ScanStmt} (hc : OfScan op c)
    (h : doorDb.succeeds c (doorDb.step c o w).1 = true) :
    (doorDb.step c o w).2.sessions = w.sessions ∧
      Passage op.scanner w.data (doorDb.step c o w).2.data := by
  obtain ⟨q, rfl, hq⟩ := hc
  obtain ⟨a, -, -, hw⟩ := step_succeeds h
  rw [hw]
  exact ⟨rfl, passage_exec hq⟩

end Steps

/-! ## What an event uses -/

section Events

variable {P : DoorPlatform} {e : DoorEvent} {qrHash : String} {t : Ticket} {scannedAt : Time}
  {scanner : String} {d d' : Door}

theorem claims_eq (P : DoorPlatform) (qrHash : String) (e : DoorEvent) :
    claims P qrHash e = (!used qrHash e.before.data && used qrHash (after e)) := rfl

theorem used_of_tickets (h : d'.tickets = d.tickets) : used qrHash d' = used qrHash d := by
  rw [used, used, h]

theorem claims_unchanged (h : (after e).tickets = e.before.data.tickets) :
    claims P qrHash e = false := by
  rw [claims_eq, used_of_tickets h]
  cases used qrHash e.before.data <;> rfl

theorem mem_use {r : Ticket} {table : TicketTable} {id : String} :
    r ∈ (table.use id scannedAt scanner).rows ↔ ∃ r' ∈ table.rows, r = if r'.id = id then
      { r' with status := .USED, scannedAt := some scannedAt, scannedBy := some scanner }
      else r' := by
  simp only [TicketTable.use, List.mem_map, eq_comm]

theorem used_after_use (ht : t ∈ d.tickets.rows)
    (hd : d'.tickets = d.tickets.use t.id scannedAt scanner) :
    used qrHash d' = (used qrHash d || t.qrHash == qrHash) := by
  rw [Bool.eq_iff_iff, Bool.or_eq_true, beq_iff_eq, used_iff, used_iff, hd]
  constructor
  · rintro ⟨r, hr, hhash, hused⟩
    obtain ⟨r', hr', rfl⟩ := mem_use.mp hr
    split at hhash
    · rename_i hid
      obtain rfl := List.inj_on_of_nodup_map d.tickets.ids hr' ht hid
      exact Or.inr hhash
    · rename_i hid
      rw [if_neg hid] at hused
      exact Or.inl ⟨r', hr', hhash, hused⟩
  · rintro (⟨r, hr, hhash, hused⟩ | hhash)
    · refine ⟨_, mem_use.mpr ⟨r, hr, rfl⟩, ?_⟩
      split
      · exact ⟨hhash, rfl⟩
      · exact ⟨hhash, hused⟩
    · exact ⟨_, mem_use.mpr ⟨t, ht, rfl⟩, by rw [if_pos rfl]; exact ⟨hhash, rfl⟩⟩

theorem not_used_of_active (ht : t ∈ d.tickets.rows) (hactive : t.status = .ACTIVE) :
    used t.qrHash d = false :=
  Unclaimed.not_used ⟨t, ht, rfl, rfl, hactive⟩

theorem claims_use (ht : t ∈ e.before.data.tickets.rows) (hactive : t.status = .ACTIVE)
    (hd : (after e).tickets = e.before.data.tickets.use t.id scannedAt scanner) :
    claims P qrHash e = (t.qrHash == qrHash) := by
  rw [claims_eq, used_after_use ht hd]
  by_cases hhash : t.qrHash = qrHash
  · subst hhash
    simp [not_used_of_active ht hactive]
  · rw [beq_eq_false_iff_ne.mpr hhash]
    cases used qrHash e.before.data <;> rfl

theorem logs_of_eq (h : (after e).ticketScanLogs = e.before.data.ticketScanLogs) : logs e = [] := by
  rw [logs, h, List.drop_length]

theorem logs_of_append {row : TicketScanLog}
    (h : (after e).ticketScanLogs = e.before.data.ticketScanLogs ++ [row]) : logs e = [row] := by
  rw [logs, h, List.drop_left]

theorem logs_append (h : Passage scanner e.before.data (after e)) :
    (after e).ticketScanLogs = e.before.data.ticketScanLogs ++ logs e := by
  cases h with
  | quiet _ hlogs => rw [logs_of_eq hlogs, hlogs, List.append_nil]
  | logged row _ hlogs => rw [logs_of_append hlogs, hlogs]
  | used _ _ _ _ _ hlogs => rw [logs_of_eq hlogs, hlogs, List.append_nil]

end Events

/-! ## The invariant -/

/-- What the events so far come to, from data `d` on. -/
structure Ledger (P : DoorPlatform) (d : Door) (s : DoorSnap) : Prop where
  alone : s.world.sessions = []
  complete : s.world.data.ticketScanLogs = d.ticketScanLogs ++ s.hist.reverse.flatMap logs
  once : ∀ qrHash, s.hist.countP (claims P qrHash) = (used qrHash s.world.data).toNat
  scannedBy : ∀ e ∈ s.hist, ∀ t ∈ s.world.data.tickets.rows, claims P t.qrHash e = true →
    t.status = .USED ∧ t.scannedBy = some e.op.scanner

def ledgerOutline (P : DoorPlatform) (d : Door) : DoorOutline where
  toDiscipline := answeredScans
  inv := Ledger P d
  pre _ op c _ := OfScan op c

section Invariant

variable {P : DoorPlatform} {d : Door} {s : DoorSnap} {i : Nat} {op : ScanOp}
  {c : TxCmd ScanStmt} {o : Option Loss}

theorem once_exec (honce : ∀ qrHash, s.hist.countP (claims P qrHash)
      = (used qrHash s.world.data).toNat) {e : DoorEvent} (hbefore : e.before = s.world)
    (hpassage : Passage e.op.scanner s.world.data (after e)) (qrHash : String) :
    (e :: s.hist).countP (claims P qrHash) = (used qrHash (after e)).toNat := by
  rw [List.countP_cons, honce]
  have hsame : (after e).tickets = s.world.data.tickets →
      (used qrHash s.world.data).toNat + (if claims P qrHash e then 1 else 0)
        = (used qrHash (after e)).toNat := by
    intro htickets
    rw [claims_unchanged (by rw [hbefore, htickets]), used_of_tickets htickets]
    rfl
  cases hpassage with
  | quiet htickets => exact hsame htickets
  | logged row htickets => exact hsame htickets
  | used t scannedAt ht hactive htickets =>
      rw [claims_use (by rwa [hbefore]) hactive (by rw [hbefore, htickets]),
        used_after_use ht htickets]
      by_cases hhash : t.qrHash = qrHash
      · subst hhash
        simp [not_used_of_active ht hactive]
      · rw [beq_eq_false_iff_ne.mpr hhash, Bool.or_false]
        rfl

theorem scannedBy_exec (h : Ledger P d s) {e : DoorEvent} (hbefore : e.before = s.world)
    (hpassage : Passage e.op.scanner s.world.data (after e)) :
    ∀ e' ∈ e :: s.hist, ∀ t ∈ (after e).tickets.rows, claims P t.qrHash e' = true →
      t.status = .USED ∧ t.scannedBy = some e'.op.scanner := by
  intro e' he' t ht hclaims
  have hsame : (after e).tickets = s.world.data.tickets →
      t.status = .USED ∧ t.scannedBy = some e'.op.scanner := by
    intro htickets
    rcases List.mem_cons.mp he' with rfl | he'
    · rw [claims_unchanged (by rw [hbefore, htickets])] at hclaims
      cases hclaims
    · exact h.scannedBy e' he' t (by rwa [← htickets]) hclaims
  cases hpassage with
  | quiet htickets => exact hsame htickets
  | logged row htickets => exact hsame htickets
  | used t' scannedAt ht' hactive htickets =>
      rw [htickets] at ht
      obtain ⟨r, hr, rfl⟩ := mem_use.mp ht
      have hhash : (if r.id = t'.id then { r with
          status := .USED, scannedAt := some scannedAt, scannedBy := some e.op.scanner }
          else r).qrHash = r.qrHash := by
        split <;> rfl
      rw [hhash] at hclaims
      rcases List.mem_cons.mp he' with rfl | he'
      · rw [claims_use (by rwa [hbefore]) hactive (by rw [hbefore, htickets]),
          beq_iff_eq] at hclaims
        obtain rfl := List.inj_on_of_nodup_map s.world.data.tickets.hashes ht' hr hclaims
        rw [if_pos rfl]
        exact ⟨rfl, rfl⟩
      · obtain ⟨hused, hscanner⟩ := h.scannedBy e' he' r hr hclaims
        split
        · rename_i hid
          obtain rfl := List.inj_on_of_nodup_map s.world.data.tickets.ids hr ht' hid
          rw [hactive] at hused
          cases hused
        · exact ⟨hused, hscanner⟩

/-- **Step**: the rows of the log and the uses of the tickets add up. -/
theorem ledger_exec (h : Ledger P d s) (hc : OfScan op c)
    (hok : doorDb.succeeds c (doorDb.step c o s.world).1 = true) :
    Ledger P d (s.exec (doorAnyClock P) i op c o) := by
  obtain ⟨hsessions, hpassage⟩ := passage_step hc hok
  refine ⟨hsessions.trans h.alone, ?_, ?_, ?_⟩
  · have hlogs := logs_append (e := ⟨i, op, c, o, s.world⟩) hpassage
    show (after ⟨i, op, c, o, s.world⟩).ticketScanLogs = _
    rw [hlogs]
    show s.world.data.ticketScanLogs ++ _ = _
    rw [h.complete, Snap.exec_hist, List.reverse_cons, List.flatMap_append, List.append_assoc,
      List.flatMap_singleton]
  · exact once_exec h.once rfl hpassage
  · exact scannedBy_exec h rfl hpassage

theorem ledger_env (h : Ledger P d s) (e : DbEnv Time) :
    Ledger P d (s.env (doorAnyClock P) e) := by
  cases e with
  | data t => exact ⟨h.alone, h.complete, h.once, h.scannedBy⟩
  | abort tx =>
      refine ⟨?_, h.complete, h.once, h.scannedBy⟩
      show s.world.sessions.filter _ = []
      rw [h.alone, List.filter_nil]

end Invariant

/-! ## The calls -/

/-- What a call has done: the rows it has added to the log, and the ticket it
has used, by its hash. -/
structure CallRecord (P : DoorPlatform) (rows : List TicketScanLog) (claimed : Option String)
    (events : List DoorEvent) : Prop where
  logs : events.flatMap logs = rows
  claims : ∀ qrHash, events.countP (claims P qrHash) = if claimed = some qrHash then 1 else 0
  unchanged : claimed = none → ∀ e ∈ events, (after e).tickets = e.before.data.tickets

section CallRecord

variable {P : DoorPlatform} {rows : List TicketScanLog} {claimed : Option String}
  {events : List DoorEvent} {e : DoorEvent}

theorem callRecord_nil : CallRecord P [] none [] :=
  ⟨rfl, fun _ => by simp, fun _ _ he => by cases he⟩

theorem CallRecord.unused (h : CallRecord P rows claimed events)
    (htickets : (after e).tickets = e.before.data.tickets) :
    CallRecord P (Scans.logs e ++ rows) claimed (e :: events) where
  logs := by rw [List.flatMap_cons, h.logs]
  claims qrHash := by
    rw [List.countP_cons, claims_unchanged htickets, h.claims]
    rfl
  unchanged hnone e' he' := by
    rcases List.mem_cons.mp he' with rfl | he'
    · exact htickets
    · exact h.unchanged hnone e' he'

theorem CallRecord.quiet (h : CallRecord P rows claimed events)
    (htickets : (after e).tickets = e.before.data.tickets)
    (hlogs : (after e).ticketScanLogs = e.before.data.ticketScanLogs) :
    CallRecord P rows claimed (e :: events) := by
  have hunused := h.unused htickets
  rwa [logs_of_eq hlogs] at hunused

theorem CallRecord.used (h : CallRecord P rows none events) {t : Ticket} {scannedAt : Time}
    {scanner : String}
    (ht : t ∈ e.before.data.tickets.rows) (hactive : t.status = .ACTIVE)
    (hd : (after e).tickets = e.before.data.tickets.use t.id scannedAt scanner)
    (hlogs : (after e).ticketScanLogs = e.before.data.ticketScanLogs) :
    CallRecord P rows (some t.qrHash) (e :: events) where
  logs := by rw [List.flatMap_cons, logs_of_eq hlogs, h.logs, List.nil_append]
  claims qrHash := by
    rw [List.countP_cons, claims_use ht hactive hd, h.claims]
    simp
  unchanged := nofun

end CallRecord

section Calls

variable {P : DoorPlatform} {d : Door} {s : DoorSnap} {i : Nat} {op : ScanOp} {α : Type}
  {Q : α → DoorSnap → Prop} {G : DoorSnap → Prop} {rows : List TicketScanLog}
  {claimed : Option String}

/-- No other call adds to the events of call `i`. -/
theorem eventsBy_stable (F : List DoorEvent → Prop) :
    Stable (doorAnyClock P) (ledgerOutline P d) i fun s => F (eventsBy i s.hist) := by
  intro s s' h hs
  cases h with
  | env => exact hs
  | other hj =>
      rw [eventsBy, Snap.exec_hist, List.filter_cons_of_neg (by simpa using hj)]
      exact hs

theorem eventsBy_exec {c : TxCmd ScanStmt} {o : Option Loss} :
    eventsBy i (s.exec (doorAnyClock P) i op c o).hist
      = ⟨i, op, c, o, s.world⟩ :: eventsBy i s.hist := by
  rw [eventsBy, Snap.exec_hist, List.filter_cons_of_pos (by simp)]
  rfl

theorem hashed_anyClock {qrHash : String} (id : String) :
    Persistent (doorAnyClock P) fun s : DoorSnap => Hashed id qrHash s.world.data where
  exec h i op c o := (hashed_persistent (P := P) id).exec h i op c o
  env h e := by
    cases e <;> exact h

theorem wp_step {q : ScanStmt} {f : q.Ret → ScanM α} {F : List DoorEvent → Prop}
    (hq : q.OfScan op) (hG : Persistent (doorAnyClock P) G) (hF : F (eventsBy i s.hist))
    (hs : G s)
    (hok : ∀ s o a, F (eventsBy i s.hist) → G s → (q.exec s.world.data).1 = .ok a →
      G (s.exec (doorAnyClock P) i op (.stmt none q) o) →
      after ⟨i, op, .stmt none q, o, s.world⟩
        = doorDb.applyAll (q.exec s.world.data).2 s.world.data →
      (f a).wp (doorAnyClock P) (ledgerOutline P d) i op Q (fun _ _ => True)
        (s.exec (doorAnyClock P) i op (.stmt none q) o)) :
    (ask none q >>= f).wp (doorAnyClock P) (ledgerOutline P d) i op Q (fun _ _ => True) s := by
  refine Prog.wp_call ((eventsBy_stable F).and hG.stable) ⟨hF, hs⟩ (fun _ _ _ => ⟨q, rfl, hq⟩)
    fun s o _ hs hallows _ => ?_
  obtain ⟨a, ha, hexec, hw⟩ := step_succeeds hallows
  rw [show ((doorAnyClock P).exec (.stmt none q) o s.world).1 = .ok a from ha]
  exact hok s o a hs.1 hs.2 hexec (hG.exec hs.2 ..) (congrArg Store.data hw)

theorem wp_look {q : ScanStmt} {f : q.Ret → ScanM α} (hq : q.OfScan op) (hlooks : q.looks = true)
    (hG : Persistent (doorAnyClock P) G) (hentry : CallRecord P rows claimed (eventsBy i s.hist))
    (hs : G s)
    (hok : ∀ s s' a, CallRecord P rows claimed (eventsBy i s'.hist) → G s → G s' →
      (q.exec s.world.data).1 = .ok a →
      (f a).wp (doorAnyClock P) (ledgerOutline P d) i op Q (fun _ _ => True) s') :
    (ask none q >>= f).wp (doorAnyClock P) (ledgerOutline P d) i op Q (fun _ _ => True) s := by
  refine wp_step hq hG hentry hs fun s o a hentry hs hexec hs' hafter => ?_
  have hquiet := looks_exec (d := s.world.data) hlooks
  rw [← hafter] at hquiet
  refine hok s _ a ?_ hs hs' hexec
  rw [eventsBy_exec]
  exact hentry.quiet hquiet.1 hquiet.2

variable {userId tenantId qrToken : String} {deviceId seat showId ticketId? : Option String}
  {source : ScanSource} {status : ScanStatus}

/-- The call has answered: its row says so, and where it admits the ticket it
has used it. -/
def Entered (P : DoorPlatform) (i : Nat) (qrToken : String) (answer : ScanAnswer) (s : DoorSnap) :
    Prop :=
  ∃ row, row.result = .inl answer.status ∧ CallRecord P [row]
    (if answer.status = .SUCCESS then some (P.hashToken qrToken) else none) (eventsBy i s.hist)

theorem Entered.stable (answer : ScanAnswer) :
    Stable (doorAnyClock P) (ledgerOutline P d) i (Entered P i qrToken answer) :=
  eventsBy_stable fun events => ∃ row, row.result = .inl answer.status ∧ CallRecord P [row]
    (if answer.status = .SUCCESS then some (P.hashToken qrToken) else none) events

theorem wp_entered
    (hentry : CallRecord P [] (if status = .SUCCESS then some (P.hashToken qrToken) else none)
      (eventsBy i s.hist)) :
    (finalizeScan userId tenantId deviceId source seat showId status ticketId?).wp (doorAnyClock P)
      (ledgerOutline P d) i op (Entered P i qrToken) (fun _ _ => True) s := by
  unfold finalizeScan
  refine wp_step trivial persistent_true hentry trivial fun s o _ hentry _ _ _ hafter => ?_
  obtain ⟨htickets, row, hrow, hlogs⟩ := scanLogCreate_exec hafter
  have hlogged := hentry.unused htickets
  rw [logs_of_append hlogs, List.append_nil, ← eventsBy_exec (P := P)] at hlogged
  refine wp_look trivial rfl persistent_true hlogged trivial fun _ s now hentry _ _ _ => ?_
  exact wp_ret (eventsBy_stable (CallRecord P _ _)) hentry fun _ _ h => ⟨row, hrow, h⟩

theorem wp_rejects (hne : status ≠ .SUCCESS) (hentry : CallRecord P [] none (eventsBy i s.hist)) :
    (finalizeScan userId tenantId deviceId source seat showId status ticketId?).wp (doorAnyClock P)
      (ledgerOutline P d) i op (Entered P i qrToken) (fun _ _ => True) s :=
  wp_entered (by rwa [if_neg hne])

theorem updateMany_exec {id scannedBy qrHash : String} {scannedAt : Time} {count : Nat} {d' : Door}
    (hid : Hashed id qrHash d)
    (h : (ScanStmt.exec d (.ticketUpdateMany id scannedAt scannedBy)).1 = .ok count)
    (hd : d' = doorDb.applyAll (ScanStmt.exec d (.ticketUpdateMany id scannedAt scannedBy)).2 d) :
    d'.ticketScanLogs = d.ticketScanLogs ∧
      (count = 0 → d'.tickets = d.tickets) ∧ (count ≠ 0 → ∃ t ∈ d.tickets.rows,
        t.qrHash = qrHash ∧ t.status = .ACTIVE ∧
          d'.tickets = d.tickets.use t.id scannedAt scannedBy) := by
  subst hd
  simp only [ScanStmt.exec] at h ⊢
  split at h
  · rename_i hany
    obtain ⟨t, ht, hmatch⟩ := List.any_eq_true.mp hany
    simp only [Bool.and_eq_true, beq_iff_eq] at hmatch
    obtain ⟨rfl, hactive⟩ := hmatch
    obtain ⟨t', ht', hid', hhash⟩ := hid
    obtain rfl := List.inj_on_of_nodup_map d.tickets.ids ht' ht hid'
    obtain rfl := Except.ok.inj h
    rw [if_pos hany]
    exact ⟨rfl, fun hcount => absurd hcount Nat.one_ne_zero, fun _ => ⟨t', ht, hhash, hactive, rfl⟩⟩
  · rename_i hany
    rw [if_neg hany]
    exact ⟨rfl, fun _ => rfl, fun hcount => absurd (Except.ok.inj h).symm hcount⟩

section Found

variable {payload : QRPayload} {ticket : Ticket}

theorem wp_claims (hop : op.scanner = userId) (hentry : CallRecord P [] none (eventsBy i s.hist))
    (hid : Hashed ticket.id (P.hashToken qrToken) s.world.data) :
    (claim userId tenantId deviceId source payload ticket).wp (doorAnyClock P) (ledgerOutline P d)
      i op (Entered P i qrToken) (fun _ _ => True) s := by
  have hhashed : Persistent (doorAnyClock P) fun s : DoorSnap =>
      Hashed ticket.id (P.hashToken qrToken) s.world.data := hashed_anyClock ticket.id
  unfold claim
  cases ticket.status with
  | USED => exact wp_rejects nofun hentry
  | other => exact wp_rejects nofun hentry
  | ACTIVE =>
      refine wp_look trivial rfl hhashed hentry hid fun _ s scannedAt hentry _ hid _ => ?_
      refine wp_step hop.symm hhashed hentry hid
        fun s o (count : Nat) hentry hid hcount _ hafter => ?_
      obtain ⟨hlogs, hzero, hone⟩ := updateMany_exec hid hcount hafter
      by_cases hcount : count = 0
      · rw [if_pos hcount]
        refine wp_rejects nofun ?_
        rw [eventsBy_exec]
        exact hentry.quiet (hzero hcount) hlogs
      · rw [if_neg hcount]
        obtain ⟨t, ht, hhash, hactive, htickets⟩ := hone hcount
        refine wp_entered ?_
        rw [if_pos rfl, eventsBy_exec, ← hhash]
        exact hentry.used ht hactive htickets hlogs

theorem wp_admits (hop : op.scanner = userId) (hentry : CallRecord P [] none (eventsBy i s.hist))
    (hid : Hashed ticket.id (P.hashToken qrToken) s.world.data) :
    (admitTicket userId tenantId deviceId source payload ticket).wp (doorAnyClock P)
      (ledgerOutline P d) i op (Entered P i qrToken) (fun _ _ => True) s := by
  have hhashed : Persistent (doorAnyClock P) fun s : DoorSnap =>
      Hashed ticket.id (P.hashToken qrToken) s.world.data := hashed_anyClock ticket.id
  unfold admitTicket
  split
  · exact wp_rejects nofun hentry
  · refine wp_look trivial rfl hhashed hentry hid fun _ s now hentry _ hid _ => ?_
    split
    · exact wp_rejects nofun hentry
    · refine wp_look trivial rfl hhashed hentry hid fun _ s show? hentry _ hid _ => ?_
      cases show? with
      | none => exact wp_claims hop hentry hid
      | some show_ =>
          refine wp_look trivial rfl hhashed hentry hid fun _ s nowMs hentry _ hid _ => ?_
          split
          · exact wp_rejects nofun hentry
          · split
            · exact wp_rejects nofun hentry
            · exact wp_claims hop hentry hid

end Found

theorem wp_token (hop : op.scanner = userId) (hentry : CallRecord P [] none (eventsBy i s.hist)) :
    (scanToken P qrToken userId tenantId deviceId source).wp (doorAnyClock P) (ledgerOutline P d)
      i op (Entered P i qrToken) (fun _ _ => True) s := by
  unfold scanToken
  split
  · exact wp_rejects nofun hentry
  · refine wp_step trivial persistent_true hentry trivial
      fun s o ticket? hentry _ hfind _ hafter => ?_
    have hquiet := looks_exec (q := .ticketFindUnique (P.hashToken qrToken)) (d := s.world.data) rfl
    rw [← hafter] at hquiet
    have hentry' := hentry.quiet hquiet.1 hquiet.2
    rw [← eventsBy_exec (P := P)] at hentry'
    cases ticket? with
    | none => exact wp_rejects nofun hentry'
    | some ticket =>
        have hhashed : Hashed ticket.id (P.hashToken qrToken) s.world.data :=
          hashed_of_find (Except.ok.inj hfind)
        exact wp_admits hop hentry' ((hashed_anyClock ticket.id).exec hhashed ..)

theorem wp_scan (hop : op.scanner = userId) (hentry : CallRecord P [] none (eventsBy i s.hist)) :
    (scanTicket P qrToken userId tenantId deviceId source).wp (doorAnyClock P) (ledgerOutline P d)
      i op (Entered P i qrToken) (fun _ _ => True) s := by
  unfold scanTicket
  split
  · split
    · exact wp_token hop hentry
    · refine wp_look trivial rfl persistent_true hentry trivial fun _ s device? hentry _ _ _ => ?_
      cases device? with
      | none => exact wp_rejects nofun hentry
      | some device =>
          refine wp_look trivial rfl persistent_true hentry trivial fun _ s seen hentry _ _ _ => ?_
          exact wp_look trivial rfl persistent_true hentry trivial
            fun _ s _ hentry _ _ _ => wp_token hop hentry
  · exact wp_token hop hentry

end Calls

/-- What an ended call has done. -/
def Ended (P : DoorPlatform) (i : Nat) : ScanOp → ScanReply → DoorSnap → Prop
  | .scanTicket qrToken .., .scanTicket answer, s => Entered P i qrToken answer s
  | _, _, _ => False

theorem ledgerOutline_valid (P : DoorPlatform) (d : Door) :
    Outline.Valid (doorAnyClock P) (ledgerOutline P d) (Ended P) where
  inv_exec hinv _ _ _ _ _ hpre hallows := ledger_exec hinv hpre hallows
  inv_env h e := ledger_env h e
  body := by
    intro i op s hop hinv hnew
    cases op with
    | syncOfflineScans => cases hop
    | scanTicket qrToken userId tenantId deviceId source =>
        have hevents : eventsBy i s.hist = [] :=
          List.filter_eq_nil_iff.mpr fun e he => by simpa using hnew e he
        have hscan : (scanTicket P qrToken userId tenantId deviceId source).wp (doorAnyClock P)
            (ledgerOutline P d) i (.scanTicket qrToken userId tenantId deviceId source)
            (Entered P i qrToken) (fun _ _ => True) s := wp_scan rfl (hevents ▸ callRecord_nil)
        refine wp_bind hinv (hscan.mono (fun answer s _ h => ?_) fun _ _ _ _ => trivial)
        exact wp_ret (Entered.stable answer) h fun _ _ h => h

/-! ## Calls do not throw -/

section Throwless

variable {qrToken userId tenantId : String} {deviceId seat showId ticketId? : Option String}
  {source : ScanSource} {status : ScanStatus} {payload : QRPayload} {ticket : Ticket}

theorem throwless_finalizeScan :
    (finalizeScan userId tenantId deviceId source seat showId status ticketId?).Throwless
      fun c r => doorDb.succeeds c r = true :=
  throwless_query fun _ => throwless_query fun _ => trivial

theorem throwless_claim : (claim userId tenantId deviceId source payload ticket).Throwless
    fun c r => doorDb.succeeds c r = true := by
  unfold claim
  cases ticket.status with
  | USED => exact throwless_finalizeScan
  | other => exact throwless_finalizeScan
  | ACTIVE =>
      refine throwless_query fun scannedAt => throwless_query fun (count : Nat) => ?_
      split <;> exact throwless_finalizeScan

theorem throwless_scanToken {P : DoorPlatform} :
    (scanToken P qrToken userId tenantId deviceId source).Throwless
      fun c r => doorDb.succeeds c r = true := by
  unfold scanToken
  split
  · exact throwless_finalizeScan
  · refine throwless_query fun ticket? => ?_
    cases ticket? with
    | none => exact throwless_finalizeScan
    | some ticket =>
        simp only [admitTicket]
        split
        · exact throwless_finalizeScan
        · refine throwless_query fun now => ?_
          split
          · exact throwless_finalizeScan
          · refine throwless_query fun show? => ?_
            cases show? with
            | none => exact throwless_claim
            | some show_ =>
                refine throwless_query fun nowMs => ?_
                split
                · exact throwless_finalizeScan
                · split
                  · exact throwless_finalizeScan
                  · exact throwless_claim

theorem throwless_scanTicket {P : DoorPlatform} :
    (scanTicket P qrToken userId tenantId deviceId source).Throwless
      fun c r => doorDb.succeeds c r = true := by
  unfold scanTicket
  split
  · split
    · exact throwless_scanToken
    · refine throwless_query fun device? => ?_
      cases device? with
      | none => exact throwless_finalizeScan
      | some device => exact throwless_query fun _ => throwless_query fun _ => throwless_scanToken
  · exact throwless_scanToken

end Throwless

/-! ## Runs -/

section Runs

variable {P : DoorPlatform} {d : Door} {cfg : DoorConfig}

theorem Entered.counted {i : Nat} {answer : ScanAnswer} {qrToken userId tenantId : String}
    {deviceId : Option String} {source : ScanSource} {s : DoorSnap}
    (h : Entered P i qrToken answer s) (qrHash : String) :
    (tokensAdmitted ⟨.scanTicket qrToken userId tenantId deviceId source,
        .ret (.scanTicket answer)⟩).countP (P.hashToken · == qrHash)
      = (eventsBy i s.hist).countP (claims P qrHash) := by
  obtain ⟨row, -, hentry⟩ := h
  rw [hentry.claims]
  simp only [tokensAdmitted, admitted]
  split <;> simp [List.countP_singleton]

theorem admissions_eq (hgood : Outline.Good (doorAnyClock P) (ledgerOutline P d) (Ended P) cfg)
    (hended : ∀ th ∈ cfg.threads, ∃ r, th.prog = .ret r) (qrHash : String) :
    admissions P cfg qrHash = (used qrHash cfg.world.data).toNat := by
  rw [← hgood.inv.once]
  refine countP_flatMap_eq hgood.fresh fun i th hth => ?_
  obtain ⟨r, hr⟩ := hended th (List.mem_of_getElem? hth)
  obtain ⟨op, prog⟩ := th
  obtain rfl : prog = .ret r := hr
  have hentered := hgood.result hth
  cases op with
  | syncOfflineScans => exact hentered.elim
  | scanTicket qrToken userId tenantId deviceId source =>
      cases r with
      | syncOfflineScans => exact hentered.elim
      | scanTicket answer =>
          rw [Entered.counted hentered, eventsBy, List.countP_filter]
          exact List.countP_congr fun e _ => by rw [Bool.and_comm]

/-- The scanner of a ticket is that of a call which has admitted it. -/
theorem scannedBy_of_admitted
    (hgood : Outline.Good (doorAnyClock P) (ledgerOutline P d) (Ended P) cfg)
    (hattributed : cfg.Attributed) {i : Nat} {th : Thread doorDb.sig ScanExn ScanReply ScanOp}
    (hth : cfg.threads[i]? = some th) {t : Ticket} (ht : t ∈ cfg.world.data.tickets.rows)
    {token : String} (htoken : token ∈ tokensAdmitted th) (hhash : P.hashToken token = t.qrHash) :
    t.scannedBy = some th.op.scanner := by
  obtain ⟨op, prog⟩ := th
  cases prog with
  | err e => cases htoken
  | call c k => cases htoken
  | ret r =>
      have hentered := hgood.result hth
      cases op with
      | syncOfflineScans => exact hentered.elim
      | scanTicket qrToken userId tenantId deviceId source =>
          cases r with
          | syncOfflineScans => exact hentered.elim
          | scanTicket answer =>
              have hcount := List.countP_pos_iff (p := (P.hashToken · == t.qrHash)).mpr
                ⟨token, htoken, by simpa using hhash⟩
              rw [Entered.counted hentered] at hcount
              obtain ⟨e, he, hclaims⟩ := List.countP_pos_iff.mp hcount
              obtain ⟨he, htid⟩ := List.mem_filter.mp he
              obtain ⟨th', hth', hop⟩ := hattributed e he
              rw [beq_iff_eq.mp htid, hth] at hth'
              obtain rfl := Option.some.inj hth'
              rw [(hgood.inv.scannedBy e he t ht hclaims).2, ← hop]

/-- **Scan log**: along every run of scans whose statements succeed, from
tickets of which none is USED, each ended call has added the one row with its
status, and the USED tickets are those that one call has admitted, for its
scanner. -/
theorem accounted_run (P : DoorPlatform) {d : Door} (hd : ∀ t ∈ d.tickets.rows, t.status ≠ .USED)
    {ls : List AnyClockLabel}
    (hls : answeredScans.admitsRun (doorAnyClock P) (Config.idle (.idle d)) ls)
    (hended : ∀ th ∈ ((Config.idle (.idle d)).run (doorAnyClock P) ls).threads,
      th.prog.running = false) :
    Accounted P d ((Config.idle (.idle d)).run (doorAnyClock P) ls) := by
  have hunused : ∀ qrHash, used qrHash d = false := fun qrHash =>
    Bool.eq_false_iff.mpr fun h => by
      obtain ⟨t, ht, -, hused⟩ := used_iff.mp h
      exact hd t ht hused
  have hidle : Ledger P d ⟨.idle d, []⟩ :=
    ⟨rfl, (List.append_nil _).symm, fun qrHash => by
      show 0 = (used qrHash d).toNat
      rw [hunused]
      rfl, fun _ he => by cases he⟩
  have hgood := Outline.sound (ledgerOutline_valid P d) (Outline.Good.idle hidle) hls
  have hthrowless : ∀ th ∈ ((Config.idle (.idle d)).run (doorAnyClock P) ls).threads,
      th.prog.Throwless fun c r => doorDb.succeeds c r = true := by
    refine Config.throwless_run (fun op hop => ?_) (fun _ _ _ _ _ h => h)
      (fun _ hth => by cases hth) hls
    cases op with
    | syncOfflineScans => cases hop
    | scanTicket => exact throwless_scanTicket.bind fun _ => trivial
  have hattributed := Config.attributed_run (M := doorAnyClock P)
    (Config.attributed_idle (ε := ScanExn) (ρ := ScanReply) (Store.idle d)) ls
  generalize (Config.idle (.idle d)).run (doorAnyClock P) ls = cfg
    at hgood hthrowless hattributed hended ⊢
  have hret : ∀ th ∈ cfg.threads, ∃ r, th.prog = .ret r := by
    intro th hth
    cases hprog : th.prog with
    | ret r => exact ⟨r, rfl⟩
    | err e => exact absurd (hthrowless th hth) (by rw [hprog]; exact id)
    | call c k => exact absurd (hended th hth) (by rw [hprog]; exact Bool.noConfusion)
  refine ⟨fun i th hth => ?_, hgood.inv.complete, fun t ht => ?_,
    fun t ht th hth token htoken hhash => ?_, fun i th answer hth hr hne e he htid => ?_⟩
  · obtain ⟨r, hr⟩ := hret th (List.mem_of_getElem? hth)
    obtain ⟨op, prog⟩ := th
    obtain rfl : prog = .ret r := hr
    have hentered := hgood.result hth
    cases op with
    | syncOfflineScans => exact hentered.elim
    | scanTicket =>
        cases r with
        | syncOfflineScans => exact hentered.elim
        | scanTicket answer =>
            obtain ⟨row, hrow, hentry⟩ := hentered
            exact ⟨answer, row, rfl, hentry.logs, hrow⟩
  · rw [admissions_eq hgood hret]
    cases hused : used t.qrHash cfg.world.data with
    | false =>
        refine iff_of_false (fun h => ?_) Nat.zero_ne_one
        rw [used_iff.mpr ⟨t, ht, rfl, h⟩] at hused
        cases hused
    | true =>
        obtain ⟨t', ht', hhash, h⟩ := used_iff.mp hused
        obtain rfl := List.inj_on_of_nodup_map cfg.world.data.tickets.hashes ht' ht hhash
        exact iff_of_true h rfl
  · obtain ⟨i, hth⟩ := List.getElem?_of_mem hth
    exact scannedBy_of_admitted hgood hattributed hth ht htoken hhash
  · obtain ⟨op, prog⟩ := th
    obtain rfl : prog = .ret (.scanTicket answer) := hr
    have hentered := hgood.result hth
    cases op with
    | syncOfflineScans => exact hentered.elim
    | scanTicket =>
        obtain ⟨row, -, hentry⟩ := hentered
        exact hentry.unchanged (if_neg hne) e (List.mem_filter.mpr ⟨he, beq_iff_eq.mpr htid⟩)

end Runs

namespace Sample

/-- The same ticket, at a gate with a device. -/
def deviceScan : ScanOp := .scanTicket qrToken "u2" "t1" (some "dev1") .DEVICE

/-- Both read the ticket ACTIVE, with a clock that is put back in between. -/
def racedScans : List AnyClockLabel :=
  [.spawn staffScan, .spawn deviceScan] ++ List.replicate 5 (.step 0 none)
    ++ [.env (.data 3500000)] ++ List.replicate 8 (.step 1 none)
    ++ List.replicate 3 (.step 0 none) ++ List.replicate 3 (.step 1 none)

end Sample

/-- One of them is answered ALREADY_USED. -/
theorem accounted_racedScans : Accounted Sample.platform Sample.atTheDoor
    ((Config.idle (.idle Sample.atTheDoor)).run (doorAnyClock Sample.platform) Sample.racedScans) :=
  accounted_run Sample.platform (by decide) (by decide +kernel) (by decide +kernel)

end Omnipax.Scans
