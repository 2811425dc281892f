import Omnipax.Conc.Answered
import Omnipax.ScanAdmission

/-!
# What a batch of offline scans comes to

`syncOfflineScans` goes through its batch scan by scan, and each scan finds
what the ones before it have left. What all of them leave depends on the batch
as a set: the scans that reach a ticket of the tenant and are not recorded yet
are recorded, each ticket and time once, and an ACTIVE ticket among these is
used (`Synced`). So the order of the batch does not matter, and a batch that is
sent again finds all of its scans recorded.
-/

namespace Omnipax.Scans

open Conc Database Prog

/-! ## The tickets of tokens -/

/-- The tickets have been made by `generateTicketsForBooking`: there is a token
that carries the id of the ticket, and no other valid token has its hash. -/
def Generated (P : DoorPlatform) (d : Door) : Prop :=
  ∀ t ∈ d.tickets.rows, ∃ token payload, P.validateToken token = some payload ∧
    payload.t = t.id ∧ P.hashToken token = t.qrHash ∧
      ∀ token' payload', P.validateToken token' = some payload' →
        P.hashToken token' = t.qrHash → token' = token

/-- A scan that reaches a ticket of the tenant: which one, and when. -/
def reach? (P : DoorPlatform) (tenantId : String) (d : Door) (scan : OfflineScanDto) :
    Option (Ticket × Time) := do
  let _ ← P.validateToken scan.qrToken
  let scannedAt ← P.newDate scan.scannedAt
  let ticket ← d.tickets.rows.find? (·.qrHash == P.hashToken scan.qrToken)
  if ticket.tenantId = tenantId then some (ticket, scannedAt) else none

/-- What a record of a scan is looked up by, besides its device: the ticket, and the time at
which the device scanned it. -/
def OfflineScan.key (r : OfflineScan) : String × Time := (r.ticketId, r.scannedAt)

/-- The device has a scan of this ticket and time recorded. -/
def Recorded (deviceId : String) (d : Door) (key : String × Time) : Prop :=
  (∃ l ∈ d.ticketScanLogs, l.ticketId = key.1 ∧ l.deviceId = some deviceId ∧ l.createdAt = key.2) ∨
    ∃ r ∈ d.offlineScanQueue, r.key = key ∧ r.deviceId = deviceId

/-- The row of the log that goes with one of the queue. -/
def OfflineScan.log (r : OfflineScan) : TicketScanLog where
  ticketId := r.ticketId
  scannedBy := r.deviceId
  deviceId := some r.deviceId
  scanSource := .DEVICE
  result := .inr r.result
  tenantId := r.tenantId
  createdAt := r.scannedAt

def OfflineScan.writes (r : OfflineScan) : List ScanWrite := [.offlineScan r, .scanLog r.log]

section Tokens

variable {P : DoorPlatform} {d : Door} {tenantId : String} {scan : OfflineScanDto} {t : Ticket}
  {scannedAt : Time}

theorem Generated.payload (h : Generated P d) (ht : t ∈ d.tickets.rows) {token : String}
    {payload : QRPayload} (hvalid : P.validateToken token = some payload)
    (hhash : P.hashToken token = t.qrHash) : payload.t = t.id := by
  obtain ⟨token', payload', hvalid', hid, -, hone⟩ := h t ht
  obtain rfl := hone token payload hvalid hhash
  obtain rfl := Option.some.inj (hvalid.symm.trans hvalid')
  exact hid

theorem reach?_eq_some : reach? P tenantId d scan = some (t, scannedAt) ↔
    (∃ payload, P.validateToken scan.qrToken = some payload) ∧
      P.newDate scan.scannedAt = some scannedAt ∧
      d.tickets.rows.find? (·.qrHash == P.hashToken scan.qrToken) = some t ∧
      t.tenantId = tenantId := by
  simp only [reach?, Option.bind_eq_bind, Option.bind_eq_some_iff]
  constructor
  · rintro ⟨payload, hvalid, at_, hdate, ticket, hfind, hif⟩
    split at hif
    · rename_i htenant
      obtain ⟨rfl, rfl⟩ := Prod.mk.injEq .. ▸ Option.some.inj hif
      exact ⟨⟨payload, hvalid⟩, hdate, hfind, htenant⟩
    · cases hif
  · rintro ⟨⟨payload, hvalid⟩, hdate, hfind, htenant⟩
    exact ⟨payload, hvalid, scannedAt, hdate, t, hfind, if_pos htenant⟩

/-- The payload of a scan that reaches a ticket has its id. -/
theorem reach?_payload (h : reach? P tenantId d scan = some (t, scannedAt)) (hd : Generated P d)
    {payload : QRPayload} (hvalid : P.validateToken scan.qrToken = some payload) :
    t ∈ d.tickets.rows ∧ P.hashToken scan.qrToken = t.qrHash ∧ payload.t = t.id := by
  obtain ⟨-, -, hfind, -⟩ := reach?_eq_some.mp h
  have ht := List.mem_of_find?_eq_some hfind
  have hmatch := List.find?_some hfind
  have hhash : P.hashToken scan.qrToken = t.qrHash := (beq_iff_eq.mp hmatch).symm
  exact ⟨ht, hhash, hd.payload ht hvalid hhash⟩

end Tokens

/-! ## One scan -/

/-- What a scan of a batch is answered, and what it writes: nothing if it reaches no ticket
or is recorded already; otherwise its two records, and the update of the ticket if that was
ACTIVE. -/
inductive SyncOutcome (P : DoorPlatform) (deviceId tenantId : String) (d : Door)
    (scan : OfflineScanDto) : SyncStatus → List ScanWrite → Prop where
  | passed {status : SyncStatus} : status ≠ .SUCCESS →
      (∀ t scannedAt, reach? P tenantId d scan = some (t, scannedAt) →
        Recorded deviceId d (t.id, scannedAt)) →
      SyncOutcome P deviceId tenantId d scan status []
  | recorded {t : Ticket} {r : OfflineScan} : reach? P tenantId d scan = some (t, r.scannedAt) →
      r.ticketId = t.id → r.deviceId = deviceId → ¬Recorded deviceId d r.key →
      t.status ≠ .ACTIVE → r.result ≠ .SUCCESS →
      SyncOutcome P deviceId tenantId d scan r.result r.writes
  | used {t : Ticket} {r : OfflineScan} : reach? P tenantId d scan = some (t, r.scannedAt) →
      r.ticketId = t.id → r.deviceId = deviceId → ¬Recorded deviceId d r.key →
      t.status = .ACTIVE →
      SyncOutcome P deviceId tenantId d scan .SUCCESS (.use t.id r.scannedAt deviceId :: r.writes)

section Scan

variable {P : DoorPlatform} {d : Door} {deviceId tenantId : String} {scan : OfflineScanDto}
  {tx : Nat} {ws : List ScanWrite}

theorem writes_logScan {ticket : Ticket} {scannedAt : Time} {status : SyncStatus}
    {qrToken : String} {Q : SyncResult → List ScanWrite → Door → Prop}
    (h : Q { qrToken, status } (ws ++ OfflineScan.writes
      ⟨ticket.id, deviceId, scannedAt, true, status, tenantId⟩) d) :
    doorDb.Writes tx (logScan deviceId tenantId tx ticket (some scannedAt) status qrToken) ws d Q := by
  unfold logScan
  refine writes_bind (writes_stmt fun o _ ws₁ hqueue => ?_)
  obtain rfl : [_] = ws₁ := (Prod.ext_iff.mp hqueue).2
  refine writes_bind (writes_stmt fun o _ ws₂ hlog => ?_)
  obtain rfl : [_] = ws₂ := (Prod.ext_iff.mp hlog).2
  refine writes_ret ?_
  rw [List.append_assoc]
  exact h

theorem ticketUpdate_exec {ticket : Ticket} (ht : ticket ∈ d.tickets.rows) (scannedAt : Time)
    (scannedBy : String) : ScanStmt.exec d (.ticketUpdate ticket.id (some scannedAt) scannedBy)
      = (.ok (), [.use ticket.id scannedAt scannedBy]) :=
  if_pos (List.any_eq_true.mpr ⟨ticket, ht, by simp⟩)

theorem not_recorded {ticketId : String} {scannedAt : Time} {existingLog : Option TicketScanLog}
    {existingQueue : Option OfflineScan}
    (hlog : d.ticketScanLogs.find? (fun l => l.ticketId == ticketId && l.deviceId == some deviceId &&
      l.createdAt == scannedAt) = existingLog)
    (hqueue : d.offlineScanQueue.find? (fun r => r.ticketId == ticketId && r.deviceId == deviceId &&
      r.scannedAt == scannedAt) = existingQueue)
    (hlogged : ¬existingLog.isSome = true) (hqueued : ¬existingQueue.isSome = true) :
    ¬Recorded deviceId d (ticketId, scannedAt) := by
  rintro (⟨l, hl, hid, hdevice, hcreated⟩ | ⟨r, hr, hkey, hdevice⟩)
  · refine hlogged ?_
    rw [← hlog, List.find?_isSome]
    exact ⟨l, hl, by simp [hid, hdevice, hcreated]⟩
  · obtain ⟨hid, hat⟩ := Prod.mk.injEq .. ▸ hkey
    refine hqueued ?_
    rw [← hqueue, List.find?_isSome]
    exact ⟨r, hr, by simp [hid, hdevice, hat]⟩

theorem writes_syncScan (hd : Generated P d) :
    doorDb.Writes tx (syncScan P deviceId tenantId scan tx) [] d fun r ws d' =>
      d' = d ∧ r.qrToken = scan.qrToken ∧ SyncOutcome P deviceId tenantId d scan r.status ws := by
  unfold syncScan
  dsimp only
  cases hvalid : P.validateToken scan.qrToken with
  | none =>
      refine writes_ret ⟨rfl, rfl, .passed nofun fun t scannedAt h => ?_⟩
      obtain ⟨⟨payload, hpayload⟩, -⟩ := reach?_eq_some.mp h
      rw [hvalid] at hpayload
      cases hpayload
  | some payload =>
      cases hdate : P.newDate scan.scannedAt with
      | none =>
          refine writes_bind (writes_stmt fun o a ws hexec => ?_)
          cases hexec
      | some scannedAt =>
          have hkey : ∀ t at_, reach? P tenantId d scan = some (t, at_) →
              at_ = scannedAt ∧ t.id = payload.t := fun t at_ h => by
            have hdate' := (reach?_eq_some.mp h).2.1
            rw [hdate] at hdate'
            exact ⟨(Option.some.inj hdate').symm, (reach?_payload h hd hvalid).2.2.symm⟩
          refine writes_bind (writes_stmt fun o existingLog ws hexec => ?_)
          obtain ⟨hlog, hws⟩ := Prod.ext_iff.mp hexec
          obtain rfl : [] = ws := hws
          have hlog : d.ticketScanLogs.find? _ = existingLog := Except.ok.inj hlog
          by_cases hlogged : existingLog.isSome = true
          · rw [if_pos hlogged]
            refine writes_ret ⟨rfl, rfl, .passed nofun fun t at_ h => Or.inl ?_⟩
            obtain ⟨rfl, hid⟩ := hkey t at_ h
            rw [← hlog, List.find?_isSome] at hlogged
            simpa [hid, and_assoc] using hlogged
          · rw [if_neg hlogged]
            refine writes_bind (writes_stmt fun o existingQueue ws hexec => ?_)
            obtain ⟨hqueue, hws⟩ := Prod.ext_iff.mp hexec
            obtain rfl : [] = ws := hws
            have hqueue : d.offlineScanQueue.find? _ = existingQueue := Except.ok.inj hqueue
            by_cases hqueued : existingQueue.isSome = true
            · rw [if_pos hqueued]
              refine writes_ret ⟨rfl, rfl, .passed nofun fun t at_ h => Or.inr ?_⟩
              obtain ⟨rfl, hid⟩ := hkey t at_ h
              rw [← hqueue, List.find?_isSome] at hqueued
              simpa [OfflineScan.key, hid, and_assoc, and_comm, and_left_comm] using hqueued
            · rw [if_neg hqueued]
              have hnew := not_recorded hlog hqueue hlogged hqueued
              refine writes_bind (writes_stmt fun o ticket? ws hexec => ?_)
              obtain ⟨hfind, hws⟩ := Prod.ext_iff.mp hexec
              obtain rfl : [] = ws := hws
              have hfind : d.tickets.rows.find? _ = ticket? := Except.ok.inj hfind
              cases ticket? with
              | none =>
                  refine writes_ret ⟨rfl, rfl, .passed nofun fun t at_ h => ?_⟩
                  cases hfind.symm.trans (reach?_eq_some.mp h).2.2.1
              | some ticket =>
                  dsimp only
                  by_cases htenant : ticket.tenantId = tenantId
                  · rw [if_neg (not_not_intro htenant)]
                    have hreach : reach? P tenantId d scan = some (ticket, scannedAt) :=
                      reach?_eq_some.mpr ⟨⟨payload, hvalid⟩, hdate, hfind, htenant⟩
                    rw [← (hkey _ _ hreach).2] at hnew
                    have hrecorded : ticket.status ≠ .ACTIVE → ∀ status, status ≠ .SUCCESS →
                        SyncOutcome P deviceId tenantId d scan status
                          (OfflineScan.writes ⟨ticket.id, deviceId, scannedAt, true, status, tenantId⟩) :=
                      fun hne status hstatus => .recorded
                        (r := ⟨ticket.id, deviceId, scannedAt, true, status, tenantId⟩)
                        hreach rfl rfl hnew hne hstatus
                    cases hstatus : ticket.status with
                    | USED =>
                        exact writes_logScan ⟨rfl, rfl, hrecorded (by simp [hstatus]) _ nofun⟩
                    | other text =>
                        exact writes_logScan ⟨rfl, rfl, hrecorded (by simp [hstatus]) _ nofun⟩
                    | ACTIVE =>
                        have hupdate := ticketUpdate_exec (List.mem_of_find?_eq_some hfind) scannedAt
                          deviceId
                        refine writes_bind (writes_stmt fun o u ws hexec => ?_)
                        obtain rfl : [_] = ws := (Prod.ext_iff.mp (hupdate.symm.trans hexec)).2
                        exact writes_logScan ⟨rfl, rfl, .used
                          (r := ⟨ticket.id, deviceId, scannedAt, true, .SUCCESS, tenantId⟩)
                          hreach rfl rfl hnew hstatus⟩
                  · rw [if_pos htenant]
                    refine writes_ret ⟨rfl, rfl, .passed nofun fun t at_ h => ?_⟩
                    obtain ⟨-, -, hfind', htenant'⟩ := reach?_eq_some.mp h
                    obtain rfl := Option.some.inj (hfind.symm.trans hfind')
                    exact absurd htenant' htenant

end Scan

/-! ## A batch -/

/-- What the scans `done` have had recorded, starting from data `d`: the rows
`new`, one for each ticket and time that was not recorded before. -/
structure Filed (P : DoorPlatform) (deviceId tenantId : String) (d : Door)
    (done : List OfflineScanDto) (new : List OfflineScan) (d' : Door) : Prop where
  queue : d'.offlineScanQueue = d.offlineScanQueue ++ new
  logs : d'.ticketScanLogs = d.ticketScanLogs ++ new.map (·.log)
  device : ∀ r ∈ new, r.deviceId = deviceId
  once : (new.map (·.key)).Nodup
  mem_new : ∀ key, key ∈ new.map (·.key) ↔ ¬Recorded deviceId d key ∧
    ∃ scan ∈ done, ∃ t, reach? P tenantId d scan = some (t, key.2) ∧ t.id = key.1

/-- And what has become of the tickets: those of `entered` have been used, by a
scan that has been answered SUCCESS. -/
structure Synced (P : DoorPlatform) (deviceId tenantId : String) (d : Door)
    (done : List OfflineScanDto) (results : List SyncResult) (new : List OfflineScan)
    (entered : List Ticket) (d' : Door) : Prop
    extends Filed P deviceId tenantId d done new d' where
  tickets : ∃ f : Ticket → Ticket, d'.tickets.rows = d.tickets.rows.map f ∧
    (∀ t, (f t).id = t.id ∧ (f t).qrHash = t.qrHash ∧ (f t).tenantId = t.tenantId) ∧
    ∀ t ∈ d.tickets.rows, (t ∈ entered → (f t).status = .USED) ∧ (t ∉ entered → f t = t)
  devices : d'.scannerDevices = d.scannerDevices
  enteredOnce : entered.Nodup
  mem_entered : ∀ t, t ∈ entered ↔
    t ∈ d.tickets.rows ∧ t.status = .ACTIVE ∧ t.id ∈ new.map (·.ticketId)
  successes : (results.filter (·.status = .SUCCESS)).map (P.hashToken ·.qrToken)
    = entered.map (·.qrHash)

section Batch

variable {P : DoorPlatform} {d d' : Door} {deviceId tenantId : String}
  {done : List OfflineScanDto} {scan : OfflineScanDto} {results : List SyncResult}
  {new : List OfflineScan} {entered : List Ticket} {t : Ticket} {r : OfflineScan}

theorem Filed.recorded_iff (h : Filed P deviceId tenantId d done new d') (key : String × Time) :
    Recorded deviceId d' key ↔ Recorded deviceId d key ∨ key ∈ new.map (·.key) := by
  unfold Recorded
  rw [h.queue, h.logs]
  constructor
  · rintro (⟨l, hl, hkey⟩ | ⟨r, hr, hkey⟩)
    · rcases List.mem_append.mp hl with hl | hl
      · exact Or.inl (Or.inl ⟨l, hl, hkey⟩)
      · obtain ⟨r, hr, rfl⟩ := List.mem_map.mp hl
        exact Or.inr (List.mem_map.mpr ⟨r, hr, Prod.ext hkey.1 hkey.2.2⟩)
    · rcases List.mem_append.mp hr with hr | hr
      · exact Or.inl (Or.inr ⟨r, hr, hkey⟩)
      · exact Or.inr (List.mem_map.mpr ⟨r, hr, hkey.1⟩)
  · rintro ((⟨l, hl, hkey⟩ | ⟨r, hr, hkey⟩) | hkey)
    · exact Or.inl ⟨l, List.mem_append_left _ hl, hkey⟩
    · exact Or.inr ⟨r, List.mem_append_left _ hr, hkey⟩
    · obtain ⟨r, hr, rfl⟩ := List.mem_map.mp hkey
      exact Or.inr ⟨r, List.mem_append_right _ hr, rfl, h.device r hr⟩

theorem filed_passed (h : Filed P deviceId tenantId d done new d')
    (hpassed : ∀ t scannedAt, reach? P tenantId d scan = some (t, scannedAt) →
      Recorded deviceId d' (t.id, scannedAt)) :
    Filed P deviceId tenantId d (done ++ [scan]) new d' := by
  refine ⟨h.queue, h.logs, h.device, h.once, fun key => ?_⟩
  rw [h.mem_new]
  refine and_congr_right fun hold => ⟨fun ⟨x, hx, hreach⟩ => ?_, fun ⟨x, hx, t, hreach, hid⟩ => ?_⟩
  · exact ⟨x, List.mem_append_left _ hx, hreach⟩
  · rcases List.mem_append.mp hx with hx | hx
    · exact ⟨x, hx, t, hreach, hid⟩
    · obtain rfl := List.mem_singleton.mp hx
      have hrecorded := (h.recorded_iff _).mp (hpassed t key.2 hreach)
      rw [hid] at hrecorded
      exact ((h.mem_new key).mp (hrecorded.resolve_left hold)).2

theorem filed_recorded (h : Filed P deviceId tenantId d done new d')
    (hreach : reach? P tenantId d scan = some (t, r.scannedAt)) (hid : t.id = r.ticketId)
    (hdevice : r.deviceId = deviceId) (hnew : ¬Recorded deviceId d' r.key) {d'' : Door}
    (hqueue : d''.offlineScanQueue = d'.offlineScanQueue ++ [r])
    (hlogs : d''.ticketScanLogs = d'.ticketScanLogs ++ [r.log]) :
    Filed P deviceId tenantId d (done ++ [scan]) (new ++ [r]) d'' := by
  rw [h.recorded_iff, not_or] at hnew
  refine ⟨?_, ?_, fun r' hr' => ?_, ?_, fun key => ?_⟩
  · rw [hqueue, h.queue, List.append_assoc]
  · rw [hlogs, h.logs, List.map_append, List.append_assoc]
    rfl
  · rcases List.mem_append.mp hr' with hr' | hr'
    · exact h.device r' hr'
    · obtain rfl := List.mem_singleton.mp hr'
      exact hdevice
  · rw [List.map_append, List.map_singleton, ← List.concat_eq_append]
    exact h.once.concat hnew.2
  · rw [List.map_append, List.mem_append, h.mem_new, List.map_singleton, List.mem_singleton]
    constructor
    · rintro (⟨hold, x, hx, hreach'⟩ | rfl)
      · exact ⟨hold, x, List.mem_append_left _ hx, hreach'⟩
      · exact ⟨hnew.1, scan, List.mem_append_right _ (List.mem_singleton_self _), t, hreach, hid⟩
    · rintro ⟨hold, x, hx, t', hreach', hid'⟩
      rcases List.mem_append.mp hx with hx | hx
      · exact Or.inl ⟨hold, x, hx, t', hreach', hid'⟩
      · obtain rfl := List.mem_singleton.mp hx
        obtain ⟨rfl, hat⟩ := Prod.mk.injEq .. ▸ Option.some.inj (hreach.symm.trans hreach')
        exact Or.inr (Prod.ext (hid'.symm.trans hid) hat.symm)

/-- Tickets keep their ids, hashes and tenants, so a scan reaches the same one. -/
theorem reach?_map {f : Ticket → Ticket} (hrows : d'.tickets.rows = d.tickets.rows.map f)
    (hf : ∀ t, (f t).id = t.id ∧ (f t).qrHash = t.qrHash ∧ (f t).tenantId = t.tenantId) :
    reach? P tenantId d' scan = (reach? P tenantId d scan).map (Prod.map f id) := by
  have hhash : (fun t : Ticket => t.qrHash == P.hashToken scan.qrToken) ∘ f
      = fun t => t.qrHash == P.hashToken scan.qrToken := funext fun t => by simp [(hf t).2.1]
  simp only [reach?, hrows, List.find?_map, hhash]
  cases P.validateToken scan.qrToken with
  | none => rfl
  | some payload =>
      cases P.newDate scan.scannedAt with
      | none => rfl
      | some scannedAt =>
          cases d.tickets.rows.find? (·.qrHash == P.hashToken scan.qrToken) with
          | none => rfl
          | some t =>
              simp only [Option.map_some, Option.bind_eq_bind, Option.bind_some, (hf t).2.2]
              split <;> rfl

theorem generated_map {f : Ticket → Ticket} (hrows : d'.tickets.rows = d.tickets.rows.map f)
    (hf : ∀ t, (f t).id = t.id ∧ (f t).qrHash = t.qrHash ∧ (f t).tenantId = t.tenantId)
    (h : Generated P d) : Generated P d' := by
  intro t' ht'
  rw [hrows] at ht'
  obtain ⟨t, ht, rfl⟩ := List.mem_map.mp ht'
  rw [(hf t).1, (hf t).2.1]
  exact h t ht

theorem Synced.generated (h : Synced P deviceId tenantId d done results new entered d')
    (hd : Generated P d) : Generated P d' := by
  obtain ⟨f, hrows, hf, -⟩ := h.tickets
  exact generated_map hrows hf hd

theorem synced_nil : Synced P deviceId tenantId d [] [] [] [] d where
  queue := (List.append_nil _).symm
  logs := (List.append_nil _).symm
  device _ hr := by cases hr
  once := List.nodup_nil
  mem_new key := by simp
  tickets := ⟨id, (List.map_id _).symm, fun _ => ⟨rfl, rfl, rfl⟩, fun t _ =>
    ⟨fun h => absurd h List.not_mem_nil, fun _ => rfl⟩⟩
  devices := rfl
  enteredOnce := List.nodup_nil
  mem_entered t := by simp
  successes := rfl

theorem filter_success_of_ne {result : SyncResult} (h : result.status ≠ .SUCCESS) :
    (results ++ [result]).filter (·.status = .SUCCESS) = results.filter (·.status = .SUCCESS) := by
  simp [List.filter_append, h]

/-- **Step**: what one more scan adds. -/
theorem synced_step (h : Synced P deviceId tenantId d done results new entered d')
    {result : SyncResult} {ws : List ScanWrite} (htoken : result.qrToken = scan.qrToken)
    (hresult : SyncOutcome P deviceId tenantId d' scan result.status ws) :
    ∃ new' entered', Synced P deviceId tenantId d (done ++ [scan]) (results ++ [result]) new' entered'
      (doorDb.applyAll ws d') := by
  obtain ⟨f, hrows, hf, hentered⟩ := h.tickets
  have hreached : ∀ t' scannedAt, reach? P tenantId d' scan = some (t', scannedAt) →
      ∃ t, t ∈ d.tickets.rows ∧ reach? P tenantId d scan = some (t, scannedAt) ∧ f t = t' := by
    intro t' scannedAt hreach
    rw [reach?_map hrows hf, Option.map_eq_some_iff] at hreach
    obtain ⟨⟨t, scannedAt'⟩, hreach, hpair⟩ := hreach
    obtain ⟨rfl, rfl⟩ := Prod.mk.injEq .. ▸ hpair
    exact ⟨t, List.mem_of_find?_eq_some (reach?_eq_some.mp hreach).2.2.1, hreach, rfl⟩
  generalize hstatus : result.status = status at hresult
  cases hresult with
  | passed hne hpassed =>
      refine ⟨new, entered, filed_passed h.toFiled fun t scannedAt hreach => ?_, h.tickets, h.devices,
        h.enteredOnce, h.mem_entered, ?_⟩
      · have hreach' := hpassed (f t) scannedAt (by rw [reach?_map hrows hf, hreach]; rfl)
        rwa [(hf t).1] at hreach'
      · rw [filter_success_of_ne (hstatus ▸ hne)]
        exact h.successes
  | @recorded t' r hreach' hid hdevice hnew hinactive hne =>
      obtain ⟨t, ht, hreach, rfl⟩ := hreached t' _ hreach'
      refine ⟨new ++ [r], entered, filed_recorded h.toFiled hreach ((hf t).1.symm.trans hid.symm)
        hdevice hnew rfl rfl, h.tickets, h.devices, h.enteredOnce, fun t₁ => ?_, ?_⟩
      · rw [h.mem_entered, List.map_append, List.mem_append, List.map_singleton, List.mem_singleton]
        refine and_congr_right fun ht₁ => and_congr_right fun hactive =>
          ⟨Or.inl, fun hmem => hmem.elim id fun hid₁ => ?_⟩
        obtain rfl := List.inj_on_of_nodup_map d.tickets.ids ht₁ ht (hid₁.trans (hid.trans (hf t).1))
        -- it is ACTIVE no more, so it has been used by an earlier scan
        have hused : t₁ ∈ entered := by
          by_contra hunused
          rw [(hentered t₁ ht).2 hunused] at hinactive
          exact hinactive hactive
        exact ((h.mem_entered t₁).mp hused).2.2
      · rw [filter_success_of_ne (hstatus ▸ hne)]
        exact h.successes
  | @used t' r hreach' hid hdevice hnew hactive =>
      obtain ⟨t, ht, hreach, rfl⟩ := hreached t' _ hreach'
      have hunused : t ∉ entered := fun hmem => by
        rw [(hentered t ht).1 hmem] at hactive
        cases hactive
      have hsame : f t = t := (hentered t ht).2 hunused
      rw [hsame] at hid hactive
      have hhash : P.hashToken result.qrToken = t.qrHash := by
        have hmatch := List.find?_some (reach?_eq_some.mp hreach).2.2.1
        rw [htoken]
        exact (beq_iff_eq.mp hmatch).symm
      refine ⟨new ++ [r], entered ++ [t], filed_recorded h.toFiled hreach hid.symm hdevice hnew rfl rfl,
        ⟨fun x => if (f x).id = (f t).id then { f x with
            status := .USED, scannedAt := some r.scannedAt, scannedBy := some deviceId } else f x,
          ?_, fun x => ?_, fun x hx => ⟨fun hmem => ?_, fun hmem => ?_⟩⟩,
        h.devices, ?_, fun t₁ => ?_, ?_⟩
      · show d'.tickets.rows.map _ = _
        rw [hrows, List.map_map]
        rfl
      · dsimp only
        split <;> exact hf x
      · dsimp only
        split
        · rfl
        · rename_i hother
          rcases List.mem_append.mp hmem with hmem | hmem
          · exact (hentered x hx).1 hmem
          · obtain rfl := List.mem_singleton.mp hmem
            exact absurd rfl hother
      · obtain ⟨hx', hne⟩ := not_or.mp (mt List.mem_append.mpr hmem)
        have hother : (f x).id ≠ (f t).id := fun hid' => by
          rw [(hf x).1, (hf t).1] at hid'
          obtain rfl := List.inj_on_of_nodup_map d.tickets.ids hx ht hid'
          exact hne (List.mem_singleton_self _)
        exact (if_neg hother).trans ((hentered x hx).2 hx')
      · rw [← List.concat_eq_append]
        exact h.enteredOnce.concat hunused
      · rw [List.mem_append, h.mem_entered, List.mem_singleton, List.map_append, List.mem_append,
          List.map_singleton, List.mem_singleton]
        constructor
        · rintro (⟨ht₁, hactive₁, hmem⟩ | rfl)
          · exact ⟨ht₁, hactive₁, Or.inl hmem⟩
          · exact ⟨ht, hactive, Or.inr hid.symm⟩
        · rintro ⟨ht₁, hactive₁, hmem | hid₁⟩
          · exact Or.inl ⟨ht₁, hactive₁, hmem⟩
          · exact Or.inr (List.inj_on_of_nodup_map d.tickets.ids ht₁ ht (hid₁.trans hid))
      · rw [List.filter_append, List.map_append, h.successes, List.map_append]
        simp [hstatus, hhash]

theorem leaves_syncOne (h : Synced P deviceId tenantId d done results new entered d')
    (hd : Generated P d) :
    doorDb.Leaves (syncOne P deviceId tenantId scan) d' fun result d'' => ∃ new' entered',
      Synced P deviceId tenantId d (done ++ [scan]) (results ++ [result]) new' entered' d'' := by
  refine leaves_bind (leaves_attempt (leaves_transaction fun tx =>
    (writes_syncScan (h.generated hd)).mono fun result ws d'' hq => leaves_ret ?_))
  obtain ⟨rfl, htoken, hresult⟩ := hq
  exact synced_step h htoken hresult

/-- The device is registered for the tenant and active, which is what a batch is checked for
once, at its head. -/
def Active (deviceId tenantId : String) (d : Door) : Prop :=
  ∃ v ∈ d.scannerDevices, v.id = deviceId ∧ v.tenantId = tenantId ∧ v.isActive = true

theorem active_seen (h : Active deviceId tenantId d) (id : String) (t : Time) :
    Active deviceId tenantId ((ScanWrite.seen id t).apply d) := by
  obtain ⟨v, hv, hid, htenant, hactive⟩ := h
  refine ⟨_, List.mem_map_of_mem hv, ?_⟩
  split <;> exact ⟨hid, htenant, hactive⟩

theorem active_find (h : Active deviceId tenantId d) : ∃ v,
    d.scannerDevices.find? (fun v => v.id == deviceId && v.tenantId == tenantId && v.isActive)
      = some v := by
  refine Option.isSome_iff_exists.mp (List.find?_isSome.mpr ?_)
  obtain ⟨v, hv, hid, htenant, hactive⟩ := h
  exact ⟨v, hv, by simp [hid, htenant, hactive]⟩

/-- **Batch**: what a run without failures leaves. -/
theorem leaves_syncOfflineScans {scans : List OfflineScanDto} (hlength : scans.length ≤ 500)
    (hactive : Active deviceId tenantId d) (hd : Generated P d) :
    doorDb.Leaves (syncOfflineScans P deviceId tenantId scans) d fun results d' =>
      ∃ devices new entered, Synced P deviceId tenantId { d with scannerDevices := devices } scans
        results new entered d' ∧ Active deviceId tenantId d' := by
  unfold syncOfflineScans
  rw [if_neg (Nat.not_lt.mpr hlength)]
  obtain ⟨device, hfind⟩ := active_find hactive
  refine leaves_bind (leaves_query fun o device? ws hexec => ?_)
  obtain ⟨hdevice, hws⟩ := Prod.ext_iff.mp hexec
  obtain rfl : [] = ws := hws
  obtain rfl : some device = device? := hfind.symm.trans (Except.ok.inj hdevice)
  refine leaves_bind (leaves_query fun o lastSeenAt ws hexec => ?_)
  obtain rfl : [] = ws := (Prod.ext_iff.mp hexec).2
  refine leaves_bind (leaves_query fun o _ ws hexec => ?_)
  have hany : d.scannerDevices.any (·.id == deviceId) = true := by
    obtain ⟨v, hv, hid, -⟩ := hactive
    exact List.any_eq_true.mpr ⟨v, hv, by simp [hid]⟩
  have hseen : ScanStmt.exec d (.deviceUpdate deviceId lastSeenAt)
      = (.ok (), [.seen deviceId lastSeenAt]) := if_pos hany
  obtain rfl : [_] = ws := (Prod.ext_iff.mp (hseen.symm.trans hexec)).2
  have hactive' := active_seen hactive deviceId lastSeenAt
  change doorDb.Leaves _ ((ScanWrite.seen deviceId lastSeenAt).apply d) _
  have hd' : Generated P ((ScanWrite.seen deviceId lastSeenAt).apply d) := hd
  refine (leaves_mapM (I := fun done results d' => ∃ new entered, Synced P deviceId tenantId
    ((ScanWrite.seen deviceId lastSeenAt).apply d) done results new entered d')
    (fun done scan rest results d'' _ hsynced => ?_) ⟨[], [], synced_nil⟩).mono
    fun results d' hsynced => ?_
  · obtain ⟨new, entered, hsynced⟩ := hsynced
    exact leaves_syncOne hsynced hd'
  · obtain ⟨new, entered, hsynced⟩ := hsynced
    refine ⟨_, new, entered, hsynced, ?_⟩
    rw [Active, hsynced.devices]
    exact hactive'

end Batch

/-! ## The order of a batch -/

abbrev SyncRun := Outcome DoorStore ScanExn (List SyncResult)

/-- How many of the results admit the ticket with this hash. -/
def successesFor (P : DoorPlatform) (qrHash : String) (results : List SyncResult) : Nat :=
  ((results.filter (·.status = .SUCCESS)).map (P.hashToken ·.qrToken)).count qrHash

/-- What two runs from data `d` have in common. -/
structure SameSync (P : DoorPlatform) (d : Door) (first second : SyncRun) : Prop where
  statuses : first.state.data.tickets.rows.map (fun t => (t.id, t.status))
    = second.state.data.tickets.rows.map fun t => (t.id, t.status)
  successes : ∃ results results', first.result = .ok results ∧ second.result = .ok results' ∧
    ∀ qrHash, successesFor P qrHash results = successesFor P qrHash results'
  queued : ∃ added added', first.state.data.offlineScanQueue = d.offlineScanQueue ++ added ∧
    second.state.data.offlineScanQueue = d.offlineScanQueue ++ added' ∧
      (added.map (·.key)).Perm (added'.map (·.key))

section Order

variable {P : DoorPlatform} {d d₁ d₂ : Door} {deviceId tenantId : String}
  {scans scans' : List OfflineScanDto} {results results' : List SyncResult}
  {new new' : List OfflineScan} {entered entered' : List Ticket}

theorem Synced.statuses (h : Synced P deviceId tenantId d scans results new entered d₁) :
    d₁.tickets.rows.map (fun t => (t.id, t.status))
      = d.tickets.rows.map fun t => (t.id, if t ∈ entered then .USED else t.status) := by
  obtain ⟨f, hrows, hf, hentered⟩ := h.tickets
  rw [hrows, List.map_map]
  refine List.map_congr_left fun t ht => Prod.ext (hf t).1 ?_
  show (f t).status = if t ∈ entered then _ else _
  split
  · rename_i hmem
    exact (hentered t ht).1 hmem
  · rename_i hmem
    rw [(hentered t ht).2 hmem]

/-- What is recorded, and who has entered, depends on the batch as a set. -/
theorem Synced.perm {devices devices' : List ScannerDevice}
    (h : Synced P deviceId tenantId { d with scannerDevices := devices } scans results new entered d₁)
    (h' : Synced P deviceId tenantId { d with scannerDevices := devices' } scans' results' new'
      entered' d₂)
    (hscans : ∀ scan, scan ∈ scans ↔ scan ∈ scans') :
    (new.map (·.key)).Perm (new'.map (·.key)) ∧ entered.Perm entered' := by
  have hkeys : ∀ key, key ∈ new.map (·.key) ↔ key ∈ new'.map (·.key) := by
    intro key
    rw [h.mem_new, h'.mem_new]
    refine and_congr_right fun _ => exists_congr fun scan => ?_
    rw [hscans]
    rfl
  have hids : ∀ id, id ∈ new.map (·.ticketId) ↔ id ∈ new'.map (·.ticketId) := by
    have hfst : ∀ l : List OfflineScan, l.map (·.ticketId) = (l.map (·.key)).map Prod.fst := fun l => by
      rw [List.map_map]
      rfl
    intro id
    rw [hfst, hfst, List.mem_map, List.mem_map]
    exact exists_congr fun key => and_congr_left fun _ => hkeys key
  refine ⟨(List.perm_ext_iff_of_nodup h.once h'.once).mpr hkeys,
    (List.perm_ext_iff_of_nodup h.enteredOnce h'.enteredOnce).mpr fun t => ?_⟩
  rw [h.mem_entered, h'.mem_entered, hids]

end Order

/-- **Order**: a batch and a permutation of it come to the same. -/
theorem sameSync_of_perm (P : DoorPlatform) {deviceId tenantId : String} {d : Door}
    (hd : Generated P d) (hactive : Active deviceId tenantId d) {scans scans' : List OfflineScanDto}
    (hlength : scans.length ≤ 500) (hperm : scans.Perm scans') {os os' : Nat → Option Loss}
    (hanswered : (syncOfflineScans P deviceId tenantId scans).answered doorDb.machine doorDb.succeeds
      os 0 (Store.idle d) = true)
    (hanswered' : (syncOfflineScans P deviceId tenantId scans').answered doorDb.machine
      doorDb.succeeds os' 0 (Store.idle d) = true) :
    SameSync P d ((syncOfflineScans P deviceId tenantId scans).run doorDb.machine os 0 (Store.idle d))
      ((syncOfflineScans P deviceId tenantId scans').run doorDb.machine os' 0 (Store.idle d)) := by
  obtain ⟨results, hresult, -, devices, new, entered, h, -⟩ :=
    (leaves_syncOfflineScans hlength hactive hd (Store.idle d) rfl rfl).run hanswered
  obtain ⟨results', hresult', -, devices', new', entered', h', -⟩ :=
    (leaves_syncOfflineScans (hperm.length_eq ▸ hlength) hactive hd (Store.idle d) rfl rfl).run
      hanswered'
  obtain ⟨hkeys, hentered⟩ := h.perm h' fun _ => hperm.mem_iff
  refine ⟨?_, ⟨results, results', hresult, hresult', fun qrHash => ?_⟩,
    new, new', h.queue, h'.queue, hkeys⟩
  · rw [h.statuses, h'.statuses]
    refine List.map_congr_left fun t _ => ?_
    simp only [hentered.mem_iff]
  · rw [successesFor, successesFor, h.successes, h'.successes]
    exact (hentered.map _).count_eq qrHash

namespace Sample

/-- With the dates of two scans. -/
def syncPlatform : DoorPlatform :=
  { platform with newDate := fun text =>
      if text = "1970-01-01T01:00:00.000Z" then some 3600000
      else if text = "1970-01-01T01:10:00.000Z" then some 4200000 else none }

def scanAtOne : OfflineScanDto := ⟨qrToken, "1970-01-01T01:00:00.000Z"⟩

def scanAtTen : OfflineScanDto := ⟨qrToken, "1970-01-01T01:10:00.000Z"⟩

def answers : Nat → Option Loss := fun _ => none

theorem generated_atTheDoor : Generated syncPlatform atTheDoor := by
  intro t ht
  obtain rfl := List.mem_singleton.mp ht
  refine ⟨qrToken, ⟨"tk1", "show1", 9000⟩, by decide +kernel, rfl, by decide +kernel,
    fun token _ _ h => ?_⟩
  by_contra hne
  have hempty : syncPlatform.hashToken token = "" := if_neg hne
  rw [hempty] at h
  revert h
  decide

theorem active_atTheDoor : Active "dev1" "t1" atTheDoor := by
  refine ⟨⟨"dev1", true, "t1", none⟩, ?_, rfl, rfl, rfl⟩
  decide

end Sample

/-- Two scans of a ticket, the later one first or last. -/
theorem sameSync_twoScans : SameSync Sample.syncPlatform Sample.atTheDoor
    ((syncOfflineScans Sample.syncPlatform "dev1" "t1" [Sample.scanAtOne, Sample.scanAtTen]).run
      doorDb.machine Sample.answers 0 (Store.idle Sample.atTheDoor))
    ((syncOfflineScans Sample.syncPlatform "dev1" "t1" [Sample.scanAtTen, Sample.scanAtOne]).run
      doorDb.machine Sample.answers 0 (Store.idle Sample.atTheDoor)) :=
  sameSync_of_perm Sample.syncPlatform Sample.generated_atTheDoor Sample.active_atTheDoor (by decide)
    (List.Perm.swap ..) (by decide +kernel) (by decide +kernel)

/-! ## A batch that is sent again -/

/-- A second run has changed none of the tables, and admits nobody. -/
structure Replayed (first second : SyncRun) : Prop where
  tickets : second.state.data.tickets = first.state.data.tickets
  queue : second.state.data.offlineScanQueue = first.state.data.offlineScanQueue
  logs : second.state.data.ticketScanLogs = first.state.data.ticketScanLogs
  noSuccess : ∀ results, second.result = .ok results → ∀ r ∈ results, r.status ≠ .SUCCESS

structure SameTables (d d' : Door) : Prop where
  tickets : d'.tickets = d.tickets
  queue : d'.offlineScanQueue = d.offlineScanQueue
  logs : d'.ticketScanLogs = d.ticketScanLogs

/-- The scan is recorded for its device, if it reaches a ticket of the tenant at all.
Sending it again then writes nothing. -/
def Settled (P : DoorPlatform) (deviceId tenantId : String) (d : Door) (scan : OfflineScanDto) :
    Prop :=
  ∀ t scannedAt, reach? P tenantId d scan = some (t, scannedAt) → Recorded deviceId d (t.id, scannedAt)

section Replay

variable {P : DoorPlatform} {d d' : Door} {deviceId tenantId : String} {scan : OfflineScanDto}
  {scans : List OfflineScanDto} {tx : Nat}

/-- **Settled**: what a run has been through, a second one finds recorded. -/
theorem Synced.settled {results : List SyncResult} {new : List OfflineScan} {entered : List Ticket}
    (h : Synced P deviceId tenantId d scans results new entered d') (hscan : scan ∈ scans) :
    Settled P deviceId tenantId d' scan := by
  intro t' scannedAt hreach
  obtain ⟨f, hrows, hf, -⟩ := h.tickets
  rw [reach?_map hrows hf, Option.map_eq_some_iff] at hreach
  obtain ⟨⟨t, scannedAt'⟩, hreach, hpair⟩ := hreach
  obtain ⟨rfl, rfl⟩ := Prod.mk.injEq .. ▸ hpair
  rw [h.recorded_iff, or_iff_not_imp_left]
  exact fun hold => (h.mem_new _).mpr ⟨hold, scan, hscan, t, hreach, (hf t).1.symm⟩

theorem looks_syncScan (hd : Generated P d) (h : Settled P deviceId tenantId d scan) :
    doorDb.Looks (syncScan P deviceId tenantId scan tx) (SameTables d) fun r => r.status ≠ .SUCCESS := by
  unfold syncScan
  dsimp only
  cases hvalid : P.validateToken scan.qrToken with
  | none => exact looks_ret nofun
  | some payload =>
      cases hdate : P.newDate scan.scannedAt with
      | none => exact looks_bind (looks_stmt (fun _ _ _ => rfl) fun o d' a _ hexec => by cases hexec)
      | some scannedAt =>
          refine looks_bind (looks_stmt (fun _ _ _ => rfl) fun o d₁ existingLog hd₁ hlog => ?_)
          have hlog : d₁.ticketScanLogs.find? _ = existingLog := Except.ok.inj hlog
          rw [hd₁.logs] at hlog
          split
          · exact looks_ret nofun
          · rename_i hlogged
            refine looks_bind (looks_stmt (fun _ _ _ => rfl) fun o d₂ existingQueue hd₂ hqueue => ?_)
            have hqueue : d₂.offlineScanQueue.find? _ = existingQueue := Except.ok.inj hqueue
            rw [hd₂.queue] at hqueue
            split
            · exact looks_ret nofun
            · rename_i hqueued
              refine looks_bind (looks_stmt (fun _ _ _ => rfl) fun o d₃ ticket? hd₃ hfind => ?_)
              have hfind : d₃.tickets.rows.find? _ = ticket? := Except.ok.inj hfind
              rw [hd₃.tickets] at hfind
              cases ticket? with
              | none => exact looks_ret nofun
              | some ticket =>
                  dsimp only
                  split
                  · exact looks_ret nofun
                  · rename_i htenant
                    have hreach : reach? P tenantId d scan = some (ticket, scannedAt) :=
                      reach?_eq_some.mpr ⟨⟨payload, hvalid⟩, hdate, hfind, not_not.mp htenant⟩
                    have hrecorded := h ticket scannedAt hreach
                    rw [← (reach?_payload hreach hd hvalid).2.2] at hrecorded
                    exact absurd hrecorded (not_recorded hlog hqueue hlogged hqueued)

theorem looks_syncOne (hd : Generated P d) (h : Settled P deviceId tenantId d scan) :
    doorDb.Looks (syncOne P deviceId tenantId scan) (SameTables d) fun r => r.status ≠ .SUCCESS := by
  refine looks_bind (looks_attempt (looks_transaction fun tx => (looks_syncScan hd h).mono
    fun r hr => looks_ret hr) fun e => looks_ret nofun)

/-- A batch whose scans are settled changes nothing but when the device has been
seen, whatever becomes of its steps. -/
theorem looks_syncOfflineScans (hd : Generated P d)
    (h : ∀ scan ∈ scans, Settled P deviceId tenantId d scan) :
    doorDb.Looks (syncOfflineScans P deviceId tenantId scans) (SameTables d)
      fun results => ∀ r ∈ results, r.status ≠ .SUCCESS := by
  unfold syncOfflineScans
  split
  · exact looks_err
  · refine looks_bind (looks_query (fun _ _ hd₁ => hd₁) fun o d₁ device? _ _ => ?_)
    cases device? with
    | none => exact looks_err
    | some device =>
        refine looks_bind (looks_query (fun _ _ hd₁ => hd₁) fun o d₁ lastSeenAt _ _ => ?_)
        refine looks_bind (looks_query (fun o d₁ hd₁ => ?_) fun o d₁ _ _ _ => ?_)
        · show SameTables d (doorDb.applyAll (ScanStmt.exec d₁ _).2 d₁)
          simp only [ScanStmt.exec]
          split
          · exact ⟨hd₁.tickets, hd₁.queue, hd₁.logs⟩
          · exact hd₁
        · exact looks_mapM fun scan hscan => looks_syncOne hd (h scan hscan)

end Replay

/-- **Replay**: after a run without failures, a second one of the same batch,
at any time and with any failures, changes nothing. -/
theorem replayed_run (P : DoorPlatform) {deviceId tenantId : String} {d : Door}
    (hd : Generated P d) (hactive : Active deviceId tenantId d) {scans : List OfflineScanDto}
    (hlength : scans.length ≤ 500) {os : Nat → Option Loss}
    (hanswered : (syncOfflineScans P deviceId tenantId scans).answered doorDb.machine doorDb.succeeds
      os 0 (Store.idle d) = true) (os' : Nat → Option Loss) (now : Time) :
    let first := (syncOfflineScans P deviceId tenantId scans).run doorDb.machine os 0 (Store.idle d)
    Replayed first ((syncOfflineScans P deviceId tenantId scans).run doorDb.machine os' 0
      { first.state with data := { first.state.data with clock := now } }) := by
  intro first
  obtain ⟨results, hresult, hsessions, devices, new, entered, h, -⟩ :=
    (leaves_syncOfflineScans hlength hactive hd (Store.idle d) rfl rfl).run hanswered
  have hd' : Generated P { first.state.data with clock := now } :=
    h.generated (d := { d with scannerDevices := devices }) hd
  have hsettled : ∀ scan ∈ scans,
      Settled P deviceId tenantId { first.state.data with clock := now } scan :=
    fun _ hscan => h.settled hscan
  have hlooks := looks_syncOfflineScans hd' hsettled
  have hblank : Blank ({ first.state with data := { first.state.data with clock := now } } :
      DoorStore) := fun ss hss => by
    rw [show first.state.sessions = [] from hsessions] at hss
    cases hss
  rcases (hlooks _ hblank ⟨rfl, rfl, rfl⟩).outcome os' 0 with
    ⟨results', hresult', ⟨-, hsame⟩, hnone⟩ | ⟨e, herror, -, hsame⟩
  · refine ⟨hsame.tickets, hsame.queue, hsame.logs, fun results'' h'' => ?_⟩
    obtain rfl := Except.ok.inj (hresult'.symm.trans h'')
    exact hnone
  · refine ⟨hsame.tickets, hsame.queue, hsame.logs, fun results'' h'' => ?_⟩
    cases herror.symm.trans h''

/-- The same two scans, a minute later. -/
theorem replayed_twoScans :
    let first := (syncOfflineScans Sample.syncPlatform "dev1" "t1"
      [Sample.scanAtOne, Sample.scanAtTen, Sample.scanAtOne]).run doorDb.machine Sample.answers 0
        (Store.idle Sample.atTheDoor)
    Replayed first ((syncOfflineScans Sample.syncPlatform "dev1" "t1"
      [Sample.scanAtOne, Sample.scanAtTen, Sample.scanAtOne]).run doorDb.machine Sample.answers 0
        { first.state with data := { first.state.data with clock := 3660000 } }) :=
  replayed_run Sample.syncPlatform Sample.generated_atTheDoor Sample.active_atTheDoor (by decide)
    (by decide +kernel) Sample.answers 3660000

end Omnipax.Scans
