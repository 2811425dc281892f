import Omnipax.Commands
import Omnipax.Conc.Transaction

/-!
# Scanning tickets

A ticket is admitted in two ways. `scanTicket` reads it by the hash of its
signed token and claims it with one conditional update, outside any
transaction. `syncOfflineScans` takes a batch of scans a device has made
while offline, and reads, updates and logs each of them in a transaction of
its own.

`status` is a text column: every value but ACTIVE and USED is treated alike.
-/

namespace Omnipax.Scans

open Conc Database

/-! ## Rows -/

inductive TicketStatus where
  | ACTIVE
  | USED
  | other (text : String)
deriving Repr, DecidableEq

structure Ticket where
  id : String
  showId : String
  seatNumber : String
  qrHash : String
  status : TicketStatus
  scannedAt : Option Time
  scannedBy : Option String
  tenantId : String
deriving Repr, DecidableEq

/-- The table, with its primary key and its unique index. -/
structure TicketTable where
  rows : List Ticket
  ids : (rows.map (·.id)).Nodup
  hashes : (rows.map (·.qrHash)).Nodup
deriving DecidableEq

structure Show where
  id : String
  startTime : Time
deriving Repr, DecidableEq

structure ScannerDevice where
  id : String
  isActive : Bool
  tenantId : String
  lastSeenAt : Option Time
deriving Repr, DecidableEq

inductive ScanStatus where
  | SUCCESS
  | ALREADY_USED
  | INVALID
  | EXPIRED
  | WRONG_TENANT
  | NOT_OPEN_YET
deriving Repr, DecidableEq

inductive SyncStatus where
  | INVALID
  | DUPLICATE_IGNORED
  | WRONG_TENANT
  | SUCCESS
  | CONFLICT_ALREADY_USED
  | ERROR
deriving Repr, DecidableEq

inductive ScanSource where
  | STAFF
  | DEVICE
deriving Repr, DecidableEq

structure TicketScanLog where
  ticketId : String
  scannedBy : String
  deviceId : Option String
  scanSource : ScanSource
  result : ScanStatus ⊕ SyncStatus
  tenantId : String
  createdAt : Time
deriving DecidableEq

structure OfflineScan where
  ticketId : String
  deviceId : String
  scannedAt : Time
  synced : Bool
  result : SyncStatus
  tenantId : String
deriving Repr, DecidableEq

/-- The committed tables that a scan reads or writes, with the time. Indexes stand with the
tables that have them. -/
structure Door where
  clock : Time
  tickets : TicketTable
  shows : List Show
  scannerDevices : List ScannerDevice
  ticketScanLogs : List TicketScanLog
  offlineScanQueue : List OfflineScan
deriving DecidableEq

namespace TicketTable

def use (t : TicketTable) (id : String) (scannedAt : Time) (scannedBy : String) : TicketTable where
  rows := t.rows.map fun r => if r.id = id then
    { r with status := .USED, scannedAt := some scannedAt, scannedBy := some scannedBy } else r
  ids := by
    have hid : (fun r : Ticket => r.id) ∘ (fun r => if r.id = id then
        { r with status := .USED, scannedAt := some scannedAt, scannedBy := some scannedBy }
          else r) = (·.id) := by
      funext r
      simp only [Function.comp_apply]
      split <;> rfl
    rw [List.map_map, hid]
    exact t.ids
  hashes := by
    have hhash : (fun r : Ticket => r.qrHash) ∘ (fun r => if r.id = id then
        { r with status := .USED, scannedAt := some scannedAt, scannedBy := some scannedBy }
          else r) = (·.qrHash) := by
      funext r
      simp only [Function.comp_apply]
      split <;> rfl
    rw [List.map_map, hhash]
    exact t.hashes

end TicketTable

/-! ## Statements -/

/-- An Invalid Date is `none`. -/
abbrev JsDate := Option Time

inductive ScanStmt where
  | dateNow
  | deviceFindFirst (id tenantId : String)
  | deviceUpdate (id : String) (lastSeenAt : Time)
  | ticketFindUnique (qrHash : String)
  | showFindUnique (id : String)
  /-- Where the id matches and the ticket is ACTIVE. -/
  | ticketUpdateMany (id : String) (scannedAt : Time) (scannedBy : String)
  | ticketUpdate (id : String) (scannedAt : JsDate) (scannedBy : String)
  | scanLogFindFirst (ticketId deviceId : String) (createdAt : JsDate)
  | offlineScanFindFirst (ticketId deviceId : String) (scannedAt : JsDate)
  /-- `createdAt` defaults to the time of the insert. -/
  | scanLogCreate (ticketId scannedBy : String) (deviceId : Option String)
      (scanSource : ScanSource) (result : ScanStatus ⊕ SyncStatus) (tenantId : String)
      (createdAt : Option Time)
  | offlineScanCreate (ticketId deviceId : String) (scannedAt : JsDate) (result : SyncStatus)
      (tenantId : String)

abbrev ScanStmt.Ret : ScanStmt → Type
  | .dateNow => Time
  | .deviceFindFirst .. => Option ScannerDevice
  | .deviceUpdate .. => Unit
  | .ticketFindUnique _ => Option Ticket
  | .showFindUnique _ => Option Show
  | .ticketUpdateMany .. => Nat
  | .ticketUpdate .. => Unit
  | .scanLogFindFirst .. => Option TicketScanLog
  | .offlineScanFindFirst .. => Option OfflineScan
  | .scanLogCreate .. => Unit
  | .offlineScanCreate .. => Unit

inductive ScanWrite where
  | seen (deviceId : String) (lastSeenAt : Time)
  | use (ticketId : String) (scannedAt : Time) (scannedBy : String)
  | scanLog (row : TicketScanLog)
  | offlineScan (row : OfflineScan)

/-- The rows that are locked. -/
inductive ScanKey where
  | device (id : String)
  | ticket (id : String)
deriving Repr, DecidableEq

def ScanWrite.keys : ScanWrite → List ScanKey
  | .seen id _ => [.device id]
  | .use id .. => [.ticket id]
  | .scanLog _ => []
  | .offlineScan _ => []

def ScanWrite.apply : ScanWrite → Door → Door
  | .seen id at_, d =>
      { d with scannerDevices := d.scannerDevices.map fun v =>
          if v.id = id then { v with lastSeenAt := some at_ } else v }
  | .use id at_ by_, d => { d with tickets := d.tickets.use id at_ by_ }
  | .scanLog row, d => { d with ticketScanLogs := d.ticketScanLogs ++ [row] }
  | .offlineScan row, d => { d with offlineScanQueue := d.offlineScanQueue ++ [row] }

def ScanStmt.exec (d : Door) : (q : ScanStmt) → Except StepError q.Ret × List ScanWrite
  | .dateNow => (.ok d.clock, [])
  | .deviceFindFirst id tenantId =>
      (.ok (d.scannerDevices.find? fun v => v.id == id && v.tenantId == tenantId && v.isActive), [])
  | .deviceUpdate id lastSeenAt =>
      if d.scannerDevices.any (·.id == id) then (.ok (), [.seen id lastSeenAt])
      else (.error (.prisma "P2025"), [])
  | .ticketFindUnique qrHash => (.ok (d.tickets.rows.find? (·.qrHash == qrHash)), [])
  | .showFindUnique id => (.ok (d.shows.find? (·.id == id)), [])
  | .ticketUpdateMany id scannedAt scannedBy =>
      if d.tickets.rows.any fun t => t.id == id && t.status == .ACTIVE then
        (.ok 1, [.use id scannedAt scannedBy])
      else (.ok 0, [])
  | .ticketUpdate _ none _ => (.error .prismaValidation, [])
  | .ticketUpdate id (some scannedAt) scannedBy =>
      if d.tickets.rows.any (·.id == id) then (.ok (), [.use id scannedAt scannedBy])
      else (.error (.prisma "P2025"), [])
  | .scanLogFindFirst _ _ none => (.error .prismaValidation, [])
  | .scanLogFindFirst ticketId deviceId (some t) =>
      (.ok (d.ticketScanLogs.find? fun l =>
        l.ticketId == ticketId && l.deviceId == some deviceId && l.createdAt == t), [])
  | .offlineScanFindFirst _ _ none => (.error .prismaValidation, [])
  | .offlineScanFindFirst ticketId deviceId (some t) =>
      (.ok (d.offlineScanQueue.find? fun l =>
        l.ticketId == ticketId && l.deviceId == deviceId && l.scannedAt == t), [])
  | .scanLogCreate ticketId scannedBy deviceId scanSource result tenantId createdAt =>
      (.ok (), [.scanLog { ticketId, scannedBy, deviceId, scanSource, result, tenantId,
                           createdAt := createdAt.getD d.clock }])
  | .offlineScanCreate _ _ none _ _ => (.error .prismaValidation, [])
  | .offlineScanCreate ticketId deviceId (some scannedAt) result tenantId =>
      (.ok (), [.offlineScan { ticketId, deviceId, scannedAt, synced := true, result, tenantId }])

def ScanStmt.inProcess : ScanStmt → Bool
  | .dateNow => true
  | _ => false

/-- The oracle of a step says whether its request or its answer is lost. -/
def doorDb : Database ScanStmt Door ScanWrite ScanKey (Option Loss) StepError where
  Ans := ScanStmt.Ret
  exec q _ d := q.exec d
  apply := ScanWrite.apply
  keys := ScanWrite.keys
  loss := id
  inProcess := ScanStmt.inProcess
  gone := .unavailable

/-! ## Tokens -/

structure QRPayload where
  t : String
  s : String
  exp : Int
deriving Repr, DecidableEq

/-- The configuration, and what comes from Node's `crypto`, `Buffer`, `JSON`
and `Date`. -/
structure DoorPlatform where
  /-- `QR_SECRET` -/
  qrSecret : Option String
  /-- `createHmac('sha256', secret).update(text).digest('hex')` -/
  hmacSha256Hex : String → String → String
  /-- `createHash('sha256').update(text).digest('hex')` -/
  sha256Hex : String → String
  /-- `JSON.parse` of the decoded base64 text, unless one of them throws -/
  parsePayload : String → Option QRPayload
  /-- `new Date(text)` -/
  newDate : String → JsDate

namespace DoorPlatform

def secret (P : DoorPlatform) : String :=
  match P.qrSecret with
  | some s => if s = "" then "dev_secret_unsecure_override" else s
  | none => "dev_secret_unsecure_override"

/-- `QrUtil.hashToken` -/
def hashToken (P : DoorPlatform) (rawToken : String) : String := P.sha256Hex rawToken

/-- `QrUtil.validateToken`: the payload of a valid token. -/
def validateToken (P : DoorPlatform) (token : String) : Option QRPayload :=
  if token = "" then none
  else
    match (token.toList.splitOn '.').map String.ofList with
    | [version, base64Payload, incomingSignature] =>
        if version ≠ "v1" then none
        else
          let expectedSignature := P.hmacSha256Hex P.secret base64Payload
          if expectedSignature.utf8ByteSize ≠ incomingSignature.utf8ByteSize then none
          else if expectedSignature ≠ incomingSignature then none
          else
            match P.parsePayload base64Payload with
            | none => none
            | some payload =>
                if payload.t = "" ∨ payload.s = "" ∨ payload.exp = 0 then none else some payload
    | _ => none

end DoorPlatform

/-! ## The services -/

inductive ScanExn where
  | badRequest (message : String)
  | unauthorized (message : String)
  | step (e : StepError)
deriving Repr, DecidableEq

abbrev ScanM := Prog doorDb.sig ScanExn

/-- `await` of a statement, by itself or in a transaction. -/
def ask (tx : Option Nat) (q : ScanStmt) : ScanM q.Ret := doorDb.query ScanExn.step tx q

structure ScanAnswer where
  status : ScanStatus
  seat : Option String
  showId : Option String
  scannedAt : Time
deriving Repr, DecidableEq

def GRACE_PERIOD_MS : Int := 30 * 60 * 1000

def EARLY_ENTRY_WINDOW_MS : Int := 2 * 60 * 60 * 1000

section ScanTicket

variable (P : DoorPlatform) (qrToken scannerUserId scannerTenantId : String)
  (deviceId : Option String) (scanSource : ScanSource)

/-- Every outcome is logged before it is answered. -/
def finalizeScan (seatNumber showId : Option String) (status : ScanStatus)
    (extractedTicketId : Option String) : ScanM ScanAnswer := do
  let ticketId := match extractedTicketId with
    | some id => if id = "" then "UNKNOWN_OR_TAMPERED" else id
    | none => "UNKNOWN_OR_TAMPERED"
  ask none (.scanLogCreate ticketId scannerUserId deviceId scanSource (.inl status)
    scannerTenantId none)
  let scannedAt ← ask none .dateNow
  return { status, seat := seatNumber, showId, scannedAt }

/-- An outcome for a ticket that has been found. -/
def finalizeFound (payload : QRPayload) (ticket : Ticket) (status : ScanStatus) :
    ScanM ScanAnswer :=
  finalizeScan scannerUserId scannerTenantId deviceId scanSource (some ticket.seatNumber)
    (some payload.s) status (some payload.t)

/-- The usage state the ticket was read in, and its conditional update. -/
def claim (payload : QRPayload) (ticket : Ticket) : ScanM ScanAnswer :=
  let finalize := finalizeFound scannerUserId scannerTenantId deviceId scanSource payload ticket
  match ticket.status with
  | .USED => finalize .ALREADY_USED
  | .other _ => finalize .INVALID
  | .ACTIVE => do
      let scannedAt ← ask none .dateNow
      let count ← ask none (.ticketUpdateMany ticket.id scannedAt scannerUserId)
      if count = 0 then finalize .ALREADY_USED else finalize .SUCCESS

/-- The tests of a ticket that has been found. -/
def admitTicket (payload : QRPayload) (ticket : Ticket) : ScanM ScanAnswer := do
  let finalize := finalizeFound scannerUserId scannerTenantId deviceId scanSource payload ticket
  if ticket.tenantId ≠ scannerTenantId then finalize .WRONG_TENANT
  else
    let now ← ask none .dateNow
    if now / 1000 > payload.exp then finalize .EXPIRED
    else
      match ← ask none (.showFindUnique ticket.showId) with
      | none => claim scannerUserId scannerTenantId deviceId scanSource payload ticket
      | some show_ => do
          let nowMs ← ask none .dateNow
          if nowMs > show_.startTime + GRACE_PERIOD_MS then finalize .EXPIRED
          else if nowMs < show_.startTime - EARLY_ENTRY_WINDOW_MS then finalize .NOT_OPEN_YET
          else claim scannerUserId scannerTenantId deviceId scanSource payload ticket

/-- What follows the check of the device. -/
def scanToken : ScanM ScanAnswer :=
  match P.validateToken qrToken with
  | none => finalizeScan scannerUserId scannerTenantId deviceId scanSource none none .INVALID none
  | some payload => do
      match ← ask none (.ticketFindUnique (P.hashToken qrToken)) with
      | none =>
          finalizeScan scannerUserId scannerTenantId deviceId scanSource none (some payload.s)
            .INVALID (some payload.t)
      | some ticket => admitTicket scannerUserId scannerTenantId deviceId scanSource payload ticket

/-- `TicketsService.scanTicket` -/
def scanTicket : ScanM ScanAnswer :=
  match scanSource, deviceId with
  | .DEVICE, some id =>
      if id = "" then scanToken P qrToken scannerUserId scannerTenantId deviceId scanSource
      else do
        match ← ask none (.deviceFindFirst id scannerTenantId) with
        | none =>
            finalizeScan scannerUserId scannerTenantId deviceId scanSource none none .INVALID none
        | some _ => do
            let lastSeenAt ← ask none .dateNow
            ask none (.deviceUpdate id lastSeenAt)
            scanToken P qrToken scannerUserId scannerTenantId deviceId scanSource
  | _, _ => scanToken P qrToken scannerUserId scannerTenantId deviceId scanSource

end ScanTicket

structure OfflineScanDto where
  qrToken : String
  scannedAt : String
deriving Repr, DecidableEq

/-- `message` is that of the error. -/
structure SyncResult where
  qrToken : String
  status : SyncStatus
  message : Option ScanExn := none
deriving Repr, DecidableEq

section SyncOfflineScans

variable (P : DoorPlatform) (deviceId tenantId : String)

/-- The records of a scan, in its transaction. -/
def logScan (tx : Nat) (ticket : Ticket) (scannedAtDate : JsDate) (finalStatus : SyncStatus)
    (qrToken : String) : ScanM SyncResult := do
  ask (some tx) (.offlineScanCreate ticket.id deviceId scannedAtDate finalStatus tenantId)
  ask (some tx) (.scanLogCreate ticket.id deviceId (some deviceId) .DEVICE (.inr finalStatus)
    tenantId scannedAtDate)
  return { qrToken, status := finalStatus }

/-- The body of the transaction of one scan. -/
def syncScan (scan : OfflineScanDto) (tx : Nat) : ScanM SyncResult := do
  let scannedAtDate := P.newDate scan.scannedAt
  match P.validateToken scan.qrToken with
  | none => return { qrToken := scan.qrToken, status := .INVALID }
  | some payload => do
      let existingLog ← ask (some tx) (.scanLogFindFirst payload.t deviceId scannedAtDate)
      if existingLog.isSome then
        return { qrToken := scan.qrToken, status := .DUPLICATE_IGNORED }
      else
        let existingQueue ← ask (some tx) (.offlineScanFindFirst payload.t deviceId scannedAtDate)
        if existingQueue.isSome then
          return { qrToken := scan.qrToken, status := .DUPLICATE_IGNORED }
        else
          match ← ask (some tx) (.ticketFindUnique (P.hashToken scan.qrToken)) with
          | none => return { qrToken := scan.qrToken, status := .INVALID }
          | some ticket =>
              if ticket.tenantId ≠ tenantId then
                return { qrToken := scan.qrToken, status := .WRONG_TENANT }
              else
                match ticket.status with
                | .USED =>
                    logScan deviceId tenantId tx ticket scannedAtDate .CONFLICT_ALREADY_USED
                      scan.qrToken
                | .other _ => logScan deviceId tenantId tx ticket scannedAtDate .INVALID scan.qrToken
                | .ACTIVE => do
                    -- by id: whatever the status is by now
                    ask (some tx) (.ticketUpdate ticket.id scannedAtDate deviceId)
                    logScan deviceId tenantId tx ticket scannedAtDate .SUCCESS scan.qrToken

/-- A scan whose transaction fails is reported as an error. -/
def syncOne (scan : OfflineScanDto) : ScanM SyncResult := do
  match ← (doorDb.transaction ScanExn.step (syncScan P deviceId tenantId scan)).attempt with
  | .ok result => return result
  | .error e => return { qrToken := scan.qrToken, status := .ERROR, message := some e }

/-- `DevicesService.syncOfflineScans` -/
def syncOfflineScans (scans : List OfflineScanDto) : ScanM (List SyncResult) := do
  if scans.length > 500 then
    throw (.badRequest "Batch size exceeds maximum limit of 500")
  else
    match ← ask none (.deviceFindFirst deviceId tenantId) with
    | none => throw (.unauthorized "Device inactive or unauthorized")
    | some _ => do
        let lastSeenAt ← ask none .dateNow
        ask none (.deviceUpdate deviceId lastSeenAt)
        scans.mapM (syncOne P deviceId tenantId)

end SyncOfflineScans

/-! ## The system -/

inductive ScanOp where
  | scanTicket (qrToken scannerUserId scannerTenantId : String) (deviceId : Option String)
      (scanSource : ScanSource)
  | syncOfflineScans (deviceId tenantId : String) (scans : List OfflineScanDto)

inductive ScanReply where
  | scanTicket (answer : ScanAnswer)
  | syncOfflineScans (results : List SyncResult)
deriving DecidableEq

def ScanOp.body (P : DoorPlatform) : ScanOp → ScanM ScanReply
  | .scanTicket qrToken userId tenantId deviceId source =>
      ScanReply.scanTicket <$> Scans.scanTicket P qrToken userId tenantId deviceId source
  | .syncOfflineScans deviceId tenantId scans =>
      ScanReply.syncOfflineScans <$> Scans.syncOfflineScans P deviceId tenantId scans

abbrev DoorStore := Store Door ScanWrite
abbrev DoorSystem :=
  System doorDb.sig DoorStore (Option Loss) (DbEnv Nat) ScanExn ScanReply ScanOp
abbrev DoorSnap := Snap doorDb.sig DoorStore (Option Loss) ScanOp
abbrev DoorEvent := Conc.Event doorDb.sig DoorStore (Option Loss) ScanOp
abbrev DoorConfig := Config doorDb.sig DoorStore (Option Loss) ScanExn ScanReply ScanOp
abbrev DoorLabel := Label (Option Loss) (DbEnv Nat) ScanOp
abbrev DoorOutline := Outline doorDb.sig DoorStore (Option Loss) ScanOp

/-- Any number of calls, while time goes on and transactions may be given up. -/
abbrev door (P : DoorPlatform) : DoorSystem :=
  doorDb.system (fun (t : Nat) d => { d with clock := d.clock + t }) (ScanOp.body P)

/-- The tokens whose scans an ended call has answered with SUCCESS. -/
def admitted : ScanOp → ScanReply → List String
  | .scanTicket qrToken .., .scanTicket answer =>
      if answer.status = .SUCCESS then [qrToken] else []
  | .syncOfflineScans .., .syncOfflineScans results =>
      (results.filter (·.status = .SUCCESS)).map (·.qrToken)
  | _, _ => []

def tokensAdmitted (th : Thread doorDb.sig ScanExn ScanReply ScanOp) : List String :=
  match th.prog with
  | .ret reply => admitted th.op reply
  | _ => []

/-- How often a ticket has been admitted: how many calls have ended in answers that let a
token of this hash in. -/
def admissions (P : DoorPlatform) (cfg : DoorConfig) (qrHash : String) : Nat :=
  (cfg.threads.flatMap tokensAdmitted).countP (P.hashToken · == qrHash)

end Omnipax.Scans
