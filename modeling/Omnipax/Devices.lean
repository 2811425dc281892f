import Omnipax.Conc.Embed
import Omnipax.Conc.Transcript
import Omnipax.Scans

/-!
# Scanner devices

A device is registered for a tenant with a key that is handed out once and kept
as a hash. With it the device authenticates and is given a token that names the
device and its tenant, until it is deactivated. The scans of a device look it up
again, so this module has them run beside the calls that manage devices.
-/

namespace Omnipax.Devices

open Conc Database Scans

/-! ## The table -/

/-- The columns of a device that no scan reads. -/
structure Credential where
  deviceId : String
  name : String
  deviceKey : String
deriving Repr, DecidableEq

/-- A row as a whole. -/
structure Device extends ScannerDevice where
  name : String
  deviceKey : String
deriving Repr, DecidableEq

/-- The tables of the scans with the columns of the devices that a scan does not read, row
by row: their names and the hashes of their keys. -/
structure DeviceData where
  door : Door
  credentials : List Credential
  rows : credentials.map (·.deviceId) = door.scannerDevices.map (·.id)
deriving DecidableEq

namespace DeviceData

def device? (d : DeviceData) (id : String) : Option Device := do
  let v ← d.door.scannerDevices.find? (·.id == id)
  let c ← d.credentials.find? (·.deviceId == id)
  return { toScannerDevice := v, name := c.name, deviceKey := c.deviceKey }

end DeviceData

/-! ## Statements -/

inductive DeviceStmt where
  | scan (q : ScanStmt)
  /-- `crypto.randomBytes(32).toString('hex')` -/
  | randomKey
  /-- The salt of `bcrypt.hash`. -/
  | genSalt
  | create (name deviceKey tenantId : String)
  | findUnique (id : String)
  | findFirst (id tenantId : String)
  | deactivate (id : String)

abbrev DeviceStmt.Ret : DeviceStmt → Type
  | .scan q => q.Ret
  | .randomKey => String
  | .genSalt => String
  | .create .. => Device
  | .findUnique _ => Option Device
  | .findFirst .. => Option Device
  | .deactivate _ => Unit

inductive DeviceWrite where
  | scan (w : ScanWrite)
  | create (row : Device)
  | deactivate (id : String)

/-- What a write locks: a row, or a value of the unique index on `deviceKey`. -/
inductive DeviceLock where
  | row (key : ScanKey)
  | deviceKey (deviceKey : String)
deriving Repr, DecidableEq

def DeviceWrite.keys : DeviceWrite → List DeviceLock
  | .scan w => w.keys.map .row
  | .create row => [.row (.device row.id), .deviceKey row.deviceKey]
  | .deactivate id => [.row (.device id)]

theorem ids_update {f : ScannerDevice → ScannerDevice} (hid : ∀ v, (f v).id = v.id)
    (l : List ScannerDevice) : (l.map f).map (·.id) = l.map (·.id) := by
  rw [List.map_map]
  exact List.map_congr_left fun v _ => hid v

theorem ids_scan (w : ScanWrite) (d : Door) :
    (w.apply d).scannerDevices.map (·.id) = d.scannerDevices.map (·.id) := by
  cases w with
  | seen id at_ => exact ids_update (fun v => by split <;> rfl) _
  | _ => rfl

def deactivated (id : String) (v : ScannerDevice) : ScannerDevice :=
  if v.id = id then { v with isActive := false } else v

theorem deactivated_id (id : String) (v : ScannerDevice) : (deactivated id v).id = v.id := by
  unfold deactivated
  split <;> rfl

def DeviceWrite.apply : DeviceWrite → DeviceData → DeviceData
  | .scan w, d => { d with door := w.apply d.door, rows := d.rows.trans (ids_scan w d.door).symm }
  | .create row, d =>
      { door := { d.door with scannerDevices := d.door.scannerDevices ++ [row.toScannerDevice] }
        credentials := d.credentials ++ [⟨row.id, row.name, row.deviceKey⟩]
        rows := by rw [List.map_append, List.map_append, d.rows, List.map_singleton,
          List.map_singleton] }
  | .deactivate id, d =>
      { d with
        door := { d.door with scannerDevices := d.door.scannerDevices.map (deactivated id) }
        rows := d.rows.trans (ids_update (deactivated_id id) _).symm }

/-- Whether a request or its answer is lost, and what is drawn at random: the
identifier of a new row, a key and a salt. -/
structure DeviceOracle where
  loss : Option Loss := none
  cuid : String := ""
  key : String := ""
  salt : String := ""
deriving Repr, DecidableEq

def DeviceStmt.exec (o : DeviceOracle) (d : DeviceData) :
    (q : DeviceStmt) → Except StepError q.Ret × List DeviceWrite
  | .scan q => ((q.exec d.door).1, (q.exec d.door).2.map .scan)
  | .randomKey => (.ok o.key, [])
  | .genSalt => (.ok o.salt, [])
  | .create name deviceKey tenantId =>
      if d.door.scannerDevices.any (·.id == o.cuid) || d.credentials.any (·.deviceKey == deviceKey)
      then (.error (.prisma "P2002"), [])
      else
        let row : Device :=
          { id := o.cuid, isActive := true, tenantId, lastSeenAt := none, name, deviceKey }
        (.ok row, [.create row])
  | .findUnique id => (.ok (d.device? id), [])
  | .findFirst id tenantId => (.ok ((d.device? id).filter (·.tenantId == tenantId)), [])
  | .deactivate id =>
      if d.door.scannerDevices.any (·.id == id) then (.ok (), [.deactivate id])
      else (.error (.prisma "P2025"), [])

def DeviceStmt.inProcess : DeviceStmt → Bool
  | .scan q => q.inProcess
  | .randomKey => true
  | .genSalt => true
  | _ => false

def deviceDb : Database DeviceStmt DeviceData DeviceWrite DeviceLock DeviceOracle StepError where
  Ans := DeviceStmt.Ret
  exec q o d := q.exec o d
  apply := DeviceWrite.apply
  keys := DeviceWrite.keys
  loss := DeviceOracle.loss
  inProcess := DeviceStmt.inProcess
  gone := .unavailable

theorem writes_exec {q : DeviceStmt} {o : DeviceOracle} {d : DeviceData} {w : DeviceWrite}
    (hw : w ∈ (q.exec o d).2) : (∃ q' w', q = .scan q' ∧ w = .scan w') ∨
      (∃ row, w = .create row ∧ ∀ v ∈ d.door.scannerDevices, v.id ≠ row.id) ∨
      ∃ id, q = .deactivate id ∧ w = .deactivate id := by
  cases q with
  | scan q =>
      obtain ⟨w', -, rfl⟩ := List.mem_map.mp hw
      exact Or.inl ⟨q, w', rfl, rfl⟩
  | create name deviceKey tenantId =>
      simp only [DeviceStmt.exec] at hw
      split at hw
      · cases hw
      · rename_i hnew
        obtain rfl := List.mem_singleton.mp hw
        rw [Bool.or_eq_true, not_or] at hnew
        exact Or.inr (Or.inl ⟨_, rfl, by simpa using hnew.1⟩)
  | deactivate id =>
      simp only [DeviceStmt.exec] at hw
      split at hw
      · obtain rfl := List.mem_singleton.mp hw
        exact Or.inr (Or.inr ⟨id, rfl, rfl⟩)
      · cases hw
  | _ => cases hw

/-! ## The service -/

structure DeviceClaims where
  deviceId : String
  tenantId : String
  role : String
deriving Repr, DecidableEq

/-- The scans' platform, `bcrypt`, and the signature of the tokens. -/
structure DevicePlatform extends DoorPlatform where
  /-- The hash of a key with a salt. -/
  bcryptHash : String → String → String
  bcryptCompare : String → String → Bool
  /-- `JwtService.sign`: the claims, and when it is issued. -/
  sign : DeviceClaims → Time → String

inductive DeviceExn where
  | unauthorized (message : String)
  | notFound (message : String)
  | scan (e : ScanExn)
  | step (e : StepError)
deriving Repr, DecidableEq

abbrev DeviceM := Prog deviceDb.sig DeviceExn

def ask (q : DeviceStmt) : DeviceM q.Ret := deviceDb.query DeviceExn.step none q

structure Registration where
  deviceId : String
  deviceKey : String
  name : String
  tenantId : String
deriving Repr, DecidableEq

structure DeviceSession where
  accessToken : String
  expiresIn : Nat
deriving Repr, DecidableEq

def registerDevice (P : DevicePlatform) (name tenantId : String) : DeviceM Registration := do
  let rawKey ← ask .randomKey
  let salt ← ask .genSalt
  let device ← ask (.create name (P.bcryptHash salt rawKey) tenantId)
  return { deviceId := device.id, deviceKey := rawKey, name := device.name,
           tenantId := device.tenantId }

def authenticateDevice (P : DevicePlatform) (deviceId rawKey : String) :
    DeviceM DeviceSession := do
  match ← ask (.findUnique deviceId) with
  | none => throw (.unauthorized "Invalid device credentials")
  | some device =>
      if !device.isActive then throw (.unauthorized "Device is deactivated")
      else if !P.bcryptCompare rawKey device.deviceKey then
        throw (.unauthorized "Invalid device credentials")
      else do
        let lastSeenAt ← ask (.scan .dateNow)
        ask (.scan (.deviceUpdate deviceId lastSeenAt))
        let payload : DeviceClaims :=
          { deviceId := device.id, tenantId := device.tenantId, role := "SCANNER_DEVICE" }
        let issuedAt ← ask (.scan .dateNow)
        return { accessToken := P.sign payload issuedAt, expiresIn := 900 }

def deactivateDevice (id tenantId : String) : DeviceM Unit := do
  match ← ask (.findFirst id tenantId) with
  | none => throw (.notFound "Device not found")
  | some _ => ask (.deactivate id)

/-! ## The system -/

/-- A program of the scans, in this database. -/
abbrev ofScan {α : Type} (p : ScanM α) : DeviceM α :=
  embed DeviceStmt.scan (fun _ a => a) DeviceExn.scan p

inductive DeviceOp where
  | scan (op : ScanOp)
  | registerDevice (name tenantId : String)
  | authenticateDevice (deviceId rawKey : String)
  | deactivateDevice (id tenantId : String)

inductive DeviceReply where
  | scanned (reply : ScanReply)
  | registered (registration : Registration)
  | authenticated (session : DeviceSession)
  | deactivated
deriving DecidableEq

def DeviceOp.body (P : DevicePlatform) : DeviceOp → DeviceM DeviceReply
  | .scan op => .scanned <$> ofScan (op.body P.toDoorPlatform)
  | .registerDevice name tenantId => .registered <$> Devices.registerDevice P name tenantId
  | .authenticateDevice deviceId rawKey =>
      .authenticated <$> Devices.authenticateDevice P deviceId rawKey
  | .deactivateDevice id tenantId =>
      (fun _ => .deactivated) <$> Devices.deactivateDevice id tenantId

abbrev DeviceStore := Store DeviceData DeviceWrite
abbrev DeviceSnap := Snap deviceDb.sig DeviceStore DeviceOracle DeviceOp
abbrev DeviceEvent := Conc.Event deviceDb.sig DeviceStore DeviceOracle DeviceOp
abbrev DeviceLabel := Label DeviceOracle (DbEnv Nat) DeviceOp
abbrev DeviceOutline := Outline deviceDb.sig DeviceStore DeviceOracle DeviceOp

def tick (t : Nat) (d : DeviceData) : DeviceData :=
  { d with door := { d.door with clock := d.door.clock + t } }

/-- Any number of calls, while time goes on and transactions may be given up. -/
abbrev devices (P : DevicePlatform) :
    System deviceDb.sig DeviceStore DeviceOracle (DbEnv Nat) DeviceExn DeviceReply DeviceOp :=
  deviceDb.system tick (DeviceOp.body P)

end Omnipax.Devices
