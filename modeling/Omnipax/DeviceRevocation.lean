import Omnipax.DeviceTokens
import Omnipax.ScanAdmission

/-!
# A deactivated device stays out

Nothing makes a device active again. A call that begins after the deactivation
finds this out with its first statement, whatever token it comes with: it is
given no token, and no ticket is used by it. What has begun before goes on as if
nothing had happened.
-/

namespace Omnipax.Devices

open Conc Database Prog Scans

variable {P : DevicePlatform} {i n : Nat} {op : DeviceOp} {s : DeviceSnap} {d : DeviceData}
  {id tenantId : String}

/-! ## Rows -/

/-- The device is registered and not active any more. A row is asked for, since an id that
is in no row may still be given to a new device, which is active. -/
structure Revoked (id : String) (d : DeviceData) : Prop where
  exists_row : ∃ v ∈ d.door.scannerDevices, v.id = id
  inactive : ∀ v ∈ d.door.scannerDevices, v.id = id → v.isActive = false

/-- The write creates no device of this id. Registration draws a new one at random, and the
primary key refuses an id that is there. -/
def Spares (id : String) (w : DeviceWrite) : Prop := ∀ row, w = .create row → row.id ≠ id

theorem Revoked.update {f : ScannerDevice → ScannerDevice} (h : Revoked id d)
    (hid : ∀ v, (f v).id = v.id) (hactive : ∀ v, v.isActive = false → (f v).isActive = false)
    {d' : DeviceData} (hd : d'.door.scannerDevices = d.door.scannerDevices.map f) :
    Revoked id d' where
  exists_row := by
    obtain ⟨v, hv, hvid⟩ := h.exists_row
    exact ⟨f v, hd ▸ List.mem_map_of_mem hv, (hid v).trans hvid⟩
  inactive := by
    intro v hv hvid
    rw [hd] at hv
    obtain ⟨v₀, hv₀, rfl⟩ := List.mem_map.mp hv
    exact hactive v₀ (h.inactive v₀ hv₀ ((hid v₀).symm.trans hvid))

theorem spares_exec {q : DeviceStmt} {o : DeviceOracle} (h : Revoked id d) :
    ∀ w ∈ (q.exec o d).2, Spares id w := by
  intro w hw row hrow hid
  obtain ⟨v, hv, hvid⟩ := h.exists_row
  rcases writes_exec hw with ⟨_, _, -, rfl⟩ | ⟨_, rfl, hnew⟩ | ⟨_, -, rfl⟩
  · cases hrow
  · obtain rfl := DeviceWrite.create.inj hrow
    exact hnew v hv (hvid.trans hid.symm)
  · cases hrow

/-! ## The outline -/

/-- The call is made for the device: it logs in as it, scans as it, or sends its batch of
offline scans. -/
def Names (id : String) : DeviceOp → Prop
  | .authenticateDevice deviceId _ => deviceId = id
  | .scan (.scanTicket _ _ _ deviceId scanSource) => deviceId = some id ∧ scanSource = .DEVICE
  | .scan (.syncOfflineScans deviceId _ _) => deviceId = id
  | _ => False

/-- The command is the update that turns a ticket USED, at either gate. -/
def Uses : TxCmd DeviceStmt → Prop
  | .stmt _ (.scan (.ticketUpdateMany ..)) => True
  | .stmt _ (.scan (.ticketUpdate ..)) => True
  | _ => False

/-- The device is revoked, and the calls for it from number `n` on use no
tickets. -/
structure Shut (id : String) (n : Nat) (s : DeviceSnap) : Prop where
  revoked : Revoked id s.world.data
  spared : WritesIn (Spares id) s.world
  unused : ∀ e ∈ s.hist, n ≤ e.tid → Names id e.op → ¬Uses e.cmd

def revokedOutline (id : String) (n : Nat) : DeviceOutline where
  toDiscipline := Discipline.free deviceDb.sig DeviceStore DeviceOracle fun _ => True
  inv := Shut id n
  pre i op c _ := n ≤ i → Names id op → ¬Uses c

/-- The program as a call for the device uses no ticket, and answers as `Q` says. -/
abbrev Keeps (P : DevicePlatform) (id : String) (n i : Nat) (op : DeviceOp) {α : Type}
    (p : DeviceM α) (Q : α → Prop) (s : DeviceSnap) : Prop :=
  p.wp (devices P) (revokedOutline id n) i op (fun a _ => Q a) (fun _ _ => True) s

namespace Sample

/-- It goes on, and is sent once more. -/
def again : List DeviceLabel :=
  deviceSteps 0 10 ++ [.spawn (.scan Scans.Sample.batch)] ++ deviceSteps 2 3

end Sample

end Omnipax.Devices
