import Omnipax.Devices
import Omnipax.ScanAdmission

/-!
# Who is given a token

A token is given to a call that has read the device while it was active and has
presented a key that fits the hash in its row. The row's tenant and hash never
change, so the token names the tenant the device was registered for, and the key
is one that passes for the key that was handed out then. Only a call in the name
of that tenant takes the authorization away.
-/

namespace Omnipax.Devices

open Conc Database Prog Scans

variable {P : DevicePlatform} {i : Nat} {op : DeviceOp} {s : DeviceSnap} {d : DeviceData}
  {id tenantId : String} {v : Device}

/-! ## Rows -/

theorem device?_eq_some : d.device? id = some v ↔
    d.door.scannerDevices.find? (·.id == id) = some v.toScannerDevice ∧
      ∃ c, d.credentials.find? (·.deviceId == id) = some c ∧ c.name = v.name ∧
        c.deviceKey = v.deviceKey := by
  unfold DeviceData.device?
  cases d.door.scannerDevices.find? (·.id == id) with
  | none => simp
  | some row =>
      cases d.credentials.find? (·.deviceId == id) with
      | none => simp
      | some c =>
          constructor
          · intro h
            obtain rfl := Option.some.inj h
            exact ⟨rfl, c, rfl, rfl, rfl⟩
          · rintro ⟨hrow, c', hc, hname, hkey⟩
            obtain rfl := Option.some.inj hrow
            obtain rfl := Option.some.inj hc
            cases v
            subst hname hkey
            rfl

theorem id_of_device? (h : d.device? id = some v) : v.id = id :=
  eq_of_beq (List.find?_some (device?_eq_some.mp h).1 : _)

theorem find?_update {f : ScannerDevice → ScannerDevice} (hid : ∀ v, (f v).id = v.id)
    (l : List ScannerDevice) :
    (l.map f).find? (·.id == id) = (l.find? (·.id == id)).map f := by
  rw [List.find?_map]
  congr 2
  funext v
  simp [hid]

/-- What a write leaves of a row: its tenant and its hash, and whether it is
active unless that is what is written. -/
theorem device?_apply (h : d.device? id = some v) (w : DeviceWrite) :
    ∃ v', (w.apply d).device? id = some v' ∧ v'.tenantId = v.tenantId ∧
      v'.deviceKey = v.deviceKey ∧ (w ≠ .deactivate id → v'.isActive = v.isActive) := by
  obtain ⟨hrow, c, hc, hname, hkey⟩ := device?_eq_some.mp h
  have hupdate {f : ScannerDevice → ScannerDevice} (hid : ∀ v, (f v).id = v.id) :
      (d.door.scannerDevices.map f).find? (·.id == id) = some (f v.toScannerDevice) := by
    rw [find?_update hid, hrow, Option.map_some]
  have hv : v.id = id := id_of_device? h
  cases w with
  | scan w =>
      cases w with
      | seen id' at_ =>
          refine ⟨{ v with toScannerDevice := if v.id = id' then
            { v.toScannerDevice with lastSeenAt := some at_ } else v.toScannerDevice },
            device?_eq_some.mpr ⟨hupdate fun v => by split <;> rfl, c, hc, hname, hkey⟩, ?_⟩
          split <;> exact ⟨rfl, rfl, fun _ => rfl⟩
      | use _ _ _ => exact ⟨v, h, rfl, rfl, fun _ => rfl⟩
      | scanLog _ => exact ⟨v, h, rfl, rfl, fun _ => rfl⟩
      | offlineScan _ => exact ⟨v, h, rfl, rfl, fun _ => rfl⟩
  | create row =>
      refine ⟨v, device?_eq_some.mpr ⟨?_, c, ?_, hname, hkey⟩, rfl, rfl, fun _ => rfl⟩
      · exact (List.find?_append ..).trans (by rw [hrow]; rfl)
      · exact (List.find?_append ..).trans (by rw [hc]; rfl)
  | deactivate id' =>
      refine ⟨{ v with toScannerDevice := deactivated id' v.toScannerDevice },
        device?_eq_some.mpr ⟨hupdate (deactivated_id id'), c, hc, hname, hkey⟩, ?_⟩
      unfold deactivated
      by_cases hid : v.id = id'
      · rw [if_pos hid]
        exact ⟨rfl, rfl, fun hne => absurd (by rw [← hid, hv]) hne⟩
      · rw [if_neg hid]
        exact ⟨rfl, rfl, fun _ => rfl⟩

/-- The row that has this id belongs to the tenant and holds the hash. Nothing in the
services changes either of them later. -/
def Registered (id tenantId deviceKey : String) (d : DeviceData) : Prop :=
  ∃ v, d.device? id = some v ∧ v.tenantId = tenantId ∧ v.deviceKey = deviceKey

theorem registered_persistent (id tenantId deviceKey : String) :
    Persistent (devices P) fun s => Registered id tenantId deviceKey s.world.data where
  exec {s} h i op c o := by
    show Registered id tenantId deviceKey (deviceDb.step c o s.world).2.data
    refine data_of_forall (fun w d hd => ?_) c o h
    obtain ⟨v, hv, rfl, rfl⟩ := hd
    obtain ⟨v', hv', htenant, hkey, -⟩ := device?_apply hv w
    exact ⟨v', hv', htenant, hkey⟩
  env {s} h e := by cases e <;> exact h

theorem Registered.unique {tenantId' deviceKey deviceKey' : String}
    (h : Registered id tenantId deviceKey d) (h' : Registered id tenantId' deviceKey' d) :
    tenantId = tenantId' ∧ deviceKey = deviceKey' := by
  obtain ⟨v, hv, rfl, rfl⟩ := h
  obtain ⟨v', hv', rfl, rfl⟩ := h'
  obtain rfl := Option.some.inj (hv.symm.trans hv')
  exact ⟨rfl, rfl⟩

def Active (id : String) (d : DeviceData) : Prop := ∃ v, d.device? id = some v ∧ v.isActive = true

theorem active_applyAll {ws : List DeviceWrite} (h : Active id d)
    (hws : ∀ w ∈ ws, w ≠ .deactivate id) : Active id (deviceDb.applyAll ws d) :=
  applyAll_of_forall (fun w hw d hd => by
    obtain ⟨v, hv, hactive⟩ := hd
    obtain ⟨v', hv', -, -, hsame⟩ := device?_apply hv w
    exact ⟨v', hv', (hsame (hws w hw)).trans hactive⟩) h

/-! ## The outline -/

/-- The call may deactivate the device: it has been made in the name of the
device's tenant. -/
def Entitled (id : String) (op : DeviceOp) (d : DeviceData) : Prop :=
  ∃ tenantId deviceKey, op = .deactivateDevice id tenantId ∧ Registered id tenantId deviceKey d

def after (e : DeviceEvent) : DeviceData := (deviceDb.step e.cmd e.oracle e.before).2.data

/-- If the event makes an active device inactive, its operation is a deactivation by the
tenant whose device it is. -/
def Deactivates (e : DeviceEvent) : Prop :=
  ∀ id, Active id e.before.data → ¬Active id (after e) → Entitled id e.op e.before.data

/-- What open transactions have written are writes of scans: to register or to switch off a
device is one write, outside any transaction. -/
def Quiet (w : DeviceStore) : Prop := WritesIn (fun w => ∃ w', w = .scan w') w

structure Managed (s : DeviceSnap) : Prop where
  quiet : Quiet s.world
  deactivates : ∀ e ∈ s.hist, Deactivates e

structure TokenPre (op : DeviceOp) (c : TxCmd DeviceStmt) (s : DeviceSnap) : Prop where
  scans : ∀ tx q, c = .stmt (some tx) q → ∃ q', q = .scan q'
  entitled : ∀ id, c = .stmt none (.deactivate id) → Entitled id op s.world.data

def tokenOutline : DeviceOutline where
  toDiscipline := Discipline.free deviceDb.sig DeviceStore DeviceOracle fun _ => True
  inv := Managed
  pre _ op c s := TokenPre op c s

theorem quiet_step {c : TxCmd DeviceStmt} {o : DeviceOracle} {w : DeviceStore} (h : Quiet w)
    (hc : ∀ tx q, c = .stmt (some tx) q → ∃ q', q = .scan q') :
    Quiet (deviceDb.step c o w).2 := by
  intro ss hss x hx
  obtain ⟨ss₀, hss₀, -, hx | ⟨q, rfl, -, hx⟩⟩ := mem_writes_of_step hss hx
  · exact h ss₀ hss₀ x hx
  · obtain ⟨q, rfl⟩ := hc _ q rfl
    obtain ⟨d, hx⟩ := mem_wants hx
    obtain ⟨x', -, rfl⟩ := List.mem_map.mp hx
    exact ⟨x', rfl⟩

theorem quiet_env {w : DeviceStore} (h : Quiet w) (e : DbEnv Nat) :
    Quiet ((devices P).env e w) := by
  cases e with
  | data t => exact h
  | abort tx => exact fun ss hss => h ss (List.mem_filter.mp hss).1

/-- **Step**: a device is deactivated by one statement only. -/
theorem deactivates_exec (h : Managed s) {c : TxCmd DeviceStmt} (o : DeviceOracle)
    (hpre : TokenPre op c s) : Deactivates ⟨i, op, c, o, s.world⟩ := by
  intro id hactive hnot
  refine by_contra fun hentitled => hnot ?_
  have hother : c ≠ .stmt none (.deactivate id) := fun hc => hentitled (hpre.entitled id hc)
  show Active id (deviceDb.step c o s.world).2.data
  rcases step_data deviceDb c o s.world with hd | ⟨q, rfl, -, hd⟩ | ⟨ss, rfl, hss, -, hd⟩ <;> rw [hd]
  · exact hactive
  · refine active_applyAll hactive fun w hw => ?_
    rcases writes_exec hw with ⟨_, _, -, rfl⟩ | ⟨_, rfl, -⟩ | ⟨id', rfl, rfl⟩
    · exact nofun
    · exact nofun
    · rintro ⟨⟩
      exact hother rfl
  · refine active_applyAll hactive fun w hw => ?_
    rintro rfl
    obtain ⟨_, hw⟩ := h.quiet ss hss _ hw
    cases hw

theorem managed_exec (h : Managed s) {c : TxCmd DeviceStmt} (o : DeviceOracle)
    (hpre : TokenPre op c s) : Managed (s.exec (devices P) i op c o) where
  quiet := quiet_step h.quiet hpre.scans
  deactivates := by
    intro e he
    rcases List.mem_cons.mp he with rfl | he
    · exact deactivates_exec h o hpre
    · exact h.deactivates e he

theorem managed_env (h : Managed s) (e : DbEnv Nat) : Managed (s.env (devices P) e) :=
  ⟨quiet_env (P := P) h.quiet e, h.deactivates⟩

/-! ## The calls -/

/-- The `findUnique` of the device, while it is active. -/
def ReadsActive (id : String) (e : DeviceEvent) : Prop :=
  e.cmd = .stmt none (.findUnique id) ∧ Active id e.before.data

/-- The call has read the device while it was active, whatever has become of the device
since. -/
def ReadActive (i : Nat) (id : String) (s : DeviceSnap) : Prop := Seen i (ReadsActive id) s

/-- What a result says of its device. -/
def Handed (P : DevicePlatform) (i : Nat) : DeviceOp → DeviceReply → DeviceSnap → Prop
  | .registerDevice _ tenantId, .registered r, s =>
      r.tenantId = tenantId ∧
        ∃ salt, Registered r.deviceId tenantId (P.bcryptHash salt r.deviceKey) s.world.data
  | .authenticateDevice deviceId rawKey, .authenticated session, s =>
      ∃ tenantId deviceKey, Registered deviceId tenantId deviceKey s.world.data ∧
        P.bcryptCompare rawKey deviceKey = true ∧
        (∃ issuedAt, session.accessToken =
          P.sign ⟨deviceId, tenantId, "SCANNER_DEVICE"⟩ issuedAt) ∧
        ReadActive i deviceId s
  | _, _, _ => True

theorem tokenPre_of_scan {c : TxCmd DeviceStmt} (h : Stmts (fun q => ∃ q', q = .scan q') c) :
    TokenPre op c s where
  scans := by
    rintro tx q rfl
    exact h
  entitled := by
    rintro id rfl
    obtain ⟨_, h⟩ := h
    cases h

theorem tokenPre_none {q : DeviceStmt} (h : ∀ id, q ≠ .deactivate id) :
    TokenPre op (.stmt none q) s where
  scans := nofun
  entitled := by
    rintro id ⟨⟩
    exact absurd rfl (h id)

theorem registered_create {name deviceKey : String} {o : DeviceOracle} {row : Device}
    (hok : (deviceDb.step (.stmt none (.create name deviceKey tenantId)) o s.world).1 = .ok row) :
    row.tenantId = tenantId ∧ Registered row.id tenantId deviceKey
      (deviceDb.step (.stmt none (.create name deviceKey tenantId)) o s.world).2.data := by
  obtain ⟨hexec, hdata⟩ := query_ok hok
  rw [hdata]
  have hexec : (DeviceStmt.exec o s.world.data (.create name deviceKey tenantId)).1 = .ok row := hexec
  show row.tenantId = tenantId ∧ Registered row.id tenantId deviceKey (deviceDb.applyAll
    (DeviceStmt.exec o s.world.data (.create name deviceKey tenantId)).2 s.world.data)
  simp only [DeviceStmt.exec] at hexec ⊢
  split at hexec
  · cases hexec
  · rename_i hnew
    obtain rfl := Except.ok.inj hexec
    rw [if_neg hnew]
    rw [Bool.or_eq_true, not_or] at hnew
    have hrows : ∀ v ∈ s.world.data.door.scannerDevices, v.id ≠ o.cuid := by simpa using hnew.1
    have hcreds : ∀ c ∈ s.world.data.credentials, c.deviceId ≠ o.cuid := by
      intro c hc hid
      have hmem : c.deviceId ∈ s.world.data.credentials.map (·.deviceId) := List.mem_map_of_mem hc
      rw [s.world.data.rows] at hmem
      obtain ⟨v, hv, hvid⟩ := List.mem_map.mp hmem
      exact hrows v hv (hvid.trans hid)
    refine ⟨rfl, { id := o.cuid, isActive := true, tenantId, lastSeenAt := none, name, deviceKey },
      device?_eq_some.mpr ⟨?_, ⟨o.cuid, name, deviceKey⟩, ?_, rfl, rfl⟩, rfl, rfl⟩
    · refine (List.find?_append ..).trans ?_
      rw [List.find?_eq_none.mpr fun v hv => by simpa using hrows v hv]
      simp
    · refine (List.find?_append ..).trans ?_
      rw [List.find?_eq_none.mpr fun c hc => by simpa using hcreds c hc]
      simp

/-- A statement, of a call that knows `G` for good. -/
theorem wp_ask {α : Type} {q : DeviceStmt} {f : q.Ret → DeviceM α} {Q : α → DeviceSnap → Prop}
    {G : DeviceSnap → Prop} (hG : Persistent (devices P) G) (hs : G s)
    (hq : ∀ s, G s → TokenPre op (.stmt none q) s)
    (hok : ∀ s o a, G s → (deviceDb.step (.stmt none q) o s.world).1 = .ok a →
      (f a).wp (devices P) tokenOutline i op Q (fun _ _ => True)
        (s.exec (devices P) i op (.stmt none q) o)) :
    (ask q >>= f).wp (devices P) tokenOutline i op Q (fun _ _ => True) s :=
  wp_query hG.stable hs persistent_true (fun _ _ => trivial) (fun s _ => hq s)
    fun s o a _ hs _ hok' _ => hok s o a hs hok'

theorem wp_registerDevice {name : String} :
    (registerDevice P name tenantId).wp (devices P) tokenOutline i op
      (fun r s => r.tenantId = tenantId ∧
        ∃ salt, Registered r.deviceId tenantId (P.bcryptHash salt r.deviceKey) s.world.data)
      (fun _ _ => True) s := by
  refine wp_ask persistent_true trivial (fun _ _ => tokenPre_none nofun) fun s o rawKey _ _ => ?_
  refine wp_ask persistent_true trivial (fun _ _ => tokenPre_none nofun) fun s o salt _ _ => ?_
  refine wp_ask persistent_true trivial (fun _ _ => tokenPre_none nofun) fun s o row _ hok => ?_
  obtain ⟨htenant, hrow⟩ := registered_create hok
  exact wp_ret (registered_persistent ..).stable hrow fun _ _ h => ⟨htenant, salt, h⟩

theorem wp_authenticateDevice {deviceId rawKey : String} :
    (authenticateDevice P deviceId rawKey).wp (devices P) tokenOutline i op
      (fun session s => Handed P i (.authenticateDevice deviceId rawKey) (.authenticated session) s)
      (fun _ _ => True) s := by
  refine wp_ask persistent_true trivial (fun _ _ => tokenPre_none nofun) fun s o found _ hok => ?_
  cases found with
  | none => exact fun _ _ _ => trivial
  | some v =>
      obtain ⟨hfound, -⟩ := query_ok hok
      have hfound : s.world.data.device? deviceId = some v := Except.ok.inj hfound
      dsimp only
      split
      · exact fun _ _ _ => trivial
      · rename_i hactive
        split
        · exact fun _ _ _ => trivial
        · rename_i hmatch
          have hG := (registered_persistent (P := P) deviceId v.tenantId v.deviceKey).and
            (seen_persistent i (ReadsActive deviceId))
          have hread : Registered deviceId v.tenantId v.deviceKey s.world.data ∧
              ReadActive i deviceId (s.exec (devices P) i op (.stmt none (.findUnique deviceId)) o) :=
            ⟨⟨v, hfound, rfl, rfl⟩, seen_exec ⟨rfl, v, hfound, by simpa using hactive⟩⟩
          refine wp_ask hG ⟨(registered_persistent ..).exec hread.1 .., hread.2⟩
            (fun _ _ => tokenPre_none nofun) fun s o _ hs _ => ?_
          refine wp_ask hG (hG.exec hs ..) (fun _ _ => tokenPre_none nofun) fun s o _ hs _ => ?_
          refine wp_ask hG (hG.exec hs ..) (fun _ _ => tokenPre_none nofun)
            fun s o issuedAt hs _ => ?_
          refine wp_ret hG.stable (hG.exec hs ..) fun _ _ h => ?_
          refine ⟨v.tenantId, v.deviceKey, h.1, by simpa using hmatch, ⟨issuedAt, ?_⟩, h.2⟩
          rw [id_of_device? hfound]

theorem wp_deactivateDevice (hop : op = .deactivateDevice id tenantId) :
    (deactivateDevice id tenantId).wp (devices P) tokenOutline i op (fun _ _ => True)
      (fun _ _ => True) s := by
  refine wp_ask persistent_true trivial (fun _ _ => tokenPre_none nofun) fun s o found _ hok => ?_
  cases found with
  | none => exact fun _ _ _ => trivial
  | some v =>
      obtain ⟨hfound, -⟩ := query_ok hok
      have hfound : (s.world.data.device? id).filter (·.tenantId == tenantId) = some v :=
        Except.ok.inj hfound
      obtain ⟨hfound, htenant⟩ := Option.filter_eq_some_iff.mp hfound
      have hrow : Registered id tenantId v.deviceKey s.world.data :=
        ⟨v, hfound, eq_of_beq htenant, rfl⟩
      have hG := registered_persistent (P := P) id tenantId v.deviceKey
      dsimp only
      rw [← bind_ret (ask _)]
      refine wp_ask hG (hG.exec hrow ..) (fun s hs => ⟨nofun, ?_⟩) fun _ _ _ _ _ => fine_ret
      rintro id ⟨⟩
      exact ⟨tenantId, _, hop, hs⟩

theorem tokenOutline_valid (P : DevicePlatform) :
    Outline.Valid (devices P) tokenOutline fun i op r s => Handed P i op r s where
  inv_exec h _ _ _ o _ hpre _ := managed_exec h o hpre
  inv_env h e := managed_env h e
  body := by
    intro i op s _ _ _
    cases op with
    | scan op =>
        refine wp_map _ (Prog.wp.mono (fine_of_all (all_embed (fun q => ⟨q, rfl⟩) _)
          fun c hc s _ => tokenPre_of_scan hc) (fun _ _ _ _ => trivial) fun _ _ _ h => h)
    | registerDevice name tenantId => exact wp_map _ wp_registerDevice
    | authenticateDevice deviceId rawKey => exact wp_map _ wp_authenticateDevice
    | deactivateDevice id tenantId =>
        exact wp_map _ ((wp_deactivateDevice rfl).mono (fun _ _ _ _ => trivial) fun _ _ _ h => h)

/-! ## Runs -/

theorem managed_idle (d : DeviceData) : Managed (⟨.idle d, []⟩ : DeviceSnap) :=
  ⟨fun _ h => absurd h List.not_mem_nil, fun _ h => absurd h List.not_mem_nil⟩

theorem good_run (P : DevicePlatform) (d : DeviceData) (ls : List DeviceLabel) :
    Outline.Good (devices P) tokenOutline (fun i op r s => Handed P i op r s)
      ((Config.idle (.idle d)).run (devices P) ls) :=
  Outline.sound (tokenOutline_valid P) (Outline.Good.idle (managed_idle d))
    (Discipline.admitsRun_free fun _ _ => trivial)

/-- **Tokens**: in every run, a call that has been given a token for a device read
it while it was active; the token names the tenant the device is registered for,
and where the device was registered in the run, its key passes for the one that
was handed out. Whoever makes an active device inactive does so in the name of
that tenant. -/
theorem tokens_run (P : DevicePlatform) (d : DeviceData) (ls : List DeviceLabel) :
    (∀ e ∈ ((Config.idle (.idle d)).run (devices P) ls).hist, Deactivates e) ∧
    ∀ (i : Nat) (deviceId rawKey : String) (session : DeviceSession),
      ((Config.idle (.idle d)).run (devices P) ls).threads[i]? =
        some ⟨.authenticateDevice deviceId rawKey, .ret (.authenticated session)⟩ →
      ReadActive i deviceId ((Config.idle (.idle d)).run (devices P) ls).toSnap ∧
      ∃ tenantId deviceKey,
        Registered deviceId tenantId deviceKey
          ((Config.idle (.idle d)).run (devices P) ls).world.data ∧
        P.bcryptCompare rawKey deviceKey = true ∧
        (∃ issuedAt, session.accessToken =
          P.sign ⟨deviceId, tenantId, "SCANNER_DEVICE"⟩ issuedAt) ∧
        ∀ (j : Nat) (name tenantId' : String) (r : Registration),
          ((Config.idle (.idle d)).run (devices P) ls).threads[j]? =
            some ⟨.registerDevice name tenantId', .ret (.registered r)⟩ → r.deviceId = deviceId →
          tenantId = tenantId' ∧ ∃ salt, deviceKey = P.bcryptHash salt r.deviceKey := by
  have hgood := good_run P d ls
  generalize (Config.idle (.idle d)).run (devices P) ls = cfg at hgood ⊢
  refine ⟨hgood.inv.deactivates, fun i deviceId rawKey session hi => ?_⟩
  obtain ⟨tenantId, deviceKey, hrow, hmatch, htoken, hread⟩ := hgood.result hi
  refine ⟨hread, tenantId, deviceKey, hrow, hmatch, htoken, fun j name tenantId' r hj hid => ?_⟩
  obtain ⟨-, salt, hrow'⟩ := hgood.result hj
  rw [hid] at hrow'
  obtain ⟨rfl, rfl⟩ := hrow.unique hrow'
  exact ⟨rfl, salt, rfl⟩

namespace Sample

/-- A hash is the salt with the key behind it. -/
def platform : DevicePlatform where
  toDoorPlatform := Scans.Sample.platform
  bcryptHash salt rawKey := salt ++ rawKey
  bcryptCompare rawKey deviceKey := deviceKey == "$2b$10$N9qo8uLOickgx2ZMRZoMye" ++ rawKey
  sign claims issuedAt := claims.deviceId ++ "@" ++ claims.tenantId ++ ":" ++ toString issuedAt

def oneDevice : DeviceData where
  door := Scans.Sample.atTheDoor
  credentials := [⟨"dev1", "Gate A", "$2b$10$N9qo8uLOickgx2ZMRZoMyeb2f4"⟩]
  rows := by decide

def deviceSteps (i n : Nat) : List DeviceLabel := List.replicate n (.step i {})

/-- A device is registered, and authenticates with the key it has been given. -/
def newDevice : List DeviceLabel :=
  [.spawn (.registerDevice "Gate B" "t1")] ++
    List.replicate 3 (.step 0 { cuid := "dev2", key := "9c1d", salt := "$2b$10$N9qo8uLOickgx2ZMRZoMye" })
    ++ [.spawn (.authenticateDevice "dev2" "9c1d")] ++ deviceSteps 1 4

end Sample

/-- The token names the tenant that the device was registered for. -/
theorem tokens_newDevice :
    ReadActive 1 "dev2" ((Config.idle (.idle Sample.oneDevice)).run (devices Sample.platform)
      Sample.newDevice).toSnap ∧
    ∃ salt, Registered "dev2" "t1" (Sample.platform.bcryptHash salt "9c1d")
        ((Config.idle (.idle Sample.oneDevice)).run (devices Sample.platform)
          Sample.newDevice).world.data ∧
      Sample.platform.bcryptCompare "9c1d" (Sample.platform.bcryptHash salt "9c1d") = true ∧
      ∃ issuedAt, "dev2@t1:3600000"
        = Sample.platform.sign ⟨"dev2", "t1", "SCANNER_DEVICE"⟩ issuedAt := by
  obtain ⟨hread, tenantId, deviceKey, hrow, hmatch, htoken, hhanded⟩ :=
    (tokens_run Sample.platform Sample.oneDevice Sample.newDevice).2 1 "dev2" "9c1d"
      ⟨"dev2@t1:3600000", 900⟩ rfl
  obtain ⟨rfl, salt, rfl⟩ := hhanded 0 "Gate B" "t1" ⟨"dev2", "9c1d", "Gate B", "t1"⟩ rfl rfl
  exact ⟨hread, salt, hrow, hmatch, htoken⟩

end Omnipax.Devices
