import Omnipax.Conc.Undisturbed
import Omnipax.Scans

/-!
# A ticket is admitted once

`scanTicket` claims a ticket with an update that is conditional on its
status, so of the calls that read it ACTIVE one gets through. The update of
an offline scan is by id: a ticket that has been used since the scan read it
is admitted a second time. When no offline update reaches such a ticket, one
SUCCESS is answered for it, however the steps of all calls are interleaved.

Every SUCCESS is backed by an event of its call after which the ticket is
USED in the committed data and before which it is not (`claims`): the
conditional update of a scan, or the commit of an offline scan, whose lock
has kept the ticket ACTIVE since the update. A used ticket stays used, so
there is one such event.
-/

namespace Omnipax.Scans

open Conc Database Prog

/-! ## Tickets by their hash -/

/-- The ticket with this hash is used. -/
def used (qrHash : String) (d : Door) : Bool :=
  d.tickets.rows.any fun t => t.qrHash == qrHash && t.status == .USED

/-- The ticket with this id has this hash. -/
def Hashed (id qrHash : String) (d : Door) : Prop :=
  ∃ t ∈ d.tickets.rows, t.id = id ∧ t.qrHash = qrHash

def Unclaimed (id qrHash : String) (d : Door) : Prop :=
  ∃ t ∈ d.tickets.rows, t.id = id ∧ t.qrHash = qrHash ∧ t.status = .ACTIVE

section Door

variable {d : Door} {id qrHash : String}

theorem used_iff : used qrHash d = true ↔
    ∃ t ∈ d.tickets.rows, t.qrHash = qrHash ∧ t.status = .USED := by
  simp [used]

theorem rows_apply (w : ScanWrite) (d : Door) :
    ∃ f : Ticket → Ticket, (w.apply d).tickets.rows = d.tickets.rows.map f ∧
      ∀ t, (f t).id = t.id ∧ (f t).qrHash = t.qrHash ∧
        ((f t).status = t.status ∨ (f t).status = .USED ∧ ScanKey.ticket t.id ∈ w.keys) := by
  cases w with
  | use id at_ by_ =>
      refine ⟨_, rfl, fun t => ?_⟩
      split
      · rename_i hid
        exact ⟨rfl, rfl, Or.inr ⟨rfl, by simp [ScanWrite.keys, hid]⟩⟩
      · exact ⟨rfl, rfl, Or.inl rfl⟩
  | seen => exact ⟨fun t => t, (List.map_id' _).symm, fun t => ⟨rfl, rfl, Or.inl rfl⟩⟩
  | scanLog => exact ⟨fun t => t, (List.map_id' _).symm, fun t => ⟨rfl, rfl, Or.inl rfl⟩⟩
  | offlineScan => exact ⟨fun t => t, (List.map_id' _).symm, fun t => ⟨rfl, rfl, Or.inl rfl⟩⟩

theorem used_apply (w : ScanWrite) (h : used qrHash d = true) :
    used qrHash (w.apply d) = true := by
  obtain ⟨f, hrows, hf⟩ := rows_apply w d
  obtain ⟨t, ht, hhash, hused⟩ := used_iff.mp h
  obtain ⟨-, hhash', hstatus⟩ := hf t
  refine used_iff.mpr ⟨f t, by rw [hrows]; exact List.mem_map_of_mem ht, hhash'.trans hhash, ?_⟩
  rcases hstatus with hstatus | ⟨hstatus, -⟩
  · exact hstatus.trans hused
  · exact hstatus

theorem hashed_apply (w : ScanWrite) : Hashed id qrHash (w.apply d) ↔ Hashed id qrHash d := by
  obtain ⟨f, hrows, hf⟩ := rows_apply w d
  unfold Hashed
  rw [hrows]
  constructor
  · rintro ⟨_, hmem, hid, hhash⟩
    obtain ⟨t, ht, rfl⟩ := List.mem_map.mp hmem
    exact ⟨t, ht, (hf t).1.symm.trans hid, (hf t).2.1.symm.trans hhash⟩
  · rintro ⟨t, ht, hid, hhash⟩
    exact ⟨f t, List.mem_map_of_mem ht, (hf t).1.trans hid, (hf t).2.1.trans hhash⟩

theorem hashed_applyAll (ws : List ScanWrite) :
    Hashed id qrHash (doorDb.applyAll ws d) ↔ Hashed id qrHash d := by
  induction ws generalizing d with
  | nil => exact Iff.rfl
  | cons w ws ih => exact ih.trans (hashed_apply w)

theorem unclaimed_apply {w : ScanWrite} (hw : ScanKey.ticket id ∉ w.keys)
    (h : Unclaimed id qrHash d) : Unclaimed id qrHash (w.apply d) := by
  obtain ⟨f, hrows, hf⟩ := rows_apply w d
  obtain ⟨t, ht, rfl, hhash, hactive⟩ := h
  obtain ⟨hid, hhash', hstatus⟩ := hf t
  refine ⟨f t, by rw [hrows]; exact List.mem_map_of_mem ht, hid, hhash'.trans hhash, ?_⟩
  rcases hstatus with hstatus | ⟨-, hkey⟩
  · exact hstatus.trans hactive
  · exact absurd hkey hw

theorem Unclaimed.not_used (h : Unclaimed id qrHash d) : used qrHash d = false := by
  obtain ⟨t, ht, -, hhash, hactive⟩ := h
  rw [Bool.eq_false_iff]
  intro hused
  obtain ⟨t', ht', hhash', hused⟩ := used_iff.mp hused
  obtain rfl := List.inj_on_of_nodup_map d.tickets.hashes ht ht' (hhash.trans hhash'.symm)
  rw [hactive] at hused
  cases hused

theorem used_use (h : Hashed id qrHash d) (scannedAt : Time) (scannedBy : String) :
    used qrHash ((ScanWrite.use id scannedAt scannedBy).apply d) = true := by
  obtain ⟨t, ht, hid, hhash⟩ := h
  refine used_iff.mpr ⟨_, List.mem_map_of_mem ht, ?_⟩
  rw [if_pos hid]
  exact ⟨hhash, rfl⟩

theorem used_applyAll {ws : List ScanWrite} {scannedAt : Time} {scannedBy : String}
    (hw : .use id scannedAt scannedBy ∈ ws) (h : Hashed id qrHash d) :
    used qrHash (doorDb.applyAll ws d) = true := by
  induction ws generalizing d with
  | nil => cases hw
  | cons w ws ih =>
      rcases List.mem_cons.mp hw with rfl | hw
      · show used qrHash (doorDb.applyAll ws ((ScanWrite.use id scannedAt scannedBy).apply d)) = true
        exact applyAll_of_forall (I := fun d => used qrHash d = true) (fun w _ d => used_apply w)
          (used_use h scannedAt scannedBy)
      · exact ih hw ((hashed_apply w).mpr h)

end Door

/-! ## The outline -/

/-- The ticket an offline scan updates. -/
def offlineUpdate? : TxCmd ScanStmt → Option String
  | .stmt _ (.ticketUpdate id ..) => some id
  | _ => none

/-- A statement that would wait for a lock of another transaction is not executed meanwhile.
This is all that is relied on of PostgreSQL besides its commits. -/
def postgres : Discipline doorDb.sig DoorStore (Option Loss) ScanOp where
  starts _ := True
  allows _ _ c o s := doorDb.waits c o s.world = false

/-- The update of an offline scan reaches a ticket that is still ACTIVE. It goes by id
alone, so nothing in the statement asks for that. -/
def activeOffline : Discipline doorDb.sig DoorStore (Option Loss) ScanOp where
  starts _ := True
  allows _ _ c o s := doorDb.waits c o s.world = false ∧
    ∀ id ∈ offlineUpdate? c, ∀ t ∈ s.world.data.tickets.rows, t.id = id → t.status = .ACTIVE

instance : DecidablePred postgres.starts := fun _ => isTrue trivial

instance (i : Nat) (op : ScanOp) (c : TxCmd ScanStmt) (o : Option Loss) :
    DecidablePred (postgres.allows i op c o) := fun s =>
  inferInstanceAs (Decidable (doorDb.waits c o s.world = false))

instance : DecidablePred activeOffline.starts := fun _ => isTrue trivial

instance (i : Nat) (op : ScanOp) (c : TxCmd ScanStmt) (o : Option Loss) :
    DecidablePred (activeOffline.allows i op c o) := fun s =>
  inferInstanceAs (Decidable (doorDb.waits c o s.world = false ∧
    ∀ id ∈ offlineUpdate? c, ∀ t ∈ s.world.data.tickets.rows, t.id = id → t.status = .ACTIVE))

section Outline

variable (P : DoorPlatform) (qrHash : String)

def claims (e : DoorEvent) : Bool :=
  !used qrHash e.before.data && used qrHash (e.after (door P)).data

/-- How often call `i` has used the ticket. -/
def claimsBy (i : Nat) (s : DoorSnap) : Nat :=
  s.hist.countP fun e => e.tid == i && claims P qrHash e

structure Admission (s : DoorSnap) : Prop where
  store : doorDb.StoreOk s.world
  openers : Openers s
  once : s.hist.countP (claims P qrHash) ≤ (used qrHash s.world.data).toNat

def admissionOutline : DoorOutline where
  toDiscipline := activeOffline
  inv := Admission P qrHash
  pre i _ c s := Own i c s

end Outline

variable {P : DoorPlatform} {qrHash : String} {i n : Nat} {op : ScanOp} {s : DoorSnap}

theorem used_step (c : TxCmd ScanStmt) (o : Option Loss) {w : DoorStore}
    (h : used qrHash w.data = true) : used qrHash (doorDb.step c o w).2.data = true :=
  data_of_forall (I := fun d => used qrHash d = true) (fun w _ => used_apply w) c o h

/-- **Step**: a ticket is used once. -/
theorem admission_exec (h : Admission P qrHash s) {c : TxCmd ScanStmt} {o : Option Loss}
    (hw : doorDb.waits c o s.world = false) : Admission P qrHash (s.exec (door P) i op c o) where
  store := storeOk_step h.store hw
  openers := openers_exec h.openers i op c o
  once := by
    have honce := h.once
    rw [Snap.exec_hist, List.countP_cons, Snap.exec_world]
    show _ ≤ (used qrHash (doorDb.step c o s.world).2.data).toNat
    have hclaims : claims P qrHash ⟨i, op, c, o, s.world⟩
        = (!used qrHash s.world.data && used qrHash (doorDb.step c o s.world).2.data) := rfl
    rw [hclaims]
    cases hbefore : used qrHash s.world.data with
    | true =>
        rw [used_step c o hbefore]
        rw [hbefore] at honce
        simpa using honce
    | false =>
        rw [hbefore] at honce
        cases used qrHash (doorDb.step c o s.world).2.data <;> simpa using honce

theorem tracks_admission (P : DoorPlatform) (qrHash : String) :
    Tracks (admissionOutline P qrHash) where
  store h := h.store
  openers h := h.openers
  own h := h
  waits h := h.1

theorem claimsBy_persistent (P : DoorPlatform) (qrHash : String) (i n : Nat) :
    Persistent (door P) fun s => n ≤ claimsBy P qrHash i s where
  exec h j op c o := by
    rw [claimsBy, Snap.exec_hist, List.countP_cons]
    exact Nat.le_add_right_of_le h
  env h _ := h

theorem hashed_persistent (id : String) :
    Persistent (door P) fun s => Hashed id qrHash s.world.data where
  exec h _ _ c o :=
    data_of_forall (I := Hashed id qrHash) (fun w _ => (hashed_apply w).mpr) c o h
  env h e := by
    cases e <;> exact h

theorem claimsBy_exec (hn : n ≤ claimsBy P qrHash i s) {c : TxCmd ScanStmt} {o : Option Loss}
    (hbefore : used qrHash s.world.data = false)
    (hafter : used qrHash (doorDb.step c o s.world).2.data = true) :
    n + 1 ≤ claimsBy P qrHash i (s.exec (door P) i op c o) := by
  have hclaims : claims P qrHash ⟨i, op, c, o, s.world⟩ = true := by
    show (!used qrHash s.world.data && used qrHash (doorDb.step c o s.world).2.data) = true
    rw [hbefore, hafter]
    rfl
  rw [claimsBy, Snap.exec_hist, List.countP_cons]
  simp only [beq_self_eq_true, hclaims, Bool.and_self, if_true]
  exact Nat.succ_le_succ hn

/-! ## The calls -/

/-- An answer of call `i` after `n` claims is backed: one that counts for the
ticket by one more. -/
def Backed (P : DoorPlatform) (qrHash : String) (i n : Nat) (counts : Bool) (s : DoorSnap) : Prop :=
  n + (if counts then 1 else 0) ≤ claimsBy P qrHash i s

/-- What a call knows of a ticket once it has found it. -/
def Found (P : DoorPlatform) (qrHash qrToken : String) (i n : Nat) (id : String) (s : DoorSnap) :
    Prop :=
  n ≤ claimsBy P qrHash i s ∧ Hashed id (P.hashToken qrToken) s.world.data

theorem Backed.le {counts : Bool} (h : Backed P qrHash i n counts s) :
    n ≤ claimsBy P qrHash i s :=
  Nat.le_trans (Nat.le_add_right ..) h

theorem Backed.persistent (P : DoorPlatform) (qrHash : String) (i n : Nat) (counts : Bool) :
    Persistent (door P) (Backed P qrHash i n counts) :=
  claimsBy_persistent P qrHash i (n + if counts then 1 else 0)

theorem Found.persistent (P : DoorPlatform) (qrHash qrToken : String) (i n : Nat) (id : String) :
    Persistent (door P) (Found P qrHash qrToken i n id) :=
  (claimsBy_persistent P qrHash i n).and (hashed_persistent id)

theorem hashed_of_find {d : Door} {ticket : Ticket}
    (h : d.tickets.rows.find? (·.qrHash == qrHash) = some ticket) : Hashed ticket.id qrHash d :=
  ⟨ticket, List.mem_of_find?_eq_some h, rfl, by simpa using List.find?_some h⟩

section Calls

variable {α : Type} {Q : α → DoorSnap → Prop} {G : DoorSnap → Prop}

theorem wp_ask {q : ScanStmt} {f : q.Ret → ScanM α} (hG : Persistent (door P) G)
    (hGn : ∀ s, G s → n ≤ claimsBy P qrHash i s) (hs : G s)
    (hok : ∀ s o a, G s → G (s.exec (door P) i op (.stmt none q) o) →
      (doorDb.step (.stmt none q) o s.world).1 = .ok a →
      (f a).wp (door P) (admissionOutline P qrHash) i op Q (fun _ s => n ≤ claimsBy P qrHash i s)
        (s.exec (door P) i op (.stmt none q) o)) :
    (ask none q >>= f).wp (door P) (admissionOutline P qrHash) i op Q
      (fun _ s => n ≤ claimsBy P qrHash i s) s :=
  wp_query hG.stable hs (claimsBy_persistent P qrHash i n) hGn (fun _ _ _ _ htx => by cases htx)
    fun s o a _ hs _ ha _ => hok s o a hs (hG.exec hs ..) ha

/-! ### `scanTicket` -/

variable {userId tenantId qrToken : String} {deviceId seat showId ticketId? : Option String}
  {source : ScanSource} {status : ScanStatus}

theorem wp_finalizeScan
    (hs : Backed P qrHash i n (status == .SUCCESS && P.hashToken qrToken == qrHash) s) :
    (finalizeScan userId tenantId deviceId source seat showId status ticketId?).wp (door P)
      (admissionOutline P qrHash) i op
      (fun a => Backed P qrHash i n (a.status == .SUCCESS && P.hashToken qrToken == qrHash))
      (fun _ s => n ≤ claimsBy P qrHash i s) s := by
  have hB := Backed.persistent P qrHash i n (status == .SUCCESS && P.hashToken qrToken == qrHash)
  unfold finalizeScan
  refine wp_ask hB (fun _ => Backed.le) hs fun s o _ _ hs _ => ?_
  refine wp_ask hB (fun _ => Backed.le) hs fun s o now _ hs _ => ?_
  exact wp_ret hB.stable hs fun _ _ h => h

theorem wp_rejected (hs : n ≤ claimsBy P qrHash i s) (hne : status ≠ .SUCCESS) :
    (finalizeScan userId tenantId deviceId source seat showId status ticketId?).wp (door P)
      (admissionOutline P qrHash) i op
      (fun a => Backed P qrHash i n (a.status == .SUCCESS && P.hashToken qrToken == qrHash))
      (fun _ s => n ≤ claimsBy P qrHash i s) s :=
  wp_finalizeScan (by simpa [Backed, hne] using hs)

/-- The conditional update: where it counts a row, this row has been ACTIVE
and is now USED. -/
theorem claim_updateMany {w : DoorStore} {o : Option Loss} {id scannedBy : String}
    {scannedAt : Time} {count : Nat} (hid : Hashed id qrHash w.data)
    (h : (doorDb.step (.stmt none (.ticketUpdateMany id scannedAt scannedBy)) o w).1 = .ok count)
    (hcount : count ≠ 0) :
    used qrHash w.data = false ∧ used qrHash
      (doorDb.step (.stmt none (.ticketUpdateMany id scannedAt scannedBy)) o w).2.data = true := by
  obtain ⟨hexec, hdata⟩ := query_ok h
  rw [hdata]
  simp only [doorDb, ScanStmt.exec] at hexec ⊢
  split at hexec
  · rename_i hany
    obtain ⟨t, ht, hmatch⟩ := List.any_eq_true.mp hany
    simp only [Bool.and_eq_true, beq_iff_eq] at hmatch
    obtain ⟨t', ht', hid', hhash⟩ := hid
    obtain rfl := List.inj_on_of_nodup_map w.data.tickets.ids ht ht' (hmatch.1.trans hid'.symm)
    rw [if_pos hany]
    exact ⟨Unclaimed.not_used ⟨t, ht, hid', hhash, hmatch.2⟩,
      used_use ⟨t, ht, hid', hhash⟩ scannedAt scannedBy⟩
  · exact absurd (Except.ok.inj hexec).symm hcount

section Found

variable {payload : QRPayload} {ticket : Ticket}

theorem wp_claim (hs : Found P qrHash qrToken i n ticket.id s) :
    (claim userId tenantId deviceId source payload ticket).wp (door P) (admissionOutline P qrHash)
      i op (fun a => Backed P qrHash i n (a.status == .SUCCESS && P.hashToken qrToken == qrHash))
      (fun _ s => n ≤ claimsBy P qrHash i s) s := by
  unfold claim
  cases ticket.status with
  | USED => exact wp_rejected hs.1 nofun
  | other => exact wp_rejected hs.1 nofun
  | ACTIVE =>
      have hF := Found.persistent P qrHash qrToken i n ticket.id
      refine wp_ask hF (fun _ h => h.1) hs fun s o scannedAt _ hs _ => ?_
      refine wp_ask hF (fun _ h => h.1) hs fun s o (count : Nat) hs hs' hcount => ?_
      by_cases hzero : count = 0
      · rw [if_pos hzero]
        exact wp_rejected hs'.1 nofun
      · rw [if_neg hzero]
        refine wp_finalizeScan ?_
        by_cases hhash : P.hashToken qrToken = qrHash
        · obtain ⟨hbefore, hafter⟩ := claim_updateMany (hhash ▸ hs.2) hcount hzero
          simpa [Backed, hhash] using claimsBy_exec hs.1 hbefore hafter
        · simpa [Backed, hhash] using hs'.1

theorem wp_admit (hs : Found P qrHash qrToken i n ticket.id s) :
    (admitTicket userId tenantId deviceId source payload ticket).wp (door P) (admissionOutline P qrHash)
      i op (fun a => Backed P qrHash i n (a.status == .SUCCESS && P.hashToken qrToken == qrHash))
      (fun _ s => n ≤ claimsBy P qrHash i s) s := by
  have hF := Found.persistent P qrHash qrToken i n ticket.id
  unfold admitTicket
  split
  · exact wp_rejected hs.1 nofun
  · refine wp_ask hF (fun _ h => h.1) hs fun s o now _ hs _ => ?_
    split
    · exact wp_rejected hs.1 nofun
    · refine wp_ask hF (fun _ h => h.1) hs fun s o show? _ hs _ => ?_
      cases show? with
      | none => exact wp_claim hs
      | some show_ =>
          refine wp_ask hF (fun _ h => h.1) hs fun s o nowMs _ hs _ => ?_
          split
          · exact wp_rejected hs.1 nofun
          · split
            · exact wp_rejected hs.1 nofun
            · exact wp_claim hs

end Found

theorem wp_scanToken (hs : n ≤ claimsBy P qrHash i s) :
    (scanToken P qrToken userId tenantId deviceId source).wp (door P) (admissionOutline P qrHash)
      i op (fun a => Backed P qrHash i n (a.status == .SUCCESS && P.hashToken qrToken == qrHash))
      (fun _ s => n ≤ claimsBy P qrHash i s) s := by
  unfold scanToken
  split
  · exact wp_rejected hs nofun
  · refine wp_ask (claimsBy_persistent P qrHash i n) (fun _ h => h) hs
      fun s o ticket? hs hs' hfind => ?_
    cases ticket? with
    | none => exact wp_rejected hs' nofun
    | some ticket =>
        have hhashed : Hashed ticket.id (P.hashToken qrToken) s.world.data :=
          hashed_of_find (Except.ok.inj (query_ok hfind).1)
        exact wp_admit ⟨hs', (hashed_persistent ticket.id).exec hhashed ..⟩

theorem wp_scanTicket (hs : n ≤ claimsBy P qrHash i s) :
    (scanTicket P qrToken userId tenantId deviceId source).wp (door P) (admissionOutline P qrHash)
      i op (fun a => Backed P qrHash i n (a.status == .SUCCESS && P.hashToken qrToken == qrHash))
      (fun _ s => n ≤ claimsBy P qrHash i s) s := by
  have hn := claimsBy_persistent P qrHash i n
  unfold scanTicket
  split
  · split
    · exact wp_scanToken hs
    · refine wp_ask hn (fun _ h => h) hs fun s o device? _ hs _ => ?_
      cases device? with
      | none => exact wp_rejected hs nofun
      | some device =>
          refine wp_ask hn (fun _ h => h) hs fun s o lastSeenAt _ hs _ => ?_
          exact wp_ask hn (fun _ h => h) hs fun s o _ _ hs _ => wp_scanToken hs
  · exact wp_scanToken hs

end Calls

/-! ### `syncOfflineScans` -/

/-- The transaction has used the ticket, which is ACTIVE until it commits. -/
def Held (qrHash : String) (ss : Session ScanWrite) (d : Door) : Prop :=
  ss.failed = false ∧ ∃ id scannedAt scannedBy, ScanWrite.use id scannedAt scannedBy ∈ ss.writes ∧
    Unclaimed id qrHash d

/-- In transaction `tx`, before its commit: a result that counts is held. -/
def InScan (P : DoorPlatform) (qrHash : String) (i n tx : Nat) (counts : Bool) (s : DoorSnap) :
    Prop :=
  InTx i tx (fun ss d => counts = true → Held qrHash ss d) s ∧ n ≤ claimsBy P qrHash i s

theorem Held.apply {ss : Session ScanWrite} {d : Door} {w : ScanWrite}
    (hw : ∀ k ∈ w.keys, ¬doorDb.holds ss k) (h : Held qrHash ss d) :
    Held qrHash ss (w.apply d) := by
  obtain ⟨hgo, id, scannedAt, scannedBy, huse, hd⟩ := h
  refine ⟨hgo, id, scannedAt, scannedBy, huse, unclaimed_apply (fun hkey => hw _ hkey ?_) hd⟩
  exact ⟨_, huse, List.mem_singleton_self _⟩

theorem InScan.stable (P : DoorPlatform) (qrHash : String) (i n tx : Nat) (counts : Bool) :
    Stable (door P) (admissionOutline P qrHash) i (InScan P qrHash i n tx counts) := by
  have hin : Stable (door P) (admissionOutline P qrHash) i
      (InTx i tx fun ss d => counts = true → Held qrHash ss d) :=
    InTx.stable (tracks_admission P qrHash) (fun _ _ _ hw h hc => (h hc).apply hw) fun _ _ _ h => h
  exact hin.and (claimsBy_persistent P qrHash i n).stable

theorem InScan.le {tx : Nat} {counts : Bool} (h : InScan P qrHash i n tx counts s) :
    Opened i tx s ∧ n ≤ claimsBy P qrHash i s :=
  ⟨h.1.1, h.2⟩

theorem InScan.of_not {tx : Nat} {counts : Bool} (h : Opened i tx s ∧ n ≤ claimsBy P qrHash i s)
    (hc : counts = false) : InScan P qrHash i n tx counts s :=
  ⟨⟨h.1, fun _ _ hc' => by rw [hc] at hc'; cases hc'⟩, h.2⟩

theorem InScan.stmt {tx : Nat} {counts : Bool} {q : ScanStmt} {o : Option Loss} {a : q.Ret}
    (h : InScan P qrHash i n tx counts s)
    (ha : (doorDb.step (.stmt (some tx) q) o s.world).1 = .ok a) :
    InScan P qrHash i n tx counts (s.exec (door P) i op (.stmt (some tx) q) o) := by
  refine ⟨h.1.stmt ha fun ss _ hgo hF _ hc => ?_, (claimsBy_persistent P qrHash i n).exec h.2 ..⟩
  obtain ⟨-, id, scannedAt, scannedBy, huse, hd⟩ := hF hc
  exact ⟨hgo, id, scannedAt, scannedBy, List.mem_append_left _ huse, hd⟩

theorem update_ok {d : Door} {id scannedBy : String} {scannedAt : JsDate} {u : Unit}
    (h : (ScanStmt.exec d (.ticketUpdate id scannedAt scannedBy)).1 = .ok u) :
    ∃ t, (ScanStmt.exec d (.ticketUpdate id scannedAt scannedBy)).2 = [.use id t scannedBy] := by
  cases scannedAt with
  | none => cases h
  | some t =>
      simp only [ScanStmt.exec] at h ⊢
      split at h
      · rename_i hany
        rw [if_pos hany]
        exact ⟨t, rfl⟩
      · cases h

/-- The update of an offline scan, in a run of `activeOffline`. -/
theorem InScan.update {tx : Nat} {id scannedBy qrToken : String} {scannedAt : JsDate}
    {o : Option Loss} {u : Unit} (hs : Opened i tx s ∧ n ≤ claimsBy P qrHash i s)
    (hid : Hashed id (P.hashToken qrToken) s.world.data)
    (hactive : ∀ t ∈ s.world.data.tickets.rows, t.id = id → t.status = .ACTIVE)
    (hu : (doorDb.step (.stmt (some tx) (.ticketUpdate id scannedAt scannedBy)) o s.world).1
      = .ok u) :
    InScan P qrHash i n tx (P.hashToken qrToken == qrHash)
      (s.exec (door P) i op (.stmt (some tx) (.ticketUpdate id scannedAt scannedBy)) o) := by
  have hin : InTx i tx (fun _ _ => True) s := ⟨hs.1, fun _ _ => trivial⟩
  refine ⟨hin.stmt hu fun ss _ hgo _ hexec hc => ?_, (claimsBy_persistent P qrHash i n).exec hs.2 ..⟩
  obtain ⟨t, hwrites⟩ := update_ok hexec
  obtain ⟨row, hrow, hrowid, hhash⟩ := hid
  refine ⟨hgo, id, t, scannedBy, ?_, row, hrow, hrowid, hhash.trans (by simpa using hc),
    hactive row hrow hrowid⟩
  exact List.mem_append_right _ (by rw [show (doorDb.exec _ _ _).2 = _ from hwrites]; simp)

section Sync

variable {α : Type} {Q : α → DoorSnap → Prop} {G : DoorSnap → Prop} {tx : Nat}
  {deviceId tenantId : String}

theorem wp_ask_tx {q : ScanStmt} {f : q.Ret → ScanM α}
    (hG : Stable (door P) (admissionOutline P qrHash) i G)
    (hGn : ∀ s, G s → Opened i tx s ∧ n ≤ claimsBy P qrHash i s) (hs : G s)
    (hok : ∀ s o a, G s → (admissionOutline P qrHash).allows i op (.stmt (some tx) q) o s →
      (doorDb.step (.stmt (some tx) q) o s.world).1 = .ok a →
      (f a).wp (door P) (admissionOutline P qrHash) i op Q
        (fun _ s => Opened i tx s ∧ n ≤ claimsBy P qrHash i s)
        (s.exec (door P) i op (.stmt (some tx) q) o)) :
    (ask (some tx) q >>= f).wp (door P) (admissionOutline P qrHash) i op Q
      (fun _ s => Opened i tx s ∧ n ≤ claimsBy P qrHash i s) s := by
  refine wp_query hG hs ((Opened.persistent i tx).and (claimsBy_persistent P qrHash i n)) hGn
    (fun s _ h tx' htx => ?_) fun s o a _ hs hallows ha _ => hok s o a hs hallows ha
  obtain rfl := Option.some.inj htx
  exact (hGn s h).1

theorem wp_read_tx {q : ScanStmt} {f : q.Ret → ScanM α} (hG : Persistent (door P) G)
    (hGn : ∀ s, G s → Opened i tx s ∧ n ≤ claimsBy P qrHash i s) (hs : G s)
    (hok : ∀ s o a, G s → G (s.exec (door P) i op (.stmt (some tx) q) o) →
      (doorDb.step (.stmt (some tx) q) o s.world).1 = .ok a →
      (f a).wp (door P) (admissionOutline P qrHash) i op Q
        (fun _ s => Opened i tx s ∧ n ≤ claimsBy P qrHash i s)
        (s.exec (door P) i op (.stmt (some tx) q) o)) :
    (ask (some tx) q >>= f).wp (door P) (admissionOutline P qrHash) i op Q
      (fun _ s => Opened i tx s ∧ n ≤ claimsBy P qrHash i s) s :=
  wp_ask_tx hG.stable hGn hs fun s o a hs _ ha => hok s o a hs (hG.exec hs ..) ha

theorem wp_logScan {ticket : Ticket} {scannedAtDate : JsDate} {finalStatus : SyncStatus}
    {qrToken : String}
    (hs : InScan P qrHash i n tx (finalStatus == .SUCCESS && P.hashToken qrToken == qrHash) s) :
    (logScan deviceId tenantId tx ticket scannedAtDate finalStatus qrToken).wp (door P)
      (admissionOutline P qrHash) i op
      (fun r => InScan P qrHash i n tx (r.status == .SUCCESS && P.hashToken r.qrToken == qrHash))
      (fun _ s => Opened i tx s ∧ n ≤ claimsBy P qrHash i s) s := by
  have hI := InScan.stable P qrHash i n tx
    (finalStatus == .SUCCESS && P.hashToken qrToken == qrHash)
  unfold logScan
  refine wp_ask_tx hI (fun _ => InScan.le) hs fun s o _ hs _ ha => ?_
  refine wp_ask_tx hI (fun _ => InScan.le) (hs.stmt ha) fun s o _ hs _ ha => ?_
  exact wp_ret hI (hs.stmt ha) fun _ _ h => h

theorem wp_syncScan {scan : OfflineScanDto} (hs : Opened i tx s ∧ n ≤ claimsBy P qrHash i s) :
    (syncScan P deviceId tenantId scan tx).wp (door P) (admissionOutline P qrHash) i op
      (fun r => InScan P qrHash i n tx (r.status == .SUCCESS && P.hashToken r.qrToken == qrHash))
      (fun _ s => Opened i tx s ∧ n ≤ claimsBy P qrHash i s) s := by
  have hG : Persistent (door P) fun s => Opened i tx s ∧ n ≤ claimsBy P qrHash i s :=
    (Opened.persistent i tx).and (claimsBy_persistent P qrHash i n)
  have hret : ∀ {s : DoorSnap} {r : SyncResult}, Opened i tx s ∧ n ≤ claimsBy P qrHash i s →
      r.status ≠ .SUCCESS → (Prog.ret r : ScanM SyncResult).wp (door P) (admissionOutline P qrHash)
        i op (fun r => InScan P qrHash i n tx
          (r.status == .SUCCESS && P.hashToken r.qrToken == qrHash))
        (fun _ s => Opened i tx s ∧ n ≤ claimsBy P qrHash i s) s :=
    fun hs hne => wp_ret hG.stable hs fun _ _ h => .of_not h (by simp [hne])
  unfold syncScan
  dsimp only
  cases P.validateToken scan.qrToken with
  | none => exact hret hs nofun
  | some payload =>
      refine wp_read_tx hG (fun _ h => h) hs fun s o existingLog _ hs _ => ?_
      split
      · exact hret hs nofun
      · refine wp_read_tx hG (fun _ h => h) hs fun s o existingQueue _ hs _ => ?_
        split
        · exact hret hs nofun
        · refine wp_read_tx hG (fun _ h => h) hs fun s o ticket? hs hs' hfind => ?_
          cases ticket? with
          | none => exact hret hs' nofun
          | some ticket =>
              obtain ⟨ss, -, -, hexec, -⟩ := stmt_ok hfind
              have hid : Hashed ticket.id (P.hashToken scan.qrToken) s.world.data :=
                (hashed_applyAll ss.writes).mp (hashed_of_find (Except.ok.inj hexec))
              have hid' : Hashed ticket.id (P.hashToken scan.qrToken)
                  (s.exec (door P) i op (.stmt (some tx)
                    (.ticketFindUnique (P.hashToken scan.qrToken))) o).world.data :=
                (hashed_persistent ticket.id).exec hid ..
              dsimp only
              split
              · exact hret hs' nofun
              · cases ticket.status with
                | USED => exact wp_logScan (.of_not hs' rfl)
                | other => exact wp_logScan (.of_not hs' rfl)
                | ACTIVE =>
                    refine wp_ask_tx (hG.and (hashed_persistent ticket.id)).stable (fun _ h => h.1)
                      ⟨hs', hid'⟩ fun s o u hs hallows hu => ?_
                    exact wp_logScan (.update hs.1 hs.2 (hallows.2 ticket.id rfl) hu)

theorem Held.commit {ss : Session ScanWrite} {d : Door} (h : Held qrHash ss d) :
    used qrHash d = false ∧ used qrHash (doorDb.applyAll ss.writes d) = true := by
  obtain ⟨-, id, scannedAt, scannedBy, huse, hd⟩ := h
  refine ⟨hd.not_used, used_applyAll huse ?_⟩
  obtain ⟨t, ht, hid, hhash, -⟩ := hd
  exact ⟨t, ht, hid, hhash⟩

theorem wp_syncOne {scan : OfflineScanDto} (hs : n ≤ claimsBy P qrHash i s)
    (hinv : Admission P qrHash s) :
    (syncOne P deviceId tenantId scan).wp (door P) (admissionOutline P qrHash) i op
      (fun r => Backed P qrHash i n (r.status == .SUCCESS && P.hashToken r.qrToken == qrHash))
      (fun _ s => n ≤ claimsBy P qrHash i s) s := by
  have hn := claimsBy_persistent P qrHash i n
  have htx : (doorDb.transaction ScanExn.step (syncScan P deviceId tenantId scan)).wp (door P)
      (admissionOutline P qrHash) i op
      (fun r => Backed P qrHash i n (r.status == .SUCCESS && P.hashToken r.qrToken == qrHash))
      (fun _ s => n ≤ claimsBy P qrHash i s) s := by
    refine wp_transaction (tracks_admission P qrHash) hs hn (fun _ _ _ => nofun)
      (fun _ _ _ h => h.own rfl) (fun _ _ _ _ h => h.le.1.own rfl)
      (fun tx r => InScan.stable P qrHash i n tx
        (r.status == .SUCCESS && P.hashToken r.qrToken == qrHash))
      (fun _ _ _ h => h.le.2) (fun s tx _ hs hin => wp_syncScan ⟨hin.1, hs⟩) ?_
    intro s tx r o _ hin _ hcommit _
    refine wp_ret (Backed.persistent P qrHash i n _).stable ?_ fun _ _ h => h
    cases hc : r.status == .SUCCESS && P.hashToken r.qrToken == qrHash with
    | false => simpa [Backed] using hn.exec hin.2 i op _ o
    | true =>
        obtain ⟨ss, hss, hdata⟩ := commit_ok hcommit
        have hheld := hin.1.2 ss hss hc
        obtain ⟨hbefore, hafter⟩ := hheld.commit
        rw [show doorDb.applyAll ss.writes s.world.data = _ from
          (congrArg Store.data (hdata hheld.1)).symm] at hafter
        simpa [Backed] using claimsBy_exec hin.2 hbefore hafter
  refine wp_bind hinv (wp_attempt (htx.mono (fun r s _ hr => ?_) fun e s _ he => ?_))
  · exact wp_ret (Backed.persistent P qrHash i n _).stable hr fun _ _ h => h
  · exact wp_ret hn.stable he fun _ _ h => by simpa [Backed] using h

theorem wp_syncAll (scans : List OfflineScanDto) (hinv : Admission P qrHash s) :
    (scans.mapM (syncOne P deviceId tenantId)).wp (door P) (admissionOutline P qrHash) i op
      (fun rs s => 0 + rs.countP (fun r =>
        r.status == .SUCCESS && P.hashToken r.qrToken == qrHash) ≤ claimsBy P qrHash i s)
      (fun _ s => 0 ≤ claimsBy P qrHash i s) s := by
  refine wp_mapM_countP (claimsBy_persistent P qrHash i) (fun scan s n hinv hs => ?_) scans hinv
    (Nat.zero_le _)
  exact (wp_syncOne hs hinv).mono (fun _ _ _ h => h) fun _ _ _ _ => Nat.zero_le _

theorem wp_syncOfflineScans (scans : List OfflineScanDto) :
    (syncOfflineScans P deviceId tenantId scans).wp (door P) (admissionOutline P qrHash) i op
      (fun rs s => rs.countP (fun r => r.status == .SUCCESS && P.hashToken r.qrToken == qrHash)
        ≤ claimsBy P qrHash i s)
      (fun _ s => 0 ≤ claimsBy P qrHash i s) s := by
  have hn := claimsBy_persistent P qrHash i 0
  unfold syncOfflineScans
  split
  · exact fun _ _ _ => Nat.zero_le _
  · refine wp_ask hn (fun _ h => h) (Nat.zero_le _) fun s o device? _ _ _ => ?_
    cases device? with
    | none => exact fun _ _ _ => Nat.zero_le _
    | some device =>
        refine wp_ask hn (fun _ h => h) (Nat.zero_le _) fun s o lastSeenAt _ _ _ => ?_
        refine wp_query hn.stable (Nat.zero_le _) hn (fun _ h => h) (fun _ _ _ _ htx => by cases htx)
          fun s o _ _ _ _ _ hinv => ?_
        exact (wp_syncAll scans hinv).mono (fun rs s _ h => by rwa [Nat.zero_add] at h)
          fun _ _ _ h => h

end Sync

/-- What an ended call has answered with SUCCESS is backed. -/
def AdmittedBy (P : DoorPlatform) (qrHash : String) (i : Nat) (op : ScanOp) (r : ScanReply)
    (s : DoorSnap) : Prop :=
  (admitted op r).countP (P.hashToken · == qrHash) ≤ claimsBy P qrHash i s

theorem AdmittedBy.persistent (P : DoorPlatform) (qrHash : String) (i : Nat) (op : ScanOp)
    (r : ScanReply) : Persistent (door P) (AdmittedBy P qrHash i op r) :=
  claimsBy_persistent P qrHash i _

theorem admissionOutline_valid (P : DoorPlatform) (qrHash : String) :
    Outline.Valid (door P) (admissionOutline P qrHash) (AdmittedBy P qrHash) where
  inv_exec hinv _ _ _ _ _ _ hallows := admission_exec hinv hallows.1
  inv_env h e := by
    refine ⟨?_, openers_env h.openers e, by cases e <;> exact h.once⟩
    rw [Snap.env_world]
    exact storeOk_env h.store e
  body := by
    intro i op s _ hinv _
    cases op with
    | scanTicket qrToken userId tenantId deviceId source =>
        refine wp_bind hinv ((wp_scanTicket (n := 0) (Nat.zero_le _)).mono (fun a s _ h => ?_)
          fun _ _ _ _ => trivial)
        refine wp_ret (AdmittedBy.persistent P qrHash i _ _).stable ?_ fun _ _ h => h
        simp only [Backed, Bool.and_eq_true, beq_iff_eq, Nat.zero_add] at h
        simp only [AdmittedBy, admitted]
        split
        · rename_i hsuccess
          simpa [List.countP_singleton, hsuccess] using h
        · simp
    | syncOfflineScans deviceId tenantId scans =>
        refine wp_bind hinv ((wp_syncOfflineScans scans).mono (fun rs s _ h => ?_)
          fun _ _ _ _ => trivial)
        refine wp_ret (AdmittedBy.persistent P qrHash i _ _).stable ?_ fun _ _ h => h
        simp only [AdmittedBy, admitted]
        rw [List.countP_map, List.countP_filter]
        refine Nat.le_trans (List.countP_mono_left fun r _ hr => ?_) h
        simpa [and_comm] using hr

/-- **Single admission**: along every run of `activeOffline`, any number of
scans and batches admit a ticket at most once. -/
theorem singleAdmission_run (P : DoorPlatform) (d : Door) {ls : List DoorLabel}
    (hls : activeOffline.admitsRun (door P) (Config.idle (.idle d)) ls) (qrHash : String) :
    admissions P ((Config.idle (.idle d)).run (door P) ls) qrHash ≤ 1 := by
  have hidle : Admission P qrHash ⟨.idle d, []⟩ :=
    ⟨⟨List.nodup_nil, fun _ h => (nomatch h), fun _ h => (nomatch h)⟩, openers_idle _,
      Nat.zero_le _⟩
  have hgood := Outline.sound (admissionOutline_valid P qrHash) (Outline.Good.idle hidle) hls
  have hbacked : admissions P ((Config.idle (.idle d)).run (door P) ls) qrHash
      ≤ ((Config.idle (.idle d)).run (door P) ls).hist.countP (claims P qrHash) := by
    refine countP_flatMap_le fun i th hth => ?_
    obtain ⟨op, prog⟩ := th
    cases prog with
    | ret r => exact hgood.result hth
    | err e => exact Nat.zero_le _
    | call c k => exact Nat.zero_le _
  refine Nat.le_trans hbacked (Nat.le_trans hgood.inv.once ?_)
  cases used qrHash ((Config.idle (.idle d)).run (door P) ls).world.data <;> decide

/-! ## The race -/

namespace Sample

/-- The base64 text of the payload of ticket `tk1`. -/
def base64Payload : String := "eyJ0IjoidGsxIiwicyI6InNob3cxIiwiZXhwIjo5MDAwfQ=="

def signature : String := "78e0ee2930e8ef0ffa684b6addc0bba9646f366a22fefa5d2b856eb2c83f8a07"

def qrToken : String :=
  "v1.eyJ0IjoidGsxIiwicyI6InNob3cxIiwiZXhwIjo5MDAwfQ==.78e0ee2930e8ef0ffa684b6addc0bba9646f366a22fefa5d2b856eb2c83f8a07"

def tokenHash : String := "41a414ac7118dd66be4edd108de98902c229e3a4ce1bcf3e5ee91f390cd1d652"

/-- No `QR_SECRET`, and the values the functions take on this token. -/
def platform : DoorPlatform where
  qrSecret := none
  hmacSha256Hex secret text :=
    if secret = "dev_secret_unsecure_override" ∧ text = base64Payload then signature else ""
  sha256Hex text := if text = qrToken then tokenHash else ""
  parsePayload text := if text = base64Payload then some ⟨"tk1", "show1", 9000⟩ else none
  newDate text := if text = "1970-01-01T01:00:00.000Z" then some 3600000 else none

def atTheDoor : Door where
  clock := 3600000
  tickets := ⟨[⟨"tk1", "show1", "A1", tokenHash, .ACTIVE, none, none, "t1"⟩], by decide, by decide⟩
  shows := [⟨"show1", 7200000⟩]
  scannerDevices := [⟨"dev1", true, "t1", none⟩]
  ticketScanLogs := []
  offlineScanQueue := []

def staffScan : ScanOp := .scanTicket qrToken "u1" "t1" none .STAFF

def batch : ScanOp :=
  .syncOfflineScans "dev1" "t1" [⟨qrToken, "1970-01-01T01:00:00.000Z"⟩]

def doorSteps (i n : Nat) : List DoorLabel := List.replicate n (.step i none)

def doorRun (ls : List DoorLabel) : DoorConfig :=
  (Config.idle (.idle atTheDoor)).run (door platform) ls

/-- The batch reads the ticket, a member of the staff scans it, and the batch
goes on. -/
def scanInBetween : List DoorLabel :=
  [.spawn batch, .spawn staffScan] ++ doorSteps 0 7 ++ doorSteps 1 8 ++ doorSteps 0 4

def scanAfterwards : List DoorLabel :=
  [.spawn batch, .spawn staffScan] ++ doorSteps 0 11 ++ doorSteps 1 8

end Sample

/-- The staff scan comes when the batch is through. -/
theorem singleAdmission_scanAfterwards :
    admissions Sample.platform (Sample.doorRun Sample.scanAfterwards) Sample.tokenHash ≤ 1 :=
  singleAdmission_run Sample.platform Sample.atTheDoor (by decide +kernel) Sample.tokenHash

/-- A batch and a scan between its read and its update both admit the ticket. -/
theorem not_singleAdmission_interleaved :
    ¬ ∀ (P : DoorPlatform) (d : Door) (ls : List DoorLabel),
      postgres.admitsRun (door P) (Config.idle (.idle d)) ls →
      ∀ qrHash : String, admissions P ((Config.idle (.idle d)).run (door P) ls) qrHash ≤ 1 := by
  intro h
  have hrun := h Sample.platform Sample.atTheDoor Sample.scanInBetween (by decide +kernel)
    Sample.tokenHash
  revert hrun
  decide +kernel

/-! ## One call after another

The condition is one on calls that overlap: in a batch that nothing interrupts every
scan has just read the ticket that it updates. -/

section Visits

variable {P : DoorPlatform} {i tx : Nat} {op : ScanOp} {s : DoorSnap} {deviceId tenantId : String}

/-- A statement by itself, or of the transaction, that updates no ticket as an
offline scan does. -/
abbrev NoUpdate (tx : Option Nat) (c : TxCmd ScanStmt) : Prop :=
  ∃ q, c = .stmt tx q ∧ offlineUpdate? (.stmt tx q) = none

theorem noUpdate_ask {t : Option Nat} {q : ScanStmt} (h : offlineUpdate? (.stmt t q) = none) :
    (ask t q).All (NoUpdate t) :=
  ⟨⟨q, rfl, h⟩, fun r => by cases r <;> trivial⟩

section ScanTicket

variable {userId qrToken : String} {deviceId seat showId ticketId? : Option String}
  {source : ScanSource} {status : ScanStatus} {payload : QRPayload} {ticket : Ticket}

theorem noUpdate_finalizeScan :
    (finalizeScan userId tenantId deviceId source seat showId status ticketId?).All
      (NoUpdate none) :=
  (noUpdate_ask rfl).bind fun _ => (noUpdate_ask rfl).bind fun _ => trivial

theorem noUpdate_claim :
    (claim userId tenantId deviceId source payload ticket).All (NoUpdate none) := by
  unfold claim
  cases ticket.status with
  | ACTIVE =>
      refine (noUpdate_ask rfl).bind fun _ => (noUpdate_ask rfl).bind fun (count : Nat) => ?_
      split <;> exact noUpdate_finalizeScan
  | _ => exact noUpdate_finalizeScan

theorem noUpdate_scanToken :
    (scanToken P qrToken userId tenantId deviceId source).All (NoUpdate none) := by
  unfold scanToken
  split
  · exact noUpdate_finalizeScan
  · refine (noUpdate_ask rfl).bind fun ticket? => ?_
    cases ticket? with
    | none => exact noUpdate_finalizeScan
    | some ticket =>
        dsimp only
        unfold admitTicket
        split
        · exact noUpdate_finalizeScan
        · refine (noUpdate_ask rfl).bind fun (now : Time) => ?_
          split
          · exact noUpdate_finalizeScan
          · refine (noUpdate_ask rfl).bind fun show? => ?_
            cases show? with
            | none => exact noUpdate_claim
            | some shw =>
                refine (noUpdate_ask rfl).bind fun (nowMs : Time) => ?_
                split
                · exact noUpdate_finalizeScan
                · split
                  · exact noUpdate_finalizeScan
                  · exact noUpdate_claim

theorem noUpdate_scanTicket :
    (scanTicket P qrToken userId tenantId deviceId source).All (NoUpdate none) := by
  unfold scanTicket
  split
  · split
    · exact noUpdate_scanToken
    · refine (noUpdate_ask rfl).bind fun device? => ?_
      cases device? with
      | none => exact noUpdate_finalizeScan
      | some device =>
          exact (noUpdate_ask rfl).bind fun _ => (noUpdate_ask rfl).bind fun _ => noUpdate_scanToken
  · exact noUpdate_scanToken

end ScanTicket

theorem meets_noUpdate {α : Type} {p : ScanM α} (hp : p.All (NoUpdate none)) :
    Meets (ScanOp.body P) activeOffline i op p s := by
  refine fine_of_all hp fun c hc s _ => ?_
  obtain ⟨q, rfl, hq⟩ := hc
  refine ⟨nofun, fun o hwaits => ⟨hwaits, ?_⟩⟩
  rw [hq]
  nofun

theorem meetsIn_noUpdate {α : Type} {p : ScanM α} (hp : p.All (NoUpdate (some tx)))
    (hs : Opened i tx s) :
    MeetsIn (ScanOp.body P) activeOffline i op tx p (fun _ _ _ => True) s := by
  refine meetsIn_of_all (G := fun _ => True) hp hs trivial fun q s o hq _ hwaits => ⟨hwaits, ?_⟩
  rw [hq]
  nofun

theorem meetsIn_logScan {ticket : Ticket} {scannedAtDate : JsDate} {finalStatus : SyncStatus}
    {qrToken : String} (hs : Opened i tx s) :
    MeetsIn (ScanOp.body P) activeOffline i op tx
      (logScan deviceId tenantId tx ticket scannedAtDate finalStatus qrToken)
      (fun _ _ _ => True) s :=
  meetsIn_noUpdate ((noUpdate_ask rfl).bind fun _ => (noUpdate_ask rfl).bind fun _ => trivial) hs

/-- What one of these reads in its transaction, that has written nothing yet. -/
theorem meetsIn_read {α : Type} {q : ScanStmt} {f : q.Ret → ScanM α}
    (hs : Within i tx (fun ss _ => ss.writes = []) (fun _ => True) s)
    (hq : ∀ d, (q.exec d).2 = []) (hnone : offlineUpdate? (.stmt (some tx) q) = none)
    (hok : ∀ a s, Within i tx (fun ss _ => ss.writes = [])
      (fun d => (q.exec d).1 = .ok a) s →
      MeetsIn (ScanOp.body P) activeOffline i op tx (f a) (fun _ _ _ => True) s) :
    MeetsIn (ScanOp.body P) activeOffline i op tx (ask (some tx) q >>= f) (fun _ _ _ => True) s := by
  refine meetsIn_stmt (H := fun _ ss _ => ss.writes = []) (L := fun a d => (q.exec d).1 = .ok a)
    hs (fun s o _ hwaits => ⟨hwaits, by rw [hnone]; nofun⟩) (fun a o ss d hss _ hexec => ?_)
    fun a s _ h => hok a s h
  have hview : doorDb.exec q o d = q.exec d := rfl
  rw [hss, show doorDb.applyAll [] d = d from rfl, hview] at hexec
  refine ⟨?_, (Prod.mk.inj hexec).1⟩
  show ss.writes ++ (q.exec (doorDb.applyAll ss.writes d)).2 = []
  rw [hss, hq]
  rfl

theorem meetsIn_syncScan (scan : OfflineScanDto)
    (hs : Within i tx (fun ss _ => ss.writes = []) (fun _ => True) s) :
    MeetsIn (ScanOp.body P) activeOffline i op tx (syncScan P deviceId tenantId scan tx)
      (fun _ _ _ => True) s := by
  have hret : ∀ (r : SyncResult) (s : DoorSnap), Opened i tx s →
      MeetsIn (ScanOp.body P) activeOffline i op tx (.ret r) (fun _ _ _ => True) s :=
    fun r s hs => meetsIn_ret ⟨hs, fun _ _ => trivial⟩
  unfold syncScan
  dsimp only
  split
  · exact hret _ s hs.own.1
  · rename_i payload _
    refine meetsIn_read hs (fun d => ?_) rfl fun existingLog s hs => ?_
    · cases P.newDate scan.scannedAt <;> rfl
    split
    · exact hret _ s hs.own.1
    · refine meetsIn_read ⟨hs.own, trivial⟩ (fun d => ?_) rfl fun existingQueue s hs => ?_
      · cases P.newDate scan.scannedAt <;> rfl
      split
      · exact hret _ s hs.own.1
      · refine meetsIn_read ⟨hs.own, trivial⟩ (fun d => rfl) rfl fun ticket? s hs => ?_
        cases ticket? with
        | none => exact hret _ s hs.own.1
        | some ticket =>
            dsimp only
            split
            · exact hret _ s hs.own.1
            · cases hstatus : ticket.status with
              | USED => exact meetsIn_logScan hs.own.1
              | other text => exact meetsIn_logScan hs.own.1
              | ACTIVE =>
                  refine meetsIn_stmt (H := fun _ _ _ => True) (L := fun _ _ => True) hs
                    (fun s o hread hwaits => ⟨hwaits, ?_⟩) (fun _ _ _ _ _ _ _ => ⟨trivial, trivial⟩)
                    fun _ s _ h => meetsIn_logScan h.own.1
                  rintro _ ⟨⟩ t ht hid
                  have hmem := List.mem_of_find?_eq_some (Except.ok.inj hread)
                  obtain rfl := List.inj_on_of_nodup_map s.world.data.tickets.ids ht hmem hid
                  exact hstatus

theorem meets_syncOfflineScans (scans : List OfflineScanDto) (s : DoorSnap) :
    Meets (ScanOp.body P) activeOffline i op (syncOfflineScans P deviceId tenantId scans) s := by
  have hother : ∀ {q : ScanStmt} (s : DoorSnap) (o : Option Loss),
      offlineUpdate? (.stmt none q) = none → doorDb.waits (.stmt none q) o s.world = false →
        activeOffline.allows i op (.stmt none q) o s := by
    intro q s o hq hwaits
    refine ⟨hwaits, ?_⟩
    rw [hq]
    nofun
  unfold syncOfflineScans
  split
  · exact fine_err
  · refine fine_query (fun s _ => ⟨nofun, fun o => hother s o rfl⟩) fun s o device? _ _ _ => ?_
    cases device? with
    | none => exact fine_err
    | some device =>
        refine fine_query (fun s _ => ⟨nofun, fun o => hother s o rfl⟩) fun s o lastSeenAt _ _ _ => ?_
        refine fine_query (fun s _ => ⟨nofun, fun o => hother s o rfl⟩) fun s o _ _ _ hinv => ?_
        refine fine_mapM hinv fun scan _ s hinv => ?_
        refine fine_attempt hinv ?_ fun result s _ => by cases result <;> exact fine_ret
        refine meets_transaction (B := fun _ _ _ => True) (G := fun _ => True) trivial
          (fun s c o hstmt _ hwaits => ⟨hwaits, ?_⟩)
          (fun s tx _ h => meetsIn_syncScan scan ⟨h.own.mono fun _ _ h => h.1, trivial⟩)
          fun s tx _ o _ hwaits => ⟨hwaits, nofun⟩
        cases c with
        | stmt t q => exact absurd rfl (hstmt t q)
        | _ => nofun

theorem activeOffline_visits (P : DoorPlatform) (d : Door)
    {xs : List (Visit (Option Loss) (DbEnv Nat) ScanOp)}
    (h : postgres.admitsRun (door P) (Config.idle (.idle d)) (visits 0 xs)) :
    activeOffline.admitsRun (door P) (Config.idle (.idle d)) (visits 0 xs) := by
  have hinv : (solo activeOffline).inv (⟨.idle d, []⟩ : DoorSnap) :=
    ⟨⟨List.nodup_nil, nofun, nofun⟩, openers_idle _⟩
  have hready : StartsIn (door P) (fun _ _ => True) (Config.idle (.idle d)) xs :=
    startsIn_of_forall (fun _ _ => trivial) _ _
  refine admitsRun_visits hinv h hready (fun h => h) (fun _ _ => trivial) fun i op s _ _ _ => ?_
  cases op with
  | scanTicket => exact wp_map _ (meets_noUpdate noUpdate_scanTicket)
  | syncOfflineScans deviceId tenantId scans => exact wp_map _ (meets_syncOfflineScans scans s)

end Visits

end Omnipax.Scans
