import Omnipax.Conc.Alone
import Omnipax.GateRules

/-!
# What the answer of a scan says

A call of `scanTicket` that has answered has looked for the device and the
ticket, and has tested the ticket against the clock. A ticket that stands all
of these tests, each in the state in which the call makes it, is not ACTIVE
after the answer (`returns_scanTicket`): it was not when the call read it, or the
conditional update has used it, or has found it used.

Time goes on between the steps, and devices may be deactivated.
-/

namespace Omnipax.Scans

open Conc Database Prog

/-! ## The system -/

inductive DoorMove where
  | tick (t : Nat)
  /-- `DevicesService.deactivateDevice` -/
  | deactivate (id : String)
deriving Repr, DecidableEq

def DoorMove.apply : DoorMove → Door → Door
  | .tick t, d => { d with clock := d.clock + t }
  | .deactivate id, d =>
      { d with scannerDevices := d.scannerDevices.map fun v =>
          if v.id = id then { v with isActive := false } else v }

abbrev venue (P : DoorPlatform) :
    System doorDb.sig DoorStore (Option Loss) (DbEnv DoorMove) ScanExn ScanReply ScanOp :=
  doorDb.system DoorMove.apply (ScanOp.body P)

abbrev VenueLabel := Label (Option Loss) (DbEnv DoorMove) ScanOp

/-! ## The tests -/

/-- No ticket with this hash is ACTIVE. -/
def Spent (qrHash : String) (d : Door) : Prop :=
  ∀ t ∈ d.tickets.rows, t.qrHash = qrHash → t.status ≠ .ACTIVE

/-- The tenant has a ticket with this hash. -/
def Issued (qrHash tenantId : String) (d : Door) : Prop :=
  ∃ t ∈ d.tickets.rows, t.qrHash = qrHash ∧ t.tenantId = tenantId

/-- The device is active, the token has not expired, and the show is open. -/
structure Due (P : DoorPlatform) (op : ScanOp) (qrToken : String) (d : Door) : Prop where
  device : DeviceChecked d op
  token : ∀ payload ∈ P.validateToken qrToken, d.clock / 1000 ≤ payload.exp
  window : ∀ t ∈ d.tickets.rows, t.qrHash = P.hashToken qrToken → ∀ shw ∈ d.showOf t,
    shw.admitsAt d.clock

/-- If the call has found the ticket of its token due at each of its steps, the
ticket is not ACTIVE. -/
def Judged (P : DoorPlatform) (i : Nat) (op : ScanOp) (qrToken : String) (s : DoorSnap) : Prop :=
  (P.validateToken qrToken).isSome = true →
    (∀ e ∈ s.hist, e.tid = i → Issued (P.hashToken qrToken) op.tenantId e.before.data ∧
      Due P op qrToken e.before.data) →
    Spent (P.hashToken qrToken) s.world.data

/-- What is promised of calls of `scanTicket`. -/
def ScanOp.verdict (P : DoorPlatform) (i : Nat) : ScanOp → ScanReply → DoorSnap → Prop
  | .scanTicket qrToken userId tenantId deviceId source, _, s =>
      Judged P i (.scanTicket qrToken userId tenantId deviceId source) qrToken s
  | .syncOfflineScans .., _, _ => True

/-- Nothing is asked of a step. -/
def venueOutline : DoorOutline where
  toDiscipline := Discipline.free doorDb.sig DoorStore (Option Loss) fun _ => True
  inv _ := True
  pre _ _ _ _ := True

/-! ## What lasts -/

section Persistence

variable {P : DoorPlatform} {i : Nat} {op : ScanOp} {qrToken qrHash tenantId : String}
  {t : Ticket} {d : Door}

theorem persistent_data {I : Door → Prop} (hwrite : ∀ w d, I d → I (ScanWrite.apply w d))
    (hmove : ∀ m d, I d → I (DoorMove.apply m d)) :
    Persistent (venue P) fun s => I s.world.data := by
  refine persistent_world (P := fun w : DoorStore => I w.data)
    (fun w hw c o => data_of_forall hwrite c o hw) fun w hw e => ?_
  cases e with
  | data m => exact hmove m _ hw
  | abort tx => exact hw

theorem tickets_move (m : DoorMove) (d : Door) : (m.apply d).tickets = d.tickets := by
  cases m <;> rfl

theorem shows_move (m : DoorMove) (d : Door) : (m.apply d).shows = d.shows := by
  cases m <;> rfl

theorem spent_write (w : ScanWrite) (h : Spent qrHash d) : Spent qrHash (w.apply d) := by
  intro t ht hhash
  obtain ⟨f, hrows, hf⟩ := rows_apply w d
  rw [hrows] at ht
  obtain ⟨t₀, ht₀, rfl⟩ := List.mem_map.mp ht
  obtain ⟨-, hsame, hstatus | ⟨hstatus, -⟩⟩ := hf t₀
  · rw [hstatus]
    exact h t₀ ht₀ (hsame.symm.trans hhash)
  · rw [hstatus]
    exact nofun

theorem persistent_spent (P : DoorPlatform) (qrHash : String) :
    Persistent (venue P) fun s => Spent qrHash s.world.data :=
  persistent_data (fun w _ h => spent_write w h) fun m d h => by
    rw [Spent, tickets_move]
    exact h

theorem mem_rows_of_fixed {d' : Door} (h : d'.fixed = d.fixed)
    (ht : ∃ row ∈ d.tickets.rows, row.fixed = t.fixed) : ∃ row ∈ d'.tickets.rows, row.fixed = t.fixed := by
  obtain ⟨row, hrow, hfixed⟩ := ht
  obtain ⟨row', hrow', hfixed'⟩ := ticket_of_fixed h.symm hrow
  exact ⟨row', hrow', hfixed'.trans hfixed⟩

theorem persistent_row (P : DoorPlatform) (t : Ticket) :
    Persistent (venue P) fun s => ∃ row ∈ s.world.data.tickets.rows, row.fixed = t.fixed :=
  persistent_data (I := fun d => ∃ row ∈ d.tickets.rows, row.fixed = t.fixed)
    (fun w d h => mem_rows_of_fixed (fixed_apply w d) h) fun m d h => by
      rw [tickets_move]
      exact h

theorem persistent_shows (P : DoorPlatform) (shows : List Show) :
    Persistent (venue P) fun s => s.world.data.shows = shows :=
  persistent_data (I := fun d => d.shows = shows)
    (fun w d h => (shows_of_fixed (fixed_apply w d)).trans h) fun m d h => (shows_move m d).trans h

theorem persistent_issued (P : DoorPlatform) (qrHash tenantId : String) :
    Persistent (venue P) fun s => Issued qrHash tenantId s.world.data := by
  refine persistent_data (I := Issued qrHash tenantId) (fun w d ⟨t, ht, hhash, htenant⟩ => ?_)
    fun m d h => ?_
  · obtain ⟨row, hrow, hfixed⟩ := mem_rows_of_fixed (fixed_apply w d) ⟨t, ht, rfl⟩
    simp only [Ticket.fixed, Prod.mk.injEq] at hfixed
    exact ⟨row, hrow, hfixed.2.2.1.trans hhash, hfixed.2.2.2.trans htenant⟩
  · rw [Issued, tickets_move]
    exact h

theorem persistent_judged (P : DoorPlatform) (i : Nat) (op : ScanOp) (qrToken : String) :
    Persistent (venue P) (Judged P i op qrToken) where
  exec h j op' c o hvalid hall :=
    (persistent_spent P _).exec (h hvalid fun e he => hall e (List.mem_cons_of_mem _ he)) j op' c o
  env h e hvalid hall := (persistent_spent P _).env (h hvalid hall) e

end Persistence

/-! ## The calls -/

section ScanTicket

variable {P : DoorPlatform} {i : Nat} {op : ScanOp} {s : DoorSnap} {α : Type}
  {qrToken userId tenantId : String} {deviceId : Option String} {source : ScanSource}
  {ticket : Ticket} {payload : QRPayload} {shows : List Show}

/-- What is left of the call returns with the verdict. -/
abbrev Returns (P : DoorPlatform) (i : Nat) (op : ScanOp) (qrToken : String) (p : ScanM α)
    (s : DoorSnap) : Prop :=
  p.wp (venue P) venueOutline i op (fun _ => Judged P i op qrToken) (fun _ _ => True) s

theorem returns_of_judged {p : ScanM α} (h : Judged P i op qrToken s) :
    Returns P i op qrToken p s :=
  (wp_keep (all_true p) (fun _ _ _ _ _ => trivial) (persistent_judged P i op qrToken).kept h).mono
    (fun _ _ _ h => h) fun _ _ _ _ => trivial

/-- The state of a step in which the ticket was not due. -/
theorem judged_of_not_due {c : TxCmd ScanStmt} {o : Option Loss}
    (h : ¬(Issued (P.hashToken qrToken) op.tenantId s.world.data ∧ Due P op qrToken s.world.data)) :
    Judged P i op qrToken (s.exec (venue P) i op c o) :=
  fun _ hall => absurd (hall _ (List.mem_cons_self ..) rfl) h

theorem returns_ask {q : ScanStmt} {f : q.Ret → ScanM α} {H : DoorSnap → Prop}
    (hH : Persistent (venue P) H) (hs : H s)
    (hok : ∀ (s : DoorSnap) (o : Option Loss) a, H s → (doorDb.exec q o s.world.data).1 = .ok a →
      (doorDb.step (.stmt none q) o s.world).2
        = { s.world with data := doorDb.applyAll (doorDb.exec q o s.world.data).2 s.world.data } →
      H (s.exec (venue P) i op (.stmt none q) o) →
      Returns P i op qrToken (f a) (s.exec (venue P) i op (.stmt none q) o)) :
    Returns P i op qrToken (ask none q >>= f) s := by
  refine wp_query hH.stable hs persistent_true (fun _ _ => trivial) (fun _ _ _ => trivial)
    fun s o a _ hs _ ha _ => ?_
  obtain ⟨hexec, hdata⟩ := query_ok ha
  exact hok s o a hs hexec hdata (hH.exec hs ..)

/-- The ticket that the call has read is still in the table but for its status and who
scanned it; and if it was not ACTIVE then, it has been used for good. -/
structure Met (P : DoorPlatform) (i : Nat) (qrToken : String) (ticket : Ticket) (shows : List Show)
    (s : DoorSnap) : Prop where
  row : ∃ row ∈ s.world.data.tickets.rows, row.fixed = ticket.fixed
  shows : s.world.data.shows = shows
  spent : ticket.status ≠ .ACTIVE → Spent (P.hashToken qrToken) s.world.data

theorem persistent_met (P : DoorPlatform) (i : Nat) (qrToken : String) (ticket : Ticket)
    (shows : List Show) : Persistent (venue P) (Met P i qrToken ticket shows) where
  exec h j op c o :=
    { row := (persistent_row P ticket).exec h.row j op c o
      shows := (persistent_shows P shows).exec h.shows j op c o
      spent hstatus := (persistent_spent P _).exec (h.spent hstatus) j op c o }
  env h e :=
    { row := (persistent_row P ticket).env h.row e
      shows := (persistent_shows P shows).env h.shows e
      spent hstatus := (persistent_spent P _).env (h.spent hstatus) e }

theorem eq_of_hash {d : Door} {t t' : Ticket} (ht : t ∈ d.tickets.rows) (ht' : t' ∈ d.tickets.rows)
    (h : t.qrHash = t'.qrHash) : t = t' :=
  List.inj_on_of_nodup_map d.tickets.hashes ht ht' h

/-- Whatever its count is, the conditional update leaves no ACTIVE ticket. -/
theorem spent_updateMany {d : Door} {o : Option Loss} {scannedAt : Time} {scannedBy : String}
    (hrow : ∃ row ∈ d.tickets.rows, row.fixed = ticket.fixed) :
    Spent ticket.qrHash (doorDb.applyAll
      (doorDb.exec (.ticketUpdateMany ticket.id scannedAt scannedBy) o d).2 d) := by
  obtain ⟨row, hrow, hfixed⟩ := hrow
  simp only [Ticket.fixed, Prod.mk.injEq] at hfixed
  show Spent ticket.qrHash (doorDb.applyAll (ScanStmt.exec d _).2 d)
  simp only [ScanStmt.exec]
  split
  · intro t ht hhash
    obtain ⟨t₀, ht₀, rfl⟩ := List.mem_map.mp ht
    split
    · intro hactive
      cases hactive
    · rename_i hid
      rw [if_neg hid] at hhash
      obtain rfl := eq_of_hash ht₀ hrow (hhash.trans hfixed.2.2.1.symm)
      exact absurd hfixed.1 hid
  · rename_i hnone
    intro t ht hhash hactive
    obtain rfl := eq_of_hash ht hrow (hhash.trans hfixed.2.2.1.symm)
    refine hnone (List.any_eq_true.mpr ⟨t, ht, ?_⟩)
    rw [hfixed.1, hactive, beq_self_eq_true, beq_self_eq_true]
    rfl

theorem returns_claim (hhash : ticket.qrHash = P.hashToken qrToken)
    (hs : Met P i qrToken ticket shows s) :
    Returns P i op qrToken (claim userId tenantId deviceId source payload ticket) s := by
  unfold claim
  cases hstatus : ticket.status with
  | USED => exact returns_of_judged fun _ _ => hs.spent (by rw [hstatus]; exact nofun)
  | other text => exact returns_of_judged fun _ _ => hs.spent (by rw [hstatus]; exact nofun)
  | ACTIVE =>
      refine returns_ask (persistent_met P i qrToken ticket shows) hs fun s o scannedAt _ _ _ hs => ?_
      refine returns_ask (persistent_met P i qrToken ticket shows) hs fun s o count hs _ hdata _ => ?_
      refine returns_of_judged fun _ _ => ?_
      rw [Snap.exec_world, show (venue P).exec = doorDb.step from rfl, hdata, ← hhash]
      exact spent_updateMany hs.row

theorem returns_admitTicket (hhash : ticket.qrHash = P.hashToken qrToken)
    (hvalid : P.validateToken qrToken = some payload)
    (hs : Met P i qrToken ticket shows s)
    (htenant : ticket.tenantId ≠ tenantId → Judged P i op qrToken s) :
    Returns P i op qrToken (admitTicket userId tenantId deviceId source payload ticket) s := by
  unfold admitTicket
  split
  · rename_i hne
    exact returns_of_judged (htenant hne)
  · refine returns_ask (persistent_met P i qrToken ticket shows) hs fun s o now _ hnow _ hs => ?_
    obtain rfl : s.world.data.clock = now := Except.ok.inj hnow
    split
    · rename_i hlate
      refine returns_of_judged (judged_of_not_due fun hdue => ?_)
      exact absurd (hdue.2.token payload hvalid) (Int.not_le.mpr hlate)
    · refine returns_ask (persistent_met P i qrToken ticket shows) hs fun s o show? hs₁ hfind _ hs' => ?_
      have hshow : s.world.data.shows.find? (·.id == ticket.showId) = show? := Except.ok.inj hfind
      cases show? with
      | none => exact returns_claim hhash hs'
      | some shw =>
          refine returns_ask (persistent_met P i qrToken ticket shows) hs'
            fun s' o nowMs hs₂ hnow _ hs₃ => ?_
          obtain rfl : s'.world.data.clock = nowMs := Except.ok.inj hnow
          have hopen : Due P op qrToken s'.world.data → shw.admitsAt s'.world.data.clock := by
            intro hdue
            obtain ⟨row, hrow, hfixed⟩ := hs₂.row
            simp only [Ticket.fixed, Prod.mk.injEq] at hfixed
            refine hdue.window row hrow (hfixed.2.2.1.trans hhash) shw ?_
            rw [Door.showOf, hs₂.shows, ← hs₁.shows, hfixed.2.1]
            exact hshow
          split
          · rename_i hlate
            exact returns_of_judged (judged_of_not_due fun hdue =>
              absurd (hopen hdue.2).2 (Int.not_le.mpr hlate))
          · split
            · rename_i hearly
              exact returns_of_judged (judged_of_not_due fun hdue =>
                absurd (hopen hdue.2).1 (Int.not_le.mpr hearly))
            · exact returns_claim hhash hs₃

theorem returns_scanToken (hop : op.tenantId = tenantId) :
    Returns P i op qrToken (scanToken P qrToken userId tenantId deviceId source) s := by
  unfold scanToken
  split
  · rename_i hnone
    exact returns_of_judged fun hsome => by rw [hnone] at hsome; cases hsome
  · rename_i payload hvalid
    refine returns_ask persistent_true trivial fun s o ticket? _ hfind hdata _ => ?_
    have hfound : s.world.data.tickets.rows.find? (·.qrHash == P.hashToken qrToken) = ticket? :=
      Except.ok.inj hfind
    cases ticket? with
    | none =>
        refine returns_of_judged (judged_of_not_due fun ⟨⟨t, ht, hhash, _⟩, _⟩ => ?_)
        exact absurd hhash (by simpa using List.find?_eq_none.mp hfound t ht)
    | some ticket =>
        have hmem := List.mem_of_find?_eq_some hfound
        have hhash : ticket.qrHash = P.hashToken qrToken := by simpa using List.find?_some hfound
        have hsame : (s.exec (venue P) i op (.stmt none (.ticketFindUnique (P.hashToken qrToken))) o).world.data
            = s.world.data := congrArg Store.data hdata
        have hmet : Met P i qrToken ticket s.world.data.shows
            (s.exec (venue P) i op (.stmt none (.ticketFindUnique (P.hashToken qrToken))) o) := by
          refine ⟨?_, congrArg Door.shows hsame, ?_⟩
          · rw [hsame]
            exact ⟨ticket, hmem, rfl⟩
          · rw [hsame]
            intro hstatus t ht hhash'
            obtain rfl := eq_of_hash ht hmem (hhash'.trans hhash.symm)
            exact hstatus
        · refine returns_admitTicket hhash hvalid hmet fun hne => ?_
          refine judged_of_not_due fun ⟨⟨t, ht, hhash', htenant⟩, _⟩ => ?_
          obtain rfl := eq_of_hash ht hmem (hhash'.trans hhash.symm)
          exact hne (htenant.trans hop)

theorem returns_scanTicket :
    Returns P i (.scanTicket qrToken userId tenantId deviceId source) qrToken
      (scanTicket P qrToken userId tenantId deviceId source) s := by
  unfold scanTicket
  split
  · rename_i id
    split
    · exact returns_scanToken rfl
    · rename_i hne
      refine returns_ask persistent_true trivial fun s o device? _ hfind _ _ => ?_
      have hfound : s.world.data.scannerDevices.find?
          (fun v => v.id == id && v.tenantId == tenantId && v.isActive) = device? :=
        Except.ok.inj hfind
      cases device? with
      | none =>
          refine returns_of_judged (judged_of_not_due fun ⟨_, hdue⟩ => ?_)
          obtain ⟨v, hv, hid, htenant, hactive⟩ := hdue.device id (by simp [ScanOp.device?, hne])
          refine absurd (List.find?_eq_none.mp hfound v hv) ?_
          simp [hid, hactive, show v.tenantId = tenantId from htenant]
      | some v =>
          refine returns_ask persistent_true trivial fun _ _ _ _ _ _ _ => ?_
          exact returns_ask persistent_true trivial fun _ _ _ _ _ _ _ => returns_scanToken rfl
  · exact returns_scanToken rfl

end ScanTicket

theorem venueOutline_valid (P : DoorPlatform) :
    Outline.Valid (venue P) venueOutline fun i op => op.verdict P i where
  inv_exec _ _ _ _ _ _ _ _ := trivial
  inv_env _ _ := trivial
  body i op s _ _ _ := by
    cases op with
    | scanTicket qrToken userId tenantId deviceId source => exact wp_map _ returns_scanTicket
    | syncOfflineScans deviceId tenantId scans =>
        exact wp_map _ (wp_keep (F := fun _ => True) (all_true _) (fun _ _ _ _ _ => trivial)
          persistent_true.kept trivial)

/-! ## A scan by itself -/

section Alone

variable {P : DoorPlatform} {qrToken userId tenantId : String} {deviceId : Option String}
  {source : ScanSource} {w : DoorStore}

/-- The call would be answered SUCCESS here and now, if every step succeeds. -/
def Succeeds (P : DoorPlatform) (op : ScanOp) (w : DoorStore) : Prop :=
  ∃ answer, ((op.body P).run doorDb.machine (fun _ => none) 0 w).result = .ok (.scanTicket answer) ∧
    answer.status = .SUCCESS

/-- A scan is answered SUCCESS only where the token is valid and the tenant has
the ticket. -/
abbrev Known (P : DoorPlatform) (qrToken tenantId : String) (d : Door) : Prop :=
  (P.validateToken qrToken).isSome = true ∧ Issued (P.hashToken qrToken) tenantId d

/-- The program returns SUCCESS only where `K` holds. -/
abbrev Only (K : Prop) (p : ScanM ScanAnswer) (w : DoorStore) : Prop :=
  p.wlp doorDb.machine (fun answer _ => answer.status = .SUCCESS → K) (fun _ _ => True) w

theorem only_of_holds {K : Prop} (hK : K) (p : ScanM ScanAnswer) (w : DoorStore) : Only K p w := by
  induction p generalizing w with
  | ret a => exact fun _ => hK
  | err e => trivial
  | call c k ih => exact fun o => ih _ _

theorem only_finalizeScan {K : Prop} {seat showId ticketId? : Option String} {status : ScanStatus}
    (h : status ≠ .SUCCESS) :
    Only K (finalizeScan userId tenantId deviceId source seat showId status ticketId?) w := by
  refine wlp_query (fun o _ _ _ => ?_) fun _ _ => trivial
  exact wlp_query (fun _ _ _ _ hstatus => absurd hstatus h) fun _ _ => trivial

theorem only_scanToken {d : Door} (hd : w.data.tickets = d.tickets) :
    Only (Known P qrToken tenantId d) (scanToken P qrToken userId tenantId deviceId source) w := by
  unfold scanToken
  split
  · exact only_finalizeScan nofun
  · rename_i payload hvalid
    refine wlp_query (fun o ticket? ws hexec => ?_) fun _ _ => trivial
    have hfound : d.tickets.rows.find? (·.qrHash == P.hashToken qrToken) = ticket? := by
      rw [← hd]
      exact Except.ok.inj (congrArg Prod.fst hexec)
    cases ticket? with
    | none => exact only_finalizeScan nofun
    | some ticket =>
        by_cases htenant : ticket.tenantId = tenantId
        · have hhash : ticket.qrHash = P.hashToken qrToken := by simpa using List.find?_some hfound
          exact only_of_holds ⟨Option.isSome_iff_exists.mpr ⟨payload, hvalid⟩, ticket,
            List.mem_of_find?_eq_some hfound, hhash, htenant⟩ _ _
        · dsimp only
          unfold admitTicket
          rw [if_pos htenant]
          exact only_finalizeScan nofun

theorem only_scanTicket : Only (Known P qrToken tenantId w.data)
    (scanTicket P qrToken userId tenantId deviceId source) w := by
  unfold scanTicket
  split
  · rename_i id
    split
    · exact only_scanToken rfl
    · refine wlp_query (fun o device? ws hexec => ?_) fun _ _ => trivial
      obtain rfl : [] = ws := congrArg Prod.snd hexec
      cases device? with
      | none => exact only_finalizeScan nofun
      | some v =>
          refine wlp_query (fun o _ ws hexec => ?_) fun _ _ => trivial
          obtain rfl : [] = ws := congrArg Prod.snd hexec
          refine wlp_query (fun o _ ws hexec => only_scanToken ?_) fun _ _ => trivial
          have hws : (ScanStmt.exec w.data (.deviceUpdate id _)).2 = ws := congrArg Prod.snd hexec
          simp only [ScanStmt.exec] at hws
          split at hws
          · obtain rfl := hws
            rfl
          · obtain rfl := hws
            rfl
  · exact only_scanToken rfl

theorem known_of_succeeds
    (h : Succeeds P (.scanTicket qrToken userId tenantId deviceId source) w) :
    Known P qrToken tenantId w.data := by
  obtain ⟨answer, hrun, hstatus⟩ := h
  have hbody : (ScanOp.body P (.scanTicket qrToken userId tenantId deviceId source)).wlp doorDb.machine
      (fun reply _ => ∀ answer, reply = .scanTicket answer → answer.status = .SUCCESS →
        Known P qrToken tenantId w.data) (fun _ _ => True) w := by
    refine (wlp_bind _ _ _ _ _).mpr (wlp_mono only_scanTicket (fun answer _ h answer' heq => ?_)
      fun _ _ h => h)
    obtain rfl := ScanReply.scanTicket.inj heq
    exact h
  exact hbody.result hrun answer rfl hstatus

end Alone

end Omnipax.Scans
