import Omnipax.Payments
import Omnipax.Scans

/-!
# Tickets of a booking

`generateTicketsForBooking` makes a ticket for each CONFIRMED seat of a booking.
Whether a seat has one it sees from the seat number, its row and its number
written together, in a table that has no unique index on it. So two calls that
overlap both make tickets, and of two seats that are written alike the second
gets none.
-/

namespace Omnipax.TicketGeneration

open Conc Database Prog
open Scans (DoorPlatform GRACE_PERIOD_MS QRPayload Show)

/-! ## Rows -/

structure Seat where
  row : String
  number : Int
deriving Repr, DecidableEq

/-- `row + number` -/
def Seat.seatNumber (s : Seat) : String := s.row ++ toString s.number

/-- With the seat of its `seatId`. -/
structure BookingSeat where
  bookingId : String
  seat : Seat
  status : Option Payments.BookingStatus
deriving Repr, DecidableEq

structure Ticket extends Scans.Ticket where
  bookingId : String
deriving Repr, DecidableEq

structure TicketData where
  bookingSeats : List BookingSeat
  shows : List Show
  tickets : List Ticket
deriving Repr, DecidableEq

/-- The CONFIRMED seats of the booking. -/
def TicketData.confirmedSeats (d : TicketData) (bookingId : String) : List BookingSeat :=
  d.bookingSeats.filter fun bs => bs.bookingId == bookingId && bs.status == some .CONFIRMED

/-! ## Statements -/

inductive TicketStmt where
  | bookingSeatFindMany (bookingId : String)
  | showFindUnique (id : String)
  | randomUUID
  | ticketFindFirst (bookingId seatNumber : String)
  | ticketCreate (row : Ticket)
deriving Repr, DecidableEq

abbrev TicketStmt.Ret : TicketStmt → Type
  | .bookingSeatFindMany _ => List BookingSeat
  | .showFindUnique _ => Option Show
  | .randomUUID => String
  | .ticketFindFirst .. => Option Ticket
  | .ticketCreate _ => Ticket

/-- Whether a request or its answer is lost, the order of rows, and what is
drawn. -/
structure TicketOracle where
  loss : Option Loss := none
  order : List Nat := []
  uuid : String := ""
deriving Repr, DecidableEq

/-- The values of the unique indexes. -/
inductive TicketKey where
  | id (id : String)
  | qrHash (qrHash : String)
deriving Repr, DecidableEq

def TicketStmt.exec (o : TicketOracle) (d : TicketData) :
    (q : TicketStmt) → Except StepError q.Ret × List Ticket
  | .bookingSeatFindMany bookingId => (.ok (shuffle o.order (d.confirmedSeats bookingId)), [])
  | .showFindUnique id => (.ok (d.shows.find? (·.id == id)), [])
  | .randomUUID => (.ok o.uuid, [])
  | .ticketFindFirst bookingId seatNumber =>
      (.ok (shuffle o.order (d.tickets.filter fun t =>
        t.bookingId == bookingId && t.seatNumber == seatNumber)).head?, [])
  | .ticketCreate row =>
      if d.tickets.any fun t => t.id == row.id || t.qrHash == row.qrHash then
        (.error (.prisma "P2002"), [])
      else (.ok row, [row])

def TicketStmt.inProcess : TicketStmt → Bool
  | .randomUUID => true
  | _ => false

/-- A write is a new row. -/
def ticketDb : Database TicketStmt TicketData Ticket TicketKey TicketOracle StepError where
  Ans := TicketStmt.Ret
  exec q o d := q.exec o d
  apply row d := { d with tickets := d.tickets ++ [row] }
  keys row := [.id row.id, .qrHash row.qrHash]
  loss := TicketOracle.loss
  inProcess := TicketStmt.inProcess
  gone := .unavailable

/-! ## The service -/

/-- With what comes from `JSON` and `Buffer`. -/
structure TicketPlatform extends DoorPlatform where
  /-- `Buffer.from(JSON.stringify(payload)).toString('base64')` -/
  encodePayload : QRPayload → String

/-- `QrUtil.generateSignedToken` -/
def TicketPlatform.generateSignedToken (P : TicketPlatform) (payload : QRPayload) : String :=
  let base64Payload := P.encodePayload payload
  let signature := P.hmacSha256Hex P.secret base64Payload
  "v1." ++ base64Payload ++ "." ++ signature

inductive TicketExn where
  | error (message : String)
  | step (e : StepError)
deriving Repr, DecidableEq

abbrev TicketM := Prog ticketDb.sig TicketExn

def ask (tx : Option Nat) (q : TicketStmt) : TicketM q.Ret := ticketDb.query TicketExn.step tx q

structure GeneratedTickets where
  tickets : List Ticket
  tokens : List String
deriving Repr, DecidableEq

section Service

variable (P : TicketPlatform) (bookingId showId tenantId : String)

/-- A round of the loop: none where the seat has a ticket. -/
def generateTicket (expirationUnixSecs : Int) (tx : Nat) (bs : BookingSeat) :
    TicketM (Option (Ticket × String)) := do
  match ← ask (some tx) (.ticketFindFirst bookingId bs.seat.seatNumber) with
  | some _ => return none
  | none => do
      let newTicketId ← ask none .randomUUID
      let rawToken := P.generateSignedToken ⟨newTicketId, showId, expirationUnixSecs⟩
      let dbTicket ← ask (some tx) (.ticketCreate
        { id := newTicketId, bookingId, showId, seatNumber := bs.seat.seatNumber,
          qrHash := P.hashToken rawToken, status := .ACTIVE, scannedAt := none, scannedBy := none,
          tenantId })
      return some (dbTicket, rawToken)

def generateTicketsForBooking : TicketM GeneratedTickets := do
  let bookingSeats ← ask none (.bookingSeatFindMany bookingId)
  match ← ask none (.showFindUnique showId) with
  | none => throw (.error s!"Show not found for generation: {showId}")
  | some shw => do
      let expirationUnixSecs := (shw.startTime + GRACE_PERIOD_MS) / 1000
      let generated ← ticketDb.transaction TicketExn.step fun tx =>
        bookingSeats.mapM (generateTicket P bookingId showId tenantId expirationUnixSecs tx)
      return { tickets := generated.reduceOption.map (·.1), tokens := generated.reduceOption.map (·.2) }

end Service

/-! ## The system -/

structure TicketOp where
  bookingId : String
  showId : String
  tenantId : String
deriving Repr, DecidableEq

def TicketOp.body (P : TicketPlatform) (op : TicketOp) : TicketM GeneratedTickets :=
  generateTicketsForBooking P op.bookingId op.showId op.tenantId

abbrev TicketStore := Store TicketData Ticket
abbrev TicketSnap := Snap ticketDb.sig TicketStore TicketOracle TicketOp
abbrev TicketLabel := Label TicketOracle (DbEnv Empty) TicketOp
abbrev TicketOutline := Outline ticketDb.sig TicketStore TicketOracle TicketOp

abbrev office (P : TicketPlatform) : System ticketDb.sig TicketStore TicketOracle (DbEnv Empty) TicketExn
    GeneratedTickets TicketOp :=
  ticketDb.system (fun e _ => e.elim) (TicketOp.body P)

/-! ## Seat numbers -/

/-- The seat numbers that the tickets of the booking have. -/
def seatNumbers (bookingId : String) (tickets : List Ticket) : List String :=
  (tickets.filter (·.bookingId == bookingId)).map (·.seatNumber)

/-- The seat numbers that a call has tickets to make for: those of the CONFIRMED seats of
the booking, each as often as it comes. -/
def TicketData.due (d : TicketData) (bookingId : String) : List String :=
  (d.confirmedSeats bookingId).map (·.seat.seatNumber)

/-- One ticket for each CONFIRMED seat of the booking, and no other. -/
def Matched (bookingId : String) (d : TicketData) : Prop :=
  (seatNumbers bookingId d.tickets).Perm (d.due bookingId)

instance (bookingId : String) (d : TicketData) : Decidable (Matched bookingId d) :=
  inferInstanceAs (Decidable (List.Perm _ _))

section Numbers

variable {bookingId seatNumber : String} {tickets rows : List Ticket} {row t : Ticket} {d : TicketData}
  {o : TicketOracle}

theorem seatNumbers_append : seatNumbers bookingId (tickets ++ rows)
    = seatNumbers bookingId tickets ++ seatNumbers bookingId rows := by
  rw [seatNumbers, List.filter_append, List.map_append]
  rfl

theorem mem_seatNumbers : seatNumber ∈ seatNumbers bookingId tickets ↔
    ∃ t ∈ tickets, t.bookingId = bookingId ∧ t.seatNumber = seatNumber := by
  simp [seatNumbers, and_assoc]

theorem seatNumbers_singleton (h : row.bookingId = bookingId) :
    seatNumbers bookingId [row] = [row.seatNumber] := by
  rw [seatNumbers, List.filter_singleton, h, beq_self_eq_true]
  rfl

theorem tickets_applyAll (rows : List Ticket) (d : TicketData) :
    ticketDb.applyAll rows d = { d with tickets := d.tickets ++ rows } := by
  induction rows generalizing d with
  | nil => rw [List.append_nil]; rfl
  | cons row rows ih =>
      rw [applyAll_cons, ih]
      exact congrArg (fun tickets => { d with tickets }) (List.append_assoc d.tickets [row] rows)

/-- What `findFirst` says of the seat numbers. -/
theorem findFirst_some
    (h : (ticketDb.exec (.ticketFindFirst bookingId seatNumber) o d).1 = .ok (some t)) :
    seatNumber ∈ seatNumbers bookingId d.tickets := by
  have hhead := List.mem_of_head? (Except.ok.inj h)
  obtain ⟨hmem, hboth⟩ := List.mem_filter.mp (mem_shuffle.mp hhead)
  rw [Bool.and_eq_true, beq_iff_eq, beq_iff_eq] at hboth
  exact mem_seatNumbers.mpr ⟨t, hmem, hboth⟩

theorem findFirst_none
    (h : (ticketDb.exec (.ticketFindFirst bookingId seatNumber) o d).1 = .ok none) :
    seatNumber ∉ seatNumbers bookingId d.tickets := by
  intro hmem
  obtain ⟨t, ht, hboth⟩ := mem_seatNumbers.mp hmem
  have hempty := shuffle_eq_nil.mp (List.head?_eq_none_iff.mp (Except.ok.inj h))
  refine List.not_mem_nil (hempty ▸ List.mem_filter.mpr ⟨ht, ?_⟩)
  rw [hboth.1, hboth.2, beq_self_eq_true, beq_self_eq_true]
  rfl

theorem exec_create (h : (ticketDb.exec (.ticketCreate row) o d).1 = .ok t) :
    (ticketDb.exec (.ticketCreate row) o d).2 = [row] := by
  change (TicketStmt.exec o d _).1 = _ at h
  change (TicketStmt.exec o d _).2 = _
  simp only [TicketStmt.exec] at h ⊢
  split at h
  · cases h
  · rename_i hnot
    rw [if_neg hnot]

end Numbers

/-! ## Commits -/

/-- The transaction that commits has made a ticket for a seat number of the
booking that has one by now. -/
def repeats (bookingId : String) (s : TicketStore) : TxCmd TicketStmt → Bool
  | .commit tx =>
      match s.session? tx with
      | some ss => (seatNumbers bookingId ss.writes).any
          ((seatNumbers bookingId s.data.tickets).contains ·)
      | none => false
  | _ => false

/-- Calls for one booking, none of which commits a ticket for a seat number that
another one has committed a ticket for since it looked. -/
def inTurn (bookingId : String) : Discipline ticketDb.sig TicketStore TicketOracle TicketOp where
  starts op := op.bookingId = bookingId
  allows _ _ c o s := ticketDb.waits c o s.world = false ∧ repeats bookingId s.world c = false

instance (bookingId : String) : DecidablePred (inTurn bookingId).starts := fun _ =>
  instDecidableEqString _ _

instance (bookingId : String) (i : Nat) (op : TicketOp) (c : TxCmd TicketStmt) (o : TicketOracle) :
    DecidablePred ((inTurn bookingId).allows i op c o) := fun _ =>
  inferInstanceAs (Decidable (_ ∧ _))

def returned (th : Thread ticketDb.sig TicketExn GeneratedTickets TicketOp) : Bool :=
  match th.prog with
  | .ret _ => true
  | _ => false

def succeeds (o : TicketOracle) (s : TicketStore) : TxCmd TicketStmt → Bool
  | .begin => (ticketDb.step .begin o s).1.isOk
  | .stmt tx q => (ticketDb.step (.stmt tx q) o s).1.isOk
  | .commit tx => (ticketDb.step (.commit tx) o s).1.isOk
  | .rollback _ => true

/-- Calls for one booking of which no step fails. -/
def steady (bookingId : String) : Discipline ticketDb.sig TicketStore TicketOracle TicketOp where
  starts op := op.bookingId = bookingId
  allows _ _ c o s := ticketDb.waits c o s.world = false ∧ succeeds o s.world c = true

instance (bookingId : String) : DecidablePred (steady bookingId).starts := fun _ =>
  instDecidableEqString _ _

instance (bookingId : String) (i : Nat) (op : TicketOp) (c : TxCmd TicketStmt) (o : TicketOracle) :
    DecidablePred ((steady bookingId).allows i op c o) := fun _ =>
  inferInstanceAs (Decidable (_ ∧ _))

/-- The tickets of the booking are for different seat numbers, each of them that of one of
its CONFIRMED seats. -/
structure Distinct (bookingId : String) (d : TicketData) (tickets : List Ticket) : Prop where
  nodup : (seatNumbers bookingId tickets).Nodup
  due : ∀ n ∈ seatNumbers bookingId tickets, n ∈ d.due bookingId

/-- What an open transaction has written, when it has been through the seat
numbers `done`. -/
structure Covers (bookingId : String) (d₀ : TicketData) (done : List String) (ss : Session Ticket)
    (d : TicketData) : Prop where
  going : ss.failed = false
  distinct : Distinct bookingId d₀ ss.writes
  done : ∀ n ∈ done, n ∈ seatNumbers bookingId (d.tickets ++ ss.writes)

/-- The seats are as they were, and the committed tickets are distinct. -/
structure Generation (bookingId : String) (d₀ : TicketData) (s : TicketSnap) : Prop where
  store : ticketDb.StoreOk s.world
  openers : Openers s
  seats : s.world.data.bookingSeats = d₀.bookingSeats
  tickets : Distinct bookingId d₀ s.world.data.tickets

/-- A statement by itself that writes nothing, or a commit of distinct tickets. -/
def Sends (bookingId : String) (d₀ : TicketData) (i : Nat) (s : TicketSnap) : TxCmd TicketStmt → Prop
  | .stmt none q => ∀ o d, (ticketDb.exec q o d).2 = []
  | .commit tx => InTx i tx (fun ss _ => Distinct bookingId d₀ ss.writes) s
  | _ => True

def generationOutline (bookingId : String) (d₀ : TicketData) : TicketOutline where
  toDiscipline := inTurn bookingId
  inv := Generation bookingId d₀
  pre i _ c s := Own i c s ∧ Sends bookingId d₀ i s c

section Runs

variable {P : TicketPlatform} {bookingId : String} {d₀ : TicketData} {i tx : Nat} {op : TicketOp}
  {s : TicketSnap} {done : List String}

theorem tracks_generation (bookingId : String) (d₀ : TicketData) :
    Tracks (generationOutline bookingId d₀) where
  store h := h.store
  openers h := h.openers
  own h := h.1
  waits h := h.1

theorem Distinct.append {tickets rows : List Ticket} (h : Distinct bookingId d₀ tickets)
    (hrows : Distinct bookingId d₀ rows)
    (hnew : ∀ n ∈ seatNumbers bookingId rows, n ∉ seatNumbers bookingId tickets) :
    Distinct bookingId d₀ (tickets ++ rows) where
  nodup := by
    rw [seatNumbers_append]
    exact h.nodup.append hrows.nodup fun n hn hn' => hnew n hn' hn
  due n hn := by
    rw [seatNumbers_append] at hn
    exact (List.mem_append.mp hn).elim (h.due n) (hrows.due n)

theorem Covers.apply {ss : Session Ticket} {row : Ticket} {d : TicketData}
    (h : Covers bookingId d₀ done ss d) : Covers bookingId d₀ done ss (ticketDb.apply row d) where
  going := h.going
  distinct := h.distinct
  done n hn := by
    have hmem := h.done n hn
    change n ∈ seatNumbers bookingId ((d.tickets ++ [row]) ++ ss.writes)
    rw [seatNumbers_append, List.mem_append] at hmem ⊢
    rw [seatNumbers_append]
    exact hmem.imp_left (List.mem_append_left _)

theorem Covers.stable (P : TicketPlatform) (bookingId : String) (d₀ : TicketData) (i tx : Nat)
    (done : List String) :
    Stable (office P) (generationOutline bookingId d₀) i (InTx i tx (Covers bookingId d₀ done)) :=
  InTx.stable (tracks_generation bookingId d₀) (fun _ _ _ _ h => h.apply) fun _ e => e.elim

theorem seats_step (c : TxCmd TicketStmt) (o : TicketOracle) (w : TicketStore) :
    (ticketDb.step c o w).2.data.bookingSeats = w.data.bookingSeats :=
  data_of_forall (I := fun d : TicketData => d.bookingSeats = w.data.bookingSeats) (fun _ _ h => h) c o rfl

theorem generation_exec (h : Generation bookingId d₀ s) (i : Nat) (op : TicketOp)
    (c : TxCmd TicketStmt) (o : TicketOracle) (hpre : (generationOutline bookingId d₀).pre i op c s)
    (hallows : (inTurn bookingId).allows i op c o s) :
    Generation bookingId d₀ (s.exec (office P) i op c o) where
  store := storeOk_step h.store hallows.1
  openers := openers_exec h.openers i op c o
  seats := (seats_step c o s.world).trans h.seats
  tickets := by
    show Distinct bookingId d₀ (ticketDb.step c o s.world).2.data.tickets
    rcases step_data ticketDb c o s.world with hd | ⟨q, rfl, -, hd⟩ | ⟨ss, rfl, hss, -, hd⟩
    · rw [hd]
      exact h.tickets
    · have hwants : ticketDb.wants none q o s.world = [] := hpre.2 o s.world.data
      rw [hd, hwants]
      exact h.tickets
    · have hsession := session?_of_mem h.store hss
      have hnew := hallows.2
      rw [repeats, hsession] at hnew
      rw [hd, tickets_applyAll]
      refine h.tickets.append (hpre.2.2 ss hsession) fun n hn hn' => ?_
      exact Bool.eq_false_iff.mp hnew (List.any_eq_true.mpr ⟨n, hn, List.contains_iff_mem.mpr hn'⟩)

/-! ### The loop -/

variable {n showId tenantId : String} {expirationUnixSecs : Int} {ss : Session Ticket} {d : TicketData}

theorem Covers.look (h : Covers bookingId d₀ done ss d)
    (hn : n ∈ seatNumbers bookingId (d.tickets ++ ss.writes)) :
    Covers bookingId d₀ (n :: done) ss d where
  going := h.going
  distinct := h.distinct
  done n' hn' := (List.mem_cons.mp hn').elim (fun heq => heq ▸ hn) (h.done n')

theorem Covers.create {row : Ticket} (h : Covers bookingId d₀ done ss d)
    (hrow : row.bookingId = bookingId) (hn : row.seatNumber = n)
    (hnew : n ∉ seatNumbers bookingId ss.writes) (hdue : n ∈ d₀.due bookingId) :
    Covers bookingId d₀ (n :: done) { ss with writes := ss.writes ++ [row] } d := by
  have hone := seatNumbers_singleton hrow
  rw [hn] at hone
  have hdistinct : Distinct bookingId d₀ [row] := by
    refine ⟨?_, fun n hn => ?_⟩ <;> rw [hone] at *
    · exact List.nodup_singleton _
    · exact List.mem_singleton.mp hn ▸ hdue
  refine ⟨h.going, h.distinct.append hdistinct fun n hn => ?_, fun n hn => ?_⟩
  · rw [hone, List.mem_singleton] at hn
    exact hn ▸ hnew
  · rw [← List.append_assoc, seatNumbers_append, hone, List.mem_append, List.mem_singleton]
    exact (List.mem_cons.mp hn).symm.imp_left (h.done n)

theorem step_read {q : TicketStmt} {o : TicketOracle} {a : q.Ret} {w : TicketStore}
    (hq : ∀ o d, (ticketDb.exec q o d).2 = []) (ha : (ticketDb.step (.stmt none q) o w).1 = .ok a) :
    (ticketDb.step (.stmt none q) o w).2 = w := by
  obtain ⟨-, hstep⟩ := query_ok ha
  rw [hstep, hq]
  rfl

/-- The transaction has looked for the seat number and not found it. -/
structure Missed (bookingId : String) (d₀ : TicketData) (done : List String) (n : String)
    (ss : Session Ticket) (d : TicketData) : Prop extends Covers bookingId d₀ done ss d where
  missed : n ∉ seatNumbers bookingId ss.writes

theorem Missed.stable (P : TicketPlatform) (bookingId : String) (d₀ : TicketData) (i tx : Nat)
    (done : List String) (n : String) :
    Stable (office P) (generationOutline bookingId d₀) i (InTx i tx (Missed bookingId d₀ done n)) :=
  InTx.stable (tracks_generation bookingId d₀) (fun _ _ _ _ h => ⟨h.apply, h.missed⟩)
    fun _ e => e.elim

theorem wp_generateTicket {bs : BookingSeat} (hdue : bs.seat.seatNumber ∈ d₀.due bookingId)
    (hs : InTx i tx (Covers bookingId d₀ done) s) :
    (generateTicket P bookingId showId tenantId expirationUnixSecs tx bs).wp (office P)
      (generationOutline bookingId d₀) i op
      (fun _ => InTx i tx (Covers bookingId d₀ (bs.seat.seatNumber :: done)))
      (fun _ s => Opened i tx s ∧ True) s := by
  refine wp_stmt persistent_true (Covers.stable P bookingId d₀ i tx done) hs trivial
    (fun _ _ h => ⟨h.1.own rfl, trivial⟩) fun s o existing _ hin _ _ hok => ?_
  cases existing with
  | some t =>
      refine wp_ret (Covers.stable P bookingId d₀ i tx _) (hin.stmt hok fun ss _ _ hcovers hexec => ?_)
        fun _ _ h => h
      have hfound := findFirst_some hexec
      rw [tickets_applyAll] at hfound
      show Covers bookingId d₀ _ { ss with writes := ss.writes ++ [] } s.world.data
      rw [List.append_nil]
      exact hcovers.look hfound
  | none =>
      have hmissed : InTx i tx (Missed bookingId d₀ done bs.seat.seatNumber)
          (s.exec (office P) i op (.stmt (some tx) (.ticketFindFirst bookingId bs.seat.seatNumber)) o) := by
        refine hin.stmt hok fun ss _ _ hcovers hexec => ?_
        have hnone := findFirst_none hexec
        rw [tickets_applyAll, seatNumbers_append, List.mem_append, not_or] at hnone
        show Missed bookingId d₀ _ _ { ss with writes := ss.writes ++ [] } s.world.data
        rw [List.append_nil]
        exact ⟨hcovers, hnone.2⟩
      refine wp_query (Missed.stable P bookingId d₀ i tx done _) hmissed
        ((Opened.persistent i tx).and persistent_true) (fun _ h => ⟨h.1, trivial⟩)
        (fun _ _ _ => ⟨nofun, fun _ _ => rfl⟩) fun s o newTicketId _ hmissed _ ha _ => ?_
      have hsame : ((office P).exec (.stmt none .randomUUID) o s.world).2 = s.world :=
        step_read (fun _ _ => rfl) ha
      have hmissed' : InTx i tx (Missed bookingId d₀ done bs.seat.seatNumber)
          (s.exec (office P) i op (.stmt none .randomUUID) o) := by
        refine ⟨(Opened.persistent i tx).exec hmissed.1 .., ?_⟩
        rw [Snap.exec_world, hsame]
        exact hmissed.2
      refine wp_stmt persistent_true (Missed.stable P bookingId d₀ i tx done _) hmissed' trivial
        (fun _ _ h => ⟨h.1.own rfl, trivial⟩) fun s o dbTicket _ hin _ _ hok => ?_
      refine wp_ret (Covers.stable P bookingId d₀ i tx _) (hin.stmt hok fun ss _ _ hmissed hexec => ?_)
        fun _ _ h => h
      show Covers bookingId d₀ _ { ss with writes := ss.writes ++ (ticketDb.exec _ o _).2 } s.world.data
      rw [exec_create hexec]
      exact hmissed.toCovers.create rfl rfl hmissed.missed hdue

theorem Covers.mono {done' : List String} (h : Covers bookingId d₀ done ss d)
    (hdone : ∀ n ∈ done', n ∈ done) : Covers bookingId d₀ done' ss d :=
  ⟨h.going, h.distinct, fun n hn => h.done n (hdone n hn)⟩

theorem wp_generateTickets {l : List BookingSeat}
    (hl : ∀ bs ∈ l, bs.seat.seatNumber ∈ d₀.due bookingId) (hinv : Generation bookingId d₀ s)
    (hs : InTx i tx (Covers bookingId d₀ done) s) :
    (l.mapM (generateTicket P bookingId showId tenantId expirationUnixSecs tx)).wp (office P)
      (generationOutline bookingId d₀) i op
      (fun _ => InTx i tx (Covers bookingId d₀ (l.map (·.seat.seatNumber) ++ done)))
      (fun _ s => Opened i tx s ∧ True) s := by
  induction l generalizing s done with
  | nil => exact wp_ret (Covers.stable P bookingId d₀ i tx done) hs fun _ _ h => h
  | cons bs l ih =>
      rw [List.mapM_cons]
      have hl' := fun bs' hbs' => hl bs' (List.mem_cons_of_mem _ hbs')
      refine wp_bind hinv ((wp_generateTicket (hl bs (List.mem_cons_self ..)) hs).mono
        (fun _ s hinv hs => ?_) fun _ _ _ h => h)
      refine wp_bind hinv ((ih hl' hinv hs).mono (fun _ s _ hs => ?_) fun _ _ _ h => h)
      refine wp_ret (Covers.stable P bookingId d₀ i tx _) (hs.mono fun ss d h => h.mono fun n hn => ?_)
        fun _ _ h => h
      exact List.perm_middle.mem_iff.mpr hn

/-! ### The call -/

/-- Each seat number that was due at the start has a ticket by now. -/
def Served (bookingId : String) (d₀ : TicketData) (s : TicketSnap) : Prop :=
  ∀ n ∈ d₀.due bookingId, n ∈ seatNumbers bookingId s.world.data.tickets

theorem persistent_served (P : TicketPlatform) (bookingId : String) (d₀ : TicketData) :
    Persistent (office P) (Served bookingId d₀) := by
  refine persistent_world (P := fun w : TicketStore => ∀ n ∈ d₀.due bookingId,
    n ∈ seatNumbers bookingId w.data.tickets) (fun w hw c o => ?_) fun w hw e => ?_
  · refine data_of_forall (I := fun d : TicketData => ∀ n ∈ d₀.due bookingId,
      n ∈ seatNumbers bookingId d.tickets) (fun row d hd n hn => ?_) c o hw
    change n ∈ seatNumbers bookingId (d.tickets ++ [row])
    rw [seatNumbers_append]
    exact List.mem_append_left _ (hd n hn)
  · cases e with
    | data e => exact e.elim
    | abort tx => exact hw

theorem distinct_nil : Distinct bookingId d₀ [] :=
  ⟨List.nodup_nil, fun _ h => absurd h List.not_mem_nil⟩

theorem wp_transaction_tickets {l : List BookingSeat}
    (hl : ∀ n, n ∈ l.map (·.seat.seatNumber) ↔ n ∈ d₀.due bookingId) :
    (ticketDb.transaction TicketExn.step fun tx => l.mapM
      (generateTicket P bookingId showId tenantId expirationUnixSecs tx)).wp (office P)
      (generationOutline bookingId d₀) i op (fun _ => Served bookingId d₀) (fun _ _ => True) s := by
  have hdue : ∀ bs ∈ l, bs.seat.seatNumber ∈ d₀.due bookingId := fun bs hbs =>
    (hl _).mp (List.mem_map_of_mem hbs)
  refine wp_transaction (B := fun tx _ => InTx i tx (Covers bookingId d₀ (d₀.due bookingId)))
    (tracks_generation bookingId d₀) trivial persistent_true (fun _ _ _ => ⟨nofun, trivial⟩)
    (fun _ _ _ h => ⟨h.own rfl, trivial⟩)
    (fun _ _ _ _ h => ⟨h.1.own rfl, h.mono fun _ _ hcovers => hcovers.distinct⟩)
    (fun tx _ => Covers.stable P bookingId d₀ i tx _) (fun _ _ _ _ => trivial)
    (fun s tx hinv _ hs => ?_) fun s tx a o _ hin _ hcommit _ => ?_
  · have hblank : InTx i tx (Covers bookingId d₀ []) s := hs.mono fun ss d ⟨hnil, hgo⟩ =>
      ⟨hgo, hnil ▸ distinct_nil, fun _ h => absurd h List.not_mem_nil⟩
    refine (wp_generateTickets hdue hinv hblank).mono (fun _ s _ h => ?_) fun _ _ _ h => h
    exact h.mono fun ss d h => h.mono fun n hn => List.mem_append_left _ ((hl n).mpr hn)
  · obtain ⟨ss, hss, hdata⟩ := commit_ok hcommit
    have hcovers := hin.2 ss hss
    refine wp_ret (persistent_served P bookingId d₀).stable (fun n hn => ?_) fun _ _ h => h
    rw [Snap.exec_world, show (office P).exec = ticketDb.step from rfl, hdata hcovers.going]
    show n ∈ seatNumbers bookingId (ticketDb.applyAll ss.writes s.world.data).tickets
    rw [tickets_applyAll]
    exact hcovers.done n hn

theorem due_eq (h : d.bookingSeats = d₀.bookingSeats) (bookingId : String) :
    d.due bookingId = d₀.due bookingId := by
  rw [TicketData.due, TicketData.confirmedSeats, h]
  rfl

theorem wp_body (P : TicketPlatform) (hop : op.bookingId = bookingId) (s : TicketSnap) :
    (op.body P).wp (office P) (generationOutline bookingId d₀) i op (fun _ => Served bookingId d₀)
      (fun _ _ => True) s := by
  refine wp_query (H := fun _ => True) persistent_true.stable trivial persistent_true
    (fun _ _ => trivial) (fun _ _ _ => ⟨nofun, fun _ _ => rfl⟩) fun s o bookingSeats hinv _ _ ha _ => ?_
  obtain ⟨hexec, -⟩ := query_ok ha
  obtain rfl : shuffle o.order (s.world.data.confirmedSeats op.bookingId) = bookingSeats :=
    Except.ok.inj hexec
  have hl : ∀ n, n ∈ (shuffle o.order (s.world.data.confirmedSeats op.bookingId)).map
      (·.seat.seatNumber) ↔ n ∈ d₀.due bookingId := fun n => by
    rw [((shuffle_perm o.order _).map _).mem_iff, ← due_eq hinv.seats, hop]
    rfl
  refine wp_query (H := fun _ => True) persistent_true.stable trivial persistent_true
    (fun _ _ => trivial) (fun _ _ _ => ⟨nofun, fun _ _ => rfl⟩) fun s o shw hinv _ _ _ _ => ?_
  cases shw with
  | none => exact wp_err_of fun _ _ => trivial
  | some shw =>
      rw [hop] at hl ⊢
      exact wp_map _ (wp_transaction_tickets hl)

theorem generationOutline_valid (P : TicketPlatform) (bookingId : String) (d₀ : TicketData) :
    Outline.Valid (office P) (generationOutline bookingId d₀) fun _ _ _ => Served bookingId d₀ where
  inv_exec h i op c o _ hpre hallows := generation_exec h i op c o hpre hallows
  inv_env h e := by
    refine ⟨?_, openers_env h.openers e, ?_, ?_⟩
    · rw [Snap.env_world]
      exact storeOk_env h.store e
    · cases e with
      | data e => exact e.elim
      | abort tx => exact h.seats
    · cases e with
      | data e => exact e.elim
      | abort tx => exact h.tickets
  body i op s hop _ _ := wp_body P hop s

/-- **Tickets of a booking**: where no call commits a ticket for a seat number that
has one by then, and one of them has returned, the tickets match the CONFIRMED seats
exactly when no two of these have one seat number. -/
theorem matched_run (P : TicketPlatform) {d : TicketData} {bookingId : String}
    (hnone : ∀ t ∈ d.tickets, t.bookingId ≠ bookingId) {ls : List TicketLabel}
    (hls : (inTurn bookingId).admitsRun (office P) (Config.idle (.idle d)) ls) :
    let cfg := (Config.idle (.idle d)).run (office P) ls
    ∀ (i : Nat) (op : TicketOp) (reply : GeneratedTickets), cfg.threads[i]? = some ⟨op, .ret reply⟩ →
      (Matched bookingId cfg.world.data ↔ (d.due bookingId).Nodup) := by
  intro cfg i op reply hth
  have hempty : seatNumbers bookingId d.tickets = [] := by
    refine List.eq_nil_iff_forall_not_mem.mpr fun n hn => ?_
    obtain ⟨t, ht, hid, -⟩ := mem_seatNumbers.mp hn
    exact hnone t ht hid
  have hidle : (generationOutline bookingId d).inv (⟨.idle d, []⟩ : TicketSnap) := by
    refine ⟨⟨List.nodup_nil, nofun, nofun⟩, openers_idle _, rfl, ?_, ?_⟩
    · exact hempty ▸ List.nodup_nil
    · exact fun n hn => absurd (hempty ▸ hn) List.not_mem_nil
  have hgood := Outline.sound (generationOutline_valid P bookingId d) (Outline.Good.idle hidle) hls
  have hserved : Served bookingId d cfg.toSnap := hgood.result hth
  rw [Matched, due_eq hgood.inv.seats]
  refine ⟨fun h => h.nodup_iff.mp hgood.inv.tickets.nodup, fun h => ?_⟩
  exact (List.perm_ext_iff_of_nodup hgood.inv.tickets.nodup h).mpr fun n =>
    ⟨hgood.inv.tickets.due n, hserved n⟩

end Runs

namespace Sample

def platform : TicketPlatform where
  qrSecret := some "secret"
  hmacSha256Hex _ text := text
  sha256Hex text := text
  parsePayload _ := none
  newDate _ := none
  encodePayload payload := payload.t

/-- A booking with the two seats. -/
def booked (seat seat' : Seat) : TicketData where
  bookingSeats := [⟨"b1", seat, some .CONFIRMED⟩, ⟨"b1", seat', some .CONFIRMED⟩]
  shows := [⟨"s1", 0⟩]
  tickets := []

def call : TicketOp := ⟨"b1", "s1", "x1"⟩

/-- The same call again, which makes nothing. -/
def again : List TicketLabel := .spawn call :: List.replicate 10 (.step 1 {})

/-- The steps of a call that nothing interrupts, for a booking with two seats, where it
draws these two ids for its tickets. -/
def alone (i : Nat) : List TicketLabel :=
  [.step i {}, .step i {}, .step i {}, .step i {}, .step i { uuid := "t1" }, .step i {}, .step i {},
    .step i { uuid := "t2" }, .step i {}, .step i {}]

/-- Of two calls one looks for tickets before the other commits. -/
def overlapping : List TicketLabel :=
  [.spawn call, .spawn call, .step 1 {}, .step 1 {}, .step 1 {}, .step 1 {}] ++ alone 0 ++
  [.step 1 { uuid := "t3" }, .step 1 {}, .step 1 {}, .step 1 {}]

end Sample

/-- Two seats that are written alike: one ticket. -/
example : ((Config.idle (.idle (Sample.booked ⟨"A1", 1⟩ ⟨"A", 11⟩))).run (office Sample.platform)
    (.spawn Sample.call :: Sample.alone 0)).world.data.tickets.map (·.seatNumber) = ["A11"] := by
  decide +kernel

theorem matched_again : Matched "b1" ((Config.idle (.idle (Sample.booked ⟨"A", 1⟩ ⟨"A", 2⟩))).run
    (office Sample.platform) (.spawn Sample.call :: Sample.alone 0 ++ Sample.again)).world.data := by
  have hls : (inTurn "b1").admitsRun (office Sample.platform)
      (Config.idle (.idle (Sample.booked ⟨"A", 1⟩ ⟨"A", 2⟩)))
      (.spawn Sample.call :: Sample.alone 0 ++ Sample.again) := by
    decide +kernel
  refine (matched_run Sample.platform (fun _ h => absurd h List.not_mem_nil) hls 1 Sample.call _
    rfl).mpr ?_
  decide +kernel

/-- Two tickets for one seat. -/
theorem not_matched_overlapping : ¬ ∀ (P : TicketPlatform) (d : TicketData) (bookingId : String),
    (∀ t ∈ d.tickets, t.bookingId ≠ bookingId) → ((d.confirmedSeats bookingId).map (·.seat)).Nodup →
    ∀ ls : List TicketLabel, (steady bookingId).admitsRun (office P) (Config.idle (.idle d)) ls →
      ((Config.idle (.idle d)).run (office P) ls).threads ≠ [] →
      (∀ th ∈ ((Config.idle (.idle d)).run (office P) ls).threads, returned th = true) →
      Matched bookingId ((Config.idle (.idle d)).run (office P) ls).world.data := by
  intro h
  have hmatched := h Sample.platform (Sample.booked ⟨"A", 1⟩ ⟨"A", 2⟩) "b1"
    (fun _ ht => absurd ht List.not_mem_nil) (by decide +kernel) Sample.overlapping (by decide +kernel)
    (by decide +kernel) (by decide +kernel)
  revert hmatched
  decide +kernel

end Omnipax.TicketGeneration
