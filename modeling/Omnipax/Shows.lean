import Omnipax.Commands
import Omnipax.Conc.Transcript

/-!
# Shows and their seats

A show is created together with a row for each seat of its screen, in one
transaction; the seats have been read before. The repair script gives seats to
the screens that have none, and rows to the shows that have none, one show a
transaction. A row is unique by show and seat. Seats are by their identifier only,
so that `skipDuplicates` lets a screen have a seat twice.
-/

namespace Omnipax.Shows

open Conc Database

/-! ## Rows -/

structure Screen where
  id : String
  totalRows : Int
  seatsPerRow : Int
deriving Repr, DecidableEq

/-- `row` is a text, by its UTF-16 code units. -/
structure SeatData where
  screenId : String
  row : List UInt16
  number : Int
deriving DecidableEq

structure Seat extends SeatData where
  id : String
deriving DecidableEq

/-- `price` is passed on only. -/
structure Show where
  id : String
  eventId : String
  screenId : String
  startTime : Time
  price : Rat
  totalCapacity : Nat
  remainingCapacity : Int
  tenantId : Option String
  isActive : Bool
deriving DecidableEq

inductive SeatStatus where
  | AVAILABLE
  | LOCKED
  | BOOKED
deriving Repr, DecidableEq

structure SeatAvailability where
  showId : String
  seatId : String
  status : SeatStatus
  tenantId : Option String
deriving Repr, DecidableEq

def SeatAvailability.key (a : SeatAvailability) : String × String := (a.showId, a.seatId)

structure ShowData where
  eventIds : List String
  screens : List Screen
  seats : List Seat
  shows : List Show
  seatAvailability : List SeatAvailability
deriving DecidableEq

namespace ShowData

def seatsOf (d : ShowData) (screenId : String) : List Seat :=
  d.seats.filter (·.screenId == screenId)

def rowsOf (d : ShowData) (showId : String) : List SeatAvailability :=
  d.seatAvailability.filter (·.showId == showId)

end ShowData

/-! ## Statements -/

structure ShowView where
  id : String
  seatAvailability : List SeatAvailability
deriving DecidableEq

/-- A screen with its seats, and with its shows and their rows. -/
structure ScreenView extends Screen where
  seats : List String
  shows : List ShowView
deriving DecidableEq

structure ShowCreate where
  eventId : String
  screenId : String
  startTime : Time
  price : Rat
  totalCapacity : Nat
  remainingCapacity : Int
  tenantId : Option String
  isActive : Bool
deriving DecidableEq

inductive ShowStmt where
  | screenFindUnique (id : String)
  | screenFindMany
  | seatFindMany (screenId : String)
  /-- Duplicates are skipped. -/
  | seatCreateMany (data : List SeatData)
  | showCreate (data : ShowCreate)
  /-- Both capacities. -/
  | showUpdate (id : String) (capacity : Nat)
  | availabilityCreateMany (data : List SeatAvailability) (skipDuplicates : Bool)
deriving DecidableEq

abbrev ShowStmt.Ret : ShowStmt → Type
  | .screenFindUnique _ => Option (Screen × List String)
  | .screenFindMany => List ScreenView
  | .seatFindMany _ => List String
  | .seatCreateMany _ => Unit
  | .showCreate _ => Show
  | .showUpdate .. => Unit
  | .availabilityCreateMany .. => Unit

inductive ShowWrite where
  | seats (l : List Seat)
  | create (row : Show)
  | capacity (id : String) (n : Nat)
  | rows (l : List SeatAvailability)

inductive ShowKey where
  | seat (id : String)
  | show_ (id : String)
  | row (showId seatId : String)
deriving DecidableEq

def ShowWrite.keys : ShowWrite → List ShowKey
  | .seats l => l.map fun r => .seat r.id
  | .create row => [.show_ row.id]
  | .capacity id _ => [.show_ id]
  | .rows l => l.map fun r => .row r.showId r.seatId

def setCapacity (id : String) (n : Nat) (v : Show) : Show :=
  if v.id = id then { v with totalCapacity := n, remainingCapacity := n } else v

def ShowWrite.apply : ShowWrite → ShowData → ShowData
  | .seats l, d => { d with seats := d.seats ++ l }
  | .create row, d => { d with shows := d.shows ++ [row] }
  | .capacity id n, d => { d with shows := d.shows.map (setCapacity id n) }
  | .rows l, d => { d with seatAvailability := d.seatAvailability ++ l }

/-- Whether a request or its answer is lost, the identifiers of new rows, and the
order rows come in. -/
structure ShowOracle where
  loss : Option Loss := none
  cuid : Nat → String := fun _ => ""
  order : List Nat := []

/-- The rows whose keys are new, also among themselves. -/
def newRows {α κ : Type} [DecidableEq κ] (key : α → κ) (taken : List κ) : List α → List α
  | [] => []
  | r :: rs =>
      if key r ∈ taken then newRows key taken rs else r :: newRows key (key r :: taken) rs

section NewRows

variable {α κ : Type} [DecidableEq κ] {key : α → κ} {taken : List κ} {l : List α}

theorem newRows_sublist : (newRows key taken l).Sublist l := by
  induction l generalizing taken with
  | nil => exact .refl _
  | cons r l ih =>
      rw [newRows]
      split
      · exact ih.cons _
      · exact ih.cons_cons _

theorem newRows_fresh : ∀ r ∈ newRows key taken l, key r ∉ taken := by
  induction l generalizing taken with
  | nil => exact fun _ h => absurd h List.not_mem_nil
  | cons r l ih =>
      rw [newRows]
      split
      · exact ih
      · rename_i hnew
        intro r' hr'
        rcases List.mem_cons.mp hr' with rfl | hr'
        · exact hnew
        · exact fun h => ih r' hr' (List.mem_cons_of_mem _ h)

theorem newRows_nodup : ((newRows key taken l).map key).Nodup := by
  induction l generalizing taken with
  | nil => exact .nil
  | cons r l ih =>
      rw [newRows]
      split
      · exact ih
      · refine List.nodup_cons.mpr ⟨fun h => ?_, ih⟩
        obtain ⟨r', hr', hkey⟩ := List.mem_map.mp h
        exact newRows_fresh r' hr' (hkey ▸ List.mem_cons_self ..)

theorem newRows_eq_self (hl : (l.map key).Nodup) (hnew : ∀ r ∈ l, key r ∉ taken) :
    newRows key taken l = l := by
  induction l generalizing taken with
  | nil => rfl
  | cons r l ih =>
      obtain ⟨hr, hl⟩ := List.nodup_cons.mp hl
      rw [newRows, if_neg (hnew r (List.mem_cons_self ..)), ih hl fun r' hr' h => ?_]
      rcases List.mem_cons.mp h with h | h
      · exact hr (h ▸ List.mem_map_of_mem hr')
      · exact hnew r' (List.mem_cons_of_mem _ hr') h

theorem newRows_eq_nil (h : ∀ r ∈ l, key r ∈ taken) : newRows key taken l = [] :=
  List.eq_nil_iff_forall_not_mem.mpr fun r hr =>
    newRows_fresh r hr (h r (newRows_sublist.subset hr))

end NewRows

def viewShow (d : ShowData) (v : Show) : ShowView :=
  { id := v.id, seatAvailability := d.rowsOf v.id }

def viewScreen (o : ShowOracle) (d : ShowData) (x : Screen) : ScreenView :=
  { toScreen := x
    seats := (shuffle o.order (d.seatsOf x.id)).map (·.id)
    shows := (shuffle o.order (d.shows.filter (·.screenId == x.id))).map (viewShow d) }

def ShowStmt.exec (o : ShowOracle) (d : ShowData) :
    (q : ShowStmt) → Except StepError q.Ret × List ShowWrite
  | .screenFindUnique id =>
      (.ok ((d.screens.find? (·.id == id)).map fun x =>
        (x, (shuffle o.order (d.seatsOf id)).map (·.id))), [])
  | .screenFindMany => (.ok ((shuffle o.order d.screens).map (viewScreen o d)), [])
  | .seatFindMany screenId => (.ok ((shuffle o.order (d.seatsOf screenId)).map (·.id)), [])
  | .seatCreateMany data =>
      let rows : List Seat := data.zipIdx.map fun r => { toSeatData := r.1, id := o.cuid r.2 }
      let new := newRows (·.id) (d.seats.map (·.id)) rows
      if ∃ r ∈ new, ∀ x ∈ d.screens, x.id ≠ r.screenId then (.error (.prisma "P2003"), [])
      else (.ok (), [.seats new])
  | .showCreate data =>
      let row : Show := { data with id := o.cuid 0 }
      if row.id ∈ d.shows.map (·.id) then (.error (.prisma "P2002"), [])
      else if data.eventId ∉ d.eventIds ∨ data.screenId ∉ d.screens.map (·.id) then
        (.error (.prisma "P2003"), [])
      else (.ok row, [.create row])
  | .showUpdate id capacity =>
      if id ∈ d.shows.map (·.id) then (.ok (), [.capacity id capacity])
      else (.error (.prisma "P2025"), [])
  | .availabilityCreateMany data skipDuplicates =>
      let new := newRows (·.key) (d.seatAvailability.map (·.key)) data
      if ¬skipDuplicates ∧ new ≠ data then (.error (.prisma "P2002"), [])
      else if ∃ r ∈ new, r.showId ∉ d.shows.map (·.id) ∨ r.seatId ∉ d.seats.map (·.id) then
        (.error (.prisma "P2003"), [])
      else (.ok (), [.rows new])

def showDb : Database ShowStmt ShowData ShowWrite ShowKey ShowOracle StepError where
  Ans := ShowStmt.Ret
  exec q o d := q.exec o d
  apply := ShowWrite.apply
  keys := ShowWrite.keys
  loss := ShowOracle.loss
  inProcess _ := false
  gone := .unavailable

/-! ## The service -/

inductive ShowExn where
  | notFound (message : String)
  | step (e : StepError)
deriving Repr, DecidableEq

abbrev ShowM := Prog showDb.sig ShowExn

def ask (tx : Option Nat) (q : ShowStmt) : ShowM q.Ret := showDb.query ShowExn.step tx q

/-- The row of a seat of a show. -/
def available (showId : String) (tenantId : Option String) (seatId : String) : SeatAvailability :=
  { showId, seatId, status := .AVAILABLE, tenantId }

/-- `AdminService.createShow` -/
def createShow (eventId screenId : String) (startTime : Time) (price : Rat) (tenantId : String) :
    ShowM Show := do
  match ← ask none (.screenFindUnique screenId) with
  | none => throw (.notFound "Screen not found")
  | some (_, seats) =>
      showDb.transaction ShowExn.step fun tx => do
        let row ← ask (some tx) (.showCreate
          { eventId, screenId, startTime, price, totalCapacity := seats.length,
            remainingCapacity := seats.length, tenantId := some tenantId, isActive := true })
        if seats.length > 0 then do
          ask (some tx) (.availabilityCreateMany
            (seats.map (available row.id (some tenantId))) false)
          return row
        else return row

/-! ## The repair script -/

/-- `String.fromCharCode` -/
def fromCharCode (n : Nat) : List UInt16 := [UInt16.ofNat n]

/-- The seats of a screen, row by row. -/
def seatsData (x : Screen) : List SeatData :=
  (List.range x.totalRows.toNat).flatMap fun r =>
    (List.range x.seatsPerRow.toNat).map fun s : Nat =>
      { screenId := x.id, row := fromCharCode (65 + r), number := s + 1 }

def repairShow (freshSeats : List String) (v : ShowView) : ShowM Unit :=
  if v.seatAvailability.length > 0 then return ()
  else showDb.transaction ShowExn.step fun tx => do
    ask (some tx) (.availabilityCreateMany (freshSeats.map (available v.id none)) true)
    ask (some tx) (.showUpdate v.id freshSeats.length)

def createSeats (x : ScreenView) : ShowM Unit :=
  if x.seats.length = 0 then ask none (.seatCreateMany (seatsData x.toScreen)) else return ()

def repairScreen (x : ScreenView) : ShowM Unit := do
  createSeats x
  let freshSeats ← ask none (.seatFindMany x.id)
  let _ ← x.shows.mapM (repairShow freshSeats)
  return ()

/-- `main`: the screens with what belongs to them are read once. -/
def repair : ShowM Unit := do
  let screens ← ask none .screenFindMany
  let _ ← screens.mapM repairScreen
  return ()

/-! ## The system -/

inductive ShowOp where
  | createShow (eventId screenId : String) (startTime : Time) (price : Rat) (tenantId : String)
  | repair
deriving DecidableEq

inductive ShowReply where
  | created (row : Show)
  | repaired
deriving DecidableEq

def ShowOp.body : ShowOp → ShowM ShowReply
  | .createShow eventId screenId startTime price tenantId =>
      .created <$> Shows.createShow eventId screenId startTime price tenantId
  | .repair => (fun _ => .repaired) <$> Shows.repair

/-- What bookings do to the rows of a show meanwhile. -/
inductive BookingMove where
  | status (showId seatId : String) (status' : SeatStatus)
  | remaining (showId : String) (n : Int)

def setStatus (showId seatId : String) (status' : SeatStatus) (a : SeatAvailability) :
    SeatAvailability :=
  if a.showId = showId ∧ a.seatId = seatId then { a with status := status' } else a

def setRemaining (showId : String) (n : Int) (v : Show) : Show :=
  if v.id = showId then { v with remainingCapacity := n } else v

def BookingMove.apply : BookingMove → ShowData → ShowData
  | .status showId seatId status', d =>
      { d with seatAvailability := d.seatAvailability.map (setStatus showId seatId status') }
  | .remaining showId n, d => { d with shows := d.shows.map (setRemaining showId n) }

abbrev ShowStore := Store ShowData ShowWrite
abbrev ShowSnap := Snap showDb.sig ShowStore ShowOracle ShowOp
abbrev ShowEvent := Conc.Event showDb.sig ShowStore ShowOracle ShowOp
abbrev ShowLabel := Label ShowOracle (DbEnv BookingMove) ShowOp
abbrev ShowOutline := Outline showDb.sig ShowStore ShowOracle ShowOp

/-- Any number of calls, while seats change their statuses and shows what they have left,
and transactions may be given up. -/
abbrev shows :
    System showDb.sig ShowStore ShowOracle (DbEnv BookingMove) ShowExn ShowReply ShowOp :=
  showDb.system BookingMove.apply ShowOp.body

end Omnipax.Shows
