import Mathlib.Data.Finset.Card

/-!
# The seats on the screen

The app loads the seats of a show once, and then follows the messages of the
server. A message names a seat by its id; the screen keeps codes, and gets from
one to the other by the list that is on display. `loadSeats` empties that list
until the response is there: a message in between puts an id among the codes,
and nothing is shown of it.
-/

namespace Omnipax.SeatScreen

/-! ## The server -/

inductive SeatStatus where
  | AVAILABLE
  | LOCKED
  | BOOKED
deriving Repr, DecidableEq

structure SeatDetailsDto where
  row : String
  number : Int
deriving Repr, DecidableEq

/-- A seat of a show as the server answers for it, with the status it had before any
message. -/
structure Seat where
  seatId : String
  seat : Option SeatDetailsDto
  status : SeatStatus := .AVAILABLE
deriving Repr, DecidableEq

structure Show where
  id : String
  seats : List Seat
  /-- The unique index on show and seat. -/
  ids : (seats.map (·.seatId)).Nodup

inductive SeatMessage where
  | seat_locked (showId seatId : String)
  | seat_released (showId seatId : String)
  | seat_booked (showId seatId : String)
  | booking_confirmed (showId : String) (seatIds : List String)
deriving Repr, DecidableEq

namespace SeatMessage

def showId : SeatMessage → String
  | .seat_locked showId _ => showId
  | .seat_released showId _ => showId
  | .seat_booked showId _ => showId
  | .booking_confirmed showId _ => showId

def seatIds : SeatMessage → List String
  | .seat_locked _ seatId => [seatId]
  | .seat_released _ seatId => [seatId]
  | .seat_booked _ seatId => [seatId]
  | .booking_confirmed _ seatIds => seatIds

/-- The status that the seats of a message have in the database when the server sends it. -/
def status : SeatMessage → SeatStatus
  | .seat_locked .. => .LOCKED
  | .seat_released .. => .AVAILABLE
  | .seat_booked .. => .BOOKED
  | .booking_confirmed .. => .BOOKED

/-- What it says of a seat. -/
def tells (showId seatId : String) (m : SeatMessage) : Option SeatStatus :=
  if m.showId = showId ∧ seatId ∈ m.seatIds then some m.status else none

/-- The message takes seats of this show away: it says anything but that they are available
again. -/
def takes (showId : String) (m : SeatMessage) : Bool :=
  m.showId == showId && m.status != .AVAILABLE

end SeatMessage

/-- The last word on a seat. -/
def lastSaid (showId seatId : String) (ms : List SeatMessage) : Option SeatStatus :=
  ms.foldl (fun said m => (m.tells showId seatId).or said) none

structure SeatAvailabilityDto where
  seatId : String
  status : SeatStatus
  seat : Option SeatDetailsDto
deriving Repr, DecidableEq

structure ShowDto where
  id : String
  seatAvailability : Option (List SeatAvailabilityDto)
deriving Repr, DecidableEq

/-- The seats as they are when these messages have been sent. -/
def Show.availability (ms : List SeatMessage) (shw : Show) : List SeatAvailabilityDto :=
  shw.seats.map fun s => ⟨s.seatId, (lastSaid shw.id s.seatId ms).getD s.status, s.seat⟩

def Show.dto (ms : List SeatMessage) (shw : Show) : ShowDto :=
  ⟨shw.id, some (shw.availability ms)⟩

inductive ApiResult where
  | success (shows : Option (List ShowDto))
  | error (message : String)
deriving Repr, DecidableEq

/-! ## The view model -/

structure BookingUiState where
  seats : List SeatAvailabilityDto := []
  selectedSeats : Finset String := ∅
  unavailableSeats : Finset String := ∅
  isLoadingSeats : Bool := false
  seatingError : Option String := none
deriving DecidableEq

def codeOr (text : String) (seat : Option SeatDetailsDto) : String :=
  (seat.elim text (·.row)) ++ (seat.elim text fun s => toString s.number)

def uuidToSeatCode (seats : List SeatAvailabilityDto) (seatId : String) : String :=
  match seats.find? (·.seatId == seatId) with
  | some avail => codeOr "" avail.seat
  | none => seatId

inductive SeatChange where
  | taken (codes : Finset String)
  | released (code : String)
deriving DecidableEq

/-- The handlers of `subscribeToSeatUpdates`. -/
def handle (showId : String) (seats : List SeatAvailabilityDto) : SeatMessage → Option SeatChange
  | .seat_locked show_ seatId =>
      if show_ = showId then some (.taken {uuidToSeatCode seats seatId}) else none
  | .seat_released show_ seatId =>
      if show_ = showId then some (.released (uuidToSeatCode seats seatId)) else none
  | .seat_booked show_ seatId =>
      if show_ = showId then some (.taken {uuidToSeatCode seats seatId}) else none
  | .booking_confirmed show_ seatIds =>
      if show_ = showId then some (.taken (seatIds.map (uuidToSeatCode seats)).toFinset) else none

def SeatChange.apply (ui : BookingUiState) : SeatChange → BookingUiState
  | .taken codes =>
      { ui with unavailableSeats := ui.unavailableSeats ∪ codes
                selectedSeats := ui.selectedSeats \ codes }
  | .released code => { ui with unavailableSeats := ui.unavailableSeats.erase code }

def selectSeat (seatCode : String) (ui : BookingUiState) : BookingUiState :=
  if seatCode ∈ ui.selectedSeats then { ui with selectedSeats := ui.selectedSeats.erase seatCode }
  else if 6 ≤ ui.selectedSeats.card then ui
  else { ui with selectedSeats := insert seatCode ui.selectedSeats }

/-- `loadSeats` up to its request. -/
def resetSeats (ui : BookingUiState) : BookingUiState :=
  { ui with isLoadingSeats := true, seatingError := none, seats := [], selectedSeats := ∅,
            unavailableSeats := ∅ }

/-- The rest of `loadSeats`, and whether there are seats to show. -/
def receiveSeats (showId : String) (result : ApiResult) (ui : BookingUiState) :
    BookingUiState × Bool :=
  match result with
  | .error message =>
      ({ ui with isLoadingSeats := false, seatingError := some ("Failed to load seats: " ++ message) },
        false)
  | .success shows =>
      match (shows.getD []).find? (·.id == showId) with
      | none =>
          ({ ui with isLoadingSeats := false, seatingError := some ("Show not found: " ++ showId) },
            false)
      | some shw =>
          let seats := shw.seatAvailability.getD []
          if seats.isEmpty then
            ({ ui with isLoadingSeats := false
                       seatingError := some "No seats available for this show" }, false)
          else
            let booked := ((seats.filter (·.status != .AVAILABLE)).filterMap fun avail =>
              avail.seat.map fun s => s.row ++ toString s.number).toFinset
            ({ ui with seats := seats
                       unavailableSeats := ui.unavailableSeats ∪ booked
                       isLoadingSeats := false }, true)

/-! ## The grid -/

structure SeatItem where
  number : String
  isBooked : Bool
  isSelected : Bool
deriving Repr, DecidableEq

/-- What `SeatGrid` shows of a seat, wherever it stands. -/
def seatItem (ui : BookingUiState) (seat : SeatAvailabilityDto) : SeatItem :=
  let seatCode := codeOr "?" seat.seat
  { number := seat.seat.elim "?" fun s => toString s.number
    isBooked := seat.status != .AVAILABLE || decide (seatCode ∈ ui.unavailableSeats)
    isSelected := decide (seatCode ∈ ui.selectedSeats) }

/-! ## The system -/

/-- A load, with the number of messages sent when the server took the snapshot. -/
inductive LoadState where
  | none
  | requested
  | answered (snapshot : Nat) (result : ApiResult)
  | loaded (snapshot : Nat)
deriving Repr, DecidableEq

/-- The screen, and the messages in order: those that have come to the screen,
those whose handlers have launched a change, and those under way. -/
structure Screen where
  ui : BookingUiState := {}
  load : LoadState := .none
  shown : List SeatMessage := []
  launched : List (SeatMessage × Option SeatChange) := []
  underWay : List SeatMessage := []
deriving DecidableEq

namespace Screen

def handled (s : Screen) : List SeatMessage := s.shown ++ s.launched.map (·.1)

/-- What the server has sent and the screen has not put in: the messages under way, and
those whose handling has been launched. -/
def pending (s : Screen) : List SeatMessage := s.launched.map (·.1) ++ s.underWay

def sent (s : Screen) : List SeatMessage := s.handled ++ s.underWay

end Screen

inductive ScreenEvent where
  | send (m : SeatMessage)
  | deliver
  | change
  | loadSeats
  | snapshot
  | respond
  | fail (message : String)
  | selectSeat (seatCode : String)
deriving Repr, DecidableEq

/-- The server sends messages about seats of its shows. -/
def known (shows : List Show) (m : SeatMessage) : Bool :=
  shows.all fun shw => shw.id != m.showId || m.seatIds.all fun id => shw.seats.any (·.seatId == id)

/-- One thing after the other: seats are loaded again when they have been
loaded, and a step that does not apply changes nothing. -/
def step (shows : List Show) (showId : String) (s : Screen) : ScreenEvent → Screen
  | .send m => if known shows m then { s with underWay := s.underWay ++ [m] } else s
  | .deliver =>
      match s.underWay with
      | [] => s
      | m :: ms => { s with launched := s.launched ++ [(m, handle showId s.ui.seats m)], underWay := ms }
  | .change =>
      match s.launched with
      | [] => s
      | (m, c) :: rest =>
          { s with ui := c.elim s.ui (SeatChange.apply s.ui), shown := s.shown ++ [m], launched := rest }
  | .loadSeats =>
      match s.load with
      | .requested => s
      | .answered .. => s
      | _ => { s with ui := resetSeats s.ui, load := .requested }
  | .snapshot =>
      match s.load with
      | .requested =>
          { s with load := .answered s.sent.length (.success (some (shows.map (Show.dto s.sent)))) }
      | _ => s
  | .respond =>
      match s.load with
      | .answered n result =>
          let (ui, hasSeats) := receiveSeats showId result s.ui
          { s with ui, load := if hasSeats then .loaded n else .none }
      | _ => s
  | .fail message =>
      match s.load with
      | .requested => { s with ui := (receiveSeats showId (.error message) s.ui).1, load := .none }
      | .answered .. => { s with ui := (receiveSeats showId (.error message) s.ui).1, load := .none }
      | _ => s
  | .selectSeat seatCode => { s with ui := selectSeat seatCode s.ui }

def run (shows : List Show) (showId : String) (s : Screen) (events : List ScreenEvent) : Screen :=
  events.foldl (step shows showId) s

/-! ## The property -/

/-- Once the seats are loaded, a seat that has been taken by a message that has
come to the screen, and has not been released since, is shown as unavailable. -/
def Honest (showId : String) (s : Screen) : Prop :=
  ∀ n, s.load = .loaded n → ∀ seatId status,
    lastSaid showId seatId s.shown = some status → status ≠ .AVAILABLE →
    (∀ m ∈ s.pending, m.tells showId seatId ≠ some .AVAILABLE) →
    (∃ seat ∈ s.ui.seats, seat.seatId = seatId) ∧
      ∀ seat ∈ s.ui.seats, seat.seatId = seatId → (seatItem s.ui seat).isBooked = true

/-- While a snapshot is on its way, no message is handled that takes seats and
has been sent after it. -/
def inTime (showId : String) (s : Screen) : ScreenEvent → Prop
  | .deliver =>
      match s.load, s.underWay with
      | .answered n _, m :: _ => n ≤ s.handled.length → m.takes showId = false
      | _, _ => True
  | _ => True

def admitsRun (shows : List Show) (showId : String) : Screen → List ScreenEvent → Prop
  | _, [] => True
  | s, e :: es => inTime showId s e ∧ admitsRun shows showId (step shows showId s e) es

/-- Every seat has a code of its own, as the rows of one show have: the view model names
seats by their codes, and would take two of one code for one seat. -/
structure Coded (shw : Show) : Prop where
  details : ∀ s ∈ shw.seats, s.seat.isSome = true
  codes : (shw.seats.map fun s => codeOr "" s.seat).Nodup

/-! ## What messages say -/

section Messages

variable {showId seatId : String} {m : SeatMessage} {ms ms' : List SeatMessage} {status : SeatStatus}

theorem foldl_tells (ms : List SeatMessage) (said : Option SeatStatus) :
    ms.foldl (fun said m => (m.tells showId seatId).or said) said
      = (lastSaid showId seatId ms).or said := by
  induction ms generalizing said with
  | nil => rfl
  | cons m ms ih =>
      rw [lastSaid, List.foldl_cons, List.foldl_cons, ih, ih ((m.tells showId seatId).or none)]
      cases lastSaid showId seatId ms <;> cases m.tells showId seatId <;> rfl

theorem lastSaid_append : lastSaid showId seatId (ms ++ ms')
    = (lastSaid showId seatId ms').or (lastSaid showId seatId ms) := by
  rw [lastSaid, List.foldl_append]
  exact foldl_tells ms' _

theorem lastSaid_concat : lastSaid showId seatId (ms ++ [m])
    = (m.tells showId seatId).or (lastSaid showId seatId ms) := by
  rw [lastSaid_append]
  congr 1
  exact Option.or_none

theorem exists_tells (h : lastSaid showId seatId ms = some status) :
    ∃ m ∈ ms, m.tells showId seatId = some status := by
  induction ms using List.reverseRecOn with
  | nil => cases h
  | append_singleton ms m ih =>
      rw [lastSaid_concat] at h
      cases htells : m.tells showId seatId with
      | none =>
          rw [htells] at h
          obtain ⟨m', hm', h'⟩ := ih h
          exact ⟨m', List.mem_append_left _ hm', h'⟩
      | some status' =>
          rw [htells] at h
          obtain rfl := Option.some.inj h
          exact ⟨m, List.mem_append_right _ (List.mem_singleton_self _), htells⟩

theorem tells_iff : m.tells showId seatId = some status ↔
    m.showId = showId ∧ seatId ∈ m.seatIds ∧ m.status = status := by
  rw [SeatMessage.tells]
  split
  · rename_i h
    simp [h]
  · rename_i h
    refine ⟨nofun, fun ⟨hshow, hseat, _⟩ => absurd ⟨hshow, hseat⟩ h⟩

theorem eq_available_of_not_takes (h : ∀ m ∈ ms, m.takes showId = false)
    (hlast : lastSaid showId seatId ms = some status) : status = .AVAILABLE := by
  obtain ⟨m, hm, htells⟩ := exists_tells hlast
  obtain ⟨hshow, -, hstatus⟩ := tells_iff.mp htells
  have hnot := h m hm
  rw [SeatMessage.takes, hshow, beq_self_eq_true, Bool.true_and, hstatus] at hnot
  simpa using hnot

end Messages

/-! ## Codes -/

section Codes

variable {shw : Show} {s s' : Seat} {ms : List SeatMessage} {m : SeatMessage} {ui : BookingUiState}

theorem uuidToSeatCode_seat (hs : s ∈ shw.seats) (ms : List SeatMessage) :
    uuidToSeatCode (shw.availability ms) s.seatId = codeOr "" s.seat := by
  have hfind : (shw.availability ms).find? (·.seatId == s.seatId)
      = some ⟨s.seatId, (lastSaid shw.id s.seatId ms).getD s.status, s.seat⟩ := by
    rw [Show.availability, List.find?_map]
    have hseat : shw.seats.find? ((fun avail => avail.seatId == s.seatId) ∘ fun s : Seat =>
        (⟨s.seatId, (lastSaid shw.id s.seatId ms).getD s.status, s.seat⟩ : SeatAvailabilityDto))
        = some s := by
      cases hfind : shw.seats.find? _ with
      | none => exact absurd (List.find?_eq_none.mp hfind s hs) (by simp)
      | some s' =>
          have hid := List.find?_some hfind
          rw [Function.comp_apply, beq_iff_eq] at hid
          exact congrArg some (List.inj_on_of_nodup_map shw.ids (List.mem_of_find?_eq_some hfind) hs hid)
    rw [hseat]
    rfl
  rw [uuidToSeatCode, hfind]

theorem Coded.eq_of_code (h : Coded shw) (hs : s ∈ shw.seats) (hs' : s' ∈ shw.seats)
    (hcode : codeOr "" s.seat = codeOr "" s'.seat) : s = s' :=
  List.inj_on_of_nodup_map h.codes hs hs' hcode

theorem Coded.gridCode (h : Coded shw) (hs : s ∈ shw.seats) : codeOr "?" s.seat = codeOr "" s.seat := by
  obtain ⟨d, hd⟩ := Option.isSome_iff_exists.mp (h.details s hs)
  rw [hd]
  rfl

theorem mem_of_taken (hs : s ∈ shw.seats) {status : SeatStatus}
    (htells : m.tells shw.id s.seatId = some status) (hne : status ≠ .AVAILABLE) :
    codeOr "" s.seat ∈ ((handle shw.id (shw.availability ms) m).elim ui
      (SeatChange.apply ui)).unavailableSeats := by
  obtain ⟨hshow, hseat, rfl⟩ := tells_iff.mp htells
  have hcode := uuidToSeatCode_seat hs ms
  cases m with
  | seat_released => exact absurd rfl hne
  | seat_locked show_ seatId =>
      obtain rfl : show_ = shw.id := hshow
      obtain rfl := List.mem_singleton.mp hseat
      rw [handle, if_pos rfl, hcode]
      exact Finset.mem_union_right _ (Finset.mem_singleton_self _)
  | seat_booked show_ seatId =>
      obtain rfl : show_ = shw.id := hshow
      obtain rfl := List.mem_singleton.mp hseat
      rw [handle, if_pos rfl, hcode]
      exact Finset.mem_union_right _ (Finset.mem_singleton_self _)
  | booking_confirmed show_ seatIds =>
      obtain rfl : show_ = shw.id := hshow
      rw [handle, if_pos rfl]
      refine Finset.mem_union_right _ (List.mem_toFinset.mpr ?_)
      exact List.mem_map.mpr ⟨s.seatId, hseat, hcode⟩

/-- A message that says nothing of a seat leaves its code. -/
theorem mem_of_silent (h : Coded shw) (hs : s ∈ shw.seats)
    (hknown : m.showId = shw.id → ∀ seatId ∈ m.seatIds, ∃ s ∈ shw.seats, s.seatId = seatId)
    (htells : m.tells shw.id s.seatId = none) (hmem : codeOr "" s.seat ∈ ui.unavailableSeats) :
    codeOr "" s.seat ∈ ((handle shw.id (shw.availability ms) m).elim ui
      (SeatChange.apply ui)).unavailableSeats := by
  cases m with
  | seat_locked show_ seatId =>
      rw [handle]
      split
      · exact Finset.mem_union_left _ hmem
      · exact hmem
  | seat_booked show_ seatId =>
      rw [handle]
      split
      · exact Finset.mem_union_left _ hmem
      · exact hmem
  | booking_confirmed show_ seatIds =>
      rw [handle]
      split
      · exact Finset.mem_union_left _ hmem
      · exact hmem
  | seat_released show_ seatId =>
      rw [handle]
      split
      · rename_i hshow
        obtain ⟨s', hs', hid⟩ := hknown hshow seatId (List.mem_singleton_self _)
        refine Finset.mem_erase.mpr ⟨fun hcode => ?_, hmem⟩
        rw [← hid, uuidToSeatCode_seat hs'] at hcode
        obtain rfl := h.eq_of_code hs hs' hcode
        rw [SeatMessage.tells, if_pos ⟨hshow, by rw [← hid]; exact List.mem_singleton_self _⟩] at htells
        cases htells
      · exact hmem

end Codes

/-! ## The invariant -/

/-- From the response on: the list is that of the snapshot, and it has the codes
of what the messages since the snapshot have taken. A change that has been
launched before the response (`early`) takes nothing that the snapshot lacks. -/
structure Loaded (shw : Show) (n : Nat) (s : Screen) : Prop where
  le : n ≤ s.sent.length
  seats : s.ui.seats = shw.availability (s.sent.take n)
  codes : ∀ seat ∈ shw.seats, ∀ status, lastSaid shw.id seat.seatId (s.shown.drop n) = some status →
    status ≠ .AVAILABLE → codeOr "" seat.seat ∈ s.ui.unavailableSeats
  launched : ∃ early late, s.launched = early ++ late ∧
    (∀ l ∈ late, l.2 = handle shw.id s.ui.seats l.1) ∧
    (early ≠ [] → ∀ m ∈ (s.shown ++ early.map (·.1)).drop n, m.takes shw.id = false)

/-- What is known of a load at each stage of it: how much the server had sent when it was
answered, and that nothing handled since has taken seats of the show. -/
inductive Follows (shows : List Show) (showId : String) (s : Screen) : LoadState → Prop where
  | none : Follows shows showId s .none
  | requested : Follows shows showId s .requested
  | answered {n : Nat} : n ≤ s.sent.length → (∀ m ∈ s.handled.drop n, m.takes showId = false) →
      Follows shows showId s
        (.answered n (.success (some (shows.map (Show.dto (s.sent.take n))))))
  | loaded {n : Nat} {shw : Show} : shows.find? (·.id == showId) = some shw → Loaded shw n s →
      Follows shows showId s (.loaded n)

structure Consistent (shows : List Show) (showId : String) (s : Screen) : Prop where
  known : ∀ m ∈ s.sent, known shows m = true
  load : Follows shows showId s s.load

section Steps

variable {shows : List Show} {showId : String} {s s' : Screen} {shw : Show} {n : Nat}

/-- A message about the show is about seats of the show. -/
theorem seats_of_known {m : SeatMessage} (hm : known shows m = true) (hshw : shw ∈ shows)
    (hshow : m.showId = shw.id) : ∀ seatId ∈ m.seatIds, ∃ seat ∈ shw.seats, seat.seatId = seatId := by
  intro seatId hseat
  have h := List.all_eq_true.mp hm shw hshw
  rw [hshow, bne_self_eq_false, Bool.false_or] at h
  obtain ⟨seat, hmem, hid⟩ := List.any_eq_true.mp (List.all_eq_true.mp h seatId hseat)
  exact ⟨seat, hmem, beq_iff_eq.mp hid⟩

/-- A step that leaves what has been shown and launched, and the list. -/
theorem Follows.frame (h : Follows shows showId s s.load) (hload : s'.load = s.load)
    (hseats : s'.ui.seats = s.ui.seats)
    (hcodes : s'.ui.unavailableSeats = s.ui.unavailableSeats) (hshown : s'.shown = s.shown)
    (hlaunched : s'.launched = s.launched) (hsent : ∃ ms, s'.sent = s.sent ++ ms) :
    Follows shows showId s' s'.load := by
  obtain ⟨ms, hsent⟩ := hsent
  have hhandled : s'.handled = s.handled := by rw [Screen.handled, hshown, hlaunched, Screen.handled]
  rw [hload]
  generalize s.load = load at h
  cases h with
  | none => exact .none
  | requested => exact .requested
  | @answered n hle htakes =>
      have htake : s'.sent.take n = s.sent.take n := by rw [hsent, List.take_append_of_le_length hle]
      rw [← htake]
      refine .answered ?_ ?_
      · rw [hsent, List.length_append]
        exact Nat.le_add_right_of_le hle
      · rw [hhandled]
        exact htakes
  | @loaded n shw hfind h =>
      have htake : s'.sent.take n = s.sent.take n := by rw [hsent, List.take_append_of_le_length h.le]
      refine .loaded hfind ⟨?_, ?_, ?_, ?_⟩
      · rw [hsent, List.length_append]
        exact Nat.le_add_right_of_le h.le
      · rw [hseats, htake]
        exact h.seats
      · rw [hshown, hcodes]
        exact h.codes
      · rw [hlaunched, hseats, hshown]
        exact h.launched

theorem Loaded.deliver (h : Loaded shw n s) {m : SeatMessage} {ms : List SeatMessage}
    (hunder : s.underWay = m :: ms) :
    Loaded shw n { s with launched := s.launched ++ [(m, handle shw.id s.ui.seats m)], underWay := ms } := by
  have hsent : ({ s with
      launched := s.launched ++ [(m, handle shw.id s.ui.seats m)], underWay := ms } : Screen).sent
        = s.sent := by
    simp [Screen.sent, Screen.handled, hunder]
  refine ⟨by rw [hsent]; exact h.le, by rw [hsent]; exact h.seats, h.codes, ?_⟩
  obtain ⟨early, late, hlaunched, hlate, hearly⟩ := h.launched
  refine ⟨early, late ++ [(m, handle shw.id s.ui.seats m)], ?_, fun l hl => ?_, hearly⟩
  · show s.launched ++ _ = _
    rw [hlaunched, List.append_assoc]
  · rcases List.mem_append.mp hl with hl | hl
    · exact hlate l hl
    · obtain rfl := List.mem_singleton.mp hl
      rfl

theorem Follows.advance {load : LoadState} (h : Follows shows showId s load)
    (hsent : s'.sent = s.sent)
    (hanswered : ∀ n result, load = .answered n result →
      (∀ m ∈ s.handled.drop n, m.takes showId = false) → ∀ m ∈ s'.handled.drop n, m.takes showId = false)
    (hloaded : ∀ n shw, shows.find? (·.id == showId) = some shw → Loaded shw n s → Loaded shw n s') :
    Follows shows showId s' load := by
  cases h with
  | none => exact .none
  | requested => exact .requested
  | @answered n hle htakes =>
      have htakes' := hanswered n _ rfl htakes
      rw [← hsent] at hle ⊢
      exact .answered hle htakes'
  | @loaded n shw hfind h => exact .loaded hfind (hloaded n shw hfind h)

theorem consistent_deliver (h : Consistent shows showId s) (hin : inTime showId s .deliver) :
    Consistent shows showId (step shows showId s .deliver) := by
  unfold step
  dsimp only
  split
  · exact h
  · rename_i m ms hunder
    have hsent : ({ s with
        launched := s.launched ++ [(m, handle showId s.ui.seats m)], underWay := ms } : Screen).sent
          = s.sent := by
      simp [Screen.sent, Screen.handled, hunder]
    have hhandled : ({ s with launched := s.launched ++ [(m, handle showId s.ui.seats m)],
                              underWay := ms } : Screen).handled = s.handled ++ [m] := by
      simp [Screen.handled]
    refine ⟨by rw [hsent]; exact h.known, h.load.advance hsent (fun n result hload htakes => ?_)
      fun n shw hfind hloaded => ?_⟩
    · have hmsg : n ≤ s.handled.length → m.takes showId = false := by
        rw [inTime, hunder, hload] at hin
        exact hin
      rw [hhandled]
      intro m' hm'
      rcases Nat.lt_or_ge s.handled.length n with hlt | hge
      · rw [List.drop_of_length_le (by rw [List.length_append]; exact hlt)] at hm'
        cases hm'
      · rw [List.drop_append_of_le_length hge] at hm'
        rcases List.mem_append.mp hm' with hm' | hm'
        · exact htakes m' hm'
        · obtain rfl := List.mem_singleton.mp hm'
          exact hmsg hge
    · obtain rfl : shw.id = showId := by simpa using List.find?_some hfind
      exact hloaded.deliver hunder

theorem seats_change (c : Option SeatChange) (ui : BookingUiState) :
    (c.elim ui (SeatChange.apply ui)).seats = ui.seats := by
  rcases c with _ | c
  · rfl
  · cases c <;> rfl

/-- A change that has been launched with the list that is on display. -/
theorem codes_change (hcoded : Coded shw) (h : Loaded shw n s) {m : SeatMessage}
    (hknown : m.showId = shw.id → ∀ seatId ∈ m.seatIds, ∃ seat ∈ shw.seats, seat.seatId = seatId) :
    ∀ seat ∈ shw.seats, ∀ status, lastSaid shw.id seat.seatId ((s.shown ++ [m]).drop n) = some status →
      status ≠ .AVAILABLE → codeOr "" seat.seat ∈
        ((handle shw.id s.ui.seats m).elim s.ui (SeatChange.apply s.ui)).unavailableSeats := by
  intro seat hseat status hlast hne
  rw [h.seats]
  rcases Nat.lt_or_ge s.shown.length n with hlt | hge
  · rw [List.drop_of_length_le (by rw [List.length_append]; exact hlt)] at hlast
    cases hlast
  · rw [List.drop_append_of_le_length hge, lastSaid_concat] at hlast
    cases htells : m.tells shw.id seat.seatId with
    | some status' =>
        rw [htells] at hlast
        obtain rfl := Option.some.inj hlast
        exact mem_of_taken hseat htells hne
    | none =>
        rw [htells] at hlast
        exact mem_of_silent hcoded hseat hknown htells (h.codes seat hseat status hlast hne)

theorem Loaded.change (hcoded : Coded shw) (h : Loaded shw n s) {m : SeatMessage}
    {c : Option SeatChange} {rest : List (SeatMessage × Option SeatChange)}
    (hlaunched : s.launched = (m, c) :: rest)
    (hknown : m.showId = shw.id → ∀ seatId ∈ m.seatIds, ∃ seat ∈ shw.seats, seat.seatId = seatId) :
    Loaded shw n
      { s with ui := c.elim s.ui (SeatChange.apply s.ui), shown := s.shown ++ [m], launched := rest } := by
  have hsent : ({ s with ui := c.elim s.ui (SeatChange.apply s.ui), shown := s.shown ++ [m],
                         launched := rest } : Screen).sent = s.sent := by
    simp [Screen.sent, Screen.handled, hlaunched]
  have hui := seats_change c s.ui
  obtain ⟨early, late, hsplit, hlate, hearly⟩ := h.launched
  have hseats := h.seats
  rw [hlaunched] at hsplit
  cases early with
  | nil =>
      obtain rfl : (m, c) :: rest = late := hsplit
      obtain rfl : c = handle shw.id s.ui.seats m := hlate (m, c) (List.mem_cons_self ..)
      refine ⟨by rw [hsent]; exact h.le, by rw [hsent, hui]; exact hseats,
        codes_change hcoded h hknown, [], rest, rfl, fun l hl => ?_, fun hne => absurd rfl hne⟩
      rw [hui]
      exact hlate l (List.mem_cons_of_mem _ hl)
  | cons u early =>
      obtain ⟨rfl, rfl⟩ := List.cons.inj hsplit
      have htakes := hearly (List.cons_ne_nil _ _)
      have hshown : s.shown ++ ((m, c) :: early).map (·.1) = s.shown ++ [m] ++ early.map (·.1) := by
        rw [List.map_cons, List.append_assoc]
        rfl
      rw [hshown] at htakes
      refine ⟨by rw [hsent]; exact h.le, by rw [hsent, hui]; exact hseats, fun seat _ status hlast hne => ?_,
        early, late, rfl, fun l hl => ?_, fun _ => htakes⟩
      · refine absurd (eq_available_of_not_takes (fun m' hm' => htakes m' ?_) hlast) hne
        exact (((List.prefix_append _ _).drop n).mem hm')
      · rw [hui]
        exact hlate l hl

theorem consistent_change (hcoded : ∀ shw ∈ shows, shw.id = showId → Coded shw)
    (h : Consistent shows showId s) : Consistent shows showId (step shows showId s .change) := by
  unfold step
  dsimp only
  split
  · exact h
  · rename_i m c rest hlaunched
    have hsent : ({ s with ui := c.elim s.ui (SeatChange.apply s.ui), shown := s.shown ++ [m],
                           launched := rest } : Screen).sent = s.sent := by
      simp [Screen.sent, Screen.handled, hlaunched]
    have hmem : m ∈ s.sent := by simp [Screen.sent, Screen.handled, hlaunched]
    have hhandled : ({ s with ui := c.elim s.ui (SeatChange.apply s.ui), shown := s.shown ++ [m],
                              launched := rest } : Screen).handled = s.handled := by
      simp [Screen.handled, hlaunched]
    refine ⟨by rw [hsent]; exact h.known, h.load.advance hsent (fun n result _ htakes => ?_)
      fun n shw hfind hloaded => ?_⟩
    · rw [hhandled]
      exact htakes
    · obtain rfl : shw.id = showId := by simpa using List.find?_some hfind
      have hshw := List.mem_of_find?_eq_some hfind
      exact hloaded.change (hcoded shw hshw rfl) hlaunched (seats_of_known (h.known m hmem) hshw)

theorem find_dto (shows : List Show) (ms : List SeatMessage) (showId : String) :
    (shows.map (Show.dto ms)).find? (·.id == showId)
      = (shows.find? (·.id == showId)).map (Show.dto ms) := by
  rw [List.find?_map]
  rfl

theorem consistent_respond (h : Consistent shows showId s) :
    Consistent shows showId (step shows showId s .respond) := by
  have hload := h.load
  unfold step
  dsimp only
  split
  · rename_i n result hanswered
    refine ⟨h.known, ?_⟩
    rw [hanswered] at hload
    cases hload with
    | answered hle htakes =>
        dsimp only
        rw [receiveSeats, Option.getD_some, find_dto]
        cases hfind : shows.find? (·.id == showId) with
        | none => exact .none
        | some shw =>
            obtain rfl : shw.id = showId := by simpa using List.find?_some hfind
            simp only [Option.map_some, Show.dto, Option.getD_some]
            split
            · exact .none
            · refine .loaded hfind ⟨hle, rfl, fun seat _ status hlast hne => ?_, s.launched, [],
                (List.append_nil _).symm, fun _ h => absurd h List.not_mem_nil, fun _ => htakes⟩
              refine absurd (eq_available_of_not_takes (fun m hm => htakes m ?_) hlast) hne
              exact ((List.prefix_append _ _).drop n).mem hm
  · exact h

theorem consistent_step (hcoded : ∀ shw ∈ shows, shw.id = showId → Coded shw)
    (h : Consistent shows showId s) {e : ScreenEvent} (hin : inTime showId s e) :
    Consistent shows showId (step shows showId s e) := by
  cases e with
  | deliver => exact consistent_deliver h hin
  | change => exact consistent_change hcoded h
  | respond => exact consistent_respond h
  | send m =>
      unfold step
      dsimp only
      split
      · rename_i hknown
        have hsent : ({ s with underWay := s.underWay ++ [m] } : Screen).sent = s.sent ++ [m] :=
          (List.append_assoc ..).symm
        refine ⟨fun m' hm' => ?_, h.load.frame rfl rfl rfl rfl rfl ⟨[m], hsent⟩⟩
        rw [hsent] at hm'
        rcases List.mem_append.mp hm' with hm' | hm'
        · exact h.known m' hm'
        · obtain rfl := List.mem_singleton.mp hm'
          exact hknown
      · exact h
  | loadSeats =>
      unfold step
      dsimp only
      split
      · exact h
      · exact h
      · exact ⟨h.known, .requested⟩
  | snapshot =>
      unfold step
      dsimp only
      split
      · have hnone : s.handled.drop s.sent.length = [] :=
          List.drop_of_length_le (by rw [Screen.sent, List.length_append]; exact Nat.le_add_right ..)
        have hfollows : ∀ s' : Screen, s'.sent = s.sent → s'.handled = s.handled →
            Follows shows showId s'
              (.answered s.sent.length (.success (some (shows.map (Show.dto s.sent))))) := by
          intro s' hsent hhandled
          have hanswered : Follows shows showId s' (.answered s.sent.length
              (.success (some (shows.map (Show.dto (s'.sent.take s.sent.length)))))) := by
            refine .answered (by rw [hsent]) fun m hm => ?_
            rw [hhandled, hnone] at hm
            cases hm
          rwa [hsent, List.take_length] at hanswered
        exact ⟨h.known, hfollows _ rfl rfl⟩
      · exact h
  | fail message =>
      unfold step
      dsimp only
      split
      · exact ⟨h.known, .none⟩
      · exact ⟨h.known, .none⟩
      · exact h
  | selectSeat seatCode =>
      refine ⟨h.known, h.load.frame rfl ?_ ?_ rfl rfl ⟨[], (List.append_nil _).symm⟩⟩
      · show (selectSeat seatCode s.ui).seats = s.ui.seats
        unfold selectSeat
        split
        · rfl
        · split <;> rfl
      · show (selectSeat seatCode s.ui).unavailableSeats = s.ui.unavailableSeats
        unfold selectSeat
        split
        · rfl
        · split <;> rfl

theorem consistent_run (hcoded : ∀ shw ∈ shows, shw.id = showId → Coded shw)
    (h : Consistent shows showId s) {events : List ScreenEvent}
    (hevents : admitsRun shows showId s events) :
    Consistent shows showId (run shows showId s events) := by
  induction events generalizing s with
  | nil => exact h
  | cons e events ih => exact ih (consistent_step hcoded h hevents.1) hevents.2

/-- What has been taken before the snapshot, and has not been released since,
is taken in the snapshot. -/
theorem taken_in_snapshot {seatId : String} {status : SeatStatus}
    (hdrop : lastSaid showId seatId (s.shown.drop n) = none)
    (hlast : lastSaid showId seatId s.shown = some status) (hne : status ≠ .AVAILABLE)
    (hpending : ∀ m ∈ s.pending, m.tells showId seatId ≠ some .AVAILABLE) :
    ∃ status', lastSaid showId seatId (s.sent.take n) = some status' ∧ status' ≠ .AVAILABLE := by
  have hsent : s.sent = s.shown ++ s.pending := List.append_assoc ..
  have htake : lastSaid showId seatId (s.shown.take n) = some status := by
    rw [← List.take_append_drop n s.shown, lastSaid_append, hdrop] at hlast
    exact hlast
  rw [hsent, List.take_append, lastSaid_append, htake]
  cases hrest : lastSaid showId seatId (s.pending.take (n - s.shown.length)) with
  | none => exact ⟨status, rfl, hne⟩
  | some status' =>
      obtain ⟨m, hm, htells⟩ := exists_tells hrest
      refine ⟨status', rfl, fun h => ?_⟩
      rw [h] at htells
      exact hpending m (List.mem_of_mem_take hm) htells

theorem honest_of_consistent (hcoded : ∀ shw ∈ shows, shw.id = showId → Coded shw)
    (h : Consistent shows showId s) : Honest showId s := by
  intro n hload seatId status hlast hne hpending
  have hfollows := h.load
  rw [hload] at hfollows
  cases hfollows with
  | @loaded _ shw hfind hloaded =>
      obtain rfl : shw.id = showId := by simpa using List.find?_some hfind
      have hshw := List.mem_of_find?_eq_some hfind
      have hcodes := hcoded shw hshw rfl
      obtain ⟨m, hm, htells⟩ := exists_tells hlast
      obtain ⟨hshow, hseat, -⟩ := tells_iff.mp htells
      have hmem : m ∈ s.sent := List.mem_append_left _ (List.mem_append_left _ hm)
      obtain ⟨seat, hin, rfl⟩ := seats_of_known (h.known m hmem) hshw hshow seatId hseat
      rw [hloaded.seats]
      refine ⟨⟨_, List.mem_map_of_mem hin, rfl⟩, fun dto hdto hid => ?_⟩
      obtain ⟨seat', hin', rfl⟩ := List.mem_map.mp hdto
      obtain rfl : seat' = seat := List.inj_on_of_nodup_map shw.ids hin' hin hid
      rw [seatItem, Bool.or_eq_true, decide_eq_true_eq, bne_iff_ne]
      dsimp only
      cases hdrop : lastSaid shw.id seat'.seatId (s.shown.drop n) with
      | none =>
          obtain ⟨status', hsnapshot, hne'⟩ := taken_in_snapshot hdrop hlast hne hpending
          rw [hsnapshot]
          exact Or.inl hne'
      | some status' =>
          rw [← List.take_append_drop n s.shown, lastSaid_append, hdrop] at hlast
          obtain rfl := Option.some.inj hlast
          rw [hcodes.gridCode hin']
          exact Or.inr (hloaded.codes seat' hin' status' hdrop hne)

end Steps

/-- **Seat screen**: where every seat has a code of its own, and no message that
takes seats comes between an older snapshot and its response, the screen shows
the seats that are taken as unavailable. -/
theorem honest_run (shows : List Show) (showId : String)
    (hcoded : ∀ shw ∈ shows, shw.id = showId → Coded shw) {events : List ScreenEvent}
    (hevents : admitsRun shows showId {} events) : Honest showId (run shows showId {} events) :=
  honest_of_consistent hcoded
    (consistent_run hcoded ⟨fun _ h => absurd h List.not_mem_nil, .none⟩ hevents)

/-! ## A message before and after the response -/

instance (showId : String) : (s : Screen) → (e : ScreenEvent) → Decidable (inTime showId s e)
  | s, .deliver =>
      match h : s.load, h' : s.underWay with
      | .answered n _, m :: _ =>
          decidable_of_iff (n ≤ s.handled.length → m.takes showId = false) (by simp [inTime, h, h'])
      | .answered .., [] => isTrue (by simp [inTime, h, h'])
      | .none, _ => isTrue (by simp [inTime, h])
      | .requested, _ => isTrue (by simp [inTime, h])
      | .loaded _, _ => isTrue (by simp [inTime, h])
  | _, .send _ => isTrue trivial
  | _, .change => isTrue trivial
  | _, .loadSeats => isTrue trivial
  | _, .snapshot => isTrue trivial
  | _, .respond => isTrue trivial
  | _, .fail _ => isTrue trivial
  | _, .selectSeat _ => isTrue trivial

instance decAdmitsRun (shows : List Show) (showId : String) :
    (s : Screen) → (events : List ScreenEvent) → Decidable (admitsRun shows showId s events)
  | _, [] => isTrue trivial
  | s, e :: events =>
      have := decAdmitsRun shows showId (step shows showId s e) events
      inferInstanceAs (Decidable (_ ∧ _))

namespace Sample

def twoSeats : Show where
  id := "show1"
  seats := [⟨"seat1", some ⟨"A", 1⟩, .AVAILABLE⟩, ⟨"seat2", some ⟨"A", 2⟩, .AVAILABLE⟩]
  ids := by decide

theorem coded_twoSeats : ∀ shw ∈ [twoSeats], shw.id = "show1" → Coded shw := by
  intro shw hshw _
  obtain rfl := List.mem_singleton.mp hshw
  exact ⟨by decide, by decide⟩

/-- The seat is locked after the snapshot, and the message comes after the
response. -/
def lockedAfter : List ScreenEvent :=
  [.loadSeats, .snapshot, .send (.seat_locked "show1" "seat1"), .respond, .deliver, .change]

def lockedBefore : List ScreenEvent :=
  [.loadSeats, .snapshot, .send (.seat_locked "show1" "seat1"), .deliver, .change, .respond]

end Sample

theorem honest_lockedAfter :
    Honest "show1" (run [Sample.twoSeats] "show1" {} Sample.lockedAfter) :=
  honest_run [Sample.twoSeats] "show1" Sample.coded_twoSeats (by decide +kernel)

/-- The id of the seat is kept, and its code is not. -/
theorem not_honest_lockedBefore :
    ¬ ∀ (shows : List Show) (showId : String), (∀ shw ∈ shows, shw.id = showId → Coded shw) →
      ∀ events : List ScreenEvent, Honest showId (run shows showId {} events) := by
  intro h
  have hshown := (h [Sample.twoSeats] "show1" Sample.coded_twoSeats Sample.lockedBefore 0
    (by decide +kernel) "seat1" .LOCKED (by decide +kernel) nofun (by decide +kernel)).2
  revert hshown
  decide +kernel

end Omnipax.SeatScreen
