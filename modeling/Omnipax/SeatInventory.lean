import Omnipax.Shows

/-!
# The seats of a show

A show has no row at all, or one row for each seat of its screen and their number as
its capacity (`Stocked`). Seats are given to a screen that has none, a new show comes
with its rows, and a repair adds those that are missing: what a command that is in
order makes of the data (`ShowStep`) keeps it so.
-/

namespace Omnipax.Shows

open Conc Database Prog

variable {d : ShowData} {x y : String} {i : Nat} {op : ShowOp} {s : ShowSnap}

/-! ## What is observed -/

def seatIds (d : ShowData) (x : String) : List String := (d.seatsOf x).map (·.id)

def rowSeats (d : ShowData) (y : String) : List String := (d.rowsOf y).map (·.seatId)

/-- Show `y` is one of screen `x`. -/
def Shown (y x : String) (d : ShowData) : Prop := ∃ v ∈ d.shows, v.id = y ∧ v.screenId = x

/-- It has one row for each seat. -/
def Full (y x : String) (d : ShowData) : Prop :=
  (rowSeats d y).Perm (seatIds d x) ∧
    ∃ v ∈ d.shows, v.id = y ∧ v.screenId = x ∧ v.totalCapacity = (seatIds d x).length

structure Stocked (d : ShowData) : Prop where
  shows : (d.shows.map (·.id)).Nodup
  seats : (d.seats.map (·.id)).Nodup
  /-- No two seats of a screen have one row and number. -/
  codes : (d.seats.map (·.toSeatData)).Nodup
  screens : (d.screens.map (·.id)).Nodup
  filed : ∀ a ∈ d.seatAvailability, a.showId ∈ d.shows.map (·.id)
  stocked : ∀ y x, Shown y x d → rowSeats d y = [] ∨ Full y x d

theorem rowSeats_eq_nil (h : ∀ a ∈ d.seatAvailability, a.showId ∈ d.shows.map (·.id))
    (hy : y ∉ d.shows.map (·.id)) : rowSeats d y = [] := by
  rw [rowSeats, List.map_eq_nil_iff, ShowData.rowsOf, List.filter_eq_nil_iff]
  intro a ha hkey
  exact hy (eq_of_beq hkey ▸ h a ha)

theorem Shown.unique {x' : String} (hd : (d.shows.map (·.id)).Nodup) (h : Shown y x d)
    (h' : Shown y x' d) : x = x' := by
  obtain ⟨v, hv, rfl, rfl⟩ := h
  obtain ⟨v', hv', hid, rfl⟩ := h'
  rw [List.inj_on_of_nodup_map hd hv' hv hid]

/-! ## Seats of a screen that had none -/

section Seats

variable {l : List Seat} (hl : ∀ r ∈ l, r.screenId = x)
include hl

theorem seatIds_seats_other {x' : String} (hx : x' ≠ x) :
    seatIds { d with seats := d.seats ++ l } x' = seatIds d x' := by
  have hnone : l.filter (·.screenId == x') = [] :=
    List.filter_eq_nil_iff.mpr fun r hr h => hx ((hl r hr).symm.trans (eq_of_beq h)).symm
  simp [seatIds, ShowData.seatsOf, hnone]

theorem stocked_seats (h : Stocked d) (hnone : seatIds d x = [])
    (hids : ((d.seats ++ l).map (·.id)).Nodup) (hcodes : (l.map (·.toSeatData)).Nodup) :
    Stocked { d with seats := d.seats ++ l } where
  shows := h.shows
  seats := hids
  codes := by
    rw [List.map_append]
    refine h.codes.append hcodes (List.disjoint_left.mpr fun c hc hc' => ?_)
    obtain ⟨r, hr, rfl⟩ := List.mem_map.mp hc
    obtain ⟨r', hr', hcode⟩ := List.mem_map.mp hc'
    have hmem : r.id ∈ seatIds d x := List.mem_map_of_mem (List.mem_filter.mpr ⟨hr, by
      rw [beq_iff_eq, ← hl r' hr', hcode]⟩)
    rw [hnone] at hmem
    cases hmem
  screens := h.screens
  filed := h.filed
  stocked := by
    intro y x' hy
    by_cases hx : x' = x
    · subst hx
      rcases h.stocked y x' hy with hrows | ⟨hperm, -⟩
      · exact Or.inl hrows
      · rw [hnone] at hperm
        exact Or.inl hperm.eq_nil
    · rcases h.stocked y x' hy with hrows | hfull
      · exact Or.inl hrows
      · refine Or.inr ?_
        unfold Full at hfull ⊢
        rw [seatIds_seats_other hl hx]
        exact hfull

end Seats

/-! ## A new show -/

/-- What a transaction of `createShow` writes: a new show, and its rows. -/
def Opens (ws : List ShowWrite) (d : ShowData) : Prop :=
  ∃ v rows, v.id ∉ d.shows.map (·.id) ∧
    (ws = [.create v] ∧ rows = [] ∨ ws = [.create v, .rows rows]) ∧
    (∀ r ∈ rows, r.showId = v.id) ∧
    (rows = [] ∨ (rows.map (·.seatId)).Perm (seatIds d v.screenId) ∧ v.totalCapacity = rows.length)

theorem applyAll_opens {ws : List ShowWrite} {v : Show} {rows : List SeatAvailability}
    (h : ws = [.create v] ∧ rows = [] ∨ ws = [.create v, .rows rows]) :
    showDb.applyAll ws d =
      { d with shows := d.shows ++ [v], seatAvailability := d.seatAvailability ++ rows } := by
  rcases h with ⟨rfl, rfl⟩ | rfl
  · show ShowWrite.apply (.create v) d = _
    simp [ShowWrite.apply]
  · rfl

theorem rowSeats_rows {rows : List SeatAvailability} {shows : List Show}
    (h : ∀ r ∈ rows, r.showId = y) :
    rowSeats { d with shows, seatAvailability := d.seatAvailability ++ rows } y
      = rowSeats d y ++ rows.map (·.seatId) := by
  have hall : rows.filter (·.showId == y) = rows :=
    List.filter_eq_self.mpr fun r hr => beq_iff_eq.mpr (h r hr)
  simp [rowSeats, ShowData.rowsOf, hall]

theorem rowSeats_rows_other {rows : List SeatAvailability} {shows : List Show} {y' : String}
    (h : ∀ r ∈ rows, r.showId = y) (hy : y' ≠ y) :
    rowSeats { d with shows, seatAvailability := d.seatAvailability ++ rows } y'
      = rowSeats d y' := by
  have hnone : rows.filter (·.showId == y') = [] :=
    List.filter_eq_nil_iff.mpr fun r hr hkey => hy ((h r hr).symm.trans (eq_of_beq hkey)).symm
  simp [rowSeats, ShowData.rowsOf, hnone]

theorem stocked_opens {ws : List ShowWrite} (h : Stocked d) (hws : Opens ws d) :
    Stocked (showDb.applyAll ws d) := by
  obtain ⟨v, rows, hnew, hws, hrows, hseats⟩ := hws
  rw [applyAll_opens hws]
  have hids : (d.shows ++ [v]).map (·.id) = d.shows.map (·.id) ++ [v.id] := List.map_append
  refine ⟨?_, h.seats, h.codes, h.screens, fun a ha => ?_, fun y x hy => ?_⟩
  · rw [hids]
    exact h.shows.append (List.nodup_singleton _)
      (List.disjoint_singleton.mpr hnew)
  · rw [hids]
    rcases List.mem_append.mp ha with ha | ha
    · exact List.mem_append_left _ (h.filed a ha)
    · rw [hrows a ha]
      exact List.mem_append_right _ (List.mem_singleton_self _)
  · obtain ⟨v', hv', rfl, rfl⟩ := hy
    rcases List.mem_append.mp hv' with hv' | hv'
    · have hne : v'.id ≠ v.id := fun hid => hnew (hid ▸ List.mem_map_of_mem hv')
      rw [rowSeats_rows_other hrows hne]
      rcases h.stocked v'.id v'.screenId ⟨v', hv', rfl, rfl⟩ with hnone | ⟨hperm, v₀, hv₀, hfull⟩
      · exact Or.inl hnone
      · refine Or.inr ⟨?_, v₀, List.mem_append_left _ hv₀, hfull⟩
        rw [rowSeats_rows_other hrows hne]
        exact hperm
    · obtain rfl := List.mem_singleton.mp hv'
      have hnone : rowSeats d v'.id = [] := rowSeats_eq_nil h.filed hnew
      rw [rowSeats_rows hrows, hnone, List.nil_append]
      rcases hseats with rfl | ⟨hperm, hcapacity⟩
      · exact Or.inl rfl
      · refine Or.inr ⟨?_, v', List.mem_append_right _ (List.mem_singleton_self _), rfl, rfl, ?_⟩
        · rw [rowSeats_rows hrows, hnone, List.nil_append]
          exact hperm
        · rw [hcapacity, ← List.length_map (·.seatId)]
          exact hperm.length_eq

/-! ## The rows of a show that had none -/

theorem setCapacity_id (y : String) (n : Nat) (v : Show) : (setCapacity y n v).id = v.id := by
  unfold setCapacity
  split <;> rfl

theorem setCapacity_screenId (y : String) (n : Nat) (v : Show) :
    (setCapacity y n v).screenId = v.screenId := by
  unfold setCapacity
  split <;> rfl

theorem setCapacity_other {n : Nat} {v : Show} (h : v.id ≠ y) : setCapacity y n v = v := if_neg h

theorem setCapacity_self {n : Nat} {v : Show} (h : v.id = y) :
    (setCapacity y n v).totalCapacity = n := by
  rw [setCapacity, if_pos h]

/-- What the repair writes for a show: the rows that are missing, and the number of
seats. -/
structure FillsShow (y x : String) (rows : List SeatAvailability) (n : Nat) (d : ShowData) :
    Prop where
  shown : Shown y x d
  filed : ∀ r ∈ rows, r.showId = y
  seats : (rowSeats d y ++ rows.map (·.seatId)).Perm (seatIds d x)
  capacity : n = (seatIds d x).length

def Fills (ws : List ShowWrite) (d : ShowData) : Prop :=
  ∃ y x rows n, ws = [.rows rows, .capacity y n] ∧ FillsShow y x rows n d

theorem full_capacity {y' x' : String} {n : Nat} {rows : List SeatAvailability}
    (hrows : ∀ r ∈ rows, r.showId = y) (hy : y' ≠ y) (h : Full y' x' d) :
    Full y' x' { d with
      shows := d.shows.map (setCapacity y n), seatAvailability := d.seatAvailability ++ rows } := by
  obtain ⟨hperm, v, hv, rfl, rfl, hcapacity⟩ := h
  refine ⟨?_, v, List.mem_map.mpr ⟨v, hv, setCapacity_other hy⟩, rfl, rfl, hcapacity⟩
  rw [rowSeats_rows_other hrows hy]
  exact hperm

/-- **Repair of a show**: it has its rows. -/
theorem full_fillsShow {rows : List SeatAvailability} {n : Nat} (h : FillsShow y x rows n d) :
    Full y x { d with
      shows := d.shows.map (setCapacity y n), seatAvailability := d.seatAvailability ++ rows } := by
  obtain ⟨v, hv, hid, hscreen⟩ := h.shown
  refine ⟨?_, setCapacity y n v, List.mem_map_of_mem hv, (setCapacity_id ..).trans hid,
    (setCapacity_screenId ..).trans hscreen, (setCapacity_self hid).trans h.capacity⟩
  rw [rowSeats_rows h.filed]
  exact h.seats

theorem shown_capacity {y' x' : String} {n : Nat} {rows : List SeatAvailability} :
    Shown y' x' { d with
      shows := d.shows.map (setCapacity y n), seatAvailability := d.seatAvailability ++ rows } ↔
      Shown y' x' d := by
  constructor
  · rintro ⟨v, hv, hid, hscreen⟩
    obtain ⟨v₀, hv₀, rfl⟩ := List.mem_map.mp hv
    exact ⟨v₀, hv₀, (setCapacity_id ..).symm.trans hid,
      (setCapacity_screenId ..).symm.trans hscreen⟩
  · rintro ⟨v, hv, hid, hscreen⟩
    exact ⟨_, List.mem_map_of_mem hv, (setCapacity_id ..).trans hid,
      (setCapacity_screenId ..).trans hscreen⟩

theorem stocked_fills {ws : List ShowWrite} (h : Stocked d) (hws : Fills ws d) :
    Stocked (showDb.applyAll ws d) := by
  obtain ⟨y, x, rows, n, rfl, hfills⟩ := hws
  have hids : (d.shows.map (setCapacity y n)).map (·.id) = d.shows.map (·.id) := by
    rw [List.map_map]
    exact List.map_congr_left fun v _ => setCapacity_id y n v
  refine ⟨?_, h.seats, h.codes, h.screens, fun a ha => ?_, fun y' x' hy' => ?_⟩
  · exact hids ▸ h.shows
  · show a.showId ∈ (d.shows.map (setCapacity y n)).map (·.id)
    rw [hids]
    rcases List.mem_append.mp ha with ha | ha
    · exact h.filed a ha
    · obtain ⟨v, hv, hid, -⟩ := hfills.shown
      rw [hfills.filed a ha, ← hid]
      exact List.mem_map_of_mem hv
  · have hold : Shown y' x' d := shown_capacity.mp hy'
    by_cases heq : y' = y
    · subst heq
      obtain rfl := hold.unique h.shows hfills.shown
      exact Or.inr (full_fillsShow hfills)
    · rcases h.stocked y' x' hold with hnone | hfull
      · exact Or.inl ((rowSeats_rows_other hfills.filed heq).trans hnone)
      · exact Or.inr (full_capacity hfills.filed heq hfull)

/-! ## What bookings do -/

theorem rowSeats_status (y y' x' : String) (to_ : SeatStatus) :
    rowSeats ((BookingMove.status y' x' to_).apply d) y = rowSeats d y := by
  have hshow (a : SeatAvailability) : (setStatus y' x' to_ a).showId = a.showId := by
    unfold setStatus
    split <;> rfl
  have hseat (a : SeatAvailability) : (setStatus y' x' to_ a).seatId = a.seatId := by
    unfold setStatus
    split <;> rfl
  show ((d.seatAvailability.map (setStatus y' x' to_)).filter (·.showId == y)).map (·.seatId) = _
  rw [List.filter_map, List.map_map]
  have hfilter : ((·.showId == y) ∘ setStatus y' x' to_) = (·.showId == y) :=
    funext fun a => congrArg (· == y) (hshow a)
  rw [hfilter]
  exact List.map_congr_left fun a _ => hseat a

theorem setRemaining_same (y : String) (n : Int) (v : Show) :
    (setRemaining y n v).id = v.id ∧ (setRemaining y n v).screenId = v.screenId ∧
      (setRemaining y n v).totalCapacity = v.totalCapacity := by
  unfold setRemaining
  split <;> exact ⟨rfl, rfl, rfl⟩

theorem shown_move {m : BookingMove} : Shown y x (m.apply d) ↔ Shown y x d := by
  cases m with
  | status y' x' to_ => exact Iff.rfl
  | remaining y' n =>
      constructor
      · rintro ⟨v, hv, rfl, rfl⟩
        obtain ⟨v₀, hv₀, rfl⟩ := List.mem_map.mp hv
        obtain ⟨hid, hscreen, -⟩ := setRemaining_same y' n v₀
        exact ⟨v₀, hv₀, hid.symm, hscreen.symm⟩
      · rintro ⟨v, hv, rfl, rfl⟩
        obtain ⟨hid, hscreen, -⟩ := setRemaining_same y' n v
        exact ⟨_, List.mem_map_of_mem hv, hid, hscreen⟩

theorem rowSeats_move (m : BookingMove) : rowSeats (m.apply d) y = rowSeats d y := by
  cases m with
  | status y' x' to_ => exact rowSeats_status y y' x' to_
  | remaining y' n => rfl

theorem seatIds_move (m : BookingMove) : seatIds (m.apply d) x = seatIds d x := by
  cases m <;> rfl

theorem ids_move (m : BookingMove) : (m.apply d).shows.map (·.id) = d.shows.map (·.id) := by
  cases m with
  | status y' x' to_ => rfl
  | remaining y' n =>
      show (d.shows.map (setRemaining y' n)).map (·.id) = _
      rw [List.map_map]
      exact List.map_congr_left fun v _ => (setRemaining_same y' n v).1

theorem full_move {m : BookingMove} (h : Full y x d) : Full y x (m.apply d) := by
  obtain ⟨hperm, v, hv, rfl, rfl, hcapacity⟩ := h
  refine ⟨?_, ?_⟩
  · rw [rowSeats_move, seatIds_move]
    exact hperm
  · rw [seatIds_move]
    cases m with
    | status y' x' to_ => exact ⟨v, hv, rfl, rfl, hcapacity⟩
    | remaining y' n =>
        obtain ⟨hid, hscreen, hcap⟩ := setRemaining_same y' n v
        exact ⟨_, List.mem_map_of_mem hv, hid, hscreen, hcap.trans hcapacity⟩

theorem stocked_move (h : Stocked d) (m : BookingMove) : Stocked (m.apply d) where
  shows := by
    rw [ids_move]
    exact h.shows
  seats := by cases m <;> exact h.seats
  codes := by cases m <;> exact h.codes
  screens := by cases m <;> exact h.screens
  filed := by
    rw [ids_move]
    cases m with
    | remaining y' n => exact h.filed
    | status y' x' to_ =>
        intro a ha
        obtain ⟨a₀, ha₀, rfl⟩ := List.mem_map.mp ha
        have hfiled := h.filed a₀ ha₀
        unfold setStatus
        split <;> exact hfiled
  stocked y x hy := by
    rw [rowSeats_move]
    exact (h.stocked y x (shown_move.mp hy)).imp id full_move

/-! ## Steps -/

def Superseded (i : Nat) (s : ShowSnap) : Prop := ∃ e ∈ s.hist, e.op = .repair ∧ i < e.tid

/-- A repair is over, or broken off, when the next one begins. The script is run by hand,
and has no lock of its own. -/
def oneRepair : Discipline showDb.sig ShowStore ShowOracle ShowOp where
  starts _ := True
  allows i op c o s := showDb.waits c o s.world = false ∧
    (op = .repair → ∀ e ∈ s.hist, e.op = .repair → e.tid ≤ i)

instance : DecidablePred oneRepair.starts := fun _ => isTrue trivial

instance (i : Nat) (op : ShowOp) (c : TxCmd ShowStmt) (o : ShowOracle) :
    DecidablePred (oneRepair.allows i op c o) :=
  fun _ => inferInstanceAs (Decidable (_ ∧ _))

theorem not_superseded {c : TxCmd ShowStmt} {o : ShowOracle} (h : oneRepair.allows i op c o s)
    (hop : op = .repair) : ¬Superseded i s := by
  rintro ⟨e, he, hrepair, hlt⟩
  have := h.2 hop e he hrepair
  omega

/-- What a call may do where it is. -/
def ShowPre (i : Nat) (op : ShowOp) (c : TxCmd ShowStmt) (s : ShowSnap) : Prop :=
  Own i c s ∧ match c with
    | .stmt none (.seatCreateMany data) => op = .repair ∧ (Superseded i s ∨ data.Nodup ∧
        ∃ x, (∀ r ∈ data, r.screenId = x) ∧ seatIds s.world.data x = [])
    | .stmt none (.showCreate _) | .stmt none (.showUpdate ..)
    | .stmt none (.availabilityCreateMany ..) => False
    | .commit tx => ∀ ss, s.world.session? tx = some ss → ss.failed = false →
        Opens ss.writes s.world.data ∨
          op = .repair ∧ (Superseded i s ∨ Fills ss.writes s.world.data)
    | _ => True

/-- What a command makes of the committed data: nothing, the seats of a screen that had
none, a show that opens with its rows, or rows for shows that had none. -/
inductive ShowStep (op : ShowOp) (c : TxCmd ShowStmt) (d : ShowData) : ShowData → Prop where
  | same : ShowStep op c d d
  | seats {x : String} {data : List SeatData} {l : List Seat} : op = .repair →
      c = .stmt none (.seatCreateMany data) → (∀ r ∈ l, r.toSeatData ∈ data) →
      (∀ r ∈ l, r.screenId = x) → seatIds d x = [] → ((d.seats ++ l).map (·.id)).Nodup →
      (l.map (·.toSeatData)).Nodup → ShowStep op c d { d with seats := d.seats ++ l }
  | opens {tx : Nat} {ws : List ShowWrite} : c = .commit tx → Opens ws d →
      ShowStep op c d (showDb.applyAll ws d)
  | fills {tx : Nat} {ws : List ShowWrite} : op = .repair → c = .commit tx → Fills ws d →
      ShowStep op c d (showDb.applyAll ws d)

theorem showStep_seats {data : List SeatData} {o : ShowOracle} (hids : (d.seats.map (·.id)).Nodup)
    (hop : op = .repair) (hcodes : data.Nodup) (hx : ∀ r ∈ data, r.screenId = x)
    (hnone : seatIds d x = []) :
    ShowStep op (.stmt none (.seatCreateMany data)) d
      (showDb.applyAll ((ShowStmt.seatCreateMany data).exec o d).2 d) := by
  simp only [ShowStmt.exec]
  generalize hrows :
    (data.zipIdx.map fun r => ({ toSeatData := r.1, id := o.cuid r.2 } : Seat)) = rows
  have hdata : rows.map (·.toSeatData) = data := by
    rw [← hrows, List.map_map]
    exact List.zipIdx_map_fst ..
  split
  · exact .same
  · have hsub : (newRows (·.id) (d.seats.map (·.id)) rows).Sublist rows := newRows_sublist
    have hmem : ∀ r ∈ newRows (·.id) (d.seats.map (·.id)) rows, r.toSeatData ∈ data :=
      fun r hr => hdata ▸ List.mem_map_of_mem (hsub.subset hr)
    refine .seats hop rfl hmem (fun r hr => hx _ (hmem r hr)) hnone ?_ ?_
    · rw [List.map_append]
      refine hids.append newRows_nodup (List.disjoint_right.mpr fun id hid => ?_)
      obtain ⟨r, hr, rfl⟩ := List.mem_map.mp hid
      exact newRows_fresh r hr
    · exact (hdata ▸ hcodes).sublist (hsub.map _)

theorem showStep (hok : showDb.StoreOk s.world) (hids : (s.world.data.seats.map (·.id)).Nodup)
    {c : TxCmd ShowStmt} {o : ShowOracle} (hpre : ShowPre i op c s)
    (hallows : oneRepair.allows i op c o s) :
    ShowStep op c s.world.data (showDb.step c o s.world).2.data := by
  rcases step_data showDb c o s.world with hd | ⟨q, rfl, -, hd⟩ | ⟨ss, rfl, hss, hgo, hd⟩ <;>
    rw [hd]
  · exact .same
  · show ShowStep op _ s.world.data (showDb.applyAll (q.exec o s.world.data).2 s.world.data)
    cases q with
    | seatCreateMany data =>
        obtain ⟨-, hop, hpre⟩ := hpre
        obtain ⟨hcodes, x, hx, hnone⟩ := hpre.resolve_left (not_superseded hallows hop)
        exact showStep_seats hids hop hcodes hx hnone
    | screenFindUnique _ => exact .same
    | screenFindMany => exact .same
    | seatFindMany _ => exact .same
    | showCreate _ => exact hpre.2.elim
    | showUpdate _ _ => exact hpre.2.elim
    | availabilityCreateMany _ _ => exact hpre.2.elim
  · rcases hpre.2 ss (session?_of_mem hok hss) hgo with hopens | ⟨hop, hfills⟩
    · exact .opens rfl hopens
    · exact .fills hop rfl (hfills.resolve_left (not_superseded hallows hop))

/-- No seats of the screen are created by the command. -/
def Seatless (x : String) (c : TxCmd ShowStmt) : Prop :=
  ∀ data, c = .stmt none (.seatCreateMany data) → ∀ r ∈ data, r.screenId ≠ x

section Steps

variable {c : TxCmd ShowStmt} {d' : ShowData} (hstep : ShowStep op c d d')
include hstep

theorem ShowStep.stocked (h : Stocked d) : Stocked d' := by
  cases hstep with
  | same => exact h
  | seats _ _ _ hl hnone hids hcodes => exact stocked_seats hl h hnone hids hcodes
  | opens _ hws => exact stocked_opens h hws
  | fills _ _ hws => exact stocked_fills h hws

theorem ShowStep.screens : d'.screens = d.screens := by
  cases hstep with
  | same => rfl
  | seats _ _ _ _ _ _ _ => rfl
  | opens _ hws =>
      obtain ⟨v, rows, -, hws, -⟩ := hws
      rw [applyAll_opens hws]
  | fills _ _ hws =>
      obtain ⟨_, _, _, _, rfl, -⟩ := hws
      rfl

theorem ShowStep.seatIds (hx : Shows.seatIds d x ≠ [] ∨ op ≠ .repair ∨ Seatless x c) :
    Shows.seatIds d' x = Shows.seatIds d x := by
  cases hstep with
  | same => rfl
  | @seats x' data l hop hc hdata hl hnone _ _ =>
      by_cases heq : x = x'
      · subst heq
        rcases hx with hx | hx | hx
        · exact absurd hnone hx
        · exact absurd hop hx
        · cases l with
          | nil => simp [Shows.seatIds, ShowData.seatsOf]
          | cons r l =>
              exact absurd (hl r (List.mem_cons_self ..))
                (hx data hc r.toSeatData (hdata r (List.mem_cons_self ..)))
      · exact seatIds_seats_other hl heq
  | opens _ hws =>
      obtain ⟨v, rows, -, hws, -⟩ := hws
      rw [applyAll_opens hws]
      rfl
  | fills _ _ hws =>
      obtain ⟨_, _, _, _, rfl, -⟩ := hws
      rfl

theorem ShowStep.shown (h : Shown y x d) : Shown y x d' := by
  cases hstep with
  | same => exact h
  | seats _ _ _ _ _ _ _ => exact h
  | opens _ hws =>
      obtain ⟨v, rows, -, hws, -⟩ := hws
      rw [applyAll_opens hws]
      obtain ⟨v', hv', h⟩ := h
      exact ⟨v', List.mem_append_left _ hv', h⟩
  | fills _ _ hws =>
      obtain ⟨_, _, rows, _, rfl, -⟩ := hws
      exact (shown_capacity (d := d)).mpr h

/-- Only a repair gives rows to a show that is there. -/
theorem ShowStep.rowSeats (hop : op ≠ .repair) (h : Shown y x d) :
    Shows.rowSeats d' y = Shows.rowSeats d y := by
  cases hstep with
  | same => rfl
  | seats hop' => exact absurd hop' hop
  | fills hop' _ _ => exact absurd hop' hop
  | opens _ hws =>
      obtain ⟨v, rows, hnew, hws, hrows, -⟩ := hws
      rw [applyAll_opens hws]
      obtain ⟨v', hv', rfl, -⟩ := h
      exact rowSeats_rows_other hrows fun hid => hnew (hid ▸ List.mem_map_of_mem hv')

theorem ShowStep.full (hd : Stocked d) (hx : Shows.seatIds d x ≠ [] ∨ op ≠ .repair ∨ Seatless x c)
    (h : Full y x d) : Full y x d' := by
  have hseats := hstep.seatIds hx
  have hshown : Shown y x d := by
    obtain ⟨-, v, hv, hid, hscreen, -⟩ := h
    exact ⟨v, hv, hid, hscreen⟩
  cases hstep with
  | same => exact h
  | seats _ _ _ _ _ _ _ =>
      unfold Full at h ⊢
      rw [hseats]
      exact h
  | opens _ hws =>
      obtain ⟨v, rows, hnew, hws, hrows, -⟩ := hws
      rw [applyAll_opens hws]
      obtain ⟨hperm, v', hv', hid, hfull⟩ := h
      refine ⟨?_, v', List.mem_append_left _ hv', hid, hfull⟩
      rw [rowSeats_rows_other hrows fun hid' => hnew (hid'.symm.trans hid.symm ▸
        List.mem_map_of_mem hv')]
      exact hperm
  | fills _ _ hws =>
      obtain ⟨y', x', rows, n, rfl, hfills⟩ := hws
      by_cases heq : y = y'
      · subst heq
        obtain rfl := hshown.unique hd.shows hfills.shown
        exact full_fillsShow hfills
      · exact full_capacity hfills.filed heq h

end Steps

end Omnipax.Shows
