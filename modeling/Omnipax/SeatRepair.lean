import Omnipax.SeatInventory

/-!
# Shows that are created and repaired at once

Whatever calls are interleaved and wherever they break off, shows stay stocked. The
seats a call has read may be out of date when it writes the rows: they are so only
if there were none, since a screen is given its seats at once. That it is given them
once is owed to there being one repair at a time, which then leaves no show it has
found without its rows.
-/

namespace Omnipax.Shows

open Conc Database Prog

variable {d : ShowData} {x y : String} {i : Nat} {op : ShowOp} {s : ShowSnap}

/-! ## The outline -/

structure Inventory (s : ShowSnap) : Prop where
  owned : Owned s
  stocked : Stocked s.world.data
  small : ∀ x ∈ s.world.data.screens, x.totalRows ≤ 65536
  /-- What has been seen of seats, is there still. -/
  seats : ∀ e ∈ s.hist, ∀ x, seatIds e.before.data x ≠ [] →
    seatIds s.world.data x = seatIds e.before.data x
  rows : ∀ e ∈ s.hist, ∀ y x, seatIds e.before.data x ≠ [] → Full y x e.before.data →
    Full y x s.world.data

def inventoryOutline : ShowOutline where
  toDiscipline := oneRepair
  inv := Inventory
  pre := ShowPre

theorem tracks_inventory : Tracks inventoryOutline where
  store h := h.owned.store
  openers h := h.owned.openers
  own h := h.1
  waits h := h.1

theorem Inventory.step (h : Inventory s) {c : TxCmd ShowStmt} {o : ShowOracle}
    (hpre : ShowPre i op c s) (hallows : oneRepair.allows i op c o s) :
    ShowStep op c s.world.data (showDb.step c o s.world).2.data :=
  showStep h.owned.store h.stocked.seats hpre hallows

theorem inventory_exec (h : Inventory s) {c : TxCmd ShowStmt} {o : ShowOracle}
    (hpre : ShowPre i op c s) (hallows : oneRepair.allows i op c o s) :
    Inventory (s.exec shows i op c o) := by
  have hstep := h.step hpre hallows
  refine ⟨h.owned.exec hpre.1 hallows.1, hstep.stocked h.stocked, ?_, fun e he x hx => ?_,
    fun e he y x hx hfull => ?_⟩
  · show ∀ x ∈ (showDb.step c o s.world).2.data.screens, _
    rw [hstep.screens]
    exact h.small
  · rcases List.mem_cons.mp he with rfl | he
    · exact hstep.seatIds (Or.inl hx)
    · have hsame := h.seats e he x hx
      exact (hstep.seatIds (Or.inl (hsame ▸ hx))).trans hsame
  · rcases List.mem_cons.mp he with rfl | he
    · exact hstep.full h.stocked (Or.inl hx) hfull
    · exact hstep.full h.stocked (Or.inl (h.seats e he x hx ▸ hx)) (h.rows e he y x hx hfull)

theorem inventory_env (h : Inventory s) (e : DbEnv BookingMove) : Inventory (s.env shows e) := by
  cases e with
  | abort tx => exact ⟨owned_env h.owned _, h.stocked, h.small, h.seats, h.rows⟩
  | data m =>
      refine ⟨owned_env h.owned _, stocked_move h.stocked m, ?_, fun e he x hx => ?_,
        fun e he y x hx hfull => full_move (h.rows e he y x hx hfull)⟩
      · cases m <;> exact h.small
      · exact (seatIds_move m).trans (h.seats e he x hx)

/-! ## What lasts -/

/-- A fact that bookings, other calls and a repair's own commands of a kind keep. -/
structure Lasts (P : TxCmd ShowStmt → Prop) (F : ShowData → Prop) : Prop where
  move : ∀ (m : BookingMove) {d}, F d → F (m.apply d)
  step : ∀ {op c d d'}, ShowStep op c d d' → Stocked d → op ≠ .repair ∨ P c → F d → F d'

section Lasts

variable {P : TxCmd ShowStmt → Prop} {F G : ShowData → Prop}

theorem Lasts.and (hF : Lasts P F) (hG : Lasts P G) : Lasts P fun d => F d ∧ G d where
  move m _ h := ⟨hF.move m h.1, hG.move m h.2⟩
  step hstep hd hc h := ⟨hF.step hstep hd hc h.1, hG.step hstep hd hc h.2⟩

theorem Lasts.or (hF : Lasts P F) (hG : Lasts P G) : Lasts P fun d => F d ∨ G d where
  move m _ h := h.imp (hF.move m) (hG.move m)
  step hstep hd hc h := h.imp (hF.step hstep hd hc) (hG.step hstep hd hc)

theorem Lasts.const (p : Prop) : Lasts P fun _ => p where
  move _ _ h := h
  step _ _ _ h := h

theorem Lasts.all {α : Type} {F : α → ShowData → Prop} (hF : ∀ a, Lasts P (F a)) (l : List α) :
    Lasts P fun d => ∀ a ∈ l, F a d where
  move m _ h a ha := (hF a).move m (h a ha)
  step hstep hd hc h a ha := (hF a).step hstep hd hc (h a ha)

theorem lasts_shown : Lasts P (Shown y x) where
  move _ _ h := shown_move.mpr h
  step hstep _ _ h := hstep.shown h

theorem lasts_full : Lasts (Seatless x) (Full y x) where
  move _ _ h := full_move h
  step hstep hd hc h := hstep.full hd (Or.inr hc) h

theorem lasts_seats (Q : List String → Prop) : Lasts (Seatless x) fun d => Q (seatIds d x) where
  move m _ h := (seatIds_move m).symm ▸ h
  step hstep _ hc h := (hstep.seatIds (Or.inr hc)).symm ▸ h

/-- The command is a statement in a transaction. -/
def Within (c : TxCmd ShowStmt) : Prop := ∃ tx q, c = .stmt (some tx) q

theorem lasts_fillsShow {rows : List SeatAvailability} {n : Nat} :
    Lasts Within (FillsShow y x rows n) where
  move m d h := ⟨shown_move.mpr h.shown, h.filed, by
    rw [rowSeats_move, seatIds_move]
    exact h.seats, by
    rw [seatIds_move]
    exact h.capacity⟩
  step := by
    intro op c d d' hstep _ hc h
    rcases hc with hop | ⟨tx, q, rfl⟩
    · have hseats := hstep.seatIds (x := x) (Or.inr (Or.inl hop))
      refine ⟨hstep.shown h.shown, h.filed, ?_, hseats ▸ h.capacity⟩
      rw [hstep.rowSeats hop h.shown, hseats]
      exact h.seats
    · -- it is for the commit to write
      cases hstep with
      | same => exact h
      | seats _ hc => cases hc
      | opens hc => cases hc
      | fills _ hc => cases hc

end Lasts

def Begun (i : Nat) (s : ShowSnap) : Prop := ∃ e ∈ s.hist, e.op = .repair ∧ e.tid = i

theorem begun_persistent : Persistent shows (Begun i) where
  exec h _ _ _ _ := by
    obtain ⟨e, he, h⟩ := h
    exact ⟨e, List.mem_cons_of_mem _ he, h⟩
  env h _ := h

theorem superseded_persistent : Persistent shows (Superseded i) where
  exec h _ _ _ _ := by
    obtain ⟨e, he, h⟩ := h
    exact ⟨e, List.mem_cons_of_mem _ he, h⟩
  env h _ := h

/-- What repair `i` knows of the data as long as it is the last one. -/
def Knows (i : Nat) (F : ShowData → Prop) (s : ShowSnap) : Prop :=
  Begun i s ∧ (Superseded i s ∨ F s.world.data)

theorem Knows.mono {F G : ShowData → Prop} (h : Knows i F s) (hF : ∀ d, F d → G d) : Knows i G s :=
  ⟨h.1, h.2.imp id (hF _)⟩

theorem knows_forall {α : Type} {F : α → ShowData → Prop} {l : List α} (hb : Begun i s)
    (h : ∀ a ∈ l, Knows i (F a) s) : Knows i (fun d => ∀ a ∈ l, F a d) s := by
  by_cases hsuper : Superseded i s
  · exact ⟨hb, Or.inl hsuper⟩
  · exact ⟨hb, Or.inr fun a ha => (h a ha).2.resolve_left hsuper⟩

theorem knows_carried {P : TxCmd ShowStmt → Prop} {F : ShowData → Prop} (hF : Lasts P F) :
    Carried shows inventoryOutline i .repair P (Knows i F) where
  stable s s' h hs := by
    cases h with
    | env e _ =>
        cases e with
        | data m => exact ⟨hs.1, hs.2.imp id (hF.move m)⟩
        | abort tx => exact hs
    | @other j op c o hij _ hinv hpre hallows =>
        refine ⟨begun_persistent.exec hs.1 .., ?_⟩
        by_cases hop : op = .repair
        · obtain ⟨e, he, hrepair, rfl⟩ := hs.1
          have hle : e.tid ≤ j := hallows.2 hop e he hrepair
          exact Or.inl ⟨_, List.mem_cons_self .., hop, lt_of_le_of_ne hle hij.symm⟩
        · exact hs.2.imp (superseded_persistent.exec · ..)
            (hF.step (hinv.step hpre hallows) hinv.stocked (Or.inl hop))
  own hinv hpre hallows hs hc := ⟨begun_persistent.exec hs.1 .., hs.2.imp
    (superseded_persistent.exec · ..) (hF.step (hinv.step hpre hallows) hinv.stocked (Or.inr hc))⟩

/-! ## Repair of a show -/

theorem seatIds_nodup (hd : Stocked d) : (seatIds d x).Nodup :=
  hd.seats.sublist (List.filter_sublist.map _)

theorem mem_rowSeats {seatId : String} :
    seatId ∈ rowSeats d y ↔ (y, seatId) ∈ d.seatAvailability.map (·.key) := by
  constructor
  · intro h
    obtain ⟨a, ha, rfl⟩ := List.mem_map.mp h
    obtain ⟨ha, hkey⟩ := List.mem_filter.mp ha
    exact List.mem_map.mpr ⟨a, ha, by rw [SeatAvailability.key, eq_of_beq hkey]⟩
  · intro h
    obtain ⟨a, ha, hkey⟩ := List.mem_map.mp h
    obtain ⟨rfl, rfl⟩ := Prod.mk.inj hkey
    exact List.mem_map_of_mem (List.mem_filter.mpr ⟨ha, beq_iff_eq.mpr rfl⟩)

section RepairShow

variable {freshSeats : List String}

/-- The rows that `skipDuplicates` lets through. -/
def missing (d : ShowData) (y : String) (freshSeats : List String) : List SeatAvailability :=
  newRows (·.key) (d.seatAvailability.map (·.key)) (freshSeats.map (available y none))

theorem fillsShow_missing (hd : Stocked d) (hseats : freshSeats.Perm (seatIds d x))
    (hy : Shown y x d) : FillsShow y x (missing d y freshSeats) freshSeats.length d where
  shown := hy
  filed r hr := by
    obtain ⟨seatId, -, rfl⟩ := List.mem_map.mp (newRows_sublist.subset hr)
    rfl
  capacity := hseats.length_eq
  seats := by
    have hkeys : (freshSeats.map (available y none)).map (·.key) = freshSeats.map (y, ·) :=
      List.map_map
    unfold missing
    rcases hd.stocked y x hy with hnone | ⟨hrows, -⟩
    · rw [newRows_eq_self, hnone, List.map_map]
      · exact (List.map_id freshSeats).symm ▸ hseats
      · rw [hkeys]
        exact (hseats.symm.nodup (seatIds_nodup hd)).map fun _ _ h => (Prod.mk.inj h).2
      · intro r hr hkey
        obtain ⟨seatId, -, rfl⟩ := List.mem_map.mp hr
        have hmem : seatId ∈ rowSeats d y := mem_rowSeats.mpr hkey
        rw [hnone] at hmem
        cases hmem
    · rw [newRows_eq_nil, List.map_nil, List.append_nil]
      · exact hrows
      · intro r hr
        obtain ⟨seatId, hseat, rfl⟩ := List.mem_map.mp hr
        exact mem_rowSeats.mp (hrows.symm.subset (hseats.subset hseat))

/-- A show as the repair has seen it. -/
def Seen (x : String) (v : ShowView) (d : ShowData) : Prop :=
  Shown v.id x d ∧ (v.seatAvailability = [] ∨ Full v.id x d)

theorem lasts_seen (x : String) (v : ShowView) : Lasts (Seatless x) (Seen x v) :=
  lasts_shown.and ((Lasts.const _).or lasts_full)

theorem lasts_listed (x : String) (freshSeats : List String) (v : ShowView) :
    Lasts (Seatless x) fun d => freshSeats.Perm (seatIds d x) ∧ Seen x v d :=
  (lasts_seats (freshSeats.Perm ·)).and (lasts_seen x v)

theorem exec_availability {o : ShowOracle} {data : List SeatAvailability} {skip : Bool} {u : Unit}
    {ws : List ShowWrite}
    (h : showDb.exec (.availabilityCreateMany data skip) o d = (.ok u, ws)) :
    ws = [.rows (newRows (·.key) (d.seatAvailability.map (·.key)) data)] ∧
      (skip = false → newRows (·.key) (d.seatAvailability.map (·.key)) data = data) := by
  simp only [showDb, ShowStmt.exec] at h
  split at h
  · cases h
  · rename_i hskip
    split at h
    · cases h
    · refine ⟨(Prod.mk.inj h).2.symm, fun hfalse => ?_⟩
      subst hfalse
      simpa using hskip

theorem exec_showUpdate {o : ShowOracle} {n : Nat} {u : Unit} {ws : List ShowWrite}
    (h : showDb.exec (.showUpdate y n) o d = (.ok u, ws)) : ws = [.capacity y n] := by
  simp only [showDb, ShowStmt.exec] at h
  split at h
  · exact (Prod.mk.inj h).2.symm
  · cases h

/-- What the transaction is about to commit. -/
def Filling (i tx : Nat) (x y : String) (n : Nat) (s : ShowSnap) : Prop :=
  ∃ rows, InTx i tx (Wrote (· = [.rows rows, .capacity y n])) s ∧ Knows i (FillsShow y x rows n) s

theorem filling_stable (i tx : Nat) (x y : String) (n : Nat) :
    Stable shows inventoryOutline i (Filling i tx x y n) := by
  rintro s s' h ⟨rows, hs⟩
  exact ⟨rows, Wrote.stable tracks_inventory _ s s' h hs.1,
    (knows_carried lasts_fillsShow).stable s s' h hs.2⟩

theorem wp_fill {tx : Nat} {v : ShowView} (hs : InTx i tx (Wrote (· = [])) s)
    (hknown : Knows i (fun d => freshSeats.Perm (seatIds d x) ∧ Seen x v d) s) :
    (do ask (some tx) (.availabilityCreateMany (freshSeats.map (available v.id none)) true)
        ask (some tx) (.showUpdate v.id freshSeats.length)).wp shows inventoryOutline i .repair
      (fun _ => Filling i tx x v.id freshSeats.length) (fun _ s => Opened i tx s ∧ True) s := by
  have hlisted := knows_carried (i := i) (lasts_listed x freshSeats v)
  refine wp_query ((Wrote.stable tracks_inventory _).and hlisted.stable)
    ⟨hs, hknown⟩ ((Opened.persistent i tx).and persistent_true) (fun _ h => ⟨h.1.1, trivial⟩)
    (fun _ _ h => ⟨h.1.1.own rfl, trivial⟩) fun s o u hinv h hallows hok _ => ?_
  have hpre : ∀ q, ShowPre i .repair (.stmt (some tx) q) s := fun q => ⟨h.1.1.own rfl, trivial⟩
  have hfills : Knows i
      (FillsShow v.id x (missing s.world.data v.id freshSeats) freshSeats.length) s :=
    ⟨h.2.1, h.2.2.imp id fun hd => fillsShow_missing hinv.stocked hd.1 hd.2.1⟩
  have hfilled := (knows_carried lasts_fillsShow).own hinv (hpre _) hallows hfills ⟨tx, _, rfl⟩
  have hwrote : InTx i tx (Wrote (· = [.rows (missing s.world.data v.id freshSeats)]))
      (s.exec shows i .repair (.stmt (some tx) (.availabilityCreateMany
        (freshSeats.map (available v.id none)) true)) o) :=
    h.1.wrote hok fun ws ws' hws hexec => by
      subst hws
      exact (exec_availability hexec).1
  rw [← bind_ret (ask (some tx) _)]
  refine wp_query ((Wrote.stable tracks_inventory _).and (knows_carried lasts_fillsShow).stable)
    ⟨hwrote, hfilled⟩ ((Opened.persistent i tx).and persistent_true) (fun _ h => ⟨h.1.1, trivial⟩)
    (fun _ _ h => ⟨h.1.1.own rfl, trivial⟩) fun s o u hinv h hallows hok _ => ?_
  refine wp_ret (filling_stable i tx x v.id freshSeats.length) ⟨_, ?_,
    (knows_carried lasts_fillsShow).own hinv ⟨h.1.1.own rfl, trivial⟩ hallows h.2
      ⟨tx, _, rfl⟩⟩ fun _ _ h => h
  refine h.1.wrote hok fun ws ws' hws hexec => ?_
  subst hws
  rw [exec_showUpdate hexec]
  rfl

/-- **Repair of a show**: it ends with a row for each seat. -/
theorem wp_repairShow {v : ShowView}
    (hs : Knows i (fun d => freshSeats.Perm (seatIds d x) ∧ Seen x v d) s) :
    (repairShow freshSeats v).wp shows inventoryOutline i .repair
      (fun _ => Knows i (Full v.id x)) (fun _ _ => True) s := by
  have hcarried := knows_carried (i := i) (lasts_listed x freshSeats v)
  unfold repairShow
  split
  · rename_i hrows
    refine wp_ret hcarried.stable hs fun s _ h => h.mono fun d hd => hd.2.2.resolve_left ?_
    exact List.ne_nil_of_length_pos hrows
  · refine wp_transaction_of (G := fun _ => True)
      (B := fun tx _ => Filling i tx x v.id freshSeats.length) tracks_inventory hcarried.stable hs
      persistent_true (fun _ _ => trivial) (fun _ _ _ => ⟨nofun, trivial⟩)
      (fun s o hinv h hallows => hcarried.own hinv ⟨nofun, trivial⟩ hallows h nofun)
      (fun _ _ _ h => ⟨h.own rfl, trivial⟩) (fun s tx _ _ h => ?_)
      (fun tx _ => filling_stable i tx x v.id _) (fun _ _ _ _ => trivial)
      (fun s tx _ h hs => wp_fill hs h) fun s tx u o hinv h hallows hok hinv' => ?_
    · obtain ⟨rows, hwrote, -, hfills⟩ := h
      exact ⟨hwrote.1.own rfl, fun ss hss _ => Or.inr ⟨rfl, hfills.imp id fun hfills =>
        ⟨v.id, x, rows, _, (hwrote.2 ss hss).1, hfills⟩⟩⟩
    · obtain ⟨rows, hwrote, hbegun, hfills⟩ := h
      obtain ⟨ss, hss, hdata⟩ := commit_ok hok
      obtain ⟨hws, hgo⟩ := hwrote.2 ss hss
      refine wp_ret (knows_carried lasts_full).stable ⟨begun_persistent.exec hbegun .., Or.inr ?_⟩
        fun _ _ h => h
      have hfull := full_fillsShow (hfills.resolve_left (not_superseded hallows rfl))
      rw [Snap.exec_world, show shows.exec = showDb.step from rfl, hdata hgo, hws]
      exact hfull

end RepairShow

/-! ## Repair of a screen -/

/-- The rows are lettered apart as long as the letters last. -/
theorem seatsData_nodup (x : Screen) (h : x.totalRows ≤ 65536) : (seatsData x).Nodup := by
  refine List.nodup_flatMap.mpr ⟨fun r _ => ?_, ?_⟩
  · refine List.Nodup.map (fun n n' hn => ?_) List.nodup_range
    have hnumber : (n : Int) + 1 = n' + 1 := (SeatData.mk.inj hn).2.2
    omega
  · refine List.Pairwise.imp_of_mem (fun {r r'} hr hr' hne => ?_) List.nodup_range
    refine List.disjoint_left.mpr fun c hc hc' => hne ?_
    obtain ⟨n, -, rfl⟩ := List.mem_map.mp hc
    obtain ⟨n', -, heq⟩ := List.mem_map.mp hc'
    have hletter : UInt16.ofNat (65 + r') = UInt16.ofNat (65 + r) :=
      (List.cons.inj (SeatData.mk.inj heq).2.1).1
    have hcode := congrArg UInt16.toNat hletter
    rw [UInt16.toNat_ofNat', UInt16.toNat_ofNat'] at hcode
    have := List.mem_range.mp hr
    have := List.mem_range.mp hr'
    omega

theorem screenId_seatsData (x : Screen) : ∀ r ∈ seatsData x, r.screenId = x.id := by
  intro r hr
  obtain ⟨_, -, hr⟩ := List.mem_flatMap.mp hr
  obtain ⟨_, -, rfl⟩ := List.mem_map.mp hr
  rfl

section RepairScreen

variable {v : ScreenView}

/-- A screen as the repair has seen it. -/
def Surveyed (v : ScreenView) (d : ShowData) : Prop :=
  (v.seats = [] → seatIds d v.id = [] ∧ ∀ u ∈ v.shows, u.seatAvailability = []) ∧
    ∀ u ∈ v.shows, Seen v.id u d

def Mended (v : ScreenView) (d : ShowData) : Prop := ∀ u ∈ v.shows, Full u.id v.id d

theorem lasts_surveyed (v : ScreenView) : Lasts (Seatless v.id) (Surveyed v) := by
  refine Lasts.and ⟨fun m d h hv => ?_, fun hstep hd hc h hv => ?_⟩
    (Lasts.all (fun u => lasts_seen v.id u) v.shows)
  · exact ⟨(seatIds_move m).trans (h hv).1, (h hv).2⟩
  · exact ⟨(hstep.seatIds (Or.inr hc)).trans (h hv).1, (h hv).2⟩

theorem lasts_mended (v : ScreenView) : Lasts (Seatless v.id) (Mended v) :=
  Lasts.all (fun _ => lasts_full) v.shows

/-- The statement creates no seats of the screen. -/
def SeatlessStmt (x : String) (q : ShowStmt) : Prop :=
  ∀ data, q = .seatCreateMany data → ∀ r ∈ data, r.screenId ≠ x

theorem seatless_of_stmts (c : TxCmd ShowStmt) (h : Stmts (SeatlessStmt x) c) : Seatless x c := by
  rintro data rfl
  exact h data rfl

theorem seatless_repairShow (freshSeats : List String) (u : ShowView) :
    (repairShow freshSeats u).All (Stmts (SeatlessStmt x)) := by
  unfold repairShow
  split
  · trivial
  · exact all_transaction fun tx => (all_query fun _ h => nomatch h).bind fun _ =>
      all_query fun _ h => nomatch h

theorem seatless_repairScreen (h : v.id ≠ x) : (repairScreen v).All (Stmts (SeatlessStmt x)) := by
  have hcreate : (createSeats v).All (Stmts (SeatlessStmt x)) := by
    unfold createSeats
    split
    · refine all_query ?_
      rintro _ hdata r hr
      obtain rfl := ShowStmt.seatCreateMany.inj hdata
      rw [screenId_seatsData v.toScreen r hr]
      exact h
    · trivial
  refine hcreate.bind fun _ => Prog.All.bind (all_query fun _ h => nomatch h) fun freshSeats => ?_
  exact (All.mapM fun u _ => seatless_repairShow freshSeats u).bind fun _ => trivial

theorem wp_createSeats (hsmall : v.totalRows ≤ 65536) (hs : Knows i (Surveyed v) s) :
    (createSeats v).wp shows inventoryOutline i .repair
      (fun _ => Knows i fun d => ∀ u ∈ v.shows, Seen v.id u d) (fun _ _ => True) s := by
  have hstable : Stable shows inventoryOutline i (Knows i (Surveyed v)) :=
    (knows_carried (lasts_surveyed v)).stable
  unfold createSeats
  split
  · rename_i hnone
    have hnone : v.seats = [] := List.length_eq_zero_iff.mp hnone
    have hpre : ∀ s, Inventory s → Knows i (Surveyed v) s →
        ShowPre i .repair (.stmt none (.seatCreateMany (seatsData v.toScreen))) s :=
      fun s _ h => ⟨nofun, rfl, h.2.imp id fun hd => ⟨seatsData_nodup v.toScreen hsmall, v.id,
        screenId_seatsData v.toScreen, (hd.1 hnone).1⟩⟩
    have hbare : Carried shows inventoryOutline i .repair (fun _ => True)
        (Knows i fun d => ∀ u ∈ v.shows, u.seatAvailability = [] ∧ Shown u.id v.id d) :=
      knows_carried (Lasts.all (fun u => (Lasts.const _).and lasts_shown) v.shows)
    rw [← bind_ret (ask none _)]
    refine wp_query hstable hs persistent_true (fun _ _ => trivial) hpre
      fun s o _ hinv h hallows _ _ => ?_
    have hrows : Knows i (fun d => ∀ u ∈ v.shows, u.seatAvailability = [] ∧ Shown u.id v.id d) s :=
      h.mono fun d hd u hu => ⟨(hd.1 hnone).2 u hu, (hd.2 u hu).1⟩
    exact wp_ret hbare.stable (hbare.own hinv (hpre s hinv h) hallows hrows trivial) fun _ _ h =>
      h.mono fun _ hd u hu => ⟨(hd u hu).2, Or.inl (hd u hu).1⟩
  · exact wp_ret hstable hs fun _ _ h => h.mono fun _ hd => hd.2

/-- The seats of the screen, with what has been seen of a show. -/
theorem knows_listed {freshSeats : List String} {o : ShowOracle} (hinv : Inventory s)
    (hallows : oneRepair.allows i .repair (.stmt none (.seatFindMany x)) o s)
    (hok : (showDb.step (.stmt none (.seatFindMany x)) o s.world).1 = .ok freshSeats)
    {l : List ShowView} (h : Knows i (fun d => ∀ u ∈ l, Seen x u d) s) :
    ∀ u ∈ l, Knows i (fun d => freshSeats.Perm (seatIds d x) ∧ Seen x u d)
      (s.exec shows i .repair (.stmt none (.seatFindMany x)) o) := by
  intro u hu
  have hread : freshSeats.Perm (seatIds s.world.data x) := by
    obtain rfl := Except.ok.inj (query_ok hok).1
    exact (shuffle_perm _ _).map _
  exact (knows_carried (lasts_listed x freshSeats u)).own hinv ⟨nofun, trivial⟩ hallows
    ⟨h.1, h.2.imp id fun hd => ⟨hread, hd u hu⟩⟩ fun _ h => nomatch h

/-- **Repair of a screen**: each of its shows ends with a row for each seat. -/
theorem wp_repairScreen (hsmall : v.totalRows ≤ 65536) (hinv : Inventory s)
    (hs : Knows i (Surveyed v) s) :
    (repairScreen v).wp shows inventoryOutline i .repair
      (fun _ s => Knows i (Mended v) s) (fun _ _ => True) s := by
  have hseen : Stable shows inventoryOutline i (Knows i fun d => ∀ u ∈ v.shows, Seen v.id u d) :=
    (knows_carried (Lasts.all (fun u => lasts_seen v.id u) v.shows)).stable
  refine wp_bind hinv ((wp_createSeats hsmall hs).mono (fun _ s hinv h => ?_) fun _ _ _ h => h)
  refine wp_query (hseen.and begun_persistent.stable) ⟨h, h.1⟩ persistent_true (fun _ _ => trivial)
    (fun _ _ _ => ⟨nofun, trivial⟩) fun s o freshSeats hinv h hallows hok hinv' => ?_
  have hbegun : Begun i (s.exec shows i .repair (.stmt none (.seatFindMany v.id)) o) :=
    begun_persistent.exec h.2 ..
  have hall : ∀ u, (repairShow freshSeats u).All (Seatless v.id) := fun u =>
    (seatless_repairShow freshSeats u).mono seatless_of_stmts
  have hloop := wp_mapM_parts (fun u => knows_carried (i := i) (lasts_listed v.id freshSeats u))
    (fun u => knows_carried (lasts_full (y := u.id)))
    (List.pairwise_of_forall fun u u' => ⟨hall u, hall u'⟩)
    (fun u _ s _ h => wp_repairShow h) hinv' (knows_listed hinv hallows hok h.1)
  refine wp_bind hinv' ((hloop.frame_ends begun_persistent hbegun).mono
    (fun _ s _ h => ?_) fun _ _ _ _ => trivial)
  exact wp_ret (knows_carried (lasts_mended v)).stable (knows_forall h.2 h.1) fun _ _ h => h

end RepairScreen

/-! ## The repair -/

/-- Whatever show the repair has found has a row for each seat, unless it is for a
later repair to see to. -/
def Repaired (i : Nat) (s : ShowSnap) : Prop :=
  ∃ e ∈ s.hist, e.tid = i ∧ e.cmd = .stmt none .screenFindMany ∧ (Superseded i s ∨
    ∀ x ∈ e.before.data.screens, ∀ y, Shown y x.id e.before.data → Full y x.id s.world.data)

theorem surveyed_viewScreen (hd : Stocked d) (o : ShowOracle) (x : Screen) :
    Surveyed (viewScreen o d x) d := by
  have hseats : ((viewScreen o d x).seats).Perm (seatIds d x.id) := (shuffle_perm _ _).map _
  have hseen : ∀ u ∈ (viewScreen o d x).shows, Shown u.id x.id d ∧
      (u.seatAvailability = [] ∨ Full u.id x.id d ∧ seatIds d x.id ≠ []) := by
    intro u hu
    obtain ⟨v, hv, rfl⟩ := List.mem_map.mp hu
    obtain ⟨hv, hscreen⟩ := List.mem_filter.mp ((shuffle_perm _ _).subset hv)
    have hshown : Shown v.id x.id d := ⟨v, hv, rfl, eq_of_beq hscreen⟩
    refine ⟨hshown, ?_⟩
    by_cases hrows : rowSeats d v.id = []
    · exact Or.inl (List.map_eq_nil_iff.mp hrows)
    · have hfull := (hd.stocked v.id x.id hshown).resolve_left hrows
      exact Or.inr ⟨hfull, fun hnone => hrows (hnone ▸ hfull.1).eq_nil⟩
  refine ⟨fun hnone => ?_, fun u hu => ⟨(hseen u hu).1, (hseen u hu).2.imp id And.left⟩⟩
  have hnone : seatIds d x.id = [] := (hnone ▸ hseats).nil_eq.symm
  exact ⟨hnone, fun u hu => (hseen u hu).2.resolve_right fun h => h.2 hnone⟩

theorem repaired_of_mended {e : ShowEvent} {o : ShowOracle} (he : e ∈ s.hist) (htid : e.tid = i)
    (hcmd : e.cmd = .stmt none .screenFindMany)
    (h : ∀ v ∈ (shuffle o.order e.before.data.screens).map (viewScreen o e.before.data),
      Knows i (Mended v) s) : Repaired i s := by
  refine ⟨e, he, htid, hcmd, or_iff_not_imp_left.mpr fun hlast x hx y hy => ?_⟩
  have hview : viewScreen o e.before.data x ∈
      (shuffle o.order e.before.data.screens).map (viewScreen o e.before.data) :=
    List.mem_map_of_mem ((shuffle_perm _ _).symm.subset hx)
  obtain ⟨v, hv, rfl, hscreen⟩ := hy
  refine (h _ hview).2.resolve_left hlast (viewShow e.before.data v) (List.mem_map_of_mem ?_)
  exact (shuffle_perm _ _).symm.subset (List.mem_filter.mpr ⟨hv, beq_iff_eq.mpr hscreen⟩)

theorem event_persistent (e : ShowEvent) : Persistent shows fun s => e ∈ s.hist where
  exec h _ _ _ _ := List.mem_cons_of_mem _ h
  env h _ := h

/-- **Repair**: every show it has found ends with a row for each seat. -/
theorem wp_repair :
    repair.wp shows inventoryOutline i .repair (fun _ => Repaired i) (fun _ _ => True) s := by
  refine wp_query persistent_true.stable trivial persistent_true (fun _ _ => trivial)
    (fun _ _ _ => ⟨nofun, trivial⟩) fun s o screens hinv _ hallows hok hinv' => ?_
  obtain rfl := Except.ok.inj (query_ok hok).1
  have hsmall := hinv.small
  have hevent : ∃ e ∈ (s.exec shows i .repair (.stmt none .screenFindMany) o).hist,
      e.tid = i ∧ e.op = .repair ∧ e.cmd = .stmt none .screenFindMany ∧ e.before = s.world :=
    ⟨_, List.mem_cons_self .., rfl, rfl, rfl, rfl⟩
  obtain ⟨e, he, htid, hop, hcmd, hbefore⟩ := hevent
  have hdata :
      (s.exec shows i .repair (.stmt none .screenFindMany) o).world.data = s.world.data := by
    rw [Snap.exec_world, show shows.exec = showDb.step from rfl, (query_ok hok).2]
    rfl
  generalize s.exec shows i .repair (.stmt none .screenFindMany) o = s₁ at *
  generalize hscreens :
    (shuffle o.order s.world.data.screens).map (viewScreen o s.world.data) = screens
  have hread : ∀ v ∈ screens, ∃ x ∈ s.world.data.screens, viewScreen o s.world.data x = v := by
    intro v hv
    rw [← hscreens] at hv
    obtain ⟨x, hx, rfl⟩ := List.mem_map.mp hv
    exact ⟨x, (shuffle_perm _ _).subset hx, rfl⟩
  have hknown : ∀ v ∈ screens, Knows i (Surveyed v) s₁ := by
    intro v hv
    obtain ⟨x, -, rfl⟩ := hread v hv
    refine ⟨⟨e, he, hop, htid⟩, Or.inr ?_⟩
    rw [hdata]
    exact surveyed_viewScreen hinv.stocked o x
  have hapart : screens.Pairwise fun v v' => v.id ≠ v'.id := by
    refine List.pairwise_map.mp ?_
    rw [← hscreens, List.map_map]
    exact ((shuffle_perm _ _).map _).symm.nodup hinv.stocked.screens
  have hloop := wp_mapM_parts (f := repairScreen) (s := s₁)
    (fun v => knows_carried (i := i) (lasts_surveyed v)) (fun v => knows_carried (lasts_mended v))
    (hapart.imp fun hne => ⟨(seatless_repairScreen hne).mono seatless_of_stmts,
      (seatless_repairScreen hne.symm).mono seatless_of_stmts⟩)
    (fun v hv s hinv h => ?_) hinv' hknown
  · refine wp_bind hinv' ((hloop.frame_ends (event_persistent e) he).mono (fun _ s _ h => ?_)
      fun _ _ _ _ => trivial)
    refine wp_ret ((Carried.forall (fun v => knows_carried (lasts_mended v)) screens).stable.and
      (event_persistent e).stable) h fun s _ h => ?_
    rw [← hscreens, ← hbefore] at h
    exact repaired_of_mended h.2 htid hcmd h.1
  · obtain ⟨x, hx, rfl⟩ := hread v hv
    exact wp_repairScreen (hsmall x hx) hinv h

/-! ## A new show -/

/-- The call has read the seats. -/
def ReadSeats (x : String) (seats : List String) (s : ShowSnap) : Prop :=
  ∃ e ∈ s.hist, seats.Perm (seatIds e.before.data x)

theorem readSeats_persistent (x : String) (seats : List String) :
    Persistent shows (ReadSeats x seats) where
  exec h _ _ _ _ := by
    obtain ⟨e, he, h⟩ := h
    exact ⟨e, List.mem_cons_of_mem _ he, h⟩
  env h _ := h

theorem ReadSeats.now {seats : List String} (h : ReadSeats x seats s) (hinv : Inventory s)
    (hseats : seats ≠ []) : seats.Perm (seatIds s.world.data x) := by
  obtain ⟨e, he, hperm⟩ := h
  rw [hinv.seats e he x fun hnone => hseats (hnone ▸ hperm).eq_nil]
  exact hperm

section CreateShow

variable {seats : List String} {tx : Nat} {v : Show} {F : List ShowWrite → Prop}

theorem exec_showCreate {o : ShowOracle} {data : ShowCreate} {row : Show} {ws : List ShowWrite}
    (h : showDb.exec (.showCreate data) o d = (.ok row, ws)) :
    ws = [.create row] ∧ row.id ∉ d.shows.map (·.id) ∧ row.screenId = data.screenId ∧
      row.totalCapacity = data.totalCapacity := by
  simp only [showDb, ShowStmt.exec] at h
  split at h
  · cases h
  · rename_i hnew
    split at h
    · cases h
    · obtain ⟨hrow, rfl⟩ := Prod.mk.inj h
      obtain rfl := Except.ok.inj hrow
      exact ⟨rfl, hnew, rfl, rfl⟩

/-- What a transaction knows that has created show `v`: no one else has by now. -/
def Opening (v : Show) (F : List ShowWrite → Prop) (ss : Session ShowWrite) (d : ShowData) : Prop :=
  Wrote F ss d ∧ v.id ∉ d.shows.map (·.id)

theorem opening_stable (hF : ∀ ws, F ws → .create v ∈ ws) :
    Stable shows inventoryOutline i (InTx i tx (Opening v F)) := by
  refine InTx.stable tracks_inventory (fun ss w d hw h => ⟨h.1, ?_⟩) fun ss m d h => ⟨h.1, ?_⟩
  · have hnew : v.id ∉ d.shows.map (·.id) := h.2
    cases w with
    | seats l => exact hnew
    | rows l => exact hnew
    | create row =>
        have hids : (d.shows ++ [row]).map (·.id) = d.shows.map (·.id) ++ [row.id] :=
          List.map_append
        refine fun hmem => (List.mem_append.mp (hids ▸ hmem)).elim hnew fun hmem => ?_
        have hid : v.id = row.id := List.mem_singleton.mp hmem
        exact hw (.show_ row.id) (List.mem_singleton_self _)
          ⟨.create v, hF _ h.1.1, hid ▸ List.mem_singleton_self _⟩
    | capacity y n =>
        have hids : (d.shows.map (setCapacity y n)).map (·.id) = d.shows.map (·.id) := by
          rw [List.map_map]
          exact List.map_congr_left fun v _ => setCapacity_id y n v
        exact hids.symm ▸ hnew
  · rw [ids_move]
    exact h.2

/-- What it is about to commit: all seats that have been read get a row. -/
def Rowed (seats : List String) (tenantId : String) (v : Show) (ws : List ShowWrite) : Prop :=
  ws = [.create v] ∧ seats = [] ∨
    ws = [.create v, .rows (seats.map (available v.id (some tenantId)))]

theorem opens_rowed {tenantId : String} {ss : Session ShowWrite} (hinv : Inventory s)
    (hread : ReadSeats x seats s) (hscreen : v.screenId = x)
    (hcapacity : v.totalCapacity = seats.length)
    (h : Opening v (Rowed seats tenantId v) ss s.world.data) : Opens ss.writes s.world.data := by
  obtain ⟨⟨hws, -⟩, hnew⟩ := h
  rcases hws with ⟨hws, -⟩ | hws
  · exact ⟨v, [], hnew, Or.inl ⟨hws, rfl⟩, fun _ h => absurd h List.not_mem_nil, Or.inl rfl⟩
  · refine ⟨v, _, hnew, Or.inr hws, fun r hr => ?_, ?_⟩
    · obtain ⟨seatId, -, rfl⟩ := List.mem_map.mp hr
      rfl
    · by_cases hseats : seats = []
      · exact Or.inl (List.map_eq_nil_iff.mpr hseats)
      · refine Or.inr ⟨?_, ?_⟩
        · rw [List.map_map, hscreen]
          exact (List.map_id seats).symm ▸ hread.now hinv hseats
        · rw [hcapacity, List.length_map]

theorem wp_rows {tenantId : String} {G : ShowSnap → Prop} (hG : Persistent shows G)
    (hs : InTx i tx (Opening v (· = [.create v])) s) (hGs : G s) :
    (if seats.length > 0 then do
        ask (some tx) (.availabilityCreateMany (seats.map (available v.id (some tenantId))) false)
        return v
      else return v).wp shows inventoryOutline i op
        (fun u s => (InTx i tx (Opening u (Rowed seats tenantId u)) s ∧ u = v) ∧ G s)
        (fun _ s => Opened i tx s ∧ G s) s := by
  have hrowed : ∀ ws, Rowed seats tenantId v ws → .create v ∈ ws := by
    rintro _ (⟨rfl, -⟩ | rfl) <;> exact List.mem_cons_self ..
  have hcreated : Stable shows inventoryOutline i (InTx i tx (Opening v (· = [.create v]))) :=
    opening_stable fun _ h => h ▸ List.mem_cons_self ..
  split
  · refine wp_stmt hG hcreated hs hGs (fun _ _ h => ⟨h.1.own rfl, trivial⟩)
      fun s o u hinv hs hGs _ hok => ?_
    refine wp_ret ((opening_stable hrowed).and hG.stable) ⟨?_, hG.exec hGs ..⟩
      fun _ _ h => ⟨⟨h.1, rfl⟩, h.2⟩
    refine hs.stmt hok fun ss _ hgo h hexec => ⟨⟨Or.inr ?_, hgo⟩, h.2⟩
    obtain ⟨hws, hnew⟩ := exec_availability (Prod.ext hexec rfl)
    exact congrArg₂ (· ++ ·) h.1.1 (hws.trans (by rw [hnew rfl]))
  · rename_i hnone
    have hnone : seats = [] := List.length_eq_zero_iff.mp (Nat.eq_zero_of_not_pos hnone)
    exact wp_ret (hcreated.and hG.stable) ⟨hs, hGs⟩ fun _ _ h =>
      ⟨⟨h.1.mono fun _ _ h => ⟨⟨Or.inl ⟨h.1.1, hnone⟩, h.1.2⟩, h.2⟩, rfl⟩, h.2⟩

/-- **A new show**: it is created with a row for each seat. -/
theorem wp_createShow {eventId screenId tenantId : String} {startTime : Time} {price : Rat} :
    (createShow eventId screenId startTime price tenantId).wp shows inventoryOutline i op
      (fun _ _ => True) (fun _ _ => True) s := by
  refine wp_query persistent_true.stable trivial persistent_true (fun _ _ => trivial)
    (fun _ _ _ => ⟨nofun, trivial⟩) fun s o found hinv _ _ hok hinv' => ?_
  cases hfound : found with
  | none => exact fun _ _ _ => trivial
  | some found =>
      obtain ⟨screen, seats⟩ := found
      have hread : ReadSeats screenId seats
          (s.exec shows i op (.stmt none (.screenFindUnique screenId)) o) := by
        refine ⟨_, List.mem_cons_self .., ?_⟩
        have hanswer := Except.ok.inj (query_ok hok).1
        rw [hfound, Option.map_eq_some_iff] at hanswer
        obtain ⟨_, -, hanswer⟩ := hanswer
        obtain ⟨-, rfl⟩ := Prod.mk.inj hanswer
        exact (shuffle_perm _ _).map _
      have hG := readSeats_persistent screenId seats
      refine (wp_transaction (Q := fun _ _ => True) (G := ReadSeats screenId seats)
        (B := fun tx v s => (InTx i tx (Opening v (Rowed seats tenantId v)) s ∧
          v.screenId = screenId ∧ v.totalCapacity = seats.length) ∧ ReadSeats screenId seats s)
        tracks_inventory hread hG (fun _ _ _ => ⟨nofun, trivial⟩)
        (fun _ _ _ h => ⟨h.own rfl, trivial⟩)
        (fun s tx v hinv h => ⟨h.1.1.1.own rfl, fun ss hss _ => Or.inl
          (opens_rowed hinv h.2 h.1.2.1 h.1.2.2 (h.1.1.2 ss hss))⟩)
        (fun tx v => ?_) (fun _ _ _ h => h.2) (fun s tx hinv hread hs => ?_)
        fun _ _ _ _ _ _ _ _ _ => fun _ _ _ => trivial).mono (fun _ _ _ h => h) fun _ _ _ _ => trivial
      · rintro s s' h ⟨⟨hs, hv⟩, hread⟩
        refine ⟨⟨opening_stable ?_ s s' h hs, hv⟩, hG.stable s s' h hread⟩
        rintro _ (⟨rfl, -⟩ | rfl) <;> exact List.mem_cons_self ..
      · refine wp_stmt hG (Wrote.stable tracks_inventory (· = [])) hs hread
          (fun _ _ h => ⟨h.1.own rfl, trivial⟩) fun s o v hinv hs hread _ hok => ?_
        obtain ⟨ss, hss, -, hexec, -⟩ := stmt_ok hok
        obtain ⟨-, -, hscreen, hcapacity⟩ := exec_showCreate (Prod.ext hexec rfl)
        refine (wp_rows hG (hs.stmt hok fun ss _ hgo hws hexec => ?_) (hG.exec hread ..)).mono
          (fun u _ _ h => ⟨⟨h.1.1, h.1.2 ▸ ⟨hscreen, hcapacity⟩⟩, h.2⟩) fun _ _ _ h => h
        obtain ⟨hcreate, hnew, -⟩ := exec_showCreate (Prod.ext hexec rfl)
        refine ⟨⟨congrArg₂ (· ++ ·) hws.1 hcreate, hgo⟩, ?_⟩
        rw [hws.1] at hnew
        exact hnew

end CreateShow

/-! ## Runs -/

theorem inventory_valid :
    Outline.Valid shows inventoryOutline fun i op _ s => op = .repair → Repaired i s where
  inv_exec h _ _ _ _ _ hpre hallows := inventory_exec h hpre hallows
  inv_env h e := inventory_env h e
  body i op s _ _ _ := by
    cases op with
    | createShow eventId screenId startTime price tenantId =>
        exact wp_map ShowReply.created (wp_createShow.mono (fun _ _ _ _ h => nomatch h)
          fun _ _ _ h => h)
    | repair =>
        exact wp_map (fun _ => ShowReply.repaired) (wp_repair.mono (fun _ _ _ h _ => h)
          fun _ _ _ h => h)

/-- **Inventory**: in every run with one repair at a time a show has no rows, or one for
each seat of its screen and their number as its capacity; once it has them it keeps them,
and a repair that returns has given them to every show it has found. -/
theorem inventory_run {d : ShowData} (hd : Stocked d)
    (hsmall : ∀ x ∈ d.screens, x.totalRows ≤ 65536) {ls : List ShowLabel}
    (hls : oneRepair.admitsRun shows (Config.idle (.idle d)) ls) :
    let cfg := (Config.idle (.idle d)).run shows ls
    Stocked cfg.world.data ∧
    (∀ e ∈ cfg.hist, ∀ y x, seatIds e.before.data x ≠ [] → Full y x e.before.data →
      Full y x cfg.world.data) ∧
    ∀ i reply, cfg.threads[i]? = some ⟨.repair, .ret reply⟩ → Repaired i cfg.toSnap := by
  have hidle : Inventory (⟨.idle d, []⟩ : ShowSnap) :=
    ⟨owned_idle d, hd, hsmall, fun _ h => absurd h List.not_mem_nil,
      fun _ h => absurd h List.not_mem_nil⟩
  have hgood := Outline.sound inventory_valid (Outline.Good.idle hidle) hls
  exact ⟨hgood.inv.stocked, hgood.inv.rows, fun i reply hth => hgood.result hth rfl⟩

namespace Sample

/-- A screen for which no seats have been created, with a show. -/
def noSeats : ShowData where
  eventIds := ["e1"]
  screens := [⟨"x1", 2, 1⟩]
  seats := []
  shows := [⟨"v1", "e1", "x1", 0, 250, 2, 2, some "t1", true⟩]
  seatAvailability := []

theorem stocked_noSeats : Stocked noSeats where
  shows := by decide
  seats := by decide
  codes := .nil
  screens := by decide
  filed _ h := absurd h List.not_mem_nil
  stocked _ _ _ := Or.inl rfl

def seatNames : ShowOracle := { cuid := fun n => if n = 0 then "A1" else "B1" }

def showSteps (i n : Nat) : List ShowLabel := List.replicate n (.step i {})

/-- A show is created while the repair gives its screen seats, and so it gets its rows
from the next repair. -/
def lateShow : List ShowLabel :=
  [.spawn .repair, .spawn (.createShow "e1" "x1" 0 300 "t1")] ++ showSteps 0 1 ++ showSteps 1 1 ++
    [.step 0 seatNames] ++ showSteps 0 5 ++ showSteps 1 1 ++ [.step 1 { cuid := fun _ => "v2" }] ++
    showSteps 1 1 ++ [.spawn .repair] ++ showSteps 2 6

/-- Two repairs read that there are no seats. -/
def twice : List ShowLabel :=
  [.spawn .repair, .spawn .repair] ++ showSteps 0 1 ++ showSteps 1 1 ++ [.step 0 seatNames] ++
    [.step 1 { cuid := fun n => if n = 0 then "A1'" else "B1'" }]

end Sample

theorem inventory_lateShow :
    let cfg := (Config.idle (.idle Sample.noSeats)).run shows Sample.lateShow
    cfg.world.data.seatAvailability.map (·.key) =
        [("v1", "A1"), ("v1", "B1"), ("v2", "A1"), ("v2", "B1")] ∧
      Stocked cfg.world.data ∧
      (∀ e ∈ cfg.hist, ∀ y x, seatIds e.before.data x ≠ [] → Full y x e.before.data →
        Full y x cfg.world.data) ∧
      ∀ i reply, cfg.threads[i]? = some ⟨.repair, .ret reply⟩ → Repaired i cfg.toSnap :=
  ⟨by decide +kernel, inventory_run Sample.stocked_noSeats (by decide) (by decide +kernel)⟩

/-- Two repairs at a time give a screen its seats twice: `skipDuplicates` does not
see that they are the same. -/
theorem repair_twice :
    ((Config.idle (.idle Sample.noSeats)).run shows Sample.twice).world.data.seats.map
        (fun r => (r.row, r.number)) = [([65], 1), ([66], 1), ([65], 1), ([66], 1)] := by
  decide +kernel

end Omnipax.Shows
