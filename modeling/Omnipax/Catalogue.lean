import Omnipax.Accounts

/-!
# The catalogue

What tenants, events and seats there are, the booking core reads as a `Catalog`.
Whatever calls create them, interleaved in any way and broken off anywhere, what there
is at any time is one: slugs are unique and fit for the keys of locks, and an event has
all of its seats from the start, numbered without a gap.
-/

namespace Omnipax.Directory

open Conc Database Prog
open Payments (stringOr)

variable {P : DirectoryPlatform} {i : Nat} {op : DirectoryOp} {s : DirectorySnap}
  {d d' : DirectoryData} {q : DirectoryStmt}

/-! ## The tables -/

def seatsOf (id : String) (d : DirectoryData) : List Seat := d.seats.filter (·.eventId == id)

def seatNumbers (id : String) (d : DirectoryData) : List Int := (seatsOf id d).map (·.seatNumber)

structure Catalogued (d : DirectoryData) : Prop where
  tenant_id_nodup : (d.tenants.map (·.id)).Nodup
  slug_nodup : (d.tenants.map (·.slug)).Nodup
  slug_ok : ∀ t ∈ d.tenants, slugOk t.slug = true
  event_id_nodup : (d.events.map (·.id)).Nodup
  event_cuid : ∀ e ∈ d.events, isCuid e.id = true
  event_tenant : ∀ e ∈ d.events, e.tenantId ∈ d.tenants.map (·.id)
  seat_id_nodup : (d.seats.map (·.id)).Nodup
  seat_cuid : ∀ s ∈ d.seats, isCuid s.id = true
  seat_event : ∀ s ∈ d.seats, s.eventId ∈ d.events.map (·.id)
  numbered : ∀ e ∈ d.events, ∃ start, seatNumbers e.id d = numbers start e.totalSeats

/-- The catalogue is what the booking core reads of the tables: of tenants and events the
columns it uses, of the seats everything. -/
structure Reads (c : Catalog) (d : DirectoryData) : Prop where
  tenants : c.tenants = d.tenants.map (·.toTenant)
  events : c.events = d.events.map (·.toEvent)
  seats : c.seats = d.seats

def Catalogued.catalog (h : Catalogued d) : Catalog where
  tenants := d.tenants.map (·.toTenant)
  events := d.events.map (·.toEvent)
  seats := d.seats
  tenant_id_nodup := by
    rw [List.map_map]
    exact h.tenant_id_nodup
  slug_nodup := by
    rw [List.map_map]
    exact h.slug_nodup
  event_id_nodup := by
    rw [List.map_map]
    exact h.event_id_nodup
  seat_id_nodup := h.seat_id_nodup
  slug_ok := by
    intro t ht
    obtain ⟨row, hrow, rfl⟩ := List.mem_map.mp ht
    exact isSlug_of_slugOk (h.slug_ok row hrow)
  event_cuid := List.forall_mem_map.mpr h.event_cuid
  seat_cuid := h.seat_cuid

/-! ## Steps -/

section Seats

variable {c : EventCreate} {id : String} {cuid : Nat → Cuid}

theorem seat_of_mem {seat : Seat} (h : seat ∈ c.seats id cuid) :
    isCuid seat.id = true ∧ seat.eventId = id := by
  obtain ⟨n, -, rfl⟩ := List.mem_map.mp h
  exact ⟨(cuid (n.2 + 1)).ok, rfl⟩

/-- There are no seats of an event that is not there. -/
theorem Catalogued.no_seats (hd : Catalogued d) (hid : id ∉ d.events.map (·.id)) :
    ∀ seat ∈ d.seats, seat.eventId ≠ id :=
  fun seat hseat heq => hid (heq ▸ hd.seat_event seat hseat)

theorem seatNumbers_new (hnew : ∀ seat ∈ d.seats, seat.eventId ≠ id) :
    seatNumbers id { d with seats := d.seats ++ c.seats id cuid } = c.seatNumbers := by
  have hold : d.seats.filter (·.eventId == id) = [] :=
    List.filter_eq_nil_iff.mpr fun seat hseat => by simpa using hnew seat hseat
  have hall : (c.seats id cuid).filter (·.eventId == id) = c.seats id cuid :=
    List.filter_eq_self.mpr fun seat hseat => by simpa using (seat_of_mem hseat).2
  rw [seatNumbers, seatsOf, List.filter_append, hold, hall, List.nil_append, EventCreate.seats, List.map_map]
  exact List.zipIdx_map_fst 0 c.seatNumbers

theorem seatsOf_other {id' : String} (hne : id' ≠ id) :
    seatsOf id' { d with seats := d.seats ++ c.seats id cuid } = seatsOf id' d := by
  have hnone : (c.seats id cuid).filter (·.eventId == id') = [] :=
    List.filter_eq_nil_iff.mpr fun seat hseat => by
      simpa [(seat_of_mem hseat).2] using hne.symm
  rw [seatsOf, List.filter_append, hnone, List.append_nil]
  rfl

end Seats

theorem Created.catalogued (h : Created q d d') (hq : q.Fit) (hd : Catalogued d) :
    Catalogued d' := by
  cases h with
  | same => exact hd
  | user _ _ => exact { hd with }
  | @tenant row hcreate hid hslug =>
      subst hcreate
      refine { hd with tenant_id_nodup := ?_, slug_nodup := ?_, slug_ok := ?_, event_tenant := ?_ }
      · rw [List.map_append]
        exact hd.tenant_id_nodup.append (List.nodup_singleton _) (List.disjoint_singleton.mpr hid)
      · rw [List.map_append]
        exact hd.slug_nodup.append (List.nodup_singleton _) (List.disjoint_singleton.mpr hslug)
      · exact List.forall_mem_append.mpr ⟨hd.slug_ok, List.forall_mem_singleton.mpr hq⟩
      · intro e he
        rw [List.map_append]
        exact List.mem_append_left _ (hd.event_tenant e he)
  | @event c cuid hcreate hid hseats htenant =>
      subst hcreate
      obtain ⟨start, hstart⟩ := hq
      refine { hd with event_id_nodup := ?_, event_cuid := ?_, event_tenant := ?_,
                       seat_id_nodup := hseats, seat_cuid := ?_, seat_event := ?_, numbered := ?_ }
      · rw [List.map_append]
        exact hd.event_id_nodup.append (List.nodup_singleton _) (List.disjoint_singleton.mpr hid)
      · exact List.forall_mem_append.mpr ⟨hd.event_cuid, List.forall_mem_singleton.mpr (cuid 0).ok⟩
      · exact List.forall_mem_append.mpr ⟨hd.event_tenant, List.forall_mem_singleton.mpr htenant⟩
      · exact List.forall_mem_append.mpr ⟨hd.seat_cuid, fun seat hseat => (seat_of_mem hseat).1⟩
      · rw [List.map_append]
        refine List.forall_mem_append.mpr ⟨fun seat hseat => ?_, fun seat hseat => ?_⟩
        · exact List.mem_append_left _ (hd.seat_event seat hseat)
        · rw [(seat_of_mem hseat).2]
          exact List.mem_append_right _ (List.mem_singleton_self _)
      · refine List.forall_mem_append.mpr ⟨fun e he => ?_, List.forall_mem_singleton.mpr ?_⟩
        · obtain ⟨start', h⟩ := hd.numbered e he
          have hother : e.id ≠ (cuid 0).text := fun heq => hid (heq ▸ List.mem_map_of_mem he)
          exact ⟨start', (congrArg (List.map _) (seatsOf_other hother)).trans h⟩
        · exact ⟨start, (seatNumbers_new (hd.no_seats hid)).trans hstart⟩

theorem Created.seatsOf_eq (h : Created q d d') {e : EventRow} (he : e ∈ d.events) :
    seatsOf e.id d' = seatsOf e.id d := by
  cases h with
  | same => rfl
  | user _ _ => rfl
  | tenant _ _ _ => rfl
  | event _ hid _ _ => exact seatsOf_other fun heq => hid (heq ▸ List.mem_map_of_mem he)

/-- Events are never changed, nor are their seats. -/
def KeepsEvents (d d' : DirectoryData) : Prop :=
  ∀ row ∈ d.events, row ∈ d'.events ∧ seatsOf row.id d' = seatsOf row.id d

theorem Created.keepsEvents (h : Created q d d') : KeepsEvents d d' := by
  intro row hrow
  refine ⟨?_, h.seatsOf_eq hrow⟩
  rcases events_keyed.created h with hsame | ⟨row', hadd, -⟩
  · exact hsame ▸ hrow
  · exact hadd ▸ List.mem_append_left _ hrow

theorem KeepsEvents.trans {d₁ d₂ d₃ : DirectoryData} (h : KeepsEvents d₁ d₂)
    (h' : KeepsEvents d₂ d₃) : KeepsEvents d₁ d₃ := by
  intro row hrow
  obtain ⟨hkept, hseats⟩ := h row hrow
  obtain ⟨hkept', hseats'⟩ := h' row hkept
  exact ⟨hkept', hseats'.trans hseats⟩

/-- A new event has the seats that have been asked for. -/
theorem Created.seatNumbers_asked {c : EventCreate} (h : Created (.eventCreate c) d d')
    (hd : Catalogued d) {row : EventRow} (hadd : d'.events = d.events ++ [row]) :
    seatNumbers row.id d' = c.seatNumbers := by
  cases h with
  | same => simp at hadd
  | user hcreate _ => cases hcreate
  | tenant hcreate _ _ => cases hcreate
  | @event c' cuid hcreate hid _ _ =>
      obtain rfl := DirectoryStmt.eventCreate.inj hcreate
      obtain rfl := List.singleton_inj.mp (List.append_cancel_left hadd)
      exact seatNumbers_new (hd.no_seats hid)

/-! ## The outline -/

structure Collated (s : DirectorySnap) : Prop where
  tables : Catalogued s.world.data
  tenants : Registered (·.tenants) (·.slug) s
  events : Registered (·.events) (·.id) s
  asked : ∀ e ∈ s.hist, ∀ c row, e.cmd = .stmt none (.eventCreate c) → Adds (·.events) e row →
    seatNumbers row.id s.world.data = c.seatNumbers

def catalogueOutline : DirectoryOutline where
  toDiscipline := Discipline.free directoryDb.sig DirectoryStore DirectoryOracle fun _ => True
  inv := Collated
  pre _ _ c _ := Fit c

theorem collated_exec (h : Collated s) {c : TxCmd DirectoryStmt} (hc : Fit c)
    (o : DirectoryOracle) : Collated (s.exec (directory P) i op c o) := by
  have htenants : Registered (·.tenants) (·.slug) (s.exec (directory P) i op c o) :=
    h.tenants.exec tenants_keyed hc o
  have hevents : Registered (·.events) (·.id) (s.exec (directory P) i op c o) :=
    h.events.exec events_keyed hc o
  obtain ⟨q, rfl, hq⟩ := hc
  have hcreated := created_step q o s.world
  refine ⟨hcreated.catalogued hq h.tables, htenants, hevents, fun e he c row hcmd hadds => ?_⟩
  rcases List.mem_cons.mp he with rfl | he
  · obtain rfl : q = .eventCreate c := (TxCmd.stmt.inj hcmd).2
    exact hcreated.seatNumbers_asked h.tables hadds
  · have hsame := hcreated.seatsOf_eq (h.events.added e he row hadds).2
    exact (congrArg (List.map _) hsame).trans (h.asked e he c row hcmd hadds)

theorem collated_env (h : Collated s) (e : DbEnv Nat) : Collated (s.env (directory P) e) := by
  have htenants := h.tenants.env (P := P) tenants_keyed e
  have hevents := h.events.env (P := P) events_keyed e
  cases e with
  | data t => exact ⟨{ h.tables with }, htenants, hevents, h.asked⟩
  | abort tx => exact ⟨h.tables, htenants, hevents, h.asked⟩

/-! ## The calls -/

/-- The event has created the tenant. -/
def CreatesTenant (dto : CreateTenantDto) (row : TenantRow) (e : DirectoryEvent) : Prop :=
  row.slug = dto.slug ∧ row.name = stringOr dto.name dto.slug ∧ Adds (·.tenants) e row

structure EventFor (P : DirectoryPlatform) (tenantId : String) (dto : CreateEventDto)
    (row : EventRow) : Prop where
  tenantId : row.tenantId = tenantId
  name : row.name = dto.name
  startsAt : P.newDate dto.startsAt = some row.startsAt
  totalSeats : row.totalSeats = dto.totalSeats

/-- The event has created the event that is shown, and asked for its seats. -/
def CreatesEvent (P : DirectoryPlatform) (tenantId : String) (dto : CreateEventDto)
    (view : EventView) (e : DirectoryEvent) : Prop :=
  ∃ c row, e.cmd = .stmt none (.eventCreate c) ∧
    c.seatNumbers = numbers (dto.seatStartNumber.getD 1) dto.totalSeats ∧
    EventFor P tenantId dto row ∧ row.view = view ∧ Adds (·.events) e row

/-- The events of the tenant, the first to start first. -/
structure Lists (tenantId : String) (d : DirectoryData) (views : List EventView) : Prop where
  perm : views.Perm ((d.events.filter (·.tenantId == tenantId)).map (·.view))
  sorted : views.Pairwise fun view view' => view.startsAt ≤ view'.startsAt

/-- What a call has to do with its answer. -/
def CatalogueSaw (P : DirectoryPlatform) (i : Nat) :
    DirectoryOp → Answer → DirectorySnap → Prop
  | .createTenant dto, .ok (.tenant row), s => Seen i (CreatesTenant dto row) s
  | .getBySlug slug, .ok (.found found), s =>
      Seen i (fun e => e.before.data.tenants.find? (·.slug == slug) = found) s
  | .createEvent tenantId dto, .ok (.event view), s =>
      Seen i (CreatesEvent P tenantId dto view) s
  | .listEvents tenantId, .ok (.events views), s =>
      Seen i (fun e => Lists tenantId e.before.data views) s
  | _, _, _ => True

section Calls

variable {o : DirectoryOracle} {w : DirectoryStore}

theorem tenantCreate_ok {slug name : String} {row : TenantRow}
    (hok : (directoryDb.step (.stmt none (.tenantCreate slug name)) o w).1 = .ok row) :
    row.slug = slug ∧ row.name = name ∧
      Adds (·.tenants) ⟨i, op, .stmt none (.tenantCreate slug name), o, w⟩ row := by
  obtain ⟨hexec, hdata⟩ := asked_ok hok
  rw [Adds, hdata]
  simp only [DirectoryStmt.exec] at hexec ⊢
  split at hexec
  · cases hexec
  · rename_i hnew
    rw [if_neg hnew]
    obtain rfl := Except.ok.inj hexec
    exact ⟨rfl, rfl, rfl⟩

theorem eventCreate_ok {c : EventCreate} {view : EventView}
    (hok : (directoryDb.step (.stmt none (.eventCreate c)) o w).1 = .ok view) :
    (c.row (o.cuid 0).text w.data.clock).view = view ∧
      Adds (·.events) ⟨i, op, .stmt none (.eventCreate c), o, w⟩
        (c.row (o.cuid 0).text w.data.clock) := by
  obtain ⟨hexec, hdata⟩ := asked_ok hok
  rw [Adds, hdata]
  simp only [DirectoryStmt.exec] at hexec ⊢
  split at hexec
  · cases hexec
  · rename_i hint
    rw [if_neg hint]
    split at hexec
    · cases hexec
    · rename_i hnew
      rw [if_neg hnew]
      split at hexec
      · cases hexec
      · rename_i htenant
        rw [if_neg htenant]
        exact ⟨Except.ok.inj hexec, rfl⟩

theorem lists_exec (tenantId : String) (o : DirectoryOracle) (d : DirectoryData) :
    Lists tenantId d (((shuffle o.order (d.events.filter (·.tenantId == tenantId))).mergeSort
      fun a b => a.startsAt ≤ b.startsAt).map (·.view)) where
  perm := ((List.mergeSort_perm ..).trans (shuffle_perm ..)).map _
  sorted := by
    refine List.pairwise_map.mpr ((List.pairwise_mergeSort (fun a b c => ?_) (fun a b => ?_) _).imp
      fun h => of_decide_eq_true h)
    · simp only [decide_eq_true_eq]
      exact Int.le_trans
    · simp only [Bool.or_eq_true, decide_eq_true_eq]
      exact Int.le_total ..

theorem wp_createTenant {dto : CreateTenantDto} :
    (createTenant P dto).wp (directory P) catalogueOutline i op
      (fun row => Seen i (CreatesTenant dto row)) (fun _ _ => True) s := by
  have hslug : P.toLowerCase dto.slug = dto.slug := toLowerCase_slug P.toCaseMapping dto.slug_ok
  unfold createTenant
  rw [hslug]
  refine wp_ask (fun _ => ⟨_, rfl, trivial⟩) (fun _ => persistent_true) persistent_true trivial
    (fun s o found _ _ _ => ?_) fun _ _ _ _ _ => trivial
  cases found with
  | some _ => exact wp_throw persistent_true trivial
  | none =>
      exact wp_asked (fun _ => ⟨_, rfl, dto.slug_ok⟩) (fun _ => seen_persistent ..)
        fun s o row hok => seen_exec (tenantCreate_ok hok)

theorem wp_createEvent {tenantId : String} {dto : CreateEventDto} :
    (createEvent P tenantId dto).wp (directory P) catalogueOutline i op
      (fun view => Seen i (CreatesEvent P tenantId dto view)) (fun _ _ => True) s := by
  unfold createEvent
  split
  · exact wp_throw persistent_true trivial
  · rename_i startsAt hstarts
    refine wp_asked (fun _ => ⟨_, rfl, _, rfl⟩) (fun _ => seen_persistent ..) fun s o view hok => ?_
    obtain ⟨hview, hadds⟩ := eventCreate_ok hok
    exact seen_exec ⟨_, _, rfl, rfl, ⟨rfl, rfl, hstarts, rfl⟩, hview, hadds⟩

end Calls

theorem catalogueOutline_valid (P : DirectoryPlatform) :
    Outline.Valid (directory P) catalogueOutline fun i op reply s =>
      CatalogueSaw P i op reply s where
  inv_exec h _ _ _ o _ hpre _ := collated_exec h hpre o
  inv_env h e := collated_env h e
  body i op s _ _ _ := by
    cases op with
    | register dto => exact wp_unobserved (fun _ _ hc => hc) fun _ _ => trivial
    | login dto => exact wp_unobserved (fun _ _ hc => hc) fun _ _ => trivial
    | createTenant dto =>
        exact wp_attempt (E := fun _ _ => True) (wp_map _ wp_createTenant)
    | getBySlug slug =>
        refine wp_attempt (E := fun _ _ => True) (wp_map _ (wp_asked
          (fun _ => ⟨_, rfl, trivial⟩) (fun _ => seen_persistent ..) fun s o found hok => ?_))
        exact seen_exec (Except.ok.inj (query_ok hok).1)
    | createEvent tenantId dto =>
        exact wp_attempt (E := fun _ _ => True) (wp_map _ wp_createEvent)
    | listEvents tenantId =>
        refine wp_attempt (E := fun _ _ => True) (wp_map _ (wp_asked
          (fun _ => ⟨_, rfl, trivial⟩) (fun _ => seen_persistent ..) fun s o views hok => ?_))
        obtain rfl := Except.ok.inj (query_ok hok).1
        exact seen_exec (lists_exec tenantId o s.world.data)

/-! ## Runs -/

theorem good_catalogue (P : DirectoryPlatform) (hd : Catalogued d) (ls : List DirectoryLabel) :
    Outline.Good (directory P) catalogueOutline (fun i op reply s => CatalogueSaw P i op reply s)
      ((Config.idle (.idle d)).run (directory P) ls) :=
  Outline.sound (catalogueOutline_valid P)
    (Outline.Good.idle ⟨hd, registered_idle hd.slug_nodup, registered_idle hd.event_id_nodup,
      fun _ h => absurd h List.not_mem_nil⟩)
    (Discipline.admitsRun_free fun _ _ => trivial)

theorem keepsEvents_run {cfg : DirectoryConfig}
    (h : Outline.Good (directory P) catalogueOutline
      (fun i op reply s => CatalogueSaw P i op reply s) cfg) (ls : List DirectoryLabel) :
    KeepsEvents cfg.world.data (cfg.run (directory P) ls).world.data := by
  refine h.along (R := fun w w' => KeepsEvents w.data w'.data) (catalogueOutline_valid P)
    (fun _ _ hrow => ⟨hrow, rfl⟩) ?_ (fun w e => ?_) (fun i op c o _ _ hpre _ => ?_)
    (Discipline.admitsRun_free fun _ _ => trivial)
  · intro w w' w'' hkeeps hkeeps'
    exact hkeeps.trans hkeeps'
  · cases e <;> exact fun _ hrow => ⟨hrow, rfl⟩
  · obtain ⟨q, rfl, -⟩ := hpre
    exact (created_step q o _).keepsEvents

/-- **The catalogue**: in every run, what there is at any time the booking core can read
as a `Catalog`, and events and their seats are never changed. A tenant that is created is
the only one of its slug, and by its slug it is found from then on. An event that is
created has its seats, and is in every list of the events of its tenant from then on; a
list has no other events. -/
theorem catalogue_run (P : DirectoryPlatform) {d : DirectoryData} (hd : Catalogued d)
    (before after : List DirectoryLabel) :
    let cfg := (Config.idle (.idle d)).run (directory P) before
    let cfg' := (Config.idle (.idle d)).run (directory P) (before ++ after)
    Catalogued cfg'.world.data ∧ (∃ c, Reads c cfg'.world.data) ∧
    KeepsEvents cfg.world.data cfg'.world.data ∧
    (∀ i dto row, Answered cfg' i (.createTenant dto) (.ok (.tenant row)) →
      row ∈ cfg'.world.data.tenants ∧ row.slug = dto.slug ∧
      ∀ j dto' row', dto'.slug = dto.slug →
        Answered cfg' j (.createTenant dto') (.ok (.tenant row')) → j = i) ∧
    (∀ row ∈ cfg.world.data.tenants, row ∈ cfg'.world.data.tenants ∧
      ∀ i, cfg.threads.length ≤ i →
        (∀ found, Answered cfg' i (.getBySlug row.slug) (.ok (.found found)) →
          found = some row) ∧
        ∀ dto row', dto.slug = row.slug →
          ¬Answered cfg' i (.createTenant dto) (.ok (.tenant row'))) ∧
    (∀ i tenantId dto view, Answered cfg' i (.createEvent tenantId dto) (.ok (.event view)) →
      ∃ row ∈ cfg'.world.data.events, row.view = view ∧ EventFor P tenantId dto row ∧
        seatNumbers row.id cfg'.world.data
          = numbers (dto.seatStartNumber.getD 1) dto.totalSeats) ∧
    ∀ i tenantId views, Answered cfg' i (.listEvents tenantId) (.ok (.events views)) →
      (views.Pairwise fun view view' => view.startsAt ≤ view'.startsAt) ∧
      (∀ view ∈ views, ∃ row ∈ cfg'.world.data.events,
        row.tenantId = tenantId ∧ row.view = view) ∧
      (cfg.threads.length ≤ i → ∀ row ∈ cfg.world.data.events, row.tenantId = tenantId →
        row.view ∈ views) := by
  intro cfg cfg'
  have hgood : Outline.Good (directory P) catalogueOutline _ cfg := good_catalogue P hd before
  have hgood' : Outline.Good (directory P) catalogueOutline _ cfg' :=
    good_catalogue P hd (before ++ after)
  have hrun : cfg' = cfg.run (directory P) after := Config.run_append ..
  have hcreates : ∀ {i dto row}, Answered cfg' i (.createTenant dto) (.ok (.tenant row)) →
      Seen i (CreatesTenant dto row) cfg'.toSnap := fun h => hgood'.result h
  have htenants : ∀ row ∈ cfg.world.data.tenants, ∀ e ∈ cfg'.hist, cfg.threads.length ≤ e.tid →
      row ∈ e.before.data.tenants := by
    rw [hrun]
    exact fun row hrow => tenants_keyed.found_later hgood.fresh hrow after
  have hevents : ∀ row ∈ cfg.world.data.events, ∀ e ∈ cfg'.hist, cfg.threads.length ≤ e.tid →
      row ∈ e.before.data.events := by
    rw [hrun]
    exact fun row hrow => events_keyed.found_later hgood.fresh hrow after
  refine ⟨hgood'.inv.tables, ⟨hgood'.inv.tables.catalog, rfl, rfl, rfl⟩,
    hrun ▸ keepsEvents_run hgood after,
    fun i dto row hi => ⟨?_, ?_, fun j dto' row' hslug hj => ?_⟩,
    fun row hrow => ⟨?_, fun i hlate => ⟨fun found hi => ?_, fun dto row' hslug hi => ?_⟩⟩,
    fun i tenantId dto view hi => ?_, fun i tenantId views hi => ?_⟩
  · obtain ⟨e, he, -, -, -, hadds⟩ := hcreates hi
    exact (hgood'.inv.tenants.added e he row hadds).2
  · obtain ⟨e, he, -, hslug, -⟩ := hcreates hi
    exact hslug
  · obtain ⟨e, he, rfl, hrow, -, hadds⟩ := hcreates hi
    obtain ⟨e', he', rfl, hrow', -, hadds'⟩ := hcreates hj
    exact hgood'.inv.tenants.once e' he' e he row' row hadds' hadds
      ((hrow'.trans hslug).trans hrow.symm)
  · rw [hrun]
    exact (tenants_keyed.row_persistent row).run hrow after
  · obtain ⟨e, he, rfl, hfound⟩ :
      Seen i (fun e : DirectoryEvent => e.before.data.tenants.find? (·.slug == row.slug) = found)
        cfg'.toSnap := hgood'.result hi
    exact hfound.symm.trans (find_keyed (hgood'.inv.tenants.found he)
      (htenants row hrow e he hlate) rfl)
  · obtain ⟨e, he, rfl, hrow', -, hadds⟩ := hcreates hi
    refine (hgood'.inv.tenants.added e he row' hadds).1 ?_
    rw [hrow', hslug]
    exact List.mem_map_of_mem (htenants row hrow e he hlate)
  · obtain ⟨e, he, rfl, c, row, hcmd, hnumbers, hrow, hview, hadds⟩ :
      Seen i (CreatesEvent P tenantId dto view) cfg'.toSnap := hgood'.result hi
    exact ⟨row, (hgood'.inv.events.added e he row hadds).2, hview, hrow,
      (hgood'.inv.asked e he c row hcmd hadds).trans hnumbers⟩
  · obtain ⟨e, he, rfl, hlists⟩ : Seen i (fun e : DirectoryEvent => Lists tenantId e.before.data views)
      cfg'.toSnap := hgood'.result hi
    refine ⟨hlists.sorted, fun view hview => ?_, fun hlate row hrow htenant => ?_⟩
    · obtain ⟨row, hrow, rfl⟩ := List.mem_map.mp (hlists.perm.subset hview)
      obtain ⟨hrow, htenant⟩ := List.mem_filter.mp hrow
      exact ⟨row, (hgood'.inv.events.earlier e he).subset hrow, eq_of_beq htenant, rfl⟩
    · refine hlists.perm.symm.subset (List.mem_map_of_mem (List.mem_filter.mpr ⟨?_, ?_⟩))
      · exact hevents row hrow e he hlate
      · exact beq_iff_eq.mpr htenant

namespace Sample

def city : List DirectoryLabel :=
  [.spawn (.createTenant { slug := "city-hall", name := none }),
    .spawn (.createTenant { slug := "city-hall", name := some "City" })] ++
    directorySteps 0 1 ++ directorySteps 1 1 ++ [.step 0 { cuid := fun _ => ⟨"t1", by decide⟩ }] ++
    directorySteps 1 1

/-- An event is created while its tenant's events are listed, and they are listed again. -/
def concert : List DirectoryLabel :=
  [.spawn (.createEvent "t1" ⟨"Concert", "2026-03-01T18:30:00Z", 2, some 10⟩),
    .spawn (.listEvents "t1")] ++ directorySteps 3 1 ++
    [.step 2 { cuid := fun n => if n = 0 then ⟨"e1", by decide⟩
      else if n = 1 then ⟨"a1", by decide⟩ else ⟨"b1", by decide⟩ }] ++
    [.spawn (.listEvents "t1")] ++ directorySteps 4 1

theorem catalogued_nothing : Catalogued nothing where
  tenant_id_nodup := .nil
  slug_nodup := .nil
  slug_ok _ h := absurd h List.not_mem_nil
  event_id_nodup := .nil
  event_cuid _ h := absurd h List.not_mem_nil
  event_tenant _ h := absurd h List.not_mem_nil
  seat_id_nodup := .nil
  seat_cuid _ h := absurd h List.not_mem_nil
  seat_event _ h := absurd h List.not_mem_nil
  numbered _ h := absurd h List.not_mem_nil

end Sample

theorem catalogue_concert :
    let cfg' := (Config.idle (.idle Sample.nothing)).run (directory Sample.platform)
      (Sample.city ++ Sample.concert)
    cfg'.world.data.tenants.map (fun t => (t.slug, t.name)) = [("city-hall", "city-hall")] ∧
    cfg'.world.data.seats = [⟨"a1", "e1", 10⟩, ⟨"b1", "e1", 11⟩] ∧
    Catalogued cfg'.world.data := by
  refine ⟨by decide +kernel, by decide +kernel, ?_⟩
  exact (catalogue_run Sample.platform Sample.catalogued_nothing Sample.city Sample.concert).1

end Omnipax.Directory
