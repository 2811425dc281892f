import Omnipax.ExpiryWorker
import Omnipax.Reachable
import Omnipax.Settlement

/-!
# Every PENDING booking has a job

`initiateBooking` commits the booking and adds its job in a later step; a
worker that finds its booking not due yet, by its own clock, completes the
job; a job that has failed is not tried again. So a PENDING booking can be
left without a job, and stays PENDING.

`jobDiscipline` are the runs in which this does not happen at any one step.
In them a booking is covered by its job from the end of the call that
inserted it for as long as it is PENDING.
-/

namespace Omnipax

open Conc Prog

/-! ## Jobs and bookings -/

/-- The jobs that are delayed, waiting or being processed. -/
def ExpiryWorld.jobs (w : ExpiryWorld) : List (Job BookingExpiryJobData) :=
  w.bookingExpiryQueue ++ w.active.map (·.job)

def ExpiryWorld.outstanding (w : ExpiryWorld) (bookingId : String) : Bool :=
  w.jobs.any (·.data.bookingId == bookingId)

def World.isPending (w : World) (bookingId : String) : Bool :=
  w.bookings.rows.any fun b => b.id == bookingId && b.status == .PENDING

/-- Every PENDING booking has a job that will still look at it, so that none can hold its
seats for good. -/
def ExpiryWorld.PendingKept (w : ExpiryWorld) : Prop :=
  ∀ b ∈ w.bookings.rows, b.status = .PENDING → w.outstanding b.id = true

instance (w : ExpiryWorld) : Decidable w.PendingKept :=
  inferInstanceAs (Decidable (∀ _ ∈ _, _ → _))

def jobIdOf (bookingId : String) : String := "booking-expiry:" ++ bookingId

theorem jobIdOf_inj {a b : String} (h : jobIdOf a = jobIdOf b) : a = b := by
  have hlist := congrArg String.toList h
  rw [jobIdOf, jobIdOf, String.toList_append, String.toList_append] at hlist
  exact String.toList_injective (List.append_cancel_left hlist)

/-- The id of the row a command inserts. -/
def insertedId (w : ExpiryWorld) (o : ExpiryOracle) : workerSig.Cmd → Option String
  | .inl (.bookingCreate d) =>
      if o.fault ≠ some .before ∧ (w.bookings.create (d.row o.fresh)).isSome then some o.fresh
      else none
  | _ => none

abbrev ExpiryEvent.insertedId (e : ExpiryEvent) : Option String :=
  Omnipax.insertedId e.before e.oracle e.cmd

def ExpiryOp.initiates : ExpiryOp → Bool
  | .call (.initiateBooking ..) => true
  | _ => false

/-- No call of `initiateBooking` is in progress. -/
def NoneInitiating (cfg : ExpiryConfig) : Prop :=
  ∀ th ∈ cfg.threads, th.op.initiates = true → th.prog.running = false

instance (cfg : ExpiryConfig) : Decidable (NoneInitiating cfg) :=
  inferInstanceAs (Decidable (∀ _ ∈ _, _ → _))

/-- The runs in which, at every step,

* an insert that takes effect is answered, and its process goes on,
* no process stops between its insert and its queue add while the booking is
  PENDING, and no queue add is lost while it is,
* no worker reads a clock that is before the expiry time of a booking that is
  PENDING, and none of its calls is lost for such a booking,
* no job of a PENDING booking stalls a second time. -/
def jobDiscipline : Discipline workerSig.crash ExpiryWorld ExpiryOracle ExpiryOp where
  starts _ := True
  allows i op c o s :=
    match op, c with
    | .call _, .inl (.bookingCreate _) =>
        (insertedId s.world o c).isSome = true → o.fault = none ∧ o.stop = false
    | .call _, .inl .dateNow =>
        o.stop = true → ∀ e ∈ s.hist, e.tid = i → ∀ id ∈ ExpiryEvent.insertedId e,
          s.world.isPending id = true → s.world.outstanding id = true
    | .call _, .inl (.bookingExpiryAdd data _ _) =>
        o.fault = some .before → s.world.isPending data.bookingId = false
    | .work jobId, .inl .dateNow =>
        ∀ b ∈ s.world.bookings.rows, jobIdOf b.id = jobId → b.status = .PENDING →
          b.expiresAt ≤ s.world.clock + o.skew
    | .work _, .inl (.bookingFindUnique id) =>
        s.world.isPending id = true → o.fault = none ∨ o.stop = true
    | .work _, .inl (.bookingUpdate id _) =>
        s.world.isPending id = true → o.fault ≠ some .before ∨ o.stop = true
    | .checkStalled _, .inr (.moveStalledJobsToWait jobId) =>
        s.world.stalled.contains jobId = true → o.fault ≠ some .before →
          ∀ b ∈ s.world.bookings.rows, jobIdOf b.id = jobId → b.status ≠ .PENDING
    | _, _ => True

instance : DecidablePred jobDiscipline.starts := fun _ => isTrue trivial

instance (i : Nat) (op : ExpiryOp) (c : workerSig.Cmd) (o : ExpiryOracle) :
    DecidablePred (jobDiscipline.allows i op c o) := fun s => by
  unfold jobDiscipline
  dsimp only
  split <;> infer_instance

/-! ## What the commands do to jobs and rows -/

/-- The command asks for a job. -/
def Cmd.addsExpiryJob : Cmd → Bool
  | .bookingExpiryAdd .. => true
  | _ => false

section Effects

variable {P : Platform} {w : ExpiryWorld} {o : ExpiryOracle}

theorem exec_bookingExpiryQueue {c : Cmd} (h : c.addsExpiryJob = false) (o : Oracle) (w : World) :
    (exec P c o w).2.bookingExpiryQueue = w.bookingExpiryQueue := by
  rcases exec_state P c o w with h' | h' <;> rw [h']
  cases c with
  | bookingExpiryAdd data delay jobId => cases h
  | _ => simp only [perform] <;> (repeat' split) <;> rfl

theorem coreExec_state (c : Cmd) :
    (coreExec P c o w).2 = { w with toWorld := (exec P c o.toOracle w.toWorld).2 } := by
  cases c <;> rfl

theorem coreExec_answer {c : Cmd} (h : c.isLocal = false) (o : ExpiryOracle) (w : ExpiryWorld) :
    (coreExec P c o w).1 = (exec P c o.toOracle w.toWorld).1 := by
  cases c <;> first | rfl | cases h

theorem outstanding_iff {id : String} :
    w.outstanding id = true ↔ ∃ j ∈ w.jobs, j.data.bookingId = id := by
  simp [ExpiryWorld.outstanding]

theorem isPending_iff {w : World} {id : String} :
    w.isPending id = true ↔ ∃ b ∈ w.bookings.rows, b.id = id ∧ b.status = .PENDING := by
  simp [World.isPending]

theorem mem_jobs_takeJob {jobId token : String} {now : Time} {j : Job BookingExpiryJobData} :
    j ∈ (w.takeJob jobId token now).2.jobs ↔ j ∈ w.jobs := by
  unfold ExpiryWorld.takeJob
  split
  · rfl
  · rename_i j' hj'
    have hperm := List.perm_cons_erase (List.mem_of_find?_eq_some hj')
    simp only [ExpiryWorld.jobs, List.map_append, List.mem_append, List.map_cons, List.map_nil,
      hperm.mem_iff (a := j), List.mem_cons]
    tauto

theorem takeJob_some {jobId token : String} {now : Time} {held : ActiveJob}
    (h : (w.takeJob jobId token now).1 = some held) :
    held.job ∈ w.jobs ∧ held.job.jobId = jobId ∧ held.token = token := by
  unfold ExpiryWorld.takeJob at h
  split at h
  · cases h
  · rename_i j hj
    obtain rfl := Option.some.inj h
    have hid := List.find?_some hj
    simp only [Bool.and_eq_true, beq_iff_eq] at hid
    exact ⟨List.mem_append_left _ (List.mem_of_find?_eq_some hj), hid.1, rfl⟩

/-- A job that a release takes out is the named one. -/
theorem mem_jobs_release {jobId token : String} {j : Job BookingExpiryJobData} :
    (j ∈ (w.release jobId token).jobs → j ∈ w.jobs) ∧
      (j ∈ w.jobs → j ∈ (w.release jobId token).jobs ∨ j.jobId = jobId) := by
  simp only [ExpiryWorld.release, ExpiryWorld.jobs, List.mem_append, List.mem_map,
    List.mem_filter, Bool.not_eq_true', Bool.and_eq_false_iff, beq_eq_false_iff_ne]
  constructor
  · rintro (h | ⟨a, ⟨ha, -⟩, rfl⟩)
    · exact Or.inl h
    · exact Or.inr ⟨a, ha, rfl⟩
  · rintro (h | ⟨a, ha, rfl⟩)
    · exact Or.inl (Or.inl h)
    · by_cases hid : a.job.jobId = jobId
      · exact Or.inr hid
      · exact Or.inl (Or.inr ⟨a, ⟨ha, Or.inl hid⟩, rfl⟩)

/-- A check for stalled jobs takes out a job that has stalled before, and no
other. -/
theorem mem_jobs_stall {jobId : String} {j : Job BookingExpiryJobData} :
    (j ∈ (w.stall jobId).jobs → j ∈ w.jobs) ∧
      (j ∈ w.jobs → j ∈ (w.stall jobId).jobs ∨
        j.jobId = jobId ∧ w.stalled.contains jobId = true) := by
  unfold ExpiryWorld.stall
  by_cases hs : w.stalled.contains jobId = true
  · rw [if_pos hs]
    simp only [ExpiryWorld.jobs, List.mem_append, List.mem_map, List.mem_filter, bne_iff_ne]
    constructor
    · rintro (h | ⟨a, ⟨ha, -⟩, rfl⟩)
      · exact Or.inl h
      · exact Or.inr ⟨a, ha, rfl⟩
    · rintro (h | ⟨a, ha, rfl⟩)
      · exact Or.inl (Or.inl h)
      · by_cases hid : a.job.jobId = jobId
        · exact Or.inr ⟨hid, hs⟩
        · exact Or.inl (Or.inr ⟨a, ⟨ha, hid⟩, rfl⟩)
  · rw [if_neg hs]
    simp only [ExpiryWorld.jobs, List.mem_append, List.mem_map, List.mem_filter, bne_iff_ne,
      beq_iff_eq]
    constructor
    · rintro ((h | ⟨a, ⟨ha, -⟩, rfl⟩) | ⟨a, ⟨ha, -⟩, rfl⟩)
      · exact Or.inl h
      · exact Or.inr ⟨a, ha, rfl⟩
      · exact Or.inr ⟨a, ha, rfl⟩
    · rintro (h | ⟨a, ha, rfl⟩)
      · exact Or.inl (Or.inl (Or.inl h))
      · by_cases hid : a.job.jobId = jobId
        · exact Or.inl (Or.inl (Or.inr ⟨a, ⟨ha, hid⟩, rfl⟩))
        · exact Or.inl (Or.inr ⟨a, ⟨ha, hid⟩, rfl⟩)

theorem queueExec_state (c : QueueCmd) :
    (c.exec o w).2 = (c.perform o w).2 ∧ o.fault ≠ some .before ∨ (c.exec o w).2 = w := by
  unfold QueueCmd.exec
  split
  · rename_i h
    exact Or.inl ⟨rfl, by rw [h]; exact nofun⟩
  · exact Or.inr rfl
  · rename_i h
    exact Or.inl ⟨rfl, by rw [h]; exact nofun⟩

theorem queuePerform_bookings (c : QueueCmd) :
    (c.perform o w).2.bookings = w.bookings := by
  cases c with
  | moveToActive jobId =>
      simp only [QueueCmd.perform, ExpiryWorld.takeJob]
      split <;> rfl
  | moveToCompleted jobId token => rfl
  | moveToFailed jobId token => rfl
  | moveStalledJobsToWait jobId =>
      simp only [QueueCmd.perform, ExpiryWorld.stall]
      split <;> rfl

theorem queueExec_bookings (c : QueueCmd) : (c.exec o w).2.bookings = w.bookings := by
  rcases queueExec_state (o := o) (w := w) c with ⟨h, -⟩ | h <;> rw [h]
  exact queuePerform_bookings c

/-- A job that is there after a command was there before, or the command has
added it. -/
theorem mem_jobs_of_exec {c : workerSig.Cmd} {j : Job BookingExpiryJobData}
    (h : j ∈ (expiryExec P c o w).2.jobs) :
    j ∈ w.jobs ∨ ∃ data delay jobId, c = .inl (.bookingExpiryAdd data delay jobId) ∧
      j.data = data ∧ j.jobId = jobId := by
  cases c with
  | inl c =>
      simp only [expiryExec, coreExec_state, ExpiryWorld.jobs, List.mem_append] at h
      rcases h with h | h
      · by_cases hadd : c.addsExpiryJob = true
        · cases c with
          | bookingExpiryAdd data delay jobId =>
              rcases exec_state P (.bookingExpiryAdd data delay jobId) o.toOracle w.toWorld
                with h' | h' <;> rw [h'] at h
              · simp only [perform, List.mem_append, List.mem_singleton] at h
                rcases h with h | rfl
                · exact Or.inl (List.mem_append_left _ h)
                · exact Or.inr ⟨data, delay, jobId, rfl, rfl, rfl⟩
              · exact Or.inl (List.mem_append_left _ h)
          | _ => cases hadd
        · rw [exec_bookingExpiryQueue (by simpa using hadd)] at h
          exact Or.inl (List.mem_append_left _ h)
      · exact Or.inl (List.mem_append_right _ h)
  | inr c =>
      refine Or.inl ?_
      simp only [expiryExec] at h
      rcases queueExec_state (o := o) (w := w) c with ⟨hs, -⟩ | hs <;> rw [hs] at h
      · cases c with
        | moveToActive jobId => exact mem_jobs_takeJob.mp h
        | moveToCompleted jobId token => exact mem_jobs_release.1 h
        | moveToFailed jobId token => exact mem_jobs_release.1 h
        | moveStalledJobsToWait jobId => exact mem_jobs_stall.1 h
      · exact h

/-- The command may take the job out: its worker has completed or failed it,
or it has stalled again. -/
def takesOut (jobId : String) (o : ExpiryOracle) (w : ExpiryWorld) : workerSig.Cmd → Prop
  | .inr (.moveToCompleted id _) => id = jobId
  | .inr (.moveToFailed id _) => id = jobId
  | .inr (.moveStalledJobsToWait id) =>
      id = jobId ∧ w.stalled.contains id = true ∧ o.fault ≠ some .before
  | _ => False

theorem mem_jobs_exec {c : workerSig.Cmd} {j : Job BookingExpiryJobData} (h : j ∈ w.jobs) :
    j ∈ (expiryExec P c o w).2.jobs ∨ takesOut j.jobId o w c := by
  cases c with
  | inl c =>
      refine Or.inl ?_
      simp only [expiryExec, coreExec_state, ExpiryWorld.jobs, List.mem_append] at h ⊢
      refine h.imp_left fun h => ?_
      by_cases hadd : c.addsExpiryJob = true
      · cases c with
        | bookingExpiryAdd data delay jobId =>
            rcases exec_state P (.bookingExpiryAdd data delay jobId) o.toOracle w.toWorld
              with h' | h' <;> rw [h']
            · exact List.mem_append_left _ h
            · exact h
        | _ => cases hadd
      · rw [exec_bookingExpiryQueue (by simpa using hadd)]
        exact h
  | inr c =>
      simp only [expiryExec]
      rcases queueExec_state (o := o) (w := w) c with ⟨hs, hf⟩ | hs <;> rw [hs]
      · cases c with
        | moveToActive jobId => exact Or.inl (mem_jobs_takeJob.mpr h)
        | moveToCompleted jobId token => exact (mem_jobs_release.2 h).imp_right fun h => h.symm
        | moveToFailed jobId token => exact (mem_jobs_release.2 h).imp_right fun h => h.symm
        | moveStalledJobsToWait jobId =>
            exact (mem_jobs_stall.2 h).imp_right fun h => ⟨h.1.symm, h.2, hf⟩
      · exact Or.inl h

theorem outstanding_of_add {data : BookingExpiryJobData} {delay : Int} {jobId : String}
    (h : o.fault ≠ some .before) :
    (expiryExec P (.inl (.bookingExpiryAdd data delay jobId)) o w).2.outstanding data.bookingId
      = true := by
  have hstate : (exec P (.bookingExpiryAdd data delay jobId) o.toOracle w.toWorld).2
      = (perform P o.toOracle w.toWorld (.bookingExpiryAdd data delay jobId)).2 := by
    rcases hf : o.fault with _ | _ | _
    · rw [exec_of_up (.inr hf)]
    · exact absurd hf h
    · rw [exec_after hf rfl]
  refine outstanding_iff.mpr ⟨⟨data, w.clock + delay, jobId⟩, ?_, rfl⟩
  simp only [expiryExec, coreExec_state, hstate, ExpiryWorld.jobs, perform]
  simp

/-! ### Rows -/

/-- The row with this id is still there, and if it is PENDING now it was
PENDING before. -/
theorem rows_exec {c : workerSig.Cmd} (hc : ∀ id d, c = .inl (.bookingUpdate id d) →
    d.status ≠ .PENDING) {b : Booking} (hb : b ∈ w.bookings.rows) :
    ∃ b' ∈ (expiryExec P c o w).2.bookings.rows,
      b'.id = b.id ∧ (b'.status = .PENDING → b' = b) := by
  cases c with
  | inl c =>
      simp only [expiryExec, coreExec_state]
      refine evolves_exec (P := P) (R := fun b b' => b'.id = b.id ∧ (b'.status = .PENDING → b' = b))
        (fun b => ⟨rfl, fun _ => rfl⟩) (fun id d h _ b _ _ => ?_) b hb
      subst h
      exact ⟨rfl, fun hp => absurd hp (hc id d rfl)⟩
  | inr c =>
      simp only [expiryExec, queueExec_bookings]
      exact ⟨b, hb, rfl, fun _ => rfl⟩

theorem exists_row_exec (c : workerSig.Cmd) {b : Booking} (hb : b ∈ w.bookings.rows) :
    ∃ b' ∈ (expiryExec P c o w).2.bookings.rows, b'.id = b.id := by
  cases c with
  | inl c =>
      simp only [expiryExec, coreExec_state]
      exact evolves_exec (P := P) (R := fun b b' => b'.id = b.id) (fun _ => rfl)
        (fun _ _ _ _ _ _ _ => rfl) b hb
  | inr c =>
      simp only [expiryExec, queueExec_bookings]
      exact ⟨b, hb, rfl⟩

theorem isPending_of_exec {c : workerSig.Cmd} (hc : ∀ id d, c = .inl (.bookingUpdate id d) →
    d.status ≠ .PENDING) {id : String} (hrow : ∃ b ∈ w.bookings.rows, b.id = id)
    (h : (expiryExec P c o w).2.isPending id = true) : w.isPending id = true := by
  obtain ⟨b, hb, hid⟩ := hrow
  obtain ⟨b', hb', hid', hp'⟩ := isPending_iff.mp h
  obtain ⟨b'', hb'', hid'', hp''⟩ := rows_exec (P := P) (o := o) hc hb
  obtain rfl := BookingTable.eq_of_id hb' hb'' (by rw [hid', hid'', hid])
  obtain rfl := hp'' hp'
  exact isPending_iff.mpr ⟨b', hb, hid', hp'⟩

theorem exec_create_of_none {d : BookingCreate}
    (h : insertedId w o (.inl (.bookingCreate d)) = none) :
    (exec P (.bookingCreate d) o.toOracle w.toWorld).2 = w.toWorld ∧
      ∀ b, (exec P (.bookingCreate d) o.toOracle w.toWorld).1 ≠ .ok b := by
  have hnot : o.fault = some .before ∨ w.bookings.create (d.row o.fresh) = none := by
    simp only [insertedId, ite_eq_right_iff, reduceCtorEq, imp_false, not_and,
      Bool.not_eq_true, Option.isSome_eq_false_iff, Option.isNone_iff_eq_none] at h
    exact or_iff_not_imp_left.mpr h
  rcases hnot with hf | hnone
  · rw [exec_before hf rfl]
    exact ⟨rfl, by simp⟩
  · have hperf : perform P o.toOracle w.toWorld (.bookingCreate d)
        = (.error (.prisma (if int4 d.amount then "P2002" else "P2020")), w.toWorld) := by
      simp only [perform, hnone]
    unfold exec
    split <;> simp [hperf]

theorem exec_create_of_some {d : BookingCreate} {id : String}
    (h : insertedId w o (.inl (.bookingCreate d)) = some id) :
    id = o.fresh ∧
      (exec P (.bookingCreate d) o.toOracle w.toWorld).2.bookings.rows
        = w.bookings.rows ++ [d.row id] ∧
      (o.fault = none → (exec P (.bookingCreate d) o.toOracle w.toWorld).1 = .ok (d.row id)) := by
  unfold insertedId at h
  dsimp only at h
  split at h
  · rename_i hins
    obtain rfl := Option.some.inj h
    obtain ⟨t, ht⟩ := Option.isSome_iff_exists.mp hins.2
    have hrows := BookingTable.create_eq_some.mp ht
    refine ⟨rfl, ?_, fun hf => ?_⟩
    · have hperf : (perform P o.toOracle w.toWorld (.bookingCreate d)).2.bookings = t := by
        simp only [perform, ht]
      rcases hf : o.fault with _ | _ | _
      · rw [exec_of_up (.inr hf), hperf, hrows]
      · exact absurd hf hins.1
      · rw [exec_after hf rfl, hperf, hrows]
    · rw [exec_of_up (.inr hf)]
      simp only [perform, ht]
  · cases h

/-- Every row was there before, or is the one the command inserts. -/
theorem row_of_exec {c : workerSig.Cmd} {b : Booking}
    (hb : b ∈ (expiryExec P c o w).2.bookings.rows) :
    (∃ b' ∈ w.bookings.rows, b'.id = b.id) ∨ insertedId w o c = some b.id := by
  cases c with
  | inl c =>
      simp only [expiryExec, coreExec_state] at hb
      cases hd : c.create? with
      | some d =>
          obtain rfl := Cmd.create?_eq_some.mp hd
          cases hins : insertedId w o (.inl (.bookingCreate d)) with
          | none =>
              rw [(exec_create_of_none hins).1] at hb
              exact Or.inl ⟨b, hb, rfl⟩
          | some id =>
              obtain ⟨rfl, hrows, -⟩ := exec_create_of_some (P := P) hins
              rw [hrows, List.mem_append, List.mem_singleton] at hb
              rcases hb with hb | rfl
              · exact Or.inl ⟨b, hb, rfl⟩
              · exact Or.inr rfl
      | none =>
          cases hu : c.update? with
          | some u =>
              obtain ⟨id, d⟩ := u
              obtain rfl := Cmd.update?_eq_some.mp hu
              rcases exec_update P o.toOracle w.toWorld id d with hsame | ⟨-, t, ht, hres⟩
              · rw [hsame] at hb
                exact Or.inl ⟨b, hb, rfl⟩
              · rw [hres, BookingTable.update_eq_some.mp ht] at hb
                obtain ⟨b', hb', rfl⟩ := List.mem_map.mp hb
                refine Or.inl ⟨b', hb', ?_⟩
                split <;> rfl
          | none =>
              rw [exec_bookings P _ _ (Cmd.writesBookings_of_none hd hu)] at hb
              exact Or.inl ⟨b, hb, rfl⟩
  | inr c =>
      simp only [expiryExec, queueExec_bookings] at hb
      exact Or.inl ⟨b, hb, rfl⟩

/-- The command touches neither bookings nor jobs. -/
def inert : workerSig.Cmd → Prop
  | .inl c => c.writesBookings = false ∧ c.addsExpiryJob = false
  | .inr _ => False

theorem inert_exec {c : workerSig.Cmd} (hc : inert c) :
    (expiryExec P c o w).2.bookings = w.bookings ∧ (expiryExec P c o w).2.jobs = w.jobs ∧
      insertedId w o c = none := by
  cases c with
  | inl c =>
      obtain ⟨hb, hj⟩ := hc
      refine ⟨?_, ?_, ?_⟩
      · simp only [expiryExec, coreExec_state]
        exact exec_bookings P _ _ hb
      · simp only [expiryExec, coreExec_state, ExpiryWorld.jobs, exec_bookingExpiryQueue hj]
      · cases c <;> first | rfl | cases hb
  | inr c => cases hc

end Effects

/-! ## The annotations -/

/-- No booking with this job id is PENDING. -/
def World.Done (w : World) (jobId : String) : Prop :=
  ∀ b ∈ w.bookings.rows, jobIdOf b.id = jobId → b.status ≠ .PENDING

/-- The booking is there, and it is covered by a job while it is PENDING. -/
def ExpiryWorld.Covered (w : ExpiryWorld) (id : String) : Prop :=
  (∃ b ∈ w.bookings.rows, b.id = id) ∧ (w.isPending id = true → w.outstanding id = true)

/-- Every job is for a booking and has its job id; every booking has been
inserted by a call of `initiateBooking`. A job is completed, failed or given
up when its booking is no longer PENDING, and no booking becomes PENDING
again. -/
def expiryOutline : ExpiryOutline where
  toDiscipline := jobDiscipline
  inv s :=
    (∀ j ∈ s.world.jobs, j.jobId = jobIdOf j.data.bookingId ∧
      ∃ b ∈ s.world.bookings.rows, b.id = j.data.bookingId) ∧
    ∀ b ∈ s.world.bookings.rows, ∃ e ∈ s.hist, e.op.initiates = true ∧
      ExpiryEvent.insertedId e = some b.id
  pre _ op c s :=
    match c with
    | .inl (.bookingCreate _) => op.initiates = true
    | .inl (.bookingUpdate _ d) => d.status ≠ .PENDING
    | .inl (.bookingExpiryAdd data _ jobId) =>
        jobId = jobIdOf data.bookingId ∧ ∃ b ∈ s.world.bookings.rows, b.id = data.bookingId
    | .inr (.moveToCompleted jobId _) => s.world.Done jobId
    | .inr (.moveToFailed jobId _) => s.world.Done jobId
    | .inr (.moveStalledJobsToWait _) => ∃ jobId, op = .checkStalled jobId
    | _ => True

section Outline

variable {P : Platform} {s : ExpirySnap} {i : Nat} {op : ExpiryOp}

theorem expiry_exec : (expiry P).exec = expiryExec P := rfl

theorem pre_update {c : workerSig.Cmd} (hpre : expiryOutline.pre i op c s) :
    ∀ id d, c = .inl (.bookingUpdate id d) → d.status ≠ .PENDING := by
  rintro id d rfl
  exact hpre

/-- A command that meets its assertion takes no job of a PENDING booking
out. -/
theorem done_of_takesOut {c : workerSig.Cmd} {o : ExpiryOracle} {jobId : String}
    (hpre : expiryOutline.pre i op c s) (hallow : expiryOutline.allows i op c o s)
    (h : takesOut jobId o s.world c) : s.world.Done jobId := by
  match c, h with
  | .inr (.moveToCompleted id token), h =>
      obtain rfl : id = jobId := h
      exact hpre
  | .inr (.moveToFailed id token), h =>
      obtain rfl : id = jobId := h
      exact hpre
  | .inr (.moveStalledJobsToWait id), h =>
      obtain ⟨rfl, hstalled, hf⟩ := h
      obtain ⟨jobId, rfl⟩ := hpre
      exact hallow hstalled hf

/-- **Step**: a booking that is covered stays covered. -/
theorem covered_exec (hinv : expiryOutline.inv s) {c : workerSig.Cmd} {o : ExpiryOracle}
    (hpre : expiryOutline.pre i op c s) (hallow : expiryOutline.allows i op c o s) {id : String}
    (h : s.world.Covered id) : (s.exec (expiry P) i op c o).world.Covered id := by
  obtain ⟨⟨b, hb, hid⟩, hcover⟩ := h
  refine ⟨?_, fun hp => ?_⟩
  · obtain ⟨b', hb', hid'⟩ := exists_row_exec (P := P) (o := o) c hb
    exact ⟨b', hb', hid'.trans hid⟩
  · have hp' := isPending_of_exec (pre_update hpre) ⟨b, hb, hid⟩ hp
    obtain ⟨j, hj, hjid⟩ := outstanding_iff.mp (hcover hp')
    rcases mem_jobs_exec (P := P) (o := o) (c := c) hj with hj' | hout
    · exact outstanding_iff.mpr ⟨j, hj', hjid⟩
    · have hdone := done_of_takesOut hpre hallow hout
      obtain ⟨b', hb', hid', hst⟩ := isPending_iff.mp hp'
      rw [(hinv.1 j hj).1, hjid, ← hid'] at hdone
      exact absurd hst (hdone b' hb' rfl)

theorem inv_exec (hinv : expiryOutline.inv s) {c : workerSig.Cmd} {o : ExpiryOracle}
    (hpre : expiryOutline.pre i op c s) :
    expiryOutline.inv (s.exec (expiry P) i op c o) := by
  obtain ⟨hjobs, hrows⟩ := hinv
  constructor
  · intro j hj
    rcases mem_jobs_of_exec hj with hj | ⟨data, delay, jobId, rfl, rfl, rfl⟩
    · obtain ⟨hkey, b, hb, hid⟩ := hjobs j hj
      obtain ⟨b', hb', hid'⟩ := exists_row_exec (P := P) (o := o) c hb
      exact ⟨hkey, b', hb', hid'.trans hid⟩
    · obtain ⟨hkey, b, hb, hid⟩ := hpre
      obtain ⟨b', hb', hid'⟩ := exists_row_exec (P := P) (o := o) _ hb
      exact ⟨hkey, b', hb', hid'.trans hid⟩
  · intro b hb
    rcases row_of_exec hb with ⟨b', hb', hid⟩ | hins
    · obtain ⟨e, he, hop, hid'⟩ := hrows b' hb'
      exact ⟨e, List.mem_cons_of_mem _ he, hop, hid'.trans (congrArg some hid)⟩
    · refine ⟨_, List.mem_cons_self .., ?_, hins⟩
      match c, hins with
      | .inl (.bookingCreate d), _ => exact hpre

/-! ## What a call knows -/

/-- What call `i` has inserted is covered. -/
def Paid (i : Nat) (s : ExpirySnap) : Prop :=
  ∀ e ∈ s.hist, e.tid = i → ∀ id ∈ ExpiryEvent.insertedId e, s.world.Covered id

/-- Call `i` has inserted nothing but this booking. -/
def InsertedOnly (i : Nat) (id : String) (s : ExpirySnap) : Prop :=
  (∃ b ∈ s.world.bookings.rows, b.id = id) ∧
    ∀ e ∈ s.hist, e.tid = i → ∀ id' ∈ ExpiryEvent.insertedId e, id' = id

def NothingInserted (i : Nat) (s : ExpirySnap) : Prop :=
  ∀ e ∈ s.hist, e.tid = i → ExpiryEvent.insertedId e = none

theorem NothingInserted.paid (h : NothingInserted i s) : Paid i s := by
  intro e he hi id hid
  rw [h e he hi] at hid
  cases hid

theorem InsertedOnly.paid {id : String} (h : InsertedOnly i id s)
    (hcover : s.world.isPending id = true → s.world.outstanding id = true) : Paid i s := by
  intro e he hi id' hid'
  obtain rfl := h.2 e he hi id' hid'
  exact ⟨h.1, hcover⟩

theorem inert_covered {c : workerSig.Cmd} (hc : inert c) {o : ExpiryOracle} {id : String}
    (h : s.world.Covered id) : (s.exec (expiry P) i op c o).world.Covered id := by
  obtain ⟨hb, hj, -⟩ := inert_exec (P := P) (w := s.world) (o := o) hc
  simp only [ExpiryWorld.Covered, World.isPending, ExpiryWorld.outstanding, Snap.exec_world,
    expiry_exec, hb, hj]
  exact h

theorem NothingInserted.stable : Stable (expiry P) expiryOutline i (NothingInserted i) := by
  intro s s' h hs
  cases h with
  | env e _ => exact hs
  | other hj _ _ _ _ =>
      intro e he hi
      rcases List.mem_cons.mp he with rfl | he
      · exact absurd hi hj
      · exact hs e he hi

theorem NothingInserted.kept : Kept (expiry P) expiryOutline i op inert (NothingInserted i) where
  stable := NothingInserted.stable
  own := by
    intro s hs c o hc e he hi
    rcases List.mem_cons.mp he with rfl | he
    · exact (inert_exec (P := P) hc).2.2
    · exact hs e he hi

theorem Paid.stable : Stable (expiry P) expiryOutline i (Paid i) := by
  intro s s' h hs
  cases h with
  | env e _ => exact hs
  | other hj _ hinv hpre hallow =>
      intro e he hi id hid
      rcases List.mem_cons.mp he with rfl | he
      · exact absurd hi hj
      · exact covered_exec hinv hpre hallow (hs e he hi id hid)

theorem Paid.kept : Kept (expiry P) expiryOutline i op inert (Paid i) where
  stable := Paid.stable
  own := by
    intro s hs c o hc e he hi id hid
    rcases List.mem_cons.mp he with rfl | he
    · have hid : insertedId s.world o c = some id := hid
      rw [(inert_exec (P := P) hc).2.2] at hid
      cases hid
    · exact inert_covered hc (hs e he hi id hid)

theorem InsertedOnly.exec {id : String} (h : InsertedOnly i id s) (c : workerSig.Cmd)
    (o : ExpiryOracle) (hc : insertedId s.world o c = none) :
    InsertedOnly i id (s.exec (expiry P) i op c o) := by
  obtain ⟨⟨b, hb, hid⟩, honly⟩ := h
  obtain ⟨b', hb', hid'⟩ := exists_row_exec (P := P) (o := o) c hb
  refine ⟨⟨b', hb', hid'.trans hid⟩, fun e he hi id' hid' => ?_⟩
  rcases List.mem_cons.mp he with rfl | he
  · have hid' : insertedId s.world o c = some id' := hid'
    rw [hc] at hid'
    cases hid'
  · exact honly e he hi id' hid'

theorem InsertedOnly.stable (id : String) :
    Stable (expiry P) expiryOutline i (InsertedOnly i id) := by
  intro s s' h hs
  cases h with
  | env e _ => exact hs
  | other hj _ _ _ _ =>
      obtain ⟨⟨b, hb, hid⟩, honly⟩ := hs
      obtain ⟨b', hb', hid'⟩ := exists_row_exec (P := P) _ hb
      refine ⟨⟨b', hb', hid'.trans hid⟩, fun e he hi id' hid' => ?_⟩
      rcases List.mem_cons.mp he with rfl | he
      · exact absurd hi hj
      · exact honly e he hi id' hid'

/-! ## The rules -/

section Rules

variable {α : Type} {Q : Ending Exn α → ExpirySnap → Prop} {E : Empty → ExpirySnap → Prop}

/-- An awaited command of the core and the rest: the process stops, the call
throws, or it goes on with the answer. -/
theorem wp_await_left {F : ExpirySnap → Prop} (hQ : ∀ r, Stable (expiry P) expiryOutline i (Q r))
    (hF : Stable (expiry P) expiryOutline i F) (hs : F s) {c : Cmd} {f : c.Ret → M α}
    (hpre : ∀ s, expiryOutline.inv s → F s → expiryOutline.pre i op (.inl c) s)
    (hstop : ∀ s o, expiryOutline.inv s → F s → expiryOutline.allows i op (.inl c) o s →
      o.stop = true → Q .stopped (s.exec (expiry P) i op (.inl c) o))
    (herr : ∀ s o e, expiryOutline.inv s → F s → expiryOutline.allows i op (.inl c) o s →
      o.stop = false → (coreExec P c o s.world).1 = .error e →
      Q (.threw (.step e)) (s.exec (expiry P) i op (.inl c) o))
    (hok : ∀ s o a, expiryOutline.inv s → F s → expiryOutline.allows i op (.inl c) o s →
      o.stop = false → (coreExec P c o s.world).1 = .ok a →
      expiryOutline.inv (s.exec (expiry P) i op (.inl c) o) →
      (((f a).left queueSig).crash Empty).wp (expiry P) expiryOutline i op Q E
        (s.exec (expiry P) i op (.inl c) o)) :
    (((await c >>= f).left queueSig).crash Empty).wp (expiry P) expiryOutline i op Q E s := by
  refine wp_crash_call (c := .inl c) hF hs hpre fun s o hinv hFs hallow hinv' => ?_
  simp only [expiry_exec, expiryExec]
  by_cases hstop' : o.stop = true
  · rw [if_pos hstop']
    exact wp_ret (hQ _) (hstop s o hinv hFs hallow hstop') fun _ _ h => h
  · rw [if_neg hstop']
    have hgo : o.stop = false := by simpa using hstop'
    cases h : (coreExec P c o s.world).1 with
    | error e => exact wp_ret (hQ _) (herr s o e hinv hFs hallow hgo h) fun _ _ h => h
    | ok a => exact hok s o a hinv hFs hallow hgo h hinv'

theorem wp_inert {p : M α}
    (hp : p.All fun c : Cmd => c.writesBookings = false ∧ c.addsExpiryJob = false)
    {F : ExpirySnap → Prop} (hF : Kept (expiry P) expiryOutline i op inert F) (hs : F s) :
    ((p.left queueSig).crash Empty).wp (expiry P) expiryOutline i op (fun _ s => F s)
      (fun _ _ => True) s := by
  refine (wp_keep (S := workerSig.crash) (P := inert) (All.crash (hp.left fun c hc => hc))
    (fun c hc s _ _ => ?_) hF hs).mono (fun _ _ _ h => h) fun _ _ _ _ => trivial
  match c, hc with
  | .inl c, hc =>
      obtain ⟨hb, hj⟩ := hc
      cases c <;> trivial

end Rules

/-! ## The calls -/

theorem inert_of_readOnly {c : Cmd} (h : c.readOnly = true) :
    c.writesBookings = false ∧ c.addsExpiryJob = false := by
  cases c <;> first | exact ⟨rfl, rfl⟩ | cases h

theorem inert_of_ofSeatLocks {keys : List String} {c : Cmd} (h : c.ofSeatLocks keys = true) :
    c.writesBookings = false ∧ c.addsExpiryJob = false := by
  cases c <;> first | exact ⟨rfl, rfl⟩ | cases h

theorem wp_before_insert {α β : Type} {p : M α} (hp : p.All (Cmd.readOnly · = true))
    {f : α → M β} (hinv : expiryOutline.inv s) (hs : NothingInserted i s)
    (hf : ∀ a s, expiryOutline.inv s → NothingInserted i s →
      (((f a).left queueSig).crash Empty).wp (expiry P) expiryOutline i op (fun _ s => Paid i s)
        (fun _ _ => True) s) :
    (((p >>= f).left queueSig).crash Empty).wp (expiry P) expiryOutline i op
      (fun _ s => Paid i s) (fun _ _ => True) s := by
  rw [left_bind]
  refine wp_crash_bind hinv ((wp_inert (hp.mono fun _ => inert_of_readOnly)
    NothingInserted.kept hs).mono (fun r s hinv hs => ?_) fun _ _ _ h => h)
  cases r with
  | returned a => exact hf a s hinv hs
  | threw e => exact wp_ret NothingInserted.stable hs fun _ _ h => h.paid
  | stopped => exact wp_ret NothingInserted.stable hs fun _ _ h => h.paid

/-- Once its queue add is over, the call owes no job: the job is there, or
the booking is no longer PENDING. -/
theorem paid_add {o : Op} {o' : ExpiryOracle} {data : BookingExpiryJobData} {delay : Int}
    {jobId : String} (hs : InsertedOnly i data.bookingId s)
    (hallow : expiryOutline.allows i (.call o) (.inl (.bookingExpiryAdd data delay jobId)) o' s) :
    Paid i (s.exec (expiry P) i (.call o) (.inl (.bookingExpiryAdd data delay jobId)) o') := by
  refine (hs.exec _ _ rfl).paid fun hp => ?_
  by_cases hf : o'.fault = some .before
  · have hp' := isPending_of_exec (fun _ _ h => by cases h) hs.1 hp
    have hallow : s.world.isPending data.bookingId = false := hallow hf
    rw [hallow] at hp'
    cases hp'
  · exact outstanding_of_add hf

/-- After the insert the call adds the job, and does not stop before. -/
theorem wp_finish {tenant : TenantContext} {dto : InitiateBookingDto} {now : Time}
    {order : Order} {booking : Booking} {o : Op} (hs : InsertedOnly i booking.id s) :
    (((finish P tenant dto now order booking).left queueSig).crash Empty).wp (expiry P)
      expiryOutline i (.call o) (fun _ s => Paid i s) (fun _ _ => True) s := by
  unfold finish
  refine wp_await_left (fun _ => Paid.stable) (InsertedOnly.stable _) hs
    (fun _ _ _ => trivial) (fun s o' _ hs hallow hstop => ?_)
    (fun s o' e _ hs _ _ herr => by cases herr) fun s o' addedAt _ hs _ _ _ _ => ?_
  · have hpaid : Paid i s := fun e he hi id hid =>
      ⟨(hs.2 e he hi id hid) ▸ hs.1, hallow hstop e he hi id hid⟩
    exact Paid.kept.own hpaid _ _ ⟨rfl, rfl⟩
  refine wp_await_left (fun _ => Paid.stable) (InsertedOnly.stable _) (hs.exec _ _ rfl)
    (fun s _ hs => ⟨rfl, hs.1⟩) (fun s o' _ hs hallow _ => paid_add hs hallow)
    (fun s o' e _ hs hallow _ _ => paid_add hs hallow) fun s o' _ _ hs hallow _ _ _ => ?_
  refine wp_inert ?_ Paid.kept (paid_add hs hallow)
  exact .bind ((all_releaseMany ..).mono fun _ => inert_of_ofSeatLocks) fun _ =>
    .bind (all_await ⟨rfl, rfl⟩) fun _ => trivial

theorem wp_initiateBooking_expiry {tenant : TenantContext} {u : String}
    {dto : InitiateBookingDto} (hinv : expiryOutline.inv s) (hs : NothingInserted i s) :
    (((initiateBooking P tenant u dto).left queueSig).crash Empty).wp (expiry P) expiryOutline i
      (.call (.initiateBooking tenant u dto)) (fun _ s => Paid i s) (fun _ _ => True) s := by
  rw [initiateBooking_eq]
  refine wp_before_insert (all_lookUp ..) hinv hs fun _ s hinv hs => ?_
  refine wp_before_insert (all_admissionChecks ..) hinv hs fun now s hinv hs => ?_
  refine wp_before_insert (all_createOrder ..) hinv hs fun order s hinv hs => ?_
  have hcreate : ∀ {s : ExpirySnap} {o : ExpiryOracle} {d : BookingCreate}, NothingInserted i s →
      insertedId s.world o (.inl (.bookingCreate d)) = none →
      NothingInserted i (s.exec (expiry P) i (.call (.initiateBooking tenant u dto))
        (.inl (.bookingCreate d)) o) := by
    intro s o d hs hins e he hi
    rcases List.mem_cons.mp he with rfl | he
    · exact hins
    · exact hs e he hi
  refine wp_await_left (fun _ => Paid.stable) NothingInserted.stable hs (fun _ _ _ => rfl)
    (fun s o _ hs hallow hstop => ?_) (fun s o e _ hs hallow hgo herr => ?_)
    fun s o booking _ hs hallow hgo hok hinv => ?_
  · cases hins : insertedId s.world o (.inl (.bookingCreate _)) with
    | none => exact (hcreate hs hins).paid
    | some id =>
        have hgo := (hallow (by rw [hins]; rfl)).2
        rw [hstop] at hgo
        cases hgo
  · rw [coreExec_answer rfl] at herr
    cases hins : insertedId s.world o (.inl (.bookingCreate _)) with
    | none => exact (hcreate hs hins).paid
    | some id =>
        obtain ⟨-, -, hok⟩ := exec_create_of_some (P := P) hins
        rw [hok (hallow (by rw [hins]; rfl)).1] at herr
        cases herr
  · rw [coreExec_answer rfl] at hok
    cases hins : insertedId s.world o (.inl (.bookingCreate _)) with
    | none => exact absurd hok ((exec_create_of_none hins).2 _)
    | some id =>
        obtain ⟨-, hrows, hok'⟩ := exec_create_of_some (P := P) hins
        rw [hok' (hallow (by rw [hins]; rfl)).1] at hok
        obtain rfl := Except.ok.inj hok
        refine wp_finish ⟨⟨_, ?_, rfl⟩, fun e he hi id' hid' => ?_⟩
        · simp only [Snap.exec_world, expiry_exec, expiryExec, coreExec_state, hrows]
          exact List.mem_append_right _ (List.mem_singleton.mpr rfl)
        · rcases List.mem_cons.mp he with rfl | he
          · exact Option.some.inj (hid'.symm.trans hins)
          · rw [hs e he hi] at hid'
            cases hid'

/-- The command makes no booking PENDING and asks for no job. -/
def Cmd.neutral : Cmd → Bool
  | .bookingCreate _ => false
  | .bookingUpdate _ d => d.status != .PENDING
  | .bookingExpiryAdd .. => false
  | _ => true

theorem neutral_pre {c : Cmd} (hc : c.neutral = true) (s : ExpirySnap) :
    expiryOutline.pre i op (.inl c) s := by
  cases c with
  | bookingCreate d => cases hc
  | bookingUpdate id d => simpa [Cmd.neutral, expiryOutline] using hc
  | bookingExpiryAdd data delay jobId => cases hc
  | _ => trivial

/-- A call other than `initiateBooking`. -/
theorem wp_other {α : Type} {p : M α} (hp : p.All (Cmd.neutral · = true)) :
    ((p.left queueSig).crash Empty).wp (expiry P) expiryOutline i op (fun _ _ => True)
      (fun _ _ => True) s := by
  have hall : (p.left queueSig).All (S := workerSig) fun c => ∀ s, expiryOutline.pre i op c s :=
    hp.left fun _ => neutral_pre
  exact wp_keep (S := workerSig.crash) (F := fun _ => True) hall.crash (fun _ hc s _ _ => hc s)
    persistent_true.kept trivial

/-- The booking is there, and is no longer PENDING. -/
def NotPending (id : String) (s : ExpirySnap) : Prop :=
  (∃ b ∈ s.world.bookings.rows, b.id = id) ∧ s.world.isPending id = false

/-- The booking is there, and is due by `now` if it is PENDING. -/
def DueBy (id : String) (now : Time) (s : ExpirySnap) : Prop :=
  (∃ b ∈ s.world.bookings.rows, b.id = id) ∧
    ∀ b ∈ s.world.bookings.rows, b.id = id → b.status = .PENDING → b.expiresAt ≤ now

theorem done_of_notPending {w : World} {id : String} (h : w.isPending id = false) :
    w.Done (jobIdOf id) := by
  intro b hb hid hp
  rw [isPending_iff.mpr ⟨b, hb, jobIdOf_inj hid, hp⟩] at h
  cases h

theorem notPending_exec {id : String} {c : workerSig.Cmd} (hpre : expiryOutline.pre i op c s)
    (h : NotPending id s) (o : ExpiryOracle) : NotPending id (s.exec (expiry P) i op c o) := by
  obtain ⟨⟨b, hb, hid⟩, hp⟩ := h
  obtain ⟨b', hb', hid'⟩ := exists_row_exec (P := P) (o := o) c hb
  refine ⟨⟨b', hb', hid'.trans hid⟩, Bool.eq_false_iff.mpr fun hp' => ?_⟩
  rw [isPending_of_exec (pre_update hpre) ⟨b, hb, hid⟩ hp'] at hp
  cases hp

theorem dueBy_exec {id : String} {now : Time} {c : workerSig.Cmd}
    (hpre : expiryOutline.pre i op c s) (h : DueBy id now s) (o : ExpiryOracle) :
    DueBy id now (s.exec (expiry P) i op c o) := by
  obtain ⟨⟨b, hb, hid⟩, hdue⟩ := h
  obtain ⟨b', hb', hid', hsame⟩ := rows_exec (P := P) (o := o) (pre_update hpre) hb
  refine ⟨⟨b', hb', hid'.trans hid⟩, fun b₁ hb₁ hid₁ hp => ?_⟩
  obtain rfl := BookingTable.eq_of_id hb₁ hb' (by rw [hid₁, hid', hid])
  obtain rfl := hsame hp
  exact hdue _ hb hid hp

theorem NotPending.stable (id : String) : Stable (expiry P) expiryOutline i (NotPending id) := by
  intro s s' h hs
  cases h with
  | env e _ => exact hs
  | other _ _ _ hpre _ => exact notPending_exec hpre hs _

theorem NotPending.kept (id : String) :
    Kept (expiry P) expiryOutline i op inert (NotPending id) where
  stable := NotPending.stable id
  own := by
    intro s hs c o hc
    obtain ⟨hb, -, -⟩ := inert_exec (P := P) (w := s.world) (o := o) hc
    simp only [NotPending, World.isPending, Snap.exec_world, expiry_exec, hb]
    exact hs

theorem DueBy.stable (id : String) (now : Time) :
    Stable (expiry P) expiryOutline i (DueBy id now) := by
  intro s s' h hs
  cases h with
  | env e _ => exact hs
  | other _ _ _ hpre _ => exact dueBy_exec hpre hs _

theorem stable_row (id : String) : Stable (expiry P) expiryOutline i fun s =>
    ∃ b ∈ s.world.bookings.rows, b.id = id := by
  intro s s' h hs
  cases h with
  | env e _ => exact hs
  | other _ _ _ _ _ =>
      obtain ⟨b, hb, hid⟩ := hs
      obtain ⟨b', hb', hid'⟩ := exists_row_exec (P := P) _ hb
      exact ⟨b', hb', hid'.trans hid⟩

/-- An update to EXPIRED that gets through leaves the booking not PENDING. -/
theorem notPending_update {id : String} {o : ExpiryOracle}
    (hrow : ∃ b ∈ s.world.bookings.rows, b.id = id)
    (hallow : s.world.isPending id = true → o.fault ≠ some .before) :
    NotPending id (s.exec (expiry P) i op (.inl (.bookingUpdate id { status := .EXPIRED })) o) := by
  obtain ⟨b, hb, rfl⟩ := hrow
  obtain ⟨b', hb', hid'⟩ := exists_row_exec (P := P) (o := o)
    (.inl (.bookingUpdate b.id { status := .EXPIRED })) hb
  refine ⟨⟨b', hb', hid'⟩, Bool.eq_false_iff.mpr fun hp => ?_⟩
  have hp' := isPending_of_exec (by intro id d h; cases h; exact nofun) ⟨b, hb, rfl⟩ hp
  obtain ⟨t, ht⟩ := BookingTable.exists_update_status s.world.bookings b.id .EXPIRED
  have happlied := exec_update_applied (P := P) (hallow hp') (BookingTable.find?_of_mem hb) ht
  simp only [Snap.exec_world, expiry_exec, expiryExec, coreExec_state] at hp
  obtain ⟨b₁, hb₁, hid₁, hp₁⟩ := isPending_iff.mp hp
  rw [happlied] at hb₁
  rcases BookingTable.mem_update hb ht hb₁ with rfl | ⟨hold, hne⟩
  · cases hp₁
  · exact hne (BookingTable.eq_of_id hold hb hid₁)

/-- What a worker promises when its processor has ended: unless its process
has stopped, the booking is no longer PENDING. -/
def Processed (id : String) {α : Type} (r : Ending Exn α) (s : ExpirySnap) : Prop :=
  r = .stopped ∨ NotPending id s

theorem Processed.stable (id : String) {α : Type} (r : Ending Exn α) :
    Stable (expiry P) expiryOutline i (Processed id r) :=
  fun s s' h hs => hs.imp_right (NotPending.stable (P := P) id s s' h)

theorem wp_process {id : String} (hs : ∃ b ∈ s.world.bookings.rows, b.id = id) :
    (((process "expire" ⟨id⟩).left queueSig).crash Empty).wp (expiry P) expiryOutline i
      (.work (jobIdOf id)) (Processed id) (fun _ _ => True) s := by
  show (((expirePendingBooking id).left queueSig).crash Empty).wp _ _ _ _ _ _ _
  unfold expirePendingBooking
  refine wp_await_left (Processed.stable id) (stable_row id) hs (fun _ _ _ => trivial)
    (fun _ _ _ _ _ _ => Or.inl rfl) (fun _ _ _ _ _ _ _ herr => by cases herr)
    fun s o now _ hs hallow _ hnow _ => ?_
  have hdue : DueBy id now s := by
    obtain rfl := Except.ok.inj hnow
    exact ⟨hs, fun b hb hid hp => hallow b hb (congrArg jobIdOf hid) hp⟩
  refine wp_await_left (Processed.stable id) (DueBy.stable id now) 
    (dueBy_exec (c := .inl .dateNow) trivial hdue o)
    (fun _ _ _ => trivial) (fun _ _ _ _ _ _ => Or.inl rfl) (fun s o e _ hs hallow hgo herr => ?_)
    fun s o found _ hs hallow hgo hfound hinv => ?_
  · -- the lookup has failed: it was not for a PENDING booking
    have hp : s.world.isPending id = false := by
      refine Bool.eq_false_iff.mpr fun hp => ?_
      rcases hallow hp with hf | hstop
      · rw [coreExec_answer rfl, exec_of_up (.inr hf)] at herr
        cases herr
      · rw [hstop] at hgo
        cases hgo
    exact Or.inr (notPending_exec (c := .inl (.bookingFindUnique id)) trivial ⟨hs.1, hp⟩ o)
  · obtain ⟨b, hb, hid⟩ := hs.1
    have hsome : found = some (s.world.withTenant b) := by
      rw [coreExec_answer rfl] at hfound
      rw [perform_of_exec_ok hfound] at hfound
      obtain rfl := Except.ok.inj hfound
      rw [← hid, BookingTable.find?_of_mem hb]
      rfl
    subst hsome
    by_cases hp : b.status = .PENDING
    · simp only
      have hfound : (s.world.withTenant b).booking.id = id := hid
      rw [expireFound_of_due hp (hs.2 b hb hid hp), hfound]
      have hupdate : ∀ {s : ExpirySnap} {o : ExpiryOracle}, DueBy id now s →
          expiryOutline.allows i (.work (jobIdOf id))
            (.inl (.bookingUpdate id { status := .EXPIRED })) o s → o.stop = false →
          NotPending id (s.exec (expiry P) i (.work (jobIdOf id))
            (.inl (.bookingUpdate id { status := .EXPIRED })) o) := by
        intro s o hs hallow hgo
        refine notPending_update hs.1 fun hp => ?_
        rcases hallow hp with hf | hstop
        · exact hf
        · rw [hstop] at hgo
          cases hgo
      refine wp_await_left (Processed.stable id) (DueBy.stable id now)
        (dueBy_exec (c := .inl (.bookingFindUnique id)) trivial hs o)
        (fun _ _ _ => nofun) (fun _ _ _ _ _ _ => Or.inl rfl)
        (fun s o e _ hs hallow hgo _ => Or.inr (hupdate hs hallow hgo))
        fun s o _ _ hs hallow hgo _ _ => ?_
      exact (wp_inert (all_await ⟨rfl, rfl⟩) (NotPending.kept id) (hupdate hs hallow hgo)).mono
        (fun _ _ _ h => Or.inr h) fun _ _ _ h => h
    · simp only
      rw [expireFound_of_not_due fun h => hp h.1]
      have hgone : NotPending id s := by
        refine ⟨hs.1, Bool.eq_false_iff.mpr fun hp' => ?_⟩
        obtain ⟨b', hb', hid', hst⟩ := isPending_iff.mp hp'
        obtain rfl := BookingTable.eq_of_id hb hb' (hid.trans hid'.symm)
        exact hp hst
      exact wp_ret (NotPending.stable id)
        (notPending_exec (c := .inl (.bookingFindUnique id)) trivial hgone o)
        fun _ _ h => Or.inr h

theorem wp_await_queue {F : ExpirySnap → Prop} (hF : Stable (expiry P) expiryOutline i F)
    (hs : F s) {α : Type} {c : QueueCmd} {f : c.Ret → WorkerM α}
    (hpre : ∀ s, expiryOutline.inv s → F s → expiryOutline.pre i op (.inr c) s)
    (hok : ∀ s o a, expiryOutline.inv s → F s → (c.exec o s.world).1 = .ok a →
      expiryOutline.inv (s.exec (expiry P) i op (.inr c) o) →
      ((f a).crash Empty).wp (expiry P) expiryOutline i op (fun _ _ => True) (fun _ _ => True)
        (s.exec (expiry P) i op (.inr c) o)) :
    ((awaitQueue c >>= f).crash Empty).wp (expiry P) expiryOutline i op (fun _ _ => True)
      (fun _ _ => True) s := by
  refine wp_crash_call (c := .inr c) hF hs hpre fun s o hinv hFs _ hinv' => ?_
  simp only [expiry_exec, expiryExec]
  split
  · exact fun _ _ _ => trivial
  · cases h : (c.exec o s.world).1 with
    | error e => exact fun _ _ _ => trivial
    | ok a => exact hok s o a hinv hFs h hinv'

/-- A worker completes or fails its job when the booking is no longer
PENDING. -/
theorem wp_work (jobId : String) :
    ((Omnipax.work jobId).crash Empty).wp (expiry P) expiryOutline i (.work jobId)
      (fun _ _ => True) (fun _ _ => True) s := by
  unfold Omnipax.work
  refine wp_await_queue persistent_true.stable trivial (fun _ _ _ => trivial)
    fun s o held? hinv _ hheld hinv' => ?_
  cases held? with
  | none => exact fun _ _ _ => trivial
  | some held =>
      have htaken : (s.world.takeJob jobId o.fresh (s.world.clock + o.skew)).1 = some held := by
        unfold QueueCmd.exec at hheld
        split at hheld
        · exact Except.ok.inj hheld
        · cases hheld
        · cases hheld
      obtain ⟨hmem, rfl, -⟩ := takeJob_some htaken
      obtain ⟨hkey, hrow⟩ := hinv.1 _ hmem
      have hrow' : ∃ b ∈ (s.exec (expiry P) i (.work held.job.jobId)
          (.inr (.moveToActive held.job.jobId)) o).world.bookings.rows,
            b.id = held.job.data.bookingId := by
        obtain ⟨b, hb, hid⟩ := hrow
        obtain ⟨b', hb', hid'⟩ := exists_row_exec (P := P) (o := o) _ hb
        exact ⟨b', hb', hid'.trans hid⟩
      rw [hkey] at hrow' hinv' ⊢
      refine wp_crash_bind hinv' (wp_crash_attempt ((wp_process hrow').mono
        (fun r s hinv hr => ?_) fun _ _ _ h => h))
      have hleave : ∀ c : QueueCmd, (∀ s, NotPending held.job.data.bookingId s →
          expiryOutline.pre i (.work (jobIdOf held.job.data.bookingId)) (.inr c) s) →
          NotPending held.job.data.bookingId s →
          ((awaitQueue c).crash Empty).wp (expiry P) expiryOutline i
            (.work (jobIdOf held.job.data.bookingId)) (fun _ _ => True) (fun _ _ => True) s := by
        intro c hpre hs
        rw [← bind_ret (awaitQueue c)]
        exact wp_await_queue (NotPending.stable _) hs (fun s _ hs => hpre s hs)
          fun _ _ _ _ _ _ _ => fun _ _ _ => trivial
      have hdone : ∀ s, NotPending held.job.data.bookingId s →
          s.world.Done held.job.jobId := by
        intro s hs
        rw [hkey]
        exact done_of_notPending hs.2
      cases r with
      | returned a =>
          exact hleave (.moveToCompleted held.job.jobId held.token) hdone
            (hr.resolve_left nofun)
      | threw e =>
          exact hleave (.moveToFailed held.job.jobId held.token) hdone (hr.resolve_left nofun)
      | stopped => exact fun _ _ _ => trivial

/-- What is promised at the end of a call. -/
def PaidUp (i : Nat) (op : ExpiryOp) (s : ExpirySnap) : Prop :=
  op.initiates = true → Paid i s

end Outline

theorem neutral_of_ofSeatLocks {keys : List String} {c : Cmd} (h : c.ofSeatLocks keys = true) :
    c.neutral = true := by
  cases c <;> first | rfl | cases h

theorem neutral_of_ofLockSeat {P : Platform} {t : String} {c : Cmd} (h : c.ofLockSeat P t) :
    c.neutral = true := by
  cases c <;> first | rfl | cases h

theorem neutral_of_ofLookup {c : Cmd} (h : c.ofLookup = true) : c.neutral = true := by
  cases c <;> first | rfl | cases h

theorem neutral_update {id : String} {d : BookingUpdate} {status : BookingStatus}
    (h : d.status = status) (hs : status ≠ .PENDING) : (Cmd.bookingUpdate id d).neutral = true := by
  simpa [Cmd.neutral, h] using hs

theorem all_body_neutral (P : Platform) {op : Op}
    (hop : (ExpiryOp.call op).initiates = false) : (op.body P).All (Cmd.neutral · = true) := by
  cases op with
  | lockSeat t e s u => exact all_map _ ((all_lockSeat ..).mono fun _ => neutral_of_ofLockSeat)
  | unlockSeat t e s u =>
      exact all_map _ ((all_unlockSeat ..).mono fun _ => neutral_of_ofSeatLocks)
  | initiateBooking tenant u dto => cases hop
  | processPaymentWebhook r =>
      exact all_map _ (all_processPaymentWebhook (fun _ => neutral_of_ofLookup)
        (fun _ _ h => neutral_update h nofun) (fun _ => rfl) r)
  | expirePendingBooking id =>
      exact all_map _ (all_expirePendingBooking (show Cmd.neutral .dateNow = true from rfl)
        (fun _ => rfl) (fun _ _ h => neutral_update h nofun) (fun _ => rfl) id)
  | handleExpiryJob d =>
      exact all_map _ ((all_handleExpiryJob d).mono fun _ => neutral_of_ofSeatLocks)

theorem expiryOutline_valid (P : Platform) :
    Outline.Valid (expiry P) expiryOutline fun i op _ s => PaidUp i op s where
  inv_exec hinv _ _ _ _ _ hpre _ := inv_exec hinv hpre
  inv_env h _ := h
  body := by
    intro i op s _ hinv hfresh
    by_cases hop : op.initiates = true
    · match op, hop with
      | .call (.initiateBooking tenant u dto), _ =>
          have hs : NothingInserted i s := fun e he hi => absurd hi (hfresh e he)
          show (((Answer.initiateBooking <$> initiateBooking P tenant u dto).left
            queueSig).crash Empty).wp _ _ _ _ _ _ _
          rw [map_eq, left_bind]
          refine wp_crash_bind hinv ((wp_initiateBooking_expiry hinv hs).mono
            (fun r s _ hs => ?_) fun _ _ _ h => h)
          cases r <;> exact wp_ret Paid.stable hs fun _ _ h _ => h
    · have hend : ∀ {p : Prog workerSig.crash Empty (Ending Exn Answer)},
          p.wp (expiry P) expiryOutline i op (fun _ _ => True) (fun _ _ => True) s →
          p.wp (expiry P) expiryOutline i op (fun _ s => PaidUp i op s) (fun _ _ => True) s :=
        fun h => h.mono (fun _ _ _ _ hop' => absurd hop' hop) fun _ _ _ h => h
      refine hend ?_
      cases op with
      | call op => exact wp_other (all_body_neutral P (by simpa using hop))
      | work jobId =>
          show (((fun _ => Answer.done) <$> work jobId).crash Empty).wp _ _ _ _ _ _ _
          rw [map_eq]
          refine wp_crash_bind hinv ((wp_work jobId).mono (fun r s _ _ => ?_) fun _ _ _ h => h)
          cases r <;> exact fun _ _ _ => trivial
      | checkStalled jobId =>
          exact wp_await_queue persistent_true.stable trivial (fun _ _ _ => ⟨jobId, rfl⟩)
            fun _ _ _ _ _ _ _ => fun _ _ _ => trivial

section Sample

/-- Call `i` executes `n` commands; whatever they draw is `fresh`. -/
def Sample.expirySteps (i n : Nat) (fresh : String) : List ExpiryLabel :=
  List.replicate n (.step i { fresh })

/-- The first seat is locked and booked, up to the queue add. -/
def Sample.upToAdd : List ExpiryLabel :=
  .spawn (.call (.lockSeat "acme" "e1" "s1" "u1")) :: Sample.expirySteps 0 6 "tok_1" ++
    .spawn (.call (.initiateBooking Sample.tenant "u1" Sample.dto)) ::
      Sample.expirySteps 1 8 "order_1" ++ Sample.expirySteps 1 2 "b1"

/-- The queue does not take the job. -/
def Sample.addLost : List ExpiryLabel :=
  Sample.upToAdd ++ [.step 1 { fault := some .before }]

/-- The job is added, and a worker takes it when it is due. -/
def Sample.taken (stop : Bool) : List ExpiryLabel :=
  Sample.upToAdd ++ Sample.expirySteps 1 5 "" ++
    [.env 600000, .spawn (.work "booking-expiry:b1"), .step 2 { fresh := "lock_1", stop }]

/-- The clock of the worker is a millisecond behind. -/
def Sample.behind : List ExpiryLabel :=
  Sample.taken false ++ .step 2 { skew := -1 } :: Sample.expirySteps 2 2 ""

def Sample.expiryRun (ls : List ExpiryLabel) : ExpiryConfig :=
  (Config.idle (.init 0 Sample.catalog)).run (expiry Sample.platform) ls

end Sample

/-- **Every PENDING booking has a job**: along every run of `jobDiscipline`,
whenever no call of `initiateBooking` is in progress. -/
theorem pendingKept_run (P : Platform) (clock : Time) (catalog : Catalog) {ls : List ExpiryLabel}
    (hls : jobDiscipline.admitsRun (expiry P) (Config.idle (.init clock catalog)) ls)
    (hquiet : NoneInitiating ((Config.idle (.init clock catalog)).run (expiry P) ls)) :
    ((Config.idle (.init clock catalog)).run (expiry P) ls).world.PendingKept := by
  have hidle : expiryOutline.inv ⟨.init clock catalog, []⟩ := by
    constructor
    · intro j hj
      cases hj
    · intro b hb
      cases hb
  have hgood := Outline.sound (expiryOutline_valid P) (Outline.Good.idle hidle) hls
  intro b hb hp
  obtain ⟨e, he, hop, hins⟩ := hgood.inv.2 b hb
  obtain ⟨th, hth, hthop⟩ := Config.attributed_run (Config.attributed_idle _) ls e he
  have hended := hquiet th (List.mem_of_getElem? hth) (by rw [hthop]; exact hop)
  have hpaid : Paid e.tid ((Config.idle (.init clock catalog)).run (expiry P) ls).toSnap := by
    obtain ⟨op, prog⟩ := th
    obtain rfl : op = e.op := hthop
    cases prog with
    | call c k => cases hended
    | err e => cases e
    | ret r => exact hgood.result hth hop
  exact (hpaid e he rfl b.id hins).2 (isPending_iff.mpr ⟨b, hb, rfl, hp⟩)

/-- The process of the worker stops: the booking is PENDING, and its job is
active. -/
theorem pendingKept_workerStopped :
    (Sample.expiryRun (Sample.taken true)).world.isPending "b1" = true ∧
      (Sample.expiryRun (Sample.taken true)).world.PendingKept :=
  ⟨by decide +kernel, pendingKept_run Sample.platform 0 Sample.catalog (by decide +kernel)
    (by decide +kernel)⟩

/-- A queue add that is lost, or a worker whose clock is a millisecond behind,
leaves the booking PENDING without a job. -/
theorem not_pendingKept :
    (NoneInitiating (Sample.expiryRun Sample.addLost) ∧
        ¬(Sample.expiryRun Sample.addLost).world.PendingKept) ∧
      NoneInitiating (Sample.expiryRun Sample.behind) ∧
        ¬(Sample.expiryRun Sample.behind).world.PendingKept := by
  have hlost : NoneInitiating (Sample.expiryRun Sample.addLost) ∧
      ¬(Sample.expiryRun Sample.addLost).world.PendingKept := by
    decide +kernel
  have hbehind : NoneInitiating (Sample.expiryRun Sample.behind) ∧
      ¬(Sample.expiryRun Sample.behind).world.PendingKept := by
    decide +kernel
  exact ⟨hlost, hbehind⟩

end Omnipax
