import Mathlib.Data.List.Induction
import Mathlib.Logic.Function.Basic

/-!
# Anomaly detection

`AnomalyDetectionService` keeps the times of a tenant's bookings and failures,
and throws away those older than a minute on every call that adds one. Its
answers are those of a service that throws nothing away: what has left the
window at one reading of the clock is outside it at every later one.
-/

namespace Omnipax.AnomalyDetection

/-! ## The service -/

structure TenantMetrics where
  bookingCount : List Int
  failureCount : List Int
  lastWindowReset : Int
deriving Repr, DecidableEq

abbrev Metrics := String → Option TenantMetrics

/-- `THRESHOLDS` -/
def BOOKINGS_PER_MINUTE : Nat := 50

def FAILURES_PER_MINUTE : Nat := 30

/-- The readings of the clock in a call that tracks: where a tenant is new, of
the entry, and of the evaluation. -/
structure Readings where
  created : Int
  pushed : Int
  evaluated : Int
deriving Repr, DecidableEq

def getMetrics (metrics : Metrics) (tenantId : String) (now : Int) : TenantMetrics :=
  (metrics tenantId).getD ⟨[], [], now⟩

/-- What is younger than a minute. -/
def recent (now : Int) (times : List Int) : List Int := times.filter fun t => now - 60000 < t

def evaluate (now : Int) (metrics : TenantMetrics) : Bool × TenantMetrics :=
  let bookingCount := recent now metrics.bookingCount
  let failureCount := recent now metrics.failureCount
  (BOOKINGS_PER_MINUTE < bookingCount.length || FAILURES_PER_MINUTE < failureCount.length,
    { metrics with bookingCount, failureCount })

inductive Counter where
  | booking
  | failure
deriving Repr, DecidableEq

def TenantMetrics.push (time : Int) : Counter → TenantMetrics → TenantMetrics
  | .booking, m => { m with bookingCount := m.bookingCount ++ [time] }
  | .failure, m => { m with failureCount := m.failureCount ++ [time] }

def track (counter : Counter) (tenantId : String) (at_ : Readings) (metrics : Metrics) :
    Bool × Metrics :=
  let entry := (getMetrics metrics tenantId at_.created).push at_.pushed counter
  let (isAnomaly, entry) := evaluate at_.evaluated entry
  (isAnomaly, Function.update metrics tenantId (some entry))

def trackBooking : String → Readings → Metrics → Bool × Metrics := track .booking

def trackFailure : String → Readings → Metrics → Bool × Metrics := track .failure

structure Health where
  anomalyFlag : Bool
  bookings : Nat
  failures : Nat
deriving Repr, DecidableEq

def getHealth (tenantId : String) (now : Int) (metrics : Metrics) : Health :=
  match metrics tenantId with
  | none => ⟨false, 0, 0⟩
  | some m =>
      let bRate := (recent now m.bookingCount).length
      let fRate := (recent now m.failureCount).length
      ⟨BOOKINGS_PER_MINUTE < bRate || FAILURES_PER_MINUTE < fRate, bRate, fRate⟩

/-! ## Calls -/

inductive Call where
  | trackBooking (tenantId : String) (at_ : Readings)
  | trackFailure (tenantId : String) (at_ : Readings)
  | getHealth (tenantId : String) (now : Int)
deriving Repr, DecidableEq

inductive Reply where
  | tracked (isAnomaly : Bool)
  | health (health : Health)
deriving Repr, DecidableEq

def Call.run : Call → Metrics → Reply × Metrics
  | .trackBooking tenantId at_, m => (AnomalyDetection.trackBooking tenantId at_ m).map .tracked id
  | .trackFailure tenantId at_, m => (AnomalyDetection.trackFailure tenantId at_ m).map .tracked id
  | .getHealth tenantId now, m => (.health (AnomalyDetection.getHealth tenantId now m), m)

def after (calls : List Call) : Metrics := calls.foldl (fun m c => (c.run m).2) fun _ => none

def Call.readings : Call → List Int
  | .trackBooking _ at_ => [at_.created, at_.pushed, at_.evaluated]
  | .trackFailure _ at_ => [at_.created, at_.pushed, at_.evaluated]
  | .getHealth _ now => [now]

/-- All readings of the clock, in the order the calls take them. One call may read it three
times, as `Date.now()` stands in three places of the way. -/
def readings (calls : List Call) : List Int := calls.flatMap (·.readings)

/-! ## Without throwing away -/

/-- The time at which the call adds to the counter of the tenant. -/
def Call.adds? (counter : Counter) (tenantId : String) : Call → Option Int
  | .trackBooking id at_ => if counter = .booking ∧ id = tenantId then some at_.pushed else none
  | .trackFailure id at_ => if counter = .failure ∧ id = tenantId then some at_.pushed else none
  | .getHealth .. => none

/-- The calls of a tenant that have ever been counted. -/
def made (counter : Counter) (tenantId : String) (calls : List Call) : List Int :=
  calls.filterMap (·.adds? counter tenantId)

/-- Those made in the minute up to `now`. -/
def inMinute (counter : Counter) (tenantId : String) (now : Int) (calls : List Call) : Nat :=
  (made counter tenantId calls).countP fun t => now - 60000 < t ∧ t ≤ now

/-- One of the rates is above its threshold. -/
def anomalous (tenantId : String) (now : Int) (calls : List Call) : Bool :=
  BOOKINGS_PER_MINUTE < inMinute .booking tenantId now calls ||
    FAILURES_PER_MINUTE < inMinute .failure tenantId now calls

/-- What a call is answered after `past`. -/
def Call.answer (past : List Call) : Call → Reply
  | c@(.trackBooking tenantId at_) => .tracked (anomalous tenantId at_.evaluated (past ++ [c]))
  | c@(.trackFailure tenantId at_) => .tracked (anomalous tenantId at_.evaluated (past ++ [c]))
  | .getHealth tenantId now =>
      .health ⟨anomalous tenantId now past, inMinute .booking tenantId now past,
        inMinute .failure tenantId now past⟩

/-! ## The window only moves forward -/

def TenantMetrics.times : Counter → TenantMetrics → List Int
  | .booking, m => m.bookingCount
  | .failure, m => m.failureCount

/-- What the service has of a counter. -/
def stored (counter : Counter) (tenantId : String) (metrics : Metrics) : List Int :=
  (metrics tenantId).elim [] (·.times counter)

theorem recent_recent {now now' : Int} (h : now ≤ now') (times : List Int) :
    recent now' (recent now times) = recent now' times := by
  rw [recent, recent, List.filter_filter]
  refine List.filter_congr fun t _ => ?_
  rw [Bool.and_eq_left_iff_imp, decide_eq_true_eq, decide_eq_true_eq]
  omega

theorem recent_append (now : Int) (l l' : List Int) :
    recent now (l ++ l') = recent now l ++ recent now l' := List.filter_append ..

theorem le_of_mem_made {counter : Counter} {tenantId : String} {calls : List Call} {now t : Int}
    (hnow : ∀ r ∈ readings calls, r ≤ now) (ht : t ∈ made counter tenantId calls) : t ≤ now := by
  obtain ⟨c, hc, hadds⟩ := List.mem_filterMap.mp ht
  refine hnow t (List.mem_flatMap.mpr ⟨c, hc, ?_⟩)
  cases c with
  | getHealth => cases hadds
  | trackBooking id at_ =>
      rw [Call.adds?] at hadds
      split at hadds
      · simp [Call.readings, ← Option.some.inj hadds]
      · cases hadds
  | trackFailure id at_ =>
      rw [Call.adds?] at hadds
      split at hadds
      · simp [Call.readings, ← Option.some.inj hadds]
      · cases hadds

theorem inMinute_eq {counter : Counter} {tenantId : String} {calls : List Call} {now : Int}
    (hnow : ∀ r ∈ readings calls, r ≤ now) :
    inMinute counter tenantId now calls = (recent now (made counter tenantId calls)).length := by
  rw [inMinute, List.countP_eq_length_filter, recent]
  refine congrArg List.length (List.filter_congr fun t ht => ?_)
  rw [decide_eq_decide]
  exact and_iff_left (le_of_mem_made hnow ht)

/-- In every window that is still to come, the service has what has been counted. -/
def Faithful (metrics : Metrics) (calls : List Call) : Prop :=
  ∀ counter tenantId now, (∀ r ∈ readings calls, r ≤ now) →
    recent now (stored counter tenantId metrics) = recent now (made counter tenantId calls)

/-- What a call adds to a counter. -/
def added (counter : Counter) (tenantId : String) (c : Call) : List Int :=
  (c.adds? counter tenantId).toList

theorem made_concat (counter : Counter) (tenantId : String) (past : List Call) (c : Call) :
    made counter tenantId (past ++ [c]) = made counter tenantId past ++ added counter tenantId c := by
  rw [made, List.filterMap_append]
  refine congrArg _ ?_
  cases h : c.adds? counter tenantId <;> simp [added, h]

theorem readings_concat (past : List Call) (c : Call) :
    readings (past ++ [c]) = readings past ++ c.readings := by
  rw [readings, List.flatMap_append, List.flatMap_singleton]
  rfl

section Track

variable (counter counter' : Counter) (tenantId tenantId' : String) (at_ : Readings)
  (metrics : Metrics)

/-- The entries of the tenant with the new one, before they are evaluated. -/
def pushed : List Int :=
  stored counter' tenantId metrics ++ if counter = counter' then [at_.pushed] else []

theorem times_getMetrics (now : Int) :
    (getMetrics metrics tenantId now).times counter' = stored counter' tenantId metrics := by
  rw [getMetrics, stored]
  cases metrics tenantId with
  | none => cases counter' <;> rfl
  | some m => rfl

theorem times_push (m : TenantMetrics) (time : Int) :
    (m.push time counter).times counter'
      = m.times counter' ++ if counter = counter' then [time] else [] := by
  cases counter <;> cases counter' <;> simp [TenantMetrics.push, TenantMetrics.times]

theorem track_fst :
    (track counter tenantId at_ metrics).1
      = (decide (BOOKINGS_PER_MINUTE
            < (recent at_.evaluated (pushed counter .booking tenantId at_ metrics)).length)
          || decide (FAILURES_PER_MINUTE
            < (recent at_.evaluated (pushed counter .failure tenantId at_ metrics)).length)) := by
  rw [pushed, pushed, ← times_getMetrics .booking tenantId metrics at_.created,
    ← times_getMetrics .failure tenantId metrics at_.created, ← times_push, ← times_push]
  rfl

theorem stored_track :
    stored counter' tenantId' (track counter tenantId at_ metrics).2
      = if tenantId' = tenantId then recent at_.evaluated (pushed counter counter' tenantId at_ metrics)
        else stored counter' tenantId' metrics := by
  by_cases h : tenantId' = tenantId
  · subst h
    rw [if_pos rfl, pushed, ← times_getMetrics counter' tenantId' metrics at_.created, ← times_push]
    show (Function.update metrics tenantId' _ tenantId').elim [] _ = _
    rw [Function.update_self]
    cases counter' <;> rfl
  · rw [if_neg h]
    show (Function.update metrics tenantId _ tenantId').elim [] _ = _
    rw [Function.update_of_ne h]
    rfl

end Track

theorem Call.run_track (c : Call) (metrics : Metrics) :
    (∃ tenantId now, c = .getHealth tenantId now) ∨
      ∃ counter tenantId at_, c.run metrics
          = ((.tracked (track counter tenantId at_ metrics).1), (track counter tenantId at_ metrics).2) ∧
        c.readings = [at_.created, at_.pushed, at_.evaluated] ∧
        (∀ past, c.answer past = .tracked (anomalous tenantId at_.evaluated (past ++ [c]))) ∧
        ∀ counter' tenantId', added counter' tenantId' c
          = if tenantId' = tenantId then if counter = counter' then [at_.pushed] else [] else [] := by
  cases c with
  | getHealth tenantId now => exact Or.inl ⟨tenantId, now, rfl⟩
  | trackBooking tenantId at_ =>
      refine Or.inr ⟨.booking, tenantId, at_, rfl, rfl, fun _ => rfl, fun counter' tenantId' => ?_⟩
      simp only [added, Call.adds?]
      split_ifs <;> simp_all
  | trackFailure tenantId at_ =>
      refine Or.inr ⟨.failure, tenantId, at_, rfl, rfl, fun _ => rfl, fun counter' tenantId' => ?_⟩
      simp only [added, Call.adds?]
      split_ifs <;> simp_all

/-- One call: what it throws away is outside every window to come. -/
theorem Faithful.run {metrics : Metrics} {past : List Call} (h : Faithful metrics past) (c : Call) :
    Faithful (c.run metrics).2 (past ++ [c]) := by
  intro counter' tenantId' now hnow
  rw [readings_concat] at hnow
  have hpast : ∀ r ∈ readings past, r ≤ now := fun r hr => hnow r (List.mem_append_left _ hr)
  have hc : ∀ r ∈ c.readings, r ≤ now := fun r hr => hnow r (List.mem_append_right _ hr)
  rw [made_concat, recent_append, ← h counter' tenantId' now hpast]
  rcases c.run_track metrics with ⟨tenantId, now', rfl⟩ | ⟨counter, tenantId, at_, hrun, hread, -, hadded⟩
  · exact (List.append_nil _).symm
  · have hevaluated : at_.evaluated ≤ now := hc _ (by simp [hread])
    rw [hrun, hadded]
    show recent now (stored counter' tenantId' (track counter tenantId at_ metrics).2) = _
    rw [stored_track]
    by_cases hid : tenantId' = tenantId
    · subst hid
      rw [if_pos rfl, if_pos rfl, recent_recent hevaluated, pushed, recent_append]
    · rw [if_neg hid, if_neg hid]
      exact (List.append_nil _).symm

theorem faithful_after (calls : List Call) : Faithful (after calls) calls := by
  induction calls using List.reverseRecOn with
  | nil => exact fun _ _ _ _ => rfl
  | append_singleton past c ih =>
      rw [after, List.foldl_append]
      exact ih.run c

/-! ## Answers -/

section Answers

variable {past : List Call} {now : Int}

theorem length_recent_stored {counter : Counter} {tenantId : String}
    (hnow : ∀ r ∈ readings past, r ≤ now) :
    (recent now (stored counter tenantId (after past))).length
      = inMinute counter tenantId now past := by
  rw [faithful_after past counter tenantId now hnow, inMinute_eq hnow]

theorem getHealth_eq (metrics : Metrics) (tenantId : String) :
    getHealth tenantId now metrics
      = ⟨decide (BOOKINGS_PER_MINUTE < (recent now (stored .booking tenantId metrics)).length)
          || decide (FAILURES_PER_MINUTE < (recent now (stored .failure tenantId metrics)).length),
        (recent now (stored .booking tenantId metrics)).length,
        (recent now (stored .failure tenantId metrics)).length⟩ := by
  rw [getHealth, stored, stored]
  cases metrics tenantId <;> rfl

/-- **Anomaly windows**: every call is answered as by a service that throws
nothing away, when the clock does not go back. -/
theorem answer_run (past : List Call) (c : Call) (h : (readings (past ++ [c])).Pairwise (· ≤ ·)) :
    (c.run (after past)).1 = c.answer past := by
  rw [readings_concat, List.pairwise_append] at h
  obtain ⟨-, hown, hpast⟩ := h
  rcases c.run_track (after past) with ⟨tenantId, now, rfl⟩ |
    ⟨counter, tenantId, at_, hrun, hread, hanswer, hadded⟩
  · have hnow : ∀ r ∈ readings past, r ≤ now := fun r hr => hpast r hr now (List.mem_singleton_self _)
    show Reply.health (getHealth tenantId now (after past)) = _
    rw [getHealth_eq, length_recent_stored hnow, length_recent_stored hnow]
    rfl
  · rw [hread] at hown hpast
    have hnow : ∀ r ∈ readings past, r ≤ at_.evaluated :=
      fun r hr => hpast r hr at_.evaluated (by simp)
    have hnow' : ∀ r ∈ readings (past ++ [c]), r ≤ at_.evaluated := by
      intro r hr
      rw [readings_concat, hread] at hr
      rcases List.mem_append.mp hr with hr | hr
      · exact hnow r hr
      · simp only [List.pairwise_cons, List.mem_cons] at hown
        simp only [List.mem_cons, List.not_mem_nil, or_false] at hr
        rcases hr with rfl | rfl | rfl
        · exact hown.1 _ (by simp)
        · exact hown.2.1 _ (by simp)
        · exact Int.le_refl _
    have hcount (counter' : Counter) : (recent at_.evaluated
        (pushed counter counter' tenantId at_ (after past))).length
          = inMinute counter' tenantId at_.evaluated (past ++ [c]) := by
      rw [inMinute_eq hnow', made_concat, hadded, if_pos rfl, pushed, recent_append, recent_append,
        faithful_after past counter' tenantId _ hnow]
    rw [hrun, hanswer]
    refine congrArg Reply.tracked ((track_fst ..).trans ?_)
    rw [hcount, hcount]
    rfl

end Answers

namespace Sample

/-- Two bookings a minute apart, and a failure of another tenant in between. -/
def minuteApart : List Call :=
  [.trackBooking "t1" ⟨0, 0, 0⟩, .trackFailure "t2" ⟨30000, 30000, 30001⟩,
    .trackBooking "t1" ⟨60000, 60000, 60000⟩]

end Sample

theorem answer_minuteApart :
    (Call.run (.getHealth "t1" 60000) (after Sample.minuteApart)).1
      = Call.answer Sample.minuteApart (.getHealth "t1" 60000) :=
  answer_run Sample.minuteApart (.getHealth "t1" 60000) (by decide)

/-- The first booking has left the window. -/
example : Call.answer Sample.minuteApart (.getHealth "t1" 60000) = .health ⟨false, 1, 0⟩ := by decide

end Omnipax.AnomalyDetection
