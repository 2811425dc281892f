import Mathlib.Data.List.Chain
import Omnipax.Orders

/-!
# The circuit breaker

`checkCircuit`, `recordFailure` and `recordSuccess` over whole histories. The
breaker keeps a count and the time of the last error. The count is started
again by a failure that comes more than a window after the one before, so what
it counts is a trickle, each failure soon after the last, and not the failures
of one window. An attempt that is let through after the cooldown comes later
than that, and the count it leaves when it fails is one.
-/

namespace Omnipax.Payments

open Conc Prog Database

/-! ## Histories -/

inductive BreakerCall where
  | checkCircuit
  | recordFailure
  | recordSuccess
deriving Repr, DecidableEq

/-- Calls with the readings of the clock. -/
abbrev BreakerHistory := List (Time × BreakerCall)

def Ordered (h : BreakerHistory) : Prop := h.Pairwise fun x y => x.1 ≤ y.1

instance (h : BreakerHistory) : Decidable (Ordered h) :=
  inferInstanceAs (Decidable (h.Pairwise _))

def failures (ts : List Time) : BreakerHistory := ts.map (·, .recordFailure)

namespace Circuit

def call (c : Circuit) (now : Time) : BreakerCall → Circuit
  | .checkCircuit => (c.check now).2
  | .recordFailure => c.recordFailure now
  | .recordSuccess => c.recordSuccess

def after (c : Circuit) (h : BreakerHistory) : Circuit := h.foldl (fun c x => c.call x.1 x.2) c

variable {c : Circuit} {now t : Time}

@[simp] theorem after_nil : c.after [] = c := rfl

@[simp] theorem after_cons (x : Time × BreakerCall) (h : BreakerHistory) :
    c.after (x :: h) = (c.call x.1 x.2).after h := rfl

@[simp] theorem after_append (h h' : BreakerHistory) :
    c.after (h ++ h') = (c.after h).after h' := List.foldl_append ..

@[simp] theorem recordFailure_lastErrorTime : (c.recordFailure now).lastErrorTime = now := rfl

@[simp] theorem recordFailure_failureCount :
    (c.recordFailure now).failureCount =
      (if now - c.lastErrorTime > WINDOW_PERIOD then 0 else c.failureCount) + 1 := rfl

theorem recordFailure_state :
    (c.recordFailure now).state =
      if (c.recordFailure now).failureCount ≥ FAILURE_THRESHOLD then .OPEN else c.state := rfl

theorem recordFailure_open_iff (hc : c.state ≠ .OPEN) :
    (c.recordFailure now).state = .OPEN ↔
      FAILURE_THRESHOLD ≤ (c.recordFailure now).failureCount := by
  rw [recordFailure_state]
  split
  · rename_i h
    exact ⟨fun _ => h, fun _ => rfl⟩
  · rename_i h
    exact ⟨fun h' => absurd h' hc, fun h' => absurd h' h⟩

/-- A failure opens the breaker when it is counted together with enough
others. -/
theorem opens_iff (hc : c.state ≠ .OPEN) :
    (c.recordFailure now).state = .OPEN ↔
      now - c.lastErrorTime ≤ WINDOW_PERIOD ∧ FAILURE_THRESHOLD ≤ c.failureCount + 1 := by
  rw [recordFailure_open_iff hc, recordFailure_failureCount]
  by_cases hgap : now - c.lastErrorTime > WINDOW_PERIOD
  · rw [if_pos hgap]
    constructor
    · intro h
      simp [FAILURE_THRESHOLD] at h
    · intro h
      exact absurd h.1 (not_le.mpr hgap)
  · rw [if_neg hgap]
    exact ⟨fun h => ⟨not_lt.mp hgap, h⟩, fun h => h.2⟩

/-! ## The cooldown -/

/-- The breaker is open, and its last error lies between the two readings of the clock: no
attempt gets through for a cooldown after the first of them. -/
structure Shut (c : Circuit) (t now : Time) : Prop where
  isOpen : c.state = .OPEN
  lower : t ≤ c.lastErrorTime
  upper : c.lastErrorTime ≤ now

theorem check_of_open (hopen : c.state = .OPEN) (hlast : t ≤ c.lastErrorTime)
    (hnow : now ≤ t + COOLDOWN_PERIOD) : c.check now = (false, c) := by
  have hcool : ¬now - c.lastErrorTime > COOLDOWN_PERIOD := by linarith
  rw [check, if_pos hopen, if_neg hcool]

/-- A call that is not a success leaves an open breaker open. -/
theorem Shut.call (h : c.Shut t now) {now' : Time} (hle : now ≤ now')
    (hnow : now' ≤ t + COOLDOWN_PERIOD) {k : BreakerCall} (hk : k ≠ .recordSuccess) :
    (c.call now' k).Shut t now' := by
  have hwide : c.Shut t now' := ⟨h.isOpen, h.lower, Int.le_trans h.upper hle⟩
  cases k with
  | checkCircuit =>
      rw [Circuit.call, check_of_open hwide.isOpen hwide.lower hnow]
      exact hwide
  | recordFailure =>
      refine ⟨?_, Int.le_trans hwide.lower hwide.upper, Int.le_refl _⟩
      rw [Circuit.call, recordFailure_state, h.isOpen, ite_self]
  | recordSuccess => exact absurd rfl hk

theorem Shut.after {h : BreakerHistory} (hc : c.Shut t now)
    (hordered : Ordered ((now, BreakerCall.checkCircuit) :: h))
    (hnow : ∀ x ∈ h, x.1 ≤ t + COOLDOWN_PERIOD) (hk : ∀ x ∈ h, x.2 ≠ .recordSuccess) :
    (c.after h).state = .OPEN ∧ t ≤ (c.after h).lastErrorTime := by
  induction h generalizing c now with
  | nil => exact ⟨hc.isOpen, hc.lower⟩
  | cons x h ih =>
      obtain ⟨hfirst, hrest⟩ := List.pairwise_cons.mp hordered
      have hnext := hc.call (hfirst x (List.mem_cons_self ..)) (hnow x (List.mem_cons_self ..))
        (hk x (List.mem_cons_self ..))
      exact ih hnext (List.pairwise_cons.mpr (List.pairwise_cons.mp hrest))
        (fun y hy => hnow y (List.mem_cons_of_mem _ hy))
        fun y hy => hk y (List.mem_cons_of_mem _ hy)

end Circuit

/-! ## Half-open -/

/-- However the calls go on after the failure, every attempt within the cooldown is
rejected, whatever other failures and successes come before it. -/
def Rejects (c : Circuit) (now : Time) (later : BreakerHistory) : Prop :=
  ∀ pre t post, later = pre ++ (t, .checkCircuit) :: post →
    t ≤ now + Circuit.COOLDOWN_PERIOD → ((c.after pre).check t).1 = false

theorem rejects_of_open {c : Circuit} {now : Time} {later : BreakerHistory}
    (hopen : (c.recordFailure now).state = .OPEN)
    (hordered : Ordered ((now, .recordFailure) :: later))
    (hlater : ∀ x ∈ later, x.2 ≠ .recordSuccess) : Rejects (c.recordFailure now) now later := by
  rintro pre t post rfl ht
  obtain ⟨hnow, hrest⟩ := List.pairwise_cons.mp hordered
  obtain ⟨hpre, -, hacross⟩ := List.pairwise_append.mp hrest
  have hstart : (c.recordFailure now).Shut now now := ⟨hopen, Int.le_refl _, Int.le_refl _⟩
  have hend := hstart.after (h := pre)
    (List.pairwise_cons.mpr ⟨fun x hx => hnow x (List.mem_append_left _ hx), hpre⟩)
    (fun x hx => Int.le_trans (hacross x hx _ (List.mem_cons_self ..)) ht)
    fun x hx => hlater x (List.mem_append_left _ hx)
  rw [Circuit.check_of_open hend.1 hend.2 ht]

/-- **Half-open**: a failure opens the breaker again, for the cooldown, when it
comes within a window of the last error and enough failures are counted. -/
theorem reopens_iff (before later : BreakerHistory) (now : Time)
    (hordered : Ordered (before ++ (now, .recordFailure) :: later))
    (hhalf : (Circuit.after {} before).state = .HALF_OPEN)
    (hlater : ∀ x ∈ later, x.2 ≠ .recordSuccess) :
    (((Circuit.after {} before).recordFailure now).state = .OPEN ∧
        Rejects ((Circuit.after {} before).recordFailure now) now later) ↔
      now - (Circuit.after {} before).lastErrorTime ≤ Circuit.WINDOW_PERIOD ∧
        Circuit.FAILURE_THRESHOLD ≤ (Circuit.after {} before).failureCount + 1 := by
  have hclosed : (Circuit.after {} before).state ≠ .OPEN := by
    rw [hhalf]
    nofun
  rw [← Circuit.opens_iff hclosed]
  refine ⟨fun h => h.1, fun h => ⟨h, rejects_of_open h ?_ hlater⟩⟩
  exact (List.pairwise_append.mp hordered).2.1

theorem firstTrial_not_open (c : Circuit) (t now : Time) (hc : c.state = .OPEN)
    (hpass : (c.check t).1 = true) (hnow : t ≤ now) :
    ((c.check t).2.recordFailure now).state = .HALF_OPEN := by
  rw [Circuit.check, if_pos hc] at hpass ⊢
  split at hpass
  · rename_i hcool
    rw [if_pos hcool]
    have hgap : now - c.lastErrorTime > Circuit.WINDOW_PERIOD := by
      have hlong : Circuit.WINDOW_PERIOD ≤ Circuit.COOLDOWN_PERIOD := by decide
      linarith
    rw [Circuit.recordFailure_state, Circuit.recordFailure_failureCount, if_pos hgap]
    rfl
  · cases hpass

namespace Sample

/-- Open, and half-open after the cooldown; four trials have failed since. -/
def trials : BreakerHistory :=
  failures [1, 2, 3, 4, 5] ++ (120006, .checkCircuit) :: failures [120007, 120008, 120009, 120010]

end Sample

theorem reopens_trials :
    (((Circuit.after {} Sample.trials).recordFailure 120011).state = .OPEN ∧
        Rejects ((Circuit.after {} Sample.trials).recordFailure 120011) 120011
          [(120012, .checkCircuit)]) ↔
      120011 - (Circuit.after {} Sample.trials).lastErrorTime ≤ Circuit.WINDOW_PERIOD ∧
        Circuit.FAILURE_THRESHOLD ≤ (Circuit.after {} Sample.trials).failureCount + 1 :=
  reopens_iff Sample.trials [(120012, .checkCircuit)] 120011 (by decide) (by decide) (by decide)

/-- The first trial fails, and the breaker stays half-open. -/
theorem not_reopens_firstTrial :
    ¬ ∀ (before later : BreakerHistory) (now : Time),
      Ordered (before ++ (now, .recordFailure) :: later) →
      (Circuit.after {} before).state = .HALF_OPEN → (∀ x ∈ later, x.2 ≠ .recordSuccess) →
      ((Circuit.after {} before).recordFailure now).state = .OPEN ∧
        Rejects ((Circuit.after {} before).recordFailure now) now later := by
  intro h
  have hopen := (h (failures [1, 2, 3, 4, 5] ++ [(120006, .checkCircuit)]) [] 120007 (by decide)
    (by decide) nofun).1
  revert hopen
  decide

/-! ## Opening -/

/-- Failures that each come at most a window after the one before. -/
def Trickle (ts : List Time) : Prop := ts.IsChain fun s t => t - s ≤ Circuit.WINDOW_PERIOD

/-- The history ends in failures that no success comes between, at least as many as the
threshold, each within the window of the one before it. Together they may take much longer
than the window. -/
def EndsInTrickle (h : BreakerHistory) : Prop :=
  ∃ pre ts, h = pre ++ failures ts ∧ Circuit.FAILURE_THRESHOLD ≤ ts.length ∧ Trickle ts

/-- The history ends in failures, no success between them, that all lie in the
window before `t`. -/
def EndsInWindow (t : Time) (h : BreakerHistory) : Prop :=
  ∃ pre ts, h = pre ++ failures ts ∧ Circuit.FAILURE_THRESHOLD ≤ ts.length ∧
    ∀ s ∈ ts, t - Circuit.WINDOW_PERIOD ≤ s ∧ s ≤ t

theorem failures_snoc (ts : List Time) (t : Time) :
    failures (ts ++ [t]) = failures ts ++ [(t, .recordFailure)] := by
  simp [failures]

/-- The failures that the breaker has counted are the last ones of its history, in one
trickle: each came within a window of the one before it. The error it remembers is the last
of these. -/
structure Counted (h : BreakerHistory) (c : Circuit) (pre : BreakerHistory) (ts : List Time) :
    Prop where
  split : h = pre ++ failures ts
  count : ts.length = c.failureCount
  trickle : Trickle ts
  last : ∀ t ∈ ts.getLast?, t = c.lastErrorTime

section Opening

variable {h pre : BreakerHistory} {c : Circuit} {ts : List Time} {now : Time}

theorem Counted.recordFailure (hc : Counted h c pre ts) :
    ∃ pre ts, Counted (h ++ [(now, .recordFailure)]) (c.recordFailure now) pre ts := by
  by_cases hgap : now - c.lastErrorTime > Circuit.WINDOW_PERIOD
  · -- counted again from this one
    refine ⟨h, [now], rfl, ?_, List.isChain_singleton _, ?_⟩
    · rw [Circuit.recordFailure_failureCount, if_pos hgap]
      rfl
    · rintro _ ⟨⟩
      rfl
  · refine ⟨pre, ts ++ [now], ?_, ?_, ?_, ?_⟩
    · rw [failures_snoc, hc.split, List.append_assoc]
    · rw [Circuit.recordFailure_failureCount, if_neg hgap, List.length_append, hc.count,
        List.length_singleton]
    · refine List.isChain_append.mpr ⟨hc.trickle, List.isChain_singleton _, fun s hs t ht => ?_⟩
      obtain rfl := Option.some.inj ht
      rw [hc.last s hs]
      exact not_lt.mp hgap
    · intro t ht
      rw [List.getLast?_append] at ht
      exact (Option.some.inj ht).symm

/-- Run: every history without checks leaves a trickle that is counted. -/
theorem counted_after (hh : ∀ x ∈ h, x.2 ≠ .checkCircuit) :
    ∃ pre ts, Counted h (Circuit.after {} h) pre ts := by
  induction h using List.reverseRecOn with
  | nil => exact ⟨[], [], rfl, rfl, List.isChain_nil, nofun⟩
  | append_singleton h x ih =>
      obtain ⟨pre, ts, hc⟩ := ih fun y hy => hh y (List.mem_append_left _ hy)
      obtain ⟨now, k⟩ := x
      rw [Circuit.after_append]
      cases k with
      | checkCircuit => exact absurd rfl (hh _ (List.mem_append_right _ (List.mem_singleton_self _)))
      | recordFailure => exact hc.recordFailure
      | recordSuccess =>
          exact ⟨h ++ [(now, .recordSuccess)], [], (List.append_nil _).symm, rfl,
            List.isChain_nil, nofun⟩

/-- A trickle is counted, and the breaker is open when it is long enough. -/
theorem after_failures (c : Circuit) (hts : Trickle ts) (hne : ts ≠ []) :
    ts.length ≤ (c.after (failures ts)).failureCount ∧
      ts.getLast? = some (c.after (failures ts)).lastErrorTime := by
  induction ts using List.reverseRecOn with
  | nil => exact absurd rfl hne
  | append_singleton ts t ih =>
      rw [failures_snoc, Circuit.after_append, List.getLast?_concat, List.length_append,
        List.length_singleton]
      change _ ≤ ((c.after (failures ts)).recordFailure t).failureCount ∧ _
      refine ⟨?_, rfl⟩
      obtain ⟨hfront, -, hstep⟩ := List.isChain_append.mp hts
      by_cases hnil : ts = []
      · subst hnil
        rw [Circuit.recordFailure_failureCount]
        exact Nat.le_add_left ..
      · obtain ⟨hlen, hlast⟩ := ih hfront hnil
        have hgap := hstep _ hlast t rfl
        rw [Circuit.recordFailure_failureCount, if_neg (not_lt.mpr hgap)]
        exact Nat.succ_le_succ hlen

theorem after_failures_open (c : Circuit) (hts : Trickle ts)
    (hlen : Circuit.FAILURE_THRESHOLD ≤ ts.length) : (c.after (failures ts)).state = .OPEN := by
  induction ts using List.reverseRecOn with
  | nil => cases hlen
  | append_singleton ts t _ =>
      obtain ⟨hcount, -⟩ := after_failures c hts (by simp)
      rw [failures_snoc, Circuit.after_append] at hcount ⊢
      change ((c.after (failures ts)).recordFailure t).state = .OPEN
      exact if_pos (Nat.le_trans hlen hcount)

theorem trickle_of_window {t : Time}
    (hts : ∀ s ∈ ts, t - Circuit.WINDOW_PERIOD ≤ s ∧ s ≤ t) : Trickle ts := by
  refine List.Pairwise.isChain (List.pairwise_of_forall_mem_list fun s hs s' hs' => ?_)
  have hlower := (hts s hs).1
  have hupper := (hts s' hs').2
  linarith

/-- **Opening**: the breaker opens on a trickle of failures only, and a window
with enough failures has it open. -/
theorem opening_trickle (h : BreakerHistory) (t : Time) (k : BreakerCall)
    (hordered : Ordered (h ++ [(t, k)])) (hcalls : ∀ x ∈ h ++ [(t, k)], x.2 ≠ .checkCircuit) :
    ((Circuit.after {} h).state = .CLOSED → (Circuit.after {} (h ++ [(t, k)])).state = .OPEN →
        EndsInTrickle (h ++ [(t, k)])) ∧
      (EndsInWindow t (h ++ [(t, k)]) → (Circuit.after {} (h ++ [(t, k)])).state = .OPEN) := by
  constructor
  · intro hclosed hopen
    obtain ⟨pre, ts, hc⟩ := counted_after hcalls
    refine ⟨pre, ts, hc.split, ?_, hc.trickle⟩
    rw [hc.count]
    rw [Circuit.after_append] at hopen ⊢
    cases k with
    | checkCircuit => exact absurd rfl (hcalls _ (List.mem_append_right _ (List.mem_singleton_self _)))
    | recordFailure =>
        exact (Circuit.recordFailure_open_iff (by rw [hclosed]; nofun)).mp hopen
    | recordSuccess => cases hopen
  · rintro ⟨pre, ts, hsplit, hlen, hts⟩
    rw [hsplit, Circuit.after_append]
    exact after_failures_open _ (trickle_of_window hts) hlen

end Opening

theorem opening_burst :
    (Circuit.after {} (failures [1, 2, 3, 4])).state = .CLOSED ∧
      EndsInTrickle (failures [1, 2, 3, 4] ++ [(5, .recordFailure)]) :=
  ⟨by decide, (opening_trickle (failures [1, 2, 3, 4]) 5 .recordFailure (by decide) (by decide)).1
    (by decide) (by decide)⟩

/-- Five failures in more than three minutes open the breaker. -/
theorem not_opening_window :
    ¬ ∀ (h : BreakerHistory) (t : Time) (k : BreakerCall), Ordered (h ++ [(t, k)]) →
      (∀ x ∈ h ++ [(t, k)], x.2 ≠ .checkCircuit) →
      ((Circuit.after {} h).state = .CLOSED → (Circuit.after {} (h ++ [(t, k)])).state = .OPEN →
          EndsInWindow t (h ++ [(t, k)])) ∧
        (EndsInWindow t (h ++ [(t, k)]) → (Circuit.after {} (h ++ [(t, k)])).state = .OPEN) := by
  intro h
  obtain ⟨pre, ts, hsplit, hlen, hts⟩ :=
    (h (failures [0, 50000, 100000, 150000]) 200000 .recordFailure (by decide) (by decide)).1
      (by decide) (by decide)
  -- all five are counted
  have hpre : pre.length = 0 := by
    have := congrArg List.length hsplit
    simp only [failures, List.length_append, List.length_map, List.length_cons,
      List.length_nil] at this
    simp only [Circuit.FAILURE_THRESHOLD] at hlen
    omega
  obtain rfl := List.eq_nil_of_length_eq_zero hpre
  have hmem : ((0 : Time), BreakerCall.recordFailure) ∈ failures ts := by
    rw [List.nil_append] at hsplit
    rw [← hsplit]
    exact List.mem_cons_self ..
  obtain ⟨s, hs, hfirst⟩ := List.mem_map.mp hmem
  obtain ⟨rfl, -⟩ := Prod.mk.inj hfirst
  have := (hts 0 hs).1
  revert this
  decide

/-! ## One attempt after another

A rejected attempt records nothing, so where no attempts overlap none that was let
through before a failure is left to succeed after it. -/

/-- An attempt: when the breaker is asked, when it is told of the outcome, which it
is only if the attempt is let through, and what the outcome is. -/
structure Attempt where
  start : Time
  finish : Time
  succeeds : Bool

def Attempt.outcome (a : Attempt) : Time × BreakerCall :=
  (a.finish, if a.succeeds then .recordSuccess else .recordFailure)

/-- The calls of attempts that do not overlap. -/
def Circuit.calls (c : Circuit) : List Attempt → BreakerHistory
  | [] => []
  | a :: attempts =>
      match c.check a.start with
      | (true, c') =>
          (a.start, .checkCircuit) :: a.outcome ::
            (c'.call a.outcome.1 a.outcome.2).calls attempts
      | (false, c') => (a.start, .checkCircuit) :: c'.calls attempts

section Attempts

variable {c : Circuit} {now : Time} {attempts : List Attempt}

theorem calls_cons (c : Circuit) (a : Attempt) (attempts : List Attempt) :
    ∃ rest, c.calls (a :: attempts) = (a.start, .checkCircuit) :: rest := by
  rw [Circuit.calls]
  split <;> exact ⟨_, rfl⟩

/-- Run: an attempt within the cooldown leaves the breaker as it is, so the next one
finds it open as well. -/
theorem rejects_calls (hopen : c.state = .OPEN) (hlast : now ≤ c.lastErrorTime)
    (hordered : Ordered (c.calls attempts)) : Rejects c now (c.calls attempts) := by
  induction attempts with
  | nil =>
      intro pre t post hsplit
      exact absurd hsplit.symm (List.append_ne_nil_of_right_ne_nil _ (List.cons_ne_nil _ _))
  | cons a attempts ih =>
      intro pre t' post hsplit ht'
      have hstart : a.start ≤ now + Circuit.COOLDOWN_PERIOD := by
        obtain ⟨rest, hrest⟩ := calls_cons c a attempts
        rw [hrest] at hsplit hordered
        cases pre with
        | nil =>
            obtain ⟨hx, -⟩ := List.cons.inj hsplit
            rw [(Prod.mk.inj hx).1]
            exact ht'
        | cons x pre =>
            obtain ⟨-, htail⟩ := List.cons.inj hsplit
            have hmem : (t', BreakerCall.checkCircuit) ∈ rest :=
              htail ▸ List.mem_append_right _ (List.mem_cons_self ..)
            exact Int.le_trans ((List.pairwise_cons.mp hordered).1 _ hmem) ht'
      have hrejected := Circuit.check_of_open hopen hlast hstart
      rw [Circuit.calls, hrejected] at hsplit hordered
      cases pre with
      | nil =>
          rw [Circuit.after_nil, Circuit.check_of_open hopen hlast ht']
      | cons x pre =>
          obtain ⟨hx, htail⟩ := List.cons.inj hsplit
          subst hx
          rw [Circuit.after_cons, Circuit.call, hrejected]
          exact ih (List.pairwise_cons.mp hordered).2 pre t' post htail ht'

/-- **Half-open**, for attempts that do not overlap: whatever becomes of the later
ones, the failure has the breaker open and every attempt within the cooldown
rejected when it comes within a window of the last error and enough failures are
counted. -/
theorem reopens_attempts (before : BreakerHistory) (now : Time) (attempts : List Attempt)
    (hordered : Ordered (((Circuit.after {} before).recordFailure now).calls attempts))
    (hhalf : (Circuit.after {} before).state = .HALF_OPEN) :
    (((Circuit.after {} before).recordFailure now).state = .OPEN ∧
        Rejects ((Circuit.after {} before).recordFailure now) now
          (((Circuit.after {} before).recordFailure now).calls attempts)) ↔
      now - (Circuit.after {} before).lastErrorTime ≤ Circuit.WINDOW_PERIOD ∧
        Circuit.FAILURE_THRESHOLD ≤ (Circuit.after {} before).failureCount + 1 := by
  have hclosed : (Circuit.after {} before).state ≠ .OPEN := by
    rw [hhalf]
    nofun
  rw [← Circuit.opens_iff hclosed]
  exact ⟨fun h => h.1, fun h => ⟨h, rejects_calls h (Int.le_refl _) hordered⟩⟩

end Attempts

/-! ## Since the breaker became half-open -/

def failureTimes (h : BreakerHistory) : List Time :=
  h.filterMap fun x => if x.2 = .recordFailure then some x.1 else none

section Since

variable {c : Circuit} {now t : Time} {ts : List Time}

theorem failureTimes_snoc (h : BreakerHistory) (x : Time × BreakerCall) :
    failureTimes (h ++ [x]) =
      failureTimes h ++ (if x.2 = .recordFailure then [x.1] else []) := by
  rw [failureTimes, List.filterMap_append]
  by_cases hx : x.2 = .recordFailure <;> simp [failureTimes, hx]

theorem le_of_mem_failureTimes {h : BreakerHistory} (hh : ∀ x ∈ h, t ≤ x.1) {s : Time}
    (hs : s ∈ failureTimes h) : t ≤ s := by
  obtain ⟨x, hx, hsome⟩ := List.mem_filterMap.mp hs
  split at hsome
  · obtain rfl := Option.some.inj hsome
    exact hh x hx
  · cases hsome

theorem after_eq_failures (h : BreakerHistory)
    (hhalf : ∀ p, p <+: h → (c.after p).state = .HALF_OPEN) :
    c.after h = c.after (failures (failureTimes h)) := by
  induction h using List.reverseRecOn with
  | nil => rfl
  | append_singleton h x ih =>
      have hbefore := hhalf h (List.prefix_append h [x])
      have hnow := hhalf (h ++ [x]) (List.prefix_refl _)
      have heq := ih fun p hp => hhalf p (hp.trans (List.prefix_append h [x]))
      obtain ⟨now, k⟩ := x
      rw [Circuit.after_append] at hnow ⊢
      rw [failureTimes_snoc]
      cases k with
      | checkCircuit =>
          rw [if_neg nofun, List.append_nil, ← heq]
          change ((c.after h).check now).2 = c.after h
          rw [Circuit.check, if_neg (by rw [hbefore]; nofun)]
      | recordFailure =>
          rw [if_pos rfl, failures_snoc, Circuit.after_append, ← heq]
      | recordSuccess => cases hnow

/-- Run: after a pause the count begins with the first failure. -/
theorem counted_failures (hgap : ∀ s ∈ ts, s - c.lastErrorTime > Circuit.WINDOW_PERIOD)
    (hne : ts ≠ []) : ∃ pre ts', Counted (failures ts) (c.after (failures ts)) pre ts' := by
  induction ts using List.reverseRecOn with
  | nil => exact absurd rfl hne
  | append_singleton ts s ih =>
      rw [failures_snoc, Circuit.after_append]
      by_cases hnil : ts = []
      · subst hnil
        refine ⟨[], [s], rfl, ?_, List.isChain_singleton _, ?_⟩
        · change [s].length = (c.recordFailure s).failureCount
          rw [Circuit.recordFailure_failureCount,
            if_pos (hgap s (List.mem_append_right _ (List.mem_singleton_self s)))]
          rfl
        · rintro _ ⟨⟩
          rfl
      · obtain ⟨pre, ts', hc⟩ := ih (fun s hs => hgap s (List.mem_append_left _ hs)) hnil
        exact hc.recordFailure

/-- **Half-open**, in terms of the failures alone: since the breaker let an attempt
through again, enough attempts have failed each soon after the one before, this one
the last of them. -/
theorem reopens_since (pre post : BreakerHistory) (t now : Time)
    (hordered : Ordered ((t, .checkCircuit) :: post ++ [(now, .recordFailure)]))
    (hopen : (Circuit.after {} pre).state = .OPEN)
    (hhalf : ∀ p, p <+: post →
      (Circuit.after {} (pre ++ (t, .checkCircuit) :: p)).state = .HALF_OPEN) :
    ((Circuit.after {} (pre ++ (t, .checkCircuit) :: post)).recordFailure now).state = .OPEN ↔
      EndsInTrickle (failures (failureTimes post) ++ [(now, .recordFailure)]) := by
  obtain ⟨c, hc⟩ : ∃ c, c = Circuit.after {} pre := ⟨_, rfl⟩
  simp only [Circuit.after_append, Circuit.after_cons, ← hc] at hopen hhalf ⊢
  -- the check let its attempt through, so the last error is long past
  obtain ⟨hcool, hlast⟩ : t - c.lastErrorTime > Circuit.COOLDOWN_PERIOD ∧
      (c.call t .checkCircuit).lastErrorTime = c.lastErrorTime := by
    have hpass : (c.check t).2.state = .HALF_OPEN := hhalf [] (List.nil_prefix ..)
    rw [Circuit.call]
    rw [Circuit.check, if_pos hopen] at hpass ⊢
    split at hpass
    · rename_i hcool
      rw [if_pos hcool]
      exact ⟨hcool, rfl⟩
    · rw [hopen] at hpass
      cases hpass
  have hlater : ∀ x ∈ post ++ [(now, BreakerCall.recordFailure)], t ≤ x.1 :=
    (List.pairwise_cons.mp hordered).1
  have hgap : ∀ s ∈ failureTimes post ++ [now],
      s - (c.call t .checkCircuit).lastErrorTime > Circuit.WINDOW_PERIOD := by
    intro s hs
    have hle : t ≤ s := by
      rcases List.mem_append.mp hs with hs | hs
      · exact le_of_mem_failureTimes (fun x hx => hlater x (List.mem_append_left _ hx)) hs
      · obtain rfl := List.mem_singleton.mp hs
        exact hlater _ (List.mem_append_right _ (List.mem_singleton_self _))
    have hlong : Circuit.WINDOW_PERIOD ≤ Circuit.COOLDOWN_PERIOD := by decide
    rw [hlast]
    linarith
  have hafter : ((c.call t .checkCircuit).after post).recordFailure now =
      (c.call t .checkCircuit).after (failures (failureTimes post ++ [now])) := by
    rw [after_eq_failures post hhalf, failures_snoc, Circuit.after_append]
    rfl
  rw [← failures_snoc]
  constructor
  · intro h
    obtain ⟨pre', ts, hcounted⟩ := counted_failures hgap (by simp)
    refine ⟨pre', ts, hcounted.split, ?_, hcounted.trickle⟩
    rw [hcounted.count, ← hafter]
    refine (Circuit.recordFailure_open_iff ?_).mp h
    rw [hhalf post (List.prefix_refl _)]
    nofun
  · rintro ⟨pre', ts, hsplit, hlen, hts⟩
    rw [hafter, hsplit, Circuit.after_append]
    exact after_failures_open _ hts hlen

end Since

/-! ## The calls of the program

In every interleaving of order creations the breaker is what its history makes
of it. -/

section Program

def Alone : TxCmd PayStmt → Prop
  | .stmt none _ => True
  | _ => False

theorem alone_ask (q : PayStmt) : (ask none q).All Alone := by
  refine ⟨trivial, fun r => ?_⟩
  cases r <;> trivial

variable {P : PayPlatform}

theorem alone_withTotal (booking : Booking) : (withTotal P booking).All Alone := by
  unfold withTotal
  split
  · refine (alone_ask _).bind fun count => (alone_ask _).bind fun shw => ?_
    cases shw with
    | none => trivial
    | some shw => exact (alone_ask _).bind fun _ => trivial
  · trivial

theorem alone_placeOrder (booking : Booking) (keyId : String) :
    (placeOrder P booking keyId).All Alone := by
  unfold placeOrder newOrder
  split
  · trivial
  · refine All.bind ?_ fun _ => (alone_ask _).bind fun _ => (alone_ask _).bind fun _ => trivial
    split
    · exact (alone_ask _).bind fun _ => trivial
    · exact alone_ask _

theorem alone_createRazorpayOrder (bookingId userId : String) :
    (createRazorpayOrder P bookingId userId).All Alone := by
  unfold createRazorpayOrder
  split
  · refine (alone_ask _).bind fun booking => ?_
    cases booking with
    | none => trivial
    | some booking =>
        have horderable : (checkOrderable booking userId).All Alone := by
          unfold checkOrderable
          refine (all_throwIf _ _ _).bind fun _ => (all_throwIf _ _ _).bind fun _ => ?_
          cases booking.expiresAt with
          | none => trivial
          | some expiresAt => exact (alone_ask _).bind fun _ => all_throwIf _ _ _
        refine horderable.bind fun _ => (alone_withTotal booking).bind fun booking => ?_
        refine (alone_ask _).bind fun _ => (all_throwIf _ _ _).bind fun _ => ?_
        refine (alone_placeOrder _ _).attempt.bind fun r => ?_
        cases r with
        | ok answer => trivial
        | error e => exact (alone_ask _).bind fun _ => trivial
  · trivial

def PayStmt.breakerCall? : PayStmt → Option BreakerCall
  | .checkCircuit => some .checkCircuit
  | .recordFailure => some .recordFailure
  | .recordSuccess => some .recordSuccess
  | _ => none

/-- The call of the breaker that an event makes, and the reading of the clock. -/
def breakerCall (e : PayEvent) : Option (Time × BreakerCall) :=
  match e.cmd with
  | .stmt none q => q.breakerCall?.map (e.before.data.clock, ·)
  | _ => none

def breakerHistory (hist : List PayEvent) : BreakerHistory := (hist.filterMap breakerCall).reverse

variable {c : Circuit} {s : PaySnap} {i : Nat} {op : PayOp} {q : PayStmt} {o : PayOracle}

theorem step_clock (s : PayStore) :
    (payDb.step (.stmt none q) o s).2.data.clock = s.data.clock := by
  have hwrite : ∀ (w : PayWrite) d, (payDb.apply w d).clock = d.clock := by
    intro w d
    cases w <;> rfl
  rcases step_data payDb (.stmt none q) o s with hd | ⟨q', hq', -, hd⟩ | ⟨ss, hss, -⟩
  · rw [hd]
  · rw [hd]
    exact applyAll_of_forall (I := fun d => d.clock = s.data.clock)
      (fun w _ d hd => (hwrite w d).trans hd) rfl
  · cases hss

theorem step_circuit (s : PayStore) :
    (payDb.step (.stmt none q) o s).2.data.circuit =
      q.breakerCall?.elim s.data.circuit (s.data.circuit.call s.data.clock) := by
  cases hq : q.breakerCall? with
  | some k => cases q <;> cases hq <;> rfl
  | none =>
      rcases step_data payDb (.stmt none q) o s with hd | ⟨q', hq', -, hd⟩ | ⟨ss, hss, -⟩
      · rw [hd]
        rfl
      · cases hq'
        rw [hd]
        refine applyAll_of_forall (I := fun d : PayData => d.circuit = s.data.circuit)
          (fun w hw d hd => ?_) rfl
        have hwrites := writes_exec hw
        cases w with
        | circuit c => cases q <;> first | exact absurd hq (Option.some_ne_none _) | cases hwrites
        | _ => exact hd
      · cases hss

/-- In a run the breaker is what its history makes of it, and the readings in the history do
not go back. -/
structure FollowsHistory (c : Circuit) (s : PaySnap) : Prop where
  circuit : s.world.data.circuit = c.after (breakerHistory s.hist)
  ordered : Ordered (breakerHistory s.hist)
  readings : ∀ x ∈ breakerHistory s.hist, x.1 ≤ s.world.data.clock

theorem FollowsHistory.exec (h : FollowsHistory c s) :
    FollowsHistory c (s.exec (payments P) i op (.stmt none q) o) := by
  have hclock : (s.exec (payments P) i op (.stmt none q) o).world.data.clock =
      s.world.data.clock := step_clock s.world
  have hcircuit : (s.exec (payments P) i op (.stmt none q) o).world.data.circuit = _ :=
    step_circuit s.world
  have hnew : breakerHistory (s.exec (payments P) i op (.stmt none q) o).hist =
      breakerHistory s.hist ++ (q.breakerCall?.map (s.world.data.clock, ·)).toList := by
    have hcall : breakerCall (⟨i, op, .stmt none q, o, s.world⟩ : PayEvent) =
        q.breakerCall?.map (s.world.data.clock, ·) := rfl
    rw [Snap.exec_hist, breakerHistory, List.filterMap_cons, hcall]
    cases q.breakerCall? with
    | none => exact (List.append_nil _).symm
    | some k => exact List.reverse_cons
  cases hq : q.breakerCall? with
  | none =>
      rw [hq] at hcircuit hnew
      rw [Option.map_none, Option.toList_none, List.append_nil] at hnew
      exact ⟨by rw [hcircuit, hnew]; exact h.circuit, by rw [hnew]; exact h.ordered,
        by rw [hnew, hclock]; exact h.readings⟩
  | some k =>
      rw [hq] at hcircuit hnew
      rw [Option.map_some, Option.toList_some] at hnew
      refine ⟨?_, ?_, ?_⟩
      · rw [hcircuit, hnew, Circuit.after_append, ← h.circuit]
        rfl
      · rw [hnew]
        refine List.pairwise_append.mpr ⟨h.ordered, List.pairwise_singleton _ _, ?_⟩
        intro x hx y hy
        obtain rfl := List.mem_singleton.mp hy
        exact h.readings x hx
      · rw [hnew, hclock]
        intro x hx
        rcases List.mem_append.mp hx with hx | hx
        · exact h.readings x hx
        · obtain rfl := List.mem_singleton.mp hx
          exact Int.le_refl _

theorem FollowsHistory.env (h : FollowsHistory c s) (e : DbEnv PayMove) :
    FollowsHistory c (s.env (payments P) e) := by
  cases e with
  | data m =>
      cases m with
      | tick t =>
          exact ⟨h.circuit, h.ordered, fun x hx => Int.le_trans (h.readings x hx) (Int.le_max_left ..)⟩
      | payment p => exact ⟨h.circuit, h.ordered, h.readings⟩
  | abort tx => exact ⟨h.circuit, h.ordered, h.readings⟩

/-- **Histories**: in every run of order creations the breaker is what its
history makes of it, and the clock does not go back. -/
theorem followsHistory_run (P : PayPlatform) (d : PayData) (ls : List PayLabel)
    (hls : ∀ op, .spawn op ∈ ls → op.createsOrder = true) :
    FollowsHistory d.circuit ((Config.idle (.idle d)).run (payments P) ls).toSnap := by
  have hidle : FollowsHistory d.circuit (⟨Store.idle d, []⟩ : PaySnap) :=
    ⟨rfl, List.Pairwise.nil, fun _ hx => absurd hx List.not_mem_nil⟩
  refine Config.run_snap_of_all (I := FollowsHistory d.circuit) (P := Alone)
    (fun op (hop : op.createsOrder = true) => ?_) (fun s i op c o hc h => ?_)
    (fun s e h => h.env e) (fun th hth => absurd hth List.not_mem_nil) hidle hls
  · cases op with
    | createRazorpayOrder bookingId userId =>
        exact (alone_createRazorpayOrder bookingId userId).bind fun _ => trivial
    | _ => cases hop
  · cases c with
    | stmt tx q =>
        cases tx with
        | none => exact h.exec
        | some tx => cases hc
    | _ => cases hc

end Program

end Omnipax.Payments
