import Omnipax.Conc.Crash
import Omnipax.Live
import Omnipax.Sample

/-!
# The booking-expiry worker

The queue keeps a job delayed or waiting until a worker takes it; then the
job is active, under the worker's lock, until the worker has completed it
(`removeOnComplete`) or failed it. A job whose worker has gone silent is
stalled: the first time it waits again, the second time it has failed. A
failed job is not tried again.

Here a process may stop after any of its commands, every reading of a clock
may be off by any amount, and any call to a service may fail as before.
-/

namespace Omnipax

open Conc Prog

/-! ## The queue -/

/-- A job a worker holds, under the token of its lock. -/
structure ActiveJob where
  job : Job BookingExpiryJobData
  token : String
deriving Repr, DecidableEq

/-- The core with the state of the queue: `bookingExpiryQueue` holds the
delayed and the waiting jobs. -/
structure ExpiryWorld extends World where
  active : List ActiveJob
  stalled : List String

/-- What a worker asks of the queue. -/
inductive QueueCmd where
  | moveToActive (jobId : String)
  | moveToCompleted (jobId token : String)
  | moveToFailed (jobId token : String)
  | moveStalledJobsToWait (jobId : String)

abbrev QueueCmd.Ret : QueueCmd → Type
  | .moveToActive _ => Option ActiveJob
  | .moveToCompleted .. => Unit
  | .moveToFailed .. => Unit
  | .moveStalledJobsToWait _ => Unit

abbrev queueSig : Sig := ⟨QueueCmd, fun c => Except StepError c.Ret⟩

/-- The oracle of a step of a process: how far its clock is off, and whether
it stops after the step. -/
structure ExpiryOracle extends Oracle where
  skew : Int := 0
  stop : Bool := false
deriving Repr, DecidableEq

namespace ExpiryWorld

def init (clock : Time) (catalog : Catalog) : ExpiryWorld where
  toWorld := .init clock catalog
  active := []
  stalled := []

/-- The job is out of the queue, if it is held under this token. -/
def release (w : ExpiryWorld) (jobId token : String) : ExpiryWorld :=
  { w with active := w.active.filter fun a => !(a.job.jobId == jobId && a.token == token) }

/-- A worker takes a waiting job, or a delayed one whose time has come. -/
def takeJob (w : ExpiryWorld) (jobId token : String) (now : Time) :
    Option ActiveJob × ExpiryWorld :=
  match w.bookingExpiryQueue.find? fun j => j.jobId == jobId && decide (j.dueAt ≤ now) with
  | none => (none, w)
  | some j =>
      (some ⟨j, token⟩, { w with
        bookingExpiryQueue := w.bookingExpiryQueue.erase j
        active := w.active ++ [⟨j, token⟩] })

/-- `maxStalledCount` is 1: a job waits again once. -/
def stall (w : ExpiryWorld) (jobId : String) : ExpiryWorld :=
  if w.stalled.contains jobId then
    { w with active := w.active.filter (·.job.jobId != jobId) }
  else
    { w with
      bookingExpiryQueue := w.bookingExpiryQueue ++
        (w.active.filter (·.job.jobId == jobId)).map (·.job)
      active := w.active.filter (·.job.jobId != jobId)
      stalled := jobId :: w.stalled }

end ExpiryWorld

def QueueCmd.perform (o : ExpiryOracle) (w : ExpiryWorld) :
    (c : QueueCmd) → c.Ret × ExpiryWorld
  | .moveToActive jobId => w.takeJob jobId o.fresh (w.clock + o.skew)
  | .moveToCompleted jobId token => ((), w.release jobId token)
  | .moveToFailed jobId token => ((), w.release jobId token)
  | .moveStalledJobsToWait jobId => ((), w.stall jobId)

def QueueCmd.exec (c : QueueCmd) (o : ExpiryOracle) (w : ExpiryWorld) :
    Except StepError c.Ret × ExpiryWorld :=
  match o.fault with
  | none => (.ok (c.perform o w).1, (c.perform o w).2)
  | some .before => (.error .unavailable, w)
  | some .after => (.error .unavailable, (c.perform o w).2)

/-- A command of the core, on a clock that may be off. -/
def coreExec (P : Platform) (c : Cmd) (o : ExpiryOracle) (w : ExpiryWorld) :
    Except StepError c.Ret × ExpiryWorld :=
  match c with
  | .dateNow => (.ok (w.clock + o.skew), w)
  | c => ((exec P c o.toOracle w.toWorld).1,
      { w with toWorld := (exec P c o.toOracle w.toWorld).2 })

/-! ## The worker -/

abbrev workerSig : Sig := sig.sum queueSig

abbrev WorkerM := Prog workerSig Exn

def awaitQueue (c : QueueCmd) : WorkerM c.Ret :=
  .call (.inr c) fun
    | .ok a => .ret a
    | .error e => .err (.step e)

/-- `BookingExpiryProcessor.process` -/
def process (name : String) (data : BookingExpiryJobData) : M Unit :=
  if name != "expire" then return ()
  else expirePendingBooking data.bookingId

/-- A worker takes a job, has it processed, and completes or fails it. Jobs
are added to this queue under the name `expire` only. -/
def work (jobId : String) : WorkerM Unit := do
  match ← awaitQueue (.moveToActive jobId) with
  | none => return ()
  | some held => do
      match ← ((process "expire" held.job.data).left queueSig).attempt with
      | .ok _ => awaitQueue (.moveToCompleted held.job.jobId held.token)
      | .error _ => awaitQueue (.moveToFailed held.job.jobId held.token)

/-! ## The system -/

/-- A call of the core, a worker that takes a job, or a check for a stalled
one. -/
inductive ExpiryOp where
  | call (op : Op)
  | work (jobId : String)
  | checkStalled (jobId : String)

abbrev ExpirySystem :=
  System workerSig.crash ExpiryWorld ExpiryOracle Time Empty (Ending Exn Answer) ExpiryOp
abbrev ExpirySnap := Snap workerSig.crash ExpiryWorld ExpiryOracle ExpiryOp
abbrev ExpiryEvent := Conc.Event workerSig.crash ExpiryWorld ExpiryOracle ExpiryOp
abbrev ExpiryConfig := Config workerSig.crash ExpiryWorld ExpiryOracle Empty (Ending Exn Answer) ExpiryOp
abbrev ExpiryLabel := Label ExpiryOracle Time ExpiryOp
abbrev ExpiryOutline := Outline workerSig.crash ExpiryWorld ExpiryOracle ExpiryOp

def expiryExec (P : Platform) :
    (c : workerSig.Cmd) → ExpiryOracle → ExpiryWorld → workerSig.crash.Resp c × ExpiryWorld
  | .inl c, o, w => (if o.stop then none else some (coreExec P c o w).1, (coreExec P c o w).2)
  | .inr c, o, w => (if o.stop then none else some (c.exec o w).1, (c.exec o w).2)

def ExpiryOp.body (P : Platform) : ExpiryOp → WorkerM Answer
  | .call op => (op.body P).left queueSig
  | .work jobId => (fun _ => .done) <$> Omnipax.work jobId
  | .checkStalled jobId => (fun _ => .done) <$> awaitQueue (.moveStalledJobsToWait jobId)

def expiry (P : Platform) : ExpirySystem where
  exec := expiryExec P
  env t w := { w with toWorld := w.tick t }
  body op := (op.body P).crash Empty

end Omnipax
