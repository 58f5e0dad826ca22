/-!
# Work queues

A queue of jobs with one worker. Jobs are accepted until the queue is closed and are worked on one
at a time in the order of acceptance. Once the queue is stopping, jobs that wait are dropped instead
of run. The counters say how many jobs were accepted, run to the end and dropped.
-/

namespace Switchboard

structure QueueStats where
  submitted : Nat := 0
  executed : Nat := 0
  discarded : Nat := 0
  deriving DecidableEq, Repr, Inhabited

namespace QueueStats

/-- Jobs accepted and neither run nor dropped so far, at least zero. -/
def pending (s : QueueStats) : Nat := s.submitted - s.executed - s.discarded

def summary (s : QueueStats) : String :=
  "SerializerStatsSnapshot \x7b submitted: " ++ toString s.submitted ++ ", executed: "
    ++ toString s.executed ++ ", discarded: " ++ toString s.discarded ++ " \x7d"

end QueueStats

/-- What the worker is doing. -/
inductive WorkerState (J : Type) where
  | idle
  | running (job : J)
  | dropping (job : J)
  | gone
  deriving DecidableEq, Repr

structure WorkQueue (J : Type) where
  waiting : List J := []
  worker : WorkerState J := .idle
  stats : QueueStats := {}
  stopping : Bool := false
  closed : Bool := false
  /-- Whether someone has taken it on to wait for the worker. -/
  claimed : Bool := false
  deriving DecidableEq, Repr, Inhabited

namespace WorkQueue

variable {J : Type}

/-- A closed queue accepts nothing. -/
def accept? (q : WorkQueue J) (job : J) : Option (WorkQueue J) :=
  if q.closed then none
  else some
    { q with
      waiting := q.waiting ++ [job]
      stats := { q.stats with submitted := q.stats.submitted + 1 } }

theorem accept?_eq_none_iff {q : WorkQueue J} {job : J} :
    q.accept? job = none ↔ q.closed = true := by
  unfold accept?
  split <;> simp_all

theorem eq_of_accept? {q q' : WorkQueue J} {job : J} (h : q.accept? job = some q') :
    q.closed = false ∧
      q' = { q with
        waiting := q.waiting ++ [job]
        stats := { q.stats with submitted := q.stats.submitted + 1 } } := by
  unfold accept? at h
  split at h
  · cases h
  · next hc => cases h; exact ⟨by simpa using hc, rfl⟩

/-- The idle worker turns to the next job, to run it or, when the queue is stopping, to drop it.
With nothing left in a closed queue the worker goes; with nothing left in an open one it waits. -/
def next? (q : WorkQueue J) : Option (WorkQueue J) :=
  match q.worker, q.waiting with
  | .idle, job :: rest =>
    some { q with
      waiting := rest
      worker := if q.stopping then .dropping job else .running job }
  | .idle, [] => if q.closed then some { q with worker := .gone } else none
  | _, _ => none

/-- The worker is done with its job. -/
def finish (q : WorkQueue J) : WorkQueue J :=
  match q.worker with
  | .running _ =>
    { q with worker := .idle, stats := { q.stats with executed := q.stats.executed + 1 } }
  | .dropping _ =>
    { q with worker := .idle, stats := { q.stats with discarded := q.stats.discarded + 1 } }
  | _ => q

def stop (q : WorkQueue J) : WorkQueue J := { q with stopping := true }

def close (q : WorkQueue J) : WorkQueue J := { q with closed := true }

def claim (q : WorkQueue J) : WorkQueue J := { q with claimed := true }

def isGone (q : WorkQueue J) : Bool :=
  match q.worker with
  | .gone => true
  | _ => false

/-! ## What each change leaves alone -/

@[simp] theorem waiting_finish (q : WorkQueue J) : q.finish.waiting = q.waiting := by
  unfold finish; split <;> rfl

@[simp] theorem waiting_stop (q : WorkQueue J) : q.stop.waiting = q.waiting := rfl

@[simp] theorem waiting_close (q : WorkQueue J) : q.close.waiting = q.waiting := rfl

@[simp] theorem waiting_claim (q : WorkQueue J) : q.claim.waiting = q.waiting := rfl

@[simp] theorem closed_finish (q : WorkQueue J) : q.finish.closed = q.closed := by
  unfold finish; split <;> rfl

@[simp] theorem stopping_finish (q : WorkQueue J) : q.finish.stopping = q.stopping := by
  unfold finish; split <;> rfl

@[simp] theorem closed_stop (q : WorkQueue J) : q.stop.closed = q.closed := rfl

@[simp] theorem closed_close (q : WorkQueue J) : q.close.closed = true := rfl

@[simp] theorem closed_claim (q : WorkQueue J) : q.claim.closed = q.closed := rfl

@[simp] theorem isGone_finish (q : WorkQueue J) : q.finish.isGone = q.isGone := by
  unfold finish
  split
  · next h => simp [isGone, h]
  · next h => simp [isGone, h]
  · rfl

@[simp] theorem isGone_stop (q : WorkQueue J) : q.stop.isGone = q.isGone := rfl

@[simp] theorem isGone_close (q : WorkQueue J) : q.close.isGone = q.isGone := rfl

@[simp] theorem isGone_claim (q : WorkQueue J) : q.claim.isGone = q.isGone := rfl

/-- The queue in one line, given its quoted name. -/
def summary (name : String) (stats : QueueStats) (stopping : Bool) : String :=
  "Serializer \x7b name: " ++ name ++ ", stats: " ++ stats.summary ++ ", stopping: "
    ++ toString stopping ++ " \x7d"

end WorkQueue

end Switchboard
