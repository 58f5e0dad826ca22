import Switchboard.Crew
import Switchboard.WorkQueue

/-!
# Work queues in use

One worker and any number of callers share a work queue. What a job does when it is run, what
happens when it is dropped unrun, and how whoever asks for something goes on with the answer is the
code outside, given by `Code`. That code may submit further jobs, shut the queue down and wait, on
the worker as on any other thread. One act of `execute` is one atomic step, so the service is a
crew: member `0` is the worker, the others are callers.
-/

namespace Switchboard

namespace WorkQueue

variable {J : Type}

/-- A job for a worker that is gone counts as accepted and dropped. -/
def lose (q : WorkQueue J) : WorkQueue J :=
  { q with
    stats := { q.stats with
      submitted := q.stats.submitted + 1, discarded := q.stats.discarded + 1 } }

end WorkQueue

namespace Service

/-- What the code outside may see of the queue. -/
structure Sight where
  stats : QueueStats
  stopping : Bool
  /-- Whether the code runs on the worker. -/
  onWorker : Bool
  deriving DecidableEq, Repr

/-- What the code outside may ask for. The place says where to go on afterwards. -/
inductive Ask (J τ : Type) where
  | submit (job : J) (back : τ)
  | shutdown (back : τ)
  /-- Goes on at a place once that is ready. -/
  | turn (place : τ)
  deriving DecidableEq

/-- The code outside, with a state of its own. -/
structure Code (J τ υ : Type) where
  onRun : J → Sight → υ → υ × List (Ask J τ)
  onDrop : J → Sight → υ → υ × List (Ask J τ)
  /-- The answer says whether a job was accepted. -/
  onTurn : τ → Option Bool → Sight → υ → υ × List (Ask J τ)
  ready : τ → υ → Bool

structure Desk (J υ : Type) where
  queue : WorkQueue J := {}
  outside : υ

inductive Act (J τ : Type) where
  | ask (ask : Ask J τ)
  /-- A job that came when the queue was not stopping. -/
  | offer (job : J) (back : τ)
  | refuse (job : J) (back : τ)
  | answer (job : J) (back : τ) (accepted : Bool)
  /-- The worker turns to the next job. -/
  | work
  /-- The worker is done with its job. -/
  | finish
  -- the rest of a shutdown
  | close (back : τ)
  | claim (back : τ)
  | join (back : τ)
  | done (back : τ)
  deriving DecidableEq

variable {J τ υ : Type}

def worker : Nat := 0

def sight (me : Nat) (d : Desk J υ) : Sight :=
  { stats := d.queue.stats, stopping := d.queue.stopping, onWorker := me == worker }

/-- Lets the code outside run and lines up what it asks for, before what follows. -/
def consult (me : Nat) (d : Desk J υ) (f : Sight → υ → υ × List (Ask J τ)) (next : List (Act J τ)) :
    Desk J υ × List (Act J τ) :=
  let (outside, asks) := f (sight me d) d.outside
  ({ d with outside := outside }, asks.map .ask ++ next)

/-- What the worker does about the job that it has in hand. -/
def tackle (c : Code J τ υ) (me : Nat) (d : Desk J υ) : Desk J υ × List (Act J τ) :=
  match d.queue.worker with
  | .running job => consult me d (c.onRun job) [.finish, .work]
  | .dropping job => consult me d (c.onDrop job) [.finish, .work]
  | _ => (d, [])

def execute (c : Code J τ υ) : Execution (Desk J υ) (Act J τ)
  | _, .ask (.submit job back), d =>
    some (d, [if d.queue.stopping then .refuse job back else .offer job back])
  | _, .ask (.shutdown back), d => some ({ d with queue := d.queue.stop }, [.close back])
  | me, .ask (.turn place), d =>
    if c.ready place d.outside then some (consult me d (c.onTurn place none) []) else none
  | _, .offer job back, d =>
    match d.queue.accept? job with
    | none => some (d, [.refuse job back])
    | some queue =>
      if d.queue.isGone then some ({ d with queue := d.queue.lose }, [.refuse job back])
      else some ({ d with queue := queue }, [.answer job back true])
  | me, .refuse job back, d => some (consult me d (c.onDrop job) [.answer job back false])
  | me, .answer _ back accepted, d => some (consult me d (c.onTurn back (some accepted)) [])
  | me, .work, d => d.queue.next?.map fun queue => tackle c me { d with queue := queue }
  | _, .finish, d => some ({ d with queue := d.queue.finish }, [])
  | _, .close back, d => some ({ d with queue := d.queue.close }, [.claim back])
  | me, .claim back, d =>
    if d.queue.claimed then some (d, [.done back])
    else
      -- the worker cannot wait for itself
      some ({ d with queue := d.queue.claim }, [if me = worker then .done back else .join back])
  | _, .join back, d => if d.queue.isGone then some (d, [.done back]) else none
  | me, .done back, d => some (consult me d (c.onTurn back none) [])

/-- A queue nobody has used yet, and its callers. -/
def start (outside : υ) (callers : Nat) : Crew (Desk J υ) (Act J τ) :=
  { shared := { outside := outside }, agendas := [.work] :: List.replicate callers [] }

end Service

end Switchboard
