import Switchboard.Crew
import Switchboard.Hook
import Switchboard.Operation
import Switchboard.WorkQueue

/-!
# The exchange

Any number of callers share one transport. Operations go through a queue whose worker carries them
out one at a time; listening is switched on and off by the caller itself. Whoever calls the
transport has to hold it, and events emitted meanwhile are kept back until the transport is free
again, so that the code outside never runs while its own thread holds the transport.

The code outside is given by `Outside`: what sinks do with a signal and what callers do next. It
speaks to the exchange by requests, and it knows its own places by cues. One act of `execute` is one
atomic step, so the exchange is a crew: member `0` is the worker, the others are callers.
-/

namespace Switchboard

structure Task (τ : Type) where
  session : SessionName
  operation : Operation Listener
  /-- Where the outcome is reported. -/
  back : τ

/-- What the code outside may see of the exchange. -/
structure View where
  network : Network
  closed : Bool := false
  stats : QueueStats := {}
  stopping : Bool := false
  /-- Whether the caller itself is inside a call to the transport. -/
  calling : Bool := false

/-- The exchange in one line, given the quoted name of its queue. -/
def View.summary (name : String) (v : View) : String :=
  "Router \x7b serializer: " ++ WorkQueue.summary name v.stats v.stopping ++ ", closed: "
    ++ toString v.closed ++ " \x7d"

/-- What the code outside may ask for. The cue says where to go on afterwards. -/
inductive Request (τ : Type) where
  | submit (task : Task τ)
  | listen (session : SessionName) (service : String) (listener : Listener)
      (options : ListeningOptions) (back : τ)
  | unlisten (session : SessionName) (back : τ)
  | shutdown (back : τ)
  | hook (hook : Hook)
  | turn (cue : τ)

/-- The code outside, with a state of its own. -/
structure Outside (τ υ : Type) where
  onSignal : SinkId → Signal → View → υ → υ × List (Request τ)
  onTurn : τ → Option Status → View → υ → υ × List (Request τ)

/-- What someone holds the transport for. -/
inductive Errand (τ : Type) where
  | operation (task : Task τ)
  | listen (session : SessionName) (service : String) (listener : Listener)
      (options : ListeningOptions) (back : τ)
  | unlisten (session : SessionName) (back : τ)
  | stop (back : τ)

inductive Act (τ : Type) where
  | request (request : Request τ)
  /-- An operation on its way into the queue: the exchange must not be shut down, the queue must
  not be stopping, and the queue must not be closed. -/
  | route (task : Task τ)
  | offer (task : Task τ)
  | enqueue (task : Task τ)
  /-- Waits for the transport. -/
  | enter (errand : Errand τ)
  /-- Holds the transport, with the rest of the plan and the events kept back so far. -/
  | inside (errand : Errand τ) (plan : Job Status) (held : List Emission)
  | deliver (emission : Emission)
  /-- Reports the outcome of an operation that went through the queue. -/
  | complete (back : τ) (status : Status)
  /-- Returns from a request that the caller waits for. -/
  | resume (back : τ) (status : Option Status)
  /-- The worker turns to the next job. -/
  | work
  /-- The worker is done with its job. -/
  | finish
  /-- The rest of a shutdown once the transport has stopped. -/
  | stopQueue (back : τ)
  | closeQueue (back : τ)
  | claimWorker (back : τ)
  | join (back : τ)

structure Desk (τ υ : Type) where
  network : Network := {}
  closed : Bool := false
  queue : WorkQueue (Task τ) := {}
  /-- Who holds the transport. -/
  holder : Option Nat := none
  outside : υ

namespace Errand

variable {τ : Type}

def plan : Errand τ → Job Status
  | operation t => t.operation.body t.session
  | listen s service l options _ => Transport.startListening s service l options
  | unlisten s _ => do
    Transport.stopListening s
    return .success
  | stop _ => do
    Transport.stop
    return .success

/-- Only stopping goes ahead on an exchange that has been shut down. -/
def needsOpen : Errand τ → Bool
  | stop _ => false
  | _ => true

/-- What follows the errand once its events are delivered. -/
def after (status : Status) : Errand τ → List (Act τ)
  | operation t => [.complete t.back status]
  | listen _ _ _ _ back => [.resume back (some status)]
  | unlisten _ back => [.resume back none]
  | stop back => [.stopQueue back]

end Errand

namespace Exchange

variable {τ υ : Type}

def worker : Nat := 0

def view (d : Desk τ υ) : View :=
  { network := d.network, closed := d.closed, stats := d.queue.stats,
    stopping := d.queue.stopping }

/-- Lets the code outside run and lines up what it asks for. -/
def consult (d : Desk τ υ) (f : View → υ → υ × List (Request τ)) : Desk τ υ × List (Act τ) :=
  let (outside, requests) := f (view d) d.outside
  ({ d with outside := outside }, requests.map .request)

def ask (d : Desk τ υ) : Request τ → Desk τ υ × List (Act τ)
  | .submit t =>
    let session := t.operation.prepare (d.network.session t.session)
    ({ d with network := d.network.setSession t.session session }, [.route t])
  | .listen s service l options back => (d, [.enter (.listen s service l options back)])
  | .unlisten s back => (d, [.enter (.unlisten s back)])
  | .shutdown back =>
    if d.closed then (d, [.resume back none])
    else ({ d with closed := true }, [.enter (.stop back)])
  | .hook h =>
    let (network, emitted) := h.apply d.network
    ({ d with network := network }, emitted.map .deliver)
  | .turn _ => (d, [])

/-- One step of the holder of the transport. -/
def advance (d : Desk τ υ) (e : Errand τ) (held : List Emission) :
    Job Status → Option (Desk τ υ × List (Act τ))
  | .done status => some ({ d with holder := none }, held.map .deliver ++ e.after status)
  | .look next => some (d, [.inside e (next d.network) held])
  | .act change next =>
    let (network, emitted) := change d.network
    some ({ d with network := network }, [.inside e next (held ++ emitted)])
  | .await ready next => if ready d.network then some (d, [.inside e next held]) else none

def execute (o : Outside τ υ) : Execution (Desk τ υ) (Act τ)
  | _, .request (.turn cue), d => some (consult d (o.onTurn cue none))
  | _, .request r, d => some (ask d r)
  | _, .route t, d =>
    some (d, [if d.closed then .complete t.back .error else .offer t])
  | _, .offer t, d =>
    some (d, [if d.queue.stopping then .complete t.back .error else .enqueue t])
  | _, .enqueue t, d =>
    match d.queue.accept? t with
    | some queue => some ({ d with queue := queue }, [])
    | none => some (d, [.complete t.back .error])
  | me, .enter e, d =>
    if d.holder.isSome then none
    else if e.needsOpen && d.closed then some (d, e.after .error)
    else some ({ d with holder := some me }, [.inside e e.plan []])
  | _, .inside e plan held, d => advance d e held plan
  | _, .deliver m, d =>
    match m.listener.sink with
    | some sink => some (consult d (o.onSignal sink m.signal))
    | none => some (d, [])
  | _, .complete back status, d => some (consult d (o.onTurn back (some status)))
  | _, .resume back status, d => some (consult d (o.onTurn back status))
  | _, .work, d =>
    match d.queue.next? with
    | none => none
    | some queue =>
      some ({ d with queue := queue },
        match queue.worker with
        | .running t => [.enter (.operation t), .finish, .work]
        | .dropping t => [.complete t.back .error, .finish, .work]
        | _ => [])
  | _, .finish, d => some ({ d with queue := d.queue.finish }, [])
  | _, .stopQueue back, d => some ({ d with queue := d.queue.stop }, [.closeQueue back])
  | _, .closeQueue back, d => some ({ d with queue := d.queue.close }, [.claimWorker back])
  | me, .claimWorker back, d =>
    if d.queue.claimed then some (d, [.resume back none])
    else some ({ d with queue := d.queue.claim },
      [if me = worker then .resume back none else .join back])
  | _, .join back, d => if d.queue.isGone then some (d, [.resume back none]) else none

/-- An exchange at the start, with the given number of callers. -/
def start (network : Network) (outside : υ) (callers : Nat) : Crew (Desk τ υ) (Act τ) :=
  { shared := { network := network, outside := outside }
    agendas := [.work] :: List.replicate callers [] }

end Exchange

end Switchboard
