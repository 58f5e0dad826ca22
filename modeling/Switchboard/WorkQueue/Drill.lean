import Switchboard.WorkQueue.Service

/-!
# Drills

A work queue with jobs that tell what happens to them. A job may submit further jobs, shut the queue
down itself, or stand still until it is released. One caller goes through the steps of the drill; a
second one shuts the queue down while the worker stands still.
-/

namespace Switchboard.Drill

structure Trait where
  tag : String
  /-- Tells which thread it runs on. -/
  tellsThread : Bool := false
  shutsDown : Bool := false
  deriving DecidableEq, Repr

inductive Order where
  | mk (trait : Trait) (nested : List Order)

def Order.trait : Order → Trait
  | mk trait _ => trait

def Order.tag (o : Order) : String := o.trait.tag

def Order.nested : Order → List Order
  | mk _ nested => nested

/-- An order in the queue, and whether it stands still when it runs. -/
structure Job where
  order : Order
  waits : Bool := false

inductive Note where
  | ran (tag : String)
  | onWorker
  | nested (tag : String) (accepted : Bool)
  | dropped (tag : String)
  deriving DecidableEq, Repr

inductive Result where
  | nothing
  | accepted (answer : Bool)
  | text (text : String)
  | skipped
  deriving DecidableEq, Repr

structure Board where
  notes : List Note := []
  result : Result := .nothing
  /-- Whether a job was told to stand still and has not been released. -/
  held : Bool := false

def Board.note (b : Board) (n : Note) : Board := { b with notes := b.notes ++ [n] }

inductive Place where
  /-- The step of the drill that submits a job. -/
  | driver
  /-- A job that has submitted the job of that tag. -/
  | nested (tag : String)
  | release
  | shutdown
  deriving DecidableEq, Repr

def onRun (job : Job) (sight : Service.Sight) (b : Board) : Board × List (Service.Ask Job Place) :=
  let trait := job.order.trait
  let b := b.note (.ran trait.tag)
  (if trait.tellsThread && sight.onWorker then b.note .onWorker else b,
    (if job.waits then [.turn .release] else [])
      ++ (if trait.shutsDown then [.shutdown .shutdown] else [])
      ++ job.order.nested.map (fun o => .submit ⟨o, false⟩ (.nested o.tag)))

def onTurn (p : Place) (answer : Option Bool) (b : Board) : Board :=
  match p, answer with
  | .driver, some accepted => { b with result := .accepted accepted }
  | .nested tag, some accepted => b.note (.nested tag accepted)
  | _, _ => b

def code : Service.Code Job Place Board where
  onRun := onRun
  onDrop job _ b := (b.note (.dropped job.order.tag), [])
  onTurn p answer _ b := (onTurn p answer b, [])
  ready p b := p != .release || !b.held

/-! ## Steps -/

inductive Step where
  | submit (order : Order) (waits : Bool)
  | shutdown
  | summary
  | release

structure Report where
  result : Result
  notes : List Note
  stats : QueueStats
  stopping : Bool

abbrev Team := Crew (Service.Desk Job Board) (Service.Act Job Place)

namespace Team

/-- No drill comes near this many acts. -/
def patience : Nat := 1000000000

def settle (t : Team) : Team :=
  Crew.settle (Service.execute code) [1, 2, Service.worker] patience t

def board (t : Team) : Board := t.shared.outside

def queue (t : Team) : WorkQueue Job := t.shared.queue

def onBoard (t : Team) (f : Board → Board) : Team :=
  { t with shared := { t.shared with outside := f t.board } }

def ask (t : Team) (member : Nat) (a : Service.Ask Job Place) : Team :=
  settle (t.assign member [.ask a])

def report (t : Team) : Report :=
  { result := t.board.result
    notes := t.board.notes
    stats := t.queue.stats
    stopping := t.queue.stopping }

/-- Goes on to a step; `name` is the quoted name of the queue. Only one job at a time is told to
stand still, and only while the queue takes jobs. -/
def perform (t : Team) (name : String) : Step → Team
  | .submit order waits =>
    let waits := waits && !t.board.held && !t.queue.stopping
    let t := if waits then t.onBoard ({ · with held := true }) else t
    t.ask 1 (.submit ⟨order, waits⟩ .driver)
  | .shutdown =>
    if !t.board.held then t.ask 1 (.shutdown .shutdown)
    else if t.queue.stopping then t.onBoard ({ · with result := .skipped })
    else t.ask 2 (.shutdown .shutdown)
  | .summary =>
    t.onBoard ({ · with
      result := .text (WorkQueue.summary name t.queue.stats t.queue.stopping) })
  | .release => settle (t.onBoard ({ · with held := false }))

def step (name : String) (t : Team) (s : Step) : Team × Report :=
  let t := (t.onBoard ({ · with notes := [], result := .nothing })).perform name s
  (t, t.report)

end Team

/-- The reports on the steps of a drill, with a release at the end. -/
def perform (name : String) (steps : List Step) : List Report :=
  go (Service.start {} 2) (steps ++ [.release])
where
  go (t : Team) : List Step → List Report
    | [] => []
    | s :: rest =>
      let (t, r) := Team.step name t s
      r :: go t rest

end Switchboard.Drill
