import Switchboard.Script.Direct

/-!
# Running a script

Each command of a script is one step. Unless the worker is held, a step is over when the queue has
nothing left to do. At the end the client fronts go, and then the exchange is shut down.
-/

namespace Switchboard.Script

structure SessionSpec where
  name : SessionName
  clientId : UInt64

structure Scenario where
  sessions : List SessionSpec
  queueName : String := ""
  farewells : List (SessionName × EndpointId) := []
  commands : List Command

/-- What a step came to. -/
structure Report where
  outcome : Outcome
  log : List LogEntry
  calls : List Call
  network : Network
  grabbed : Directory String (SessionName × FlagHandle)

structure Ending where
  report : Report
  /-- The calls made when the exchange was shut down at last. -/
  finalCalls : List Call
  transport : Transport

structure Performance where
  steps : List Report
  ending : Ending

namespace Scenario

def network (s : Scenario) : Network :=
  { sessions := .ofList (s.sessions.map (fun spec => (spec.name, { clientId := spec.clientId })))
    transport := { farewells := s.farewells } }

end Scenario

/-- No script comes near this many steps of its crew. -/
def patience : Nat := 1000000000

/-- Begins a step: nothing has been logged and nothing has come of it yet. -/
def Stage.begin (s : Stage) (n : Network) : Stage :=
  { s with log := [], outcome := .nothing, mark := n.transport.history.length }

def report (n : Network) (s : Stage) : Report :=
  { outcome := s.outcome
    log := s.log
    calls := (n.transport.history.drop s.mark).map (·.call)
    network := n
    grabbed := s.grabbed }

/-! ## With an exchange -/

/-- The clients of a script, as the code outside the exchange. -/
def clients : Outside Cue Stage :=
  let requests (r : Stage × List Ask) : Stage × List (Request Cue) :=
    (r.1, r.2.filterMap fun
      | .exchange r => some r
      | .transport .. => none)
  { onSignal := fun sink signal _ s => requests (s.hear sink signal)
    onTurn := fun cue status v s => requests (s.turn v status cue) }

abbrev Troupe := Crew (Desk Cue Stage) (Act Cue)

namespace Troupe

/-- The caller that goes through the script. -/
def director : Nat := 1

/-- The caller that shuts the exchange down while the worker is held. -/
def closer : Nat := 2

def settle (t : Troupe) : Troupe :=
  Crew.settle (Exchange.execute clients) [director, closer, Exchange.worker] patience t

def direct (t : Troupe) (acts : List (Act Cue)) : Troupe := settle (t.assign director acts)

def onStage (t : Troupe) (f : Stage → Stage) : Troupe :=
  { t with shared := { t.shared with outside := f t.shared.outside } }

def stage (t : Troupe) : Stage := t.shared.outside

def report (t : Troupe) : Report := Script.report t.shared.network t.stage

def begin (t : Troupe) : Troupe := t.onStage (·.begin t.shared.network)

/-- Shuts the gate and sends the worker into a call. The call only keeps the worker busy, so nothing
follows on its completion, whatever the command says. -/
def hold (t : Troupe) (tag : String) (c : Command) (path : String) : Troupe :=
  if t.stage.held || t.shared.closed then t.onStage (·.conclude tag false (.skipped .cannotHold))
  else
    (t.onStage ({ · with held := true })).direct
      [.request (.hook (.transport (.gate true))),
        .request (.submit ⟨c.session, .setCustomSavePath path, .report tag none⟩)]

def release (t : Troupe) : Troupe :=
  ((t.onStage ({ · with held := false })).direct
    [.request (.hook (.transport (.gate false)))]).onStage (·.tellRest)

/-- While the worker is held somebody else has to wait for the exchange to shut down. -/
def shutdown (t : Troupe) (tag : String) : Troupe :=
  if t.stage.held && !t.shared.closed then
    let t := t.onStage ({ · with shutWhileHeld := true })
    settle (t.assign closer [.request (.shutdown .nowhere)])
  else t.direct [.request (.shutdown (.back tag false))]

def perform (t : Troupe) (tag : String) (c : Command) : Troupe :=
  let tag := c.tag?.getD tag
  match c.chore with
  | .hold path => t.hold tag c path
  | .release => t.release
  | .shutdown => t.shutdown tag
  | _ =>
    let called := t.stage.calls.length
    (t.direct [.request (.turn (.run c tag false))]).onStage (·.tellCall called)

def step (t : Troupe) (tag : String) (c : Command) : Troupe × Report :=
  let t := t.begin.perform tag c
  (t, t.report)

/-- Client fronts go in the order of their sessions' names. -/
def disband (t : Troupe) : Troupe :=
  let leave (session : SessionName) : Act Cue :=
    .request (.submit ⟨session, .stopAllEndpoints, .nowhere⟩)
  t.begin.direct (t.stage.clients.keys.map leave)

def ending (t : Troupe) : Ending :=
  let t := t.disband
  let last := t.begin.direct [.request (.shutdown .nowhere)]
  { report := t.report
    finalCalls := last.report.calls
    transport := last.shared.network.transport }

end Troupe

/-- The commands in turn, each under its number unless it has a tag. -/
def steps {σ : Type} (step : σ → String → Command → σ × Report) :
    σ → Nat → List Command → σ × List Report
  | s, _, [] => (s, [])
  | s, n, c :: cs =>
    let (s, r) := step s (toString n) c
    let (s, rs) := steps step s (n + 1) cs
    (s, r :: rs)

/-- Runs a script on an exchange; a worker that is still held at the end is released. -/
def run (scenario : Scenario) : Performance :=
  let start : Troupe :=
    Exchange.start scenario.network { queueName := scenario.queueName } 2
  let (t, reports) := steps Troupe.step start 0 scenario.commands
  if t.stage.held then
    let t := t.begin.release
    { steps := reports ++ [t.report], ending := t.ending }
  else { steps := reports, ending := t.ending }

/-! ## Without an exchange -/

abbrev Solo := Crew Direct.Desk Direct.Act

namespace Solo

def report (c : Solo) : Report := Script.report c.shared.network c.shared.stage

def begin (c : Solo) : Solo :=
  { c with shared := { c.shared with stage := c.shared.stage.begin c.shared.network } }

def step (c : Solo) (tag : String) (command : Command) : Solo × Report :=
  let acts := [.ask (.exchange (.turn (.run command (command.tag?.getD tag) false)))]
  let c : Solo := Crew.settle Direct.execute [0] patience (c.begin.assign 0 acts)
  (c, report c)

end Solo

/-- Runs a script straight on the transport. -/
def runDirect (scenario : Scenario) : Performance :=
  let start : Solo := { shared := { network := scenario.network, stage := {} }, agendas := [[]] }
  let (c, reports) := steps Solo.step start 0 scenario.commands
  { steps := reports
    ending :=
      { report := Solo.report (Solo.begin c), finalCalls := []
        transport := c.shared.network.transport } }

end Switchboard.Script
