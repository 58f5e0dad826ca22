import Switchboard.Script.Command

/-!
# Stages

The clients of a script as the code outside the exchange: what each ear still has to react to, what
has been logged, and where every command goes on when the exchange answers. `Stage.perform` says
what a command asks for, `Stage.hear` what an ear does with a signal.
-/

namespace Switchboard.Script

/-- Why a command is passed over. -/
inductive Obstacle where
  /-- A client front cannot be used from inside an ear. -/
  | clientInside
  /-- The exchange is not at rest, so that a description would not last. -/
  | summaryUnsettled
  | cannotHold
  /-- The caller would have to wait for the worker, who is held. -/
  | workerHeld
  /-- A call of the client has not come back. -/
  | clientInUse
  /-- The caller is inside a call to the transport. -/
  | callUnderWay
  deriving DecidableEq, Repr

/-- What a command comes to. -/
inductive Outcome where
  | nothing
  | status (status : Status)
  | verdict (answer : Bool)
  | text (text : String)
  | skipped (obstacle : Obstacle)
  | misread (flaw : Flaw)
  | submitted (count : Nat)
  | settled (submitted settled : Nat)
  | stats (stats : QueueStats)
  | facts (session : Session) (id : EndpointId)
  | attached (clientId : UInt64)
  | visited
  | released (calls : List (String × Status))

inductive LogEntry where
  | heard (tag : String) (signal : Signal)
  | completed (tag : String) (status : Status)
  | did (tag : String) (outcome : Outcome)

/-- An ear at work, with the reactions that have not been set off yet. -/
structure Hearing where
  tag : String
  reactions : List Reaction

/-- The reactions to a kind of signal, in order, and the ear without them. -/
def Hearing.claim (h : Hearing) (kind : String) : List Reaction × Hearing :=
  let (due, left) := h.reactions.partition (·.kind = kind)
  (due, { h with reactions := left })

/-- A call of a client that waits for the outcome. -/
structure ClientCall where
  tag : String
  session : SessionName
  status : Option Status := none
  /-- Whether the script has been told the outcome. -/
  told : Bool := false

structure Stage where
  /-- The quoted name of the queue. -/
  queueName : String := ""
  log : List LogEntry := []
  hearings : List Hearing := []
  grabbed : Directory String (SessionName × FlagHandle) := ∅
  clients : Directory SessionName Unit := ∅
  calls : List ClientCall := []
  /-- Whether the worker is held inside a call to the transport. -/
  held : Bool := false
  /-- Whether the exchange was shut down while the worker was held. -/
  shutWhileHeld : Bool := false
  /-- How many payload ids have been drawn. -/
  draws : Nat := 0
  outcome : Outcome := .nothing
  /-- How many calls the transport had seen when the present step began. -/
  mark : Nat := 0

/-- Where the code of a script goes on. -/
inductive Cue where
  | run (command : Command) (tag : String) (nested : Bool)
  | report (tag : String) (next : Option Command)
  | reply (call : Nat)
  | back (tag : String) (nested : Bool)
  | nowhere

/-- What the code of a script asks for: something of the exchange, or a call to the transport. -/
inductive Ask where
  | exchange (request : Request Cue)
  | transport (session : SessionName) (call : DirectCall Listener) (back : Cue)

namespace Stage

def push (s : Stage) (e : LogEntry) : Stage := { s with log := s.log ++ [e] }

/-- The outcome of a step of the script, or of a command set off by another one. -/
def conclude (s : Stage) (tag : String) (nested : Bool) (o : Outcome) : Stage :=
  if nested then
    match o with
    | .nothing => s
    | o => s.push (.did tag o)
  else { s with outcome := o }

/-! ## Ears and payloads -/

/-- Puts an ear to work. -/
def employ (s : Stage) (form : EventForm) : Option Ear → Stage × Listener
  | none => (s, { form := form })
  | some ear =>
    ({ s with hearings := s.hearings ++ [⟨ear.tag, ear.reactions⟩] },
      { sink := some s.hearings.length, form := form })

/-- Puts the ear of a request, if it has one, to work. -/
def employFor (s : Stage) (form : EventForm) (ear : Option (Option Ear)) : Stage × Listener :=
  match ear with
  | some ear => s.employ form ear
  | none => (s, { form := form })

/-- A payload without a chosen id gets a new one. -/
def draw (s : Stage) (p : Payload) : Stage × Payload :=
  match p.id with
  | .chosen _ => (s, p)
  | .drawn _ => ({ s with draws := s.draws + 1 }, { p with id := .drawn s.draws })

def prepare (s : Stage) (form : EventForm) (op : Operation (Option Ear)) :
    Stage × Operation Listener :=
  let (s, l) := s.employFor form op.listener?
  match op.map (fun _ => l) with
  | .sendPayload ids p =>
    let (s, p) := s.draw p
    (s, .sendPayload ids p)
  | op => (s, op)

def prepareHook (s : Stage) (hook : SessionHook (Option Ear)) : Stage × SessionHook Listener :=
  let (s, l) := s.employFor .endpoint hook.listener?
  match hook.map (fun _ => l) with
  | .payloadReceived id p =>
    let (s, p) := s.draw p
    (s, .payloadReceived id p)
  | hook => (s, hook)

def prepareCall (s : Stage) : DirectCall (Option Ear) → Stage × DirectCall Listener
  | .operation op =>
    let (s, op) := s.prepare .endpoint op
    (s, .operation op)
  | call =>
    let (s, l) := s.employFor .endpoint call.listener?
    (s, call.map (fun _ => l))

/-! ## Commands -/

/-- Whether a call of the session has not been told its outcome. -/
def inUse (s : Stage) (session : SessionName) : Bool :=
  s.calls.any (fun c => c.session == session && !c.told)

def attach (s : Stage) (session : SessionName) : Stage :=
  { s with clients := s.clients.insert session () }

def leave (session : SessionName) : Ask :=
  .exchange (.submit ⟨session, .stopAllEndpoints, .nowhere⟩)

/-- What the script may know of the queue at this point. -/
def statsOutcome (s : Stage) (nested : Bool) (stats : QueueStats) : Outcome :=
  if nested || s.held then .submitted stats.submitted
  else if s.shutWhileHeld then .settled stats.submitted (stats.executed + stats.discarded)
  else .stats stats

/-- What keeps a chore from being carried out. Whoever switches listening waits for the worker, who
may be held. -/
def obstacle? (s : Stage) (v : View) (session : SessionName) (nested : Bool) :
    Chore → Option Obstacle
  | .operation .client _ | .attach | .visit => if nested then some .clientInside else none
  | .listen .client .. | .unlisten .client =>
    if nested then some .clientInside else if s.held then some .workerHeld else none
  | .listen .. | .unlisten _ => if s.held then some .workerHeld else none
  | .shutdown => if s.held && nested then some .workerHeld else none
  | .summary => if nested || s.held || s.shutWhileHeld then some .summaryUnsettled else none
  | .detach =>
    if nested then some .clientInside else if s.inUse session then some .clientInUse else none
  | .call _ => if v.calling then some .callUnderWay else none
  | .hold _ => some .cannotHold
  | _ => none

def submit (s : Stage) (session : SessionName) (tag : String) (next : Option Command)
    (op : Operation (Option Ear)) : Via → Stage × List Ask
  | .client =>
    let (s, op) := s.prepare .endpoint op
    let s := { s with calls := s.calls ++ [⟨tag, session, none, false⟩] }
    (s, [.exchange (.submit ⟨session, op.normalize, .reply (s.calls.length - 1)⟩)])
  | via =>
    let (s, op) := s.prepare via.form op
    (s, [.exchange (.submit ⟨session, op, .report tag next⟩)])

/-- What a chore asks for when nothing is in its way. -/
def carryOut (s : Stage) (v : View) (c : Command) (tag : String) (nested : Bool) :
    Stage × List Ask :=
  let done (o : Outcome) : Stage × List Ask := (s.conclude tag nested o, [])
  match c.chore with
  | .operation via op => s.submit c.session tag c.next op via
  | .listen via service ear options =>
    let (s, l) := s.employ via.form ear
    (s, [.exchange (.listen c.session service l options (.back tag nested))])
  | .unlisten _ => (s, [.exchange (.unlisten c.session (.back tag nested))])
  | .shutdown => (s, [.exchange (.shutdown (.back tag nested))])
  | .stats => done (s.statsOutcome nested v.stats)
  | .summary => done (.text (v.summary s.queueName))
  | .sharesExchange => done (.verdict true)
  | .attach => done (.attached (v.network.session c.session).clientId)
  | .visit => (s.conclude tag nested .visited, [leave v.network.newName])
  | .detach =>
    if s.clients.contains c.session then
      let s := { s with clients := s.clients.erase c.session }
      (s.conclude tag nested (.verdict true), [leave c.session])
    else done (.verdict false)
  | .hook hook =>
    let (s, hook) := s.prepareHook hook
    (s, [.exchange (.hook (.session c.session hook))])
  | .transport hook => (s, [.exchange (.hook (.transport hook))])
  | .grab id name =>
    match (v.network.session c.session).flags.handle? id with
    | some h =>
      let s := { s with grabbed := s.grabbed.insert name (c.session, h) }
      (s.conclude tag nested (.verdict true), [])
    | none => done (.verdict false)
  | .raiseGrabbed name =>
    match s.grabbed.get? name with
    | some (session, h) => (s, [.exchange (.hook (.session session (.raise h)))])
    | none => (s, [])
  | .query id => done (.facts (v.network.session c.session) id)
  | .sawStop =>
    done (.verdict ((v.network.transport.history.drop s.mark).any (fun r => r.call == .stop)))
  | .call call =>
    let (s, call) := s.prepareCall call
    (s, [.transport c.session call (.back tag nested)])
  | .hold _ => done .nothing
  | .release => done (.released [])

def perform (s : Stage) (v : View) (c : Command) (tag : String) (nested : Bool) :
    Stage × List Ask :=
  match s.obstacle? v c.session nested c.chore with
  | some o => (s.conclude tag nested (.skipped o), [])
  | none =>
    let s := if c.needsClient then s.attach c.session else s
    match c.flaw with
    | some flaw => (s.conclude tag nested (.misread flaw), [])
    | none => s.carryOut v c tag nested

/-! ## Ears -/

/-- Sets off all reactions to the signal at once: a signal that arrives while one of them runs
finds none of them left. -/
def hear (s : Stage) (sink : SinkId) (signal : Signal) : Stage × List Ask :=
  match s.hearings[sink]? with
  | some h =>
    let (due, h') := h.claim signal.kind
    ({ s with hearings := s.hearings.set sink h' }.push (.heard h.tag signal),
      due.map (fun r => .exchange (.turn (.run r.command (h.tag ++ "!") true))))
  | none => (s, [])

/-! ## Turns -/

def turn (s : Stage) (v : View) (status : Option Status) : Cue → Stage × List Ask
  | .run c tag nested => s.perform v c (c.tag?.getD tag) nested
  | .report tag next =>
    (s.push (.completed tag (status.getD .error)),
      next.toList.map (fun c => .exchange (.turn (.run c (tag ++ ">") true))))
  | .reply n =>
    ({ s with calls := s.calls.modify n (fun c => { c with status := status }) }, [])
  | .back tag nested =>
    (s.conclude tag nested (match status with
      | some st => .status st
      | none => .nothing), [])
  | .nowhere => (s, [])

/-- The outcome of a client's call made in this step, if it is known already. -/
def tellCall (s : Stage) (n : Nat) : Stage :=
  match s.calls[n]? with
  | some ⟨tag, session, some status, false⟩ =>
    { s with
      calls := s.calls.set n ⟨tag, session, some status, true⟩
      outcome := .status status }
  | _ => s

/-- The outcomes of all calls that have not been told yet, in the order of the calls. -/
def tellRest (s : Stage) : Stage :=
  let untold := s.calls.filter (fun c => !c.told)
  { s with
    calls := s.calls.map (fun c => { c with told := true })
    outcome := .released (untold.map (fun c => (c.tag, c.status.getD .error))) }

end Stage

end Switchboard.Script
