import Switchboard.Script.Stage

/-!
# Scripts without an exchange

A script may call the transport itself. There is one member then, nobody keeps events back, and an
ear hears each one in the middle of the call that caused it.
-/

namespace Switchboard.Script.Direct

inductive Act where
  | ask (ask : Ask)
  | carry (plan : Job (Option Status)) (back : Cue)
  | deliver (emission : Emission)

structure Desk where
  network : Network
  calling : Bool := false
  stage : Stage

def consult (d : Desk) (f : View → Stage → Stage × List Ask) : Desk × List Act :=
  let (stage, asks) := f { network := d.network, calling := d.calling } d.stage
  ({ d with stage := stage }, asks.map .ask)

/-- What asks for an exchange comes to nothing. -/
def request (d : Desk) : Request Cue → Desk × List Act
  | .turn cue => consult d (fun v s => s.turn v none cue)
  | .hook h =>
    let (network, emitted) := h.apply d.network
    ({ d with network := network }, emitted.map .deliver)
  | _ => (d, [])

def execute : Execution Desk Act
  | _, .ask (.exchange r), d => some (request d r)
  | _, .ask (.transport session call back), d =>
    some ({ d with calling := true }, [.carry (call.plan session) back])
  | _, .carry (.done status) back, d =>
    some (consult { d with calling := false } (fun v s => s.turn v status back))
  | _, .carry (.look next) back, d => some (d, [.carry (next d.network) back])
  | _, .carry (.act change next) back, d =>
    let (network, emitted) := change d.network
    some ({ d with network := network }, emitted.map .deliver ++ [.carry next back])
  | _, .carry (.await _ next) back, d => some (d, [.carry next back])
  | _, .deliver m, d =>
    match m.listener.sink with
    | some sink => some (consult d (fun _ s => s.hear sink m.signal))
    | none => some (d, [])

end Switchboard.Script.Direct
