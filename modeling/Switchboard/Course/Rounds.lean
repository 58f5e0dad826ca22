import Switchboard.Course

/-!
# Rounds

Several workers share one exchange. Each has a session of its own and goes through the same moves
round after round, every round on a new endpoint, and waits for the outcome of each move.
-/

namespace Switchboard.Rounds

inductive Move where
  | request
  | accept
  | reject
  | upgrade
  | send
  | disconnect
  | stopAll
  deriving DecidableEq, Repr

def Move.operation (id : EndpointId) : Move → Operation Listener
  | request => .requestConnection id [] {} {}
  | accept => .acceptConnection id {}
  | reject => .rejectConnection id
  | upgrade => .initiateBandwidthUpgrade id
  | send => .sendPayload [id] ⟨.drawn 0, .bytes []⟩
  | disconnect => .disconnectFromEndpoint id
  | stopAll => .stopAllEndpoints

def threeDigits (n : Nat) : String :=
  let digits := toString n
  String.ofList (List.replicate (3 - digits.length) '0') ++ digits

/-- The endpoint of a round: the worker in hexadecimal, the round in three digits. -/
def endpoint (worker round : Nat) : EndpointId :=
  ⟨(String.ofList (Nat.toDigits 16 worker)).toUpper ++ threeDigits round⟩

def session (worker : Nat) : SessionName := toString worker

/-- One worker's submissions in all rounds; a move that nobody knows submits nothing. -/
def submissions (worker rounds : Nat) (moves : List (Option Move)) : List (Option Submission) :=
  (List.range rounds).flatMap fun round =>
    moves.map fun m => m.map fun m => ⟨session worker, m.operation (endpoint worker round)⟩

/-- Submits an operation and waits for its outcome. Nothing submitted is reported as an error. -/
def await (c : Course) : Option Submission → Course × Status
  | none => (c, .error)
  | some s =>
    let (c, u) := (c.submit s).step .work
    (c, u.status.getD .error)

def awaitAll (c : Course) : List (Option Submission) → Course × List Status
  | [] => (c, [])
  | s :: ss =>
    let (c, status) := await c s
    let (c, statuses) := awaitAll c ss
    (c, status :: statuses)

structure Tally where
  /-- The outcomes of each worker's moves. -/
  statuses : List (List Status)
  transport : Transport
  submitted : Nat

/-- The workers one after another: they share no session and no endpoint, so that any other order
comes to the same. -/
def perform (workers rounds : Nat) (moves : List (Option Move)) : Tally :=
  let (c, statuses) := go {} (List.range workers)
  { statuses := statuses
    transport := c.network.transport
    submitted := workers * rounds * (moves.filter Option.isSome).length }
where
  go (c : Course) : List Nat → Course × List (List Status)
    | [] => (c, [])
    | w :: ws =>
      let (c, status) := awaitAll c (submissions w rounds moves)
      let (c, statuses) := go c ws
      (c, status :: statuses)

end Switchboard.Rounds
