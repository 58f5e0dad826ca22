import Switchboard.Status

/-!
# Callbacks

Where the outcome of an operation is reported. A callback reports once: the status it is completed
with, or an error if it is dropped before that.
-/

namespace Switchboard

/-- Who takes the report. -/
inductive Recipient where
  | function
  /-- A channel, which loses what is sent when nobody listens to it any more. -/
  | channel (listening : Bool)
  | nobody
  deriving DecidableEq, Repr

/-- What has come of a callback. -/
structure Reception where
  called : List Status := []
  received : Option Status := none
  deriving DecidableEq, Repr

structure Callback where
  recipient : Recipient
  pending : Bool := true
  deriving DecidableEq, Repr

namespace Callback

def summary (c : Callback) : String :=
  "ResultCallback \x7b pending: " ++ toString c.pending ++ " \x7d"

/-- Hands a status to the recipient unless that has been done before. -/
def report (c : Callback) (status : Status) (r : Reception) : Callback × Reception :=
  if c.pending then
    ({ c with pending := false },
      match c.recipient with
      | .function => { r with called := r.called ++ [status] }
      | .channel true => { r with received := some status }
      | .channel false | .nobody => r)
  else (c, r)

/-- Completes the callback, or drops it when there is no status, and then lets go of it. -/
def conclude (c : Callback) (status : Option Status) : Reception :=
  let (c, r) := c.report (status.getD .error) {}
  (c.report .error r).2

end Callback

end Switchboard
