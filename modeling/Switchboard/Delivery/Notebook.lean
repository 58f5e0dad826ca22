import Switchboard.Delivery
import Switchboard.Directory

/-!
# Notebooks

Sinks for text. They write down what they hear, or put it into an inbox that can be emptied and
closed; a closed inbox takes nothing any more.
-/

namespace Switchboard

inductive Note where
  | heard (sink value : String)
  | held (count : Nat)
  | drained (inbox : String) (values : List String)
  | text (text : String)
  deriving DecidableEq, Repr

/-- The values that wait for the reader of a listener. -/
structure Inbox where
  /-- The number of the listener whose values come here. -/
  owner : Nat
  values : List String := []
  deriving DecidableEq, Repr

structure Notebook where
  notes : List Note := []
  /-- The open inboxes, each under the name of its listener. -/
  inboxes : Directory String Inbox := ∅
  deriving DecidableEq, Repr, Inhabited

namespace Notebook

def note (n : Note) (b : Notebook) : Notebook := { b with notes := b.notes ++ [n] }

/-- An inbox of the same name is closed. -/
def openInbox (owner : Nat) (name : String) (b : Notebook) : Notebook :=
  { b with inboxes := b.inboxes.insert name { owner := owner } }

/-- A value for a listener whose inbox is closed is lost. -/
def post (owner : Nat) (name value : String) (b : Notebook) : Notebook :=
  { b with
    inboxes := b.inboxes.modify name fun i =>
      if i.owner = owner then { i with values := i.values ++ [value] } else i }

def drain (name : String) (b : Notebook) : Notebook :=
  let values := ((b.inboxes.get? name).map (·.values)).getD []
  note (.drained name values)
    { b with inboxes := b.inboxes.modify name ({ · with values := [] }) }

def close (name : String) (b : Notebook) : Notebook :=
  { b with inboxes := b.inboxes.erase name }

/-! ## Sinks -/

/-- The kinds of text listeners. -/
inductive Kind where
  | recorder
  | silent
  | inbox
  /-- Puts `before` in front of every value for the sink of another one. -/
  | adapted (target before : String)
  /-- Writes every value down and emits it, with `before` in front, to another one. -/
  | relay (target before : String)
  deriving DecidableEq, Repr

/-- The sinks of listeners by name, the latest first. -/
abbrev Sinks := List (String × Sink Notebook String)

def Sinks.find (sinks : Sinks) (name : String) : Sink Notebook String :=
  (sinks.lookup name).getD Sink.silent

def recorder (name : String) : Sink Notebook String :=
  Sink.changing (fun value => note (.heard name value))

def relay (name : String) (f : String → String) (target : Sink Notebook String) :
    Sink Notebook String :=
  fun value => .change (note (.heard name value)) (Sink.relay f target value)

/-- The sink of the listener with the given number and name. -/
def sink (sinks : Sinks) (number : Nat) (name : String) : Kind → Sink Notebook String
  | .recorder => recorder name
  | .silent => Sink.silent
  | .inbox => Sink.changing (post number name)
  | .adapted target before => (sinks.find target).adapt (before ++ ·)
  | .relay target before => relay name (before ++ ·) (sinks.find target)

/-- The sinks of listeners made in the given order. -/
def sinks (listeners : List (String × Kind)) : Sinks :=
  listeners.zipIdx.foldl (fun sinks (l, number) => (l.1, sink sinks number l.1 l.2) :: sinks) []

/-- A notebook with an open inbox for each listener that has one. -/
def start (listeners : List (String × Kind)) : Notebook :=
  listeners.zipIdx.foldl
    (fun b (l, number) => if l.2 = .inbox then b.openInbox number l.1 else b) {}

/-- All listeners look alike. -/
def summary : String := "Listener \x7b .. \x7d"

end Notebook

end Switchboard
