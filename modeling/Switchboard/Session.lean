import Switchboard.Listener
import Switchboard.Session.Flag

/-!
# Sessions

What one client has going: whether it advertises, discovers or listens, its relation to each
endpoint, and the cancellation flags. The transport reports progress through the operations named
for what happened; each says which listener hears of it. A report on an endpoint without a
relation is dropped.
-/

namespace Switchboard

inductive Relation where
  | none
  | pendingOutgoing
  | pendingIncoming
  | connected
  deriving DecidableEq, Repr, Inhabited

def Relation.name : Relation → String
  | none => "NoRelation"
  | pendingOutgoing => "PendingOutgoing"
  | pendingIncoming => "PendingIncoming"
  | connected => "Connected"

structure Connection where
  relation : Relation
  /-- Whether the local side has accepted or rejected. -/
  responded : Bool := false
  listener : Listener
  payloadListener : Option Listener := none
  deriving DecidableEq, Repr

/-- Advertising, a discovery or listening that is under way. -/
structure Activity where
  service : String
  listener : Listener
  deriving DecidableEq, Repr

structure Session where
  clientId : UInt64 := 0
  advertising : Option Activity := none
  discovery : Option Activity := none
  listening : Option Activity := none
  connections : Directory EndpointId Connection := ∅
  flags : FlagBoard := {}
  deriving DecidableEq, Repr, Inhabited

namespace Session

/-! ## Queries -/

def isAdvertising (s : Session) : Bool := s.advertising.isSome

def isDiscovering (s : Session) : Bool := s.discovery.isSome

def isListening (s : Session) : Bool := s.listening.isSome

def relation (s : Session) (id : EndpointId) : Relation :=
  match s.connections.get? id with
  | some c => c.relation
  | none => .none

def isConnected (s : Session) (id : EndpointId) : Bool := s.relation id = .connected

def isPending (s : Session) (id : EndpointId) : Bool :=
  s.relation id = .pendingOutgoing || s.relation id = .pendingIncoming

def hasResponded (s : Session) (id : EndpointId) : Bool :=
  match s.connections.get? id with
  | some c => c.responded
  | none => false

def isCancelled (s : Session) (id : EndpointId) : Bool := s.flags.isCancelled id

/-- The endpoints with a connection that is not yet accepted by both sides, in order. -/
def pendingEndpoints (s : Session) : List EndpointId :=
  s.connections.keysWhere (fun c => c.relation ≠ .connected)

def connectedEndpoints (s : Session) : List EndpointId :=
  s.connections.keysWhere (fun c => c.relation = .connected)

/-! ## Flags -/

def armFlag (s : Session) (id : EndpointId) : Session := { s with flags := s.flags.register id }

def removeFlag (s : Session) (id : EndpointId) : Session := { s with flags := s.flags.remove id }

def cancel (s : Session) (id : EndpointId) : Session := { s with flags := s.flags.cancel id }

def cancelAll (s : Session) : Session := { s with flags := s.flags.cancelAll }

/-- Takes a request back: whoever holds its flag sees it raised, and the id is free again. The flag
is raised and removed in one step, as a report writes relation and flag in one. -/
def rollBack (s : Session) (id : EndpointId) : Session := (s.cancel id).removeFlag id

/-! ## Activities -/

def startedAdvertising (s : Session) (service : String) (l : Listener) : Session :=
  { s with advertising := some ⟨service, l⟩ }

def stoppedAdvertising (s : Session) : Session := { s with advertising := none }

def startedDiscovery (s : Session) (service : String) (l : Listener) : Session :=
  { s with discovery := some ⟨service, l⟩ }

def stoppedDiscovery (s : Session) : Session := { s with discovery := none }

def startedListening (s : Session) (service : String) (l : Listener) : Session :=
  { s with listening := some ⟨service, l⟩ }

def stoppedListening (s : Session) : Session := { s with listening := none }

/-- Forgets every activity, relation and flag. -/
def reset (s : Session) : Session :=
  { s with
    advertising := none
    discovery := none
    listening := none
    connections := ∅
    flags := s.flags.clear }

/-! ## Discovery reports -/

def toDiscovery (s : Session) (e : DiscoveryEvent) : List Emission :=
  match s.discovery with
  | some a => [.discovery a.listener e]
  | none => []

def endpointFound (s : Session) (id : EndpointId) (info : List UInt8) (service : String) :
    Session × List Emission :=
  (s, s.toDiscovery (.found id info service))

def endpointLost (s : Session) (id : EndpointId) : Session × List Emission :=
  (s, s.toDiscovery (.lost id))

def distanceChanged (s : Session) (id : EndpointId) (d : Distance) : Session × List Emission :=
  (s, s.toDiscovery (.distanceChanged id d))

/-! ## Connection reports -/

/-- Who hears of a connection: the requester's listener, else that of the advertising under way,
else that of the listening under way. -/
def listenerFor (s : Session) (requester : Option Listener) : Option Listener :=
  requester <|> s.advertising.map (·.listener) <|> s.listening.map (·.listener)

/-- A connection has reached the accept-or-reject stage. Without anyone to hear of it, it is
dropped. -/
def connectionInitiated (s : Session) (id : EndpointId) (info : ResponseInfo)
    (requester : Option Listener) : Session × List Emission :=
  match s.listenerFor requester with
  | none => (s, [])
  | some l =>
    let c : Connection :=
      { relation := if info.incoming then .pendingIncoming else .pendingOutgoing, listener := l }
    ({ s.armFlag id with connections := s.connections.insert id c },
      [.connection l (.initiated id info)])

def localAccepted (s : Session) (id : EndpointId) (l : Listener) : Session :=
  { s with
    connections := s.connections.modify id
      (fun c => { c with responded := true, payloadListener := some l }) }

def localRejected (s : Session) (id : EndpointId) : Session :=
  { s with connections := s.connections.modify id (fun c => { c with responded := true }) }

/-- Both sides have accepted. -/
def connectionAccepted (s : Session) (id : EndpointId) : Session × List Emission :=
  match s.connections.get? id with
  | none => (s, [])
  | some c =>
    ({ s with connections := s.connections.insert id { c with relation := .connected } },
      [.connection c.listener (.accepted id)])

/-- Ends the relation to an endpoint and removes its flag; the listener of the relation, if there
was one, hears `e`. -/
def endConnection (s : Session) (id : EndpointId) (e : ConnectionEvent) :
    Session × List Emission :=
  ({ s.removeFlag id with connections := s.connections.erase id },
    match s.connections.get? id with
    | some c => [.connection c.listener e]
    | none => [])

def connectionRejected (s : Session) (id : EndpointId) (status : Status) :
    Session × List Emission :=
  s.endConnection id (.rejected id status)

def disconnected (s : Session) (id : EndpointId) : Session × List Emission :=
  s.endConnection id (.disconnected id)

def bandwidthChanged (s : Session) (id : EndpointId) (m : Medium) : Session × List Emission :=
  (s, match s.connections.get? id with
    | some c => [.connection c.listener (.bandwidthChanged id m)]
    | none => [])

/-! ## Payload reports -/

def toPayload (s : Session) (id : EndpointId) (e : PayloadEvent) : List Emission :=
  match (s.connections.get? id).bind (·.payloadListener) with
  | some l => [.payload l e]
  | none => []

def payloadReceived (s : Session) (id : EndpointId) (p : Payload) : Session × List Emission :=
  (s, s.toPayload id (.received id p))

def payloadProgress (s : Session) (id : EndpointId) (p : Progress) : Session × List Emission :=
  (s, s.toPayload id (.progress id p))

/-! ## What becomes of the connections -/

@[simp] theorem connections_armFlag (s : Session) (id : EndpointId) :
    (s.armFlag id).connections = s.connections := rfl

@[simp] theorem connections_removeFlag (s : Session) (id : EndpointId) :
    (s.removeFlag id).connections = s.connections := rfl

@[simp] theorem connections_cancel (s : Session) (id : EndpointId) :
    (s.cancel id).connections = s.connections := rfl

@[simp] theorem connections_cancelAll (s : Session) : s.cancelAll.connections = s.connections := rfl

@[simp] theorem connections_rollBack (s : Session) (id : EndpointId) :
    (s.rollBack id).connections = s.connections := rfl

theorem get?_localAccepted (s : Session) (id id' : EndpointId) (l : Listener) :
    (s.localAccepted id l).connections.get? id' =
      if id = id' then
        (s.connections.get? id).map
          (fun c => { c with responded := true, payloadListener := some l })
      else s.connections.get? id' := by
  simp [localAccepted, Directory.get?_modify]

theorem get?_localRejected (s : Session) (id id' : EndpointId) :
    (s.localRejected id).connections.get? id' =
      if id = id' then (s.connections.get? id).map (fun c => { c with responded := true })
      else s.connections.get? id' := by
  simp [localRejected, Directory.get?_modify]

theorem get?_connectionAccepted (s : Session) (id id' : EndpointId) :
    (s.connectionAccepted id).1.connections.get? id' =
      if id = id' then (s.connections.get? id).map (fun c => { c with relation := .connected })
      else s.connections.get? id' := by
  unfold connectionAccepted
  split
  · next h => split <;> simp_all
  · next c h => simp only [Directory.get?_insert]; split <;> simp_all

theorem get?_endConnection (s : Session) (id id' : EndpointId) (e : ConnectionEvent) :
    (s.endConnection id e).1.connections.get? id' =
      if id = id' then none else s.connections.get? id' := by
  simp [endConnection, Directory.get?_erase]

theorem isPending_iff {s : Session} {id : EndpointId} :
    s.isPending id = true ↔
      s.relation id = .pendingOutgoing ∨ s.relation id = .pendingIncoming := by
  simp [isPending]

theorem isConnected_iff {s : Session} {id : EndpointId} :
    s.isConnected id = true ↔ s.relation id = .connected := by
  simp [isConnected]

end Session

end Switchboard
