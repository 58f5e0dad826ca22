import Switchboard.Endpoint
import Switchboard.Payload

/-!
# Events

What listeners are told about connections, discoveries and payloads.
-/

namespace Switchboard

/-- What is known about the other side when a connection reaches the accept-or-reject stage. -/
structure ResponseInfo where
  remoteInfo : List UInt8 := []
  token : String := ""
  rawToken : List UInt8 := []
  incoming : Bool := false
  verified : Bool := false
  deriving DecidableEq, Repr, Inhabited

inductive ConnectionEvent where
  | initiated (id : EndpointId) (info : ResponseInfo)
  | accepted (id : EndpointId)
  | rejected (id : EndpointId) (status : Status)
  | disconnected (id : EndpointId)
  | bandwidthChanged (id : EndpointId) (medium : Medium)
  deriving DecidableEq, Repr

def ConnectionEvent.endpoint : ConnectionEvent → EndpointId
  | initiated id _ => id
  | accepted id => id
  | rejected id _ => id
  | disconnected id => id
  | bandwidthChanged id _ => id

inductive DiscoveryEvent where
  | found (id : EndpointId) (info : List UInt8) (service : String)
  | lost (id : EndpointId)
  | distanceChanged (id : EndpointId) (distance : Distance)
  deriving DecidableEq, Repr

def DiscoveryEvent.endpoint : DiscoveryEvent → EndpointId
  | found id _ _ => id
  | lost id => id
  | distanceChanged id _ => id

inductive PayloadEvent where
  | received (id : EndpointId) (payload : Payload)
  | progress (id : EndpointId) (info : Progress)
  deriving DecidableEq, Repr

def PayloadEvent.endpoint : PayloadEvent → EndpointId
  | received id _ => id
  | progress id _ => id

inductive Event where
  | connection (e : ConnectionEvent)
  | discovery (e : DiscoveryEvent)
  | payload (e : PayloadEvent)
  deriving DecidableEq, Repr

def Event.endpoint : Event → EndpointId
  | connection e => e.endpoint
  | discovery e => e.endpoint
  | payload e => e.endpoint

end Switchboard
