import Switchboard.Transport

/-!
# Hooks

What may happen to the network at any moment without the exchange: reports of the radios to a
session, changes made to a session by hand, and changes to how the transport answers.

A hook is one step. A session keeps its relations and its flags in two maps without a lock around
both, and a report that begins or ends a relation writes to the one map and then to the other. What
somebody would see who looks between the two writes is left out here.
-/

namespace Switchboard

inductive SessionHook (L : Type) where
  | startedAdvertising (service : String) (listener : L)
  | stoppedAdvertising
  | startedDiscovery (service : String) (listener : L)
  | stoppedDiscovery
  | startedListening (service : String) (listener : L)
  | stoppedListening
  | endpointFound (id : EndpointId) (info : List UInt8) (service : String)
  | endpointLost (id : EndpointId)
  | distanceChanged (id : EndpointId) (distance : Distance)
  | connectionInitiated (id : EndpointId) (info : ResponseInfo) (listener : Option L)
  | localAccepted (id : EndpointId) (listener : L)
  | localRejected (id : EndpointId)
  | connectionAccepted (id : EndpointId)
  | connectionRejected (id : EndpointId) (status : Status)
  | disconnected (id : EndpointId)
  | bandwidthChanged (id : EndpointId) (medium : Medium)
  | payloadReceived (id : EndpointId) (payload : Payload)
  | payloadProgress (id : EndpointId) (progress : Progress)
  | armFlag (id : EndpointId)
  | removeFlag (id : EndpointId)
  | cancel (id : EndpointId)
  | cancelAll
  | raise (flag : FlagHandle)
  | reset
  deriving DecidableEq, Repr

namespace SessionHook

variable {L M : Type}

def map (f : L → M) : SessionHook L → SessionHook M
  | startedAdvertising service l => .startedAdvertising service (f l)
  | stoppedAdvertising => .stoppedAdvertising
  | startedDiscovery service l => .startedDiscovery service (f l)
  | stoppedDiscovery => .stoppedDiscovery
  | startedListening service l => .startedListening service (f l)
  | stoppedListening => .stoppedListening
  | endpointFound id info service => .endpointFound id info service
  | endpointLost id => .endpointLost id
  | distanceChanged id d => .distanceChanged id d
  | connectionInitiated id info l => .connectionInitiated id info (l.map f)
  | localAccepted id l => .localAccepted id (f l)
  | localRejected id => .localRejected id
  | connectionAccepted id => .connectionAccepted id
  | connectionRejected id status => .connectionRejected id status
  | disconnected id => .disconnected id
  | bandwidthChanged id m => .bandwidthChanged id m
  | payloadReceived id p => .payloadReceived id p
  | payloadProgress id p => .payloadProgress id p
  | armFlag id => .armFlag id
  | removeFlag id => .removeFlag id
  | cancel id => .cancel id
  | cancelAll => .cancelAll
  | raise flag => .raise flag
  | reset => .reset

def listener? : SessionHook L → Option L
  | startedAdvertising _ l => some l
  | startedDiscovery _ l => some l
  | startedListening _ l => some l
  | connectionInitiated _ _ l => l
  | localAccepted _ l => some l
  | _ => none

def apply (s : Session) : SessionHook Listener → Session × List Emission
  | startedAdvertising service l => (s.startedAdvertising service l, [])
  | stoppedAdvertising => (s.stoppedAdvertising, [])
  | startedDiscovery service l => (s.startedDiscovery service l, [])
  | stoppedDiscovery => (s.stoppedDiscovery, [])
  | startedListening service l => (s.startedListening service l, [])
  | stoppedListening => (s.stoppedListening, [])
  | endpointFound id info service => s.endpointFound id info service
  | endpointLost id => s.endpointLost id
  | distanceChanged id d => s.distanceChanged id d
  | connectionInitiated id info l => s.connectionInitiated id info l
  | localAccepted id l => (s.localAccepted id l, [])
  | localRejected id => (s.localRejected id, [])
  | connectionAccepted id => s.connectionAccepted id
  | connectionRejected id status => s.connectionRejected id status
  | disconnected id => s.disconnected id
  | bandwidthChanged id m => s.bandwidthChanged id m
  | payloadReceived id p => s.payloadReceived id p
  | payloadProgress id p => s.payloadProgress id p
  | armFlag id => (s.armFlag id, [])
  | removeFlag id => (s.removeFlag id, [])
  | cancel id => (s.cancel id, [])
  | cancelAll => (s.cancelAll, [])
  | raise flag => ({ s with flags := s.flags.raise flag }, [])
  | reset => (s.reset, [])

/-- A remote endpoint asks for a connection. -/
def incoming (id : EndpointId) (info : List UInt8) : SessionHook L :=
  .connectionInitiated id (Transport.incomingInfo id info) none

/-- A remote endpoint answers. -/
def remoteResponse (id : EndpointId) (accepted : Bool) : SessionHook L :=
  if accepted then .connectionAccepted id else .connectionRejected id .connectionRejected

end SessionHook

inductive TransportHook where
  | setOutcome (call : Answerable) (status : Status)
  | clearOutcome (call : Answerable)
  | autoAccept (enabled : Bool)
  | gate (shut : Bool)
  deriving DecidableEq, Repr

def TransportHook.apply (t : Transport) : TransportHook → Transport
  | setOutcome call status => t.setOutcome call status
  | clearOutcome call => t.clearOutcome call
  | autoAccept enabled => { t with autoAccept := enabled }
  | gate shut => { t with gateShut := shut }

inductive Hook where
  | session (name : SessionName) (hook : SessionHook Listener)
  | transport (hook : TransportHook)
  deriving DecidableEq, Repr

def Hook.apply (n : Network) : Hook → Network × List Emission
  | session name hook => n.onSession name (fun s => hook.apply s)
  | transport hook => (n.onTransport (fun t => hook.apply t), [])

end Switchboard
