import Switchboard.Event

/-!
# Devices

Clients may address a peer as a device instead of by endpoint id. Events then arrive in device
form: the two answers to a connection become one kind of event that carries a status, and a new
medium comes with its bandwidth class.
-/

namespace Switchboard

/-- A device as reported in events. -/
structure Device where
  id : EndpointId
  info : List UInt8 := []
  deriving DecidableEq, Repr

/-- A peer as clients name it. -/
inductive Peer where
  | connections (device : Device)
  | presence (id : EndpointId) (metadata : List UInt8)
  deriving DecidableEq, Repr

namespace Peer

def id : Peer → EndpointId
  | connections device => device.id
  | presence id _ => id

/-- What to advertise for this peer; a peer found by presence has nothing to advertise. -/
def info : Peer → List UInt8
  | connections device => device.info
  | presence .. => []

end Peer

/-- A medium with its bandwidth class. -/
structure Bandwidth where
  medium : Medium
  quality : Quality
  deriving DecidableEq, Repr

def Bandwidth.ofMedium (m : Medium) : Bandwidth := ⟨m, m.quality⟩

inductive DeviceConnectionEvent where
  | initiated (device : Device) (digits : String) (rawToken : List UInt8) (incoming : Bool)
  | result (device : Device) (status : Status)
  | disconnected (device : Device)
  | bandwidthChanged (device : Device) (bandwidth : Bandwidth)
  deriving DecidableEq, Repr

inductive DevicePayloadEvent where
  | received (device : Device) (payload : Payload)
  | progress (device : Device) (info : Progress)
  deriving DecidableEq, Repr

/-- The device form of a connection event; only `initiated` knows the info of the device. -/
def ConnectionEvent.forDevice : ConnectionEvent → DeviceConnectionEvent
  | initiated id info => .initiated ⟨id, info.remoteInfo⟩ info.token info.rawToken info.incoming
  | accepted id => .result ⟨id, []⟩ .success
  | rejected id status => .result ⟨id, []⟩ status
  | disconnected id => .disconnected ⟨id, []⟩
  | bandwidthChanged id medium => .bandwidthChanged ⟨id, []⟩ (.ofMedium medium)

def PayloadEvent.forDevice : PayloadEvent → DevicePayloadEvent
  | received id payload => .received ⟨id, []⟩ payload
  | progress id info => .progress ⟨id, []⟩ info

end Switchboard
