import Switchboard.Device

/-!
# Listeners

A listener names the sink its events go to and the form in which the sink takes them. Sinks belong
to the clients; the library knows them by number only. An `Emission` is an event on its way to a
listener, a `Signal` is what finally arrives at a sink.
-/

namespace Switchboard

abbrev SinkId := Nat

/-- Whether a sink takes events as they are or in device form. -/
inductive EventForm where
  | endpoint
  | device
  deriving DecidableEq, Repr

/-- Without a sink every event is dropped. -/
structure Listener where
  sink : Option SinkId := none
  form : EventForm := .endpoint
  deriving DecidableEq, Repr, Inhabited

inductive Signal where
  | event (e : Event)
  | deviceConnection (e : DeviceConnectionEvent)
  | devicePayload (e : DevicePayloadEvent)
  deriving DecidableEq, Repr

/-- What kind of signal it is, by the name used in records. -/
def Signal.kind : Signal → String
  | event (.connection (.initiated ..)) | deviceConnection (.initiated ..) => "Initiated"
  | event (.connection (.accepted ..)) => "Accepted"
  | event (.connection (.rejected ..)) => "Rejected"
  | event (.connection (.disconnected ..)) | deviceConnection (.disconnected ..) => "Disconnected"
  | event (.connection (.bandwidthChanged ..)) | deviceConnection (.bandwidthChanged ..) =>
    "BandwidthChanged"
  | event (.discovery (.found ..)) => "EndpointFound"
  | event (.discovery (.lost ..)) => "EndpointLost"
  | event (.discovery (.distanceChanged ..)) => "EndpointDistanceChanged"
  | event (.payload (.received ..)) | devicePayload (.received ..) => "Received"
  | event (.payload (.progress ..)) | devicePayload (.progress ..) => "Progress"
  | deviceConnection (.result ..) => "Result"

/-- Discoveries are reported by endpoint in either form. -/
def EventForm.signal : EventForm → Event → Signal
  | .device, .connection e => .deviceConnection e.forDevice
  | .device, .payload e => .devicePayload e.forDevice
  | _, e => .event e

structure Emission where
  listener : Listener
  event : Event
  deriving DecidableEq, Repr

namespace Emission

def connection (l : Listener) (e : ConnectionEvent) : Emission := ⟨l, .connection e⟩

def discovery (l : Listener) (e : DiscoveryEvent) : Emission := ⟨l, .discovery e⟩

def payload (l : Listener) (e : PayloadEvent) : Emission := ⟨l, .payload e⟩

def signal (m : Emission) : Signal := m.listener.form.signal m.event

end Emission

end Switchboard
