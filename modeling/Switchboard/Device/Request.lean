import Switchboard.Operation

/-!
# Requests by device

The operations of clients that address their peers as devices. Each is an operation on the endpoint
of the device whose listeners take events in device form.
-/

namespace Switchboard

def Listener.forDevice (l : Listener) : Listener := { l with form := .device }

inductive DeviceRequest (L : Type) where
  | requestConnection (self remote : Peer) (options : ConnectionOptions) (listener : L)
  | acceptConnection (remote : Peer) (listener : L)
  | rejectConnection (remote : Peer)
  | initiateBandwidthUpgrade (remote : Peer)
  | sendPayload (remote : Peer) (payload : Payload)
  /-- Only the payload counts; the peer is the one it was sent to. -/
  | cancelPayload (remote : Peer) (payload : PayloadId)
  | updateAdvertisingOptions (service : String) (options : AdvertisingOptions)
  | updateDiscoveryOptions (service : String) (options : DiscoveryOptions)
  | disconnect (remote : Peer)
  deriving DecidableEq, Repr

namespace DeviceRequest

/-- The operation on the endpoint of the device. -/
def onEndpoint {L : Type} : DeviceRequest L → Operation L
  | requestConnection self remote options l => .requestConnection remote.id self.info options l
  | acceptConnection remote l => .acceptConnection remote.id l
  | rejectConnection remote => .rejectConnection remote.id
  | initiateBandwidthUpgrade remote => .initiateBandwidthUpgrade remote.id
  | sendPayload remote payload => .sendPayload [remote.id] payload
  | cancelPayload _ payload => .cancelPayload payload
  | updateAdvertisingOptions service options => .updateAdvertisingOptions service options
  | updateDiscoveryOptions service options => .updateDiscoveryOptions service options
  | disconnect remote => .disconnectFromEndpoint remote.id

def operation (r : DeviceRequest Listener) : Operation Listener :=
  r.onEndpoint.map Listener.forDevice

end DeviceRequest

end Switchboard
