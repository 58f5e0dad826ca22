import Switchboard.Network

/-!
# Calls to the transport

What the transport does when it is called, step by step. Every call is recorded first, then waits
while the gate is shut, and only then goes on. The transport reports progress to the session it was
called for.
-/

namespace Switchboard

/-- Work on the network, with emissions for listeners. -/
abbrev Job (α : Type) := Plan Network Emission α

namespace Job

def changeSession (s : SessionName) (f : Session → Session) : Job Unit :=
  Plan.modify (fun n => n.setSession s (f (n.session s)))

def report (s : SessionName) (f : Session → Session × List Emission) : Job Unit :=
  Plan.perform (fun n => n.onSession s f)

def asks (s : SessionName) (f : Session → α) : Job α := Plan.gets (fun n => f (n.session s))

def changeTransport (f : Transport → Transport) : Job Unit :=
  Plan.modify (fun n => n.onTransport f)

def answer (c : Answerable) : Job Status := Plan.gets (fun n => n.transport.outcome c)

end Job

namespace Transport

open Job

/-- The frame of every call. -/
def call (s : Option SessionName) (c : Call) (body : Job α) : Job α := do
  changeTransport (·.record ⟨s, c⟩)
  Plan.waitUntil (fun n => !n.transport.gateShut)
  changeTransport enter
  let result ← body
  changeTransport leave
  return result

/-- Does `work` if the outcome set for the call is success. -/
def ifAllowed (c : Answerable) (work : Job Unit) : Job Status := do
  let status ← answer c
  if status.isOk then work
  return status

def startAdvertising (s : SessionName) (service : String) (options : AdvertisingOptions)
    (info : List UInt8) (l : Listener) : Job Status :=
  call s (.startAdvertising service options info) <|
    ifAllowed .startAdvertising (changeSession s (·.startedAdvertising service l))

def stopAdvertising (s : SessionName) : Job Unit :=
  call s .stopAdvertising (changeSession s (·.stoppedAdvertising))

def startDiscovery (s : SessionName) (service : String) (options : DiscoveryOptions)
    (l : Listener) : Job Status :=
  call s (.startDiscovery service options) <|
    ifAllowed .startDiscovery (changeSession s (·.startedDiscovery service l))

def stopDiscovery (s : SessionName) : Job Unit :=
  call s .stopDiscovery (changeSession s (·.stoppedDiscovery))

/-- An injected endpoint is found at once. -/
def injectEndpoint (s : SessionName) (service : String) (m : OutOfBand) : Job Unit :=
  call s (.injectEndpoint m.id) (report s (·.endpointFound m.id m.info service))

/-- What is known of an endpoint that was asked for a connection. -/
def requestedInfo (id : EndpointId) : ResponseInfo :=
  { remoteInfo := "remote-".toUTF8.data.toList ++ id.bytes
    token := id.token
    rawToken := id.bytes }

/-- What is known of an endpoint that asks for a connection. -/
def incomingInfo (id : EndpointId) (info : List UInt8) : ResponseInfo :=
  { remoteInfo := info, token := id.token, rawToken := id.bytes, incoming := true }

def requestConnection (s : SessionName) (id : EndpointId) (info : List UInt8)
    (options : ConnectionOptions) (l : Listener) : Job Status :=
  call s (.requestConnection id options info) <|
    ifAllowed .requestConnection <|
      report s (·.connectionInitiated id (requestedInfo id) (some l))

def acceptConnection (s : SessionName) (id : EndpointId) (l : Listener) : Job Status :=
  call s (.acceptConnection id) <|
    ifAllowed .acceptConnection do
      changeSession s (·.localAccepted id l)
      if ← Plan.gets (fun n => n.transport.autoAccept) then
        report s (·.connectionAccepted id)

def rejectConnection (s : SessionName) (id : EndpointId) : Job Status :=
  call s (.rejectConnection id) <|
    ifAllowed .rejectConnection (changeSession s (·.localRejected id))

def initiateBandwidthUpgrade (s : SessionName) (id : EndpointId) : Job Unit :=
  call s (.initiateBandwidthUpgrade id) (report s (·.bandwidthChanged id .wifiLan))

/-- Delivers to each endpoint that is connected when its turn comes. -/
def sendToEach (s : SessionName) (p : Payload) : List EndpointId → Job Unit
  | [] => return ()
  | id :: ids => do
    let delivered ← asks s (·.isConnected id)
    report s (·.payloadProgress id (.settled p delivered))
    sendToEach s p ids

def sendPayload (s : SessionName) (ids : List EndpointId) (p : Payload) : Job Unit :=
  call s (.sendPayload ids p) do
    changeTransport (·.keepPayload p.id)
    sendToEach s p ids

/-- A payload can be cancelled once for each time it was handed over anew. -/
def cancelPayload (s : SessionName) (p : PayloadId) : Job Status :=
  call s (.cancelPayload p) do
    let status ← answer .cancelPayload
    if status.isOk then
      if ← Plan.gets (fun n => n.transport.payloads.contains p) then
        changeTransport (·.dropPayload p)
        return .success
      else
        return .payloadUnknown
    else
      return status

def disconnectFromEndpoint (s : SessionName) (id : EndpointId) : Job Unit :=
  call s (.disconnectFromEndpoint id) (report s (·.disconnected id))

def updateAdvertisingOptions (s : SessionName) (service : String) (options : AdvertisingOptions) :
    Job Status :=
  call s (.updateAdvertisingOptions service options) (answer .updateAdvertisingOptions)

def updateDiscoveryOptions (s : SessionName) (service : String) (options : DiscoveryOptions) :
    Job Status :=
  call s (.updateDiscoveryOptions service options) (answer .updateDiscoveryOptions)

def startListening (s : SessionName) (service : String) (l : Listener)
    (options : ListeningOptions) : Job Status :=
  call s (.startListening service options) do
    if ← asks s (·.isListening) then
      return .alreadyListening
    else
      ifAllowed .startListening (changeSession s (·.startedListening service l))

def stopListening (s : SessionName) : Job Unit :=
  call s .stopListening (changeSession s (·.stoppedListening))

def setCustomSavePath (s : SessionName) (path : String) : Job Unit :=
  call s (.setCustomSavePath path) (return ())

def shutdownUpgrades : Job Unit := call none .shutdownUpgrades (return ())

def bidFarewell : List (SessionName × EndpointId) → Job Unit
  | [] => return ()
  | (s, id) :: rest => do
    report s (·.disconnected id)
    bidFarewell rest

/-- Stops for good; the farewells are said once. -/
def stop : Job Unit := do
  call none .stop (changeTransport ({ · with stopped := true }))
  let farewells ← Plan.gets (fun n => n.transport.farewells)
  changeTransport ({ · with farewells := [] })
  bidFarewell farewells

end Transport

end Switchboard
