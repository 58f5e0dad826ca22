import Switchboard.Transport

/-!
# Operations

What a client may ask of the exchange, in the queue, for its session. `Operation.prepare` is the
part that happens as soon as the operation is asked for: a request registers the flag of its
endpoint, and whatever ends a relation raises the flag, so that operations still waiting in the
queue see it. `Operation.body` is the rest; its guards look at the session as it is by then.
-/

namespace Switchboard

/-- An operation, over what stands for listeners. -/
inductive Operation (L : Type) where
  | startAdvertising (service : String) (options : AdvertisingOptions) (info : List UInt8)
      (listener : L)
  | stopAdvertising
  | startDiscovery (service : String) (options : DiscoveryOptions) (listener : L)
  | stopDiscovery
  | updateAdvertisingOptions (service : String) (options : AdvertisingOptions)
  | updateDiscoveryOptions (service : String) (options : DiscoveryOptions)
  | injectEndpoint (service : String) (endpoint : OutOfBand)
  | requestConnection (id : EndpointId) (info : List UInt8) (options : ConnectionOptions)
      (listener : L)
  | acceptConnection (id : EndpointId) (listener : L)
  | rejectConnection (id : EndpointId)
  | initiateBandwidthUpgrade (id : EndpointId)
  | sendPayload (ids : List EndpointId) (payload : Payload)
  | cancelPayload (payload : PayloadId)
  | disconnectFromEndpoint (id : EndpointId)
  | stopAllEndpoints
  | setCustomSavePath (path : String)
  deriving DecidableEq, Repr

namespace Operation

variable {L M : Type}

def map (f : L → M) : Operation L → Operation M
  | startAdvertising service options info l => .startAdvertising service options info (f l)
  | stopAdvertising => .stopAdvertising
  | startDiscovery service options l => .startDiscovery service options (f l)
  | stopDiscovery => .stopDiscovery
  | updateAdvertisingOptions service options => .updateAdvertisingOptions service options
  | updateDiscoveryOptions service options => .updateDiscoveryOptions service options
  | injectEndpoint service endpoint => .injectEndpoint service endpoint
  | requestConnection id info options l => .requestConnection id info options (f l)
  | acceptConnection id l => .acceptConnection id (f l)
  | rejectConnection id => .rejectConnection id
  | initiateBandwidthUpgrade id => .initiateBandwidthUpgrade id
  | sendPayload ids payload => .sendPayload ids payload
  | cancelPayload payload => .cancelPayload payload
  | disconnectFromEndpoint id => .disconnectFromEndpoint id
  | stopAllEndpoints => .stopAllEndpoints
  | setCustomSavePath path => .setCustomSavePath path

def listener? : Operation L → Option L
  | startAdvertising _ _ _ l => some l
  | startDiscovery _ _ l => some l
  | requestConnection _ _ _ l => some l
  | acceptConnection _ l => some l
  | _ => none

/-- The operation with its options in normal form. -/
def normalize : Operation L → Operation L
  | startAdvertising service options info l => .startAdvertising service options.normalize info l
  | startDiscovery service options l => .startDiscovery service options.normalize l
  | updateAdvertisingOptions service options => .updateAdvertisingOptions service options.normalize
  | updateDiscoveryOptions service options => .updateDiscoveryOptions service options.normalize
  | requestConnection id info options l => .requestConnection id info options.normalize l
  | other => other

/-- What is done to the session before the operation is queued. -/
def prepare : Operation L → Session → Session
  | requestConnection id .., s => s.armFlag id
  | rejectConnection id, s => s.cancel id
  | disconnectFromEndpoint id, s => s.cancel id
  | stopAllEndpoints, s => s.cancelAll
  | _, s => s

/-! ## Bodies -/

open Job

/-- An answer is refused to an endpoint that is connected or has been answered before. -/
def answerGuard (s : SessionName) (id : EndpointId) : Job Status := do
  if ← asks s (·.isConnected id) then return .alreadyConnectedToEndpoint
  if ← asks s (·.hasResponded id) then return .outOfOrderApiCall
  return .success

/-- Whether there is a relation to the endpoint. These are two looks: a relation that is pending at
the first and connected at the second is seen by neither. -/
def asksRelated (s : SessionName) (id : EndpointId) : Job Bool := do
  if ← asks s (·.isConnected id) then return true
  asks s (·.isPending id)

/-- Whether any of the endpoints is connected, by a look at one after another. -/
def asksAnyConnected (s : SessionName) : List EndpointId → Job Bool
  | [] => return false
  | id :: ids => do
    if ← asks s (·.isConnected id) then return true
    asksAnyConnected s ids

def requestBody (s : SessionName) (id : EndpointId) (info : List UInt8)
    (options : ConnectionOptions) (l : Listener) : Job Status := do
  if ← asksRelated s id then return .alreadyConnectedToEndpoint
  if ← asks s (·.isCancelled id) then
    changeSession s (·.rollBack id)
    return .endpointIoError
  changeSession s (·.armFlag id)
  let status ← Transport.requestConnection s id info options l
  if !status.isOk then
    changeSession s (·.rollBack id)
  return status

def disconnectEach (s : SessionName) : List EndpointId → Job Unit
  | [] => return ()
  | id :: ids => do
    Transport.disconnectFromEndpoint s id
    disconnectEach s ids

/-- Ends every relation, the pending ones first, then every activity. -/
def teardown (s : SessionName) : Job Unit := do
  disconnectEach s (← asks s (·.pendingEndpoints))
  disconnectEach s (← asks s (·.connectedEndpoints))
  Transport.stopAdvertising s
  Transport.stopDiscovery s
  Transport.shutdownUpgrades
  changeSession s (·.reset)

/-- What the operation does when its turn in the queue has come. -/
def body (s : SessionName) : Operation Listener → Job Status
  | startAdvertising service options info l => do
    if ← asks s (·.isAdvertising) then return .alreadyAdvertising
    Transport.startAdvertising s service options info l
  | stopAdvertising => do
    if ← asks s (·.isAdvertising) then Transport.stopAdvertising s
    return .success
  | startDiscovery service options l => do
    if ← asks s (·.isDiscovering) then return .alreadyDiscovering
    Transport.startDiscovery s service options l
  | stopDiscovery => do
    if ← asks s (·.isDiscovering) then Transport.stopDiscovery s
    return .success
  | updateAdvertisingOptions service options =>
    Transport.updateAdvertisingOptions s service options
  | updateDiscoveryOptions service options => Transport.updateDiscoveryOptions s service options
  | injectEndpoint service endpoint => do
    if !endpoint.check.isOk then return endpoint.check
    if !(← asks s (·.isDiscovering)) then return .outOfOrderApiCall
    Transport.injectEndpoint s service endpoint
    return .success
  | requestConnection id info options l => requestBody s id info options l
  | acceptConnection id l => do
    let status ← answerGuard s id
    if !status.isOk then return status
    if ← asks s (·.isCancelled id) then return .endpointIoError
    Transport.acceptConnection s id l
  | rejectConnection id => do
    let status ← answerGuard s id
    if !status.isOk then return status
    Transport.rejectConnection s id
  | initiateBandwidthUpgrade id => do
    if !(← asks s (·.isConnected id)) then return .outOfOrderApiCall
    Transport.initiateBandwidthUpgrade s id
    return .success
  | sendPayload ids payload => do
    if !(← asksAnyConnected s ids) then return .endpointUnknown
    Transport.sendPayload s ids payload
    return .success
  | cancelPayload payload => Transport.cancelPayload s payload
  | disconnectFromEndpoint id => do
    if !(← asksRelated s id) then return .outOfOrderApiCall
    Transport.disconnectFromEndpoint s id
    return .success
  | stopAllEndpoints => do
    teardown s
    return .success
  | setCustomSavePath path => do
    Transport.setCustomSavePath s path
    return .success

end Operation

end Switchboard
