/-!
# Statuses

How an operation ends. `Status.text` is the wording shown to people, `Status.name` the short name
used in records.
-/

namespace Switchboard

inductive Status where
  | success
  | error
  | outOfOrderApiCall
  | alreadyHaveActiveStrategy
  | alreadyAdvertising
  | alreadyDiscovering
  | alreadyListening
  | endpointIoError
  | endpointUnknown
  | connectionRejected
  | alreadyConnectedToEndpoint
  | notConnectedToEndpoint
  | bluetoothError
  | bleError
  | wifiLanError
  | payloadUnknown
  | reset
  | timeout
  deriving DecidableEq, Repr

namespace Status

instance : Inhabited Status := ⟨success⟩

def all : List Status :=
  [success, error, outOfOrderApiCall, alreadyHaveActiveStrategy, alreadyAdvertising,
    alreadyDiscovering, alreadyListening, endpointIoError, endpointUnknown, connectionRejected,
    alreadyConnectedToEndpoint, notConnectedToEndpoint, bluetoothError, bleError, wifiLanError,
    payloadUnknown, reset, timeout]

theorem mem_all (s : Status) : s ∈ all := by cases s <;> decide

def isOk (s : Status) : Bool := s = success

@[simp] theorem isOk_iff {s : Status} : s.isOk = true ↔ s = success := by simp [isOk]

def name : Status → String
  | success => "Success"
  | error => "Error"
  | outOfOrderApiCall => "OutOfOrderApiCall"
  | alreadyHaveActiveStrategy => "AlreadyHaveActiveStrategy"
  | alreadyAdvertising => "AlreadyAdvertising"
  | alreadyDiscovering => "AlreadyDiscovering"
  | alreadyListening => "AlreadyListening"
  | endpointIoError => "EndpointIoError"
  | endpointUnknown => "EndpointUnknown"
  | connectionRejected => "ConnectionRejected"
  | alreadyConnectedToEndpoint => "AlreadyConnectedToEndpoint"
  | notConnectedToEndpoint => "NotConnectedToEndpoint"
  | bluetoothError => "BluetoothError"
  | bleError => "BleError"
  | wifiLanError => "WifiLanError"
  | payloadUnknown => "PayloadUnknown"
  | reset => "Reset"
  | timeout => "Timeout"

def ofName? (n : String) : Option Status := all.find? (·.name == n)

/-- The wording for people: the words of the name in lower case. -/
def text : Status → String
  | success => "success"
  | error => "error"
  | outOfOrderApiCall => "out of order api call"
  | alreadyHaveActiveStrategy => "already have active strategy"
  | alreadyAdvertising => "already advertising"
  | alreadyDiscovering => "already discovering"
  | alreadyListening => "already listening"
  | endpointIoError => "endpoint io error"
  | endpointUnknown => "endpoint unknown"
  | connectionRejected => "connection rejected"
  | alreadyConnectedToEndpoint => "already connected to endpoint"
  | notConnectedToEndpoint => "not connected to endpoint"
  | bluetoothError => "bluetooth error"
  | bleError => "ble error"
  | wifiLanError => "wifi lan error"
  | payloadUnknown => "payload unknown"
  | reset => "reset"
  | timeout => "timeout"

/-- A status as a result: the failing code, or none. -/
def toExcept (s : Status) : Except Status Unit :=
  if s.isOk then .ok () else .error s

end Status

end Switchboard
