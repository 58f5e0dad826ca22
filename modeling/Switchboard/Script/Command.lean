import Switchboard.Device.Request
import Switchboard.Exchange

/-!
# Scripts

A script tells the clients of an exchange what to do. Clients listen with ears, which note every
signal and may react to the first signal of a kind with a command of their own; a command may name
another one to follow when its outcome is reported.
-/

namespace Switchboard.Script

/-- The way a client takes to the exchange. -/
inductive Via where
  | exchange
  /-- Peers are devices, and ears hear events in device form. -/
  | device
  /-- Options are put in normal form, and the client waits for the outcome. -/
  | client
  deriving DecidableEq, Repr

def Via.form : Via → EventForm
  | device => .device
  | _ => .endpoint

/-- An argument that cannot be read. -/
inductive Flaw where
  | options
  | medium
  deriving DecidableEq, Repr

/-- A call straight to the transport. -/
inductive DirectCall (L : Type) where
  | operation (operation : Operation L)
  | listen (service : String) (listener : L) (options : ListeningOptions)
  | unlisten
  | shutdownUpgrades
  | stop

namespace DirectCall

variable {L M : Type}

def map (f : L → M) : DirectCall L → DirectCall M
  | operation op => .operation (op.map f)
  | listen service l options => .listen service (f l) options
  | unlisten => .unlisten
  | shutdownUpgrades => .shutdownUpgrades
  | stop => .stop

def listener? : DirectCall L → Option L
  | operation op => op.listener?
  | listen _ l _ => some l
  | _ => none

def silently (p : Job Unit) : Job (Option Status) := do
  p
  return none

/-- The transport's part of an operation, without the guards of the exchange. -/
def bare (s : SessionName) : Operation Listener → Job (Option Status)
  | .startAdvertising service options info l =>
    some <$> Transport.startAdvertising s service options info l
  | .stopAdvertising => silently (Transport.stopAdvertising s)
  | .startDiscovery service options l => some <$> Transport.startDiscovery s service options l
  | .stopDiscovery => silently (Transport.stopDiscovery s)
  | .updateAdvertisingOptions service options =>
    some <$> Transport.updateAdvertisingOptions s service options
  | .updateDiscoveryOptions service options =>
    some <$> Transport.updateDiscoveryOptions s service options
  | .injectEndpoint service endpoint => silently (Transport.injectEndpoint s service endpoint)
  | .requestConnection id info options l =>
    some <$> Transport.requestConnection s id info options l
  | .acceptConnection id l => some <$> Transport.acceptConnection s id l
  | .rejectConnection id => some <$> Transport.rejectConnection s id
  | .initiateBandwidthUpgrade id => silently (Transport.initiateBandwidthUpgrade s id)
  | .sendPayload ids payload => silently (Transport.sendPayload s ids payload)
  | .cancelPayload payload => some <$> Transport.cancelPayload s payload
  | .disconnectFromEndpoint id => silently (Transport.disconnectFromEndpoint s id)
  | .stopAllEndpoints => return none
  | .setCustomSavePath path => silently (Transport.setCustomSavePath s path)

def plan (s : SessionName) : DirectCall Listener → Job (Option Status)
  | operation op => bare s op
  | listen service l options => some <$> Transport.startListening s service l options
  | unlisten => silently (Transport.stopListening s)
  | shutdownUpgrades => silently Transport.shutdownUpgrades
  | stop => silently Transport.stop

end DirectCall

mutual

inductive Ear where
  | mk (tag : String) (reactions : List Reaction)

inductive Reaction where
  | mk (kind : String) (command : Command)

/-- With a flaw, the usual value stands in for the argument in the chore, which is not carried
out. -/
inductive Command where
  | mk (tag : Option String) (session : SessionName) (chore : Chore) (flaw : Option Flaw)
    (next : Option Command)

inductive Chore where
  | operation (via : Via) (operation : Operation (Option Ear))
  | listen (via : Via) (service : String) (ear : Option Ear) (options : ListeningOptions)
  | unlisten (via : Via)
  | shutdown
  | stats
  | summary
  /-- Whether the device front shares the exchange of the script. -/
  | sharesExchange
  /-- The client front of the session is made, unless there is one. -/
  | attach
  /-- A client with a session of its own comes and leaves. -/
  | visit
  /-- The client front of the session goes, and with it all the session has going. -/
  | detach
  | hook (hook : SessionHook (Option Ear))
  | transport (hook : TransportHook)
  /-- Keeps a handle to the flag of an endpoint under a name. -/
  | grab (id : EndpointId) (name : String)
  | raiseGrabbed (name : String)
  | query (id : EndpointId)
  /-- Whether the transport has been told to stop since the script's present step began. -/
  | sawStop
  | call (call : DirectCall (Option Ear))
  /-- Holds the worker inside a call that sets the save path. -/
  | hold (path : String)
  | release

end

instance : Inhabited Command := ⟨.mk none "" .stats none none⟩

def Ear.tag : Ear → String
  | mk tag _ => tag

def Ear.reactions : Ear → List Reaction
  | mk _ reactions => reactions

def Reaction.kind : Reaction → String
  | mk kind _ => kind

def Reaction.command : Reaction → Command
  | mk _ command => command

def Command.tag? : Command → Option String
  | mk tag .. => tag

def Command.session : Command → SessionName
  | mk _ session .. => session

def Command.chore : Command → Chore
  | mk _ _ chore .. => chore

def Command.flaw : Command → Option Flaw
  | mk _ _ _ flaw _ => flaw

def Command.next : Command → Option Command
  | mk _ _ _ _ next => next

/-- Whether the client front of the session is made for the command, unless there is one. An
operation needs it before its arguments are read. -/
def Command.needsClient (c : Command) : Bool :=
  match c.chore with
  | .operation .client _ => true
  | .listen .client .. | .unlisten .client | .attach => c.flaw.isNone
  | _ => false

end Switchboard.Script
