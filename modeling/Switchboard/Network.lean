import Switchboard.Options
import Switchboard.Plan
import Switchboard.Session

/-!
# Networks

The sessions of all clients together with the state of the one transport they share. The
transport's history lists every call made to it, oldest first.
-/

namespace Switchboard

abbrev SessionName := String

/-- A call to the transport. -/
inductive Call where
  | startAdvertising (service : String) (options : AdvertisingOptions) (info : List UInt8)
  | stopAdvertising
  | startDiscovery (service : String) (options : DiscoveryOptions)
  | stopDiscovery
  | injectEndpoint (id : EndpointId)
  | requestConnection (id : EndpointId) (options : ConnectionOptions) (info : List UInt8)
  | acceptConnection (id : EndpointId)
  | rejectConnection (id : EndpointId)
  | initiateBandwidthUpgrade (id : EndpointId)
  | sendPayload (ids : List EndpointId) (payload : Payload)
  | cancelPayload (payload : PayloadId)
  | disconnectFromEndpoint (id : EndpointId)
  | updateAdvertisingOptions (service : String) (options : AdvertisingOptions)
  | updateDiscoveryOptions (service : String) (options : DiscoveryOptions)
  | startListening (service : String) (options : ListeningOptions)
  | stopListening
  | setCustomSavePath (path : String)
  | shutdownUpgrades
  | stop
  deriving DecidableEq, Repr

/-- A call with the session it was made for, if it was made for one. -/
structure CallRecord where
  session : Option SessionName
  call : Call
  deriving DecidableEq, Repr

/-- The calls whose outcome can be set beforehand. -/
inductive Answerable where
  | startAdvertising
  | startDiscovery
  | requestConnection
  | acceptConnection
  | rejectConnection
  | cancelPayload
  | updateAdvertisingOptions
  | updateDiscoveryOptions
  | startListening
  deriving DecidableEq, Repr

namespace Answerable

def name : Answerable → String
  | startAdvertising => "StartAdvertising"
  | startDiscovery => "StartDiscovery"
  | requestConnection => "RequestConnection"
  | acceptConnection => "AcceptConnection"
  | rejectConnection => "RejectConnection"
  | cancelPayload => "CancelPayload"
  | updateAdvertisingOptions => "UpdateAdvertisingOptions"
  | updateDiscoveryOptions => "UpdateDiscoveryOptions"
  | startListening => "StartListening"

def ofName? (n : String) : Option Answerable :=
  [startAdvertising, startDiscovery, requestConnection, acceptConnection, rejectConnection,
    cancelPayload, updateAdvertisingOptions, updateDiscoveryOptions, startListening].find?
    (·.name == n)

end Answerable

structure Transport where
  history : List CallRecord := []
  /-- Outcomes set beforehand; a call without one succeeds. -/
  outcomes : List (Answerable × Status) := []
  /-- Whether the other side accepts as soon as the local side does. -/
  autoAccept : Bool := true
  /-- While the gate is shut a call that has begun does not go on. -/
  gateShut : Bool := false
  busy : Bool := false
  /-- How many calls went on while another was under way. -/
  overlaps : Nat := 0
  /-- Payloads handed over and not cancelled since. -/
  payloads : List PayloadId := []
  stopped : Bool := false
  callsAfterStop : Nat := 0
  /-- Endpoints reported as disconnected right after the transport has stopped. -/
  farewells : List (SessionName × EndpointId) := []
  deriving DecidableEq, Repr, Inhabited

namespace Transport

def outcome (t : Transport) (c : Answerable) : Status := (t.outcomes.lookup c).getD .success

def clearOutcome (t : Transport) (c : Answerable) : Transport :=
  { t with outcomes := t.outcomes.filter (fun o => o.1 ≠ c) }

def setOutcome (t : Transport) (c : Answerable) (s : Status) : Transport :=
  { t with outcomes := (c, s) :: (t.clearOutcome c).outcomes }

def record (t : Transport) (r : CallRecord) : Transport :=
  { t with history := t.history ++ [r] }

/-- A call that has begun goes on. -/
def enter (t : Transport) : Transport :=
  { t with
    busy := true
    overlaps := if t.busy then t.overlaps + 1 else t.overlaps
    callsAfterStop := if t.stopped then t.callsAfterStop + 1 else t.callsAfterStop }

def leave (t : Transport) : Transport := { t with busy := false }

def keepPayload (t : Transport) (p : PayloadId) : Transport :=
  { t with payloads := if t.payloads.contains p then t.payloads else p :: t.payloads }

def dropPayload (t : Transport) (p : PayloadId) : Transport :=
  { t with payloads := t.payloads.filter (· ≠ p) }

theorem outcome_clearOutcome (t : Transport) (c c' : Answerable) :
    (t.clearOutcome c).outcome c' = if c = c' then .success else t.outcome c' := by
  unfold clearOutcome outcome
  simp only
  induction t.outcomes with
  | nil => simp
  | cons o os ih =>
    obtain ⟨k, s⟩ := o
    by_cases h : k = c
    · subst h
      simp only [ne_eq, not_true_eq_false, decide_false, Bool.false_eq_true, not_false_eq_true,
        List.filter_cons_of_neg, ih, List.lookup_cons]
      split
      · rfl
      · next e => rw [beq_eq_false_iff_ne.mpr (fun x => e x.symm)]
    · simp only [ne_eq, h, not_false_eq_true, decide_true, List.filter_cons_of_pos,
        List.lookup_cons]
      by_cases e : c' = k
      · subst e
        simp [Ne.symm h]
      · rw [beq_eq_false_iff_ne.mpr e]; exact ih

theorem outcome_setOutcome (t : Transport) (c c' : Answerable) (s : Status) :
    (t.setOutcome c s).outcome c' = if c = c' then s else t.outcome c' := by
  have h := outcome_clearOutcome t c c'
  unfold setOutcome
  unfold outcome at h ⊢
  simp only [List.lookup_cons]
  by_cases e : c = c'
  · subst e; simp
  · rw [beq_eq_false_iff_ne.mpr (fun x => e x.symm)]
    simpa [e] using h

end Transport

structure Network where
  sessions : Directory SessionName Session := ∅
  transport : Transport := {}
  deriving DecidableEq, Repr, Inhabited

namespace Network

/-- A client that has done nothing yet has a fresh session. -/
def session (n : Network) (name : SessionName) : Session := (n.sessions.get? name).getD {}

def setSession (n : Network) (name : SessionName) (s : Session) : Network :=
  { n with sessions := n.sessions.insert name s }

def onSession (n : Network) (name : SessionName) (f : Session → Session × List Emission) :
    Network × List Emission :=
  let (s, emitted) := f (n.session name)
  (n.setSession name s, emitted)

def onTransport (n : Network) (f : Transport → Transport) : Network :=
  { n with transport := f n.transport }

/-- The length of the longest session name. -/
def nameLength (n : Network) : Nat := n.sessions.keys.foldr (fun k m => max k.length m) 0

/-- A name that no session has. -/
def newName (n : Network) : SessionName := String.ofList (List.replicate (n.nameLength + 1) '-')

theorem session_setSession (n : Network) (a b : SessionName) (s : Session) :
    (n.setSession a s).session b = if a = b then s else n.session b := by
  unfold session setSession
  simp only [Directory.get?_insert]
  split <;> rfl

@[simp] theorem session_setSession_self (n : Network) (a : SessionName) (s : Session) :
    (n.setSession a s).session a = s := by simp [session_setSession]

@[simp] theorem transport_setSession (n : Network) (a : SessionName) (s : Session) :
    (n.setSession a s).transport = n.transport := rfl

@[simp] theorem session_onTransport (n : Network) (f : Transport → Transport) (a : SessionName) :
    (n.onTransport f).session a = n.session a := rfl

theorem length_le_nameLength {n : Network} {name : SessionName} {s : Session}
    (h : n.sessions.get? name = some s) : name.length ≤ n.nameLength := by
  have hm : name ∈ n.sessions.keys := List.mem_map.mpr ⟨_, Directory.mem_entries.mpr h, rfl⟩
  unfold nameLength
  revert hm
  generalize n.sessions.keys = ks
  intro hm
  induction ks with
  | nil => simp at hm
  | cons k ks ih =>
    rcases List.mem_cons.mp hm with rfl | hm
    · exact Nat.le_max_left ..
    · exact Nat.le_trans (ih hm) (Nat.le_max_right ..)

theorem get?_newName (n : Network) : n.sessions.get? n.newName = none := by
  cases h : n.sessions.get? n.newName with
  | none => rfl
  | some s =>
    have hle := length_le_nameLength h
    have hlen : n.newName.length = n.nameLength + 1 := by simp [newName]
    omega

end Network

end Switchboard
