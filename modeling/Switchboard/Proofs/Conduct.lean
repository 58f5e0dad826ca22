import Switchboard.Proofs.Guard
import Switchboard.Proofs.Session

/-!
# Conduct at the transport

How everything that is done with the transport goes about it: calls come one after another, each
recorded before it goes on and left before the next one is recorded; sessions are only changed by
reports and by a request, which arms its flag and may be rolled back; and after the call to stop
there is no other. `Conduct` says so as an automaton over the changes of a plan, and every body is
shown to follow it (`body_conduct`, `stop_conduct`). Whatever is kept by the steps of the automaton
is kept by all bodies.
-/

namespace Switchboard

/-- How far the calls of a plan have come. -/
inductive Phase where
  | idle
  | recorded
  | busy
  | stopRecorded
  | stopBusy
  | stopMarked
  | stopped
  deriving DecidableEq, Repr

namespace Transport

/-- Two transports that have seen the same calls. -/
structure SameCalls (t u : Transport) : Prop where
  history : u.history = t.history
  busy : u.busy = t.busy
  overlaps : u.overlaps = t.overlaps
  stopped : u.stopped = t.stopped
  late : u.callsAfterStop = t.callsAfterStop

theorem sameCalls_keepPayload (t : Transport) (p : PayloadId) : t.SameCalls (t.keepPayload p) :=
  ⟨rfl, rfl, rfl, rfl, rfl⟩

theorem sameCalls_dropPayload (t : Transport) (p : PayloadId) : t.SameCalls (t.dropPayload p) :=
  ⟨rfl, rfl, rfl, rfl, rfl⟩

end Transport

/-- `Conduct own k change l`: in phase `k` the change is in order and leads to phase `l`. Apart from
what reports do to them, only the flags of the endpoints in `own` are touched. -/
inductive Conduct (own : SessionName → EndpointId → Prop) :
    Phase → (Network → Network × List Emission) → Phase → Prop where
  | record (r : CallRecord) (h : r.call ≠ .stop) :
    Conduct own .idle (fun n => (n.onTransport (·.record r), [])) .recorded
  | enter : Conduct own .recorded (fun n => (n.onTransport (·.enter), [])) .busy
  | leave : Conduct own .busy (fun n => (n.onTransport (·.leave), [])) .idle
  | recordStop :
    Conduct own .idle (fun n => (n.onTransport (·.record ⟨none, .stop⟩), [])) .stopRecorded
  | enterStop : Conduct own .stopRecorded (fun n => (n.onTransport (·.enter), [])) .stopBusy
  | markStop :
    Conduct own .stopBusy (fun n => (n.onTransport ({ · with stopped := true }), [])) .stopMarked
  | leaveStop : Conduct own .stopMarked (fun n => (n.onTransport (·.leave), [])) .stopped
  | aside (k : Phase) (f : Transport → Transport) (h : ∀ t, Transport.SameCalls t (f t)) :
    Conduct own k (fun n => (n.onTransport f, [])) k
  | report (k : Phase) (s : SessionName) (h : SessionHook Listener) (hr : h.isFlagWork = false) :
    Conduct own k (fun n => n.onSession s (fun x => h.apply x)) k
  | arm (k : Phase) (s : SessionName) (id : EndpointId) (h : own s id) :
    Conduct own k (fun n => (n.setSession s ((n.session s).armFlag id), [])) k
  | rollBack (s : SessionName) (id : EndpointId) (h : own s id) :
    Conduct own .idle (fun n => (n.setSession s ((n.session s).rollBack id), [])) .idle

/-- Whoever may not roll an endpoint back minds it. -/
theorem Conduct.minds {own : SessionName → EndpointId → Prop} {k l : Phase}
    {change : Network → Network × List Emission} (h : Conduct own k change l) {s : SessionName}
    {id : EndpointId} (hn : ¬ own s id) (n : Network) :
    Session.Minds (n.session s) ((change n).1.session s) id := by
  cases h with
  | report _ name hook hf =>
    have hm := SessionHook.isManual_of_isFlagWork hf
    show Session.Minds _ ((n.setSession name (hook.apply (n.session name)).1).session s) id
    rw [Network.session_setSession]
    split
    · next he => exact he ▸ Session.minds_apply (hook.ne_removeFlag hm id) _
    · exact .refl _ id
  | arm _ name id' =>
    show Session.Minds _ ((n.setSession name ((n.session name).armFlag id')).session s) id
    rw [Network.session_setSession]
    split
    · next he => exact he ▸ Session.minds_apply (h := .armFlag id') nofun _
    · exact .refl _ id
  | rollBack name id' ho =>
    show Session.Minds _ ((n.setSession name ((n.session name).rollBack id')).session s) id
    rw [Network.session_setSession]
    split
    · next he =>
      subst he
      exact Session.minds_rollBack _ fun hid => hn (hid ▸ ho)
    · exact .refl _ id
  | _ => exact .refl _ id

/-- To roll an endpoint back does not mind it: an endpoint with a connection is left without its
flag. -/
theorem exists_not_minds_rollBack (s : SessionName) (id : EndpointId) :
    ∃ n : Network, ¬ Session.Minds (n.session s)
      ((n.setSession s ((n.session s).rollBack id)).session s) id := by
  let c : Connection := { relation := .connected, listener := {} }
  let x : Session := Session.armFlag { connections := .insert .empty id c } id
  refine ⟨Network.setSession {} s x, ?_⟩
  rw [Network.session_setSession_self, Network.session_setSession_self]
  have hc : x.connections.get? id = some c := Directory.get?_insert_self ..
  have hf : x.isFlagged id = true := by simp [x, Session.isFlagged_armFlag]
  rintro (hn | ⟨hk, _⟩)
  · rw [Session.connections_rollBack, hc] at hn
    cases hn
  · have := hk hf
    rw [Session.isFlagged_rollBack] at this
    simp at this

namespace Job

variable {own : SessionName → EndpointId → Prop} {k : Phase} {α β : Type}

/-! ## Steps of a job -/

theorem asks_conduct (s : SessionName) (f : Session → α) :
    (asks s f).Follows (Conduct own) k k := .gets _

theorem answer_conduct (c : Answerable) : (answer c).Follows (Conduct own) k k := .gets _

theorem report_conduct (s : SessionName) (h : SessionHook Listener) (hr : h.isFlagWork = false) :
    (report s (fun x => h.apply x)).Follows (Conduct own) k k := .perform (.report k s h hr)

/-- A change of a session that emits nothing is a report if it does what the report does. -/
theorem changeSession_conduct (s : SessionName) (h : SessionHook Listener) {f : Session → Session}
    (hr : h.isFlagWork = false) (hf : ∀ x, h.apply x = (f x, [])) :
    (changeSession s f).Follows (Conduct own) k k := by
  have hc : (fun n : Network => (n.setSession s (f (n.session s)), ([] : List Emission))) =
      fun n => n.onSession s (fun x => h.apply x) := by
    funext n
    simp only [Network.onSession, hf]
  refine .modify ?_
  rw [hc]
  exact .report k s h hr

theorem aside_conduct {f : Transport → Transport} (h : ∀ t, Transport.SameCalls t (f t)) :
    (changeTransport f).Follows (Conduct own) k k := .modify (.aside k f h)

end Job

namespace Transport

open Job

variable {own : SessionName → EndpointId → Prop} {α : Type}

/-- A call is in order if nothing but reports happens within it. -/
theorem call_conduct (s : Option SessionName) {c : Call} {body : Job α} (hc : c ≠ .stop)
    (h : body.Follows (Conduct own) .busy .busy) :
    (call s c body).Follows (Conduct own) .idle .idle := by
  unfold call
  refine .bind (.modify (.record ⟨s, c⟩ hc)) fun _ => ?_
  refine .bind (.waitUntil _) fun _ => ?_
  refine .bind (.modify .enter) fun _ => ?_
  refine .bind h fun result => ?_
  exact .bind (.modify .leave) fun _ => .done result

theorem ifAllowed_conduct {k : Phase} (c : Answerable) {work : Job Unit}
    (h : work.Follows (Conduct own) k k) : (ifAllowed c work).Follows (Conduct own) k k := by
  unfold ifAllowed
  refine .bind (answer_conduct c) fun status => ?_
  split
  · exact .bind h fun _ => .done status
  · exact .done status

theorem sendToEach_conduct {k : Phase} (s : SessionName) (p : Payload) (ids : List EndpointId) :
    (sendToEach s p ids).Follows (Conduct own) k k := by
  induction ids with
  | nil => exact .done ()
  | cons id ids ih =>
    refine .bind (asks_conduct s _) fun delivered => ?_
    exact .bind (report_conduct s (.payloadProgress id _) rfl) fun _ => ih

theorem bidFarewell_conduct {k : Phase} (farewells : List (SessionName × EndpointId)) :
    (bidFarewell farewells).Follows (Conduct own) k k := by
  induction farewells with
  | nil => exact .done ()
  | cons f rest ih => exact .bind (report_conduct f.1 (.disconnected f.2) rfl) fun _ => ih

/-! ## Calls -/

variable (s : SessionName)

theorem startAdvertising_conduct (service : String) (options : AdvertisingOptions)
    (info : List UInt8) (l : Listener) :
    (startAdvertising s service options info l).Follows (Conduct own) .idle .idle :=
  call_conduct s (by simp) <|
    ifAllowed_conduct _ (changeSession_conduct s (.startedAdvertising service l) rfl fun _ => rfl)

theorem stopAdvertising_conduct : (stopAdvertising s).Follows (Conduct own) .idle .idle :=
  call_conduct s (by simp) (changeSession_conduct s .stoppedAdvertising rfl fun _ => rfl)

theorem startDiscovery_conduct (service : String) (options : DiscoveryOptions) (l : Listener) :
    (startDiscovery s service options l).Follows (Conduct own) .idle .idle :=
  call_conduct s (by simp) <|
    ifAllowed_conduct _ (changeSession_conduct s (.startedDiscovery service l) rfl fun _ => rfl)

theorem stopDiscovery_conduct : (stopDiscovery s).Follows (Conduct own) .idle .idle :=
  call_conduct s (by simp) (changeSession_conduct s .stoppedDiscovery rfl fun _ => rfl)

theorem injectEndpoint_conduct (service : String) (m : OutOfBand) :
    (injectEndpoint s service m).Follows (Conduct own) .idle .idle :=
  call_conduct s (by simp) (report_conduct s (.endpointFound m.id m.info service) rfl)

theorem requestConnection_conduct (id : EndpointId) (info : List UInt8)
    (options : ConnectionOptions) (l : Listener) :
    (requestConnection s id info options l).Follows (Conduct own) .idle .idle :=
  call_conduct s (by simp) <|
    ifAllowed_conduct _ (report_conduct s (.connectionInitiated id (requestedInfo id) (some l)) rfl)

theorem acceptConnection_conduct (id : EndpointId) (l : Listener) :
    (acceptConnection s id l).Follows (Conduct own) .idle .idle := by
  refine call_conduct s (by simp) (ifAllowed_conduct _ ?_)
  refine .bind (changeSession_conduct s (.localAccepted id l) rfl fun _ => rfl) fun _ => ?_
  refine .bind (.gets _) fun auto => ?_
  split
  · exact report_conduct s (.connectionAccepted id) rfl
  · exact .done ()

theorem rejectConnection_conduct (id : EndpointId) :
    (rejectConnection s id).Follows (Conduct own) .idle .idle :=
  call_conduct s (by simp) <|
    ifAllowed_conduct _ (changeSession_conduct s (.localRejected id) rfl fun _ => rfl)

theorem initiateBandwidthUpgrade_conduct (id : EndpointId) :
    (initiateBandwidthUpgrade s id).Follows (Conduct own) .idle .idle :=
  call_conduct s (by simp) (report_conduct s (.bandwidthChanged id .wifiLan) rfl)

theorem sendPayload_conduct (ids : List EndpointId) (p : Payload) :
    (sendPayload s ids p).Follows (Conduct own) .idle .idle := by
  refine call_conduct s (by simp) ?_
  exact .bind (aside_conduct (·.sameCalls_keepPayload p.id)) fun _ => sendToEach_conduct s p ids

theorem cancelPayload_conduct (p : PayloadId) :
    (cancelPayload s p).Follows (Conduct own) .idle .idle := by
  refine call_conduct s (by simp) (.bind (answer_conduct _) fun status => ?_)
  split
  · refine .bind (.gets _) fun known => ?_
    split
    · exact .bind (aside_conduct (·.sameCalls_dropPayload p)) fun _ => .done Status.success
    · exact .done Status.payloadUnknown
  · exact .done status

theorem disconnectFromEndpoint_conduct (id : EndpointId) :
    (disconnectFromEndpoint s id).Follows (Conduct own) .idle .idle :=
  call_conduct s (by simp) (report_conduct s (.disconnected id) rfl)

theorem updateAdvertisingOptions_conduct (service : String) (options : AdvertisingOptions) :
    (updateAdvertisingOptions s service options).Follows (Conduct own) .idle .idle :=
  call_conduct s (by simp) (answer_conduct _)

theorem updateDiscoveryOptions_conduct (service : String) (options : DiscoveryOptions) :
    (updateDiscoveryOptions s service options).Follows (Conduct own) .idle .idle :=
  call_conduct s (by simp) (answer_conduct _)

theorem startListening_conduct (service : String) (l : Listener) (options : ListeningOptions) :
    (startListening s service l options).Follows (Conduct own) .idle .idle := by
  refine call_conduct s (by simp) (.bind (asks_conduct s _) fun listening => ?_)
  split
  · exact .done Status.alreadyListening
  · exact ifAllowed_conduct _ <|
      changeSession_conduct s (.startedListening service l) rfl fun _ => rfl

theorem stopListening_conduct : (stopListening s).Follows (Conduct own) .idle .idle :=
  call_conduct s (by simp) (changeSession_conduct s .stoppedListening rfl fun _ => rfl)

theorem setCustomSavePath_conduct (path : String) :
    (setCustomSavePath s path).Follows (Conduct own) .idle .idle :=
  call_conduct s (by simp) (.done ())

theorem shutdownUpgrades_conduct : shutdownUpgrades.Follows (Conduct own) .idle .idle :=
  call_conduct none (by simp) (.done ())

/-- The call to stop is the last one. -/
theorem stop_conduct : stop.Follows (Conduct own) .idle .stopped := by
  have hcall : (call none .stop (changeTransport ({ · with stopped := true }))).Follows
      (Conduct own) .idle .stopped := by
    unfold call
    refine .bind (.modify .recordStop) fun _ => ?_
    refine .bind (.waitUntil _) fun _ => ?_
    refine .bind (.modify .enterStop) fun _ => ?_
    refine .bind (.modify .markStop) fun _ => ?_
    exact .bind (.modify .leaveStop) fun _ => .done ()
  refine .bind hcall fun _ => .bind (.gets _) fun farewells => ?_
  exact .bind (aside_conduct fun _ => ⟨rfl, rfl, rfl, rfl, rfl⟩) fun _ => bidFarewell_conduct _

end Transport

namespace Operation

open Job Transport

/-- Whether the operation asks for a connection to the endpoint. -/
def requests {L : Type} (id : EndpointId) : Operation L → Prop
  | requestConnection id' .. => id' = id
  | _ => False

variable {own : SessionName → EndpointId → Prop} (s : SessionName)

theorem rollBack_conduct {id : EndpointId} (h : own s id) :
    (changeSession s (·.rollBack id)).Follows (Conduct own) .idle .idle :=
  .modify (.rollBack s id h)

theorem requestBody_conduct {id : EndpointId} (info : List UInt8) (options : ConnectionOptions)
    (l : Listener) (h : own s id) :
    (requestBody s id info options l).Follows (Conduct own) .idle .idle := by
  refine .bind (asksRelated_looks s id).follows fun related => ?_
  split
  · exact .done Status.alreadyConnectedToEndpoint
  refine .bind (asks_conduct s _) fun cancelled => ?_
  split
  · exact .bind (rollBack_conduct s h) fun _ => .done Status.endpointIoError
  refine .bind (.modify (.arm _ s id h)) fun _ => ?_
  refine .bind (requestConnection_conduct s id info options l) fun status => ?_
  split
  · exact .bind (rollBack_conduct s h) fun _ => .done status
  · exact .done status

theorem disconnectEach_conduct (ids : List EndpointId) :
    (disconnectEach s ids).Follows (Conduct own) .idle .idle := by
  induction ids with
  | nil => exact .done ()
  | cons id ids ih => exact .bind (disconnectFromEndpoint_conduct s id) fun _ => ih

theorem teardown_conduct : (teardown s).Follows (Conduct own) .idle .idle := by
  refine .bind (asks_conduct s _) fun pending => ?_
  refine .bind (disconnectEach_conduct s _) fun _ => ?_
  refine .bind (asks_conduct s _) fun connected => ?_
  refine .bind (disconnectEach_conduct s _) fun _ => ?_
  refine .bind (stopAdvertising_conduct s) fun _ => ?_
  refine .bind (stopDiscovery_conduct s) fun _ => ?_
  refine .bind shutdownUpgrades_conduct fun _ => ?_
  exact changeSession_conduct s .reset rfl fun _ => rfl

/-- Every body is in order; only a request rolls back, and only its own endpoint. -/
theorem body_conduct (op : Operation Listener) :
    (op.body s).Follows (Conduct fun s' id => s' = s ∧ op.requests id) .idle .idle := by
  cases op with
  | startAdvertising service options info l =>
    refine .bind (asks_conduct s _) fun on => ?_
    split
    · exact .done Status.alreadyAdvertising
    · exact startAdvertising_conduct s service options info l
  | stopAdvertising =>
    refine .bind (asks_conduct s _) fun on => ?_
    split
    · exact .bind (stopAdvertising_conduct s) fun _ => .done Status.success
    · exact .done Status.success
  | startDiscovery service options l =>
    refine .bind (asks_conduct s _) fun on => ?_
    split
    · exact .done Status.alreadyDiscovering
    · exact startDiscovery_conduct s service options l
  | stopDiscovery =>
    refine .bind (asks_conduct s _) fun on => ?_
    split
    · exact .bind (stopDiscovery_conduct s) fun _ => .done Status.success
    · exact .done Status.success
  | updateAdvertisingOptions service options =>
    exact updateAdvertisingOptions_conduct s service options
  | updateDiscoveryOptions service options => exact updateDiscoveryOptions_conduct s service options
  | injectEndpoint service endpoint =>
    simp only [body]
    split
    · exact .done endpoint.check
    refine .bind (asks_conduct s _) fun on => ?_
    split
    · exact .done Status.outOfOrderApiCall
    · exact .bind (injectEndpoint_conduct s service endpoint) fun _ => .done Status.success
  | requestConnection id info options l => exact requestBody_conduct s info options l ⟨rfl, rfl⟩
  | acceptConnection id l =>
    refine .bind (answerGuard_looks s id).follows fun status => ?_
    split
    · exact .done status
    refine .bind (asks_conduct s _) fun cancelled => ?_
    split
    · exact .done Status.endpointIoError
    · exact acceptConnection_conduct s id l
  | rejectConnection id =>
    refine .bind (answerGuard_looks s id).follows fun status => ?_
    split
    · exact .done status
    · exact rejectConnection_conduct s id
  | initiateBandwidthUpgrade id =>
    refine .bind (asks_conduct s _) fun connected => ?_
    split
    · exact .done Status.outOfOrderApiCall
    · exact .bind (initiateBandwidthUpgrade_conduct s id) fun _ => .done Status.success
  | sendPayload ids payload =>
    refine .bind (asksAnyConnected_looks s ids).follows fun connected => ?_
    split
    · exact .done Status.endpointUnknown
    · exact .bind (sendPayload_conduct s ids payload) fun _ => .done Status.success
  | cancelPayload payload => exact cancelPayload_conduct s payload
  | disconnectFromEndpoint id =>
    refine .bind (asksRelated_looks s id).follows fun related => ?_
    split
    · exact .done Status.outOfOrderApiCall
    · exact .bind (disconnectFromEndpoint_conduct s id) fun _ => .done Status.success
  | stopAllEndpoints => exact .bind (teardown_conduct s) fun _ => .done Status.success
  | setCustomSavePath path =>
    exact .bind (setCustomSavePath_conduct s path) fun _ => .done Status.success

end Operation

end Switchboard
