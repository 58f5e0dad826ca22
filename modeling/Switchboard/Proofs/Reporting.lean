import Switchboard.Exchange
import Switchboard.Proofs.Guard

/-!
# What operations report and call

Which reports the body of an operation may make, and to whom, and which calls it may have recorded:
`Operation.Reports` and `Operation.Calls` list them by operation, and `Errand.Reports` and
`Errand.Calls` add what is done without an operation. Apart from that a body does not touch sessions
nor the history of the transport (`plan_reporting`). So what its reports and its calls keep is kept
by the body, whatever happens to the network in between.
-/

namespace Switchboard

/-- The change makes a report as in `P` or records a call as in `C`, or it is none of the sessions'
business and leaves the history of the transport alone. -/
inductive Reporting (P : SessionName → SessionHook Listener → Prop) (C : CallRecord → Prop) :
    Unit → (Network → Network × List Emission) → Unit → Prop where
  | report {s : SessionName} {h : SessionHook Listener} (hp : P s h) :
    Reporting P C () (fun n => n.onSession s (fun x => h.apply x)) ()
  /-- A request is taken back in one step: its flag is raised and removed. -/
  | rollBack {s : SessionName} {id : EndpointId} (hc : P s (.cancel id))
      (hr : P s (.removeFlag id)) :
    Reporting P C () (fun n => (n.setSession s ((n.session s).rollBack id), [])) ()
  | record {r : CallRecord} (hc : C r) :
    Reporting P C () (fun n => (n.onTransport (·.record r), [])) ()
  | books (f : Transport → Transport) (h : ∀ t, (f t).history = t.history) :
    Reporting P C () (fun n => (n.onTransport f, [])) ()

namespace Job

variable {P : SessionName → SessionHook Listener → Prop} {C : CallRecord → Prop} {s : SessionName}
  {α : Type}

theorem asks_reporting (f : Session → α) : (asks s f).Follows (Reporting P C) () () := .gets _

theorem answer_reporting (c : Answerable) : (answer c).Follows (Reporting P C) () () := .gets _

theorem changeTransport_reporting {f : Transport → Transport} (h : ∀ t, (f t).history = t.history) :
    (changeTransport f).Follows (Reporting P C) () () := .modify (.books f h)

theorem report_reporting {h : SessionHook Listener} (hp : P s h) :
    (report s (fun x => h.apply x)).Follows (Reporting P C) () () := .perform (.report hp)

/-- A change of a session that emits nothing is a report if it does what the report does. -/
theorem changeSession_reporting {h : SessionHook Listener} {f : Session → Session} (hp : P s h)
    (hf : ∀ x, h.apply x = (f x, [])) :
    (changeSession s f).Follows (Reporting P C) () () := by
  have hc : (fun n : Network => (n.setSession s (f (n.session s)), ([] : List Emission))) =
      fun n => n.onSession s (fun x => h.apply x) := by
    funext n
    simp only [Network.onSession, hf]
  refine .modify ?_
  rw [hc]
  exact .report hp

theorem rollBack_reporting {id : EndpointId} (hc : P s (.cancel id)) (hr : P s (.removeFlag id)) :
    (changeSession s (·.rollBack id)).Follows (Reporting P C) () () := .modify (.rollBack hc hr)

end Job

namespace Transport

open Job

variable {P : SessionName → SessionHook Listener → Prop} {C : CallRecord → Prop} {s : SessionName}
  {α : Type}

theorem call_reporting {s : Option SessionName} {c : Call} {body : Job α} (hc : C ⟨s, c⟩)
    (h : body.Follows (Reporting P C) () ()) : (call s c body).Follows (Reporting P C) () () := by
  unfold call
  refine .bind (.modify (.record hc)) fun _ => .bind (.waitUntil _) fun _ => ?_
  refine .bind (changeTransport_reporting fun _ => rfl) fun _ => .bind h fun result => ?_
  exact .bind (changeTransport_reporting fun _ => rfl) fun _ => .done result

theorem ifAllowed_reporting (c : Answerable) {work : Job Unit}
    (h : work.Follows (Reporting P C) () ()) :
    (ifAllowed c work).Follows (Reporting P C) () () := by
  unfold ifAllowed
  refine .bind (answer_reporting c) fun status => ?_
  split
  · exact .bind h fun _ => .done status
  · exact .done status

theorem sendToEach_reporting {p : Payload} {ids : List EndpointId}
    (h : ∀ id ∈ ids, ∀ delivered, P s (.payloadProgress id (.settled p delivered))) :
    (sendToEach s p ids).Follows (Reporting P C) () () := by
  induction ids with
  | nil => exact .done ()
  | cons id ids ih =>
    refine .bind (asks_reporting _) fun delivered => ?_
    refine .bind (report_reporting (h := .payloadProgress id _)
      (h id List.mem_cons_self delivered)) fun _ => ?_
    exact ih fun id' hm => h id' (List.mem_cons_of_mem _ hm)

theorem sendPayload_reporting {p : Payload} {ids : List EndpointId}
    (h : ∀ id ∈ ids, ∀ delivered, P s (.payloadProgress id (.settled p delivered)))
    (hc : C ⟨some s, .sendPayload ids p⟩) :
    (sendPayload s ids p).Follows (Reporting P C) () () :=
  call_reporting hc (.bind (changeTransport_reporting fun _ => rfl) fun _ => sendToEach_reporting h)

theorem disconnectFromEndpoint_reporting {id : EndpointId} (h : P s (.disconnected id))
    (hc : C ⟨some s, .disconnectFromEndpoint id⟩) :
    (disconnectFromEndpoint s id).Follows (Reporting P C) () () :=
  call_reporting hc (report_reporting (h := .disconnected id) h)

theorem stopAdvertising_reporting (h : P s .stoppedAdvertising)
    (hc : C ⟨some s, .stopAdvertising⟩) :
    (stopAdvertising s).Follows (Reporting P C) () () :=
  call_reporting hc (changeSession_reporting h fun _ => rfl)

theorem stopDiscovery_reporting (h : P s .stoppedDiscovery) (hc : C ⟨some s, .stopDiscovery⟩) :
    (stopDiscovery s).Follows (Reporting P C) () () :=
  call_reporting hc (changeSession_reporting h fun _ => rfl)

theorem startListening_reporting {service : String} {l : Listener} {options : ListeningOptions}
    (h : P s (.startedListening service l)) (hc : C ⟨some s, .startListening service options⟩) :
    (startListening s service l options).Follows (Reporting P C) () () := by
  refine call_reporting hc (.bind (asks_reporting _) fun listening => ?_)
  split
  · exact .done Status.alreadyListening
  · exact ifAllowed_reporting _ (changeSession_reporting h fun _ => rfl)

theorem bidFarewell_reporting (h : ∀ s id, P s (.disconnected id))
    (farewells : List (SessionName × EndpointId)) :
    (bidFarewell farewells).Follows (Reporting P C) () () := by
  induction farewells with
  | nil => exact .done ()
  | cons f rest ih =>
    exact .bind (report_reporting (h := .disconnected f.2) (h f.1 f.2)) fun _ => ih

end Transport

namespace Operation

open Job Transport

/-- The reports that the body of an operation may make to its session. -/
inductive Reports : Operation Listener → SessionHook Listener → Prop where
  | startedAdvertising {service options info l} :
    Reports (startAdvertising service options info l) (.startedAdvertising service l)
  | stoppedAdvertising : Reports stopAdvertising .stoppedAdvertising
  | startedDiscovery {service options l} :
    Reports (startDiscovery service options l) (.startedDiscovery service l)
  | stoppedDiscovery : Reports stopDiscovery .stoppedDiscovery
  | endpointFound {service endpoint} :
    Reports (injectEndpoint service endpoint) (.endpointFound endpoint.id endpoint.info service)
  -- a request
  | armed {id info options l} : Reports (requestConnection id info options l) (.armFlag id)
  | requested {id info options l} : Reports (requestConnection id info options l)
      (.connectionInitiated id (requestedInfo id) (some l))
  | cancelled {id info options l} : Reports (requestConnection id info options l) (.cancel id)
  | freed {id info options l} : Reports (requestConnection id info options l) (.removeFlag id)
  -- an answer
  | accepted {id l} : Reports (acceptConnection id l) (.localAccepted id l)
  | connected {id l} : Reports (acceptConnection id l) (.connectionAccepted id)
  | rejected {id} : Reports (rejectConnection id) (.localRejected id)
  -- a connection
  | upgraded {id} : Reports (initiateBandwidthUpgrade id) (.bandwidthChanged id .wifiLan)
  | progress {ids payload id q} (h : id ∈ ids) :
    Reports (sendPayload ids payload) (.payloadProgress id q)
  | disconnected {id} : Reports (disconnectFromEndpoint id) (.disconnected id)
  -- the end of everything
  | dismissed {id} : Reports stopAllEndpoints (.disconnected id)
  | silenced : Reports stopAllEndpoints .stoppedAdvertising
  | blinded : Reports stopAllEndpoints .stoppedDiscovery
  | reset : Reports stopAllEndpoints .reset

/-- The call to the transport that the operation comes down to. -/
def call? {L : Type} : Operation L → Option Call
  | startAdvertising service options info _ => some (.startAdvertising service options info)
  | stopAdvertising => some .stopAdvertising
  | startDiscovery service options _ => some (.startDiscovery service options)
  | stopDiscovery => some .stopDiscovery
  | updateAdvertisingOptions service options => some (.updateAdvertisingOptions service options)
  | updateDiscoveryOptions service options => some (.updateDiscoveryOptions service options)
  | injectEndpoint _ endpoint => some (.injectEndpoint endpoint.id)
  | requestConnection id info options _ => some (.requestConnection id options info)
  | acceptConnection id _ => some (.acceptConnection id)
  | rejectConnection id => some (.rejectConnection id)
  | initiateBandwidthUpgrade id => some (.initiateBandwidthUpgrade id)
  | sendPayload ids payload => some (.sendPayload ids payload)
  | cancelPayload payload => some (.cancelPayload payload)
  | disconnectFromEndpoint id => some (.disconnectFromEndpoint id)
  | stopAllEndpoints => none
  | setCustomSavePath path => some (.setCustomSavePath path)

/-- The calls that the body of an operation of the session may have recorded. -/
inductive Calls (s : SessionName) : Operation Listener → CallRecord → Prop where
  | own {op : Operation Listener} {c : Call} (h : op.call? = some c) : Calls s op ⟨some s, c⟩
  | dismiss {id : EndpointId} : Calls s stopAllEndpoints ⟨some s, .disconnectFromEndpoint id⟩
  | silence : Calls s stopAllEndpoints ⟨some s, .stopAdvertising⟩
  | blind : Calls s stopAllEndpoints ⟨some s, .stopDiscovery⟩
  | release : Calls s stopAllEndpoints ⟨none, .shutdownUpgrades⟩

/-- An operation calls for its own session. -/
theorem eq_of_calls {s k : SessionName} {op : Operation Listener} {r : CallRecord}
    (h : op.Calls s r) (hr : r.session = some k) : s = k := by
  cases h <;> cases hr <;> rfl

variable {P : SessionName → SessionHook Listener → Prop} {C : CallRecord → Prop} (s : SessionName)

theorem requestBody_reporting {id : EndpointId} {info : List UInt8} {options : ConnectionOptions}
    {l : Listener} (h : ∀ h, Reports (requestConnection id info options l) h → P s h)
    (hc : C ⟨some s, .requestConnection id options info⟩) :
    (requestBody s id info options l).Follows (Reporting P C) () () := by
  have hrollBack : (changeSession s (·.rollBack id)).Follows (Reporting P C) () () :=
    rollBack_reporting (h _ .cancelled) (h _ .freed)
  refine .bind (asksRelated_looks s id).follows fun related => ?_
  split
  · exact .done Status.alreadyConnectedToEndpoint
  refine .bind (asks_reporting _) fun cancelled => ?_
  split
  · exact .bind hrollBack fun _ => .done Status.endpointIoError
  refine .bind (changeSession_reporting (h _ .armed) fun _ => rfl) fun _ => ?_
  refine .bind (call_reporting hc (ifAllowed_reporting _ (report_reporting
    (h := .connectionInitiated id (requestedInfo id) (some l)) (h _ .requested)))) fun status => ?_
  split
  · exact .bind hrollBack fun _ => .done status
  · exact .done status

theorem acceptConnection_reporting {id : EndpointId} {l : Listener}
    (h : ∀ h, Reports (.acceptConnection id l) h → P s h)
    (hc : C ⟨some s, .acceptConnection id⟩) :
    (Transport.acceptConnection s id l).Follows (Reporting P C) () () := by
  refine call_reporting hc (ifAllowed_reporting _ ?_)
  refine .bind (changeSession_reporting (h _ .accepted) fun _ => rfl) fun _ => ?_
  refine .bind (.gets _) fun auto => ?_
  split
  · exact report_reporting (h := .connectionAccepted id) (h _ .connected)
  · exact .done ()

theorem disconnectEach_reporting {ids : List EndpointId} (h : ∀ id, P s (.disconnected id))
    (hc : ∀ id, C ⟨some s, .disconnectFromEndpoint id⟩) :
    (disconnectEach s ids).Follows (Reporting P C) () () := by
  induction ids with
  | nil => exact .done ()
  | cons id ids ih =>
    exact .bind (disconnectFromEndpoint_reporting (h id) (hc id)) fun _ => ih

theorem teardown_reporting (h : ∀ h, Reports stopAllEndpoints h → P s h)
    (hc : ∀ r, Calls s stopAllEndpoints r → C r) :
    (teardown s).Follows (Reporting P C) () () := by
  have heach (ids : List EndpointId) : (disconnectEach s ids).Follows (Reporting P C) () () :=
    disconnectEach_reporting s (fun _ => h _ .dismissed) fun _ => hc _ .dismiss
  refine .bind (asks_reporting _) fun pending => .bind (heach _) fun _ => ?_
  refine .bind (asks_reporting _) fun connected => .bind (heach _) fun _ => ?_
  refine .bind (stopAdvertising_reporting (h _ .silenced) (hc _ .silence)) fun _ => ?_
  refine .bind (stopDiscovery_reporting (h _ .blinded) (hc _ .blind)) fun _ => ?_
  refine .bind (call_reporting (hc _ .release) (.done ())) fun _ => ?_
  exact changeSession_reporting (h _ .reset) fun _ => rfl

theorem sendPayload_body_reporting {ids : List EndpointId} {p : Payload}
    (h : ∀ id ∈ ids, ∀ delivered, P s (.payloadProgress id (.settled p delivered)))
    (hc : C ⟨some s, .sendPayload ids p⟩) :
    ((sendPayload ids p : Operation Listener).body s).Follows (Reporting P C) () () := by
  refine .bind (asksAnyConnected_looks s ids).follows fun connected => ?_
  split
  · exact .done Status.endpointUnknown
  · exact .bind (sendPayload_reporting h hc) fun _ => .done Status.success

/-- A body makes no other reports than those listed for its operation, and no other calls. -/
theorem body_reporting (op : Operation Listener) (h : ∀ h, op.Reports h → P s h)
    (hc : ∀ r, op.Calls s r → C r) : (op.body s).Follows (Reporting P C) () () := by
  cases op with
  | startAdvertising service options info l =>
    refine .bind (asks_reporting _) fun on => ?_
    split
    · exact .done Status.alreadyAdvertising
    · exact call_reporting (hc _ (.own rfl)) (ifAllowed_reporting _
        (changeSession_reporting (h _ .startedAdvertising) fun _ => rfl))
  | stopAdvertising =>
    refine .bind (asks_reporting _) fun on => ?_
    split
    · exact .bind (stopAdvertising_reporting (h _ .stoppedAdvertising) (hc _ (.own rfl)))
        fun _ => .done Status.success
    · exact .done Status.success
  | startDiscovery service options l =>
    refine .bind (asks_reporting _) fun on => ?_
    split
    · exact .done Status.alreadyDiscovering
    · exact call_reporting (hc _ (.own rfl)) (ifAllowed_reporting _
        (changeSession_reporting (h _ .startedDiscovery) fun _ => rfl))
  | stopDiscovery =>
    refine .bind (asks_reporting _) fun on => ?_
    split
    · exact .bind (stopDiscovery_reporting (h _ .stoppedDiscovery) (hc _ (.own rfl)))
        fun _ => .done Status.success
    · exact .done Status.success
  | updateAdvertisingOptions service options =>
    exact call_reporting (hc _ (.own rfl)) (answer_reporting _)
  | updateDiscoveryOptions service options =>
    exact call_reporting (hc _ (.own rfl)) (answer_reporting _)
  | injectEndpoint service endpoint =>
    simp only [body]
    split
    · exact .done endpoint.check
    refine .bind (asks_reporting _) fun on => ?_
    split
    · exact .done Status.outOfOrderApiCall
    · exact .bind (call_reporting (hc _ (.own rfl)) (report_reporting
        (h := .endpointFound endpoint.id endpoint.info service) (h _ .endpointFound)))
        fun _ => .done Status.success
  | requestConnection id info options l => exact requestBody_reporting s h (hc _ (.own rfl))
  | acceptConnection id l =>
    refine .bind (answerGuard_looks s id).follows fun status => ?_
    split
    · exact .done status
    refine .bind (asks_reporting _) fun cancelled => ?_
    split
    · exact .done Status.endpointIoError
    · exact acceptConnection_reporting s h (hc _ (.own rfl))
  | rejectConnection id =>
    refine .bind (answerGuard_looks s id).follows fun status => ?_
    split
    · exact .done status
    · exact call_reporting (hc _ (.own rfl)) (ifAllowed_reporting _
        (changeSession_reporting (h _ .rejected) fun _ => rfl))
  | initiateBandwidthUpgrade id =>
    refine .bind (asks_reporting _) fun connected => ?_
    split
    · exact .done Status.outOfOrderApiCall
    · exact .bind (call_reporting (hc _ (.own rfl)) (report_reporting
        (h := .bandwidthChanged id .wifiLan) (h _ .upgraded))) fun _ => .done Status.success
  | sendPayload ids payload =>
    exact sendPayload_body_reporting s (fun id hm _ => h _ (.progress hm)) (hc _ (.own rfl))
  | cancelPayload payload =>
    refine call_reporting (hc _ (.own rfl)) (.bind (answer_reporting _) fun status => ?_)
    split
    · refine .bind (.gets _) fun known => ?_
      split
      · exact .bind (changeTransport_reporting fun _ => rfl) fun _ => .done Status.success
      · exact .done Status.payloadUnknown
    · exact .done status
  | disconnectFromEndpoint id =>
    refine .bind (asksRelated_looks s id).follows fun related => ?_
    split
    · exact .done Status.outOfOrderApiCall
    · exact .bind (disconnectFromEndpoint_reporting (h _ .disconnected) (hc _ (.own rfl)))
        fun _ => .done Status.success
  | stopAllEndpoints => exact .bind (teardown_reporting s h hc) fun _ => .done Status.success
  | setCustomSavePath path =>
    exact .bind (call_reporting (hc _ (.own rfl)) (.done ())) fun _ => .done Status.success

end Operation

namespace Errand

variable {τ : Type}

/-- The reports that an errand may make. -/
inductive Reports : Errand τ → SessionName → SessionHook Listener → Prop where
  | operation {t : Task τ} {h : SessionHook Listener} (hr : t.operation.Reports h) :
    Reports (.operation t) t.session h
  | startedListening {s service l options back} :
    Reports (.listen s service l options back) s (.startedListening service l)
  | stoppedListening {s back} : Reports (.unlisten s back) s .stoppedListening
  | farewell {back s id} : Reports (.stop back) s (.disconnected id)

/-- The calls that an errand may have recorded. -/
inductive Calls : Errand τ → CallRecord → Prop where
  | operation {t : Task τ} {r : CallRecord} (hc : t.operation.Calls t.session r) :
    Calls (.operation t) r
  | startListening {s service l options back} :
    Calls (.listen s service l options back) ⟨some s, .startListening service options⟩
  | stopListening {s back} : Calls (.unlisten s back) ⟨some s, .stopListening⟩
  | stop {back} : Calls (.stop back) ⟨none, .stop⟩

theorem plan_reporting (e : Errand τ) :
    e.plan.Follows (Reporting e.Reports e.Calls) () () := by
  cases e with
  | operation t =>
    exact t.operation.body_reporting t.session (fun _ h => .operation h) fun _ h => .operation h
  | listen s service l options back =>
    exact Transport.startListening_reporting .startedListening .startListening
  | unlisten s back =>
    exact .bind (Transport.call_reporting .stopListening (Job.changeSession_reporting
      .stoppedListening fun _ => rfl)) fun _ => .done Status.success
  | stop back =>
    refine .bind (.bind
      (Transport.call_reporting .stop (Job.changeTransport_reporting fun _ => rfl))
      fun _ => ?_) fun _ => .done Status.success
    refine .bind (.gets _) fun farewells =>
      .bind (Job.changeTransport_reporting fun _ => rfl) fun _ => ?_
    exact Transport.bidFarewell_reporting (fun _ _ => .farewell) farewells

end Errand

end Switchboard
