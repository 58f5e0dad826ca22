import Switchboard.Operation
import Switchboard.Proofs.Listeners

/-!
# Operations with other listeners

An operation with another listener, carried out where every listener is another one, does what the
operation does: it finds the same at every look, waits for the same, makes the same changes and
comes to the same status (`body_matches`).
-/

namespace Switchboard

/-- The second job does with other listeners what the first one does. -/
inductive Plan.Matches {α : Type} (f : Listener → Listener) : Job α → Job α → Prop where
  | done (a : α) : Matches f (.done a) (.done a)
  | look {next next' : Network → Job α}
      (h : ∀ n, Matches f (next n) (next' (n.mapListeners f))) :
    Matches f (.look next) (.look next')
  | act {change change' : Network → Network × List Emission} {next next' : Job α}
      (h : ∀ n, change' (n.mapListeners f) =
        ((change n).1.mapListeners f, (change n).2.map (·.mapListener f)))
      (h' : Matches f next next') : Matches f (.act change next) (.act change' next')
  | await {ready ready' : Network → Bool} {next next' : Job α}
      (h : ∀ n, ready' (n.mapListeners f) = ready n) (h' : Matches f next next') :
    Matches f (.await ready next) (.await ready' next')

/-! ## Steps of a job -/

namespace Plan.Matches

open Job

variable {f : Listener → Listener} {s : SessionName} {α β : Type}

theorem bind {p p' : Job α} {k k' : α → Job β} (h : p.Matches f p')
    (h' : ∀ a, (k a).Matches f (k' a)) : Matches f (p >>= k) (p' >>= k') := by
  rw [Plan.bind_eq, Plan.bind_eq]
  induction h with
  | done a => exact h' a
  | look _ ih => exact .look ih
  | act hc _ ih => exact .act hc ih
  | await hr _ ih => exact .await hr ih

theorem ite {c : Prop} [Decidable c] {p p' q q' : Job α} (h : p.Matches f p')
    (h' : q.Matches f q') : Matches f (if c then p else q) (if c then p' else q') := by
  split
  · exact h
  · exact h'

theorem gets {g : Network → α} (h : ∀ n : Network, g (n.mapListeners f) = g n) :
    Matches f (Plan.gets g) (Plan.gets g) :=
  .look fun n => by
    rw [h]
    exact .done (g n)

/-- No question to a session is about its listeners. -/
theorem asks {g : Session → α} (h : ∀ x : Session, g (x.mapListeners f) = g x) :
    Matches f (asks s g) (asks s g) :=
  gets fun n => by rw [Network.session_mapListeners, h]

theorem answer (c : Answerable) : Matches f (answer c) (answer c) := gets fun _ => rfl

theorem changeTransport (g : Transport → Transport) :
    Matches f (changeTransport g) (changeTransport g) := .act (fun _ => rfl) (.done ())

theorem report (h : SessionHook Listener) :
    Matches f (report s fun x => h.apply x) (report s fun x => (h.map f).apply x) :=
  .act (fun n => Network.onSession_mapListeners f n s h) (.done ())

theorem changeSession {g g' : Session → Session}
    (h : ∀ x : Session, g' (x.mapListeners f) = (g x).mapListeners f) :
    Matches f (changeSession s g) (changeSession s g') :=
  .act (fun n => by
    simp only [Network.session_mapListeners, Network.setSession_mapListeners, h, List.map_nil])
    (.done ())

end Plan.Matches

/-! ## Calls to the transport -/

namespace Transport

open Job

variable {f : Listener → Listener} {s : SessionName} {α : Type}

theorem call_matches (r : Option SessionName) (c : Call) {body body' : Job α}
    (h : body.Matches f body') : (call r c body).Matches f (call r c body') := by
  unfold call
  refine .bind (.changeTransport _) fun _ => ?_
  refine .bind (.await (fun _ => rfl) (.done ())) fun _ => ?_
  refine .bind (.changeTransport _) fun _ => ?_
  refine .bind h fun result => ?_
  exact .bind (.changeTransport _) fun _ => .done result

theorem ifAllowed_matches (c : Answerable) {work work' : Job Unit} (h : work.Matches f work') :
    (ifAllowed c work).Matches f (ifAllowed c work') := by
  unfold ifAllowed
  refine .bind (.answer c) fun status => ?_
  exact .ite (.bind h fun _ => .done status) (.done status)

theorem acceptConnection_matches (id : EndpointId) (l : Listener) :
    (acceptConnection s id l).Matches f (acceptConnection s id (f l)) := by
  refine call_matches _ _ (ifAllowed_matches _ ?_)
  refine .bind (.changeSession fun x => x.modify_mapListeners f id fun _ => rfl) fun _ => ?_
  refine .bind (.gets fun _ => rfl) fun auto => ?_
  exact .ite (.report (.connectionAccepted id)) (.done ())

theorem sendToEach_matches (p : Payload) (ids : List EndpointId) :
    (sendToEach s p ids).Matches f (sendToEach s p ids) := by
  induction ids with
  | nil => exact .done ()
  | cons id ids ih =>
    refine .bind (.asks fun x => x.isConnected_mapListeners f id) fun delivered => ?_
    exact .bind (.report (.payloadProgress id (.settled p delivered))) fun _ => ih

theorem cancelPayload_matches (p : PayloadId) :
    (cancelPayload s p).Matches f (cancelPayload s p) := by
  refine call_matches _ _ (.bind (.answer _) fun status => .ite ?_ (.done status))
  refine .bind (.gets fun _ => rfl) fun known => ?_
  exact .ite (.bind (.changeTransport _) fun _ => .done Status.success)
    (.done Status.payloadUnknown)

theorem disconnectFromEndpoint_matches (id : EndpointId) :
    (disconnectFromEndpoint s id).Matches f (disconnectFromEndpoint s id) :=
  call_matches _ _ (.report (.disconnected id))

theorem startListening_matches (service : String) (l : Listener) (options : ListeningOptions) :
    (startListening s service l options).Matches f (startListening s service (f l) options) := by
  refine call_matches _ _ (.bind (.asks fun x => x.isListening_mapListeners f) fun on => ?_)
  exact .ite (.done Status.alreadyListening) (ifAllowed_matches _ (.changeSession fun _ => rfl))

theorem stopAdvertising_matches : (stopAdvertising s).Matches f (stopAdvertising s) :=
  call_matches _ _ (.changeSession fun _ => rfl)

theorem stopDiscovery_matches : (stopDiscovery s).Matches f (stopDiscovery s) :=
  call_matches _ _ (.changeSession fun _ => rfl)

theorem stopListening_matches : (stopListening s).Matches f (stopListening s) :=
  call_matches _ _ (.changeSession fun _ => rfl)

theorem bidFarewell_matches (farewells : List (SessionName × EndpointId)) :
    (bidFarewell farewells).Matches f (bidFarewell farewells) := by
  induction farewells with
  | nil => exact .done ()
  | cons x rest ih => exact .bind (.report (.disconnected x.2)) fun _ => ih

theorem stop_matches : stop.Matches f stop := by
  refine .bind (call_matches _ _ (.changeTransport _)) fun _ => ?_
  refine .bind (.gets fun _ => rfl) fun farewells => ?_
  exact .bind (.changeTransport _) fun _ => bidFarewell_matches farewells

end Transport

/-! ## Operations -/

namespace Operation

open Job Transport

variable {f : Listener → Listener} {s : SessionName}

theorem answerGuard_matches (id : EndpointId) :
    (answerGuard s id).Matches f (answerGuard s id) := by
  refine .bind (.asks fun x => x.isConnected_mapListeners f id) fun connected => ?_
  refine .ite (.done Status.alreadyConnectedToEndpoint) ?_
  refine .bind (.asks fun x => x.hasResponded_mapListeners f id) fun responded => ?_
  exact .ite (.done Status.outOfOrderApiCall) (.done Status.success)

theorem asksRelated_matches (id : EndpointId) :
    (asksRelated s id).Matches f (asksRelated s id) := by
  refine .bind (.asks fun x => x.isConnected_mapListeners f id) fun connected => ?_
  exact .ite (.done true) (.asks fun x => x.isPending_mapListeners f id)

theorem asksAnyConnected_matches (ids : List EndpointId) :
    (asksAnyConnected s ids).Matches f (asksAnyConnected s ids) := by
  induction ids with
  | nil => exact .done false
  | cons id ids ih =>
    refine .bind (.asks fun x => x.isConnected_mapListeners f id) fun connected => ?_
    exact .ite (.done true) ih

theorem requestBody_matches (id : EndpointId) (info : List UInt8) (options : ConnectionOptions)
    (l : Listener) :
    (requestBody s id info options l).Matches f (requestBody s id info options (f l)) := by
  refine .bind (asksRelated_matches id) fun related => ?_
  refine .ite (.done Status.alreadyConnectedToEndpoint) ?_
  refine .bind (.asks fun x => x.isCancelled_mapListeners f id) fun cancelled => ?_
  refine .ite (.bind (.changeSession fun _ => rfl) fun _ => .done Status.endpointIoError) ?_
  refine .bind (.changeSession fun _ => rfl) fun _ => ?_
  refine .bind (call_matches _ _ (ifAllowed_matches _
    (.report (.connectionInitiated id (requestedInfo id) (some l))))) fun status => ?_
  exact .ite (.bind (.changeSession fun _ => rfl) fun _ => .done status) (.done status)

theorem disconnectEach_matches (ids : List EndpointId) :
    (disconnectEach s ids).Matches f (disconnectEach s ids) := by
  induction ids with
  | nil => exact .done ()
  | cons id ids ih => exact .bind (disconnectFromEndpoint_matches id) fun _ => ih

theorem teardown_matches : (teardown s).Matches f (teardown s) := by
  refine .bind (.asks fun x => x.pendingEndpoints_mapListeners f) fun pending => ?_
  refine .bind (disconnectEach_matches pending) fun _ => ?_
  refine .bind (.asks fun x => x.connectedEndpoints_mapListeners f) fun connected => ?_
  refine .bind (disconnectEach_matches connected) fun _ => ?_
  refine .bind stopAdvertising_matches fun _ => .bind stopDiscovery_matches fun _ => ?_
  refine .bind (call_matches _ _ (.done ())) fun _ => ?_
  exact .changeSession fun _ => rfl

/-- An operation with another listener does with other listeners all around what the operation does
with the old ones. -/
theorem body_matches (op : Operation Listener) : (op.body s).Matches f ((op.map f).body s) := by
  cases op with
  | startAdvertising service options info l =>
    refine .bind (.asks fun x => x.isAdvertising_mapListeners f) fun on => ?_
    exact .ite (.done Status.alreadyAdvertising)
      (call_matches _ _ (ifAllowed_matches _ (.changeSession fun _ => rfl)))
  | stopAdvertising =>
    refine .bind (.asks fun x => x.isAdvertising_mapListeners f) fun on => ?_
    exact .ite (.bind stopAdvertising_matches fun _ => .done Status.success) (.done Status.success)
  | startDiscovery service options l =>
    refine .bind (.asks fun x => x.isDiscovering_mapListeners f) fun on => ?_
    exact .ite (.done Status.alreadyDiscovering)
      (call_matches _ _ (ifAllowed_matches _ (.changeSession fun _ => rfl)))
  | stopDiscovery =>
    refine .bind (.asks fun x => x.isDiscovering_mapListeners f) fun on => ?_
    exact .ite (.bind stopDiscovery_matches fun _ => .done Status.success) (.done Status.success)
  | updateAdvertisingOptions | updateDiscoveryOptions => exact call_matches _ _ (.answer _)
  | injectEndpoint service endpoint =>
    refine .ite (.done endpoint.check) ?_
    refine .bind (.asks fun x => x.isDiscovering_mapListeners f) fun on => ?_
    refine .ite (.done Status.outOfOrderApiCall) ?_
    exact .bind (call_matches _ _ (.report (.endpointFound endpoint.id endpoint.info service)))
      fun _ => .done Status.success
  | requestConnection id info options l => exact requestBody_matches id info options l
  | acceptConnection id l =>
    refine .bind (answerGuard_matches id) fun status => ?_
    refine .ite (.done status) ?_
    refine .bind (.asks fun x => x.isCancelled_mapListeners f id) fun cancelled => ?_
    exact .ite (.done Status.endpointIoError) (acceptConnection_matches id l)
  | rejectConnection id =>
    refine .bind (answerGuard_matches id) fun status => ?_
    exact .ite (.done status) (call_matches _ _ (ifAllowed_matches _
      (.changeSession fun x => x.modify_mapListeners f id fun _ => rfl)))
  | initiateBandwidthUpgrade id =>
    refine .bind (.asks fun x => x.isConnected_mapListeners f id) fun connected => ?_
    refine .ite (.done Status.outOfOrderApiCall) ?_
    exact .bind (call_matches _ _ (.report (.bandwidthChanged id .wifiLan)))
      fun _ => .done Status.success
  | sendPayload ids p =>
    refine .bind (asksAnyConnected_matches ids) fun connected => ?_
    refine .ite (.done Status.endpointUnknown) ?_
    refine .bind (call_matches _ _ ?_) fun _ => .done Status.success
    exact .bind (.changeTransport _) fun _ => sendToEach_matches p ids
  | cancelPayload p => exact cancelPayload_matches p
  | disconnectFromEndpoint id =>
    refine .bind (asksRelated_matches id) fun related => ?_
    exact .ite (.done Status.outOfOrderApiCall)
      (.bind (disconnectFromEndpoint_matches id) fun _ => .done Status.success)
  | stopAllEndpoints => exact .bind teardown_matches fun _ => .done Status.success
  | setCustomSavePath path =>
    exact .bind (call_matches _ _ (.done ())) fun _ => .done Status.success

theorem map_map {L M N : Type} (f : L → M) (g : M → N) (op : Operation L) :
    (op.map f).map g = op.map fun l => g (f l) := by
  cases op <;> rfl

theorem map_eq_self {op : Operation Listener} (h : ∀ l, op.listener? = some l → f l = l) :
    op.map f = op := by
  cases op with
  | startAdvertising _ _ _ l | startDiscovery _ _ l | requestConnection _ _ _ l
  | acceptConnection _ l => simp only [map, h l rfl]
  | _ => rfl

theorem prepare_map (op : Operation Listener) (x : Session) :
    (op.map f).prepare (x.mapListeners f) = (op.prepare x).mapListeners f := by
  cases op <;> rfl

end Operation

end Switchboard
