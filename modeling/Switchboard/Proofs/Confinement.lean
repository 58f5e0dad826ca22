import Switchboard.Proofs.Agreement

/-!
# Confinement

A job works for one session, and for no more of it than its remit covers: what it finds when it
looks depends on that part of the session and on how the transport is set to answer, and what it
does is report to that part, to no listener but its own. Of the transport it only changes the books.
`body_confined` says so of every operation. Apart from cancelling a payload, no operation looks
beyond its own session, and an operation on one endpoint not beyond that endpoint.
-/

namespace Switchboard

/-- Two transports that are set to answer in the same way. -/
structure Transport.SameScript (t u : Transport) : Prop where
  outcomes : t.outcomes = u.outcomes
  autoAccept : t.autoAccept = u.autoAccept
  gateShut : t.gateShut = u.gateShut

namespace Network

/-- Several reports to one session, one after the other. -/
def reportAll (n : Network) (s : SessionName) (hs : List (SessionHook Listener)) :
    Network × List Emission := n.onSession s fun x => SessionHook.applyAll x hs

theorem session_reportAll (n : Network) (s k : SessionName) (hs : List (SessionHook Listener)) :
    (n.reportAll s hs).1.session k =
      if s = k then (SessionHook.applyAll (n.session s) hs).1 else n.session k :=
  session_setSession ..

theorem emitted_reportAll (n : Network) (s : SessionName) (hs : List (SessionHook Listener)) :
    (n.reportAll s hs).2 = (SessionHook.applyAll (n.session s) hs).2 := rfl

end Network

/-- How much of the network something depends on. -/
inductive Scope where
  | network
  /-- One session, and the answers of the transport. -/
  | session
  /-- One endpoint of one session with its activities, and the answers of the transport. -/
  | endpoint (id : EndpointId)
  deriving DecidableEq, Repr

/-- What a job is for: a session, some of it, and a listener of its own. -/
structure Remit where
  session : SessionName
  scope : Scope
  listener? : Option Listener := none
  deriving DecidableEq, Repr

namespace Remit

/-- The networks are the same as far as the remit goes. -/
def Alike (r : Remit) (n n' : Network) : Prop :=
  match r.scope with
  | .network => n = n'
  | .session => n.session r.session = n'.session r.session ∧ n.transport.SameScript n'.transport
  | .endpoint id => (n.session r.session).AgreesAt id (n'.session r.session) ∧
      n.transport.SameScript n'.transport

/-- The report does not go beyond the remit. -/
def Allows (r : Remit) (h : SessionHook Listener) : Prop :=
  (∀ id, r.scope = .endpoint id → h.endpoint? = some id) ∧
    ∀ l, h.listener? = some l → r.listener? = some l

variable {r : Remit} {h : SessionHook Listener}

/-- Whoever works for a session may report to all of it, and to a listener of its own. -/
theorem allows_of_session (hs : r.scope = .session)
    (hl : h.listener? = none ∨ h.listener? = r.listener?) : r.Allows h := by
  refine ⟨fun id he => ?_, fun l he => ?_⟩
  · rw [hs] at he
    cases he
  · rcases hl with hl | hl
    · rw [hl] at he
      cases he
    · exact hl ▸ he

/-- Whoever works for an endpoint may report what is about it, and to a listener of its own. -/
theorem allows_of_endpoint {id : EndpointId} (hs : r.scope = .endpoint id)
    (hid : h.endpoint? = some id) (hl : h.listener? = none ∨ h.listener? = r.listener?) :
    r.Allows h := by
  refine ⟨fun id' he => ?_, fun l he => ?_⟩
  · rw [hs] at he
    cases he
    exact hid
  · rcases hl with hl | hl
    · rw [hl] at he
      cases he
    · exact hl ▸ he

theorem Alike.script {r : Remit} {n n' : Network} (h : r.Alike n n') :
    n.transport.SameScript n'.transport := by
  unfold Alike at h
  split at h
  · subst h
    exact ⟨rfl, rfl, rfl⟩
  · exact h.2
  · exact h.2

end Remit

/-- The job keeps to its remit. -/
inductive Plan.Confined {α : Type} (r : Remit) : Job α → Prop where
  | done (a : α) : Confined r (.done a)
  | look {next : Network → Job α} (h : ∀ n n', r.Alike n n' → next n = next n')
      (h' : ∀ n, Confined r (next n)) : Confined r (.look next)
  | reports {change : Network → Network × List Emission} {next : Job α}
      (hs : List (SessionHook Listener)) (h : ∀ k ∈ hs, r.Allows k)
      (hc : ∀ n, change n = n.reportAll r.session hs)
      (h' : Confined r next) : Confined r (.act change next)
  | books {f : Transport → Transport} {next : Job α} (h : ∀ t : Transport, t.SameScript (f t))
      (h' : Confined r next) : Confined r (.act (fun n => (n.onTransport f, [])) next)
  | await {ready : Network → Bool} {next : Job α} (h : ∀ n n', r.Alike n n' → ready n = ready n')
      (h' : Confined r next) : Confined r (.await ready next)

/-! ## Steps of a job -/

namespace Plan.Confined

open Job

variable {r : Remit} {α β : Type}

theorem bind {p : Job α} {f : α → Job β} (h : p.Confined r) (h' : ∀ a, (f a).Confined r) :
    Confined r (p >>= f) := by
  rw [Plan.bind_eq]
  induction h with
  | done a => exact h' a
  | look hn _ ih => exact .look (fun n n' ha => congrArg (·.bind f) (hn n n' ha)) ih
  | reports hs ha hc _ ih => exact .reports hs ha hc ih
  | books hb _ ih => exact .books hb ih
  | await hr _ ih => exact .await hr ih

theorem gets {f : Network → α} (h : ∀ n n', r.Alike n n' → f n = f n') :
    Confined r (Plan.gets f) :=
  .look (fun n n' ha => congrArg Plan.done (h n n' ha)) fun n => .done (f n)

theorem answer (c : Answerable) : (answer c).Confined r :=
  gets fun n n' h => by
    unfold Transport.outcome
    rw [h.script.outcomes]

theorem changeTransport {f : Transport → Transport} (h : ∀ t : Transport, t.SameScript (f t)) :
    (changeTransport f).Confined r := .books h (.done ())

theorem report {h : SessionHook Listener} (ha : r.Allows h) :
    (Job.report r.session (fun x => h.apply x)).Confined r :=
  .reports [h] (fun k hk => List.mem_singleton.mp hk ▸ ha)
    (fun n => by simp only [Network.reportAll, SessionHook.applyAll, List.append_nil]) (.done ())

/-- A change of the session that emits nothing is a report if it does what the report does. -/
theorem changeSession (h : SessionHook Listener) {f : Session → Session}
    (hf : ∀ x, h.apply x = (f x, [])) (ha : r.Allows h) :
    (Job.changeSession r.session f).Confined r :=
  .reports [h] (fun k hk => List.mem_singleton.mp hk ▸ ha)
    (fun n => by
      simp only [Network.reportAll, Network.onSession, SessionHook.applyAll, hf, List.append_nil])
    (.done ())

theorem rollBack {id : EndpointId} (hc : r.Allows (.cancel id)) (hr : r.Allows (.removeFlag id)) :
    (Job.changeSession r.session (·.rollBack id)).Confined r := by
  refine .reports [.cancel id, .removeFlag id] (fun k hk => ?_) (fun n => rfl) (.done ())
  simp only [List.mem_cons, List.not_mem_nil, or_false] at hk
  rcases hk with rfl | rfl
  · exact hc
  · exact hr

end Plan.Confined

namespace Transport

open Job

variable {r : Remit} {α : Type}

theorem SameScript.refl (t : Transport) : t.SameScript t := ⟨rfl, rfl, rfl⟩

theorem SameScript.trans {t u v : Transport} (h : t.SameScript u) (h' : u.SameScript v) :
    t.SameScript v :=
  ⟨h.outcomes.trans h'.outcomes, h.autoAccept.trans h'.autoAccept, h.gateShut.trans h'.gateShut⟩

theorem SameScript.symm {t u : Transport} (h : t.SameScript u) : u.SameScript t :=
  ⟨h.outcomes.symm, h.autoAccept.symm, h.gateShut.symm⟩

theorem call_confined (s : Option SessionName) (c : Call) {body : Job α} (h : body.Confined r) :
    (call s c body).Confined r := by
  unfold call
  refine .bind (.changeTransport fun t => ⟨rfl, rfl, rfl⟩) fun _ => ?_
  refine .bind (.await (fun n n' ha => by rw [ha.script.gateShut]) (.done ())) fun _ => ?_
  refine .bind (.changeTransport fun t => ⟨rfl, rfl, rfl⟩) fun _ => ?_
  refine .bind h fun result => ?_
  exact .bind (.changeTransport fun t => ⟨rfl, rfl, rfl⟩) fun _ => .done result

theorem ifAllowed_confined (c : Answerable) {work : Job Unit} (h : work.Confined r) :
    (ifAllowed c work).Confined r := by
  unfold ifAllowed
  refine .bind (.answer c) fun status => ?_
  split
  · exact .bind h fun _ => .done status
  · exact .done status

theorem requestConnection_confined {id : EndpointId} {info : List UInt8}
    {options : ConnectionOptions} {l : Listener}
    (h : r.Allows (.connectionInitiated id (requestedInfo id) (some l))) :
    (requestConnection r.session id info options l).Confined r :=
  call_confined _ _ (ifAllowed_confined _ (.report h))

theorem acceptConnection_confined {id : EndpointId} {l : Listener}
    (h : r.Allows (.localAccepted id l)) (h' : r.Allows (.connectionAccepted id)) :
    (acceptConnection r.session id l).Confined r := by
  refine call_confined _ _ (ifAllowed_confined _ ?_)
  refine .bind (.changeSession (.localAccepted id l) (fun _ => rfl) h) fun _ => ?_
  refine .bind (.gets fun n n' ha => ha.script.autoAccept) fun auto => ?_
  split
  · exact .report h'
  · exact .done ()

theorem startListening_confined {service : String} {l : Listener} {options : ListeningOptions}
    (hs : r.scope = .session) (h : r.Allows (.startedListening service l)) :
    (startListening r.session service l options).Confined r := by
  refine call_confined _ _ (.bind (.gets fun n n' ha => ?_) fun listening => ?_)
  · unfold Remit.Alike at ha
    rw [hs] at ha
    rw [ha.1]
  · split
    · exact .done Status.alreadyListening
    · exact ifAllowed_confined _ (.changeSession (.startedListening service l) (fun _ => rfl) h)

theorem stopListening_confined (h : r.Allows .stoppedListening) :
    (stopListening r.session).Confined r :=
  call_confined _ _ (.changeSession .stoppedListening (fun _ => rfl) h)

theorem disconnectFromEndpoint_confined {id : EndpointId} (h : r.Allows (.disconnected id)) :
    (disconnectFromEndpoint r.session id).Confined r := call_confined _ _ (.report h)

theorem sendToEach_confined {p : Payload} {ids : List EndpointId}
    (h : ∀ id ∈ ids, ∀ q, r.Allows (.payloadProgress id q))
    (hc : ∀ id ∈ ids, ∀ n n', r.Alike n n' →
      (n.session r.session).isConnected id = (n'.session r.session).isConnected id) :
    (sendToEach r.session p ids).Confined r := by
  induction ids with
  | nil => exact .done ()
  | cons id ids ih =>
    refine .bind (.gets (hc id List.mem_cons_self)) fun delivered => ?_
    refine .bind (.report (h id List.mem_cons_self _)) fun _ => ?_
    exact ih (fun k hk => h k (List.mem_cons_of_mem _ hk))
      (fun k hk => hc k (List.mem_cons_of_mem _ hk))

end Transport

namespace Operation

open Job Transport Remit

variable {L : Type}

def scope : Operation L → Scope
  | requestConnection id .. | acceptConnection id _ | rejectConnection id
  | initiateBandwidthUpgrade id | sendPayload [id] _ | disconnectFromEndpoint id => .endpoint id
  | cancelPayload _ => .network
  | _ => .session

def remit (s : SessionName) (op : Operation Listener) : Remit := ⟨s, op.scope, op.listener?⟩

/-- An operation on a session finds what the session says. -/
theorem asks_confined {s : SessionName} {op : Operation Listener} {α : Type}
    (hs : op.scope = .session) (f : Session → α) : (asks s f).Confined (op.remit s) := by
  refine .gets fun n n' h => ?_
  unfold Remit.Alike at h
  rw [show (op.remit s).scope = .session from hs] at h
  exact congrArg f h.1

/-- An operation on an endpoint finds what both sessions say that agree on it. -/
theorem asksAt_confined {s : SessionName} {op : Operation Listener} {id : EndpointId} {α : Type}
    (hs : op.scope = .endpoint id) {f : Session → α}
    (hf : ∀ x y : Session, x.AgreesAt id y → f x = f y) :
    (asks s f).Confined (op.remit s) := by
  refine .gets fun n n' h => ?_
  unfold Remit.Alike at h
  rw [show (op.remit s).scope = .endpoint id from hs] at h
  exact hf _ _ h.1

section Bodies

variable {s : SessionName}

theorem answerGuard_confined {op : Operation Listener} {id : EndpointId}
    (hs : op.scope = .endpoint id) : (answerGuard s id).Confined (op.remit s) := by
  refine .bind (asksAt_confined hs fun _ _ h => h.isConnected) fun connected => ?_
  split
  · exact .done Status.alreadyConnectedToEndpoint
  · refine .bind (asksAt_confined hs fun _ _ h => h.hasResponded) fun responded => ?_
    split
    · exact .done Status.outOfOrderApiCall
    · exact .done Status.success

theorem asksRelated_confined {op : Operation Listener} {id : EndpointId}
    (hs : op.scope = .endpoint id) : (asksRelated s id).Confined (op.remit s) := by
  refine .bind (asksAt_confined hs fun _ _ h => h.isConnected) fun connected => ?_
  split
  · exact .done true
  · exact asksAt_confined hs fun _ _ h => h.isPending

theorem asksAnyConnected_confined {op : Operation Listener} {ids : List EndpointId}
    (hc : ∀ id ∈ ids, ∀ n n', (op.remit s).Alike n n' →
      (n.session s).isConnected id = (n'.session s).isConnected id) :
    (asksAnyConnected s ids).Confined (op.remit s) := by
  induction ids with
  | nil => exact .done false
  | cons id ids ih =>
    refine .bind (.gets (hc id List.mem_cons_self)) fun connected => ?_
    split
    · exact .done true
    · exact ih fun k hk => hc k (List.mem_cons_of_mem _ hk)

theorem requestBody_confined (id : EndpointId) (info : List UInt8) (options : ConnectionOptions)
    (l : Listener) :
    (requestBody s id info options l).Confined
      (remit s (.requestConnection id info options l)) := by
  let op : Operation Listener := .requestConnection id info options l
  have hs : op.scope = .endpoint id := rfl
  have hrollBack : (changeSession s (·.rollBack id)).Confined (op.remit s) :=
    .rollBack (allows_of_endpoint hs rfl (.inl rfl)) (allows_of_endpoint hs rfl (.inl rfl))
  refine .bind (asksRelated_confined hs) fun related => ?_
  split
  · exact .done Status.alreadyConnectedToEndpoint
  refine .bind (asksAt_confined hs fun _ _ h => h.cancelled) fun cancelled => ?_
  split
  · exact .bind hrollBack fun _ => .done Status.endpointIoError
  refine .bind (.changeSession (.armFlag id) (fun _ => rfl)
    (allows_of_endpoint hs rfl (.inl rfl))) fun _ => ?_
  refine .bind (requestConnection_confined (allows_of_endpoint hs rfl (.inr rfl)))
    fun status => ?_
  split
  · exact .bind hrollBack fun _ => .done status
  · exact .done status

theorem disconnectEach_confined {op : Operation Listener} (hs : op.scope = .session)
    (ids : List EndpointId) : (disconnectEach s ids).Confined (op.remit s) := by
  induction ids with
  | nil => exact .done ()
  | cons id ids ih =>
    exact .bind (disconnectFromEndpoint_confined (allows_of_session hs (.inl rfl))) fun _ => ih

theorem teardown_confined : (teardown s).Confined (remit s .stopAllEndpoints) := by
  let op : Operation Listener := .stopAllEndpoints
  have hs : op.scope = .session := rfl
  refine .bind (asks_confined hs _) fun pending => ?_
  refine .bind (disconnectEach_confined hs _) fun _ => ?_
  refine .bind (asks_confined hs _) fun connected => ?_
  refine .bind (disconnectEach_confined hs _) fun _ => ?_
  refine .bind (call_confined _ _ (.changeSession .stoppedAdvertising (fun _ => rfl)
    (allows_of_session hs (.inl rfl)))) fun _ => ?_
  refine .bind (call_confined _ _ (.changeSession .stoppedDiscovery (fun _ => rfl)
    (allows_of_session hs (.inl rfl)))) fun _ => ?_
  refine .bind (call_confined _ _ (.done ())) fun _ => ?_
  exact .changeSession .reset (fun _ => rfl) (allows_of_session hs (.inl rfl))

/-- To send a payload depends on which of its endpoints are connected, and reports to these. -/
theorem sendBody_confined {op : Operation Listener} {ids : List EndpointId} (p : Payload)
    (ha : ∀ id ∈ ids, ∀ q, (op.remit s).Allows (.payloadProgress id q))
    (hc : ∀ id ∈ ids, ∀ n n', (op.remit s).Alike n n' →
      (n.session s).isConnected id = (n'.session s).isConnected id) :
    ((sendPayload ids p : Operation Listener).body s).Confined (op.remit s) := by
  refine .bind (asksAnyConnected_confined hc) fun connected => ?_
  split
  · exact .done Status.endpointUnknown
  refine .bind (call_confined _ _ ?_) fun _ => .done Status.success
  exact .bind (.changeTransport fun t => ⟨rfl, rfl, rfl⟩) fun _ => sendToEach_confined ha hc

theorem sendPayload_confined (ids : List EndpointId) (p : Payload) :
    ((sendPayload ids p : Operation Listener).body s).Confined (remit s (.sendPayload ids p)) := by
  match ids with
  | [id] =>
    refine sendBody_confined p (fun id' hm q => ?_) (fun id' hm n n' h => ?_)
    · rw [List.mem_singleton.mp hm]
      exact allows_of_endpoint rfl rfl (.inl rfl)
    · rw [List.mem_singleton.mp hm]
      exact h.1.isConnected
  | [] => exact sendBody_confined p (fun _ hm => by cases hm) (fun _ hm => by cases hm)
  | id₁ :: id₂ :: ids =>
    exact sendBody_confined p (fun id hm q => allows_of_session rfl (.inl rfl))
      (fun id hm n n' h => congrArg (·.isConnected id) h.1)

/-- Every operation keeps to its remit: the session it is for, the one endpoint it names if it names
one, and the listener it comes with. -/
theorem body_confined (op : Operation Listener) : (op.body s).Confined (op.remit s) := by
  cases op with
  | startAdvertising service options info l =>
    refine .bind (asks_confined rfl _) fun on => ?_
    split
    · exact .done Status.alreadyAdvertising
    · exact call_confined _ _ (ifAllowed_confined _ (.changeSession (.startedAdvertising service l)
        (fun _ => rfl) (allows_of_session rfl (.inr rfl))))
  | stopAdvertising =>
    refine .bind (asks_confined rfl _) fun on => ?_
    split
    · exact .bind (call_confined _ _ (.changeSession .stoppedAdvertising (fun _ => rfl)
        (allows_of_session rfl (.inl rfl)))) fun _ => .done Status.success
    · exact .done Status.success
  | startDiscovery service options l =>
    refine .bind (asks_confined rfl _) fun on => ?_
    split
    · exact .done Status.alreadyDiscovering
    · exact call_confined _ _ (ifAllowed_confined _ (.changeSession (.startedDiscovery service l)
        (fun _ => rfl) (allows_of_session rfl (.inr rfl))))
  | stopDiscovery =>
    refine .bind (asks_confined rfl _) fun on => ?_
    split
    · exact .bind (call_confined _ _ (.changeSession .stoppedDiscovery (fun _ => rfl)
        (allows_of_session rfl (.inl rfl)))) fun _ => .done Status.success
    · exact .done Status.success
  | updateAdvertisingOptions service options => exact call_confined _ _ (.answer _)
  | updateDiscoveryOptions service options => exact call_confined _ _ (.answer _)
  | injectEndpoint service endpoint =>
    simp only [body]
    split
    · exact .done endpoint.check
    refine .bind (asks_confined rfl _) fun on => ?_
    split
    · exact .done Status.outOfOrderApiCall
    · exact .bind (call_confined _ _ (.report
        (h := .endpointFound endpoint.id endpoint.info service)
        (allows_of_session rfl (.inl rfl)))) fun _ => .done Status.success
  | requestConnection id info options l => exact requestBody_confined id info options l
  | acceptConnection id l =>
    refine .bind (answerGuard_confined rfl) fun status => ?_
    split
    · exact .done status
    refine .bind (asksAt_confined rfl fun _ _ h => h.cancelled) fun cancelled => ?_
    split
    · exact .done Status.endpointIoError
    · exact acceptConnection_confined (allows_of_endpoint rfl rfl (.inr rfl))
        (allows_of_endpoint rfl rfl (.inl rfl))
  | rejectConnection id =>
    refine .bind (answerGuard_confined rfl) fun status => ?_
    split
    · exact .done status
    · exact call_confined _ _ (ifAllowed_confined _ (.changeSession (.localRejected id)
        (fun _ => rfl) (allows_of_endpoint rfl rfl (.inl rfl))))
  | initiateBandwidthUpgrade id =>
    refine .bind (asksAt_confined rfl fun _ _ h => h.isConnected) fun connected => ?_
    split
    · exact .done Status.outOfOrderApiCall
    · exact .bind (call_confined _ _ (.report (h := .bandwidthChanged id .wifiLan)
        (allows_of_endpoint rfl rfl (.inl rfl)))) fun _ => .done Status.success
  | sendPayload ids p => exact sendPayload_confined ids p
  | cancelPayload payload =>
    have heq : ∀ n n', (remit s (.cancelPayload payload)).Alike n n' → n = n' := fun _ _ h => h
    refine call_confined _ _ (.bind (.answer _) fun status => ?_)
    split
    · refine .bind (.gets fun n n' h => by rw [heq n n' h]) fun known => ?_
      split
      · exact .bind (.changeTransport fun t => ⟨rfl, rfl, rfl⟩) fun _ => .done Status.success
      · exact .done Status.payloadUnknown
    · exact .done status
  | disconnectFromEndpoint id =>
    refine .bind (asksRelated_confined rfl) fun related => ?_
    split
    · exact .done Status.outOfOrderApiCall
    · exact .bind (disconnectFromEndpoint_confined (allows_of_endpoint rfl rfl (.inl rfl)))
        fun _ => .done Status.success
  | stopAllEndpoints => exact .bind teardown_confined fun _ => .done Status.success
  | setCustomSavePath path =>
    exact .bind (call_confined _ _ (.done ())) fun _ => .done Status.success

end Bodies

/-- What is prepared for an operation keeps to its remit, too. -/
theorem allows_preparing (s : SessionName) (op : Operation Listener) :
    ∀ h ∈ op.preparing, (op.remit s).Allows h := by
  intro h hm
  cases op with
  | requestConnection | rejectConnection | disconnectFromEndpoint =>
    rw [List.mem_singleton.mp hm]
    exact allows_of_endpoint rfl rfl (.inl rfl)
  | stopAllEndpoints =>
    rw [List.mem_singleton.mp hm]
    exact allows_of_session rfl (.inl rfl)
  | _ => cases hm

end Operation

end Switchboard
