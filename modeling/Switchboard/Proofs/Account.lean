import Switchboard.Operation
import Switchboard.Proofs.Session

/-!
# Accounts

What a job does when nothing comes in between: its result, the calls it makes, and what is reported
to the one session it works for. `Operation.account` is the account of each operation, read off the
session and the outcomes set beforehand; `body_gives` says that the body keeps to it.
-/

namespace Switchboard

/-- Applies reports one after another, with all that is emitted. -/
def SessionHook.applyAll (s : Session) : List (SessionHook Listener) → Session × List Emission
  | [] => (s, [])
  | h :: hs => ((applyAll (h.apply s).1 hs).1, (h.apply s).2 ++ (applyAll (h.apply s).1 hs).2)

theorem SessionHook.applyAll_append (s : Session) (hs ks : List (SessionHook Listener)) :
    applyAll s (hs ++ ks) =
      ((applyAll (applyAll s hs).1 ks).1,
        (applyAll s hs).2 ++ (applyAll (applyAll s hs).1 ks).2) := by
  induction hs generalizing s with
  | nil => rfl
  | cons h hs ih => simp only [List.cons_append, applyAll, ih, List.append_assoc]

structure Account (α : Type) where
  result : α
  calls : List CallRecord := []
  reports : List (SessionHook Listener) := []

/-- Carried out on the network, the job does what the account says, for the session it names. -/
structure Job.Gives {α : Type} (s : SessionName) (n : Network) (job : Job α) (a : Account α) :
    Prop where
  result : (job.run n).1 = a.result
  session : (job.run n).2.1.session s = (SessionHook.applyAll (n.session s) a.reports).1
  emitted : (job.run n).2.2 = (SessionHook.applyAll (n.session s) a.reports).2
  others : ∀ k, s ≠ k → (job.run n).2.1.session k = n.session k
  history : (job.run n).2.1.transport.history = n.transport.history ++ a.calls
  outcomes : (job.run n).2.1.transport.outcomes = n.transport.outcomes
  autoAccept : (job.run n).2.1.transport.autoAccept = n.transport.autoAccept

theorem Transport.outcome_congr {t u : Transport} (h : u.outcomes = t.outcomes) (c : Answerable) :
    u.outcome c = t.outcome c := by
  unfold outcome
  rw [h]

namespace Job

variable {α β : Type} {s : SessionName} {n : Network}

/-! ## Steps of a job -/

namespace Gives

theorem of_run_eq {p q : Job α} {a : Account α} (h : Gives s n q a) (hrun : p.run n = q.run n) :
    Gives s n p a := by
  constructor <;> rw [hrun]
  · exact h.result
  · exact h.session
  · exact h.emitted
  · exact h.others
  · exact h.history
  · exact h.outcomes
  · exact h.autoAccept

/-- A job whose reports leave its session as it is leaves every session as it is. -/
theorem keeps_sessions {p : Job α} {a : Account α} (h : Gives s n p a)
    (hs : (SessionHook.applyAll (n.session s) a.reports).1 = n.session s) (k : SessionName) :
    (p.run n).2.1.session k = n.session k := by
  by_cases hk : s = k
  · exact hk ▸ h.session.trans hs
  · exact h.others k hk

theorem done (a : α) : Gives s n (.done a) ⟨a, [], []⟩ :=
  ⟨rfl, rfl, rfl, fun _ _ => rfl, (List.append_nil _).symm, rfl, rfl⟩

theorem bind {p : Job α} {f : α → Job β} {a : Account α} {b : Account β} (h : Gives s n p a)
    (h' : ∀ n' : Network, n'.session s = (SessionHook.applyAll (n.session s) a.reports).1 →
      n'.transport.outcomes = n.transport.outcomes →
      n'.transport.autoAccept = n.transport.autoAccept → Gives s n' (f a.result) b) :
    Gives s n (p >>= f) ⟨b.result, a.calls ++ b.calls, a.reports ++ b.reports⟩ := by
  have hf := h' (p.run n).2.1 h.session h.outcomes h.autoAccept
  have hrun := Plan.run_bind p f n
  rw [h.result] at hrun
  have happ := SessionHook.applyAll_append (n.session s) a.reports b.reports
  rw [← h.session] at happ
  rw [Plan.bind_eq]
  constructor <;> rw [hrun]
  · exact hf.result
  · rw [happ]
    exact hf.session
  · rw [happ, ← h.emitted, ← hf.emitted]
  · exact fun k hk => (hf.others k hk).trans (h.others k hk)
  · rw [← List.append_assoc, ← h.history]
    exact hf.history
  · exact hf.outcomes.trans h.outcomes
  · exact hf.autoAccept.trans h.autoAccept

theorem andDone {p : Job α} {a : Account α} (h : Gives s n p a) (b : β) :
    Gives s n (p >>= fun _ => .done b) ⟨b, a.calls, a.reports⟩ := by
  have hb := bind (f := fun _ => .done b) h fun _ _ _ _ => done b
  simpa only [List.append_nil] using hb

/-- To look at the network leaves no trace, however many looks it takes. -/
theorem after_looks {p : Job α} {f : α → Job β} {a : α} {b : Account β} (hp : p.run n = (a, n, []))
    (h : Gives s n (f a) b) : Gives s n (p >>= f) b := by
  refine h.of_run_eq ?_
  rw [Plan.bind_eq, Plan.run_bind, hp]
  rfl

/-- What is asked is answered at once. -/
theorem gets {g : Network → α} {f : α → Job β} {b : Account β} (h : Gives s n (f (g n)) b) :
    Gives s n (Plan.gets g >>= f) b := h.after_looks rfl

theorem report (h : SessionHook Listener) :
    Gives s n (Job.report s (fun x => h.apply x)) ⟨(), [], [h]⟩ where
  result := rfl
  session := Network.session_setSession_self ..
  emitted := rfl
  others _ hk := (Network.session_setSession ..).trans (if_neg hk)
  history := (List.append_nil _).symm
  outcomes := rfl
  autoAccept := rfl

/-- A change of the session that emits nothing is a report if it does what the report does. -/
theorem changeSession (h : SessionHook Listener) {f : Session → Session}
    (hf : ∀ x, h.apply x = (f x, [])) : Gives s n (Job.changeSession s f) ⟨(), [], [h]⟩ := by
  have heq : Job.changeSession s f = Job.report s (fun x => h.apply x) := by
    unfold Job.changeSession Job.report Network.onSession Plan.modify
    simp only [hf]
  rw [heq]
  exact report h

/-- A request is rolled back by cancelling its endpoint and removing the flag. -/
theorem rollBack (id : EndpointId) :
    Gives s n (Job.changeSession s (·.rollBack id)) ⟨(), [], [.cancel id, .removeFlag id]⟩ where
  result := rfl
  session := Network.session_setSession_self ..
  emitted := rfl
  others _ hk := (Network.session_setSession ..).trans (if_neg hk)
  history := (List.append_nil _).symm
  outcomes := rfl
  autoAccept := rfl

/-- A change of the payloads that are kept is none that an account tells of. -/
theorem changeTransport {f : Transport → Transport}
    (hf : ∀ t, (f t).history = t.history ∧ (f t).outcomes = t.outcomes ∧
      (f t).autoAccept = t.autoAccept) : Gives s n (Job.changeTransport f) ⟨(), [], []⟩ where
  result := rfl
  session := rfl
  emitted := rfl
  others _ _ := rfl
  history := (hf n.transport).1.trans (List.append_nil _).symm
  outcomes := (hf n.transport).2.1
  autoAccept := (hf n.transport).2.2

/-- A call is made known, and its body is carried out. -/
theorem call {r : Option SessionName} {c : Call} {body : Job α} {a : α}
    {reports : List (SessionHook Listener)}
    (h : ∀ n' : Network, n'.session s = n.session s → n'.transport.outcomes = n.transport.outcomes →
      n'.transport.autoAccept = n.transport.autoAccept →
      n'.transport.payloads = n.transport.payloads → Gives s n' body ⟨a, [], reports⟩) :
    Gives s n (Transport.call r c body) ⟨a, [⟨r, c⟩], reports⟩ := by
  have hb := h ((n.onTransport (·.record ⟨r, c⟩)).onTransport (·.enter)) rfl rfl rfl rfl
  have hrun : (Transport.call r c body).run n =
      ((body.run ((n.onTransport (·.record ⟨r, c⟩)).onTransport (·.enter))).1,
        (body.run ((n.onTransport (·.record ⟨r, c⟩)).onTransport (·.enter))).2.1.onTransport
          (·.leave),
        (body.run ((n.onTransport (·.record ⟨r, c⟩)).onTransport (·.enter))).2.2) := by
    unfold Transport.call
    simp [Job.changeTransport, Plan.modify, Plan.perform, Plan.waitUntil, Plan.run_bind, Plan.bind]
  constructor <;> rw [hrun]
  · exact hb.result
  · exact hb.session
  · exact hb.emitted
  · exact hb.others
  · exact hb.history.trans (List.append_nil _)
  · exact hb.outcomes
  · exact hb.autoAccept

theorem answer (c : Answerable) : Gives s n (Job.answer c) ⟨n.transport.outcome c, [], []⟩ :=
  .of_run_eq (.done _) rfl

/-- What the outcome set beforehand allows is done. -/
theorem ifAllowed {c : Answerable} {work : Job Unit} {reports : List (SessionHook Listener)}
    (h : Gives s n work ⟨(), [], reports⟩) :
    Gives s n (Transport.ifAllowed c work)
      ⟨n.transport.outcome c, [], if (n.transport.outcome c).isOk then reports else []⟩ := by
  unfold Transport.ifAllowed
  refine gets ?_
  split
  · exact andDone h _
  · exact done _

end Gives

/-! ## Jobs that go through a list -/

open Transport

/-- Progress reports leave the session as it is. -/
theorem sendToEach_gives (p : Payload) (ids : List EndpointId) :
    Gives s n (sendToEach s p ids)
      ⟨(), [],
        ids.map fun id => .payloadProgress id (.settled p ((n.session s).isConnected id))⟩ := by
  induction ids generalizing n with
  | nil => exact .done ()
  | cons id ids ih =>
    refine .gets ?_
    refine .bind (b := ⟨(), [], _⟩) (.report (.payloadProgress id _)) fun n' hn _ _ => ?_
    rw [show n.session s = n'.session s from hn.symm]
    exact ih

theorem disconnectFromEndpoint_gives (id : EndpointId) :
    Gives s n (disconnectFromEndpoint s id)
      ⟨(), [⟨some s, .disconnectFromEndpoint id⟩], [.disconnected id]⟩ :=
  .call fun _ _ _ _ _ => .report (.disconnected id)

def disconnecting (s : SessionName) (ids : List EndpointId) : Account Unit :=
  ⟨(), ids.map fun id => ⟨some s, .disconnectFromEndpoint id⟩, ids.map .disconnected⟩

theorem disconnectEach_gives (ids : List EndpointId) :
    Gives s n (Operation.disconnectEach s ids) (disconnecting s ids) := by
  induction ids generalizing n with
  | nil => exact .done ()
  | cons id ids ih =>
    exact .bind (b := ⟨(), _, _⟩) (disconnectFromEndpoint_gives id) fun _ _ _ _ => ih

end Job

namespace Operation

variable {s : SessionName}

/-- The answer to a connection is refused with this status. -/
def refusal? (x : Session) (id : EndpointId) : Option Status :=
  if x.isConnected id then some .alreadyConnectedToEndpoint
  else if x.hasResponded id then some .outOfOrderApiCall
  else none

/-- What the transport does when it is called and the outcome set beforehand is `status`. -/
def called (s : SessionName) (c : Call) (status : Status) (reports : List (SessionHook Listener)) :
    Account Status :=
  ⟨status, [⟨some s, c⟩], if status.isOk then reports else []⟩

/-- The account of an operation for a session that is as `x` by then, with the transport as `t`. -/
def account (s : SessionName) (x : Session) (t : Transport) :
    Operation Listener → Account Status
  | startAdvertising service options info l =>
    if x.isAdvertising then ⟨.alreadyAdvertising, [], []⟩
    else called s (.startAdvertising service options info) (t.outcome .startAdvertising)
      [.startedAdvertising service l]
  | stopAdvertising =>
    if x.isAdvertising then called s .stopAdvertising .success [.stoppedAdvertising]
    else ⟨.success, [], []⟩
  | startDiscovery service options l =>
    if x.isDiscovering then ⟨.alreadyDiscovering, [], []⟩
    else called s (.startDiscovery service options) (t.outcome .startDiscovery)
      [.startedDiscovery service l]
  | stopDiscovery =>
    if x.isDiscovering then called s .stopDiscovery .success [.stoppedDiscovery]
    else ⟨.success, [], []⟩
  | updateAdvertisingOptions service options =>
    ⟨t.outcome .updateAdvertisingOptions, [⟨some s, .updateAdvertisingOptions service options⟩], []⟩
  | updateDiscoveryOptions service options =>
    ⟨t.outcome .updateDiscoveryOptions, [⟨some s, .updateDiscoveryOptions service options⟩], []⟩
  | injectEndpoint service m =>
    if !m.check.isOk then ⟨m.check, [], []⟩
    else if !x.isDiscovering then ⟨.outOfOrderApiCall, [], []⟩
    else called s (.injectEndpoint m.id) .success [.endpointFound m.id m.info service]
  | requestConnection id info options l =>
    if x.isConnected id || x.isPending id then ⟨.alreadyConnectedToEndpoint, [], []⟩
    else if x.isCancelled id then ⟨.endpointIoError, [], [.cancel id, .removeFlag id]⟩
    else
      ⟨t.outcome .requestConnection, [⟨some s, .requestConnection id options info⟩],
        .armFlag id :: if (t.outcome .requestConnection).isOk then
          [.connectionInitiated id (Transport.requestedInfo id) (some l)]
        else [.cancel id, .removeFlag id]⟩
  | acceptConnection id l =>
    match refusal? x id with
    | some status => ⟨status, [], []⟩
    | none =>
      if x.isCancelled id then ⟨.endpointIoError, [], []⟩
      else called s (.acceptConnection id) (t.outcome .acceptConnection)
        (.localAccepted id l :: if t.autoAccept then [.connectionAccepted id] else [])
  | rejectConnection id =>
    match refusal? x id with
    | some status => ⟨status, [], []⟩
    | none => called s (.rejectConnection id) (t.outcome .rejectConnection) [.localRejected id]
  | initiateBandwidthUpgrade id =>
    if !x.isConnected id then ⟨.outOfOrderApiCall, [], []⟩
    else called s (.initiateBandwidthUpgrade id) .success [.bandwidthChanged id .wifiLan]
  | sendPayload ids p =>
    if !ids.any x.isConnected then ⟨.endpointUnknown, [], []⟩
    else called s (.sendPayload ids p) .success
      (ids.map fun id => .payloadProgress id (.settled p (x.isConnected id)))
  | cancelPayload p =>
    ⟨if (t.outcome .cancelPayload).isOk then
        if t.payloads.contains p then .success else .payloadUnknown
      else t.outcome .cancelPayload,
      [⟨some s, .cancelPayload p⟩], []⟩
  | disconnectFromEndpoint id =>
    if !(x.isConnected id || x.isPending id) then ⟨.outOfOrderApiCall, [], []⟩
    else called s (.disconnectFromEndpoint id) .success [.disconnected id]
  | stopAllEndpoints =>
    let ids := x.pendingEndpoints ++ x.connectedEndpoints
    ⟨.success,
      ids.map (fun id => ⟨some s, .disconnectFromEndpoint id⟩) ++
        [⟨some s, .stopAdvertising⟩, ⟨some s, .stopDiscovery⟩, ⟨none, .shutdownUpgrades⟩],
      ids.map .disconnected ++ [.stoppedAdvertising, .stoppedDiscovery, .reset]⟩
  | setCustomSavePath path => called s (.setCustomSavePath path) .success []

/-- The account of a call to start listening. -/
def listening (s : SessionName) (service : String) (l : Listener) (options : ListeningOptions)
    (x : Session) (t : Transport) : Account Status :=
  if x.isListening then
    ⟨.alreadyListening, [⟨some s, .startListening service options⟩], []⟩
  else
    called s (.startListening service options) (t.outcome .startListening)
      [.startedListening service l]

/-! ## Bodies -/

section Body

open Job Job.Gives Transport

variable {n : Network} {c : Call} {work : Job Unit} {reports : List (SessionHook Listener)}

theorem ifAllowed_gives {a : Answerable}
    (h : ∀ n' : Network, n'.session s = n.session s →
      n'.transport.autoAccept = n.transport.autoAccept → Gives s n' work ⟨(), [], reports⟩) :
    Gives s n (call (some s) c (ifAllowed a work))
      (called s c (n.transport.outcome a) reports) := by
  refine .call fun n' hn ho ha _ => ?_
  rw [← outcome_congr ho]
  exact .ifAllowed (h n' hn ha)

/-- A call that cannot fail. -/
theorem success_gives
    (h : ∀ n' : Network, n'.session s = n.session s → Gives s n' work ⟨(), [], reports⟩) :
    Gives s n (call (some s) c work >>= fun _ => .done .success) (called s c .success reports) :=
  andDone (.call fun n' hn _ _ _ => h n' hn) _

/-- With nothing in between, the two looks see every relation. -/
theorem run_asksRelated (id : EndpointId) :
    (asksRelated s id).run n =
      ((n.session s).isConnected id || (n.session s).isPending id, n, []) := by
  unfold asksRelated
  show Plan.run (if (n.session s).isConnected id then _ else _) n = _
  split
  · next h => rw [h]; rfl
  · next h => rw [Bool.eq_false_iff.mpr h]; rfl

theorem run_asksAnyConnected (ids : List EndpointId) :
    (asksAnyConnected s ids).run n = (ids.any (n.session s).isConnected, n, []) := by
  induction ids with
  | nil => rfl
  | cons id ids ih =>
    show Plan.run (if (n.session s).isConnected id then _ else _) n = _
    rw [List.any_cons]
    split
    · next h => rw [h]; rfl
    · next h => rw [Bool.eq_false_iff.mpr h, Bool.false_or]; exact ih

/-- An answer goes on past its guard if it is not refused. -/
theorem run_answerGuard (id : EndpointId) (job : Job Status) :
    (answerGuard s id >>= fun status => if !status.isOk then .done status else job).run n =
      match refusal? (n.session s) id with
      | some status => (status, n, [])
      | none => job.run n := by
  unfold answerGuard refusal?
  show Plan.run (Plan.bind (if (n.session s).isConnected id then _ else _) _) n = _
  split
  · rfl
  · show Plan.run (Plan.bind (if (n.session s).hasResponded id then _ else _) _) n = _
    split <;> rfl

theorem answerGuard_gives {id : EndpointId} {job : Job Status} {a : Account Status}
    (h : Gives s n job a) :
    Gives s n (answerGuard s id >>= fun status => if !status.isOk then .done status else job)
      (match refusal? (n.session s) id with | some status => ⟨status, [], []⟩ | none => a) := by
  have hrun := run_answerGuard (s := s) (n := n) id job
  cases hr : refusal? (n.session s) id with
  | some status =>
    rw [hr] at hrun
    exact .of_run_eq (.done status) hrun
  | none =>
    rw [hr] at hrun
    exact .of_run_eq h hrun

theorem startListening_gives (service : String) (l : Listener) (options : ListeningOptions) :
    Gives s n (Transport.startListening s service l options)
      (listening s service l options (n.session s) n.transport) := by
  have hbody : ∀ n' : Network, n'.session s = n.session s →
      n'.transport.outcomes = n.transport.outcomes → Gives s n'
        (asks s (·.isListening) >>= fun b => if b then .done .alreadyListening
          else ifAllowed .startListening (changeSession s (·.startedListening service l)))
        ⟨(listening s service l options (n.session s) n.transport).result, [],
          (listening s service l options (n.session s) n.transport).reports⟩ := by
    intro n' hn ho
    refine .gets ?_
    rw [hn]
    unfold listening
    split
    · exact .done _
    · rw [← outcome_congr ho]
      exact .ifAllowed (.changeSession (.startedListening service l) fun _ => rfl)
  have hcall := Gives.call (r := some s) (c := .startListening service options)
    fun n' hn ho _ _ => hbody n' hn ho
  refine Eq.mp (congrArg _ ?_) hcall
  unfold listening
  split <;> rfl

theorem stopListening_gives : Gives s n (Transport.stopListening s)
    ⟨(), [⟨some s, .stopListening⟩], [.stoppedListening]⟩ :=
  .call fun _ _ _ _ _ => .changeSession .stoppedListening fun _ => rfl

theorem cancelPayload_gives (p : PayloadId) :
    Gives s n (Transport.cancelPayload s p)
      ((cancelPayload p).account s (n.session s) n.transport) := by
  refine .call fun n' _ ho _ hp => .gets ?_
  rw [← outcome_congr ho, ← hp]
  split
  · refine .gets ?_
    split
    · exact andDone (.changeTransport (f := (·.dropPayload p)) fun _ => ⟨rfl, rfl, rfl⟩) _
    · exact .done _
  · exact .done _

theorem requestBody_gives (id : EndpointId) (info : List UInt8) (options : ConnectionOptions)
    (l : Listener) : Gives s n (requestBody s id info options l)
      ((requestConnection id info options l).account s (n.session s) n.transport) := by
  refine .after_looks (run_asksRelated id) ?_
  simp only [account]
  split
  · exact .done _
  refine .gets ?_
  split
  · exact andDone (.rollBack id) _
  refine .bind (a := ⟨(), [], [_]⟩)
    (b := ⟨_, [_], if (n.transport.outcome .requestConnection).isOk then [_] else [_, _]⟩)
    (.changeSession (.armFlag id) fun _ => rfl) fun n' _ ho _ => ?_
  have hcall : Gives s n' (Transport.requestConnection s id info options l)
      (called s (.requestConnection id options info) (n.transport.outcome .requestConnection)
        [.connectionInitiated id (requestedInfo id) (some l)]) := by
    rw [← outcome_congr ho]
    exact ifAllowed_gives fun _ _ _ => .report (.connectionInitiated id (requestedInfo id) (some l))
  unfold called at hcall
  cases hok : (n.transport.outcome .requestConnection).isOk with
  | true =>
    rw [hok] at hcall
    refine .bind (a := ⟨_, [_], [_]⟩) (b := ⟨_, [], []⟩) hcall fun _ _ _ _ => ?_
    simp only [hok]
    exact .done _
  | false =>
    rw [hok] at hcall
    refine .bind (a := ⟨_, [_], []⟩) (b := ⟨_, [], [_, _]⟩) hcall fun _ _ _ _ => ?_
    simp only [hok]
    exact andDone (.rollBack id) _

/-- The end of a teardown, when every relation it has found has ended. -/
def endActivities (s : SessionName) : Job Unit := do
  Transport.stopAdvertising s
  Transport.stopDiscovery s
  Transport.shutdownUpgrades
  changeSession s (·.reset)

def ending (s : SessionName) : Account Unit :=
  ⟨(), [⟨some s, .stopAdvertising⟩, ⟨some s, .stopDiscovery⟩, ⟨none, .shutdownUpgrades⟩],
    [.stoppedAdvertising, .stoppedDiscovery, .reset]⟩

theorem acceptConnection_gives (id : EndpointId) (l : Listener) :
    Gives s n (Transport.acceptConnection s id l)
      (called s (.acceptConnection id) (n.transport.outcome .acceptConnection)
        (.localAccepted id l ::
          if n.transport.autoAccept then [.connectionAccepted id] else [])) := by
  refine ifAllowed_gives fun n' _ ha => ?_
  refine .bind (a := ⟨(), [], [_]⟩)
    (b := ⟨(), [], if n.transport.autoAccept then [.connectionAccepted id] else []⟩)
    (.changeSession (.localAccepted id l) fun _ => rfl) fun n'' _ _ ha' => .gets ?_
  rw [← ha, ← ha']
  split
  · exact .report (.connectionAccepted id)
  · exact .done ()

/-- To disconnect endpoints that are not connected leaves those that are. -/
theorem connectedEndpoints_applyAll (x : Session) {ids : List EndpointId}
    (h : ∀ id ∈ ids, id ∉ x.connectedEndpoints) :
    (SessionHook.applyAll x (ids.map .disconnected)).1.connectedEndpoints =
      x.connectedEndpoints := by
  induction ids generalizing x with
  | nil => rfl
  | cons id ids ih =>
    have hid : (x.disconnected id).1.connectedEndpoints = x.connectedEndpoints := by
      refine (Directory.keysWhere_erase ..).trans (List.filter_eq_self.mpr fun k hk => ?_)
      have hne : k ≠ id := fun he => h id List.mem_cons_self (he ▸ hk)
      simpa using hne
    have hids := ih (x.disconnected id).1 fun k hk => hid ▸ h k (List.mem_cons_of_mem _ hk)
    exact hids.trans hid

theorem not_mem_connectedEndpoints {x : Session} {id : EndpointId} (h : id ∈ x.pendingEndpoints) :
    id ∉ x.connectedEndpoints := by
  intro hc
  obtain ⟨c, hget, hp⟩ := Directory.mem_keysWhere.mp h
  obtain ⟨c', hget', hp'⟩ := Directory.mem_keysWhere.mp hc
  cases hget.symm.trans hget'
  simp only [decide_eq_true_eq] at hp hp'
  exact hp hp'

theorem endActivities_gives : Gives s n (endActivities s) (ending s) := by
  refine .bind (a := ⟨(), [_], [_]⟩) (b := ⟨(), [_, _], [_, _]⟩)
    (.call fun _ _ _ _ _ => .changeSession .stoppedAdvertising fun _ => rfl) fun _ _ _ _ => ?_
  refine .bind (a := ⟨(), [_], [_]⟩) (b := ⟨(), [_], [_]⟩)
    (.call fun _ _ _ _ _ => .changeSession .stoppedDiscovery fun _ => rfl) fun _ _ _ _ => ?_
  exact .bind (a := ⟨(), [_], []⟩) (b := ⟨(), [], [_]⟩) (.call fun _ _ _ _ _ => .done ())
    fun _ _ _ _ => .changeSession .reset fun _ => rfl

/-- The second look finds the endpoints that were connected from the beginning. -/
theorem teardown_gives : Gives s n (teardown s)
    ⟨(), ((stopAllEndpoints : Operation Listener).account s (n.session s) n.transport).calls,
      ((stopAllEndpoints : Operation Listener).account s (n.session s) n.transport).reports⟩ := by
  have hconnected := connectedEndpoints_applyAll (n.session s)
    fun _ => not_mem_connectedEndpoints
  have hrest : ∀ n' ids, (n'.session s).connectedEndpoints = ids →
      Gives s n' (asks s (·.connectedEndpoints) >>= fun ids =>
        disconnectEach s ids >>= fun _ => endActivities s)
      ⟨(), (disconnecting s ids).calls ++ (ending s).calls,
        (disconnecting s ids).reports ++ (ending s).reports⟩ := by
    rintro n' ids rfl
    exact .gets (.bind (disconnectEach_gives _) fun _ _ _ _ => endActivities_gives)
  have hall : Gives s n (teardown s) _ :=
    .gets (.bind (disconnectEach_gives (n.session s).pendingEndpoints) fun n' hn _ _ =>
      hrest n' (n.session s).connectedEndpoints ((congrArg _ hn).trans hconnected))
  simpa only [account, disconnecting, ending, List.map_append, List.append_assoc] using hall

theorem sendPayload_gives {ids : List EndpointId} {p : Payload} :
    Gives s n (Transport.sendPayload s ids p)
      ⟨(), [⟨some s, .sendPayload ids p⟩],
        ids.map fun id => .payloadProgress id (.settled p ((n.session s).isConnected id))⟩ := by
  refine .call fun n' hn _ _ _ => ?_
  rw [← hn]
  refine .bind (a := ⟨(), [], []⟩) (b := ⟨(), [], _⟩) (.changeTransport fun _ => ⟨rfl, rfl, rfl⟩)
    fun n'' hs _ _ => ?_
  rw [show n'.session s = n''.session s from hs.symm]
  exact sendToEach_gives p ids

theorem body_gives (op : Operation Listener) :
    Gives s n (op.body s) (op.account s (n.session s) n.transport) := by
  cases op with
  | startAdvertising service options info l =>
    refine .gets ?_
    simp only [account]
    split
    · exact .done _
    · exact ifAllowed_gives fun _ _ _ => .changeSession (.startedAdvertising service l) fun _ => rfl
  | stopAdvertising =>
    refine .gets ?_
    simp only [account]
    split
    · exact success_gives fun _ _ => .changeSession .stoppedAdvertising fun _ => rfl
    · exact .done _
  | startDiscovery service options l =>
    refine .gets ?_
    simp only [account]
    split
    · exact .done _
    · exact ifAllowed_gives fun _ _ _ => .changeSession (.startedDiscovery service l) fun _ => rfl
  | stopDiscovery =>
    refine .gets ?_
    simp only [account]
    split
    · exact success_gives fun _ _ => .changeSession .stoppedDiscovery fun _ => rfl
    · exact .done _
  | updateAdvertisingOptions service options =>
    exact .call fun n' _ ho _ _ => outcome_congr ho _ ▸ .answer _
  | updateDiscoveryOptions service options =>
    exact .call fun n' _ ho _ _ => outcome_congr ho _ ▸ .answer _
  | injectEndpoint service m =>
    simp only [body, account]
    split
    · exact .done _
    refine .gets ?_
    split
    · exact .done _
    · exact success_gives fun _ _ => .report (.endpointFound m.id m.info service)
  | requestConnection id info options l => exact requestBody_gives id info options l
  | acceptConnection id l =>
    refine answerGuard_gives (.gets ?_)
    split
    · exact .done _
    · exact acceptConnection_gives id l
  | rejectConnection id =>
    exact answerGuard_gives <|
      ifAllowed_gives fun _ _ _ => .changeSession (.localRejected id) fun _ => rfl
  | initiateBandwidthUpgrade id =>
    refine .gets ?_
    simp only [account]
    split
    · exact .done _
    · exact success_gives fun _ _ => .report (.bandwidthChanged id .wifiLan)
  | sendPayload ids p =>
    refine .after_looks (run_asksAnyConnected ids) ?_
    simp only [account]
    split
    · exact .done _
    · exact andDone sendPayload_gives _
  | cancelPayload p => exact cancelPayload_gives p
  | disconnectFromEndpoint id =>
    refine .after_looks (run_asksRelated id) ?_
    simp only [account]
    split
    · exact .done _
    · exact success_gives fun _ _ => .report (.disconnected id)
  | stopAllEndpoints => exact andDone teardown_gives _
  | setCustomSavePath path => exact success_gives fun _ _ => .done ()

end Body

end Operation

end Switchboard
