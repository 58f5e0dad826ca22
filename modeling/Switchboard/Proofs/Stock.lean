import Switchboard.Proofs.Guard

/-!
# The stock of payloads

The transport keeps the ids of payloads that were handed over and not cancelled since, one stock for
all sessions. `Stock` says for one id how a plan deals with it: as an automaton over its changes,
since a payload is first recorded and then kept. Every operation follows it except a cancellation of
that very payload (`body_stock`), which depends on what it finds (`cancelPayload_withstands`).
-/

namespace Switchboard

/-- Whether the call hands over a payload of that id. -/
def Call.handsOver (p : PayloadId) : Call → Bool
  | sendPayload _ payload => payload.id == p
  | _ => false

namespace Transport

def keeps (t : Transport) (p : PayloadId) : Bool := t.payloads.contains p

/-- Whether `p` is kept is as before, and no payload of that id has been handed over. -/
structure Untouched (p : PayloadId) (t u : Transport) : Prop where
  keeps : u.keeps p = t.keeps p
  history : u.history = t.history ∨
    ∃ r : CallRecord, r.call.handsOver p = false ∧ u.history = t.history ++ [r]

variable {p : PayloadId} {t u : Transport}

theorem Untouched.of_eq (h : u.payloads = t.payloads) (hh : u.history = t.history) :
    Untouched p t u := ⟨by unfold Transport.keeps; rw [h], .inl hh⟩

theorem keeps_keepPayload (t : Transport) (p q : PayloadId) :
    (t.keepPayload p).keeps q = (q == p || t.keeps q) := by
  unfold keepPayload keeps
  simp only
  split
  · next h =>
    cases hq : q == p with
    | false => rfl
    | true => rw [eq_of_beq hq, h]; rfl
  · exact List.contains_cons

theorem keeps_dropPayload (t : Transport) (p q : PayloadId) :
    (t.dropPayload p).keeps q = (q != p && t.keeps q) := by
  unfold dropPayload keeps
  simp only
  rw [Bool.eq_iff_iff]
  simp only [List.contains_iff_mem, List.mem_filter, Bool.and_eq_true, bne_iff_ne, ne_eq,
    decide_not, Bool.not_eq_eq_eq_not, Bool.not_true, decide_eq_false_iff_not]
  exact And.comm

end Transport

/-- `Stock p k change l`: `k` and `l` say whether a payload with id `p` has been handed over and is
not kept yet. -/
inductive Stock (p : PayloadId) : Bool → (Network → Network × List Emission) → Bool → Prop where
  | aside (k : Bool) {change : Network → Network × List Emission}
    (h : ∀ n : Network, n.transport.Untouched p (change n).1.transport) : Stock p k change k
  | handOver (s : SessionName) (ids : List EndpointId) (payload : Payload) (h : payload.id = p) :
    Stock p false (fun n => (n.onTransport (·.record ⟨some s, .sendPayload ids payload⟩), [])) true
  | keep : Stock p true (fun n => (n.onTransport (·.keepPayload p), [])) false

namespace Job

variable {p : PayloadId} {k : Bool} {α : Type}

theorem asks_stock (s : SessionName) (f : Session → α) : (asks s f).Follows (Stock p) k k := .gets _

theorem answer_stock (c : Answerable) : (answer c).Follows (Stock p) k k := .gets _

theorem report_stock (s : SessionName) (f : Session → Session × List Emission) :
    (report s f).Follows (Stock p) k k := .perform (.aside k fun _ => .of_eq rfl rfl)

theorem changeSession_stock (s : SessionName) (f : Session → Session) :
    (changeSession s f).Follows (Stock p) k k := .modify (.aside k fun _ => .of_eq rfl rfl)

theorem changeTransport_stock {f : Transport → Transport}
    (h : ∀ t : Transport, t.Untouched p (f t)) :
    (changeTransport f).Follows (Stock p) k k := .modify (.aside k fun n => h n.transport)

end Job

namespace Transport

open Job

variable {p : PayloadId} {k : Bool} {α : Type}

theorem record_stock {r : CallRecord} (h : r.call.handsOver p = false) :
    (changeTransport (·.record r)).Follows (Stock p) k k :=
  changeTransport_stock fun _ => ⟨rfl, .inr ⟨r, h, rfl⟩⟩

/-- What follows the record of a call. -/
theorem call_stock_of_record {s : Option SessionName} {c : Call} {body : Job α}
    (hr : (changeTransport (·.record ⟨s, c⟩)).Follows (Stock p) false k)
    (h : body.Follows (Stock p) k false) : (call s c body).Follows (Stock p) false false := by
  unfold call
  refine .bind hr fun _ => .bind (.waitUntil _) fun _ => ?_
  refine .bind (changeTransport_stock fun _ => .of_eq rfl rfl) fun _ => ?_
  refine .bind h fun result => ?_
  exact .bind (changeTransport_stock fun _ => .of_eq rfl rfl) fun _ => .done result

theorem call_stock {s : Option SessionName} {c : Call} {body : Job α} (hc : c.handsOver p = false)
    (h : body.Follows (Stock p) false false) : (call s c body).Follows (Stock p) false false :=
  call_stock_of_record (record_stock hc) h

theorem ifAllowed_stock (c : Answerable) {work : Job Unit} (h : work.Follows (Stock p) k k) :
    (ifAllowed c work).Follows (Stock p) k k := by
  unfold ifAllowed
  refine .bind (answer_stock c) fun status => ?_
  split
  · exact .bind h fun _ => .done status
  · exact .done status

theorem sendToEach_stock (s : SessionName) (payload : Payload) (ids : List EndpointId) :
    (sendToEach s payload ids).Follows (Stock p) k k := by
  induction ids with
  | nil => exact .done ()
  | cons id ids ih => exact .bind (asks_stock s _) fun _ => .bind (report_stock s _) fun _ => ih

/-- A payload is kept after it has been handed over, and nothing is done about any other. -/
theorem sendPayload_stock (s : SessionName) (ids : List EndpointId) (payload : Payload) :
    (sendPayload s ids payload).Follows (Stock p) false false := by
  by_cases hp : payload.id = p
  · subst hp
    refine call_stock_of_record (k := true) (.modify (.handOver s ids payload rfl)) ?_
    exact .bind (.modify .keep) fun _ => sendToEach_stock s payload ids
  · have hne : (payload.id == p) = false := beq_eq_false_iff_ne.mpr hp
    refine call_stock hne (.bind (changeTransport_stock fun t => ⟨?_, .inl rfl⟩) fun _ =>
      sendToEach_stock s payload ids)
    rw [keeps_keepPayload, beq_eq_false_iff_ne.mpr (Ne.symm hp)]
    rfl

theorem cancelPayload_stock (s : SessionName) {q : PayloadId} (h : q ≠ p) :
    (cancelPayload s q).Follows (Stock p) false false := by
  refine call_stock rfl (.bind (answer_stock _) fun status => ?_)
  split
  · refine .bind (.gets _) fun known => ?_
    split
    · refine .bind (changeTransport_stock fun t => ⟨?_, .inl rfl⟩) fun _ => .done Status.success
      rw [keeps_dropPayload, bne_iff_ne.mpr (Ne.symm h)]
      rfl
    · exact .done Status.payloadUnknown
  · exact .done status

theorem disconnectFromEndpoint_stock (s : SessionName) (id : EndpointId) :
    (disconnectFromEndpoint s id).Follows (Stock p) false false := call_stock rfl (report_stock s _)

theorem startListening_stock (s : SessionName) (service : String) (l : Listener)
    (options : ListeningOptions) :
    (startListening s service l options).Follows (Stock p) false false := by
  refine call_stock rfl (.bind (asks_stock s _) fun listening => ?_)
  split
  · exact .done Status.alreadyListening
  · exact ifAllowed_stock _ (changeSession_stock s _)

theorem stopListening_stock (s : SessionName) : (stopListening s).Follows (Stock p) false false :=
  call_stock rfl (changeSession_stock s _)

theorem bidFarewell_stock (farewells : List (SessionName × EndpointId)) :
    (bidFarewell farewells).Follows (Stock p) k k := by
  induction farewells with
  | nil => exact .done ()
  | cons f rest ih => exact .bind (report_stock f.1 _) fun _ => ih

theorem stop_stock : stop.Follows (Stock p) false false := by
  refine .bind (call_stock rfl (changeTransport_stock fun _ => .of_eq rfl rfl)) fun _ => ?_
  refine .bind (.gets _) fun farewells => ?_
  exact .bind (changeTransport_stock fun _ => .of_eq rfl rfl) fun _ => bidFarewell_stock farewells

end Transport

namespace Operation

open Job Transport

variable {p : PayloadId} {L : Type}

def cancels (p : PayloadId) : Operation L → Bool
  | cancelPayload q => q == p
  | _ => false

theorem requestBody_stock (s : SessionName) (id : EndpointId) (info : List UInt8)
    (options : ConnectionOptions) (l : Listener) :
    (requestBody s id info options l).Follows (Stock p) false false := by
  refine .bind (asksRelated_looks s id).follows fun related => ?_
  split
  · exact .done Status.alreadyConnectedToEndpoint
  refine .bind (asks_stock s _) fun cancelled => ?_
  split
  · exact .bind (changeSession_stock s _) fun _ => .done Status.endpointIoError
  refine .bind (changeSession_stock s _) fun _ => ?_
  refine .bind (call_stock rfl (ifAllowed_stock _ (report_stock s _))) fun status => ?_
  split
  · exact .bind (changeSession_stock s _) fun _ => .done status
  · exact .done status

theorem disconnectEach_stock (s : SessionName) (ids : List EndpointId) :
    (disconnectEach s ids).Follows (Stock p) false false := by
  induction ids with
  | nil => exact .done ()
  | cons id ids ih => exact .bind (disconnectFromEndpoint_stock s id) fun _ => ih

theorem teardown_stock (s : SessionName) : (teardown s).Follows (Stock p) false false := by
  refine .bind (asks_stock s _) fun pending => .bind (disconnectEach_stock s _) fun _ => ?_
  refine .bind (asks_stock s _) fun connected => .bind (disconnectEach_stock s _) fun _ => ?_
  refine .bind (call_stock rfl (changeSession_stock s _)) fun _ => ?_
  refine .bind (call_stock rfl (changeSession_stock s _)) fun _ => ?_
  exact .bind (call_stock rfl (.done ())) fun _ => changeSession_stock s _

/-- Every operation but a cancellation of `p` keeps what it hands over, and does nothing else about
`p`. -/
theorem body_stock (s : SessionName) (op : Operation Listener) (h : op.cancels p = false) :
    (op.body s).Follows (Stock p) false false := by
  cases op with
  | startAdvertising service options info l =>
    refine .bind (asks_stock s _) fun on => ?_
    split
    · exact .done Status.alreadyAdvertising
    · exact call_stock rfl (ifAllowed_stock _ (changeSession_stock s _))
  | stopAdvertising =>
    refine .bind (asks_stock s _) fun on => ?_
    split
    · exact .bind (call_stock rfl (changeSession_stock s _)) fun _ => .done Status.success
    · exact .done Status.success
  | startDiscovery service options l =>
    refine .bind (asks_stock s _) fun on => ?_
    split
    · exact .done Status.alreadyDiscovering
    · exact call_stock rfl (ifAllowed_stock _ (changeSession_stock s _))
  | stopDiscovery =>
    refine .bind (asks_stock s _) fun on => ?_
    split
    · exact .bind (call_stock rfl (changeSession_stock s _)) fun _ => .done Status.success
    · exact .done Status.success
  | updateAdvertisingOptions service options => exact call_stock rfl (answer_stock _)
  | updateDiscoveryOptions service options => exact call_stock rfl (answer_stock _)
  | injectEndpoint service endpoint =>
    simp only [body]
    split
    · exact .done endpoint.check
    refine .bind (asks_stock s _) fun on => ?_
    split
    · exact .done Status.outOfOrderApiCall
    · exact .bind (call_stock rfl (report_stock s _)) fun _ => .done Status.success
  | requestConnection id info options l => exact requestBody_stock s id info options l
  | acceptConnection id l =>
    refine .bind (answerGuard_looks s id).follows fun status => ?_
    split
    · exact .done status
    refine .bind (asks_stock s _) fun cancelled => ?_
    split
    · exact .done Status.endpointIoError
    refine call_stock rfl (ifAllowed_stock _ ?_)
    refine .bind (changeSession_stock s _) fun _ => .bind (.gets _) fun auto => ?_
    split
    · exact report_stock s _
    · exact .done ()
  | rejectConnection id =>
    refine .bind (answerGuard_looks s id).follows fun status => ?_
    split
    · exact .done status
    · exact call_stock rfl (ifAllowed_stock _ (changeSession_stock s _))
  | initiateBandwidthUpgrade id =>
    refine .bind (asks_stock s _) fun connected => ?_
    split
    · exact .done Status.outOfOrderApiCall
    · exact .bind (call_stock rfl (report_stock s _)) fun _ => .done Status.success
  | sendPayload ids payload =>
    refine .bind (asksAnyConnected_looks s ids).follows fun connected => ?_
    split
    · exact .done Status.endpointUnknown
    · exact .bind (sendPayload_stock s ids payload) fun _ => .done Status.success
  | cancelPayload q => exact cancelPayload_stock s (beq_eq_false_iff_ne.mp h)
  | disconnectFromEndpoint id =>
    refine .bind (asksRelated_looks s id).follows fun related => ?_
    split
    · exact .done Status.outOfOrderApiCall
    · exact .bind (disconnectFromEndpoint_stock s id) fun _ => .done Status.success
  | stopAllEndpoints => exact .bind (teardown_stock s) fun _ => .done Status.success
  | setCustomSavePath path => exact .bind (call_stock rfl (.done ())) fun _ => .done Status.success

end Operation

/-! ## Cancelling -/

/-- The stock is as before, and cancelling is as allowed as before. -/
structure Untaken (p : PayloadId) (n n' : Network) : Prop where
  keeps : n'.transport.keeps p = n.transport.keeps p
  allowed : n.transport.outcome .cancelPayload = .success →
    n'.transport.outcome .cancelPayload = .success

/-- A cancellation succeeds if it has found the payload, which is then not kept any more. -/
def Cancelled (p : PayloadId) (known : Prop) (status : Status) (n : Network) : Prop :=
  (known ∧ status = .success ∨ ¬ known ∧ status = .payloadUnknown) ∧ n.transport.keeps p = false

/-- Nothing is handed over. -/
def Retains (p : PayloadId) (n : Network) (r : Network × List Emission) : Prop :=
  r.1.transport.history = n.transport.history ∨
    ∃ x : CallRecord, x.call.handsOver p = false ∧
      r.1.transport.history = n.transport.history ++ [x]

theorem Untaken.refl (p : PayloadId) (n : Network) : Untaken p n n := ⟨rfl, id⟩

theorem Untaken.trans {p : PayloadId} {n₁ n₂ n₃ : Network} (h : Untaken p n₁ n₂)
    (h' : Untaken p n₂ n₃) : Untaken p n₁ n₃ :=
  ⟨h'.keeps.trans h.keeps, h'.allowed ∘ h.allowed⟩

theorem Cancelled.untaken {p : PayloadId} {known : Prop} {status : Status} {n n' : Network}
    (h : Cancelled p known status n) (hn : Untaken p n n') : Cancelled p known status n' :=
  ⟨h.1, hn.keeps.trans h.2⟩

/-- Whatever is reported meanwhile, a cancellation finds the stock as it was at the beginning. -/
theorem Transport.cancelPayload_withstands {p : PayloadId} (s : SessionName) {n : Network}
    (h : n.transport.outcome .cancelPayload = .success) :
    (cancelPayload s p).Withstands (Untaken p) (Retains p)
      (Cancelled p (n.transport.keeps p = true)) n := by
  have left (n : Network) : Untaken p n (n.onTransport (·.leave)) := ⟨rfl, id⟩
  intro n₁ h₁
  refine ⟨.inr ⟨_, rfl, rfl⟩, fun n₂ h₂ n₃ h₃ => ⟨.inl rfl, fun n₄ h₄ => ?_⟩⟩
  have ha : n₄.transport.outcome .cancelPayload = .success :=
    h₄.allowed (h₃.allowed (h₂.allowed (h₁.allowed h)))
  show (Plan.bind (if (n₄.transport.outcome .cancelPayload).isOk = true then _ else _) _ :
    Job Status).Withstands _ _ _ n₄
  rw [ha, if_pos (Status.isOk_iff.mpr rfl)]
  intro n₅ h₅
  have hk : n₅.transport.keeps p = n.transport.keeps p :=
    h₅.keeps.trans (h₄.keeps.trans (h₃.keeps.trans (h₂.keeps.trans h₁.keeps)))
  show (Plan.bind (if n₅.transport.keeps p = true then _ else _) _ : Job Status).Withstands _ _ _ n₅
  cases hp : n.transport.keeps p with
  | true =>
    rw [hk, hp, if_pos rfl]
    refine fun n₆ h₆ => ⟨.inl rfl, fun n₇ h₇ => ⟨.inl rfl, fun n₈ h₈ => ?_⟩⟩
    have hd : Cancelled p (true = true) .success (n₆.onTransport (·.dropPayload p)) :=
      ⟨.inl ⟨rfl, rfl⟩, by
        show (n₆.transport.dropPayload p).keeps p = false
        rw [keeps_dropPayload, bne_self_eq_false]
        rfl⟩
    exact ((hd.untaken h₇).untaken (left n₇)).untaken h₈
  | false =>
    rw [hk, hp, if_neg Bool.false_ne_true]
    refine fun n₆ h₆ => ⟨.inl rfl, fun n₇ h₇ => ?_⟩
    have hd : Cancelled p (false = true) .payloadUnknown n₅ :=
      ⟨.inr ⟨Bool.false_ne_true, rfl⟩, hk.trans hp⟩
    exact ((hd.untaken h₆).untaken (left n₆)).untaken h₇

end Switchboard
