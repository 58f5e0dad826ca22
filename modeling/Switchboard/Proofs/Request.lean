import Switchboard.Proofs.Conduct

/-!
# The body of a request

A request looks for a relation, in two looks (`requestBody_eq`, `pendingCheck_eq`), and then at the
flag, and what it finds there settles whether it calls the transport: `Calls r` is the automaton of
a plan that makes the call `r` or does not, and `flagCheck_calls` says which it is. `Revocable` is
the automaton of a plan that may roll back: until it has done so or is past it, it does nothing to
the relation (`flagCheck_revocable`).
-/

namespace Switchboard

/-- Changes that leave the history alone, but for the call `r`, which is made once at most. The
state says whether it has been made. -/
inductive Calls (r : CallRecord) : Bool → (Network → Network × List Emission) → Bool → Prop where
  | pass (made : Bool) {change : Network → Network × List Emission}
      (h : ∀ n, (change n).1.transport.history = n.transport.history) : Calls r made change made
  | make {change : Network → Network × List Emission}
      (h : ∀ n, (change n).1.transport.history = n.transport.history ++ [r]) :
    Calls r false change true

/-- What has been made stays made. -/
theorem Calls.monotone {r : CallRecord} {α : Type} {plan : Job α} {made made' : Bool}
    (h : plan.Follows (Calls r) made made') : made = true → made' = true := by
  induction h with
  | done => exact id
  | look _ ih => exact ih {}
  | act hc _ ih =>
    cases hc with
    | pass => exact ih
    | make => exact fun hm => by cases hm
  | await _ _ ih => exact ih

/-- The history says whether the call has been made. -/
theorem Calls.history {r : CallRecord} {made made' : Bool}
    {change : Network → Network × List Emission} (h : Calls r made change made') {n : Network}
    {base : List CallRecord} (hn : n.transport.history = base ++ if made then [r] else []) :
    (change n).1.transport.history = base ++ if made' then [r] else [] := by
  cases h with
  | pass _ hp => rw [hp, hn]
  | make hp =>
    rw [hp, hn]
    simp

/-- Changes of a plan that may or may not still roll the endpoint back, as the state says. While it
may, it neither brings a relation about nor ends one, and once it may not, it minds the endpoint. -/
inductive Revocable (s : SessionName) (id : EndpointId) :
    Bool → (Network → Network × List Emission) → Bool → Prop where
  | keep (may : Bool) {change : Network → Network × List Emission}
      (h : ∀ n, ((change n).1.session s).isRelated id = (n.session s).isRelated id) :
    Revocable s id true change may
  | mind (may : Bool) {change : Network → Network × List Emission}
      (h : ∀ n, Session.Minds (n.session s) ((change n).1.session s) id) :
    Revocable s id may change false

/-- Only a plan that may rolls back. -/
theorem Revocable.of_rollBack {s : SessionName} {id : EndpointId} {may may' : Bool}
    (h : Revocable s id may (fun n => (n.setSession s ((n.session s).rollBack id), [])) may') :
    may = true := by
  obtain ⟨n, hn⟩ := exists_not_minds_rollBack s id
  cases h with
  | keep => rfl
  | mind _ h => exact absurd (h n) hn

namespace Operation

open Job

/-- A request once neither of its looks has found a relation. -/
def flagCheck (s : SessionName) (id : EndpointId) (info : List UInt8)
    (options : ConnectionOptions) (l : Listener) : Job Status := do
  if ← asks s (·.isCancelled id) then
    changeSession s (·.rollBack id)
    return .endpointIoError
  changeSession s (·.armFlag id)
  let status ← Transport.requestConnection s id info options l
  if !status.isOk then
    changeSession s (·.rollBack id)
  return status

theorem eq_of_requests {L : Type} {id : EndpointId} {op : Operation L} (h : op.requests id) :
    ∃ info options l, op = .requestConnection id info options l := by
  cases op with
  | requestConnection id' info options l =>
    obtain rfl : id' = id := h
    exact ⟨info, options, l, rfl⟩
  | _ => exact h.elim

/-- A request once its first look has not found the endpoint connected. -/
def pendingCheck (s : SessionName) (id : EndpointId) (info : List UInt8)
    (options : ConnectionOptions) (l : Listener) : Job Status := do
  if ← asks s (·.isPending id) then return .alreadyConnectedToEndpoint
  flagCheck s id info options l

/-- A request looks whether the endpoint is connected, and only if it is not goes on to look whether
it is pending. -/
theorem requestBody_eq (s : SessionName) (id : EndpointId) (info : List UInt8)
    (options : ConnectionOptions) (l : Listener) :
    requestBody s id info options l = .look fun n =>
      if (n.session s).isConnected id then .done .alreadyConnectedToEndpoint
      else pendingCheck s id info options l :=
  asksRelated_bind s id _

/-- Only if the endpoint is not pending at the second look a request goes on to the flag. -/
theorem pendingCheck_eq (s : SessionName) (id : EndpointId) (info : List UInt8)
    (options : ConnectionOptions) (l : Listener) :
    pendingCheck s id info options l = .look fun n =>
      if (n.session s).isPending id then .done .alreadyConnectedToEndpoint
      else flagCheck s id info options l := rfl

section Calls

variable {r : CallRecord} {made : Bool} (s : SessionName)

theorem changeSession_calls (f : Session → Session) :
    (changeSession s f).Follows (Calls r) made made := .modify (.pass made fun _ => rfl)

theorem ifAllowed_calls (c : Answerable) (f : Session → Session × List Emission) :
    (Transport.ifAllowed c (report s f)).Follows (Calls r) made made := by
  unfold Transport.ifAllowed
  refine .bind (.gets _) fun status => ?_
  split
  · exact .bind (.perform (.pass made fun _ => rfl)) fun _ => .done status
  · exact .done status

/-- The call to request a connection is made once. -/
theorem requestConnection_calls (id : EndpointId) (info : List UInt8)
    (options : ConnectionOptions) (l : Listener) :
    (Transport.requestConnection s id info options l).Follows
      (Calls ⟨some s, .requestConnection id options info⟩) false true := by
  unfold Transport.requestConnection Transport.call
  refine .bind (.modify (.make fun _ => rfl)) fun _ => ?_
  refine .bind (.waitUntil _) fun _ => ?_
  refine .bind (.modify (.pass true fun _ => rfl)) fun _ => ?_
  refine .bind (ifAllowed_calls s _ _) fun status => ?_
  exact .bind (.modify (.pass true fun _ => rfl)) fun _ => .done status

/-- After the look at the flag the call is made if the endpoint was not cancelled, and else it is
not. -/
theorem flagCheck_calls (id : EndpointId) (info : List UInt8) (options : ConnectionOptions)
    (l : Listener) : ∃ next, flagCheck s id info options l = .look next ∧
      ∀ n, (next n).Follows (Calls ⟨some s, .requestConnection id options info⟩) false
        !(n.session s).isCancelled id := by
  refine ⟨_, rfl, fun n => ?_⟩
  show Plan.Follows _ _ (if (n.session s).isCancelled id then _ else _) _
  cases (n.session s).isCancelled id with
  | true =>
    show Plan.Follows _ _ (changeSession s _ >>= _) _
    exact .bind (changeSession_calls s _) fun _ => .done Status.endpointIoError
  | false =>
    show Plan.Follows _ _ (changeSession s _ >>= _) _
    refine .bind (changeSession_calls s _) fun _ => ?_
    refine .bind (requestConnection_calls s id info options l) fun status => ?_
    split
    · exact .bind (changeSession_calls s _) fun _ => .done status
    · exact .done status

end Calls

/-- What a request does from its look at the flag on, as steps of an automaton: in `k` it is still
to be rolled back or to bring about a relation, and with either it comes to `l`. -/
theorem flagCheck_follows {κ : Type} {T : κ → (Network → Network × List Emission) → κ → Prop}
    {k l : κ} {s : SessionName} {id : EndpointId} {info : List UInt8} {options : ConnectionOptions}
    {listener : Listener}
    (arm : T k (fun n => (n.setSession s ((n.session s).armFlag id), [])) k)
    (aside : ∀ f, T k (fun n => (n.onTransport f, [])) k)
    (initiate : T k (fun n => n.onSession s
      (·.connectionInitiated id (Transport.requestedInfo id) (some listener))) l)
    (leave : T l (fun n => (n.onTransport (·.leave), [])) l)
    (rollBack : T k (fun n => (n.setSession s ((n.session s).rollBack id), [])) l) :
    (flagCheck s id info options listener).Follows T k l := by
  refine .look fun n => ?_
  show Plan.Follows _ _ (if (n.session s).isCancelled id then _ else _) _
  split
  · exact .act rollBack (.done _)
  refine .act arm <| .act (aside _) <| .await _ <| .act (aside _) <| .look fun n => ?_
  -- the outcome that the transport has set decides between a relation and rolling back
  show Plan.Follows _ _ (Plan.bind (Plan.bind
    (if (n.transport.outcome .requestConnection).isOk then _ else _) _) _) _
  cases hok : (n.transport.outcome .requestConnection).isOk with
  | true =>
    refine .act initiate <| .act leave ?_
    show Plan.Follows _ _ (if !(n.transport.outcome .requestConnection).isOk then _ else _) _
    rw [hok]
    exact .done _
  | false =>
    refine .act (aside _) ?_
    show Plan.Follows _ _ (if !(n.transport.outcome .requestConnection).isOk then _ else _) _
    rw [hok]
    exact .act rollBack (.done _)

/-- A request brings a relation about only once it is past rolling back. -/
theorem flagCheck_revocable (s : SessionName) (id : EndpointId) (info : List UInt8)
    (options : ConnectionOptions) (l : Listener) :
    (flagCheck s id info options l).Follows (Revocable s id) true false := by
  refine flagCheck_follows ?_ (fun f => .keep true fun n => rfl) ?_
    (.mind false fun n => .refl _ id) ?_
  · exact .keep true fun n => by
      rw [Network.session_setSession_self]
      exact Session.isRelated_congr rfl id
  · exact .mind true fun n => by
      show Session.Minds _ ((n.setSession s _).session s) id
      rw [Network.session_setSession_self]
      exact Session.minds_connectionInitiated _ id id (Transport.requestedInfo id) (some l)
  · exact .keep false fun n => by
      rw [Network.session_setSession_self, Session.isRelated_rollBack]

end Operation

end Switchboard
