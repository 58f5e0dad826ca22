import Switchboard.Proofs.Exchange.Stopping

/-!
# Touching sessions

What a step may do to a session: nothing, or what some report does, or what a client or a hook asks
for on purpose, or to roll a request back (`Touch`). Every step that is taken in an orderly run
touches every session in one of these ways (`Orderly.touch`).
-/

namespace Switchboard

variable {τ υ : Type}

/-- What is done to the flags when the operation is asked for, if it ends relations. -/
def Operation.cancelling? {L : Type} : Operation L → Option (SessionHook Listener)
  | rejectConnection id | disconnectFromEndpoint id => some (.cancel id)
  | stopAllEndpoints => some .cancelAll
  | _ => none

namespace Act

/-- The act rolls a request for the endpoint back. -/
def RollsBack (s : SessionName) (id : EndpointId) (a : Act τ) : Prop :=
  ∃ e next held, a =
    .inside e (.act (fun n => (n.setSession s ((n.session s).rollBack id), [])) next) held

/-- The act does to the session what `h` does, by hand or because it submits an operation that ends
relations. -/
def Handles (s : SessionName) (h : SessionHook Listener) (a : Act τ) : Prop :=
  a = .request (.hook (.session s h)) ∨
    ∃ t, a = .request (.submit t) ∧ t.session = s ∧ t.operation.cancelling? = some h

end Act

namespace Exchange

inductive Touch (act : Act τ) (name : SessionName) (s : Session) : Session → Prop where
  | none : Touch act name s s
  | report (h : SessionHook Listener) (hm : h.isManual = false) : Touch act name s (h.apply s).1
  | handle (h : SessionHook Listener) (ha : act.Handles name h) : Touch act name s (h.apply s).1
  | rollBack (id : EndpointId) (h : act.RollsBack name id) : Touch act name s (s.rollBack id)

section Step

variable {o : Outside τ υ} {me : Nat} {d d' : Desk τ υ} {act : Act τ} {acts : List (Act τ)}

/-- A write to one session touches that session only. -/
theorem touch_setSession {n : Network} {name : SessionName} {s : Session}
    (h : Touch act name (n.session name) s) (k : SessionName) :
    Touch act k (n.session k) ((n.setSession name s).session k) := by
  rw [Network.session_setSession]
  split
  · next hk => exact hk ▸ h
  · exact .none

theorem prepare_of_cancelling? {op : Operation Listener} {h : SessionHook Listener}
    (hop : op.cancelling? = some h) (s : Session) : op.prepare s = (h.apply s).1 := by
  cases op <;> cases hop <;> rfl

theorem touch_prepare (t : Task τ) (s : Session) :
    Touch (.request (.submit t)) t.session s (t.operation.prepare s) := by
  cases hop : t.operation.cancelling? with
  | some h =>
    rw [prepare_of_cancelling? hop]
    exact .handle h (.inr ⟨t, rfl, rfl, hop⟩)
  | none =>
    cases hm : t.operation with
    | requestConnection id => exact .report (.armFlag id) rfl
    | rejectConnection | disconnectFromEndpoint | stopAllEndpoints =>
      rw [hm] at hop
      cases hop
    | _ => exact .none

theorem touch_step (h : Effect o me d act d' acts)
    (hc : ∀ e plan held, act = .inside e plan held →
      ∃ k l, plan.Follows (Conduct e.own) k l) (k : SessionName) :
    Touch act k (d.network.session k) (d'.network.session k) := by
  cases h with
  | submit t => exact touch_setSession (touch_prepare t _) k
  | hook h =>
    cases h with
    | transport hook => exact .none
    | session name hook => exact touch_setSession (.handle hook (.inl rfl)) k
  | act e change next held =>
    obtain ⟨p, q, hf⟩ := hc e _ held rfl
    cases hf with
    | act hc _ =>
      cases hc with
      | report _ name hook hm =>
        exact touch_setSession (.report hook (SessionHook.isManual_of_isFlagWork hm)) k
      | arm _ name id => exact touch_setSession (.report (.armFlag id) rfl) k
      | rollBack name id _ => exact touch_setSession (.rollBack id ⟨e, next, held, rfl⟩) k
      | _ => exact .none
  | _ => exact .none

/-- What an act does to a session on purpose is done. -/
theorem handles_step (h : Effect o me d act d' acts) {name : SessionName}
    {hook : SessionHook Listener} (ha : act.Handles name hook) :
    d'.network.session name = (hook.apply (d.network.session name)).1 := by
  rcases ha with rfl | ⟨t, rfl, rfl, hop⟩
  · cases h
    exact Network.session_setSession_self ..
  · cases h
    simp only [Network.session_setSession_self]
    exact prepare_of_cancelling? hop _

theorem rollsBack_step (h : Effect o me d act d' acts) {name : SessionName} {id : EndpointId}
    (ha : act.RollsBack name id) :
    d'.network.session name = (d.network.session name).rollBack id := by
  obtain ⟨e, next, held, rfl⟩ := ha
  cases h
  exact Network.session_setSession_self ..

end Step

namespace Chronicle

theorem Orderly.touch {o : Outside τ υ} {c : Chronicle τ υ} {member : Nat} {act : Act τ}
    {rest acts : List (Act τ)} {d : Desk τ υ} (h : c.Orderly) (ha : c.agenda member = act :: rest)
    (he : Effect o member c.shared act d acts) (k : SessionName) :
    Touch act k (c.shared.network.session k) (d.network.session k) := by
  refine touch_step he (fun e plan held hact => ?_) k
  subst hact
  obtain ⟨p, _, hf⟩ := h.held member e plan held rest ha
  exact ⟨p, e.last, hf⟩

end Chronicle

end Exchange

end Switchboard
