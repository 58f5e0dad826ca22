import Switchboard.Course
import Switchboard.Proofs.Account
import Switchboard.Proofs.Exchange.Chronicle

/-!
# What happens to a session

Whatever happens, a session undergoes reports and nothing else: those that a submission prepares,
those of the body whose turn it is, those of a call for listening, or the one that comes from
outside (`session_step`). What every such report keeps is kept over a whole course.
-/

namespace Switchboard

namespace SessionHook

theorem connections_apply {h : SessionHook Listener} (hf : h.isFlagWork = true) (s : Session) :
    (h.apply s).1.connections = s.connections := by
  cases h <;> first | rfl | cases hf

theorem applyAll_keeps {P : Session → Prop} (rs : List (SessionHook Listener))
    (h : ∀ x, P x → ∀ r ∈ rs, P (r.apply x).1) {s : Session} (hs : P s) :
    P (applyAll s rs).1 := by
  induction rs generalizing s with
  | nil => exact hs
  | cons r rs ih =>
    exact ih (fun x hx r' hr => h x hx r' (List.mem_cons_of_mem _ hr))
      (h s hs r List.mem_cons_self)

end SessionHook

namespace Operation

/-- What preparing an operation reports. -/
def preparing {L : Type} : Operation L → List (SessionHook Listener)
  | requestConnection id .. => [.armFlag id]
  | rejectConnection id | disconnectFromEndpoint id => [.cancel id]
  | stopAllEndpoints => [.cancelAll]
  | _ => []

theorem prepare_eq {L : Type} (op : Operation L) (s : Session) :
    op.prepare s = (SessionHook.applyAll s op.preparing).1 := by
  cases op <;> rfl

/-- A body reports a connection to an endpoint only if it is not related. -/
theorem not_related_of_initiates {op : Operation Listener} {s : SessionName} {x : Session}
    {t : Transport} {id : EndpointId} {info : ResponseInfo} {l : Option Listener}
    (h : .connectionInitiated id info l ∈ (op.account s x t).reports) :
    x.isRelated id = false := by
  cases op with
  | requestConnection id' =>
    simp only [account] at h
    split at h
    · cases h
    · next hr =>
      split at h
      · simp at h
      · split at h
        · simp_all [Session.isRelated]
        · simp at h
  | stopAllEndpoints => simp [account] at h
  | _ => grind [account, called]

/-- A body removes a flag only of an endpoint that is not related, and then it does nothing to the
relations. -/
theorem not_related_of_removeFlag {op : Operation Listener} {s : SessionName} {x : Session}
    {t : Transport} {id : EndpointId} (h : .removeFlag id ∈ (op.account s x t).reports) :
    x.isRelated id = false ∧ ∀ r ∈ (op.account s x t).reports, r.isFlagWork = true := by
  cases op with
  | requestConnection id' =>
    simp only [account] at h ⊢
    split at h
    · cases h
    · next hr =>
      rw [if_neg hr]
      split at h
      · simp_all [Session.isRelated, SessionHook.isFlagWork]
      · split at h
        · simp at h
        · simp_all [Session.isRelated, SessionHook.isFlagWork]
  | stopAllEndpoints => simp [account] at h
  | _ => grind [account, called]

end Operation

namespace Course

/-- A course of clients that have done nothing yet, over a transport nobody has called. -/
def opening (clients : List (SessionName × UInt64)) (farewells : List (SessionName × EndpointId)) :
    Course :=
  { network := Exchange.Chronicle.opening clients farewells }

/-- The reports that a happening brings to a session. -/
def reports (c : Course) (s : SessionName) : Happening → List (SessionHook Listener)
  | .submit u => if u.session = s then u.operation.preparing else []
  | .work =>
    match c.waiting with
    | [] => []
    | u :: _ =>
      if u.session = s then
        (u.operation.account s (c.network.session s) c.network.transport).reports
      else []
  | .listen k service l options =>
    if k = s then
      (Operation.listening k service l options (c.network.session k) c.network.transport).reports
    else []
  | .unlisten k => if k = s then [.stoppedListening] else []
  | .hook (.session k h) => if k = s then [h] else []
  | .hook (.transport _) => []

theorem session_carry {α : Type} {s k : SessionName} {c : Course} {job : Job α} {a : Account α}
    (h : job.Gives k c.network a) (status : α → Option Status) :
    (c.carry job status).1.network.session s =
      (SessionHook.applyAll (c.network.session s) (if k = s then a.reports else [])).1 := by
  split
  · next hk => exact hk ▸ h.session
  · next hk => exact h.others s hk

/-- Whatever happens does to a session what its reports do. -/
theorem session_step (c : Course) (h : Happening) (s : SessionName) :
    (c.step h).1.network.session s =
      (SessionHook.applyAll (c.network.session s) (c.reports s h)).1 := by
  cases h with
  | submit u =>
    show (c.network.setSession _ _).session s = _
    rw [Network.session_setSession, reports]
    split
    · next hu => rw [hu, Operation.prepare_eq]
    · rfl
  | work =>
    cases hw : c.waiting with
    | nil => simp only [step, reports, hw, SessionHook.applyAll]
    | cons u rest =>
      simp only [step, reports, hw]
      refine (session_carry (Operation.body_gives u.operation) some).trans ?_
      split
      · next hu => rw [hu]
      · rfl
  | listen k service l options =>
    exact session_carry (Operation.startListening_gives service l options) some
  | unlisten k => exact session_carry Operation.stopListening_gives _
  | hook h =>
    cases h with
    | transport => rfl
    | session k h =>
      show (c.network.setSession _ _).session s = _
      rw [Network.session_setSession, reports]
      split
      · next hk => exact hk ▸ rfl
      · rfl

end Course

end Switchboard
