import Switchboard.Proofs.Exchange.Holder
import Switchboard.Proofs.Reporting

/-!
# What is reported and called along a run

Whoever holds the transport reports and calls what its errand may and nothing else, at every moment
of every run (`reporting_play`). The argument is for any property of plans that is kept as they go
on (`holding_play`).
-/

namespace Switchboard

variable {τ υ : Type}

/-- The second plan is what is left of the first after one step. -/
inductive Plan.Resumes {σ ε α : Type} : Plan σ ε α → Plan σ ε α → Prop where
  | look (next : σ → Plan σ ε α) (s : σ) : Resumes (.look next) (next s)
  | act (change : σ → σ × List ε) (next : Plan σ ε α) : Resumes (.act change next) next
  | await (ready : σ → Bool) (next : Plan σ ε α) : Resumes (.await ready next) next

theorem Plan.Follows.resumes {σ ε α : Type} {T : Unit → (σ → σ × List ε) → Unit → Prop}
    {p q : Plan σ ε α} (h : p.Follows T () ()) (hr : p.Resumes q) : q.Follows T () () := by
  cases hr with
  | look _ s => cases h with | look hn => exact hn s
  | act => cases h with | act _ hn => exact hn
  | await => cases h with | await _ hn => exact hn

namespace Exchange

/-- Whoever goes on inside does so with what is left of its plan. -/
theorem resumes_step {o : Outside τ υ} {me : Nat} {d d' : Desk τ υ} {acts : List (Act τ)}
    {e : Errand τ} {plan plan' : Job Status} {held held' : List Emission}
    (h : Effect o me d (.inside e plan held) d' acts) (ha : acts = [.inside e plan' held']) :
    plan.Resumes plan' := by
  cases h with
  | leave e status held =>
    have hmem := isInside_leaving e status held (.inside e plan' held') (ha ▸ List.mem_cons_self)
    cases hmem
  | look _ next => cases ha; exact .look next d.network
  | act _ change => cases ha; exact .act change plan'
  | await _ ready => cases ha; exact .await ready plan'

/-- Whoever is inside reports and calls what its errand may, from that moment on. -/
def Moment.OnErrand (m : Moment τ υ) : Prop :=
  ∀ e plan held, m.act = .inside e plan held → plan.Follows (Reporting e.Reports e.Calls) () ()

namespace Chronicle

/-- Whoever is inside has a plan as in `I`, and so it was all along. -/
structure Holding (I : Errand τ → Job Status → Prop) (c : Chronicle τ υ) : Prop where
  exclusive : c.Exclusive
  inside : ∀ k e plan held rest, c.agenda k = .inside e plan held :: rest → I e plan
  moments : ∀ m ∈ c.moments, ∀ e plan held, m.act = .inside e plan held → I e plan

variable {I : Errand τ → Job Status → Prop}

theorem holding_play (o : Outside τ υ) (enter : ∀ e : Errand τ, I e e.plan)
    (resume : ∀ {e : Errand τ} {plan plan' : Job Status}, I e plan → plan.Resumes plan' →
      I e plan') (network : Network) (outside : υ) (callers : Nat) (moves : List (Move τ)) :
    ((start network outside callers).play o moves).Holding I := by
  refine play_induction o (P := Holding I) ?_ ?_ ?_ moves
  · intro c member act rest acts d hc ha he
    have he := execute_effect he
    refine ⟨exclusive_note hc.exclusive ha he, fun k e plan held l hk => ?_, fun m hm => ?_⟩
    · rcases inside_note hc.exclusive ha he hk with
        ⟨_, _, _, _, rfl, _⟩ | ⟨_, ⟨plan', held', rfl⟩, hacts⟩ | ⟨_, _, hk⟩
      · exact enter e
      · exact resume (hc.inside member e plan' held' rest ha) (resumes_step he hacts)
      · exact hc.inside k e plan held l hk
    · rcases List.mem_append.mp hm with hm | hm
      · exact hc.moments m hm
      · rw [List.mem_singleton.mp hm]
        rintro e plan held rfl
        exact hc.inside member e plan held rest ha
  · refine fun caller r hc => ⟨exclusive_ask caller r hc.exclusive, fun k e plan held l hk => ?_,
      hc.moments⟩
    obtain ⟨l', hl⟩ := inside_ask hc.exclusive hk
    exact hc.inside k e plan held l' hl
  · refine ⟨exclusive_start .., fun k e plan held l hk => ?_, fun m hm => by cases hm⟩
    rw [agenda_start] at hk
    split at hk <;> cases hk

theorem reporting_play (o : Outside τ υ) (network : Network) (outside : υ) (callers : Nat)
    (moves : List (Move τ)) :
    ((start network outside callers).play o moves).Holding
      (fun e plan => plan.Follows (Reporting e.Reports e.Calls) () ()) :=
  holding_play o Errand.plan_reporting (fun h hr => h.resumes hr) network outside callers moves

end Chronicle

end Exchange

end Switchboard
