import Switchboard.Proofs.Exchange.Payload
import Switchboard.Proofs.Exchange.ProgramOrder
import Switchboard.Proofs.Sending

/-!
# Sending payloads through the exchange

A visit to the transport is a way through the plan of its errand: what it changes and emits is what
some way through the plan changes and emits (`Leads.steps`, `Visit.held_eq`). So what holds of every
way through a plan holds of every visit, whatever the others do meanwhile (`visited_of_inside`).
`positions_reported_once` is the case of an operation that sends a payload.
-/

namespace Switchboard.Exchange

variable {τ υ : Type}

def Moment.change? (m : Moment τ υ) : Option (Plan.Change Network Emission) :=
  match m.act with
  | .inside _ (.act change _) _ =>
    some ⟨m.before.network, (change m.before.network).1, (change m.before.network).2⟩
  | _ => none

/-- What those who hold the transport change at the moments. -/
def changes (ms : List (Moment τ υ)) : List (Plan.Change Network Emission) :=
  ms.filterMap Moment.change?

theorem changes_append (ms ns : List (Moment τ υ)) :
    changes (ms ++ ns) = changes ms ++ changes ns := List.filterMap_append

theorem Moment.emitted_eq (m : Moment τ υ) : m.emitted = (changes [m]).flatMap (·.emitted) := by
  obtain ⟨k, act, d, d'⟩ := m
  cases act with
  | inside e plan held => cases plan <;> simp [emitted, changes, change?]
  | _ => rfl

/-- What is kept back is what has been emitted since. -/
theorem Visit.held_eq {e : Errand τ} {visit : List (Moment τ υ)} {held : List Emission}
    (h : Visit e visit held) : held = (changes visit).flatMap (·.emitted) := by
  induction h with
  | enter h => simp [changes, Moment.change?, h]
  | @go m ms plan held hv h ih =>
    rw [changes_append, List.flatMap_append, ← ih, m.emitted_eq]

section Steps

variable {plans : Errand τ → Job Status} {o : Outside τ υ}

/-- Whoever is inside leaves, or goes one step on in the plan. -/
theorem steps_inside {m : Moment τ υ} {acts : List (Act τ)} {e : Errand τ} {plan : Job Status}
    {held : List Emission} (h : m.Leaves (executeBy plans o) acts)
    (hm : m.act = .inside e plan held) :
    (∀ a ∈ acts, a.isInside = false) ∨
      ∃ plan', acts = [.inside e plan' (held ++ m.emitted)] ∧
        ∀ I : Network → Prop, I m.before.network → plan.Steps I (changes [m]) plan' := by
  obtain ⟨k, act, d, d'⟩ := m
  change executeBy plans o k act d = some (d', acts) at h
  obtain rfl : act = .inside e plan held := hm
  rcases executeBy_effect h with ⟨e', he, _⟩ | ⟨_, he⟩
  · cases he
  · cases he with
    | leave => exact .inl (isInside_leaving _ _ _)
    | look e next held =>
      exact .inr ⟨_, by simp [Moment.emitted], fun I hI => .look _ hI (.refl _)⟩
    | act e change next held => exact .inr ⟨_, rfl, fun I hI => .act _ hI (.refl _)⟩
    | await e ready next held =>
      exact .inr ⟨_, by simp [Moment.emitted], fun I _ => .await ready (.refl _)⟩

/-- Whoever is inside has come there by a visit, which has gone through the plan so far. -/
theorem Leads.steps {l rest : List (Act τ)} {ms : List (Moment τ υ)} {e : Errand τ}
    {plan : Job Status} {held : List Emission} (hl : ∀ a ∈ l, a.isInside = false)
    (h : Leads (executeBy plans o) l ms (.inside e plan held :: rest)) :
    ∃ before visit, ms = before ++ visit ∧ Visit e visit held ∧
      ∀ I : Network → Prop, (∀ m ∈ visit, I m.before.network) →
        (plans e).Steps I (changes visit) plan := by
  induction hn : ms.length generalizing ms plan held rest with
  | zero =>
    obtain rfl := List.eq_nil_of_length_eq_zero hn
    cases h
    cases hl _ List.mem_cons_self
  | succ n ih =>
    rcases List.eq_nil_or_concat ms with rfl | ⟨ms, m, rfl⟩
    · cases hn
    rw [List.concat_eq_append] at h hn ⊢
    obtain ⟨acts, rest', hms, hm, hr⟩ := h.at_moment
    have hagenda := hr.eq_of_nil
    have hrest := (hms.visit hl).1
    rw [List.tail_cons] at hrest
    -- Somebody is inside after the moment, and it is because of what the moment has left to do.
    have hnew : ¬ ∀ a ∈ acts, a.isInside = false := by
      intro hacts
      have hmem : Act.inside e plan held ∈ acts ++ rest' := hagenda ▸ List.mem_cons_self
      rcases List.mem_append.mp hmem with ha | ha
      · cases hacts _ ha
      · cases hrest _ ha
    cases hi : m.act.isInside with
    | false =>
      rcases leaves_outside hm hi with ⟨e', ha, rfl⟩ | ho
      · obtain ⟨⟨rfl, rfl, rfl⟩, -⟩ : (e = e' ∧ plan = plans e' ∧ held = []) ∧ rest = rest' := by
          simpa using hagenda
        refine ⟨ms, [m], rfl, .enter ha, fun I _ => ?_⟩
        rw [show changes [m] = [] by simp [changes, Moment.change?, ha]]
        exact .refl _
      · exact absurd ho hnew
    | true =>
      obtain ⟨e', plan', held', ha⟩ := Act.eq_inside hi
      rcases steps_inside hm ha with ho | ⟨plan'', rfl, hstep⟩
      · exact absurd ho hnew
      · obtain ⟨⟨rfl, rfl, rfl⟩, -⟩ :
            (e = e' ∧ plan = plan'' ∧ held = held' ++ m.emitted) ∧ rest = rest' := by
          simpa using hagenda
        rw [ha] at hms
        obtain ⟨before, visit, rfl, hv, hsteps⟩ := ih hms (by simpa using hn)
        refine ⟨before, visit ++ [m], List.append_assoc .., hv.go ha, fun I hI => ?_⟩
        rw [changes_append]
        refine (hsteps I fun k hk => hI k (List.mem_append_left _ hk)).trans (hstep I ?_)
        exact hI m (List.mem_append_right _ List.mem_cons_self)

end Steps

/-- Nobody is inside at the start, and no request is to be inside. -/
theorem isInside_given (k : Nat) (rs : List (Request τ)) :
    ∀ a ∈ (if k = worker then [.work] else []) ++ rs.map Act.request, a.isInside = false := by
  intro a ha
  rcases List.mem_append.mp ha with ha | ha
  · split at ha
    · rw [List.mem_singleton.mp ha]
      rfl
    · cases ha
  · obtain ⟨r, _, rfl⟩ := List.mem_map.mp ha
    rfl

section Play

variable {o : Outside τ υ} {network : Network} {outside : υ} {callers : Nat} {moves : List (Move τ)}
  {k : Nat} {past later : List (Moment τ υ)} {m : Moment τ υ} {e : Errand τ} {held : List Emission}

/-- In any run, whoever is inside has come there by a visit, which is a way through the plan of the
errand as far as it has got. -/
theorem Chronicle.visited_of_inside {plan : Job Status}
    (hk : ((start network outside callers).play o moves).momentsOf k = past ++ m :: later)
    (hm : m.act = .inside e plan held) :
    ∃ before visit, past = before ++ visit ∧ Visit e visit held ∧
      ∀ I : Network → Prop, (∀ x ∈ visit, I x.before.network) →
        e.plan.Steps I (changes visit) plan := by
  rw [play, ← executeBy_plan] at hk
  obtain ⟨rs, _, hl⟩ := leads_playBy (executeBy Errand.plan o) network outside callers moves k
  obtain ⟨acts, rest, hpast, -, -⟩ := (hk ▸ hl).at_moment
  rw [hm] at hpast
  exact hpast.steps (isInside_given k rs)

/-- In any run, what was emitted is delivered after the return, and then the outcome is reported. -/
theorem Chronicle.delivered_of_return {status : Status}
    (hk : ((start network outside callers).play o moves).momentsOf k = past ++ m :: later)
    (hm : m.act = .inside e (.done status) held) :
    ∃ rest, Part (execute o) (held.map .deliver ++ e.after status ++ rest) later := by
  rw [play, ← executeBy_plan] at hk
  obtain ⟨rs, _, hl⟩ := leads_playBy (executeBy Errand.plan o) network outside callers moves k
  obtain ⟨acts, rest, -, hleaves, hlater⟩ := (hk ▸ hl).at_moment
  rcases leaves_inside hleaves hm with ⟨status', hs, rfl⟩ | ⟨hn, _⟩
  · cases hs
    rw [executeBy_plan] at hlater
    exact ⟨rest, hlater.part⟩
  · exact absurd rfl (hn status)

end Play

/-- Enters, or is inside, to send a payload. -/
def Act.sends : Act τ → Bool
  | .enter (.operation ⟨_, .sendPayload _ _, _⟩) => true
  | .inside (.operation ⟨_, .sendPayload _ _, _⟩) _ _ => true
  | _ => false

theorem Visit.sends {t : Task τ} {visit : List (Moment τ υ)} {held : List Emission}
    {ids : List EndpointId} {p : Payload} (h : Visit (.operation t) visit held)
    (ht : t.operation = .sendPayload ids p) : ∀ m ∈ visit, Act.sends m.act = true := by
  obtain ⟨s, op, back⟩ := t
  obtain rfl : op = .sendPayload ids p := ht
  induction h with
  | enter h =>
    intro m hm
    rw [List.mem_singleton.mp hm, h]
    rfl
  | go hv h ih =>
    intro m hm
    rcases List.mem_append.mp hm with hm | hm
    · exact ih m hm
    · rw [List.mem_singleton.mp hm, h]
      rfl

open Sample in
/-- Sends a payload to an endpoint, to another one, and to the first one again. -/
def sendTwice : Task Unit :=
  ⟨"A", .sendPayload [⟨"EP01"⟩, ⟨"EP02"⟩, ⟨"EP01"⟩] ⟨.chosen 7, .bytes [1, 2]⟩, ()⟩

end Switchboard.Exchange
