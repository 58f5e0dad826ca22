import Switchboard.Proofs.Exchange.Holder

/-!
# Other transports

An exchange does not depend on what its transport does. `executeBy plans` is `execute` with `plans`
for what is done inside for each errand: the guards of an operation and whatever the transport does
when it is called, with anything it may emit. `execute` is the case of `Errand.plan`
(`executeBy_plan`), and to enter is the only act that makes a difference (`executeBy_effect`).
-/

namespace Switchboard.Exchange

variable {τ υ : Type}

def executeBy (plans : Errand τ → Job Status) (o : Outside τ υ) : Execution (Desk τ υ) (Act τ)
  | me, .enter e, d =>
    if d.holder.isSome then none
    else if e.needsOpen && d.closed then some (d, e.after .error)
    else some ({ d with holder := some me }, [.inside e (plans e) []])
  | me, act, d => execute o me act d

theorem executeBy_plan (o : Outside τ υ) : executeBy Errand.plan o = execute o := by
  funext me act d
  cases act <;> rfl

variable {plans : Errand τ → Job Status} {o : Outside τ υ} {me : Nat} {act : Act τ}
  {d d' : Desk τ υ} {acts : List (Act τ)}

theorem executeBy_of_ne (h : ∀ e, act ≠ .enter e) :
    executeBy plans o me act d = execute o me act d := by
  cases act with
  | enter e => exact absurd rfl (h e)
  | _ => rfl

/-- Whoever executes an act enters, or does what the exchange does with any transport. -/
theorem executeBy_effect (h : executeBy plans o me act d = some (d', acts)) :
    (∃ e, act = .enter e ∧ d.holder = none ∧ d' = { d with holder := some me } ∧
        acts = [.inside e (plans e) []]) ∨
      (∀ e, act = .enter e → d.closed = true ∧ d' = d ∧ acts = e.after .error) ∧
        Effect o me d act d' acts := by
  by_cases hn : ∃ e, act = .enter e
  · obtain ⟨e, rfl⟩ := hn
    simp only [executeBy] at h
    split at h
    · cases h
    · next free =>
      split at h
      · next hc =>
        cases h
        simp only [Bool.and_eq_true] at hc
        refine .inr ⟨fun e' he => ?_, .enterClosed e (by simpa using free) hc.1 hc.2⟩
        cases he
        exact ⟨hc.2, rfl, rfl⟩
      · cases h
        exact .inl ⟨e, rfl, by simpa using free, rfl, rfl⟩
  · rw [executeBy_of_ne (fun e he => hn ⟨e, he⟩)] at h
    exact .inr ⟨fun e he => absurd ⟨e, he⟩ hn, execute_effect h⟩

/-- What an act may wait for: the transport to be free, the transport to go on, a job, or the worker
to be gone. -/
inductive Waits (d : Desk τ υ) : Act τ → Prop where
  | enter (e : Errand τ) (k : Nat) (h : d.holder = some k) : Waits d (.enter e)
  | inside (e : Errand τ) (ready : Network → Bool) (next : Job Status) (held : List Emission)
      (h : ready d.network = false) : Waits d (.inside e (.await ready next) held)
  | work (h : d.queue.next? = none) : Waits d .work
  | join (back : τ) (h : d.queue.isGone = false) : Waits d (.join back)

theorem waits_of_advance {e : Errand τ} {plan : Job Status} {held : List Emission}
    (h : advance d e held plan = none) : Waits d (.inside e plan held) := by
  cases plan with
  | await ready next =>
    simp only [advance] at h
    split at h
    · cases h
    · next hr => exact .inside e ready next held (by simpa using hr)
  | _ => cases h

theorem waits_of_blocked (h : executeBy plans o me act d = none) : Waits d act := by
  by_cases hn : ∃ e, act = .enter e
  · obtain ⟨e, rfl⟩ := hn
    simp only [executeBy] at h
    split at h
    · next hs =>
      obtain ⟨k, hk⟩ := Option.isSome_iff_exists.mp hs
      exact .enter e k hk
    · split at h <;> cases h
  · rw [executeBy_of_ne (fun e he => hn ⟨e, he⟩)] at h
    revert h
    fun_cases execute o me act d <;> intro h
    case case7 e _ => exact absurd ⟨e, rfl⟩ hn
    case case10 e plan held => exact waits_of_advance h
    case case15 hq => exact .work hq
    case case23 back hg => exact .join back (by simpa using hg)
    all_goals cases h

namespace Chronicle

variable {c : Chronicle τ υ} {member : Nat} {rest : List (Act τ)}

theorem exclusive_noteBy (h : c.Exclusive) (ha : c.agenda member = act :: rest)
    (he : executeBy plans o member act c.shared = some (d', acts)) :
    Exclusive (c.note member act d' (acts ++ rest)) := by
  rcases executeBy_effect he with ⟨e, rfl, free, rfl, rfl⟩ | ⟨_, he⟩
  · exact exclusive_enter h ha free (plans e)
  · exact exclusive_note h ha he

theorem exclusive_playBy (plans : Errand τ → Job Status) (o : Outside τ υ) (network : Network)
    (outside : υ) (callers : Nat) (moves : List (Move τ)) :
    ((start network outside callers).playBy (executeBy plans o) moves).Exclusive :=
  playBy_induction _ (fun h ha he => exclusive_noteBy h ha he) exclusive_ask
    (exclusive_start network outside callers) moves

/-- Whoever is about to do anything else than go on inside does not hold the transport. -/
theorem Exclusive.holder_ne (h : c.Exclusive) (ha : c.agenda member = act :: rest)
    (hi : act.isInside = false) : c.shared.holder ≠ some member := by
  intro hm
  obtain ⟨e, plan, held, l, hl, _⟩ := h.holder member hm
  rw [ha] at hl
  cases hl
  cases hi

end Chronicle

end Switchboard.Exchange
