import Switchboard.Proofs.Exchange.Handling

/-!
# Code outside does not hold the transport

Code outside runs with some acts only (`executeBy_congr`), and whoever executes one of them does not
hold the transport (`calls_out_unlocked`). So what is asked for by code that was itself called never
waits for its own thread: whoever waits to enter waits for somebody else, who is inside, and nobody
waits for the worker from the worker's own thread. All this holds whatever the transport does.
-/

namespace Switchboard

variable {τ υ : Type}

namespace Act

/-- A sink takes a signal, an outcome is reported, or a caller goes on. -/
def callsOut : Act τ → Bool
  | request (.turn _) | deliver _ | complete .. | resume .. => true
  | _ => false

/-- Waits for the worker to be gone. -/
def isJoin : Act τ → Bool
  | join _ => true
  | _ => false

end Act

namespace Exchange

variable {plans : Errand τ → Job Status} {o : Outside τ υ} {me : Nat} {act : Act τ}
  {d d' : Desk τ υ} {acts : List (Act τ)}

/-- No other act depends on the code outside. -/
theorem executeBy_congr (o o' : Outside τ υ) (h : act.callsOut = false) :
    executeBy plans o me act d = executeBy plans o' me act d := by
  cases act with
  | request r =>
    cases r with
    | turn cue => cases h
    | _ => rfl
  | deliver | complete | resume => cases h
  | _ => rfl

theorem isJoin_after (status : Status) {e : Errand τ} {a : Act τ} (h : a ∈ e.after status) :
    a.isJoin = false := by
  cases e <;> simp_all [Errand.after, Act.isJoin]

/-- The worker does not go and wait for itself. -/
theorem isJoin_step (h : Effect o worker d act d' acts) : ∀ a ∈ acts, a.isJoin = false := by
  intro a ha
  cases h with
  | leave e status held =>
    rcases List.mem_append.mp ha with ha | ha
    · obtain ⟨m, _, rfl⟩ := List.mem_map.mp ha
      rfl
    · exact isJoin_after status ha
  | enterClosed e => exact isJoin_after .error ha
  | turn | hook | deliver | complete | resume =>
    obtain ⟨x, _, rfl⟩ := List.mem_map.mp ha
    rfl
  | run | discard =>
    simp only [List.mem_cons, List.not_mem_nil, or_false] at ha
    rcases ha with rfl | rfl | rfl <;> rfl
  | claim _ _ hw => exact absurd rfl hw
  | _ => simp_all [Act.isJoin]

namespace Chronicle

variable {c : Chronicle τ υ} {member : Nat} {rest : List (Act τ)}

theorem isJoin_note (hc : ∀ a ∈ c.agenda worker, a.isJoin = false)
    (ha : c.agenda member = act :: rest)
    (he : executeBy plans o member act c.shared = some (d', acts)) :
    ∀ a ∈ (c.note member act d' (acts ++ rest)).agenda worker, a.isJoin = false := by
  intro a hm
  rcases mem_agenda_note ha hm with hold | ⟨hk, hnew⟩
  · exact hc a hold
  · subst hk
    rcases executeBy_effect he with ⟨e, _, _, _, rfl⟩ | ⟨_, he⟩
    · rw [List.mem_singleton.mp hnew]
      rfl
    · exact isJoin_step he a hnew

theorem isJoin_playBy (plans : Errand τ → Job Status) (o : Outside τ υ) (network : Network)
    (outside : υ) (callers : Nat) (moves : List (Move τ)) :
    ∀ a ∈ ((start network outside callers).playBy (executeBy plans o) moves).agenda worker,
      a.isJoin = false := by
  refine playBy_induction _ (P := fun c => ∀ a ∈ c.agenda worker, a.isJoin = false)
    (fun hc ha he => isJoin_note hc ha he) (fun caller r hc => ?_) ?_ moves
  · rw [agenda_ask_worker]
    exact hc
  · rw [agenda_start, if_pos rfl]
    simp [Act.isJoin]

/-- Neither before nor after an act with which code outside runs does its member hold the
transport. -/
theorem unlocked_note (h : c.Exclusive) (ha : c.agenda member = act :: rest)
    (he : executeBy plans o member act c.shared = some (d', acts)) (hx : act.callsOut = true) :
    c.shared.holder ≠ some member ∧ d'.holder ≠ some member := by
  have hi : act.isInside = false := by
    cases act <;> first | rfl | cases hx
  have hm := h.holder_ne ha hi
  refine ⟨hm, ?_⟩
  rcases executeBy_effect he with ⟨e, rfl, _⟩ | ⟨_, he⟩
  · cases hx
  · rcases outside_step he hi with ⟨e, rfl, _⟩ | ⟨hd, _⟩
    · cases hx
    · rw [hd]
      exact hm

/-- Nobody waits for himself: whoever waits to enter waits for another member, who is inside, and
whoever waits for the worker to be gone is not the worker. Nobody but the one who is inside holds
the transport while he waits. -/
inductive WaitsForOthers (c : Chronicle τ υ) (k : Nat) : Act τ → Prop where
  | enter (e : Errand τ) {j : Nat} {e' : Errand τ} {plan : Job Status} {held : List Emission}
      {rest : List (Act τ)} (other : j ≠ k) (holder : c.shared.holder = some j)
      (inside : c.agenda j = .inside e' plan held :: rest) : WaitsForOthers c k (.enter e)
  | inside (e : Errand τ) (ready : Network → Bool) (next : Job Status) (held : List Emission)
      (h : ready c.shared.network = false) : WaitsForOthers c k (.inside e (.await ready next) held)
  | work (free : c.shared.holder ≠ some k) (h : c.shared.queue.next? = none) :
    WaitsForOthers c k .work
  | join (back : τ) (free : c.shared.holder ≠ some k) (other : k ≠ worker)
      (h : c.shared.queue.isGone = false) : WaitsForOthers c k (.join back)

/-- Whatever the transport does and whatever the code outside asks for: whoever runs code outside
does not hold the transport, and whoever cannot go on waits for others. -/
theorem calls_out_unlocked (plans : Errand τ → Job Status) (o : Outside τ υ) (network : Network)
    (outside : υ) (callers : Nat) (moves : List (Move τ)) :
    let c := (start network outside callers).playBy (executeBy plans o) moves
    (∀ m ∈ c.moments, m.act.callsOut = true →
      m.before.holder ≠ some m.member ∧ m.after.holder ≠ some m.member) ∧
    (∀ k act rest, c.agenda k = act :: rest → executeBy plans o k act c.shared = none →
      c.WaitsForOthers k act) := by
  have hx := exclusive_playBy plans o network outside callers moves
  refine ⟨?_, fun k act rest hk hb => ?_⟩
  · exact forall_momentsBy (executeBy plans o) (P := Exclusive)
      (fun h ha he => ⟨exclusive_noteBy h ha he, unlocked_note h ha he⟩) exclusive_ask
      (exclusive_start network outside callers) rfl moves
  · cases waits_of_blocked hb with
    | enter e j hj =>
      have hne : j ≠ k := fun h => hx.holder_ne hk rfl (h ▸ hj)
      obtain ⟨e', plan, held, rest', hl, _⟩ := hx.holder j hj
      exact .enter e hne hj hl
    | inside e ready next held h => exact .inside e ready next held h
    | work h => exact .work (hx.holder_ne hk rfl) h
    | join back h =>
      refine .join back (hx.holder_ne hk rfl) ?_ h
      rintro rfl
      cases isJoin_playBy plans o network outside callers moves _ (hk ▸ List.mem_cons_self)

end Chronicle

namespace Sample

/-- A client whose sinks switch listening on, each time they take a signal. -/
def eager : Outside Unit Unit where
  onSignal _ _ _ u := (u, [.listen "A" "svc" {} {} ()])
  onTurn _ _ _ u := (u, [])

/-- A request whose listener has a sink. -/
def heard : Task Unit := ⟨"A", .requestConnection ⟨"EP01"⟩ [] {} { sink := some 0 }, ()⟩

end Sample

open Sample in
/-- A sink that is called on the worker's thread switches listening on while a caller is inside. It
waits for the caller. -/
theorem Chronicle.reentrant_unlocked :
    let c := (start {} () 1).playBy (executeBy Errand.plan eager)
      (submitting heard ++ turns 0 15 ++ .ask 0 (.unlisten "A" ()) :: turns 1 2)
    (∃ m ∈ c.moments, m.member = worker ∧ m.act.callsOut = true ∧
      m.before.holder ≠ some worker) ∧
    c.WaitsForOthers worker (.enter (.listen "A" "svc" {} {} ())) := by
  have h := calls_out_unlocked Errand.plan eager {} () 1
    (submitting heard ++ turns 0 15 ++ .ask 0 (.unlisten "A" ()) :: turns 1 2)
  exact ⟨by decide +kernel, h.2 worker (.enter (.listen "A" "svc" {} {} ())) _ rfl rfl⟩

end Exchange

end Switchboard
