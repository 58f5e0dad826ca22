import Switchboard.Proofs.Exchange.Chronicle
import Switchboard.Proofs.Exchange.Effect

/-!
# Completion

Every operation that is asked for has its outcome reported: once at most, and exactly once by the
time the worker has gone, unless the call that submits it has not come back yet. An operation is
decided when its body returns or when it is turned down on the way there, and what is reported is
the status its body returned, or an error if it was turned down.

A callback is known by its cue, and every statement is for one cue `b`. Two balances carry the
proof: operations asked for are decided or still borne by somebody (`decided_balance`), and decided
operations are reported or about to be (`reported_balance`).
-/

namespace Switchboard

variable {τ υ : Type}

/-! ## Acts that matter to a callback -/

namespace Act

variable [DecidableEq τ]

def submits (b : τ) : Act τ → Bool
  | request (.submit t) => t.back = b
  | _ => false

/-- Reports a status among `p` to the callback. -/
def reports (b : τ) (p : Status → Bool) : Act τ → Bool
  | complete back status => back = b && p status
  | _ => false

/-- The body of the operation has returned a status among `p`. -/
def returns (b : τ) (p : Status → Bool) : Act τ → Bool
  | inside (.operation t) (.done status) _ => t.back = b && p status
  | _ => false

/-- Is part of a call that submits an operation and has not come to the queue yet. -/
def routes (b : τ) : Act τ → Bool
  | route t | offer t | enqueue t => t.back = b
  | _ => false

/-- Holds an operation that is not decided yet. -/
def bears (b : τ) : Act τ → Bool
  | route t | offer t | enqueue t | enter (.operation t) | inside (.operation t) _ _ => t.back = b
  | _ => false

end Act

/-- Belongs to the worker alone. -/
def Act.isWorkers : Act τ → Bool
  | enter (.operation _) | inside (.operation _) _ _ | work | finish => true
  | _ => false

namespace Exchange

/-- The operation is turned down: refused on its way into the queue, dropped from the queue, or
passed over because the exchange has been shut down. -/
def Moment.turnsDown [DecidableEq τ] (b : τ) (m : Moment τ υ) : Bool :=
  match m.act with
  | .route t => m.before.closed && t.back = b
  | .offer t => m.before.queue.stopping && t.back = b
  | .enqueue t => m.before.queue.closed && t.back = b
  | .enter (.operation t) => m.before.closed && t.back = b
  | .work =>
    match m.after.queue.worker with
    | .dropping t => t.back = b
    | _ => false
  | _ => false

/-- The operation is taken into the queue. -/
def Moment.accepts [DecidableEq τ] (b : τ) (m : Moment τ υ) : Bool :=
  match m.act with
  | .enqueue t => !m.before.queue.closed && t.back = b
  | _ => false

/-- The operation is refused on its way into the queue. -/
def Moment.refuses [DecidableEq τ] (b : τ) (m : Moment τ υ) : Bool :=
  match m.act with
  | .route t => m.before.closed && t.back = b
  | .offer t => m.before.queue.stopping && t.back = b
  | .enqueue t => m.before.queue.closed && t.back = b
  | _ => false

namespace Chronicle

variable [DecidableEq τ]

/-- How many operations with the callback were asked for. -/
def submitted (b : τ) (c : Chronicle τ υ) : Nat := c.moments.countP (·.act.submits b)

/-- How often the callback was invoked with a status among `p`. -/
def reported (b : τ) (p : Status → Bool) (c : Chronicle τ υ) : Nat :=
  c.moments.countP (·.act.reports b p)

/-- How often a status among `p` is about to be reported to the callback. -/
def due (b : τ) (p : Status → Bool) (c : Chronicle τ υ) : Nat := c.tally (Act.reports b p)

def returned (b : τ) (p : Status → Bool) (c : Chronicle τ υ) : Nat :=
  c.moments.countP (·.act.returns b p)

def turnedDown (b : τ) (c : Chronicle τ υ) : Nat := c.moments.countP (Moment.turnsDown b)

def accepted (b : τ) (c : Chronicle τ υ) : Nat := c.moments.countP (Moment.accepts b)

def refused (b : τ) (c : Chronicle τ υ) : Nat := c.moments.countP (Moment.refuses b)

/-- How many calls that submit an operation with the callback have not come back yet: it is on its
way into the queue, or has been refused and the refusal is still to be reported. -/
def underway (b : τ) (c : Chronicle τ υ) : Nat :=
  c.tally (Act.routes b) + c.due b (fun _ => true)

/-- How many operations with the callback are neither returned nor turned down. -/
def undecided (b : τ) (c : Chronicle τ υ) : Nat :=
  c.tally (Act.bears b) + c.shared.queue.waiting.countP (·.back = b)

end Chronicle

/-! ## One step -/

section Balance

variable [DecidableEq τ]
variable {o : Outside τ υ} {me : Nat} {d d' : Desk τ υ} {act : Act τ} {acts : List (Act τ)}

@[simp] theorem countP_after_bears (b : τ) (status : Status) (e : Errand τ) :
    (e.after status).countP (Act.bears b) = 0 := by
  cases e <;> rfl

/-- A step decides an operation, or hands on what it bears, or takes on a new operation. -/
theorem decided_step (b : τ) (h : Effect o me d act d' acts) :
    [act].countP (Act.returns b (fun _ => true)) +
        [Crew.Moment.mk me act d d'].countP (Moment.turnsDown b) +
        acts.countP (Act.bears b) + d'.queue.waiting.countP (·.back = b) =
      [act].countP (Act.bears b) + d.queue.waiting.countP (·.back = b) +
        [act].countP (Act.submits b) := by
  have hr := countP_map_request (p := Act.bears b) (fun _ => rfl)
  have hm := countP_map_deliver (p := Act.bears b) (fun _ => rfl)
  cases h with
  | submit | enqueue | run | discard =>
    simp_all [Act.returns, Act.bears, Act.submits, Moment.turnsDown, List.countP_cons]
    try omega
  | enter e | enterClosed e | leave e | look e | act e | await e =>
    cases e <;>
      simp_all [Act.returns, Act.bears, Act.submits, Moment.turnsDown, Errand.needsOpen,
        List.countP_cons]
  | _ =>
    simp_all [Act.returns, Act.bears, Act.submits, Moment.turnsDown, List.countP_cons]

/-- A step takes an operation into the queue or refuses it, or hands it on, or takes on a new
one. -/
theorem routed_step (b : τ) (h : Effect o me d act d' acts) :
    [Crew.Moment.mk me act d d'].countP (Moment.accepts b) +
        [Crew.Moment.mk me act d d'].countP (Moment.refuses b) + acts.countP (Act.routes b) =
      [act].countP (Act.routes b) + [act].countP (Act.submits b) := by
  have hr := countP_map_request (p := Act.routes b) (fun _ => rfl)
  have hm := countP_map_deliver (p := Act.routes b) (fun _ => rfl)
  cases h with
  | leave e | enterClosed e =>
    cases e <;>
      simp_all [Moment.accepts, Moment.refuses, Act.routes, Act.submits, Errand.after]
  | _ => simp_all [Moment.accepts, Moment.refuses, Act.routes, Act.submits, List.countP_cons]

/-- Whoever is not the worker has nothing to report but refusals. -/
theorem refused_step (b : τ) (h : Effect o me d act d' acts) (hw : act.isWorkers = false) :
    acts.countP (Act.reports b (fun _ => true)) =
      [Crew.Moment.mk me act d d'].countP (Moment.refuses b) := by
  have hr := countP_map_request (p := Act.reports b (fun _ => true)) (fun _ => rfl)
  have hm := countP_map_deliver (p := Act.reports b (fun _ => true)) (fun _ => rfl)
  cases h with
  | leave e | enterClosed e | enter e | look e | act e | await e =>
    cases e <;>
      simp_all [Moment.refuses, Act.reports, Act.isWorkers, Errand.after]
  | _ => simp_all [Moment.refuses, Act.reports, Act.isWorkers, List.countP_cons]

/-- What a step decides is about to be reported, with an error if it was turned down. -/
theorem reported_step (b : τ) (p : Status → Bool) (h : Effect o me d act d' acts) :
    acts.countP (Act.reports b p) =
      [act].countP (Act.returns b p) +
        if p .error then [Crew.Moment.mk me act d d'].countP (Moment.turnsDown b) else 0 := by
  have hr := countP_map_request (p := Act.reports b p) (fun _ => rfl)
  have hm := countP_map_deliver (p := Act.reports b p) (fun _ => rfl)
  cases hp : p .error <;> cases h with
  | enter e | enterClosed e | leave e | look e | act e | await e =>
    cases e <;>
      simp_all [Act.returns, Act.reports, Moment.turnsDown, Errand.needsOpen, Errand.after,
        List.countP_cons]
  | _ =>
    simp_all [Act.returns, Act.reports, Moment.turnsDown, List.countP_cons]

end Balance

/-! ## The worker -/

section Worker

variable {o : Outside τ υ} {me : Nat} {d d' : Desk τ υ} {act : Act τ} {acts : List (Act τ)}

theorem isWorkers_after (status : Status) {e : Errand τ} {a : Act τ} (h : a ∈ e.after status) :
    a.isWorkers = false := by
  cases e <;> simp_all [Errand.after, Act.isWorkers]

/-- What is not the worker's stays so. -/
theorem isWorkers_step (h : Effect o me d act d' acts) (hw : act.isWorkers = false) :
    ∀ a ∈ acts, a.isWorkers = false := by
  intro a ha
  cases h with
  | leave e status held =>
    rcases List.mem_append.mp ha with ha | ha
    · obtain ⟨m, _, rfl⟩ := List.mem_map.mp ha; rfl
    · exact isWorkers_after status ha
  | enterClosed e => exact isWorkers_after .error ha
  | enter e | look e | act e | await e =>
    cases e <;> simp_all [Act.isWorkers]
  | turn | hook | deliver | complete | resume =>
    obtain ⟨x, _, rfl⟩ := List.mem_map.mp ha; rfl
  | _ => simp_all [Act.isWorkers]

/-- Only turning to the queue makes the worker turn to the queue again. -/
theorem work_notMem_step (h : Effect o me d act d' acts) (hw : act ≠ .work) : .work ∉ acts := by
  intro ha
  cases h with
  | leave e status held =>
    rcases List.mem_append.mp ha with ha | ha
    · obtain ⟨m, _, hm⟩ := List.mem_map.mp ha; cases hm
    · cases isWorkers_after status ha
  | enterClosed e => cases isWorkers_after .error ha
  | turn | hook | deliver | complete | resume =>
    obtain ⟨x, _, hx⟩ := List.mem_map.mp ha; cases hx
  | _ => simp_all

/-- A worker that has gone leaves nothing behind, and nothing comes after it. -/
structure Abandoned (q : WorkQueue (Task τ)) : Prop where
  gone : q.isGone = true
  closed : q.closed = true
  waiting : q.waiting = []

theorem isGone_step (h : Effect o me d act d' acts) (hw : act ≠ .work) :
    d'.queue.isGone = d.queue.isGone := by
  cases h <;> first | rfl | exact absurd rfl hw | simp

theorem abandoned_step (h : Effect o me d act d' acts) (hq : Abandoned d.queue) :
    Abandoned d'.queue := by
  obtain ⟨hg, hc, hw⟩ := hq
  cases h with
  | enqueue t ho => rw [hc] at ho; cases ho
  | run t rest idle | discard t rest idle | retire idle =>
    rw [WorkQueue.isGone, idle] at hg; cases hg
  | finish | stopQueue | closeQueue | claimOwn | claim => constructor <;> simp [hg, hc, hw]
  | _ => exact ⟨hg, hc, hw⟩

namespace Chronicle

/-- Only the worker does the worker's acts. It turns to the queue again and again, and once it has
gone it does nothing. -/
structure Manned (c : Chronicle τ υ) : Prop where
  callers : ∀ k, k ≠ worker → ∀ a ∈ c.agenda k, a.isWorkers = false
  worker : (∃ busy, c.agenda worker = busy ++ [.work] ∧ .work ∉ busy ∧
      c.shared.queue.isGone = false) ∨
    (c.agenda worker = [] ∧ Abandoned c.shared.queue)

theorem manned_start (network : Network) (outside : υ) (callers : Nat) :
    (start network outside callers : Chronicle τ υ).Manned := by
  constructor
  · intro k hk a ha
    rw [agenda_start, if_neg hk] at ha
    cases ha
  · exact .inl ⟨[], by rw [agenda_start, if_pos rfl]; rfl, List.not_mem_nil, rfl⟩

theorem manned_ask {c : Chronicle τ υ} (caller : Nat) (r : Request τ) (h : c.Manned) :
    (c.ask caller r).Manned := by
  constructor
  · intro k hk a ha
    rcases mem_agenda_ask ha with ha | ⟨_, rfl⟩
    · exact h.callers k hk a ha
    · rfl
  · rw [agenda_ask_worker, shared_give]
    exact h.worker

theorem manned_note {c : Chronicle τ υ} {member : Nat} {act : Act τ} {rest acts : List (Act τ)}
    {d : Desk τ υ} (h : c.Manned) (ha : c.agenda member = act :: rest)
    (he : Effect o member c.shared act d acts) : Manned (c.note member act d (acts ++ rest)) := by
  constructor
  · intro k hk a hm
    rcases mem_agenda_note ha hm with hold | ⟨hkm, hnew⟩
    · exact h.callers k hk a hold
    · subst hkm
      exact isWorkers_step he (h.callers k hk act (ha ▸ List.mem_cons_self)) a hnew
  · rw [agenda_note ha, shared_note]
    by_cases hw : Exchange.worker = member
    · subst hw
      rw [if_pos rfl]
      rcases h.worker with ⟨busy, hb, hn, hg⟩ | ⟨hb, _⟩
      · rw [ha] at hb
        cases busy with
        | nil =>
          cases hb
          cases he with
          | run t rest' =>
            exact .inl ⟨[.enter (.operation t), .finish], by simp, by simp, rfl⟩
          | discard t rest' =>
            exact .inl ⟨[.complete t.back .error, .finish], by simp, by simp, rfl⟩
          | retire idle hq hc => exact .inr ⟨rfl, rfl, hc, hq⟩
        | cons x busy =>
          cases hb
          have hx : act ≠ .work := fun hx => hn (hx ▸ List.mem_cons_self)
          refine .inl ⟨acts ++ busy, (List.append_assoc ..).symm, ?_, ?_⟩
          · rw [List.mem_append]
            rintro (hm | hm)
            · exact work_notMem_step he hx hm
            · exact hn (List.mem_cons_of_mem _ hm)
          · rw [isGone_step he hx, hg]
      · rw [ha] at hb; cases hb
    · rw [if_neg hw]
      have hx : act ≠ .work := by
        rintro rfl
        have := h.callers member (Ne.symm hw) .work (ha ▸ List.mem_cons_self)
        cases this
      rcases h.worker with ⟨busy, hb, hn, hg⟩ | ⟨hb, hq⟩
      · exact .inl ⟨busy, hb, hn, by rw [isGone_step he hx, hg]⟩
      · exact .inr ⟨hb, abandoned_step he hq⟩

theorem manned_play (o : Outside τ υ) (network : Network) (outside : υ) (callers : Nat)
    (moves : List (Move τ)) : ((start network outside callers).play o moves).Manned :=
  play_induction o (fun h ha he => manned_note h ha (execute_effect he))
    (fun caller r h => manned_ask caller r h) (manned_start network outside callers) moves

end Chronicle

end Worker

/-! ## Runs -/

namespace Chronicle

variable [DecidableEq τ]

/-- Operations asked for are decided or still borne by somebody. -/
theorem decided_balance (o : Outside τ υ) (network : Network) (outside : υ) (callers : Nat)
    (moves : List (Move τ)) (b : τ) :
    let c := (start network outside callers).play o moves
    c.returned b (fun _ => true) + c.turnedDown b + c.undecided b = c.submitted b := by
  refine play_induction o
    (P := fun c => c.returned b (fun _ => true) + c.turnedDown b + c.undecided b = c.submitted b)
    ?_ ?_ ?_ moves
  · intro c member act rest acts d h ha he
    have hs := decided_step b (execute_effect he)
    have ht := tally_note ha d acts (Act.bears b)
    simp only [returned, turnedDown, undecided, submitted, moments_note, shared_note,
      List.countP_append, List.countP_singleton] at h hs ht ⊢
    omega
  · intro c caller r h
    have ht := tally_ask (p := Act.bears b) rfl c caller (r := r)
    simpa only [returned, turnedDown, undecided, submitted, moments_give, shared_give, ht] using h
  · have ht := tally_start (p := Act.bears b) rfl network outside callers (υ := υ)
    simp only [undecided, ht]
    rfl

/-- What is decided is reported or about to be. -/
theorem reported_balance (o : Outside τ υ) (network : Network) (outside : υ) (callers : Nat)
    (moves : List (Move τ)) (b : τ) (p : Status → Bool) :
    let c := (start network outside callers).play o moves
    c.reported b p + c.due b p = c.returned b p + if p .error then c.turnedDown b else 0 := by
  refine play_induction o
    (P := fun c => c.reported b p + c.due b p =
      c.returned b p + if p .error then c.turnedDown b else 0) ?_ ?_ ?_ moves
  · intro c member act rest acts d h ha he
    have hs := reported_step b p (execute_effect he)
    have ht := tally_note ha d acts (Act.reports b p)
    simp only [reported, due, returned, turnedDown, moments_note, List.countP_append,
      List.countP_singleton] at h hs ht ⊢
    split at h <;> simp_all <;> omega
  · intro c caller r h
    have ht := tally_ask (p := Act.reports b p) rfl c caller (r := r)
    simpa only [reported, due, returned, turnedDown, moments_give, ht] using h
  · have ht := tally_start (p := Act.reports b p) rfl network outside callers (υ := υ)
    simp only [due, ht]
    split <;> rfl

/-- Operations asked for are in the queue or were refused, or are still on their way. -/
theorem routed_balance (o : Outside τ υ) (network : Network) (outside : υ) (callers : Nat)
    (moves : List (Move τ)) (b : τ) :
    let c := (start network outside callers).play o moves
    c.accepted b + c.refused b + c.tally (Act.routes b) = c.submitted b := by
  refine play_induction o
    (P := fun c => c.accepted b + c.refused b + c.tally (Act.routes b) = c.submitted b)
    ?_ ?_ ?_ moves
  · intro c member act rest acts d h ha he
    have hs := routed_step b (execute_effect he)
    have ht := tally_note ha d acts (Act.routes b)
    simp only [accepted, refused, submitted, moments_note, List.countP_append,
      List.countP_singleton] at h hs ht ⊢
    omega
  · intro c caller r h
    have ht := tally_ask (p := Act.routes b) rfl c caller (r := r)
    simpa only [accepted, refused, submitted, moments_give, ht] using h
  · have ht := tally_start (p := Act.routes b) rfl network outside callers (υ := υ)
    simp only [ht]
    rfl

/-- What callers have left to report was refused. -/
theorem tallyCallers_le_refused (o : Outside τ υ) (network : Network) (outside : υ)
    (callers : Nat) (moves : List (Move τ)) (b : τ) :
    let c := (start network outside callers).play o moves
    c.tallyCallers (Act.reports b (fun _ => true)) ≤ c.refused b := by
  refine (play_induction o
    (P := fun c => c.Manned ∧ c.tallyCallers (Act.reports b (fun _ => true)) ≤ c.refused b)
    ?_ ?_ ?_ moves).2
  · rintro c member act rest acts d ⟨hm, h⟩ ha he
    refine ⟨manned_note hm ha (execute_effect he), ?_⟩
    have hn : refused b (c.note member act d (acts ++ rest)) =
        c.refused b + [Crew.Moment.mk member act c.shared d].countP (Moment.refuses b) :=
      List.countP_append
    by_cases hk : member = worker
    · rw [tallyCallers_note_worker hk]
      omega
    · have hw := hm.callers member hk act (ha ▸ List.mem_cons_self)
      have hs := refused_step b (execute_effect he) hw
      have ht := tallyCallers_note hk ha d acts (Act.reports b (fun _ => true))
      omega
  · rintro c caller r ⟨hm, h⟩
    refine ⟨manned_ask caller r hm, ?_⟩
    rw [tallyCallers_ask rfl]
    exact h
  · refine ⟨manned_start network outside callers, ?_⟩
    rw [tallyCallers_start]
    exact Nat.zero_le _

/-- Once the worker has gone, what is left to do is left to callers, who bear nothing but calls
that have not come back. -/
theorem tally_of_isGone {c : Chronicle τ υ} (h : c.Manned) (hg : c.shared.queue.isGone = true)
    (b : τ) : c.undecided b = c.tally (Act.routes b) ∧
      c.due b (fun _ => true) = c.tallyCallers (Act.reports b (fun _ => true)) := by
  rcases h.worker with ⟨_, _, _, hn⟩ | ⟨hw, hq⟩
  · rw [hg] at hn; cases hn
  constructor
  · unfold undecided Crew.Minutes.tally
    rw [hq.waiting, List.countP_nil, Nat.add_zero]
    refine Crew.tally_congr fun k a ha => ?_
    have hk : k ≠ worker := by
      rintro rfl
      rw [show c.crew.agenda worker = [] from hw] at ha
      cases ha
    have hi := h.callers k hk a ha
    cases a with
    | enter e | inside e => cases e <;> first | rfl | cases hi
    | _ => rfl
  · exact (tallyCallers_of_worker hw).symm

/-- Completion. Whatever callers ask for, whatever the code outside does when it is called, and in
whatever order the steps are taken, a callback is invoked at most once for each operation that was
asked for. Once the worker has gone it has been invoked exactly once for each, but for the calls
that have not come back yet, which are none of those whose operation was taken into the queue. A
status is reported as often as bodies have returned it, and an error once more for each operation
that was turned down, but for what is due at this moment; and no operation is decided twice. -/
theorem reported_exactly_once (o : Outside τ υ) (network : Network) (outside : υ) (callers : Nat)
    (moves : List (Move τ)) (b : τ) :
    let c := (start network outside callers).play o moves
    c.reported b (fun _ => true) ≤ c.submitted b ∧
      (c.shared.queue.isGone = true →
        c.reported b (fun _ => true) + c.underway b = c.submitted b ∧
        c.accepted b ≤ c.reported b (fun _ => true)) ∧
      (∀ st, c.reported b (· = st) + c.due b (· = st) =
        c.returned b (· = st) + if st = .error then c.turnedDown b else 0) ∧
      c.returned b (fun _ => true) + c.turnedDown b + c.undecided b = c.submitted b := by
  intro c
  have hm : c.Manned := manned_play o network outside callers moves
  have hd : c.returned b (fun _ => true) + c.turnedDown b + c.undecided b = c.submitted b :=
    decided_balance o network outside callers moves b
  have hr : c.reported b (fun _ => true) + c.due b (fun _ => true) =
      c.returned b (fun _ => true) + c.turnedDown b :=
    reported_balance o network outside callers moves b (fun _ => true)
  have ha : c.accepted b + c.refused b + c.tally (Act.routes b) = c.submitted b :=
    routed_balance o network outside callers moves b
  have hf : c.tallyCallers (Act.reports b (fun _ => true)) ≤ c.refused b :=
    tallyCallers_le_refused o network outside callers moves b
  refine ⟨by omega, fun hg => ?_, fun st => ?_, hd⟩
  · obtain ⟨hu, hc⟩ := tally_of_isGone hm hg b
    unfold underway
    constructor <;> omega
  · have hs := reported_balance o network outside callers moves b (· = st)
    simp only [decide_eq_true_eq, eq_comm (a := Status.error)] at hs
    exact hs

open Sample in
/-- A request that is still queued when the exchange is shut down is reported all the same. -/
theorem reported_after_shutdown :
    let c := run (submitting request ++ .ask 0 (.shutdown ()) :: turns 1 13 ++ turns 0 4)
    c.shared.queue.isGone = true ∧ c.submitted () = 1 ∧
      c.reported () (fun _ => true) + c.underway () = c.submitted () := by
  refine ⟨by decide +kernel, by decide +kernel, ?_⟩
  exact ((reported_exactly_once silent (opening [] []) () 1 _ ()).2.1 (by decide +kernel)).1

end Chronicle

end Exchange

end Switchboard
