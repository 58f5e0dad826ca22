import Switchboard.Proofs.Exchange.Cancellation
import Switchboard.Proofs.Exchange.Completion

/-!
# Turns

An operation is prepared when it is asked for, and takes three steps more to come into the queue. A
turn is a move in which it takes all of them at once. Every run by turns is a run, so that whatever
holds of all runs holds of these (`playTurns_eq_play`). As long as the exchange has not been shut
down, a turn is a step that submits nothing, or an operation lodged with the queue, or a new request
(`playTurns_induction`).
-/

namespace Switchboard

variable {τ υ : Type}

namespace Act

/-- Takes an operation into the queue. -/
def isRouting : Act τ → Bool
  | route _ | offer _ | enqueue _ => true
  | _ => false

/-- Belongs to shutting the exchange down. -/
def isClosing : Act τ → Bool
  | enter (.stop _) | inside (.stop _) _ _ | stopQueue _ | closeQueue _ => true
  | _ => false

/-- The operation that the act submits. -/
def submission? : Act τ → Option (Task τ)
  | request (.submit t) => some t
  | _ => none

end Act

namespace Exchange

/-! ## One step -/

section Step

variable {o : Outside τ υ} {me : Nat} {d d' : Desk τ υ} {act : Act τ} {acts : List (Act τ)}

theorem isRouting_after (status : Status) {e : Errand τ} {a : Act τ} (h : a ∈ e.after status) :
    a.isRouting = false := by
  cases e <;> simp_all [Errand.after, Act.isRouting]

/-- What is on its way into the queue has been submitted. -/
theorem isRouting_step (h : Effect o me d act d' acts) (hs : act.submission? = none)
    (hr : act.isRouting = false) : ∀ a ∈ acts, a.isRouting = false := by
  intro a ha
  cases h with
  | submit => cases hs
  | route | offer | enqueue | routeClosed | offerStopping | enqueueClosed => cases hr
  | leave e status held =>
    rcases List.mem_append.mp ha with ha | ha
    · obtain ⟨m, _, rfl⟩ := List.mem_map.mp ha
      rfl
    · exact isRouting_after status ha
  | enterClosed e => exact isRouting_after .error ha
  | turn | hook | deliver | complete | resume =>
    obtain ⟨x, _, rfl⟩ := List.mem_map.mp ha
    rfl
  | run | discard =>
    simp only [List.mem_cons, List.not_mem_nil, or_false] at ha
    rcases ha with rfl | rfl | rfl <;> rfl
  | _ => simp_all [Act.isRouting]

theorem closed_step (h : Effect o me d act d' acts) (hd : d'.closed = false) :
    d.closed = false := by
  cases h <;> first | exact hd | cases hd

theorem isClosing_after (status : Status) {e : Errand τ} {a : Act τ} (he : ∀ back, e ≠ .stop back)
    (h : a ∈ e.after status) : a.isClosing = false := by
  cases e <;> simp_all [Errand.after, Act.isClosing]

/-- The queue stays open until the exchange is shut down. -/
theorem isClosing_step (h : Effect o me d act d' acts) (hc : act.isClosing = false)
    (hd : d'.closed = false) :
    d'.queue.stopping = d.queue.stopping ∧ d'.queue.closed = d.queue.closed ∧
      ∀ a ∈ acts, a.isClosing = false := by
  cases h with
  | stopQueue | closeQueue => cases hc
  | shutdown => cases hd
  | finish =>
    exact ⟨WorkQueue.stopping_finish _, WorkQueue.closed_finish _, fun a ha => by cases ha⟩
  | enterClosed e _ _ closed =>
    rw [hd] at closed
    cases closed
  | leave e status held =>
    refine ⟨rfl, rfl, fun a ha => ?_⟩
    rcases List.mem_append.mp ha with ha | ha
    · obtain ⟨m, _, rfl⟩ := List.mem_map.mp ha
      rfl
    · exact isClosing_after status (by rintro back rfl; cases hc) ha
  | enter e | look e | act e | await e =>
    refine ⟨rfl, rfl, fun a ha => ?_⟩
    cases e <;> simp_all [Act.isClosing]
  | turn | hook | deliver | complete | resume =>
    refine ⟨rfl, rfl, fun a ha => ?_⟩
    obtain ⟨x, _, rfl⟩ := List.mem_map.mp ha
    rfl
  | run | discard =>
    refine ⟨rfl, rfl, fun a ha => ?_⟩
    simp only [List.mem_cons, List.not_mem_nil, or_false] at ha
    rcases ha with rfl | rfl | rfl <;> rfl
  | _ => exact ⟨rfl, rfl, fun a ha => by simp_all [Act.isClosing]⟩

end Step

namespace Chronicle

/-! ## Runs by turns -/

/-- Lets a member take one step if it is about to take an operation into the queue. -/
def hurry (o : Outside τ υ) (k : Nat) (c : Chronicle τ υ) : Chronicle τ υ :=
  if (c.agenda k).head?.any Act.isRouting then c.move o (.step k) else c

/-- One move, and whatever it submits comes to the queue at once. -/
def turn (o : Outside τ υ) (c : Chronicle τ υ) : Move τ → Chronicle τ υ
  | .step k => ((c.move o (.step k)).hurry o k |>.hurry o k).hurry o k
  | .ask caller r => c.ask caller r

def playTurns (o : Outside τ υ) (c : Chronicle τ υ) (moves : List (Move τ)) : Chronicle τ υ :=
  moves.foldl (turn o) c

/-- What a member leaves when it has submitted an operation and has come to the queue with it. -/
def lodge (c : Chronicle τ υ) (k : Nat) (t : Task τ) (rest : List (Act τ)) : Chronicle τ υ :=
  let d := (Exchange.ask c.shared (.submit t)).1
  let queue := { d.queue with
    waiting := d.queue.waiting ++ [t]
    stats := { d.queue.stats with submitted := d.queue.stats.submitted + 1 } }
  c.note k (.request (.submit t)) d (.route t :: rest)
    |>.note k (.route t) d (.offer t :: rest)
    |>.note k (.offer t) d (.enqueue t :: rest)
    |>.note k (.enqueue t) { d with queue := queue } rest

variable {o : Outside τ υ} {c : Chronicle τ υ} {k : Nat} {act : Act τ} {rest acts : List (Act τ)}
  {d : Desk τ υ} {t : Task τ}

theorem turn_step (o : Outside τ υ) (c : Chronicle τ υ) (k : Nat) :
    c.turn o (.step k) = ((c.move o (.step k)).hurry o k |>.hurry o k).hurry o k := rfl

theorem hurry_eq_play (o : Outside τ υ) (k : Nat) (c : Chronicle τ υ) :
    ∃ moves, c.hurry o k = c.play o moves := by
  unfold hurry
  split
  · exact ⟨[.step k], rfl⟩
  · exact ⟨[], rfl⟩

theorem turn_eq_play (o : Outside τ υ) (c : Chronicle τ υ) (m : Move τ) :
    ∃ moves, c.turn o m = c.play o moves := by
  cases m with
  | ask caller r => exact ⟨[.ask caller r], rfl⟩
  | step k =>
    obtain ⟨m₁, h₁⟩ := hurry_eq_play o k (c.move o (.step k))
    obtain ⟨m₂, h₂⟩ := hurry_eq_play o k ((c.move o (.step k)).hurry o k)
    obtain ⟨m₃, h₃⟩ := hurry_eq_play o k (((c.move o (.step k)).hurry o k).hurry o k)
    refine ⟨.step k :: (m₁ ++ m₂ ++ m₃), ?_⟩
    show ((c.move o (.step k)).hurry o k |>.hurry o k).hurry o k =
      (c.move o (.step k)).play o (m₁ ++ m₂ ++ m₃)
    rw [h₃, h₂, h₁, play_append, play_append]

/-- Every run by turns is a run. -/
theorem playTurns_eq_play (o : Outside τ υ) (c : Chronicle τ υ) (moves : List (Move τ)) :
    ∃ moves', c.playTurns o moves = c.play o moves' := by
  induction moves generalizing c with
  | nil => exact ⟨[], rfl⟩
  | cons m moves ih =>
    obtain ⟨m₁, h₁⟩ := turn_eq_play o c m
    obtain ⟨m₂, h₂⟩ := ih (c.turn o m)
    exact ⟨m₁ ++ m₂, by rw [play_append, ← h₁, ← h₂]; rfl⟩

theorem closed_play (o : Outside τ υ) (moves : List (Move τ))
    (hc : (c.play o moves).shared.closed = false) : c.shared.closed = false := by
  refine play_induction o (P := fun b => b.shared.closed = false → c.shared.closed = false)
    ?_ (fun _ _ h => h) (fun h => h) moves hc
  exact fun h _ he hd => h (closed_step (execute_effect he) hd)

/-! ## An open exchange -/

/-- The exchange is open, and nobody is on the way into the queue. -/
structure Running (c : Chronicle τ υ) : Prop where
  mindful : c.Mindful
  manned : c.Manned
  opened : c.shared.closed = false
  going : c.shared.queue.stopping = false
  accepting : c.shared.queue.closed = false
  unshut : ∀ k, ∀ a ∈ c.agenda k, a.isClosing = false
  settled : ∀ k, ∀ a ∈ c.agenda k, a.isRouting = false

theorem running_start (clients : List (SessionName × UInt64))
    (farewells : List (SessionName × EndpointId)) (outside : υ) (callers : Nat) :
    (start (opening clients farewells) outside callers : Chronicle τ υ).Running := by
  have hwork : ∀ k, ∀ a ∈ (start (opening clients farewells) outside callers :
      Chronicle τ υ).agenda k, a = .work := by
    intro k a ha
    rw [agenda_start] at ha
    split at ha
    · exact List.mem_singleton.mp ha
    · cases ha
  exact ⟨mindful_start clients farewells outside callers, manned_start .., rfl, rfl, rfl,
    fun k a ha => hwork k a ha ▸ rfl, fun k a ha => hwork k a ha ▸ rfl⟩

theorem running_ask (caller : Nat) (r : Request τ) (h : c.Running) : (c.ask caller r).Running := by
  refine ⟨⟨orderly_ask caller r h.mindful.orderly, h.mindful.sound, h.mindful.cancelled⟩,
    manned_ask caller r h.manned, h.opened, h.going, h.accepting, fun k a ha => ?_,
    fun k a ha => ?_⟩
  · rcases mem_agenda_ask ha with ha | ⟨_, rfl⟩
    · exact h.unshut k a ha
    · rfl
  · rcases mem_agenda_ask ha with ha | ⟨_, rfl⟩
    · exact h.settled k a ha
    · rfl

theorem running_note (h : c.Running) (ha : c.agenda k = act :: rest)
    (he : Effect o k c.shared act d acts) (hs : act.submission? = none) (hd : d.closed = false) :
    Running (c.note k act d (acts ++ rest)) := by
  have hmem : act ∈ c.agenda k := ha ▸ List.mem_cons_self
  obtain ⟨hgo, hac, hun⟩ := isClosing_step he (h.unshut k act hmem) hd
  have hro := isRouting_step he hs (h.settled k act hmem)
  refine ⟨mindful_note h.mindful ha he, manned_note h.manned ha he, hd, hgo.trans h.going,
    hac.trans h.accepting, fun j a hj => ?_, fun j a hj => ?_⟩
  · rcases mem_agenda_note ha hj with hj | ⟨_, hj⟩
    · exact h.unshut j a hj
    · exact hun a hj
  · rcases mem_agenda_note ha hj with hj | ⟨_, hj⟩
    · exact h.settled j a hj
    · exact hro a hj

/-! ## Lodging an operation -/

theorem agenda_lodge (ha : c.agenda k = .request (.submit t) :: rest) (j : Nat) :
    (c.lodge k t rest).agenda j = if j = k then rest else c.agenda j := by
  have a₁ := agenda_note_self ha (Exchange.ask c.shared (.submit t)).1 (.route t :: rest)
  have a₂ := agenda_note_self a₁ (Exchange.ask c.shared (.submit t)).1 (.offer t :: rest)
  have a₃ := agenda_note_self a₂ (Exchange.ask c.shared (.submit t)).1 (.enqueue t :: rest)
  unfold lodge
  rw [agenda_note a₃, agenda_note a₂, agenda_note a₁, agenda_note ha]
  split <;> rfl

theorem moments_lodge (c : Chronicle τ υ) (k : Nat) (t : Task τ) (rest : List (Act τ)) :
    ∃ since, (c.lodge k t rest).moments = c.moments ++ since ∧
      ∀ m ∈ since, m.act.leaves = false := by
  simp only [lodge, moments_note, List.append_assoc]
  exact ⟨_, rfl, by simp [Act.leaves]⟩

/-- What the steps of an open exchange keep is kept when an operation is lodged. -/
theorem lodge_induction (o : Outside τ υ) {P : Chronicle τ υ → Prop}
    (step : ∀ {c : Chronicle τ υ} {act : Act τ} {rest acts : List (Act τ)} {d : Desk τ υ}, P c →
      c.agenda k = act :: rest → Effect o k c.shared act d acts →
      P (c.note k act d (acts ++ rest)))
    (h : c.Running) (ha : c.agenda k = .request (.submit t) :: rest) (hc : P c) :
    P (c.lodge k t rest) := by
  have h₁ := step hc ha (.submit t)
  have a₁ := agenda_note_self ha (Exchange.ask c.shared (.submit t)).1 (.route t :: rest)
  have h₂ := step h₁ a₁ (.route t h.opened)
  have a₂ := agenda_note_self a₁ (Exchange.ask c.shared (.submit t)).1 (.offer t :: rest)
  have h₃ := step h₂ a₂ (.offer t h.going)
  have a₃ := agenda_note_self a₂ (Exchange.ask c.shared (.submit t)).1 (.enqueue t :: rest)
  exact step h₃ a₃ (.enqueue t h.accepting)

theorem running_lodge (o : Outside τ υ) (h : c.Running)
    (ha : c.agenda k = .request (.submit t) :: rest) : (c.lodge k t rest).Running := by
  have hmem : ∀ j, ∀ a ∈ (c.lodge k t rest).agenda j, a ∈ c.agenda j := by
    intro j a hj
    rw [agenda_lodge ha] at hj
    split at hj
    · next he => exact he ▸ ha ▸ List.mem_cons_of_mem _ hj
    · exact hj
  exact ⟨lodge_induction o mindful_note h ha h.mindful, lodge_induction o manned_note h ha h.manned,
    h.opened, h.going, h.accepting, fun j a hj => h.unshut j a (hmem j a hj),
    fun j a hj => h.settled j a (hmem j a hj)⟩

theorem hurry_eq_note (ha : c.agenda k = act :: rest) (hr : act.isRouting = true)
    (he : execute o k act c.shared = some (d, acts)) :
    c.hurry o k = c.note k act d (acts ++ rest) := by
  unfold hurry
  rw [ha, if_pos (by simpa using hr), move_eq_note ha he]

theorem hurry_eq_self (h : ∀ a ∈ c.agenda k, a.isRouting = false) : c.hurry o k = c := by
  unfold hurry
  cases ha : c.agenda k with
  | nil => rfl
  | cons a rest => simp [h a (ha ▸ List.mem_cons_self)]

/-- Whoever submits an operation to an open exchange lodges it. -/
theorem turn_eq_lodge (o : Outside τ υ) (h : c.Running)
    (ha : c.agenda k = .request (.submit t) :: rest) :
    c.turn o (.step k) = c.lodge k t rest := by
  let d := (Exchange.ask c.shared (.submit t)).1
  have a₁ := agenda_note_self ha d (.route t :: rest)
  have a₂ := agenda_note_self a₁ d (.offer t :: rest)
  have a₃ := agenda_note_self a₂ d (.enqueue t :: rest)
  have hsubmit : c.move o (.step k) = c.note k (.request (.submit t)) d (.route t :: rest) :=
    move_eq_note ha rfl
  have hroute : execute o k (.route t) d = some (d, [.offer t]) := by
    simp [d, execute, Exchange.ask, h.opened]
  have hoffer : execute o k (.offer t) d = some (d, [.enqueue t]) := by
    simp [d, execute, Exchange.ask, h.going]
  have haccept : c.shared.queue.accept? t = some (c.lodge k t rest).shared.queue :=
    if_neg (by simp [h.accepting])
  have henqueue : execute o k (.enqueue t) d = some ((c.lodge k t rest).shared, []) := by
    simp only [d, execute, Exchange.ask, haccept]
    rfl
  rw [turn_step, hsubmit, hurry_eq_note a₁ rfl hroute]
  exact (congrArg (hurry o k) (hurry_eq_note a₂ rfl hoffer)).trans (hurry_eq_note a₃ rfl henqueue)

/-- Without a submission a turn is a step, or passes. -/
theorem turn_eq_note (h : c.Running) (k : Nat)
    (hs : ∀ act rest, c.agenda k = act :: rest → act.submission? = none) :
    c.turn o (.step k) = c ∨ ∃ act rest acts d, c.agenda k = act :: rest ∧
      Effect o k c.shared act d acts ∧ c.turn o (.step k) = c.note k act d (acts ++ rest) := by
  rcases Crew.Minutes.turn_cases (execute o) c k with hmove | ⟨act, rest, d, acts, ha, he, hmove⟩
  · refine .inl ?_
    rw [turn_step, show c.move o (.step k) = c from hmove, hurry_eq_self (h.settled k),
      hurry_eq_self (h.settled k), hurry_eq_self (h.settled k)]
  · have heff := execute_effect he
    have hset : ∀ a ∈ (c.note k act d (acts ++ rest)).agenda k, a.isRouting = false := by
      intro a hj
      have hact := h.settled k act (ha ▸ List.mem_cons_self)
      rcases mem_agenda_note ha hj with hj | ⟨_, hj⟩
      · exact h.settled k a hj
      · exact isRouting_step heff (hs act rest ha) hact a hj
    refine .inr ⟨act, rest, acts, d, ha, heff, ?_⟩
    rw [turn_step, show c.move o (.step k) = _ from hmove, hurry_eq_self hset, hurry_eq_self hset,
      hurry_eq_self hset]

/-! ## Induction over turns -/

/-- What an open exchange keeps with every step that submits nothing, whenever an operation is
lodged, and with every new request, holds as long as it is open. -/
theorem playTurns_induction {P : Chronicle τ υ → Prop} (o : Outside τ υ)
    (step : ∀ {c : Chronicle τ υ} {k : Nat} {act : Act τ} {rest acts : List (Act τ)}
      {d : Desk τ υ}, c.Running → P c → c.agenda k = act :: rest → Effect o k c.shared act d acts →
      act.submission? = none → P (c.note k act d (acts ++ rest)))
    (lodge : ∀ {c : Chronicle τ υ} {k : Nat} {t : Task τ} {rest : List (Act τ)}, c.Running → P c →
      c.agenda k = .request (.submit t) :: rest → P (c.lodge k t rest))
    (ask : ∀ {c : Chronicle τ υ} (caller : Nat) (r : Request τ), P c → P (c.ask caller r))
    {c : Chronicle τ υ} (running : c.Running) (start : P c) (moves : List (Move τ))
    (hopen : (c.playTurns o moves).shared.closed = false) :
    (c.playTurns o moves).Running ∧ P (c.playTurns o moves) := by
  induction moves generalizing c with
  | nil => exact ⟨running, start⟩
  | cons m moves ih =>
    have hnext : (c.turn o m).shared.closed = false := by
      obtain ⟨moves', h⟩ := playTurns_eq_play o (c.turn o m) moves
      exact closed_play o moves' (h ▸ hopen)
    suffices h : (c.turn o m).Running ∧ P (c.turn o m) from ih h.1 h.2 hopen
    cases m with
    | ask caller r => exact ⟨running_ask caller r running, ask caller r start⟩
    | step k =>
      by_cases hs : ∃ t rest, c.agenda k = .request (.submit t) :: rest
      · obtain ⟨t, rest, ha⟩ := hs
        rw [turn_eq_lodge o running ha]
        exact ⟨running_lodge o running ha, lodge running start ha⟩
      · have hs : ∀ act rest, c.agenda k = act :: rest → act.submission? = none := by
          intro act rest ha
          unfold Act.submission?
          split
          · exact absurd ⟨_, _, ha⟩ hs
          · rfl
        rcases turn_eq_note (o := o) running k hs with h | ⟨act, rest, acts, d, ha, he, h⟩
        · rw [h]
          exact ⟨running, start⟩
        · rw [h] at hnext ⊢
          exact ⟨running_note running ha he (hs act rest ha) hnext,
            step running start ha he (hs act rest ha)⟩

end Chronicle

namespace Sample

/-- A caller asks for an operation and lodges it. -/
def lodging (t : Task Unit) : List (Move Unit) := .ask 0 (.submit t) :: turns 1 1

/-- The run by turns of one caller. -/
def runTurns (moves : List (Move Unit)) : Chronicle Unit Unit :=
  (Chronicle.start (Chronicle.opening [] []) () 1).playTurns silent moves

end Sample

end Exchange

end Switchboard
