import Switchboard.Proofs.Minutes
import Switchboard.WorkQueue.Service

/-!
# The steps of a service

`Effect` says everything an executed act can do, one constructor a case; `execute_effect` is the
only lemma that opens `execute`. A run of the service is a list of moves: a member takes its turn,
or a caller asks for one more thing, so that every interleaving is some list of moves, and
`play_induction` is the one induction over runs. `Rostered` says what the worker still has to do:
it is never between two jobs at once.
-/

namespace Switchboard.Service

variable {J τ υ : Type}

/-! ## Effects -/

/-- `Effect c me d act d' acts`: executed by `me` at the desk `d`, `act` leaves `d'` and `acts`. -/
inductive Effect (c : Code J τ υ) (me : Nat) (d : Desk J υ) :
    Act J τ → Desk J υ → List (Act J τ) → Prop where
  -- jobs that are submitted
  | submit (job : J) (back : τ) (h : d.queue.stopping = false) :
    Effect c me d (.ask (.submit job back)) d [.offer job back]
  | submitLate (job : J) (back : τ) (h : d.queue.stopping = true) :
    Effect c me d (.ask (.submit job back)) d [.refuse job back]
  | accept (job : J) (back : τ) (h : d.queue.closed = false) (hg : d.queue.isGone = false) :
    Effect c me d (.offer job back)
      { d with queue :=
        { d.queue with
          waiting := d.queue.waiting ++ [job]
          stats := { d.queue.stats with submitted := d.queue.stats.submitted + 1 } } }
      [.answer job back true]
  | lose (job : J) (back : τ) (h : d.queue.closed = false) (hg : d.queue.isGone = true) :
    Effect c me d (.offer job back) { d with queue := d.queue.lose } [.refuse job back]
  | offerClosed (job : J) (back : τ) (h : d.queue.closed = true) :
    Effect c me d (.offer job back) d [.refuse job back]
  | refuse (job : J) (back : τ) (u : υ) (asks : List (Ask J τ))
      (h : c.onDrop job (sight me d) d.outside = (u, asks)) :
    Effect c me d (.refuse job back) { d with outside := u }
      (asks.map .ask ++ [.answer job back false])
  | answer (job : J) (back : τ) (accepted : Bool) (u : υ) (asks : List (Ask J τ))
      (h : c.onTurn back (some accepted) (sight me d) d.outside = (u, asks)) :
    Effect c me d (.answer job back accepted) { d with outside := u } (asks.map .ask ++ [])
  | turn (place : τ) (u : υ) (asks : List (Ask J τ)) (hr : c.ready place d.outside = true)
      (h : c.onTurn place none (sight me d) d.outside = (u, asks)) :
    Effect c me d (.ask (.turn place)) { d with outside := u } (asks.map .ask ++ [])
  -- the worker
  | run (job : J) (rest : List J) (idle : d.queue.worker = .idle)
      (h : d.queue.waiting = job :: rest) (go : d.queue.stopping = false) (u : υ)
      (asks : List (Ask J τ)) (hu : c.onRun job (sight me d) d.outside = (u, asks)) :
    Effect c me d .work
      { queue := { d.queue with waiting := rest, worker := .running job }, outside := u }
      (asks.map .ask ++ [.finish, .work])
  | discard (job : J) (rest : List J) (idle : d.queue.worker = .idle)
      (h : d.queue.waiting = job :: rest) (stop : d.queue.stopping = true) (u : υ)
      (asks : List (Ask J τ)) (hu : c.onDrop job (sight me d) d.outside = (u, asks)) :
    Effect c me d .work
      { queue := { d.queue with waiting := rest, worker := .dropping job }, outside := u }
      (asks.map .ask ++ [.finish, .work])
  | retire (idle : d.queue.worker = .idle) (h : d.queue.waiting = [])
      (closed : d.queue.closed = true) :
    Effect c me d .work { d with queue := { d.queue with worker := .gone } } []
  | finish : Effect c me d .finish { d with queue := d.queue.finish } []
  -- the end of the queue
  | shutdown (back : τ) :
    Effect c me d (.ask (.shutdown back)) { d with queue := d.queue.stop } [.close back]
  | close (back : τ) :
    Effect c me d (.close back) { d with queue := d.queue.close } [.claim back]
  | claimTaken (back : τ) (h : d.queue.claimed = true) : Effect c me d (.claim back) d [.done back]
  | claimOwn (back : τ) (h : d.queue.claimed = false) (hw : me = worker) :
    Effect c me d (.claim back) { d with queue := d.queue.claim } [.done back]
  | claim (back : τ) (h : d.queue.claimed = false) (hw : me ≠ worker) :
    Effect c me d (.claim back) { d with queue := d.queue.claim } [.join back]
  | join (back : τ) (h : d.queue.isGone = true) : Effect c me d (.join back) d [.done back]
  | done (back : τ) (u : υ) (asks : List (Ask J τ))
      (h : c.onTurn back none (sight me d) d.outside = (u, asks)) :
    Effect c me d (.done back) { d with outside := u } (asks.map .ask ++ [])

/-- What the worker does when it turns to the queue. -/
theorem work_effect (c : Code J τ υ) (me : Nat) (d : Desk J υ) {queue : WorkQueue J}
    (h : d.queue.next? = some queue) :
    Effect c me d .work (tackle c me { d with queue := queue }).1
      (tackle c me { d with queue := queue }).2 := by
  unfold WorkQueue.next? at h
  split at h
  · next job rest hw hq =>
    cases h
    by_cases hs : d.queue.stopping = true
    · simp only [if_pos hs]
      exact .discard job rest hw hq hs _ _ rfl
    · simp only [if_neg hs]
      exact .run job rest hw hq (by simpa using hs) _ _ rfl
  · next hw hq =>
    split at h
    · next hc => cases h; exact .retire hw hq hc
    · cases h
  · cases h

theorem execute_effect {c : Code J τ υ} {me : Nat} {act : Act J τ} {d d' : Desk J υ}
    {acts : List (Act J τ)} (h : execute c me act d = some (d', acts)) :
    Effect c me d act d' acts := by
  revert h
  fun_cases execute c me act d <;> intro h
  case case1 job back =>
    cases h
    by_cases hs : d.queue.stopping = true
    · rw [if_pos hs]; exact .submitLate job back hs
    · rw [if_neg hs]; exact .submit job back (by simpa using hs)
  case case2 back => cases h; exact .shutdown back
  case case3 place hr => cases h; exact .turn place _ _ hr rfl
  case case4 => cases h
  case case5 job back hq =>
    cases h
    exact .offerClosed job back (WorkQueue.accept?_eq_none_iff.mp hq)
  case case6 job back queue hq hg =>
    cases h
    exact .lose job back (WorkQueue.eq_of_accept? hq).1 hg
  case case7 job back queue hq hg =>
    cases h
    obtain ⟨hc, rfl⟩ := WorkQueue.eq_of_accept? hq
    exact .accept job back hc (by simpa using hg)
  case case8 job back => cases h; exact .refuse job back _ _ rfl
  case case9 job back accepted => cases h; exact .answer job back accepted _ _ rfl
  case case10 =>
    obtain ⟨queue, hq, hd⟩ := Option.map_eq_some_iff.mp h
    have he := work_effect c me d hq
    rwa [hd] at he
  case case11 => cases h; exact .finish
  case case12 back => cases h; exact .close back
  case case13 back hc => cases h; exact .claimTaken back hc
  case case14 back hc =>
    cases h
    by_cases hw : me = worker
    · rw [if_pos hw]; exact .claimOwn back (by simpa using hc) hw
    · rw [if_neg hw]; exact .claim back (by simpa using hc) hw
  case case15 back hg => cases h; exact .join back hg
  case case16 => cases h
  case case17 back => cases h; exact .done back _ _ rfl

/-! ## Runs -/

inductive Move (J τ : Type) where
  | step (member : Nat)
  /-- Callers are counted from zero; the worker is none of them. -/
  | ask (caller : Nat) (ask : Ask J τ)

/-- A service and what its members have done. -/
abbrev Shift (J τ υ : Type) := Crew.Minutes (Desk J υ) (Act J τ)

namespace Shift

def queue (m : Shift J τ υ) : WorkQueue J := m.shared.queue

/-- The service nobody has used yet. -/
def start (outside : υ) (callers : Nat) : Shift J τ υ := { crew := Service.start outside callers }

def move (c : Code J τ υ) (m : Shift J τ υ) : Move J τ → Shift J τ υ
  | .step member => m.turn (execute c) member
  | .ask caller a => m.give (caller + 1) [.ask a]

def play (c : Code J τ υ) (m : Shift J τ υ) (moves : List (Move J τ)) : Shift J τ υ :=
  moves.foldl (move c) m

theorem play_induction {P : Shift J τ υ → Prop} (c : Code J τ υ)
    (step : ∀ {m : Shift J τ υ} {member : Nat} {act : Act J τ} {rest acts : List (Act J τ)}
      {d : Desk J υ}, P m → m.agenda member = act :: rest →
      Effect c member m.shared act d acts → P (m.note member act d (acts ++ rest)))
    (ask : ∀ {m : Shift J τ υ} (caller : Nat) (a : Ask J τ), P m →
      P (m.give (caller + 1) [.ask a]))
    {m : Shift J τ υ} (start : P m) (moves : List (Move J τ)) : P (m.play c moves) := by
  induction moves generalizing m with
  | nil => exact start
  | cons move moves ih =>
    refine ih ?_
    cases move with
    | ask caller a => exact ask caller a start
    | step member =>
      show P (m.turn (execute c) member)
      rcases m.turn_cases (execute c) member with h | ⟨act, rest, d, acts, ha, he, h⟩
      · rw [h]
        exact start
      · rw [h]
        exact step start ha (execute_effect he)

theorem agenda_start (outside : υ) (callers k : Nat) :
    (start outside callers : Shift J τ υ).agenda k = if k = worker then [.work] else [] :=
  Crew.agenda_cons_replicate ..

end Shift

/-! ## The worker -/

/-- Turning to a job and being done with it. -/
def Act.isDuty : Act J τ → Bool
  | work | finish => true
  | _ => false

/-- What a worker still has to do: with a job in hand, whatever that has asked for, and then to be
done with it and turn to the next. -/
def OnDuty : WorkerState J → List (Act J τ) → Prop
  | .idle, l => l = [.work]
  | .running _, l | .dropping _, l =>
    ∃ acts, l = acts ++ [.finish, .work] ∧ ∀ a ∈ acts, a.isDuty = false
  | .gone, l => l = []

theorem not_isDuty_asks (asks : List (Ask J τ)) {a : Act J τ} (h : a ∈ asks.map Act.ask) :
    a.isDuty = false := by
  obtain ⟨ask, _, rfl⟩ := List.mem_map.mp h
  rfl

section Step

variable {c : Code J τ υ} {me : Nat} {d d' : Desk J υ} {act : Act J τ} {acts : List (Act J τ)}

/-- Nothing else brings the worker to a job or away from it. -/
theorem not_isDuty_step (h : Effect c me d act d' acts) (hd : act.isDuty = false) :
    d'.queue.worker = d.queue.worker ∧ ∀ a ∈ acts, a.isDuty = false := by
  have key : ∀ (asks : List (Ask J τ)) (l : List (Act J τ)), (∀ a ∈ l, a.isDuty = false) →
      ∀ a ∈ asks.map .ask ++ l, a.isDuty = false := fun asks l hl a ha =>
    (List.mem_append.mp ha).elim (not_isDuty_asks asks) (hl a)
  have one : ∀ b : Act J τ, b.isDuty = false → ∀ a ∈ [b], a.isDuty = false := fun b hb a ha =>
    List.mem_singleton.mp ha ▸ hb
  cases h with
  | run | discard | retire | finish => cases hd
  | refuse | answer | turn | done => exact ⟨rfl, key _ _ (by simp [Act.isDuty])⟩
  | _ => exact ⟨rfl, one _ rfl⟩

/-- With a duty at hand, whoever is on duty has nothing else to do. -/
theorem OnDuty.of_work {w : WorkerState J} {rest : List (Act J τ)} (h : OnDuty w (.work :: rest)) :
    w = .idle ∧ rest = [] := by
  cases w with
  | idle => exact ⟨rfl, (List.cons.inj h).2⟩
  | running | dropping =>
    obtain ⟨acts, hl, hd⟩ := h
    cases acts with
    | nil => cases hl
    | cons a acts =>
      obtain ⟨rfl, _⟩ := List.cons.inj hl
      cases hd _ List.mem_cons_self
  | gone => cases h

theorem OnDuty.of_finish {w : WorkerState J} {rest : List (Act J τ)}
    (h : OnDuty w (.finish :: rest)) :
    (∃ job, w = .running job ∨ w = .dropping job) ∧ rest = [.work] := by
  have key : ∀ acts : List (Act J τ), .finish :: rest = acts ++ [.finish, .work] →
      (∀ a ∈ acts, a.isDuty = false) → rest = [.work] := fun acts hl hd => by
    cases acts with
    | nil => exact (List.cons.inj hl).2
    | cons a acts =>
      obtain ⟨rfl, _⟩ := List.cons.inj hl
      cases hd _ List.mem_cons_self
  cases w with
  | idle => cases h
  | running job =>
    obtain ⟨acts, hl, hd⟩ := h
    exact ⟨⟨job, .inl rfl⟩, key acts hl hd⟩
  | dropping job =>
    obtain ⟨acts, hl, hd⟩ := h
    exact ⟨⟨job, .inr rfl⟩, key acts hl hd⟩
  | gone => cases h

/-- On the way to the end of a job, what the code outside asks for comes first. -/
theorem OnDuty.of_not_isDuty {w : WorkerState J} {rest : List (Act J τ)}
    (h : OnDuty w (act :: rest)) (hd : act.isDuty = false) (ha : ∀ a ∈ acts, a.isDuty = false) :
    OnDuty w (acts ++ rest) := by
  have key : ∀ before : List (Act J τ), act :: rest = before ++ [.finish, .work] →
      (∀ a ∈ before, a.isDuty = false) →
      ∃ before', acts ++ rest = before' ++ [.finish, .work] ∧ ∀ a ∈ before', a.isDuty = false :=
    fun before hl hb => by
    cases before with
    | nil =>
      obtain ⟨rfl, _⟩ := List.cons.inj hl
      cases hd
    | cons b before =>
      obtain ⟨rfl, rfl⟩ := List.cons.inj hl
      refine ⟨acts ++ before, (List.append_assoc ..).symm, fun a h => ?_⟩
      exact (List.mem_append.mp h).elim (ha a) fun h => hb a (List.mem_cons_of_mem _ h)
  cases w with
  | idle =>
    obtain ⟨rfl, _⟩ := List.cons.inj h
    cases hd
  | running | dropping =>
    obtain ⟨before, hl, hb⟩ := h
    exact key before hl hb
  | gone => cases h

end Step

namespace Shift

/-- Only the worker turns to jobs, to one at a time. -/
structure Rostered (m : Shift J τ υ) : Prop where
  worker : OnDuty m.queue.worker (m.agenda worker)
  callers : ∀ k, k ≠ Service.worker → ∀ a ∈ m.agenda k, a.isDuty = false

variable {c : Code J τ υ} {m : Shift J τ υ} {member : Nat} {act : Act J τ}
  {rest acts : List (Act J τ)} {d : Desk J υ}

theorem rostered_start (outside : υ) (callers : Nat) :
    (start outside callers : Shift J τ υ).Rostered := by
  refine ⟨?_, fun k hk a ha => ?_⟩
  · rw [agenda_start]
    rfl
  · rw [agenda_start, if_neg hk] at ha
    cases ha

theorem rostered_ask (caller : Nat) (a : Ask J τ) (h : m.Rostered) :
    Rostered (m.give (caller + 1) [.ask a]) := by
  refine ⟨?_, fun k hk b hb => ?_⟩
  · rw [Crew.Minutes.agenda_give_of_ne (show Service.worker ≠ caller + 1 from nofun)]
    exact h.worker
  · rcases Crew.Minutes.mem_agenda_give hb with hb | ⟨_, hb⟩
    · exact h.callers k hk b hb
    · rw [List.mem_singleton.mp hb]
      rfl

/-- Whoever takes up a duty is the worker. -/
theorem Rostered.eq_worker (h : m.Rostered) (ha : m.agenda member = act :: rest)
    (hd : act.isDuty = true) : member = Service.worker := by
  refine Decidable.byContradiction fun hk => ?_
  rw [h.callers member hk act (ha ▸ List.mem_cons_self)] at hd
  cases hd

theorem rostered_note (h : m.Rostered) (ha : m.agenda member = act :: rest)
    (he : Effect c member m.shared act d acts) :
    Rostered (m.note member act d (acts ++ rest)) := by
  cases hd : act.isDuty with
  | false =>
    obtain ⟨hw, hacts⟩ := not_isDuty_step he hd
    refine ⟨?_, fun k hk a hmem => ?_⟩
    · rw [Crew.Minutes.agenda_note ha]
      show OnDuty d.queue.worker _
      rw [hw]
      split
      · next hk => exact OnDuty.of_not_isDuty (ha ▸ hk ▸ h.worker) hd hacts
      · exact h.worker
    · rcases Crew.Minutes.mem_agenda_note ha hmem with hmem | ⟨_, hmem⟩
      · exact h.callers k hk a hmem
      · exact hacts a hmem
  | true =>
    obtain rfl := h.eq_worker ha hd
    have hw : OnDuty m.queue.worker (act :: rest) := ha ▸ h.worker
    refine ⟨?_, fun k hk a hmem => ?_⟩
    · rw [Crew.Minutes.agenda_note_self ha]
      show OnDuty d.queue.worker _
      cases he with
      | run | discard =>
        obtain ⟨_, rfl⟩ := hw.of_work
        exact ⟨_, List.append_nil _, fun a => not_isDuty_asks _⟩
      | retire =>
        obtain ⟨_, rfl⟩ := hw.of_work
        rfl
      | finish =>
        obtain ⟨⟨job, hj⟩, rfl⟩ := hw.of_finish
        have hi : m.shared.queue.finish.worker = .idle := by
          unfold WorkQueue.finish
          rcases hj with hj | hj <;> rw [show m.shared.queue.worker = _ from hj]
        show OnDuty m.shared.queue.finish.worker _
        rw [hi]
        rfl
      | _ => cases hd
    · rw [Crew.Minutes.agenda_note ha, if_neg hk] at hmem
      exact h.callers k hk a hmem

theorem rostered_play (c : Code J τ υ) (h : m.Rostered) (moves : List (Move J τ)) :
    (m.play c moves).Rostered :=
  play_induction c (fun h ha he => rostered_note h ha he)
    (fun caller a h => rostered_ask caller a h) h moves

end Shift

/-! ## A small service to try things on -/

namespace Sample

inductive Job where
  | plain
  /-- Submits a plain job. -/
  | nesting
  /-- Shuts the queue down and submits a plain job afterwards. -/
  | closing
  deriving DecidableEq

def code : Code Job Unit Unit where
  onRun
    | .plain, _, u => (u, [])
    | .nesting, _, u => (u, [.submit .plain ()])
    | .closing, _, u => (u, [.shutdown (), .submit .plain ()])
  onDrop _ _ u := (u, [])
  onTurn _ _ _ u := (u, [])
  ready _ _ := true

def turns (member n : Nat) : List (Move Job Unit) := List.replicate n (.step member)

/-- A caller submits a job, which comes into the queue. -/
def submitting (job : Job) : List (Move Job Unit) := .ask 0 (.submit job ()) :: turns 1 3

/-- The run of two callers. -/
def run (moves : List (Move Job Unit)) : Shift Job Unit Unit := (Shift.start () 2).play code moves

end Sample

end Switchboard.Service
