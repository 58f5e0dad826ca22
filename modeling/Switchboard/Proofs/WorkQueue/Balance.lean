import Switchboard.Proofs.WorkQueue.Service

/-!
# What becomes of the jobs

The history of a service says of every job when it was submitted, accepted or refused, begun, ended
or dropped (`Shift.jobs`). `Ledger` ties the queue and its counters to that history and is kept by
every step; `flow_step` and `answer_step` follow a job from the one who submits it to the answer.
`Conserved` is what comes of both: the counters balance at any time, jobs are worked on one at a
time in the order of acceptance, every job has one fate, and a queue that is stopping accepts no
more.
-/

namespace Switchboard

variable {J τ υ : Type}

namespace WorkerState

/-- The job that it is running, if any. -/
@[simp] def runs : WorkerState J → List J
  | .running job => [job]
  | _ => []

def isRunning : WorkerState J → Bool
  | .running _ => true
  | _ => false

@[simp] def drops : WorkerState J → List J
  | .dropping job => [job]
  | _ => []

end WorkerState

namespace WorkQueue

/-- Jobs that are neither begun nor dropped yet. One that the worker is about to drop comes
first. -/
def queued (q : WorkQueue J) : List J := q.worker.drops ++ q.waiting

/-- The job that the worker turns to next. -/
def upNext (q : WorkQueue J) : List J :=
  match q.worker with
  | .idle => q.waiting.take 1
  | _ => []

end WorkQueue

namespace Service

/-! ## The history of the jobs -/

inductive Mark where
  | asked
  | accepted
  /-- Dropped unrun on behalf of whoever submitted it. -/
  | refused
  /-- The answer is that the job was accepted. -/
  | granted
  | denied
  | begun
  | ended
  /-- Taken from the queue to be dropped unrun. -/
  | discarded
  | dropped
  deriving DecidableEq

/-- The jobs that an act marks as `k`, at the queue that it finds: one or none. -/
def Act.marks (q : WorkQueue J) : Mark → Act J τ → List J
  | .asked, ask (.submit job _) => [job]
  | .accepted, offer job _ => if q.closed || q.isGone then [] else [job]
  | .refused, refuse job _ => [job]
  | .granted, answer job _ true => [job]
  | .denied, answer job _ false => [job]
  | .begun, work => if q.stopping then [] else q.upNext
  | .discarded, work => if q.stopping then q.upNext else []
  | .ended, finish => q.worker.runs
  | .dropped, finish => q.worker.drops
  | _, _ => []

/-- The jobs that have been marked as `k`, oldest first. -/
def Shift.jobs (m : Shift J τ υ) (k : Mark) : List J :=
  m.moments.flatMap fun x => x.act.marks x.before.queue k

theorem Shift.jobs_note (m : Shift J τ υ) (member : Nat) (act : Act J τ) (d : Desk J υ)
    (l : List (Act J τ)) (k : Mark) :
    Shift.jobs (m.note member act d l) k = m.jobs k ++ act.marks m.queue k := by
  unfold Shift.jobs
  rw [Crew.Minutes.moments_note, List.flatMap_append]
  simp only [List.flatMap_cons, List.flatMap_nil, List.append_nil]
  rfl

/-! ## The queue and its history -/

/-- The queue, its worker and its counters are as the history says. -/
structure Ledger (jobs : Mark → List J) (q : WorkQueue J) : Prop where
  line : jobs .accepted = jobs .begun ++ jobs .discarded ++ q.waiting
  begun : jobs .begun = jobs .ended ++ q.worker.runs
  discarded : jobs .discarded = jobs .dropped ++ q.worker.drops
  going : q.stopping = false → jobs .discarded = []
  stats : q.stats = ⟨(jobs .accepted).length, (jobs .ended).length, (jobs .dropped).length⟩
  gone : q.isGone = true → q.closed = true ∧ q.waiting = []

/-- The worker has left, nothing waits or runs, and the counters say so. -/
def Finished (q : WorkQueue J) : Prop :=
  q.isGone = true ∧ q.queued = [] ∧ q.worker.isRunning = false ∧
    q.stats.submitted = q.stats.executed + q.stats.discarded

section Step

variable {c : Code J τ υ} {me : Nat} {d d' : Desk J υ} {act : Act J τ} {acts : List (Act J τ)}
  {jobs : Mark → List J}

/-- Jobs that are submitted or refused, and answers, are not in the books of the queue. -/
theorem Ledger.aside {q q' : WorkQueue J} (h : Ledger jobs q) (act : Act J τ)
    (ha : ∀ k ∈ [Mark.accepted, .begun, .ended, .discarded, .dropped], act.marks q k = [])
    (hw : q'.waiting = q.waiting) (hr : q'.worker = q.worker) (hs : q'.stats = q.stats)
    (hg : q.stopping = true → q'.stopping = true) (hc : q.closed = true → q'.closed = true) :
    Ledger (fun k => jobs k ++ act.marks q k) q' := by
  have key : ∀ k ∈ [Mark.accepted, .begun, .ended, .discarded, .dropped],
      jobs k ++ act.marks q k = jobs k := fun k hk => by rw [ha k hk, List.append_nil]
  simp only [List.forall_mem_cons] at key
  obtain ⟨ka, kb, ke, kx, kd, _⟩ := key
  constructor
  · simp only [ka, kb, kx, hw]; exact h.line
  · simp only [kb, ke, hr]; exact h.begun
  · simp only [kx, kd, hr]; exact h.discarded
  · intro hs
    simp only [kx]
    refine h.going ?_
    cases hq : q.stopping with
    | false => rfl
    | true => rw [hg hq] at hs; cases hs
  · simp only [ka, ke, kd, hs]; exact h.stats
  · intro hgone
    have := h.gone (by unfold WorkQueue.isGone at hgone ⊢; rwa [hr] at hgone)
    exact ⟨hc this.1, hw ▸ this.2⟩

theorem Ledger.accept (h : Ledger jobs d.queue) (job : J) (back : τ) (hc : d.queue.closed = false)
    (hg : d.queue.isGone = false) :
    Ledger (fun k => jobs k ++ (Act.offer job back : Act J τ).marks d.queue k)
      { d.queue with
        waiting := d.queue.waiting ++ [job]
        stats := { d.queue.stats with submitted := d.queue.stats.submitted + 1 } } := by
  constructor
  · simp [Act.marks, hc, hg, h.line]
  · simpa [Act.marks] using h.begun
  · simpa [Act.marks] using h.discarded
  · simpa [Act.marks] using h.going
  · simp [Act.marks, hc, hg, h.stats]
  · intro hgone
    exact absurd (hg.symm.trans hgone) nofun

/-- The worker drops a job only when the queue is stopping, and then runs no job any more. -/
theorem Ledger.take (h : Ledger jobs d.queue) {job : J} {rest : List J}
    (idle : d.queue.worker = .idle) (hq : d.queue.waiting = job :: rest) :
    Ledger (fun k => jobs k ++ (Act.work : Act J τ).marks d.queue k)
      { d.queue with
        waiting := rest
        worker := if d.queue.stopping then .dropping job else .running job } := by
  have ht : d.queue.upNext = [job] := by simp [WorkQueue.upNext, idle, hq]
  obtain ⟨hl, hb, hx, hg, hs, _⟩ := h
  rw [idle] at hb hx
  cases hstop : d.queue.stopping with
  | false =>
    have hz := hg hstop
    constructor
    · simpa [Act.marks, ht, hstop, hq, hz] using hl
    · simpa [Act.marks, ht, hstop] using hb
    · simpa [Act.marks, hstop] using hx
    · simp [Act.marks, hstop, hz]
    · simpa [Act.marks] using hs
    · simp [WorkQueue.isGone]
  | true =>
    constructor
    · simpa [Act.marks, ht, hstop, hq] using hl
    · simpa [Act.marks, hstop] using hb
    · simpa [Act.marks, ht, hstop] using hx
    · simp [hstop]
    · simpa [Act.marks] using hs
    · simp [WorkQueue.isGone]

theorem Ledger.finish (h : Ledger jobs d.queue) :
    Ledger (fun k => jobs k ++ (Act.finish : Act J τ).marks d.queue k) d.queue.finish := by
  obtain ⟨hl, hb, hx, hg, hs, hgone⟩ := h
  cases hw : d.queue.worker with
  | running job =>
    rw [hw] at hb hx
    constructor <;> simp_all [Act.marks, WorkQueue.finish, WorkQueue.isGone]
  | dropping job =>
    rw [hw] at hb hx
    constructor <;> simp_all [Act.marks, WorkQueue.finish, WorkQueue.isGone]
  | idle | gone =>
    constructor <;> simp_all [Act.marks, WorkQueue.finish]

/-- A gone worker leaves a closed queue, so that no job is lost to it. -/
theorem Ledger.step (h : Ledger jobs d.queue) (he : Effect c me d act d' acts) :
    Ledger (fun k => jobs k ++ act.marks d.queue k) d'.queue := by
  cases he with
  | accept job back hc hg => exact h.accept job back hc hg
  | lose job back hc hg => rw [(h.gone hg).1] at hc; cases hc
  | offerClosed job back hc =>
    exact h.aside _ (by simp [Act.marks, hc]) rfl rfl rfl id id
  | run job rest idle hq go =>
    have := h.take (τ := τ) idle hq
    simpa only [go, Bool.false_eq_true, if_false] using this
  | discard job rest idle hq stop =>
    have := h.take (τ := τ) idle hq
    simpa only [stop, if_true] using this
  | retire idle hq closed =>
    obtain ⟨hl, hb, hx, hg, hs, _⟩ := h
    rw [idle] at hb hx
    constructor <;> simp_all [Act.marks, WorkQueue.upNext]
  | finish => exact h.finish
  | shutdown => exact h.aside _ (by simp [Act.marks]) rfl rfl rfl (fun _ => rfl) id
  | close => exact h.aside _ (by simp [Act.marks]) rfl rfl rfl id (fun _ => rfl)
  | answer job back accepted =>
    exact h.aside _ (by cases accepted <;> simp [Act.marks]) rfl rfl rfl id id
  | _ => exact h.aside _ (by simp [Act.marks]) rfl rfl rfl id id

theorem Ledger.balance {q : WorkQueue J} (h : Ledger jobs q) :
    q.stats.submitted = q.stats.executed + q.stats.discarded + q.queued.length +
      (if q.worker.isRunning then 1 else 0) := by
  have hr : q.worker.runs.length = if q.worker.isRunning then 1 else 0 := by
    cases q.worker <;> rfl
  rw [h.stats, h.line, h.begun, h.discarded, ← hr]
  simp only [WorkQueue.queued, List.length_append]
  omega

theorem Ledger.finished {q : WorkQueue J} (h : Ledger jobs q) (hg : q.isGone = true) :
    Finished q := by
  have hw : q.worker = .gone := by
    unfold WorkQueue.isGone at hg
    cases hw : q.worker <;> simp_all
  have hq : q.queued = [] := by
    unfold WorkQueue.queued
    rw [hw, (h.gone hg).2]
    rfl
  have hr : q.worker.isRunning = false := by rw [hw]; rfl
  have hb := h.balance
  rw [hq, hr] at hb
  exact ⟨hg, hq, hr, hb⟩

/-! ## From the one who submits to the answer -/

variable (p : J → Bool)

/-- An offer of a job that passes `p`. -/
def Act.isOffer : Act J τ → Bool
  | offer job _ => p job
  | _ => false

def Act.isRefusal : Act J τ → Bool
  | refuse job _ => p job
  | _ => false

/-- The given answer on a job that passes `p`. -/
def Act.isAnswer (accepted : Bool) : Act J τ → Bool
  | answer job _ accepted' => p job && accepted' == accepted
  | _ => false

theorem countP_asks {q : Act J τ → Bool} (h : ∀ a, q (.ask a) = false) (asks : List (Ask J τ)) :
    (asks.map .ask).countP q = 0 := by
  refine List.countP_eq_zero.mpr fun a ha => ?_
  obtain ⟨ask, _, rfl⟩ := List.mem_map.mp ha
  rw [h ask]
  decide

/-- A job that is submitted is offered or refused, and one that is offered is accepted or
refused. -/
theorem flow_step (he : Effect c me d act d' acts) :
    (act.marks d.queue .asked).countP p + [act].countP (Act.isOffer p) +
        [act].countP (Act.isRefusal p) =
      (act.marks d.queue .accepted).countP p + (act.marks d.queue .refused).countP p +
        acts.countP (Act.isOffer p) + acts.countP (Act.isRefusal p) := by
  have ho := countP_asks (J := J) (τ := τ) (q := Act.isOffer p) fun _ => rfl
  have hr := countP_asks (J := J) (τ := τ) (q := Act.isRefusal p) fun _ => rfl
  cases he with
  | answer | turn | run | discard | done =>
    rw [List.countP_append, List.countP_append, ho, hr]
    simp [Act.marks, Act.isOffer, Act.isRefusal]
  | refuse job =>
    rw [List.countP_append, List.countP_append, ho, hr]
    cases hp : p job <;> simp_all [Act.marks, Act.isOffer, Act.isRefusal]
  | submit job | submitLate job | accept job | lose job | offerClosed job =>
    cases hp : p job <;> simp_all [Act.marks, Act.isOffer, Act.isRefusal]
  | _ => rfl

/-- Every job that is accepted, and every one that is refused, gets the answer. -/
theorem answer_step (he : Effect c me d act d' acts) :
    (act.marks d.queue .accepted).countP p + [act].countP (Act.isAnswer p true) =
        (act.marks d.queue .granted).countP p + acts.countP (Act.isAnswer p true) ∧
      (act.marks d.queue .refused).countP p + [act].countP (Act.isAnswer p false) =
        (act.marks d.queue .denied).countP p + acts.countP (Act.isAnswer p false) := by
  have ht := countP_asks (J := J) (τ := τ) (q := Act.isAnswer p true) fun _ => rfl
  have hf := countP_asks (J := J) (τ := τ) (q := Act.isAnswer p false) fun _ => rfl
  cases he with
  | refuse job =>
    rw [List.countP_append, List.countP_append, ht, hf]
    cases hp : p job <;> simp_all [Act.marks, Act.isAnswer]
  | answer job _ accepted =>
    rw [List.countP_append, List.countP_append, ht, hf]
    cases hp : p job <;> cases accepted <;> simp_all [Act.marks, Act.isAnswer]
  | turn | run | discard | done =>
    rw [List.countP_append, List.countP_append, ht, hf]
    exact ⟨rfl, rfl⟩
  | accept job | lose job | offerClosed job =>
    cases hp : p job <;> simp_all [Act.marks, Act.isAnswer]
  | _ => exact ⟨rfl, rfl⟩

/-- In a queue that is stopping nothing new is offered. -/
theorem offer_step (he : Effect c me d act d' acts) (hs : d.queue.stopping = true) :
    d'.queue.stopping = true ∧
      (act.marks d.queue .accepted).countP p + acts.countP (Act.isOffer p) ≤
        [act].countP (Act.isOffer p) := by
  have ho := countP_asks (J := J) (τ := τ) (q := Act.isOffer p) fun _ => rfl
  cases he with
  | refuse | answer | turn | discard | done =>
    rw [List.countP_append, ho]
    exact ⟨hs, Nat.le_refl 0⟩
  | accept job | lose job | offerClosed job =>
    refine ⟨hs, ?_⟩
    cases hp : p job <;> simp_all [Act.marks, Act.isOffer]
  | submit _ _ h | run _ _ _ _ h =>
    rw [hs] at h
    cases h
  | finish => exact ⟨(WorkQueue.stopping_finish _).trans hs, Nat.le_refl 0⟩
  | shutdown => exact ⟨rfl, Nat.le_refl 0⟩
  | _ => exact ⟨hs, Nat.le_refl 0⟩

end Step

/-! ## Runs -/

namespace Shift

variable {c : Code J τ υ} {m : Shift J τ υ} {member : Nat} {act : Act J τ}
  {rest acts : List (Act J τ)} {d : Desk J υ} (p : J → Bool)

/-- How many jobs that pass `p` are past the look whether the queue is stopping. -/
def offers (m : Shift J τ υ) : Nat := m.tally (Act.isOffer p)

/-- How many jobs that pass `p` are submitted, and neither accepted nor refused yet. -/
def underway (m : Shift J τ υ) : Nat := m.offers p + m.tally (Act.isRefusal p)

/-- How many jobs that pass `p` are still to be answered so. -/
def answering (m : Shift J τ υ) (accepted : Bool) : Nat := m.tally (Act.isAnswer p accepted)

/-- Every job on its way from the one who submits it to the answer. -/
structure Flows (m : Shift J τ υ) : Prop where
  asked : (m.jobs .asked).countP p =
    (m.jobs .accepted).countP p + (m.jobs .refused).countP p + m.underway p
  accepted : (m.jobs .accepted).countP p = (m.jobs .granted).countP p + m.answering p true
  refused : (m.jobs .refused).countP p = (m.jobs .denied).countP p + m.answering p false

theorem tally_start {q : Act J τ → Bool} (h : q .work = false) (outside : υ) (callers : Nat) :
    (start outside callers : Shift J τ υ).tally q = 0 := by
  refine List.countP_eq_zero.mpr fun a ha => ?_
  obtain ⟨k, hk⟩ := Crew.mem_agenda_of_mem_flatten ha
  have hk : a ∈ (start outside callers : Shift J τ υ).agenda k := hk
  rw [agenda_start] at hk
  split at hk
  · rw [List.mem_singleton.mp hk, h]; decide
  · cases hk

theorem flows_start (outside : υ) (callers : Nat) :
    (start outside callers : Shift J τ υ).Flows p := by
  have hz {q : Act J τ → Bool} (h : q .work = false) := tally_start h outside callers
  constructor
  · unfold underway offers
    rw [hz rfl, hz rfl]
    rfl
  all_goals
    unfold answering
    rw [hz rfl]
    rfl

theorem flows_note (h : m.Flows p) (ha : m.agenda member = act :: rest)
    (he : Effect c member m.shared act d acts) :
    Flows p (m.note member act d (acts ++ rest)) := by
  have ho := Crew.Minutes.tally_note ha d acts (Act.isOffer p)
  have hr := Crew.Minutes.tally_note ha d acts (Act.isRefusal p)
  have ht := Crew.Minutes.tally_note ha d acts (Act.isAnswer p true)
  have hf := Crew.Minutes.tally_note ha d acts (Act.isAnswer p false)
  have hflow := flow_step p he
  obtain ⟨hyes, hno⟩ := answer_step p he
  obtain ⟨h1, h2, h3⟩ := h
  constructor <;>
    simp only [jobs_note, List.countP_append, underway, offers, answering, queue] at * <;> omega

theorem flows_ask (caller : Nat) (a : Ask J τ) (h : m.Flows p) :
    Flows p (m.give (caller + 1) [.ask a]) := by
  have hz {q : Act J τ → Bool} (hq : q (.ask a) = false) :
      Crew.Minutes.tally q (m.give (caller + 1) [.ask a]) = m.tally q :=
    Crew.Minutes.tally_give (fun b hb => List.mem_singleton.mp hb ▸ hq) m (caller + 1)
  refine ⟨?_, h.accepted.trans (congrArg _ (hz rfl).symm),
    h.refused.trans (congrArg _ (hz rfl).symm)⟩
  unfold underway offers
  rw [hz rfl, hz rfl]
  exact h.asked

theorem flows_play (outside : υ) (callers : Nat) (moves : List (Move J τ)) :
    ((start outside callers : Shift J τ υ).play c moves).Flows p :=
  play_induction c (fun h ha he => flows_note p h ha he) (fun caller a h => flows_ask p caller a h)
    (flows_start p outside callers) moves

theorem ledger_start (outside : υ) (callers : Nat) :
    Ledger (start outside callers : Shift J τ υ).jobs (start outside callers : Shift J τ υ).queue :=
  ⟨rfl, rfl, rfl, fun _ => rfl, rfl, nofun⟩

theorem ledger_note (h : Ledger m.jobs m.queue) (he : Effect c member m.shared act d acts) :
    Ledger (jobs (m.note member act d (acts ++ rest))) d.queue := by
  rw [show jobs (m.note member act d (acts ++ rest)) = fun k => _ from
    funext (jobs_note m member act d _)]
  exact h.step he

theorem ledger_play (outside : υ) (callers : Nat) (moves : List (Move J τ)) :
    let m := (start outside callers : Shift J τ υ).play c moves
    Ledger m.jobs m.queue :=
  play_induction c (P := fun m => Ledger m.jobs m.queue) (fun h _ he => ledger_note h he)
    (fun _ _ h => h) (ledger_start outside callers) moves

/-- Once the queue is stopping it accepts only what is on offer already. -/
theorem late_play (c : Code J τ υ) (hs : m.queue.stopping = true) (moves : List (Move J τ)) :
    ∃ late, (m.play c moves).jobs .accepted = m.jobs .accepted ++ late ∧
      ∀ p, late.countP p + (m.play c moves).offers p ≤ m.offers p := by
  refine (play_induction c (P := fun b => b.queue.stopping = true ∧
    ∃ late, b.jobs .accepted = m.jobs .accepted ++ late ∧
      ∀ p, late.countP p + b.offers p ≤ m.offers p) ?_ ?_
    ⟨hs, [], (List.append_nil _).symm, fun p => by simp⟩ moves).2
  · rintro b member act rest acts d ⟨hb, late, hl, hp⟩ ha he
    refine ⟨(offer_step (fun _ => true) he hb).1, late ++ act.marks b.queue .accepted, ?_, ?_⟩
    · rw [jobs_note, hl, List.append_assoc]
    · intro p
      have hstep := (offer_step p he hb).2
      have htally := Crew.Minutes.tally_note ha d acts (Act.isOffer p)
      have hbefore := hp p
      simp only [List.countP_append, offers, queue] at *
      omega
  · rintro b caller a ⟨hb, late, hl, hp⟩
    refine ⟨hb, late, hl, fun p => ?_⟩
    have hz : offers p (b.give (caller + 1) [.ask a]) = b.offers p :=
      Crew.Minutes.tally_give (fun x hx => List.mem_singleton.mp hx ▸ rfl) b (caller + 1)
    rw [hz]
    exact hp p

/-- A worker without a job in hand takes the next one as soon as it gets its turn. -/
theorem turn_of_waiting (c : Code J τ υ) (h : m.Rostered) {job : J} {rest : List J}
    (idle : m.queue.worker = .idle) (hq : m.queue.waiting = job :: rest) :
    ∃ k, (k = .begun ∨ k = .discarded) ∧
      jobs (m.turn (execute c) worker) k = m.jobs k ++ [job] := by
  have ha : m.agenda worker = [.work] := by
    have hw := h.worker
    rw [idle] at hw
    exact hw
  have hn : m.shared.queue.next? = some { m.shared.queue with
      waiting := rest
      worker := if m.shared.queue.stopping then .dropping job else .running job } := by
    unfold WorkQueue.next?
    rw [show m.shared.queue.worker = _ from idle, show m.shared.queue.waiting = _ from hq]
  have ht : m.queue.upNext = [job] := by
    unfold WorkQueue.upNext
    rw [idle, hq]
    rfl
  simp only [Crew.Minutes.turn, ha, execute, hn, Option.map_some]
  cases hs : m.queue.stopping with
  | false =>
    refine ⟨.begun, .inl rfl, ?_⟩
    rw [jobs_note]
    simp [Act.marks, hs, ht]
  | true =>
    refine ⟨.discarded, .inr rfl, ?_⟩
    rw [jobs_note]
    simp [Act.marks, hs, ht]

/-- Nothing is lost, run twice or run out of turn. -/
structure Conserved (c : Code J τ υ) (m : Shift J τ υ) : Prop where
  /-- The counters account for all jobs that were accepted. -/
  balance : m.queue.stats.submitted = m.queue.stats.executed + m.queue.stats.discarded +
    m.queue.queued.length + (if m.queue.worker.isRunning then 1 else 0)
  /-- What they count. Jobs that were refused are not among it. -/
  counted : m.queue.stats =
    ⟨(m.jobs .accepted).length, (m.jobs .ended).length, (m.jobs .dropped).length⟩
  /-- The jobs that were begun are the first that were accepted, in this order. All others are
  dropped unrun, after them, or wait. -/
  line : m.jobs .accepted = m.jobs .begun ++ m.jobs .discarded ++ m.queue.waiting
  /-- A job is begun when all that were begun before it have ended. -/
  begun : m.jobs .begun = m.jobs .ended ++ m.queue.worker.runs
  discarded : m.jobs .discarded = m.jobs .dropped ++ m.queue.worker.drops
  /-- Only the worker takes jobs, and it ends one before it turns to the next. -/
  rostered : m.Rostered
  /-- It does turn to the next, so that no job waits beside an idle worker. -/
  prompt : ∀ job rest, m.queue.worker = .idle → m.queue.waiting = job :: rest →
    ∃ k, (k = .begun ∨ k = .discarded) ∧
      jobs (m.turn (execute c) worker) k = m.jobs k ++ [job]
  /-- Every job that was submitted has one fate: it is begun, or dropped by the worker, or dropped
  for the one who submitted it, or nothing has become of it yet. -/
  fate : ∀ p, (m.jobs .asked).countP p = (m.jobs .begun).countP p + (m.jobs .discarded).countP p +
    (m.jobs .refused).countP p + (m.queue.waiting.countP p + m.underway p)
  /-- Who submitted it is told whether it was accepted. -/
  granted : ∀ p, (m.jobs .accepted).countP p = (m.jobs .granted).countP p + m.answering p true
  denied : ∀ p, (m.jobs .refused).countP p = (m.jobs .denied).countP p + m.answering p false
  /-- Once the queue is stopping, whatever is done, no job is accepted that was submitted later. -/
  late : m.queue.stopping = true → ∀ moves,
    ∃ late, (m.play c moves).jobs .accepted = m.jobs .accepted ++ late ∧
      ∀ p, late.countP p ≤ m.offers p
  /-- A worker that is gone has left nothing. -/
  gone : m.queue.isGone = true → Finished m.queue

/-- Whatever the code outside does, and in whatever order steps are taken, jobs are conserved. -/
theorem jobs_conserved (c : Code J τ υ) (outside : υ) (callers : Nat) (moves : List (Move J τ)) :
    ((start outside callers).play c moves).Conserved c := by
  have hl := ledger_play (c := c) outside callers moves
  have hf := fun p => flows_play (c := c) p outside callers moves
  have hr := rostered_play c (rostered_start outside callers) moves
  generalize (start outside callers).play c moves = m at hl hf hr
  refine ⟨hl.balance, hl.stats, hl.line, hl.begun, hl.discarded, hr,
    fun job rest idle hq => turn_of_waiting c hr idle hq, fun p => ?_, fun p => (hf p).accepted,
    fun p => (hf p).refused, fun hs moves => ?_, hl.finished⟩
  · have hasked := (hf p).asked
    have hline := congrArg (List.countP p) hl.line
    simp only [List.countP_append] at hline
    omega
  · obtain ⟨late, hlate, hp⟩ := late_play c hs moves
    exact ⟨late, hlate, fun p => Nat.le_trans (Nat.le_add_right ..) (hp p)⟩

open Sample in
/-- A job that shuts the queue down ends; what waits behind it is dropped, and what it submits
afterwards is refused. -/
theorem closing_conserved :
    let m := run (submitting .nesting ++ submitting .closing ++ submitting .plain ++ turns 0 22)
    m.jobs .accepted = [.nesting, .closing, .plain, .plain] ∧
      m.jobs .begun = [.nesting, .closing] ∧ m.jobs .discarded = [.plain, .plain] ∧
      m.jobs .refused = [.plain] ∧ Finished m.queue := by
  intro m
  have h : m.Conserved code := jobs_conserved code () 2 _
  exact ⟨by decide +kernel, by decide +kernel, by decide +kernel, by decide +kernel,
    h.gone (by decide +kernel)⟩

end Shift

end Service

end Switchboard
