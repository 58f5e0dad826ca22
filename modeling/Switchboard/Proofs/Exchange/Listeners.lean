import Mathlib.Data.List.Forall2
import Switchboard.Proofs.Exchange.Paring
import Switchboard.Proofs.Listeners.Operation

/-!
# Exchanges with other listeners

Code outside that only records has no influence on the exchange. Then neither have its listeners: if
every listener is replaced by one with the same sink, in the network and in all that is asked for,
the run goes on step by step as before, and what it hands out goes to the other listeners
(`Chronicle.matches_run`).
-/

namespace Switchboard

variable {τ υ υ' : Type}

/-! ## Queues of other jobs -/

def WorkerState.map {J K : Type} (g : J → K) : WorkerState J → WorkerState K
  | idle => .idle
  | running job => .running (g job)
  | dropping job => .dropping (g job)
  | gone => .gone

namespace WorkQueue

variable {J K : Type} (g : J → K) (q : WorkQueue J)

def map : WorkQueue K :=
  { waiting := q.waiting.map g
    worker := q.worker.map g
    stats := q.stats
    stopping := q.stopping
    closed := q.closed
    claimed := q.claimed }

theorem accept?_map (job : J) : (q.map g).accept? (g job) = (q.accept? job).map (·.map g) := by
  unfold accept? map
  cases q.closed <;> simp

theorem next?_map : (q.map g).next? = q.next?.map (·.map g) := by
  obtain ⟨waiting, worker, stats, stopping, closed, claimed⟩ := q
  cases worker with
  | idle => cases waiting <;> cases stopping <;> cases closed <;> rfl
  | _ => rfl

theorem finish_map : (q.map g).finish = q.finish.map g := by
  obtain ⟨waiting, worker, stats, stopping, closed, claimed⟩ := q
  cases worker <;> rfl

theorem isGone_map : (q.map g).isGone = q.isGone := by
  unfold isGone map
  cases q.worker <;> rfl

end WorkQueue

/-! ## Requests and acts -/

def Task.map (f : Listener → Listener) (t : Task τ) : Task τ :=
  { t with operation := t.operation.map f }

def Request.map (f : Listener → Listener) : Request τ → Request τ
  | submit t => .submit (t.map f)
  | listen s service l options back => .listen s service (f l) options back
  | unlisten s back => .unlisten s back
  | shutdown back => .shutdown back
  | hook h => .hook (h.map f)
  | turn cue => .turn cue

namespace Errand

def map (f : Listener → Listener) : Errand τ → Errand τ
  | operation t => .operation (t.map f)
  | listen s service l options back => .listen s service (f l) options back
  | unlisten s back => .unlisten s back
  | stop back => .stop back

theorem plan_matches (f : Listener → Listener) (e : Errand τ) :
    e.plan.Matches f (e.map f).plan := by
  cases e with
  | operation t => exact Operation.body_matches t.operation
  | listen s service l options back => exact Transport.startListening_matches service l options
  | unlisten s back => exact .bind Transport.stopListening_matches fun _ => .done Status.success
  | stop back => exact .bind Transport.stop_matches fun _ => .done Status.success

theorem needsOpen_map (f : Listener → Listener) (e : Errand τ) :
    (e.map f).needsOpen = e.needsOpen := by
  cases e <;> rfl

theorem after_map (f : Listener → Listener) (status : Status) (e : Errand τ) :
    (e.map f).after status = e.after status := by
  cases e <;> rfl

end Errand

/-- The second act is the first one with other listeners. -/
inductive Act.Matches (f : Listener → Listener) : Act τ → Act τ → Prop where
  | request (r : Request τ) : Matches f (.request r) (.request (r.map f))
  | route (t : Task τ) : Matches f (.route t) (.route (t.map f))
  | offer (t : Task τ) : Matches f (.offer t) (.offer (t.map f))
  | enqueue (t : Task τ) : Matches f (.enqueue t) (.enqueue (t.map f))
  | enter (e : Errand τ) : Matches f (.enter e) (.enter (e.map f))
  | inside (e : Errand τ) {plan plan' : Job Status} (h : plan.Matches f plan')
      (held : List Emission) :
    Matches f (.inside e plan held) (.inside (e.map f) plan' (held.map (·.mapListener f)))
  | deliver (m : Emission) : Matches f (.deliver m) (.deliver (m.mapListener f))
  | complete (back : τ) (status : Status) :
    Matches f (.complete back status) (.complete back status)
  | resume (back : τ) (status : Option Status) :
    Matches f (.resume back status) (.resume back status)
  | work : Matches f .work .work
  | finish : Matches f .finish .finish
  | stopQueue (back : τ) : Matches f (.stopQueue back) (.stopQueue back)
  | closeQueue (back : τ) : Matches f (.closeQueue back) (.closeQueue back)
  | claimWorker (back : τ) : Matches f (.claimWorker back) (.claimWorker back)
  | join (back : τ) : Matches f (.join back) (.join back)

/-- The second list of acts is the first one with other listeners. -/
abbrev Act.AllMatch (f : Listener → Listener) (l l' : List (Act τ)) : Prop :=
  List.Forall₂ (Act.Matches f) l l'

theorem Errand.after_matches (f : Listener → Listener) (status : Status) (e : Errand τ) :
    Act.AllMatch f (e.after status) ((e.map f).after status) := by
  rw [after_map]
  cases e with
  | operation t => exact .cons (.complete ..) .nil
  | listen | unlisten => exact .cons (.resume ..) .nil
  | stop back => exact .cons (.stopQueue back) .nil

theorem Act.deliver_matches (f : Listener → Listener) (ms : List Emission) :
    Act.AllMatch (τ := τ) f (ms.map .deliver) ((ms.map (·.mapListener f)).map .deliver) := by
  induction ms with
  | nil => exact .nil
  | cons m ms ih => exact .cons (.deliver m) ih

/-! ## Steps -/

/-- The second desk is the first one with other listeners, whatever has been recorded outside. -/
structure Desk.Matches (f : Listener → Listener) (d : Desk τ υ) (d' : Desk τ υ') : Prop where
  network : d'.network = d.network.mapListeners f
  closed : d'.closed = d.closed
  queue : d'.queue = d.queue.map (·.map f)
  holder : d'.holder = d.holder

namespace Exchange

variable {f : Listener → Listener} {o : Outside τ υ} {o' : Outside τ υ'} {d : Desk τ υ}
  {d' : Desk τ υ'} {k : Nat} {a a' : Act τ}

/-- What comes of an act in two exchanges that differ in their listeners. -/
abbrev Outcome.Matches (f : Listener → Listener) :
    Option (Desk τ υ × List (Act τ)) → Option (Desk τ υ' × List (Act τ)) → Prop :=
  Option.Rel fun r r' => r.1.Matches f r'.1 ∧ Act.AllMatch f r.2 r'.2

theorem consult_matches (hd : d.Matches f d') {g : View → υ → υ × List (Request τ)}
    {g' : View → υ' → υ' × List (Request τ)} (hg : ∀ v u, (g v u).2 = [])
    (hg' : ∀ v u, (g' v u).2 = []) :
    Outcome.Matches f (some (consult d g)) (some (consult d' g')) := by
  obtain ⟨u, hu⟩ := Division.consult_eq hg d
  obtain ⟨u', hu'⟩ := Division.consult_eq hg' d'
  rw [hu, hu']
  exact .some ⟨⟨hd.network, hd.closed, hd.queue, hd.holder⟩, .nil⟩

theorem ask_matches (hd : d.Matches f d') (r : Request τ) :
    (ask d r).1.Matches f (ask d' (r.map f)).1 ∧
      Act.AllMatch f (ask d r).2 (ask d' (r.map f)).2 := by
  obtain ⟨hn, hc, hq, hh⟩ := hd
  cases r with
  | submit t =>
    refine ⟨⟨?_, hc, hq, hh⟩, .cons (.route t) .nil⟩
    simp only [ask, Request.map, Task.map, hn, Network.session_mapListeners, Operation.prepare_map,
      Network.setSession_mapListeners]
  | listen s service l options back =>
    exact ⟨⟨hn, hc, hq, hh⟩, .cons (.enter (.listen s service l options back)) .nil⟩
  | unlisten s back => exact ⟨⟨hn, hc, hq, hh⟩, .cons (.enter (.unlisten s back)) .nil⟩
  | shutdown back =>
    simp only [ask, Request.map, hc]
    split
    · exact ⟨⟨hn, hc, hq, hh⟩, .cons (.resume back none) .nil⟩
    · exact ⟨⟨hn, rfl, hq, hh⟩, .cons (.enter (.stop back)) .nil⟩
  | hook h =>
    simp only [ask, Request.map, hn, Hook.apply_map]
    exact ⟨⟨rfl, hc, hq, hh⟩, Act.deliver_matches f _⟩
  | turn cue => exact ⟨⟨hn, hc, hq, hh⟩, .nil⟩

theorem advance_matches (hd : d.Matches f d') (e : Errand τ) {plan plan' : Job Status}
    (hp : plan.Matches f plan') (held : List Emission) :
    Outcome.Matches f (advance d e held plan)
      (advance d' (e.map f) (held.map (·.mapListener f)) plan') := by
  obtain ⟨hn, hc, hq, hh⟩ := hd
  cases hp with
  | done status =>
    exact .some ⟨⟨hn, hc, hq, rfl⟩,
      List.rel_append (Act.deliver_matches f held) (e.after_matches f status)⟩
  | look h =>
    refine .some ⟨⟨hn, hc, hq, hh⟩, .cons (.inside e ?_ held) .nil⟩
    rw [hn]
    exact h d.network
  | act h h' =>
    simp only [advance, hn, h, ← List.map_append]
    exact .some ⟨⟨rfl, hc, hq, hh⟩, .cons (.inside e h' _) .nil⟩
  | await h h' =>
    simp only [advance, hn, h]
    split
    · exact .some ⟨⟨hn, hc, hq, hh⟩, .cons (.inside e h' held) .nil⟩
    · exact .none

theorem work_matches (hd : d.Matches f d') :
    Outcome.Matches f (execute o k .work d) (execute o' k .work d') := by
  obtain ⟨hn, hc, hq, hh⟩ := hd
  simp only [execute, hq, WorkQueue.next?_map]
  cases d.queue.next? with
  | none => exact .none
  | some q =>
    refine .some ⟨⟨hn, hc, rfl, hh⟩, ?_⟩
    cases hw : q.worker with
    | running t =>
      simp only [WorkQueue.map, hw, WorkerState.map]
      exact .cons (.enter (.operation t)) (.cons .finish (.cons .work .nil))
    | dropping t =>
      simp only [WorkQueue.map, hw, WorkerState.map]
      exact .cons (.complete t.back .error) (.cons .finish (.cons .work .nil))
    | idle | gone =>
      simp only [WorkQueue.map, hw, WorkerState.map]
      exact .nil

/-- Neither a listener nor what has been recorded decides what comes of an act. -/
theorem execute_matches (ho : o.Records) (ho' : o'.Records) (hf : ∀ l, (f l).sink = l.sink)
    (ha : a.Matches f a') (hd : d.Matches f d') :
    Outcome.Matches f (execute o k a d) (execute o' k a' d') := by
  cases ha with
  | request r =>
    cases r with
    | turn cue => exact consult_matches hd (ho.turn cue none) (ho'.turn cue none)
    | _ => exact .some (ask_matches hd _)
  | route t =>
    simp only [execute, hd.closed]
    split
    · exact .some ⟨hd, .cons (.complete t.back .error) .nil⟩
    · exact .some ⟨hd, .cons (.offer t) .nil⟩
  | offer t =>
    simp only [execute, hd.queue, WorkQueue.map]
    split
    · exact .some ⟨hd, .cons (.complete t.back .error) .nil⟩
    · exact .some ⟨hd, .cons (.enqueue t) .nil⟩
  | enqueue t =>
    simp only [execute, hd.queue, WorkQueue.accept?_map]
    cases d.queue.accept? t with
    | none => exact .some ⟨hd, .cons (.complete t.back .error) .nil⟩
    | some q => exact .some ⟨⟨hd.network, hd.closed, rfl, hd.holder⟩, .nil⟩
  | enter e =>
    simp only [execute, hd.holder, hd.closed, Errand.needsOpen_map]
    split
    · exact .none
    · split
      · exact .some ⟨hd, e.after_matches f .error⟩
      · exact .some ⟨⟨hd.network, rfl, hd.queue, rfl⟩, .cons (.inside e (e.plan_matches f) []) .nil⟩
  | inside e hp held => exact advance_matches hd e hp held
  | deliver m =>
    simp only [execute, Emission.mapListener, hf]
    cases m.listener.sink with
    | none => exact .some ⟨hd, .nil⟩
    | some sink => exact consult_matches hd (ho.signal sink _) (ho'.signal sink _)
  | complete back status =>
    exact consult_matches hd (ho.turn back (some status)) (ho'.turn back (some status))
  | resume back status => exact consult_matches hd (ho.turn back status) (ho'.turn back status)
  | work => exact work_matches hd
  | finish =>
    refine .some ⟨⟨hd.network, hd.closed, ?_, hd.holder⟩, .nil⟩
    rw [hd.queue, WorkQueue.finish_map]
  | stopQueue back =>
    refine .some ⟨⟨hd.network, hd.closed, ?_, hd.holder⟩, .cons (.closeQueue back) .nil⟩
    rw [hd.queue]
    rfl
  | closeQueue back =>
    refine .some ⟨⟨hd.network, hd.closed, ?_, hd.holder⟩, .cons (.claimWorker back) .nil⟩
    rw [hd.queue]
    rfl
  | claimWorker back =>
    simp only [execute, hd.queue, WorkQueue.map]
    split
    · exact .some ⟨hd, .cons (.resume back none) .nil⟩
    · refine .some ⟨⟨hd.network, hd.closed, rfl, hd.holder⟩, ?_⟩
      split
      · exact .cons (.resume back none) .nil
      · exact .cons (.join back) .nil
  | join back =>
    simp only [execute, hd.queue, WorkQueue.isGone_map]
    split
    · exact .some ⟨hd, .cons (.resume back none) .nil⟩
    · exact .none

/-! ## Runs -/

def Move.map (f : Listener → Listener) : Move τ → Move τ
  | step member => .step member
  | ask caller r => .ask caller (r.map f)

namespace Chronicle

/-- The second chronicle is the first one with other listeners. -/
structure Matches (f : Listener → Listener) (c : Chronicle τ υ) (c' : Chronicle τ υ') : Prop where
  desk : c.shared.Matches f c'.shared
  size : c'.crew.agendas.length = c.crew.agendas.length
  agendas : ∀ k, Act.AllMatch f (c.agenda k) (c'.agenda k)
  trace : List.Forall₂ (fun x x' => x'.1 = x.1 ∧ x.2.Matches f x'.2) c.trace c'.trace

theorem matches_start (f : Listener → Listener) (network : Network) (outside : υ) (outside' : υ')
    (callers : Nat) :
    (start network outside callers : Chronicle τ υ).Matches f
      (start (network.mapListeners f) outside' callers) where
  desk := ⟨rfl, rfl, rfl, rfl⟩
  size := rfl
  agendas k := by
    rw [agenda_start, agenda_start]
    split
    · exact .cons .work .nil
    · exact .nil
  trace := .nil

namespace Matches

variable {c : Chronicle τ υ} {c' : Chronicle τ υ'} {rest rest' acts acts' : List (Act τ)}
  {e : Desk τ υ} {e' : Desk τ υ'}

theorem ask (h : c.Matches f c') (caller : Nat) (r : Request τ) :
    (c.ask caller r).Matches f (c'.ask caller (r.map f)) where
  desk := h.desk
  size := by
    unfold Chronicle.ask Crew.Minutes.give Crew.assign
    simp only [List.length_modify, h.size]
  agendas k := by
    unfold Chronicle.ask Crew.Minutes.give Crew.Minutes.agenda
    rw [Crew.agenda_assign, Crew.agenda_assign, h.size]
    split
    · exact List.rel_append (h.agendas k) (.cons (.request r) .nil)
    · exact h.agendas k
  trace := h.trace

theorem note (h : c.Matches f c') (hk : c.agenda k = a :: rest) (hk' : c'.agenda k = a' :: rest')
    (ha : a.Matches f a') (hrest : Act.AllMatch f rest rest') (he : e.Matches f e')
    (hacts : Act.AllMatch f acts acts') :
    Matches f (c.note k a e (acts ++ rest)) (c'.note k a' e' (acts' ++ rest')) where
  desk := he
  size := by
    unfold Crew.Minutes.note
    simp only [List.length_set, h.size]
  agendas j := by
    rw [agenda_note hk, agenda_note hk']
    split
    · exact List.rel_append hacts hrest
    · exact h.agendas j
  trace := by
    rw [trace_note, trace_note]
    exact List.rel_append h.trace (.cons ⟨rfl, ha⟩ .nil)

theorem move (ho : o.Records) (ho' : o'.Records) (hf : ∀ l, (f l).sink = l.sink)
    (h : c.Matches f c') (m : Move τ) : (c.move o m).Matches f (c'.move o' (m.map f)) := by
  cases m with
  | ask caller r => exact h.ask caller r
  | step k =>
    have hagenda := h.agendas k
    simp only [Chronicle.move, moveBy, Move.map, Crew.Minutes.turn]
    cases hk : c.agenda k with
    | nil =>
      rw [hk] at hagenda
      simp only [List.forall₂_nil_left_iff.mp hagenda]
      exact h
    | cons a rest =>
      rw [hk] at hagenda
      obtain ⟨a', rest', ha, hrest, hk'⟩ := List.forall₂_cons_left_iff.mp hagenda
      have hr := execute_matches (k := k) ho ho' hf ha h.desk
      simp only [hk']
      -- both are blocked, or both go on
      generalize execute o k a c.shared = x at hr ⊢
      generalize execute o' k a' c'.shared = x' at hr ⊢
      cases hr with
      | none => exact h
      | some hr => exact h.note hk hk' ha hrest hr.1 hr.2

/-- Exchanges that differ in their listeners stay so, step by step. -/
theorem play (ho : o.Records) (ho' : o'.Records) (hf : ∀ l, (f l).sink = l.sink)
    (h : c.Matches f c') (moves : List (Move τ)) :
    (c.play o moves).Matches f (c'.play o' (moves.map (·.map f))) := by
  induction moves generalizing c c' with
  | nil => exact h
  | cons m moves ih => exact ih (h.move ho ho' hf m)

end Matches

/-- A run, and the same run with other listeners all around. -/
theorem matches_run (ho : o.Records) (ho' : o'.Records) (hf : ∀ l, (f l).sink = l.sink)
    (network : Network) (outside : υ) (outside' : υ') (callers : Nat) (moves : List (Move τ)) :
    ((start network outside callers).play o moves).Matches f
      ((start (network.mapListeners f) outside' callers).play o' (moves.map (·.map f))) :=
  (matches_start f network outside outside' callers).play ho ho' hf moves

end Chronicle

end Exchange

end Switchboard
