import Switchboard.Proofs.Exchange.Line
import Switchboard.Proofs.Exchange.Nesting
import Switchboard.Proofs.Exchange.Unlocked

/-!
# Program order

The worker goes in rounds, one for each operation the queue has accepted, in the order of acceptance
(`Rounds`). When it is done with an operation (`Served`), the operation's body has returned, then
what the transport emitted meanwhile has been delivered, in order, and then the outcome has been
reported; only then the next round begins. An operation that is skipped or discarded has its outcome
reported in its own round.

What sinks and callbacks ask for comes in between: it belongs to what comes of a delivery or of a
report, and is over before the next one begins (`Whole`, `Part`). `deliveries_in_order` holds
whatever the transport does and whatever the code outside asks for.
-/

namespace Switchboard.Exchange

variable {τ υ : Type}

/-- What the transport emits at the moment, to be kept back. -/
def Moment.emitted (m : Moment τ υ) : List Emission :=
  match m.act with
  | .inside _ (.act change _) _ => (change m.before.network).2
  | _ => []

/-- The operation that the queue accepts at the moment. -/
def Moment.admitted? (m : Moment τ υ) : Option (Task τ) :=
  match m.act with
  | .enqueue t => if m.before.queue.closed then none else some t
  | _ => none

/-- What the queue has accepted, oldest first. -/
def admitted (moments : List (Moment τ υ)) : List (Task τ) := moments.filterMap Moment.admitted?

/-- The moments of somebody who has entered for the errand and is inside, where `held` has been
emitted since. -/
inductive Visit (e : Errand τ) : List (Moment τ υ) → List Emission → Prop where
  | enter {m : Moment τ υ} (h : m.act = .enter e) : Visit e [m] []
  | go {m : Moment τ υ} {ms : List (Moment τ υ)} {plan : Job Status} {held : List Emission}
      (hv : Visit e ms held) (h : m.act = .inside e plan held) :
    Visit e (ms ++ [m]) (held ++ m.emitted)

/-- All that is done for an operation the worker has taken from the queue. -/
inductive Served (x : Execution (Desk τ υ) (Act τ)) (t : Task τ) : List (Moment τ υ) → Prop where
  /-- The body returns, what was emitted is delivered, and the outcome is reported. -/
  | executed {visit events after : List (Moment τ υ)} {ret report : Moment τ υ} {status : Status}
      {held : List Emission} {acts : List (Act τ)} (body : Visit (.operation t) visit held)
      (returned : ret.act = .inside (.operation t) (.done status) held)
      (delivered : Whole x (held.map .deliver) events)
      (reported : report.act = .complete t.back status) (comes : report.Leaves x acts)
      (rest : Whole x acts after) : Served x t (visit ++ ret :: (events ++ report :: after))
  | skipped {entry report : Moment τ υ} {after : List (Moment τ υ)} {acts : List (Act τ)}
      (refused : entry.act = .enter (.operation t)) (closed : entry.before.closed = true)
      (reported : report.act = .complete t.back .error) (comes : report.Leaves x acts)
      (rest : Whole x acts after) : Served x t (entry :: report :: after)
  | discarded {report : Moment τ υ} {after : List (Moment τ υ)} {acts : List (Act τ)}
      (reported : report.act = .complete t.back .error) (comes : report.Leaves x acts)
      (rest : Whole x acts after) : Served x t (report :: after)

/-- The worker has taken the operations from the queue, one after the other, each when it was done
with the one before. -/
inductive Rounds (x : Execution (Desk τ υ) (Act τ)) : List (Task τ) → List (Moment τ υ) → Prop where
  | idle : Rounds x [] []
  | gone {w : Moment τ υ} (h : w.act = .work) (hl : w.Leaves x []) : Rounds x [] [w]
  /-- The last operation may still be in hand. -/
  | inHand {w : Moment τ υ} {t : Task τ} {first : Act τ} {ms : List (Moment τ υ)}
      (h : w.taken? = some t) (hl : w.Leaves x [first, .finish, .work])
      (hf : first = .enter (.operation t) ∨ first = .complete t.back .error)
      (hp : Part x [first] ms) : Rounds x [t] (w :: ms)
  | done {w f : Moment τ υ} {t : Task τ} {ms ns : List (Moment τ υ)} {ts : List (Task τ)}
      (h : w.taken? = some t) (hs : Served x t ms) (hf : f.act = .finish) (hn : Rounds x ts ns) :
    Rounds x (t :: ts) (w :: (ms ++ f :: ns))

/-! ## What comes of the acts of the worker -/

section Step

variable {plans : Errand τ → Job Status} {o : Outside τ υ} {m : Moment τ υ} {acts : List (Act τ)}

/-- The worker that finds nothing more to take has taken nothing. -/
theorem taken_gone (h : m.Leaves (executeBy plans o) []) (hm : m.act = .work) :
    taken [m] = [] := by
  obtain ⟨k, act, d, d'⟩ := m
  change executeBy plans o k act d = some (d', []) at h
  obtain rfl : act = .work := hm
  rcases executeBy_effect h with ⟨e, he, _⟩ | ⟨_, he⟩
  · cases he
  · cases he
    rfl

theorem leaves_work (h : m.Leaves (executeBy plans o) acts) (hm : m.act = .work) :
    acts = [] ∨ ∃ t first, m.taken? = some t ∧ acts = [first, .finish, .work] ∧
      (first = .enter (.operation t) ∨ first = .complete t.back .error) := by
  obtain ⟨k, act, d, d'⟩ := m
  change executeBy plans o k act d = some (d', acts) at h
  obtain rfl : act = .work := hm
  rcases executeBy_effect h with ⟨e, he, _⟩ | ⟨_, he⟩
  · cases he
  · cases he with
    | run t => exact .inr ⟨t, _, rfl, rfl, .inl rfl⟩
    | discard t => exact .inr ⟨t, _, rfl, rfl, .inr rfl⟩
    | retire => exact .inl rfl

theorem leaves_finish (h : m.Leaves (executeBy plans o) acts) (hm : m.act = .finish) :
    acts = [] := by
  obtain ⟨k, act, d, d'⟩ := m
  change executeBy plans o k act d = some (d', acts) at h
  obtain rfl : act = .finish := hm
  cases h
  rfl

theorem leaves_enter {e : Errand τ} (h : m.Leaves (executeBy plans o) acts)
    (hm : m.act = .enter e) :
    acts = [.inside e (plans e) []] ∨ m.before.closed = true ∧ acts = e.after .error := by
  obtain ⟨k, act, d, d'⟩ := m
  change executeBy plans o k act d = some (d', acts) at h
  obtain rfl : act = .enter e := hm
  rcases executeBy_effect h with ⟨e', he, _, _, hacts⟩ | ⟨hc, _⟩
  · cases he
    exact .inl hacts
  · exact .inr ⟨(hc e rfl).1, (hc e rfl).2.2⟩

/-- Whoever is inside leaves, or stays inside with what has been emitted so far. -/
theorem leaves_inside {e : Errand τ} {plan : Job Status} {held : List Emission}
    (h : m.Leaves (executeBy plans o) acts) (hm : m.act = .inside e plan held) :
    (∃ status, plan = .done status ∧ acts = held.map .deliver ++ e.after status) ∨
      (∀ status, plan ≠ .done status) ∧ ∃ plan', acts = [.inside e plan' (held ++ m.emitted)] := by
  obtain ⟨k, act, d, d'⟩ := m
  change executeBy plans o k act d = some (d', acts) at h
  obtain rfl : act = .inside e plan held := hm
  rcases executeBy_effect h with ⟨e', he, _⟩ | ⟨_, he⟩
  · cases he
  · cases he with
    | leave => exact .inl ⟨_, rfl, rfl⟩
    | look e next held => exact .inr ⟨nofun, _, by simp [Moment.emitted]; rfl⟩
    | act e change next held => exact .inr ⟨nofun, _, rfl⟩
    | await e ready next held => exact .inr ⟨nofun, _, by simp [Moment.emitted]; rfl⟩

/-- Nobody gets inside but by entering. -/
theorem leaves_outside (h : m.Leaves (executeBy plans o) acts) (hi : m.act.isInside = false) :
    (∃ e, m.act = .enter e ∧ acts = [.inside e (plans e) []]) ∨
      ∀ a ∈ acts, a.isInside = false := by
  rcases executeBy_effect h with ⟨e, he, _, _, hacts⟩ | ⟨hc, he⟩
  · exact .inl ⟨e, he, hacts⟩
  · rcases outside_step he hi with ⟨e, he, _, _, hd, hacts⟩ | ⟨_, ho⟩
    · rw [(hc e he).2.2] at hacts ⊢
      exact .inr fun a ha => Errand.isInside_after .error ha
    · exact .inr ho

end Step

/-! ## Visits -/

section Visit

variable {plans : Errand τ → Job Status} {o : Outside τ υ}

/-- A visit that has all been carried out has come to its end. -/
theorem Visit.leave {e : Errand τ} {visit ms : List (Moment τ υ)} {plan : Job Status}
    {held : List Emission} (hv : Visit e visit held)
    (h : Whole (executeBy plans o) [.inside e plan held] ms) :
    ∃ visit' ret status held' tail, visit ++ ms = visit' ++ ret :: tail ∧ Visit e visit' held' ∧
      ret.act = .inside e (.done status) held' ∧
      Whole (executeBy plans o) (held'.map .deliver ++ e.after status) tail := by
  induction hn : ms.length using Nat.strongRecOn generalizing visit ms plan held with
  | ind n ih =>
    subst hn
    obtain ⟨m, acts, ms, ha, hl, hm, rfl⟩ := h.of_singleton
    rcases leaves_inside hl ha with ⟨status, rfl, rfl⟩ | ⟨_, plan', rfl⟩
    · exact ⟨visit, m, status, held, ms, rfl, hv, ha, hm⟩
    · obtain ⟨visit', ret, status, held', tail, he, h'⟩ :=
        ih _ (Nat.lt_succ_self _) (hv.go ha) hm rfl
      exact ⟨visit', ret, status, held', tail, by rw [← he, List.append_assoc]; rfl, h'⟩

theorem served_of_enter {t : Task τ} {ms : List (Moment τ υ)}
    (h : Whole (executeBy plans o) [.enter (.operation t)] ms) :
    Served (executeBy plans o) t ms := by
  obtain ⟨entry, acts, ms, ha, hl, hm, rfl⟩ := h.of_singleton
  rcases leaves_enter hl ha with rfl | ⟨hc, rfl⟩
  · obtain ⟨visit, ret, status, held, tail, he, hv, hr, ht⟩ := (Visit.enter ha).leave hm
    obtain ⟨events, tail, rfl, hd, ht⟩ := ht.of_append
    obtain ⟨report, acts, after, hp, hl, ho, rfl⟩ := ht.of_singleton
    rw [show entry :: ms = [entry] ++ ms from rfl, he]
    exact .executed hv hr hd hp hl ho
  · obtain ⟨report, acts, after, hp, hl, ho, rfl⟩ := hm.of_singleton
    exact .skipped ha hc hp hl ho

theorem served_of_complete {t : Task τ} {ms : List (Moment τ υ)}
    (h : Whole (executeBy plans o) [.complete t.back .error] ms) :
    Served (executeBy plans o) t ms := by
  obtain ⟨report, acts, after, hp, hl, ho, rfl⟩ := h.of_singleton
  exact .discarded hp hl ho

/-- Whoever begins with nothing to do inside is inside with the first act on the agenda only, and
is there for a visit. -/
theorem Leads.visit {l r : List (Act τ)} {ms : List (Moment τ υ)}
    (hl : ∀ a ∈ l, a.isInside = false) (h : Leads (executeBy plans o) l ms r) :
    (∀ a ∈ r.tail, a.isInside = false) ∧ ∀ e plan held rest, r = .inside e plan held :: rest →
      ∃ before visit, ms = before ++ visit ∧ Visit e visit held := by
  induction hn : ms.length generalizing ms r with
  | zero =>
    obtain rfl := List.eq_nil_of_length_eq_zero hn
    cases h
    refine ⟨fun a ha => hl a (List.mem_of_mem_tail ha), fun e plan held rest hr => ?_⟩
    cases hl _ (hr ▸ List.mem_cons_self)
  | succ n ih =>
    rcases List.eq_nil_or_concat ms with rfl | ⟨ms, m, rfl⟩
    · cases hn
    rw [List.concat_eq_append] at h hn ⊢
    obtain ⟨acts, rest, hms, hm, hr⟩ := h.at_moment
    obtain rfl := hr.eq_of_nil
    obtain ⟨hrest, hvisit⟩ := ih hms (by simpa using hn)
    rw [List.tail_cons] at hrest
    cases hi : m.act.isInside with
    | false =>
      rcases leaves_outside hm hi with ⟨e, ha, rfl⟩ | ho
      · refine ⟨hrest, fun e' plan held rest' hr => ?_⟩
        cases hr
        exact ⟨ms, [m], rfl, .enter ha⟩
      · have hall : ∀ a ∈ acts ++ rest, a.isInside = false := fun a ha =>
          (List.mem_append.mp ha).elim (ho a) (hrest a)
        refine ⟨fun a ha => hall a (List.mem_of_mem_tail ha), fun e plan held rest' hr => ?_⟩
        cases hall _ (hr ▸ List.mem_cons_self)
    | true =>
      obtain ⟨e, plan, held, ha⟩ := Act.eq_inside hi
      rcases leaves_inside hm ha with ⟨status, _, rfl⟩ | ⟨_, plan', rfl⟩
      · have hall : ∀ a ∈ (held.map Act.deliver ++ e.after status) ++ rest, a.isInside = false :=
          fun a ha => (List.mem_append.mp ha).elim (isInside_leaving e status held a) (hrest a)
        refine ⟨fun a ha => hall a (List.mem_of_mem_tail ha), fun e plan held rest' hr => ?_⟩
        cases hall _ (hr ▸ List.mem_cons_self)
      · refine ⟨hrest, fun e' plan'' held' rest' hr => ?_⟩
        cases hr
        obtain ⟨before, visit, rfl, hv⟩ := hvisit e plan held rest (ha ▸ rfl)
        exact ⟨before, visit ++ [m], List.append_assoc .., hv.go ha⟩

end Visit

/-! ## Rounds -/

section Rounds

variable {plans : Errand τ → Job Status} {o : Outside τ υ} {ms : List (Moment τ υ)}

/-- Nobody turns to the queue but the worker, when it has been told to. -/
theorem taken_of_leads {l r : List (Act τ)} (h : Leads (executeBy plans o) l ms r)
    (hl : .work ∉ l) : taken ms = [] := by
  induction h with
  | nil => rfl
  | @cons m acts rest r ms h _ ih =>
    obtain ⟨hact, hrest⟩ := not_or.mp (mt List.mem_cons.mpr hl)
    have hacts : .work ∉ acts := by
      rcases executeBy_effect h with ⟨e, _, _, _, rfl⟩ | ⟨_, he⟩
      · simp
      · exact work_notMem_step he (Ne.symm hact)
    have htail := ih fun hw => (List.mem_append.mp hw).elim hacts hrest
    unfold taken at htail ⊢
    rw [List.filterMap_cons_none (taken?_eq_none (Ne.symm hact)), htail]

theorem rounds_of_leads {r : List (Act τ)} (h : Leads (executeBy plans o) [.work] ms r) :
    Rounds (executeBy plans o) (taken ms) ms := by
  induction hn : ms.length using Nat.strongRecOn generalizing ms r with
  | ind n ih =>
    subst hn
    rcases h.of_cons with rfl | ⟨w, acts, ms, hw, hl, hm, rfl⟩
    · exact .idle
    rw [List.append_nil] at hm
    rcases leaves_work hl hw with rfl | ⟨t, first, ht, rfl, hf⟩
    · obtain ⟨rfl, _⟩ := hm.of_nil
      rw [taken_gone hl hw]
      exact .gone hw hl
    have hfirst : .work ∉ [first] := by rcases hf with rfl | rfl <;> simp
    have htaken : taken (w :: ms) = t :: taken ms := List.filterMap_cons_some ht
    have hm : Leads (executeBy plans o) ([first] ++ [.finish, .work]) ms r := hm
    rcases hm.split with
      ⟨q, hq, _⟩ | ⟨ms₁, ms₂, rfl, h₁, h₂⟩
    · rw [htaken, taken_of_leads hq hfirst]
      exact .inHand ht hl hf hq.part
    rw [htaken, taken, List.filterMap_append, ← taken, taken_of_leads h₁ hfirst, List.nil_append]
    rcases h₂.of_cons with rfl | ⟨f, acts, ns, hact, hlf, hn, rfl⟩
    · rw [List.append_nil]
      exact .inHand ht hl hf h₁.part
    obtain rfl := leaves_finish hlf hact
    simp only [List.length_cons, List.length_append] at ih
    have hs : Served (executeBy plans o) t ms₁ := by
      rcases hf with rfl | rfl
      · exact served_of_enter h₁.whole
      · exact served_of_complete h₁.whole
    rw [List.filterMap_cons_none (taken?_eq_none (by rw [hact]; exact fun h => by cases h))]
    exact .done ht hs hact (ih _ (by omega) hn rfl)

/-- What is accepted goes to the end of the queue, and what is taken comes from its front. -/
theorem admitted_step {m : Moment τ υ} {acts : List (Act τ)}
    (h : m.Leaves (executeBy plans o) acts) :
    m.before.queue.waiting ++ m.admitted?.toList = m.taken?.toList ++ m.after.queue.waiting := by
  obtain ⟨k, act, d, d'⟩ := m
  change executeBy plans o k act d = some (d', acts) at h
  rcases executeBy_effect h with ⟨e, rfl, _, rfl, _⟩ | ⟨_, he⟩
  · simp [Moment.admitted?, Moment.taken?]
  · cases he with
    | enqueue t hc => simp [Moment.admitted?, Moment.taken?, hc]
    | enqueueClosed t hc => simp [Moment.admitted?, Moment.taken?, hc]
    | run t rest _ hw => simp [Moment.admitted?, Moment.taken?, hw]
    | discard t rest _ hw => simp [Moment.admitted?, Moment.taken?, hw]
    | _ => simp [Moment.admitted?, Moment.taken?]

end Rounds

namespace Chronicle

section Run

variable {plans : Errand τ → Job Status} {o : Outside τ υ} {c : Chronicle τ υ} {member : Nat}
  {act : Act τ} {rest acts : List (Act τ)} {d : Desk τ υ}

/-- What has been accepted has been taken, in the same order, or still waits. -/
theorem admitted_playBy (plans : Errand τ → Job Status) (o : Outside τ υ) (network : Network)
    (outside : υ) (callers : Nat) (moves : List (Move τ)) :
    let c := (start network outside callers).playBy (executeBy plans o) moves
    admitted c.moments = taken c.moments ++ c.shared.queue.waiting := by
  refine playBy_induction _
    (P := fun c => admitted c.moments = taken c.moments ++ c.shared.queue.waiting)
    (fun {c member act rest acts d} h ha he => ?_) (fun caller r h => h) rfl moves
  have hstep := admitted_step (m := ⟨member, act, c.shared, d⟩) he
  have ho : ∀ f : Moment τ υ → Option (Task τ),
      (c.note member act d (acts ++ rest)).moments.filterMap f =
        c.moments.filterMap f ++ (f ⟨member, act, c.shared, d⟩).toList := by
    intro f
    rw [moments_note, List.filterMap_append]
    cases hf : f ⟨member, act, c.shared, d⟩ <;> simp [hf]
  unfold admitted taken at h ⊢
  rw [ho, ho, h, List.append_assoc, List.append_assoc, hstep, shared_note]

theorem isWorkers_noteBy (h : ∀ k, k ≠ worker → ∀ a ∈ c.agenda k, a.isWorkers = false)
    (ha : c.agenda member = act :: rest)
    (he : executeBy plans o member act c.shared = some (d, acts)) :
    ∀ k, k ≠ worker → ∀ a ∈ (c.note member act d (acts ++ rest)).agenda k,
      a.isWorkers = false := by
  intro k hk a hm
  rcases mem_agenda_note ha hm with hold | ⟨rfl, hnew⟩
  · exact h k hk a hold
  · have hact := h k hk act (ha ▸ List.mem_cons_self)
    rcases executeBy_effect he with ⟨e, rfl, _, _, rfl⟩ | ⟨_, he⟩
    · rw [List.mem_singleton.mp hnew]
      cases e <;> first | rfl | cases hact
    · exact isWorkers_step he hact a hnew

/-- Only the worker turns to the queue and carries out operations. -/
theorem isWorkers_playBy (plans : Errand τ → Job Status) (o : Outside τ υ) (network : Network)
    (outside : υ) (callers : Nat) (moves : List (Move τ)) :
    ∀ m ∈ ((start network outside callers).playBy (executeBy plans o) moves).moments,
      m.act.isWorkers = true → m.member = worker := by
  refine forall_momentsBy (executeBy plans o)
    (P := fun c => ∀ k, k ≠ worker → ∀ a ∈ c.agenda k, a.isWorkers = false)
    (fun {c member act rest acts d} h ha he => ⟨isWorkers_noteBy h ha he, fun hw => ?_⟩)
    (fun caller r h k hk a ha => ?_) (fun k hk a ha => ?_) rfl moves
  · by_cases hm : member = worker
    · exact hm
    · rw [h member hm act (ha ▸ List.mem_cons_self)] at hw
      cases hw
  · rcases mem_agenda_ask ha with ha | ⟨_, rfl⟩
    · exact h k hk a ha
    · rfl
  · rw [agenda_start, if_neg hk] at ha
    cases ha

/-- What the worker has taken can be told from what the worker has done. -/
theorem taken_momentsOf (h : ∀ m ∈ c.moments, m.act.isWorkers = true → m.member = worker) :
    taken (c.momentsOf worker) = taken c.moments := by
  unfold taken momentsOf
  revert h
  induction c.moments with
  | nil => exact fun _ => rfl
  | cons m ms ih =>
    intro h
    have hms := ih fun m hm => h m (List.mem_cons_of_mem _ hm)
    by_cases hm : m.member = worker
    · rw [List.filter_cons_of_pos (by simpa using hm), List.filterMap_cons, List.filterMap_cons,
        hms]
    · have hw : m.act ≠ .work := fun hw => hm (h m List.mem_cons_self (hw ▸ rfl))
      rw [List.filter_cons_of_neg (by simpa using hm),
        List.filterMap_cons_none (taken?_eq_none hw), hms]

/-- Whatever the transport does and whatever the code outside asks for: operations are carried out
by the worker, in rounds, in the order in which the queue has accepted them. Whenever a member
returns from the transport, what it goes on with is to deliver all that was emitted since it has
entered, in order, and then to report the outcome or to return it. -/
theorem deliveries_in_order (plans : Errand τ → Job Status) (o : Outside τ υ) (network : Network)
    (outside : υ) (callers : Nat) (moves : List (Move τ)) :
    let x := executeBy plans o
    let c := (start network outside callers).playBy x moves
    (∀ m ∈ c.moments, m.act.isWorkers = true → m.member = worker) ∧
    (∃ ts, Rounds x ts (c.momentsOf worker) ∧
      admitted c.moments = ts ++ c.shared.queue.waiting) ∧
    ∀ k past m later e status held, c.momentsOf k = past ++ m :: later →
      m.act = .inside e (.done status) held →
      (∃ before visit, past = before ++ visit ∧ Visit e visit held) ∧
        ∃ rest, Part x (held.map .deliver ++ e.after status ++ rest) later := by
  intro x c
  have hworkers := isWorkers_playBy plans o network outside callers moves
  refine ⟨hworkers, ⟨taken c.moments, ?_, admitted_playBy plans o network outside callers moves⟩,
    fun k past m later e status held hk hm => ?_⟩
  · obtain ⟨rs, hw, hl⟩ := leads_playBy x network outside callers moves worker
    rw [if_pos rfl, hw rfl] at hl
    rw [← taken_momentsOf hworkers]
    exact rounds_of_leads hl
  · obtain ⟨rs, _, hl⟩ := leads_playBy x network outside callers moves k
    obtain ⟨acts, rest, hp, hleaves, hr⟩ := (hk ▸ hl).at_moment
    have hgiven : ∀ a ∈ (if k = worker then [.work] else []) ++ rs.map Act.request,
        a.isInside = false := by
      intro a ha
      rcases List.mem_append.mp ha with ha | ha
      · split at ha
        · rw [List.mem_singleton.mp ha]
          rfl
        · cases ha
      · obtain ⟨r, _, rfl⟩ := List.mem_map.mp ha
        rfl
    refine ⟨(hp.visit hgiven).2 e _ held rest (by rw [hm]), rest, ?_⟩
    rcases leaves_inside hleaves hm with ⟨status', hs, rfl⟩ | ⟨hn, _⟩
    · cases hs
      exact hr.part
    · exact absurd rfl (hn status)

open Sample in
/-- A sink that is called with the one event of a request switches listening on. All that comes of
it comes before the outcome of the request is reported. -/
theorem reentrant_in_order :
    let x := executeBy Errand.plan eager
    let c := (start {} () 1).playBy x (submitting heard ++ turns 0 30)
    (c.momentsOf worker).countP (·.act.callsOut) = 3 ∧
    ∃ past m later t held rest, c.momentsOf worker = past ++ m :: later ∧
      m.act = .inside (.operation t) (.done .success) held ∧
      Part x (held.map .deliver ++ [.complete () .success] ++ rest) later := by
  intro x c
  have hm : ∃ m ∈ c.momentsOf worker, m.act.returns () (· = .success) = true := by
    decide +kernel
  obtain ⟨m, hm, hr⟩ := hm
  obtain ⟨past, later, hk⟩ := List.append_of_mem hm
  obtain ⟨t, held, ha⟩ : ∃ t held, m.act = .inside (.operation t) (.done .success) held := by
    unfold Act.returns at hr
    split at hr
    · next t status held heq =>
      simp only [Bool.and_eq_true, decide_eq_true_eq] at hr
      exact ⟨t, held, hr.2 ▸ heq⟩
    · cases hr
  obtain ⟨_, rest, hp⟩ := (deliveries_in_order Errand.plan eager {} () 1
    (submitting heard ++ turns 0 30)).2.2 worker past m later (.operation t) .success held hk ha
  exact ⟨by decide +kernel, past, m, later, t, held, rest, hk, ha, hp⟩

end Run

end Chronicle

end Switchboard.Exchange
