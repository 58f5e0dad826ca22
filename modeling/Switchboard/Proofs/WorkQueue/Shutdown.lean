import Switchboard.Proofs.WorkQueue.Balance

/-!
# Coming back from a shutdown

Whoever shuts a queue down takes it on to wait for the worker, unless somebody has done so before,
or is the worker itself and cannot wait. `Accountable` says who has taken it on and where that call
stands. A call that did not wait itself may therefore come back while the worker is still at work
(`returned_early`); `shutdown_waits` says that this is the only way.
-/

namespace Switchboard.Service

variable {J τ υ : Type}

/-! ## The stages of a shutdown -/

/-- What is known of the queue at each stage of a shutdown. -/
def Act.Sees (q : WorkQueue J) : Act J τ → Prop
  | close _ => q.stopping = true
  | claim _ => q.stopping = true ∧ q.closed = true
  | join _ | done _ => q.stopping = true ∧ q.closed = true ∧ q.claimed = true
  | _ => True

def Act.isJoin : Act J τ → Bool
  | join _ => true
  | _ => false

/-- Whether whoever executes the act takes it on to wait for the worker. -/
def Act.takesOn (q : WorkQueue J) : Act J τ → Bool
  | claim _ => !q.claimed
  | _ => false

/-- What has been set stays set. -/
structure Firm (q q' : WorkQueue J) : Prop where
  stopping : q.stopping = true → q'.stopping = true
  closed : q.closed = true → q'.closed = true
  claimed : q.claimed = true → q'.claimed = true
  gone : q.isGone = true → q'.isGone = true

theorem Act.Sees.firm {q q' : WorkQueue J} {a : Act J τ} (h : a.Sees q) (hf : Firm q q') :
    a.Sees q' := by
  cases a with
  | close => exact hf.stopping h
  | claim => exact ⟨hf.stopping h.1, hf.closed h.2⟩
  | join | done => exact ⟨hf.stopping h.1, hf.closed h.2.1, hf.claimed h.2.2⟩
  | _ => trivial

section Step

variable {c : Code J τ υ} {me : Nat} {d d' : Desk J υ} {act : Act J τ} {acts : List (Act J τ)}

theorem firm_step (h : Effect c me d act d' acts) : Firm d.queue d'.queue := by
  have idle : d.queue.worker = .idle → d.queue.isGone = true → ∀ {P : Prop}, P := fun hw hg => by
    unfold WorkQueue.isGone at hg
    rw [hw] at hg
    cases hg
  cases h with
  | run _ _ hw | discard _ _ hw => exact ⟨id, id, id, fun hg => idle hw hg⟩
  | retire => exact ⟨id, id, id, fun _ => rfl⟩
  | finish =>
    refine ⟨(WorkQueue.stopping_finish _).trans, (WorkQueue.closed_finish _).trans, fun hc => ?_,
      (WorkQueue.isGone_finish _).trans⟩
    unfold WorkQueue.finish
    split <;> exact hc
  | shutdown => exact ⟨fun _ => rfl, id, id, id⟩
  | close => exact ⟨id, fun _ => rfl, id, id⟩
  | claimOwn | claim => exact ⟨id, id, fun _ => rfl, id⟩
  | _ => exact ⟨id, id, id, id⟩

/-- A shutdown goes from stage to stage. -/
theorem sees_step (h : Effect c me d act d' acts) (hs : act.Sees d.queue) :
    ∀ a ∈ acts, a.Sees d'.queue := by
  have key : ∀ (asks : List (Ask J τ)) (l : List (Act J τ)), (∀ a ∈ l, a.Sees d'.queue) →
      ∀ a ∈ asks.map .ask ++ l, a.Sees d'.queue := fun asks l hl a ha => by
    rcases List.mem_append.mp ha with ha | ha
    · obtain ⟨ask, _, rfl⟩ := List.mem_map.mp ha
      trivial
    · exact hl a ha
  cases h with
  | refuse | answer | turn | run | discard | done => exact key _ _ (by simp [Act.Sees])
  | retire | finish => exact nofun
  | shutdown => exact fun a ha => List.mem_singleton.mp ha ▸ rfl
  | close => exact fun a ha => List.mem_singleton.mp ha ▸ ⟨hs, rfl⟩
  | claimTaken _ hc => exact fun a ha => List.mem_singleton.mp ha ▸ ⟨hs.1, hs.2, hc⟩
  | claimOwn | claim => exact fun a ha => List.mem_singleton.mp ha ▸ ⟨hs.1, hs.2, rfl⟩
  | join => exact fun a ha => List.mem_singleton.mp ha ▸ hs
  | _ => exact fun a ha => List.mem_singleton.mp ha ▸ trivial

/-- Whoever takes it on and is not the worker waits next. -/
theorem takesOn_step (h : Effect c me d act d' acts) (ht : act.takesOn d.queue = true)
    (hk : me ≠ worker) : ∃ back, acts = [.join back] := by
  cases h with
  | claimTaken _ hc =>
    rw [show Act.takesOn d.queue (.claim _ : Act J τ) = !d.queue.claimed from rfl, hc] at ht
    cases ht
  | claimOwn _ _ hw => exact absurd hw hk
  | claim back => exact ⟨back, rfl⟩
  | _ => cases ht

/-- Somebody has taken it on if and only if the queue is claimed. -/
theorem claimed_step (h : Effect c me d act d' acts) :
    d'.queue.claimed = (d.queue.claimed || act.takesOn d.queue) := by
  cases h with
  | claimTaken _ hc | claimOwn _ hc | claim _ hc => simp [Act.takesOn, WorkQueue.claim, hc]
  | finish =>
    rw [show Act.takesOn d.queue (.finish : Act J τ) = false from rfl, Bool.or_false]
    unfold WorkQueue.finish
    split <;> rfl
  | _ => exact (Bool.or_false _).symm

theorem gone_of_join (h : Effect c me d act d' acts) (hj : act.isJoin = true) :
    d.queue.isGone = true := by
  cases h with
  | join _ hg => exact hg
  | _ => cases hj

end Step

/-! ## Who waits -/

namespace Shift

/-- Who has taken it on to wait, and what is known of everybody's shutdown. -/
structure Accountable (m : Shift J τ υ) : Prop where
  ledger : Ledger m.jobs m.queue
  sees : ∀ k, ∀ a ∈ m.agenda k, a.Sees m.queue
  taken : m.queue.claimed = true → ∃ x ∈ m.moments, x.act.takesOn x.before.queue = true
  waits : ∀ x ∈ m.moments, x.act.takesOn x.before.queue = true → x.member ≠ worker →
    m.queue.isGone = true ∨ ∃ back rest, m.agenda x.member = .join back :: rest
  joined : ∀ x ∈ m.moments, x.act.isJoin = true → m.queue.isGone = true

variable {c : Code J τ υ} {m : Shift J τ υ} {member : Nat} {act : Act J τ}
  {rest acts : List (Act J τ)} {d : Desk J υ}

theorem accountable_start (outside : υ) (callers : Nat) :
    (start outside callers : Shift J τ υ).Accountable := by
  refine ⟨ledger_start outside callers, fun k a ha => ?_,
    fun hc => absurd hc Bool.false_ne_true, fun x hx => absurd hx List.not_mem_nil,
    fun x hx => absurd hx List.not_mem_nil⟩
  rw [agenda_start] at ha
  split at ha
  · rw [List.mem_singleton.mp ha]
    trivial
  · cases ha

theorem accountable_ask (caller : Nat) (a : Ask J τ) (h : m.Accountable) :
    Accountable (m.give (caller + 1) [.ask a]) := by
  refine ⟨h.ledger, fun k b hb => ?_, h.taken, fun x hx ht hk => ?_, h.joined⟩
  · rcases Crew.Minutes.mem_agenda_give hb with hb | ⟨_, hb⟩
    · exact h.sees k b hb
    · rw [List.mem_singleton.mp hb]
      trivial
  · refine (h.waits x hx ht hk).imp id fun ⟨back, l, hl⟩ => ?_
    rcases Crew.Minutes.agenda_give m (caller + 1) [.ask a] x.member with he | he
    · exact ⟨back, l, he.trans hl⟩
    · exact ⟨back, l ++ [.ask a], by rw [he, hl]; rfl⟩

theorem accountable_note (h : m.Accountable) (ha : m.agenda member = act :: rest)
    (he : Effect c member m.shared act d acts) :
    Accountable (m.note member act d (acts ++ rest)) := by
  have hfirm := firm_step he
  refine ⟨?_, fun k a hmem => ?_, fun hc => ?_, fun x hx ht hk => ?_, fun x hx hj => ?_⟩
  · exact ledger_note h.ledger he
  · rcases Crew.Minutes.mem_agenda_note ha hmem with hmem | ⟨_, hmem⟩
    · exact (h.sees k a hmem).firm hfirm
    · exact sees_step he (h.sees member act (ha ▸ List.mem_cons_self)) a hmem
  · rcases Bool.or_eq_true_iff.mp ((claimed_step he).symm.trans hc) with hc | ht
    · obtain ⟨x, hx, ht⟩ := h.taken hc
      exact ⟨x, List.mem_append_left _ hx, ht⟩
    · exact ⟨_, List.mem_append_right _ (List.mem_singleton.mpr rfl), ht⟩
  · rw [Crew.Minutes.agenda_note ha]
    rcases List.mem_append.mp hx with hx | hx
    · rcases h.waits x hx ht hk with hg | ⟨back, l, hl⟩
      · exact .inl (hfirm.gone hg)
      · by_cases hm : x.member = member
        · -- its turn to wait has come, so the worker is gone
          obtain ⟨rfl, _⟩ := List.cons.inj ((hm ▸ ha).symm.trans hl)
          exact .inl (hfirm.gone (gone_of_join he rfl))
        · exact .inr ⟨back, l, by rw [if_neg hm, hl]⟩
    · obtain rfl := List.mem_singleton.mp hx
      obtain ⟨back, rfl⟩ := takesOn_step he ht hk
      exact .inr ⟨back, rest, if_pos rfl⟩
  · rcases List.mem_append.mp hx with hx | hx
    · exact hfirm.gone (h.joined x hx hj)
    · obtain rfl := List.mem_singleton.mp hx
      exact hfirm.gone (gone_of_join he hj)

/-! ## Coming back -/

/-- Another call has taken it on to wait: that of a job, which cannot, or one that still waits. -/
def Forestalled (past : List (Crew.Moment (Desk J υ) (Act J τ))) (member : Nat) : Prop :=
  ∃ x ∈ past, x.act.takesOn x.before.queue = true ∧
    (x.member = worker ∨ x.member ≠ member ∧ ∀ y ∈ past, y.act.isJoin = false)

instance (past : List (Crew.Moment (Desk J υ) (Act J τ))) (member : Nat) :
    Decidable (Forestalled past member) :=
  inferInstanceAs (Decidable (∃ x ∈ past, _))

/-- What holds of every call to shut the queue down that has come back. -/
def Returns (m : Shift J τ υ) : Prop :=
  ∀ past x back, past ++ [x] <+: m.moments → x.act = .done back →
    x.before.queue.stopping = true ∧ x.before.queue.closed = true ∧
      (x.member ≠ worker → Finished x.before.queue ∨ Forestalled past x.member)

/-- Whoever comes back from a shutdown, and is not the worker, finds that it has finished or that
somebody else has taken it on to wait. -/
theorem finished_or_forestalled (h : m.Accountable) {back : τ}
    (ha : m.agenda member = .done back :: rest) :
    Finished m.queue ∨ Forestalled m.moments member := by
  cases hg : m.queue.isGone with
  | true => exact .inl (h.ledger.finished hg)
  | false =>
    have hs := h.sees member (.done back) (ha ▸ List.mem_cons_self)
    obtain ⟨x, hx, ht⟩ := h.taken hs.2.2
    refine .inr ⟨x, hx, ht, ?_⟩
    by_cases hk : x.member = worker
    · exact .inl hk
    · refine .inr ⟨fun hm => ?_, fun y hy => ?_⟩
      · rcases h.waits x hx ht hk with hgone | ⟨back', l, hl⟩
        · exact absurd (hg.symm.trans hgone) nofun
        · rw [hm, ha] at hl
          cases hl
      · cases hj : y.act.isJoin with
        | false => rfl
        | true => exact absurd (hg.symm.trans (h.joined y hy hj)) nofun

theorem returns_note (h : m.Accountable) (hm : m.Returns) (ha : m.agenda member = act :: rest)
    (d : Desk J υ) (l : List (Act J τ)) : Returns (m.note member act d l) := by
  intro past x back hx hr
  rcases List.prefix_concat_iff.mp hx with hx | hx
  · obtain ⟨rfl, hlast⟩ := List.append_inj' hx rfl
    obtain rfl := (List.cons.inj hlast).1
    obtain rfl : act = .done back := hr
    have hs := h.sees member _ (ha ▸ List.mem_cons_self)
    exact ⟨hs.1, hs.2.1, fun _ => finished_or_forestalled h ha⟩
  · exact hm past x back hx hr

theorem returns_start (outside : υ) (callers : Nat) :
    (start outside callers : Shift J τ υ).Returns :=
  fun _ _ _ hx => absurd (List.prefix_nil.mp hx) (by simp)

/-- A call to shut the queue down comes back only when no job is accepted any more. If it is not
made by a job, the worker is gone by then, with nothing queued and the counters even, unless
another call has taken it on to wait: one that a job made, which does not wait for its own thread,
or one that is still waiting. -/
theorem shutdown_waits (c : Code J τ υ) (outside : υ) (callers : Nat) (moves : List (Move J τ))
    (past : List (Crew.Moment (Desk J υ) (Act J τ))) (x : Crew.Moment (Desk J υ) (Act J τ))
    (back : τ) (hx : past ++ [x] <+: ((start outside callers).play c moves).moments)
    (returns : x.act = .done back) :
    x.before.queue.stopping = true ∧ x.before.queue.closed = true ∧
      (x.member ≠ worker → Finished x.before.queue ∨ Forestalled past x.member) := by
  have hplay := play_induction c (P := fun m => m.Accountable ∧ m.Returns)
    (fun h ha he => ⟨accountable_note h.1 ha he, returns_note h.1 h.2 ha _ _⟩)
    (fun caller a h => ⟨accountable_ask caller a h.1, h.2⟩)
    ⟨accountable_start outside callers, returns_start outside callers⟩ moves
  exact hplay.2 past x back hx returns

open Sample in
/-- The only call waits until the job before it is dropped and the worker is gone. -/
theorem shutdown_waited :
    let m := run (submitting .plain ++ .ask 0 (.shutdown ()) :: turns 1 3 ++ turns 0 3 ++ turns 1 2)
    ∃ past x, past ++ [x] <+: m.moments ∧ x.act = .done () ∧ x.member ≠ worker ∧
      Finished x.before.queue := by
  intro m
  have hlast : m.moments.getLast?.any (fun x => decide (x.act = .done () ∧ x.member ≠ worker ∧
      ¬ Forestalled m.moments.dropLast x.member)) = true := by decide +kernel
  obtain ⟨x, hx, hp⟩ := (Option.any_eq_true _ _).mp hlast
  obtain ⟨hd, hk, hf⟩ := of_decide_eq_true hp
  obtain ⟨past, hpast⟩ := List.getLast?_eq_some_iff.mp hx
  rw [hpast, List.dropLast_concat] at hf
  have hpast : past ++ [x] <+: m.moments := hpast ▸ List.prefix_refl _
  exact ⟨past, x, hpast, hd, hk,
    ((shutdown_waits code () 2 _ past x () hpast hd).2.2 hk).resolve_right hf⟩

open Sample in
/-- A caller is back from its shutdown while a job is running: the job has shut the queue down
itself, or another caller has done so and still waits. -/
theorem returned_early :
    (∃ x ∈ (run (submitting .closing ++ turns 0 4 ++ .ask 0 (.shutdown ()) :: turns 1 4)).moments,
      x.act = .done () ∧ x.member ≠ worker ∧ x.before.queue.worker = .running .closing) ∧
    (∃ x ∈ (run (submitting .plain ++ turns 0 1 ++ .ask 0 (.shutdown ()) :: turns 1 3 ++
        .ask 1 (.shutdown ()) :: turns 2 4)).moments,
      x.act = .done () ∧ x.member ≠ worker ∧ x.before.queue.worker = .running .plain) := by
  decide +kernel

end Shift

end Switchboard.Service
