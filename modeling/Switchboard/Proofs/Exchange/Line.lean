import Switchboard.Proofs.Exchange.Guard
import Switchboard.Proofs.Exchange.Turn
import Switchboard.Proofs.Settling

/-!
# The line

Operations are carried out in the order they are submitted in (`Queued`). The line of an endpoint is
whatever still waits, behind the request in hand as long as that has not settled. In an open
exchange whose flags nobody changes by hand, an endpoint with a flag and no relation has a request
in the line, and if it is cancelled, an operation that ends relations behind the request
(`Accounted`).
-/

namespace Switchboard

variable {τ υ : Type}

namespace Task

/-- The operation requests a connection to the endpoint. -/
def Asks (s : SessionName) (id : EndpointId) (t : Task τ) : Prop :=
  t.session = s ∧ t.operation.requests id

/-- The operation ends the relation to the endpoint. -/
def Ends (s : SessionName) (id : EndpointId) (t : Task τ) : Prop :=
  t.session = s ∧ Exchange.Chronicle.EndsRelation id t.operation

end Task

/-- The act changes flags of the session by hand. -/
def Act.handlesFlags (s : SessionName) : Act τ → Bool
  | request (.hook (.session name hook)) => name = s && hook.isFlagWork
  | _ => false

namespace Exchange

/-! ## What accounts for a flag -/

/-- A flag without a relation belongs to a request in the line, and what has raised it stands behind
the request. -/
structure Accounted (s : SessionName) (id : EndpointId) (x : Session) (line : List (Task τ)) :
    Prop where
  flagged : x.isFlagged id = true → x.isRelated id = false → ∃ t ∈ line, t.Asks s id
  cancelled : x.isCancelled id = true → x.isRelated id = false →
    ∃ t u, [t, u].Sublist line ∧ t.Asks s id ∧ u.Ends s id

namespace Accounted

variable {s : SessionName} {id : EndpointId} {x y : Session} {line : List (Task τ)} {t : Task τ}

theorem of_settled (h : x.isRelated id = true ∨ x.isFlagged id = false) :
    Accounted s id x line := by
  constructor
  · intro hf hr
    rcases h with h | h
    · rw [h] at hr
      cases hr
    · rw [h] at hf
      cases hf
  · intro hc hr
    rcases h with h | h
    · rw [h] at hr
      cases hr
    · rw [Session.isFlagged_of_isCancelled hc] at h
      cases h

theorem fades (h : Accounted s id x line) (hf : Session.Fades x y id) : Accounted s id y line where
  flagged hy hr := by
    obtain ⟨hx, hr⟩ := hf.idle hy hr
    exact h.flagged hx hr
  cancelled hy hr := by
    obtain ⟨_, hr⟩ := hf.idle (Session.isFlagged_of_isCancelled hy) hr
    exact h.cancelled (hf.cancelled hy) hr

/-- As long as the request in hand keeps to what it has found. -/
theorem keep (h : Accounted s id x (t :: line)) (ht : t.Asks s id)
    (hr : y.isRelated id = x.isRelated id) (hc : y.isCancelled id = x.isCancelled id) :
    Accounted s id y (t :: line) :=
  ⟨fun _ _ => ⟨t, List.mem_cons_self, ht⟩, fun hy hr' => h.cancelled (hc ▸ hy) (hr ▸ hr')⟩

/-- Whoever does not request the endpoint may go. -/
theorem leave (h : Accounted s id x (t :: line)) (ht : ¬ t.Asks s id) : Accounted s id x line where
  flagged hx hr := by
    obtain ⟨u, hu, ha⟩ := h.flagged hx hr
    rcases List.mem_cons.mp hu with rfl | hu
    · exact absurd ha ht
    · exact ⟨u, hu, ha⟩
  cancelled hx hr := by
    obtain ⟨u, v, hs, ha, he⟩ := h.cancelled hx hr
    rcases List.sublist_cons_iff.mp hs with hs | ⟨r, hr, _⟩
    · exact ⟨u, v, hs, ha, he⟩
    · cases hr
      exact absurd ha ht

/-- Behind a request in front of the line stands whatever has raised its flag. -/
theorem exists_ends (h : Accounted s id x (t :: line)) (hc : x.isCancelled id = true)
    (hr : x.isRelated id = false) : ∃ u ∈ line, u.Ends s id := by
  obtain ⟨_, u, hs, _, he⟩ := h.cancelled hc hr
  rcases List.sublist_cons_iff.mp hs with hs | ⟨r, hr, hs⟩
  · exact ⟨u, hs.subset (by simp), he⟩
  · cases hr
    exact ⟨u, hs.subset List.mem_cons_self, he⟩

theorem append (h : Accounted s id x line) (t : Task τ) : Accounted s id x (line ++ [t]) where
  flagged hx hr := by
    obtain ⟨u, hu, ha⟩ := h.flagged hx hr
    exact ⟨u, List.mem_append_left _ hu, ha⟩
  cancelled hx hr := by
    obtain ⟨u, v, hs, ha, he⟩ := h.cancelled hx hr
    exact ⟨u, v, hs.trans (List.sublist_append_left ..), ha, he⟩

/-- Whatever raises the flag goes to the end of the line. -/
theorem cancel (h : Accounted s id x line) (ht : t.Ends s id)
    (hr : y.isRelated id = x.isRelated id) (hf : y.isFlagged id = x.isFlagged id) :
    Accounted s id y (line ++ [t]) where
  flagged hy hr' := (h.append t).flagged (hf ▸ hy) (hr ▸ hr')
  cancelled hy hr' := by
    obtain ⟨u, hu, ha⟩ := h.flagged (hf ▸ Session.isFlagged_of_isCancelled hy) (hr ▸ hr')
    exact ⟨u, t, (List.singleton_sublist.mpr hu).append (List.Sublist.refl [t]), ha, ht⟩

end Accounted

/-- What is prepared for an operation that does not end the relation cancels nobody. -/
theorem isCancelled_prepare {op : Operation Listener} {x : Session} {id : EndpointId}
    (hs : x.flags.Sound) (hop : ¬ Chronicle.EndsRelation id op)
    (hc : (op.prepare x).isCancelled id = true) : x.isCancelled id = true := by
  cases op with
  | requestConnection id' => exact (Session.isCancelled_armFlag x id' id) ▸ hc
  | rejectConnection id' | disconnectFromEndpoint id' =>
    have hne : id' ≠ id := by
      rintro rfl
      exact hop (by simp [Chronicle.EndsRelation])
    exact ((FlagBoard.isCancelled_cancel hs id' id).mp hc).resolve_right fun h => hne h.1
  | stopAllEndpoints => exact absurd (.inr (.inr rfl)) hop
  | _ => exact hc

/-- Only a request registers a flag before it is queued. -/
theorem isFlagged_prepare {op : Operation Listener} (x : Session) {id : EndpointId}
    (hop : ¬ op.requests id) : (op.prepare x).isFlagged id = x.isFlagged id := by
  cases op with
  | requestConnection id' =>
    show (x.armFlag id').isFlagged id = _
    rw [Session.isFlagged_armFlag]
    simp [show ¬ id' = id from hop]
  | rejectConnection id' | disconnectFromEndpoint id' =>
    show ((x.flags.cancel id').handle? id).isSome = _
    rw [FlagBoard.handle?_cancel]
    rfl
  | stopAllEndpoints =>
    show (x.flags.cancelAll.handle? id).isSome = _
    rw [FlagBoard.handle?_cancelAll]
    rfl
  | _ => rfl

/-- An operation is lodged at the end of the line. -/
theorem Accounted.lodge {s : SessionName} {id : EndpointId} {n : Network} {line : List (Task τ)}
    (h : Accounted s id (n.session s) line) (hs : (n.session s).flags.Sound) (t : Task τ) :
    Accounted s id
      ((n.setSession t.session (t.operation.prepare (n.session t.session))).session s)
      (line ++ [t]) := by
  rw [Network.session_setSession]
  split
  case isFalse => exact h.append t
  case isTrue ht =>
    rw [ht]
    have hr := Session.isRelated_congr (t.operation.connections_prepare (n.session s)) id
    by_cases he : t.Ends s id
    · refine h.cancel he hr (isFlagged_prepare _ fun hop => ?_)
      obtain ⟨_, he⟩ := he
      cases hm : t.operation <;> simp_all [Operation.requests, Chronicle.EndsRelation]
    refine ⟨fun hy hr' => ?_, fun hy hr' => ?_⟩
    case refine_2 =>
      have hx := isCancelled_prepare hs (fun hop => he ⟨ht, hop⟩) hy
      exact (h.append t).cancelled hx (hr ▸ hr')
    by_cases ha : t.Asks s id
    · exact ⟨t, List.mem_append_right _ List.mem_cons_self, ha⟩
    · refine (h.append t).flagged ?_ (hr ▸ hr')
      rw [← isFlagged_prepare (n.session s) fun hop => ha ⟨ht, hop⟩]
      exact hy

/-! ## One step -/

section Step

variable {o : Outside τ υ} {me : Nat} {d d' : Desk τ υ} {act : Act τ} {acts : List (Act τ)}
  {s : SessionName} {id : EndpointId}

/-- Whoever neither submits anything nor carries out a request for the endpoint leaves it with a
flag and no relation only if it was so before. -/
theorem fades_step (h : Effect o me d act d' acts) (hs : act.submission? = none)
    (hc : ∀ e plan held, act = .inside e plan held →
      (∃ k l, plan.Follows (Conduct e.own) k l) ∧ ¬ e.own s id)
    (hh : act.handlesFlags s = false)
    (sound : (d.network.session s).flags.Sound) :
    Session.Fades (d.network.session s) (d'.network.session s) id := by
  cases h with
  | submit => cases hs
  | hook h =>
    cases h with
    | transport hook => exact .refl _ id
    | session name hook =>
      show Session.Fades _ ((d.network.setSession name _).session s) id
      rw [Network.session_setSession]
      split
      · next hn =>
        have hf : hook.isFlagWork = false := by simpa [Act.handlesFlags, hn] using hh
        exact hn ▸ Session.fades_apply hf _ id
      · exact .refl _ id
  | act e change next held =>
    obtain ⟨⟨p, q, hf⟩, hown⟩ := hc e _ held rfl
    cases hf with
    | act hc _ => exact hc.fades hown sound
  | _ => exact .refl _ id

theorem waiting_step (h : Effect o me d act d' acts) (hw : act ≠ .work)
    (hr : act.isRouting = false) : d'.queue.waiting = d.queue.waiting := by
  cases h with
  | enqueue => cases hr
  | run | discard | retire => exact absurd rfl hw
  | finish => exact WorkQueue.waiting_finish _
  | _ => rfl

/-- Apart from turning to the queue, a step is about an operation only if the act was. -/
theorem task?_step (h : Effect o me d act d' acts) (hw : act ≠ .work) {a : Act τ} (ha : a ∈ acts)
    {t : Task τ} (ht : a.task? = some t) : act.task? = some t := by
  by_cases hi : act.isWorkers = true
  · cases h with
    | leave e status held =>
      rcases List.mem_append.mp ha with ha | ha
      · obtain ⟨m, _, rfl⟩ := List.mem_map.mp ha
        cases ht
      · cases e <;> simp_all [Errand.after, Act.task?]
    | enterClosed e => cases e <;> simp_all [Errand.after, Act.task?]
    | enter e | look e | act e | await e => cases e <;> simp_all [Act.task?, Act.isWorkers]
    | run | discard | retire => exact absurd rfl hw
    | _ => simp_all [Act.isWorkers]
  · have := isWorkers_step h (by simpa using hi) a ha
    unfold Act.task? at ht
    split at ht <;> simp_all [Act.isWorkers]

end Step

/-! ## The queue -/

/-- The operation that the worker takes from the queue. -/
def Moment.taken? (m : Moment τ υ) : Option (Task τ) :=
  match m.act, m.after.queue.worker with
  | .work, .running t | .work, .dropping t => some t
  | _, _ => none

/-- What has been submitted, oldest first. -/
def submissions (moments : List (Moment τ υ)) : List (Task τ) :=
  moments.filterMap (·.act.submission?)

/-- What the worker has taken from the queue, oldest first. -/
def taken (moments : List (Moment τ υ)) : List (Task τ) := moments.filterMap Moment.taken?

theorem taken?_eq_none {m : Moment τ υ} (h : m.act ≠ .work) : m.taken? = none := by
  unfold Moment.taken?
  split
  · next hw _ => exact absurd hw h
  · next hw _ => exact absurd hw h
  · rfl

namespace Chronicle

section Run

variable {o : Outside τ υ} {c : Chronicle τ υ} {k : Nat} {act : Act τ} {rest acts : List (Act τ)}
  {d : Desk τ υ} {t : Task τ} {s : SessionName} {id : EndpointId}

/-- What was submitted has been taken, in the same order, or still waits; and what the worker has in
hand it has taken last. -/
structure Queued (c : Chronicle τ υ) : Prop where
  line : submissions c.moments = taken c.moments ++ c.shared.queue.waiting
  inHand : ∀ a ∈ c.agenda worker, ∀ t, a.task? = some t → (taken c.moments).getLast? = some t

theorem queued_start (network : Network) (outside : υ) (callers : Nat) :
    (start network outside callers : Chronicle τ υ).Queued := by
  refine ⟨rfl, fun a ha t ht => ?_⟩
  rw [agenda_start, if_pos rfl] at ha
  cases List.mem_singleton.mp ha
  cases ht

theorem queued_ask (caller : Nat) (r : Request τ) (h : c.Queued) : (c.ask caller r).Queued := by
  refine ⟨h.line, fun a ha t ht => ?_⟩
  rw [agenda_ask_worker] at ha
  exact h.inHand a ha t ht

/-- Only the worker turns to the queue, with nothing else left to do. -/
theorem eq_worker_of_work (h : c.Running) (ha : c.agenda k = .work :: rest) :
    k = worker ∧ rest = [] := by
  have hk : k = worker := by
    by_cases hk : k = worker
    · exact hk
    · cases h.manned.callers k hk .work (ha ▸ List.mem_cons_self)
  subst hk
  refine ⟨rfl, ?_⟩
  rcases h.manned.worker with ⟨busy, hb, hn, _⟩ | ⟨hb, _⟩
  · rw [ha] at hb
    cases busy with
    | nil => exact (List.cons.inj hb).2
    | cons a busy =>
      cases (List.cons.inj hb).1
      exact absurd List.mem_cons_self hn
  · rw [ha] at hb
    cases hb

theorem queued_note (hc : c.Running) (h : c.Queued) (ha : c.agenda k = act :: rest)
    (he : Effect o k c.shared act d acts) (hs : act.submission? = none) :
    Queued (c.note k act d (acts ++ rest)) := by
  have hsub : submissions (c.note k act d (acts ++ rest)).moments = submissions c.moments := by
    simp [submissions, hs]
  by_cases hw : act = .work
  · subst hw
    obtain ⟨rfl, rfl⟩ := eq_worker_of_work hc ha
    have hline := h.line
    cases he with
    | run t rest' idle hq go =>
      have htaken : ∀ l, taken (c.note worker .work
          { c.shared with queue := { c.shared.queue with waiting := rest', worker := .running t } }
          l).moments = taken c.moments ++ [t] := fun _ => List.filterMap_append
      rw [hq] at hline
      refine ⟨hsub.trans (hline.trans ?_), fun a hm u hu => ?_⟩
      · rw [htaken, List.append_assoc]
        rfl
      · rw [agenda_note_self ha] at hm
        have : u = t := by
          simp only [List.append_nil, List.mem_cons, List.not_mem_nil, or_false] at hm
          rcases hm with rfl | rfl | rfl <;> cases hu
          rfl
        rw [htaken, this, List.getLast?_concat]
    | discard t rest' idle hq stop =>
      rw [hc.going] at stop
      cases stop
    | retire idle hq closed =>
      rw [hc.accepting] at closed
      cases closed
  · have htaken : taken (c.note k act d (acts ++ rest)).moments = taken c.moments := by
      simp [taken, taken?_eq_none (m := ⟨k, act, c.shared, d⟩) hw]
    have hr := hc.settled k act (ha ▸ List.mem_cons_self)
    refine ⟨?_, fun a hm t ht => ?_⟩
    · rw [hsub, htaken, shared_note, waiting_step he hw hr]
      exact h.line
    · rw [htaken]
      rcases mem_agenda_note ha hm with hm | ⟨hk, hm⟩
      · exact h.inHand a hm t ht
      · exact h.inHand act (hk ▸ ha ▸ List.mem_cons_self) t (task?_step he hw hm ht)

theorem queued_lodge (h : c.Queued) (ha : c.agenda k = .request (.submit t) :: rest) :
    (c.lodge k t rest).Queued := by
  have hmoments : submissions (c.lodge k t rest).moments = submissions c.moments ++ [t] ∧
      taken (c.lodge k t rest).moments = taken c.moments := by
    simp [lodge, submissions, taken, Act.submission?, Moment.taken?]
  refine ⟨?_, fun a hm u hu => ?_⟩
  · rw [hmoments.1, hmoments.2, h.line, List.append_assoc]
    rfl
  · rw [hmoments.2]
    rw [agenda_lodge ha] at hm
    split at hm
    · next hk => exact h.inHand a (hk ▸ ha ▸ List.mem_cons_of_mem _ hm) u hu
    · exact h.inHand a hm u hu

end Run

end Chronicle

end Exchange

end Switchboard
