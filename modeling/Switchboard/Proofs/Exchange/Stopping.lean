import Switchboard.Proofs.Exchange.Holder

/-!
# Stopping

Calls to the transport never overlap, the call to stop is made once at most, and nothing is called
after it. `Phase.Books` says what the transport's own records hold in each phase of the calls. The
exchange keeps them because whoever holds the transport conducts itself (`Conduct`), and because
there is one errand to stop, which nobody gets past: while it is on its way the transport has not
been stopped, and when it is over the exchange has long been shut down (`Orderly`).
-/

namespace Switchboard

variable {τ υ : Type}

/-! ## The records of the transport -/

namespace Phase

def isBusy : Phase → Bool
  | busy | stopBusy | stopMarked => true
  | _ => false

def isStopped : Phase → Bool
  | stopMarked | stopped => true
  | _ => false

/-- Whether the call to stop is on record. -/
def stopCalled : Phase → Bool
  | stopRecorded | stopBusy | stopMarked | stopped => true
  | _ => false

/-- No call to stop is on record, or one is, as the last of all calls. -/
def Ends (called : Bool) (history : List CallRecord) : Prop :=
  ∃ calls, history = calls ++ (if called then [⟨none, .stop⟩] else []) ∧
    ∀ r ∈ calls, r.call ≠ .stop

structure Books (k : Phase) (t : Transport) : Prop where
  busy : t.busy = k.isBusy
  stopped : t.stopped = k.isStopped
  overlaps : t.overlaps = 0
  late : t.callsAfterStop = 0
  history : Ends k.stopCalled t.history

theorem Books.sameCalls {k : Phase} {t u : Transport} (h : k.Books t) (hs : t.SameCalls u) :
    k.Books u := by
  constructor
  · rw [hs.busy, h.busy]
  · rw [hs.stopped, h.stopped]
  · rw [hs.overlaps, h.overlaps]
  · rw [hs.late, h.late]
  · rw [hs.history]; exact h.history

/-- Whoever conducts itself keeps the records in order, and makes no call after the call to stop. -/
theorem Books.conduct {own : SessionName → EndpointId → Prop} {k l : Phase}
    {change : Network → Network × List Emission} {n : Network} (h : k.Books n.transport)
    (hc : Conduct own k change l) :
    l.Books (change n).1.transport ∧
      (k.stopCalled = true → (change n).1.transport.history = n.transport.history) := by
  obtain ⟨hb, hs, ho, hl, hh⟩ := h
  cases hc with
  | record r hr =>
    obtain ⟨calls, hcalls, hn⟩ := hh
    refine ⟨⟨hb, hs, ho, hl, n.transport.history ++ [r], (List.append_nil _).symm, ?_⟩, nofun⟩
    intro x hx
    rcases List.mem_append.mp hx with hx | hx
    · exact hn x (by simpa [hcalls, stopCalled] using hx)
    · rwa [List.mem_singleton.mp hx]
  | recordStop =>
    obtain ⟨calls, hcalls, hn⟩ := hh
    refine ⟨⟨hb, hs, ho, hl, calls, ?_, hn⟩, nofun⟩
    show n.transport.history ++ [_] = _
    rw [hcalls]
    simp [stopCalled]
  | enter | enterStop =>
    refine ⟨⟨rfl, hs, ?_, ?_, hh⟩, fun _ => rfl⟩
    · show (if n.transport.busy then _ else _) = 0
      rw [hb]
      exact ho
    · show (if n.transport.stopped then _ else _) = 0
      rw [hs]
      exact hl
  | leave | leaveStop => exact ⟨⟨rfl, hs, ho, hl, hh⟩, fun _ => rfl⟩
  | markStop => exact ⟨⟨hb, rfl, ho, hl, hh⟩, fun _ => rfl⟩
  | aside _ f hf =>
    exact ⟨Books.sameCalls ⟨hb, hs, ho, hl, hh⟩ (hf n.transport), fun _ => (hf n.transport).history⟩
  | report | arm | rollBack => exact ⟨⟨hb, hs, ho, hl, hh⟩, fun _ => rfl⟩

theorem Books.stopCalled_of_mem {k : Phase} {t : Transport} (h : k.Books t) {r : CallRecord}
    (hr : r ∈ t.history) (hs : r.call = .stop) : k.stopCalled = true := by
  cases hk : k.stopCalled with
  | true => rfl
  | false =>
    obtain ⟨calls, hcalls, hn⟩ := h.history
    rw [hk] at hcalls
    exact absurd hs (hn r (by simpa [hcalls] using hr))

end Phase

theorem TransportHook.sameCalls_apply (t : Transport) (h : TransportHook) :
    t.SameCalls (h.apply t) := by
  cases h <;> exact ⟨rfl, rfl, rfl, rfl, rfl⟩

theorem Hook.sameCalls_apply (n : Network) (h : Hook) :
    n.transport.SameCalls (h.apply n).1.transport := by
  cases h with
  | session name hook => exact ⟨rfl, rfl, rfl, rfl, rfl⟩
  | transport hook => exact hook.sameCalls_apply n.transport

/-! ## The one errand to stop -/

def Act.isStop : Act τ → Bool
  | enter (.stop _) | inside (.stop _) _ _ => true
  | _ => false

namespace Exchange

section Step

variable {o : Outside τ υ} {me : Nat} {d d' : Desk τ υ} {act : Act τ} {acts : List (Act τ)}

/-- Only whoever is inside calls the transport. -/
theorem sameCalls_step (h : Effect o me d act d' acts) (hi : act.isInside = false) :
    d.network.transport.SameCalls d'.network.transport := by
  cases h with
  | hook h => exact h.sameCalls_apply d.network
  | look | act | await | leave => cases hi
  | _ => exact ⟨rfl, rfl, rfl, rfl, rfl⟩

theorem countP_isStop_after (status : Status) (e : Errand τ) :
    (e.after status).countP Act.isStop = 0 := by
  cases e <;> rfl

/-- An errand to stop comes of shutting down and of nothing else. -/
theorem isStop_step (h : Effect o me d act d' acts) :
    (d.closed = false ∧ d'.closed = true ∧ acts.countP Act.isStop = 1) ∨
      (d'.closed = d.closed ∧ acts.countP Act.isStop ≤ [act].countP Act.isStop) := by
  have hr : ∀ rs : List (Request τ), (rs.map Act.request).countP Act.isStop = 0 :=
    countP_map_request fun _ => rfl
  have hm : ∀ ms : List Emission, (ms.map (Act.deliver : Emission → Act τ)).countP Act.isStop = 0 :=
    countP_map_deliver fun _ => rfl
  cases h with
  | shutdown back hc => exact .inl ⟨hc, rfl, rfl⟩
  | leave e status held =>
    refine .inr ⟨rfl, ?_⟩
    rw [List.countP_append, hm, countP_isStop_after]
    exact Nat.zero_le _
  | enterClosed e =>
    refine .inr ⟨rfl, ?_⟩
    rw [countP_isStop_after]
    exact Nat.zero_le _
  | turn | hook | deliver | complete | resume =>
    refine .inr ⟨rfl, ?_⟩
    simp only [hr, hm]
    exact Nat.zero_le _
  | enter e | look e | act e | await e => exact .inr ⟨rfl, by cases e <;> exact Nat.le_refl _⟩
  | _ => exact .inr ⟨rfl, Nat.le_refl _⟩

end Step

namespace Chronicle

def transport (c : Chronicle τ υ) : Transport := c.shared.network.transport

/-- How many errands to stop are not over yet. -/
def stops (c : Chronicle τ υ) : Nat := c.tally Act.isStop

/-- The records of the transport are in order, now and whatever the holder goes on to do. -/
structure Orderly (c : Chronicle τ υ) : Prop where
  exclusive : c.Exclusive
  unshut : c.shared.closed = false → c.stops = 0
  once : c.stops ≤ 1
  free : c.shared.holder = none → ∃ k : Phase, k.Books c.transport ∧
    (k = .idle ∨ k = .stopped ∧ c.shared.closed = true ∧ c.stops = 0)
  held : ∀ m e plan held rest, c.agenda m = .inside e plan held :: rest →
    ∃ k : Phase, k.Books c.transport ∧ plan.Follows (Conduct e.own) k e.last

variable {c : Chronicle τ υ} {member : Nat} {act : Act τ} {rest acts : List (Act τ)}
  {o : Outside τ υ} {d d' : Desk τ υ}

theorem stops_note (ha : c.agenda member = act :: rest) (d : Desk τ υ) (acts : List (Act τ)) :
    stops (c.note member act d (acts ++ rest)) + [act].countP Act.isStop =
      c.stops + acts.countP Act.isStop := tally_note ha d acts Act.isStop

theorem unshut_note (h : c.Orderly) (ha : c.agenda member = act :: rest)
    (he : Effect o member c.shared act d acts) :
    (d.closed = false → stops (c.note member act d (acts ++ rest)) = 0) ∧
      stops (c.note member act d (acts ++ rest)) ≤ 1 := by
  have hn := stops_note ha d acts
  have ho := h.once
  rcases isStop_step he with ⟨hc, hd, hs⟩ | ⟨hd, hs⟩
  · have hz := h.unshut hc
    refine ⟨fun hf => ?_, by omega⟩
    rw [hd] at hf
    cases hf
  · refine ⟨fun hf => ?_, by omega⟩
    have hz := h.unshut (hd ▸ hf)
    omega

/-- An errand to stop keeps the exchange shut down. -/
theorem closed_of_isStop (h : c.Orderly) (ha : c.agenda member = act :: rest)
    (hs : act.isStop = true) : c.shared.closed = true ∧ c.stops = 1 := by
  have hn := stops_note ha c.shared []
  have ho := h.once
  have h1 : [act].countP Act.isStop = 1 := by rw [List.countP_singleton, if_pos hs]
  have hz : c.stops = 1 := by
    rw [List.countP_nil] at hn
    omega
  refine ⟨?_, hz⟩
  cases hc : c.shared.closed with
  | true => rfl
  | false => exact absurd (h.unshut hc) (by omega)

theorem orderly_start (sessions : Directory SessionName Session)
    (farewells : List (SessionName × EndpointId)) (outside : υ) (callers : Nat) :
    (start ⟨sessions, { farewells := farewells }⟩ outside callers : Chronicle τ υ).Orderly := by
  refine ⟨exclusive_start .., fun _ => tally_start rfl .., ?_, fun _ => ⟨.idle, ?_, .inl rfl⟩, ?_⟩
  · exact Nat.le_trans (Nat.le_of_eq (tally_start rfl ..)) (Nat.zero_le 1)
  · show Phase.idle.Books { farewells := farewells }
    exact ⟨rfl, rfl, rfl, rfl, [], rfl, fun r hr => by cases hr⟩
  · intro m e plan held rest hm
    rw [agenda_start] at hm
    split at hm <;> cases hm

theorem orderly_ask (caller : Nat) (r : Request τ) (h : c.Orderly) : (c.ask caller r).Orderly := by
  have hs : (c.ask caller r).stops = c.stops := tally_ask rfl c caller
  refine ⟨exclusive_ask caller r h.exclusive, hs ▸ h.unshut, hs ▸ h.once, hs ▸ h.free, ?_⟩
  intro m e plan held rest hm
  obtain ⟨l, hl⟩ := inside_ask h.exclusive hm
  exact h.held m e plan held l hl

/-- What is left of the holder's plan is in order if the plan was. -/
theorem held_step {e : Errand τ} {plan plan' : Job Status} {held held' : List Emission} {k : Phase}
    (hk : k.Books d.network.transport) (hf : plan.Follows (Conduct e.own) k e.last)
    (he : Effect o member d (.inside e plan held) d' acts)
    (hacts : acts = [.inside e plan' held']) :
    ∃ l : Phase, l.Books d'.network.transport ∧ plan'.Follows (Conduct e.own) l e.last := by
  rcases follows_step hf he hacts with ⟨hd, hf⟩ | ⟨_, l, hc, hd, hf⟩
  · exact ⟨k, hd ▸ hk, hf⟩
  · exact ⟨l, hd ▸ (hk.conduct hc).1, hf⟩

/-- Whoever is inside after a step has a plan that is in order. -/
theorem held_note (h : c.Orderly) (ha : c.agenda member = act :: rest)
    (he : Effect o member c.shared act d acts) {m : Nat} {e : Errand τ} {plan : Job Status}
    {held : List Emission} {l : List (Act τ)}
    (hm : (c.note member act d (acts ++ rest)).agenda m = .inside e plan held :: l) :
    ∃ k : Phase, k.Books d.network.transport ∧ plan.Follows (Conduct e.own) k e.last := by
  rcases inside_note h.exclusive ha he hm with
    ⟨rfl, rfl, hfree, hopen, rfl, rfl⟩ | ⟨rfl, ⟨plan', held', rfl⟩, rfl⟩ | ⟨_, hi, hm⟩
  · obtain ⟨k, hk, rfl | ⟨_, hc, hz⟩⟩ := h.free hfree
    · exact ⟨.idle, hk.sameCalls (sameCalls_step he rfl), e.plan_conduct⟩
    · cases e with
      | stop back =>
        have h1 := (closed_of_isStop h ha rfl).2
        omega
      | _ =>
        rw [hopen rfl] at hc
        cases hc
  · obtain ⟨k, hk, hf⟩ := h.held m e plan' held' rest ha
    exact held_step hk hf he rfl
  · obtain ⟨k, hk, hf⟩ := h.held m e plan held l hm
    exact ⟨k, hk.sameCalls (sameCalls_step he hi), hf⟩

/-- Whoever leaves does so with the records in order, and nobody outside disturbs them. -/
theorem free_note (h : c.Orderly) (ha : c.agenda member = act :: rest)
    (he : Effect o member c.shared act d acts) (hd : d.holder = none) :
    ∃ k : Phase, k.Books d.network.transport ∧
      (k = .idle ∨ k = .stopped ∧ d.closed = true ∧
        stops (c.note member act d (acts ++ rest)) = 0) := by
  have hstops := stops_note ha d acts
  cases hi : act.isInside with
  | true =>
    have hm : c.shared.holder = some member := h.exclusive.eq_holder (ha ▸ List.mem_cons_self) hi
    rcases inside_step he hi with ⟨e, status, held, rfl, rfl, rfl⟩ | ⟨hd', _⟩
    · obtain ⟨k, hk, hf⟩ := h.held member e _ held rest ha
      cases hf
      refine ⟨e.last, hk, ?_⟩
      rw [List.countP_append, countP_map_deliver (fun _ => rfl), countP_isStop_after] at hstops
      cases e with
      | stop back =>
        obtain ⟨hc, hs⟩ := closed_of_isStop h ha rfl
        refine .inr ⟨rfl, hc, ?_⟩
        have h1 : [Act.inside (.stop back) (.done status) held].countP Act.isStop = 1 := rfl
        omega
      | _ => exact .inl rfl
    · rw [hd', hm] at hd
      cases hd
  | false =>
    rcases outside_step he hi with ⟨_, _, _, _, rfl, _⟩ | ⟨hd', _⟩
    · cases hd
    · obtain ⟨k, hk, hidle⟩ := h.free (hd' ▸ hd)
      refine ⟨k, hk.sameCalls (sameCalls_step he hi), hidle.imp id fun ⟨hk', hc, hz⟩ => ⟨hk', ?_⟩⟩
      rcases isStop_step he with ⟨hc', _⟩ | ⟨hc', hs'⟩
      · rw [hc] at hc'
        cases hc'
      · exact ⟨hc' ▸ hc, by omega⟩

theorem orderly_note (h : c.Orderly) (ha : c.agenda member = act :: rest)
    (he : Effect o member c.shared act d acts) : Orderly (c.note member act d (acts ++ rest)) := by
  obtain ⟨hu, ho⟩ := unshut_note h ha he
  exact ⟨exclusive_note h.exclusive ha he, hu, ho, free_note h ha he,
    fun _ _ _ _ _ hm => held_note h ha he hm⟩

/-- After the call to stop there is no other. -/
theorem history_note (h : c.Orderly) (ha : c.agenda member = act :: rest)
    (he : Effect o member c.shared act d acts) {r : CallRecord} (hr : r ∈ c.transport.history)
    (hs : r.call = .stop) : d.network.transport.history = c.transport.history := by
  cases he with
  | act e change next held =>
    obtain ⟨k, hk, hf⟩ := h.held member e _ held rest ha
    cases hf with
    | act hc hf => exact (hk.conduct hc).2 (hk.stopCalled_of_mem hr hs)
  | hook hook => exact (hook.sameCalls_apply c.shared.network).history
  | _ => rfl

theorem orderly_play (o : Outside τ υ) (h : c.Orderly) (moves : List (Move τ)) :
    (c.play o moves).Orderly :=
  play_induction o (fun h ha he => orderly_note h ha (execute_effect he))
    (fun caller r h => orderly_ask caller r h) h moves

/-- What is kept of a chronicle in order, and of the moments since, is kept by every run. -/
theorem since_induction {P : Chronicle τ υ → List (Moment τ υ) → Prop} (o : Outside τ υ)
    (step : ∀ {b : Chronicle τ υ} {since : List (Moment τ υ)} {member : Nat} {act : Act τ}
      {rest acts : List (Act τ)} {d : Desk τ υ}, b.Orderly → P b since →
      b.agenda member = act :: rest → Effect o member b.shared act d acts →
      P (b.note member act d (acts ++ rest)) (since ++ [⟨member, act, b.shared, d⟩]))
    (ask : ∀ {b : Chronicle τ υ} {since : List (Moment τ υ)} (caller : Nat) (r : Request τ),
      b.Orderly → P b since → P (b.ask caller r) since)
    (hc : c.Orderly) (start : P c []) (moves : List (Move τ)) :
    ∃ since, (c.play o moves).moments = c.moments ++ since ∧ P (c.play o moves) since := by
  refine (play_induction o
    (P := fun b => b.Orderly ∧ ∃ since, b.moments = c.moments ++ since ∧ P b since)
    ?_ ?_ ⟨hc, [], (List.append_nil _).symm, start⟩ moves).2
  · rintro b member act rest acts d ⟨hb, since, hs, hp⟩ ha he
    have he := execute_effect he
    refine ⟨orderly_note hb ha he, _, ?_, step hb hp ha he⟩
    rw [moments_note, hs, List.append_assoc]
  · exact fun caller r ⟨hb, since, hs, hp⟩ =>
      ⟨orderly_ask caller r hb, since, hs, ask caller r hb hp⟩

theorem history_play (o : Outside τ υ) (h : c.Orderly) {r : CallRecord}
    (hr : r ∈ c.transport.history) (hs : r.call = .stop) (moves : List (Move τ)) :
    (c.play o moves).transport.history = c.transport.history := by
  refine (play_induction o
    (P := fun b => b.Orderly ∧ b.transport.history = c.transport.history)
    ?_ ?_ ⟨h, rfl⟩ moves).2
  · rintro b member act rest acts d ⟨hb, heq⟩ ha he
    have he := execute_effect he
    exact ⟨orderly_note hb ha he, (history_note hb ha he (heq ▸ hr) hs).trans heq⟩
  · exact fun caller r ⟨hb, heq⟩ => ⟨orderly_ask caller r hb, heq⟩

/-- In order, whoever holds the transport or nobody does. -/
theorem Orderly.books (h : c.Orderly) : ∃ k : Phase, k.Books c.transport := by
  cases hh : c.shared.holder with
  | none =>
    obtain ⟨k, hk, _⟩ := h.free hh
    exact ⟨k, hk⟩
  | some m =>
    obtain ⟨e, plan, held, l, hl, _⟩ := h.exclusive.holder m hh
    obtain ⟨k, hk, _⟩ := h.held m e plan held l hl
    exact ⟨k, hk⟩

/-- Whatever is asked for and in whatever order steps are taken, at most one member is inside the
transport and no call goes on while another is under way. The call to stop is made once at most and
is then the last: the history ends with it, and stays as it is for whatever is done afterwards. -/
theorem stop_is_last (o : Outside τ υ) (sessions : Directory SessionName Session)
    (farewells : List (SessionName × EndpointId)) (outside : υ) (callers : Nat)
    (moves more : List (Move τ)) :
    let c := (start ⟨sessions, { farewells := farewells }⟩ outside callers).play o moves
    (∀ j k, ∀ a ∈ c.agenda j, ∀ b ∈ c.agenda k, a.isInside = true → b.isInside = true → j = k) ∧
      c.transport.overlaps = 0 ∧ c.transport.callsAfterStop = 0 ∧
      c.transport.history.countP (·.call = .stop) ≤ 1 ∧
      ((∃ r ∈ c.transport.history, r.call = .stop) →
        c.transport.history.getLast? = some ⟨none, .stop⟩ ∧
        (c.play o more).transport.history = c.transport.history) := by
  intro c
  have h : c.Orderly := orderly_play o (orderly_start sessions farewells outside callers) moves
  obtain ⟨k, hk⟩ := h.books
  obtain ⟨calls, hcalls, hn⟩ := hk.history
  have hz : calls.countP (·.call = .stop) = 0 :=
    List.countP_eq_zero.mpr fun r hr => by simpa using hn r hr
  refine ⟨fun i j a ha b hb hai hbi => ?_, hk.overlaps, hk.late, ?_, ?_⟩
  · exact h.exclusive.eq_of_inside ha hb hai hbi
  · rw [hcalls, List.countP_append, hz]
    split
    · exact Nat.le_refl 1
    · exact Nat.zero_le 1
  · rintro ⟨r, hr, hs⟩
    refine ⟨?_, history_play o h hr hs more⟩
    rw [hcalls, if_pos (hk.stopCalled_of_mem hr hs), List.getLast?_append]
    rfl

open Sample in
/-- A request that waits while the transport is stopped calls nothing afterwards. -/
theorem history_after_stop :
    let c := run (submitting request ++ .ask 0 (.shutdown ()) :: turns 1 13)
    c.transport.history = [⟨none, .stop⟩] ∧
      (c.play silent (turns 0 20)).transport.history = c.transport.history := by
  refine ⟨by decide +kernel, ?_⟩
  have h := stop_is_last silent ∅ [] () 1
    (submitting request ++ .ask 0 (.shutdown ()) :: turns 1 13) (turns 0 20)
  exact (h.2.2.2.2 (by decide +kernel)).2

end Chronicle

end Exchange

end Switchboard
