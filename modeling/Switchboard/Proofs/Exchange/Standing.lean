import Switchboard.Proofs.Exchange.Loss
import Switchboard.Proofs.Exchange.Reporting

/-!
# Whoever is inside, at every moment

Whoever is inside the transport has entered it and has gone on with its plan since, while others may
have come in between (`Underway`). So what the plan of its errand withstands is withstood by what is
left of the plan, provided the others have done nothing else. This holds at every moment of every
run (`standing_play`), whatever it is that the plan withstands.
-/

namespace Switchboard.Exchange

variable {τ υ : Type}

/-! ## One moment -/

section Moment

variable {o : Outside τ υ} {m : Moment τ υ}

/-- What is reported to a session is so from outside, or by whoever is inside on an errand that may
report it. -/
theorem Moment.Lawful.reported (hm : m.Lawful o) (hr : m.OnErrand) (s : SessionName) :
    (m.after.network.session s).connections = (m.before.network.session s).connections ∨
      ∃ h, m.act.Conveys s h ∧
        m.after.network.session s = (h.apply (m.before.network.session s)).1 ∧
        (m.act = .request (.hook (.session s h)) ∨
          ∃ e plan held, m.act = .inside e plan held ∧ e.Reports s h) := by
  obtain ⟨k, act, d, d'⟩ := m
  obtain ⟨⟨acts, he⟩, hc⟩ := hm
  have he : Effect o k d act d' acts := he
  cases he with
  | act e change next held =>
    have hf := hr e _ held rfl
    cases hf with
    | act hc' _ =>
      cases hc' with
      | @report name h hp =>
        by_cases hn : name = s
        · subst hn
          exact .inr ⟨h, .inr ⟨e, next, held, rfl⟩, Network.session_setSession_self ..,
            .inr ⟨e, _, held, rfl, hp⟩⟩
        · exact .inl (congrArg _ ((Network.session_setSession ..).trans (if_neg hn)))
      | @rollBack name id' =>
        refine .inl ?_
        show ((d.network.setSession name _).session s).connections = _
        rw [Network.session_setSession]
        split
        · next hn => simp [hn]
        · rfl
      | record | books => exact .inl rfl
  | _ =>
    rcases conveys_step ‹_› hc s with heq | ⟨h, ha, heq⟩
    · exact .inl heq
    · refine .inr ⟨h, ha, heq, ?_⟩
      rcases ha with ha | ⟨_, _, _, ha⟩
      · exact .inl ha
      · cases ha

theorem Moment.Lawful.conveyed (hm : m.Lawful o) (s : SessionName) :
    (m.after.network.session s).connections = (m.before.network.session s).connections ∨
      ∃ h, m.act.Conveys s h ∧
        m.after.network.session s = (h.apply (m.before.network.session s)).1 := by
  obtain ⟨⟨acts, he⟩, hc⟩ := hm
  exact conveys_step he hc s

end Moment

/-! ## Since somebody has entered -/

/-- After `seen` member `k` is inside on its errand, with `plan` to be carried out from here on, and
`since` is what has happened since it entered. -/
structure Underway (seen : List (Moment τ υ)) (k : Nat) (e : Errand τ) (plan : Job Status)
    (n : Network) (since : List (Moment τ υ)) : Prop where
  entered : ∃ past a, seen = past ++ a :: since ∧ a.member = k ∧ a.act = .enter e
  holding : ∀ m ∈ since, m.before.holder = some k
  /-- What the plan of the errand withstands is withstood so far. -/
  withstands : ∀ {R : Network → Network → Prop} {G : Network → Network × List Emission → Prop}
    {Q : Status → Network → Prop}, (∀ n, R n n) → (∀ {a b c}, R a b → R b c → R a c) →
    (∀ n, e.plan.Withstands R G Q n) →
    (∀ m ∈ since, m.act.isInside = false → R m.before.network m.after.network) →
    plan.Withstands R G Q n

namespace Underway

variable {seen since : List (Moment τ υ)} {k : Nat} {e : Errand τ} {plan : Job Status}
  {n : Network} {m : Moment τ υ}

theorem enter (hm : m.member = k) (ha : m.act = .enter e) (n : Network) :
    Underway (seen ++ [m]) k e e.plan n [] :=
  ⟨⟨seen, m, rfl, hm, ha⟩, fun _ hx => absurd hx List.not_mem_nil, fun _ _ h _ => h n⟩

theorem concat (h : Underway seen k e plan n since) {plan' : Job Status} {n' : Network}
    (hk : m.before.holder = some k)
    (hw : ∀ {R : Network → Network → Prop} {G : Network → Network × List Emission → Prop}
      {Q : Status → Network → Prop}, (∀ n, R n n) → (∀ {a b c}, R a b → R b c → R a c) →
      (m.act.isInside = false → R m.before.network m.after.network) →
      plan.Withstands R G Q n → plan'.Withstands R G Q n') :
    Underway (seen ++ [m]) k e plan' n' (since ++ [m]) where
  entered := by
    obtain ⟨past, a, rfl, ha⟩ := h.entered
    exact ⟨past, a, by simp, ha⟩
  holding x hx := by
    rcases List.mem_append.mp hx with hx | hx
    · exact h.holding x hx
    · exact List.mem_singleton.mp hx ▸ hk
  withstands refl trans hplan hr := by
    refine hw refl trans (hr m (List.mem_append_right _ (List.mem_singleton_self _))) ?_
    exact h.withstands refl trans hplan fun x hx => hr x (List.mem_append_left _ hx)

/-- What is done while somebody is inside is part of the run. -/
theorem mem (h : Underway seen k e plan n since) {moments later : List (Moment τ υ)}
    (heq : moments = seen ++ m :: later) {x : Moment τ υ} (hx : x ∈ since) : x ∈ moments := by
  obtain ⟨past, a, rfl, -⟩ := h.entered
  rw [heq]
  simp [hx]

section

variable {R : Network → Network → Prop} {G : Network → Network × List Emission → Prop}
  {Q : Status → Network → Prop}

/-- Whoever is inside makes each change as it is guaranteed. -/
theorem guarantees {held : List Emission} (hact : m.act = .inside e plan held)
    (h : Underway seen m.member e plan m.before.network since) (refl : ∀ n, R n n)
    (trans : ∀ {a b c}, R a b → R b c → R a c) (hplan : ∀ n, e.plan.Withstands R G Q n)
    (hr : ∀ m ∈ since, m.act.isInside = false → R m.before.network m.after.network) :
    Chronicle.Guarantees G e m := by
  refine ⟨⟨plan, held, hact⟩, fun change next held' hact' => ?_⟩
  cases hact.symm.trans hact'
  exact (h.withstands refl trans hplan hr _ (refl _)).1

/-- Whoever is about to leave has the result that was wanted. -/
theorem result {status : Status} (h : Underway seen k e (.done status) n since)
    (refl : ∀ n, R n n) (trans : ∀ {a b c}, R a b → R b c → R a c)
    (hplan : ∀ n, e.plan.Withstands R G Q n)
    (hr : ∀ m ∈ since, m.act.isInside = false → R m.before.network m.after.network) :
    Q status n :=
  h.withstands refl trans hplan hr n (refl n)

end

end Underway

namespace Chronicle

/-- What is guaranteed of the changes of a moment is so of its outcome. -/
theorem Guarantees.change {o : Outside τ υ} {G : Network → Network × List Emission → Prop}
    {e : Errand τ} {m : Moment τ υ} (h : Guarantees G e m) (hm : m.Lawful o) :
    m.after.network = m.before.network ∨
      ∃ emitted, G m.before.network (m.after.network, emitted) := by
  obtain ⟨k, act, d, d'⟩ := m
  obtain ⟨⟨plan, held, rfl⟩, hg⟩ := h
  obtain ⟨⟨acts, he⟩, _⟩ := hm
  have he : Effect o k d (.inside e plan held) d' acts := he
  cases he with
  | leave | look | await => exact .inl rfl
  | act _ change next => exact .inr ⟨_, hg change next held rfl⟩

/-- Whoever is inside is on its way through its plan, and so it was all along. -/
structure Standing (c : Chronicle τ υ) : Prop where
  orderly : c.Orderly
  inside : ∀ k e plan held rest, c.agenda k = .inside e plan held :: rest →
    ∃ since, Underway c.moments k e plan c.shared.network since
  moments : ∀ past m later, c.moments = past ++ m :: later → ∀ e plan held,
    m.act = .inside e plan held → ∃ since, Underway past m.member e plan m.before.network since

variable {o : Outside τ υ} {c : Chronicle τ υ} {member : Nat} {act : Act τ}
  {rest acts : List (Act τ)} {d : Desk τ υ}

/-- Whoever goes on inside has done one step of its plan. -/
theorem underway_step {seen since : List (Moment τ υ)} {e : Errand τ} {plan plan' : Job Status}
    {held held' : List Emission} (he : Effect o member c.shared (.inside e plan held) d acts)
    (hacts : acts = [.inside e plan' held']) (hk : c.shared.holder = some member)
    (h : Underway seen member e plan c.shared.network since) :
    Underway (seen ++ [⟨member, .inside e plan held, c.shared, d⟩]) member e plan' d.network
      (since ++ [⟨member, .inside e plan held, c.shared, d⟩]) :=
  h.concat hk fun refl _ _ hw => withstands_step refl hw he hacts

theorem standing_note (hc : c.Standing) (ha : c.agenda member = act :: rest)
    (he : Effect o member c.shared act d acts) :
    Standing (c.note member act d (acts ++ rest)) where
  orderly := orderly_note hc.orderly ha he
  inside k e plan held l hk := by
    have hx := hc.orderly.exclusive
    rcases inside_note hx ha he hk with
      ⟨rfl, rfl, _, _, rfl, _⟩ | ⟨rfl, ⟨plan', held', rfl⟩, hacts⟩ | ⟨_, hi, hk⟩
    · exact ⟨[], .enter rfl rfl _⟩
    · obtain ⟨since, hu⟩ := hc.inside k e plan' held' rest ha
      exact ⟨_, underway_step he hacts (hx.eq_holder (ha ▸ List.mem_cons_self) rfl) hu⟩
    · obtain ⟨since, hu⟩ := hc.inside k e plan held l hk
      -- the step is somebody else's, so it is one that the plan relies on
      refine ⟨_, hu.concat (m := ⟨member, act, c.shared, d⟩)
        (hx.eq_holder (hk ▸ List.mem_cons_self) rfl) fun {R _ _} _ trans hr hw => ?_⟩
      exact hw.rely (R := R) trans (hr hi)
  moments past m later heq e plan held hm := by
    rcases concat_eq_append_cons heq with ⟨_, rfl, rfl⟩ | ⟨later', _, heq⟩
    · cases hm
      exact hc.inside member e plan held rest ha
    · exact hc.moments past m later' heq e plan held hm

/-- At every moment of a run, whoever is inside is on its way through its plan. -/
theorem standing_play (o : Outside τ υ) (sessions : Directory SessionName Session)
    (farewells : List (SessionName × EndpointId)) (outside : υ) (callers : Nat)
    (moves : List (Move τ)) :
    ((start ⟨sessions, { farewells := farewells }⟩ outside callers).play o moves).Standing := by
  refine play_induction o (P := Standing) (fun hc ha he => standing_note hc ha (execute_effect he))
    (fun caller r hc => ⟨orderly_ask caller r hc.orderly, fun k e plan held l hk => ?_,
      hc.moments⟩)
    ⟨orderly_start .., fun k e plan held l hk => ?_, fun past m later heq => ?_⟩ moves
  · obtain ⟨l', hl⟩ := inside_ask hc.orderly.exclusive hk
    exact hc.inside k e plan held l' hl
  · rw [agenda_start] at hk
    split at hk <;> cases hk
  · exact absurd heq.symm (by simp [start])

/-- What is known of every run: whoever is inside is on its way through its plan, each moment is a
step, and whoever is inside keeps to its errand. -/
structure Traced (o : Outside τ υ) (c : Chronicle τ υ) : Prop where
  standing : c.Standing
  lawful : ∀ m : Moment τ υ, m ∈ c.moments → m.Lawful o
  errands : ∀ m : Moment τ υ, m ∈ c.moments → m.OnErrand

theorem traced_play (o : Outside τ υ) (sessions : Directory SessionName Session)
    (farewells : List (SessionName × EndpointId)) (outside : υ) (callers : Nat)
    (moves : List (Move τ)) :
    ((start ⟨sessions, { farewells := farewells }⟩ outside callers).play o moves).Traced o :=
  ⟨standing_play o sessions farewells outside callers moves,
    lawful_play o sessions farewells outside callers moves,
    (reporting_play o _ outside callers moves).moments⟩

end Chronicle

end Switchboard.Exchange
