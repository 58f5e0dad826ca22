import Switchboard.Proofs.Conduct
import Switchboard.Proofs.Exchange.Chronicle
import Switchboard.Proofs.Exchange.Effect

/-!
# Holding the transport

At most one member is inside the transport at any time: the one the desk names as the holder, and
being inside is the first thing on its agenda.
-/

namespace Switchboard

variable {τ υ : Type}

def Act.isInside : Act τ → Bool
  | inside .. => true
  | _ => false

theorem Act.eq_inside {a : Act τ} (h : a.isInside = true) :
    ∃ e plan held, a = .inside e plan held := by
  cases a <;> first | exact ⟨_, _, _, rfl⟩ | cases h

namespace Errand

/-- The endpoints an errand may roll back. -/
def own : Errand τ → SessionName → EndpointId → Prop
  | operation t => fun s id => s = t.session ∧ t.operation.requests id
  | _ => fun _ _ => False

/-- How far the calls have come when the errand is over. -/
def last : Errand τ → Phase
  | stop _ => .stopped
  | _ => .idle

theorem plan_conduct (e : Errand τ) : e.plan.Follows (Conduct e.own) .idle e.last := by
  cases e with
  | operation t => exact Operation.body_conduct t.session t.operation
  | listen s service l options back =>
    exact Transport.startListening_conduct s service l options
  | unlisten s back =>
    exact .bind (Transport.stopListening_conduct s) fun _ => .done Status.success
  | stop back => exact .bind Transport.stop_conduct fun _ => .done Status.success

theorem isInside_after (status : Status) {e : Errand τ} {a : Act τ} (h : a ∈ e.after status) :
    a.isInside = false := by
  cases e <;> simp_all [after, Act.isInside]

end Errand

namespace Exchange

variable {o : Outside τ υ} {me : Nat} {d d' : Desk τ υ} {act : Act τ} {acts : List (Act τ)}

/-- Whoever is not inside enters, or comes to nothing inside and leaves the holder as it is. -/
theorem outside_step (h : Effect o me d act d' acts) (hi : act.isInside = false) :
    (∃ e, act = .enter e ∧ d.holder = none ∧ (e.needsOpen = true → d.closed = false) ∧
        d' = { d with holder := some me } ∧ acts = [.inside e e.plan []]) ∨
      d'.holder = d.holder ∧ ∀ a ∈ acts, a.isInside = false := by
  cases h with
  | enter e free ho => exact .inl ⟨e, rfl, free, ho, rfl, rfl⟩
  | enterClosed e => exact .inr ⟨rfl, fun a ha => Errand.isInside_after .error ha⟩
  | look | act | await | leave => cases hi
  | turn | hook | deliver | complete | resume =>
    refine .inr ⟨rfl, fun a ha => ?_⟩
    obtain ⟨x, _, rfl⟩ := List.mem_map.mp ha
    rfl
  | run | discard =>
    refine .inr ⟨rfl, fun a ha => ?_⟩
    simp only [List.mem_cons, List.not_mem_nil, or_false] at ha
    rcases ha with rfl | rfl | rfl <;> rfl
  | _ => simp_all [Act.isInside]

/-- Whoever is inside leaves, or stays inside with what is left of the plan. -/
theorem inside_step (h : Effect o me d act d' acts) (hi : act.isInside = true) :
    (∃ e status held, act = .inside e (.done status) held ∧ d' = { d with holder := none } ∧
        acts = held.map .deliver ++ e.after status) ∨
      d'.holder = d.holder ∧ ∃ e plan held plan' held',
        act = .inside e plan held ∧ acts = [.inside e plan' held'] := by
  cases h with
  | leave e status held => exact .inl ⟨e, status, held, rfl, rfl, rfl⟩
  | look | act | await => exact .inr ⟨rfl, _, _, _, _, _, rfl, rfl⟩
  | _ => cases hi

theorem isInside_leaving (e : Errand τ) (status : Status) (held : List Emission) :
    ∀ a ∈ held.map Act.deliver ++ e.after status, a.isInside = false := by
  intro a ha
  rcases List.mem_append.mp ha with ha | ha
  · obtain ⟨m, _, rfl⟩ := List.mem_map.mp ha
    rfl
  · exact Errand.isInside_after status ha

/-- Whoever goes on inside leaves the network as it is, or takes a step of the automaton that its
plan follows. -/
theorem follows_step {κ : Type} {T : κ → (Network → Network × List Emission) → κ → Prop} {k l : κ}
    {e : Errand τ} {plan plan' : Job Status} {held held' : List Emission}
    (hf : plan.Follows T k l) (h : Effect o me d (.inside e plan held) d' acts)
    (hacts : acts = [.inside e plan' held']) :
    d'.network = d.network ∧ plan'.Follows T k l ∨
      ∃ change m, T k change m ∧ d'.network = (change d.network).1 ∧ plan'.Follows T m l := by
  cases h with
  | leave => cases isInside_leaving e _ held _ (hacts ▸ List.mem_cons_self)
  | look _ next =>
    cases hacts
    cases hf with
    | look hf => exact .inl ⟨rfl, hf _⟩
  | await _ ready next =>
    cases hacts
    cases hf with
    | await _ hf => exact .inl ⟨rfl, hf⟩
  | act _ change next =>
    cases hacts
    cases hf with
    | act hc hf => exact .inr ⟨change, _, hc, rfl, hf⟩

/-- Whoever goes on with a plan that withstands what happens in between has one left that does. -/
theorem withstands_step {R : Network → Network → Prop}
    {G : Network → Network × List Emission → Prop} {Q : Status → Network → Prop} {e : Errand τ}
    {plan plan' : Job Status} {held held' : List Emission} (refl : ∀ n, R n n)
    (hw : plan.Withstands R G Q d.network) (h : Effect o me d (.inside e plan held) d' acts)
    (hacts : acts = [.inside e plan' held']) : plan'.Withstands R G Q d'.network := by
  cases h with
  | leave => cases isInside_leaving e _ held _ (hacts ▸ List.mem_cons_self)
  | look | await =>
    cases hacts
    exact hw _ (refl _)
  | act =>
    cases hacts
    exact (hw _ (refl _)).2

namespace Chronicle

/-- Only the holder is inside, with the first act of its agenda and no other. -/
structure Exclusive (c : Chronicle τ υ) : Prop where
  others : ∀ k, c.shared.holder ≠ some k → ∀ a ∈ c.agenda k, a.isInside = false
  holder : ∀ k, c.shared.holder = some k → ∃ e plan held rest,
    c.agenda k = .inside e plan held :: rest ∧ ∀ a ∈ rest, a.isInside = false

variable {c : Chronicle τ υ} {member : Nat} {rest : List (Act τ)}

theorem Exclusive.eq_holder (h : c.Exclusive) {k : Nat} {a : Act τ} (ha : a ∈ c.agenda k)
    (hi : a.isInside = true) : c.shared.holder = some k := by
  by_cases hn : c.shared.holder = some k
  · exact hn
  · rw [h.others k hn a ha] at hi
    cases hi

/-- Two who are inside are one. -/
theorem Exclusive.eq_of_inside (h : c.Exclusive) {i j : Nat} {a b : Act τ} (ha : a ∈ c.agenda i)
    (hb : b ∈ c.agenda j) (hai : a.isInside = true) (hbi : b.isInside = true) : i = j :=
  Option.some.inj ((h.eq_holder ha hai).symm.trans (h.eq_holder hb hbi))

/-- While one member is inside, the others are not. -/
theorem Exclusive.not_inside (h : c.Exclusive) {k : Nat} {e : Errand τ} {plan : Job Status}
    {held : List Emission} {rest' : List (Act τ)} (hk : c.agenda k = .inside e plan held :: rest')
    (ha : c.agenda member = act :: rest) (hm : member ≠ k) : act.isInside = false :=
  Bool.eq_false_iff.mpr fun hi =>
    hm (h.eq_of_inside (ha ▸ List.mem_cons_self) (hk ▸ List.mem_cons_self) hi rfl)

/-- Whoever is inside is so with the act at hand only. -/
theorem Exclusive.isInside_rest (h : c.Exclusive) (ha : c.agenda member = act :: rest)
    (hi : act.isInside = true) : ∀ a ∈ rest, a.isInside = false := by
  have hm := h.eq_holder (ha ▸ List.mem_cons_self) hi
  obtain ⟨e, plan, held, l, hl, hr⟩ := h.holder member hm
  rw [ha] at hl
  cases hl
  exact hr

theorem exclusive_start (network : Network) (outside : υ) (callers : Nat) :
    (start network outside callers : Chronicle τ υ).Exclusive := by
  constructor
  · intro k _ a ha
    rw [agenda_start] at ha
    split at ha
    · rw [List.mem_singleton.mp ha]; rfl
    · cases ha
  · intro k hk
    cases hk

theorem exclusive_ask (caller : Nat) (r : Request τ) (h : c.Exclusive) :
    (c.ask caller r).Exclusive := by
  constructor
  · intro k hk a ha
    rcases mem_agenda_ask ha with ha | ⟨_, rfl⟩
    · exact h.others k hk a ha
    · rfl
  · intro k hk
    obtain ⟨e, plan, held, l, hl, hr⟩ := h.holder k hk
    rcases agenda_give c (caller + 1) [.request r] k with hk' | hk'
    · exact ⟨e, plan, held, l, hk'.trans hl, hr⟩
    · refine ⟨e, plan, held, l ++ [.request r], by rw [hk', hl]; rfl, fun a ha => ?_⟩
      rcases List.mem_append.mp ha with ha | ha
      · exact hr a ha
      · rw [List.mem_singleton.mp ha]
        rfl

/-- Whoever enters is the only one inside, whatever is done there. -/
theorem exclusive_enter {e : Errand τ} (h : c.Exclusive) (ha : c.agenda member = .enter e :: rest)
    (free : c.shared.holder = none) (plan : Job Status) :
    Exclusive (c.note member (.enter e) { c.shared with holder := some member }
      ([.inside e plan []] ++ rest)) := by
  have hm : c.shared.holder ≠ some member := by rw [free]; exact nofun
  refine ⟨fun k hn a hk => ?_, fun k hk => ?_⟩
  · rw [agenda_note ha, if_neg (fun e => hn (congrArg some e.symm))] at hk
    exact h.others k (by rw [free]; exact nofun) a hk
  · cases hk
    exact ⟨e, plan, [], rest, agenda_note_self ha ..,
      fun a hx => h.others member hm a (ha ▸ List.mem_cons_of_mem _ hx)⟩

theorem exclusive_note {d : Desk τ υ} (h : c.Exclusive) (ha : c.agenda member = act :: rest)
    (he : Effect o member c.shared act d acts) :
    Exclusive (c.note member act d (acts ++ rest)) := by
  by_cases hi : act.isInside = true
  · have hm : c.shared.holder = some member := h.eq_holder (ha ▸ List.mem_cons_self) hi
    have hr := h.isInside_rest ha hi
    rcases inside_step he hi with
      ⟨e, status, held, _, rfl, rfl⟩ | ⟨hd, e, _, _, plan, held, rfl, rfl⟩
    · refine ⟨fun k _ a hk => ?_, fun k hk => by cases hk⟩
      rw [agenda_note ha] at hk
      split at hk
      · rcases List.mem_append.mp hk with hk | hk
        · exact isInside_leaving e status held a hk
        · exact hr a hk
      · next hne =>
        exact h.others k (fun he => hne (Option.some.inj (he.symm.trans hm))) a hk
    · refine ⟨fun k hn a hk => ?_, fun k hk => ?_⟩
      · rw [shared_note, hd, hm] at hn
        rw [agenda_note ha, if_neg (fun e => hn (congrArg some e.symm))] at hk
        exact h.others k (hm ▸ hn) a hk
      · rw [shared_note, hd, hm] at hk
        cases hk
        exact ⟨e, plan, held, rest, agenda_note_self ha .., hr⟩
  · have hi : act.isInside = false := by simpa using hi
    rcases outside_step he hi with ⟨e, rfl, hfree, _, rfl, rfl⟩ | ⟨hd, hacts⟩
    · exact exclusive_enter h ha hfree e.plan
    · have hm : c.shared.holder ≠ some member := by
        intro hm
        obtain ⟨e, plan, held, l, hl, _⟩ := h.holder member hm
        rw [ha] at hl
        cases hl
        cases hi
      refine ⟨fun k hn a hk => ?_, fun k hk => ?_⟩
      · rw [shared_note, hd] at hn
        rcases mem_agenda_note ha hk with hk | ⟨_, hk⟩
        · exact h.others k hn a hk
        · exact hacts a hk
      · rw [shared_note, hd] at hk
        have hne : k ≠ member := fun e => hm (e ▸ hk)
        rw [agenda_note ha, if_neg hne]
        exact h.holder k hk

/-- Whoever is inside after a request was inside before. -/
theorem inside_ask (h : c.Exclusive) {caller k : Nat} {r : Request τ} {e : Errand τ}
    {plan : Job Status} {held : List Emission} {l : List (Act τ)}
    (hk : (c.ask caller r).agenda k = .inside e plan held :: l) :
    ∃ l', c.agenda k = .inside e plan held :: l' := by
  have hin : Act.inside e plan held ∈ c.agenda k := by
    rcases mem_agenda_ask (hk ▸ List.mem_cons_self) with hin | ⟨_, hin⟩
    · exact hin
    · cases hin
  obtain ⟨_, _, _, l', hl, hr⟩ := h.holder k (h.eq_holder hin rfl)
  rw [hl] at hin
  rcases List.mem_cons.mp hin with hin | hin
  · cases hin
    exact ⟨l', hl⟩
  · cases hr _ hin

/-- Whoever is inside after a step was let in by it, or goes on by it, or was inside all along. -/
theorem inside_note {d : Desk τ υ} (h : c.Exclusive) (ha : c.agenda member = act :: rest)
    (he : Effect o member c.shared act d acts) {k : Nat} {e : Errand τ} {plan : Job Status}
    {held : List Emission} {l : List (Act τ)}
    (hk : (c.note member act d (acts ++ rest)).agenda k = .inside e plan held :: l) :
    (k = member ∧ act = .enter e ∧ c.shared.holder = none ∧
        (e.needsOpen = true → c.shared.closed = false) ∧ plan = e.plan ∧ held = []) ∨
      (k = member ∧ (∃ plan' held', act = .inside e plan' held') ∧ acts = [.inside e plan held]) ∨
      (k ≠ member ∧ act.isInside = false ∧ c.agenda k = .inside e plan held :: l) := by
  have hx := exclusive_note h ha he
  have hin : d.holder = some k := hx.eq_holder (hk ▸ List.mem_cons_self) rfl
  cases hi : act.isInside with
  | true =>
    rcases inside_step he hi with ⟨_, _, _, _, rfl, _⟩ | ⟨hd, e', plan', held', _, _, rfl, rfl⟩
    · cases hin
    · have hm : c.shared.holder = some member := h.eq_holder (ha ▸ List.mem_cons_self) hi
      rw [hd, hm] at hin
      cases hin
      rw [agenda_note_self ha] at hk
      cases hk
      exact .inr (.inl ⟨rfl, ⟨plan', held', rfl⟩, rfl⟩)
  | false =>
    rcases outside_step he hi with ⟨e', rfl, hfree, hopen, rfl, rfl⟩ | ⟨hd, hacts⟩
    · cases hin
      rw [agenda_note_self ha] at hk
      cases hk
      exact .inl ⟨rfl, rfl, hfree, hopen, rfl, rfl⟩
    · have hne : k ≠ member := by
        rintro rfl
        obtain ⟨_, _, _, _, hl, _⟩ := h.holder k (hd ▸ hin)
        rw [ha] at hl
        cases hl
        cases hi
      rw [agenda_note ha, if_neg hne] at hk
      exact .inr (.inr ⟨hne, rfl, hk⟩)

end Chronicle

end Exchange

end Switchboard
