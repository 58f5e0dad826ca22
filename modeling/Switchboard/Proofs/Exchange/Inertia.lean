import Switchboard.Proofs.Exchange.Episode
import Switchboard.Proofs.Exchange.Reporting
import Switchboard.Proofs.Inertia

/-!
# Inert sessions along a run

An inert session stays inert, and no listener hears of it, until somebody asks for something that
starts something there: an activity, a connection, or by hand a flag (`inert_until_woken`). Whatever
others do to their own sessions, whatever the radios report about any endpoint, and whatever
answers, upgrades, payloads or disconnections are asked for meanwhile, finds nothing. What carries
it is that nothing on its way to the transport wakes the session (`Lulled`).
-/

namespace Switchboard

variable {τ υ : Type}

/-! ## What wakes a session -/

namespace Errand

/-- Whether the errand may start something in the session. -/
def wakes (s : SessionName) : Errand τ → Bool
  | operation t => t.session == s && t.operation.wakes
  | listen s' _ _ _ _ => s' == s
  | _ => false

theorem Reports.wakes {s : SessionName} {e : Errand τ} {h : SessionHook Listener}
    (hr : e.Reports s h) (hw : e.wakes s = false) : h.wakes = false := by
  cases hr with
  | operation hr => exact hr.wakes (by simpa [Errand.wakes] using hw)
  | startedListening => simp [Errand.wakes] at hw
  | _ => rfl

end Errand

namespace Request

/-- What the transport will be held for because of the request. -/
def errand? : Request τ → Option (Errand τ)
  | submit t => some (.operation t)
  | listen s service l options back => some (.listen s service l options back)
  | unlisten s back => some (.unlisten s back)
  | shutdown back => some (.stop back)
  | _ => none

/-- Whether the request is to start something in the session. -/
def wakes (s : SessionName) : Request τ → Bool
  | hook (.session s' h) => s' == s && h.wakes
  | r => r.errand?.any (·.wakes s)

end Request

namespace Act

/-- What is on its way to the transport, or there, with the act. -/
def errand? : Act τ → Option (Errand τ)
  | route t | offer t | enqueue t => some (.operation t)
  | enter e | inside e _ _ => some e
  | _ => none

/-- Whether the act asks for something to be started in the session. -/
def wakes (s : SessionName) : Act τ → Bool
  | request r => r.wakes s
  | _ => false

/-- What listeners are to hear because of the act. -/
def emissions (n : Network) : Act τ → List Emission
  | request (.hook h) => (h.apply n).2
  | inside _ (.act change _) _ => (change n).2
  | _ => []

end Act

namespace Exchange

/-- Whatever listeners are to hear because of the moment, they hear of another session. -/
def Moment.Spares (s : SessionName) (m : Moment τ υ) : Prop :=
  ∀ x ∈ m.act.emissions m.before.network,
    ∃ k h, k ≠ s ∧ m.act.Conveys k h ∧ x ∈ (h.apply (m.before.network.session k)).2

/-! ## One step -/

section Step

variable {o : Outside τ υ} {me : Nat} {d d' : Desk τ υ} {act : Act τ} {acts : List (Act τ)}
  {s : SessionName}

theorem errand?_after (status : Status) {e : Errand τ} {a : Act τ} (h : a ∈ e.after status) :
    a.errand? = none := by
  cases e <;> simp_all [Errand.after, Act.errand?]

/-- What is on its way after a step was so before, or waited in the queue, or is asked for. -/
theorem errand?_step (h : Effect o me d act d' acts) {a : Act τ} (ha : a ∈ acts) {e : Errand τ}
    (hae : a.errand? = some e) :
    act.errand? = some e ∨ (∃ t ∈ d.queue.waiting, e = .operation t) ∨
      ∃ r, act = .request r ∧ r.errand? = some e := by
  cases h with
  | leave e' status held =>
    rcases List.mem_append.mp ha with ha | ha
    · obtain ⟨m, _, rfl⟩ := List.mem_map.mp ha
      cases hae
    · rw [errand?_after status ha] at hae
      cases hae
  | enterClosed e' =>
    rw [errand?_after .error ha] at hae
    cases hae
  | turn | hook | deliver | complete | resume =>
    obtain ⟨x, _, rfl⟩ := List.mem_map.mp ha
    cases hae
  | run t rest _ hq =>
    simp only [List.mem_cons, List.not_mem_nil, or_false] at ha
    rcases ha with rfl | rfl | rfl <;> cases hae
    exact .inr (.inl ⟨t, by rw [hq]; exact List.mem_cons_self, rfl⟩)
  | discard =>
    simp only [List.mem_cons, List.not_mem_nil, or_false] at ha
    rcases ha with rfl | rfl | rfl <;> cases hae
  | submit | listen | unlisten | shutdown =>
    rw [List.mem_singleton.mp ha] at hae
    exact .inr (.inr ⟨_, rfl, hae⟩)
  | _ => simp_all [Act.errand?]

/-- What waits in the queue after a step did so before, or was on its way there. -/
theorem waiting_or_errand? (h : Effect o me d act d' acts) {t : Task τ}
    (ht : t ∈ d'.queue.waiting) : t ∈ d.queue.waiting ∨ act.errand? = some (.operation t) := by
  cases h with
  | enqueue u =>
    rcases List.mem_append.mp ht with ht | ht
    · exact .inl ht
    · exact .inr (congrArg (some ∘ Errand.operation) (List.mem_singleton.mp ht).symm)
  | run _ _ _ hq | discard _ _ _ hq => exact .inl (hq ▸ List.mem_cons_of_mem _ ht)
  | finish => exact .inl (by rwa [WorkQueue.waiting_finish] at ht)
  | _ => exact .inl ht

/-- A report that does not wake the session leaves it inert, and what it emits is not about it. -/
theorem inert_report {n : Network} (hp : n.Proper) (hi : (n.session s).Inert) {k : SessionName}
    {h : SessionHook Listener} (hw : k = s → h.wakes = false) :
    ((n.onSession k fun x => h.apply x).1.session s).Inert ∧
      ∀ x ∈ (n.onSession k fun x => h.apply x).2,
        k ≠ s ∧ x ∈ (h.apply (n.session k)).2 := by
  by_cases hk : k = s
  · subst hk
    have hkeep := hi.apply (hp k) (hw rfl)
    refine ⟨?_, fun x hx => ?_⟩
    · simp only [Network.onSession, Network.session_setSession_self]
      exact hkeep.1
    · simp only [Network.onSession, hkeep.2] at hx
      cases hx
  · refine ⟨?_, fun x hx => ⟨hk, hx⟩⟩
    simp only [Network.onSession, Network.session_setSession, if_neg hk]
    exact hi

/-- A step that neither asks to wake the session nor is part of what may wake it. -/
theorem inert_step (h : Effect o me d act d' acts) (hi : (d.network.session s).Inert)
    (hp : d.network.Proper) (hr : Moment.OnErrand ⟨me, act, d, d'⟩)
    (hw : act.wakes s = false) (he : ∀ e, act.errand? = some e → e.wakes s = false) :
    (d'.network.session s).Inert ∧ Moment.Spares s ⟨me, act, d, d'⟩ := by
  cases h with
  | submit t =>
    refine ⟨?_, fun x hx => by cases hx⟩
    rw [Network.session_setSession]
    split
    · next hk =>
      subst hk
      exact hi.prepare (hp _) (by simpa [Act.wakes, Request.wakes, Request.errand?,
        Errand.wakes] using hw)
    · exact hi
  | hook h =>
    cases h with
    | transport => exact ⟨hi, fun x hx => by cases hx⟩
    | session k hook =>
      obtain ⟨hinert, hother⟩ := inert_report (h := hook) (k := k) hp hi
        (by rintro rfl; simpa [Act.wakes, Request.wakes] using hw)
      exact ⟨hinert, fun x hx => ⟨k, hook, (hother x hx).1, .inl rfl, (hother x hx).2⟩⟩
  | act e change next held =>
    have hf := hr e _ held rfl
    have hquiet := he e rfl
    cases hf with
    | act hc _ =>
      cases hc with
      | @report k hook hrep =>
        obtain ⟨hinert, hother⟩ := inert_report (h := hook) (k := k) hp hi
          (by rintro rfl; exact hrep.wakes hquiet)
        exact ⟨hinert, fun x hx =>
          ⟨k, hook, (hother x hx).1, .inr ⟨e, next, held, rfl⟩, (hother x hx).2⟩⟩
      | @rollBack k id hcancel hremove =>
        refine ⟨?_, fun x hx => by cases hx⟩
        rw [Network.session_setSession]
        split
        · next hk =>
          subst hk
          have hc := hi.apply (hp k) (hcancel.wakes hquiet)
          exact (hc.1.apply (Session.proper_apply (.cancel id) (hp k)) (hremove.wakes hquiet)).1
        · exact hi
      | record | books => exact ⟨hi, fun x hx => by cases hx⟩
  | _ => exact ⟨hi, fun x hx => by cases hx⟩

end Step

namespace Chronicle

variable {s : SessionName}

/-- Nothing that may wake the session is on its way to the transport, or there. -/
structure Lulled (s : SessionName) (c : Chronicle τ υ) : Prop where
  agendas : ∀ k, ∀ a ∈ c.agenda k, ∀ e, a.errand? = some e → e.wakes s = false
  waiting : ∀ t ∈ c.shared.queue.waiting, (Errand.operation t).wakes s = false

theorem lulled_iff {c : Chronicle τ υ} : c.Lulled s ↔
    (∀ a ∈ c.crew.agendas.flatten, ∀ e ∈ a.errand?, e.wakes s = false) ∧
      ∀ t ∈ c.shared.queue.waiting, (Errand.operation t).wakes s = false := by
  constructor
  · refine fun h => ⟨fun a ha e hae => ?_, h.waiting⟩
    obtain ⟨k, hk⟩ := Crew.mem_agenda_of_mem_flatten ha
    exact h.agendas k a hk e hae
  · exact fun ⟨ha, hw⟩ => ⟨fun k a hk e hae => ha a (Crew.mem_flatten_of_mem_agenda hk) e hae, hw⟩

instance (c : Chronicle τ υ) : Decidable (c.Lulled s) := decidable_of_iff _ lulled_iff.symm

theorem lulled_note {o : Outside τ υ} {c : Chronicle τ υ} {member : Nat} {act : Act τ}
    {rest acts : List (Act τ)} {d : Desk τ υ} (h : c.Lulled s)
    (ha : c.agenda member = act :: rest) (he : Effect o member c.shared act d acts)
    (hw : act.wakes s = false) : Lulled s (c.note member act d (acts ++ rest)) := by
  have hact := h.agendas member act (ha ▸ List.mem_cons_self)
  refine ⟨fun k a hk e hae => ?_, fun t ht => ?_⟩
  · rcases mem_agenda_note ha hk with hk | ⟨_, hk⟩
    · exact h.agendas k a hk e hae
    · rcases errand?_step he hk hae with hae | ⟨t, ht, rfl⟩ | ⟨r, rfl, hr⟩
      · exact hact e hae
      · exact h.waiting t ht
      · cases r <;> cases hr <;> simpa [Act.wakes, Request.wakes, Request.errand?] using hw
  · rcases waiting_or_errand? he ht with ht | ht
    · exact h.waiting t ht
    · exact hact _ ht

theorem lulled_ask {c : Chronicle τ υ} (caller : Nat) (r : Request τ) (h : c.Lulled s) :
    (c.ask caller r).Lulled s := by
  refine ⟨fun k a hk e hae => ?_, h.waiting⟩
  rcases mem_agenda_ask hk with hk | ⟨_, rfl⟩
  · exact h.agendas k a hk e hae
  · cases hae

/-- After every moment up to which nobody has asked for something to be started in the session it is
inert, and whatever listeners are to hear because of that moment, they hear of another session. -/
def Dormant (s : SessionName) (ms : List (Moment τ υ)) : Prop :=
  ∀ past m later, ms = past ++ m :: later → (∀ m' ∈ past ++ [m], m'.act.wakes s = false) →
    (m.after.network.session s).Inert ∧ m.Spares s

/-- As long as nobody asks for something to be started in it, an inert session stays inert. -/
theorem dormant_since (o : Outside τ υ) {c : Chronicle τ υ} (hc : c.Orderly) (hl : c.Lulled s)
    (hi : (c.shared.network.session s).Inert) (more : List (Move τ)) :
    ∃ since : List (Moment τ υ), (c.play o more).moments = c.moments ++ since ∧
      ((∀ m ∈ since, m.before.network.Proper ∧ m.OnErrand) → Dormant s since) := by
  -- along the run: dormant so far, and as long as nothing has woken it lulled and inert still
  let P (b : Chronicle τ υ) (since : List (Moment τ υ)) : Prop :=
    (∀ m ∈ since, m.before.network.Proper ∧ m.OnErrand) → Dormant s since ∧
      ((∀ m ∈ since, m.act.wakes s = false) → b.Lulled s ∧ (b.shared.network.session s).Inert)
  have hstart : P c [] := fun _ => ⟨fun past m later heq => by simp at heq, fun _ => ⟨hl, hi⟩⟩
  have hask : ∀ {b : Chronicle τ υ} {since : List (Moment τ υ)} (caller : Nat) (r : Request τ),
      b.Orderly → P b since → P (b.ask caller r) since := fun caller r _ hb hfit =>
    ⟨(hb hfit).1, fun hw => ((hb hfit).2 hw).imp_left (lulled_ask caller r)⟩
  suffices ∃ since, (c.play o more).moments = c.moments ++ since ∧ P (c.play o more) since from
    this.imp fun since h => ⟨h.1, fun hfit => (h.2 hfit).1⟩
  refine since_induction o (P := P) ?_ hask hc hstart more
  intro b since member act rest acts d _ hb ha he hfit
  obtain ⟨hpast, hb⟩ := hb fun m hm => hfit m (List.mem_append_left _ hm)
  obtain ⟨hp, hr⟩ := hfit _ (List.mem_append_right _ (List.mem_singleton_self _))
  have hstep (hw : ∀ m ∈ since ++ [⟨member, act, b.shared, d⟩], m.act.wakes s = false) :
      Lulled s (b.note member act d (acts ++ rest)) ∧ (d.network.session s).Inert ∧
        Moment.Spares s ⟨member, act, b.shared, d⟩ := by
    obtain ⟨hl, hi⟩ := hb fun m hm => hw m (List.mem_append_left _ hm)
    have hnew : act.wakes s = false :=
      hw _ (List.mem_append_right _ (List.mem_singleton_self _))
    exact ⟨lulled_note hl ha he hnew, inert_step he hi hp hr hnew
      (hl.agendas member act (ha ▸ List.mem_cons_self))⟩
  refine ⟨fun past m later heq hw => ?_, fun hw => ⟨(hstep hw).1, (hstep hw).2.1⟩⟩
  rcases concat_eq_append_cons heq with ⟨rfl, rfl, rfl⟩ | ⟨later, rfl, rfl⟩
  · exact (hstep hw).2
  · exact hpast past m later rfl hw

/-- What stopping all endpoints leaves inert stays inert. While a session is inert and nothing on
its way wakes it, no relation and no flag appears in it, no activity, and no listener is to hear of
it, until somebody asks for something that starts something there. Everything else may happen in
between, in any order: reports of the radios to any session and about any endpoint, operations of
any client, listening switched off, a shutdown, changes to how the transport answers. -/
theorem inert_until_woken (o : Outside τ υ) (clients : List (SessionName × UInt64))
    (farewells : List (SessionName × EndpointId)) (outside : υ) (callers : Nat)
    (moves more : List (Move τ)) (s : SessionName) :
    (∀ n, ((((Operation.stopAllEndpoints : Operation Listener).body s).run n).2.1.session
      s).Inert) ∧
    let c := (start (opening clients farewells) outside callers).play o moves
    let during := (c.play o more).moments.drop c.moments.length
    (c.shared.network.session s).Inert → c.Lulled s → Dormant s during := by
  refine ⟨Operation.inert_stopAllEndpoints s, fun hi hl => ?_⟩
  let c := (start (opening clients farewells) outside callers).play o moves
  have hall : c.play o more =
      (start (opening clients farewells) outside callers).play o (moves ++ more) :=
    (play_append ..).symm
  have hc : c.Orderly := orderly_play o (orderly_start _ farewells outside callers) moves
  obtain ⟨since, hsince, hdormant⟩ := dormant_since o hc hl hi more
  have hduring : (c.play o more).moments.drop c.moments.length = since := by
    rw [hsince, List.drop_left]
  rw [hduring]
  refine hdormant fun m hm => ?_
  have hmem : m ∈ (c.play o more).moments := by
    rw [hsince]
    exact List.mem_append_right _ hm
  rw [hall] at hmem
  exact ⟨proper_play o clients farewells outside callers (moves ++ more) m hmem,
    (reporting_play o _ outside callers (moves ++ more)).moments m hmem⟩

open Sample in
/-- After all endpoints have been stopped, late reports about an endpoint that was known, a request
of one that was not, and the acceptance of both find nothing. -/
theorem stopped_dormant :
    let c := run ([.ask 0 (.hook (.session "A" (.startedAdvertising "svc" {}))),
      .ask 0 (.hook (.session "A" (.incoming ⟨"EP01"⟩ [])))] ++ turns 1 3 ++
        submitting stopAll ++ turns 0 29)
    let during := (c.play silent ([.ask 0 (.hook (.session "A" (.connectionAccepted ⟨"EP01"⟩))),
      .ask 0 (.hook (.session "A" (.incoming ⟨"EP02"⟩ []))),
      .ask 0 (.hook (.session "A" (.disconnected ⟨"EP01"⟩)))] ++ turns 1 3 ++
        submitting ⟨"A", .acceptConnection ⟨"EP02"⟩ {}, ()⟩ ++ turns 0 13)).moments.drop
          c.moments.length
    (∀ m ∈ during, m.act.wakes "A" = false) ∧ Dormant "A" during := by
  let moves : List (Move Unit) :=
    [.ask 0 (.hook (.session "A" (.startedAdvertising "svc" {}))),
      .ask 0 (.hook (.session "A" (.incoming ⟨"EP01"⟩ [])))] ++ turns 1 3 ++
        submitting stopAll ++ turns 0 29
  have hi : ((run moves).shared.network.session "A").Inert := by
    rw [show (run moves).shared.network.session "A" = .blank 0 [true] by decide +kernel]
    exact Session.inert_blank 0 [true]
  exact ⟨by decide +kernel, (inert_until_woken silent [] [] () 1 moves _ "A").2 hi
    (by decide +kernel)⟩

end Chronicle

end Exchange

end Switchboard
