import Switchboard.Proofs.Exchange.Completion
import Switchboard.Proofs.Exchange.Episode
import Switchboard.Proofs.Exchange.Standing
import Switchboard.Proofs.Legality

/-!
# Legal calls along a run

The guard of a body looks at the session before the call is made, and the call is recorded later. As
long as nobody reports to a session by hand while the worker is inside the transport, and nobody but
the transport ends its advertising and discovery, all calls made for it are legal (`calls_legal`):
each finds the session as it is to be, and what an operation has begun has ended again, with the
transport having been told or the listener of the connection, before the same is called for anew.
-/

namespace Switchboard

variable {τ υ : Type}

/-- Whether the act reports something to the session by hand. -/
def Act.meddles (s : SessionName) : Act τ → Bool
  | request (.hook (.session k _)) => k == s
  | _ => false

/-- Whether the act ends an advertising or a discovery of the session by hand. -/
def Act.halts (s : SessionName) : Act τ → Bool
  | request (.hook (.session k h)) => k == s && (h.halts .advertising || h.halts .discovery)
  | _ => false

namespace Exchange

namespace Moment

/-- A call is recorded for the session. -/
def Calls (s : SessionName) (c : Call) (m : Moment τ υ) : Prop :=
  m.after.network.transport.history = m.before.network.transport.history ++ [⟨some s, c⟩]

/-- An operation of the session has succeeded and leaves the transport. -/
def Succeeds (s : SessionName) (op : Operation Listener) (m : Moment τ υ) : Prop :=
  ∃ t held, m.act = .inside (.operation t) (.done .success) held ∧ t.session = s ∧ t.operation = op

end Moment

/-- The history of the transport ends with the first call at the one moment, and with the second at
the other, and these are the calls in between. -/
def Spans (s : SessionName) (first second : Call) (between : List CallRecord)
    (x m : Moment τ υ) : Prop :=
  ∃ calls, x.after.network.transport.history = calls ++ [⟨some s, first⟩] ∧
    m.after.network.transport.history =
      calls ++ ⟨some s, first⟩ :: (between ++ [⟨some s, second⟩])

/-- The calls made for the session are legal. -/
structure Legal (s : SessionName) (moments : List (Moment τ υ)) : Prop where
  /-- Each call finds the session as it is to be. -/
  fits : ∀ m ∈ moments, ∀ c, m.Calls s c → c.Fits (m.before.network.session s)
  /-- What has been started successfully is stopped before it is started again. -/
  restarted : ∀ past x mid m later, moments = past ++ x :: (mid ++ m :: later) →
    ∀ (p : Pursuit) op first second, x.Succeeds s op → op.call? = some first →
      p.starts first = true → m.Calls s second → p.starts second = true →
      ∃ between, Spans s first second between x m ∧ ⟨some s, p.stop⟩ ∈ between
  /-- A connection that has been requested successfully ends before it is requested again. -/
  requested : ∀ past x mid m later, moments = past ++ x :: (mid ++ m :: later) →
    ∀ id info options l options' info', x.Succeeds s (.requestConnection id info options l) →
      m.Calls s (.requestConnection id options' info') →
      (∃ between, Spans s (.requestConnection id options info)
        (.requestConnection id options' info') between x m) ∧
      ∃ y ∈ mid, (y.after.network.session s).isRelated id = false ∧ ∃ l, y.Ends s id l

/-! ## Moments outside -/

section Outside

variable {o : Outside τ υ} {s : SessionName} {m : Moment τ υ}

/-- Whoever is outside and does not meddle with a session leaves it steady. -/
theorem steady_moment (hm : m.Lawful o) (hi : m.act.isInside = false)
    (hn : m.act.meddles s = false) : Steady s m.before.network m.after.network := by
  obtain ⟨k, act, d, d'⟩ := m
  obtain ⟨⟨acts, he⟩, -⟩ := hm
  have he : Effect o k d act d' acts := he
  refine ⟨?_, (sameCalls_step he hi).history⟩
  cases he with
  | submit t =>
    show ((d.network.setSession t.session _).session s).core = _
    rw [Network.session_setSession]
    split
    · next ht =>
      subst ht
      cases t.operation <;> rfl
    · rfl
  | hook h =>
    cases h with
    | transport => rfl
    | session k hook =>
      have hne : k ≠ s := by simpa [Act.meddles] using hn
      exact congrArg _ ((Network.session_setSession ..).trans (if_neg hne))
  | act | look | await | leave => cases hi
  | _ => rfl

theorem not_conveys_of_not_meddles (hi : m.act.isInside = false) (hn : m.act.meddles s = false)
    {h : SessionHook Listener} : ¬ m.act.Conveys s h := by
  rintro (hc | ⟨_, _, _, hc⟩)
  · rw [hc] at hn
    simp [Act.meddles] at hn
  · rw [hc] at hi
    cases hi

/-- Whoever is outside and does not end a pursuit by hand leaves it on. -/
theorem isOn_moment (hm : m.Lawful o) (hi : m.act.isInside = false) (hn : m.act.halts s = false)
    {p : Pursuit} (hp : p.isOn (m.before.network.session s) = true) :
    p.isOn (m.after.network.session s) = true := by
  cases hmed : m.act.meddles s with
  | false => exact (p.isOn_congr (steady_moment hm hi hmed).core).trans hp
  | true =>
    obtain ⟨k, act, d, d'⟩ := m
    obtain ⟨⟨acts, he⟩, -⟩ := hm
    have he : Effect o k d act d' acts := he
    cases he with
    | hook h =>
      cases h with
      | transport => cases hmed
      | session k hook =>
        obtain rfl : k = s := by simpa [Act.meddles] using hmed
        have hh : hook.halts p = false := by cases p <;> simp_all [Act.halts]
        rw [show ((Hook.session k hook).apply d.network).1.session k = _ from
          Network.session_setSession_self ..]
        exact Pursuit.isOn_apply hh hp
    | _ => cases hmed

end Outside

namespace Chronicle

variable {o : Outside τ υ} {c : Chronicle τ υ} {s : SessionName} {id : EndpointId}
  {past later : List (Moment τ υ)} {m : Moment τ υ}

/-- What is so at first and not in the end has changed at one of the moments in between. -/
theorem exists_change {P : Desk τ υ → Prop} {d d' : Desk τ υ} {moments : List (Moment τ υ)}
    (hl : Linked d moments d') (h : P d) (h' : ¬ P d') :
    ∃ y ∈ moments, P y.before ∧ ¬ P y.after := by
  induction moments generalizing d with
  | nil => exact absurd (hl ▸ h) h'
  | cons m ms ih =>
    obtain ⟨rfl, hl⟩ := hl
    by_cases hm : P m.after
    · obtain ⟨y, hy, hc⟩ := ih hl hm
      exact ⟨y, List.mem_cons_of_mem _ hy, hc⟩
    · exact ⟨m, List.mem_cons_self, h, hm⟩

theorem after_of_succeeds {x : Moment τ υ} {op : Operation Listener} (hx : x.Lawful o)
    (hs : x.Succeeds s op) : x.after.network = x.before.network := by
  obtain ⟨k, act, d, d'⟩ := x
  obtain ⟨⟨acts, he⟩, -⟩ := hx
  obtain ⟨t, held, rfl, -⟩ := hs
  have he : Effect o k d _ d' acts := he
  cases he
  rfl

/-- Nobody meddles with the session while the worker is inside the transport, or ends one of its
pursuits. -/
structure Guarded (o : Outside τ υ) (s : SessionName) (c : Chronicle τ υ) : Prop
    extends c.Traced o where
  workers : ∀ m ∈ c.moments, m.act.isWorkers = true → m.member = worker
  apart : ∀ m ∈ c.moments, m.act.meddles s = true → m.before.holder ≠ some worker
  controlled : ∀ m ∈ c.moments, m.act.halts s = false

namespace Guarded

/-- While an operation is under way nobody meddles with the session. -/
theorem not_meddles (h : c.Guarded o s) (hm : m ∈ c.moments) (hw : m.before.holder = some worker) :
    m.act.meddles s = false := by
  cases hmed : m.act.meddles s with
  | false => rfl
  | true => exact absurd hw (h.apart m hm hmed)

/-- Whoever is inside does only what is allowed, and an operation of the session that succeeds has
achieved what it was to begin. -/
theorem inside (h : c.Guarded o s) (hm : m ∈ c.moments) {e : Errand τ} {plan : Job Status}
    {held : List Emission} (hact : m.act = .inside e plan held) :
    Guarantees (Allowed s) e m ∧
      ∀ t, e = .operation t → t.session = s → plan = .done .success →
        t.operation.Achieved s m.before.network := by
  obtain ⟨past, later, heq⟩ := List.append_of_mem hm
  obtain ⟨since, hu⟩ := h.standing.moments past m later heq e plan held hact
  by_cases hop : ∃ t, e = .operation t ∧ t.session = s
  · obtain ⟨t, rfl, rfl⟩ := hop
    -- only the worker is inside on an operation, and then nobody meddles
    have hworker : m.member = worker := h.workers m hm (by rw [hact]; rfl)
    have hr : ∀ x ∈ since, x.act.isInside = false →
        Steady t.session x.before.network x.after.network := fun x hx hi => by
      have hmem := hu.mem heq hx
      exact steady_moment (h.lawful x hmem) hi
        (h.not_meddles hmem (hworker ▸ hu.holding x hx))
    have hplan := t.operation.body_allowed (s := t.session)
    refine ⟨hu.guarantees hact .refl .trans hplan hr, fun t' he _ hdone => ?_⟩
    cases he
    subst hdone
    exact hu.result .refl .trans hplan hr rfl
  · have hforeign : ∀ t, e = .operation t → t.session ≠ s := fun t he hs => hop ⟨t, he, hs⟩
    -- other errands ask nothing of the session, so they need not rely on anything
    refine ⟨hu.guarantees (R := fun _ _ => True) hact (fun _ => trivial) (fun _ _ => trivial)
      (Errand.plan_allowed hforeign) (fun _ _ _ => trivial),
      fun t he hs => absurd hs (hforeign t he)⟩

/-- Whatever is changed inside is allowed. -/
theorem allowed (h : c.Guarded o s) (hm : m ∈ c.moments) (hi : m.act.isInside = true) :
    m.after.network = m.before.network ∨
      ∃ emitted, Allowed s m.before.network (m.after.network, emitted) := by
  obtain ⟨e, plan, held, hact⟩ := Act.eq_inside hi
  exact (h.inside hm hact).1.change (h.lawful m hm)

/-- Every moment makes one call at most, which fits if it is for the session. -/
theorem calls (h : c.Guarded o s) (hm : m ∈ c.moments) :
    m.after.network.transport.history = m.before.network.transport.history ∨
      ∃ r : CallRecord,
        m.after.network.transport.history = m.before.network.transport.history ++ [r] ∧
          (r.session = some s → r.call.Fits (m.before.network.session s)) := by
  cases hi : m.act.isInside with
  | false =>
    obtain ⟨⟨acts, he⟩, -⟩ := h.lawful m hm
    exact .inl (sameCalls_step he hi).history
  | true =>
    rcases h.allowed hm hi with heq | ⟨emitted, hg⟩
    · exact .inl (by rw [heq])
    · exact hg.call

/-- A pursuit only ends in the call that is to end it. -/
theorem halted (h : c.Guarded o s) (hm : m ∈ c.moments) {p : Pursuit}
    (hb : p.isOn (m.before.network.session s) = true)
    (ha : p.isOn (m.after.network.session s) = false) : m.before.network.LastCall s p.stop := by
  cases hi : m.act.isInside with
  | false => cases ha.symm.trans (isOn_moment (h.lawful m hm) hi (h.controlled m hm) hb)
  | true =>
    rcases h.allowed hm hi with heq | ⟨emitted, hg⟩
    · rw [heq, hb] at ha
      cases ha
    · exact hg.halt p hb ha

/-- Only stopping all endpoints resets a session, and it ends every relation first. -/
theorem ends_reset (h : c.Guarded o s) (hm : m ∈ c.moments) {e : Errand τ} {plan : Job Status}
    {held : List Emission} (hin : m.act = .inside e plan held) (hr : e.Reports s .reset)
    {b : Connection} (hb : (m.before.network.session s).connections.get? id = some b)
    (ha : (m.after.network.session s).connections.get? id = none) :
    m.Ends s id b.listener := by
  obtain ⟨t, rfl, rfl, hop⟩ : ∃ t, e = .operation t ∧ t.session = s ∧
      t.operation = .stopAllEndpoints := by
    cases hr with
    | @operation t _ hr =>
      obtain ⟨k, op, back⟩ := t
      cases hr
      exact ⟨_, rfl, rfl, rfl⟩
  have hlaw := h.lawful m hm
  obtain ⟨past, later, heq⟩ := List.append_of_mem hm
  obtain ⟨since, hu⟩ := h.standing.moments past m later heq _ plan held hin
  have hworker : m.member = worker := h.workers m hm (by rw [hin]; rfl)
  have hplan (n : Network) : (Errand.operation t).plan.Withstands
      (Quiet t.session id b.listener) (Dismisses t.session id b.listener)
      (fun _ n' => ¬ (n'.session t.session).Attends id b.listener) n := by
    show (t.operation.body t.session).Withstands _ _ _ n
    rw [hop]
    exact Operation.body_stopAllEndpoints_withstands n
  have hg := hu.guarantees hin .refl .trans hplan fun x hx hi => by
    have hmem := hu.mem heq hx
    refine (h.lawful x hmem).quiet hi fun ⟨_, _, hconv, _⟩ => ?_
    exact not_conveys_of_not_meddles hi (h.not_meddles hmem (hworker ▸ hu.holding x hx)) hconv
  refine (dismissed_of_guarantees hlaw hg ⟨⟨b, hb, rfl⟩, ?_⟩).1
  rintro ⟨c, hc, _⟩
  cases ha.symm.trans hc

/-- A relation only goes with its end. -/
theorem ends (h : c.Guarded o s) (hm : m ∈ c.moments)
    (hb : (m.before.network.session s).isRelated id = true)
    (ha : (m.after.network.session s).isRelated id = false) : ∃ l, m.Ends s id l := by
  have hlaw := h.lawful m hm
  obtain ⟨b, hget, hrel⟩ := Session.isRelated_iff.mp hb
  have hkept {c : Connection}
      (hc : (m.after.network.session s).connections.get? id = some c)
      (hr : c.relation ≠ .none) : False := by
    rw [Session.isRelated_iff.mpr ⟨c, hc, hr⟩] at ha
    cases ha
  rcases hlaw.reported (h.errands m hm) s with heq | ⟨hook, hconv, happ, hwho⟩
  · exact (hkept (heq ▸ hget) hrel).elim
  have ht := Session.turn_apply hook (m.before.network.session s) id
  rw [← happ] at ht
  generalize hafter : (m.after.network.session s).connections.get? id = a at ht
  cases ht with
  | opened =>
    refine (hkept hafter ?_).elim
    simp only
    split <;> simp
  | taken _ hc | declined hc =>
    cases hget.symm.trans hc
    exact (hkept hafter hrel).elim
  | accepted => exact (hkept hafter (by simp)).elim
  | idle => exact (hkept (hafter.trans hget) hrel).elim
  | ended he _ told =>
    exact ⟨_, _, he, hook, hconv, by rw [told]; exact List.mem_singleton_self _⟩
  | reset =>
    rcases hwho with hout | ⟨e, plan, held, hin, hrep⟩
    · have hno := h.controlled m hm
      rw [hout] at hno
      simp [Act.halts, SessionHook.halts] at hno
    · exact ⟨_, h.ends_reset hm hin hrep hget hafter⟩

/-- The history of the transport only grows. -/
theorem grows (h : c.Guarded o s) {d d' : Desk τ υ} {moments : List (Moment τ υ)}
    (hl : Linked d moments d') (hsub : ∀ m ∈ moments, m ∈ c.moments) :
    ∃ new, d'.network.transport.history = d.network.transport.history ++ new := by
  induction moments generalizing d with
  | nil =>
    cases hl
    exact ⟨[], (List.append_nil _).symm⟩
  | cons m ms ih =>
    obtain ⟨rfl, hl⟩ := hl
    obtain ⟨new, hnew⟩ := ih hl fun x hx => hsub x (List.mem_cons_of_mem _ hx)
    rcases h.calls (hsub m List.mem_cons_self) with heq | ⟨r, heq, -⟩
    · exact ⟨new, by rw [hnew, heq]⟩
    · exact ⟨r :: new, by rw [hnew, heq, List.append_assoc]; rfl⟩

/-- All that is called for between two calls is in the history, in between. -/
theorem spans (h : c.Guarded o s) {x : Moment τ υ} {mid : List (Moment τ υ)} {d d' : Desk τ υ}
    (hl : Linked d c.moments d') (heq : c.moments = past ++ x :: (mid ++ m :: later))
    {first second : Call} (hx : x.after.network.LastCall s first) (hm : m.Calls s second) :
    ∃ between, Spans s first second between x m ∧
      ∀ y ∈ mid, ∀ call, y.before.network.LastCall s call → call ≠ first →
        ⟨some s, call⟩ ∈ between := by
  have hsub : ∀ y ∈ mid, y ∈ c.moments := fun y hy => by rw [heq]; simp [hy]
  rw [heq] at hl
  have hmid := linked_between hl
  obtain ⟨between, hbetween⟩ := h.grows hmid hsub
  obtain ⟨calls, hcalls⟩ := List.getLast?_eq_some_iff.mp hx
  refine ⟨between, ⟨calls, hcalls, ?_⟩, fun y hy call hlast hne => ?_⟩
  · rw [hm, hbetween, hcalls]
    simp
  -- up to `y` the history has grown by `new`, which ends with the call unless it is empty
  obtain ⟨pre, post, rfl⟩ := List.append_of_mem hy
  obtain ⟨_, hpre, rfl, hpost⟩ := linked_append.mp hmid
  obtain ⟨new, hnew⟩ := h.grows hpre fun z hz => hsub z (List.mem_append_left _ hz)
  have hlater : Linked y.before (y :: post) m.before := ⟨rfl, hpost⟩
  obtain ⟨more, hmore⟩ := h.grows hlater fun z hz => hsub z (List.mem_append_right _ hz)
  have hsplit : between = new ++ more := by
    rw [hmore, hnew, List.append_assoc] at hbetween
    exact (List.append_cancel_left hbetween).symm
  rw [Network.LastCall, hnew, List.getLast?_append, hx] at hlast
  cases hend : new.getLast? with
  | none =>
    rw [hend] at hlast
    cases hlast
    exact absurd rfl hne
  | some r =>
    rw [hend] at hlast
    cases hlast
    exact hsplit ▸ List.mem_append_left _ (List.mem_of_getLast? hend)

theorem achieved (h : c.Guarded o s) {x : Moment τ υ} (hx : x ∈ c.moments)
    {op : Operation Listener} (hs : x.Succeeds s op) : op.Achieved s x.after.network := by
  rw [after_of_succeeds (h.lawful x hx) hs]
  obtain ⟨t, held, hact, hts, rfl⟩ := hs
  exact (h.inside hx hact).2 t rfl hts rfl

theorem fits (h : c.Guarded o s) (hm : m ∈ c.moments) {call : Call} (hc : m.Calls s call) :
    call.Fits (m.before.network.session s) := by
  rw [Moment.Calls] at hc
  rcases h.calls hm with heq | ⟨r, heq, hfits⟩
  · rw [heq] at hc
    simp at hc
  · rw [heq] at hc
    cases List.append_cancel_left hc
    exact hfits rfl

theorem legal (h : c.Guarded o s) {d d' : Desk τ υ} (hl : Linked d c.moments d') :
    Legal s c.moments where
  fits m hm call hc := h.fits hm hc
  restarted past x mid m later heq p op first second hx hop hfirst hm hsecond := by
    have hmem : x ∈ c.moments ∧ m ∈ c.moments ∧ ∀ y ∈ mid, y ∈ c.moments := by
      rw [heq]
      exact ⟨by simp, by simp, fun y hy => by simp [hy]⟩
    obtain ⟨hon, hlast⟩ := Pursuit.of_achieved hop hfirst (h.achieved hmem.1 hx)
    obtain ⟨between, hspans, hbetween⟩ := h.spans hl heq hlast hm
    have hoff := Pursuit.isOn_of_fits hsecond (h.fits hmem.2.1 hm)
    rw [heq] at hl
    obtain ⟨y, hy, hb, ha⟩ := exists_change (P := fun d => p.isOn (d.network.session s) = true)
      (linked_between hl) hon (by rw [hoff]; nofun)
    have hstop := h.halted (hmem.2.2 y hy) hb (by simpa using ha)
    exact ⟨between, hspans, hbetween y hy _ hstop (Pursuit.stop_ne hfirst)⟩
  requested past x mid m later heq id info options l options' info' hx hm := by
    have hmem : x ∈ c.moments ∧ m ∈ c.moments ∧ ∀ y ∈ mid, y ∈ c.moments := by
      rw [heq]
      exact ⟨by simp, by simp, fun y hy => by simp [hy]⟩
    obtain ⟨hrel, hlast⟩ := h.achieved hmem.1 hx
    obtain ⟨between, hspans, -⟩ := h.spans hl heq hlast hm
    have hunrel : (m.before.network.session s).isRelated id = false := h.fits hmem.2.1 hm
    rw [heq] at hl
    obtain ⟨y, hy, hb, ha⟩ := exists_change
      (P := fun d => (d.network.session s).isRelated id = true) (linked_between hl) hrel
      (by rw [hunrel]; nofun)
    have hgone : (y.after.network.session s).isRelated id = false := by simpa using ha
    exact ⟨⟨between, hspans⟩, y, hy, hgone, h.ends (hmem.2.2 y hy) hb hgone⟩

end Guarded

/-- As long as nobody reports to the session by hand while the worker is inside the transport, and
nobody ends its advertising or its discovery by hand or resets it, all calls made for it are legal:
whatever the clients ask for, however the transport is set to answer, and in whatever order steps
are taken. -/
theorem calls_legal (o : Outside τ υ) (clients : List (SessionName × UInt64))
    (farewells : List (SessionName × EndpointId)) (outside : υ) (callers : Nat)
    (moves : List (Move τ)) (s : SessionName) :
    let moments := ((start (opening clients farewells) outside callers).play o moves).moments
    (∀ m ∈ moments, m.act.meddles s = true → m.before.holder ≠ some worker) →
      (∀ m ∈ moments, m.act.halts s = false) → Legal s moments := by
  intro moments hapart hcontrolled
  have hworkers : ∀ m ∈ moments, m.act.isWorkers = true → m.member = worker := by
    refine forall_moments o (P := Manned) (fun {c member act rest acts d} h ha he => ?_)
      (fun caller r h => manned_ask caller r h) (manned_start _ outside callers) rfl moves
    refine ⟨manned_note h ha (execute_effect he), fun hw => ?_⟩
    by_cases hm : member = worker
    · exact hm
    · rw [h.callers member hm act (ha ▸ List.mem_cons_self)] at hw
      cases hw
  exact Guarded.legal (o := o)
    ⟨traced_play o _ farewells outside callers moves, hworkers, hapart, hcontrolled⟩
    (linked_play o rfl moves)

open Sample in
/-- Advertising is stopped and started again, and an endpoint that has disconnected is requested
again. -/
theorem restarted_legal :
    let stopped : Task Unit := ⟨"A", .stopAdvertising, ()⟩
    let moves := submitting advertise ++ turns 0 13 ++ submitting stopped ++ turns 0 13 ++
      submitting advertise ++ turns 0 13 ++ submitting request ++ turns 0 16 ++
      .ask 0 (.hook (.session "A" (.disconnected ⟨"EP01"⟩))) :: turns 1 2 ++ submitting request ++
      turns 0 16
    (run moves).completed = [.success, .success, .success, .success, .success] ∧
      (run moves).transport.history = [⟨some "A", .startAdvertising "svc" {} []⟩,
        ⟨some "A", .stopAdvertising⟩, ⟨some "A", .startAdvertising "svc" {} []⟩,
        ⟨some "A", .requestConnection ⟨"EP01"⟩ {} []⟩,
        ⟨some "A", .requestConnection ⟨"EP01"⟩ {} []⟩] ∧
      Legal "A" (run moves).moments := by
  intro stopped moves
  exact ⟨by decide +kernel, by decide +kernel,
    calls_legal silent [] [] () 1 moves "A" (by decide +kernel) (by decide +kernel)⟩

end Chronicle

end Exchange

end Switchboard
