import Switchboard.Proofs.Consent
import Switchboard.Proofs.Exchange.Inertia
import Switchboard.Proofs.Exchange.Standing

/-!
# Consent along a run

Whether every connection that is connected has the consent of the local side, whether a rejection is
final, and whether every payload of a connected endpoint is heard (`Consensual`). All of this comes
down to the moments at which an endpoint becomes connected (`consensual_iff`): the session takes the
report that both sides have accepted at its word. The exchange itself only reports so once it has
recorded the acceptance, and what it reports holds unless another connection has come in between; a
report of the radios is not checked at all (`connected_unasked`).
-/

namespace Switchboard

variable {τ υ : Type}

/-- Whether an answer to the endpoint is recorded by hand. -/
def Act.answers (s : SessionName) (id : EndpointId) : Act τ → Bool
  | request (.hook (.session k (.localAccepted id' _)))
  | request (.hook (.session k (.localRejected id'))) => k == s && id' == id
  | _ => false

namespace Exchange

namespace Moment

/-- The endpoint becomes connected. -/
def Connects (s : SessionName) (id : EndpointId) (m : Moment τ υ) : Prop :=
  (m.before.network.session s).isConnected id = false ∧
    (m.after.network.session s).isConnected id = true

instance (s : SessionName) (id : EndpointId) (m : Moment τ υ) : Decidable (m.Connects s id) :=
  inferInstanceAs (Decidable (_ ∧ _))

/-- The local side rejects a connection that it has not answered before. -/
def Declines (s : SessionName) (id : EndpointId) (m : Moment τ υ) : Prop :=
  m.act.Conveys s (.localRejected id) ∧ (m.before.network.session s).isRelated id = true ∧
    (m.before.network.session s).hasResponded id = false

/-- Whoever is inside to accept the endpoint reports it connected, after the connection has ended or
another has begun since it entered. -/
def Overtaken (s : SessionName) (id : EndpointId) (past : List (Moment τ υ)) (m : Moment τ υ) :
    Prop :=
  ∃ t l plan held since, m.act = .inside (.operation t) plan held ∧ t.session = s ∧
    t.operation = .acceptConnection id l ∧
    Underway past m.member (.operation t) plan m.before.network since ∧
    ∃ x ∈ since, x.act.isInside = false ∧ x.Renews s id

end Moment

/-- Every connected endpoint has been accepted by the local side, none that it has rejected becomes
connected, and every payload from a connected endpoint has somebody to hear of it. -/
structure Consensual (s : SessionName) (id : EndpointId) (moments : List (Moment τ υ)) : Prop where
  accepted : ∀ m ∈ moments, (m.after.network.session s).isConnected id = true →
    (m.after.network.session s).hasAccepted id = true
  final : ∀ past a mid m later, moments = past ++ a :: (mid ++ m :: later) → a.Declines s id →
    (∀ x ∈ mid, ¬ x.Renews s id) → ¬ m.Connects s id
  heard : ∀ m ∈ moments, ∀ p, m.act.Conveys s (.payloadReceived id p) →
    (m.before.network.session s).isConnected id = true →
    ∃ l, .payload l (.received id p) ∈ m.act.emissions m.before.network

/-! ## One moment -/

section Moment

variable {o : Outside τ υ} {s : SessionName} {id : EndpointId} {m : Moment τ υ}

theorem Moment.renews_of_conveys {h : SessionHook Listener} (ha : m.act.Conveys s h)
    (hr : (m.before.network.session s).Renews id h) : m.Renews s id := by
  rcases hr with rfl | ⟨l, e, ht, he | ⟨info, rfl⟩⟩
  · exact .inl ha
  · exact .inr ⟨l, .inl ⟨e, he, h, ha, ht⟩⟩
  · exact .inr ⟨l, .inr ⟨info, h, ha, ht⟩⟩

theorem emissions_of_conveys {a : Act τ} {h : SessionHook Listener} (ha : a.Conveys s h)
    (n : Network) : a.emissions n = (h.apply (n.session s)).2 := by
  rcases ha with rfl | ⟨e, next, held, rfl⟩ <;> rfl

theorem undecided_moment (hm : m.Lawful o) (hu : (m.before.network.session s).Undecided id) :
    (m.after.network.session s).Undecided id := by
  rcases hm.conveyed s with heq | ⟨h, -, heq⟩
  · unfold Session.Undecided
    rwa [heq]
  · exact heq ▸ Session.undecided_apply h hu

/-- An acceptance lasts as long as the connection. -/
theorem accepted_moment (hm : m.Lawful o)
    (ha : (m.before.network.session s).hasAccepted id = true) :
    (m.after.network.session s).hasAccepted id = true ∨
      m.Renews s id ∧ (m.after.network.session s).isConnected id = false := by
  rcases hm.conveyed s with heq | ⟨h, hconv, heq⟩
  · rw [Session.hasAccepted, heq]
    exact .inl ha
  · rw [heq]
    exact (Session.hasAccepted_apply ha).imp_right fun hr => ⟨m.renews_of_conveys hconv hr.1, hr.2⟩

/-- The connection is not there, or has been accepted. -/
def Granted (s : SessionName) (id : EndpointId) (n : Network) : Prop :=
  (n.session s).connections.get? id = none ∨ (n.session s).hasAccepted id = true

theorem granted_moment (hm : m.Lawful o) (hn : ¬ m.Renews s id)
    (hg : Granted s id m.before.network) : Granted s id m.after.network := by
  rcases hg with hnone | ha
  · rcases hm.conveyed s with heq | ⟨h, hconv, heq⟩
    · exact .inl (heq ▸ hnone)
    · rcases Session.absent_apply (h := h) hnone with hnone | hr
      · exact .inl (heq ▸ hnone)
      · exact absurd (m.renews_of_conveys hconv hr) hn
  · exact .inr ((accepted_moment hm ha).resolve_right fun hr => hn hr.1)

/-- As long as nobody answers by hand, nobody outside the transport answers. -/
theorem unanswered_moment (hm : m.Lawful o) (hr : m.OnErrand) (hi : m.act.isInside = false)
    (hn : m.act.answers s id = false)
    (hs : (m.before.network.session s).hasResponded id = false) :
    (m.after.network.session s).hasResponded id = false := by
  rcases hm.reported hr s with heq | ⟨h, -, heq, hout | ⟨_, _, _, hin, _⟩⟩
  · rwa [Session.hasResponded, heq]
  · rw [hout] at hn
    rw [heq]
    refine Session.hasResponded_apply hs (fun l hl => ?_) fun hl => ?_
    all_goals
      subst hl
      simp [Act.answers] at hn
  · rw [hin] at hi
    cases hi

end Moment

/-! ## Whoever is inside to accept -/

section Inside

variable {o : Outside τ υ} {s : SessionName} {id : EndpointId} {m : Moment τ υ}
  {past since : List (Moment τ υ)} {t : Task τ} {l : Listener} {plan : Job Status}
  {held : List Emission}

theorem operation_of_accepted {e : Errand τ} (hr : e.Reports s (.localAccepted id l)) :
    ∃ t, e = .operation t ∧ t.session = s ∧ t.operation = .acceptConnection id l := by
  cases hr with
  | @operation t _ hr =>
    obtain ⟨k, op, back⟩ := t
    cases hr
    exact ⟨_, rfl, rfl, rfl⟩

theorem operation_of_connected {e : Errand τ} (hr : e.Reports s (.connectionAccepted id)) :
    ∃ t l, e = .operation t ∧ t.session = s ∧ t.operation = .acceptConnection id l := by
  cases hr with
  | @operation t _ hr =>
    obtain ⟨k, op, back⟩ := t
    cases hr
    exact ⟨_, _, rfl, rfl, rfl⟩

/-- Whoever is inside to accept an endpoint leaves it rejected if it is. -/
theorem rejected_inside (hm : m.Lawful o) (hact : m.act = .inside (.operation t) plan held)
    (hs : t.session = s) (hop : t.operation = .acceptConnection id l)
    (hu : Underway past m.member (.operation t) plan m.before.network since)
    (hout : ∀ x ∈ since, x.act.isInside = false →
      (x.before.network.session s).hasResponded id = false →
        (x.after.network.session s).hasResponded id = false)
    (hr : (m.before.network.session s).hasRejected id = true) :
    (m.after.network.session s).hasRejected id = true := by
  subst hs
  have hplan : ∀ n, (Errand.operation t).plan.Withstands
      (fun n n' => (n.session t.session).hasResponded id = false →
        (n'.session t.session).hasResponded id = false)
      (fun n r => (n.session t.session).hasRejected id = true →
        (r.1.session t.session).hasRejected id = true) (fun _ _ => True) n := fun n => by
    show (t.operation.body t.session).Withstands _ _ _ n
    rw [hop]
    -- the guard lets only endpoints through that are not answered, and so not rejected
    refine Operation.accept_withstands (J := fun _ => True) l (fun _ h => h) (fun hr h => hr h)
      (fun _ h => h) (fun _ _ => ⟨fun h => h, fun h => h⟩) (fun _ h => h)
      (fun n hn => ⟨fun hrej => ?_, trivial⟩) fun n _ hrej => ?_
    · obtain ⟨c, hc, hd, _⟩ := Session.hasRejected_iff.mp hrej
      exact absurd (Session.hasResponded_iff.mpr ⟨c, hc, hd⟩) (by rw [hn]; decide)
    · rw [show (n.onSession t.session _).1.session t.session = _ from
        Network.session_setSession_self ..]
      exact Session.hasRejected_connectionAccepted hrej
  have hg := hu.guarantees hact (fun _ h => h) (fun h h' hn => h' (h hn)) hplan hout
  rcases hg.change hm with heq | ⟨_, hg⟩
  · rwa [heq]
  · exact hg hr

/-- Whoever is inside to accept an endpoint only reports it connected once it has been accepted, or
has been overtaken. -/
theorem connects_inside (hm : m.Lawful o) (hact : m.act = .inside (.operation t) plan held)
    (hs : t.session = s) (hop : t.operation = .acceptConnection id l)
    (hu : Underway past m.member (.operation t) plan m.before.network since)
    (hout : ∀ x ∈ since, x.act.isInside = false → Granted s id x.before.network →
      Granted s id x.after.network) (hc : m.Connects s id) :
    (m.before.network.session s).hasAccepted id = true := by
  subst hs
  have hplan : ∀ n, (Errand.operation t).plan.Withstands
      (fun n n' => Granted t.session id n → Granted t.session id n')
      (fun n r => (n.session t.session).isConnected id = false →
        (r.1.session t.session).isConnected id = true →
          (n.session t.session).hasAccepted id = true) (fun _ _ => True) n := fun n => by
    show (t.operation.body t.session).Withstands _ _ _ n
    rw [hop]
    -- once the acceptance is recorded the connection is granted, and it stays so
    refine Operation.accept_withstands (U := fun _ => True) (J := Granted t.session id) l
      (fun _ h => h) (fun _ h => h) (fun hr h => hr h)
      (fun _ _ => ⟨fun hn hc => absurd (hn.symm.trans hc) nofun, fun h => h⟩) (fun _ _ => trivial)
      (fun n _ => ⟨fun hn hc => ?_, ?_⟩) fun n hg hn hc => ?_
    · rw [Network.session_setSession_self] at hc
      exact nomatch (Session.connected_apply (h := .localAccepted id l) hn hc).1
    · unfold Granted
      rw [Network.session_setSession_self]
      exact Session.granted_localAccepted _ id l
    · rw [show (n.onSession t.session _).1.session t.session = _ from
        Network.session_setSession_self ..] at hc
      refine hg.resolve_left fun hnone => ?_
      obtain ⟨c, hget, _⟩ := Session.isConnected_iff_get?.mp hc
      rw [Session.get?_connectionAccepted, if_pos rfl, hnone] at hget
      cases hget
  have hg := hu.guarantees hact (fun _ h => h) (fun h h' hn => h' (h hn)) hplan hout
  rcases hg.change hm with heq | ⟨_, hg⟩
  · have hcon := hc.2
    rw [heq, hc.1] at hcon
    cases hcon
  · exact hg hc.1 hc.2

end Inside

/-! ## Runs -/

namespace Chronicle

variable {o : Outside τ υ} {c : Chronicle τ υ} {s : SessionName} {id : EndpointId}
  {past later : List (Moment τ υ)} {m : Moment τ υ}

/-- Nobody answers the endpoint by hand. -/
structure Unprompted (o : Outside τ υ) (s : SessionName) (id : EndpointId)
    (c : Chronicle τ υ) : Prop extends c.Traced o where
  unanswered : ∀ m ∈ c.moments, m.act.answers s id = false

/-- A rejection lasts as long as the connection. -/
theorem rejected_moment (h : c.Unprompted o s id) (hm : m ∈ c.moments) (hn : ¬ m.Renews s id)
    (hr : (m.before.network.session s).hasRejected id = true) :
    (m.after.network.session s).hasRejected id = true := by
  have hlaw := h.lawful m hm
  rcases hlaw.reported (h.errands m hm) s with heq | ⟨hook, hconv, heq, hwho⟩
  · rwa [Session.hasRejected, heq]
  by_cases hook' : ∃ l, hook = .localAccepted id l
  · obtain ⟨l, rfl⟩ := hook'
    rcases hwho with hout | ⟨e, plan, held, hin, hrep⟩
    · have hno := h.unanswered m hm
      rw [hout] at hno
      simp [Act.answers] at hno
    · obtain ⟨t, rfl, hs, hop⟩ := operation_of_accepted hrep
      obtain ⟨past, later, hsplit⟩ := List.append_of_mem hm
      obtain ⟨since, hu⟩ := h.standing.moments past m later hsplit _ _ _ hin
      refine rejected_inside hlaw hin hs hop hu (fun x hx hi => ?_) hr
      have hx := hu.mem hsplit hx
      exact unanswered_moment (h.lawful x hx) (h.errands x hx) hi (h.unanswered x hx)
  · rw [heq]
    rcases Session.hasRejected_apply hr fun l hl => hook' ⟨l, hl⟩ with hr | hr
    · exact hr
    · exact absurd (m.renews_of_conveys hconv hr) hn

/-- Becoming connected takes a report that says so, and leaves the answer as it is. -/
theorem connects_moment (h : c.Unprompted o s id) (heq : c.moments = past ++ m :: later)
    (hc : m.Connects s id) :
    (m.after.network.session s).hasAccepted id = (m.before.network.session s).hasAccepted id ∧
      ((m.before.network.session s).hasAccepted id = true ∨
        m.act = .request (.hook (.session s (.connectionAccepted id))) ∨
        m.Overtaken s id past) := by
  have hm : m ∈ c.moments := by simp [heq]
  have hlaw := h.lawful m hm
  rcases hlaw.reported (h.errands m hm) s with hsame | ⟨hook, -, happ, hwho⟩
  · have hcon := hc.2
    rw [Session.isConnected, Session.relation, hsame] at hcon
    cases hc.1.symm.trans hcon
  have hcon := hc.2
  rw [happ] at hcon
  obtain ⟨rfl, hsame⟩ := Session.connected_apply hc.1 hcon
  refine ⟨happ ▸ hsame, ?_⟩
  rcases hwho with hout | ⟨e, plan, held, hin, hrep⟩
  · exact .inr (.inl hout)
  obtain ⟨t, l, rfl, hs, hop⟩ := operation_of_connected hrep
  obtain ⟨since, hu⟩ := h.standing.moments past m later heq _ _ _ hin
  by_cases hover : ∃ x ∈ since, x.act.isInside = false ∧ x.Renews s id
  · exact .inr (.inr ⟨t, l, plan, held, since, hin, hs, hop, hu, hover⟩)
  · refine .inl (connects_inside hlaw hin hs hop hu (fun x hx hi => ?_) hc)
    exact granted_moment (h.lawful x (hu.mem heq hx)) fun hr => hover ⟨x, hx, hi, hr⟩

/-- As long as an endpoint only becomes connected once it has been accepted, connected endpoints
have been accepted. -/
theorem accepted_of_connected (h : c.Unprompted o s id) {d d' : Desk τ υ}
    (hl : Linked d c.moments d') (hstart : (d.network.session s).isConnected id = false)
    (hcon : ∀ m : Moment τ υ, m ∈ c.moments → m.Connects s id →
      (m.before.network.session s).hasAccepted id = true) :
    ∀ m ∈ c.moments,
      ((m.before.network.session s).isConnected id = true →
        (m.before.network.session s).hasAccepted id = true) ∧
      ((m.after.network.session s).isConnected id = true →
        (m.after.network.session s).hasAccepted id = true) := by
  refine linked_throughout (P := fun d => (d.network.session s).isConnected id = true →
    (d.network.session s).hasAccepted id = true) hl (fun m hm hb ha => ?_)
    fun hc => absurd (hstart.symm.trans hc) nofun
  cases hbefore : (m.before.network.session s).isConnected id with
  | false =>
    obtain ⟨past, later, heq⟩ := List.append_of_mem hm
    rw [(connects_moment h heq ⟨hbefore, ha⟩).1]
    exact hcon m hm ⟨hbefore, ha⟩
  | true =>
    rcases accepted_moment (h.lawful m hm) (hb hbefore) with hacc | ⟨-, hno⟩
    · exact hacc
    · cases hno.symm.trans ha

/-- What the local side has rejected stays rejected. -/
theorem rejected_of_declines (h : c.Unprompted o s id) {a : Moment τ υ} {mid : List (Moment τ υ)}
    {d d' : Desk τ υ} (hl : Linked d c.moments d')
    (heq : c.moments = past ++ a :: (mid ++ m :: later))
    (hu : (a.before.network.session s).Undecided id) (ha : a.Declines s id)
    (hn : ∀ x ∈ mid, ¬ x.Renews s id) : (m.before.network.session s).hasRejected id = true := by
  obtain ⟨hconv, hrel, hno⟩ := ha
  obtain ⟨⟨acts, he⟩, -⟩ := h.lawful a (by simp [heq])
  have hafter : (a.after.network.session s).hasRejected id = true := by
    rw [session_of_conveys he hconv]
    exact Session.hasRejected_localRejected hu hrel hno
  rw [heq] at hl
  refine linked_keeps (P := fun d => (d.network.session s).hasRejected id = true)
    (linked_between hl) (fun x hx => rejected_moment h ?_ (hn x hx)) hafter
  rw [heq]
  simp [hx]

/-- Unless answers are recorded by hand, connections are consensual exactly if every endpoint that
becomes connected has been accepted by then. Two things only are in the way of that: a report from
outside that the endpoint has been accepted, which comes before the local side has accepted it; and
a connection that ends or begins while somebody is inside to accept the endpoint, who then reports
the new one connected. -/
theorem consensual_iff (o : Outside τ υ) (clients : List (SessionName × UInt64))
    (farewells : List (SessionName × EndpointId)) (outside : υ) (callers : Nat)
    (moves : List (Move τ)) (s : SessionName) (id : EndpointId) :
    let moments : List (Moment τ υ) :=
      ((start (opening clients farewells) outside callers).play o moves).moments
    (∀ m ∈ moments, m.act.answers s id = false) →
      (Consensual s id moments ↔
        ∀ m ∈ moments, m.Connects s id → (m.before.network.session s).hasAccepted id = true) ∧
      ∀ past m later, moments = past ++ m :: later → m.Connects s id →
        (m.before.network.session s).hasAccepted id = false →
          m.act = .request (.hook (.session s (.connectionAccepted id))) ∨
            m.Overtaken s id past := by
  intro moments hanswers
  let c := (start (opening clients farewells) outside callers).play o moves
  have h : c.Unprompted o s id := ⟨traced_play o _ farewells outside callers moves, hanswers⟩
  have hl : Linked (start (opening clients farewells) outside callers : Chronicle τ υ).shared
      c.moments c.shared := linked_play o rfl moves
  obtain ⟨i, hi⟩ := session_opening clients farewells s
  have hstart : ((start (opening clients farewells) outside callers :
      Chronicle τ υ).shared.network.session s) = { clientId := i } := hi
  refine ⟨⟨fun hcons m hm hc => ?_, fun hcon => ?_⟩, fun past m later heq hc hno => ?_⟩
  · obtain ⟨past, later, heq⟩ := List.append_of_mem hm
    rw [← (connects_moment h heq hc).1]
    exact hcons.accepted m hm hc.2
  · have hacc := accepted_of_connected h hl (by rw [hstart]; rfl) hcon
    have hund := linked_throughout
      (P := fun d => (d.network.session s).Undecided id) hl
      (fun m hm hu => undecided_moment (h.lawful m hm) hu) (by rw [hstart]; exact nofun)
    refine ⟨fun m hm => (hacc m hm).2, fun past a mid m later heq ha hn hc => ?_,
      fun m hm p hconv hc => ?_⟩
    · have hsplit : c.moments = past ++ a :: (mid ++ m :: later) := heq
      have hrej := rejected_of_declines h hl hsplit (hund a (by simp [hsplit])).1 ha hn
      have hacc := hcon m (show m ∈ c.moments by simp [hsplit]) hc
      rw [Session.not_hasAccepted_of_hasRejected hrej] at hacc
      cases hacc
    · rw [emissions_of_conveys hconv]
      exact Session.payload_heard ((hacc m hm).1 hc) p
  · exact (connects_moment h heq hc).2.resolve_left (by rw [hno]; nofun)

open Sample in
/-- An endpoint that is accepted before it answers itself is connected by consent. -/
theorem accepted_consensual :
    let c := run (knocking ++ submitting accept ++ turns 0 12 ++
      .ask 0 (.hook (.session "A" (.connectionAccepted ⟨"EP01"⟩))) :: turns 1 2)
    (c.shared.network.session "A").isConnected ⟨"EP01"⟩ = true ∧
      Consensual "A" ⟨"EP01"⟩ c.moments :=
  ⟨by decide +kernel, (consensual_iff silent [] [] () 1 (knocking ++ submitting accept ++
    turns 0 12 ++ .ask 0 (.hook (.session "A" (.connectionAccepted ⟨"EP01"⟩))) :: turns 1 2) "A"
    ⟨"EP01"⟩ (by decide +kernel)).1.mpr (by decide +kernel)⟩

open Sample in
/-- An endpoint asks for a connection and answers at once: it is connected although the local side
has not accepted it, and its payload reaches nobody. An endpoint that the local side has rejected,
and that then accepts, is connected as well. -/
theorem connected_unasked :
    let asked := run (submitting advertise ++ turns 0 9 ++
      [.ask 0 (.hook (.session "A" (.incoming ⟨"EP01"⟩ []))),
        .ask 0 (.hook (.session "A" (.remoteResponse ⟨"EP01"⟩ true))),
        .ask 0 (.hook (.session "A" (.payloadReceived ⟨"EP01"⟩ ⟨.chosen 1, .bytes []⟩)))] ++
      turns 1 5)
    let declined := run (submitting advertise ++ turns 0 9 ++
      .ask 0 (.hook (.session "A" (.incoming ⟨"EP01"⟩ []))) :: turns 1 2 ++ submitting reject ++
      turns 0 16 ++ .ask 0 (.hook (.session "A" (.remoteResponse ⟨"EP01"⟩ true))) :: turns 1 2)
    ¬ Consensual "A" ⟨"EP01"⟩ asked.moments ∧
      (asked.shared.network.session "A").isConnected ⟨"EP01"⟩ = true ∧
      (asked.shared.network.session "A").hasResponded ⟨"EP01"⟩ = false ∧
      asked.delivered = [
        .connection {} (.initiated ⟨"EP01"⟩ (Transport.incomingInfo ⟨"EP01"⟩ [])),
        .connection {} (.accepted ⟨"EP01"⟩)] ∧
      declined.completed = [.success, .success] ∧
      (declined.shared.network.session "A").isConnected ⟨"EP01"⟩ = true ∧
      (declined.shared.network.session "A").hasRejected ⟨"EP01"⟩ = true := by
  exact ⟨fun h => absurd h.accepted (by decide +kernel), by decide +kernel, by decide +kernel,
    by decide +kernel, by decide +kernel, by decide +kernel, by decide +kernel⟩

end Chronicle

end Exchange

end Switchboard
