import Switchboard.Proofs.Account
import Switchboard.Proofs.Fate

/-!
# Episodes

An episode of an endpoint begins when a listener is told that a connection has been initiated, and
lasts until one is told of its end or of a new connection, or the session is reset. What the session
knows of the endpoint is what the reports of the episode say: its connection has the listener that
was told of the beginning, and the payload listener of the last local acceptance since
(`knows_iff_episode`). So every event reaches the listener of the episode it belongs to
(`events_reach_episode`).
-/

namespace Switchboard

variable {L : Type}

/-- Whether it marks a turn in the course of a connection. -/
def ConnectionEvent.isTurn : ConnectionEvent → Bool
  | bandwidthChanged .. => false
  | _ => true

theorem ConnectionEvent.IsEnd.endpoint {id : EndpointId} {e : ConnectionEvent} (h : e.IsEnd id) :
    e.endpoint = id := by
  rcases h with rfl | ⟨status, rfl⟩ <;> rfl

theorem ConnectionEvent.IsEnd.isTurn {id : EndpointId} {e : ConnectionEvent} (h : e.IsEnd id) :
    e.isTurn = true := by
  rcases h with rfl | ⟨status, rfl⟩ <;> rfl

theorem ConnectionEvent.not_isEnd_initiated {id id' : EndpointId} {info : ResponseInfo} :
    ¬ (initiated id' info).IsEnd id := by
  rintro (h | ⟨_, h⟩) <;> cases h

theorem ConnectionEvent.not_isEnd_accepted {id id' : EndpointId} :
    ¬ (accepted id').IsEnd id := by
  rintro (h | ⟨_, h⟩) <;> cases h

namespace Emission

theorem connection_inj {l l' : Listener} {e e' : ConnectionEvent} :
    connection l e = connection l' e' ↔ l = l' ∧ e = e' := by
  simp [connection]

theorem payload_inj {l l' : Listener} {e e' : PayloadEvent} :
    payload l e = payload l' e' ↔ l = l' ∧ e = e' := by
  simp [payload]

end Emission

/-! ## What is told -/

namespace SessionHook

/-- What the listener of the connection is told. -/
def event? : SessionHook L → Option ConnectionEvent
  | connectionAccepted id => some (.accepted id)
  | connectionRejected id status => some (.rejected id status)
  | disconnected id => some (.disconnected id)
  | bandwidthChanged id m => some (.bandwidthChanged id m)
  | _ => none

/-- What the payload listener of the connection is told. -/
def payloadEvent? : SessionHook L → Option PayloadEvent
  | payloadReceived id p => some (.received id p)
  | payloadProgress id p => some (.progress id p)
  | _ => none

/-- The listener is told that a connection has been initiated, and hears of it from now on. -/
def Initiates (s : Session) (l : Listener) (e : ConnectionEvent) (h : SessionHook Listener) :
    Prop :=
  ∃ id info req, h = .connectionInitiated id info req ∧ e = .initiated id info ∧
    s.listenerFor req = some l

/-- The listener of the connection is told. -/
theorem emitted_of_event {h : SessionHook Listener} {e : ConnectionEvent} (hh : h.event? = some e)
    (s : Session) : (h.apply s).2 =
      ((s.connections.get? e.endpoint).map fun c => .connection c.listener e).toList := by
  cases h with
  | connectionAccepted id =>
    cases hh
    simp only [apply, Session.connectionAccepted, ConnectionEvent.endpoint]
    cases s.connections.get? id <;> rfl
  | connectionRejected id | disconnected id | bandwidthChanged id =>
    cases hh
    simp only [apply, Session.connectionRejected, Session.disconnected, Session.endConnection,
      Session.bandwidthChanged, ConnectionEvent.endpoint]
    cases s.connections.get? id <;> rfl
  | _ => cases hh

/-- The payload listener of the connection is told. -/
theorem emitted_of_payloadEvent {h : SessionHook Listener} {e : PayloadEvent}
    (hh : h.payloadEvent? = some e) (s : Session) : (h.apply s).2 =
      (((s.connections.get? e.endpoint).bind (·.payloadListener)).map (.payload · e)).toList := by
  cases h with
  | payloadReceived id | payloadProgress id =>
    cases hh
    simp only [apply, Session.payloadReceived, Session.payloadProgress, Session.toPayload,
      PayloadEvent.endpoint]
    cases (s.connections.get? id).bind (·.payloadListener) <;> rfl
  | _ => cases hh

/-- Whoever hears of the new connection is told. -/
theorem emitted_of_initiated (s : Session) (id : EndpointId) (info : ResponseInfo)
    (req : Option Listener) : ((connectionInitiated id info req).apply s).2 =
      ((s.listenerFor req).map (.connection · (.initiated id info))).toList := by
  simp only [apply, Session.connectionInitiated]
  cases s.listenerFor req <;> rfl

/-- All else that is emitted concerns payloads or discoveries. -/
theorem emitted_of_none {h : SessionHook Listener} (hc : h.event? = none)
    (hi : ∀ id info req, h ≠ .connectionInitiated id info req) {s : Session} {m : Emission}
    (hm : m ∈ (h.apply s).2) :
    (∃ l e, m = .discovery l e) ∨ ∃ l e, m = .payload l e ∧ h.payloadEvent? = some e := by
  cases h with
  | connectionInitiated id info req => exact absurd rfl (hi id info req)
  | endpointFound | endpointLost | distanceChanged =>
    simp only [apply, Session.endpointFound, Session.endpointLost, Session.distanceChanged,
      Session.toDiscovery] at hm
    split at hm
    · exact .inl ⟨_, _, List.mem_singleton.mp hm⟩
    · cases hm
  | payloadReceived id p | payloadProgress id p =>
    rw [emitted_of_payloadEvent rfl, Option.mem_toList, Option.map_eq_some_iff] at hm
    obtain ⟨l, _, rfl⟩ := hm
    exact .inr ⟨l, _, rfl, rfl⟩
  | connectionAccepted | connectionRejected | disconnected | bandwidthChanged => cases hc
  | _ => cases hm

/-- A connection event goes to whoever hears of the new connection, or to the listener of the
connection there is. -/
theorem connection_mem_apply {h : SessionHook Listener} {s : Session} {l : Listener}
    {e : ConnectionEvent} : .connection l e ∈ (h.apply s).2 ↔
      h.Initiates s l e ∨ h.event? = some e ∧ s.Attends e.endpoint l := by
  by_cases hi : ∃ id info req, h = .connectionInitiated id info req
  · obtain ⟨id, info, req, rfl⟩ := hi
    rw [emitted_of_initiated]
    simp only [Option.mem_toList, Option.map_eq_some_iff, Emission.connection_inj, Initiates,
      event?]
    grind
  rw [or_iff_right fun ⟨id, info, req, hh, _⟩ => hi ⟨id, info, req, hh⟩]
  cases hc : h.event? with
  | some e' =>
    rw [emitted_of_event hc]
    simp only [Option.mem_toList, Option.map_eq_some_iff, Emission.connection_inj,
      Session.Attends, Option.some.injEq]
    grind
  | none =>
    refine iff_of_false (fun hm => ?_) (fun hf => by cases hf.1)
    rcases emitted_of_none hc (fun id info req hh => hi ⟨id, info, req, hh⟩) hm with
      ⟨_, _, he⟩ | ⟨_, _, he, _⟩ <;> cases he

/-- A payload event goes to the payload listener of the connection. -/
theorem payload_mem_apply {h : SessionHook Listener} {s : Session} {l : Listener}
    {e : PayloadEvent} : .payload l e ∈ (h.apply s).2 ↔ h.payloadEvent? = some e ∧
      ∃ c, s.connections.get? e.endpoint = some c ∧ c.payloadListener = some l := by
  cases hp : h.payloadEvent? with
  | some e' =>
    rw [emitted_of_payloadEvent hp]
    simp only [Option.mem_toList, Option.map_eq_some_iff, Emission.payload_inj,
      Option.bind_eq_some_iff, Option.some.injEq]
    grind
  | none =>
    refine iff_of_false (fun hm => ?_) (fun hf => by cases hf.1)
    by_cases hi : ∃ id info req, h = .connectionInitiated id info req
    · obtain ⟨id, info, req, rfl⟩ := hi
      rw [emitted_of_initiated, Option.mem_toList, Option.map_eq_some_iff] at hm
      obtain ⟨_, _, he⟩ := hm
      cases he
    cases hc : h.event? with
    | some e' =>
      rw [emitted_of_event hc, Option.mem_toList, Option.map_eq_some_iff] at hm
      obtain ⟨_, _, he⟩ := hm
      cases he
    | none =>
      rcases emitted_of_none hc (fun id info req hh => hi ⟨id, info, req, hh⟩) hm with
        ⟨_, _, he⟩ | ⟨_, _, _, hp'⟩
      · cases he
      · cases hp.symm.trans hp'

end SessionHook

/-! ## Turns -/

namespace Session

open SessionHook

/-- The report leaves the connection of the endpoint as it is, and nobody is told of a turn. -/
structure Idle (s : Session) (id : EndpointId) (h : SessionHook Listener) : Prop where
  reset : h ≠ .reset
  taken : ∀ l, h = .localAccepted id l → s.connections.get? id = none
  told : ∀ l e, .connection l e ∈ (h.apply s).2 → e.endpoint = id → e.isTurn = false

/-- What a report does to the connection of one endpoint, with what becomes of it. -/
inductive Turn (s : Session) (id : EndpointId) :
    SessionHook Listener → Option Connection → Prop where
  | opened {info : ResponseInfo} {req : Option Listener} {l : Listener}
    (told : (SessionHook.apply s (.connectionInitiated id info req)).2 =
      [.connection l (.initiated id info)]) :
    Turn s id (.connectionInitiated id info req)
      (some {
        relation := if info.incoming then .pendingIncoming else .pendingOutgoing, listener := l })
  | taken {c : Connection} (l : Listener) (hc : s.connections.get? id = some c) :
    Turn s id (.localAccepted id l)
      (some { c with responded := true, payloadListener := some l })
  | declined {c : Connection} (hc : s.connections.get? id = some c) :
    Turn s id (.localRejected id) (some { c with responded := true })
  | accepted {c : Connection} (hc : s.connections.get? id = some c)
    (told : (SessionHook.apply s (.connectionAccepted id)).2 =
      [.connection c.listener (.accepted id)]) :
    Turn s id (.connectionAccepted id) (some { c with relation := .connected })
  | ended {c : Connection} {h : SessionHook Listener} {e : ConnectionEvent} (he : e.IsEnd id)
    (hc : s.connections.get? id = some c) (told : (h.apply s).2 = [.connection c.listener e]) :
    Turn s id h none
  | reset : Turn s id .reset none
  | idle {h : SessionHook Listener} (hi : s.Idle id h) : Turn s id h (s.connections.get? id)

theorem Turn.of_eq {s : Session} {id : EndpointId} {h : SessionHook Listener} (hi : s.Idle id h)
    {c : Option Connection} (hc : c = s.connections.get? id) : Turn s id h c := hc ▸ .idle hi

/-- A report on the connection is idle if it marks no turn, is for another endpoint or finds no
connection. -/
theorem idle_of_event {s : Session} {id : EndpointId} {h : SessionHook Listener}
    {e : ConnectionEvent} (hh : h.event? = some e)
    (he : e.isTurn = true → e.endpoint = id → s.connections.get? id = none) : s.Idle id h where
  reset hr := by cases hr ▸ hh
  taken l hl := by cases hl ▸ hh
  told l e' hm hid := by
    rcases connection_mem_apply.mp hm with ⟨_, _, _, rfl, _⟩ | ⟨hh', c, hc, _⟩
    · cases hh
    · obtain rfl : e = e' := Option.some.inj (hh.symm.trans hh')
      refine Bool.eq_false_iff.mpr fun ht => ?_
      rw [hid, he ht hid] at hc
      cases hc

theorem idle_of_none {s : Session} {id : EndpointId} {h : SessionHook Listener}
    (hh : h.event? = none) (hi : ∀ info req l, h = .connectionInitiated id info req →
      s.listenerFor req ≠ some l)
    (hr : h ≠ .reset) (ht : ∀ l, h = .localAccepted id l → s.connections.get? id = none) :
    s.Idle id h where
  reset := hr
  taken := ht
  told l e hm hid := by
    rcases connection_mem_apply.mp hm with ⟨id', info, req, rfl, rfl, hl⟩ | ⟨hh', _⟩
    · obtain rfl : id' = id := hid
      exact absurd hl (hi info req l rfl)
    · cases hh.symm.trans hh'

theorem turn_endConnection {s : Session} {id id' : EndpointId} {h : SessionHook Listener}
    {e : ConnectionEvent} (hh : h.event? = some e) (he : e.IsEnd id')
    (happ : (h.apply s).1 = (s.endConnection id' e).1) :
    Turn s id h ((h.apply s).1.connections.get? id) := by
  rw [happ, get?_endConnection]
  split
  · next hid =>
    subst hid
    cases hc : s.connections.get? id' with
    | none => exact .of_eq (idle_of_event hh fun _ _ => hc) hc.symm
    | some c =>
      refine .ended he hc ?_
      rw [emitted_of_event hh, he.endpoint, hc]
      rfl
  · next hid =>
    exact .idle (idle_of_event hh fun _ hid' => absurd (he.endpoint.symm.trans hid') hid)

/-- A change to the connection of one endpoint. -/
theorem turn_map {s : Session} {id id' : EndpointId} {h : SessionHook Listener}
    {f : Connection → Connection}
    (happ : (h.apply s).1.connections.get? id =
      if id' = id then (s.connections.get? id').map f else s.connections.get? id)
    (hi : (id' = id → s.connections.get? id = none) → s.Idle id h)
    (ht : id' = id → ∀ c, s.connections.get? id = some c → Turn s id h (some (f c))) :
    Turn s id h ((h.apply s).1.connections.get? id) := by
  rw [happ]
  split
  · next hid =>
    subst hid
    cases hc : s.connections.get? id' with
    | none => exact .of_eq (hi fun _ => hc) hc.symm
    | some c => exact ht rfl c hc
  · next hid => exact .idle (hi fun he => absurd he hid)

theorem turn_apply (h : SessionHook Listener) (s : Session) (id : EndpointId) :
    Turn s id h ((h.apply s).1.connections.get? id) := by
  cases h with
  | connectionInitiated id' info req =>
    simp only [SessionHook.apply, connectionInitiated]
    cases hl : s.listenerFor req with
    | none =>
      refine .idle (idle_of_none rfl ?_ (by simp) (by simp))
      rintro _ _ l ⟨⟩ hl'
      cases hl.symm.trans hl'
    | some l =>
      simp only [Directory.get?_insert]
      split
      · next hid =>
        subst hid
        refine .opened ?_
        rw [emitted_of_initiated, hl]
        rfl
      · next hid =>
        refine .idle (idle_of_none rfl ?_ (by simp) (by simp))
        rintro _ _ _ ⟨⟩
        exact absurd rfl hid
  | localAccepted id' l =>
    refine turn_map (get?_localAccepted s id' id l)
      (fun hn => idle_of_none rfl (by simp) (by simp) ?_) fun hid c hc => ?_
    · rintro _ ⟨⟩
      exact hn rfl
    · exact hid ▸ .taken l (hid ▸ hc)
  | localRejected id' =>
    refine turn_map (get?_localRejected s id' id)
      (fun _ => idle_of_none rfl (by simp) (by simp) (by simp)) fun hid c hc => ?_
    exact hid ▸ .declined (hid ▸ hc)
  | connectionAccepted id' =>
    refine turn_map (get?_connectionAccepted s id' id) (fun hn => idle_of_event rfl fun _ => hn)
      fun hid c hc => ?_
    subst hid
    refine .accepted hc ?_
    rw [emitted_of_event rfl]
    exact congrArg (fun c => (Option.map _ c).toList) hc
  | connectionRejected id' status => exact turn_endConnection rfl (.inr ⟨status, rfl⟩) rfl
  | disconnected id' => exact turn_endConnection rfl (.inl rfl) rfl
  | reset => exact .reset
  | bandwidthChanged => exact .idle (idle_of_event rfl fun ht => by cases ht)
  | _ => exact .idle (idle_of_none rfl (by simp) (by simp) (by simp))

end Session

/-! ## Episodes -/

/-- Something that was reported to a session, with what it emitted. -/
structure Notice where
  hook : SessionHook Listener
  emitted : List Emission

namespace Notice

/-- The listener is told that a connection to the endpoint has been initiated. -/
def Begins (id : EndpointId) (l : Listener) (r : Notice) : Prop :=
  ∃ info, .connection l (.initiated id info) ∈ r.emitted

/-- No episode of the endpoint outlasts it: the session is reset, or somebody is told of the end of
the connection or of a new one. -/
def Breaks (id : EndpointId) (r : Notice) : Prop :=
  r.hook = .reset ∨ ∃ l, r.Begins id l ∨ ∃ e, e.IsEnd id ∧ .connection l e ∈ r.emitted

/-- Who is to have the payloads from now on, if the local side accepts. -/
def payee? (id : EndpointId) (r : Notice) : Option Listener :=
  match r.hook with
  | .localAccepted id' l => if id' = id then some l else none
  | _ => none

theorem payee?_eq_some {id : EndpointId} {r : Notice} {l : Listener} :
    r.payee? id = some l ↔ r.hook = .localAccepted id l := by
  unfold payee?
  split <;> simp_all

end Notice

/-- What came of the reports, one after another. -/
def SessionHook.trace (s : Session) : List (SessionHook Listener) → List Notice
  | [] => []
  | h :: hs => ⟨h, (h.apply s).2⟩ :: trace (h.apply s).1 hs

/-- An episode of the endpoint is under way: the listener was told of its beginning, and `since`
is what has been reported afterwards. -/
def Episode (id : EndpointId) (l : Listener) (trace since : List Notice) : Prop :=
  ∃ before r, trace = before ++ r :: since ∧ r.Begins id l ∧ ∀ r' ∈ since, ¬ r'.Breaks id

/-- Who has the payloads by now: whom the last local acceptance has named. -/
def payee (id : EndpointId) (since : List Notice) : Option Listener :=
  since.reverse.findSome? (·.payee? id)

theorem payee_concat (id : EndpointId) (since : List Notice) (r : Notice) :
    payee id (since ++ [r]) = (r.payee? id).or (payee id since) := by
  unfold payee
  rw [List.reverse_append, List.reverse_singleton, List.singleton_append, List.findSome?_cons]
  cases r.payee? id <;> rfl

section Concat

variable {id : EndpointId} {l : Listener} {trace since : List Notice} {r : Notice}
  {p : Option Listener}

theorem not_episode_nil : ¬ Episode id l [] since := by
  rintro ⟨before, r, h, -⟩
  simp at h

/-- An episode begins with the last report, or it was under way and the report does not break it. -/
theorem episode_concat : Episode id l (trace ++ [r]) since ↔
    since = [] ∧ r.Begins id l ∨
      ∃ since', since = since' ++ [r] ∧ Episode id l trace since' ∧ ¬ r.Breaks id := by
  constructor
  · rintro ⟨before, b, h, hb, hs⟩
    rcases List.eq_nil_or_concat since with rfl | ⟨since', r', rfl⟩
    · obtain ⟨-, h⟩ := List.append_inj' h rfl
      cases h
      exact .inl ⟨rfl, hb⟩
    · rw [List.concat_eq_append] at h hs ⊢
      rw [← List.cons_append, ← List.append_assoc] at h
      obtain ⟨rfl, h⟩ := List.append_inj' h rfl
      obtain rfl : r = r' := by simpa using h
      exact .inr ⟨since', rfl, ⟨before, b, rfl, hb, fun x hx => hs x (List.mem_append_left _ hx)⟩,
        hs r (List.mem_append_right _ List.mem_cons_self)⟩
  · rintro (⟨rfl, hb⟩ | ⟨since', rfl, ⟨before, b, rfl, hb, hs⟩, hr⟩)
    · exact ⟨trace, r, rfl, hb, fun _ hx => absurd hx List.not_mem_nil⟩
    · refine ⟨before, b, by simp, hb, fun x hx => ?_⟩
      rcases List.mem_append.mp hx with hx | hx
      · exact hs x hx
      · exact List.mem_singleton.mp hx ▸ hr

theorem episode_of_breaks (hr : r.Breaks id) :
    (∃ since, Episode id l (trace ++ [r]) since ∧ payee id since = p) ↔
      r.Begins id l ∧ p = none := by
  simp only [episode_concat]
  constructor
  · rintro ⟨_, ⟨rfl, hb⟩ | ⟨_, _, _, hn⟩, rfl⟩
    · exact ⟨hb, rfl⟩
    · exact absurd hr hn
  · rintro ⟨hb, rfl⟩
    exact ⟨[], .inl ⟨rfl, hb⟩, rfl⟩

theorem episode_of_not_breaks (hr : ¬ r.Breaks id) :
    (∃ since, Episode id l (trace ++ [r]) since ∧ payee id since = p) ↔
      ∃ since, Episode id l trace since ∧ (r.payee? id).or (payee id since) = p := by
  simp only [episode_concat]
  constructor
  · rintro ⟨_, ⟨-, hb⟩ | ⟨since, rfl, he, -⟩, hp⟩
    · exact absurd (.inr ⟨l, .inl hb⟩) hr
    · exact ⟨since, he, payee_concat id since r ▸ hp⟩
  · rintro ⟨since, he, hp⟩
    exact ⟨since ++ [r], .inr ⟨since, rfl, he, hr⟩, payee_concat id since r ▸ hp⟩

end Concat

/-! ## What the session knows -/

namespace Session

open SessionHook

variable {s : Session} {id : EndpointId} {h : SessionHook Listener} {trace : List Notice}

/-- The session knows a connection to the endpoint, with these two listeners. -/
def Knows (s : Session) (id : EndpointId) (l : Listener) (p : Option Listener) : Prop :=
  ∃ c, s.connections.get? id = some c ∧ c.listener = l ∧ c.payloadListener = p

/-- Whatever an accepted connection is told breaks no episode. -/
theorem not_breaks (hr : h ≠ .reset) (ht : ∀ l e, .connection l e ∈ (h.apply s).2 →
    e.endpoint = id → e = .accepted id ∨ e.isTurn = false) :
    ¬ Notice.Breaks id ⟨h, (h.apply s).2⟩ := by
  rintro (he | ⟨l, ⟨info, hb⟩ | ⟨e, he, hm⟩⟩)
  · exact hr he
  · rcases ht l _ hb rfl with he | he <;> cases he
  · rcases ht l e hm he.endpoint with rfl | hf
    · exact ConnectionEvent.not_isEnd_accepted he
    · rw [he.isTurn] at hf
      cases hf

/-- What the session knows, it knows from the episode that is under way. -/
theorem knows_concat (ih : ∀ l p, s.Knows id l p ↔
      ∃ since, Episode id l trace since ∧ payee id since = p) (l : Listener) (p : Option Listener) :
    (h.apply s).1.Knows id l p ↔
      ∃ since, Episode id l (trace ++ [⟨h, (h.apply s).2⟩]) since ∧ payee id since = p := by
  have ht := turn_apply h s id
  have kept : ∀ p, (∃ since, Episode id l trace since ∧ (Notice.payee? id ⟨h, (h.apply s).2⟩).or
      (payee id since) = p) ↔
      ∃ q, s.Knows id l q ∧ (Notice.payee? id ⟨h, (h.apply s).2⟩).or q = p := by
    intro p
    simp only [ih]
    grind
  show (∃ c, (h.apply s).1.connections.get? id = some c ∧ _ ∧ _) ↔ _
  generalize (h.apply s).1.connections.get? id = c at ht
  cases ht with
  | @opened info req l' told =>
    rw [told, episode_of_breaks (.inr ⟨l', .inl ⟨info, List.mem_singleton_self _⟩⟩)]
    simp only [Notice.Begins, List.mem_singleton, Emission.connection_inj]
    grind
  | taken l' hc =>
    rw [episode_of_not_breaks (not_breaks (by simp) fun _ _ hm => by cases hm), kept]
    simp [Notice.payee?, Knows, hc]
  | declined hc =>
    rw [episode_of_not_breaks (not_breaks (by simp) fun _ _ hm => by cases hm), kept]
    simp [Notice.payee?, Knows, hc]
  | accepted hc told =>
    rw [episode_of_not_breaks (not_breaks (by simp) fun l e hm _ => ?_), kept]
    · simp [Notice.payee?, Knows, hc]
    · rw [told, List.mem_singleton, Emission.connection_inj] at hm
      exact .inl hm.2
  | @ended c h e he hc told =>
    rw [told, episode_of_breaks (.inr ⟨c.listener, .inr ⟨e, he, List.mem_singleton_self _⟩⟩)]
    refine iff_of_false ?_ ?_
    · rintro ⟨_, hn, _⟩
      cases hn
    · rintro ⟨⟨info, hb⟩, -⟩
      obtain ⟨-, rfl⟩ := Emission.connection_inj.mp (List.mem_singleton.mp hb)
      exact ConnectionEvent.not_isEnd_initiated he
  | reset =>
    rw [episode_of_breaks (.inl rfl)]
    refine iff_of_false ?_ ?_
    · rintro ⟨_, hn, _⟩
      cases hn
    · rintro ⟨⟨_, hb⟩, -⟩
      cases hb
  | idle hi =>
    rw [episode_of_not_breaks (not_breaks hi.reset fun l e hm he => .inr (hi.told l e hm he)), kept]
    cases hp : Notice.payee? id ⟨h, (h.apply s).2⟩ with
    | none => simp [Knows]
    | some l' =>
      have hn := hi.taken l' (Notice.payee?_eq_some.mp hp)
      simp [Knows, hn]

theorem knows_trace {before : List Notice} (ih : ∀ l p, s.Knows id l p ↔
      ∃ since, Episode id l before since ∧ payee id since = p) (past : List (SessionHook Listener))
    (l : Listener) (p : Option Listener) : (applyAll s past).1.Knows id l p ↔
      ∃ since, Episode id l (before ++ SessionHook.trace s past) since ∧ payee id since = p := by
  induction past generalizing s before with
  | nil =>
    rw [SessionHook.trace, List.append_nil]
    exact ih l p
  | cons h past hi =>
    rw [SessionHook.trace, List.append_cons]
    exact hi (knows_concat ih)

/-- A session that began with nothing knows of an endpoint what the episode under way has told. -/
theorem knows_iff_episode (i : UInt64) (past : List (SessionHook Listener)) (id : EndpointId)
    (l : Listener) (p : Option Listener) :
    (applyAll { clientId := i } past).1.Knows id l p ↔
      ∃ since, Episode id l (SessionHook.trace { clientId := i } past) since ∧
        payee id since = p := by
  have hnil : ∀ l p, Knows { clientId := i } id l p ↔
      ∃ since, Episode id l [] since ∧ payee id since = p := fun _ _ =>
    iff_of_false (fun ⟨_, hn, _⟩ => by cases hn) fun ⟨_, he, _⟩ => not_episode_nil he
  exact knows_trace hnil past l p

end Session

/-! ## Who hears of a new connection -/

namespace SessionHook

/-- Who hears of the advertising from now on, if the report settles that. -/
def advertiser? : SessionHook Listener → Option (Option Listener)
  | startedAdvertising _ l => some (some l)
  | stoppedAdvertising | reset => some none
  | _ => none

/-- Who hears of the listening from now on, if the report settles that. -/
def hearer? : SessionHook Listener → Option (Option Listener)
  | startedListening _ l => some (some l)
  | stoppedListening | reset => some none
  | _ => none

/-- The listener that the last report to settle the matter has left, if any. -/
def latest (settles : SessionHook Listener → Option (Option Listener))
    (past : List (SessionHook Listener)) : Option Listener :=
  (past.reverse.findSome? settles).getD none

/-- What each report settles or leaves alone is as the last report to settle it has left it. -/
theorem eq_latest {α : Type} {f : Session → α} {settles : SessionHook Listener → Option α}
    (step : ∀ s h, f (apply s h).1 = (settles h).getD (f s)) (s : Session)
    (past : List (SessionHook Listener)) :
    f (applyAll s past).1 = (past.reverse.findSome? settles).getD (f s) := by
  induction past generalizing s with
  | nil => rfl
  | cons h past ih =>
    show f (applyAll (h.apply s).1 past).1 = _
    rw [ih, step, List.reverse_cons, List.findSome?_append]
    cases past.reverse.findSome? settles <;> cases hs : settles h <;> simp [hs]

/-- Who hears of the advertising and of the listening after one report. -/
theorem activities_apply (s : Session) (h : SessionHook Listener) :
    (h.apply s).1.advertising.map (·.listener) =
        h.advertiser?.getD (s.advertising.map (·.listener)) ∧
      (h.apply s).1.listening.map (·.listener) =
        h.hearer?.getD (s.listening.map (·.listener)) := by
  cases h with
  | connectionInitiated id info req =>
    simp only [apply, Session.connectionInitiated]
    split <;> exact ⟨rfl, rfl⟩
  | connectionAccepted id =>
    simp only [apply, Session.connectionAccepted]
    split <;> exact ⟨rfl, rfl⟩
  | _ => exact ⟨rfl, rfl⟩

theorem advertiser_applyAll (i : UInt64) (past : List (SessionHook Listener)) :
    (applyAll { clientId := i } past).1.advertising.map (·.listener) =
      latest advertiser? past :=
  eq_latest (f := fun s => s.advertising.map (·.listener)) (fun s h => (activities_apply s h).1) _
    past

theorem hearer_applyAll (i : UInt64) (past : List (SessionHook Listener)) :
    (applyAll { clientId := i } past).1.listening.map (·.listener) = latest hearer? past :=
  eq_latest (f := fun s => s.listening.map (·.listener)) (fun s h => (activities_apply s h).2) _
    past

/-- Every event reaches the listener of the episode it belongs to. That a connection has been
initiated is told to the requester's listener, else to that of the advertising under way, else to
that of the listening under way. All else that happens to a connection is told to whoever was told
of its beginning, in the same episode, and what happens to its payloads to whom the last local
acceptance of the same episode has named. Without such a listener there is no event. -/
theorem events_reach_episode (i : UInt64) (past : List (SessionHook Listener))
    (h : SessionHook Listener) :
    let s := (applyAll { clientId := i } past).1
    let past' := trace { clientId := i } past
    (∀ l e, .connection l e ∈ (h.apply s).2 ↔
      (∃ id info req, h = .connectionInitiated id info req ∧ e = .initiated id info ∧
        (req <|> latest advertiser? past <|> latest hearer? past) = some l) ∨
      h.event? = some e ∧ ∃ since, Episode e.endpoint l past' since) ∧
    ∀ l e, .payload l e ∈ (h.apply s).2 ↔
      h.payloadEvent? = some e ∧
        ∃ l' since, Episode e.endpoint l' past' since ∧ payee e.endpoint since = some l := by
  intro s past'
  have hknows : ∀ id l p, s.Knows id l p ↔ ∃ since, Episode id l past' since ∧ payee id since = p :=
    Session.knows_iff_episode i past
  refine ⟨fun l e => ?_, fun l e => ?_⟩
  · have hattends : s.Attends e.endpoint l ↔ ∃ since, Episode e.endpoint l past' since := by
      have hp : s.Attends e.endpoint l ↔ ∃ p, s.Knows e.endpoint l p := by
        simp only [Session.Attends, Session.Knows]
        grind
      rw [hp]
      simp only [hknows]
      grind
    rw [connection_mem_apply, hattends, ← advertiser_applyAll i, ← hearer_applyAll i]
    rfl
  · have hp : (∃ c, s.connections.get? e.endpoint = some c ∧ c.payloadListener = some l) ↔
        ∃ l', s.Knows e.endpoint l' (some l) := by
      simp only [Session.Knows]
      grind
    rw [payload_mem_apply, hp]
    simp only [hknows]

end SessionHook

end Switchboard
