import Switchboard.Proofs.Session

/-!
# What becomes of a connection

A listener attends to an endpoint from the moment it is told that a connection has been initiated.
A report leaves that as it is, or it begins it, or it ends it; and if it ends it, the listener is
told, unless the whole session is reset or a new connection to the endpoint has another listener
(`fate_apply`).
-/

namespace Switchboard

/-- What tells a listener that its connection to the endpoint is over. -/
def ConnectionEvent.IsEnd (id : EndpointId) (e : ConnectionEvent) : Prop :=
  e = .disconnected id ∨ ∃ status, e = .rejected id status

namespace Session

/-- The session has a connection to the endpoint, of which the listener hears. -/
def Attends (s : Session) (id : EndpointId) (l : Listener) : Prop :=
  ∃ c, s.connections.get? id = some c ∧ c.listener = l

/-- What may become of the connection to an endpoint when a session goes from `s` to `t`. The
listeners are told what `tells` says, and `resets` says whether the session is reset. -/
inductive Fate (s t : Session) (id : EndpointId) (tells : Listener → ConnectionEvent → Prop)
    (resets : Prop) : Prop where
  | absent (hs : s.connections.get? id = none) (ht : t.connections.get? id = none)
  /-- A connection that stays does not become less than it was. -/
  | kept (c c' : Connection) (hs : s.connections.get? id = some c)
    (ht : t.connections.get? id = some c') (hl : c'.listener = c.listener)
    (hr : c.relation = .connected → c'.relation = .connected)
  | opened (c : Connection) (ht : t.connections.get? id = some c) (info : ResponseInfo)
    (told : tells c.listener (.initiated id info))
  | ended (c : Connection) (hs : s.connections.get? id = some c)
    (ht : t.connections.get? id = none) (e : ConnectionEvent) (he : e.IsEnd id)
    (told : tells c.listener e)
  | reset (h : resets) (ht : t.connections.get? id = none)

variable {s t : Session} {id : EndpointId} {l : Listener}
  {tells tells' : Listener → ConnectionEvent → Prop} {resets resets' : Prop}

theorem Fate.of_eq (h : t.connections.get? id = s.connections.get? id) :
    Fate s t id tells resets := by
  cases hs : s.connections.get? id with
  | none => exact .absent hs (h.trans hs)
  | some c => exact .kept c c hs (h.trans hs) rfl (fun hr => hr)

/-- A change to the connection of one endpoint that keeps its listener. -/
theorem Fate.of_map {id' : EndpointId} {f : Connection → Connection}
    (h : t.connections.get? id =
      if id' = id then (s.connections.get? id').map f else s.connections.get? id)
    (hl : ∀ c, (f c).listener = c.listener)
    (hr : ∀ c, c.relation = .connected → (f c).relation = .connected) :
    Fate s t id tells resets := by
  split at h
  · next he =>
    subst he
    cases hs : s.connections.get? id' with
    | none => exact .absent hs (by rw [h, hs]; rfl)
    | some c => exact .kept c (f c) hs (by rw [h, hs]; rfl) (hl c) (hr c)
  · exact .of_eq h

theorem Fate.imp (h : Fate s t id tells resets) (ht : ∀ l e, tells l e → tells' l e)
    (hr : resets → resets') : Fate s t id tells' resets' := by
  cases h with
  | absent hs ht => exact .absent hs ht
  | kept c c' hs ht hl hc => exact .kept c c' hs ht hl hc
  | opened c hc info told => exact .opened c hc info (ht _ _ told)
  | ended c hs hn e he told => exact .ended c hs hn e he (ht _ _ told)
  | reset h hn => exact .reset (hr h) hn

theorem fate_endConnection (s : Session) (id id' : EndpointId) {e : ConnectionEvent}
    (he : e.IsEnd id') :
    Fate s (s.endConnection id' e).1 id
      (fun l e' => .connection l e' ∈ (s.endConnection id' e).2) resets := by
  by_cases h : id' = id
  · subst h
    have hn : (s.endConnection id' e).1.connections.get? id' = none := by
      rw [get?_endConnection, if_pos rfl]
    cases hs : s.connections.get? id' with
    | none => exact .absent hs hn
    | some c =>
      refine .ended c hs hn e he ?_
      simp only [endConnection, hs, List.mem_singleton]
  · exact .of_eq (by rw [get?_endConnection, if_neg h])

/-- What becomes of a connection when something is reported. -/
theorem fate_apply (h : SessionHook Listener) (s : Session) (id : EndpointId) :
    Fate s (h.apply s).1 id (fun l e => .connection l e ∈ (h.apply s).2) (h = .reset) := by
  cases h with
  | connectionInitiated id' info l =>
    simp only [SessionHook.apply, connectionInitiated]
    split
    · exact .of_eq rfl
    · next l' _ =>
      by_cases he : id' = id
      · subst he
        exact .opened _ (Directory.get?_insert_self ..) info (List.mem_singleton.mpr rfl)
      · exact .of_eq (Directory.get?_insert_of_ne _ he _)
  | connectionRejected id' status => exact fate_endConnection s id id' (.inr ⟨status, rfl⟩)
  | disconnected id' => exact fate_endConnection s id id' (.inl rfl)
  | reset => exact .reset rfl rfl
  | localAccepted id' l =>
    exact .of_map (get?_localAccepted s id' id l) (fun _ => rfl) fun _ hc => hc
  | localRejected id' => exact .of_map (get?_localRejected s id' id) (fun _ => rfl) fun _ hc => hc
  | connectionAccepted id' =>
    exact .of_map (get?_connectionAccepted s id' id) (fun _ => rfl) fun _ _ => rfl
  | _ => exact .of_eq rfl

/-- Whoever is told that a connection has been initiated attends to it. -/
theorem attends_of_initiated {h : SessionHook Listener} {info : ResponseInfo}
    (hm : .connection l (.initiated id info) ∈ (h.apply s).2) : (h.apply s).1.Attends id l := by
  cases h with
  | connectionInitiated id' info' l' =>
    simp only [SessionHook.apply, connectionInitiated] at hm ⊢
    split at hm
    · cases hm
    · cases List.mem_singleton.mp hm
      exact ⟨_, Directory.get?_insert_self .., rfl⟩
  | endpointFound | endpointLost | distanceChanged =>
    simp only [SessionHook.apply, endpointFound, endpointLost, distanceChanged, toDiscovery] at hm
    split at hm <;> simp [Emission.connection, Emission.discovery] at hm
  | connectionAccepted id' =>
    simp only [SessionHook.apply, connectionAccepted] at hm
    split at hm <;> simp [Emission.connection] at hm
  | connectionRejected | disconnected =>
    simp only [SessionHook.apply, connectionRejected, disconnected, endConnection] at hm
    split at hm <;> simp [Emission.connection] at hm
  | bandwidthChanged =>
    simp only [SessionHook.apply, bandwidthChanged] at hm
    split at hm <;> simp [Emission.connection] at hm
  | payloadReceived | payloadProgress =>
    simp only [SessionHook.apply, payloadReceived, payloadProgress, toPayload] at hm
    split at hm <;> simp [Emission.connection, Emission.payload] at hm
  | _ => cases hm

/-! ## Reading a fate -/

/-- Whoever attends to an endpoint has been told so, or did before. -/
theorem Fate.of_attends (h : Fate s t id tells resets) (ha : t.Attends id l) :
    (∃ info, tells l (.initiated id info)) ∨
      s.Attends id l ∧ (s.isConnected id = true → t.isConnected id = true) := by
  obtain ⟨c', hc', hl⟩ := ha
  cases h with
  | absent _ ht | ended _ _ ht | reset _ ht =>
    rw [ht] at hc'
    cases hc'
  | kept c c'' hs ht hl' hr =>
    cases ht.symm.trans hc'
    refine .inr ⟨⟨c, hs, hl'.symm.trans hl⟩, fun hcon => ?_⟩
    rw [isConnected_iff] at hcon ⊢
    unfold relation at hcon ⊢
    rw [hs] at hcon
    rw [ht]
    exact hr hcon
  | opened c ht info told =>
    cases ht.symm.trans hc'
    exact .inl ⟨info, hl ▸ told⟩

/-- Whoever attends no more has been told, or somebody else has been told of a new connection, or
the session has been reset. -/
theorem Fate.of_not_attends (h : Fate s t id tells resets) (hs : s.Attends id l)
    (ht : ¬ t.Attends id l) : (∃ e : ConnectionEvent, e.IsEnd id ∧ tells l e) ∨ resets ∨
      ∃ l' info, l' ≠ l ∧ tells l' (.initiated id info) := by
  obtain ⟨c, hc, hl⟩ := hs
  cases h with
  | absent hs =>
    rw [hs] at hc
    cases hc
  | kept c₁ c' hs ht' hl' =>
    cases hs.symm.trans hc
    exact absurd ⟨c', ht', hl'.trans hl⟩ ht
  | opened c' ht' info told =>
    exact .inr (.inr ⟨c'.listener, info, fun he => ht ⟨c', ht', he⟩, told⟩)
  | ended c₁ hs _ e he told =>
    cases hs.symm.trans hc
    exact .inl ⟨e, he, hl ▸ told⟩
  | reset hr => exact .inr (.inl hr)

end Session

end Switchboard
