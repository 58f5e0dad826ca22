import Switchboard.Proofs.Hearing

/-!
# Other listeners in the place of the old

A session hands events to its listeners, and that is all it does with them. With other listeners in
the place of the old it still answers every question alike, and the same report changes it in the
same way and emits the same events to the others (`SessionHook.apply_map`).
-/

namespace Switchboard

/-! ## Directories with other values -/

namespace Directory

variable {κ α β : Type} [Ord κ]

def map (f : α → β) (d : Directory κ α) : Directory κ β :=
  ⟨d.entries.map fun e => (e.1, f e.2), List.pairwise_map.mpr d.ascending⟩

theorem keysWhere_map (f : α → β) (d : Directory κ α) (p : β → Bool) :
    (d.map f).keysWhere p = d.keysWhere fun v => p (f v) := by
  unfold keysWhere map
  rw [List.filter_map, List.map_map]
  rfl

variable [DecidableEq κ]

@[simp] theorem get?_map (f : α → β) (d : Directory κ α) (k : κ) :
    (d.map f).get? k = (d.get? k).map f := by
  unfold get? map
  rw [List.find?_map, Option.map_map, Option.map_map]
  rfl

variable [Std.TransOrd κ] [Std.LawfulEqOrd κ]

theorem map_insert (f : α → β) (d : Directory κ α) (k : κ) (v : α) :
    (d.insert k v).map f = (d.map f).insert k (f v) := by
  refine ext_get? fun k' => ?_
  rw [get?_map, get?_insert, get?_insert, get?_map]
  split <;> rfl

theorem map_erase (f : α → β) (d : Directory κ α) (k : κ) :
    (d.erase k).map f = (d.map f).erase k := by
  refine ext_get? fun k' => ?_
  rw [get?_map, get?_erase, get?_erase, get?_map]
  split <;> rfl

theorem map_modify (f : α → β) (d : Directory κ α) (k : κ) {g : α → α} {g' : β → β}
    (h : ∀ v, f (g v) = g' (f v)) : (d.modify k g).map f = (d.map f).modify k g' := by
  unfold modify
  rw [get?_map]
  cases d.get? k with
  | none => rfl
  | some v => exact (map_insert f d k _).trans (congrArg _ (h v))

/-- Nothing changes if no value does. -/
theorem map_eq_self {f : α → α} {d : Directory κ α} (h : ∀ k v, d.get? k = some v → f v = v) :
    d.map f = d := by
  refine ext_get? fun k => ?_
  rw [get?_map]
  cases hk : d.get? k with
  | none => rfl
  | some v => exact congrArg some (h k v hk)

end Directory

/-! ## Sessions with other listeners -/

def Emission.mapListener (f : Listener → Listener) (m : Emission) : Emission :=
  { m with listener := f m.listener }

def Activity.mapListener (f : Listener → Listener) (a : Activity) : Activity :=
  { a with listener := f a.listener }

/-- An activity for which none is replaced stays as it is. -/
theorem Activity.mapListener_eq_self {f : Listener → Listener} {running : Option Activity}
    (h : ∀ a, running = some a → f a.listener = a.listener) :
    running.map (·.mapListener f) = running := by
  cases running with
  | none => rfl
  | some a => exact congrArg (fun l => some { a with listener := l }) (h a rfl)

def Connection.mapListeners (f : Listener → Listener) (c : Connection) : Connection :=
  { c with listener := f c.listener, payloadListener := c.payloadListener.map f }

namespace Session

def mapListeners (f : Listener → Listener) (x : Session) : Session :=
  { x with
    advertising := x.advertising.map (·.mapListener f)
    discovery := x.discovery.map (·.mapListener f)
    listening := x.listening.map (·.mapListener f)
    connections := x.connections.map (·.mapListeners f) }

variable (f : Listener → Listener) (x : Session) (id : EndpointId)

/-- A session that holds no listener for which there is another one stays as it is. -/
theorem mapListeners_eq_self {f : Listener → Listener} {x : Session}
    (h : ∀ l, x.Holds l → f l = l) : x.mapListeners f = x := by
  have hconnection (c : Connection) (hl : f c.listener = c.listener)
      (hp : ∀ l, c.payloadListener = some l → f l = l) : c.mapListeners f = c := by
    obtain ⟨relation, responded, l, _ | p⟩ := c
    · simp only [Connection.mapListeners, hl, Option.map_none]
    · simp only [Connection.mapListeners, hl, Option.map_some, hp p rfl]
  unfold mapListeners
  rw [Activity.mapListener_eq_self fun a ha => h _ (.advertising ha),
    Activity.mapListener_eq_self fun a ha => h _ (.discovery ha),
    Activity.mapListener_eq_self fun a ha => h _ (.listening ha),
    Directory.map_eq_self fun id c hc => hconnection c (h _ (.connection hc (.inl rfl)))
      fun l hl => h l (.connection hc (.inr hl))]

/-! ### Questions -/

@[simp] theorem isAdvertising_mapListeners : (x.mapListeners f).isAdvertising = x.isAdvertising :=
  Option.isSome_map

@[simp] theorem isDiscovering_mapListeners : (x.mapListeners f).isDiscovering = x.isDiscovering :=
  Option.isSome_map

@[simp] theorem isListening_mapListeners : (x.mapListeners f).isListening = x.isListening :=
  Option.isSome_map

@[simp] theorem isCancelled_mapListeners : (x.mapListeners f).isCancelled id = x.isCancelled id :=
  rfl

theorem connection_mapListeners : (x.mapListeners f).connections.get? id =
    (x.connections.get? id).map (·.mapListeners f) := Directory.get?_map ..

@[simp] theorem relation_mapListeners : (x.mapListeners f).relation id = x.relation id := by
  unfold relation
  rw [connection_mapListeners]
  cases x.connections.get? id <;> rfl

@[simp] theorem isConnected_mapListeners :
    (x.mapListeners f).isConnected id = x.isConnected id := by
  unfold isConnected
  rw [relation_mapListeners]

@[simp] theorem isPending_mapListeners : (x.mapListeners f).isPending id = x.isPending id := by
  unfold isPending
  rw [relation_mapListeners]

@[simp] theorem hasResponded_mapListeners :
    (x.mapListeners f).hasResponded id = x.hasResponded id := by
  unfold hasResponded
  rw [connection_mapListeners]
  cases x.connections.get? id <;> rfl

@[simp] theorem pendingEndpoints_mapListeners :
    (x.mapListeners f).pendingEndpoints = x.pendingEndpoints := Directory.keysWhere_map ..

@[simp] theorem connectedEndpoints_mapListeners :
    (x.mapListeners f).connectedEndpoints = x.connectedEndpoints := Directory.keysWhere_map ..

theorem listenerFor_mapListeners (req : Option Listener) :
    (x.mapListeners f).listenerFor (req.map f) = (x.listenerFor req).map f := by
  unfold listenerFor mapListeners
  cases req <;> cases x.advertising <;> cases x.listening <;> rfl

/-! ### Reports -/

theorem toDiscovery_mapListeners (e : DiscoveryEvent) :
    (x.mapListeners f).toDiscovery e = (x.toDiscovery e).map (·.mapListener f) := by
  unfold toDiscovery mapListeners
  cases x.discovery <;> rfl

theorem toPayload_mapListeners (e : PayloadEvent) :
    (x.mapListeners f).toPayload id e = (x.toPayload id e).map (·.mapListener f) := by
  unfold toPayload
  rw [connection_mapListeners]
  rcases x.connections.get? id with _ | ⟨relation, responded, l, _ | l'⟩ <;> rfl

theorem modify_mapListeners {g g' : Connection → Connection}
    (h : ∀ c : Connection, (g c).mapListeners f = g' (c.mapListeners f)) :
    { x.mapListeners f with connections := (x.mapListeners f).connections.modify id g' } =
      Session.mapListeners f { x with connections := x.connections.modify id g } := by
  unfold mapListeners
  rw [Directory.map_modify _ _ _ h]

theorem connectionInitiated_mapListeners (info : ResponseInfo) (req : Option Listener) :
    (x.mapListeners f).connectionInitiated id info (req.map f) =
      ((x.connectionInitiated id info req).1.mapListeners f,
        (x.connectionInitiated id info req).2.map (·.mapListener f)) := by
  unfold connectionInitiated
  rw [listenerFor_mapListeners]
  cases x.listenerFor req with
  | none => rfl
  | some l =>
    refine Prod.ext ?_ rfl
    simp only [Option.map_some, mapListeners, armFlag, Directory.map_insert]
    rfl

theorem connectionAccepted_mapListeners :
    (x.mapListeners f).connectionAccepted id =
      ((x.connectionAccepted id).1.mapListeners f,
        (x.connectionAccepted id).2.map (·.mapListener f)) := by
  unfold connectionAccepted
  rw [connection_mapListeners]
  cases x.connections.get? id with
  | none => rfl
  | some c =>
    refine Prod.ext ?_ rfl
    simp only [Option.map_some, mapListeners, Directory.map_insert]
    rfl

theorem endConnection_mapListeners (e : ConnectionEvent) :
    (x.mapListeners f).endConnection id e =
      ((x.endConnection id e).1.mapListeners f,
        (x.endConnection id e).2.map (·.mapListener f)) := by
  refine Prod.ext ?_ ?_
  · simp only [endConnection, mapListeners, removeFlag, Directory.map_erase]
  · simp only [endConnection, connection_mapListeners]
    cases x.connections.get? id <;> rfl

theorem bandwidthChanged_mapListeners (m : Medium) :
    (x.mapListeners f).bandwidthChanged id m =
      (x.mapListeners f, (x.bandwidthChanged id m).2.map (·.mapListener f)) := by
  unfold bandwidthChanged
  rw [connection_mapListeners]
  cases x.connections.get? id <;> rfl

end Session

/-- A session to which the same is reported with other listeners goes on in the same way, and the
others hear what the old ones would have heard. -/
theorem SessionHook.apply_map (f : Listener → Listener) (h : SessionHook Listener) (x : Session) :
    (h.map f).apply (x.mapListeners f) =
      ((h.apply x).1.mapListeners f, (h.apply x).2.map (·.mapListener f)) := by
  cases h with
  | endpointFound | endpointLost | distanceChanged =>
    exact Prod.ext rfl (Session.toDiscovery_mapListeners f x _)
  | connectionInitiated id info req =>
    exact Session.connectionInitiated_mapListeners f x id info req
  | connectionAccepted id => exact Session.connectionAccepted_mapListeners f x id
  | connectionRejected id | disconnected id => exact Session.endConnection_mapListeners f x id _
  | bandwidthChanged id m => exact Session.bandwidthChanged_mapListeners f x id m
  | payloadReceived id | payloadProgress id =>
    exact Prod.ext rfl (Session.toPayload_mapListeners f x id _)
  | localAccepted id | localRejected id =>
    exact Prod.ext (Session.modify_mapListeners f x id fun _ => rfl) rfl
  | _ => rfl

theorem SessionHook.map_eq_self {f : Listener → Listener} {h : SessionHook Listener}
    (hl : ∀ l, h.listener? = some l → f l = l) : h.map f = h := by
  cases h with
  | startedAdvertising _ l | startedDiscovery _ l | startedListening _ l | localAccepted _ l =>
    simp only [map, hl l rfl]
  | connectionInitiated id info req =>
    cases req with
    | none => rfl
    | some l => simp only [map, Option.map_some, hl l rfl]
  | _ => rfl

/-! ## Networks with other listeners -/

namespace Network

def mapListeners (f : Listener → Listener) (n : Network) : Network :=
  { n with sessions := n.sessions.map (·.mapListeners f) }

variable (f : Listener → Listener) (n : Network)

@[simp] theorem session_mapListeners (s : SessionName) :
    (n.mapListeners f).session s = (n.session s).mapListeners f := by
  unfold session mapListeners
  rw [Directory.get?_map]
  cases n.sessions.get? s <;> rfl

@[simp] theorem transport_mapListeners : (n.mapListeners f).transport = n.transport := rfl

theorem setSession_mapListeners (s : SessionName) (x : Session) :
    (n.setSession s x).mapListeners f = (n.mapListeners f).setSession s (x.mapListeners f) := by
  unfold setSession mapListeners
  rw [Directory.map_insert]

theorem mapListeners_eq_self {f : Listener → Listener} {n : Network}
    (h : ∀ s l, (n.session s).Holds l → f l = l) : n.mapListeners f = n := by
  unfold mapListeners
  rw [Directory.map_eq_self fun s x hx => Session.mapListeners_eq_self fun l hl => h s l ?_]
  unfold session
  rw [hx]
  exact hl

theorem onSession_mapListeners (s : SessionName) (h : SessionHook Listener) :
    (n.mapListeners f).onSession s (fun x => (h.map f).apply x) =
      ((n.onSession s fun x => h.apply x).1.mapListeners f,
        (n.onSession s fun x => h.apply x).2.map (·.mapListener f)) := by
  unfold onSession
  simp only [session_mapListeners, SessionHook.apply_map, setSession_mapListeners]

end Network

def Hook.map (f : Listener → Listener) : Hook → Hook
  | session name h => .session name (h.map f)
  | transport h => .transport h

theorem Hook.apply_map (f : Listener → Listener) (h : Hook) (n : Network) :
    (h.map f).apply (n.mapListeners f) =
      ((h.apply n).1.mapListeners f, (h.apply n).2.map (·.mapListener f)) := by
  cases h with
  | session name h => exact Network.onSession_mapListeners f n name h
  | transport h => rfl

end Switchboard
