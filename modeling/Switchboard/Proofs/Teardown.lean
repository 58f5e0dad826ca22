import Switchboard.Proofs.Account

/-!
# Tearing a session down

What stopping all endpoints comes to when nothing happens in between: it ends every relation, each
once and in order, the pending ones first, and leaves the session as if it had been reset
(`teardown_complete`).
-/

namespace Switchboard

namespace Session

/-! ## Connections in order -/

def connectionsWhere (s : Session) (p : Connection → Bool) : List (EndpointId × Connection) :=
  s.connections.entries.filter fun e => p e.2

theorem mem_connectionsWhere {s : Session} {p : Connection → Bool} {e : EndpointId × Connection} :
    e ∈ s.connectionsWhere p ↔ s.connections.get? e.1 = some e.2 ∧ p e.2 = true := by
  unfold connectionsWhere
  rw [List.mem_filter, Directory.mem_entries]

theorem ascending_connectionsWhere (s : Session) (p : Connection → Bool) :
    (s.connectionsWhere p).Pairwise (fun a b => compare a.1 b.1 = .lt) :=
  s.connections.ascending.filter _

/-- Connections of two kinds have no endpoint in common, and of one kind each has its own. -/
theorem nodup_connectionsWhere (s : Session) {p q : Connection → Bool}
    (hpq : ∀ c, p c = true → q c = false) :
    ((s.connectionsWhere p ++ s.connectionsWhere q).map Prod.fst).Nodup := by
  have hone : ∀ p, ((s.connectionsWhere p).map Prod.fst).Nodup := fun p =>
    List.pairwise_map.mpr <| (s.ascending_connectionsWhere p).imp Directory.ne_of_compare_lt
  rw [List.map_append]
  refine List.nodup_append.mpr ⟨hone p, hone q, fun id h id' h' he => ?_⟩
  obtain ⟨e, hm, rfl⟩ := List.mem_map.mp h
  obtain ⟨e', hm', rfl⟩ := List.mem_map.mp h'
  obtain ⟨hc, hp⟩ := mem_connectionsWhere.mp hm
  obtain ⟨hc', hq⟩ := mem_connectionsWhere.mp hm'
  rw [he, hc'] at hc
  rw [Option.some.inj hc, hpq _ hp] at hq
  cases hq

def pendingConnections (s : Session) : List (EndpointId × Connection) :=
  s.connectionsWhere (·.relation ≠ .connected)

def establishedConnections (s : Session) : List (EndpointId × Connection) :=
  s.connectionsWhere (·.relation = .connected)

theorem mem_pendingConnections {s : Session} {e : EndpointId × Connection} :
    e ∈ s.pendingConnections ↔
      s.connections.get? e.1 = some e.2 ∧ e.2.relation ≠ .connected := by
  unfold pendingConnections
  rw [mem_connectionsWhere, decide_eq_true_iff]

theorem mem_establishedConnections {s : Session} {e : EndpointId × Connection} :
    e ∈ s.establishedConnections ↔
      s.connections.get? e.1 = some e.2 ∧ e.2.relation = .connected := by
  unfold establishedConnections
  rw [mem_connectionsWhere, decide_eq_true_iff]

theorem nodup_connections (s : Session) :
    ((s.pendingConnections ++ s.establishedConnections).map Prod.fst).Nodup :=
  s.nodup_connectionsWhere fun c => by simp

/-- Every related endpoint has its connection on one of the two lists. -/
theorem mem_connections_of_isRelated {s : Session} {id : EndpointId} (h : s.isRelated id = true) :
    id ∈ (s.pendingConnections ++ s.establishedConnections).map Prod.fst := by
  obtain ⟨c, hc, _⟩ := isRelated_iff.mp h
  refine List.mem_map.mpr ⟨(id, c), List.mem_append.mpr ?_, rfl⟩
  by_cases hr : c.relation = .connected
  · exact .inr (mem_establishedConnections.mpr ⟨hc, hr⟩)
  · exact .inl (mem_pendingConnections.mpr ⟨hc, hr⟩)

end Session

/-! ## Disconnecting -/

namespace SessionHook

theorem emitted_disconnected {s : Session} {id : EndpointId} {c : Connection}
    (h : s.connections.get? id = some c) :
    (s.disconnected id).2 = [.connection c.listener (.disconnected id)] := by
  unfold Session.disconnected Session.endConnection
  simp only [h]

/-- When endpoints are disconnected one after another, the listener of each hears of it. -/
theorem emitted_disconnectedEach (s : Session) {es : List (EndpointId × Connection)}
    (hn : (es.map Prod.fst).Nodup) (hc : ∀ e ∈ es, s.connections.get? e.1 = some e.2) :
    (applyAll s (es.map fun e => .disconnected e.1)).2 =
      es.map fun e => .connection e.2.listener (.disconnected e.1) := by
  induction es generalizing s with
  | nil => rfl
  | cons e es ih =>
    obtain ⟨hne, hn⟩ := List.nodup_cons.mp hn
    have hrest : ∀ f ∈ es, (s.disconnected e.1).1.connections.get? f.1 = some f.2 := by
      intro f hf
      have hef : e.1 ≠ f.1 := fun he => hne (he ▸ List.mem_map_of_mem hf)
      exact (Session.get?_endConnection ..).trans
        ((if_neg hef).trans (hc f (List.mem_cons_of_mem _ hf)))
    show (s.disconnected e.1).2 ++ (applyAll (s.disconnected e.1).1 _).2 = _
    rw [emitted_disconnected (hc e List.mem_cons_self)]
    exact congrArg (_ ++ ·) (ih (s.disconnected e.1).1 hn hrest)

/-- To reset a session leaves nothing of what has been ended before. -/
theorem reset_disconnectedEach (s : Session) (es : List (EndpointId × Connection)) :
    (applyAll s (es.map fun e => .disconnected e.1)).1.reset = s.reset := by
  induction es generalizing s with
  | nil => rfl
  | cons e es ih => exact (ih (s.disconnected e.1).1).trans rfl

end SessionHook

namespace Operation

/-- Carried out with nothing in between, stopping all endpoints disconnects every connection of the
session, first those that are not connected and then those that are, each group in order. The
listener of each connection hears of it in that order, and nothing else is emitted. Then
advertising, discovery and upgrades are shut down. The session is reset; no other session is
touched. -/
theorem teardown_complete (n : Network) (s : SessionName) :
    ∃ pending connected : List (EndpointId × Connection),
      pending.Pairwise (fun a b => compare a.1 b.1 = .lt) ∧
      connected.Pairwise (fun a b => compare a.1 b.1 = .lt) ∧
      (∀ e, e ∈ pending ↔
        (n.session s).connections.get? e.1 = some e.2 ∧ e.2.relation ≠ .connected) ∧
      (∀ e, e ∈ connected ↔
        (n.session s).connections.get? e.1 = some e.2 ∧ e.2.relation = .connected) ∧
      ((pending ++ connected).map Prod.fst).Nodup ∧
      (∀ id, (n.session s).isRelated id = true → id ∈ (pending ++ connected).map Prod.fst) ∧
      let r := (body s .stopAllEndpoints).run n
      r.1 = .success ∧
      r.2.1.transport.history = n.transport.history ++
        ((pending ++ connected).map (fun e => ⟨some s, .disconnectFromEndpoint e.1⟩) ++
          [⟨some s, .stopAdvertising⟩, ⟨some s, .stopDiscovery⟩, ⟨none, .shutdownUpgrades⟩]) ∧
      r.2.2 = (pending ++ connected).map
        (fun e => .connection e.2.listener (.disconnected e.1)) ∧
      (∀ id, (r.2.1.session s).isRelated id = false ∧ (r.2.1.session s).isFlagged id = false) ∧
      (r.2.1.session s).isAdvertising = false ∧ (r.2.1.session s).isDiscovering = false ∧
      (r.2.1.session s).isListening = false ∧
      r.2.1.session s = (n.session s).reset ∧
      ∀ k, s ≠ k → r.2.1.session k = n.session k := by
  let x := n.session s
  let es := x.pendingConnections ++ x.establishedConnections
  have hids : x.pendingEndpoints ++ x.connectedEndpoints = es.map Prod.fst :=
    (List.map_append ..).symm
  have hreports : (account s x n.transport .stopAllEndpoints).reports =
      es.map (fun e => .disconnected e.1) ++ [.stoppedAdvertising, .stoppedDiscovery, .reset] := by
    simp only [account, hids, List.map_map, Function.comp_def]
  have hcalls : (account s x n.transport .stopAllEndpoints).calls =
      es.map (fun e => ⟨some s, .disconnectFromEndpoint e.1⟩) ++
        [⟨some s, .stopAdvertising⟩, ⟨some s, .stopDiscovery⟩, ⟨none, .shutdownUpgrades⟩] := by
    simp only [account, hids, List.map_map, Function.comp_def]
  have hes : ∀ e ∈ es, x.connections.get? e.1 = some e.2 := fun e he =>
    (List.mem_append.mp he).elim (fun h => (Session.mem_pendingConnections.mp h).1)
      fun h => (Session.mem_establishedConnections.mp h).1
  have hg := body_gives (s := s) (n := n) .stopAllEndpoints
  have hsession : (((body s .stopAllEndpoints).run n).2.1.session s) = x.reset := by
    rw [hg.session, hreports, SessionHook.applyAll_append]
    exact SessionHook.reset_disconnectedEach x es
  refine ⟨x.pendingConnections, x.establishedConnections, x.ascending_connectionsWhere _,
    x.ascending_connectionsWhere _, fun _ => Session.mem_pendingConnections,
    fun _ => Session.mem_establishedConnections, x.nodup_connections,
    fun _ => Session.mem_connections_of_isRelated, hg.result, hcalls ▸ hg.history, ?_, ?_, ?_, ?_,
    ?_, hsession, hg.others⟩
  · rw [hg.emitted, hreports, SessionHook.applyAll_append]
    rw [SessionHook.emitted_disconnectedEach x x.nodup_connections hes]
    exact List.append_nil _
  all_goals rw [hsession]
  · exact fun id => ⟨rfl, rfl⟩
  all_goals rfl

end Operation

end Switchboard
