import Switchboard.Proofs.Course
import Switchboard.Proofs.Episode

/-!
# Whom a session reports to

A session reports to the listeners it has been given and to no others: whom it holds after a report
it held before or was given with the report (`holds_apply`), and so did whoever hears of the report
(`holds_of_emitted`).
-/

namespace Switchboard

namespace Session

/-- The session has the listener at hand, for one of its activities or for a connection. -/
inductive Holds (x : Session) (l : Listener) : Prop where
  | advertising {service : String} (h : x.advertising = some ⟨service, l⟩)
  | discovery {service : String} (h : x.discovery = some ⟨service, l⟩)
  | listening {service : String} (h : x.listening = some ⟨service, l⟩)
  | connection {id : EndpointId} {c : Connection} (h : x.connections.get? id = some c)
      (hl : c.listener = l ∨ c.payloadListener = some l)

variable {x y : Session} {l : Listener}

theorem not_holds_new (clientId : UInt64) : ¬ Holds { clientId := clientId } l := by
  intro h
  cases h <;> contradiction

/-- With the same activities a session holds whom it held and who came with a connection. -/
theorem Holds.of_connections {P : Prop} (h : y.Holds l) (hx : x.Holds l → P)
    (ha : y.advertising = x.advertising) (hd : y.discovery = x.discovery)
    (hg : y.listening = x.listening)
    (hc : ∀ id c, y.connections.get? id = some c →
      c.listener = l ∨ c.payloadListener = some l → P) : P := by
  cases h with
  | advertising h => exact hx (.advertising (ha ▸ h))
  | discovery h => exact hx (.discovery (hd ▸ h))
  | listening h => exact hx (.listening (hg ▸ h))
  | connection h hl => exact hc _ _ h hl

theorem holds_of_listenerFor {req : Option Listener} (h : x.listenerFor req = some l) :
    x.Holds l ∨ req = some l := by
  rcases req with _ | r
  · rcases ha : x.advertising with _ | a
    · rcases hg : x.listening with _ | a
      · simp [listenerFor, ha, hg] at h
      · simp only [listenerFor, ha, hg] at h
        cases h
        exact .inl (.listening hg)
    · simp only [listenerFor, ha] at h
      cases h
      exact .inl (.advertising ha)
  · exact .inr h

theorem holds_connectionInitiated {id : EndpointId} {info : ResponseInfo} {req : Option Listener}
    (h : (x.connectionInitiated id info req).1.Holds l) : x.Holds l ∨ req = some l := by
  unfold connectionInitiated at h
  split at h
  · exact .inl h
  · next l' hl' =>
    refine h.of_connections .inl rfl rfl rfl fun id' c hc hl => ?_
    simp only [Directory.get?_insert] at hc
    split at hc
    · cases hc
      rcases hl with rfl | hl
      · exact holds_of_listenerFor hl'
      · cases hl
    · exact .inl (.connection hc hl)

theorem holds_connectionAccepted {id : EndpointId} (h : (x.connectionAccepted id).1.Holds l) :
    x.Holds l := by
  unfold connectionAccepted at h
  split at h
  · exact h
  · next c₀ hc₀ =>
    refine h.of_connections (fun h => h) rfl rfl rfl fun id' c hc hl => ?_
    simp only [Directory.get?_insert] at hc
    split at hc
    · cases hc
      exact .connection hc₀ hl
    · exact .connection hc hl

theorem holds_localAccepted {id : EndpointId} {l' : Listener}
    (h : (x.localAccepted id l').Holds l) : x.Holds l ∨ l' = l := by
  refine h.of_connections .inl rfl rfl rfl fun id' c hc hl => ?_
  rw [get?_localAccepted] at hc
  split at hc
  · obtain ⟨c₀, hc₀, rfl⟩ := Option.map_eq_some_iff.mp hc
    rcases hl with hl | hl
    · exact .inl (.connection hc₀ (.inl hl))
    · exact .inr (Option.some.inj hl)
  · exact .inl (.connection hc hl)

theorem holds_localRejected {id : EndpointId} (h : (x.localRejected id).Holds l) : x.Holds l := by
  refine h.of_connections (fun h => h) rfl rfl rfl fun id' c hc hl => ?_
  rw [get?_localRejected] at hc
  split at hc
  · obtain ⟨c₀, hc₀, rfl⟩ := Option.map_eq_some_iff.mp hc
    exact .connection hc₀ hl
  · exact .connection hc hl

theorem holds_endConnection {id : EndpointId} {e : ConnectionEvent}
    (h : (x.endConnection id e).1.Holds l) : x.Holds l := by
  refine h.of_connections (fun h => h) rfl rfl rfl fun id' c hc hl => ?_
  rw [get?_endConnection] at hc
  split at hc
  · cases hc
  · exact .connection hc hl

end Session

namespace SessionHook

open Session

variable {x : Session} {l : Listener}

/-- Whom a session holds after a report it held before or was given with the report. -/
theorem holds_apply (h : SessionHook Listener) (hl : (h.apply x).1.Holds l) :
    x.Holds l ∨ h.listener? = some l := by
  cases h with
  | startedAdvertising | startedDiscovery | startedListening | stoppedAdvertising
  | stoppedDiscovery | stoppedListening | reset =>
    -- the activity is the one started, or is over, or was there before
    cases hl with
    | advertising h => first | exact .inl (.advertising h) | (cases h; exact .inr rfl) | cases h
    | discovery h => first | exact .inl (.discovery h) | (cases h; exact .inr rfl) | cases h
    | listening h => first | exact .inl (.listening h) | (cases h; exact .inr rfl) | cases h
    | connection h hl => first | exact .inl (.connection h hl) | cases h
  | connectionInitiated => exact holds_connectionInitiated hl
  | connectionAccepted => exact .inl (holds_connectionAccepted hl)
  | connectionRejected | disconnected => exact .inl (holds_endConnection hl)
  | localAccepted => exact (holds_localAccepted hl).imp_right (congrArg some)
  | localRejected => exact .inl (holds_localRejected hl)
  | _ => exact hl.of_connections .inl rfl rfl rfl fun _ _ hc hl => .inl (.connection hc hl)

/-- Whoever hears of a report was held before or was given with the report. -/
theorem holds_of_emitted {h : SessionHook Listener} {m : Emission} (hm : m ∈ (h.apply x).2) :
    x.Holds m.listener ∨ h.listener? = some m.listener := by
  cases h with
  | endpointFound | endpointLost | distanceChanged =>
    replace hm : m ∈ x.toDiscovery _ := hm
    unfold Session.toDiscovery at hm
    split at hm
    · next a ha =>
      rw [List.mem_singleton.mp hm]
      exact .inl (.discovery ha)
    · cases hm
  | connectionInitiated id info req =>
    rw [emitted_of_initiated, Option.mem_toList, Option.map_eq_some_iff] at hm
    obtain ⟨l, hl, rfl⟩ := hm
    exact holds_of_listenerFor hl
  | connectionAccepted | connectionRejected | disconnected | bandwidthChanged =>
    rw [emitted_of_event rfl, Option.mem_toList, Option.map_eq_some_iff] at hm
    obtain ⟨c, hc, rfl⟩ := hm
    exact .inl (.connection hc (.inl rfl))
  | payloadReceived | payloadProgress =>
    rw [emitted_of_payloadEvent rfl, Option.mem_toList, Option.map_eq_some_iff] at hm
    obtain ⟨l, hl, rfl⟩ := hm
    obtain ⟨c, hc, hl⟩ := Option.bind_eq_some_iff.mp hl
    exact .inl (.connection hc (.inr hl))
  | _ => cases hm

theorem holds_applyAll {hs : List (SessionHook Listener)} (hl : (applyAll x hs).1.Holds l) :
    x.Holds l ∨ ∃ h ∈ hs, h.listener? = some l := by
  induction hs generalizing x with
  | nil => exact .inl hl
  | cons h hs ih =>
    rcases ih hl with hl | ⟨k, hk, hl⟩
    · exact (holds_apply h hl).imp_right fun hl => ⟨h, List.mem_cons_self, hl⟩
    · exact .inr ⟨k, List.mem_cons_of_mem _ hk, hl⟩

theorem holds_of_emittedAll {hs : List (SessionHook Listener)} {m : Emission}
    (hm : m ∈ (applyAll x hs).2) :
    x.Holds m.listener ∨ ∃ h ∈ hs, h.listener? = some m.listener := by
  induction hs generalizing x with
  | nil => cases hm
  | cons h hs ih =>
    rcases List.mem_append.mp hm with hm | hm
    · exact (holds_of_emitted hm).imp_right fun hl => ⟨h, List.mem_cons_self, hl⟩
    · rcases ih hm with hl | ⟨k, hk, hl⟩
      · exact (holds_apply h hl).imp_right fun hl => ⟨h, List.mem_cons_self, hl⟩
      · exact .inr ⟨k, List.mem_cons_of_mem _ hk, hl⟩

end SessionHook

end Switchboard
