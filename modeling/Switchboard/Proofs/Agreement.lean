import Switchboard.Proofs.Course
import Switchboard.Proofs.Episode

/-!
# Agreement on one endpoint

Two sessions with the same activities that agree on one endpoint still do so after the same report
on that endpoint, which emits the same in both (`AgreesAt.apply`), and after a report on another
endpoint in one of them only (`AgreesAt.apply_of_ne`), which emits events of that other endpoint
only (`endpoint_of_emitted`).
-/

namespace Switchboard

variable {L : Type}

/-- The endpoint a report is about, if it is about one. -/
def SessionHook.endpoint? : SessionHook L → Option EndpointId
  | endpointFound id .. | endpointLost id | distanceChanged id _ | connectionInitiated id ..
  | localAccepted id _ | localRejected id | connectionAccepted id | connectionRejected id _
  | disconnected id | bandwidthChanged id _ | payloadReceived id _ | payloadProgress id _
  | armFlag id | removeFlag id | cancel id => some id
  | _ => none

namespace Session

/-- The sessions have the same activities, and the same connection and the same flag for the
endpoint. -/
structure AgreesAt (id : EndpointId) (x y : Session) : Prop where
  advertising : x.advertising = y.advertising
  discovery : x.discovery = y.discovery
  listening : x.listening = y.listening
  connection : x.connections.get? id = y.connections.get? id
  flagged : x.isFlagged id = y.isFlagged id
  cancelled : x.isCancelled id = y.isCancelled id

variable {id id' : EndpointId} {x y : Session} {h : SessionHook Listener}

theorem AgreesAt.refl (id : EndpointId) (x : Session) : AgreesAt id x x :=
  ⟨rfl, rfl, rfl, rfl, rfl, rfl⟩

namespace AgreesAt

theorem relation (ha : AgreesAt id x y) : x.relation id = y.relation id := by
  unfold Session.relation
  rw [ha.connection]

theorem isConnected (ha : AgreesAt id x y) : x.isConnected id = y.isConnected id := by
  unfold Session.isConnected
  rw [ha.relation]

theorem isPending (ha : AgreesAt id x y) : x.isPending id = y.isPending id := by
  unfold Session.isPending
  rw [ha.relation]

theorem hasResponded (ha : AgreesAt id x y) : x.hasResponded id = y.hasResponded id := by
  unfold Session.hasResponded
  rw [ha.connection]

theorem listenerFor (ha : AgreesAt id x y) (req : Option Listener) :
    x.listenerFor req = y.listenerFor req := by
  unfold Session.listenerFor
  rw [ha.advertising, ha.listening]

theorem toDiscovery (ha : AgreesAt id x y) (e : DiscoveryEvent) :
    x.toDiscovery e = y.toDiscovery e := by
  unfold Session.toDiscovery
  rw [ha.discovery]

theorem toPayload (ha : AgreesAt id x y) (e : PayloadEvent) :
    x.toPayload id e = y.toPayload id e := by
  unfold Session.toPayload
  rw [ha.connection]

end AgreesAt

/-! ## What a report on one endpoint does -/

/-- A report on an endpoint starts or stops no activity. -/
theorem activities_of_endpoint (hid : h.endpoint? = some id) (x : Session) :
    (h.apply x).1.advertising = x.advertising ∧ (h.apply x).1.discovery = x.discovery ∧
      (h.apply x).1.listening = x.listening := by
  cases h with
  | connectionInitiated id info req =>
    simp only [SessionHook.apply, connectionInitiated]
    split <;> exact ⟨rfl, rfl, rfl⟩
  | connectionAccepted id =>
    simp only [SessionHook.apply, connectionAccepted]
    split <;> exact ⟨rfl, rfl, rfl⟩
  | startedAdvertising | stoppedAdvertising | startedDiscovery | stoppedDiscovery
  | startedListening | stoppedListening | cancelAll | raise | reset => cases hid
  | _ => exact ⟨rfl, rfl, rfl⟩

theorem get?_apply_of_ne (hid : h.endpoint? = some id') (hne : id' ≠ id) (x : Session) :
    (h.apply x).1.connections.get? id = x.connections.get? id := by
  cases h with
  | connectionInitiated id'' info req =>
    cases hid
    simp only [SessionHook.apply, connectionInitiated]
    split
    · rfl
    · exact Directory.get?_insert_of_ne _ hne _
  | localAccepted => cases hid; exact (get?_localAccepted ..).trans (if_neg hne)
  | localRejected => cases hid; exact (get?_localRejected ..).trans (if_neg hne)
  | connectionAccepted => cases hid; exact (get?_connectionAccepted ..).trans (if_neg hne)
  | connectionRejected | disconnected =>
    cases hid
    exact (get?_endConnection ..).trans (if_neg hne)
  | startedAdvertising | stoppedAdvertising | startedDiscovery | stoppedDiscovery
  | startedListening | stoppedListening | cancelAll | raise | reset => cases hid
  | _ => rfl

theorem isFlagged_apply_of_ne (hid : h.endpoint? = some id') (hne : id' ≠ id) (x : Session) :
    (h.apply x).1.isFlagged id = x.isFlagged id := by
  cases h with
  | connectionInitiated id'' info req =>
    cases hid
    simp only [SessionHook.apply, connectionInitiated]
    split
    · rfl
    · exact (isFlagged_armFlag x id' id).trans (by simp [hne])
  | connectionAccepted id'' =>
    simp only [SessionHook.apply, connectionAccepted]
    split <;> rfl
  | connectionRejected | disconnected | removeFlag =>
    cases hid
    exact (isFlagged_removeFlag x id' id).trans (by simp [hne])
  | armFlag => cases hid; exact (isFlagged_armFlag x id' id).trans (by simp [hne])
  | cancel id'' =>
    show ((x.flags.cancel id'').handle? id).isSome = _
    rw [FlagBoard.handle?_cancel]
    rfl
  | startedAdvertising | stoppedAdvertising | startedDiscovery | stoppedDiscovery
  | startedListening | stoppedListening | cancelAll | raise | reset => cases hid
  | _ => rfl

theorem not_cancels_of_ne (hid : h.endpoint? = some id') (hne : id' ≠ id) (x : Session) :
    ¬ h.Cancels id x := by
  intro hc
  cases h with
  | cancel => cases hid; exact hne hc
  | cancelAll | raise => cases hid
  | _ => exact hc

theorem isCancelled_apply_of_ne (hid : h.endpoint? = some id') (hne : id' ≠ id)
    (hs : x.flags.Sound) : (h.apply x).1.isCancelled id = x.isCancelled id := by
  rw [Bool.eq_iff_iff, isCancelled_apply h hs id, isFlagged_apply_of_ne hid hne,
    or_iff_left (fun hc => not_cancels_of_ne hid hne x hc.1)]
  exact ⟨And.left, fun hc => ⟨hc, isFlagged_of_isCancelled hc⟩⟩

/-- A report on an endpoint emits events of that endpoint. -/
theorem endpoint_of_emitted (hid : h.endpoint? = some id) {m : Emission} (hm : m ∈ (h.apply x).2) :
    m.event.endpoint = id := by
  cases h with
  | endpointFound | endpointLost | distanceChanged =>
    cases hid
    simp only [SessionHook.apply, endpointFound, endpointLost, distanceChanged, toDiscovery] at hm
    split at hm
    · rw [List.mem_singleton.mp hm]; rfl
    · cases hm
  | connectionInitiated id' info req =>
    cases hid
    rw [SessionHook.emitted_of_initiated, Option.mem_toList, Option.map_eq_some_iff] at hm
    obtain ⟨l, _, rfl⟩ := hm
    rfl
  | connectionAccepted | connectionRejected | disconnected | bandwidthChanged =>
    cases hid
    rw [SessionHook.emitted_of_event rfl, Option.mem_toList, Option.map_eq_some_iff] at hm
    obtain ⟨c, _, rfl⟩ := hm
    rfl
  | payloadReceived | payloadProgress =>
    cases hid
    rw [SessionHook.emitted_of_payloadEvent rfl, Option.mem_toList, Option.map_eq_some_iff] at hm
    obtain ⟨l, _, rfl⟩ := hm
    rfl
  | _ => cases hm

/-! ## The same report on both sides -/

namespace AgreesAt

theorem get?_apply (ha : AgreesAt id x y) (hid : h.endpoint? = some id) :
    (h.apply x).1.connections.get? id = (h.apply y).1.connections.get? id := by
  have hc := ha.connection
  cases h with
  | connectionInitiated id' info req =>
    cases hid
    simp only [SessionHook.apply, connectionInitiated, ha.listenerFor]
    split
    · exact hc
    · simp only [Directory.get?_insert_self]
  | localAccepted id' l =>
    cases hid
    exact (get?_localAccepted ..).trans ((get?_localAccepted ..).trans (by rw [hc])).symm
  | localRejected id' =>
    cases hid
    exact (get?_localRejected ..).trans ((get?_localRejected ..).trans (by rw [hc])).symm
  | connectionAccepted id' =>
    cases hid
    exact (get?_connectionAccepted ..).trans ((get?_connectionAccepted ..).trans (by rw [hc])).symm
  | connectionRejected id' | disconnected id' =>
    cases hid
    exact (get?_endConnection ..).trans ((get?_endConnection ..).trans (by rw [hc])).symm
  | startedAdvertising | stoppedAdvertising | startedDiscovery | stoppedDiscovery
  | startedListening | stoppedListening | cancelAll | raise | reset => cases hid
  | _ => exact hc

theorem isFlagged_apply (ha : AgreesAt id x y) (hid : h.endpoint? = some id) :
    (h.apply x).1.isFlagged id = (h.apply y).1.isFlagged id := by
  have hf := ha.flagged
  cases h with
  | connectionInitiated id' info req =>
    cases hid
    simp only [SessionHook.apply, connectionInitiated, ha.listenerFor]
    split
    · exact hf
    · exact (isFlagged_armFlag x id id).trans ((isFlagged_armFlag y id id).trans (by rw [hf])).symm
  | connectionAccepted id' =>
    simp only [SessionHook.apply, connectionAccepted]
    split <;> split <;> exact hf
  | connectionRejected id' | disconnected id' | removeFlag id' =>
    cases hid
    exact (isFlagged_removeFlag ..).trans ((isFlagged_removeFlag ..).trans (by rw [hf])).symm
  | armFlag id' =>
    cases hid
    exact (isFlagged_armFlag ..).trans ((isFlagged_armFlag ..).trans (by rw [hf])).symm
  | cancel id' =>
    show ((x.flags.cancel id').handle? id).isSome = ((y.flags.cancel id').handle? id).isSome
    rw [FlagBoard.handle?_cancel, FlagBoard.handle?_cancel]
    exact hf
  | startedAdvertising | stoppedAdvertising | startedDiscovery | stoppedDiscovery
  | startedListening | stoppedListening | cancelAll | raise | reset => cases hid
  | _ => exact hf

theorem cancels (hid : h.endpoint? = some id) : h.Cancels id x ↔ h.Cancels id y := by
  cases h with
  | cancelAll | raise => cases hid
  | _ => exact Iff.rfl

theorem isCancelled_apply (ha : AgreesAt id x y) (hs : x.flags.Sound ∧ y.flags.Sound)
    (hid : h.endpoint? = some id) :
    (h.apply x).1.isCancelled id = (h.apply y).1.isCancelled id := by
  rw [Bool.eq_iff_iff, Session.isCancelled_apply h hs.1 id, Session.isCancelled_apply h hs.2 id,
    ha.isFlagged_apply hid, ha.cancelled, ha.flagged]
  exact or_congr_right (and_congr_left' (cancels hid))

theorem emitted_apply (ha : AgreesAt id x y) (hid : h.endpoint? = some id) :
    (h.apply x).2 = (h.apply y).2 := by
  cases h with
  | endpointFound | endpointLost | distanceChanged => exact ha.toDiscovery _
  | connectionInitiated id' info req =>
    rw [SessionHook.emitted_of_initiated, SessionHook.emitted_of_initiated, ha.listenerFor]
  | connectionAccepted | connectionRejected | disconnected | bandwidthChanged =>
    cases hid
    rw [SessionHook.emitted_of_event rfl, SessionHook.emitted_of_event rfl]
    simp only [ConnectionEvent.endpoint, ha.connection]
  | payloadReceived | payloadProgress =>
    cases hid
    exact ha.toPayload _
  | _ => rfl

/-- After the same report on the endpoint the sessions agree on it again, and have emitted the
same. -/
theorem apply (ha : AgreesAt id x y) (hs : x.flags.Sound ∧ y.flags.Sound)
    (hid : h.endpoint? = some id) :
    AgreesAt id (h.apply x).1 (h.apply y).1 ∧ (h.apply x).2 = (h.apply y).2 := by
  obtain ⟨ax, dx, lx⟩ := activities_of_endpoint hid x
  obtain ⟨ay, dy, ly⟩ := activities_of_endpoint hid y
  exact ⟨{
    advertising := ax.trans (ha.advertising.trans ay.symm)
    discovery := dx.trans (ha.discovery.trans dy.symm)
    listening := lx.trans (ha.listening.trans ly.symm)
    connection := ha.get?_apply hid
    flagged := ha.isFlagged_apply hid
    cancelled := ha.isCancelled_apply hs hid }, ha.emitted_apply hid⟩

/-- A report on another endpoint leaves the agreement on this one. -/
theorem apply_of_ne (ha : AgreesAt id x y) (hs : x.flags.Sound) (hid : h.endpoint? = some id')
    (hne : id' ≠ id) : AgreesAt id (h.apply x).1 y := by
  obtain ⟨ax, dx, lx⟩ := activities_of_endpoint hid x
  exact {
    advertising := ax.trans ha.advertising
    discovery := dx.trans ha.discovery
    listening := lx.trans ha.listening
    connection := (get?_apply_of_ne hid hne x).trans ha.connection
    flagged := (isFlagged_apply_of_ne hid hne x).trans ha.flagged
    cancelled := (isCancelled_apply_of_ne hid hne hs).trans ha.cancelled }

/-- The same reports on the endpoint, one after another. -/
theorem applyAll {hs : List (SessionHook Listener)} (ha : AgreesAt id x y)
    (hx : x.flags.Sound ∧ y.flags.Sound) (hid : ∀ h ∈ hs, h.endpoint? = some id) :
    AgreesAt id (SessionHook.applyAll x hs).1 (SessionHook.applyAll y hs).1 ∧
      (SessionHook.applyAll x hs).2 = (SessionHook.applyAll y hs).2 := by
  induction hs generalizing x y with
  | nil => exact ⟨ha, rfl⟩
  | cons h hs ih =>
    obtain ⟨ha', he⟩ := ha.apply hx (hid h List.mem_cons_self)
    obtain ⟨ha'', he'⟩ := ih ha' ⟨sound_apply h hx.1, sound_apply h hx.2⟩
      fun k hk => hid k (List.mem_cons_of_mem _ hk)
    exact ⟨ha'', by simp only [SessionHook.applyAll, he, he']⟩

theorem applyAll_of_ne {hs : List (SessionHook Listener)} (ha : AgreesAt id x y)
    (hx : x.flags.Sound) (hid : ∀ h ∈ hs, h.endpoint? = some id') (hne : id' ≠ id) :
    AgreesAt id (SessionHook.applyAll x hs).1 y ∧
      ∀ m ∈ (SessionHook.applyAll x hs).2, m.event.endpoint = id' := by
  induction hs generalizing x with
  | nil => exact ⟨ha, fun m hm => by cases hm⟩
  | cons h hs ih =>
    have hh := hid h List.mem_cons_self
    obtain ⟨ha', he⟩ := ih (ha.apply_of_ne hx hh hne) (sound_apply h hx)
      fun k hk => hid k (List.mem_cons_of_mem _ hk)
    refine ⟨ha', fun m hm => ?_⟩
    rcases List.mem_append.mp hm with hm | hm
    · exact endpoint_of_emitted hh hm
    · exact he m hm

end AgreesAt

end Session

end Switchboard
