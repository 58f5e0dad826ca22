import Switchboard.Proofs.Call
import Switchboard.Proofs.Exchange.Answer

/-!
# Consent

A connection has the consent of the local side once the session has recorded its acceptance, that is
once it is answered and has a payload listener (`hasAccepted`). A connection that is answered
without one has been rejected (`hasRejected`). No report takes an answer back, short of one with
which the connection ends or another begins (`Renews`). Whoever accepts an endpoint first has the
acceptance recorded and then, where the other side is taken to accept at once, reports the endpoint
connected (`accept_withstands`).
-/

namespace Switchboard

namespace Session

/-- The local side has accepted the endpoint. -/
def hasAccepted (s : Session) (id : EndpointId) : Bool :=
  (s.connections.get? id).any fun c => c.responded && c.payloadListener.isSome

/-- The local side has rejected the endpoint. -/
def hasRejected (s : Session) (id : EndpointId) : Bool :=
  (s.connections.get? id).any fun c => c.responded && c.payloadListener.isNone

/-- Who is to have the payloads of an endpoint is only known once it has been accepted. -/
def Undecided (s : Session) (id : EndpointId) : Prop :=
  ∀ c, s.connections.get? id = some c → c.responded = false → c.payloadListener = none

/-- With the report the connection to the endpoint ends, or another comes in its place. -/
def Renews (s : Session) (id : EndpointId) (h : SessionHook Listener) : Prop :=
  h = .reset ∨ ∃ l e, .connection l e ∈ (h.apply s).2 ∧
    (e.IsEnd id ∨ ∃ info, e = .initiated id info)

variable {s : Session} {id : EndpointId} {h : SessionHook Listener}

theorem hasAccepted_iff : s.hasAccepted id = true ↔ ∃ c, s.connections.get? id = some c ∧
    c.responded = true ∧ ∃ l, c.payloadListener = some l := by
  rw [hasAccepted, Option.any_eq_true]
  simp only [Bool.and_eq_true, Option.isSome_iff_exists]

theorem hasRejected_iff : s.hasRejected id = true ↔ ∃ c, s.connections.get? id = some c ∧
    c.responded = true ∧ c.payloadListener = none := by
  rw [hasRejected, Option.any_eq_true]
  simp only [Bool.and_eq_true, Option.isNone_iff_eq_none]

theorem not_hasAccepted_of_hasRejected (hr : s.hasRejected id = true) :
    s.hasAccepted id = false := by
  obtain ⟨c, hc, _, hl⟩ := hasRejected_iff.mp hr
  rw [hasAccepted, hc]
  simp [hl]

/-! ## Reports -/

/-- What a report does to the connection of the endpoint that stays. -/
inductive Amends (id : EndpointId) : SessionHook Listener → (Connection → Connection) → Prop where
  | taken (l : Listener) :
    Amends id (.localAccepted id l)
      (fun c => { c with responded := true, payloadListener := some l })
  | declined : Amends id (.localRejected id) (fun c => { c with responded := true })
  | accepted : Amends id (.connectionAccepted id) (fun c => { c with relation := .connected })
  | idle (h : SessionHook Listener) : Amends id h fun c => c

/-- Either the connection ends or begins, and then it is neither connected nor answered, or the
report amends it. -/
theorem renews_or_amends (h : SessionHook Listener) (s : Session) (id : EndpointId) :
    (s.Renews id h ∧ (h.apply s).1.isConnected id = false ∧
        (h.apply s).1.hasResponded id = false) ∨
      ∃ f, (h.apply s).1.connections.get? id = (s.connections.get? id).map f ∧ Amends id h f := by
  have ht := turn_apply h s id
  rw [isConnected, relation, hasResponded]
  generalize (h.apply s).1.connections.get? id = after at ht
  cases ht with
  | @opened info _ l told =>
    refine .inl ⟨.inr ⟨l, _, by rw [told]; exact List.mem_singleton_self _, .inr ⟨info, rfl⟩⟩, ?_,
      rfl⟩
    cases info.incoming <;> rfl
  | ended he _ told =>
    exact .inl ⟨.inr ⟨_, _, by rw [told]; exact List.mem_singleton_self _, .inl he⟩, rfl, rfl⟩
  | reset => exact .inl ⟨.inl rfl, rfl, rfl⟩
  | taken l hb => exact .inr ⟨_, by rw [hb]; rfl, .taken l⟩
  | declined hb => exact .inr ⟨_, by rw [hb]; rfl, .declined⟩
  | accepted hb => exact .inr ⟨_, by rw [hb]; rfl, .accepted⟩
  | idle => exact .inr ⟨_, by cases s.connections.get? id <;> rfl, .idle h⟩

theorem undecided_apply (h : SessionHook Listener) (hs : s.Undecided id) :
    (h.apply s).1.Undecided id := by
  have ht := turn_apply h s id
  unfold Undecided
  generalize (h.apply s).1.connections.get? id = after at ht
  intro c hc hn
  cases ht with
  | opened => cases hc; rfl
  | taken | declined => cases hc; cases hn
  | accepted hb =>
    cases hc
    have hnone := hs _ hb hn
    exact hnone
  | ended | reset => cases hc
  | idle => exact hs c hc hn

theorem Amends.hasAccepted {t : Session} {f : Connection → Connection} (ha : Amends id h f)
    (hget : t.connections.get? id = (s.connections.get? id).map f) (hs : s.hasAccepted id = true) :
    t.hasAccepted id = true := by
  obtain ⟨c, hc, hd, l, hl⟩ := hasAccepted_iff.mp hs
  rw [hc] at hget
  refine hasAccepted_iff.mpr ⟨_, hget, ?_⟩
  cases ha with
  | taken l' => exact ⟨rfl, l', rfl⟩
  | declined => exact ⟨rfl, l, hl⟩
  | accepted | idle => exact ⟨hd, l, hl⟩

/-- An acceptance is not taken back. -/
theorem hasAccepted_apply (hs : s.hasAccepted id = true) :
    (h.apply s).1.hasAccepted id = true ∨
      s.Renews id h ∧ (h.apply s).1.isConnected id = false := by
  rcases renews_or_amends h s id with ⟨hr, hn, _⟩ | ⟨f, hget, ha⟩
  · exact .inr ⟨hr, hn⟩
  · exact .inl (ha.hasAccepted hget hs)

/-- A rejection is not taken back, except by accepting. -/
theorem hasRejected_apply (hs : s.hasRejected id = true) (hn : ∀ l, h ≠ .localAccepted id l) :
    (h.apply s).1.hasRejected id = true ∨ s.Renews id h := by
  rcases renews_or_amends h s id with ⟨hr, _⟩ | ⟨f, hget, ha⟩
  · exact .inr hr
  obtain ⟨c, hc, hd, hl⟩ := hasRejected_iff.mp hs
  rw [hc] at hget
  refine .inl (hasRejected_iff.mpr ⟨_, hget, ?_⟩)
  cases ha with
  | taken l => exact absurd rfl (hn l)
  | declined => exact ⟨rfl, hl⟩
  | accepted | idle => exact ⟨hd, hl⟩

/-- It takes an answer for a connection to be answered. -/
theorem hasResponded_apply (hs : s.hasResponded id = false) (hn : ∀ l, h ≠ .localAccepted id l)
    (hn' : h ≠ .localRejected id) : (h.apply s).1.hasResponded id = false := by
  rcases renews_or_amends h s id with ⟨_, _, hr⟩ | ⟨f, hget, ha⟩
  · exact hr
  rw [hasResponded] at hs ⊢
  rw [hget]
  cases ha with
  | taken l => exact absurd rfl (hn l)
  | declined => exact absurd rfl hn'
  | accepted | idle => cases hc : s.connections.get? id <;> simp_all

/-- It takes a beginning for a connection to be there. -/
theorem absent_apply (hs : s.connections.get? id = none) :
    (h.apply s).1.connections.get? id = none ∨ s.Renews id h := by
  rcases renews_or_amends h s id with ⟨hr, _⟩ | ⟨f, hget, _⟩
  · exact .inr hr
  · exact .inl (by rw [hget, hs]; rfl)

/-- Only the report that says so makes a connection connected, and it changes nothing else. -/
theorem connected_apply (hn : s.isConnected id = false)
    (hc : (h.apply s).1.isConnected id = true) :
    h = .connectionAccepted id ∧ (h.apply s).1.hasAccepted id = s.hasAccepted id := by
  rcases renews_or_amends h s id with ⟨_, hno, _⟩ | ⟨f, hget, ha⟩
  · cases hno.symm.trans hc
  obtain ⟨c, hb, hcon⟩ := isConnected_iff_get?.mp hc
  rw [hget, Option.map_eq_some_iff] at hb
  obtain ⟨b, hb, rfl⟩ := hb
  have hno : b.relation ≠ .connected := fun hr =>
    absurd (isConnected_iff_get?.mpr ⟨b, hb, hr⟩) (by rw [hn]; decide)
  cases ha with
  | taken | declined | idle => exact absurd hcon hno
  | accepted => exact ⟨rfl, by rw [hasAccepted, hget, hasAccepted, hb]; rfl⟩

/-- An endpoint that is rejected has been, if it was to be decided on. -/
theorem hasRejected_localRejected (hs : s.Undecided id) (hr : s.isRelated id = true)
    (hn : s.hasResponded id = false) : (s.localRejected id).hasRejected id = true := by
  obtain ⟨c, hc, _⟩ := isRelated_iff.mp hr
  have hget := get?_localRejected s id id
  rw [if_pos rfl, hc] at hget
  rw [hasResponded, hc] at hn
  exact hasRejected_iff.mpr ⟨_, hget, rfl, hs c hc hn⟩

theorem hasRejected_connectionAccepted (hr : s.hasRejected id = true) :
    (s.connectionAccepted id).1.hasRejected id = true := by
  obtain ⟨c, hc, hd⟩ := hasRejected_iff.mp hr
  have hget := get?_connectionAccepted s id id
  rw [if_pos rfl, hc] at hget
  exact hasRejected_iff.mpr ⟨_, hget, hd⟩

/-- An endpoint that is accepted has been, if it has a connection. -/
theorem granted_localAccepted (s : Session) (id : EndpointId) (l : Listener) :
    (s.localAccepted id l).connections.get? id = none ∨
      (s.localAccepted id l).hasAccepted id = true := by
  have hget := get?_localAccepted s id id l
  rw [if_pos rfl] at hget
  cases hc : s.connections.get? id with
  | none => exact .inl (by rw [hget, hc]; rfl)
  | some c =>
    rw [hc] at hget
    exact .inr (hasAccepted_iff.mpr ⟨_, hget, rfl, l, rfl⟩)

/-- A payload from an endpoint that has been accepted reaches its payload listener. -/
theorem payload_heard (ha : s.hasAccepted id = true) (p : Payload) :
    ∃ l, .payload l (.received id p) ∈ (SessionHook.apply s (.payloadReceived id p)).2 := by
  obtain ⟨c, hc, _, l, hl⟩ := hasAccepted_iff.mp ha
  exact ⟨l, SessionHook.payload_mem_apply.mpr ⟨rfl, c, hc, hl⟩⟩

end Session

/-! ## Accepting -/

namespace Operation

open Job Transport Plan

variable {R : Network → Network → Prop} {G : Network → Network × List Emission → Prop}
  {U J : Network → Prop} {s : SessionName} {id : EndpointId} {n : Network}

/-- What withstands the body of an acceptance: `U` holds from its guard on until the acceptance is
recorded, and `J` from there on. -/
theorem accept_withstands (l : Listener) (refl : ∀ n, R n n)
    (stableU : ∀ {n n'}, R n n' → U n → U n') (stableJ : ∀ {n n'}, R n n' → J n → J n')
    (books : ∀ n f, G n (n.onTransport f, []) ∧ (U n → U (n.onTransport f)))
    (guarded : ∀ n : Network, (n.session s).hasResponded id = false → U n)
    (take : ∀ n, U n → G n (n.setSession s ((n.session s).localAccepted id l), []) ∧
      J (n.setSession s ((n.session s).localAccepted id l)))
    (connect : ∀ n, J n → G n (n.onSession s (·.connectionAccepted id))) :
    (body s (.acceptConnection id l)).Withstands R G (fun _ _ => True) n := by
  refine answerGuard_withstands (fun _ _ _ _ => trivial) (fun _ _ _ _ _ _ => trivial)
    fun n₁ n₂ _ _ hn => ?_
  refine guard_withstands (fun _ _ _ _ _ => trivial) fun n₃ h₃ _ => ?_
  refine call_withstands refl (fun n' _ => (books n' _).1) (fun n' => (books n' _).1)
    (fun n' => (books n' _).1) fun n₄ n₅ n₆ h₄ h₅ h₆ => ?_
  have hcalled : U (n₄.onTransport (·.record ⟨some s, .acceptConnection id⟩)) :=
    (books n₄ _).2 (stableU h₄ (stableU h₃ (guarded n₂ hn)))
  have hU : U (n₆.onTransport enter) := (books n₆ _).2 (stableU h₆ (stableU h₅ hcalled))
  refine ifAllowed_withstands refl (fun _ _ _ _ _ _ _ _ _ _ => trivial) fun n₇ h₇ n₈ h₈ => ?_
  obtain ⟨htake, hJ⟩ := take n₈ (stableU h₈ (stableU h₇ hU))
  refine ⟨htake, fun n₉ h₉ => ?_⟩
  show Withstands _ _ _ (if n₉.transport.autoAccept then _ else _) n₉
  split
  · exact fun n' h' => ⟨connect n' (stableJ h' (stableJ h₉ hJ)), fun _ _ _ _ _ _ _ _ => trivial⟩
  · exact fun _ _ _ _ _ _ _ _ => trivial

end Operation

end Switchboard
