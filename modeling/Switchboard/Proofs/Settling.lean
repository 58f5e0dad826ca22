import Switchboard.Proofs.Request

/-!
# Settling a request

A flag without a relation is what a request leaves behind before its turn in the queue has come.
Nothing else does: every report, and every body that does not request the endpoint, leaves such a
flag only where there was one, and cancels nobody (`Session.Fades`). The body of the request settles
the matter. Past its look at the flag it keeps to what it found, until it either has brought about a
relation or has removed the flag (`flagCheck_settling`).
-/

namespace Switchboard

namespace Session

variable {s t : Session} {id : EndpointId}

/-- From `s` to `t` the endpoint is not left with a flag and no relation unless it was so before,
and it is not cancelled. -/
structure Fades (s t : Session) (id : EndpointId) : Prop where
  idle : t.isFlagged id = true → t.isRelated id = false →
    s.isFlagged id = true ∧ s.isRelated id = false
  cancelled : t.isCancelled id = true → s.isCancelled id = true

theorem Fades.refl (s : Session) (id : EndpointId) : Fades s s id :=
  ⟨fun hf hr => ⟨hf, hr⟩, fun hc => hc⟩

theorem Fades.of_unflagged (hf : t.isFlagged id = false) : Fades s t id := by
  constructor
  · intro h
    rw [hf] at h
    cases h
  · intro h
    rw [isFlagged_of_isCancelled h] at hf
    cases hf

theorem Fades.of_related (hr : t.isRelated id = true)
    (hc : t.isCancelled id = true → s.isCancelled id = true) : Fades s t id :=
  ⟨fun _ h => (by rw [hr] at h; cases h), hc⟩

theorem Fades.of_keeps (hr : t.isRelated id = s.isRelated id)
    (hf : t.isFlagged id = true → s.isFlagged id = true)
    (hc : t.isCancelled id = true → s.isCancelled id = true) : Fades s t id :=
  ⟨fun h h' => ⟨hf h, hr ▸ h'⟩, hc⟩

theorem isRelated_of_get?_eq (h : t.connections.get? id = s.connections.get? id) :
    t.isRelated id = s.isRelated id := by
  unfold isRelated isPending isConnected relation
  rw [h]

theorem isRelated_of_get?_map {f : Connection → Connection}
    (h : t.connections.get? id = (s.connections.get? id).map f)
    (hf : ∀ c, (f c).relation = c.relation) : t.isRelated id = s.isRelated id := by
  unfold isRelated isPending isConnected relation
  rw [h]
  cases s.connections.get? id with
  | none => rfl
  | some c => simp [hf c]

theorem fades_connectionInitiated (s : Session) (id id' : EndpointId) (info : ResponseInfo)
    (requester : Option Listener) :
    Fades s (s.connectionInitiated id info requester).1 id' := by
  unfold connectionInitiated
  split
  · exact .refl s id'
  · next l _ =>
    have hc : ∀ c, isCancelled { s.armFlag id with connections := c } id' = s.isCancelled id' :=
      fun _ => isCancelled_armFlag s id id'
    by_cases h : id = id'
    · subst h
      refine .of_related (isRelated_iff.mpr ⟨_, Directory.get?_insert_self .., ?_⟩) ?_
      · cases info.incoming <;> simp
      · rw [hc]
        exact fun h => h
    · refine .of_keeps (isRelated_of_get?_eq (Directory.get?_insert_of_ne _ h _)) ?_ ?_
      · show (s.armFlag id).isFlagged id' = true → _
        rw [isFlagged_armFlag]
        simp [h]
      · rw [hc]
        exact fun h => h

theorem fades_endConnection (s : Session) (id id' : EndpointId) (e : ConnectionEvent) :
    Fades s (s.endConnection id e).1 id' := by
  have hf : (s.endConnection id e).1.isFlagged id' = (s.isFlagged id' && id != id') :=
    isFlagged_removeFlag s id id'
  by_cases h : id = id'
  · exact .of_unflagged (by rw [hf]; simp [h])
  · refine .of_keeps (isRelated_of_get?_eq ((get?_endConnection ..).trans (if_neg h))) ?_ ?_
    · rw [hf, Bool.and_eq_true]
      exact And.left
    · show (s.removeFlag id).isCancelled id' = true → _
      rw [isCancelled_removeFlag, Bool.and_eq_true]
      exact And.left

/-- What is reported leaves a flag without a relation only where there was one. -/
theorem fades_apply {h : SessionHook Listener} (hf : h.isFlagWork = false) (s : Session)
    (id : EndpointId) : Fades s (h.apply s).1 id := by
  cases h with
  | connectionInitiated id' info l => exact fades_connectionInitiated s id' id info l
  | connectionRejected id' status => exact fades_endConnection s id' id _
  | disconnected id' => exact fades_endConnection s id' id _
  | reset => exact .of_unflagged rfl
  | localAccepted id' l =>
    refine .of_keeps ?_ (fun h => h) fun h => h
    by_cases he : id' = id
    · subst he
      exact isRelated_of_get?_map ((get?_localAccepted ..).trans (if_pos rfl)) fun _ => rfl
    · exact isRelated_of_get?_eq ((get?_localAccepted ..).trans (if_neg he))
  | localRejected id' =>
    refine .of_keeps ?_ (fun h => h) fun h => h
    by_cases he : id' = id
    · subst he
      exact isRelated_of_get?_map ((get?_localRejected ..).trans (if_pos rfl)) fun _ => rfl
    · exact isRelated_of_get?_eq ((get?_localRejected ..).trans (if_neg he))
  | connectionAccepted id' =>
    simp only [SessionHook.apply, connectionAccepted]
    split
    · exact .refl s id
    · next c _ =>
      by_cases he : id' = id
      · subst he
        refine .of_related (isRelated_iff.mpr ⟨_, Directory.get?_insert_self .., ?_⟩) fun h => h
        simp
      · exact .of_keeps (isRelated_of_get?_eq (Directory.get?_insert_of_ne _ he _)) (fun h => h)
          fun h => h
  | armFlag | removeFlag | cancel | cancelAll | raise => cases hf
  | _ => exact .of_keeps rfl (fun h => h) fun h => h

theorem fades_rollBack {s : Session} (hs : s.flags.Sound) (id id' : EndpointId) :
    Fades s (s.rollBack id') id := by
  refine .of_keeps (isRelated_rollBack s id' id) ?_ ?_
  · rw [isFlagged_rollBack, Bool.and_eq_true]
    exact And.left
  · exact fun hc => (((remembers_rollBack hs id' id).mp hc).resolve_right And.left).1

theorem fades_armFlag (s : Session) {id id' : EndpointId} (h : id' ≠ id) :
    Fades s (s.armFlag id') id := by
  refine .of_keeps (isRelated_congr rfl id) ?_ ?_
  · rw [isFlagged_armFlag]
    simp [h]
  · rw [isCancelled_armFlag]
    exact fun h => h

end Session

open Session in
/-- Whoever may not register the flag of an endpoint leaves it with a flag and no relation only if
it was so before. -/
theorem Conduct.fades {own : SessionName → EndpointId → Prop} {k l : Phase}
    {change : Network → Network × List Emission} (h : Conduct own k change l) {s : SessionName}
    {id : EndpointId} (hn : ¬ own s id) {n : Network} (hs : (n.session s).flags.Sound) :
    Fades (n.session s) ((change n).1.session s) id := by
  have key : ∀ name t, (name = s → Fades (n.session s) t id) →
      Fades (n.session s) ((n.setSession name t).session s) id := by
    intro name t ht
    rw [Network.session_setSession]
    split
    · next he => exact ht he
    · exact .refl _ id
  cases h with
  | report _ name hook hf => exact key name _ fun he => he ▸ fades_apply hf _ id
  | arm _ name id' ho =>
    exact key name _ fun he => he ▸ fades_armFlag _ fun hid => hn (he ▸ hid ▸ ho)
  | rollBack name id' _ =>
    refine key name _ fun he => ?_
    subst he
    exact fades_rollBack hs id id'
  | _ => exact .refl _ id

/-! ## The body of the request -/

/-- Changes of a plan that has yet to settle what becomes of the endpoint's flag, or has settled it,
as the state says. Until then it keeps to the relation and the flag as they are, and it settles the
matter with a relation or without a flag. -/
inductive Settling (s : SessionName) (id : EndpointId) :
    Bool → (Network → Network × List Emission) → Bool → Prop where
  | keep {change : Network → Network × List Emission}
      (related : ∀ n, ((change n).1.session s).isRelated id = (n.session s).isRelated id)
      (cancelled : ∀ n, ((change n).1.session s).isCancelled id = (n.session s).isCancelled id) :
    Settling s id true change true
  | settle {change : Network → Network × List Emission}
      (h : ∀ n, ((change n).1.session s).isRelated id = true ∨
        ((change n).1.session s).isFlagged id = false) :
    Settling s id true change false
  | rest {change : Network → Network × List Emission}
      (h : ∀ n, Session.Fades (n.session s) ((change n).1.session s) id) :
    Settling s id false change false

namespace Operation

open Session

theorem flagCheck_settling (s : SessionName) (id : EndpointId) (info : List UInt8)
    (options : ConnectionOptions) (l : Listener) :
    (flagCheck s id info options l).Follows (Settling s id) true false := by
  refine flagCheck_follows (.keep (fun n => ?_) fun n => ?_)
    (fun f => .keep (fun n => rfl) fun n => rfl) (.settle fun n => .inl ?_)
    (.rest fun n => .refl _ id) (.settle fun n => .inr ?_)
  · rw [Network.session_setSession_self]
    exact isRelated_congr rfl id
  · rw [Network.session_setSession_self, isCancelled_armFlag]
  · show ((n.setSession s _).session s).isRelated id = true
    rw [Network.session_setSession_self]
    exact isRelated_iff.mpr ⟨_, Directory.get?_insert_self .., by simp [Transport.requestedInfo]⟩
  · rw [Network.session_setSession_self, isFlagged_rollBack]
    simp

end Operation

end Switchboard
