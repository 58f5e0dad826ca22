import Switchboard.Proofs.Exchange.Paring

/-!
# Endpoints of one session

Whatever a client does with one of its endpoints does not depend on the others. As far as one
endpoint goes, a run in which a session works on its endpoints one by one is the run that is left
without the requests on the others (`endpoints_independent`).
-/

namespace Switchboard

variable {τ υ : Type}

namespace Request

variable {r : Request τ} {s : SessionName} {id : EndpointId} {cues : τ → Bool} {m : Remit}

/-- The request is not made for anything else than the endpoint. -/
def isAt (id : EndpointId) (r : Request τ) : Bool := r.remit?.all (·.scope = .endpoint id)

/-- The request is made for one endpoint of the session, or for the transport. Requests for other
endpoints than `id` have cues of their own. -/
def isOnEndpoint (s : SessionName) (id : EndpointId) (cues : τ → Bool) (r : Request τ) : Bool :=
  match r.remit? with
  | none => !(r matches .shutdown _)
  | some m => m.session = s && match m.scope with
    | .endpoint id' => id' = id || !r.cue?.any cues
    | _ => false

theorem session_of_isOnEndpoint (h : r.isOnEndpoint s id cues = true) (hm : r.remit? = some m) :
    m.session = s := by
  simp only [isOnEndpoint, hm, Bool.and_eq_true, decide_eq_true_eq] at h
  exact h.1

theorem scope_of_isAt (h : r.isAt id = true) (hm : r.remit? = some m) :
    m.scope = .endpoint id := by
  simpa [isAt, hm] using h

/-- A request that is not for the endpoint is for another one, and has a cue of its own. -/
theorem other_of_isOnEndpoint (h : r.isOnEndpoint s id cues = true) (ho : r.isAt id = false) :
    ∃ m id', r.remit? = some m ∧ m.scope = .endpoint id' ∧ id' ≠ id ∧
      ∀ b, r.cue? = some b → cues b = false := by
  unfold isAt at ho
  cases hm : r.remit? with
  | none => simp [hm] at ho
  | some m =>
    simp only [hm, Option.all_some, decide_eq_false_iff_not] at ho
    simp only [isOnEndpoint, hm, Bool.and_eq_true] at h
    obtain ⟨_, h⟩ := h
    split at h
    · next id' hs =>
      have hne : id' ≠ id := fun e => ho (e ▸ hs)
      simp only [hne, decide_false, Bool.false_or, Bool.not_eq_true', Option.any_eq_false] at h
      exact ⟨m, id', rfl, hs, hne, h⟩
    · cases h

end Request

namespace Exchange

variable {s : SessionName} {id id' : EndpointId} {cues : τ → Bool} {n n' : Network}
  {hs : List (SessionHook Listener)}

/-- The networks are the same for the endpoint of the session. -/
structure SameAt (s : SessionName) (id : EndpointId) (n n' : Network) : Prop where
  agrees : (n.session s).AgreesAt id (n'.session s)
  script : n.transport.SameScript n'.transport
  sound : (n.session s).flags.Sound ∧ (n'.session s).flags.Sound

theorem sound_reportAll (h : (n.session s).flags.Sound) :
    ((n.reportAll s hs).1.session s).flags.Sound := by
  rw [Network.session_reportAll, if_pos rfl]
  exact SessionHook.applyAll_keeps (P := fun x => x.flags.Sound) hs
    (fun x hx k _ => Session.sound_apply k hx) h

theorem SameAt.own_reports (h : SameAt s id n n') (hid : ∀ k ∈ hs, k.endpoint? = some id) :
    SameAt s id (n.reportAll s hs).1 (n'.reportAll s hs).1 ∧
      (n.reportAll s hs).2 = (n'.reportAll s hs).2 := by
  obtain ⟨ha, he⟩ := h.agrees.applyAll h.sound hid
  refine ⟨⟨?_, h.script, sound_reportAll h.sound.1, sound_reportAll h.sound.2⟩, he⟩
  rwa [Network.session_reportAll, Network.session_reportAll, if_pos rfl, if_pos rfl]

theorem SameAt.other_reports (h : SameAt s id n n') (hid : ∀ k ∈ hs, k.endpoint? = some id')
    (hne : id' ≠ id) :
    SameAt s id (n.reportAll s hs).1 n' ∧ ∀ m ∈ (n.reportAll s hs).2, m.event.endpoint ≠ id := by
  obtain ⟨ha, he⟩ := h.agrees.applyAll_of_ne h.sound.1 hid hne
  refine ⟨⟨?_, h.script, sound_reportAll h.sound.1, h.sound.2⟩, fun m hm => he m hm ▸ hne⟩
  rwa [Network.session_reportAll, if_pos rfl]

/-- What is asked for on one endpoint, or of the transport, against what is asked for on others. -/
def byEndpoint (s : SessionName) (id : EndpointId) (cues : τ → Bool) : Division τ where
  allowed r := r.isOnEndpoint s id cues = true
  own r := r.isAt id
  agree := SameAt s id
  seen m := m.event.endpoint = id
  cues := cues
  stays_open _ h := by cases h
  remit_of_other ha ho := by
    obtain ⟨m, _, hm, _⟩ := Request.other_of_isOnEndpoint ha ho
    exact ⟨m, hm⟩
  cue_of_other ha ho hb := by
    obtain ⟨_, _, _, _, _, hcue⟩ := Request.other_of_isOnEndpoint ha ho
    exact hcue _ hb
  alike := by
    intro r m n n' ha ho hm h
    unfold Remit.Alike
    rw [Request.scope_of_isAt ho hm, Request.session_of_isOnEndpoint ha hm]
    exact ⟨h.agrees, h.script⟩
  own_reports := by
    intro r m n n' hs ha ho hm hallow h
    rw [Request.session_of_isOnEndpoint ha hm]
    exact h.own_reports fun k hk => (hallow k hk).1 id (Request.scope_of_isAt ho hm)
  other_reports := by
    intro r m n n' hs ha ho hm hallow h
    obtain ⟨m', id', hm', hscope, hne, _⟩ := Request.other_of_isOnEndpoint ha ho
    cases hm.symm.trans hm'
    rw [Request.session_of_isOnEndpoint ha hm]
    obtain ⟨hs, he⟩ := h.other_reports (fun k hk => (hallow k hk).1 id' hscope) hne
    exact ⟨hs, fun e hm => decide_eq_false (he e hm)⟩
  transports hf h := ⟨h.agrees, hf _ _ h.script, h.sound⟩

/-- Of the run without what is asked for on other endpoints, one sees of an endpoint what one sees
of the run. -/
theorem Chronicle.endpoints_independent (o : Outside τ υ) (records : o.Records) (network : Network)
    (outside : υ) (callers : Nat) (s : SessionName) (id : EndpointId) (cues : τ → Bool)
    (sound : (network.session s).flags.Sound) (moves : List (Move τ))
    (single : ∀ x ∈ asked moves, x.2.isOnEndpoint s id cues = true) :
    ∃ moves', moves'.Sublist moves ∧ asked moves' = (asked moves).filter (·.2.isAt id) ∧
      let c := (start network outside callers).play o moves
      let c' := (start network outside callers).play o moves'
      let x := c.shared.network.session s
      let x' := c'.shared.network.session s
      c'.trace.Sublist c.trace ∧
      c'.trace.filter (·.2.shows (·.event.endpoint = id) cues) =
        c.trace.filter (·.2.shows (·.event.endpoint = id) cues) ∧
      x'.relation id = x.relation id ∧ x'.hasResponded id = x.hasResponded id ∧
      x'.isFlagged id = x.isFlagged id ∧ x'.isCancelled id = x.isCancelled id := by
  have hstart : (byEndpoint s id cues).agree network network :=
    ⟨.refl id _, .refl _, sound, sound⟩
  obtain ⟨moves', hs, ha, h⟩ := Division.exists_shadow records
    (Division.shadow_start hstart outside callers) moves single
  have hx := h.alike.network.agrees
  exact ⟨moves', hs, ha, h.sublist, h.shown, hx.relation.symm, hx.hasResponded.symm,
    hx.flagged.symm, hx.cancelled.symm⟩

namespace Sample

def onAir : Network :=
  ({} : Network).setSession "A" { advertising := some ⟨"svc", { sink := some 0 }⟩ }

def onEndpoint (op : Operation Listener) (back : Bool) : Request Bool := .submit ⟨"A", op, back⟩

/-- A client that advertises connects to one endpoint, while another comes and is sent away. -/
def bothEndpoints : List (Move Bool) :=
  [.ask 0 (onEndpoint (.requestConnection ⟨"EP01"⟩ [] {} { sink := some 1 }) true),
    .ask 1 (.hook (.session "A" (SessionHook.incoming ⟨"EP02"⟩ []))),
    .ask 1 (onEndpoint (.disconnectFromEndpoint ⟨"EP02"⟩) false),
    .ask 0 (onEndpoint (.acceptConnection ⟨"EP01"⟩ {}) true)] ++
    (List.replicate 8 [.step 2, .step 1]).flatten ++ List.replicate 60 (.step worker)

end Sample

open Sample in
/-- The one endpoint is connected, whatever becomes of the other. -/
theorem Chronicle.endpoint_beside_another :
    let c := (start onAir [] 2).play recorder bothEndpoints
    c.shared.outside.map (fun x => (x.1, x.2.kind)) =
      [(0, "Initiated"), (1, "Initiated"), (0, "Disconnected"), (1, "Accepted")] ∧
    ∃ moves', moves'.Sublist bothEndpoints ∧
      asked moves' = (asked bothEndpoints).filter (·.2.isAt ⟨"EP01"⟩) ∧
      let x' := ((start onAir [] 2).play recorder moves').shared.network.session "A"
      x'.relation ⟨"EP01"⟩ = .connected ∧ x'.isCancelled ⟨"EP01"⟩ = false := by
  intro c
  have hsound : (onAir.session "A").flags.Sound := by
    rw [onAir, Network.session_setSession_self]
    exact FlagBoard.sound_empty
  obtain ⟨moves', hs, ha, _, _, hrel, _, _, hcan⟩ := endpoints_independent recorder
    recorder_records onAir [] 2 "A" ⟨"EP01"⟩ id hsound bothEndpoints (by decide)
  exact ⟨by decide +kernel, moves', hs, ha, hrel.trans (by decide +kernel),
    hcan.trans (by decide +kernel)⟩

end Exchange

end Switchboard
