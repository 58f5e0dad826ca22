import Switchboard.Proofs.Exchange.Paring
import Switchboard.Proofs.Hearing

/-!
# Sessions apart

The clients of an exchange share its queue, its transport and the endpoints they talk to, and none
can tell what the others do. As far as a client can see, a run is the run that is left without what
the other sessions ask for: the outcomes, the signals at the sinks of the client, their order and
its session are the same (`sessions_apart`). Cancelling a payload is the exception, since payloads
are known to the transport by number only, whoever has sent them.
-/

namespace Switchboard

variable {τ υ : Type}

/-- What is emitted for the listener arrives at one of the sinks. -/
def Listener.reaches (sinks : SinkId → Bool) (l : Listener) : Bool := l.sink.any sinks

namespace Request

variable {r : Request τ} {A : SessionName} {sinks : SinkId → Bool} {cues : τ → Bool} {m : Remit}

/-- The request is not made for another session than `A`. -/
def isFor (A : SessionName) (r : Request τ) : Bool := r.remit?.all (·.session = A)

/-- The request may be made beside `A`, which has the sinks and the cues for itself. Nobody shuts
the exchange down, and `A` cancels no payload. -/
def isBeside (A : SessionName) (sinks : SinkId → Bool) (cues : τ → Bool) (r : Request τ) : Bool :=
  match r.remit? with
  | none => !(r matches .shutdown _)
  | some m =>
    if m.session = A then m.scope ≠ .network
    else !m.listener?.any (·.reaches sinks) && !r.cue?.any cues

theorem session_eq (h : r.isFor A = true) (hm : r.remit? = some m) : m.session = A := by
  simpa [isFor, hm] using h

theorem session_ne (h : r.isFor A = false) : ∃ m, r.remit? = some m ∧ m.session ≠ A := by
  unfold isFor at h
  cases hm : r.remit? with
  | none => simp [hm] at h
  | some m => exact ⟨m, rfl, by simpa [hm] using h⟩

/-- What `A` asks for looks at no other session. -/
theorem scope_ne_network (h : r.isBeside A sinks cues = true) (hm : r.remit? = some m)
    (hA : m.session = A) : m.scope ≠ .network := by
  simpa only [isBeside, hm, if_pos hA, decide_eq_true_eq] using h

/-- What others ask for has listeners and cues of their own. -/
theorem apart_of_ne (h : r.isBeside A sinks cues = true) (hm : r.remit? = some m)
    (hA : m.session ≠ A) :
    (∀ l, m.listener? = some l → l.reaches sinks = false) ∧
      ∀ b, r.cue? = some b → cues b = false := by
  simp only [isBeside, hm, if_neg hA, Bool.and_eq_true, Bool.not_eq_true', Option.any_eq_false] at h
  exact h

end Request

namespace Exchange

variable {A : SessionName} {sinks : SinkId → Bool} {cues : τ → Bool}

/-- The networks are the same for `A`, and the other sessions in the first hold no listener that
reaches the sinks. -/
structure SameFor (A : SessionName) (sinks : SinkId → Bool) (n n' : Network) : Prop where
  session : n.session A = n'.session A
  script : n.transport.SameScript n'.transport
  others : ∀ s, s ≠ A → ∀ l, (n.session s).Holds l → l.reaches sinks = false

variable {n n' : Network} {s : SessionName} {hs : List (SessionHook Listener)}

theorem SameFor.own_reports (h : SameFor A sinks n n') :
    SameFor A sinks (n.reportAll A hs).1 (n'.reportAll A hs).1 ∧
      (n.reportAll A hs).2 = (n'.reportAll A hs).2 := by
  refine ⟨⟨?_, h.script, fun s hne l hl => h.others s hne l ?_⟩, ?_⟩
  · rw [Network.session_reportAll, Network.session_reportAll, h.session]
  · rwa [Network.session_reportAll, if_neg (Ne.symm hne)] at hl
  · rw [Network.emitted_reportAll, Network.emitted_reportAll, h.session]

theorem SameFor.other_reports (h : SameFor A sinks n n') (hne : s ≠ A)
    (hl : ∀ k ∈ hs, ∀ l, k.listener? = some l → l.reaches sinks = false) :
    SameFor A sinks (n.reportAll s hs).1 n' ∧
      ∀ e ∈ (n.reportAll s hs).2, e.listener.reaches sinks = false := by
  refine ⟨⟨?_, h.script, fun s' hne' l hold => ?_⟩, fun e he => ?_⟩
  · rw [Network.session_reportAll, if_neg hne]
    exact h.session
  · rw [Network.session_reportAll] at hold
    split at hold
    · rcases SessionHook.holds_applyAll hold with hold | ⟨k, hk, hkl⟩
      · exact h.others s hne l hold
      · exact hl k hk l hkl
    · exact h.others s' hne' l hold
  · rcases SessionHook.holds_of_emittedAll he with hold | ⟨k, hk, hkl⟩
    · exact h.others s hne _ hold
    · exact hl k hk _ hkl

/-- What is asked for on behalf of `A`, or of the transport, against what other sessions ask for. -/
def bySession (A : SessionName) (sinks : SinkId → Bool) (cues : τ → Bool) : Division τ where
  allowed r := r.isBeside A sinks cues = true
  own r := r.isFor A
  agree := SameFor A sinks
  seen m := m.listener.reaches sinks
  cues := cues
  stays_open _ h := by cases h
  remit_of_other _ ho := (Request.session_ne ho).imp fun _ h => h.1
  cue_of_other ha ho hb := by
    obtain ⟨m, hm, hne⟩ := Request.session_ne ho
    exact (Request.apart_of_ne ha hm hne).2 _ hb
  alike := by
    intro r m n n' ha ho hm h
    have hs := Request.session_eq ho hm
    have hscope := Request.scope_ne_network ha hm hs
    unfold Remit.Alike
    split
    · next hn => exact absurd hn hscope
    · exact hs ▸ ⟨h.session, h.script⟩
    · rw [hs, h.session]
      exact ⟨.refl _ _, h.script⟩
  own_reports := by
    intro r m n n' hs _ ho hm _ h
    rw [Request.session_eq ho hm]
    exact h.own_reports
  other_reports := by
    intro r m n n' hs ha ho hm hallow h
    obtain ⟨m', hm', hne⟩ := Request.session_ne ho
    cases hm.symm.trans hm'
    exact h.other_reports hne fun k hk l hl =>
      (Request.apart_of_ne ha hm hne).1 l ((hallow k hk).2 l hl)
  transports hf h := ⟨h.session, hf _ _ h.script, h.others⟩

/-- Of the run without what other sessions ask for, `A` sees what it sees of the run. -/
theorem Chronicle.sessions_apart (o : Outside τ υ) (records : o.Records) (network : Network)
    (outside : υ) (callers : Nat) (A : SessionName) (sinks : SinkId → Bool) (cues : τ → Bool)
    (others : ∀ s, s ≠ A → ∀ l, (network.session s).Holds l → l.reaches sinks = false)
    (moves : List (Move τ)) (beside : ∀ x ∈ asked moves, x.2.isBeside A sinks cues = true) :
    ∃ moves', moves'.Sublist moves ∧ asked moves' = (asked moves).filter (·.2.isFor A) ∧
      let c := (start network outside callers).play o moves
      let c' := (start network outside callers).play o moves'
      c'.trace.Sublist c.trace ∧
      c'.trace.filter (·.2.shows (·.listener.reaches sinks) cues) =
        c.trace.filter (·.2.shows (·.listener.reaches sinks) cues) ∧
      c'.shared.network.session A = c.shared.network.session A := by
  have hstart : (bySession A sinks cues).agree network network :=
    ⟨rfl, .refl _, others⟩
  obtain ⟨moves', hs, ha, h⟩ := Division.exists_shadow records
    (Division.shadow_start hstart outside callers) moves beside
  exact ⟨moves', hs, ha, h.sublist, h.shown, h.alike.network.session.symm⟩

namespace Sample

def connecting (s : SessionName) (sink : SinkId) (back : Bool) : Task Bool :=
  ⟨s, .requestConnection ⟨"EP01"⟩ [] {} { sink := some sink }, back⟩

/-- Two clients connect to the same endpoint. One has lost it again while the other connects. -/
def mingled : List (Move Bool) :=
  [.ask 1 (.submit (connecting "B" 1 false)), .ask 0 (.submit (connecting "A" 0 true))] ++
    (List.replicate 4 [.step 2, .step 1]).flatten ++ List.replicate 20 (.step worker) ++
    [.ask 1 (.hook (.session "B" (.disconnected ⟨"EP01"⟩))), .step 2, .step 2] ++
    List.replicate 20 (.step worker)

end Sample

open Sample in
/-- Both clients hear of the endpoint, and only one hears that it is lost. -/
theorem Chronicle.same_endpoint_apart :
    let c := (start {} [] 2).play recorder mingled
    c.shared.outside.map (fun x => (x.1, x.2.kind)) =
      [(1, "Initiated"), (1, "Disconnected"), (0, "Initiated")] ∧
    ∃ moves', moves'.Sublist mingled ∧ asked moves' = [(0, .submit (connecting "A" 0 true))] ∧
      let c' := (start {} [] 2).play recorder moves'
      c'.trace.Sublist c.trace ∧
      c'.trace.filter (·.2.shows (·.listener.reaches (· = 0)) id) =
        c.trace.filter (·.2.shows (·.listener.reaches (· = 0)) id) ∧
      c'.shared.network.session "A" = c.shared.network.session "A" := by
  have h := sessions_apart recorder recorder_records {} [] 2 "A" (· = 0) id
    (fun _ _ _ h => (Session.not_holds_new 0 h).elim) mingled (by decide)
  exact ⟨by decide +kernel, h⟩

end Exchange

end Switchboard
