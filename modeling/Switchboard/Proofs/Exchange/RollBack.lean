import Switchboard.Proofs.Exchange.Guard

/-!
# Rolling back

What a request finds when it is rolled back. Neither look of its guard has found a relation, and the
body does nothing to the relation before it rolls back. An endpoint that is related by then owes it
to a report that has come after the second look, or in between the two (`unnoticed_play`).
-/

namespace Switchboard

variable {τ υ : Type}

namespace Exchange

/-- How far member `k` has come with its request `t`, given the moments so far, the session, and the
rest of the plan with the events kept back: it may roll back only after both looks of its guard, and
what they have not found has come in between. -/
inductive Watch (id : EndpointId) (k : Nat) (t : Task τ) (moments : List (Moment τ υ))
    (x : Session) : Job Status → List Emission → Prop where
  | begun : Watch id k t moments x (t.operation.body t.session) []
  | halfway {first : Moment τ υ} {since : List (Moment τ υ)} {info : List UInt8}
      {options : ConnectionOptions} {l : Listener}
      (hop : t.operation = .requestConnection id info options l)
      (h : LookedOnce id k t first since moments)
      (hx : x.isConnected id = true → ∃ y ∈ since, y.Brings t.session (·.isConnected id)) :
    Watch id k t moments x (Operation.pendingCheck t.session id info options l) []
  | slipped {plan : Job Status} {held : List Emission}
      (hf : plan.Follows (Revocable t.session id) true false) (h : Slipped id k t moments) :
    Watch id k t moments x plan held
  | passed {plan : Job Status} {held : List Emission} {first second : Moment τ υ}
      {between since : List (Moment τ υ)} (hf : plan.Follows (Revocable t.session id) true false)
      (h : LookedTwice id k t first between second since moments)
      (hn : (second.before.network.session t.session).isRelated id = false)
      (hx : x.isRelated id = true → ∃ y ∈ since, y.Brings t.session (·.isRelated id)) :
    Watch id k t moments x plan held
  | past {plan : Job Status} {held : List Emission}
      (hf : plan.Follows (Revocable t.session id) false false) :
    Watch id k t moments x plan held

section Step

variable {o : Outside τ υ} {me k : Nat} {d d' : Desk τ υ} {act : Act τ} {acts : List (Act τ)}
  {s : SessionName} {id : EndpointId} {t : Task τ} {moments : List (Moment τ υ)}
  {plan plan' : Job Status} {held held' : List Emission}

/-- Whoever else takes a step relates the endpoint by a report only. -/
theorem Watch.outside (h : Watch id k t moments (d.network.session t.session) plan held)
    (he : Effect o me d act d' acts) (hi : act.isInside = false) :
    Watch id k t (moments ++ [⟨me, act, d, d'⟩]) (d'.network.session t.session) plan held := by
  have hl : ∀ m ∈ [(⟨me, act, d, d'⟩ : Moment τ υ)], m.act.leaves = false :=
    List.forall_mem_singleton.mpr (Act.leaves_of_outside hi)
  have hb {f : Session → Bool}
      (hf : ∀ {x y : Session}, y.connections = x.connections → f y = f x)
      (hr : f (d'.network.session t.session) = true) :
      f (d.network.session t.session) = true ∨
        ∃ x : Moment τ υ, x ∈ [⟨me, act, d, d'⟩] ∧ x.Brings t.session f :=
    (brings_of_outside hf he hi hr).imp_right fun hm => ⟨_, List.mem_cons_self, hm⟩
  cases h with
  | begun => exact .begun
  | halfway hop h hx =>
    exact .halfway hop (h.append hl) <|
      brought_append hx (hb fun hc => Session.isConnected_congr (congrArg (·.get? id) hc))
  | slipped hf h => exact .slipped hf (h.append hl)
  | passed hf h hn hx =>
    exact .passed hf (h.append hl) hn <|
      brought_append hx (hb fun hc => Session.isRelated_congr hc id)
  | past hf => exact .past hf

/-- Whoever goes on with its request has found what it says it has. -/
theorem Watch.inside (h : Watch id k t moments (d.network.session t.session) plan held)
    (hop : t.operation.requests id) (he : Effect o k d (.inside (.operation t) plan held) d' acts)
    (hacts : acts = [.inside (.operation t) plan' held']) :
    Watch id k t (moments ++ [⟨k, .inside (.operation t) plan held, d, d'⟩])
      (d'.network.session t.session) plan' held' := by
  have hl : ∀ m ∈ [(⟨k, .inside (.operation t) plan held, d, d'⟩ : Moment τ υ)],
      m.act.leaves = false := by
    refine List.forall_mem_singleton.mpr ?_
    cases he with
    | leave => cases isInside_leaving (.operation t) _ held _ (hacts ▸ List.mem_cons_self)
    | look | act | await => rfl
  cases h with
  | begun =>
    obtain ⟨info, options, l, hop⟩ := Operation.eq_of_requests hop
    obtain ⟨hd, _, rfl, hfound⟩ :=
      LookedOnce.of_firstLook (m := ⟨k, _, d, d'⟩) moments rfl hop rfl he
    obtain rfl : d' = d := hd
    rcases hfound with rfl | ⟨rfl, honce⟩
    · cases hacts
      exact .past (.done _)
    · cases hacts
      exact .halfway hop honce fun hx => nomatch hx.symm.trans honce.found
  | @halfway first since info options l hop h hx =>
    obtain ⟨hd, _, rfl, hfound⟩ := h.secondLook (m := ⟨k, _, d, d'⟩) rfl hop rfl he hx
    obtain rfl : d' = d := hd
    rcases hfound with rfl | ⟨rfl, hs | ⟨htwice, hn⟩⟩
    · cases hacts
      exact .past (.done _)
    · cases hacts
      exact .slipped (Operation.flagCheck_revocable ..) hs
    · cases hacts
      exact .passed (Operation.flagCheck_revocable ..) htwice hn fun hr => nomatch hr.symm.trans hn
  | slipped hf h =>
    rcases follows_step hf he hacts with ⟨_, hf⟩ | ⟨_, may, _, _, hf⟩
    · exact .slipped hf (h.append hl)
    · cases may with
      | false => exact .past hf
      | true => exact .slipped hf (h.append hl)
  | passed hf h hn hx =>
    rcases follows_step hf he hacts with ⟨hd, hf⟩ | ⟨_, may, hc, hd, hf⟩
    · refine .passed hf (h.append hl) hn (brought_append hx fun hr => .inl ?_)
      rw [← hd]
      exact hr
    · cases may with
      | false => exact .past hf
      | true =>
        cases hc with
        | keep _ hk =>
          refine .passed hf (h.append hl) hn (brought_append hx fun hr => .inl ?_)
          rw [← hk, ← hd]
          exact hr
  | past hf =>
    rcases follows_step hf he hacts with ⟨_, hf⟩ | ⟨_, _, hc, _, hf⟩
    · exact .past hf
    · cases hc with
      | mind => exact .past hf

end Step

namespace Chronicle

/-- Whoever is inside with a request has come as far as its looks let it. -/
def Watchful (c : Chronicle τ υ) : Prop :=
  ∀ k t plan held rest, c.agenda k = .inside (.operation t) plan held :: rest →
    ∀ id, t.operation.requests id →
      Watch id k t c.moments (c.shared.network.session t.session) plan held

section Run

variable {c : Chronicle τ υ} {member : Nat} {act : Act τ} {rest acts : List (Act τ)}
  {o : Outside τ υ} {d : Desk τ υ} {s : SessionName} {id : EndpointId}

theorem watchful_note (ho : c.Orderly) (h : c.Watchful) (ha : c.agenda member = act :: rest)
    (he : Effect o member c.shared act d acts) : Watchful (c.note member act d (acts ++ rest)) := by
  intro k t plan held l hk id hop
  rcases inside_note ho.exclusive ha he hk with
    ⟨rfl, _, _, _, rfl, rfl⟩ | ⟨rfl, ⟨plan', held', rfl⟩, hacts⟩ | ⟨_, hi, hk⟩
  · exact .begun
  · exact (h k t plan' held' rest ha id hop).inside hop he hacts
  · exact (h k t plan held l hk id hop).outside he hi

theorem watchful_ask (ho : c.Orderly) (h : c.Watchful) (caller : Nat) (r : Request τ) :
    (c.ask caller r).Watchful := by
  intro k t plan held l hk id hop
  obtain ⟨l', hl⟩ := inside_ask ho.exclusive hk
  exact h k t plan held l' hl id hop

/-- Only a request rolls back, and only its own endpoint. -/
theorem own_of_rollsBack (ho : c.Orderly) (ha : c.agenda member = act :: rest)
    (hroll : act.RollsBack s id) : ∃ t next held, t.session = s ∧ t.operation.requests id ∧
      act = .inside (.operation t)
        (.act (fun n => (n.setSession s ((n.session s).rollBack id), [])) next) held := by
  obtain ⟨e, next, held, rfl⟩ := hroll
  have hown : e.own s id := by
    obtain ⟨k, _, hf⟩ := ho.held member e _ held rest ha
    obtain ⟨n, hn⟩ := exists_not_minds_rollBack s id
    cases hf with
    | act hc _ =>
      by_cases hown : e.own s id
      · exact hown
      · exact absurd (hc.minds hown n) hn
  cases e with
  | operation t => exact ⟨t, next, held, hown.1.symm, hown.2, rfl⟩
  | _ => exact hown.elim

/-- Whoever rolls an endpoint back that is related has not noticed. -/
theorem unnoticed_of_rollsBack (ho : c.Orderly) (h : c.Watchful)
    (ha : c.agenda member = act :: rest) (hroll : act.RollsBack s id)
    (hr : (c.shared.network.session s).isRelated id = true) :
    Unnoticed s id c.moments ⟨member, act, c.shared, d⟩ := by
  obtain ⟨t, next, held, rfl, hop, rfl⟩ := own_of_rollsBack ho ha hroll
  have hw := h member t _ held rest ha id hop
  refine ⟨t, rfl, rfl, ?_⟩
  generalize hplan : Plan.act (fun n => (n.setSession t.session
    ((n.session t.session).rollBack id), [])) next = plan at hw
  cases hw with
  | begun =>
    obtain ⟨info, options, l, hop⟩ := Operation.eq_of_requests hop
    rw [hop] at hplan
    cases hplan.trans (Operation.requestBody_eq ..)
  | halfway => cases hplan
  | slipped _ hs => exact .inl hs
  | passed _ htwice hn hx => exact .inr ⟨_, _, _, _, htwice, hn, hx hr⟩
  | past hf =>
    subst hplan
    cases hf with
    | act hc _ => cases hc.of_rollBack

end Run

theorem unnoticed_play (o : Outside τ υ) (sessions : Directory SessionName Session)
    (farewells : List (SessionName × EndpointId)) (outside : υ) (callers : Nat)
    (moves : List (Move τ)) {past later : List (Moment τ υ)} {m : Moment τ υ} {s : SessionName}
    {id : EndpointId}
    (hm : ((start ⟨sessions, { farewells := farewells }⟩ outside callers).play o moves).moments =
      past ++ m :: later)
    (hroll : m.act.RollsBack s id) (hr : (m.before.network.session s).isRelated id = true) :
    Unnoticed s id past m := by
  refine (play_induction o (P := fun c => c.Orderly ∧ c.Watchful ∧
    ∀ past m later, c.moments = past ++ m :: later → m.act.RollsBack s id →
      (m.before.network.session s).isRelated id = true → Unnoticed s id past m)
    ?_ ?_ ?_ moves).2.2 past m later hm hroll hr
  · rintro c member act rest acts d ⟨ho, hw, hc⟩ ha he
    have he := execute_effect he
    refine ⟨orderly_note ho ha he, watchful_note ho hw ha he, fun past m later heq hroll hr => ?_⟩
    rcases concat_eq_append_cons heq with ⟨_, rfl, rfl⟩ | ⟨later, _, heq⟩
    · exact unnoticed_of_rollsBack ho hw ha hroll hr
    · exact hc past m later heq hroll hr
  · exact fun caller r ⟨ho, hw, hc⟩ =>
      ⟨orderly_ask caller r ho, watchful_ask ho hw caller r, hc⟩
  · refine ⟨orderly_start sessions farewells outside callers, ?_, fun past m later heq => ?_⟩
    · intro k t plan held rest hk
      rw [agenda_start] at hk
      split at hk <;> cases hk
    · exact absurd heq.symm (by simp [start])

end Chronicle

end Exchange

end Switchboard
