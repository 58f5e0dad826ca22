import Switchboard.Proofs.Exchange.RollBack

/-!
# Flags and relations

Whether every related endpoint has its flag. Reports keep it so, whenever they come. What does not
is to roll a request back: it removes the flag without looking at the relation, which the guard of
the request may not have noticed (`covered_iff`). The same goes for removing a flag by hand. Nothing
else parts a relation from its flag.
-/

namespace Switchboard

variable {τ υ : Type}

/-! ## Sessions -/

namespace Network

def Covered (n : Network) : Prop := ∀ s, (n.session s).Covered

def Proper (n : Network) : Prop := ∀ s, (n.session s).Proper

end Network

/-- The act removes the endpoint's flag without regard to the relation. -/
def Act.Unregisters (s : SessionName) (id : EndpointId) (a : Act τ) : Prop :=
  a.RollsBack s id ∨ a.Handles s (.removeFlag id)

namespace Exchange

section Step

variable {o : Outside τ υ} {me : Nat} {d d' : Desk τ υ} {act : Act τ} {acts : List (Act τ)}
  {name : SessionName} {s t : Session} {id : EndpointId}

theorem proper_touch (h : Touch act name s t) (hp : s.Proper) : t.Proper := by
  cases h with
  | none => exact hp
  | report hook _ | handle hook _ => exact Session.proper_apply hook hp
  | rollBack id _ => exact hp

/-- Whoever does not remove the flag without regard to the relation minds the endpoint. -/
theorem minds_touch (h : Touch act name s t) (hu : ¬ act.Unregisters name id) :
    Session.Minds s t id := by
  cases h with
  | none => exact .of_keeps (fun hn => hn) (fun hf => hf)
  | report hook hm => exact Session.minds_apply (hook.ne_removeFlag hm id) s
  | handle hook ha => exact Session.minds_apply (fun he => hu (.inr (he ▸ ha))) s
  | rollBack id' ha =>
    exact Session.minds_rollBack s fun he => hu (.inl (he ▸ ha))

/-- To remove a flag without regard to the relation leaves the relation as it is. -/
theorem unregisters_step (h : Effect o me d act d' acts) (hu : act.Unregisters name id) :
    (d'.network.session name).isRelated id = (d.network.session name).isRelated id ∧
      (d'.network.session name).isFlagged id = false := by
  rcases hu with hu | hu
  · rw [rollsBack_step h hu, Session.isRelated_rollBack, Session.isFlagged_rollBack]
    exact ⟨rfl, by simp⟩
  · have ht : d'.network.session name = (d.network.session name).removeFlag id := handles_step h hu
    rw [ht, Session.isRelated_removeFlag, Session.isFlagged_removeFlag]
    exact ⟨rfl, by simp⟩

theorem covered_step (h : Effect o me d act d' acts)
    (ht : ∀ k, Touch act k (d.network.session k) (d'.network.session k))
    (hp : d.network.Proper) (hc : d.network.Covered)
    (hu : ∀ s id, act.Unregisters s id → (d.network.session s).isRelated id = false) :
    d'.network.Covered := by
  intro k id hid
  by_cases ha : act.Unregisters k id
  · rw [(unregisters_step h ha).1, hu k id ha] at hid
    cases hid
  · exact (minds_touch (ht k) ha).isFlagged (hp k) (hc k id) hid

end Step

namespace Chronicle

/-! ## Runs -/

variable {c : Chronicle τ υ} {member : Nat} {act : Act τ} {rest acts : List (Act τ)}
  {o : Outside τ υ} {d : Desk τ υ}

/-- As long as no flag of a related endpoint is removed without regard to the relation, every
related endpoint has its flag. -/
theorem covered_play (o : Outside τ υ) (clients : List (SessionName × UInt64))
    (farewells : List (SessionName × EndpointId)) (outside : υ) (callers : Nat)
    (moves : List (Move τ)) :
    let c := (start (opening clients farewells) outside callers).play o moves
    (∀ m ∈ c.moments, ∀ s id, m.act.Unregisters s id →
        (m.before.network.session s).isRelated id = false) →
      ∀ m ∈ c.moments, m.after.network.Covered := by
  have key := play_induction o
    (P := fun c => c.Orderly ∧ c.shared.network.Proper ∧
      ((∀ m ∈ c.moments, ∀ s id, m.act.Unregisters s id →
          (m.before.network.session s).isRelated id = false) →
        c.shared.network.Covered ∧ ∀ m ∈ c.moments, m.after.network.Covered))
    (c := start (opening clients farewells) outside callers) ?_ ?_ ?_ moves
  · exact fun hu => (key.2.2 hu).2
  · rintro c member act rest acts d ⟨ho, hp, hc⟩ ha he
    have he := execute_effect he
    have ht := ho.touch ha he
    refine ⟨orderly_note ho ha he, fun k => proper_touch (ht k) (hp k), fun hu => ?_⟩
    obtain ⟨hd, hm⟩ := hc fun m hm => hu m (List.mem_append_left _ hm)
    have hlast := hu ⟨member, act, c.shared, d⟩ (List.mem_append_right _ List.mem_cons_self)
    have hd' : d.network.Covered := covered_step he ht hp hd hlast
    refine ⟨hd', fun m hmem => ?_⟩
    rcases List.mem_append.mp hmem with hmem | hmem
    · exact hm m hmem
    · rw [List.mem_singleton.mp hmem]
      exact hd'
  · exact fun caller r ⟨ho, hp, hc⟩ => ⟨orderly_ask caller r ho, hp, hc⟩
  · refine ⟨orderly_start _ farewells outside callers, fun k => ?_, fun _ => ⟨fun k => ?_, ?_⟩⟩
    · obtain ⟨i, hi⟩ := session_opening clients farewells k
      show ((opening clients farewells).session k).Proper
      rw [hi]
      exact fun id c hc => by cases hc
    · obtain ⟨i, hi⟩ := session_opening clients farewells k
      show ((opening clients farewells).session k).Covered
      rw [hi]
      exact fun id hid => by cases hid
    · exact fun m hm => by cases hm

end Chronicle

end Exchange

end Switchboard
