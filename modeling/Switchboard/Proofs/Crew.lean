import Switchboard.Crew

/-!
# Agendas

What one step does to the agendas of a crew, and how many acts of a kind are still on them.
-/

namespace Switchboard.Crew

variable {σ A : Type}

theorem agendas_getElem?_of_agenda {c : Crew σ A} {member : Nat} {act : A} {rest : List A}
    (h : c.agenda member = act :: rest) : c.agendas[member]? = some (act :: rest) := by
  unfold agenda at h
  rw [List.getD_eq_getElem?_getD] at h
  cases e : c.agendas[member]? with
  | none => rw [e] at h; cases h
  | some l => rw [e] at h; exact congrArg some h

/-- One member has something to do, and nobody else. -/
theorem agenda_cons_replicate (s : σ) (l : List A) (n k : Nat) :
    Crew.agenda { shared := s, agendas := l :: List.replicate n [] } k =
      if k = 0 then l else [] := by
  unfold agenda
  rw [List.getD_eq_getElem?_getD]
  cases k with
  | zero => rfl
  | succ k =>
    simp only [List.getElem?_cons_succ, List.getElem?_replicate]
    split <;> rfl

theorem agenda_set {c : Crew σ A} {member : Nat} {act : A} {rest : List A}
    (h : c.agenda member = act :: rest) (s : σ) (acts : List A) (k : Nat) :
    Crew.agenda { shared := s, agendas := c.agendas.set member acts } k =
      if k = member then acts else c.agenda k := by
  have hm : member < c.agendas.length :=
    (List.getElem?_eq_some_iff.mp (agendas_getElem?_of_agenda h)).1
  unfold agenda
  rw [List.getD_eq_getElem?_getD, List.getElem?_set]
  by_cases e : member = k
  · subst e; simp [hm]
  · simp [e, Ne.symm e]

theorem agenda_assign (c : Crew σ A) (member : Nat) (acts : List A) (k : Nat) :
    (c.assign member acts).agenda k =
      if k = member ∧ member < c.agendas.length then c.agenda k ++ acts else c.agenda k := by
  unfold agenda assign
  simp only [List.getD_eq_getElem?_getD, List.getElem?_modify]
  by_cases e : k = member
  · subst e
    by_cases hk : k < c.agendas.length
    · simp [hk]
    · simp [hk]
  · simp [e, Ne.symm e]

theorem mem_agenda_assign {c : Crew σ A} {member k : Nat} {acts : List A} {a : A}
    (h : a ∈ (c.assign member acts).agenda k) : a ∈ c.agenda k ∨ (k = member ∧ a ∈ acts) := by
  rw [agenda_assign] at h
  split at h
  · next hk => exact (List.mem_append.mp h).imp id (fun ha => ⟨hk.1, ha⟩)
  · exact .inl h

/-! ## Tallies -/

/-- How many acts that pass `p` are still on the agendas. -/
def tally (p : A → Bool) (c : Crew σ A) : Nat := c.agendas.flatten.countP p

/-- A step counts what comes in place of the act instead of the act. -/
theorem tally_set {c : Crew σ A} {member : Nat} {act : A} {rest : List A}
    (h : c.agenda member = act :: rest) (s : σ) (acts : List A) (p : A → Bool) :
    tally p { shared := s, agendas := c.agendas.set member (acts ++ rest) } + [act].countP p =
      c.tally p + acts.countP p := by
  obtain ⟨hm, he⟩ := List.getElem?_eq_some_iff.mp (agendas_getElem?_of_agenda h)
  have hset := @List.exists_of_set _ member (acts ++ rest) c.agendas hm
  obtain ⟨before, after, hc, _, hs⟩ := hset
  unfold tally
  simp only [hs]
  rw [hc, he]
  simp only [List.flatten_append, List.flatten_cons, List.countP_append, List.countP_cons,
    List.countP_nil]
  omega

theorem tally_assign {c : Crew σ A} {member : Nat} {acts : List A} {p : A → Bool}
    (h : ∀ a ∈ acts, p a = false) : (c.assign member acts).tally p = c.tally p := by
  have hz : acts.countP p = 0 := List.countP_eq_zero.mpr (fun a ha => by simp [h a ha])
  unfold tally assign
  simp only
  rcases Nat.lt_or_ge member c.agendas.length with hm | hm
  · obtain ⟨before, l, after, hc, _, hs⟩ := List.exists_of_modify (· ++ acts) hm
    rw [hs, hc]
    simp only [List.flatten_append, List.flatten_cons, List.countP_append, hz]
    omega
  · rw [List.modify_eq_self hm]

theorem mem_agenda_of_mem_flatten {c : Crew σ A} {a : A} (h : a ∈ c.agendas.flatten) :
    ∃ k, a ∈ c.agenda k := by
  obtain ⟨l, hl, ha⟩ := List.mem_flatten.mp h
  obtain ⟨k, hk⟩ := List.mem_iff_getElem?.mp hl
  refine ⟨k, ?_⟩
  unfold agenda
  rwa [List.getD_eq_getElem?_getD, hk]

theorem mem_flatten_of_mem_agenda {c : Crew σ A} {k : Nat} {a : A} (h : a ∈ c.agenda k) :
    a ∈ c.agendas.flatten := by
  obtain ⟨act, rest, hk⟩ := List.exists_cons_of_ne_nil (List.ne_nil_of_mem h)
  have hget := agendas_getElem?_of_agenda hk
  exact List.mem_flatten.mpr ⟨_, List.mem_iff_getElem?.mpr ⟨k, hget⟩, hk ▸ h⟩

/-- Two ways of counting that agree on every agenda. -/
theorem tally_congr {c : Crew σ A} {p q : A → Bool}
    (h : ∀ k, ∀ a ∈ c.agenda k, p a = q a) : c.tally p = c.tally q := by
  refine List.countP_congr fun a ha => ?_
  obtain ⟨k, hk⟩ := mem_agenda_of_mem_flatten ha
  rw [h k a hk]

end Switchboard.Crew
