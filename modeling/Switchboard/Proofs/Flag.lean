import Switchboard.Session.Flag

/-!
# Which endpoints are cancelled

A board on which every registered flag exists and belongs to one endpoint only (`Sound`) is
cancelled at an endpoint by nothing but raising that endpoint's flag. One lemma for each change says
which endpoints are cancelled after it.
-/

namespace Switchboard.FlagBoard

/-- Registered flags exist, and no flag is registered twice. -/
structure Sound (b : FlagBoard) : Prop where
  index_lt : ∀ {id h}, b.handle? id = some h → h.index < b.raised.length
  eq_of_handle? : ∀ {id id' h}, b.handle? id = some h → b.handle? id' = some h → id = id'

/-! ## Cancelled endpoints -/

theorem isCancelled_iff {b : FlagBoard} {id : EndpointId} :
    b.isCancelled id = true ↔ ∃ h, b.handle? id = some h ∧ b.isRaised h = true := by
  unfold isCancelled
  cases b.handle? id with
  | none => simp
  | some h => simp

theorem isCancelled_register (b : FlagBoard) (id id' : EndpointId) :
    (b.register id).isCancelled id' = b.isCancelled id' := by
  unfold isCancelled
  rw [handle?_register]
  by_cases h : id = id'
  · subst h
    rw [if_pos rfl]
    cases hb : b.handle? id with
    | some h => exact isRaised_register b id h
    | none =>
      show (b.register id).isRaised b.make.1 = false
      rw [isRaised_register]
      simp [isRaised, make]
  · rw [if_neg h]
    cases b.handle? id' with
    | none => rfl
    | some h => exact isRaised_register b id h

theorem isCancelled_remove (b : FlagBoard) (id id' : EndpointId) :
    (b.remove id).isCancelled id' = (b.isCancelled id' && id != id') := by
  unfold isCancelled
  rw [handle?_remove]
  by_cases h : id = id'
  · simp [h]
  · rw [if_neg h]
    cases b.handle? id' <;> simp [h]

theorem isCancelled_raise {b : FlagBoard} (hb : b.Sound) (h : FlagHandle) (id : EndpointId) :
    (b.raise h).isCancelled id = true ↔ b.isCancelled id = true ∨ b.handle? id = some h := by
  rw [isCancelled_iff, isCancelled_iff]
  simp only [handle?_raise, isRaised_raise, Bool.or_eq_true, Bool.and_eq_true, decide_eq_true_eq,
    beq_iff_eq]
  constructor
  · rintro ⟨h', hh, hr | ⟨_, he⟩⟩
    · exact .inl ⟨h', hh, hr⟩
    · obtain rfl : h = h' := congrArg FlagHandle.mk he
      exact .inr hh
  · rintro (⟨h', hh, hr⟩ | hh)
    · exact ⟨h', hh, .inl hr⟩
    · exact ⟨h, hh, .inr ⟨hb.index_lt hh, rfl⟩⟩

theorem isCancelled_cancel {b : FlagBoard} (hb : b.Sound) (id id' : EndpointId) :
    (b.cancel id).isCancelled id' = true ↔
      b.isCancelled id' = true ∨ id = id' ∧ (b.handle? id').isSome = true := by
  unfold cancel
  split
  · next h hh =>
    rw [isCancelled_raise hb]
    refine or_congr_right ⟨fun he => ?_, fun ⟨he, _⟩ => he ▸ hh⟩
    exact ⟨hb.eq_of_handle? hh he, by rw [he]; rfl⟩
  · next hn =>
    refine ⟨.inl, fun h => h.resolve_right fun ⟨he, hs⟩ => ?_⟩
    rw [← he, hn] at hs
    cases hs

/-- A flag that has been raised stays raised, and all of a list of flags are raised in the end. -/
theorem isRaised_foldl_raise {b : FlagBoard} {h : FlagHandle} (hl : h.index < b.raised.length)
    (hs : List FlagHandle) (hh : b.isRaised h = true ∨ h ∈ hs) :
    (hs.foldl raise b).isRaised h = true := by
  induction hs generalizing b with
  | nil => exact hh.resolve_right List.not_mem_nil
  | cons x hs ih =>
    refine ih (b := b.raise x) ?_ ?_
    · simpa [raise] using hl
    · rw [isRaised_raise]
      rcases hh with hh | hh
      · exact .inl (by rw [hh]; rfl)
      · rcases List.mem_cons.mp hh with rfl | hh
        · exact .inl (by simp [hl])
        · exact .inr hh

theorem isCancelled_cancelAll {b : FlagBoard} (hb : b.Sound) (id : EndpointId) :
    b.cancelAll.isCancelled id = (b.handle? id).isSome := by
  unfold isCancelled
  rw [handle?_cancelAll]
  cases hh : b.handle? id with
  | none => rfl
  | some h =>
    have hm : h ∈ b.registered.values :=
      List.mem_map.mpr ⟨(id, h), Directory.mem_entries.mpr hh, rfl⟩
    exact isRaised_foldl_raise (hb.index_lt hh) _ (.inr hm)

/-! ## Soundness -/

theorem sound_empty : Sound {} := ⟨(by intro _ _ h; cases h), (by intro _ _ _ h; cases h)⟩

theorem length_foldl_raise (b : FlagBoard) (hs : List FlagHandle) :
    (hs.foldl raise b).raised.length = b.raised.length := by
  induction hs generalizing b with
  | nil => rfl
  | cons h hs ih =>
    rw [List.foldl_cons, ih]
    simp [raise]

/-- To raise flags changes nothing about where they are registered. -/
theorem sound_foldl_raise {b : FlagBoard} (hb : b.Sound) (hs : List FlagHandle) :
    (hs.foldl raise b).Sound := by
  constructor
  · intro id h hh
    rw [handle?_foldl_raise] at hh
    rw [length_foldl_raise]
    exact hb.index_lt hh
  · intro id id' h hh hh'
    rw [handle?_foldl_raise] at hh hh'
    exact hb.eq_of_handle? hh hh'

theorem sound_raise {b : FlagBoard} (hb : b.Sound) (h : FlagHandle) : (b.raise h).Sound :=
  sound_foldl_raise hb [h]

theorem sound_cancel {b : FlagBoard} (hb : b.Sound) (id : EndpointId) : (b.cancel id).Sound := by
  unfold cancel
  split
  · exact sound_raise hb _
  · exact hb

theorem sound_cancelAll {b : FlagBoard} (hb : b.Sound) : b.cancelAll.Sound :=
  sound_foldl_raise hb _

theorem sound_remove {b : FlagBoard} (hb : b.Sound) (id : EndpointId) : (b.remove id).Sound := by
  constructor
  · intro id' h hh
    rw [handle?_remove] at hh
    split at hh
    · cases hh
    · exact hb.index_lt hh
  · intro id₁ id₂ h h₁ h₂
    rw [handle?_remove] at h₁ h₂
    split at h₁
    · cases h₁
    split at h₂
    · cases h₂
    exact hb.eq_of_handle? h₁ h₂

theorem sound_clear (b : FlagBoard) : b.clear.Sound :=
  ⟨(by intro _ _ h; cases h), (by intro _ _ _ h; cases h)⟩

/-- A new flag is none of the registered ones. -/
theorem sound_register {b : FlagBoard} (hb : b.Sound) (id : EndpointId) :
    (b.register id).Sound := by
  cases hn : b.handle? id with
  | some h =>
    unfold register
    rw [hn]
    exact hb
  | none =>
    have hlen : (b.register id).raised.length = b.raised.length + 1 := by
      unfold register
      rw [hn]
      simp [make]
    have hnew : ∀ {id' h}, (b.register id).handle? id' = some h →
        (id = id' ∧ h.index = b.raised.length) ∨ b.handle? id' = some h := by
      intro id' h hh
      rw [handle?_register] at hh
      split at hh
      · next he =>
        rw [hn] at hh
        cases hh
        exact .inl ⟨he, rfl⟩
      · exact .inr hh
    constructor
    · intro id' h hh
      rw [hlen]
      rcases hnew hh with ⟨_, hi⟩ | hh
      · omega
      · exact Nat.lt_succ_of_lt (hb.index_lt hh)
    · intro id₁ id₂ h h₁ h₂
      rcases hnew h₁ with ⟨he₁, hi₁⟩ | h₁ <;> rcases hnew h₂ with ⟨he₂, hi₂⟩ | h₂
      · exact he₁.symm.trans he₂
      · have := hb.index_lt h₂
        omega
      · have := hb.index_lt h₁
        omega
      · exact hb.eq_of_handle? h₁ h₂

end Switchboard.FlagBoard
