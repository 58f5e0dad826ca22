import Switchboard.Hook
import Switchboard.Proofs.Flag

/-!
# Relations and flags of a session

What each report does to the relation and to the flag of one endpoint. Apart from removing a flag by
hand, a report leaves an endpoint without a connection, or it leaves a registered flag registered
and gives a new connection a flag (`minds_apply`). An endpoint is cancelled after a report if it was
and has kept its flag, or if the report cancels it and finds its flag (`isCancelled_apply`).
-/

namespace Switchboard

namespace SessionHook

variable {L : Type}

/-- Whether it changes flags by hand instead of reporting something. -/
def isManual : SessionHook L → Bool
  | removeFlag _ | cancel _ | cancelAll | raise _ => true
  | _ => false

/-- Whether it changes flags only. -/
def isFlagWork : SessionHook L → Bool
  | armFlag _ | removeFlag _ | cancel _ | cancelAll | raise _ => true
  | _ => false

theorem isManual_of_isFlagWork {h : SessionHook L} (hf : h.isFlagWork = false) :
    h.isManual = false := by
  cases h <;> first | rfl | cases hf

/-- Whether it raises the flag that is registered for the endpoint. -/
def Cancels (id : EndpointId) (s : Session) : SessionHook L → Prop
  | cancel id' => id' = id
  | cancelAll => True
  | raise flag => s.flags.handle? id = some flag
  | _ => False

theorem not_cancels {h : SessionHook L} (hm : h.isManual = false) (id : EndpointId) (s : Session) :
    ¬ h.Cancels id s := by
  intro hc
  cases h <;> first | exact hc | cases hm

theorem ne_removeFlag {h : SessionHook L} (hm : h.isManual = false) (id : EndpointId) :
    h ≠ .removeFlag id := by
  rintro rfl
  cases hm

end SessionHook

namespace Session

/-- Whether a flag is registered for the endpoint. -/
def isFlagged (s : Session) (id : EndpointId) : Bool := (s.flags.handle? id).isSome

/-- Whether there is a relation to the endpoint, pending or connected. -/
def isRelated (s : Session) (id : EndpointId) : Bool := s.isPending id || s.isConnected id

/-- Every related endpoint has a flag. -/
def Covered (s : Session) : Prop := ∀ id, s.isRelated id = true → s.isFlagged id = true

/-- Every connection stands for a relation. -/
def Proper (s : Session) : Prop := ∀ id c, s.connections.get? id = some c → c.relation ≠ .none

theorem isRelated_iff {s : Session} {id : EndpointId} :
    s.isRelated id = true ↔ ∃ c, s.connections.get? id = some c ∧ c.relation ≠ .none := by
  unfold isRelated
  rw [Bool.or_eq_true, isPending_iff, isConnected_iff]
  unfold relation
  cases h : s.connections.get? id with
  | none => simp
  | some c =>
    simp only [Option.some.injEq, exists_eq_left']
    cases c.relation <;> simp

theorem isRelated_of_get? {s : Session} {id : EndpointId} {c : Connection} (hp : s.Proper)
    (h : s.connections.get? id = some c) : s.isRelated id = true :=
  isRelated_iff.mpr ⟨c, h, hp id c h⟩

theorem isRelated_congr {s t : Session} (h : t.connections = s.connections) (id : EndpointId) :
    t.isRelated id = s.isRelated id := by
  unfold isRelated isPending isConnected relation
  rw [h]

theorem isConnected_congr {s t : Session} {id : EndpointId}
    (h : t.connections.get? id = s.connections.get? id) : t.isConnected id = s.isConnected id := by
  unfold isConnected relation
  rw [h]

theorem isRelated_removeFlag (s : Session) (id id' : EndpointId) :
    (s.removeFlag id).isRelated id' = s.isRelated id' := isRelated_congr rfl id'

theorem isRelated_rollBack (s : Session) (id id' : EndpointId) :
    (s.rollBack id).isRelated id' = s.isRelated id' := isRelated_congr rfl id'

/-! ## Flags -/

theorem isFlagged_armFlag (s : Session) (id id' : EndpointId) :
    (s.armFlag id).isFlagged id' = (s.isFlagged id' || id == id') := by
  unfold isFlagged armFlag
  simp only [FlagBoard.handle?_register]
  by_cases h : id = id'
  · simp [h]
  · simp [h]

theorem isFlagged_removeFlag (s : Session) (id id' : EndpointId) :
    (s.removeFlag id).isFlagged id' = (s.isFlagged id' && id != id') := by
  unfold isFlagged removeFlag
  simp only [FlagBoard.handle?_remove]
  by_cases h : id = id'
  · simp [h]
  · simp [h]

theorem isFlagged_rollBack (s : Session) (id id' : EndpointId) :
    (s.rollBack id).isFlagged id' = (s.isFlagged id' && id != id') := by
  unfold rollBack
  rw [isFlagged_removeFlag]
  unfold isFlagged cancel
  rw [FlagBoard.handle?_cancel]

/-! ## Reports -/

/-- How a report may treat an endpoint: it is left without a connection, or with any flag it had,
and a new connection comes with a flag. -/
def Minds (s t : Session) (id : EndpointId) : Prop :=
  t.connections.get? id = none ∨
    (s.isFlagged id = true → t.isFlagged id = true) ∧
      ((s.connections.get? id).isSome = true ∨ t.isFlagged id = true)

/-- A report that makes no connection and removes no flag. -/
theorem Minds.of_keeps {s t : Session} {id : EndpointId}
    (hc : s.connections.get? id = none → t.connections.get? id = none)
    (hf : s.isFlagged id = true → t.isFlagged id = true) : Minds s t id := by
  cases h : s.connections.get? id with
  | none => exact .inl (hc h)
  | some c => exact .inr ⟨hf, .inl (by rw [h]; rfl)⟩

theorem Minds.refl (s : Session) (id : EndpointId) : Minds s s id :=
  .of_keeps (fun hn => hn) (fun hf => hf)

/-- To roll back another endpoint's request minds this one. -/
theorem minds_rollBack (s : Session) {id id' : EndpointId} (h : id' ≠ id) :
    Minds s (s.rollBack id') id := by
  refine .of_keeps (fun hn => hn) (fun hf => ?_)
  rw [isFlagged_rollBack, hf]
  simp [h]

theorem minds_endConnection (s : Session) (id id' : EndpointId) (e : ConnectionEvent) :
    Minds s (s.endConnection id e).1 id' := by
  by_cases h : id = id'
  · exact .inl (by rw [get?_endConnection, if_pos h])
  · refine .of_keeps (fun hn => by rw [get?_endConnection, if_neg h, hn]) (fun hf => ?_)
    show (s.removeFlag id).isFlagged id' = true
    rw [isFlagged_removeFlag, hf]
    simp [h]

theorem minds_connectionInitiated (s : Session) (id id' : EndpointId) (info : ResponseInfo)
    (requester : Option Listener) :
    Minds s (s.connectionInitiated id info requester).1 id' := by
  unfold connectionInitiated
  split
  · exact .of_keeps (fun hn => hn) (fun hf => hf)
  · next l _ =>
    show Minds s { s.armFlag id with connections := s.connections.insert id _ } id'
    have hf : ∀ c, isFlagged { s.armFlag id with connections := c } id' =
        (s.isFlagged id' || id == id') := fun _ => isFlagged_armFlag s id id'
    by_cases h : id = id'
    · refine .inr ⟨fun _ => ?_, .inr ?_⟩ <;> rw [hf] <;> simp [h]
    · refine .of_keeps (fun hn => ?_) (fun hs => ?_)
      · rw [Directory.get?_insert_of_ne _ h, hn]
      · rw [hf, hs, Bool.true_or]

/-- Apart from the removal of its flag by hand, every report minds the endpoint. -/
theorem minds_apply {h : SessionHook Listener} {id : EndpointId} (hr : h ≠ .removeFlag id)
    (s : Session) : Minds s (h.apply s).1 id := by
  cases h with
  | connectionInitiated id' info l => exact minds_connectionInitiated s id' id info l
  | connectionRejected id' status => exact minds_endConnection s id' id _
  | disconnected id' => exact minds_endConnection s id' id _
  | reset => exact .inl rfl
  | removeFlag id' =>
    have hne : id' ≠ id := fun he => hr (he ▸ rfl)
    refine .of_keeps (fun hn => hn) (fun hf => ?_)
    show (s.removeFlag id').isFlagged id = true
    rw [isFlagged_removeFlag, hf]
    simp [hne]
  | localAccepted id' l =>
    refine .of_keeps (fun hn => ?_) (fun hf => hf)
    show (s.localAccepted id' l).connections.get? id = none
    rw [get?_localAccepted]
    split <;> simp_all
  | localRejected id' =>
    refine .of_keeps (fun hn => ?_) (fun hf => hf)
    show (s.localRejected id').connections.get? id = none
    rw [get?_localRejected]
    split <;> simp_all
  | connectionAccepted id' =>
    refine .of_keeps (fun hn => ?_) (fun hf => ?_)
    · show (s.connectionAccepted id').1.connections.get? id = none
      rw [get?_connectionAccepted]
      split <;> simp_all
    · show (s.connectionAccepted id').1.isFlagged id = true
      unfold connectionAccepted
      split <;> exact hf
  | armFlag id' =>
    refine .of_keeps (fun hn => hn) (fun hf => ?_)
    show (s.armFlag id').isFlagged id = true
    rw [isFlagged_armFlag, hf, Bool.true_or]
  | cancel id' =>
    refine .of_keeps (fun hn => hn) (fun hf => ?_)
    show ((s.flags.cancel id').handle? id).isSome = true
    rw [FlagBoard.handle?_cancel]
    exact hf
  | cancelAll =>
    refine .of_keeps (fun hn => hn) (fun hf => ?_)
    show (s.flags.cancelAll.handle? id).isSome = true
    rw [FlagBoard.handle?_cancelAll]
    exact hf
  | _ => exact .of_keeps (fun hn => hn) (fun hf => hf)

/-- No report makes up a connection without a relation. -/
theorem proper_apply (h : SessionHook Listener) {s : Session} (hp : s.Proper) :
    (h.apply s).1.Proper := by
  intro id c hc
  cases h with
  | connectionInitiated id' info l =>
    simp only [SessionHook.apply, connectionInitiated] at hc
    split at hc
    · exact hp id c hc
    · simp only [Directory.get?_insert] at hc
      split at hc
      · cases hc
        cases info.incoming <;> simp
      · exact hp id c hc
  | connectionRejected id' status =>
    simp only [SessionHook.apply, connectionRejected, get?_endConnection] at hc
    split at hc
    · cases hc
    · exact hp id c hc
  | disconnected id' =>
    simp only [SessionHook.apply, disconnected, get?_endConnection] at hc
    split at hc
    · cases hc
    · exact hp id c hc
  | reset => cases hc
  | localAccepted id' l =>
    simp only [SessionHook.apply, get?_localAccepted] at hc
    split at hc
    · next he =>
      obtain ⟨c', hc', rfl⟩ := Option.map_eq_some_iff.mp hc
      exact hp id' c' hc'
    · exact hp id c hc
  | localRejected id' =>
    simp only [SessionHook.apply, get?_localRejected] at hc
    split at hc
    · next he =>
      obtain ⟨c', hc', rfl⟩ := Option.map_eq_some_iff.mp hc
      exact hp id' c' hc'
    · exact hp id c hc
  | connectionAccepted id' =>
    simp only [SessionHook.apply, get?_connectionAccepted] at hc
    split at hc
    · next he =>
      obtain ⟨c', _, rfl⟩ := Option.map_eq_some_iff.mp hc
      simp
    · exact hp id c hc
  | _ => exact hp id c hc

/-- An endpoint that is minded has a flag afterwards if it is related. -/
theorem Minds.isFlagged {s t : Session} {id : EndpointId} (hm : Minds s t id) (hp : s.Proper)
    (hs : s.isRelated id = true → s.isFlagged id = true) (hr : t.isRelated id = true) :
    t.isFlagged id = true := by
  obtain ⟨c, hc, _⟩ := isRelated_iff.mp hr
  rcases hm with hn | ⟨hf, hr | hr⟩
  · rw [hc] at hn
    cases hn
  · obtain ⟨c', hc'⟩ := Option.isSome_iff_exists.mp hr
    exact hf (hs (isRelated_of_get? hp hc'))
  · exact hr

/-- Whoever minds an endpoint removes its flag only together with the relation. -/
theorem Minds.unflagged {s t : Session} {id : EndpointId} (hm : Minds s t id)
    (hs : s.isFlagged id = true) (ht : t.isFlagged id = false) : t.isRelated id = false := by
  cases hr : t.isRelated id with
  | false => rfl
  | true =>
    obtain ⟨c, hc, _⟩ := isRelated_iff.mp hr
    rcases hm with hn | ⟨hf, _⟩
    · rw [hc] at hn
      cases hn
    · rw [hf hs] at ht
      cases ht

/-! ## Cancelling -/

theorem isFlagged_of_isCancelled {s : Session} {id : EndpointId} (h : s.isCancelled id = true) :
    s.isFlagged id = true := by
  obtain ⟨flag, hf, _⟩ := FlagBoard.isCancelled_iff.mp h
  unfold isFlagged
  rw [hf]
  rfl

theorem isCancelled_removeFlag (s : Session) (id id' : EndpointId) :
    (s.removeFlag id).isCancelled id' = (s.isCancelled id' && id != id') :=
  FlagBoard.isCancelled_remove s.flags id id'

theorem isCancelled_armFlag (s : Session) (id id' : EndpointId) :
    (s.armFlag id).isCancelled id' = s.isCancelled id' :=
  FlagBoard.isCancelled_register s.flags id id'

theorem sound_apply (h : SessionHook Listener) {s : Session} (hs : s.flags.Sound) :
    (h.apply s).1.flags.Sound := by
  cases h with
  | connectionInitiated id info l =>
    simp only [SessionHook.apply, connectionInitiated]
    split
    · exact hs
    · exact FlagBoard.sound_register hs id
  | connectionAccepted id =>
    simp only [SessionHook.apply, connectionAccepted]
    split <;> exact hs
  | connectionRejected id | disconnected id | removeFlag id => exact FlagBoard.sound_remove hs id
  | armFlag id => exact FlagBoard.sound_register hs id
  | cancel id => exact FlagBoard.sound_cancel hs id
  | cancelAll => exact FlagBoard.sound_cancelAll hs
  | raise flag => exact FlagBoard.sound_raise hs flag
  | reset => exact FlagBoard.sound_clear s.flags
  | _ => exact hs

theorem sound_rollBack {s : Session} (hs : s.flags.Sound) (id : EndpointId) :
    (s.rollBack id).flags.Sound := FlagBoard.sound_remove (FlagBoard.sound_cancel hs id) id

/-- What is cancelled after a change that cancels endpoints of `C` only. -/
def Remembers (C : EndpointId → Prop) (s t : Session) : Prop :=
  ∀ id, t.isCancelled id = true ↔
    s.isCancelled id = true ∧ t.isFlagged id = true ∨ C id ∧ s.isFlagged id = true

theorem remembers_of_eq {s t : Session} (h : ∀ id, t.isCancelled id = s.isCancelled id) :
    Remembers (fun _ => False) s t := by
  intro id
  rw [false_and, or_false]
  constructor
  · exact fun ht => ⟨h id ▸ ht, isFlagged_of_isCancelled ht⟩
  · exact fun hs => (h id).trans hs.1

theorem remembers_removeFlag (s : Session) (id : EndpointId) :
    Remembers (fun _ => False) s (s.removeFlag id) := by
  intro id'
  rw [false_and, or_false, isCancelled_removeFlag, isFlagged_removeFlag, Bool.and_eq_true,
    Bool.and_eq_true]
  constructor
  · exact fun ⟨hc, hn⟩ => ⟨hc, isFlagged_of_isCancelled hc, hn⟩
  · exact fun ⟨hc, _, hn⟩ => ⟨hc, hn⟩

theorem remembers_rollBack {s : Session} (hs : s.flags.Sound) (id : EndpointId) :
    Remembers (fun _ => False) s (s.rollBack id) := by
  intro id'
  have hcancel : (s.cancel id).isCancelled id' = true ↔
      s.isCancelled id' = true ∨ id = id' ∧ s.isFlagged id' = true :=
    FlagBoard.isCancelled_cancel hs id id'
  rw [false_and, or_false, isFlagged_rollBack]
  unfold rollBack
  rw [isCancelled_removeFlag, Bool.and_eq_true, Bool.and_eq_true, hcancel, bne_iff_ne]
  constructor
  · rintro ⟨hc | ⟨he, _⟩, hn⟩
    · exact ⟨hc, isFlagged_of_isCancelled hc, hn⟩
    · exact absurd he hn
  · exact fun ⟨hc, _, hn⟩ => ⟨.inl hc, hn⟩

/-- An endpoint is cancelled after a report if it was and has kept its flag, or if the report
cancels it and finds its flag. -/
theorem isCancelled_apply (h : SessionHook Listener) {s : Session} (hs : s.flags.Sound) :
    Remembers (fun id => h.Cancels id s) s (h.apply s).1 := by
  have hsame : ∀ {id}, s.isCancelled id = true → s.isFlagged id = true :=
    isFlagged_of_isCancelled
  cases h with
  | connectionInitiated id info l =>
    refine remembers_of_eq fun id' => ?_
    simp only [SessionHook.apply, connectionInitiated]
    split
    · rfl
    · exact isCancelled_armFlag s id id'
  | connectionAccepted id =>
    refine remembers_of_eq fun id' => ?_
    simp only [SessionHook.apply, connectionAccepted]
    split <;> rfl
  | connectionRejected id | disconnected id | removeFlag id => exact remembers_removeFlag s id
  | armFlag id => exact remembers_of_eq (isCancelled_armFlag s id)
  | cancel id =>
    intro id'
    have hf : (s.cancel id).isFlagged id' = s.isFlagged id' := by
      unfold isFlagged cancel
      rw [FlagBoard.handle?_cancel]
    show (s.cancel id).isCancelled id' = true ↔ _
    refine (FlagBoard.isCancelled_cancel hs id id').trans (or_congr_left ?_)
    show _ ↔ _ ∧ (s.cancel id).isFlagged id' = true
    rw [hf]
    exact ⟨fun hc => ⟨hc, hsame hc⟩, And.left⟩
  | cancelAll =>
    intro id'
    show s.flags.cancelAll.isCancelled id' = true ↔ _
    rw [FlagBoard.isCancelled_cancelAll hs]
    exact ⟨fun hf => .inr ⟨trivial, hf⟩, fun h => h.elim (fun h => hsame h.1) And.right⟩
  | raise flag =>
    intro id'
    show (s.flags.raise flag).isCancelled id' = true ↔ _
    refine (FlagBoard.isCancelled_raise hs flag id').trans ?_
    constructor
    · rintro (hc | hf)
      · exact .inl ⟨hc, hsame hc⟩
      · exact .inr ⟨hf, by unfold isFlagged; rw [hf]; rfl⟩
    · rintro (⟨hc, _⟩ | ⟨hf, _⟩)
      · exact .inl hc
      · exact .inr hf
  | reset =>
    intro id'
    rw [or_iff_left (fun h => h.1)]
    constructor
    · intro h
      cases h
    · rintro ⟨_, h⟩
      cases h
  | _ => exact remembers_of_eq fun _ => rfl

end Session

end Switchboard
