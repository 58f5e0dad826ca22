import Switchboard.Proofs.Failure

/-!
# Registrations of flags

A flag is registered for its endpoint from the report that made it up to the first one that ends the
registration (`Registration`). Nothing but cancelling the endpoint, or all of them, in between
raises it, unless somebody raises the flag itself: this is what a handle shows, however long it is
kept (`handle_observes_registration`).

The two halves of a handle's life are `isRaised_registered`, as long as the flag is registered, and
`isRaised_retired`, from then on.
-/

namespace Switchboard

namespace FlagBoard

/-- A handle that has been handed out stands for a flag of the board. -/
def Has (b : FlagBoard) (h : FlagHandle) : Prop := h.index < b.raised.length

theorem isRaised_foldl_raise_iff {b : FlagBoard} {h : FlagHandle} (hh : b.Has h)
    (hs : List FlagHandle) :
    (hs.foldl raise b).isRaised h = true ↔ b.isRaised h = true ∨ h ∈ hs := by
  refine ⟨fun hr => ?_, isRaised_foldl_raise hh hs⟩
  induction hs generalizing b with
  | nil => exact .inl hr
  | cons x hs ih =>
    have hx : (b.raise x).Has h := by simpa [Has, raise] using hh
    refine (ih hx hr).elim (fun hr => ?_) fun hm => .inr (List.mem_cons_of_mem _ hm)
    rw [isRaised_raise, Bool.or_eq_true, Bool.and_eq_true, beq_iff_eq] at hr
    refine hr.imp id fun hrx => ?_
    rw [show h = x from congrArg FlagHandle.mk hrx.2.symm]
    exact List.mem_cons_self

theorem isRaised_raise_iff {b : FlagBoard} {h : FlagHandle} (hh : b.Has h) (x : FlagHandle) :
    (b.raise x).isRaised h = true ↔ b.isRaised h = true ∨ x = h := by
  have hall := isRaised_foldl_raise_iff hh [x]
  rwa [List.mem_singleton, eq_comm (a := h)] at hall

theorem isRaised_cancelAll_iff {b : FlagBoard} {h : FlagHandle} (hh : b.Has h) :
    b.cancelAll.isRaised h = true ↔ b.isRaised h = true ∨ ∃ id, b.handle? id = some h := by
  refine (isRaised_foldl_raise_iff hh _).trans (or_congr_right ?_)
  constructor
  · intro hm
    obtain ⟨⟨id, x⟩, he, rfl⟩ := List.mem_map.mp hm
    exact ⟨id, Directory.mem_entries.mp he⟩
  · rintro ⟨id, hid⟩
    exact List.mem_map.mpr ⟨(id, h), Directory.mem_entries.mpr hid, rfl⟩

theorem has_foldl_raise {b : FlagBoard} {h : FlagHandle} (hh : b.Has h) (hs : List FlagHandle) :
    (hs.foldl raise b).Has h := by
  unfold Has
  rwa [length_foldl_raise]

theorem has_cancel {b : FlagBoard} {h : FlagHandle} (hh : b.Has h) (id : EndpointId) :
    (b.cancel id).Has h := by
  unfold cancel
  split
  · exact has_foldl_raise hh [_]
  · exact hh

theorem isRaised_make (b : FlagBoard) : b.isRaised b.make.1 = false := by
  simp [isRaised, make]

/-- A registered flag is registered once. -/
theorem Sound.handle?_iff {b : FlagBoard} (hb : b.Sound) {id : EndpointId} {h : FlagHandle}
    (hid : b.handle? id = some h) (id' : EndpointId) : b.handle? id' = some h ↔ id' = id :=
  ⟨fun hid' => hb.eq_of_handle? hid' hid, fun he => he ▸ hid⟩

end FlagBoard

namespace SessionHook

variable {L : Type}

/-- Whether it registers a flag for the endpoint unless there is one. -/
def registers (id : EndpointId) (s : Session) : SessionHook Listener → Bool
  | armFlag id' => id' = id
  | connectionInitiated id' _ requester => id' = id && (s.listenerFor requester).isSome
  | _ => false

/-- Whether it ends the registration of the endpoint's flag. -/
def unregisters (id : EndpointId) : SessionHook L → Bool
  | removeFlag id' | connectionRejected id' _ | disconnected id' => id' = id
  | reset => true
  | _ => false

/-- Whether it cancels the endpoint, alone or with all others. -/
def callsOff (id : EndpointId) : SessionHook L → Bool
  | cancel id' => id' = id
  | cancelAll => true
  | _ => false

/-! ## One report -/

theorem handle?_apply (x : SessionHook Listener) (s : Session) (id : EndpointId) :
    (x.apply s).1.flags.handle? id =
      if x.unregisters id then none
      else (s.flags.handle? id).or (if x.registers id s then some s.flags.make.1 else none) := by
  have hregister : ∀ id', (s.flags.register id').handle? id =
      (s.flags.handle? id).or (if id' = id then some s.flags.make.1 else none) := by
    intro id'
    rw [FlagBoard.handle?_register]
    split
    · next he => subst he; cases s.flags.handle? id' <;> rfl
    · exact (Option.or_none ..).symm
  have hkept : ∀ {b : FlagBoard}, b.handle? id = s.flags.handle? id →
      b.handle? id = (s.flags.handle? id).or none :=
    fun hb => hb.trans (Option.or_none ..).symm
  cases x with
  | armFlag id' =>
    simp only [registers, decide_eq_true_eq]
    exact hregister id'
  | connectionInitiated id' info requester =>
    simp only [apply, Session.connectionInitiated, unregisters, registers]
    split
    · next hl => simp [hl]
    · next l hl =>
      simp only [hl, Option.isSome_some, Bool.and_true, decide_eq_true_eq]
      exact hregister id'
  | connectionRejected id' _ | disconnected id' | removeFlag id' =>
    show (s.flags.remove id').handle? id = _
    rw [FlagBoard.handle?_remove]
    simp [unregisters, registers]
  | reset => rfl
  | connectionAccepted id' =>
    simp only [apply, Session.connectionAccepted]
    split <;> exact hkept rfl
  | cancel id' => exact hkept (FlagBoard.handle?_cancel ..)
  | cancelAll => exact hkept (FlagBoard.handle?_cancelAll ..)
  | _ => exact hkept rfl

theorem isRaised_apply (x : SessionHook Listener) {s : Session} {h : FlagHandle}
    (hh : s.flags.Has h) :
    (x.apply s).1.flags.isRaised h = true ↔
      s.flags.isRaised h = true ∨
        (∃ id, s.flags.handle? id = some h ∧ x.callsOff id = true) ∨ x = .raise h := by
  have hkept (hr : (x.apply s).1.flags.isRaised h = s.flags.isRaised h)
      (hc : ∀ id, x.callsOff id = false) (hn : ∀ flag, x ≠ .raise flag) :
      (x.apply s).1.flags.isRaised h = true ↔ s.flags.isRaised h = true ∨
        (∃ id, s.flags.handle? id = some h ∧ x.callsOff id = true) ∨ x = .raise h := by
    simp [hr, hc, hn h]
  cases x with
  | armFlag id' =>
    exact hkept (FlagBoard.isRaised_register ..) (fun _ => rfl) fun _ he => by cases he
  | connectionInitiated id' info requester =>
    refine hkept ?_ (fun _ => rfl) fun _ he => by cases he
    simp only [apply, Session.connectionInitiated]
    split
    · rfl
    · exact FlagBoard.isRaised_register ..
  | connectionAccepted id' =>
    refine hkept ?_ (fun _ => rfl) fun _ he => by cases he
    simp only [apply, Session.connectionAccepted]
    split <;> rfl
  | cancel id' =>
    refine (FlagBoard.isRaised_cancel_iff hh).trans ?_
    simp [callsOff]
  | cancelAll =>
    refine (FlagBoard.isRaised_cancelAll_iff hh).trans ?_
    simp [callsOff]
  | raise flag =>
    refine (FlagBoard.isRaised_raise_iff hh flag).trans ?_
    simp [callsOff]
  | _ => exact hkept rfl (fun _ => rfl) fun _ he => by cases he

theorem unregisters_of_registers {x : SessionHook Listener} {id : EndpointId} {s : Session}
    (hr : x.registers id s = true) : x.unregisters id = false := by
  cases x <;> first | rfl | cases hr

/-- To register a flag raises none. -/
theorem isRaised_of_registers {x : SessionHook Listener} {id : EndpointId} {s : Session}
    (hr : x.registers id s = true) (h : FlagHandle) :
    (x.apply s).1.flags.isRaised h = s.flags.isRaised h := by
  cases x with
  | armFlag id' => exact FlagBoard.isRaised_register ..
  | connectionInitiated id' info requester =>
    simp only [apply, Session.connectionInitiated]
    split
    · rfl
    · exact FlagBoard.isRaised_register ..
  | _ => cases hr

/-- A handle stands for the same flag ever after. -/
theorem has_apply (x : SessionHook Listener) {s : Session} {h : FlagHandle}
    (hh : s.flags.Has h) : (x.apply s).1.flags.Has h := by
  have hregister : ∀ id, (s.flags.register id).Has h := fun id =>
    Nat.lt_of_lt_of_le hh (FlagBoard.length_le_register s.flags id)
  cases x with
  | armFlag id => exact hregister id
  | connectionInitiated id info requester =>
    simp only [apply, Session.connectionInitiated]
    split
    · exact hh
    · exact hregister id
  | connectionAccepted id =>
    simp only [apply, Session.connectionAccepted]
    split <;> exact hh
  | cancel id => exact FlagBoard.has_cancel hh id
  | cancelAll => exact FlagBoard.has_foldl_raise hh _
  | raise flag => exact FlagBoard.has_foldl_raise hh [flag]
  | _ => exact hh

/-- A flag is registered after a report where it was before, unless the report ends that: a new
registration has a flag of its own. -/
theorem handle?_apply_eq_some (x : SessionHook Listener) {s : Session} {h : FlagHandle}
    (hh : s.flags.Has h) (id : EndpointId) :
    (x.apply s).1.flags.handle? id = some h ↔
      s.flags.handle? id = some h ∧ x.unregisters id = false := by
  have hmake : s.flags.make.1 ≠ h := by
    rintro rfl
    exact Nat.lt_irrefl _ hh
  rw [handle?_apply]
  cases x.unregisters id with
  | true => simp
  | false =>
    rw [if_neg Bool.false_ne_true, and_iff_left rfl, Option.or_eq_some_iff]
    refine or_iff_left ?_
    rintro ⟨-, hm⟩
    split at hm
    · exact hmake (Option.some.inj hm)
    · cases hm

end SessionHook

namespace Session

open SessionHook

variable {s : Session} {id : EndpointId} {h : FlagHandle}

/-! ## The life of a handle -/

/-- A handle whose flag is registered nowhere any more keeps what it shows. -/
theorem isRaised_retired (hh : s.flags.Has h) (hn : ∀ id, s.flags.handle? id ≠ some h)
    (xs : List (SessionHook Listener)) :
    (∀ id, (applyAll s xs).1.flags.handle? id ≠ some h) ∧
      ((applyAll s xs).1.flags.isRaised h = true ↔
        s.flags.isRaised h = true ∨ .raise h ∈ xs) := by
  induction xs generalizing s with
  | nil => exact ⟨hn, by simp [applyAll]⟩
  | cons x xs ih =>
    have hn' : ∀ id, (x.apply s).1.flags.handle? id ≠ some h := fun id hid =>
      hn id ((handle?_apply_eq_some x hh id).mp hid).1
    obtain ⟨hlast, hr⟩ := ih (has_apply x hh) hn'
    have hcalled : ¬ ∃ id, s.flags.handle? id = some h ∧ x.callsOff id = true := by
      rintro ⟨id, hid, -⟩
      exact hn id hid
    refine ⟨hlast, hr.trans ?_⟩
    rw [isRaised_apply x hh, List.mem_cons, or_assoc, or_iff_right hcalled, eq_comm (b := x)]

/-- As long as a flag is registered it is raised by whatever cancels its endpoint. -/
theorem isRaised_registered (hs : s.flags.Sound) (hid : s.flags.handle? id = some h)
    (xs : List (SessionHook Listener)) :
    (∀ id', (applyAll s xs).1.flags.handle? id' = some h ↔
      id' = id ∧ ∀ x ∈ xs, x.unregisters id = false) ∧
      ((applyAll s xs).1.flags.isRaised h = true ↔
        s.flags.isRaised h = true ∨
          (∃ x ∈ xs.takeWhile (fun x => !x.unregisters id), x.callsOff id = true) ∨
          .raise h ∈ xs) := by
  induction xs generalizing s with
  | nil =>
    refine ⟨fun id' => ?_, by simp [applyAll]⟩
    rw [and_iff_left fun _ hx => absurd hx List.not_mem_nil]
    exact hs.handle?_iff hid id'
  | cons x xs ih =>
    have hh : s.flags.Has h := hs.index_lt hid
    have honly := hs.handle?_iff hid
    have hcalled : (∃ id', s.flags.handle? id' = some h ∧ x.callsOff id' = true) ↔
        x.callsOff id = true := by simp [honly]
    have hnext := handle?_apply_eq_some x hh
    have hraised := isRaised_apply x hh
    rw [hcalled] at hraised
    cases hu : x.unregisters id with
    | true =>
      have hgone : ∀ id', (x.apply s).1.flags.handle? id' ≠ some h := by
        intro id' hid'
        obtain ⟨hid', hu'⟩ := (hnext id').mp hid'
        rw [(honly id').mp hid', hu] at hu'
        cases hu'
      have hcall : x.callsOff id = false := by cases x <;> first | rfl | cases hu
      obtain ⟨hlast, hr⟩ := isRaised_retired (has_apply x hh) hgone xs
      refine ⟨fun id' => iff_of_false (hlast id') ?_, hr.trans ?_⟩
      · rintro ⟨-, hall⟩
        rw [hall x List.mem_cons_self] at hu
        cases hu
      · simp [hraised, hcall, hu, or_assoc, eq_comm (b := x)]
    | false =>
      have hid' := (hnext id).mpr ⟨hid, hu⟩
      obtain ⟨hlast, hr⟩ := ih (sound_apply x hs) hid'
      refine ⟨fun id' => (hlast id').trans ?_, hr.trans ?_⟩
      · simp [hu]
      · rw [hraised, List.takeWhile_cons_of_pos (by simp [hu])]
        grind

/-- What a session has come to that began with nothing. -/
theorem sound_applyAll (xs : List (SessionHook Listener)) (hs : s.flags.Sound) :
    (applyAll s xs).1.flags.Sound := by
  induction xs generalizing s with
  | nil => exact hs
  | cons x xs ih => exact ih (sound_apply x hs)

/-! ## Registrations -/

/-- After the reports of `before` the endpoint has a flag that was registered by `start`, at a
moment when there was none, and nothing in `since` has ended the registration. -/
structure Registration (s : Session) (id : EndpointId) (before past : List (SessionHook Listener))
    (start : SessionHook Listener) (since : List (SessionHook Listener)) : Prop where
  split : before = past ++ start :: since
  vacant : (applyAll s past).1.flags.handle? id = none
  starts : start.registers id (applyAll s past).1 = true
  lasts : ∀ x ∈ since, x.unregisters id = false

variable {start : SessionHook Listener} {before past since : List (SessionHook Listener)}

theorem Registration.cons {x : SessionHook Listener}
    (h : Registration (x.apply s).1 id before past start since) :
    Registration s id (x :: before) (x :: past) start since :=
  ⟨congrArg (x :: ·) h.split, h.vacant, h.starts, h.lasts⟩

/-- A registration begins with a new flag that is not raised. -/
theorem Registration.begins (hr : Registration s id before past start since) :
    (applyAll s (past ++ [start])).1.flags.handle? id = some (applyAll s past).1.flags.make.1 ∧
      (applyAll s (past ++ [start])).1.flags.isRaised (applyAll s past).1.flags.make.1 = false := by
  have hstart : (applyAll s (past ++ [start])).1 = (start.apply (applyAll s past).1).1 := by
    simp only [applyAll_append, applyAll]
  rw [hstart]
  constructor
  · rw [handle?_apply, unregisters_of_registers hr.starts, hr.vacant, hr.starts]
    rfl
  · rw [isRaised_of_registers hr.starts]
    exact FlagBoard.isRaised_make _

/-- Where the flag of a registration is registered, and what has raised it, at any later time. -/
theorem Registration.observed (hr : Registration s id before past start since)
    (hs : s.flags.Sound) (after : List (SessionHook Listener)) :
    let h := (applyAll s past).1.flags.make.1
    let t := (applyAll s (before ++ after)).1
    (∀ id', t.flags.handle? id' = some h ↔ id' = id ∧ ∀ x ∈ after, x.unregisters id = false) ∧
      (t.flags.isRaised h = true ↔
        (∃ x ∈ since ++ after.takeWhile (fun x => !x.unregisters id), x.callsOff id = true) ∨
          .raise h ∈ since ++ after) := by
  intro h t
  obtain ⟨hid, hlow⟩ := hr.begins
  have ht : t = (applyAll (applyAll s (past ++ [start])).1 (since ++ after)).1 := by
    simp only [t, hr.split, applyAll_append, applyAll]
  obtain ⟨hwhere, hraised⟩ := isRaised_registered (sound_applyAll _ hs) hid (since ++ after)
  rw [ht]
  constructor
  · intro id'
    rw [hwhere id', List.forall_mem_append, and_iff_right hr.lasts]
  · rw [hraised, hlow, or_iff_right Bool.false_ne_true,
      List.takeWhile_append_of_pos fun x hx => by rw [hr.lasts x hx]; rfl]

/-- A registered flag was registered from the beginning, or it has a registration. -/
theorem registration_of_handle?
    (hid : (applyAll s before).1.flags.handle? id = some h) :
    (s.flags.handle? id = some h ∧ ∀ x ∈ before, x.unregisters id = false) ∨
      ∃ past start since, Registration s id before past start since ∧
        h = (applyAll s past).1.flags.make.1 := by
  induction before generalizing s with
  | nil => exact .inl ⟨hid, fun _ hx => absurd hx List.not_mem_nil⟩
  | cons x before ih =>
    rcases ih hid with ⟨hx, hlasts⟩ | ⟨past, start, since, hr, hm⟩
    · rw [handle?_apply] at hx
      split at hx
      · cases hx
      next hu =>
      rcases Option.or_eq_some_iff.mp hx with hx | ⟨hv, hx⟩
      · exact .inl ⟨hx, List.forall_mem_cons.mpr ⟨by simpa using hu, hlasts⟩⟩
      · split at hx
        next hreg => exact .inr ⟨[], x, before, ⟨rfl, hv, hreg, hlasts⟩, (Option.some.inj hx).symm⟩
        next => cases hx
    · exact .inr ⟨x :: past, start, since, hr.cons, hm⟩

/-- What stands behind an entry that fails the test is not looked at. -/
theorem takeWhile_cut {α : Type} {p : α → Bool} {l r : List α} {a : α} (ha : ¬ p a = true) :
    (l ++ a :: r).takeWhile p = l.takeWhile p := by
  rw [List.takeWhile_append, List.takeWhile_cons_of_neg ha, List.append_nil]
  split
  · next hl => exact ((List.takeWhile_prefix p).eq_of_length hl).symm
  · rfl

/-- Whoever takes a handle to the flag of an endpoint holds the flag of one registration. It is a
new flag, not raised when the registration begins; it is registered for this endpoint until the
registration ends, and nowhere else or later. At any time the handle shows whether this endpoint, or
all of them, have been cancelled between the beginning and the end of the registration, or the flag
itself has been raised by hand. So it stays raised, and once the registration has ended what happens
to the endpoint changes it no more. -/
theorem handle_observes_registration (i : UInt64) (before : List (SessionHook Listener))
    (id : EndpointId) (h : FlagHandle)
    (hid : (applyAll { clientId := i } before).1.flags.handle? id = some h) :
    ∃ past start since, Registration { clientId := i } id before past start since ∧
      (applyAll { clientId := i } (past ++ [start])).1.flags.handle? id = some h ∧
      (applyAll { clientId := i } (past ++ [start])).1.flags.isRaised h = false ∧
      ∀ after, let s := (applyAll { clientId := i } (before ++ after)).1
        (∀ id', s.flags.handle? id' = some h ↔
          id' = id ∧ ∀ x ∈ after, x.unregisters id = false) ∧
        (s.flags.isRaised h = true ↔
          (∃ x ∈ since ++ after.takeWhile (fun x => !x.unregisters id), x.callsOff id = true) ∨
            .raise h ∈ since ++ after) ∧
        ((applyAll { clientId := i } before).1.flags.isRaised h = true →
          s.flags.isRaised h = true) ∧
        ∀ during stop rest, after = during ++ stop :: rest → stop.unregisters id = true →
          .raise h ∉ stop :: rest →
          s.flags.isRaised h =
            (applyAll { clientId := i } (before ++ during)).1.flags.isRaised h := by
  rcases registration_of_handle? hid with ⟨hnone, _⟩ | ⟨past, start, since, hr, rfl⟩
  · cases hnone
  obtain ⟨hbegin, hlow⟩ := hr.begins
  have hseen := hr.observed FlagBoard.sound_empty
  have hbefore := (hseen []).2
  rw [List.takeWhile_nil, List.append_nil, List.append_nil] at hbefore
  refine ⟨past, start, since, hr, hbegin, hlow, fun after =>
    ⟨(hseen after).1, (hseen after).2, fun hraised => (hseen after).2.mpr ?_, ?_⟩⟩
  · rcases hbefore.mp hraised with ⟨x, hx, hc⟩ | hm
    · exact .inl ⟨x, List.mem_append_left _ hx, hc⟩
    · exact .inr (List.mem_append_left _ hm)
  · rintro during stop rest rfl hstop hrest
    refine Bool.eq_iff_iff.mpr ((hseen _).2.trans (Iff.trans ?_ (hseen during).2.symm))
    rw [takeWhile_cut (by simp [hstop]), ← List.append_assoc,
      List.mem_append (s := since ++ during), or_iff_left hrest]

/-- A handle to a cancelled flag, kept while its registration ends and the next one begins. -/
theorem cancelled_handle_kept :
    let before := [.armFlag ⟨"EP01"⟩, .cancelAll]
    let after := [.disconnected ⟨"EP01"⟩, .armFlag ⟨"EP01"⟩]
    (applyAll { clientId := 1 } before).1.flags.handle? ⟨"EP01"⟩ = some ⟨0⟩ ∧
      (applyAll { clientId := 1 } before).1.flags.isRaised ⟨0⟩ = true ∧
      (applyAll { clientId := 1 } (before ++ after)).1.flags.isRaised ⟨0⟩ = true ∧
      (applyAll { clientId := 1 } (before ++ after)).1.flags.handle? ⟨"EP01"⟩ ≠ some ⟨0⟩ := by
  intro before after
  have hid : (applyAll { clientId := 1 } before).1.flags.handle? ⟨"EP01"⟩ = some ⟨0⟩ := by decide
  have hraised : (applyAll { clientId := 1 } before).1.flags.isRaised ⟨0⟩ = true := by decide
  obtain ⟨_, _, _, _, _, _, h⟩ := handle_observes_registration 1 before ⟨"EP01"⟩ ⟨0⟩ hid
  obtain ⟨hwhere, _, hstays, _⟩ := h after
  refine ⟨hid, hraised, hstays hraised, fun hsame => ?_⟩
  have hlasts := ((hwhere ⟨"EP01"⟩).mp hsame).2 _ List.mem_cons_self
  cases hlasts

end Session

end Switchboard
