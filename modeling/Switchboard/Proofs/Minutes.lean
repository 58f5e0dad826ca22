import Switchboard.Proofs.Crew

/-!
# Minutes

What a crew has done: every act that was executed, oldest first, beside the crew as it stands. A
member that cannot go on, or has nothing to do, lets its turn pass.
-/

namespace Switchboard.Crew

/-- An act that was executed, with the shared state before and after it. -/
structure Moment (σ A : Type) where
  member : Nat
  act : A
  before : σ
  after : σ

structure Minutes (σ A : Type) where
  crew : Crew σ A
  moments : List (Moment σ A) := []

namespace Minutes

variable {σ A : Type}

def shared (m : Minutes σ A) : σ := m.crew.shared

def agenda (m : Minutes σ A) (member : Nat) : List A := m.crew.agenda member

/-- How many acts that pass `p` are still to be executed. -/
def tally (p : A → Bool) (m : Minutes σ A) : Nat := m.crew.tally p

/-- The member has executed `act`, which left the state as `s` and `agenda` to be done. -/
def note (m : Minutes σ A) (member : Nat) (act : A) (s : σ) (agenda : List A) : Minutes σ A :=
  { crew := { shared := s, agendas := m.crew.agendas.set member agenda }
    moments := m.moments ++ [⟨member, act, m.shared, s⟩] }

def turn (exec : Execution σ A) (m : Minutes σ A) (member : Nat) : Minutes σ A :=
  match m.agenda member with
  | [] => m
  | act :: rest =>
    match exec member act m.shared with
    | none => m
    | some (s, acts) => m.note member act s (acts ++ rest)

/-- A member is given more to do. -/
def give (m : Minutes σ A) (member : Nat) (acts : List A) : Minutes σ A :=
  { m with crew := m.crew.assign member acts }

section Turn

variable {exec : Execution σ A} {m : Minutes σ A} {member : Nat} {act : A} {rest acts : List A}
  {s : σ}

theorem turn_eq_note (ha : m.agenda member = act :: rest)
    (he : exec member act m.shared = some (s, acts)) :
    m.turn exec member = m.note member act s (acts ++ rest) := by
  simp only [turn, ha, he]

/-- Whoever cannot go on lets the turn pass. -/
theorem turn_of_none (ha : m.agenda member = act :: rest) (he : exec member act m.shared = none) :
    m.turn exec member = m := by
  simp only [turn, ha, he]

/-- A turn passes, or an act is executed. -/
theorem turn_cases (exec : Execution σ A) (m : Minutes σ A) (member : Nat) :
    m.turn exec member = m ∨
      ∃ act rest s acts, m.agenda member = act :: rest ∧
        exec member act m.shared = some (s, acts) ∧
        m.turn exec member = m.note member act s (acts ++ rest) := by
  cases ha : m.agenda member with
  | nil => exact .inl (by simp only [turn, ha])
  | cons act rest =>
    cases he : exec member act m.shared with
    | none => exact .inl (turn_of_none ha he)
    | some r => exact .inr ⟨act, rest, r.1, r.2, rfl, he, turn_eq_note ha he⟩

theorem crew_turn_of_step {c : Crew σ A} (h : m.crew.step exec member = some c) :
    (m.turn exec member).crew = c := by
  unfold step at h
  split at h
  · cases h
  · next act rest ha =>
    split at h
    · cases h
    · next s acts he =>
      cases h
      rw [turn_eq_note ha he]
      rfl

/-- Whatever a crew may come to, it comes to by turns. -/
theorem exists_turns_of_reaches {c : Crew σ A} (h : Reaches exec m.crew c) :
    ∃ members : List Nat, (members.foldl (turn exec) m).crew = c := by
  induction h with
  | refl => exact ⟨[], rfl⟩
  | step member _ hstep ih =>
    obtain ⟨members, rfl⟩ := ih
    refine ⟨members ++ [member], ?_⟩
    rw [List.foldl_append]
    exact crew_turn_of_step hstep

end Turn

@[simp] theorem shared_note (m : Minutes σ A) (member : Nat) (act : A) (s : σ) (l : List A) :
    (m.note member act s l).shared = s := rfl

@[simp] theorem shared_give (m : Minutes σ A) (member : Nat) (acts : List A) :
    (m.give member acts).shared = m.shared := rfl

@[simp] theorem moments_note (m : Minutes σ A) (member : Nat) (act : A) (s : σ) (l : List A) :
    (m.note member act s l).moments = m.moments ++ [⟨member, act, m.shared, s⟩] := rfl

@[simp] theorem moments_give (m : Minutes σ A) (member : Nat) (acts : List A) :
    (m.give member acts).moments = m.moments := rfl

section Agendas

variable {m : Minutes σ A} {member : Nat} {act : A} {rest : List A}

theorem agenda_note (h : m.agenda member = act :: rest) (s : σ) (l : List A) (k : Nat) :
    (m.note member act s l).agenda k = if k = member then l else m.agenda k :=
  agenda_set h s l k

theorem agenda_note_self (h : m.agenda member = act :: rest) (s : σ) (l : List A) :
    (m.note member act s l).agenda member = l := (agenda_note h s l member).trans (if_pos rfl)

/-- What is on an agenda after a step was there before or has come of the act. -/
theorem mem_agenda_note (h : m.agenda member = act :: rest) {s : σ} {acts : List A} {k : Nat}
    {a : A} (ha : a ∈ (m.note member act s (acts ++ rest)).agenda k) :
    a ∈ m.agenda k ∨ (k = member ∧ a ∈ acts) := by
  rw [agenda_note h] at ha
  split at ha
  · next hk =>
    rcases List.mem_append.mp ha with ha | ha
    · exact .inr ⟨hk, ha⟩
    · exact .inl (hk ▸ h ▸ List.mem_cons_of_mem _ ha)
  · exact .inl ha

theorem mem_agenda_give {k : Nat} {acts : List A} {a : A}
    (h : a ∈ (m.give member acts).agenda k) : a ∈ m.agenda k ∨ (k = member ∧ a ∈ acts) :=
  mem_agenda_assign h

/-- What a member is given comes last. -/
theorem agenda_give (m : Minutes σ A) (member : Nat) (acts : List A) (k : Nat) :
    (m.give member acts).agenda k = m.agenda k ∨
      (m.give member acts).agenda k = m.agenda k ++ acts := by
  by_cases h : k = member ∧ member < m.crew.agendas.length
  · exact .inr ((agenda_assign ..).trans (if_pos h))
  · exact .inl ((agenda_assign ..).trans (if_neg h))

theorem agenda_give_of_ne {k : Nat} (h : k ≠ member) (m : Minutes σ A) (acts : List A) :
    (m.give member acts).agenda k = m.agenda k :=
  (agenda_assign ..).trans (if_neg fun hk => h hk.1)

theorem tally_note (h : m.agenda member = act :: rest) (s : σ) (acts : List A) (p : A → Bool) :
    (m.note member act s (acts ++ rest)).tally p + [act].countP p = m.tally p + acts.countP p :=
  tally_set h s acts p

theorem tally_give {p : A → Bool} {acts : List A} (h : ∀ a ∈ acts, p a = false)
    (m : Minutes σ A) (member : Nat) : (m.give member acts).tally p = m.tally p :=
  tally_assign h

end Agendas

end Minutes

end Switchboard.Crew
