/-!
# Crews

Several members work on one shared state, each through an agenda of its own. To execute an act
changes the state and may put further acts at the front of the agenda; an act that cannot go on yet
is blocked and leaves everything as it is. `Crew.step` is one act of one member, so that a run of
the crew is any interleaving of such steps.
-/

namespace Switchboard

/-- How a member executes an act: `none` if the act is blocked, else the new state and the acts
that take its place. -/
abbrev Execution (σ A : Type) := Nat → A → σ → Option (σ × List A)

structure Crew (σ A : Type) where
  shared : σ
  agendas : List (List A)

namespace Crew

variable {σ A : Type}

def agenda (c : Crew σ A) (member : Nat) : List A := c.agendas.getD member []

/-- Puts more work at the end of a member's agenda. -/
def assign (c : Crew σ A) (member : Nat) (acts : List A) : Crew σ A :=
  { c with agendas := c.agendas.modify member (· ++ acts) }

def step (exec : Execution σ A) (c : Crew σ A) (member : Nat) : Option (Crew σ A) :=
  match c.agenda member with
  | [] => none
  | act :: rest =>
    match exec member act c.shared with
    | none => none
    | some (shared, acts) =>
      some { shared := shared, agendas := c.agendas.set member (acts ++ rest) }

/-- One step of the first of the given members that can take one. -/
def stepFirst (exec : Execution σ A) (members : List Nat) (c : Crew σ A) : Option (Crew σ A) :=
  members.findSome? (c.step exec)

/-- Lets the members work, earlier ones first, until none can go on or the fuel is used up. -/
def settle (exec : Execution σ A) (members : List Nat) : Nat → Crew σ A → Crew σ A
  | 0, c => c
  | fuel + 1, c =>
    match c.stepFirst exec members with
    | none => c
    | some c => settle exec members fuel c

/-! ## Runs -/

/-- What a crew may come to when its members take steps in any order. -/
inductive Reaches (exec : Execution σ A) (c : Crew σ A) : Crew σ A → Prop where
  | refl : Reaches exec c c
  | step {d e : Crew σ A} (member : Nat) : Reaches exec c d → d.step exec member = some e →
      Reaches exec c e

theorem Reaches.trans {exec : Execution σ A} {c d e : Crew σ A} (h : Reaches exec c d)
    (h' : Reaches exec d e) : Reaches exec c e := by
  induction h' with
  | refl => exact h
  | step member _ hs ih => exact .step member ih hs

theorem reaches_of_stepFirst {exec : Execution σ A} {members : List Nat} {c d : Crew σ A}
    (h : c.stepFirst exec members = some d) : Reaches exec c d := by
  obtain ⟨member, _, hs⟩ := List.exists_of_findSome?_eq_some h
  exact .step member .refl hs

/-- Letting the members work is one of the possible runs. -/
theorem reaches_settle (exec : Execution σ A) (members : List Nat) (fuel : Nat) (c : Crew σ A) :
    Reaches exec c (settle exec members fuel c) := by
  induction fuel generalizing c with
  | zero => exact .refl
  | succ fuel ih =>
    unfold settle
    split
    · exact .refl
    · next d h => exact (reaches_of_stepFirst h).trans (ih d)

end Crew

end Switchboard
