import Switchboard.Delivery

/-!
# Diaries

A diary is a floor on which every event that is emitted and every scope that is opened has a number,
with an entry for whatever happens to them, oldest first. `Program.write` is `Program.run` with a
diary: without the numbers and the entries the two are the same (`Program.floor_write`).
-/

namespace Switchboard

/-- An event with its number in the order of emission. -/
structure Item (σ : Type) where
  number : Nat
  /-- The event whose sink has emitted this one, unless the program itself has. -/
  source : Option Nat
  event : Deed σ

structure HoldScope (σ : Type) where
  number : Nat
  /-- What it has kept back, oldest first. -/
  kept : List (Item σ) := []

def HoldScope.held {σ : Type} (s : HoldScope σ) : Held σ := s.kept.map Item.event

inductive Entry (σ : Type) where
  /-- An event is emitted; `scope` is the number of the scope that keeps it back, if one does. -/
  | emitted (item : Item σ) (scope : Option Nat)
  /-- The sink of the event is called with it. -/
  | reached (item : Item σ) (scope : Option Nat)
  /-- A scope is opened; `enclosing` is the scope around it, with what that has kept back. -/
  | opened (scope : Nat) (enclosing : Option (HoldScope σ))
  /-- A scope is left and has told how many events it has kept back; `enclosing` is open again. -/
  | closed (scope : Nat) (count : Nat) (enclosing : Option (HoldScope σ)) (fate : Fate)
  /-- What was put aside under the name is to be delivered. -/
  | called (name : String)
  /-- The delivery of what a scope has kept back begins. -/
  | delivered (scope : Nat)
  | finished (scope : Nat)

structure Diary (σ : Type) where
  outside : σ
  /-- The innermost open scope. -/
  scope : Option (HoldScope σ) := none
  /-- Closed scopes that were put aside. -/
  aside : List (String × HoldScope σ) := []
  /-- How many events have been emitted. -/
  events : Nat := 0
  /-- How many scopes have been opened. -/
  scopes : Nat := 0
  entries : List (Entry σ) := []

namespace Diary

variable {σ : Type}

def note (e : Entry σ) (d : Diary σ) : Diary σ := { d with entries := d.entries ++ [e] }

def change (f : σ → σ) (d : Diary σ) : Diary σ := { d with outside := f d.outside }

/-- The event that is emitted next. -/
def next (source : Option Nat) (event : Deed σ) (d : Diary σ) : Item σ := ⟨d.events, source, event⟩

def announce (source : Option Nat) (event : Deed σ) (scope : Option Nat) (d : Diary σ) : Diary σ :=
  { d with
    events := d.events + 1
    entries := d.entries ++ [.emitted (d.next source event) scope] }

/-- The open scope `s` keeps an event back. -/
def keep (s : HoldScope σ) (source : Option Nat) (event : Deed σ) (d : Diary σ) : Diary σ :=
  { d.announce source event (some s.number) with
    scope := some { s with kept := s.kept ++ [d.next source event] } }

/-- An event goes to its sink at once. -/
def pass (source : Option Nat) (event : Deed σ) (d : Diary σ) : Diary σ :=
  (d.announce source event none).note (.reached (d.next source event) none)

def enter (d : Diary σ) : Diary σ :=
  { d with
    scope := some { number := d.scopes }
    scopes := d.scopes + 1
    entries := d.entries ++ [.opened d.scopes d.scope] }

def without (name : String) (d : Diary σ) : Diary σ :=
  { d with aside := d.aside.filter (fun a => a.1 ≠ name) }

def putAside (s : HoldScope σ) (d : Diary σ) : Fate → Diary σ
  | .keep name => { d.without name with aside := (name, s) :: (d.without name).aside }
  | _ => d

/-- The scope `s` is left; `count` is told how many events it has kept back, and `enclosing` is the
innermost scope again. -/
def leave (s : HoldScope σ) (enclosing : Option (HoldScope σ)) (count : Nat → σ → σ) (fate : Fate)
    (d : Diary σ) : Diary σ :=
  { d.putAside s fate with
    outside := count s.kept.length d.outside
    scope := enclosing
    entries := d.entries ++ [.closed s.number s.kept.length enclosing fate] }

theorem leave_events (s : HoldScope σ) (enclosing : Option (HoldScope σ)) (count : Nat → σ → σ)
    (fate : Fate) (d : Diary σ) : (d.leave s enclosing count fate).events = d.events := by
  cases fate <;> rfl

theorem leave_scopes (s : HoldScope σ) (enclosing : Option (HoldScope σ)) (count : Nat → σ → σ)
    (fate : Fate) (d : Diary σ) : (d.leave s enclosing count fate).scopes = d.scopes := by
  cases fate <;> rfl

/-- The floor without the numbers and the entries. -/
def floor (d : Diary σ) : Floor σ :=
  { outside := d.outside
    scope := d.scope.map HoldScope.held
    aside := d.aside.map fun a => (a.1, a.2.held) }

end Diary

/-- What the sink of the event with the number `source` does. -/
def Deed.write {σ : Type} (source : Nat) : Deed σ → Diary σ → Diary σ
  | done, d => d
  | change f rest, d => rest.write source (d.change f)
  | emit event rest, d =>
    match d.scope with
    | some s => rest.write source (d.keep s (some source) event)
    | none => rest.write source (event.write d.events (d.pass (some source) event))

namespace Diary

variable {σ : Type}

/-- The program emits an event. -/
def emit (d : Diary σ) (event : Deed σ) : Diary σ :=
  match d.scope with
  | some s => d.keep s none event
  | none => event.write d.events (d.pass none event)

/-- The sink of an item that the scope has kept back is called with it. -/
def reach (scope : Nat) (d : Diary σ) (x : Item σ) : Diary σ :=
  x.event.write x.number (d.note (.reached x (some scope)))

def deliver (d : Diary σ) (s : HoldScope σ) : Diary σ :=
  (s.kept.foldl (reach s.number) (d.note (.delivered s.number))).note (.finished s.number)

/-- Delivers what the scope has kept back if that is its fate. -/
def settle (d : Diary σ) (s : HoldScope σ) : Fate → Diary σ
  | .deliver => d.deliver s
  | _ => d

/-- Delivers what was put aside under a name. -/
def deliverAside (d : Diary σ) (name : String) : Diary σ :=
  match d.aside.lookup name with
  | some s => ((d.without name).note (.called name)).deliver s
  | none => (d.without name).note (.called name)

end Diary

def Program.write {σ : Type} : Program σ → Diary σ → Diary σ
  | done, d => d
  | emit event rest, d => rest.write (d.emit event)
  | change f rest, d => rest.write (d.change f)
  | hold body count fate rest, d =>
    let inner := body.write d.enter
    let s := inner.scope.getD { number := d.scopes }
    rest.write ((inner.leave s d.scope count fate).settle s fate)
  | deliver name rest, d => rest.write (d.deliverAside name)

/-! ## Without the diary -/

namespace Diary

variable {σ : Type}

theorem floor_keep {s : HoldScope σ} {d : Diary σ} (h : d.scope = some s) (source : Option Nat)
    (event : Deed σ) : (d.keep s source event).floor = d.floor.emit event := by
  have hs : d.floor.scope = some s.held := by rw [floor, h]; rfl
  unfold Floor.emit
  rw [hs]
  simp [keep, announce, floor, next, HoldScope.held]

theorem floor_without (name : String) (d : Diary σ) :
    (d.without name).floor =
      { d.floor with aside := d.floor.aside.filter (fun a => a.1 ≠ name) } := by
  simp [without, floor, List.filter_map, Function.comp_def]

theorem lookup_map {α β : Type} (f : α → β) (name : String) (l : List (String × α)) :
    (l.map fun a => (a.1, f a.2)).lookup name = (l.lookup name).map f := by
  induction l with
  | nil => rfl
  | cons a l ih =>
    rw [List.map_cons, List.lookup_cons, List.lookup_cons, ih]
    cases name == a.1 <;> rfl

end Diary

theorem Deed.floor_write {σ : Type} (deed : Deed σ) (source : Nat) (d : Diary σ) :
    (deed.write source d).floor = deed.carryOut d.floor := by
  induction deed generalizing d source with
  | done => rfl
  | change f rest ih => exact ih source (d.change f)
  | emit event rest ihe ihr =>
    rw [Floor.carryOut_emit, write]
    split
    · next s hs => rw [ihr, Diary.floor_keep hs]
    · next hs =>
      have hn : d.floor.scope = none := by rw [Diary.floor, hs]; rfl
      rw [ihr, ihe, Floor.emit, hn]
      rfl

namespace Diary

variable {σ : Type}

theorem floor_emit (event : Deed σ) (d : Diary σ) :
    (d.emit event).floor = d.floor.emit event := by
  unfold emit
  split
  · next s hs => exact floor_keep hs none event
  · next hs =>
    have hn : d.floor.scope = none := by rw [floor, hs]; rfl
    rw [event.floor_write, Floor.emit, hn]
    rfl

theorem floor_deliver (s : HoldScope σ) (d : Diary σ) :
    (d.deliver s).floor = d.floor.deliver s.held := by
  have key : ∀ (xs : List (Item σ)) (d : Diary σ),
      (xs.foldl (reach s.number) d).floor = d.floor.deliver (xs.map Item.event) := by
    intro xs
    induction xs with
    | nil => exact fun _ => rfl
    | cons x xs ih =>
      intro d
      rw [List.foldl_cons, ih, reach, x.event.floor_write]
      rfl
  exact key s.kept (d.note (.delivered s.number))

/-- A scope that is left is disposed of. -/
theorem floor_settle (s : HoldScope σ) (enclosing : Option (HoldScope σ)) (count : Nat → σ → σ)
    (fate : Fate) (d : Diary σ) :
    ((d.leave s enclosing count fate).settle s fate).floor =
      ({ d.floor with
          scope := enclosing.map HoldScope.held
          outside := count s.held.length d.outside } : Floor σ).dispose s.held fate := by
  have hlen : s.kept.length = s.held.length := (List.length_map _).symm
  cases fate with
  | deliver =>
    refine (floor_deliver s _).trans ?_
    rw [← hlen]
    rfl
  | drop =>
    rw [← hlen]
    rfl
  | keep name =>
    have h : (d.without name).floor.aside = d.floor.aside.filter (fun a => a.1 ≠ name) :=
      congrArg Floor.aside (floor_without name d)
    rw [← hlen]
    exact congrArg (fun l => ({
      outside := count s.kept.length d.outside
      scope := enclosing.map HoldScope.held
      aside := (name, s.held) :: l } : Floor σ)) h

theorem floor_deliverAside (name : String) (d : Diary σ) :
    (d.deliverAside name).floor =
      ({ d.floor with aside := d.floor.aside.filter (fun a => a.1 ≠ name) } : Floor σ).deliver
        ((d.floor.aside.lookup name).getD []) := by
  have hlookup : d.floor.aside.lookup name = (d.aside.lookup name).map HoldScope.held :=
    lookup_map HoldScope.held name d.aside
  rw [hlookup, ← floor_without]
  unfold deliverAside
  split
  · next s hs => rw [hs, floor_deliver]; rfl
  · next hs => rw [hs]; rfl

end Diary

/-- The diary leaves the program what it is. -/
theorem Program.floor_write {σ : Type} (p : Program σ) (d : Diary σ) :
    (p.write d).floor = p.run d.floor := by
  induction p generalizing d with
  | done => rfl
  | emit event rest ih => rw [write, ih, Diary.floor_emit]; rfl
  | change f rest ih => exact ih (d.change f)
  | deliver name rest ih => rw [write, ih, Diary.floor_deliverAside]; rfl
  | hold body count fate rest ihb ihr =>
    have hinner : (body.write d.enter).floor = body.run { d.floor with scope := some [] } :=
      ihb d.enter
    have hs : ((body.run { d.floor with scope := some [] }).scope.getD []) =
        ((body.write d.enter).scope.getD { number := d.scopes }).held := by
      rw [← hinner, Diary.floor]
      cases (body.write d.enter).scope <;> rfl
    rw [write, run, ihr, Diary.floor_settle, hs, ← hinner]
    rfl

end Switchboard
