/-!
# Held delivery

What a sink does with an event is a deed: it changes the outside and emits further events. An event
that is emitted reaches its sink at once, unless a scope is open: the innermost scope keeps the
event back, and when the scope is closed whoever opened it decides what becomes of all it has kept.
-/

namespace Switchboard

/-- What a sink does with one event, over the state of the outside. -/
inductive Deed (σ : Type) where
  | done
  | change (f : σ → σ) (rest : Deed σ)
  /-- Emits an event, given as what its own sink does with it. -/
  | emit (event : Deed σ) (rest : Deed σ)

abbrev Sink (σ ε : Type) := ε → Deed σ

namespace Sink

variable {σ ε φ : Type}

def silent : Sink σ ε := fun _ => .done

def changing (f : ε → σ → σ) : Sink σ ε := fun e => .change (f e) .done

/-- Hands every event to the same sink in another form. -/
def adapt (f : φ → ε) (s : Sink σ ε) : Sink σ φ := fun e => s (f e)

/-- Emits every event, in another form, to another sink. -/
def relay (f : φ → ε) (s : Sink σ ε) : Sink σ φ := fun e => .emit (s (f e)) .done

end Sink

/-- Events kept back by a scope, oldest first. -/
abbrev Held (σ : Type) := List (Deed σ)

structure Floor (σ : Type) where
  outside : σ
  /-- What the innermost open scope has kept back. -/
  scope : Option (Held σ) := none
  /-- Events of closed scopes that were put aside. -/
  aside : List (String × Held σ) := []

/-- Carries a deed out. What it emits is kept back by an open scope and carried out at once
otherwise. -/
def Deed.carryOut {σ : Type} : Deed σ → Floor σ → Floor σ
  | done, w => w
  | change f rest, w => rest.carryOut { w with outside := f w.outside }
  | emit event rest, w =>
    match w.scope with
    | some held => rest.carryOut { w with scope := some (held ++ [event]) }
    | none => rest.carryOut (event.carryOut w)

namespace Floor

variable {σ : Type}

def emit (w : Floor σ) (event : Deed σ) : Floor σ :=
  match w.scope with
  | some held => { w with scope := some (held ++ [event]) }
  | none => event.carryOut w

/-- Hands events that were kept back to their sinks. -/
def deliver (w : Floor σ) (held : Held σ) : Floor σ := held.foldl (fun w d => d.carryOut w) w

theorem carryOut_emit (event rest : Deed σ) (w : Floor σ) :
    (Deed.emit event rest).carryOut w = rest.carryOut (w.emit event) := by
  unfold emit
  rw [Deed.carryOut]
  split <;> simp_all

end Floor

/-- What becomes of the events a scope has kept back. -/
inductive Fate where
  | deliver
  | drop
  /-- They are put aside under a name. -/
  | keep (name : String)
  deriving DecidableEq, Repr

def Floor.dispose {σ : Type} (w : Floor σ) (held : Held σ) : Fate → Floor σ
  | .deliver => w.deliver held
  | .drop => w
  | .keep name => { w with aside := (name, held) :: w.aside.filter (fun a => a.1 ≠ name) }

/-- What one thread does. -/
inductive Program (σ : Type) where
  | done
  | emit (event : Deed σ) (rest : Program σ)
  | change (f : σ → σ) (rest : Program σ)
  /-- Opens a scope around `body`; `count` is told how many events it has kept back. -/
  | hold (body : Program σ) (count : Nat → σ → σ) (fate : Fate) (rest : Program σ)
  /-- Delivers what was put aside under a name, once. -/
  | deliver (name : String) (rest : Program σ)

def Program.run {σ : Type} : Program σ → Floor σ → Floor σ
  | done, w => w
  | emit event rest, w => rest.run (w.emit event)
  | change f rest, w => rest.run { w with outside := f w.outside }
  | hold body count fate rest, w =>
    let inner := body.run { w with scope := some [] }
    let held := inner.scope.getD []
    let w := { inner with scope := w.scope, outside := count held.length inner.outside }
    rest.run (w.dispose held fate)
  | deliver name rest, w =>
    let held := (w.aside.lookup name).getD []
    rest.run ({ w with aside := w.aside.filter (fun a => a.1 ≠ name) }.deliver held)

end Switchboard
