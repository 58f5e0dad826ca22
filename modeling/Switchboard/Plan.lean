/-!
# Plans

What an operation does, as a sequence of atomic steps on a shared state. Between two steps of a
plan anything else may happen to the state; `Plan.run` is the case where nothing does. A step may
emit; what becomes of the emissions is up to whoever carries the plan out.
-/

namespace Switchboard

inductive Plan (σ ε α : Type) where
  | done (result : α)
  /-- Reads the state and goes on accordingly. -/
  | look (next : σ → Plan σ ε α)
  | act (change : σ → σ × List ε) (next : Plan σ ε α)
  /-- Goes on once the state is ready. -/
  | await (ready : σ → Bool) (next : Plan σ ε α)

namespace Plan

variable {σ ε α β : Type}

def bind : Plan σ ε α → (α → Plan σ ε β) → Plan σ ε β
  | done a, k => k a
  | look next, k => look (fun s => (next s).bind k)
  | act change next, k => act change (next.bind k)
  | await ready next, k => await ready (next.bind k)

instance : Monad (Plan σ ε) where
  pure := done
  bind := bind

def get : Plan σ ε σ := look done

def gets (f : σ → α) : Plan σ ε α := look (fun s => done (f s))

def perform (change : σ → σ × List ε) : Plan σ ε Unit := act change (done ())

/-- A step that emits nothing. -/
def modify (change : σ → σ) : Plan σ ε Unit := perform (fun s => (change s, []))

def waitUntil (ready : σ → Bool) : Plan σ ε Unit := await ready (done ())

/-- Carries a plan out with nothing in between and nothing to wait for. -/
def run : Plan σ ε α → σ → α × σ × List ε
  | done a, s => (a, s, [])
  | look next, s => (next s).run s
  | act change next, s =>
    let (s, emitted) := change s
    let (a, s, later) := next.run s
    (a, s, emitted ++ later)
  | await _ next, s => next.run s

/-! ## Laws -/

@[simp] theorem pure_eq (a : α) : (pure a : Plan σ ε α) = done a := rfl

@[simp] theorem bind_eq (p : Plan σ ε α) (k : α → Plan σ ε β) : p >>= k = p.bind k := rfl

@[simp] theorem run_done (a : α) (s : σ) : (done a : Plan σ ε α).run s = (a, s, []) := rfl

@[simp] theorem run_look (next : σ → Plan σ ε α) (s : σ) : (look next).run s = (next s).run s := rfl

@[simp] theorem run_await (ready : σ → Bool) (next : Plan σ ε α) (s : σ) :
    (await ready next).run s = next.run s := rfl

@[simp] theorem run_act (change : σ → σ × List ε) (next : Plan σ ε α) (s : σ) :
    (act change next).run s =
      ((next.run (change s).1).1, (next.run (change s).1).2.1,
        (change s).2 ++ (next.run (change s).1).2.2) := rfl

theorem run_bind (p : Plan σ ε α) (k : α → Plan σ ε β) (s : σ) :
    (p.bind k).run s =
      (((k (p.run s).1).run (p.run s).2.1).1, ((k (p.run s).1).run (p.run s).2.1).2.1,
        (p.run s).2.2 ++ ((k (p.run s).1).run (p.run s).2.1).2.2) := by
  induction p generalizing s with
  | done a => simp [bind]
  | look next ih => simp [bind, ih]
  | act change next ih => simp [bind, ih, List.append_assoc]
  | await ready next ih => simp [bind, ih]

end Plan

end Switchboard
