import Switchboard.Endpoint

/-!
# Cancellation flags

Each endpoint may have one flag registered under its id. A flag that has been raised stays raised.
A handle to a flag outlives its registration: `FlagBoard.remove` forgets which id the flag belonged
to, and `FlagBoard.register` never hands out an old flag again.
-/

namespace Switchboard

structure FlagHandle where
  index : Nat
  deriving DecidableEq, Repr, Inhabited

structure FlagBoard where
  registered : Directory EndpointId FlagHandle := ∅
  /-- Whether each flag ever made is raised, oldest first. -/
  raised : List Bool := []
  deriving DecidableEq, Repr, Inhabited

namespace FlagBoard

def isRaised (b : FlagBoard) (h : FlagHandle) : Bool := b.raised.getD h.index false

def handle? (b : FlagBoard) (id : EndpointId) : Option FlagHandle := b.registered.get? id

/-- Whether a raised flag is registered under `id`. -/
def isCancelled (b : FlagBoard) (id : EndpointId) : Bool :=
  match b.handle? id with
  | some h => b.isRaised h
  | none => false

def raise (b : FlagBoard) (h : FlagHandle) : FlagBoard :=
  { b with raised := b.raised.set h.index true }

/-- A new flag, registered nowhere yet. -/
def make (b : FlagBoard) : FlagHandle × FlagBoard :=
  (⟨b.raised.length⟩, { b with raised := b.raised ++ [false] })

/-- Registers a new flag under `id` unless there is one already. -/
def register (b : FlagBoard) (id : EndpointId) : FlagBoard :=
  match b.handle? id with
  | some _ => b
  | none =>
    let (h, b) := b.make
    { b with registered := b.registered.insert id h }

def remove (b : FlagBoard) (id : EndpointId) : FlagBoard :=
  { b with registered := b.registered.erase id }

/-- Raises the flag of `id`, if one is registered. -/
def cancel (b : FlagBoard) (id : EndpointId) : FlagBoard :=
  match b.handle? id with
  | some h => b.raise h
  | none => b

def cancelAll (b : FlagBoard) : FlagBoard := b.registered.values.foldl raise b

def clear (b : FlagBoard) : FlagBoard := { b with registered := ∅ }

/-! ## What is registered and what is raised -/

@[simp] theorem handle?_raise (b : FlagBoard) (h : FlagHandle) (id : EndpointId) :
    (b.raise h).handle? id = b.handle? id := rfl

theorem isRaised_raise (b : FlagBoard) (h h' : FlagHandle) :
    (b.raise h).isRaised h' =
      (b.isRaised h' || (h.index < b.raised.length && h.index == h'.index)) := by
  simp only [isRaised, raise, List.getD_eq_getElem?_getD, List.getElem?_set]
  by_cases e : h.index = h'.index
  · by_cases l : h.index < b.raised.length
    · simp [e ▸ l, e]
    · simp [e ▸ l, e]
  · simp [e]

theorem handle?_register (b : FlagBoard) (id id' : EndpointId) :
    (b.register id).handle? id' =
      if id = id' then some ((b.handle? id).getD b.make.1) else b.handle? id' := by
  unfold register
  split
  · next h e =>
    split
    · next e' => subst e'; simp [e]
    · rfl
  · next e =>
    simp only [handle?, make, Directory.get?_insert]
    split <;> simp_all [handle?]

theorem isRaised_register (b : FlagBoard) (id : EndpointId) (h : FlagHandle) :
    (b.register id).isRaised h = b.isRaised h := by
  unfold register
  split
  · rfl
  · simp only [isRaised, make, List.getD_eq_getElem?_getD]
    by_cases l : h.index < b.raised.length
    · simp [List.getElem?_append_left l]
    · simp only [List.getElem?_append_right (Nat.le_of_not_lt l)]
      have : b.raised[h.index]? = none := List.getElem?_eq_none (Nat.le_of_not_lt l)
      rw [this]
      cases h.index - b.raised.length <;> simp

theorem handle?_remove (b : FlagBoard) (id id' : EndpointId) :
    (b.remove id).handle? id' = if id = id' then none else b.handle? id' := by
  simp [remove, handle?, Directory.get?_erase]

@[simp] theorem isRaised_remove (b : FlagBoard) (id : EndpointId) (h : FlagHandle) :
    (b.remove id).isRaised h = b.isRaised h := rfl

@[simp] theorem handle?_clear (b : FlagBoard) (id : EndpointId) : b.clear.handle? id = none := rfl

@[simp] theorem handle?_cancel (b : FlagBoard) (id id' : EndpointId) :
    (b.cancel id).handle? id' = b.handle? id' := by
  unfold cancel
  split <;> rfl

theorem handle?_foldl_raise (b : FlagBoard) (hs : List FlagHandle) (id : EndpointId) :
    (hs.foldl raise b).handle? id = b.handle? id := by
  induction hs generalizing b with
  | nil => rfl
  | cons h hs ih => simp [ih]

@[simp] theorem handle?_cancelAll (b : FlagBoard) (id : EndpointId) :
    b.cancelAll.handle? id = b.handle? id := handle?_foldl_raise b _ id

end FlagBoard

end Switchboard
