import Switchboard.Plan

/-!
# What a plan does over time

Said without carrying it out. `Plan.Follows`: the changes of the plan, in order, are steps of an
automaton. A plan that looks at the state must be right about every state it might find, since
anything may have happened before. `Plan.Withstands`: what happens before each step of the plan is
known to be of some kind, and as long as it is, the plan does what it should. `Plan.Spares`: on the
way to a result of some kind the plan makes changes of some kind only. `Plan.Looks`: there are no
changes.
-/

namespace Switchboard.Plan

variable {σ ε α β κ : Type} {T : κ → (σ → σ × List ε) → κ → Prop} {k m l : κ}

/-- From `k` the changes of the plan are steps of `T`, the last of them to `l`. -/
inductive Follows (T : κ → (σ → σ × List ε) → κ → Prop) : κ → Plan σ ε α → κ → Prop where
  | done {k : κ} (a : α) : Follows T k (.done a) k
  | look {k l : κ} {next : σ → Plan σ ε α} (h : ∀ s, Follows T k (next s) l) :
    Follows T k (.look next) l
  | act {k m l : κ} {change : σ → σ × List ε} {next : Plan σ ε α} (h : T k change m)
      (h' : Follows T m next l) : Follows T k (.act change next) l
  | await {k l : κ} {next : Plan σ ε α} (ready : σ → Bool) (h : Follows T k next l) :
    Follows T k (.await ready next) l

namespace Follows

theorem bind {p : Plan σ ε α} {f : α → Plan σ ε β} (h : p.Follows T k m)
    (h' : ∀ a, (f a).Follows T m l) : (p >>= f).Follows T k l := by
  rw [bind_eq]
  induction h with
  | done a => exact h' a
  | look _ ih => exact .look (fun s => ih s h')
  | act hc _ ih => exact .act hc (ih h')
  | await ready _ ih => exact .await ready (ih h')

theorem gets (f : σ → α) : (Plan.gets f : Plan σ ε α).Follows T k k :=
  .look (fun s => .done (f s))

theorem perform {change : σ → σ × List ε} (h : T k change l) :
    (Plan.perform change).Follows T k l :=
  .act h (.done ())

theorem modify {change : σ → σ} (h : T k (fun s => (change s, [])) l) :
    (Plan.modify change : Plan σ ε Unit).Follows T k l := perform h

theorem waitUntil (ready : σ → Bool) : (Plan.waitUntil ready : Plan σ ε Unit).Follows T k k :=
  .await ready (.done ())

end Follows

/-- The plan does nothing but look. -/
inductive Looks : Plan σ ε α → Prop where
  | done (a : α) : Looks (.done a)
  | look {next : σ → Plan σ ε α} (h : ∀ s, Looks (next s)) : Looks (.look next)

namespace Looks

theorem gets (f : σ → α) : (Plan.gets f : Plan σ ε α).Looks := .look fun s => .done (f s)

theorem bind {p : Plan σ ε α} {f : α → Plan σ ε β} (h : p.Looks) (h' : ∀ a, (f a).Looks) :
    (p >>= f).Looks := by
  rw [bind_eq]
  induction h with
  | done a => exact h' a
  | look _ ih => exact .look ih

/-- To look is no step. -/
theorem follows {p : Plan σ ε α} (h : p.Looks) : p.Follows T k k := by
  induction h with
  | done a => exact .done a
  | look _ ih => exact .look ih

end Looks

/-! ## Changes in between -/

variable {R : σ → σ → Prop} {G : σ → σ × List ε → Prop} {Q Q' : α → σ → Prop}

/-- Begun in the given state, and whatever `R` does to the state before each step and at the end,
every change of the plan is as `G` wants it where it comes, and the result is as `Q` wants it. -/
def Withstands (R : σ → σ → Prop) (G : σ → σ × List ε → Prop) (Q : α → σ → Prop) :
    Plan σ ε α → σ → Prop
  | done a, s => ∀ t, R s t → Q a t
  | look next, s => ∀ t, R s t → (next t).Withstands R G Q t
  | act change next, s => ∀ t, R s t → G t (change t) ∧ next.Withstands R G Q (change t).1
  | await _ next, s => ∀ t, R s t → next.Withstands R G Q t

namespace Withstands

theorem rely (trans : ∀ {s t u}, R s t → R t u → R s u) {p : Plan σ ε α} {s t : σ}
    (h : p.Withstands R G Q s) (hr : R s t) : p.Withstands R G Q t := by
  cases p <;> exact fun u hu => h u (trans hr hu)

theorem bind (refl : ∀ s, R s s) {p : Plan σ ε α} {f : α → Plan σ ε β} {Q' : β → σ → Prop} {s : σ}
    (h : p.Withstands R G (fun a t => (f a).Withstands R G Q' t) s) :
    (p >>= f).Withstands R G Q' s := by
  rw [bind_eq]
  induction p generalizing s with
  | done a => exact h s (refl s)
  | look next ih => exact fun t ht => ih t (h t ht)
  | act change next ih => exact fun t ht => ⟨(h t ht).1, ih (h t ht).2⟩
  | await ready next ih => exact fun t ht => ih (h t ht)

theorem imp {p : Plan σ ε α} {s : σ} (h : p.Withstands R G Q s)
    (hq : ∀ a t, Q a t → Q' a t) : p.Withstands R G Q' s := by
  induction p generalizing s with
  | done a => exact fun t ht => hq a t (h t ht)
  | look next ih => exact fun t ht => ih t (h t ht)
  | act change next ih => exact fun t ht => ⟨(h t ht).1, ih (h t ht).2⟩
  | await ready next ih => exact fun t ht => ih (h t ht)

/-- Nothing is asked of the plan. -/
theorem of_true (p : Plan σ ε α) (s : σ) :
    p.Withstands R (fun _ _ => True) (fun _ _ => True) s := by
  induction p generalizing s with
  | done a => exact fun _ _ => trivial
  | look next ih => exact fun t _ => ih t t
  | act change next ih => exact fun t _ => ⟨trivial, ih _⟩
  | await ready next ih => exact fun t _ => ih t

/-- What every change of the plan does whatever it finds, it does here. -/
theorem of_follows {T : κ → (σ → σ × List ε) → κ → Prop} {k l : κ} {p : Plan σ ε α}
    (h : p.Follows T k l) (hg : ∀ k change l, T k change l → ∀ s, G s (change s)) (s : σ) :
    p.Withstands R G (fun _ _ => True) s := by
  induction h generalizing s with
  | done a => exact fun _ _ => trivial
  | look _ ih => exact fun t _ => ih t t
  | act hc _ ih => exact fun t _ => ⟨hg _ _ _ hc t, ih _⟩
  | await ready _ ih => exact fun t _ => ih t

end Withstands

/-! ## Changes on the way to a result -/

/-- No result is as `Q` wants it, whatever the plan finds. -/
inductive Avoids (Q : α → Prop) : Plan σ ε α → Prop where
  | done {a : α} (h : ¬ Q a) : Avoids Q (.done a)
  | look {next : σ → Plan σ ε α} (h : ∀ s, Avoids Q (next s)) : Avoids Q (.look next)
  | act (change : σ → σ × List ε) {next : Plan σ ε α} (h : Avoids Q next) :
    Avoids Q (.act change next)
  | await (ready : σ → Bool) {next : Plan σ ε α} (h : Avoids Q next) : Avoids Q (.await ready next)

/-- Whatever the plan finds, the changes on its way to a result as in `Q` are as in `P`. -/
inductive Spares (P : (σ → σ × List ε) → Prop) (Q : α → Prop) : Plan σ ε α → Prop where
  | done (a : α) : Spares P Q (.done a)
  | look {next : σ → Plan σ ε α} (h : ∀ s, Spares P Q (next s)) : Spares P Q (.look next)
  | act {change : σ → σ × List ε} {next : Plan σ ε α} (h : P change) (h' : Spares P Q next) :
    Spares P Q (.act change next)
  | await (ready : σ → Bool) {next : Plan σ ε α} (h : Spares P Q next) :
    Spares P Q (.await ready next)
  | avoids {p : Plan σ ε α} (h : p.Avoids Q) : Spares P Q p

namespace Avoids

variable {Q : α → Prop} {Q' : β → Prop}

theorem bind {p : Plan σ ε α} {f : α → Plan σ ε β} (h : p.Avoids Q)
    (h' : ∀ a, ¬ Q a → (f a).Avoids Q') : (p >>= f).Avoids Q' := by
  rw [bind_eq]
  induction h with
  | done hn => exact h' _ hn
  | look _ ih => exact .look ih
  | act change _ ih => exact .act change ih
  | await ready _ ih => exact .await ready ih

/-- Nothing is asked of the plan before. -/
theorem after (p : Plan σ ε α) {f : α → Plan σ ε β} (h : ∀ a, (f a).Avoids Q') :
    (p >>= f).Avoids Q' := by
  rw [bind_eq]
  induction p with
  | done a => exact h a
  | look next ih => exact .look ih
  | act change next ih => exact .act change ih
  | await ready next ih => exact .await ready ih

theorem run {p : Plan σ ε α} (h : p.Avoids Q) (s : σ) : ¬ Q (p.run s).1 := by
  induction h generalizing s with
  | done hn => exact hn
  | look _ ih => exact ih s s
  | act change _ ih => exact ih (change s).1
  | await _ _ ih => exact ih s

end Avoids

namespace Spares

variable {P : (σ → σ × List ε) → Prop} {Q : α → Prop} {Q' : β → Prop}

theorem bind {p : Plan σ ε α} {f : α → Plan σ ε β} (h : p.Spares P Q)
    (hq : ∀ a, Q a → (f a).Spares P Q') (hn : ∀ a, ¬ Q a → (f a).Avoids Q') :
    (p >>= f).Spares P Q' := by
  rw [bind_eq]
  induction h with
  | done a => exact (Classical.em (Q a)).elim (hq a) fun h => .avoids (hn a h)
  | look _ ih => exact .look ih
  | act hc _ ih => exact .act hc ih
  | await ready _ ih => exact .await ready ih
  | avoids h => exact .avoids (h.bind hn)

/-- What comes after a few looks is spared if it is so whatever they find. -/
theorem after_looks {p : Plan σ ε α} {f : α → Plan σ ε β} (hp : p.Looks)
    (h : ∀ a, (f a).Spares P Q') : (p >>= f).Spares P Q' := by
  rw [bind_eq]
  induction hp with
  | done a => exact h a
  | look _ ih => exact .look ih

/-- What the changes in `P` keep is kept by the way to a result as in `Q`. -/
theorem run {I : σ → Prop} (step : ∀ change, P change → ∀ s, I s → I (change s).1)
    {p : Plan σ ε α} (h : p.Spares P Q) {s : σ} (hi : I s) (hq : Q (p.run s).1) :
    I (p.run s).2.1 := by
  induction h generalizing s with
  | done a => exact hi
  | look _ ih => exact ih s hi hq
  | act hc _ ih => exact ih (step _ hc s hi) hq
  | await _ _ ih => exact ih hi hq
  | avoids h => exact absurd hq (h.run s)

end Spares

end Switchboard.Plan
