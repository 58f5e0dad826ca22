import Switchboard.Proofs.Delivery.Origin

/-!
# The order of delivery

Whatever a program does, its diary says that no event is lost, doubled or overtaken
(`Program.events_kept_in_order`): every entry fits those around it (`Entry.Fits`), all the entries
about one scope tell one of three lives (`HoldScope.Life`), and nothing is left out that the program
or a sink was to do.

The induction is carried by `Diary.Sound`, which says of a moment in the middle of a program which
scopes are open, what the diary has to say about each of them, and the same of the scopes that were
put aside and of the one whose events are being delivered.
-/

namespace Switchboard

/-! ## What a diary is to say -/

namespace Entry

variable {σ : Type}

/-- The scope that an entry is about. -/
def scope? : Entry σ → Option Nat
  | emitted _ k => k
  | reached _ k => k
  | opened k _ => some k
  | closed k _ _ _ => some k
  | called _ => none
  | delivered k => some k
  | finished k => some k

def emitted? : Entry σ → Option (Item σ)
  | emitted x _ => some x
  | _ => none

def openAfter (l : List Nat) : Entry σ → List Nat
  | opened k _ => k :: l
  | closed _ _ _ _ => l.tail
  | _ => l

/-- The scopes that are open after the entries, innermost first. -/
def openScopes (es : List (Entry σ)) : List Nat := es.foldl openAfter []

def asideAfter (l : List (String × Nat)) : Entry σ → List (String × Nat)
  | closed k _ _ (.keep name) => (name, k) :: l.filter (fun a => a.1 ≠ name)
  | called name => l.filter (fun a => a.1 ≠ name)
  | _ => l

/-- The scopes that are put aside after the entries, each with its name. -/
def asideScopes (es : List (Entry σ)) : List (String × Nat) := es.foldl asideAfter []

/-- How many events have been emitted. -/
def emissions (es : List (Entry σ)) : Nat := (es.filterMap emitted?).length

def concerning (k : Nat) (es : List (Entry σ)) : List (Entry σ) :=
  es.filter (fun e => e.scope? = some k)

end Entry

namespace HoldScope

variable {σ : Type}

/-- The entries about a scope that is open inside `enclosing`. -/
def opening (s : HoldScope σ) (enclosing : Option (HoldScope σ)) : List (Entry σ) :=
  .opened s.number enclosing :: s.kept.map (.emitted · (some s.number))

/-- The entries about a scope that has been left. -/
def closing (s : HoldScope σ) (enclosing : Option (HoldScope σ)) (fate : Fate) : List (Entry σ) :=
  s.opening enclosing ++ [.closed s.number s.kept.length enclosing fate]

/-- All the entries about a scope that has been left. -/
inductive Life (s : HoldScope σ) (enclosing : Option (HoldScope σ)) : List (Entry σ) → Prop where
  | dropped : Life s enclosing (s.closing enclosing .drop)
  /-- What it has kept back was put aside and has stayed there. -/
  | waiting (name : String) : Life s enclosing (s.closing enclosing (.keep name))
  | delivered {fate : Fate} (h : fate ≠ .drop) : Life s enclosing
      (s.closing enclosing fate ++ [.delivered s.number] ++
        s.kept.map (.reached · (some s.number)) ++ [.finished s.number])

end HoldScope

namespace Entry

variable {σ : Type}

/-- The scope that is open again, or still, is `enclosing`, with number `k`; it has kept back
exactly the events that were emitted straight in it. -/
def Restores (past : List (Entry σ)) (k : Option Nat) (enclosing : Option (HoldScope σ)) : Prop :=
  enclosing.map HoldScope.number = k ∧
    ∀ s ∈ enclosing, ∃ around, concerning s.number past = s.opening around

/-- What holds of an entry between those before it and those after it. -/
def Fits (past later : List (Entry σ)) : Entry σ → Prop
  -- The innermost scope of that moment keeps an event back, also one that a sink emits. Without a
  -- scope it reaches its sink next.
  | emitted x k =>
    x.number = emissions past ∧ k = (openScopes past).head? ∧
      (k = none → later.head? = some (.reached x none))
  | reached x none => past.getLast? = some (.emitted x none)
  | opened _ enclosing => Restores past (openScopes past).head? enclosing
  | closed k _ enclosing fate =>
    (openScopes past).head? = some k ∧ Restores past (openScopes past).tail.head? enclosing ∧
      (fate = .deliver → later.head? = some (.delivered k))
  | called name =>
    ∀ k, (asideScopes past).lookup name = some k → later.head? = some (.delivered k)
  -- A delivery has been asked for: where the scope was left, or by the name it is put aside under.
  | delivered k =>
    (∃ count enclosing, past.getLast? = some (.closed k count enclosing .deliver)) ∨
      ∃ before name, past = before ++ [.called name] ∧ (asideScopes before).lookup name = some k
  | _ => True

end Entry

def AllFit {σ : Type} (es : List (Entry σ)) : Prop :=
  ∀ past e later, es = past ++ e :: later → e.Fits past later

/-- The entries say nothing about scope `k`, or everything that happens to it. -/
def Settled {σ : Type} (es : List (Entry σ)) (k : Nat) : Prop :=
  Entry.concerning k es = [] ∨
    ∃ s enclosing, s.number = k ∧ HoldScope.Life s enclosing (Entry.concerning k es)

/-- What the diary of a finished program says. -/
structure WellKept {σ : Type} (p : Program σ) (es : List (Entry σ)) : Prop where
  fits : AllFit es
  settled : ∀ k, Settled es k
  /-- What the program says to do is done, in that order, and nothing else but by sinks. -/
  steps : Entry.steps es = p.steps none 0
  prompt : Prompt es

/-! ## One more entry -/

namespace Entry

variable {σ : Type}

theorem concerning_append (k : Nat) (es new : List (Entry σ)) :
    concerning k (es ++ new) = concerning k es ++ concerning k new := List.filter_append ..

theorem concerning_concat_self {k : Nat} {e : Entry σ} (h : e.scope? = some k)
    (es : List (Entry σ)) : concerning k (es ++ [e]) = concerning k es ++ [e] := by
  simp [concerning, h]

theorem concerning_concat_other {k j : Nat} {e : Entry σ} (h : e.scope? = some k) (hj : j ≠ k)
    (es : List (Entry σ)) : concerning j (es ++ [e]) = concerning j es := by
  simp [concerning, h, hj.symm]

theorem emissions_append (es new : List (Entry σ)) :
    emissions (es ++ new) = emissions es + emissions new := by
  simp [emissions, List.filterMap_append]

/-- Later entries do not matter, but for the next one. -/
theorem Fits.append {past later : List (Entry σ)} {e : Entry σ} (h : e.Fits past later)
    (new : List (Entry σ)) : e.Fits past (later ++ new) := by
  cases e with
  | emitted x k =>
    refine ⟨h.1, h.2.1, fun hk => ?_⟩
    rw [List.head?_append, h.2.2 hk, Option.some_or]
  | reached x k => cases k <;> exact h
  | closed k count enclosing fate =>
    refine ⟨h.1, h.2.1, fun hfate => ?_⟩
    rw [List.head?_append, h.2.2 hfate, Option.some_or]
  | called name =>
    intro k hk
    rw [List.head?_append, h k hk, Option.some_or]
  | _ => exact h

end Entry

namespace AllFit

variable {σ : Type}

theorem append {es new : List (Entry σ)} (h : AllFit es)
    (hnew : ∀ past e later, new = past ++ e :: later → e.Fits (es ++ past) later) :
    AllFit (es ++ new) := by
  intro past e later hsplit
  rcases split_append hsplit with ⟨l, hes, rfl⟩ | ⟨l, hl, rfl⟩
  · exact (h past e l hes).append new
  · exact hnew l e later hl

theorem concat {es : List (Entry σ)} (h : AllFit es) {e : Entry σ} (he : e.Fits es []) :
    AllFit (es ++ [e]) := by
  refine h.append fun past e' later hsplit => ?_
  obtain ⟨rfl, rfl, rfl⟩ : past = [] ∧ e' = e ∧ later = [] := by
    cases past <;> simp_all
  rwa [List.append_nil]

theorem pair {es : List (Entry σ)} (h : AllFit es) {a b : Entry σ} (ha : a.Fits es [b])
    (hb : b.Fits (es ++ [a]) []) : AllFit (es ++ [a, b]) := by
  refine h.append fun past e later hsplit => ?_
  rcases past with _ | ⟨c, _ | ⟨c', past⟩⟩
  · obtain ⟨rfl, rfl⟩ : a = e ∧ [b] = later := by simpa using hsplit
    rwa [List.append_nil]
  · obtain ⟨rfl, rfl, rfl⟩ : a = c ∧ b = e ∧ later = [] := by simpa using hsplit
    exact hb
  · simp at hsplit

end AllFit

/-! ## What is known of each scope -/

/-- The number of a scope, and what is known of the entries about it. -/
abbrev Tale (σ : Type) := Nat × (List (Entry σ) → Prop)

namespace HoldScope

variable {σ : Type}

/-- The scope has been left, and nothing has become of its events since. -/
def left (s : HoldScope σ) (fate : Fate) : Tale σ :=
  (s.number, fun t => ∃ enclosing, t = s.closing enclosing fate)

/-- The events of the scope are being delivered, and those in `done` have been. -/
def halfway (s : HoldScope σ) (fate : Fate) (done : List (Item σ)) : Tale σ :=
  (s.number, fun t => ∃ enclosing,
    t = s.closing enclosing fate ++ [.delivered s.number] ++
      done.map (.reached · (some s.number)))

/-- A scope is put aside under its name. -/
def waiting (a : String × HoldScope σ) : Tale σ := a.2.left (.keep a.1)

end HoldScope

/-- `n` scopes have been opened. What is known of the scopes in `tales` is true, and nothing more
happens to any other. -/
structure Told {σ : Type} (n : Nat) (tales : List (Tale σ)) (es : List (Entry σ)) : Prop where
  holds : ∀ a ∈ tales, a.2 (Entry.concerning a.1 es)
  distinct : (tales.map Prod.fst).Nodup
  opened : ∀ a ∈ tales, a.1 < n
  settled : ∀ k ∉ tales.map Prod.fst, Settled es k
  fresh : ∀ k, n ≤ k → Entry.concerning k es = []

namespace Told

open Entry

variable {σ : Type} {n k : Nat} {P Q : List (Entry σ) → Prop} {l l' : List (Tale σ)}
  {es : List (Entry σ)}

theorem perm (h : Told n l es) (hp : l.Perm l') : Told n l' es where
  holds a ha := h.holds a (hp.mem_iff.mpr ha)
  distinct := (hp.map _).nodup_iff.mp h.distinct
  opened a ha := h.opened a (hp.mem_iff.mpr ha)
  settled k hk := h.settled k fun hm => hk ((hp.map _).mem_iff.mp hm)
  fresh := h.fresh

/-- Entries about no scope. -/
theorem append (h : Told n l es) (new : List (Entry σ)) (hnew : ∀ e ∈ new, e.scope? = none) :
    Told n l (es ++ new) := by
  have heq : ∀ k, concerning k (es ++ new) = concerning k es := fun k => by
    have hnone : concerning k new = [] :=
      List.filter_eq_nil_iff.mpr fun e he => by simp [hnew e he]
    rw [concerning_append, hnone, List.append_nil]
  exact
    { holds := fun a ha => (heq a.1).symm ▸ h.holds a ha
      distinct := h.distinct
      opened := h.opened
      settled := fun k hk => by
        have hs := h.settled k hk
        unfold Settled at hs ⊢
        rwa [heq]
      fresh := fun k hk => (heq k).trans (h.fresh k hk) }

/-- An entry about the first scope. -/
theorem concat (h : Told n ((k, P) :: l) es) {e : Entry σ} (he : e.scope? = some k)
    (hPQ : ∀ t, P t → Q (t ++ [e])) : Told n ((k, Q) :: l) (es ++ [e]) := by
  have hother := fun j (hj : j ≠ k) => concerning_concat_other he hj es
  exact
    { holds := fun a ha => by
        rcases List.mem_cons.mp ha with rfl | hal
        · show Q (concerning k (es ++ [e]))
          rw [concerning_concat_self he]
          exact hPQ _ (h.holds _ List.mem_cons_self)
        · have hne : a.1 ≠ k := fun heq =>
            (List.nodup_cons.mp h.distinct).1 (List.mem_map.mpr ⟨a, hal, heq⟩)
          rw [hother a.1 hne]
          exact h.holds a (List.mem_cons_of_mem _ hal)
      distinct := h.distinct
      opened := fun a ha => by
        rcases List.mem_cons.mp ha with rfl | hal
        · exact h.opened (k, P) List.mem_cons_self
        · exact h.opened a (List.mem_cons_of_mem _ hal)
      settled := fun j hj => by
        have hs := h.settled j hj
        unfold Settled at hs ⊢
        rwa [hother j fun heq => hj (heq ▸ List.mem_cons_self)]
      fresh := fun j hj => by
        have hk : k < n := h.opened (k, P) List.mem_cons_self
        rw [hother j (by omega)]
        exact h.fresh j hj }

/-- The first entry about a new scope. -/
theorem enter (h : Told n l es) {e : Entry σ} (he : e.scope? = some n) (hQ : Q [e]) :
    Told (n + 1) ((n, Q) :: l) (es ++ [e]) := by
  have hnew : Told (n + 1) ((n, (· = [])) :: l) es :=
    { holds := fun a ha => by
        rcases List.mem_cons.mp ha with rfl | hal
        · exact h.fresh n (Nat.le_refl n)
        · exact h.holds a hal
      distinct := by
        refine List.nodup_cons.mpr ⟨fun hm => ?_, h.distinct⟩
        obtain ⟨a, ha, heq⟩ := List.mem_map.mp hm
        exact absurd (h.opened a ha) (Nat.not_lt.mpr (Nat.le_of_eq heq.symm))
      opened := fun a ha => by
        rcases List.mem_cons.mp ha with rfl | hal
        · exact Nat.lt_succ_self n
        · exact Nat.lt_succ_of_lt (h.opened a hal)
      settled := fun k hk => h.settled k fun hm => hk (List.mem_cons_of_mem _ hm)
      fresh := fun k hk => h.fresh k (Nat.le_of_succ_le hk) }
  exact hnew.concat he fun t ht => by rw [ht]; exact hQ

/-- Nothing more happens to some scopes. -/
theorem release {ended : List (Tale σ)} (h : Told n (ended ++ l) es)
    (hended : ∀ a ∈ ended, ∀ t, a.2 t →
      ∃ s enclosing, s.number = a.1 ∧ HoldScope.Life s enclosing t) :
    Told n l es where
  holds a ha := h.holds a (List.mem_append_right _ ha)
  distinct := by
    have hd := h.distinct
    rw [List.map_append] at hd
    exact (List.nodup_append.mp hd).2.1
  opened a ha := h.opened a (List.mem_append_right _ ha)
  settled k hk := by
    by_cases hm : k ∈ ended.map Prod.fst
    · obtain ⟨a, ha, rfl⟩ := List.mem_map.mp hm
      exact .inr (hended a ha _ (h.holds a (List.mem_append_left _ ha)))
    · refine h.settled k ?_
      rw [List.map_append, List.mem_append]
      exact fun hor => hor.elim hm hk
  fresh := h.fresh

/-- What is put aside may stay there for ever. -/
theorem release_waiting {aside : List (String × HoldScope σ)}
    (h : Told n (aside.map HoldScope.waiting ++ l) es) : Told n l es := by
  refine h.release fun a ha t ht => ?_
  obtain ⟨b, -, rfl⟩ := List.mem_map.mp ha
  obtain ⟨enclosing, rfl⟩ := ht
  exact ⟨b.2, enclosing, rfl, .waiting b.1⟩

/-- What is not put aside any more has stayed there for ever. -/
theorem sift {aside : List (String × HoldScope σ)}
    (h : Told n (l ++ aside.map HoldScope.waiting) es) (p : String × HoldScope σ → Bool) :
    Told n (l ++ (aside.filter p).map HoldScope.waiting) es := by
  have hparts : (aside.map HoldScope.waiting).Perm
      ((aside.filter fun a => !p a).map HoldScope.waiting ++
        (aside.filter p).map HoldScope.waiting) := by
    rw [← List.map_append]
    exact .map _ ((List.filter_append_perm p aside).symm.trans List.perm_append_comm)
  exact (h.perm ((hparts.append_left l).trans (List.perm_append_comm_assoc ..))).release_waiting

end Told

/-! ## A moment in the middle -/

namespace Diary

open Entry

variable {σ : Type}

/-- Each open scope has the entries of a scope that is open inside the next one. -/
def openTales : List (HoldScope σ) → List (Tale σ)
  | [] => []
  | s :: rest => (s.number, (· = s.opening rest.head?)) :: openTales rest

/-- How things are when the scopes of `stack` are open, innermost first, and `hand` is known of
the scopes that are neither open nor put aside. -/
structure Sound (stack : List (HoldScope σ)) (hand : List (Tale σ)) (d : Diary σ) : Prop where
  fits : AllFit d.entries
  events : d.events = emissions d.entries
  top : d.scope = stack.head?
  opens : openScopes d.entries = stack.map HoldScope.number
  shelf : asideScopes d.entries = d.aside.map fun a => (a.1, a.2.number)
  told : Told d.scopes (openTales stack ++ (hand ++ d.aside.map HoldScope.waiting)) d.entries

variable {stack rest : List (HoldScope σ)} {hand : List (Tale σ)} {d : Diary σ} {s : HoldScope σ}
  {k : Nat} {P Q : List (Entry σ) → Prop}

theorem sound_start (outside : σ) : Sound [] [] ({ outside } : Diary σ) where
  fits past e later h := by simp at h
  events := rfl
  top := rfl
  opens := rfl
  shelf := rfl
  told :=
    { holds := fun a ha => by cases ha
      distinct := List.nodup_nil
      opened := fun a ha => by cases ha
      settled := fun k _ => .inl rfl
      fresh := fun k _ => rfl }

/-- The innermost scope has kept back what was emitted straight in it. -/
theorem restores_of_holds {es : List (Entry σ)} :
    ∀ {stack : List (HoldScope σ)}, (∀ a ∈ openTales stack, a.2 (concerning a.1 es)) →
      Restores es (stack.map HoldScope.number).head? stack.head?
  | [], _ => ⟨rfl, fun s hs => by cases hs⟩
  | s :: rest, h => by
    refine ⟨rfl, fun s' hs => ?_⟩
    obtain rfl : s = s' := by simpa using hs
    exact ⟨rest.head?, h _ List.mem_cons_self⟩

namespace Sound

theorem change (h : Sound stack hand d) (f : σ → σ) : Sound stack hand (d.change f) :=
  ⟨h.fits, h.events, h.top, h.opens, h.shelf, h.told⟩

/-- There are more entries. -/
theorem extend (h : Sound stack hand d) {d' : Diary σ} {stack' : List (HoldScope σ)}
    {hand' : List (Tale σ)} {new : List (Entry σ)} (hd : d'.entries = d.entries ++ new)
    (hfits : AllFit (d.entries ++ new)) (hevents : d'.events = d.events + emissions new)
    (htop : d'.scope = stack'.head?)
    (hopens : new.foldl openAfter (stack.map HoldScope.number) = stack'.map HoldScope.number)
    (hshelf : new.foldl asideAfter (d.aside.map fun a => (a.1, a.2.number)) =
      d'.aside.map fun a => (a.1, a.2.number))
    (htold : Told d'.scopes (openTales stack' ++ (hand' ++ d'.aside.map HoldScope.waiting))
      (d.entries ++ new)) : Sound stack' hand' d' where
  fits := hd ▸ hfits
  events := by rw [hd, emissions_append, ← h.events, hevents]
  top := htop
  opens := by rw [hd, openScopes, List.foldl_append, ← openScopes, h.opens, hopens]
  shelf := by rw [hd, asideScopes, List.foldl_append, ← asideScopes, h.shelf, hshelf]
  told := hd ▸ htold

theorem keep (h : Sound (s :: rest) hand d) (source : Option Nat) (event : Deed σ) :
    Sound ({ s with kept := s.kept ++ [d.next source event] } :: rest) hand
      (d.keep s source event) := by
  refine h.extend rfl (h.fits.concat ⟨h.events, ?_, fun hk => by cases hk⟩) rfl rfl rfl rfl ?_
  · rw [h.opens]
    rfl
  · refine h.told.concat rfl fun t ht => ?_
    rw [ht]
    simp [HoldScope.opening]

theorem pass (h : Sound [] hand d) (source : Option Nat) (event : Deed σ) :
    Sound [] hand (d.pass source event) := by
  refine h.extend (List.append_assoc ..) (h.fits.pair ⟨h.events, ?_, fun _ => rfl⟩
    List.getLast?_concat) rfl h.top rfl rfl (h.told.append _ (by simp [scope?]))
  rw [h.opens]
  rfl

theorem enter (h : Sound stack hand d) :
    Sound ({ number := d.scopes } :: stack) hand d.enter := by
  refine h.extend rfl (h.fits.concat ?_) rfl rfl rfl rfl (h.told.enter rfl ?_)
  · rw [Fits, h.opens, h.top]
    exact restores_of_holds fun a ha => h.told.holds a (List.mem_append_left _ ha)
  · rw [h.top]
    rfl

/-- Something is told of the scope in hand. -/
theorem note (h : Sound stack ((k, P) :: hand) d) {e : Entry σ} (he : e.scope? = some k)
    (hfits : e.Fits d.entries []) (hemitted : e.emitted? = none) (hopen : ∀ l, e.openAfter l = l)
    (haside : ∀ l, e.asideAfter l = l) (hPQ : ∀ t, P t → Q (t ++ [e])) :
    Sound stack ((k, Q) :: hand) (d.note e) :=
  h.extend rfl (h.fits.concat hfits) (by simp [Diary.note, emissions, hemitted]) h.top (hopen _)
    (haside _) (((h.told.perm List.perm_middle).concat he hPQ).perm List.perm_middle.symm)

/-- Nothing more happens to the scope in hand. -/
theorem release (h : Sound stack ((k, P) :: hand) d)
    (hP : ∀ t, P t → ∃ s enclosing, s.number = k ∧ HoldScope.Life s enclosing t) :
    Sound stack hand d := by
  have hfirst : Told _ ([(k, P)] ++ _) _ := h.told.perm List.perm_middle
  refine ⟨h.fits, h.events, h.top, h.opens, h.shelf, hfirst.release fun a ha => ?_⟩
  obtain rfl := List.mem_singleton.mp ha
  exact hP

/-! ### Leaving a scope -/

theorem innermost (h : Sound (s :: rest) hand d) :
    (openScopes d.entries).head? = some s.number ∧
      Restores d.entries (openScopes d.entries).tail.head? rest.head? := by
  rw [h.opens]
  exact ⟨rfl, restores_of_holds fun a ha =>
    h.told.holds a (List.mem_cons_of_mem _ (List.mem_append_left _ ha))⟩

theorem told_left (h : Sound (s :: rest) hand d) (fate : Fate) :
    Told d.scopes (s.left fate :: (openTales rest ++ (hand ++ d.aside.map HoldScope.waiting)))
      (d.entries ++ [.closed s.number s.kept.length rest.head? fate]) :=
  h.told.concat rfl fun t ht => ⟨rest.head?, by rw [ht]; rfl⟩

theorem leave_drop (h : Sound (s :: rest) hand d) (count : Nat → σ → σ) :
    Sound rest hand (d.leave s rest.head? count .drop) := by
  obtain ⟨htop, hrestores⟩ := h.innermost
  have hleft : Sound rest (s.left .drop :: hand) (d.leave s rest.head? count .drop) :=
    h.extend rfl (h.fits.concat ⟨htop, hrestores, fun hfate => by cases hfate⟩) rfl rfl rfl rfl
      ((h.told_left .drop).perm List.perm_middle.symm)
  refine hleft.release fun t ht => ?_
  obtain ⟨enclosing, rfl⟩ := ht
  exact ⟨s, enclosing, rfl, .dropped⟩

theorem leave_keep (h : Sound (s :: rest) hand d) (count : Nat → σ → σ) (name : String) :
    Sound rest hand (d.leave s rest.head? count (.keep name)) := by
  obtain ⟨htop, hrestores⟩ := h.innermost
  have htold := h.told_left (.keep name)
  rw [← List.append_assoc, ← List.cons_append] at htold
  refine h.extend rfl (h.fits.concat ⟨htop, hrestores, fun hfate => by cases hfate⟩) rfl rfl rfl ?_
    ((htold.sift fun a => a.1 ≠ name).perm ?_)
  · simp [asideAfter, Diary.leave, putAside, without, List.filter_map, Function.comp_def]
  · rw [List.cons_append, List.append_assoc]
    exact (List.perm_middle.symm).trans (List.perm_middle.symm.append_left _)

theorem leave_deliver (h : Sound (s :: rest) hand d) (count : Nat → σ → σ) :
    Sound rest (s.halfway .deliver [] :: hand)
      ((d.leave s rest.head? count .deliver).note (.delivered s.number)) := by
  obtain ⟨htop, hrestores⟩ := h.innermost
  refine h.extend (List.append_assoc ..) (h.fits.pair ⟨htop, hrestores, fun _ => rfl⟩
    (.inl ⟨_, _, List.getLast?_concat⟩)) rfl rfl rfl rfl ?_
  have htold := (h.told_left .deliver).concat (e := .delivered s.number)
    (Q := (s.halfway .deliver []).2) rfl fun t ht => ?_
  · rw [List.append_assoc] at htold
    exact htold.perm List.perm_middle.symm
  · obtain ⟨enclosing, rfl⟩ := ht
    exact ⟨enclosing, by simp⟩

/-! ### What was put aside -/

theorem lookup_shelf (h : Sound stack hand d) (name : String) :
    (asideScopes d.entries).lookup name = (d.aside.lookup name).map HoldScope.number := by
  rw [h.shelf, lookup_map]

theorem called (h : Sound stack hand d) {name : String} (hnone : d.aside.lookup name = none) :
    Sound stack hand ((d.without name).note (.called name)) := by
  refine h.extend rfl (h.fits.concat fun k hk => ?_) rfl h.top rfl ?_ ?_
  · rw [h.lookup_shelf, hnone] at hk
    cases hk
  · simp [asideAfter, Diary.note, without, List.filter_map, Function.comp_def]
  · have htold := h.told.append [.called name] (by simp [scope?])
    rw [← List.append_assoc] at htold ⊢
    exact htold.sift _

theorem take (h : Sound stack hand d) {name : String} (hs : d.aside.lookup name = some s) :
    Sound stack (s.halfway (.keep name) [] :: hand)
      (((d.without name).note (.called name)).note (.delivered s.number)) := by
  have hshelf : (asideScopes d.entries).lookup name = some s.number := by
    rw [h.lookup_shelf, hs]
    rfl
  refine h.extend (List.append_assoc ..) (h.fits.pair (fun k hk => ?_)
    (.inr ⟨_, _, rfl, hshelf⟩)) rfl h.top rfl ?_ ?_
  · rw [hshelf] at hk
    rw [Option.some.inj hk]
    rfl
  · simp [asideAfter, Diary.note, without, List.filter_map, Function.comp_def]
  · obtain ⟨l, l', haside, -⟩ := List.lookup_eq_some_iff.mp hs
    have hmiddle : ((openTales stack ++ hand ++ l.map HoldScope.waiting) ++
        HoldScope.waiting (name, s) :: l'.map HoldScope.waiting).Perm
          (HoldScope.waiting (name, s) :: _) := List.perm_middle
    have htaken : Told d.scopes ((HoldScope.waiting (name, s) :: (openTales stack ++ hand)) ++
        (l ++ l').map HoldScope.waiting) d.entries :=
      h.told.perm (by simpa [haside] using hmiddle)
    have hout : (l ++ l').filter (fun a => a.1 ≠ name) = (d.without name).aside := by
      simp [without, haside]
    have hsifted := (htaken.sift fun a => a.1 ≠ name).append [.called name]
      (by simp [scope?])
    rw [hout, List.cons_append, List.append_assoc] at hsifted
    have hbegun := hsifted.concat (e := .delivered s.number)
      (Q := (s.halfway (.keep name) []).2) rfl fun t ht => ?_
    · rw [List.append_assoc] at hbegun
      exact hbegun.perm List.perm_middle.symm
    · obtain ⟨enclosing, rfl⟩ := ht
      exact ⟨enclosing, by simp⟩

end Sound

end Diary

/-! ## A whole program -/

/-- The same scopes are open, and nothing has changed but what the innermost has kept back. -/
def SameScopes {σ : Type} (stack stack' : List (HoldScope σ)) : Prop :=
  stack'.map HoldScope.number = stack.map HoldScope.number ∧ stack'.tail = stack.tail

namespace SameScopes

variable {σ : Type} {a b c rest : List (HoldScope σ)} {s : HoldScope σ}

theorem rfl : SameScopes a a := ⟨Eq.refl _, Eq.refl _⟩

theorem trans (h : SameScopes a b) (h' : SameScopes b c) : SameScopes a c :=
  ⟨h'.1.trans h.1, h'.2.trans h.2⟩

theorem eq_nil (h : SameScopes [] b) : b = [] := List.map_eq_nil_iff.mp h.1

theorem eq_cons (h : SameScopes (s :: rest) b) : ∃ s', b = s' :: rest := by
  obtain ⟨hnumbers, htail⟩ := h
  cases b with
  | nil => cases hnumbers
  | cons s' b => exact ⟨s', by rw [← show b = rest from htail]⟩

end SameScopes

section

variable {σ : Type} {stack : List (HoldScope σ)} {hand : List (Tale σ)} {d : Diary σ}

theorem Deed.sound_write (deed : Deed σ) (source : Nat) (h : d.Sound stack hand) :
    ∃ stack', (deed.write source d).Sound stack' hand ∧ SameScopes stack stack' := by
  induction deed generalizing stack d source with
  | done => exact ⟨stack, h, .rfl⟩
  | change f rest ih => exact ih source (h.change f)
  | emit event rest ihe ihr =>
    cases stack with
    | nil =>
      obtain ⟨after, hafter, hsame⟩ := ihe d.events (h.pass (some source) event)
      obtain rfl := hsame.eq_nil
      have hnone : d.scope = none := h.top
      rw [Deed.write, hnone]
      exact ihr source hafter
    | cons s below =>
      obtain ⟨after, hafter, hsame⟩ := ihr source (h.keep (some source) event)
      have hsome : d.scope = some s := h.top
      rw [Deed.write, hsome]
      exact ⟨after, hafter, SameScopes.trans ⟨rfl, rfl⟩ hsame⟩

namespace Diary

theorem sound_emit (event : Deed σ) (h : d.Sound stack hand) :
    ∃ stack', (d.emit event).Sound stack' hand ∧ SameScopes stack stack' := by
  cases stack with
  | nil =>
    have hnone : d.scope = none := h.top
    rw [emit, hnone]
    exact event.sound_write d.events (h.pass none event)
  | cons s below =>
    have hsome : d.scope = some s := h.top
    rw [emit, hsome]
    exact ⟨_, h.keep none event, rfl, rfl⟩

theorem sound_reach {s : HoldScope σ} {fate : Fate} {done : List (Item σ)} (x : Item σ)
    (h : d.Sound stack (s.halfway fate done :: hand)) :
    ∃ stack', (d.reach s.number x).Sound stack' (s.halfway fate (done ++ [x]) :: hand) ∧
      SameScopes stack stack' := by
  refine x.event.sound_write x.number
    (h.note rfl trivial rfl (fun _ => rfl) (fun _ => rfl) fun t ht => ?_)
  obtain ⟨enclosing, rfl⟩ := ht
  exact ⟨enclosing, by simp⟩

theorem sound_deliver {s : HoldScope σ} {fate : Fate} (hfate : fate ≠ .drop)
    (h : (d.note (.delivered s.number)).Sound stack (s.halfway fate [] :: hand)) :
    ∃ stack', (d.deliver s).Sound stack' hand ∧ SameScopes stack stack' := by
  have hloop : ∀ (xs done : List (Item σ)) {stack : List (HoldScope σ)} {d : Diary σ},
      d.Sound stack (s.halfway fate done :: hand) →
      ∃ stack', (xs.foldl (reach s.number) d).Sound stack' (s.halfway fate (done ++ xs) :: hand) ∧
        SameScopes stack stack' := by
    intro xs
    induction xs with
    | nil =>
      intro done stack d h
      exact ⟨stack, by rwa [List.append_nil], .rfl⟩
    | cons x xs ih =>
      intro done stack d h
      obtain ⟨after, hafter, hsame⟩ := sound_reach x h
      obtain ⟨last, hlast, hsame'⟩ := ih (done ++ [x]) hafter
      rw [List.append_assoc] at hlast
      exact ⟨last, hlast, hsame.trans hsame'⟩
  obtain ⟨after, hafter, hsame⟩ := hloop s.kept [] h
  refine ⟨after, ?_, hsame⟩
  have hfinished := hafter.note (e := .finished s.number)
    (Q := fun t => ∃ enclosing, HoldScope.Life s enclosing t) rfl trivial rfl (fun _ => rfl)
    (fun _ => rfl) (by
      rintro t ⟨enclosing, rfl⟩
      exact ⟨enclosing, .delivered hfate⟩)
  exact hfinished.release fun t ⟨enclosing, ht⟩ => ⟨s, enclosing, rfl, ht⟩

/-- A scope is left, and its events have their fate. -/
theorem sound_leave {s : HoldScope σ} (h : d.Sound (s :: stack) hand) (count : Nat → σ → σ)
    (fate : Fate) :
    ∃ stack', ((d.leave s stack.head? count fate).settle s fate).Sound stack' hand ∧
      SameScopes stack stack' := by
  cases fate with
  | deliver => exact sound_deliver (fun hfate => by cases hfate) (h.leave_deliver count)
  | drop => exact ⟨stack, h.leave_drop count, .rfl⟩
  | keep name => exact ⟨stack, h.leave_keep count name, .rfl⟩

theorem sound_deliverAside (name : String) (h : d.Sound stack hand) :
    ∃ stack', (d.deliverAside name).Sound stack' hand ∧ SameScopes stack stack' := by
  unfold deliverAside
  split
  · next s hs => exact sound_deliver (fun hfate => by cases hfate) (h.take hs)
  · next hs => exact ⟨stack, h.called hs, .rfl⟩

end Diary

theorem Program.sound_write (p : Program σ) (h : d.Sound stack hand) :
    ∃ stack', (p.write d).Sound stack' hand ∧ SameScopes stack stack' := by
  induction p generalizing stack d with
  | done => exact ⟨stack, h, .rfl⟩
  | change f rest ih => exact ih (h.change f)
  | emit event rest ih =>
    obtain ⟨after, hafter, hsame⟩ := d.sound_emit event h
    obtain ⟨last, hlast, hsame'⟩ := ih hafter
    exact ⟨last, hlast, hsame.trans hsame'⟩
  | deliver name rest ih =>
    obtain ⟨after, hafter, hsame⟩ := d.sound_deliverAside name h
    obtain ⟨last, hlast, hsame'⟩ := ih hafter
    exact ⟨last, hlast, hsame.trans hsame'⟩
  | hold body count fate rest ihb ihr =>
    obtain ⟨inside, hinside, hin⟩ := ihb h.enter
    obtain ⟨s, rfl⟩ := hin.eq_cons
    have hs : (body.write d.enter).scope = some s := hinside.top
    obtain ⟨after, hafter, hsame⟩ := Diary.sound_leave hinside count fate
    obtain ⟨last, hlast, hsame'⟩ := ihr hafter
    refine ⟨last, ?_, hsame.trans hsame'⟩
    rw [write, hs, h.top]
    exact hlast

end

/-- Whatever a program does, its diary is well kept, and without the diary it is what the program
does. -/
theorem Program.events_kept_in_order {σ : Type} (p : Program σ) (outside : σ) :
    (p.write { outside }).floor = p.run { outside } ∧
      WellKept p (p.write { outside }).entries := by
  refine ⟨p.floor_write _, ?_⟩
  obtain ⟨stack, h, hsame⟩ := p.sound_write (Diary.sound_start outside)
  obtain rfl := hsame.eq_nil
  have hnone := Told.release_waiting (l := []) (h.told.perm (by rw [List.append_nil]; rfl))
  have hsteady : Diary.Steady ({ outside } : Diary σ) :=
    ⟨⟨fun past e later hsplit => by simp at hsplit, fun j => rfl⟩,
      fun s hs => (by cases hs), fun a ha => (by cases ha)⟩
  exact
    { fits := h.fits
      settled := fun k => hnone.settled k List.not_mem_nil
      steps := (p.steps_write { outside }).steps
      prompt := (p.steady_write hsteady).prompt }

/-- The inner scope is dropped, and the outer one has kept back what came before and after it. -/
example :
    let inner : Program Unit := .hold (.emit .done .done) (fun _ u => u) .drop (.emit .done .done)
    let p : Program Unit := .hold (.emit .done inner) (fun _ u => u) .deliver .done
    (p.write { outside := () }).entries.filterMap
      (fun | .reached x k => some (x.number, k) | _ => none) = [(0, some 0), (2, some 0)] := rfl

end Switchboard
