import Switchboard.Proofs.Delivery.Diary

/-!
# Where entries come from

The steps of a program stand in its diary, in order, whatever its sinks do in between
(`Program.steps_write`). Sinks emit what there is to emit, and have done so before anything else
happens (`Prompt`, `Program.steady_write`). That they cannot be mistaken for one another rests on
`Diary.Numbered`: what is kept back was emitted before, so its number is not given again.
-/

namespace Switchboard

variable {σ : Type}

/-! ## What there is to do -/

/-- What a deed emits itself, in order. -/
def Deed.emissions : Deed σ → Held σ
  | done => []
  | change _ rest => rest.emissions
  | emit event rest => event :: rest.emissions

namespace Program

/-- A step that the program takes itself. -/
inductive Step (σ : Type) where
  /-- `scope` is the number of the innermost scope. -/
  | emitted (event : Deed σ) (scope : Option Nat)
  | opened (scope : Nat)
  | closed (scope : Nat) (fate : Fate)
  | called (name : String)

/-- How many scopes the program opens. -/
def scopes : Program σ → Nat
  | done => 0
  | emit _ rest => rest.scopes
  | change _ rest => rest.scopes
  | hold body _ _ rest => body.scopes + 1 + rest.scopes
  | deliver _ rest => rest.scopes

/-- The steps of the program inside the scope `around`, when `n` scopes have been opened before. -/
def steps (around : Option Nat) (n : Nat) : Program σ → List (Step σ)
  | done => []
  | emit event rest => .emitted event around :: rest.steps around n
  | change _ rest => rest.steps around n
  | hold body _ fate rest =>
    .opened n :: (body.steps (some n) (n + 1) ++
      .closed n fate :: rest.steps around (n + (body.scopes + 1)))
  | deliver name rest => .called name :: rest.steps around n

end Program

namespace Entry

/-- The step of the program that the entry records. -/
def step? : Entry σ → Option (Program.Step σ)
  | emitted x k => if x.source = none then some (.emitted x.event k) else none
  | opened k _ => some (.opened k)
  | closed k _ _ fate => some (.closed k fate)
  | called name => some (.called name)
  | _ => none

/-- Follows from the entry before it: a sink emits, or an event is not kept back. -/
def isEcho : Entry σ → Bool
  | emitted x _ => x.source.isSome
  | reached _ none => true
  | _ => false

/-- What the sink of event `j` emits. -/
def echo? (j : Nat) : Entry σ → Option (Deed σ)
  | emitted x _ => if x.source = some j then some x.event else none
  | _ => none

/-- Event `j`, as it reaches its sink. -/
def arrival? (j : Nat) : Entry σ → Option (Deed σ)
  | reached x _ => if x.number = j then some x.event else none
  | _ => none

def steps (es : List (Entry σ)) : List (Program.Step σ) := es.filterMap step?

def echoes (j : Nat) (es : List (Entry σ)) : Held σ := es.filterMap (echo? j)

def arrivals (j : Nat) (es : List (Entry σ)) : Held σ := es.filterMap (arrival? j)

theorem steps_append (es new : List (Entry σ)) : steps (es ++ new) = steps es ++ steps new :=
  List.filterMap_append

theorem echoes_append (j : Nat) (es new : List (Entry σ)) :
    echoes j (es ++ new) = echoes j es ++ echoes j new := List.filterMap_append

theorem arrivals_append (j : Nat) (es new : List (Entry σ)) :
    arrivals j (es ++ new) = arrivals j es ++ arrivals j new := List.filterMap_append

theorem steps_eq_nil_of_isEcho {new : List (Entry σ)} (h : ∀ e ∈ new, e.isEcho = true) :
    steps new = [] := by
  refine List.filterMap_eq_nil_iff.mpr fun e he => ?_
  have hecho := h e he
  cases e with
  | emitted x k =>
    have hs : x.source ≠ none := Option.isSome_iff_ne_none.mp hecho
    rw [step?, if_neg hs]
  | reached x k => rfl
  | _ => cases hecho

end Entry

/-- The sink of event `j` has emitted what it is to emit whenever the event has reached it. -/
def Answered (es : List (Entry σ)) (j : Nat) : Prop :=
  Entry.echoes j es = (Entry.arrivals j es).flatMap Deed.emissions

/-- An entry that has nothing to do with event `j`. -/
theorem Answered.concat {es : List (Entry σ)} {e : Entry σ} {j : Nat} (h : Answered es j)
    (hecho : e.echo? j = none) (harrival : e.arrival? j = none) : Answered (es ++ [e]) j := by
  unfold Answered at h ⊢
  rw [Entry.echoes_append, Entry.arrivals_append, h]
  simp [Entry.echoes, Entry.arrivals, hecho, harrival]

/-- Before anything else happens, every sink has emitted what it is to emit. -/
structure Prompt (es : List (Entry σ)) : Prop where
  before : ∀ past e later, es = past ++ e :: later → e.isEcho = false → ∀ j, Answered past j
  last : ∀ j, Answered es j

/-- An entry of two lists one after the other is an entry of the one or of the other. -/
theorem split_append {α : Type} {es new past later : List α} {e : α}
    (h : es ++ new = past ++ e :: later) :
    (∃ l, es = past ++ e :: l ∧ later = l ++ new) ∨
      ∃ l, new = l ++ e :: later ∧ past = es ++ l := by
  rcases List.append_eq_append_iff.mp h with ⟨l, rfl, hl⟩ | ⟨l, hes, hl⟩
  · exact .inr ⟨l, hl, rfl⟩
  · cases l with
    | nil => exact .inr ⟨[], by simpa using hl.symm, by simpa using hes.symm⟩
    | cons a l =>
      obtain ⟨rfl, rfl⟩ : e = a ∧ later = l ++ new := by simpa using hl
      exact .inl ⟨l, hes, rfl⟩

namespace Prompt

open Entry

variable {es : List (Entry σ)}

/-- Something happens, and sinks do what follows from it. -/
theorem append (h : Prompt es) {e : Entry σ} {new : List (Entry σ)}
    (hnew : ∀ a ∈ new, a.isEcho = true) (hlast : ∀ j, Answered (es ++ e :: new) j) :
    Prompt (es ++ e :: new) where
  before past a later hsplit ha := by
    rcases split_append hsplit with ⟨l, hes, -⟩ | ⟨l, hl, rfl⟩
    · exact h.before past a l hes ha
    · cases l with
      | nil => rw [List.append_nil]; exact h.last
      | cons b l =>
        obtain ⟨-, rfl⟩ : e = b ∧ new = l ++ a :: later := by simpa using hl
        have := hnew a (List.mem_append_right _ List.mem_cons_self)
        rw [ha] at this
        cases this
  last := hlast

/-- Something happens that no sink takes part in. -/
theorem concat (h : Prompt es) {e : Entry σ} (hecho : ∀ j, e.echo? j = none)
    (harrival : ∀ j, e.arrival? j = none) : Prompt (es ++ [e]) :=
  h.append (fun a ha => by cases ha) fun j => (h.last j).concat (hecho j) (harrival j)

end Prompt

/-! ## Sinks -/

namespace Diary

/-- Whatever is kept back has the property. -/
structure Keeps (P : Item σ → Prop) (d : Diary σ) : Prop where
  scope : ∀ s ∈ d.scope, ∀ x ∈ s.kept, P x
  aside : ∀ a ∈ d.aside, ∀ x ∈ a.2.kept, P x

/-- Whatever is kept back was emitted before. -/
def Numbered (d : Diary σ) : Prop := d.Keeps (·.number < d.events)

namespace Keeps

variable {P Q : Item σ → Prop} {d : Diary σ} {s : HoldScope σ}

theorem mono (h : d.Keeps P) (hPQ : ∀ x, P x → Q x) : d.Keeps Q :=
  ⟨fun s hs x hx => hPQ x (h.scope s hs x hx), fun a ha x hx => hPQ x (h.aside a ha x hx)⟩

theorem keep (h : d.Keeps P) (hs : d.scope = some s) {source : Option Nat} {event : Deed σ}
    (hx : P (d.next source event)) : (d.keep s source event).Keeps P := by
  refine ⟨fun s' hs' x hmem => ?_, h.aside⟩
  obtain rfl := Option.some.inj hs'
  rcases List.mem_append.mp hmem with hmem | hmem
  · exact h.scope s hs x hmem
  · rw [List.mem_singleton.mp hmem]
    exact hx

theorem without (h : d.Keeps P) (name : String) : (d.without name).Keeps P :=
  ⟨h.scope, fun a ha => h.aside a (List.mem_filter.mp ha).1⟩

theorem enter (h : d.Keeps P) : d.enter.Keeps P := by
  refine ⟨fun s hs x hx => ?_, h.aside⟩
  obtain rfl := Option.some.inj hs
  cases hx

theorem leave (h : d.Keeps P) (hs : ∀ x ∈ s.kept, P x) {enclosing : Option (HoldScope σ)}
    (henclosing : ∀ s ∈ enclosing, ∀ x ∈ s.kept, P x) (count : Nat → σ → σ) (fate : Fate) :
    (d.leave s enclosing count fate).Keeps P := by
  refine ⟨henclosing, fun a ha => ?_⟩
  cases fate with
  | keep name =>
    rcases List.mem_cons.mp ha with rfl | ha
    · exact hs
    · exact (h.without name).aside a ha
  | _ => exact h.aside a ha

theorem lookup (h : d.Keeps P) {name : String} (hs : d.aside.lookup name = some s) :
    ∀ x ∈ s.kept, P x := by
  obtain ⟨l, l', haside, -⟩ := List.lookup_eq_some_iff.mp hs
  exact h.aside (name, s) (by simp [haside])

end Keeps

namespace Numbered

variable {d : Diary σ} {s : HoldScope σ} {source : Option Nat} {event : Deed σ}

theorem keep (hs : d.scope = some s) (h : d.Numbered) : (d.keep s source event).Numbered :=
  (h.mono fun _ hx => Nat.lt_succ_of_lt hx).keep hs (Nat.lt_succ_self _)

theorem pass (h : d.Numbered) : (d.pass source event).Numbered :=
  have hlater := h.mono fun _ hx => Nat.lt_succ_of_lt hx
  ⟨hlater.scope, hlater.aside⟩

end Numbered

/-- Sinks have been at work. -/
structure Echoing (d d' : Diary σ) : Prop where
  entries : ∃ new, d'.entries = d.entries ++ new ∧ ∀ e ∈ new, e.isEcho = true
  scope : d'.scope.map HoldScope.number = d.scope.map HoldScope.number
  scopes : d'.scopes = d.scopes
  events : d.events ≤ d'.events
  numbered : d.Numbered → d'.Numbered

namespace Echoing

variable {d d' d'' : Diary σ} {s : HoldScope σ}

theorem refl (d : Diary σ) : Echoing d d :=
  ⟨⟨[], by simp⟩, rfl, rfl, Nat.le_refl _, id⟩

theorem trans (h : Echoing d d') (h' : Echoing d' d'') : Echoing d d'' := by
  obtain ⟨new, hnew, hecho⟩ := h.entries
  obtain ⟨new', hnew', hecho'⟩ := h'.entries
  refine ⟨⟨new ++ new', by rw [hnew', hnew, List.append_assoc], fun e he => ?_⟩,
    h'.scope.trans h.scope, h'.scopes.trans h.scopes, Nat.le_trans h.events h'.events,
    fun hd => h'.numbered (h.numbered hd)⟩
  exact (List.mem_append.mp he).elim (hecho e) (hecho' e)

theorem keep (hs : d.scope = some s) (source : Nat) (event : Deed σ) :
    Echoing d (d.keep s (some source) event) where
  entries := ⟨_, rfl, fun e he => by rw [List.mem_singleton.mp he]; rfl⟩
  scope := by rw [hs]; rfl
  scopes := rfl
  events := Nat.le_succ _
  numbered := Numbered.keep hs

theorem pass (source : Nat) (event : Deed σ) (d : Diary σ) :
    Echoing d (d.pass (some source) event) where
  entries := ⟨[_, _], List.append_assoc .., fun e he => by
    rcases List.mem_cons.mp he with rfl | he
    · rfl
    · rw [List.mem_singleton.mp he]
      rfl⟩
  scope := rfl
  scopes := rfl
  events := Nat.le_succ _
  numbered := Numbered.pass

theorem change {f : σ → σ} (h : Echoing (d.change f) d') : Echoing d d' :=
  ⟨h.entries, h.scope, h.scopes, h.events, fun hd => h.numbered ⟨hd.scope, hd.aside⟩⟩

theorem steps (h : Echoing d d') : Entry.steps d'.entries = Entry.steps d.entries := by
  obtain ⟨new, hnew, hecho⟩ := h.entries
  rw [hnew, Entry.steps_append, Entry.steps_eq_nil_of_isEcho hecho, List.append_nil]

end Echoing

end Diary

namespace Deed

open Entry

theorem echoing_write (deed : Deed σ) (source : Nat) (d : Diary σ) :
    Diary.Echoing d (deed.write source d) := by
  induction deed generalizing source d with
  | done => exact .refl d
  | change f rest ih => exact (ih source (d.change f)).change
  | emit event rest ihe ihr =>
    rw [write]
    split
    · next s hs => exact (Diary.Echoing.keep hs source event).trans (ihr source _)
    · exact ((Diary.Echoing.pass source event d).trans (ihe _ _)).trans (ihr source _)

/-- The sink of an event emits what it is to emit. An event that has a number already is not
reached meanwhile, and no other sink of such an event emits anything. -/
theorem echoes_write {j : Nat} (deed : Deed σ) (source : Nat) {d : Diary σ} (hj : j < d.events) :
    arrivals j (deed.write source d).entries = arrivals j d.entries ∧
      echoes j (deed.write source d).entries =
        echoes j d.entries ++ if source = j then deed.emissions else [] := by
  induction deed generalizing source d with
  | done => simp [write, emissions]
  | change f rest ih => exact ih source (d := d.change f) hj
  | emit event rest ihe ihr =>
    rw [write]
    split
    · next s hs =>
      obtain ⟨harrivals, hechoes⟩ := ihr source (d := d.keep s (some source) event)
        (Nat.lt_succ_of_lt hj)
      rw [harrivals, hechoes]
      simp only [Diary.keep, Diary.announce, Diary.next, arrivals_append, echoes_append]
      by_cases hsource : source = j <;> simp [arrivals, echoes, arrival?, echo?, hsource, emissions]
    · have hpass : j < (d.pass (some source) event).events := Nat.lt_succ_of_lt hj
      obtain ⟨ha, he⟩ := ihe d.events hpass
      obtain ⟨harrivals, hechoes⟩ := ihr source
        (d := event.write d.events (d.pass (some source) event))
        (Nat.lt_of_lt_of_le hpass (event.echoing_write _ _).events)
      rw [harrivals, hechoes, ha, he]
      have hne : d.events ≠ j := Nat.ne_of_gt hj
      simp only [Diary.pass, Diary.announce, Diary.note, Diary.next, arrivals_append,
        echoes_append]
      by_cases hsource : source = j <;>
        simp [arrivals, echoes, arrival?, echo?, hsource, hne, emissions]

end Deed

namespace Diary

open Entry

variable {d : Diary σ} {j : Nat}

theorem answered_announce {source : Option Nat} (hsource : source ≠ some j)
    (h : Answered d.entries j) (event : Deed σ) (k : Option Nat) :
    Answered (d.announce source event k).entries j :=
  h.concat (by simp [echo?, next, hsource]) rfl

/-- When an event with a number reaches its sink, the sink emits what it is to emit. -/
theorem answered_reached {x : Item σ} (hx : x.number < d.events)
    (h : Answered d.entries x.number) (k : Option Nat) :
    Answered (x.event.write x.number (d.note (.reached x k))).entries x.number := by
  obtain ⟨harrivals, hechoes⟩ := x.event.echoes_write x.number (d := d.note (.reached x k)) hx
  unfold Answered at h ⊢
  rw [harrivals, hechoes, if_pos rfl]
  simp only [note, arrivals_append, echoes_append, h]
  simp [arrivals, echoes, arrival?, echo?]

theorem answered_reached_other {x : Item σ} (hj : x.number ≠ j) (h : Answered d.entries j)
    (k : Option Nat) : Answered (d.note (.reached x k)).entries j :=
  h.concat rfl (by simp [arrival?, hj])

end Diary

/-- Whatever the sink of another event does, the sink of event `j` owes nothing. -/
theorem Deed.answered_write {j : Nat} (deed : Deed σ) (source : Nat) {d : Diary σ}
    (hsource : source < d.events) (hj : source ≠ j) (h : Answered d.entries j) :
    Answered (deed.write source d).entries j := by
  induction deed generalizing source d with
  | done => exact h
  | change f rest ih => exact ih source (d := d.change f) hsource hj h
  | emit event rest ihe ihr =>
    have hannounce := fun k =>
      Diary.answered_announce (fun heq => hj (Option.some.inj heq)) h event k
    rw [write]
    split
    · exact ihr source (Nat.lt_succ_of_lt hsource) hj (hannounce _)
    · refine ihr source (Nat.lt_of_lt_of_le (Nat.lt_succ_of_lt hsource)
        (event.echoing_write _ (d.pass (some source) event)).events) hj ?_
      -- `j` may be the number that the event gets.
      by_cases hnext : d.events = j
      · subst hnext
        exact Diary.answered_reached (x := d.next (some source) event) (Nat.lt_succ_self _)
          (hannounce none) none
      · exact ihe d.events (Nat.lt_succ_self _) hnext
          (Diary.answered_reached_other hnext (hannounce none) none)

namespace Diary

variable {d : Diary σ}

theorem answered_carried_out (h : ∀ j, Answered d.entries j) {x : Item σ}
    (hx : x.number < d.events) (k : Option Nat) (j : Nat) :
    Answered (x.event.write x.number (d.note (.reached x k))).entries j := by
  by_cases heq : x.number = j
  · subst heq
    exact answered_reached hx (h _) k
  · exact x.event.answered_write x.number hx heq (answered_reached_other heq (h j) k)

end Diary

/-! ## Programs -/

namespace Diary

/-- The steps `l` have been taken, with whatever sinks have done, and `n` scopes were opened. -/
structure Advance (l : List (Program.Step σ)) (n : Nat) (d d' : Diary σ) : Prop where
  steps : Entry.steps d'.entries = Entry.steps d.entries ++ l
  scope : d'.scope.map HoldScope.number = d.scope.map HoldScope.number
  scopes : d'.scopes = d.scopes + n
  events : d.events ≤ d'.events

namespace Advance

variable {l l' : List (Program.Step σ)} {n n' : Nat} {d d' d'' : Diary σ}

theorem trans (h : Advance l n d d') (h' : Advance l' n' d' d'') :
    Advance (l ++ l') (n + n') d d'' where
  steps := by rw [h'.steps, h.steps, List.append_assoc]
  scope := h'.scope.trans h.scope
  scopes := by rw [h'.scopes, h.scopes, Nat.add_assoc]
  events := Nat.le_trans h.events h'.events

theorem of_eq (h : Advance l n d d') (hl : l = l') (hn : n = n') : Advance l' n' d d' :=
  hl ▸ hn ▸ h

theorem echo (h : Advance l n d d') (h' : Echoing d' d'') : Advance l n d d'' where
  steps := h'.steps.trans h.steps
  scope := h'.scope.trans h.scope
  scopes := h'.scopes.trans h.scopes
  events := Nat.le_trans h.events h'.events

theorem note (e : Entry σ) (d : Diary σ) : Advance e.step?.toList 0 d (d.note e) where
  steps := by
    rw [Diary.note, Entry.steps_append]
    cases he : e.step? <;> simp [Entry.steps, he]
  scope := rfl
  scopes := rfl
  events := Nat.le_refl _

theorem emit (event : Deed σ) (d : Diary σ) :
    Advance [.emitted event (d.scope.map HoldScope.number)] 0 d (d.emit event) := by
  unfold Diary.emit
  split
  · next s hs =>
    refine ⟨?_, by rw [hs]; rfl, rfl, Nat.le_succ _⟩
    rw [hs]
    exact Entry.steps_append ..
  · next hs =>
    have hpass : Advance [.emitted event none] 0 d (d.pass none event) := by
      refine ⟨?_, rfl, rfl, Nat.le_succ _⟩
      rw [pass, Diary.note, Entry.steps_append, announce, Entry.steps_append]
      simp [Entry.steps, Entry.step?, next]
    rw [hs]
    exact hpass.echo (event.echoing_write _ _)

theorem reach (k : Nat) (d : Diary σ) (x : Item σ) : Advance [] 0 d (d.reach k x) :=
  (note (.reached x (some k)) d).echo (x.event.echoing_write _ _)

theorem deliver (s : HoldScope σ) (d : Diary σ) : Advance [] 0 d (d.deliver s) := by
  have hloop : ∀ (xs : List (Item σ)) (d : Diary σ),
      Advance [] 0 d (xs.foldl (Diary.reach s.number) d) := by
    intro xs
    induction xs with
    | nil => exact fun d => ⟨(List.append_nil _).symm, rfl, rfl, Nat.le_refl _⟩
    | cons x xs ih => exact fun d => (reach s.number d x).trans (ih _)
  exact ((note (.delivered s.number) d).trans (hloop s.kept _)).trans (note (.finished s.number) _)

theorem settle (s : HoldScope σ) (fate : Fate) (d : Diary σ) :
    Advance [] 0 d (d.settle s fate) := by
  cases fate with
  | deliver => exact deliver s d
  | _ => exact ⟨(List.append_nil _).symm, rfl, rfl, Nat.le_refl _⟩

theorem deliverAside (name : String) (d : Diary σ) :
    Advance [.called name] 0 d (d.deliverAside name) := by
  have hcalled : Advance [.called name] 0 d ((d.without name).note (.called name)) :=
    ⟨Entry.steps_append .., rfl, rfl, Nat.le_refl _⟩
  unfold Diary.deliverAside
  split
  · next s hs => exact hcalled.trans (deliver s _)
  · exact hcalled

end Advance

end Diary

/-- The steps of the program stand in the diary, and no others. -/
theorem Program.steps_write (p : Program σ) (d : Diary σ) :
    Diary.Advance (p.steps (d.scope.map HoldScope.number) d.scopes) p.scopes d (p.write d) := by
  induction p generalizing d with
  | done => exact ⟨(List.append_nil _).symm, rfl, rfl, Nat.le_refl _⟩
  | change f rest ih =>
    have hrest := ih (d.change f)
    exact ⟨hrest.steps, hrest.scope, hrest.scopes, hrest.events⟩
  | emit event rest ih =>
    have h := Diary.Advance.emit event d
    have hrest := ih (d.emit event)
    rw [h.scope, h.scopes] at hrest
    exact (h.trans hrest).of_eq rfl (Nat.zero_add _)
  | deliver name rest ih =>
    have h := Diary.Advance.deliverAside name d
    have hrest := ih (d.deliverAside name)
    rw [h.scope, h.scopes] at hrest
    exact (h.trans hrest).of_eq rfl (Nat.zero_add _)
  | hold body count fate rest ihb ihr =>
    have hbody := ihb d.enter
    obtain ⟨s, hs, hnumber⟩ := Option.map_eq_some_iff.mp hbody.scope
    have hleft : Diary.Advance
        (.opened d.scopes :: body.steps (some d.scopes) (d.scopes + 1) ++ [.closed d.scopes fate])
        (body.scopes + 1) d ((body.write d.enter).leave s d.scope count fate) := by
      refine ⟨?_, rfl, ?_, ?_⟩
      · rw [Diary.leave, Entry.steps_append, hbody.steps, Diary.enter, Entry.steps_append, hnumber]
        simp [Entry.steps, Entry.step?]
      · rw [Diary.leave_scopes, hbody.scopes]
        simp [Diary.enter]
        omega
      · rw [Diary.leave_events]
        exact hbody.events
    have hafter := hleft.trans (Diary.Advance.settle s fate _)
    have hrest := ihr (((body.write d.enter).leave s d.scope count fate).settle s fate)
    rw [hafter.scope, hafter.scopes] at hrest
    rw [write, hs]
    refine (hafter.trans hrest).of_eq ?_ rfl
    simp [steps]

namespace Diary

/-- Sinks have emitted what they are to emit, also those whose events have been kept back. -/
structure Steady (d : Diary σ) : Prop where
  prompt : Prompt d.entries
  numbered : d.Numbered

namespace Steady

variable {d : Diary σ} {s : HoldScope σ}

theorem note (h : d.Steady) {e : Entry σ} (hecho : ∀ j, e.echo? j = none)
    (harrival : ∀ j, e.arrival? j = none) : (d.note e).Steady :=
  ⟨h.prompt.concat hecho harrival, h.numbered.scope, h.numbered.aside⟩

theorem emit (h : d.Steady) (event : Deed σ) : (d.emit event).Steady := by
  unfold Diary.emit
  split
  · next s hs =>
    refine ⟨h.prompt.concat (fun j => ?_) (fun j => rfl), h.numbered.keep hs⟩
    simp [Entry.echo?, next]
  · have hecho := event.echoing_write d.events (d.pass none event)
    refine ⟨?_, hecho.numbered h.numbered.pass⟩
    obtain ⟨new, hnew, hall⟩ := hecho.entries
    have hannounce : ∀ j, Answered (d.announce none event none).entries j := fun j =>
      answered_announce (fun hnone => by cases hnone) (h.prompt.last j) event none
    have hanswered :=
      answered_carried_out hannounce (x := d.next none event) (Nat.lt_succ_self _) none
    have hentries : (event.write d.events (d.pass none event)).entries =
        d.entries ++ .emitted (d.next none event) none ::
          (.reached (d.next none event) none :: new) := by
      rw [hnew]
      simp [pass, Diary.note, announce]
    rw [hentries]
    refine h.prompt.append (fun a ha => ?_) fun j => hentries ▸ hanswered j
    rcases List.mem_cons.mp ha with rfl | ha
    · rfl
    · exact hall a ha

theorem reach (h : d.Steady) {x : Item σ} (hx : x.number < d.events) (k : Nat) :
    (d.reach k x).Steady := by
  have hecho := x.event.echoing_write x.number (d.note (.reached x (some k)))
  refine ⟨?_, hecho.numbered ⟨h.numbered.scope, h.numbered.aside⟩⟩
  obtain ⟨new, hnew, hall⟩ := hecho.entries
  have hentries : (d.reach k x).entries = d.entries ++ .reached x (some k) :: new := by
    rw [Diary.reach, hnew]
    simp [Diary.note]
  rw [hentries]
  exact h.prompt.append hall fun j => hentries ▸
    answered_carried_out h.prompt.last hx (some k) j

theorem deliver (h : d.Steady) (hs : ∀ x ∈ s.kept, x.number < d.events) :
    (d.deliver s).Steady := by
  have hloop : ∀ (xs : List (Item σ)) {d : Diary σ}, d.Steady →
      (∀ x ∈ xs, x.number < d.events) → (xs.foldl (Diary.reach s.number) d).Steady := by
    intro xs
    induction xs with
    | nil => exact fun h _ => h
    | cons x xs ih =>
      intro d h hxs
      have hlater := (Advance.reach s.number d x).events
      exact ih (h.reach (hxs x List.mem_cons_self) s.number) fun y hy =>
        Nat.lt_of_lt_of_le (hxs y (List.mem_cons_of_mem _ hy)) hlater
  have hbegun := h.note (e := .delivered s.number) (fun _ => rfl) (fun _ => rfl)
  exact (hloop s.kept hbegun hs).note (fun _ => rfl) (fun _ => rfl)

theorem leave (h : d.Steady) (hs : ∀ x ∈ s.kept, x.number < d.events)
    {enclosing : Option (HoldScope σ)}
    (henclosing : ∀ s ∈ enclosing, ∀ x ∈ s.kept, x.number < d.events) (count : Nat → σ → σ)
    (fate : Fate) : (d.leave s enclosing count fate).Steady := by
  refine ⟨h.prompt.concat (fun _ => rfl) (fun _ => rfl), ?_⟩
  rw [Numbered, leave_events]
  exact h.numbered.leave hs henclosing count fate

theorem settle (h : d.Steady) (hs : ∀ x ∈ s.kept, x.number < d.events) (fate : Fate) :
    (d.settle s fate).Steady := by
  cases fate with
  | deliver => exact h.deliver hs
  | _ => exact h

theorem deliverAside (h : d.Steady) (name : String) : (d.deliverAside name).Steady := by
  have hwithout := h.numbered.without name
  have hcalled : ((d.without name).note (.called name)).Steady :=
    ⟨h.prompt.concat (fun _ => rfl) (fun _ => rfl), hwithout.scope, hwithout.aside⟩
  unfold Diary.deliverAside
  split
  · next s hs => exact hcalled.deliver (h.numbered.lookup hs)
  · exact hcalled

end Steady

end Diary

/-- Whatever a program does, sinks emit what there is to emit, and in time. -/
theorem Program.steady_write (p : Program σ) {d : Diary σ} (h : d.Steady) :
    (p.write d).Steady := by
  induction p generalizing d with
  | done => exact h
  | change f rest ih => exact ih (d := d.change f) ⟨h.prompt, h.numbered.scope, h.numbered.aside⟩
  | emit event rest ih => exact ih (h.emit event)
  | deliver name rest ih => exact ih (h.deliverAside name)
  | hold body count fate rest ihb ihr =>
    have hadvance := body.steps_write d.enter
    have hbody : (body.write d.enter).Steady :=
      ihb ⟨h.prompt.concat (fun _ => rfl) (fun _ => rfl), h.numbered.enter⟩
    obtain ⟨s, hs, -⟩ := Option.map_eq_some_iff.mp hadvance.scope
    have hkept : ∀ x ∈ s.kept, x.number < (body.write d.enter).events :=
      hbody.numbered.scope s hs
    rw [write, hs]
    refine ihr ((hbody.leave hkept (fun s' hs' x hx => ?_) count fate).settle ?_ fate)
    · exact Nat.lt_of_lt_of_le (h.numbered.scope s' hs' x hx) hadvance.events
    · rw [Diary.leave_events]
      exact hkept

end Switchboard
