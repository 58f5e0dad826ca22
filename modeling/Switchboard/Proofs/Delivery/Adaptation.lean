import Switchboard.Proofs.Delivery.Origin

/-!
# Adapted listeners

A routine is a program that says at each emission which listener the event goes to and how that
listener was made. Wherever a routine emits an event to an adapted listener it may as well emit the
translated event to the listener behind, and listeners adapted twice may as well be adapted once
(`Routine.Alike`): the diary stays the same, entry by entry (`Routine.adapting_is_lawful`).

A relay is not an adapted listener: it emits anew, so that a scope that is open when its event is
delivered keeps that event back once more.
-/

namespace Switchboard

variable {σ : Type}

/-- A listener, as it was made. -/
inductive Outlet (σ : Type) : Type → Type 1 where
  | sink {ε : Type} (s : Sink σ ε) : Outlet σ ε
  | adapted {ε φ : Type} (f : φ → ε) (l : Outlet σ ε) : Outlet σ φ
  /-- Changes the outside, emits the event to `l` in another form and goes on like `next`. -/
  | relay {ε φ : Type} (note : φ → σ → σ) (f : φ → ε) (l : Outlet σ ε) (next : Outlet σ φ) :
    Outlet σ φ

namespace Outlet

def toSink : {ε : Type} → Outlet σ ε → Sink σ ε
  | _, sink s => s
  | _, adapted f l => l.toSink.adapt f
  | _, relay note f l next => fun e => .change (note e) (.emit (l.toSink (f e)) (next.toSink e))

/-- The same but for listeners adapted twice in place of once, at any depth. -/
inductive Alike : {ε : Type} → Outlet σ ε → Outlet σ ε → Prop where
  | fuse {δ ε φ : Type} (f : φ → ε) (g : ε → δ) (l : Outlet σ δ) :
    Alike ((l.adapted g).adapted f) (l.adapted (g ∘ f))
  | adapted {ε φ : Type} (f : φ → ε) {l l' : Outlet σ ε} (h : Alike l l') :
    Alike (l.adapted f) (l'.adapted f)
  | relay {ε φ : Type} (note : φ → σ → σ) (f : φ → ε) {l l' : Outlet σ ε} {next next' : Outlet σ φ}
    (h : Alike l l') (hnext : Alike next next') :
    Alike (.relay note f l next) (.relay note f l' next')
  | refl {ε : Type} (l : Outlet σ ε) : Alike l l
  | symm {ε : Type} {l l' : Outlet σ ε} (h : Alike l l') : Alike l' l
  | trans {ε : Type} {l l' l'' : Outlet σ ε} (h : Alike l l') (h' : Alike l' l'') : Alike l l''

theorem Alike.toSink_eq {ε : Type} {l l' : Outlet σ ε} (h : l.Alike l') :
    l.toSink = l'.toSink := by
  induction h with
  | fuse f g l => rfl
  | adapted f h ih => rw [toSink, toSink, ih]
  | relay note f h hnext ih ihnext => rw [toSink, toSink, ih, ihnext]
  | refl l => rfl
  | symm h ih => exact ih.symm
  | trans h h' ih ih' => exact ih.trans ih'

end Outlet

/-- What one thread does, with its listeners as they were made. -/
inductive Routine (σ : Type) : Type 1 where
  | done
  | emit {ε : Type} (l : Outlet σ ε) (e : ε) (rest : Routine σ)
  | change (f : σ → σ) (rest : Routine σ)
  | hold (body : Routine σ) (count : Nat → σ → σ) (fate : Fate) (rest : Routine σ)
  | deliver (name : String) (rest : Routine σ)

namespace Routine

def program : Routine σ → Program σ
  | done => .done
  | emit l e rest => .emit (l.toSink e) rest.program
  | change f rest => .change f rest.program
  | hold body count fate rest => .hold body.program count fate rest.program
  | deliver name rest => .deliver name rest.program

/-- The same but for emissions to adapted listeners in place of emissions to the listeners behind
them, and for listeners that are alike, at any place. -/
inductive Alike : Routine σ → Routine σ → Prop where
  | translate {ε φ : Type} (f : φ → ε) (l : Outlet σ ε) (e : φ) (rest : Routine σ) :
    Alike (.emit (l.adapted f) e rest) (.emit l (f e) rest)
  | emit {ε : Type} {l l' : Outlet σ ε} (hl : l.Alike l') (e : ε) {rest rest' : Routine σ}
    (h : Alike rest rest') : Alike (.emit l e rest) (.emit l' e rest')
  | change (f : σ → σ) {rest rest' : Routine σ} (h : Alike rest rest') :
    Alike (.change f rest) (.change f rest')
  | hold {body body' : Routine σ} (hbody : Alike body body') (count : Nat → σ → σ) (fate : Fate)
    {rest rest' : Routine σ} (h : Alike rest rest') :
    Alike (.hold body count fate rest) (.hold body' count fate rest')
  | deliver (name : String) {rest rest' : Routine σ} (h : Alike rest rest') :
    Alike (.deliver name rest) (.deliver name rest')
  | refl (p : Routine σ) : Alike p p
  | symm {p q : Routine σ} (h : Alike p q) : Alike q p
  | trans {p q r : Routine σ} (h : Alike p q) (h' : Alike q r) : Alike p r

theorem Alike.program_eq {p q : Routine σ} (h : p.Alike q) : p.program = q.program := by
  induction h with
  | translate f l e rest => rfl
  | emit hl e h ih => rw [program, program, hl.toSink_eq, ih]
  | change f h ih => rw [program, program, ih]
  | hold hbody count fate h ihbody ih => rw [program, program, ihbody, ih]
  | deliver name h ih => rw [program, program, ih]
  | refl p => rfl
  | symm h ih => exact ih.symm
  | trans h h' ih ih' => exact ih.trans ih'

end Routine

/-! ## Held once -/

/-- An open scope keeps back what a deed emits, and nothing else. -/
theorem Deed.scope_carryOut (deed : Deed σ) {w : Floor σ} {held : Held σ}
    (h : w.scope = some held) : (deed.carryOut w).scope = some (held ++ deed.emissions) := by
  induction deed generalizing w held with
  | done => rw [carryOut, h, emissions, List.append_nil]
  | change f rest ih => exact ih h
  | emit event rest _ ih =>
    have hemit : w.emit event = { w with scope := some (held ++ [event]) } := by
      rw [Floor.emit, h]
    rw [Floor.carryOut_emit, hemit, ih rfl, List.append_assoc]
    rfl

/-! ## Quiet listeners -/

/-- Emits nothing. -/
def Deed.Quiet (deed : Deed σ) : Prop := deed.emissions = []

/-- A deed that emits nothing changes the outside, and that is all. -/
theorem Deed.Quiet.write_eq {deed : Deed σ} (h : deed.Quiet) :
    ∃ f : σ → σ, ∀ (source : Nat) (d : Diary σ), deed.write source d = d.change f := by
  induction deed with
  | done => exact ⟨id, fun source d => rfl⟩
  | change g rest ih =>
    obtain ⟨f, hf⟩ := ih h
    exact ⟨f ∘ g, fun source d => hf source (d.change g)⟩
  | emit event rest _ _ => cases h

namespace Diary

/-- Nothing that is kept back will emit anything when it is delivered. -/
def Quiet (d : Diary σ) : Prop := d.Keeps (·.event.Quiet)

variable {d : Diary σ} {s : HoldScope σ}

theorem Quiet.emit (h : d.Quiet) {event : Deed σ} (hq : event.Quiet) :
    (d.emit event).Quiet ∧ (d.emit event).events = d.events + 1 := by
  unfold Diary.emit
  split
  · next s hs => exact ⟨h.keep hs hq, rfl⟩
  · obtain ⟨f, hf⟩ := hq.write_eq
    rw [hf]
    exact ⟨⟨h.scope, h.aside⟩, rfl⟩

/-- To deliver quiet events is to change the outside, and to make entries. -/
theorem Quiet.deliver (h : d.Quiet) (hs : ∀ x ∈ s.kept, x.event.Quiet) :
    (d.deliver s).Quiet ∧ (d.deliver s).events = d.events := by
  have hloop : ∀ (xs : List (Item σ)) {d : Diary σ}, d.Quiet → (∀ x ∈ xs, x.event.Quiet) →
      (xs.foldl (reach s.number) d).Quiet ∧ (xs.foldl (reach s.number) d).events = d.events := by
    intro xs
    induction xs with
    | nil => exact fun h _ => ⟨h, rfl⟩
    | cons x xs ih =>
      intro d h hxs
      obtain ⟨f, hf⟩ := (hxs x List.mem_cons_self).write_eq
      have hx : d.reach s.number x = (d.note (.reached x (some s.number))).change f := hf _ _
      rw [List.foldl_cons, hx]
      exact ih ⟨h.scope, h.aside⟩ fun y hy => hxs y (List.mem_cons_of_mem _ hy)
  obtain ⟨hq, he⟩ := hloop s.kept (d := d.note (.delivered s.number)) ⟨h.scope, h.aside⟩ hs
  exact ⟨⟨hq.scope, hq.aside⟩, he⟩

theorem Quiet.settle (h : d.Quiet) (hs : ∀ x ∈ s.kept, x.event.Quiet) (fate : Fate) :
    (d.settle s fate).Quiet ∧ (d.settle s fate).events = d.events := by
  cases fate with
  | deliver => exact h.deliver hs
  | _ => exact ⟨h, rfl⟩

theorem Quiet.deliverAside (h : d.Quiet) (name : String) :
    (d.deliverAside name).Quiet ∧ (d.deliverAside name).events = d.events := by
  have hwithout := h.without name
  have hcalled : ((d.without name).note (.called name)).Quiet := ⟨hwithout.scope, hwithout.aside⟩
  unfold Diary.deliverAside
  split
  · next s hs => exact hcalled.deliver (h.lookup hs)
  · exact ⟨hcalled, rfl⟩

end Diary

namespace Routine

/-- No listener of the routine emits anything itself. -/
def Quiet : Routine σ → Prop
  | done => True
  | emit l e rest => (l.toSink e).Quiet ∧ rest.Quiet
  | change _ rest => rest.Quiet
  | hold body _ _ rest => body.Quiet ∧ rest.Quiet
  | deliver _ rest => rest.Quiet

/-- How often the routine says to emit. -/
def emits : Routine σ → Nat
  | done => 0
  | emit _ _ rest => rest.emits + 1
  | change _ rest => rest.emits
  | hold body _ _ rest => body.emits + rest.emits
  | deliver _ rest => rest.emits

/-- With quiet listeners, however adapted, no event is emitted but where the routine says so; in
particular none is emitted when it is delivered. -/
theorem Quiet.write {p : Routine σ} (hp : p.Quiet) {d : Diary σ} (h : d.Quiet) :
    (p.program.write d).Quiet ∧ (p.program.write d).events = d.events + p.emits := by
  induction p generalizing d with
  | done => exact ⟨h, rfl⟩
  | emit l e rest ih =>
    obtain ⟨hq, he⟩ := h.emit hp.1
    obtain ⟨hrest, hre⟩ := ih hp.2 hq
    refine ⟨hrest, hre.trans ?_⟩
    rw [he, emits]
    omega
  | change f rest ih => exact ih hp (d := d.change f) ⟨h.scope, h.aside⟩
  | deliver name rest ih =>
    obtain ⟨hq, he⟩ := h.deliverAside name
    obtain ⟨hrest, hre⟩ := ih hp hq
    exact ⟨hrest, hre.trans (by rw [he]; rfl)⟩
  | hold body count fate rest ihb ihr =>
    obtain ⟨hbody, hbe⟩ := ihb hp.1 h.enter
    have hs : ∀ x ∈ ((body.program.write d.enter).scope.getD { number := d.scopes }).kept,
        x.event.Quiet := by
      cases hc : (body.program.write d.enter).scope with
      | none => exact fun x hx => by cases hx
      | some s => exact hbody.scope s hc
    have hleft := hbody.leave hs h.scope count fate
    obtain ⟨hq, he⟩ := Diary.Quiet.settle hleft hs fate
    obtain ⟨hrest, hre⟩ := ihr hp.2 hq
    refine ⟨hrest, hre.trans ?_⟩
    rw [he, Diary.leave_events, hbe, emits]
    exact Nat.add_assoc ..

/-- Routines that are alike have the same diary, which has every call of a sink, every event that is
kept back and how many those of a scope are. When an event of an adapted listener is delivered in
an open scope, that scope keeps back only what the listener behind emits; so with listeners that
emit nothing, however adapted, there are as many events as the routine says to emit. -/
theorem adapting_is_lawful {p q : Routine σ} (h : p.Alike q) :
    (∀ d : Diary σ, p.program.write d = q.program.write d) ∧
      (∀ w : Floor σ, p.program.run w = q.program.run w) ∧
      (∀ {ε φ : Type} (f : φ → ε) (l : Outlet σ ε) (e : φ) (w : Floor σ) (held : Held σ),
        w.scope = some held →
        (w.deliver [(l.adapted f).toSink e]).scope =
          some (held ++ (l.toSink (f e)).emissions)) ∧
      (p.Quiet → ∀ outside : σ, (p.program.write { outside }).events = p.emits) := by
  refine ⟨fun d => by rw [h.program_eq], fun w => by rw [h.program_eq], ?_, fun hp outside => ?_⟩
  · exact fun f l e w held hw => (l.toSink (f e)).scope_carryOut hw
  · have hstart : Diary.Quiet ({ outside } : Diary σ) :=
      ⟨fun s hs => (by cases hs), fun a ha => (by cases ha)⟩
    exact (hp.write hstart).2.trans (Nat.zero_add _)

end Routine

/-- A recorder of numbers. -/
def tape : Outlet (List Nat) Nat := .sink (Sink.changing fun n log => log ++ [n])

/-- Keeps a number back in one scope and delivers it in another. The log also gets the count of
each scope. -/
def deliveredInside (l : Outlet (List Nat) Nat) (n : Nat) : Routine (List Nat) :=
  .hold (.emit l n .done) (fun k log => log ++ [k]) (.keep "first")
    (.hold (.deliver "first" .done) (fun k log => log ++ [k]) .deliver .done)

/-- An adapted recorder gets one event, and the scope in which it is delivered keeps none back. -/
theorem Routine.adapted_tape_held_once :
    let adapted := deliveredInside ((tape.adapted (· + 1)).adapted (2 * ·)) 5
    adapted.program.write { outside := [] } =
        (deliveredInside tape 11).program.write { outside := [] } ∧
      (adapted.program.write { outside := [] }).events = 1 ∧
      (adapted.program.run { outside := [] }).outside = [1, 11, 0] := by
  intro adapted
  have halike : adapted.Alike (deliveredInside tape 11) := by
    refine .hold ?_ _ _ (.refl _)
    exact (Routine.Alike.translate _ _ _ _).trans (.translate _ _ _ _)
  obtain ⟨hwrite, -, -, hevents⟩ := Routine.adapting_is_lawful halike
  exact ⟨hwrite _, hevents ⟨⟨rfl, trivial⟩, trivial, trivial⟩ [], rfl⟩

example :
    let relay := Outlet.relay (fun _ log => log) (2 * · + 1) tape (.sink Sink.silent)
    ((deliveredInside relay 5).program.run { outside := [] }).outside = [1, 1, 11] := rfl

end Switchboard
