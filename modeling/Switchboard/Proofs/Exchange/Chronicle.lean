import Switchboard.Exchange
import Switchboard.Proofs.Minutes

/-!
# Chronicles

A run of an exchange is a list of moves: a member takes its next step, or a caller is given one
more thing to ask for. A member that cannot go on, or has nothing to do, lets its turn pass, so
that every list of moves is a run, and every interleaving is some list of moves. The chronicle of a
run is the minutes of the crew of an exchange, and what holds of minutes is used here as it is. To
let the members work until none can go on, as a program does, is one of the runs
(`exists_play_settle`).

`playBy_induction` is the one induction over runs: what holds at the start, and is kept by a step
and by a new request, holds of every chronicle. It is for any way of executing acts;
`play_induction` is the case of `execute`.
-/

namespace Switchboard.Exchange

inductive Move (τ : Type) where
  | step (member : Nat)
  /-- Callers are counted from zero; the worker is none of them. -/
  | ask (caller : Nat) (request : Request τ)

/-- An act that was executed, with the desk before and after it. -/
abbrev Moment (τ υ : Type) := Crew.Moment (Desk τ υ) (Act τ)

/-- An exchange and what its members have done. -/
abbrev Chronicle (τ υ : Type) := Crew.Minutes (Desk τ υ) (Act τ)

namespace Chronicle

export Crew.Minutes (shared_note shared_give moments_note moments_give agenda_note agenda_note_self
  mem_agenda_note agenda_give tally_note)

variable {τ υ : Type}

/-- Clients that have done nothing yet, and a transport nobody has called. -/
def opening (clients : List (SessionName × UInt64)) (farewells : List (SessionName × EndpointId)) :
    Network :=
  { sessions := .ofList (clients.map fun c => (c.1, { clientId := c.2 }))
    transport := { farewells := farewells } }

/-- A client that has done nothing yet has no connection and no flag. -/
theorem session_opening (clients : List (SessionName × UInt64))
    (farewells : List (SessionName × EndpointId)) (k : SessionName) :
    ∃ clientId, (opening clients farewells).session k = { clientId := clientId } := by
  have key : ∀ (l : List (SessionName × UInt64)) (d : Directory SessionName Session),
      (∃ i, (d.get? k).getD {} = { clientId := i }) →
      ∃ i, (((l.map fun c => (c.1, ({ clientId := c.2 } : Session))).foldl
        (fun d e => d.insert e.1 e.2) d).get? k).getD {} = { clientId := i } := by
    intro l
    induction l with
    | nil => exact fun d h => h
    | cons c l ih =>
      intro d h
      refine ih _ ?_
      rw [Directory.get?_insert]
      split
      · exact ⟨c.2, rfl⟩
      · exact h
  exact key clients .empty ⟨0, rfl⟩

/-- An exchange nobody has used yet, with any number of callers. -/
def start (network : Network) (outside : υ) (callers : Nat) : Chronicle τ υ :=
  { crew := Exchange.start network outside callers }

/-- A caller is given one more thing to ask for. -/
abbrev ask (c : Chronicle τ υ) (caller : Nat) (r : Request τ) : Chronicle τ υ :=
  c.give (caller + 1) [.request r]

/-- One move, with any way of executing acts. -/
def moveBy (x : Execution (Desk τ υ) (Act τ)) (c : Chronicle τ υ) : Move τ → Chronicle τ υ
  | .step member => c.turn x member
  | .ask caller r => c.ask caller r

def playBy (x : Execution (Desk τ υ) (Act τ)) (c : Chronicle τ υ) (moves : List (Move τ)) :
    Chronicle τ υ := moves.foldl (moveBy x) c

def move (o : Outside τ υ) (c : Chronicle τ υ) : Move τ → Chronicle τ υ := c.moveBy (execute o)

def play (o : Outside τ υ) (c : Chronicle τ υ) (moves : List (Move τ)) : Chronicle τ υ :=
  c.playBy (execute o) moves

theorem play_append (o : Outside τ υ) (c : Chronicle τ υ) (moves more : List (Move τ)) :
    c.play o (moves ++ more) = (c.play o moves).play o more := List.foldl_append ..

theorem move_eq_note {o : Outside τ υ} {c : Chronicle τ υ} {k : Nat} {act : Act τ}
    {rest acts : List (Act τ)} {d : Desk τ υ} (ha : c.agenda k = act :: rest)
    (he : execute o k act c.shared = some (d, acts)) :
    c.move o (.step k) = c.note k act d (acts ++ rest) :=
  Crew.Minutes.turn_eq_note ha he

/-- To let the members work until none can go on is one of the runs. -/
theorem exists_play_settle (o : Outside τ υ) (c : Chronicle τ υ) (members : List Nat) (fuel : Nat) :
    ∃ moves, (c.play o moves).crew = Crew.settle (execute o) members fuel c.crew := by
  obtain ⟨turns, h⟩ := Crew.Minutes.exists_turns_of_reaches
    (Crew.reaches_settle (execute o) members fuel c.crew)
  refine ⟨turns.map .step, ?_⟩
  rw [← h, play, playBy, List.foldl_map]
  rfl

/-! ## Induction -/

theorem playBy_induction {P : Chronicle τ υ → Prop} (x : Execution (Desk τ υ) (Act τ))
    (step : ∀ {c : Chronicle τ υ} {member : Nat} {act : Act τ} {rest acts : List (Act τ)}
      {d : Desk τ υ}, P c → c.agenda member = act :: rest →
      x member act c.shared = some (d, acts) → P (c.note member act d (acts ++ rest)))
    (ask : ∀ {c : Chronicle τ υ} (caller : Nat) (r : Request τ), P c → P (c.ask caller r))
    {c : Chronicle τ υ} (start : P c) (moves : List (Move τ)) : P (c.playBy x moves) := by
  induction moves generalizing c with
  | nil => exact start
  | cons m moves ih =>
    refine ih ?_
    cases m with
    | ask caller r => exact ask caller r start
    | step member =>
      show P (c.turn x member)
      rcases c.turn_cases x member with h | ⟨act, rest, d, acts, ha, he, h⟩
      · rw [h]
        exact start
      · rw [h]
        exact step start ha he

theorem play_induction {P : Chronicle τ υ → Prop} (o : Outside τ υ)
    (step : ∀ {c : Chronicle τ υ} {member : Nat} {act : Act τ} {rest acts : List (Act τ)}
      {d : Desk τ υ}, P c → c.agenda member = act :: rest →
      execute o member act c.shared = some (d, acts) → P (c.note member act d (acts ++ rest)))
    (ask : ∀ {c : Chronicle τ υ} (caller : Nat) (r : Request τ), P c → P (c.ask caller r))
    {c : Chronicle τ υ} (start : P c) (moves : List (Move τ)) : P (c.play o moves) :=
  playBy_induction (execute o) step ask start moves

/-- What every step makes sure of, given what the steps before it keep, holds of every moment. -/
theorem forall_momentsBy {P : Chronicle τ υ → Prop} {Q : Moment τ υ → Prop}
    (x : Execution (Desk τ υ) (Act τ))
    (step : ∀ {c : Chronicle τ υ} {member : Nat} {act : Act τ} {rest acts : List (Act τ)}
      {d : Desk τ υ}, P c → c.agenda member = act :: rest →
      x member act c.shared = some (d, acts) →
      P (c.note member act d (acts ++ rest)) ∧ Q ⟨member, act, c.shared, d⟩)
    (ask : ∀ {c : Chronicle τ υ} (caller : Nat) (r : Request τ), P c → P (c.ask caller r))
    {c : Chronicle τ υ} (start : P c) (fresh : c.moments = []) (moves : List (Move τ)) :
    ∀ m ∈ (c.playBy x moves).moments, Q m := by
  refine (playBy_induction x (P := fun c => P c ∧ ∀ m ∈ c.moments, Q m) ?_ ?_ ?_ moves).2
  · rintro c member act rest acts d ⟨hc, hm⟩ ha he
    obtain ⟨hc', hq⟩ := step hc ha he
    refine ⟨hc', fun m hmem => ?_⟩
    rcases List.mem_append.mp hmem with hmem | hmem
    · exact hm m hmem
    · rw [List.mem_singleton.mp hmem]
      exact hq
  · exact fun caller r ⟨hc, hm⟩ => ⟨ask caller r hc, hm⟩
  · refine ⟨start, fun m hmem => ?_⟩
    rw [fresh] at hmem
    cases hmem

theorem forall_moments {P : Chronicle τ υ → Prop} {Q : Moment τ υ → Prop} (o : Outside τ υ)
    (step : ∀ {c : Chronicle τ υ} {member : Nat} {act : Act τ} {rest acts : List (Act τ)}
      {d : Desk τ υ}, P c → c.agenda member = act :: rest →
      execute o member act c.shared = some (d, acts) →
      P (c.note member act d (acts ++ rest)) ∧ Q ⟨member, act, c.shared, d⟩)
    (ask : ∀ {c : Chronicle τ υ} (caller : Nat) (r : Request τ), P c → P (c.ask caller r))
    {c : Chronicle τ υ} (start : P c) (fresh : c.moments = []) (moves : List (Move τ)) :
    ∀ m ∈ (c.play o moves).moments, Q m :=
  forall_momentsBy (execute o) step ask start fresh moves

/-! ## Moments -/

/-- The moments lead from one desk to the other, each from where the one before has left it. -/
def Linked (d : Desk τ υ) : List (Moment τ υ) → Desk τ υ → Prop
  | [], d' => d = d'
  | m :: ms, d' => m.before = d ∧ Linked m.after ms d'

/-- Where a moment stands in a list that has one more at its end. -/
theorem concat_eq_append_cons {ms past later : List (Moment τ υ)} {m x : Moment τ υ}
    (h : ms ++ [x] = past ++ m :: later) :
    later = [] ∧ past = ms ∧ m = x ∨
      ∃ later', later = later' ++ [x] ∧ ms = past ++ m :: later' := by
  rcases List.eq_nil_or_concat later with rfl | ⟨later', y, rfl⟩
  · obtain ⟨rfl, hx⟩ := List.append_inj' h rfl
    cases hx
    exact .inl ⟨rfl, rfl, rfl⟩
  · rw [List.concat_eq_append, ← List.cons_append, ← List.append_assoc] at h
    obtain ⟨rfl, hy⟩ := List.append_inj' h rfl
    cases hy
    exact .inr ⟨later', List.concat_eq_append, rfl⟩

theorem linked_append {d d' : Desk τ υ} {ms ns : List (Moment τ υ)} :
    Linked d (ms ++ ns) d' ↔ ∃ e, Linked d ms e ∧ Linked e ns d' := by
  induction ms generalizing d with
  | nil => exact ⟨fun h => ⟨d, rfl, h⟩, fun ⟨e, he, h⟩ => he ▸ h⟩
  | cons m ms ih =>
    show _ ∧ Linked m.after (ms ++ ns) d' ↔ _
    rw [ih]
    exact ⟨fun ⟨hm, e, h, h'⟩ => ⟨e, ⟨hm, h⟩, h'⟩, fun ⟨e, ⟨hm, h⟩, h'⟩ => ⟨hm, e, h, h'⟩⟩

theorem linked_play (o : Outside τ υ) {c : Chronicle τ υ} (fresh : c.moments = [])
    (moves : List (Move τ)) : Linked c.shared (c.play o moves).moments (c.play o moves).shared := by
  refine play_induction o (P := fun b => Linked c.shared b.moments b.shared) ?_ ?_ ?_ moves
  · intro b member act rest acts d h _ _
    exact linked_append.mpr ⟨b.shared, h, rfl, rfl⟩
  · exact fun _ _ h => h
  · rw [fresh]
    rfl

/-! ## Agendas -/

section Agendas

variable {c : Chronicle τ υ} {member : Nat} {act : Act τ} {rest : List (Act τ)}

theorem mem_agenda_ask {caller k : Nat} {r : Request τ} {a : Act τ}
    (h : a ∈ (c.ask caller r).agenda k) : a ∈ c.agenda k ∨ (k = caller + 1 ∧ a = .request r) :=
  (Crew.Minutes.mem_agenda_give h).imp_right fun h => ⟨h.1, List.mem_singleton.mp h.2⟩

theorem agenda_ask_worker (c : Chronicle τ υ) (caller : Nat) (r : Request τ) :
    (c.ask caller r).agenda worker = c.agenda worker :=
  Crew.Minutes.agenda_give_of_ne (Nat.succ_ne_zero caller).symm c _

theorem tally_ask {p : Act τ → Bool} {r : Request τ} (h : p (.request r) = false)
    (c : Chronicle τ υ) (caller : Nat) : (c.ask caller r).tally p = c.tally p :=
  Crew.Minutes.tally_give (fun _ ha => List.mem_singleton.mp ha ▸ h) c _

/-- At the start the worker waits for work and nobody else has anything to do. -/
theorem agenda_start (network : Network) (outside : υ) (callers k : Nat) :
    (start network outside callers : Chronicle τ υ).agenda k =
      if k = worker then [.work] else [] :=
  Crew.agenda_cons_replicate ..

theorem tally_start {p : Act τ → Bool} (h : p .work = false) (network : Network) (outside : υ)
    (callers : Nat) : (start network outside callers : Chronicle τ υ).tally p = 0 := by
  refine List.countP_eq_zero.mpr fun a ha => ?_
  obtain ⟨k, hk⟩ := Crew.mem_agenda_of_mem_flatten ha
  have hk : a ∈ (start network outside callers : Chronicle τ υ).agenda k := hk
  rw [agenda_start] at hk
  split at hk
  · rw [List.mem_singleton.mp hk, h]; decide
  · cases hk

/-- How many acts of callers that pass `p` are still to be executed. -/
def tallyCallers (p : Act τ → Bool) (c : Chronicle τ υ) : Nat :=
  c.crew.agendas.tail.flatten.countP p

theorem tallyCallers_note_worker (hk : member = worker) (c : Chronicle τ υ) (act : Act τ)
    (d : Desk τ υ) (l : List (Act τ)) (p : Act τ → Bool) :
    tallyCallers p (c.note member act d l) = c.tallyCallers p := by
  subst hk
  unfold tallyCallers Crew.Minutes.note worker
  cases c.crew.agendas <;> rfl

theorem tallyCallers_note (hk : member ≠ worker) (h : c.agenda member = act :: rest)
    (d : Desk τ υ) (acts : List (Act τ)) (p : Act τ → Bool) :
    tallyCallers p (c.note member act d (acts ++ rest)) + [act].countP p =
      c.tallyCallers p + acts.countP p := by
  obtain ⟨k, rfl⟩ := Nat.exists_eq_succ_of_ne_zero hk
  cases hc : c.crew.agendas with
  | nil => rw [Crew.Minutes.agenda, Crew.agenda, hc] at h; cases h
  | cons l ls =>
    have hl : Crew.agenda { shared := c.shared, agendas := ls } k = act :: rest := by
      rw [Crew.Minutes.agenda, Crew.agenda, hc] at h
      exact h
    have ht := Crew.tally_set hl d acts p
    unfold tallyCallers Crew.Minutes.note
    simp only [hc, List.set_cons_succ, List.tail_cons]
    exact ht

theorem tallyCallers_ask {p : Act τ → Bool} {r : Request τ} (h : p (.request r) = false)
    {c : Chronicle τ υ} {caller : Nat} : (c.ask caller r).tallyCallers p = c.tallyCallers p := by
  unfold tallyCallers ask Crew.Minutes.give Crew.assign
  cases hc : c.crew.agendas with
  | nil => rfl
  | cons l ls =>
    exact Crew.tally_assign (c := { shared := c.shared, agendas := ls })
      (fun _ ha => List.mem_singleton.mp ha ▸ h)

theorem tallyCallers_start (p : Act τ → Bool) (network : Network) (outside : υ) (callers : Nat) :
    (start network outside callers : Chronicle τ υ).tallyCallers p = 0 := by
  unfold tallyCallers start Exchange.start
  simp only [List.tail_cons, List.flatten_replicate_nil, List.countP_nil]

theorem tallyCallers_of_worker {p : Act τ → Bool} (h : c.agenda worker = []) :
    c.tallyCallers p = c.tally p := by
  unfold Crew.Minutes.agenda Crew.agenda worker at h
  unfold tallyCallers Crew.Minutes.tally Crew.tally
  cases hc : c.crew.agendas with
  | nil => rfl
  | cons l ls =>
    rw [hc] at h
    rw [show l = [] from h]
    rfl

end Agendas

end Chronicle

/-! ## A small exchange to try things on -/

namespace Sample

/-- Code outside that never asks for anything. -/
def silent : Outside Unit Unit where
  onSignal _ _ _ u := (u, [])
  onTurn _ _ _ u := (u, [])

def request : Task Unit := ⟨"A", .requestConnection ⟨"EP01"⟩ [] {} {}, ()⟩

def disconnect : Task Unit := ⟨"A", .disconnectFromEndpoint ⟨"EP01"⟩, ()⟩

def accept : Task Unit := ⟨"A", .acceptConnection ⟨"EP01"⟩ {}, ()⟩

def reject : Task Unit := ⟨"A", .rejectConnection ⟨"EP01"⟩, ()⟩

def stopAll : Task Unit := ⟨"A", .stopAllEndpoints, ()⟩

def advertise : Task Unit := ⟨"A", .startAdvertising "svc" {} [] {}, ()⟩

def turns (member n : Nat) : List (Move Unit) := List.replicate n (.step member)

/-- A caller asks for an operation, which comes into the queue. -/
def submitting (t : Task Unit) : List (Move Unit) := .ask 0 (.submit t) :: turns 1 4

/-- An endpoint asks for a connection, and is not taken for accepted before it answers itself. -/
def knocking : List (Move Unit) :=
  [.ask 0 (.hook (.session "A" (.startedAdvertising "svc" {}))),
    .ask 0 (.hook (.transport (.autoAccept false))),
    .ask 0 (.hook (.session "A" (.incoming ⟨"EP01"⟩ [])))] ++ turns 1 4

/-- The run of one caller. -/
def run (moves : List (Move Unit)) : Chronicle Unit Unit :=
  (Chronicle.start (Chronicle.opening [] []) () 1).play silent moves

end Sample

end Switchboard.Exchange
