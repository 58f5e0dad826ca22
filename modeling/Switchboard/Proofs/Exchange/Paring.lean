import Switchboard.Proofs.Exchange.Division
import Switchboard.Proofs.Exchange.Holder

/-!
# A run without the requests of others

Beside a run stands the run that is left when only the own requests of a division are given. It
goes through the same own acts in the same order: at any time its agendas and its trace are those of
the run with what comes of other requests left out (`Shadow`). A move of the run is a move of its
shadow, too, or passes in the shadow (`Shadow.move`); `exists_shadow` is the same for whole runs.
-/

namespace Switchboard

variable {τ υ : Type}

/-- The second list is the first without some elements that may go; what is not told this way is
told by `ends`. -/
inductive Pared {A : Type} (stays goes : A → Prop) (ends : List A → List A → Prop) :
    List A → List A → Prop where
  | ends {l l' : List A} (h : ends l l') : Pared stays goes ends l l'
  | stay {a : A} {l l' : List A} (h : stays a) : Pared stays goes ends l l' →
    Pared stays goes ends (a :: l) (a :: l')
  | go {a : A} {l l' : List A} (h : goes a) : Pared stays goes ends l l' →
    Pared stays goes ends (a :: l) l'

namespace Pared

variable {A : Type} {stays goes : A → Prop} {ends ends' : List A → List A → Prop} {l l' m : List A}

theorem mono (h : Pared stays goes ends l l') (he : ∀ l l', ends l l' → ends' l l') :
    Pared stays goes ends' l l' := by
  induction h with
  | ends h => exact .ends (he _ _ h)
  | stay h _ ih => exact .stay h ih
  | go h _ ih => exact .go h ih

theorem stay_append (hm : ∀ a ∈ m, stays a) (h : Pared stays goes ends l l') :
    Pared stays goes ends (m ++ l) (m ++ l') := by
  induction m with
  | nil => exact h
  | cons a m ih =>
    exact .stay (hm a List.mem_cons_self) (ih fun b hb => hm b (List.mem_cons_of_mem _ hb))

theorem go_append (hm : ∀ a ∈ m, goes a) (h : Pared stays goes ends l l') :
    Pared stays goes ends (m ++ l) l' := by
  induction m with
  | nil => exact h
  | cons a m ih =>
    exact .go (hm a List.mem_cons_self) (ih fun b hb => hm b (List.mem_cons_of_mem _ hb))

/-- Lists that are told to the end can be followed by others. -/
theorem append {p p' : List A} (h : Pared stays goes ends l l')
    (hn : ∀ l l', ends l l' → l = [] ∧ l' = []) (hp : Pared stays goes ends p p') :
    Pared stays goes ends (l ++ p) (l' ++ p') := by
  induction h with
  | ends h =>
    obtain ⟨rfl, rfl⟩ := hn _ _ h
    exact hp
  | stay h _ ih => exact .stay h ih
  | go h _ ih => exact .go h ih

end Pared

namespace Exchange

/-- What the callers of a run were given to ask for, in order. -/
def asked (moves : List (Move τ)) : List (Nat × Request τ) :=
  moves.filterMap fun
    | .step _ => none
    | .ask caller r => some (caller, r)

namespace Chronicle

/-- Who has executed what, in order. -/
def trace (c : Chronicle τ υ) : List (Nat × Act τ) := c.moments.map fun m => (m.member, m.act)

@[simp] theorem trace_note (c : Chronicle τ υ) (k : Nat) (a : Act τ) (d : Desk τ υ)
    (l : List (Act τ)) : trace (c.note k a d l) = c.trace ++ [(k, a)] := List.map_append

end Chronicle

namespace Division

variable {D : Division τ} {o : Outside τ υ} {c c' : Chronicle τ υ} {k : Nat} {a : Act τ}
  {rest acts : List (Act τ)} {e e' : Desk τ υ}

theorem not_shows_of_other (h : D.Other a) : a.shows D.seen D.cues = false := by
  cases h with
  | deliver h => exact h
  | complete h | resume h => exact h
  | _ => rfl

/-- How agendas end. A caller has nothing more to do; the worker, when it is done with its job,
turns to the next. With a job of others at hand it is idle in the shadow. -/
inductive Ends : Nat → WorkerState (Task τ) → WorkerState (Task τ) → List (Act τ) →
    List (Act τ) → Prop where
  | caller {k : Nat} (hk : k ≠ worker) (w w' : WorkerState (Task τ)) : Ends k w w' [] []
  | idle : Ends worker .idle .idle [.work] [.work]
  | own (t : Task τ) : Ends worker (.running t) (.running t) [.finish, .work] [.finish, .work]
  | other (t : Task τ) : Ends worker (.running t) .idle [.finish, .work] [.work]

theorem Ends.nil_of_caller {w w' : WorkerState (Task τ)} {l l' : List (Act τ)}
    (h : Ends k w w' l l') (hk : k ≠ worker) : l = [] ∧ l' = [] := by
  cases h with
  | caller => exact ⟨rfl, rfl⟩
  | _ => exact absurd rfl hk

/-- What happens in the queue is nothing to a caller. -/
theorem Ends.of_caller {w w' v v' : WorkerState (Task τ)} {l l' : List (Act τ)}
    (h : Ends k w w' l l') (hk : k ≠ worker) : Ends k v v' l l' := by
  obtain ⟨rfl, rfl⟩ := h.nil_of_caller hk
  exact .caller hk v v'

/-- The second chronicle is what is left of the first without other requests. -/
structure Shadow (D : Division τ) (c c' : Chronicle τ υ) : Prop where
  alike : D.Alike c.shared c'.shared
  size : c'.crew.agendas.length = c.crew.agendas.length
  agendas : ∀ k, Pared D.Own D.Other (Ends k c.shared.queue.worker c'.shared.queue.worker)
    (c.agenda k) (c'.agenda k)
  exclusive : c.Exclusive ∧ c'.Exclusive
  sublist : c'.trace.Sublist c.trace
  shown : c'.trace.filter (·.2.shows D.seen D.cues) = c.trace.filter (·.2.shows D.seen D.cues)

theorem mem_of_pared {w w' : WorkerState (Task τ)} {l l' : List (Act τ)}
    (h : Pared D.Own D.Other (Ends k w w') l l') {b : Act τ} (hb : b ∈ l') : b ∈ l := by
  induction h with
  | ends h =>
    cases h with
    | other => exact List.mem_cons_of_mem _ hb
    | _ => exact hb
  | stay _ _ ih =>
    rcases List.mem_cons.mp hb with rfl | hb
    · exact List.mem_cons_self
    · exact List.mem_cons_of_mem _ (ih hb)
  | go _ _ ih => exact List.mem_cons_of_mem _ (ih hb)

/-- While nobody holds the transport nobody does in the shadow. -/
theorem Shadow.free (h : D.Shadow c c') (hf : c.shared.holder = none) :
    c'.shared.holder = none := by
  cases hk : c'.shared.holder with
  | none => rfl
  | some k =>
    obtain ⟨e, plan, held, l, hl, _⟩ := h.exclusive.2.holder k hk
    have hm := mem_of_pared (h.agendas k) (hl ▸ List.mem_cons_self)
    rw [h.exclusive.1.eq_holder hm rfl] at hf
    cases hf

/-! ## Steps -/

/-- The idle worker turns to the next job; in the shadow only if it is an own one. -/
theorem turn_to {d d' : Desk τ υ} (hd : D.Alike d d')
    (hw : d.queue.worker = .idle ∧ d'.queue.worker = .idle)
    (he : execute o k .work d = some (e, acts)) :
    ∃ t, acts = [.enter (.operation t), .finish, .work] ∧ e.queue.worker = .running t ∧
      D.allowed (.submit t) ∧ (D.own (.submit t) = false ∧ D.Alike e d' ∨
        D.own (.submit t) = true ∧ ∃ e', execute o k .work d' = some (e', acts) ∧
          D.Alike e e' ∧ e'.queue.worker = .running t) := by
  have hwaiting := hd.waiting
  have hallowed := hd.allowed
  cases hq : d.queue.waiting with
  | nil => simp [execute, WorkQueue.next?, hw.1, hq, hd.accepting.1] at he
  | cons t l =>
    rw [hq] at hwaiting hallowed
    simp only [execute, WorkQueue.next?, hw.1, hq, hd.going.1, Bool.false_eq_true, if_false] at he
    cases he
    have ht := hallowed t List.mem_cons_self
    have hl := fun x hx => hallowed x (List.mem_cons_of_mem _ hx)
    refine ⟨t, rfl, rfl, ht, ?_⟩
    cases ho : D.own (.submit t) with
    | false =>
      rw [List.filter_cons_of_neg (by simp [ho])] at hwaiting
      exact .inl ⟨rfl, hd.network, hd.opened, ⟨rfl, hd.going.2⟩, hd.accepting, hwaiting, hl⟩
    | true =>
      rw [List.filter_cons_of_pos (by simp [ho])] at hwaiting
      refine .inr ⟨rfl, ?_⟩
      simp only [execute, WorkQueue.next?, hw.2, hwaiting, hd.going.2, Bool.false_eq_true, if_false]
      exact ⟨_, rfl, ⟨hd.network, hd.opened, ⟨rfl, rfl⟩, hd.accepting, rfl, hl⟩, rfl⟩

/-- Being done with a job is nothing to those who look at the same. -/
theorem Alike.finish {d d' : Desk τ υ} (hd : D.Alike d d') :
    D.Alike { d with queue := d.queue.finish } d' ∧
      D.Alike { d with queue := d.queue.finish } { d' with queue := d'.queue.finish } := by
  obtain ⟨hn, ho, hg, ha, hw, hall⟩ := hd
  constructor <;> constructor <;>
    simp only [WorkQueue.stopping_finish, WorkQueue.closed_finish, WorkQueue.waiting_finish] <;>
    assumption

theorem worker_finish {q : WorkQueue (Task τ)} {t : Task τ} (h : q.worker = .running t) :
    q.finish.worker = .idle := by
  simp only [WorkQueue.finish, h]

/-- A step of the run that its shadow takes, too. -/
theorem Shadow.both {rest' acts' : List (Act τ)} (h : D.Shadow c c')
    (hk : c.agenda k = a :: rest) (hk' : c'.agenda k = a :: rest')
    (he : execute o k a c.shared = some (e, acts))
    (he' : execute o k a c'.shared = some (e', acts'))
    (hal : D.Alike e e')
    (hp : Pared D.Own D.Other (Ends k e.queue.worker e'.queue.worker) (acts ++ rest)
      (acts' ++ rest'))
    (hw : k ≠ worker → e.queue.worker = c.shared.queue.worker ∧
      e'.queue.worker = c'.shared.queue.worker) :
    D.Shadow (c.note k a e (acts ++ rest)) (c'.note k a e' (acts' ++ rest')) where
  alike := hal
  size := by simp [Crew.Minutes.note, h.size]
  agendas j := by
    rw [Chronicle.agenda_note hk, Chronicle.agenda_note hk']
    by_cases hj : j = k
    · rw [if_pos hj, if_pos hj, hj]
      exact hp
    · rw [if_neg hj, if_neg hj]
      refine (h.agendas j).mono fun l l' hl => ?_
      by_cases hkw : k = worker
      · exact hl.of_caller (hkw ▸ hj)
      · rw [Chronicle.shared_note, Chronicle.shared_note, (hw hkw).1, (hw hkw).2]
        exact hl
  exclusive := ⟨Chronicle.exclusive_note h.exclusive.1 hk (execute_effect he),
    Chronicle.exclusive_note h.exclusive.2 hk' (execute_effect he')⟩
  sublist := by
    rw [Chronicle.trace_note, Chronicle.trace_note]
    exact h.sublist.append (List.Sublist.refl _)
  shown := by
    rw [Chronicle.trace_note, Chronicle.trace_note, List.filter_append, List.filter_append, h.shown]

/-- A step of the run that passes in its shadow. -/
theorem Shadow.alone (h : D.Shadow c c') (hk : c.agenda k = a :: rest)
    (he : execute o k a c.shared = some (e, acts)) (ha : a.shows D.seen D.cues = false)
    (hal : D.Alike e c'.shared)
    (hp : Pared D.Own D.Other (Ends k e.queue.worker c'.shared.queue.worker) (acts ++ rest)
      (c'.agenda k))
    (hw : k ≠ worker → e.queue.worker = c.shared.queue.worker) :
    D.Shadow (c.note k a e (acts ++ rest)) c' where
  alike := hal
  size := by simp [Crew.Minutes.note, h.size]
  agendas j := by
    rw [Chronicle.agenda_note hk]
    by_cases hj : j = k
    · rw [if_pos hj, hj]
      exact hp
    · rw [if_neg hj]
      refine (h.agendas j).mono fun l l' hl => ?_
      by_cases hkw : k = worker
      · exact hl.of_caller (hkw ▸ hj)
      · rw [Chronicle.shared_note, hw hkw]
        exact hl
  exclusive := ⟨Chronicle.exclusive_note h.exclusive.1 hk (execute_effect he), h.exclusive.2⟩
  sublist := by
    rw [Chronicle.trace_note]
    exact h.sublist.trans (List.sublist_append_left ..)
  shown := by
    rw [Chronicle.trace_note, List.filter_append, h.shown]
    simp [ha]

open Chronicle in
/-- Whatever the run does next, its shadow does too, or need not do. -/
theorem Shadow.step (ho : o.Records) (h : D.Shadow c c') (hk : c.agenda k = a :: rest)
    (he : execute o k a c.shared = some (e, acts)) :
    D.Shadow (c.note k a e (acts ++ rest)) c' ∨
      D.Shadow (c.note k a e (acts ++ rest)) (c'.move o (.step k)) := by
  have hp := h.agendas k
  rw [hk] at hp
  generalize hw : c.shared.queue.worker = w at hp
  generalize hw' : c'.shared.queue.worker = w' at hp
  generalize hk' : c'.agenda k = l' at hp
  -- whether the act is at hand in both, in the run alone, or stands where agendas end
  cases hp with
  | @stay _ _ rest' ha hp =>
    obtain ⟨e', he', hal, hacts, hwe, hwe'⟩ := own_step ho ha h.alike h.free he
    refine .inr ?_
    rw [move_eq_note hk' he']
    refine h.both hk hk' he he' hal ?_ fun _ => ⟨hwe, hwe'⟩
    rw [hwe, hwe', hw, hw']
    exact hp.stay_append hacts
  | go ha hp =>
    obtain ⟨hal, hacts, hwe⟩ := other_step ho ha h.alike he
    refine .inl (h.alone hk he (not_shows_of_other ha) hal ?_ fun _ => hwe)
    rw [hwe, hw, hw', hk']
    exact hp.go_append hacts
  | ends hends =>
    -- the worker has no job at hand, or has just done with one
    cases hends with
    | idle =>
      obtain ⟨t, rfl, hwe, ht, ⟨hown, hal⟩ | ⟨hown, e', he', hal, hwe'⟩⟩ :=
        turn_to h.alike ⟨hw, hw'⟩ he
      · refine .inl (h.alone hk he rfl hal ?_ fun hn => absurd rfl hn)
        rw [hwe, hw', hk']
        exact .go (.enter ht hown) (.ends (.other t))
      · refine .inr ?_
        rw [move_eq_note hk' he']
        refine h.both hk hk' he he' hal ?_ fun hn => absurd rfl hn
        rw [hwe, hwe']
        exact .stay (.enter ht hown) (.ends (.own t))
    | own t =>
      cases he
      have he' : execute o worker .finish c'.shared =
        some ({ c'.shared with queue := c'.shared.queue.finish }, []) := rfl
      refine .inr ?_
      rw [move_eq_note hk' he']
      refine h.both hk hk' rfl he' h.alike.finish.2 ?_ fun hn => absurd rfl hn
      simp only [worker_finish hw, worker_finish hw']
      exact .ends .idle
    | other t =>
      cases he
      refine .inl (h.alone (o := o) hk rfl rfl h.alike.finish.1 ?_ fun hn => absurd rfl hn)
      simp only [worker_finish hw]
      rw [hw', hk']
      exact .ends .idle

/-! ## Runs -/

theorem shadow_ask (h : D.Shadow c c') {r : Request τ} (ha : D.allowed r) (caller : Nat) :
    D.own r = false ∧ D.Shadow (c.ask caller r) c' ∨
      D.own r = true ∧ D.Shadow (c.ask caller r) (c'.ask caller r) := by
  have hcaller : ∀ k, k = caller + 1 ∧ caller + 1 < c.crew.agendas.length → k ≠ worker :=
    fun k hk => hk.1 ▸ Nat.succ_ne_zero caller
  cases ho : D.own r with
  | false =>
    refine .inl ⟨rfl, h.alike, ?_, fun k => ?_, ⟨Chronicle.exclusive_ask caller r h.exclusive.1,
      h.exclusive.2⟩, h.sublist, h.shown⟩
    · exact h.size.trans (List.length_modify ..).symm
    · unfold Chronicle.ask Crew.Minutes.give Crew.Minutes.agenda
      rw [Crew.agenda_assign]
      split
      · next hk =>
        have := (h.agendas k).append (fun _ _ hl => hl.nil_of_caller (hcaller k hk))
          (.go (.request ha ho) (.ends (.caller (hcaller k hk) _ _)))
        rwa [List.append_nil] at this
      · exact h.agendas k
  | true =>
    refine .inr ⟨rfl, h.alike, ?_, fun k => ?_, ⟨Chronicle.exclusive_ask caller r h.exclusive.1,
      Chronicle.exclusive_ask caller r h.exclusive.2⟩, h.sublist, h.shown⟩
    · exact (List.length_modify ..).trans (h.size.trans (List.length_modify ..).symm)
    · unfold Chronicle.ask Crew.Minutes.give Crew.Minutes.agenda
      rw [Crew.agenda_assign, Crew.agenda_assign, h.size]
      split
      · next hk =>
        exact (h.agendas k).append (fun _ _ hl => hl.nil_of_caller (hcaller k hk))
          (.stay (.request ha ho) (.ends (.caller (hcaller k hk) _ _)))
      · exact h.agendas k

theorem shadow_start {network : Network} (hn : D.agree network network) (outside : υ)
    (callers : Nat) :
    D.Shadow (.start network outside callers) (.start network outside callers) where
  alike := ⟨hn, ⟨rfl, rfl⟩, ⟨rfl, rfl⟩, ⟨rfl, rfl⟩, rfl, List.forall_mem_nil _⟩
  size := rfl
  agendas k := by
    rw [Chronicle.agenda_start]
    split
    · next hk => exact hk ▸ .ends .idle
    · next hk => exact .ends (.caller hk _ _)
  exclusive := ⟨Chronicle.exclusive_start .., Chronicle.exclusive_start ..⟩
  sublist := .refl _
  shown := rfl

/-- A move of the run passes in its shadow, or is a move of both. -/
theorem Shadow.move (ho : o.Records) (h : D.Shadow c c') (m : Move τ)
    (hm : ∀ x ∈ asked [m], D.allowed x.2) :
    D.Shadow (c.move o m) c' ∧ (asked [m]).filter (fun x => D.own x.2) = [] ∨
      D.Shadow (c.move o m) (c'.move o m) ∧
        (asked [m]).filter (fun x => D.own x.2) = asked [m] := by
  cases m with
  | ask caller r =>
    rcases shadow_ask h (hm (caller, r) List.mem_cons_self) caller with ⟨hown, h⟩ | ⟨hown, h⟩
    · exact .inl ⟨h, by simp [asked, hown]⟩
    · exact .inr ⟨h, by simp [asked, hown]⟩
  | step k =>
    rcases Crew.Minutes.turn_cases (execute o) c k with hmove | ⟨a, rest, d, acts, hk, he, hmove⟩
    · rw [show c.move o (.step k) = c from hmove]
      exact .inl ⟨h, rfl⟩
    · rw [show c.move o (.step k) = _ from hmove]
      exact (h.step ho hk he).imp (fun h => ⟨h, rfl⟩) (fun h => ⟨h, rfl⟩)

/-- Every run has a shadow: a run with the own requests alone, made of some of its moves. -/
theorem exists_shadow (ho : o.Records) (h : D.Shadow c c') (moves : List (Move τ))
    (hm : ∀ x ∈ asked moves, D.allowed x.2) :
    ∃ moves', moves'.Sublist moves ∧
      asked moves' = (asked moves).filter (fun x => D.own x.2) ∧
      D.Shadow (c.play o moves) (c'.play o moves') := by
  induction moves generalizing c c' with
  | nil => exact ⟨[], .refl _, rfl, h⟩
  | cons m moves ih =>
    have hcons : ∀ l : List (Move τ), asked (m :: l) = asked [m] ++ asked l := fun l =>
      List.filterMap_append (l := [m])
    rw [hcons] at hm ⊢
    have hm' := fun x hx => hm x (List.mem_append_right _ hx)
    rw [List.filter_append]
    rcases h.move ho m fun x hx => hm x (List.mem_append_left _ hx) with ⟨h, hf⟩ | ⟨h, hf⟩
    · obtain ⟨moves', hs, ha, h⟩ := ih h hm'
      exact ⟨moves', .cons _ hs, by rw [ha, hf, List.nil_append], h⟩
    · obtain ⟨moves', hs, ha, h⟩ := ih h hm'
      exact ⟨m :: moves', .cons_cons _ hs, by rw [hcons, ha, hf], h⟩

end Division

end Exchange

end Switchboard
