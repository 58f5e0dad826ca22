import Switchboard.Proofs.Exchange.Handling

/-!
# Nesting

What a member does comes in order: an act, then all that comes of it, then the next act. `Whole`
says so of acts that have been carried out to the end, and `Part` of acts that are still being
carried out.

`Leads` keeps account of what is left to do, step by step; it is what a run gives (`leads_playBy`).
What comes of an act stands in front of the rest of the agenda, so that the rest is not touched
before it is over (`Leads.split`); from this, `Whole` and `Part` follow by induction on the number
of moments.
-/

namespace Switchboard.Exchange

variable {τ υ : Type} {x : Execution (Desk τ υ) (Act τ)}

/-- The act of the moment has left `acts` to be done. -/
def Moment.Leaves (x : Execution (Desk τ υ) (Act τ)) (m : Moment τ υ) (acts : List (Act τ)) :
    Prop := x m.member m.act m.before = some (m.after, acts)

/-- The acts have been carried out, one after the other, each with all that comes of it. -/
inductive Whole (x : Execution (Desk τ υ) (Act τ)) : List (Act τ) → List (Moment τ υ) → Prop where
  | nil : Whole x [] []
  | cons {m : Moment τ υ} {acts rest : List (Act τ)} {ms ns : List (Moment τ υ)}
      (h : m.Leaves x acts) (hm : Whole x acts ms) (hn : Whole x rest ns) :
    Whole x (m.act :: rest) (m :: (ms ++ ns))

/-- The acts are being carried out, one after the other, each with all that comes of it. -/
inductive Part (x : Execution (Desk τ υ) (Act τ)) : List (Act τ) → List (Moment τ υ) → Prop where
  | nil (acts : List (Act τ)) : Part x acts []
  /-- Some of what comes of the first act is still to be done. -/
  | within {m : Moment τ υ} {acts : List (Act τ)} {ms : List (Moment τ υ)} (rest : List (Act τ))
      (h : m.Leaves x acts) (hm : Part x acts ms) : Part x (m.act :: rest) (m :: ms)
  | beyond {m : Moment τ υ} {acts rest : List (Act τ)} {ms ns : List (Moment τ υ)}
      (h : m.Leaves x acts) (hm : Whole x acts ms) (hn : Part x rest ns) :
    Part x (m.act :: rest) (m :: (ms ++ ns))

namespace Whole

variable {a : Act τ} {l l' : List (Act τ)} {ms : List (Moment τ υ)}

theorem eq_nil (h : Whole x [] ms) : ms = [] := by
  cases h
  rfl

theorem of_cons (h : Whole x (a :: l) ms) :
    ∃ m acts ms₁ ms₂, m.act = a ∧ m.Leaves x acts ∧ Whole x acts ms₁ ∧ Whole x l ms₂ ∧
      ms = m :: (ms₁ ++ ms₂) := by
  generalize hk : a :: l = k at h
  cases h with
  | nil => cases hk
  | cons h hm hn =>
    obtain ⟨rfl, rfl⟩ := List.cons.inj hk
    exact ⟨_, _, _, _, rfl, h, hm, hn, rfl⟩

theorem of_singleton (h : Whole x [a] ms) :
    ∃ m acts ms₁, m.act = a ∧ m.Leaves x acts ∧ Whole x acts ms₁ ∧ ms = m :: ms₁ := by
  obtain ⟨m, acts, ms₁, ms₂, ha, hl, hm, hn, rfl⟩ := h.of_cons
  rw [hn.eq_nil, List.append_nil]
  exact ⟨m, acts, ms₁, ha, hl, hm, rfl⟩

theorem of_append (h : Whole x (l ++ l') ms) :
    ∃ ms₁ ms₂, ms = ms₁ ++ ms₂ ∧ Whole x l ms₁ ∧ Whole x l' ms₂ := by
  induction l generalizing ms with
  | nil => exact ⟨[], ms, rfl, .nil, h⟩
  | cons a l ih =>
    obtain ⟨m, acts, ms₁, ms₂, rfl, hl, hm, hn, rfl⟩ := Whole.of_cons h
    obtain ⟨ns₁, ns₂, rfl, h₁, h₂⟩ := ih hn
    exact ⟨m :: (ms₁ ++ ns₁), ns₂, by simp, .cons hl hm h₁, h₂⟩

end Whole

/-! ## What is left to do -/

/-- From the agenda `l` the moments lead to the agenda `r`. -/
inductive Leads (x : Execution (Desk τ υ) (Act τ)) :
    List (Act τ) → List (Moment τ υ) → List (Act τ) → Prop where
  | nil (l : List (Act τ)) : Leads x l [] l
  | cons {m : Moment τ υ} {acts rest r : List (Act τ)} {ms : List (Moment τ υ)}
      (h : m.Leaves x acts) (hm : Leads x (acts ++ rest) ms r) : Leads x (m.act :: rest) (m :: ms) r

namespace Leads

variable {l l' r : List (Act τ)} {ms ns : List (Moment τ υ)} {m : Moment τ υ}

theorem append : Leads x l (ms ++ ns) r ↔ ∃ q, Leads x l ms q ∧ Leads x q ns r := by
  constructor
  · induction ms generalizing l with
    | nil => exact fun h => ⟨l, .nil l, h⟩
    | cons m ms ih =>
      rintro (_ | ⟨h, hm⟩)
      obtain ⟨q, hq, hr⟩ := ih hm
      exact ⟨q, .cons h hq, hr⟩
  · rintro ⟨q, hq, hr⟩
    induction hq with
    | nil => exact hr
    | cons h _ ih => exact .cons h (ih hr)

theorem concat {acts rest : List (Act τ)} (h : Leads x l ms (m.act :: rest))
    (hm : m.Leaves x acts) : Leads x l (ms ++ [m]) (acts ++ rest) :=
  append.mpr ⟨_, h, .cons hm (.nil _)⟩

/-- Of a moment in the middle: what there was to do before it, and what is done after it. -/
theorem at_moment (h : Leads x l (ms ++ m :: ns) r) :
    ∃ acts rest, Leads x l ms (m.act :: rest) ∧ m.Leaves x acts ∧ Leads x (acts ++ rest) ns r := by
  obtain ⟨q, hq, hr⟩ := append.mp h
  rcases hr with _ | ⟨hm, hn⟩
  exact ⟨_, _, hq, hm, hn⟩

/-- More to do at the end changes nothing before it. -/
theorem more (h : Leads x l ms r) (l' : List (Act τ)) : Leads x (l ++ l') ms (r ++ l') := by
  induction h with
  | nil l => exact .nil (l ++ l')
  | cons h _ ih => exact .cons h (by rwa [List.append_assoc] at ih)

theorem of_nil (h : Leads x [] ms r) : ms = [] ∧ r = [] := by
  cases h
  exact ⟨rfl, rfl⟩

theorem eq_of_nil (h : Leads x l [] r) : r = l := by
  cases h
  rfl

theorem of_cons {a : Act τ} (h : Leads x (a :: l) ms r) :
    ms = [] ∨ ∃ m acts ns, m.act = a ∧ m.Leaves x acts ∧ Leads x (acts ++ l) ns r ∧
      ms = m :: ns := by
  generalize hk : a :: l = k at h
  cases h with
  | nil => exact .inl rfl
  | cons h hm =>
    obtain ⟨rfl, rfl⟩ := List.cons.inj hk
    exact .inr ⟨_, _, _, rfl, h, hm, rfl⟩

/-- The second half of an agenda is not touched before the first half is over. -/
theorem split (h : Leads x (l ++ l') ms r) :
    (∃ q, Leads x l ms q ∧ r = q ++ l') ∨
      ∃ ms₁ ms₂, ms = ms₁ ++ ms₂ ∧ Leads x l ms₁ [] ∧ Leads x l' ms₂ r := by
  generalize hk : l ++ l' = k at h
  induction h generalizing l with
  | nil k => exact .inl ⟨l, .nil l, hk.symm⟩
  | @cons m acts rest r ms h hm ih =>
    cases l with
    | nil =>
      obtain rfl : l' = m.act :: rest := hk
      exact .inr ⟨[], m :: ms, rfl, .nil [], .cons h hm⟩
    | cons a l =>
      obtain ⟨rfl, rfl⟩ := List.cons.inj hk
      rcases ih (List.append_assoc acts l l') with ⟨q, hq, rfl⟩ | ⟨ms₁, ms₂, rfl, h₁, h₂⟩
      · exact .inl ⟨q, .cons h hq, rfl⟩
      · exact .inr ⟨m :: ms₁, ms₂, rfl, .cons h h₁, h₂⟩

/-- With nothing left to do everything has been carried out. -/
theorem whole (h : Leads x l ms []) : Whole x l ms := by
  induction hn : ms.length using Nat.strongRecOn generalizing l ms with
  | ind n ih =>
    subst hn
    rcases h with _ | ⟨h, hm⟩
    · exact .nil
    · rcases hm.split with ⟨q, hq, hr⟩ | ⟨ms₁, ms₂, rfl, h₁, h₂⟩
      · obtain ⟨rfl, rfl⟩ := List.append_eq_nil_iff.mp hr.symm
        have := Whole.cons h (ih _ (Nat.lt_succ_self _) hq rfl) .nil
        rwa [List.append_nil] at this
      · simp only [List.length_cons, List.length_append] at ih
        exact .cons h (ih _ (by omega) h₁ rfl) (ih _ (by omega) h₂ rfl)

theorem part (h : Leads x l ms r) : Part x l ms := by
  induction hn : ms.length using Nat.strongRecOn generalizing l ms r with
  | ind n ih =>
    subst hn
    rcases h with _ | ⟨h, hm⟩
    · exact .nil _
    · rcases hm.split with ⟨q, hq, -⟩ | ⟨ms₁, ms₂, rfl, h₁, h₂⟩
      · exact .within _ h (ih _ (Nat.lt_succ_self _) hq rfl)
      · simp only [List.length_cons, List.length_append] at ih
        exact .beyond h h₁.whole (ih _ (by omega) h₂ rfl)

end Leads

/-! ## Runs -/

namespace Chronicle

/-- What one member has done, oldest first. -/
def momentsOf (c : Chronicle τ υ) (k : Nat) : List (Moment τ υ) :=
  c.moments.filter (·.member = k)

theorem momentsOf_note (c : Chronicle τ υ) (member : Nat) (act : Act τ) (d : Desk τ υ)
    (l : List (Act τ)) (k : Nat) :
    momentsOf (c.note member act d l) k =
      if member = k then c.momentsOf k ++ [⟨member, act, c.shared, d⟩] else c.momentsOf k := by
  unfold momentsOf
  rw [moments_note, List.filter_append]
  split
  · next h => simp [h]
  · next h => simp [h]

theorem momentsOf_ask (c : Chronicle τ υ) (caller : Nat) (r : Request τ) (k : Nat) :
    (c.ask caller r).momentsOf k = c.momentsOf k := rfl

/-- What a member has done leads from what it was given to do, which for the worker is to turn to
the queue and for a caller what it was asked for, to what it has still to do. -/
theorem leads_playBy (x : Execution (Desk τ υ) (Act τ)) (network : Network) (outside : υ)
    (callers : Nat) (moves : List (Move τ)) (k : Nat) :
    let c := (start network outside callers).playBy x moves
    ∃ rs, (k = worker → rs = []) ∧
      Leads x ((if k = worker then [.work] else []) ++ rs.map .request) (c.momentsOf k)
        (c.agenda k) := by
  refine playBy_induction x (P := fun c => ∃ rs, (k = worker → rs = []) ∧
    Leads x ((if k = worker then [.work] else []) ++ rs.map .request) (c.momentsOf k)
      (c.agenda k)) ?_ ?_ ?_ moves
  · rintro c member act rest acts d ⟨rs, hw, hl⟩ ha he
    refine ⟨rs, hw, ?_⟩
    rw [momentsOf_note, agenda_note ha]
    by_cases hk : member = k
    · subst hk
      rw [if_pos rfl, if_pos rfl]
      rw [ha] at hl
      exact hl.concat (m := ⟨member, act, c.shared, d⟩) he
    · rw [if_neg hk, if_neg (Ne.symm hk)]
      exact hl
  · rintro c caller r ⟨rs, hw, hl⟩
    rw [momentsOf_ask]
    by_cases hk : k = worker
    · subst hk
      rw [agenda_ask_worker]
      exact ⟨rs, hw, hl⟩
    · rcases agenda_give c (caller + 1) [.request r] k with hr | hr
      · exact ⟨rs, hw, hr ▸ hl⟩
      · refine ⟨rs ++ [r], fun h => absurd h hk, ?_⟩
        rw [hr, List.map_append, ← List.append_assoc]
        exact hl.more [.request r]
  · refine ⟨[], fun _ => rfl, ?_⟩
    rw [agenda_start, List.map_nil, List.append_nil]
    exact .nil _

end Chronicle

end Switchboard.Exchange
