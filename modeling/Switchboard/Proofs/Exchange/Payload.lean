import Switchboard.Proofs.Exchange.Stopping
import Switchboard.Proofs.Stock

/-!
# Payloads that can be cancelled

A cancellation succeeds if a payload with its id has been handed over and not been cancelled since
(`Outstanding`), by whatever session: the transport has one stock for all of them, so that the ids
of two sessions get in each other's way (`cancelled_by_another`). `cancellation_status` says so for
every run in which the outcome of cancelling is not set beforehand. What carries it is `Stocked`:
while nobody is inside, what the transport keeps is what is outstanding, and whoever is inside deals
with the id in a way that keeps it so (`Deals`).
-/

namespace Switchboard

variable {τ υ : Type} {p : PayloadId}

namespace Errand

def cancels (p : PayloadId) : Errand τ → Bool
  | operation t => t.operation.cancels p
  | _ => false

theorem plan_stock (e : Errand τ) (h : e.cancels p = false) :
    e.plan.Follows (Stock p) false false := by
  cases e with
  | operation t => exact Operation.body_stock t.session t.operation h
  | listen s service l options => exact Transport.startListening_stock s service l options
  | unlisten s => exact .bind (Transport.stopListening_stock s) fun _ => .done Status.success
  | stop => exact .bind Transport.stop_stock fun _ => .done Status.success

theorem eq_of_cancels {e : Errand τ} (h : e.cancels p = true) :
    ∃ t, e = .operation t ∧ t.operation = .cancelPayload p := by
  cases e with
  | operation t =>
    refine ⟨t, rfl, ?_⟩
    obtain ⟨s, op, back⟩ := t
    cases op with
    | cancelPayload q => exact congrArg _ (eq_of_beq h)
    | _ => cases h
  | _ => cases h

end Errand

namespace Act

/-- The operation that is over with the act: its session, and its outcome. -/
def ended? : Act τ → Option (SessionName × Operation Listener × Status)
  | inside (.operation t) (.done status) _ => some (t.session, t.operation, status)
  | _ => none

theorem ended?_eq_some {a : Act τ} {s : SessionName} {op : Operation Listener} {status : Status}
    (h : a.ended? = some (s, op, status)) :
    ∃ back held, a = .inside (.operation ⟨s, op, back⟩) (.done status) held := by
  unfold ended? at h
  split at h
  · next t status held =>
    cases h
    exact ⟨t.back, held, rfl⟩
  · cases h

/-- `ended?` together with what has been kept back until then. -/
def returned? : Act τ → Option (SessionName × Operation Listener × Status × List Emission)
  | inside (.operation t) (.done status) held => some (t.session, t.operation, status, held)
  | _ => none

theorem returned?_eq_some {a : Act τ} {s : SessionName} {op : Operation Listener}
    {status : Status} {held : List Emission} (h : a.returned? = some (s, op, status, held)) :
    ∃ back, a = .inside (.operation ⟨s, op, back⟩) (.done status) held := by
  unfold returned? at h
  split at h
  · next t status held =>
    cases h
    exact ⟨t.back, rfl⟩
  · cases h

end Act

namespace Exchange

/-! ## What the history says -/

/-- A payload with id `p` is handed to the transport for the session. -/
def HandsOver (s : SessionName) (p : PayloadId) (m : Moment τ υ) : Prop :=
  ∃ ids payload, payload.id = p ∧ m.after.network.transport.history =
    m.before.network.transport.history ++ [⟨some s, .sendPayload ids payload⟩]

/-- A cancellation of `p` for the session ends with success. -/
def Cancels (s : SessionName) (p : PayloadId) (m : Moment τ υ) : Prop :=
  m.act.ended? = some (s, .cancelPayload p, .success)

/-- A payload with id `p` has been handed over for one of the sessions, and none of them has
cancelled it since. -/
def Outstanding (who : SessionName → Prop) (p : PayloadId) (ms : List (Moment τ υ)) : Prop :=
  ∃ past m later, ms = past ++ m :: later ∧ (∃ s, who s ∧ HandsOver s p m) ∧
    ∀ x ∈ later, ∀ s, who s → ¬ Cancels s p x

/-- Outstanding for whatever session. -/
abbrev Known (p : PayloadId) (ms : List (Moment τ υ)) : Prop := Outstanding (fun _ => True) p ms

theorem outstanding_concat {who : SessionName → Prop} {ms : List (Moment τ υ)} {m : Moment τ υ} :
    Outstanding who p (ms ++ [m]) ↔ (∃ s, who s ∧ HandsOver s p m) ∨
      Outstanding who p ms ∧ ∀ s, who s → ¬ Cancels s p m := by
  constructor
  · rintro ⟨past, x, later, heq, hx, hl⟩
    rcases Chronicle.concat_eq_append_cons heq with ⟨rfl, rfl, rfl⟩ | ⟨later, rfl, rfl⟩
    · exact .inl hx
    · exact .inr ⟨⟨past, x, later, rfl, hx, fun y hy => hl y (List.mem_append_left _ hy)⟩,
        hl m (List.mem_append_right _ (List.mem_singleton_self _))⟩
  · rintro (hm | ⟨⟨past, x, later, rfl, hx, hl⟩, hm⟩)
    · exact ⟨ms, m, [], rfl, hm, fun y hy => absurd hy List.not_mem_nil⟩
    · refine ⟨past, x, later ++ [m], by simp, hx, fun y hy => ?_⟩
      rcases List.mem_append.mp hy with hy | hy
      · exact hl y hy
      · rw [List.mem_singleton.mp hy]
        exact hm

/-- Where a payload id is used by one session only, it makes no difference whose it is. -/
theorem outstanding_of_alone {ms : List (Moment τ υ)} {s : SessionName}
    (h : ∀ x ∈ ms, ∀ s', HandsOver s' p x ∨ Cancels s' p x → s' = s) :
    Known p ms ↔ Outstanding (· = s) p ms := by
  constructor
  · rintro ⟨past, x, later, rfl, ⟨s', _, hx⟩, hl⟩
    have hs := h x (List.mem_append_right _ List.mem_cons_self) s' (.inl hx)
    exact ⟨past, x, later, rfl, ⟨s', hs, hx⟩, fun y hy s'' _ => hl y hy s'' trivial⟩
  · rintro ⟨past, x, later, rfl, ⟨s', _, hx⟩, hl⟩
    refine ⟨past, x, later, rfl, ⟨s', trivial, hx⟩, fun y hy s'' _ hc => ?_⟩
    have hmem := List.mem_append_right past (List.mem_cons_of_mem x hy)
    exact hl y hy s'' (h y hmem s'' (.inr hc)) hc

/-- To retain the stock is to hand nothing over. -/
theorem not_handsOver {m : Moment τ υ} (s : SessionName)
    (h : m.after.network.transport.history = m.before.network.transport.history ∨
      ∃ r : CallRecord, r.call.handsOver p = false ∧ m.after.network.transport.history =
        m.before.network.transport.history ++ [r]) : ¬ HandsOver s p m := by
  rintro ⟨ids, payload, hp, heq⟩
  rcases h with h | ⟨r, hr, h⟩
  · rw [h] at heq
    exact absurd heq (by simp)
  · rw [h] at heq
    have he := List.append_cancel_left heq
    obtain rfl := (List.cons.inj he).1
    rw [show Call.handsOver p (.sendPayload ids payload) = (payload.id == p) from rfl, hp,
      beq_self_eq_true] at hr
    cases hr

/-- A cancellation ends with success only when it ends. -/
theorem not_cancels {m : Moment τ υ} (s : SessionName) {e : Errand τ} {plan : Job Status}
    {held : List Emission} (ha : m.act = .inside e plan held)
    (h : e.cancels p = false ∨ plan ≠ .done .success) : ¬ Cancels s p m := by
  intro hc
  obtain ⟨back, held', ha'⟩ := Act.ended?_eq_some hc
  rw [ha] at ha'
  cases ha'
  rcases h with h | h
  · exact absurd h (by simp [Errand.cancels, Operation.cancels])
  · exact h rfl

/-- A moment that neither hands over nor cancels leaves things as they are. -/
theorem known_of_aside {ms : List (Moment τ υ)} {m : Moment τ υ} (hh : ∀ s, ¬ HandsOver s p m)
    (hc : ∀ s, ¬ Cancels s p m) : Known p (ms ++ [m]) ↔ Known p ms := by
  refine outstanding_concat.trans ?_
  exact ⟨fun h => h.elim (fun ⟨s, _, hs⟩ => absurd hs (hh s)) And.left,
    fun h => .inr ⟨h, fun s _ => hc s⟩⟩

/-! ## Whoever is inside -/

/-- What the holder of the transport still does about `p`, given whether it is outstanding. -/
inductive Deals (p : PayloadId) (e : Errand τ) (plan : Job Status) (n : Network) (known : Prop) :
    Prop where
  | cancelling (h : e.cancels p = true)
    (hw : plan.Withstands (Untaken p) (Retains p) (Cancelled p known) n)
  | settled (h : e.cancels p = false) (hf : plan.Follows (Stock p) false false)
    (hk : n.transport.keeps p = true ↔ known)
  | handing (h : e.cancels p = false) (hf : plan.Follows (Stock p) true false) (hk : known)

namespace Deals

variable {e : Errand τ} {plan : Job Status} {n n' : Network} {known known' : Prop}

theorem congr (h : Deals p e plan n known) (hk : known ↔ known') : Deals p e plan n known' :=
  propext hk ▸ h

/-- Whatever others do to the network meanwhile. -/
theorem untaken (h : Deals p e plan n known) (hn : Untaken p n n') : Deals p e plan n' known := by
  cases h with
  | cancelling h hw => exact .cancelling h (hw.rely (fun h h' => h.trans h') hn)
  | settled h hf hk => exact .settled h hf (by rw [hn.keeps]; exact hk)
  | handing h hf hk => exact .handing h hf hk

/-- Whoever enters finds what is outstanding. -/
theorem enter (e : Errand τ) (ha : n.transport.outcome .cancelPayload = .success)
    (hk : n.transport.keeps p = true ↔ known) : Deals p e e.plan n known := by
  cases hc : e.cancels p with
  | false => exact .settled hc (e.plan_stock hc) hk
  | true =>
    refine .cancelling hc ?_
    obtain ⟨⟨s, op, back⟩, rfl, rfl⟩ := Errand.eq_of_cancels hc
    rw [← propext hk]
    exact Transport.cancelPayload_withstands s ha

end Deals

/-! ## The stock along a run -/

section Step

variable {o : Outside τ υ} {me : Nat} {d d' : Desk τ υ} {act : Act τ} {acts : List (Act τ)}

theorem keeps_step (p : PayloadId) (h : Effect o me d act d' acts) (hi : act.isInside = false) :
    d'.network.transport.keeps p = d.network.transport.keeps p := by
  cases h with
  | hook h =>
    cases h with
    | session => rfl
    | transport h => cases h <;> rfl
  | look | act | await | leave => cases hi
  | _ => rfl

end Step

namespace Chronicle

/-- What the transport keeps of `p` is what is outstanding, unless somebody is dealing with it. -/
structure Stocked (p : PayloadId) (c : Chronicle τ υ) : Prop where
  exclusive : c.Exclusive
  allowed : c.transport.outcome .cancelPayload = .success
  free : c.shared.holder = none → (c.transport.keeps p = true ↔ Known p c.moments)
  inside : ∀ k e plan held rest, c.agenda k = .inside e plan held :: rest →
    Deals p e plan c.shared.network (Known p c.moments)

variable {c : Chronicle τ υ} {member : Nat} {act : Act τ} {rest acts : List (Act τ)}
  {o : Outside τ υ} {d d' : Desk τ υ}

theorem stocked_start (p : PayloadId) (sessions : Directory SessionName Session)
    (farewells : List (SessionName × EndpointId)) (outside : υ) (callers : Nat) :
    (start ⟨sessions, { farewells := farewells }⟩ outside callers : Chronicle τ υ).Stocked p := by
  refine ⟨exclusive_start .., rfl, fun _ => ⟨fun h => absurd h (by simp [transport, start,
    Crew.Minutes.shared, Exchange.start, Transport.keeps]), ?_⟩, fun k e plan held rest hk => ?_⟩
  · rintro ⟨past, m, later, heq, _⟩
    exact absurd heq.symm (by simp [start])
  · rw [agenda_start] at hk
    split at hk <;> cases hk

theorem stocked_ask (caller : Nat) (r : Request τ) (h : c.Stocked p) :
    (c.ask caller r).Stocked p := by
  refine ⟨exclusive_ask caller r h.exclusive, h.allowed, h.free, fun k e plan held rest hk => ?_⟩
  obtain ⟨l, hl⟩ := inside_ask h.exclusive hk
  exact h.inside k e plan held l hl

/-- A step of somebody outside is not about payloads. -/
theorem known_outside (he : Effect o member c.shared act d acts) (hi : act.isInside = false) :
    Known p (c.moments ++ [⟨member, act, c.shared, d⟩]) ↔ Known p c.moments := by
  refine known_of_aside (fun s => not_handsOver s (.inl (sameCalls_step he hi).history)) fun s => ?_
  intro hc
  obtain ⟨back, held, ha⟩ := Act.ended?_eq_some hc
  obtain rfl : act = _ := ha
  cases hi

/-- The holder goes on, and deals with what is outstanding by then. -/
theorem deals_step {e : Errand τ} {plan plan' : Job Status} {held held' : List Emission}
    (h : Deals p e plan c.shared.network (Known p c.moments))
    (he : Effect o member c.shared (.inside e plan held) d acts)
    (ha : .inside e plan' held' ∈ acts) :
    Deals p e plan' d.network
      (Known p (c.moments ++ [⟨member, .inside e plan held, c.shared, d⟩])) := by
  have aside (hp : plan ≠ .done .success)
      (hh : ∀ s, ¬ HandsOver s p ⟨member, .inside e plan held, c.shared, d⟩) :
      Known p (c.moments ++ [⟨member, .inside e plan held, c.shared, d⟩]) ↔ Known p c.moments :=
    known_of_aside hh fun s => not_cancels s rfl (.inr hp)
  cases he with
  | leave e status held => cases isInside_leaving e status held _ ha
  | look _ next =>
    cases List.mem_singleton.mp ha
    refine Deals.congr ?_ (aside nofun fun s => not_handsOver s (.inl rfl)).symm
    cases h with
    | cancelling hc hw => exact .cancelling hc (hw _ (.refl p _))
    | settled hc hf hk => cases hf with | look hf => exact .settled hc (hf _) hk
    | handing hc hf hk => cases hf with | look hf => exact .handing hc (hf _) hk
  | await _ ready =>
    cases List.mem_singleton.mp ha
    refine Deals.congr ?_ (aside nofun fun s => not_handsOver s (.inl rfl)).symm
    cases h with
    | cancelling hc hw => exact .cancelling hc (hw _ (.refl p _))
    | settled hc hf hk => cases hf with | await _ hf => exact .settled hc hf hk
    | handing hc hf hk => cases hf with | await _ hf => exact .handing hc hf hk
  | act =>
    cases List.mem_singleton.mp ha
    cases h with
    | cancelling hc hw =>
      obtain ⟨hg, hw⟩ := hw _ (.refl p _)
      exact (Deals.cancelling hc hw).congr (aside nofun fun s => not_handsOver s hg).symm
    | settled hc hf hk =>
      cases hf with
      | act hs hf =>
        cases hs with
        | aside _ hu =>
          have hu := hu c.shared.network
          exact (Deals.settled hc hf (by rw [hu.keeps]; exact hk)).congr
            (aside nofun fun s => not_handsOver s hu.history).symm
        | handOver s ids payload hp =>
          exact .handing hc hf (outstanding_concat.mpr (.inl ⟨s, trivial, ids, payload, hp, rfl⟩))
    | handing hc hf hk =>
      cases hf with
      | act hs hf =>
        cases hs with
        | aside _ hu =>
          have hu := hu c.shared.network
          exact (Deals.handing hc hf hk).congr
            (aside nofun fun s => not_handsOver s hu.history).symm
        | keep =>
          have hkeeps : (c.shared.network.transport.keepPayload p).keeps p = true := by
            rw [Transport.keeps_keepPayload, beq_self_eq_true]
            rfl
          exact (Deals.settled hc hf ⟨fun _ => hk, fun _ => hkeeps⟩).congr
            (aside nofun fun s => not_handsOver s (.inl rfl)).symm

/-- Whoever has dealt with `p` leaves what is outstanding. -/
theorem keeps_of_leaving {e : Errand τ} {status : Status} {held : List Emission}
    (h : Deals p e (.done status) c.shared.network (Known p c.moments)) (d : Desk τ υ)
    (hd : d.network = c.shared.network) :
    d.network.transport.keeps p = true ↔
      Known p (c.moments ++ [⟨member, .inside e (.done status) held, c.shared, d⟩]) := by
  have hh (s : SessionName) :
      ¬ HandsOver s p (⟨member, .inside e (.done status) held, c.shared, d⟩ : Moment τ υ) :=
    not_handsOver s (.inl (by rw [hd]))
  rw [hd]
  cases h with
  | settled hc hf hk =>
    exact hk.trans (known_of_aside hh fun s => not_cancels s rfl (.inl hc)).symm
  | handing hc hf => cases hf
  | cancelling hc hw =>
    obtain ⟨hstatus, hkeeps⟩ := hw _ (.refl p _)
    refine ⟨fun hk => absurd (hkeeps.symm.trans hk) Bool.false_ne_true, fun hknown => ?_⟩
    obtain ⟨⟨s, op, back⟩, rfl, rfl⟩ := Errand.eq_of_cancels hc
    rcases outstanding_concat.mp hknown with ⟨s, _, hs⟩ | ⟨hbefore, hcancels⟩
    · exact absurd hs (hh s)
    · rcases hstatus with ⟨_, rfl⟩ | ⟨hn, _⟩
      · exact absurd rfl (hcancels s trivial)
      · exact absurd hbefore hn

theorem stocked_note (h : c.Stocked p) (ha : c.agenda member = act :: rest)
    (he : Effect o member c.shared act d acts)
    (hok : d.network.transport.outcome .cancelPayload = .success) :
    Stocked p (c.note member act d (acts ++ rest)) := by
  refine ⟨exclusive_note h.exclusive ha he, hok, fun hd => ?_, fun k e plan held l hk => ?_⟩
  · cases hi : act.isInside with
    | true =>
      have hm : c.shared.holder = some member := h.exclusive.eq_holder (ha ▸ List.mem_cons_self) hi
      rcases inside_step he hi with ⟨e, status, held, rfl, rfl, rfl⟩ | ⟨hd', _⟩
      · exact keeps_of_leaving (h.inside member e _ held rest ha) _ rfl
      · rw [shared_note, hd', hm] at hd
        cases hd
    | false =>
      rcases outside_step he hi with ⟨_, _, _, _, rfl, _⟩ | ⟨hd', _⟩
      · cases hd
      · have hfree := h.free (hd' ▸ hd)
        rw [moments_note]
        show d.network.transport.keeps p = true ↔ _
        rw [keeps_step p he hi]
        exact hfree.trans (known_outside he hi).symm
  · rcases inside_note h.exclusive ha he hk with
      ⟨rfl, rfl, hfree, _, rfl, rfl⟩ | ⟨rfl, ⟨plan', held', rfl⟩, rfl⟩ | ⟨_, hi, hk⟩
    · exact ((Deals.enter e h.allowed (h.free hfree)).untaken
        ⟨keeps_step p he rfl, fun _ => hok⟩).congr (known_outside he rfl).symm
    · exact deals_step (h.inside k e plan' held' rest ha) he List.mem_cons_self
    · exact ((h.inside k e plan held l hk).untaken ⟨keeps_step p he hi, fun _ => hok⟩).congr
        (known_outside he hi).symm

/-- How a cancellation ends is settled by what was outstanding. -/
def Answers (p : PayloadId) (past : List (Moment τ υ)) (m : Moment τ υ) : Prop :=
  ∀ s status, m.act.ended? = some (s, .cancelPayload p, status) →
    Known p past ∧ status = .success ∨ ¬ Known p past ∧ status = .payloadUnknown

theorem answers_of_stocked (h : c.Stocked p) (ha : c.agenda member = act :: rest)
    (d : Desk τ υ) : Answers p c.moments ⟨member, act, c.shared, d⟩ := by
  intro s status hended
  obtain ⟨back, held, hact⟩ := Act.ended?_eq_some hended
  obtain rfl : act = _ := hact
  have hc : Errand.cancels p (.operation ⟨s, .cancelPayload p, back⟩ : Errand τ) = true :=
    beq_self_eq_true p
  cases h.inside member _ _ held rest ha with
  | cancelling _ hw => exact (hw _ (.refl p _)).1
  | settled hn | handing hn => exact absurd (hc.symm.trans hn) nofun

theorem answers_play (p : PayloadId) (o : Outside τ υ) (hc : c.Stocked p) (fresh : c.moments = [])
    (moves : List (Move τ))
    (allowed : ∀ m ∈ (c.play o moves).moments,
      m.after.network.transport.outcome .cancelPayload = .success) :
    ∀ past m later, (c.play o moves).moments = past ++ m :: later → Answers p past m := by
  refine (play_induction o (P := fun b => (∀ m ∈ b.moments,
      m.after.network.transport.outcome .cancelPayload = .success) →
    b.Stocked p ∧ ∀ past m later, b.moments = past ++ m :: later → Answers p past m)
    ?_ ?_ (fun _ => ⟨hc, ?_⟩) moves allowed).2
  · intro b member act rest acts d hb ha he hok
    obtain ⟨hs, hanswers⟩ := hb fun m hm => hok m (List.mem_append_left _ hm)
    refine ⟨stocked_note hs ha (execute_effect he)
      (hok _ (List.mem_append_right _ (List.mem_singleton_self _))), fun past m later heq => ?_⟩
    rcases concat_eq_append_cons heq with ⟨rfl, rfl, rfl⟩ | ⟨later, rfl, hpast⟩
    · exact answers_of_stocked hs ha d
    · exact hanswers past m later hpast
  · exact fun caller r hb hok => ⟨stocked_ask caller r (hb hok).1, (hb hok).2⟩
  · intro past m later heq
    rw [fresh] at heq
    exact absurd heq.symm (by simp)

/-- In every run in which nobody sets the outcome of cancelling beforehand, a cancellation of `p`
that ends succeeds if a payload with that id is outstanding, whoever has handed it over, and is told
that the payload is unknown if not. As long as no other session hands over or cancels a payload with
that id, what is outstanding is what the session itself has left so. -/
theorem cancellation_status (o : Outside τ υ) (sessions : Directory SessionName Session)
    (farewells : List (SessionName × EndpointId)) (outside : υ) (callers : Nat)
    (moves : List (Move τ)) (s : SessionName) (p : PayloadId) (status : Status)
    (past later : List (Moment τ υ)) (m : Moment τ υ)
    (split : ((start ⟨sessions, { farewells := farewells }⟩ outside callers).play o moves).moments =
      past ++ m :: later)
    (allowed : ∀ x ∈ past ++ m :: later,
      x.after.network.transport.outcome .cancelPayload = .success)
    (ends : m.act.ended? = some (s, .cancelPayload p, status)) :
    (Known p past ∧ status = .success ∨ ¬ Known p past ∧ status = .payloadUnknown) ∧
      ((∀ x ∈ past, ∀ s', HandsOver s' p x ∨ Cancels s' p x → s' = s) →
        (Known p past ↔ Outstanding (· = s) p past)) := by
  refine ⟨?_, outstanding_of_alone⟩
  have hstart := stocked_start (τ := τ) p sessions farewells outside callers
  exact answers_play p o hstart rfl moves (split ▸ allowed) past m later split s status ends

open Sample in
/-- The session that is connected to the endpoint hands a payload over. -/
def sending : List (Move Unit) :=
  submitting request ++ submitting ⟨"A", .acceptConnection ⟨"EP01"⟩ {}, ()⟩ ++
    submitting ⟨"A", .sendPayload [⟨"EP01"⟩] ⟨.chosen 7, .bytes []⟩, ()⟩

open Sample in
def cancelling (s : SessionName) : List (Move Unit) :=
  submitting ⟨s, .cancelPayload (.chosen 7), ()⟩

/-- The outcomes of cancellations, oldest first. -/
def cancellations (c : Chronicle τ υ) : List (SessionName × Status) :=
  c.moments.filterMap fun m =>
    match m.act.ended? with
    | some (s, .cancelPayload _, status) => some (s, status)
    | _ => none

open Sample in
/-- The payload that was sent is cancelled, since it is outstanding. -/
theorem own_cancelled :
    let c := run (sending ++ cancelling "A" ++ turns 0 60)
    ∃ past m later, c.moments = past ++ m :: later ∧
      m.act.ended? = some ("A", .cancelPayload (.chosen 7), .success) ∧ Known (.chosen 7) past := by
  intro c
  have hended : ∃ m ∈ c.moments,
      m.act.ended? = some ("A", .cancelPayload (.chosen 7), .success) := by decide +kernel
  have hallowed : ∀ x ∈ c.moments,
      x.after.network.transport.outcome .cancelPayload = .success := by decide +kernel
  obtain ⟨m, hm, hends⟩ := hended
  obtain ⟨past, later, hsplit⟩ := List.append_of_mem hm
  have h := cancellation_status silent ∅ [] () 1 (sending ++ cancelling "A" ++ turns 0 60) "A" _ _
    past later m hsplit (hsplit ▸ hallowed) hends
  refine ⟨past, m, later, hsplit, hends, ?_⟩
  rcases h.1 with ⟨hknown, _⟩ | ⟨_, hstatus⟩
  · exact hknown
  · cases hstatus

open Sample in
/-- Another session cancels the payload, and the one that has sent it cannot. -/
theorem cancelled_by_another :
    let c := run (sending ++ cancelling "B" ++ cancelling "A" ++ turns 0 70)
    c.cancellations = [("B", .success), ("A", .payloadUnknown)] ∧
      c.transport.history.filter (·.call.handsOver (.chosen 7)) =
        [⟨some "A", .sendPayload [⟨"EP01"⟩] ⟨.chosen 7, .bytes []⟩⟩] := by
  exact ⟨by decide +kernel, by decide +kernel⟩

end Chronicle

end Exchange

end Switchboard
