import Switchboard.Proofs.Exchange.Line

/-!
# The request in hand

The worker has at most one request for an endpoint in hand, from when it takes it from the queue
until it has settled (`InHand`). In a run by turns of an open exchange, what the worker has in hand
and what waits behind it account for the flag of the endpoint, unless somebody has changed flags by
hand (`ruled_playTurns`).
-/

namespace Switchboard

variable {τ υ : Type}

namespace Exchange

/-- Nobody has changed flags of the session by hand. -/
def HandsOff (s : SessionName) (moments : List (Moment τ υ)) : Prop :=
  ∀ m ∈ moments, m.act.handlesFlags s = false

/-- None of the acts is about a request for the endpoint. -/
def Clear (s : SessionName) (id : EndpointId) (agenda : List (Act τ)) : Prop :=
  ∀ a ∈ agenda, ∀ t, a.task? = some t → ¬ t.Asks s id

/-- The request for the endpoint that the worker has in hand and that has not settled yet, given the
worker's agenda. -/
inductive InHand (s : SessionName) (id : EndpointId) : List (Act τ) → List (Task τ) → Prop where
  | clear {agenda : List (Act τ)} (h : Clear s id agenda) : InHand s id agenda []
  | entering {t : Task τ} {rest : List (Act τ)} (ht : t.Asks s id) (h : Clear s id rest) :
    InHand s id (.enter (.operation t) :: rest) [t]
  | begun {t : Task τ} {held : List Emission} {rest : List (Act τ)} (ht : t.Asks s id)
      (h : Clear s id rest) :
    InHand s id (.inside (.operation t) (t.operation.body t.session) held :: rest) [t]
  | halfway {t : Task τ} {info : List UInt8} {options : ConnectionOptions} {l : Listener}
      {held : List Emission} {rest : List (Act τ)} (ht : t.Asks s id) (h : Clear s id rest) :
    InHand s id (.inside (.operation t) (Operation.pendingCheck s id info options l) held :: rest)
      [t]
  | unsettled {t : Task τ} {plan : Job Status} {held : List Emission} {rest : List (Act τ)}
      (ht : t.Asks s id) (h : Clear s id rest) (hf : plan.Follows (Settling s id) true false) :
    InHand s id (.inside (.operation t) plan held :: rest) [t]
  | settled {t : Task τ} {plan : Job Status} {held : List Emission} {rest : List (Act τ)}
      (ht : t.Asks s id) (h : Clear s id rest) (hf : plan.Follows (Settling s id) false false) :
    InHand s id (.inside (.operation t) plan held :: rest) []

theorem InHand.eq_nil_or {s : SessionName} {id : EndpointId} {agenda : List (Act τ)}
    {hand : List (Task τ)} (h : InHand s id agenda hand) : hand = [] ∨ ∃ t, hand = [t] := by
  cases h with
  | clear | settled => exact .inl rfl
  | entering | begun | halfway | unsettled => exact .inr ⟨_, rfl⟩

namespace Chronicle

section Run

variable {o : Outside τ υ} {c : Chronicle τ υ} {k : Nat} {act : Act τ} {rest acts : List (Act τ)}
  {d : Desk τ υ} {t : Task τ} {s : SessionName} {id : EndpointId} {hand : List (Task τ)}

/-- What the worker has in hand, and what waits, accounts for the flag of the endpoint. -/
def Accounts (c : Chronicle τ υ) (s : SessionName) (id : EndpointId) : Prop :=
  ∃ hand, InHand s id (c.agenda worker) hand ∧
    Accounted s id (c.shared.network.session s) (hand ++ c.shared.queue.waiting)

/-- An endpoint that is cancelled without a relation is so on account of an operation that waits. -/
theorem Accounts.exists_ends (h : c.Accounts s id)
    (hc : (c.shared.network.session s).isCancelled id = true)
    (hr : (c.shared.network.session s).isRelated id = false) :
    ∃ u ∈ c.shared.queue.waiting, u.Ends s id := by
  obtain ⟨hand, hin, hacc⟩ := h
  rcases hin.eq_nil_or with rfl | ⟨t, rfl⟩
  · obtain ⟨t, u, hs, _, he⟩ := hacc.cancelled hc hr
    exact ⟨u, hs.subset (by simp), he⟩
  · exact hacc.exists_ends hc hr

/-- Whatever is not about a request for the endpoint leaves it with a flag and no relation only if
it was so before. -/
theorem fades_note (hc : c.Running) (ha : c.agenda k = act :: rest)
    (he : Effect o k c.shared act d acts) (hs : act.submission? = none)
    (hh : act.handlesFlags s = false)
    (ht : ∀ t, act.task? = some t → ¬ t.Asks s id) :
    Session.Fades (c.shared.network.session s) (d.network.session s) id := by
  refine fades_step he hs (fun e plan held hact => ⟨?_, fun hown => ?_⟩) hh (hc.mindful.sound s)
  · obtain ⟨p, _, hf⟩ := hc.mindful.orderly.held k e plan held rest (hact ▸ ha)
    exact ⟨p, e.last, hf⟩
  · cases e with
    | operation t => exact ht t (by rw [hact]; rfl) ⟨hown.1.symm, hown.2⟩
    | _ => exact hown

/-- Members other than the worker bring no flag about, and take nothing from the queue. -/
theorem caller_note (id : EndpointId) (hc : c.Running) (hk : k ≠ worker)
    (ha : c.agenda k = act :: rest) (he : Effect o k c.shared act d acts)
    (hs : act.submission? = none) (hh : act.handlesFlags s = false) :
    Session.Fades (c.shared.network.session s) (d.network.session s) id ∧
      d.queue.waiting = c.shared.queue.waiting := by
  have hmem : act ∈ c.agenda k := ha ▸ List.mem_cons_self
  have hw := hc.manned.callers k hk act hmem
  refine ⟨fades_note hc ha he hs hh fun t ht => ?_,
    waiting_step he (by rintro rfl; cases hw) (hc.settled k act hmem)⟩
  unfold Act.task? at ht
  split at ht <;> first | cases hw | cases ht

theorem accounts_note_caller (hc : c.Running) (h : c.Accounts s id) (hk : k ≠ worker)
    (ha : c.agenda k = act :: rest) (he : Effect o k c.shared act d acts)
    (hs : act.submission? = none)
    (hh : act.handlesFlags s = false) :
    Accounts (c.note k act d (acts ++ rest)) s id := by
  obtain ⟨hand, hin, hacc⟩ := h
  obtain ⟨hf, hwaiting⟩ := caller_note id hc hk ha he hs hh
  refine ⟨hand, ?_, ?_⟩
  · rw [agenda_note ha, if_neg (Ne.symm hk)]
    exact hin
  · rw [shared_note, hwaiting]
    exact hacc.fades hf

/-- The worker turns to the next operation. -/
theorem accounts_work (hc : c.Running) (h : c.Accounts s id) (ha : c.agenda k = .work :: rest)
    (he : Effect o k c.shared .work d acts) : Accounts (c.note k .work d (acts ++ rest)) s id := by
  obtain ⟨rfl, rfl⟩ := eq_worker_of_work hc ha
  obtain ⟨hand, hin, hacc⟩ := h
  rw [ha] at hin
  cases hin with
  | clear =>
  cases he with
  | run t rest' idle hq go =>
    rw [hq] at hacc
    have hagenda : ∀ d l, (c.note worker .work d l).agenda worker = l :=
      fun d l => agenda_note_self ha d l
    have hrest : Clear s id [Act.finish, Act.work (τ := τ)] := by
      intro a hm u hu
      simp only [List.mem_cons, List.not_mem_nil, or_false] at hm
      rcases hm with rfl | rfl <;> cases hu
    by_cases ht : t.Asks s id
    · exact ⟨[t], by rw [hagenda]; exact .entering ht hrest, hacc⟩
    · refine ⟨[], ?_, hacc.leave ht⟩
      rw [hagenda]
      refine .clear fun a hm u hu => ?_
      rcases List.mem_cons.mp hm with rfl | hm
      · cases hu
        exact ht
      · exact hrest a hm u hu
  | discard t rest' idle hq stop =>
    rw [hc.going] at stop
    cases stop
  | retire idle hq closed =>
    rw [hc.accepting] at closed
    cases closed

/-- The worker does something else than carry out a request for the endpoint. -/
theorem accounts_note_clear (hc : c.Running) (hclear : Clear s id (act :: rest)) (hw : act ≠ .work)
    (hacc : Accounted s id (c.shared.network.session s) c.shared.queue.waiting)
    (ha : c.agenda worker = act :: rest) (he : Effect o worker c.shared act d acts)
    (hs : act.submission? = none)
    (hh : act.handlesFlags s = false) :
    Accounts (c.note worker act d (acts ++ rest)) s id := by
  have hact := hclear act List.mem_cons_self
  refine ⟨[], ?_, ?_⟩
  · rw [agenda_note_self ha]
    refine .clear fun a hm u hu => ?_
    rcases List.mem_append.mp hm with hm | hm
    · exact hact u (task?_step he hw hm hu)
    · exact hclear a (List.mem_cons_of_mem _ hm) u hu
  · rw [shared_note, waiting_step he hw (hc.settled worker act (ha ▸ List.mem_cons_self))]
    exact hacc.fades (fades_note hc ha he hs hh hact)

theorem clear_leaving {rest : List (Act τ)} (h : Clear s id rest) (status : Status)
    (held : List Emission) :
    Clear s id (held.map .deliver ++ (Errand.operation t).after status ++ rest) := by
  intro a hm u hu
  simp only [Errand.after, List.append_assoc, List.mem_append, List.mem_map, List.mem_cons,
    List.not_mem_nil, or_false] at hm
  rcases hm with ⟨m, _, rfl⟩ | rfl | hm
  · cases hu
  · cases hu
  · exact h a hm u hu

/-- The worker goes on with a request for the endpoint. -/
theorem accounts_note_inside (h : c.Accounts s id) (ht : t.Asks s id) {plan : Job Status}
    {held : List Emission} (ha : c.agenda worker = .inside (.operation t) plan held :: rest)
    (he : Effect o worker c.shared (.inside (.operation t) plan held) d acts) :
    Accounts (c.note worker (.inside (.operation t) plan held) d (acts ++ rest)) s id := by
  obtain ⟨hand, hin, hacc⟩ := h
  unfold Accounts
  rw [agenda_note_self ha, shared_note]
  rw [ha] at hin
  cases hin with
  | clear h => exact absurd ht (h _ List.mem_cons_self t rfl)
  | begun _ hrest =>
    obtain ⟨rfl, hop⟩ := ht
    obtain ⟨info, options, l, hop'⟩ := Operation.eq_of_requests hop
    rw [hop', show (Operation.requestConnection id info options l).body t.session = _ from
      Operation.requestBody_eq ..] at he
    cases he
    dsimp only
    split
    · next hc =>
      have hr : (c.shared.network.session t.session).isRelated id = true := by
        rw [Session.isRelated, hc, Bool.or_true]
      exact ⟨[], .settled ⟨rfl, hop⟩ hrest (.done _), .of_settled (.inl hr)⟩
    · exact ⟨[t], .halfway ⟨rfl, hop⟩ hrest, hacc⟩
  | halfway _ hrest =>
    rw [Operation.pendingCheck_eq] at he
    cases he
    dsimp only
    split
    · next hp =>
      have hr : (c.shared.network.session s).isRelated id = true := by
        rw [Session.isRelated, hp, Bool.true_or]
      exact ⟨[], .settled ht hrest (.done _), .of_settled (.inl hr)⟩
    · exact ⟨[t], .unsettled ht hrest (Operation.flagCheck_settling ..), hacc⟩
  | unsettled _ hrest hf =>
    cases he with
    | leave => cases hf
    | look _ next =>
      cases hf with
      | look hf => exact ⟨[t], .unsettled ht hrest (hf _), hacc⟩
    | await _ ready next =>
      cases hf with
      | await _ hf => exact ⟨[t], .unsettled ht hrest hf, hacc⟩
    | act _ change next =>
      cases hf with
      | act hs hf =>
        cases hs with
        | keep hr hc => exact ⟨[t], .unsettled ht hrest hf, hacc.keep ht (hr _) (hc _)⟩
        | settle hs => exact ⟨[], .settled ht hrest hf, .of_settled (hs _)⟩
  | settled _ hrest hf =>
    cases he with
    | leave _ status held => exact ⟨[], .clear (clear_leaving hrest status held), hacc⟩
    | look _ next =>
      cases hf with
      | look hf => exact ⟨[], .settled ht hrest (hf _), hacc⟩
    | await _ ready next =>
      cases hf with
      | await _ hf => exact ⟨[], .settled ht hrest hf, hacc⟩
    | act _ change next =>
      cases hf with
      | act hs hf =>
        cases hs with
        | rest hs => exact ⟨[], .settled ht hrest hf, hacc.fades (hs _)⟩

theorem accounts_note (hc : c.Running) (h : c.Accounts s id) (ha : c.agenda k = act :: rest)
    (he : Effect o k c.shared act d acts) (hs : act.submission? = none)
    (hh : act.handlesFlags s = false) :
    Accounts (c.note k act d (acts ++ rest)) s id := by
  by_cases hk : k = worker
  case neg => exact accounts_note_caller hc h hk ha he hs hh
  by_cases hw : act = .work
  · subst hw
    exact accounts_work hc h ha he
  subst hk
  obtain ⟨hand, hin, hacc⟩ := h
  have hin' := ha ▸ hin
  cases hin' with
  | clear hclear => exact accounts_note_clear hc hclear hw hacc ha he hs hh
  | entering ht hrest =>
    cases he with
    | enter =>
      refine ⟨_, ?_, hacc⟩
      rw [agenda_note_self ha]
      exact .begun ht hrest
    | enterClosed _ _ _ closed =>
      rw [hc.opened] at closed
      cases closed
  | begun ht | halfway ht | unsettled ht | settled ht =>
    exact accounts_note_inside ⟨_, hin, hacc⟩ ht ha he

theorem accounts_lodge (hc : c.Running) (h : c.Accounts s id)
    (ha : c.agenda k = .request (.submit t) :: rest) : (c.lodge k t rest).Accounts s id := by
  obtain ⟨hand, hin, hacc⟩ := h
  refine ⟨hand, ?_, ?_⟩
  · rw [agenda_lodge ha]
    split
    · next hk =>
      rw [hk, ha] at hin
      cases hin with
      | clear h => exact .clear fun a hm => h a (List.mem_cons_of_mem _ hm)
    · exact hin
  · have := hacc.lodge (hc.mindful.sound s) t
    rw [List.append_assoc] at this
    exact this

/-- The queue is in order, and the flag of the endpoint is accounted for if nobody changes flags by
hand. -/
structure Ruled (c : Chronicle τ υ) (s : SessionName) (id : EndpointId) : Prop where
  queued : c.Queued
  accounts : HandsOff s c.moments → c.Accounts s id

theorem ruled_start (clients : List (SessionName × UInt64))
    (farewells : List (SessionName × EndpointId)) (outside : υ) (callers : Nat) (s : SessionName)
    (id : EndpointId) :
    (start (opening clients farewells) outside callers : Chronicle τ υ).Ruled s id := by
  refine ⟨queued_start .., fun _ => ⟨[], .clear fun a ha t ht => ?_, .of_settled (.inr ?_)⟩⟩
  · rw [agenda_start, if_pos rfl] at ha
    cases List.mem_singleton.mp ha
    cases ht
  · obtain ⟨i, hi⟩ := session_opening clients farewells s
    show ((opening clients farewells).session s).isFlagged id = false
    rw [hi]
    rfl

theorem ruled_ask (caller : Nat) (r : Request τ) (h : c.Ruled s id) :
    (c.ask caller r).Ruled s id := by
  refine ⟨queued_ask caller r h.queued, fun hh => ?_⟩
  obtain ⟨hand, hin, hacc⟩ := h.accounts hh
  exact ⟨hand, by rw [agenda_ask_worker]; exact hin, hacc⟩

theorem ruled_note (hc : c.Running) (h : c.Ruled s id) (ha : c.agenda k = act :: rest)
    (he : Effect o k c.shared act d acts) (hs : act.submission? = none) :
    Ruled (c.note k act d (acts ++ rest)) s id := by
  refine ⟨queued_note hc h.queued ha he hs, fun hh => ?_⟩
  have haccounts := h.accounts fun m hm => hh m (List.mem_append_left _ hm)
  exact accounts_note hc haccounts ha he hs
    (hh ⟨k, act, c.shared, d⟩ (List.mem_append_right _ List.mem_cons_self))

theorem ruled_lodge (hc : c.Running) (h : c.Ruled s id)
    (ha : c.agenda k = .request (.submit t) :: rest) : (c.lodge k t rest).Ruled s id := by
  refine ⟨queued_lodge h.queued ha, fun hh => accounts_lodge hc (h.accounts fun m hm => hh m ?_) ha⟩
  obtain ⟨since, hs, _⟩ := moments_lodge c k t rest
  rw [hs]
  exact List.mem_append_left _ hm

/-- In an open exchange whose flags nobody changes by hand, every flag is accounted for. -/
theorem ruled_playTurns (o : Outside τ υ) (clients : List (SessionName × UInt64))
    (farewells : List (SessionName × EndpointId)) (outside : υ) (callers : Nat)
    (moves : List (Move τ)) (s : SessionName) (id : EndpointId)
    (hopen : ((start (opening clients farewells) outside callers).playTurns o moves).shared.closed =
      false) :
    let c := (start (opening clients farewells) outside callers).playTurns o moves
    c.Running ∧ c.Ruled s id :=
  playTurns_induction o ruled_note ruled_lodge ruled_ask
    (running_start clients farewells outside callers)
    (ruled_start clients farewells outside callers s id) moves hopen

end Run

end Chronicle

end Exchange

end Switchboard
