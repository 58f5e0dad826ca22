import Switchboard.Proofs.Exchange.Hand

/-!
# No spurious cancellation

The body of a request goes by what it finds, unless an operation that ends relations has come into
the queue behind it, or a report has accepted the endpoint between the two looks of its guard
(`Stage`). So it fails without calling the transport only if such an operation was submitted after
it, or if there was such a report (`no_spurious_cancellation`). With the report it may fail on
account of a flag that was raised for an earlier relation (`request_slipped`).
-/

namespace Switchboard

variable {τ υ : Type}

namespace Exchange

namespace Chronicle

/-! ## The body of a request -/

/-- How far the request `t` has come, given the session, what waits, the history, the moments so
far, and the rest of its plan with the events kept back. Either it has been overtaken by an
operation that ends the relation, or it has let a relation slip, or it goes by what it finds: it has
made no call until it is past its look at the flag, and then it makes the one. -/
inductive Stage (t : Task τ) (id : EndpointId) (info : List UInt8) (options : ConnectionOptions)
    (l : Listener) (base : List CallRecord) (x : Session) (waiting : List (Task τ))
    (history : List CallRecord) (moments : List (Moment τ υ)) :
    Job Status → List Emission → Prop where
  | overtaken {plan : Job Status} {held : List Emission} (h : ∃ u ∈ waiting, u.Ends t.session id) :
    Stage t id info options l base x waiting history moments plan held
  | slipped {plan : Job Status} {held : List Emission} (h : Slipped id worker t moments) :
    Stage t id info options l base x waiting history moments plan held
  | begun (h : history = base) :
    Stage t id info options l base x waiting history moments
      (Operation.requestBody t.session id info options l) []
  | halfway {first : Moment τ υ} {since : List (Moment τ υ)} (h : history = base)
      (hl : LookedOnce id worker t first since moments)
      (hx : x.isConnected id = true → ∃ y ∈ since, y.Brings t.session (·.isConnected id)) :
    Stage t id info options l base x waiting history moments
      (Operation.pendingCheck t.session id info options l) []
  | looking {held : List Emission} (h : history = base) (hc : x.isCancelled id = false) :
    Stage t id info options l base x waiting history moments
      (Operation.flagCheck t.session id info options l) held
  | calling {plan : Job Status} {held : List Emission} {made : Bool}
      (hf : plan.Follows (Calls ⟨some t.session, .requestConnection id options info⟩) made true)
      (h : history =
        base ++ if made then [⟨some t.session, .requestConnection id options info⟩] else []) :
    Stage t id info options l base x waiting history moments plan held
  | refused {held : List Emission} (h : history = base) :
    Stage t id info options l base x waiting history moments (.done .alreadyConnectedToEndpoint)
      held

section Body

variable {o : Outside τ υ} {c : Chronicle τ υ} {k : Nat} {act : Act τ} {rest acts : List (Act τ)}
  {d : Desk τ υ} {t u : Task τ} {id : EndpointId} {info : List UInt8}
  {options : ConnectionOptions} {l : Listener} {base history : List CallRecord}
  {x y : Session} {waiting : List (Task τ)} {moments ms : List (Moment τ υ)} {plan : Job Status}
  {held : List Emission}

/-- What others do in between cancels nobody and connects the endpoint by a report only. -/
theorem Stage.append (h : Stage t id info options l base x waiting history moments plan held)
    (hms : ∀ m ∈ ms, m.act.leaves = false)
    (hcan : y.isCancelled id = true → x.isCancelled id = true)
    (hcon : y.isConnected id = true →
      x.isConnected id = true ∨ ∃ m ∈ ms, m.Brings t.session (·.isConnected id)) :
    Stage t id info options l base y waiting history (moments ++ ms) plan held := by
  cases h with
  | overtaken h => exact .overtaken h
  | slipped h => exact .slipped (h.append hms)
  | begun h => exact .begun h
  | halfway h hl hx => exact .halfway h (hl.append hms) (brought_append hx hcon)
  | looking h hx =>
    exact .looking h (Bool.eq_false_iff.mpr fun hy => Bool.eq_false_iff.mp hx (hcan hy))
  | calling hf h => exact .calling hf h
  | refused h => exact .refused h

/-- Whatever comes into the queue comes behind the request. -/
theorem Stage.behind (h : Stage t id info options l base x waiting history moments plan held)
    (u : Task τ) :
    Stage t id info options l base x (waiting ++ [u]) history moments plan held := by
  cases h with
  | overtaken h =>
    obtain ⟨u, hu, he⟩ := h
    exact .overtaken ⟨u, List.mem_append_left _ hu, he⟩
  | slipped h => exact .slipped h
  | begun h => exact .begun h
  | halfway h hl hx => exact .halfway h hl hx
  | looking h hx => exact .looking h hx
  | calling hf h => exact .calling hf h
  | refused h => exact .refused h

/-- With what it finds the request goes on. -/
theorem Stage.step (hop : t.operation = .requestConnection id info options l)
    (haccounts : c.Accounts t.session id)
    (hs : Stage t id info options l base (c.shared.network.session t.session) c.shared.queue.waiting
      c.transport.history c.moments plan held)
    (he : Effect o worker c.shared (.inside (.operation t) plan held) d acts)
    (hl : (Act.inside (.operation t) plan held).leaves = false) :
    ∃ plan' held', acts = [.inside (.operation t) plan' held'] ∧
      Stage t id info options l base (d.network.session t.session) c.shared.queue.waiting
        d.network.transport.history
        (c.moments ++ [⟨worker, .inside (.operation t) plan held, c.shared, d⟩]) plan' held' := by
  obtain ⟨plan', held', hacts⟩ := stays_step he hl
  refine ⟨plan', held', hacts, ?_⟩
  cases hs with
  | overtaken h => exact .overtaken h
  | slipped h => exact .slipped (h.append (List.forall_mem_singleton.mpr hl))
  | refused => cases hl
  | calling hf hh =>
    rcases follows_step hf he hacts with ⟨hd, hf⟩ | ⟨_, _, hcall, hd, hf⟩
    · exact .calling hf (hd ▸ hh)
    · exact .calling hf (hd ▸ hcall.history hh)
  | looking hh hn =>
    obtain ⟨next, hnext, hcalls⟩ := Operation.flagCheck_calls t.session id info options l
    rw [hnext] at he
    cases he
    cases hacts
    have hf := hcalls c.shared.network
    rw [hn] at hf
    exact .calling hf (hh.trans (List.append_nil _).symm)
  | halfway hh hlook hx =>
    obtain ⟨hd, _, rfl, hfound⟩ := hlook.secondLook (m := ⟨worker, _, _, d⟩) rfl hop rfl he hx
    obtain rfl : d = c.shared := hd
    cases hacts
    rcases hfound with rfl | ⟨rfl, hslip | ⟨_, hr⟩⟩
    · exact .refused hh
    · exact .slipped hslip
    · by_cases hcan : (c.shared.network.session t.session).isCancelled id = true
      · exact .overtaken (haccounts.exists_ends hcan hr)
      · exact .looking hh (Bool.eq_false_iff.mpr hcan)
  | begun hh =>
    have hbody : Operation.requestBody t.session id info options l = t.operation.body t.session :=
      congrArg (Operation.body t.session) hop.symm
    obtain ⟨hd, _, rfl, hfound⟩ := LookedOnce.of_firstLook (m := ⟨worker, _, _, d⟩) c.moments rfl
      hop (congrArg (Act.inside (.operation t) · []) hbody) he
    obtain rfl : d = c.shared := hd
    cases hacts
    rcases hfound with rfl | ⟨rfl, honce⟩
    · exact .refused hh
    · exact .halfway hh honce fun hx => nomatch hx.symm.trans honce.found

/-- What the request comes to: it has been overtaken, or it has let a relation slip, or it has found
one, or it has made its call. -/
theorem Stage.outcome {status : Status}
    (h : Stage t id info options l base x waiting history moments (.done status) held) :
    (∃ u ∈ waiting, u.Ends t.session id) ∨ Slipped id worker t moments ∨
      (status = .alreadyConnectedToEndpoint ∧ history = base) ∨
      history = base ++ [⟨some t.session, .requestConnection id options info⟩] := by
  generalize hplan : (Plan.done status : Job Status) = plan at h
  cases h with
  | overtaken h => exact .inl h
  | slipped h => exact .inr (.inl h)
  | begun => cases hplan.trans (Operation.requestBody_eq ..)
  | halfway | looking => cases hplan
  | calling hf h =>
    subst hplan
    cases hf
    exact .inr (.inr (.inr h))
  | refused h =>
    cases hplan
    exact .inr (.inr (.inl ⟨rfl, h⟩))

/-- The worker carries the request out. -/
def Pursuing (c : Chronicle τ υ) (t : Task τ) (id : EndpointId) (info : List UInt8)
    (options : ConnectionOptions) (l : Listener) (base : List CallRecord) : Prop :=
  ∃ plan held rest, c.agenda worker = .inside (.operation t) plan held :: rest ∧
    Stage t id info options l base (c.shared.network.session t.session) c.shared.queue.waiting
      c.transport.history c.moments plan held

theorem pursuing_ask (h : c.Pursuing t id info options l base) (caller : Nat) (r : Request τ) :
    (c.ask caller r).Pursuing t id info options l base := by
  obtain ⟨plan, held, rest, ha, hs⟩ := h
  exact ⟨plan, held, rest, (agenda_ask_worker ..).trans ha, hs⟩

/-- Only an operation that ends the relation can overtake the request. -/
theorem pursuing_lodge (hc : c.Running) (h : c.Pursuing t id info options l base)
    (ha : c.agenda k = .request (.submit u) :: rest) :
    (c.lodge k u rest).Pursuing t id info options l base := by
  obtain ⟨plan, held, rest', hk, hs⟩ := h
  obtain ⟨since, hsince, hleaves⟩ := moments_lodge c k u rest
  refine ⟨plan, held, rest', ?_, ?_⟩
  · rw [agenda_lodge ha, if_neg, hk]
    rintro rfl
    rw [hk] at ha
    cases ha
  · rw [hsince]
    show Stage t id info options l base
      ((c.shared.network.setSession u.session
        (u.operation.prepare (c.shared.network.session u.session))).session t.session)
      (c.shared.queue.waiting ++ [u]) c.transport.history (c.moments ++ since) plan held
    by_cases he : u.Ends t.session id
    · exact .overtaken ⟨u, List.mem_append_right _ List.mem_cons_self, he⟩
    refine (hs.behind u).append hleaves (fun hy => ?_) fun hy => .inl ?_
    · rw [Network.session_setSession] at hy
      split at hy
      · next hu =>
        rw [← hu]
        exact isCancelled_prepare (hc.mindful.sound _) (fun hop => he ⟨hu, hop⟩) (hu ▸ hy)
      · exact hy
    · rw [Network.session_setSession] at hy
      split at hy
      · next hu =>
        have hsame := u.operation.connections_prepare (c.shared.network.session u.session)
        exact hu ▸ (Session.isConnected_congr (congrArg (·.get? id) hsame)).symm.trans hy
      · exact hy

theorem pursuing_note (hop : t.operation = .requestConnection id info options l) (hc : c.Running)
    (haccounts : c.Accounts t.session id) (h : c.Pursuing t id info options l base)
    (ha : c.agenda k = act :: rest) (he : Effect o k c.shared act d acts)
    (hs : act.submission? = none) (hh : act.handlesFlags t.session = false)
    (hl : act.leaves = false) :
    Pursuing (c.note k act d (acts ++ rest)) t id info options l base := by
  obtain ⟨plan, held, rest', hk, hstage⟩ := h
  by_cases hw : k = worker
  · subst hw
    rw [ha] at hk
    cases hk
    obtain ⟨plan', held', rfl, hstage'⟩ := hstage.step hop haccounts he hl
    refine ⟨plan', held', rest, agenda_note_self ha .., ?_⟩
    rw [shared_note, waiting_step he (by simp) rfl]
    exact hstage'
  · have hi := hc.mindful.orderly.exclusive.not_inside hk ha hw
    obtain ⟨hf, hwaiting⟩ := caller_note id hc hw ha he hs hh
    refine ⟨plan, held, rest', ?_, ?_⟩
    · rw [agenda_note ha, if_neg (Ne.symm hw), hk]
    · show Stage t id info options l base (d.network.session t.session) d.queue.waiting
        d.network.transport.history (c.moments ++ [⟨k, act, c.shared, d⟩]) plan held
      rw [hwaiting, (sameCalls_step he hi).history]
      refine hstage.append (List.forall_mem_singleton.mpr hl) hf.cancelled fun hy => ?_
      refine (brings_of_outside (f := (·.isConnected id)) (fun hc => ?_) he hi hy).imp_right
        fun hm => ⟨_, List.mem_cons_self, hm⟩
      exact Session.isConnected_congr (congrArg (·.get? id) hc)

/-- As long as nobody has left the transport, the worker carries the request out. -/
theorem pursuing_playTurns (o : Outside τ υ)
    (hop : t.operation = .requestConnection id info options l) (hc : c.Running)
    (hr : c.Ruled t.session id) (h : c.Pursuing t id info options l base)
    (more : List (Move τ)) (hopen : (c.playTurns o more).shared.closed = false) :
    (c.playTurns o more).Ruled t.session id ∧
      ∃ since, (c.playTurns o more).moments = c.moments ++ since ∧
        ((∀ m ∈ since, m.act.leaves = false) → HandsOff t.session (c.playTurns o more).moments →
          (c.playTurns o more).Pursuing t id info options l base) := by
  refine (playTurns_induction o (P := fun b => b.Ruled t.session id ∧ ∃ since,
    b.moments = c.moments ++ since ∧ ((∀ m ∈ since, m.act.leaves = false) →
      HandsOff t.session b.moments → b.Pursuing t id info options l base)) ?_ ?_ ?_ hc
    ⟨hr, [], (List.append_nil _).symm, fun _ _ => h⟩ more hopen).2
  · rintro b k act rest acts d hb ⟨hr, since, hs, hp⟩ ha he hsub
    refine ⟨ruled_note hb hr ha he hsub, since ++ [⟨k, act, b.shared, d⟩], ?_, fun hl hh => ?_⟩
    · rw [moments_note, hs, List.append_assoc]
    have hh' : HandsOff t.session b.moments := fun m hm => hh m (List.mem_append_left _ hm)
    have hp := hp (fun m hm => hl m (List.mem_append_left _ hm)) hh'
    exact pursuing_note hop hb (hr.accounts hh') hp ha he hsub
      (hh ⟨k, act, b.shared, d⟩ (List.mem_append_right _ List.mem_cons_self))
      (hl ⟨k, act, b.shared, d⟩ (List.mem_append_right _ List.mem_cons_self))
  · rintro b k u rest hb ⟨hr, since, hs, hp⟩ ha
    obtain ⟨since', hs', _⟩ := moments_lodge b k u rest
    refine ⟨ruled_lodge hb hr ha, since ++ since', ?_, fun hl hh => ?_⟩
    · rw [hs', hs, List.append_assoc]
    · refine pursuing_lodge hb (hp (fun m hm => hl m (List.mem_append_left _ hm)) ?_) ha
      rw [hs'] at hh
      exact fun m hm => hh m (List.mem_append_left _ hm)
  · rintro b caller r ⟨hr, since, hs, hp⟩
    exact ⟨ruled_ask caller r hr, since, hs, fun hl hh => pursuing_ask (hp hl hh) caller r⟩

end Body

/-! ## Causes -/

theorem eq_of_submission? {a : Act τ} {t : Task τ} (h : a.submission? = some t) :
    a = .request (.submit t) := by
  unfold Act.submission? at h
  split at h
  · rw [Option.some.inj h]
  · cases h

theorem eq_append_of_submissions {moments : List (Moment τ υ)} {past later : List (Task τ)}
    {t : Task τ} (h : submissions moments = past ++ t :: later) :
    ∃ ms m ns, moments = ms ++ m :: ns ∧ submissions ms = past ∧ submissions ns = later ∧
      m.act = .request (.submit t) := by
  obtain ⟨ms, ks, rfl, hpast, hks⟩ := List.filterMap_eq_append_iff.mp h
  obtain ⟨ls, m, ns, rfl, hls, hm, hns⟩ := List.filterMap_eq_cons_iff.mp hks
  refine ⟨ms ++ ls, m, ns, by simp, ?_, hns, eq_of_submission? hm⟩
  rw [submissions, List.filterMap_append, hpast, List.filterMap_eq_nil_iff.mpr hls,
    List.append_nil]

/-- After the submission of the operation that was taken from the queue last, which is `t`, an
operation was submitted that ends the relation to the endpoint. -/
def EndedSince (s : SessionName) (id : EndpointId) (t : Task τ) (moments : List (Moment τ υ)) :
    Prop :=
  ∃ past sub since can later u, moments = past ++ sub :: since ++ can :: later ∧
    sub.act = .request (.submit t) ∧ submissions past ++ [t] = taken moments ∧
    can.act = .request (.submit u) ∧ u.session = s ∧ EndsRelation id u.operation

/-- What has ended the relation was submitted behind the operation that was taken last. -/
theorem EndedSince.taken_lt {s : SessionName} {id : EndpointId} {t : Task τ}
    {moments : List (Moment τ υ)} (h : EndedSince s id t moments) :
    (taken moments).length < (submissions moments).length := by
  obtain ⟨past, sub, since, can, later, u, rfl, hsub, htaken, hcan, -⟩ := h
  rw [← htaken]
  simp only [submissions, List.filterMap_append, List.filterMap_cons, hsub, hcan,
    Act.submission?, List.length_append, List.length_cons, List.length_nil]
  omega

theorem endedSince_of_waiting {c : Chronicle τ υ} {s : SessionName} {id : EndpointId} {t u : Task τ}
    (h : c.Queued) {a : Act τ} (ha : a ∈ c.agenda worker) (ht : a.task? = some t)
    (hu : u ∈ c.shared.queue.waiting) (he : u.Ends s id) : EndedSince s id t c.moments := by
  obtain ⟨done, hdone⟩ := List.getLast?_eq_some_iff.mp (h.inHand a ha t ht)
  obtain ⟨ahead, behind, hw⟩ := List.append_of_mem hu
  have hline := h.line
  rw [hdone, hw, List.append_assoc] at hline
  obtain ⟨past, sub, rest, hm, hpast, hrest, hsub⟩ := eq_append_of_submissions hline
  obtain ⟨since, can, later, rfl, _, _, hcan⟩ := eq_append_of_submissions hrest
  refine ⟨past, sub, since, can, later, u, by rw [hm]; simp, hsub, ?_, hcan, he.1, he.2⟩
  rw [hpast, hdone]

end Chronicle

end Exchange

end Switchboard
