import Switchboard.Proofs.Exchange.Episode

/-!
# Answers

An endpoint that has been answered is not to be answered again. The connection keeps the answer, so
as long as it stays, every other answer is refused before it calls the transport (`answered_once`).
But an endpoint without a connection has nothing to keep its answer, and a connection that is
initiated in the place of another has not been answered: either way the endpoint is answered as
often as anybody likes (`answered_twice`).
-/

namespace Switchboard

variable {τ υ : Type}

/-- Whether the operation answers a connection to the endpoint. -/
def Operation.answers {L : Type} (id : EndpointId) : Operation L → Prop
  | acceptConnection id' _ | rejectConnection id' => id' = id
  | _ => False

theorem Session.hasResponded_of_get?_eq_none {s : Session} {id : EndpointId}
    (h : s.connections.get? id = none) : s.hasResponded id = false := by
  rw [hasResponded, h]

theorem Session.hasResponded_iff {s : Session} {id : EndpointId} : s.hasResponded id = true ↔
    ∃ c, s.connections.get? id = some c ∧ c.responded = true := by
  rw [hasResponded]
  cases s.connections.get? id <;> simp

/-- The endpoint stays related if it is, and answered if it is. -/
structure Keeps (s : SessionName) (id : EndpointId) (n n' : Network) : Prop where
  related : (n.session s).isRelated id = true → (n'.session s).isRelated id = true
  answered : (n.session s).hasResponded id = true → (n'.session s).hasResponded id = true

theorem Keeps.refl {s : SessionName} {id : EndpointId} (n : Network) : Keeps s id n n :=
  ⟨fun h => h, fun h => h⟩

theorem Keeps.trans {s : SessionName} {id : EndpointId} {n₁ n₂ n₃ : Network}
    (h : Keeps s id n₁ n₂) (h' : Keeps s id n₂ n₃) : Keeps s id n₁ n₃ :=
  ⟨fun hr => h'.related (h.related hr), fun ha => h'.answered (h.answered ha)⟩

/-- Whether the act may bring a report to a session. -/
def Act.mayConvey : Act τ → Bool
  | request (.hook (.session ..)) | inside _ (.act ..) _ => true
  | _ => false

/-! ## Bodies -/

/-- Begun while the endpoint is related, the job leaves it answered if it succeeds, unless the
relation or the answer gets lost meanwhile. -/
def Job.Records (s : SessionName) (id : EndpointId) (job : Job Status) : Prop :=
  ∀ n : Network, (n.session s).isRelated id = true →
    job.Withstands (Keeps s id) (fun _ _ => True)
      (fun status n => status = .success → (n.session s).hasResponded id = true) n

namespace Operation

open Job Transport Plan

variable {s : SessionName} {id : EndpointId} {n : Network}

theorem records_done {status : Status} (h : status ≠ .success) :
    Records s id (.done status) := fun _ _ _ _ hs => absurd hs h

theorem records_asks {α : Type} {f : Session → α} {next : α → Job Status}
    (h : ∀ a, Records s id (next a)) : Records s id (asks s f >>= next) :=
  fun _ hn n₁ h₁ => h _ n₁ (h₁.related hn)

/-- What withstands a guard: the answer is refused, or the job goes on. -/
theorem answerGuard_withstands {R : Network → Network → Prop}
    {G : Network → Network × List Emission → Prop} {Q : Status → Network → Prop} {job : Job Status}
    (connected : ∀ n₁, R n n₁ → (done .alreadyConnectedToEndpoint : Job Status).Withstands R G Q n₁)
    (answered : ∀ n₁ n₂, R n n₁ → R n₁ n₂ →
      (done .outOfOrderApiCall : Job Status).Withstands R G Q n₂)
    (goes : ∀ n₁ n₂, R n n₁ → R n₁ n₂ → (n₂.session s).hasResponded id = false →
      job.Withstands R G Q n₂) :
    (answerGuard s id >>= fun status => if !status.isOk then .done status else job).Withstands
      R G Q n := by
  intro n₁ h₁
  show Withstands _ _ _ (Plan.bind (if (n₁.session s).isConnected id then _ else _) _) n₁
  split
  · exact connected n₁ h₁
  intro n₂ h₂
  show Withstands _ _ _ (Plan.bind (if (n₂.session s).hasResponded id then _ else _) _) n₂
  split
  · exact answered n₁ n₂ h₁ h₂
  · next hn => exact goes n₁ n₂ h₁ h₂ (by simpa using hn)

theorem records_answerGuard {job : Job Status} (h : Records s id job) :
    Records s id
      (answerGuard s id >>= fun status => if !status.isOk then .done status else job) := by
  intro n hn
  refine answerGuard_withstands (fun n₁ h₁ => ?_) (fun n₁ n₂ h₁ h₂ => ?_) fun n₁ n₂ h₁ h₂ _ => ?_
  · exact records_done (by simp) n₁ (h₁.related hn)
  · exact records_done (by simp) n₂ (h₂.related (h₁.related hn))
  · exact h n₂ (h₂.related (h₁.related hn))

theorem records_call {r : Option SessionName} {c : Call} {job : Job Status}
    (h : Records s id job) : Records s id (call r c job) := by
  intro n hn
  refine call_withstands .refl (fun _ _ => trivial) (fun _ => trivial) (fun _ => trivial)
    fun n₁ n₂ n₃ h₁ h₂ h₃ => ?_
  have hn₃ : ((n₃.onTransport enter).session s).isRelated id = true :=
    h₃.related (h₂.related (h₁.related hn))
  exact (h _ hn₃).imp fun status n₄ h₄ n₅ n₆ h₅ h₆ hok => h₆.answered (h₅.answered (h₄ hok))

theorem records_ifAllowed {c : Answerable} {work : Job Unit}
    (h : ∀ n : Network, (n.session s).isRelated id = true →
      work.Withstands (Keeps s id) (fun _ _ => True)
        (fun _ n => (n.session s).hasResponded id = true) n) :
    Records s id (ifAllowed c work) := by
  refine fun n hn => ifAllowed_withstands .refl (fun _ _ _ _ _ hs hok => absurd hok hs)
    fun n₁ h₁ => (h n₁ (h₁.related hn)).imp fun _ n₂ h₂ n₃ h₃ _ => h₃.answered h₂

theorem hasResponded_localAccepted {x : Session} (h : x.isRelated id = true) (l : Listener) :
    (x.localAccepted id l).hasResponded id = true := by
  obtain ⟨c, hc, _⟩ := Session.isRelated_iff.mp h
  have hget := Session.get?_localAccepted x id id l
  rw [if_pos rfl, hc] at hget
  exact Session.hasResponded_iff.mpr ⟨_, hget, rfl⟩

theorem hasResponded_localRejected {x : Session} (h : x.isRelated id = true) :
    (x.localRejected id).hasResponded id = true := by
  obtain ⟨c, hc, _⟩ := Session.isRelated_iff.mp h
  have hget := Session.get?_localRejected x id id
  rw [if_pos rfl, hc] at hget
  exact Session.hasResponded_iff.mpr ⟨_, hget, rfl⟩

theorem hasResponded_connectionAccepted {x : Session} (h : x.hasResponded id = true) :
    (x.connectionAccepted id).1.hasResponded id = true := by
  obtain ⟨c, hc, hr⟩ := Session.hasResponded_iff.mp h
  have hget := Session.get?_connectionAccepted x id id
  rw [if_pos rfl, hc] at hget
  exact Session.hasResponded_iff.mpr ⟨_, hget, hr⟩

/-- An answer to an endpoint that is related is kept. -/
theorem records_body {op : Operation Listener} (h : op.answers id) : Records s id (op.body s) := by
  cases op with
  | acceptConnection id' l =>
    obtain rfl : id' = id := h
    refine records_answerGuard (records_asks fun cancelled => ?_)
    split
    · exact records_done (by simp)
    refine records_call (records_ifAllowed fun n hn n₁ h₁ => ⟨trivial, fun n₂ h₂ => ?_⟩)
    have hn₂ : (n₂.session s).hasResponded id' = true := h₂.answered <| by
      rw [Network.session_setSession_self]
      exact hasResponded_localAccepted (h₁.related hn) l
    show Withstands _ _ _ (if n₂.transport.autoAccept then _ else _) n₂
    split
    · refine fun n₃ h₃ => ⟨trivial, fun n₄ h₄ => h₄.answered ?_⟩
      show ((n₃.setSession s _).session s).hasResponded id' = true
      rw [Network.session_setSession_self]
      exact hasResponded_connectionAccepted (h₃.answered hn₂)
    · exact fun n₃ h₃ => h₃.answered hn₂
  | rejectConnection id' =>
    obtain rfl : id' = id := h
    refine records_answerGuard (records_call (records_ifAllowed fun n hn n₁ h₁ => ⟨trivial, ?_⟩))
    refine fun n₂ h₂ => h₂.answered ?_
    rw [Network.session_setSession_self]
    exact hasResponded_localRejected (h₁.related hn)
  | _ => exact h.elim

/-- The statuses an answer is refused with. -/
def Refusal (status : Status) : Prop :=
  status = .alreadyConnectedToEndpoint ∨ status = .outOfOrderApiCall

/-- As long as the endpoint stays answered, another answer is refused without any change. -/
theorem body_refused {op : Operation Listener} (h : op.answers id)
    (hn : (n.session s).hasResponded id = true) :
    (op.body s).Withstands (Keeps s id) (fun _ _ => False) (fun status _ => Refusal status) n := by
  have hguard : ∀ job : Job Status,
      (answerGuard s id >>= fun status => if !status.isOk then .done status else job).Withstands
        (Keeps s id) (fun _ _ => False) (fun status _ => Refusal status) n := fun job => by
    refine answerGuard_withstands (fun _ _ _ _ => .inl rfl) (fun _ _ _ _ _ _ => .inr rfl)
      fun n₁ n₂ h₁ h₂ hno => ?_
    rw [h₂.answered (h₁.answered hn)] at hno
    cases hno
  cases op with
  | acceptConnection id' l =>
    obtain rfl : id' = id := h
    exact hguard _
  | rejectConnection id' =>
    obtain rfl : id' = id := h
    exact hguard _
  | _ => exact h.elim

end Operation

/-! ## Steps -/

namespace Exchange

variable {o : Outside τ υ} {s : SessionName} {id : EndpointId}

theorem transport_of_conveys {me : Nat} {d d' : Desk τ υ} {act : Act τ} {acts : List (Act τ)}
    (h : Effect o me d act d' acts) {hook : SessionHook Listener} (ha : act.Conveys s hook) :
    d'.network.transport = d.network.transport := by
  rcases ha with rfl | ⟨e, next, held, rfl⟩ <;> cases h <;> rfl

namespace Moment

variable {m : Moment τ υ}

/-- The connection to the endpoint ends, or another comes in its place. -/
def Renews (s : SessionName) (id : EndpointId) (m : Moment τ υ) : Prop :=
  m.act.Conveys s .reset ∨ ∃ l, m.Ends s id l ∨ m.Opens s id l

/-- Whoever is inside the transport to answer the endpoint changes nothing and is refused. -/
def Refuses (s : SessionName) (id : EndpointId) (m : Moment τ υ) : Prop :=
  ∀ u plan held, m.act = .inside (.operation u) plan held → u.session = s →
    u.operation.answers id → m.after.network = m.before.network ∧
      ∀ status, plan = .done status → Operation.Refusal status

theorem Turn.keeps (h : m.Turn s id) (hn : ¬ m.Renews s id) :
    Keeps s id m.before.network m.after.network where
  related hr := by
    rcases h.related hr with hr | ⟨l, he⟩ | ⟨-, hreset⟩
    · exact hr
    · exact absurd (.inr ⟨l, .inl he⟩) hn
    · exact absurd (.inl hreset) hn
  answered ha := by
    obtain ⟨c, hc, hd⟩ := Session.hasResponded_iff.mp ha
    cases h with
    | opened _ _ _ told => exact absurd (.inr ⟨_, .inr ⟨_, (told _ _).mpr ⟨rfl, rfl⟩⟩⟩) hn
    | accepted hb ha =>
      cases hc.symm.trans hb
      exact Session.hasResponded_iff.mpr ⟨_, ha, hd⟩
    | ended he _ _ told => exact absurd (.inr ⟨_, .inl ⟨_, he, (told _ _).mpr ⟨rfl, rfl⟩⟩⟩) hn
    | reset hreset => exact absurd (.inl hreset) hn
    | absent hb => cases hc.symm.trans hb
    | kept hb ha _ _ hkept =>
      cases hc.symm.trans hb
      exact Session.hasResponded_iff.mpr ⟨_, ha, hkept hd⟩

/-- A connection that has begun or ended just now has not been answered. -/
theorem Turn.unanswered (h : m.Turn s id) {l : Listener} {e : ConnectionEvent}
    (ht : m.Tells s l e) (hid : e.endpoint = id) (he : e.isTurn = true) (ha : e ≠ .accepted id) :
    (m.after.network.session s).hasResponded id = false := by
  cases h with
  | opened hafter _ hd =>
    rw [Session.hasResponded, hafter]
    exact hd
  | accepted _ _ told => exact absurd ((told l e).mp ht).2 ha
  | ended _ _ hafter | reset _ hafter | absent _ hafter =>
    exact Session.hasResponded_of_get?_eq_none hafter
  | kept _ _ _ _ _ silent =>
    rw [silent l e ht hid] at he
    cases he

/-- What conveys nothing, or changes the transport, or leaves the endpoint answered does not renew
the connection. -/
theorem not_renews (h : m.Lawful o) (hm : m.act.mayConvey = false ∨
      m.after.network.transport ≠ m.before.network.transport ∨
      (m.after.network.session s).hasResponded id = true) : ¬ m.Renews s id := by
  intro hr
  have hno : (m.after.network.session s).hasResponded id = false := by
    rcases hr with hreset | ⟨l, ⟨e, he, ht⟩ | ⟨info, ht⟩⟩
    · obtain ⟨⟨acts, heff⟩, -⟩ := h
      rw [session_of_conveys heff hreset]
      rfl
    · exact (h.turn s id).unanswered ht he.endpoint he.isTurn
        fun hacc => ConnectionEvent.not_isEnd_accepted (hacc ▸ he)
    · exact (h.turn s id).unanswered ht rfl rfl (by simp)
  obtain ⟨hook, ha⟩ : ∃ hook, m.act.Conveys s hook := by
    rcases hr with hreset | ⟨l, ⟨_, _, hook, ha, _⟩ | ⟨_, hook, ha, _⟩⟩
    · exact ⟨_, hreset⟩
    · exact ⟨hook, ha⟩
    · exact ⟨hook, ha⟩
  obtain ⟨⟨acts, heff⟩, -⟩ := h
  rcases hm with hm | hm | hm
  · rcases ha with ha | ⟨e, next, held, ha⟩ <;> rw [ha] at hm <;> cases hm
  · exact hm (transport_of_conveys heff ha)
  · cases hno.symm.trans hm

end Moment

namespace Chronicle

variable {c : Chronicle τ υ} {member : Nat} {act : Act τ} {rest acts : List (Act τ)} {d : Desk τ υ}

/-- The endpoint is answered, and whoever is inside to answer it will be refused. -/
structure Refusing (s : SessionName) (id : EndpointId) (c : Chronicle τ υ) : Prop where
  answered : (c.shared.network.session s).hasResponded id = true
  inside : ∀ k u plan held rest, c.agenda k = .inside (.operation u) plan held :: rest →
    u.session = s → u.operation.answers id →
      plan.Withstands (Keeps s id) (fun _ _ => False) (fun status _ => Operation.Refusal status)
        c.shared.network

theorem refusing_ask (hc : c.Orderly) (h : c.Refusing s id) (caller : Nat) (r : Request τ) :
    (c.ask caller r).Refusing s id where
  answered := h.answered
  inside k u plan held rest hk := by
    obtain ⟨rest', hk⟩ := inside_ask hc.exclusive hk
    exact h.inside k u plan held rest' hk

/-- The moment of whoever is inside to answer the endpoint. -/
theorem refuses_of_refusing (h : c.Refusing s id) (ha : c.agenda member = act :: rest)
    (he : Effect o member c.shared act d acts) :
    Moment.Refuses s id ⟨member, act, c.shared, d⟩ := by
  rintro u plan held rfl hu hop
  have hw := h.inside member u plan held rest ha hu hop
  cases he with
  | leave _ status => exact ⟨rfl, fun _ hs => by cases hs; exact hw _ (.refl _)⟩
  | look _ next => exact ⟨rfl, fun _ hs => by cases hs⟩
  | await _ ready next => exact ⟨rfl, fun _ hs => by cases hs⟩
  | act _ change next => exact (hw _ (.refl _)).1.elim

theorem refusing_note (hc : c.Orderly) (h : c.Refusing s id) (ha : c.agenda member = act :: rest)
    (he : Effect o member c.shared act d acts) (hk : Keeps s id c.shared.network d.network) :
    Refusing s id (c.note member act d (acts ++ rest)) where
  answered := hk.answered h.answered
  inside k u plan held l hin hu hop := by
    rcases inside_note hc.exclusive ha he hin with
      ⟨rfl, -, -, -, rfl, -⟩ | ⟨rfl, ⟨plan', held', rfl⟩, hacts⟩ | ⟨-, -, hin⟩
    · subst hu
      exact Operation.body_refused hop (hk.answered h.answered)
    · have hw := h.inside _ u plan' held' rest ha hu hop
      exact withstands_step .refl hw he hacts
    · exact (h.inside k u plan held l hin hu hop).rely (R := Keeps s id) Keeps.trans hk

/-! ## Runs -/

/-- As long as the connection stays, everybody who is to answer the endpoint is refused. -/
theorem refusing_play (o : Outside τ υ) (hc : c.Orderly) (h : c.Refusing s id)
    (moves : List (Move τ)) :
    ∃ since : List (Moment τ υ), (c.play o moves).moments = c.moments ++ since ∧
      ((∀ m ∈ since, ¬ m.Renews s id) → ∀ m ∈ since, m.Refuses s id) := by
  refine (since_induction o (P := fun b since => (∀ m ∈ since, ¬ m.Renews s id) →
    b.Refusing s id ∧ ∀ m ∈ since, m.Refuses s id) ?_ ?_ hc ?_ moves).imp
      fun since ⟨hs, hr⟩ => ⟨hs, fun hn => (hr hn).2⟩
  · intro b since member act rest acts d hb hr ha he hn
    obtain ⟨href, hall⟩ := hr fun m hm => hn m (List.mem_append_left _ hm)
    have hkeeps := ((lawful_note hb ha he).turn s id).keeps
      (hn _ (List.mem_append_right _ List.mem_cons_self))
    refine ⟨refusing_note hb href ha he hkeeps, fun m hm => ?_⟩
    rcases List.mem_append.mp hm with hm | hm
    · exact hall m hm
    · exact List.mem_singleton.mp hm ▸ refuses_of_refusing href ha he
  · exact fun caller r hb hr hn => ⟨refusing_ask hb (hr hn).1 caller r, (hr hn).2⟩
  · exact fun _ => ⟨h, fun _ hm => absurd hm List.not_mem_nil⟩

/-- Once whoever has answered the endpoint leaves the transport, nobody else is inside. -/
theorem refusing_of_leaving (o : Outside τ υ) {k : Nat} {e : Errand τ} {status : Status}
    {held : List Emission} (hc : c.Orderly)
    (hk : c.agenda k = .inside e (.done status) held :: rest)
    (hn : (c.shared.network.session s).hasResponded id = true) :
    ∃ m, (c.move o (.step k)).moments = c.moments ++ [m] ∧ (c.move o (.step k)).Refusing s id := by
  have hmove : c.move o (.step k) = c.note k (.inside e (.done status) held)
      { c.shared with holder := none } (held.map .deliver ++ e.after status ++ rest) :=
    move_eq_note hk rfl
  have hmoved : (c.move o (.step k)).Orderly := orderly_play o hc [.step k]
  refine ⟨_, by rw [hmove]; rfl, ⟨by rw [hmove]; exact hn, fun k' u plan held' l hin _ _ => ?_⟩⟩
  have hfree : (c.move o (.step k)).shared.holder = none := by rw [hmove]; rfl
  have hout := hmoved.exclusive.others k' (by rw [hfree]; simp) _ (hin ▸ List.mem_cons_self)
  cases hout

/-- An answer that succeeds is the last one. If the endpoint is related to the session when the body
of the answer begins, and from then on the relation neither ends nor makes way for another, then
after the body has left the transport every other answer is refused, and nothing is changed on its
way there, so that it makes no call. -/
theorem answered_once (o : Outside τ υ) (clients : List (SessionName × UInt64))
    (farewells : List (SessionName × EndpointId)) (outside : υ) (callers : Nat)
    (moves more later : List (Move τ)) (k : Nat) (t : Task τ) (id : EndpointId) :
    let c := (start (opening clients farewells) outside callers).play o moves
    let e := c.play o more
    let f := e.play o (.step k :: later)
    ∀ rest held rest', t.operation.answers id →
      c.agenda k = .inside (.operation t) (t.operation.body t.session) [] :: rest →
      (c.shared.network.session t.session).isRelated id = true →
      (∀ m ∈ e.moments.drop c.moments.length, m.act.leaves = false) →
      e.agenda k = .inside (.operation t) (.done .success) held :: rest' →
      (∀ m : Moment τ υ, m ∈ f.moments.drop c.moments.length → ¬ m.Renews t.session id) →
      ∀ m : Moment τ υ, m ∈ f.moments.drop (e.moments.length + 1) → m.Refuses t.session id := by
  intro c e f rest held rest' hop hbegin hrel hstay hleave hcalm
  have hc : c.Orderly := orderly_play o (orderly_start _ farewells outside callers) moves
  have he : e.Orderly := orderly_play o hc more
  obtain ⟨since, hsince, hin⟩ := withstanding_play (o := o) Keeps.refl Keeps.trans
    (fun m => m.Renews t.session id) (fun m h _ hn => (h.turn t.session id).keeps hn) hc
    ⟨_, _, _, hbegin, Operation.records_body hop _ hrel⟩ more
  have he' : e.moments = c.moments ++ since := hsince
  rw [he', List.drop_left] at hstay
  obtain ⟨hwithstands, -⟩ := hin hstay
  have hbefore : ∀ m : Moment τ υ, m ∈ since → ¬ m.Renews t.session id := fun m hm => by
    obtain ⟨tail, htail, -⟩ := since_induction o (P := fun _ _ => True)
      (fun _ _ _ _ => trivial) (fun _ _ _ _ => trivial) he trivial (.step k :: later)
    refine hcalm m ?_
    rw [show f.moments = _ from htail, he', List.append_assoc, List.drop_left]
    exact List.mem_append_left _ hm
  have hanswered : (e.shared.network.session t.session).hasResponded id = true := by
    obtain ⟨plan, held', rest'', ha, hw⟩ := hwithstands hbefore
    cases hleave.symm.trans ha
    exact hw _ (.refl _) rfl
  obtain ⟨last, hlast, href⟩ := refusing_of_leaving o he hleave hanswered
  obtain ⟨since', hsince', hall⟩ := refusing_play o (orderly_play o he [.step k]) href later
  have hf : f.moments = (e.moments ++ [last]) ++ since' := by rw [← hlast]; exact hsince'
  have hdrop : f.moments.drop (e.moments.length + 1) = since' := by
    rw [hf, show e.moments.length + 1 = (e.moments ++ [last]).length by simp, List.drop_left]
  rw [hdrop]
  refine hall fun m hm => hcalm m ?_
  rw [hf, he', List.append_assoc, List.append_assoc, List.drop_left]
  simp [hm]

open Sample in
/-- An endpoint is accepted, and is not rejected afterwards. -/
theorem accepted_not_rejected :
    let c := run (knocking ++ submitting accept ++ turns 0 2)
    let e := c.play silent (turns 0 10)
    let f := e.play silent (.step 0 :: (turns 0 2 ++ submitting reject ++ turns 0 7))
    f.completed = [.success, .outOfOrderApiCall] ∧
      ∀ m : Moment Unit Unit, m ∈ f.moments.drop (e.moments.length + 1) →
        m.Refuses "A" ⟨"EP01"⟩ := by
  intro c e f
  have hlaw : ∀ m : Moment Unit Unit, m ∈ f.moments → m.Lawful silent := by
    have h := lawful_play silent .empty [] () 1 (knocking ++ submitting accept ++ turns 0 2 ++
      turns 0 10 ++ .step 0 :: (turns 0 2 ++ submitting reject ++ turns 0 7))
    rw [play_append, play_append] at h
    exact h
  have hcalm : ∀ m ∈ f.moments.drop c.moments.length, m.act.mayConvey = false ∨
      m.after.network.transport ≠ m.before.network.transport ∨
        (m.after.network.session "A").hasResponded ⟨"EP01"⟩ = true := by decide +kernel
  refine ⟨by decide +kernel, answered_once silent [] [] () 1
    (knocking ++ submitting accept ++ turns 0 2) (turns 0 10)
    (turns 0 2 ++ submitting reject ++ turns 0 7) 0 accept ⟨"EP01"⟩ [.finish, .work] []
    [.finish, .work] rfl rfl (by decide +kernel) (by decide +kernel) rfl fun m hm => ?_⟩
  exact Moment.not_renews (hlaw m (List.mem_of_mem_drop hm)) (hcalm m hm)

open Sample in
/-- An endpoint without a connection is accepted and then rejected, and so is one that asks for a
connection again after it has been accepted. -/
theorem answered_twice :
    let stranger := run (submitting accept ++ submitting reject ++ turns 0 40)
    let renewed := run (knocking ++ submitting accept ++ turns 0 15 ++
      .ask 0 (.hook (.session "A" (.incoming ⟨"EP01"⟩ []))) :: turns 1 2 ++ submitting reject ++
      turns 0 16)
    (stranger.completed = [.success, .success] ∧ stranger.transport.history =
      [⟨some "A", .acceptConnection ⟨"EP01"⟩⟩, ⟨some "A", .rejectConnection ⟨"EP01"⟩⟩]) ∧
    renewed.completed = [.success, .success] ∧ renewed.transport.history =
      [⟨some "A", .acceptConnection ⟨"EP01"⟩⟩, ⟨some "A", .rejectConnection ⟨"EP01"⟩⟩] ∧
    (renewed.shared.network.session "A").isPending ⟨"EP01"⟩ = true := by
  exact ⟨⟨by decide +kernel, by decide +kernel⟩, by decide +kernel, by decide +kernel,
    by decide +kernel⟩

end Chronicle

end Exchange

end Switchboard
