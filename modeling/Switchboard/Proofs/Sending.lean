import Switchboard.Proofs.Account
import Switchboard.Proofs.Plan

/-!
# Sending payloads

What comes of sending a payload, read off the session (`Session.sending`): whether the transport is
called, and for each position of the list of endpoints the report on the transfer, if the endpoint
has a payload listener. The body of the operation does this when nothing comes in between
(`sendPayload_run`), and it also does when other things happen between its steps, as long as they
leave the connections to the endpoints of the list as they are (`sendPayload_steps`).

The latter is said of any way through the plan (`Plan.Steps`), and found by taking the plan apart
from the front, one lemma a combinator.
-/

namespace Switchboard

/-! ## Ways through a plan -/

namespace Plan

/-- What an act has found and left behind. -/
structure Change (σ ε : Type) where
  before : σ
  after : σ
  emitted : List ε

variable {σ ε α β : Type} {I : σ → Prop} {t : List (Change σ ε)}

/-- The plan has been carried out up to `q`, with these changes, and whatever has happened in
between, it has found the state as `I` says whenever it looked at it or changed it. -/
inductive Steps (I : σ → Prop) : Plan σ ε α → List (Change σ ε) → Plan σ ε α → Prop where
  | refl (p : Plan σ ε α) : Steps I p [] p
  | look {next : σ → Plan σ ε α} {t : List (Change σ ε)} {q : Plan σ ε α} (s : σ) (hs : I s)
      (h : Steps I (next s) t q) : Steps I (.look next) t q
  | act {change : σ → σ × List ε} {next : Plan σ ε α} {t : List (Change σ ε)} {q : Plan σ ε α}
      (s : σ) (hs : I s) (h : Steps I next t q) :
      Steps I (.act change next) (⟨s, (change s).1, (change s).2⟩ :: t) q
  | await {next : Plan σ ε α} {t : List (Change σ ε)} {q : Plan σ ε α} (ready : σ → Bool)
      (h : Steps I next t q) : Steps I (.await ready next) t q

namespace Steps

theorem trans {p q r : Plan σ ε α} {t' : List (Change σ ε)} (h : Steps I p t q)
    (h' : Steps I q t' r) : Steps I p (t ++ t') r := by
  induction h with
  | refl p => exact h'
  | look s hs _ ih => exact .look s hs (ih h')
  | act s hs _ ih => exact .act s hs (ih h')
  | await ready _ ih => exact .await ready (ih h')

theorem of_done {a b : α} (h : Steps I (.done a) t (.done b)) : t = [] ∧ b = a := by
  cases h
  exact ⟨rfl, rfl⟩

theorem of_bind {p : Plan σ ε α} {k : α → Plan σ ε β} {b : β}
    (h : Steps I (p >>= k) t (.done b)) :
    ∃ a t₁ t₂, Steps I p t₁ (.done a) ∧ Steps I (k a) t₂ (.done b) ∧ t = t₁ ++ t₂ := by
  rw [bind_eq] at h
  induction p generalizing t with
  | done a => exact ⟨a, [], t, .refl _, h, rfl⟩
  | look next ih =>
    cases h with
    | look s hs h =>
      obtain ⟨a, t₁, t₂, h₁, h₂, rfl⟩ := ih s h
      exact ⟨a, t₁, t₂, .look s hs h₁, h₂, rfl⟩
  | act change next ih =>
    cases h with
    | act s hs h =>
      obtain ⟨a, t₁, t₂, h₁, h₂, rfl⟩ := ih h
      exact ⟨a, _ :: t₁, t₂, .act s hs h₁, h₂, rfl⟩
  | await ready next ih =>
    cases h with
    | await _ h =>
      obtain ⟨a, t₁, t₂, h₁, h₂, rfl⟩ := ih h
      exact ⟨a, t₁, t₂, .await ready h₁, h₂, rfl⟩

theorem of_gets {f : σ → α} {a : α} (h : Steps I (Plan.gets f) t (.done a)) :
    t = [] ∧ ∃ s, I s ∧ a = f s := by
  cases h with
  | look s hs h =>
    obtain ⟨rfl, rfl⟩ := h.of_done
    exact ⟨rfl, s, hs, rfl⟩

theorem of_perform {change : σ → σ × List ε} {u : Unit}
    (h : Steps I (Plan.perform change) t (.done u)) :
    ∃ s, I s ∧ t = [⟨s, (change s).1, (change s).2⟩] := by
  cases h with
  | act s hs h =>
    obtain ⟨rfl, -⟩ := h.of_done
    exact ⟨s, hs, rfl⟩

theorem of_waitUntil {ready : σ → Bool} {u : Unit}
    (h : Steps I (Plan.waitUntil ready) t (.done u)) : t = [] := by
  cases h with
  | await _ h => exact h.of_done.1

end Steps

/-- One way through a plan is the one on which nothing comes in between. -/
theorem steps_run (p : Plan σ ε α) (s : σ) :
    ∃ t, p.Steps (fun _ => True) t (.done (p.run s).1) ∧
      t.flatMap (·.emitted) = (p.run s).2.2 := by
  induction p generalizing s with
  | done a => exact ⟨[], .refl _, rfl⟩
  | look next ih =>
    obtain ⟨t, ht, hemitted⟩ := ih s s
    exact ⟨t, .look s trivial ht, hemitted⟩
  | act change next ih =>
    obtain ⟨t, ht, hemitted⟩ := ih (change s).1
    refine ⟨_ :: t, .act s trivial ht, ?_⟩
    rw [List.flatMap_cons, hemitted, run_act]
  | await ready next ih =>
    obtain ⟨t, ht, hemitted⟩ := ih s
    exact ⟨t, .await ready ht, hemitted⟩

/-- Whatever comes in between, the changes made are those that the plan has to make. -/
theorem Follows.steps {κ : Type} {T : κ → (σ → σ × List ε) → κ → Prop} {k l : κ}
    {p q : Plan σ ε α} (h : p.Follows T k l) (hs : p.Steps I t q) :
    ∀ c ∈ t, ∃ k change l, T k change l ∧ change c.before = (c.after, c.emitted) := by
  induction hs generalizing k with
  | refl p => exact fun c hc => by cases hc
  | look s _ _ ih =>
    cases h with
    | look hn => exact ih (hn s)
  | act s _ _ ih =>
    cases h with
    | act hchange hn =>
      intro c hc
      rcases List.mem_cons.mp hc with rfl | hc
      · exact ⟨_, _, _, hchange, rfl⟩
      · exact ih hn c hc
  | await ready _ ih =>
    cases h with
    | await _ hn => exact ih hn

end Plan

/-! ## What a job leaves behind -/

/-- The changes have these calls recorded and emit this, and leave every session as it is. -/
structure Footprint (t : List (Plan.Change Network Emission)) (calls : List CallRecord)
    (emitted : List Emission) : Prop where
  calls : t.flatMap (fun c =>
    c.after.transport.history.drop c.before.transport.history.length) = calls
  emitted : t.flatMap (·.emitted) = emitted
  sessions : ∀ c ∈ t, ∀ k, c.after.session k = c.before.session k

namespace Footprint

variable {t t' : List (Plan.Change Network Emission)} {calls calls' : List CallRecord}
  {emitted emitted' : List Emission} {I : Network → Prop}

theorem nil : Footprint [] [] [] where
  calls := rfl
  emitted := rfl
  sessions _ hc := by cases hc

theorem append (h : Footprint t calls emitted) (h' : Footprint t' calls' emitted') :
    Footprint (t ++ t') (calls ++ calls') (emitted ++ emitted') where
  calls := by rw [List.flatMap_append, h.calls, h'.calls]
  emitted := by rw [List.flatMap_append, h.emitted, h'.emitted]
  sessions c hc := (List.mem_append.mp hc).elim (h.sessions c) (h'.sessions c)

theorem single {n m : Network}
    (hhistory : m.transport.history = n.transport.history ++ calls)
    (hsessions : ∀ k, m.session k = n.session k) : Footprint [⟨n, m, emitted⟩] calls emitted where
  calls := by simp [hhistory]
  emitted := by simp
  sessions c hc k := by
    obtain rfl := List.mem_singleton.mp hc
    exact hsessions k

/-- The transport is changed, but not its history. -/
theorem changeTransport {f : Transport → Transport} {u : Unit}
    (h : (Job.changeTransport f).Steps I t (.done u))
    (hf : ∀ t, (f t).history = t.history) : Footprint t [] [] := by
  obtain ⟨n, -, rfl⟩ := h.of_perform
  exact single ((hf _).trans (List.append_nil _).symm) fun _ => rfl

/-- The session stays as it is wherever the report is made. -/
theorem report {s : SessionName} {f : Session → Session × List Emission} {u : Unit}
    (h : (Job.report s f).Steps I t (.done u))
    (hf : ∀ n, I n → f (n.session s) = (n.session s, emitted)) : Footprint t [] emitted := by
  obtain ⟨n, hn, rfl⟩ := h.of_perform
  have heq : n.onSession s f = (n.setSession s (n.session s), emitted) := by
    rw [Network.onSession, hf n hn]
  rw [heq]
  refine single (List.append_nil _).symm fun k => ?_
  rw [Network.session_setSession]
  split
  · next hk => rw [hk]
  · rfl

/-- A call is recorded, and the rest is up to its body. -/
theorem call {s : SessionName} {c : Call} {body : Job Unit} {u : Unit}
    (h : (Transport.call (some s) c body).Steps I t (.done u))
    (hbody : ∀ t, body.Steps I t (.done ()) → Footprint t [] emitted) :
    Footprint t [⟨some s, c⟩] emitted := by
  obtain ⟨_, _, _, hrecord, h₁, rfl⟩ := h.of_bind
  obtain ⟨_, _, _, hwait, h₂, rfl⟩ := h₁.of_bind
  obtain ⟨_, _, _, henter, h₃, rfl⟩ := h₂.of_bind
  obtain ⟨_, _, _, hb, h₄, rfl⟩ := h₃.of_bind
  obtain ⟨_, _, _, hleave, h₅, rfl⟩ := h₄.of_bind
  obtain ⟨rfl, -⟩ := h₅.of_done
  obtain rfl := hwait.of_waitUntil
  obtain ⟨n, -, rfl⟩ := hrecord.of_perform
  have hfirst : Footprint [⟨n, n.onTransport (·.record ⟨some s, c⟩), []⟩] [⟨some s, c⟩] [] :=
    single rfl fun _ => rfl
  have hrest := (changeTransport henter fun _ => rfl).append
    ((hbody _ hb).append ((changeTransport hleave fun _ => rfl).append nil))
  simpa using hfirst.append hrest

end Footprint

/-! ## Reports on a transfer -/

/-- What comes of sending a payload. -/
structure Sending where
  status : Status
  calls : List CallRecord
  emitted : List Emission

namespace Session

variable {x y : Session} {id : EndpointId}

/-- The report on a transfer to an endpoint that has a payload listener. -/
def progress? (x : Session) (p : Payload) (id : EndpointId) : Option Emission :=
  ((x.connections.get? id).bind (·.payloadListener)).map fun l =>
    .payload l (.progress id (.settled p (x.isConnected id)))

/-- The transport is called if some endpoint of the list is connected, and reports on every
position. -/
def sending (x : Session) (s : SessionName) (ids : List EndpointId) (p : Payload) : Sending :=
  if ids.any x.isConnected then
    { status := .success
      calls := [⟨some s, .sendPayload ids p⟩]
      emitted := ids.filterMap (x.progress? p) }
  else
    { status := .endpointUnknown, calls := [], emitted := [] }

/-- A report on a payload leaves the session as it is. -/
theorem payloadProgress_settled (p : Payload)
    (h : y.connections.get? id = x.connections.get? id) :
    y.payloadProgress id (.settled p (x.isConnected id)) = (y, (x.progress? p id).toList) := by
  unfold payloadProgress toPayload progress?
  rw [h]
  cases (x.connections.get? id).bind (·.payloadListener) <;> rfl

end Session

namespace Operation

variable {s : SessionName} {ids : List EndpointId} {p : Payload}

theorem applyAll_payloadProgress (x : Session) (p : Payload) (ids : List EndpointId) :
    SessionHook.applyAll x (ids.map fun id =>
        .payloadProgress id (.settled p (x.isConnected id))) =
      (x, ids.filterMap (x.progress? p)) := by
  induction ids with
  | nil => rfl
  | cons id ids ih =>
    rw [List.map_cons, SessionHook.applyAll, SessionHook.apply,
      Session.payloadProgress_settled p rfl, ih, List.filterMap_cons]
    cases x.progress? p id <;> rfl

/-- The transport reports on every position whose endpoint has a payload listener. -/
theorem emitted_sendPayload (n : Network) (s : SessionName) (ids : List EndpointId) (p : Payload) :
    ((Transport.sendPayload s ids p).run n).2.2 = ids.filterMap ((n.session s).progress? p) := by
  rw [sendPayload_gives.emitted, applyAll_payloadProgress]

/-- When nothing comes in between, every session stays as it is. -/
theorem sendPayload_run (n : Network) (s : SessionName) (ids : List EndpointId) (p : Payload) :
    let out := ((sendPayload ids p : Operation Listener).body s).run n
    let sent := (n.session s).sending s ids p
    out.1 = sent.status ∧ out.2.1.transport.history = n.transport.history ++ sent.calls ∧
      out.2.2 = sent.emitted ∧ ∀ k, out.2.1.session k = n.session k := by
  intro out sent
  have h : Job.Gives s n ((sendPayload ids p : Operation Listener).body s)
      (account s (n.session s) n.transport (sendPayload ids p)) := body_gives _
  have hstatus := h.result
  have hemitted := h.emitted
  have hhistory := h.history
  have hsessions := h.keeps_sessions
  simp only [account, called] at hstatus hemitted hhistory hsessions
  simp only [sent, Session.sending]
  cases hany : ids.any (n.session s).isConnected with
  | false =>
    simp only [hany, Bool.not_false, if_true] at hstatus hemitted hhistory hsessions
    exact ⟨hstatus, hhistory, hemitted, hsessions rfl⟩
  | true =>
    simp only [hany, Bool.not_true, Bool.false_eq_true, if_false, Status.isOk, if_true, decide_true,
      applyAll_payloadProgress] at hstatus hemitted hhistory hsessions
    exact ⟨hstatus, hhistory, hemitted, hsessions trivial⟩

/-- Whatever comes in between, the looks find what the connections are. -/
theorem asksAnyConnected_steps {x : Session} {I : Network → Prop}
    {t : List (Plan.Change Network Emission)} {found : Bool}
    (hI : ∀ n, I n → ∀ id ∈ ids, (n.session s).connections.get? id = x.connections.get? id)
    (h : (asksAnyConnected s ids).Steps I t (.done found)) :
    t = [] ∧ found = ids.any x.isConnected := by
  induction ids generalizing t with
  | nil => exact h.of_done
  | cons id ids ih =>
    obtain ⟨connected, _, _, hasks, h₁, rfl⟩ := h.of_bind
    obtain ⟨rfl, n, hn, hc⟩ := hasks.of_gets
    obtain rfl := hc.trans (Session.isConnected_congr (hI n hn id List.mem_cons_self))
    rw [List.nil_append, List.any_cons]
    split at h₁
    · next hc =>
      rw [hc, Bool.true_or]
      exact h₁.of_done
    · next hc =>
      rw [Bool.eq_false_iff.mpr hc, Bool.false_or]
      exact ih (fun n hn k hk => hI n hn k (List.mem_cons_of_mem _ hk)) h₁

/-- Whatever comes in between, reports go by what the connections are. -/
theorem sendToEach_steps {x : Session} {I : Network → Prop}
    {t : List (Plan.Change Network Emission)} {u : Unit}
    (hI : ∀ n, I n → ∀ id ∈ ids, (n.session s).connections.get? id = x.connections.get? id)
    (h : (Transport.sendToEach s p ids).Steps I t (.done u)) :
    Footprint t [] (ids.filterMap (x.progress? p)) := by
  induction ids generalizing t with
  | nil =>
    obtain ⟨rfl, -⟩ := h.of_done
    exact .nil
  | cons id ids ih =>
    obtain ⟨delivered, _, _, hasks, h₁, rfl⟩ := h.of_bind
    obtain ⟨_, _, _, hreport, h₂, rfl⟩ := h₁.of_bind
    obtain ⟨rfl, n, hn, hd⟩ := hasks.of_gets
    obtain rfl := hd.trans (Session.isConnected_congr (hI n hn id List.mem_cons_self))
    have hfirst : Footprint _ [] (x.progress? p id).toList := .report hreport fun m hm =>
      Session.payloadProgress_settled p (hI m hm id List.mem_cons_self)
    have hrest := ih (fun n hn k hk => hI n hn k (List.mem_cons_of_mem _ hk)) h₂
    rw [List.nil_append, List.filterMap_cons]
    have hall := hfirst.append hrest
    cases hp : x.progress? p id <;> simpa [hp] using hall

/-- As long as the connections to the endpoints stay as they are, it does not matter what else
happens between the steps. -/
theorem sendPayload_steps {x : Session} {I : Network → Prop}
    {t : List (Plan.Change Network Emission)} {status : Status}
    (hI : ∀ n, I n → ∀ id ∈ ids, (n.session s).connections.get? id = x.connections.get? id)
    (h : ((sendPayload ids p : Operation Listener).body s).Steps I t (.done status)) :
    status = (x.sending s ids p).status ∧
      Footprint t (x.sending s ids p).calls (x.sending s ids p).emitted := by
  obtain ⟨found, _, _, hasks, h₁, rfl⟩ := h.of_bind
  obtain ⟨rfl, rfl⟩ := asksAnyConnected_steps hI hasks
  unfold Session.sending
  cases hc : ids.any x.isConnected with
  | false =>
    simp only [hc, Bool.not_false, if_true] at h₁
    obtain ⟨rfl, rfl⟩ := h₁.of_done
    exact ⟨rfl, .nil⟩
  | true =>
    simp only [hc, Bool.not_true, Bool.false_eq_true, if_false] at h₁
    obtain ⟨_, _, _, hcall, h₂, rfl⟩ := h₁.of_bind
    obtain ⟨rfl, rfl⟩ := h₂.of_done
    refine ⟨rfl, ?_⟩
    rw [List.nil_append, List.append_nil]
    refine .call hcall fun t hbody => ?_
    obtain ⟨_, _, _, hkeep, h₃, rfl⟩ := hbody.of_bind
    exact (Footprint.changeTransport hkeep fun _ => rfl).append (sendToEach_steps hI h₃)

end Operation

end Switchboard
