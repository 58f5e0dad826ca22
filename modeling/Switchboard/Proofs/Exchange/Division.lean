import Switchboard.Proofs.Confinement
import Switchboard.Proofs.Exchange.Chronicle

/-!
# Dividing what is asked for

A `Division` tells the requests of some from those of others. The networks of two exchanges agree as
far as the former can tell; reports within the remit of such a request keep them so when they are
made in both, and reports within the remit of another when they are made in one of them, where they
emit what is not seen. Then the acts of an exchange with recording clients divide in the same way:
an act that comes of an own request can be done in both exchanges and leaves the same
(`own_step`), an act that comes of another can be done in one of them alone (`other_step`).
-/

namespace Switchboard

variable {τ υ : Type}

/-- The act brings something that is seen, or an outcome to one of the cues. -/
def Act.shows (seen : Emission → Bool) (cues : τ → Bool) : Act τ → Bool
  | deliver m => seen m
  | complete back _ | resume back _ => cues back
  | _ => false

namespace SessionHook

def scope (h : SessionHook Listener) : Scope :=
  match h.endpoint? with
  | some id => .endpoint id
  | none => .session

end SessionHook

namespace Request

/-- What a client asks for on behalf of a session has a remit; shutting down, giving a turn and
setting the transport's answers have none. -/
def remit? : Request τ → Option Remit
  | submit t => some (t.operation.remit t.session)
  | listen s _ l _ _ => some ⟨s, .session, some l⟩
  | unlisten s _ => some ⟨s, .session, none⟩
  | hook (.session s h) => some ⟨s, h.scope, h.listener?⟩
  | _ => none

/-- Where the outcome of the request is reported. -/
def cue? : Request τ → Option τ
  | submit t => some t.back
  | listen _ _ _ _ back => some back
  | unlisten _ back => some back
  | shutdown back => some back
  | _ => none

end Request

namespace Errand

/-- The request an errand comes of. -/
def request : Errand τ → Request τ
  | operation t => .submit t
  | listen s service l options back => .listen s service l options back
  | unlisten s back => .unlisten s back
  | stop back => .shutdown back

theorem plan_confined {e : Errand τ} {r : Remit} (h : e.request.remit? = some r) :
    e.plan.Confined r := by
  cases e with
  | operation t =>
    cases h
    exact Operation.body_confined t.operation
  | listen s service l options back =>
    cases h
    exact Transport.startListening_confined rfl (Remit.allows_of_session rfl (.inr rfl))
  | unlisten s back =>
    cases h
    exact .bind (Transport.stopListening_confined (Remit.allows_of_session rfl (.inl rfl)))
      fun _ => .done Status.success
  | stop back => cases h

end Errand

/-- The code outside never asks for anything. -/
structure Outside.Records (o : Outside τ υ) : Prop where
  signal : ∀ sink signal v u, (o.onSignal sink signal v u).2 = []
  turn : ∀ cue status v u, (o.onTurn cue status v u).2 = []

namespace Exchange

namespace Sample

/-- Code outside that keeps the signals in the order in which they come. -/
def recorder : Outside Bool (List (SinkId × Signal)) where
  onSignal sink signal _ u := (u ++ [(sink, signal)], [])
  onTurn _ _ _ u := (u, [])

theorem recorder_records : recorder.Records := ⟨fun _ _ _ _ => rfl, fun _ _ _ _ => rfl⟩

end Sample

structure Division (τ : Type) where
  /-- What may be asked for at all. -/
  allowed : Request τ → Prop
  /-- What is asked for in both exchanges. -/
  own : Request τ → Bool
  /-- How the network of the one exchange has to stand to that of the other. -/
  agree : Network → Network → Prop
  /-- What only own requests may emit, and where only their outcomes are reported. -/
  seen : Emission → Bool
  cues : τ → Bool
  stays_open : ∀ back, ¬ allowed (.shutdown back)
  remit_of_other : ∀ {r}, allowed r → own r = false → ∃ m, r.remit? = some m
  cue_of_other : ∀ {r b}, allowed r → own r = false → r.cue? = some b → cues b = false
  alike : ∀ {r m n n'}, allowed r → own r = true → r.remit? = some m → agree n n' → m.Alike n n'
  own_reports : ∀ {r m n n'} {hs : List (SessionHook Listener)}, allowed r → own r = true →
    r.remit? = some m → (∀ h ∈ hs, m.Allows h) → agree n n' →
      agree (n.reportAll m.session hs).1 (n'.reportAll m.session hs).1 ∧
      (n.reportAll m.session hs).2 = (n'.reportAll m.session hs).2
  other_reports : ∀ {r m n n'} {hs : List (SessionHook Listener)}, allowed r → own r = false →
    r.remit? = some m → (∀ h ∈ hs, m.Allows h) → agree n n' →
      agree (n.reportAll m.session hs).1 n' ∧ ∀ e ∈ (n.reportAll m.session hs).2, seen e = false
  transports : ∀ {n n'} {f g : Transport → Transport},
    (∀ t u : Transport, t.SameScript u → (f t).SameScript (g u)) → agree n n' →
      agree (n.onTransport f) (n'.onTransport g)

namespace Division

variable {D : Division τ} {o : Outside τ υ} {k : Nat} {d d' e : Desk τ υ} {a : Act τ}
  {acts : List (Act τ)}

/-- An act that comes of an own request, or that may do so. -/
inductive Own (D : Division τ) : Act τ → Prop where
  | request {r : Request τ} (ha : D.allowed r) (ho : D.own r = true) : Own D (.request r)
  | route {t : Task τ} (ha : D.allowed (.submit t)) (ho : D.own (.submit t) = true) :
    Own D (.route t)
  | offer {t : Task τ} (ha : D.allowed (.submit t)) (ho : D.own (.submit t) = true) :
    Own D (.offer t)
  | enqueue {t : Task τ} (ha : D.allowed (.submit t)) (ho : D.own (.submit t) = true) :
    Own D (.enqueue t)
  | enter {e : Errand τ} (ha : D.allowed e.request) (ho : D.own e.request = true) :
    Own D (.enter e)
  | inside {e : Errand τ} {m : Remit} {plan : Job Status} (held : List Emission)
      (ha : D.allowed e.request) (ho : D.own e.request = true) (hm : e.request.remit? = some m)
      (hp : plan.Confined m) : Own D (.inside e plan held)
  | deliver (m : Emission) : Own D (.deliver m)
  | complete (back : τ) (status : Status) : Own D (.complete back status)
  | resume (back : τ) (status : Option Status) : Own D (.resume back status)

/-- An act that comes of another request. -/
inductive Other (D : Division τ) : Act τ → Prop where
  | request {r : Request τ} (ha : D.allowed r) (ho : D.own r = false) : Other D (.request r)
  | route {t : Task τ} (ha : D.allowed (.submit t)) (ho : D.own (.submit t) = false) :
    Other D (.route t)
  | offer {t : Task τ} (ha : D.allowed (.submit t)) (ho : D.own (.submit t) = false) :
    Other D (.offer t)
  | enqueue {t : Task τ} (ha : D.allowed (.submit t)) (ho : D.own (.submit t) = false) :
    Other D (.enqueue t)
  | enter {e : Errand τ} (ha : D.allowed e.request) (ho : D.own e.request = false) :
    Other D (.enter e)
  | inside {e : Errand τ} {m : Remit} {plan : Job Status} {held : List Emission}
      (ha : D.allowed e.request) (ho : D.own e.request = false) (hm : e.request.remit? = some m)
      (hp : plan.Confined m) (hh : ∀ x ∈ held, D.seen x = false) :
    Other D (.inside e plan held)
  | deliver {m : Emission} (h : D.seen m = false) : Other D (.deliver m)
  | complete {back : τ} (h : D.cues back = false) (status : Status) :
    Other D (.complete back status)
  | resume {back : τ} (h : D.cues back = false) (status : Option Status) :
    Other D (.resume back status)

/-- Two desks at which own requests meet the same. Neither exchange has been shut down, and one has
only the own requests of the other in its queue. -/
structure Alike (D : Division τ) (d d' : Desk τ υ) : Prop where
  network : D.agree d.network d'.network
  opened : d.closed = false ∧ d'.closed = false
  going : d.queue.stopping = false ∧ d'.queue.stopping = false
  accepting : d.queue.closed = false ∧ d'.queue.closed = false
  waiting : d'.queue.waiting = d.queue.waiting.filter fun t => D.own (.submit t)
  allowed : ∀ t ∈ d.queue.waiting, D.allowed (.submit t)

theorem Alike.congr (hd : D.Alike d d') {e e' : Desk τ υ} (hn : D.agree e.network e'.network)
    (hc : e.closed = d.closed ∧ e'.closed = d'.closed)
    (hq : e.queue = d.queue ∧ e'.queue = d'.queue) : D.Alike e e' where
  network := hn
  opened := by rw [hc.1, hc.2]; exact hd.opened
  going := by rw [hq.1, hq.2]; exact hd.going
  accepting := by rw [hq.1, hq.2]; exact hd.accepting
  waiting := by rw [hq.1, hq.2]; exact hd.waiting
  allowed := by rw [hq.1]; exact hd.allowed

/-! ## Reports that are asked for -/

/-- What a request changes at once are reports within its remit. -/
theorem submit_eq (t : Task τ) (n : Network) :
    n.setSession t.session (t.operation.prepare (n.session t.session)) =
      (n.reportAll t.session t.operation.preparing).1 := by
  rw [Operation.prepare_eq]
  rfl

theorem hook_eq (s : SessionName) (h : SessionHook Listener) (n : Network) :
    Hook.apply n (.session s h) = n.reportAll s [h] := by
  simp only [Hook.apply, Network.reportAll, SessionHook.applyAll, List.append_nil]

theorem allows_hook (s : SessionName) (h : SessionHook Listener) :
    ∀ k ∈ [h], Remit.Allows ⟨s, h.scope, h.listener?⟩ k := by
  intro k hk
  rw [List.mem_singleton.mp hk]
  refine ⟨fun id hs => ?_, fun _ hl => hl⟩
  unfold SessionHook.scope at hs
  split at hs
  · next id' hid =>
    cases hs
    exact hid
  · cases hs

theorem sameScript_apply (h : TransportHook) (t u : Transport) (hs : t.SameScript u) :
    (h.apply t).SameScript (h.apply u) := by
  obtain ⟨ho, ha, hg⟩ := hs
  cases h <;> constructor <;>
    simp [TransportHook.apply, Transport.setOutcome, Transport.clearOutcome, ho, ha, hg]

/-- Code outside that only records leaves nothing to be done. -/
theorem consult_eq {f : View → υ → υ × List (Request τ)} (hf : ∀ v u, (f v u).2 = [])
    (d : Desk τ υ) : ∃ u, consult d f = ({ d with outside := u }, []) := by
  refine ⟨(f (view d) d.outside).1, ?_⟩
  show (_, ((f (view d) d.outside).2.map Act.request)) = _
  rw [hf]
  rfl

/-! ## Steps -/

theorem after_own {e : Errand τ} (ha : D.allowed e.request) (status : Status) :
    ∀ b ∈ e.after status, D.Own b := by
  intro b hb
  cases e with
  | stop back => exact absurd ha (D.stays_open back)
  | operation t =>
    rw [List.mem_singleton.mp hb]
    exact .complete ..
  | listen | unlisten =>
    rw [List.mem_singleton.mp hb]
    exact .resume ..

theorem after_other {e : Errand τ} (ha : D.allowed e.request) (ho : D.own e.request = false)
    (status : Status) : ∀ b ∈ e.after status, D.Other b := by
  intro b hb
  cases e with
  | stop back => exact absurd ha (D.stays_open back)
  | operation t =>
    rw [List.mem_singleton.mp hb]
    exact .complete (D.cue_of_other ha ho rfl) _
  | listen | unlisten =>
    rw [List.mem_singleton.mp hb]
    exact .resume (D.cue_of_other ha ho rfl) _

theorem remit_of_errand {e : Errand τ} (ha : D.allowed e.request) :
    ∃ m, e.request.remit? = some m := by
  cases e with
  | stop back => exact absurd ha (D.stays_open back)
  | _ => exact ⟨_, rfl⟩

/-- One step inside, made in both exchanges. -/
theorem own_advance {e : Errand τ} {m : Remit} {plan : Job Status} {held : List Emission}
    {f : Desk τ υ} (ha : D.allowed e.request) (ho : D.own e.request = true)
    (hm : e.request.remit? = some m) (hp : plan.Confined m) (hd : D.Alike d d')
    (he : advance d e held plan = some (f, acts)) :
    ∃ f', advance d' e held plan = some (f', acts) ∧ D.Alike f f' ∧ (∀ b ∈ acts, D.Own b) ∧
      f.queue = d.queue ∧ f'.queue = d'.queue := by
  have hal := D.alike ha ho hm hd.network
  cases hp with
  | done status =>
    cases he
    refine ⟨_, rfl, hd.congr hd.network ⟨rfl, rfl⟩ ⟨rfl, rfl⟩, fun b hb => ?_, rfl, rfl⟩
    rcases List.mem_append.mp hb with hb | hb
    · obtain ⟨x, _, rfl⟩ := List.mem_map.mp hb
      exact .deliver x
    · exact after_own ha status b hb
  | @look next hn hp =>
    cases he
    refine ⟨d', by simp only [advance, hn _ _ hal], hd, fun b hb => ?_, rfl, rfl⟩
    rw [List.mem_singleton.mp hb]
    exact .inside held ha ho hm (hp _)
  | @reports change next hs hallow hc hp =>
    cases he
    obtain ⟨hag, hem⟩ := D.own_reports ha ho hm hallow hd.network
    rw [← hc, ← hc] at hag hem
    refine ⟨{ d' with network := (change d'.network).1 }, by simp only [advance, hem],
      hd.congr hag ⟨rfl, rfl⟩ ⟨rfl, rfl⟩, fun b hb => ?_, rfl, rfl⟩
    rw [List.mem_singleton.mp hb]
    exact .inside _ ha ho hm hp
  | books hf hp =>
    cases he
    have hag := D.transports (fun t u h => (hf t).symm.trans (h.trans (hf u))) hd.network
    refine ⟨_, rfl, hd.congr hag ⟨rfl, rfl⟩ ⟨rfl, rfl⟩, fun b hb => ?_, rfl, rfl⟩
    rw [List.mem_singleton.mp hb]
    exact .inside _ ha ho hm hp
  | @await ready next hr hp =>
    simp only [advance] at he ⊢
    rw [← hr _ _ hal]
    split at he
    · next hready =>
      cases he
      refine ⟨d', if_pos hready, hd, fun b hb => ?_, rfl, rfl⟩
      rw [List.mem_singleton.mp hb]
      exact .inside held ha ho hm hp
    · cases he

/-- One step inside, made in one exchange alone. -/
theorem other_advance {e : Errand τ} {m : Remit} {plan : Job Status} {held : List Emission}
    {f : Desk τ υ} (ha : D.allowed e.request) (ho : D.own e.request = false)
    (hm : e.request.remit? = some m) (hp : plan.Confined m) (hh : ∀ x ∈ held, D.seen x = false)
    (hd : D.Alike d d') (he : advance d e held plan = some (f, acts)) :
    D.Alike f d' ∧ (∀ b ∈ acts, D.Other b) ∧ f.queue = d.queue := by
  cases hp with
  | done status =>
    cases he
    refine ⟨hd.congr hd.network ⟨rfl, rfl⟩ ⟨rfl, rfl⟩, fun b hb => ?_, rfl⟩
    rcases List.mem_append.mp hb with hb | hb
    · obtain ⟨x, hx, rfl⟩ := List.mem_map.mp hb
      exact .deliver (hh x hx)
    · exact after_other ha ho status b hb
  | look hn hp =>
    cases he
    refine ⟨hd, fun b hb => ?_, rfl⟩
    rw [List.mem_singleton.mp hb]
    exact .inside ha ho hm (hp _) hh
  | reports hs hallow hc hp =>
    cases he
    obtain ⟨hag, hem⟩ := D.other_reports ha ho hm hallow hd.network
    rw [← hc] at hag hem
    refine ⟨hd.congr hag ⟨rfl, rfl⟩ ⟨rfl, rfl⟩, fun b hb => ?_, rfl⟩
    rw [List.mem_singleton.mp hb]
    refine .inside ha ho hm hp fun x hx => ?_
    rcases List.mem_append.mp hx with hx | hx
    · exact hh x hx
    · exact hem x hx
  | books hf hp =>
    cases he
    have hag := D.transports (g := id) (fun t u h => (hf t).symm.trans h) hd.network
    refine ⟨hd.congr hag ⟨rfl, rfl⟩ ⟨rfl, rfl⟩, fun b hb => ?_, rfl⟩
    rw [List.mem_singleton.mp hb]
    exact .inside ha ho hm hp (by simpa using hh)
  | await hr hp =>
    simp only [advance] at he
    split at he
    · cases he
      refine ⟨hd, fun b hb => ?_, rfl⟩
      rw [List.mem_singleton.mp hb]
      exact .inside ha ho hm hp hh
    · cases he

/-- What code outside records when it is consulted in both exchanges. -/
theorem own_consult {f : View → υ → υ × List (Request τ)} (hf : ∀ v u, (f v u).2 = [])
    (hd : D.Alike d d') (he : some (consult d f) = some (e, acts)) :
    ∃ e', some (consult d' f) = some (e', acts) ∧ D.Alike e e' ∧ (∀ b ∈ acts, D.Own b) ∧
      e.queue = d.queue ∧ e'.queue = d'.queue := by
  obtain ⟨u, hu⟩ := consult_eq hf d
  obtain ⟨u', hu'⟩ := consult_eq hf d'
  cases he.symm.trans (congrArg some hu)
  exact ⟨_, congrArg some hu', hd.congr hd.network ⟨rfl, rfl⟩ ⟨rfl, rfl⟩, List.forall_mem_nil _,
    rfl, rfl⟩

/-- What it records when it is consulted in one exchange alone. -/
theorem other_consult {f : View → υ → υ × List (Request τ)} (hf : ∀ v u, (f v u).2 = [])
    (hd : D.Alike d d') (he : some (consult d f) = some (e, acts)) :
    D.Alike e d' ∧ (∀ b ∈ acts, D.Other b) ∧ e.queue = d.queue := by
  obtain ⟨u, hu⟩ := consult_eq hf d
  cases he.symm.trans (congrArg some hu)
  exact ⟨hd.congr hd.network ⟨rfl, rfl⟩ ⟨rfl, rfl⟩, List.forall_mem_nil _, rfl⟩

/-- What an own request does at once is done in both exchanges. -/
theorem own_ask (ho : o.Records) {r : Request τ} (ha : D.allowed r) (hown : D.own r = true)
    (hd : D.Alike d d') (he : execute o k (.request r) d = some (e, acts)) :
    ∃ e', execute o k (.request r) d' = some (e', acts) ∧ D.Alike e e' ∧ (∀ b ∈ acts, D.Own b) ∧
      e.queue = d.queue ∧ e'.queue = d'.queue := by
  cases r with
  | submit t =>
    cases he
    have hag : D.agree (ask d (.submit t)).1.network (ask d' (.submit t)).1.network := by
      simp only [ask, submit_eq]
      exact (D.own_reports ha hown rfl (Operation.allows_preparing _ _) hd.network).1
    refine ⟨_, rfl, hd.congr hag ⟨rfl, rfl⟩ ⟨rfl, rfl⟩, fun b hb => ?_, rfl, rfl⟩
    rw [List.mem_singleton.mp hb]
    exact .route ha hown
  | listen | unlisten =>
    cases he
    refine ⟨d', rfl, hd, fun b hb => ?_, rfl, rfl⟩
    rw [List.mem_singleton.mp hb]
    exact .enter ha hown
  | shutdown back => exact absurd ha (D.stays_open back)
  | hook h =>
    cases h with
    | session s h =>
      cases he
      obtain ⟨hag, hem⟩ := D.own_reports ha hown rfl (allows_hook s h) hd.network
      rw [← hook_eq, ← hook_eq] at hag hem
      refine ⟨{ d' with network := (Hook.apply d'.network (.session s h)).1 }, ?_,
        hd.congr hag ⟨rfl, rfl⟩ ⟨rfl, rfl⟩, fun b hb => ?_, rfl, rfl⟩
      · exact congrArg (fun l : List Emission => some (_, l.map Act.deliver)) hem.symm
      · obtain ⟨m, _, rfl⟩ := List.mem_map.mp hb
        exact .deliver m
    | transport h =>
      cases he
      exact ⟨_, rfl, hd.congr (D.transports (sameScript_apply h) hd.network) ⟨rfl, rfl⟩ ⟨rfl, rfl⟩,
        List.forall_mem_nil _, rfl, rfl⟩
  | turn cue => exact own_consult (ho.turn cue none) hd he

/-- What another request does at once is done in one exchange alone. -/
theorem other_ask {r : Request τ} (ha : D.allowed r) (hoth : D.own r = false)
    (hd : D.Alike d d') (he : execute o k (.request r) d = some (e, acts)) :
    D.Alike e d' ∧ (∀ b ∈ acts, D.Other b) ∧ e.queue = d.queue := by
  cases r with
  | submit t =>
    cases he
    have hag : D.agree (ask d (.submit t)).1.network d'.network := by
      simp only [ask, submit_eq]
      exact (D.other_reports ha hoth rfl (Operation.allows_preparing _ _) hd.network).1
    refine ⟨hd.congr hag ⟨rfl, rfl⟩ ⟨rfl, rfl⟩, fun b hb => ?_, rfl⟩
    rw [List.mem_singleton.mp hb]
    exact .route ha hoth
  | listen | unlisten =>
    cases he
    refine ⟨hd, fun b hb => ?_, rfl⟩
    rw [List.mem_singleton.mp hb]
    exact .enter ha hoth
  | shutdown back => exact absurd ha (D.stays_open back)
  | hook h =>
    cases h with
    | session s h =>
      cases he
      obtain ⟨hag, hem⟩ := D.other_reports ha hoth rfl (allows_hook s h) hd.network
      rw [← hook_eq] at hag hem
      refine ⟨hd.congr hag ⟨rfl, rfl⟩ ⟨rfl, rfl⟩, fun b hb => ?_, rfl⟩
      obtain ⟨m, hm, rfl⟩ := List.mem_map.mp hb
      exact .deliver (hem m hm)
    | transport h =>
      obtain ⟨m, hm⟩ := D.remit_of_other ha hoth
      cases hm
  | turn cue =>
    obtain ⟨m, hm⟩ := D.remit_of_other ha hoth
    cases hm

/-- An own operation comes into both queues. -/
theorem Alike.accept_own (hd : D.Alike d d') {t : Task τ} (ha : D.allowed (.submit t))
    (ho : D.own (.submit t) = true) :
    ∃ q q', d.queue.accept? t = some q ∧ d'.queue.accept? t = some q' ∧
      D.Alike { d with queue := q } { d' with queue := q' } ∧
      q.worker = d.queue.worker ∧ q'.worker = d'.queue.worker := by
  refine ⟨_, _, if_neg (by simp [hd.accepting.1]), if_neg (by simp [hd.accepting.2]),
    ⟨hd.network, hd.opened, hd.going, hd.accepting, ?_, ?_⟩, rfl, rfl⟩
  · simp [hd.waiting, List.filter_append, ho]
  · exact fun x hx => (List.mem_append.mp hx).elim (hd.allowed x)
      fun hx => List.mem_singleton.mp hx ▸ ha

/-- Another operation comes into one queue alone. -/
theorem Alike.accept_other (hd : D.Alike d d') {t : Task τ} (ha : D.allowed (.submit t))
    (ho : D.own (.submit t) = false) :
    ∃ q, d.queue.accept? t = some q ∧ D.Alike { d with queue := q } d' ∧
      q.worker = d.queue.worker := by
  refine ⟨_, if_neg (by simp [hd.accepting.1]),
    ⟨hd.network, hd.opened, hd.going, hd.accepting, ?_, ?_⟩, rfl⟩
  · simp [hd.waiting, List.filter_append, ho]
  · exact fun x hx => (List.mem_append.mp hx).elim (hd.allowed x)
      fun hx => List.mem_singleton.mp hx ▸ ha

/-- An own act is done in both exchanges, unless it waits for somebody else to leave. -/
theorem own_step (ho : o.Records) (ha : D.Own a) (hd : D.Alike d d')
    (free : d.holder = none → d'.holder = none) (he : execute o k a d = some (e, acts)) :
    ∃ e', execute o k a d' = some (e', acts) ∧ D.Alike e e' ∧ (∀ b ∈ acts, D.Own b) ∧
      e.queue.worker = d.queue.worker ∧ e'.queue.worker = d'.queue.worker := by
  cases ha with
  | request ha hown =>
    obtain ⟨e', he', hal, hb, hq, hq'⟩ := own_ask ho ha hown hd he
    exact ⟨e', he', hal, hb, congrArg _ hq, congrArg _ hq'⟩
  | route ha hown =>
    simp only [execute, hd.opened.1, hd.opened.2] at he ⊢
    cases he
    refine ⟨d', rfl, hd, fun b hb => ?_, rfl, rfl⟩
    rw [List.mem_singleton.mp hb]
    exact .offer ha hown
  | offer ha hown =>
    simp only [execute, hd.going.1, hd.going.2] at he ⊢
    cases he
    refine ⟨d', rfl, hd, fun b hb => ?_, rfl, rfl⟩
    rw [List.mem_singleton.mp hb]
    exact .enqueue ha hown
  | enqueue ha hown =>
    obtain ⟨q, q', hq, hq', hal, hw, hw'⟩ := hd.accept_own ha hown
    simp only [execute, hq, hq'] at he ⊢
    cases he
    exact ⟨_, rfl, hal, List.forall_mem_nil _, hw, hw'⟩
  | @enter e ha hown =>
    obtain ⟨m, hm⟩ := remit_of_errand ha
    have hopen : (e.needsOpen && d.closed) = false := by rw [hd.opened.1, Bool.and_false]
    have hopen' : (e.needsOpen && d'.closed) = false := by rw [hd.opened.2, Bool.and_false]
    simp only [execute, hopen, hopen'] at he ⊢
    split at he
    · cases he
    · -- whoever can enter in the one exchange can do so in the other
      next hfree =>
      cases he
      rw [free (by simpa using hfree)]
      refine ⟨{ d' with holder := some k }, rfl, hd.congr hd.network ⟨rfl, rfl⟩ ⟨rfl, rfl⟩,
        fun b hb => ?_, rfl, rfl⟩
      rw [List.mem_singleton.mp hb]
      exact .inside [] ha hown hm (Errand.plan_confined hm)
  | inside held ha hown hm hp =>
    obtain ⟨e', he', hal, hb, hq, hq'⟩ := own_advance ha hown hm hp hd he
    exact ⟨e', he', hal, hb, congrArg _ hq, congrArg _ hq'⟩
  | deliver m =>
    simp only [execute] at he ⊢
    split at he
    · next sink _ =>
      obtain ⟨e', he', hal, hb, hq, hq'⟩ := own_consult (ho.signal sink m.signal) hd he
      exact ⟨e', he', hal, hb, congrArg _ hq, congrArg _ hq'⟩
    · cases he
      exact ⟨d', rfl, hd, List.forall_mem_nil _, rfl, rfl⟩
  | complete back status =>
    obtain ⟨e', he', hal, hb, hq, hq'⟩ := own_consult (ho.turn back (some status)) hd he
    exact ⟨e', he', hal, hb, congrArg _ hq, congrArg _ hq'⟩
  | resume back status =>
    obtain ⟨e', he', hal, hb, hq, hq'⟩ := own_consult (ho.turn back status) hd he
    exact ⟨e', he', hal, hb, congrArg _ hq, congrArg _ hq'⟩

/-- Another act is done in one exchange alone. -/
theorem other_step (ho : o.Records) (ha : D.Other a) (hd : D.Alike d d')
    (he : execute o k a d = some (e, acts)) :
    D.Alike e d' ∧ (∀ b ∈ acts, D.Other b) ∧ e.queue.worker = d.queue.worker := by
  cases ha with
  | request ha hoth =>
    obtain ⟨hal, hb, hq⟩ := other_ask ha hoth hd he
    exact ⟨hal, hb, congrArg _ hq⟩
  | route ha hoth =>
    simp only [execute, hd.opened.1] at he
    cases he
    refine ⟨hd, fun b hb => ?_, rfl⟩
    rw [List.mem_singleton.mp hb]
    exact .offer ha hoth
  | offer ha hoth =>
    simp only [execute, hd.going.1] at he
    cases he
    refine ⟨hd, fun b hb => ?_, rfl⟩
    rw [List.mem_singleton.mp hb]
    exact .enqueue ha hoth
  | enqueue ha hoth =>
    obtain ⟨q, hq, hal, hw⟩ := hd.accept_other ha hoth
    simp only [execute, hq] at he
    cases he
    exact ⟨hal, List.forall_mem_nil _, hw⟩
  | @enter e ha hoth =>
    obtain ⟨m, hm⟩ := remit_of_errand ha
    have hopen : (e.needsOpen && d.closed) = false := by rw [hd.opened.1, Bool.and_false]
    simp only [execute, hopen] at he
    split at he
    · cases he
    · cases he
      refine ⟨hd.congr hd.network ⟨rfl, rfl⟩ ⟨rfl, rfl⟩, fun b hb => ?_, rfl⟩
      rw [List.mem_singleton.mp hb]
      exact .inside ha hoth hm (Errand.plan_confined hm) (List.forall_mem_nil _)
  | inside ha hoth hm hp hh =>
    obtain ⟨hal, hb, hq⟩ := other_advance ha hoth hm hp hh hd he
    exact ⟨hal, hb, congrArg _ hq⟩
  | @deliver m =>
    simp only [execute] at he
    split at he
    · next sink _ =>
      obtain ⟨hal, hb, hq⟩ := other_consult (ho.signal sink m.signal) hd he
      exact ⟨hal, hb, congrArg _ hq⟩
    · cases he
      exact ⟨hd, List.forall_mem_nil _, rfl⟩
  | @complete back _ status =>
    obtain ⟨hal, hb, hq⟩ := other_consult (ho.turn back (some status)) hd he
    exact ⟨hal, hb, congrArg _ hq⟩
  | @resume back _ status =>
    obtain ⟨hal, hb, hq⟩ := other_consult (ho.turn back status) hd he
    exact ⟨hal, hb, congrArg _ hq⟩

end Division

end Exchange

end Switchboard
