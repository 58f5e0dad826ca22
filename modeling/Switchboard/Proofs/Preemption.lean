import Switchboard.Proofs.Course
import Switchboard.Proofs.Exchange.Cancellation

/-!
# Cancelling before accepting

Once an endpoint has been rejected or disconnected, or everything has been stopped, no connection to
it is accepted any more as long as its relation lasts, whether the acceptance was queued before or
comes later (`cancel_preempts_accept`). The flag of a related endpoint is there to be raised, and it
stays raised until the relation has ended (`tended_step`, `condemned_step`).
-/

namespace Switchboard

namespace Session

/-- Flags are in order, connections stand for relations, and the endpoint has a flag if it is
related. -/
structure Tended (s : Session) (id : EndpointId) : Prop where
  sound : s.flags.Sound
  proper : s.Proper
  flagged : s.isRelated id = true → s.isFlagged id = true

/-- There is no connection to the endpoint, or it is cancelled. -/
def Condemned (s : Session) (id : EndpointId) : Prop :=
  s.connections.get? id = none ∨ s.isCancelled id = true

variable {s : Session} {id : EndpointId} {h : SessionHook Listener}

theorem Condemned.isCancelled (hc : s.Condemned id) (hr : s.isRelated id = true) :
    s.isCancelled id = true := by
  obtain ⟨e, he, _⟩ := isRelated_iff.mp hr
  exact hc.resolve_left fun hn => by rw [he] at hn; cases hn

theorem tended_apply (ht : s.Tended id) (hr : h ≠ .removeFlag id) : (h.apply s).1.Tended id where
  sound := sound_apply h ht.sound
  proper := proper_apply h ht.proper
  flagged := (minds_apply hr s).isFlagged ht.proper ht.flagged

/-- Only a connection that is reported comes into being. -/
theorem get?_apply_eq_none (hi : ∀ info l, h ≠ .connectionInitiated id info l)
    (hn : s.connections.get? id = none) : (h.apply s).1.connections.get? id = none := by
  cases h with
  | connectionInitiated id' info l =>
    have hne : id' ≠ id := fun he => hi info l (he ▸ rfl)
    simp only [SessionHook.apply, connectionInitiated]
    split
    · exact hn
    · exact (Directory.get?_insert_of_ne _ hne _).trans hn
  | localAccepted id' l =>
    simp only [SessionHook.apply, get?_localAccepted]
    split <;> simp_all
  | localRejected id' =>
    simp only [SessionHook.apply, get?_localRejected]
    split <;> simp_all
  | connectionAccepted id' =>
    simp only [SessionHook.apply, get?_connectionAccepted]
    split <;> simp_all
  | connectionRejected id' status =>
    simp only [SessionHook.apply, connectionRejected, get?_endConnection]
    split <;> simp_all
  | disconnected id' =>
    simp only [SessionHook.apply, disconnected, get?_endConnection]
    split <;> simp_all
  | reset => rfl
  | _ => exact hn

/-- A cancelled endpoint stays cancelled if it stays connected and keeps its flag; whoever reports a
new connection to it while it has one only replaces that connection. -/
theorem condemned_apply (hs : s.flags.Sound) (hc : s.Condemned id) (hr : h ≠ .removeFlag id)
    (hi : s.connections.get? id = none → ∀ info l, h ≠ .connectionInitiated id info l) :
    (h.apply s).1.Condemned id := by
  rcases hc with hn | hc
  · exact .inl (get?_apply_eq_none (hi hn) hn)
  · rcases minds_apply hr s with hn | ⟨hf, _⟩
    · exact .inl hn
    · exact .inr ((isCancelled_apply h hs id).mpr (.inl ⟨hc, hf (isFlagged_of_isCancelled hc)⟩))

end Session

namespace Course

variable {c : Course} {s : SessionName} {id : EndpointId} {h : Happening}

/-! ## One happening -/

/-- The flag is removed by hand, or by a body that finds no relation and leaves it so. -/
theorem of_removeFlag (hm : .removeFlag id ∈ c.reports s h)
    (hh : h ≠ .hook (.session s (.removeFlag id))) :
    (c.network.session s).isRelated id = false ∧ ∀ r ∈ c.reports s h, r.isFlagWork = true := by
  cases h with
  | submit u =>
    simp only [reports] at hm
    cases hu : u.operation <;> simp_all [Operation.preparing]
  | work =>
    simp only [reports] at hm ⊢
    cases hw : c.waiting with
    | nil => simp [hw] at hm
    | cons u rest =>
      simp only [hw] at hm ⊢
      split at hm
      · next hu =>
        rw [if_pos hu]
        exact Operation.not_related_of_removeFlag hm
      · cases hm
  | listen k service l options =>
    simp only [reports] at hm
    split at hm
    · grind [Operation.listening, Operation.called]
    · cases hm
  | unlisten k => simp [reports] at hm
  | hook h =>
    cases h with
    | transport => cases hm
    | session k h =>
      simp only [reports] at hm
      split at hm <;> simp_all

/-- Of an endpoint that is related already only the code outside reports a connection. -/
theorem of_initiates {info : ResponseInfo} {l : Option Listener}
    (hm : .connectionInitiated id info l ∈ c.reports s h)
    (hr : (c.network.session s).isRelated id = true) :
    h = .hook (.session s (.connectionInitiated id info l)) := by
  cases h with
  | submit u =>
    simp only [reports] at hm
    cases hu : u.operation <;> simp_all [Operation.preparing]
  | work =>
    simp only [reports] at hm
    cases hw : c.waiting with
    | nil => simp [hw] at hm
    | cons u rest =>
      simp only [hw] at hm
      split at hm
      · rw [Operation.not_related_of_initiates hm] at hr
        cases hr
      · cases hm
  | listen k service l options =>
    simp only [reports] at hm
    split at hm
    · grind [Operation.listening, Operation.called]
    · cases hm
  | unlisten k => simp [reports] at hm
  | hook h =>
    cases h with
    | transport => cases hm
    | session k h =>
      simp only [reports] at hm
      split at hm <;> simp_all

theorem tended_step (ht : (c.network.session s).Tended id)
    (hh : h ≠ .hook (.session s (.removeFlag id))) :
    ((c.step h).1.network.session s).Tended id := by
  rw [session_step]
  by_cases hm : .removeFlag id ∈ c.reports s h
  · obtain ⟨hn, hf⟩ := of_removeFlag hm hh
    have hlast := SessionHook.applyAll_keeps (c.reports s h)
      (P := fun x => x.flags.Sound ∧ x.Proper ∧ x.isRelated id = false)
      (fun x hx r hr => ⟨Session.sound_apply r hx.1, Session.proper_apply r hx.2.1,
        (Session.isRelated_congr (SessionHook.connections_apply (hf r hr) x) id).trans hx.2.2⟩)
      ⟨ht.sound, ht.proper, hn⟩
    exact ⟨hlast.1, hlast.2.1, fun hr => by rw [hlast.2.2] at hr; cases hr⟩
  · exact SessionHook.applyAll_keeps _ (P := (Session.Tended · id))
      (fun x hx r hr => Session.tended_apply hx fun he => hm (he ▸ hr)) ht

/-- As long as it is related, a cancelled endpoint stays cancelled. -/
theorem condemned_step (ht : (c.network.session s).Tended id)
    (hr : (c.network.session s).isRelated id = true)
    (hc : (c.network.session s).isCancelled id = true)
    (hh : h ≠ .hook (.session s (.removeFlag id))) :
    ((c.step h).1.network.session s).Condemned id := by
  rw [session_step]
  by_cases hi : ∃ info l, h = .hook (.session s (.connectionInitiated id info l))
  · obtain ⟨info, l, rfl⟩ := hi
    rw [reports, if_pos rfl]
    obtain ⟨e, he, _⟩ := Session.isRelated_iff.mp hr
    exact Session.condemned_apply ht.sound (.inr hc) (fun he => by cases he)
      fun hn => by rw [he] at hn; cases hn
  · have hlast := SessionHook.applyAll_keeps (c.reports s h)
      (P := fun x => x.flags.Sound ∧ x.Condemned id)
      (fun x hx r hm => ⟨Session.sound_apply r hx.1, Session.condemned_apply hx.1 hx.2
        (fun he => by
          rw [(of_removeFlag (he ▸ hm) hh).1] at hr
          cases hr)
        fun _ info l he => hi ⟨info, l, of_initiates (he ▸ hm) hr⟩⟩)
      ⟨ht.sound, .inr hc⟩
    exact hlast.2

/-! ## Courses -/

theorem tended_run {hs : List Happening} (hn : .hook (.session s (.removeFlag id)) ∉ hs)
    (ht : (c.network.session s).Tended id) : ((c.run hs).1.network.session s).Tended id := by
  induction hs generalizing c with
  | nil => exact ht
  | cons h hs ih =>
    obtain ⟨hh, hn⟩ := List.ne_and_not_mem_of_not_mem_cons hn
    exact ih hn (tended_step ht (Ne.symm hh))

/-- A cancelled endpoint stays cancelled as long as its relation lasts. -/
theorem isCancelled_run {hs : List Happening} (hn : .hook (.session s (.removeFlag id)) ∉ hs)
    (ht : (c.network.session s).Tended id) (hc : (c.network.session s).isCancelled id = true)
    (hr : ∀ ks, ks <+: hs → ((c.run ks).1.network.session s).isRelated id = true) :
    ((c.run hs).1.network.session s).isCancelled id = true := by
  induction hs generalizing c with
  | nil => exact hc
  | cons h hs ih =>
    obtain ⟨hh, hn⟩ := List.ne_and_not_mem_of_not_mem_cons hn
    have ht' := tended_step ht (Ne.symm hh)
    have hr' : ∀ ks, ks <+: hs → (((c.step h).1.run ks).1.network.session s).isRelated id = true :=
      fun ks hk => hr (h :: ks) (List.cons_prefix_cons.mpr ⟨rfl, hk⟩)
    refine ih hn ht' ?_ hr'
    exact (condemned_step ht (hr [] List.nil_prefix) hc (Ne.symm hh)).isCancelled
      (hr' [] List.nil_prefix)

theorem tended_opening (clients : List (SessionName × UInt64))
    (farewells : List (SessionName × EndpointId)) :
    ((opening clients farewells).network.session s).Tended id := by
  obtain ⟨i, hi⟩ := Exchange.Chronicle.session_opening clients farewells s
  show ((Exchange.Chronicle.opening clients farewells).session s).Tended id
  rw [hi]
  exact ⟨FlagBoard.sound_empty, nofun, nofun⟩

/-- Whoever ends a relation raises the flag it finds. -/
theorem isCancelled_submit {u : Submission} (ht : (c.network.session s).Tended id)
    (hr : (c.network.session s).isRelated id = true) (hs : u.session = s)
    (hop : Exchange.Chronicle.EndsRelation id u.operation) :
    ((c.submit u).network.session s).isCancelled id = true := by
  have hf := ht.flagged hr
  have hcancels : ∀ r : SessionHook Listener, r.Cancels id (c.network.session s) →
      ((r.apply (c.network.session s)).1).isCancelled id = true := fun r hc =>
    (Session.isCancelled_apply r ht.sound id).mpr (.inr ⟨hc, hf⟩)
  show ((c.network.setSession _ _).session s).isCancelled id = true
  rw [hs, Network.session_setSession_self]
  rcases hop with hop | hop | hop <;> rw [hop]
  · exact hcancels (.cancel id) rfl
  · exact hcancels (.cancel id) rfl
  · exact hcancels .cancelAll trivial

/-- While the endpoint is cancelled nothing comes of accepting a connection to it. -/
theorem accept_cancelled {n : Network} (hc : (n.session s).isCancelled id = true) (l : Listener) :
    (Operation.body s (.acceptConnection id l)).run n =
      ((Operation.refusal? (n.session s) id).getD .endpointIoError, n, []) := by
  refine (Operation.run_answerGuard id _).trans ?_
  cases Operation.refusal? (n.session s) id with
  | some status => rfl
  | none =>
    show Plan.run (if (n.session s).isCancelled id then _ else _) n = _
    rw [if_pos hc]
    rfl

theorem refusal_or_error (x : Session) (id : EndpointId) :
    (Operation.refusal? x id).getD .endpointIoError ∈
      [.endpointIoError, .outOfOrderApiCall, .alreadyConnectedToEndpoint] := by
  unfold Operation.refusal?
  split
  · decide
  · split <;> decide

/-- When an operation that ends relations is submitted while the endpoint is related, the endpoint
is cancelled, and stays so as long as the relation lasts, whatever happens and is reported, unless
somebody removes its flag by hand. Meanwhile nothing comes of accepting a connection to it: the
transport is not called, nothing changes, and the outcome is one of three errors. -/
theorem cancel_preempts_accept (clients : List (SessionName × UInt64))
    (farewells : List (SessionName × EndpointId)) (early later : List Happening) (s : SessionName)
    (id : EndpointId) (u : Submission) (hs : u.session = s)
    (hop : Exchange.Chronicle.EndsRelation id u.operation)
    (hn : .hook (.session s (.removeFlag id)) ∉ early ++ later) :
    let c := ((opening clients farewells).run early).1
    let e := ((c.submit u).run later).1
    (c.network.session s).isRelated id = true →
    (∀ ks, ks <+: later → (((c.submit u).run ks).1.network.session s).isRelated id = true) →
    (e.network.session s).isCancelled id = true ∧
      ∀ l rest, e.waiting = ⟨s, .acceptConnection id l⟩ :: rest →
        ∃ status ∈ [Status.endpointIoError, .outOfOrderApiCall, .alreadyConnectedToEndpoint],
          e.step .work = ({ e with waiting := rest }, { status := some status }) := by
  intro c e hr hlast
  rw [List.mem_append, not_or] at hn
  have ht := tended_run hn.1 (tended_opening (s := s) clients farewells)
  have ht' : ((c.submit u).network.session s).Tended id :=
    tended_step (h := .submit u) ht nofun
  have hc := isCancelled_run hn.2 ht' (isCancelled_submit ht hr hs hop) hlast
  refine ⟨hc, fun l rest hw => ⟨_, refusal_or_error (e.network.session s) id, ?_⟩⟩
  simp only [step, hw, carry]
  rw [accept_cancelled hc]

/-- An acceptance waits in the queue when its endpoint is rejected; then the endpoint asks for a
connection once more. -/
theorem accept_preempted :
    let id : EndpointId := ⟨"EP01"⟩
    let c := ((opening [("A", 1)] []).run
      [.hook (.session "A" (.startedAdvertising "svc" {})), .hook (.session "A" (.incoming id [])),
        .submit ⟨"A", .acceptConnection id {}⟩]).1
    let e := ((c.submit ⟨"A", .rejectConnection id⟩).run
      [.hook (.session "A" (.incoming id []))]).1
    (e.network.session "A").isCancelled id = true ∧ (e.network.session "A").isPending id = true ∧
      e.waiting = [⟨"A", .acceptConnection id {}⟩, ⟨"A", .rejectConnection id⟩] ∧
      ∃ status ∈ [Status.endpointIoError, .outOfOrderApiCall, .alreadyConnectedToEndpoint],
        e.step .work =
          ({ e with waiting := [⟨"A", .rejectConnection id⟩] }, { status := some status }) := by
  intro id c e
  have h := cancel_preempts_accept [("A", 1)] []
    [.hook (.session "A" (.startedAdvertising "svc" {})), .hook (.session "A" (.incoming id [])),
      .submit ⟨"A", .acceptConnection id {}⟩] [.hook (.session "A" (.incoming id []))] "A" id
    ⟨"A", .rejectConnection id⟩ rfl (.inr (.inl rfl)) (by decide) (by decide +kernel) ?_
  · exact ⟨h.1, by decide +kernel, rfl, h.2 {} _ rfl⟩
  · intro ks hk
    rcases List.prefix_cons_iff.mp hk with rfl | ⟨t, rfl, ht⟩
    · decide +kernel
    · rw [List.prefix_nil.mp ht]
      decide +kernel

end Course

end Switchboard
