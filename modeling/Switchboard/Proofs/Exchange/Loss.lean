import Switchboard.Proofs.Exchange.Cancellation
import Switchboard.Proofs.Teardown.Disturbed

/-!
# Losing a connection

A connection is lost if it goes without its listener being told. Stopping all endpoints loses no
connection that was there when its body began, whatever is reported meanwhile, but its reset loses
those that have been initiated since the body looked (`teardown_dismisses`, `teardown_loses`).
-/

namespace Switchboard

variable {τ υ : Type}

/-- The act brings the report to the session. -/
def Act.Conveys (s : SessionName) (h : SessionHook Listener) (a : Act τ) : Prop :=
  a = .request (.hook (.session s h)) ∨
    ∃ e next held, a = .inside e (.act (fun n => n.onSession s (fun x => h.apply x)) next) held

namespace Exchange

namespace Moment

/-- A report to the session has the listener told something about a connection. -/
def Tells (s : SessionName) (l : Listener) (e : ConnectionEvent) (m : Moment τ υ) : Prop :=
  ∃ h, m.act.Conveys s h ∧ .connection l e ∈ (h.apply (m.before.network.session s)).2

/-- The listener is told that a connection to the endpoint has been initiated. -/
def Opens (s : SessionName) (id : EndpointId) (l : Listener) (m : Moment τ υ) : Prop :=
  ∃ info, m.Tells s l (.initiated id info)

/-- The listener is told that its connection to the endpoint is over. -/
def Ends (s : SessionName) (id : EndpointId) (l : Listener) (m : Moment τ υ) : Prop :=
  ∃ e, e.IsEnd id ∧ m.Tells s l e

/-- The listener's connection to the endpoint goes. -/
def Drops (s : SessionName) (id : EndpointId) (l : Listener) (m : Moment τ υ) : Prop :=
  (m.before.network.session s).Attends id l ∧ ¬ (m.after.network.session s).Attends id l

/-- The listener's connection to the endpoint goes, and the listener is not told. -/
def Loses (s : SessionName) (id : EndpointId) (l : Listener) (m : Moment τ υ) : Prop :=
  m.Drops s id l ∧ ¬ m.Ends s id l

end Moment

/-! ## One step -/

section Step

variable {o : Outside τ υ} {me : Nat} {d d' : Desk τ υ} {act : Act τ} {acts : List (Act τ)}
  {s : SessionName} {id : EndpointId} {l : Listener}

/-- Apart from reports nothing is done to connections. -/
theorem conveys_step (h : Effect o me d act d' acts)
    (hc : ∀ e plan held, act = .inside e plan held →
      ∃ k l, plan.Follows (Conduct e.own) k l) (s : SessionName) :
    (d'.network.session s).connections = (d.network.session s).connections ∨
      ∃ h, act.Conveys s h ∧ d'.network.session s = (h.apply (d.network.session s)).1 := by
  cases h with
  | submit t =>
    refine .inl ?_
    rw [Network.session_setSession]
    split
    · next ht =>
      subst ht
      cases t.operation <;> rfl
    · rfl
  | hook h =>
    cases h with
    | transport hook => exact .inl rfl
    | session name hook =>
      by_cases hn : name = s
      · subst hn
        exact .inr ⟨hook, .inl rfl, Network.session_setSession_self ..⟩
      · exact .inl (congrArg _ ((Network.session_setSession ..).trans (if_neg hn)))
  | act e change next held =>
    obtain ⟨p, q, hf⟩ := hc e _ held rfl
    cases hf with
    | act hc _ =>
      cases hc with
      | report _ name hook hm =>
        by_cases hn : name = s
        · subst hn
          exact .inr ⟨hook, .inr ⟨e, next, held, rfl⟩, Network.session_setSession_self ..⟩
        · exact .inl (congrArg _ ((Network.session_setSession ..).trans (if_neg hn)))
      | arm _ name id _ | rollBack name id _ =>
        refine .inl ?_
        show ((d.network.setSession name _).session s).connections = _
        rw [Network.session_setSession]
        split
        · next hn => simp [hn]
        · rfl
      | _ => exact .inl rfl
  | _ => exact .inl rfl

theorem session_of_conveys (h : Effect o me d act d' acts) {hook : SessionHook Listener}
    (ha : act.Conveys s hook) :
    d'.network.session s = (hook.apply (d.network.session s)).1 := by
  rcases ha with rfl | ⟨e, next, held, rfl⟩ <;> cases h <;>
    exact Network.session_setSession_self ..

/-- The moment is one step of an exchange, and whoever is inside conducts itself. -/
def Moment.Lawful (o : Outside τ υ) (m : Moment τ υ) : Prop :=
  (∃ acts, Effect o m.member m.before m.act m.after acts) ∧
    ∀ e plan held, m.act = .inside e plan held → ∃ k l, plan.Follows (Conduct e.own) k l

namespace Moment.Lawful

variable {m : Moment τ υ}

theorem fate (h : m.Lawful o) (s : SessionName) (id : EndpointId) :
    Session.Fate (m.before.network.session s) (m.after.network.session s) id (m.Tells s)
      (m.act.Conveys s .reset) := by
  obtain ⟨⟨acts, he⟩, hc⟩ := h
  rcases conveys_step he hc s with heq | ⟨hook, ha, heq⟩
  · exact .of_eq (by rw [heq])
  · rw [heq]
    exact (Session.fate_apply hook (m.before.network.session s) id).imp
      (fun l e he => ⟨hook, ha, he⟩) fun hr => hr ▸ ha

theorem attends_of_opens (h : m.Lawful o) (hm : m.Opens s id l) :
    (m.after.network.session s).Attends id l := by
  obtain ⟨⟨acts, he⟩, _⟩ := h
  obtain ⟨info, hook, ha, ht⟩ := hm
  rw [session_of_conveys he ha]
  exact Session.attends_of_initiated ht

theorem of_loses (h : m.Lawful o) (hm : m.Loses s id l) :
    m.act.Conveys s .reset ∨ ∃ l', l' ≠ l ∧ m.Opens s id l' := by
  obtain ⟨⟨hb, ha⟩, hn⟩ := hm
  rcases (h.fate s id).of_not_attends hb ha with he | hr | ⟨l', info, hl, ht⟩
  · exact absurd he hn
  · exact .inl hr
  · exact .inr ⟨l', hl, info, ht⟩

/-- As long as nobody initiates the connection, nobody outside the transport disturbs whoever is
inside. -/
theorem quiet (h : m.Lawful o) (hi : m.act.isInside = false) (hn : ¬ m.Opens s id l) :
    Quiet s id l m.before.network m.after.network where
  history := by
    obtain ⟨⟨acts, he⟩, _⟩ := h
    exact (sameCalls_step he hi).history
  attends ha := ((h.fate s id).of_attends ha).resolve_left hn

/-- What is emitted when the connection goes is told on behalf of the session. -/
theorem tells_of_emitted (h : m.Lawful o) {e : Errand τ}
    {change : Network → Network × List Emission} {next : Job Status} {held : List Emission}
    (hact : m.act = .inside e (.act change next) held) (hd : m.Drops s id l) {x : ConnectionEvent}
    (hx : .connection l x ∈ (change m.before.network).2) : m.Tells s l x := by
  obtain ⟨k, act, d, d'⟩ := m
  obtain ⟨⟨acts, he⟩, hc⟩ := h
  have he : Effect o k d act d' acts := he
  cases hact
  obtain ⟨p, q, hf⟩ := hc e _ held rfl
  cases hf with
  | act hc _ =>
    cases hc with
    | report _ name hook _ =>
      by_cases hn : name = s
      · subst hn
        exact ⟨hook, .inr ⟨e, next, held, rfl⟩, hx⟩
      · cases he
        have hsame : ((d.network.onSession name (fun x => hook.apply x)).1.session s) =
            d.network.session s := (Network.session_setSession ..).trans (if_neg hn)
        exact absurd (hsame ▸ hd.1) hd.2
    | _ => cases hx

end Moment.Lawful

end Step

namespace Chronicle

/-! ## Runs -/

theorem lawful_note {o : Outside τ υ} {c : Chronicle τ υ} {member : Nat} {act : Act τ}
    {rest acts : List (Act τ)} {d : Desk τ υ} (h : c.Orderly) (ha : c.agenda member = act :: rest)
    (he : Effect o member c.shared act d acts) : Moment.Lawful o ⟨member, act, c.shared, d⟩ := by
  refine ⟨⟨acts, he⟩, fun e plan held hact => ?_⟩
  obtain ⟨k, _, hf⟩ := h.held member e plan held rest (hact ▸ ha)
  exact ⟨k, e.last, hf⟩

theorem lawful_play (o : Outside τ υ) (sessions : Directory SessionName Session)
    (farewells : List (SessionName × EndpointId)) (outside : υ) (callers : Nat)
    (moves : List (Move τ)) :
    ∀ m : Moment τ υ,
      m ∈ ((start ⟨sessions, { farewells := farewells }⟩ outside callers).play o moves).moments →
        m.Lawful o := by
  refine forall_moments o (P := Orderly) (fun {c member act rest acts d} h ha he => ?_)
    (fun caller r h => orderly_ask caller r h) (orderly_start sessions farewells outside callers)
    rfl moves
  exact ⟨orderly_note h ha (execute_effect he), lawful_note h ha (execute_effect he)⟩

/-- Whoever attends to an endpoint does so until the connection goes. -/
theorem drops_of_linked {d d' : Desk τ υ} {moments : List (Moment τ υ)} {s : SessionName}
    {id : EndpointId} {l : Listener} (hl : Linked d moments d')
    (ha : (d.network.session s).Attends id l) :
    (d'.network.session s).Attends id l ∨ ∃ m ∈ moments, m.Drops s id l := by
  induction moments generalizing d with
  | nil =>
    cases hl
    exact .inl ha
  | cons m ms ih =>
    obtain ⟨rfl, hl⟩ := hl
    by_cases hm : (m.after.network.session s).Attends id l
    · exact (ih hl hm).imp_right fun ⟨x, hx, hd⟩ => ⟨x, List.mem_cons_of_mem _ hx, hd⟩
    · exact .inr ⟨m, List.mem_cons_self, ha, hm⟩

section Withstanding

variable {c : Chronicle τ υ} {member k : Nat} {act : Act τ} {rest acts : List (Act τ)}
  {o : Outside τ υ} {d : Desk τ υ} {e : Errand τ} {R : Network → Network → Prop}
  {G : Network → Network × List Emission → Prop} {Q : Status → Network → Prop}

/-- Member `k` is on its errand inside the transport with a plan that withstands what `R` does. -/
def Withstanding (R : Network → Network → Prop) (G : Network → Network × List Emission → Prop)
    (Q : Status → Network → Prop) (k : Nat) (e : Errand τ) (c : Chronicle τ υ) : Prop :=
  ∃ plan held rest, c.agenda k = .inside e plan held :: rest ∧
    plan.Withstands R G Q c.shared.network

theorem withstanding_ask (caller : Nat) (q : Request τ) (h : c.Withstanding R G Q k e) :
    (c.ask caller q).Withstanding R G Q k e := by
  obtain ⟨plan, held, rest, ha, hw⟩ := h
  rcases agenda_give c (caller + 1) [.request q] k with hk | hk
  · exact ⟨plan, held, rest, hk.trans ha, hw⟩
  · exact ⟨plan, held, rest ++ [.request q], by rw [hk, ha]; rfl, hw⟩

/-- The holder goes on with its plan, and the others do what it withstands. -/
theorem withstanding_note (refl : ∀ n, R n n) (trans : ∀ {n₁ n₂ n₃}, R n₁ n₂ → R n₂ n₃ → R n₁ n₃)
    (h : c.Withstanding R G Q k e) (ha : c.agenda member = act :: rest)
    (he : Effect o member c.shared act d acts) (hl : act.leaves = false)
    (hr : member ≠ k → R c.shared.network d.network) :
    Withstanding R G Q k e (c.note member act d (acts ++ rest)) := by
  obtain ⟨plan, held, rest', hk, hw⟩ := h
  by_cases hm : member = k
  · subst hm
    rw [hk] at ha
    cases ha
    obtain ⟨plan', held', hacts⟩ := stays_step he hl
    refine ⟨plan', held', rest, ?_, withstands_step refl hw he hacts⟩
    rw [agenda_note_self hk, hacts]
    rfl
  · exact ⟨plan, held, rest', by rw [agenda_note ha, if_neg (Ne.symm hm), hk],
      hw.rely (R := R) @trans (hr hm)⟩

/-- Whoever is inside and withstands takes its steps on its errand, and each change as `G` wants
it. -/
def Guarantees (G : Network → Network × List Emission → Prop) (e : Errand τ) (m : Moment τ υ) :
    Prop :=
  (∃ plan held, m.act = .inside e plan held) ∧
    ∀ change next held, m.act = .inside e (.act change next) held →
      G m.before.network (change m.before.network)

theorem guarantees_of_withstanding (refl : ∀ n, R n n) (h : c.Withstanding R G Q k e)
    (ha : c.agenda k = act :: rest) (d : Desk τ υ) : Guarantees G e ⟨k, act, c.shared, d⟩ := by
  obtain ⟨plan, held, rest', hk, hw⟩ := h
  rw [ha] at hk
  cases hk
  refine ⟨⟨plan, held, rfl⟩, fun change next held' hact => ?_⟩
  cases hact
  exact (hw _ (refl _)).1

/-- The next thing the member does is to leave the transport. -/
def Leaving (k : Nat) (c : Chronicle τ υ) : Prop := (c.agenda k).head?.any Act.leaves = true

theorem result_of_withstanding (refl : ∀ n, R n n) (h : c.Withstanding R G Q k e)
    (hl : c.Leaving k) : ∃ status held rest,
      c.agenda k = .inside e (.done status) held :: rest ∧ Q status c.shared.network := by
  obtain ⟨plan, held, rest, hk, hw⟩ := h
  unfold Leaving at hl
  rw [hk] at hl
  cases plan with
  | done status => exact ⟨status, held, rest, hk, hw _ (refl _)⟩
  | look | act | await => cases hl

/-- As long as the others do nothing that would disturb it, whoever is inside and withstands that
stays inside until it leaves, and guarantees what it does. -/
theorem withstanding_play (refl : ∀ n, R n n) (trans : ∀ {n₁ n₂ n₃}, R n₁ n₂ → R n₂ n₃ → R n₁ n₃)
    (disturbs : Moment τ υ → Prop) (rely : ∀ m : Moment τ υ, m.Lawful o → m.act.isInside = false →
      ¬ disturbs m → R m.before.network m.after.network) (hc : c.Orderly)
    (h : c.Withstanding R G Q k e) (moves : List (Move τ)) :
    ∃ since, (c.play o moves).moments = c.moments ++ since ∧
      ((∀ m ∈ since, m.act.leaves = false) →
        ((∀ m ∈ since, ¬ disturbs m) → (c.play o moves).Withstanding R G Q k e) ∧
        ∀ past m later, since = past ++ m :: later → m.member = k → (∀ m' ∈ past, ¬ disturbs m') →
          Guarantees G e m) := by
  refine since_induction o (P := fun b since => (∀ m ∈ since, m.act.leaves = false) →
      ((∀ m ∈ since, ¬ disturbs m) → b.Withstanding R G Q k e) ∧
      ∀ past m later, since = past ++ m :: later → m.member = k → (∀ m' ∈ past, ¬ disturbs m') →
        Guarantees G e m) ?_ ?_ hc (fun _ => ⟨fun _ => h, ?_⟩) moves
  · intro b since member act rest acts d hb hin ha he hl
    obtain ⟨hin, hdone⟩ := hin fun m hm => hl m (List.mem_append_left _ hm)
    refine ⟨fun hn => ?_, fun past m later heq hk hn => ?_⟩
    · have hb' := hin fun m hm => hn m (List.mem_append_left _ hm)
      have hlast : (⟨member, act, b.shared, d⟩ : Moment τ υ) ∈ since ++ [_] :=
        List.mem_append_right since (List.mem_singleton_self _)
      have ⟨_, _, _, hk, _⟩ := hb'
      exact withstanding_note refl trans hb' ha he (hl _ hlast) fun hm =>
        rely _ (lawful_note hb ha he) (hb.exclusive.not_inside hk ha hm) (hn _ hlast)
    · rcases concat_eq_append_cons heq with ⟨_, rfl, rfl⟩ | ⟨later, _, heq⟩
      · cases hk
        exact guarantees_of_withstanding refl (hin hn) ha d
      · exact hdone past m later heq hk hn
  · exact fun caller q _ hin hl => ⟨fun hn => withstanding_ask caller q ((hin hl).1 hn), (hin hl).2⟩
  · exact fun past m later heq => absurd heq.symm (by simp)

end Withstanding

/-! ## Teardowns -/

section Teardown

variable {o : Outside τ υ} {m : Moment τ υ} {s : SessionName} {id : EndpointId} {l : Listener}

/-- The listener is told that the connection is over, in the call that disconnects the endpoint. -/
def Dismissed (s : SessionName) (id : EndpointId) (l : Listener) (m : Moment τ υ) : Prop :=
  m.Ends s id l ∧
    m.before.network.transport.history.getLast? = some ⟨some s, .disconnectFromEndpoint id⟩

theorem dismissed_of_guarantees {e : Errand τ} (h : m.Lawful o)
    (hg : Guarantees (Dismisses s id l) e m) (hd : m.Drops s id l) : Dismissed s id l m := by
  obtain ⟨k, act, d, d'⟩ := m
  obtain ⟨⟨plan, held, rfl⟩, hg⟩ := hg
  have ⟨⟨acts, he⟩, _⟩ := h
  have he : Effect o k d _ d' acts := he
  cases he with
  | leave | look | await => exact absurd hd.1 hd.2
  | act _ change next =>
    obtain ⟨hcall, htold⟩ := hg change next held rfl hd.1 hd.2
    exact ⟨⟨_, .inl rfl, h.tells_of_emitted rfl hd htold⟩, hcall⟩

/-- What listeners have been told, oldest first. -/
def delivered (c : Chronicle τ υ) : List Emission :=
  c.moments.filterMap fun m =>
    match m.act with
    | .deliver e => some e
    | _ => none

/-- The outcomes that have been reported, oldest first. -/
def completed (c : Chronicle τ υ) : List Status :=
  c.moments.filterMap fun m =>
    match m.act with
    | .complete _ status => some status
    | _ => none

/-- What becomes of the connections of a session when all its endpoints are stopped, from the moment
its body is about to begin until it is about to leave the transport, whatever happens in between.
It succeeds. Every listener that was told of a connection has been told by then that it is over,
unless the connection has been lost or the listener has been told of it anew since the body began.
A connection is lost by resetting the session or when a new connection to its endpoint has another
listener. The body itself loses none but those initiated since it began: any other that it finds, it
ends in the call that disconnects the endpoint. -/
theorem teardown_dismisses (o : Outside τ υ) (clients : List (SessionName × UInt64))
    (farewells : List (SessionName × EndpointId)) (outside : υ) (callers : Nat)
    (moves more : List (Move τ)) (k : Nat) (s : SessionName) (back : τ) :
    let c := (start (opening clients farewells) outside callers).play o moves
    let e := c.play o more
    let during : List (Moment τ υ) := e.moments.drop c.moments.length
    ∀ rest, c.agenda k = .inside (.operation ⟨s, .stopAllEndpoints, back⟩)
        (Operation.body s .stopAllEndpoints) [] :: rest →
      (∀ m ∈ during, m.act.leaves = false) → e.Leaving k →
      (∃ held rest', e.agenda k =
        .inside (.operation ⟨s, .stopAllEndpoints, back⟩) (.done .success) held :: rest') ∧
      (∀ past (m : Moment τ υ) later id l, e.moments = past ++ m :: later → m.Opens s id l →
        (∃ m' ∈ later, m'.Ends s id l) ∨ (∃ m' ∈ later, m'.Loses s id l) ∨
          ∃ m' ∈ during, m'.Opens s id l) ∧
      (∀ m : Moment τ υ, m ∈ e.moments → ∀ id l, m.Loses s id l →
        m.act.Conveys s .reset ∨ ∃ l', l' ≠ l ∧ m.Opens s id l') ∧
      ∀ past m later id l, during = past ++ m :: later → m.member = k → m.Drops s id l →
        (∀ m' ∈ past, ¬ m'.Opens s id l) → Dismissed s id l m := by
  intro c e during rest hk hleave hdone
  have hc : c.Orderly := orderly_play o (orderly_start _ farewells outside callers) moves
  have hall : e = (start (opening clients farewells) outside callers).play o (moves ++ more) :=
    (play_append ..).symm
  have hlaw : ∀ m : Moment τ υ, m ∈ e.moments → m.Lawful o := by
    rw [hall]
    exact lawful_play o _ farewells outside callers (moves ++ more)
  obtain ⟨since, hsince, hin⟩ := withstanding_play (fun _ => trivial) (fun _ _ => trivial)
    (fun _ : Moment τ υ => False) (o := o) (fun _ _ _ _ => trivial) hc
    ⟨_, _, _, hk, Operation.body_stopAllEndpoints_succeeds s _⟩ more
  have hduring : during = since := by
    show e.moments.drop _ = since
    rw [show e.moments = _ from hsince, List.drop_left]
  have hquiet : ∀ id l,
      ((∀ m ∈ during, ¬ m.Opens s id l) → ¬ (e.shared.network.session s).Attends id l) ∧
      ∀ past m later, during = past ++ m :: later → m.member = k →
        (∀ m' ∈ past, ¬ m'.Opens s id l) → ∃ e, Guarantees (Dismisses s id l) e m := by
    intro id l
    obtain ⟨since', hsince', hin'⟩ := withstanding_play (o := o) .refl .trans
      (fun m => m.Opens s id l) (fun m h hi hn => h.quiet hi hn) hc
      ⟨_, _, _, hk, Operation.body_stopAllEndpoints_withstands _⟩ more
    have : since' = during := by
      rw [hduring]
      exact List.append_cancel_left (hsince'.symm.trans hsince)
    subst this
    obtain ⟨hw, hg⟩ := hin' hleave
    refine ⟨fun hn => ?_, fun past m later heq hm hn => ⟨_, hg past m later heq hm hn⟩⟩
    obtain ⟨_, _, _, _, hover⟩ := result_of_withstanding .refl (hw hn) hdone
    exact hover
  refine ⟨?_, fun past m later id l heq hm => ?_, fun m hm id l hl => (hlaw m hm).of_loses hl,
    fun past m later id l heq hm hd hn => ?_⟩
  · rw [hduring] at hleave
    obtain ⟨_, held, rest', ha, rfl⟩ :=
      result_of_withstanding (fun _ => trivial) ((hin hleave).1 fun _ _ h => h) hdone
    exact ⟨held, rest', ha⟩
  · have hlinked := linked_play o (c := start (opening clients farewells) outside callers) rfl
      (moves ++ more)
    rw [← hall, heq] at hlinked
    obtain ⟨_, _, _, hlinked⟩ := linked_append.mp hlinked
    have ha := (hlaw m (by rw [heq]; simp)).attends_of_opens hm
    rcases drops_of_linked hlinked ha with hlast | ⟨x, hx, hd⟩
    · refine .inr (.inr ?_)
      by_cases hn : ∀ m' ∈ during, ¬ m'.Opens s id l
      · exact absurd hlast ((hquiet id l).1 hn)
      · simpa using hn
    · by_cases hend : x.Ends s id l
      · exact .inl ⟨x, hx, hend⟩
      · exact .inr (.inl ⟨x, hx, hd, hend⟩)
  · obtain ⟨_, hg⟩ := (hquiet id l).2 past m later heq hm hn
    have hmem : m ∈ e.moments := by
      rw [show e.moments = _ from hsince, ← hduring, heq]
      simp
    exact dismissed_of_guarantees (hlaw m hmem) hg hd

open Sample in
/-- An endpoint that has asked for a connection before the body begins is dismissed. -/
theorem pending_dismissed :
    let c := run ([.ask 0 (.hook (.session "A" (.startedAdvertising "svc" {}))),
      .ask 0 (.hook (.session "A" (.incoming ⟨"EP01"⟩ [])))] ++ turns 1 3 ++
        submitting stopAll ++ turns 0 2)
    let e := c.play silent (turns 0 22)
    (c.shared.network.session "A").isPending ⟨"EP01"⟩ = true ∧
      ∀ (past : List (Moment Unit Unit)) (m : Moment Unit Unit) later id l,
        e.moments.drop c.moments.length = past ++ m :: later → m.member = 0 →
        m.Drops "A" id l → (∀ m' ∈ past, ¬ m'.Opens "A" id l) → Dismissed "A" id l m := by
  have h := teardown_dismisses silent [] [] () 1
    ([.ask 0 (.hook (.session "A" (.startedAdvertising "svc" {}))),
      .ask 0 (.hook (.session "A" (.incoming ⟨"EP01"⟩ [])))] ++ turns 1 3 ++
        submitting stopAll ++ turns 0 2) (turns 0 22) 0 "A" () [.finish, .work] rfl
    (by decide +kernel) (by unfold Leaving; decide +kernel)
  exact ⟨by decide +kernel, h.2.2.2⟩

open Sample in
/-- An endpoint asks for a connection while stopping all endpoints is inside its first call, after
both its looks. The operation succeeds and the endpoint is forgotten: its listener hears of the
connection and never of its end, and the transport is not asked to disconnect it. -/
theorem teardown_loses :
    let b := run (.ask 0 (.hook (.session "A" (.startedAdvertising "svc" {}))) :: turns 1 1 ++
      submitting stopAll ++ turns 0 6)
    let c := b.play silent
      (.ask 0 (.hook (.session "A" (.incoming ⟨"EP01"⟩ []))) :: turns 1 2 ++ turns 0 20)
    (b.shared.holder = some worker ∧ b.transport.history = [⟨some "A", .stopAdvertising⟩]) ∧
      c.completed = [.success] ∧
      c.delivered = [.connection {} (.initiated ⟨"EP01"⟩ (Transport.incomingInfo ⟨"EP01"⟩ []))] ∧
      c.transport.history =
        [⟨some "A", .stopAdvertising⟩, ⟨some "A", .stopDiscovery⟩, ⟨none, .shutdownUpgrades⟩] ∧
      (c.shared.network.session "A").isPending ⟨"EP01"⟩ = false := by
  exact ⟨⟨by decide +kernel, by decide +kernel⟩, by decide +kernel, by decide +kernel,
    by decide +kernel, by decide +kernel⟩

end Teardown

end Chronicle

end Exchange

end Switchboard
