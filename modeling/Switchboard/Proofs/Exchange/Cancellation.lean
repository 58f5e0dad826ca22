import Switchboard.Proofs.Exchange.Touch
import Switchboard.Proofs.Request

/-!
# Cancelling requests

A cancel raises the flag it finds, and that is all there is to remember it: the cancel is in force
as long as the flag stays registered (`Mindful`). A request that looks at its flag calls the
transport exactly if no cancel is in force by then (`request_calls_iff`), so a cancel holds for
every request of its endpoint unless the flag is unregistered before the request comes to look. Any
earlier body may do that, and a cancelled request among them does.
-/

namespace Switchboard

variable {τ υ : Type}

/-- The act raises the flag of the endpoint, if it has one. -/
def Act.Cancels (s : SessionName) (id : EndpointId) (n : Network) (a : Act τ) : Prop :=
  ∃ h, a.Handles s h ∧ h.Cancels id (n.session s)

/-- The holder leaves the transport. -/
def Act.leaves : Act τ → Bool
  | inside _ (.done _) _ => true
  | _ => false

theorem Act.leaves_of_outside {a : Act τ} (h : a.isInside = false) : a.leaves = false := by
  cases a <;> first | rfl | cases h

namespace Exchange

namespace Moment

def flaggedBefore (s : SessionName) (id : EndpointId) (m : Moment τ υ) : Bool :=
  (m.before.network.session s).isFlagged id

/-- The flag of the endpoint is no longer registered afterwards. -/
def Unflags (s : SessionName) (id : EndpointId) (m : Moment τ υ) : Prop :=
  m.flaggedBefore s id = true ∧ (m.after.network.session s).isFlagged id = false

end Moment

/-- Some cancel has found the endpoint's flag, which has stayed registered since. -/
def InForce (s : SessionName) (id : EndpointId) (moments : List (Moment τ υ)) : Prop :=
  ∃ past m since, moments = past ++ m :: since ∧ m.act.Cancels s id m.before.network ∧
    m.flaggedBefore s id = true ∧ ∀ m' ∈ since, ¬ m'.Unflags s id

theorem inForce_concat {s : SessionName} {id : EndpointId} {moments : List (Moment τ υ)}
    {m : Moment τ υ} : InForce s id (moments ++ [m]) ↔
      InForce s id moments ∧ ¬ m.Unflags s id ∨
        m.act.Cancels s id m.before.network ∧ m.flaggedBefore s id = true := by
  constructor
  · rintro ⟨past, x, since, heq, hc, hf, hs⟩
    rcases Chronicle.concat_eq_append_cons heq with ⟨_, rfl, rfl⟩ | ⟨since, rfl, rfl⟩
    · exact .inr ⟨hc, hf⟩
    · exact .inl ⟨⟨past, x, since, rfl, hc, hf, fun m' hm => hs m' (List.mem_append_left _ hm)⟩,
        hs m (List.mem_append_right _ List.mem_cons_self)⟩
  · rintro (⟨⟨past, x, since, rfl, hc, hf, hs⟩, hu⟩ | ⟨hc, hf⟩)
    · refine ⟨past, x, since ++ [m], by simp, hc, hf, fun m' hm => ?_⟩
      rcases List.mem_append.mp hm with hm | hm
      · exact hs m' hm
      · exact List.mem_singleton.mp hm ▸ hu
    · exact ⟨moments, m, [], rfl, hc, hf, fun m' hm => by cases hm⟩

/-! ## What a step remembers -/

section Step

variable {o : Outside τ υ} {me : Nat} {d d' : Desk τ υ} {act : Act τ} {acts : List (Act τ)}
  {name : SessionName} {s t : Session} {id : EndpointId}

theorem sound_touch (h : Touch act name s t) (hs : s.flags.Sound) : t.flags.Sound := by
  cases h with
  | none => exact hs
  | report hook _ | handle hook _ => exact Session.sound_apply hook hs
  | rollBack id _ => exact Session.sound_rollBack hs id

/-- Whoever is cancelled afterwards was and has kept its flag, or is so on purpose. -/
theorem isCancelled_touch (h : Touch act name s t) (hs : s.flags.Sound)
    (hc : t.isCancelled id = true) :
    s.isCancelled id = true ∧ t.isFlagged id = true ∨
      (∃ hook, act.Handles name hook ∧ hook.Cancels id s) ∧ s.isFlagged id = true := by
  cases h with
  | none => exact .inl ⟨hc, Session.isFlagged_of_isCancelled hc⟩
  | report hook hm =>
    refine .inl (((Session.isCancelled_apply hook hs id).mp hc).resolve_right fun h => ?_)
    exact hook.not_cancels hm id s h.1
  | handle hook ha =>
    exact ((Session.isCancelled_apply hook hs id).mp hc).imp_right fun h => ⟨⟨hook, ha, h.1⟩, h.2⟩
  | rollBack id' _ =>
    exact .inl (((Session.remembers_rollBack hs id' id).mp hc).resolve_right And.left)

/-- Whoever was cancelled and has kept its flag still is. -/
theorem isCancelled_of_touch (h : Touch act name s t) (hs : s.flags.Sound)
    (hc : s.isCancelled id = true) (hf : t.isFlagged id = true) : t.isCancelled id = true := by
  cases h with
  | none => exact hc
  | report hook _ | handle hook _ =>
    exact (Session.isCancelled_apply hook hs id).mpr (.inl ⟨hc, hf⟩)
  | rollBack id' _ => exact (Session.remembers_rollBack hs id' id).mpr (.inl ⟨hc, hf⟩)

theorem isCancelled_step (h : Effect o me d act d' acts)
    (ht : Touch act name (d.network.session name) (d'.network.session name))
    (hs : (d.network.session name).flags.Sound) :
    (d'.network.session name).isCancelled id = true ↔
      (d.network.session name).isCancelled id = true ∧
          (d'.network.session name).isFlagged id = true ∨
        act.Cancels name id d.network ∧ (d.network.session name).isFlagged id = true := by
  constructor
  · exact isCancelled_touch ht hs
  · rintro (⟨hc, hf⟩ | ⟨⟨hook, ha, hc⟩, hf⟩)
    · exact isCancelled_of_touch ht hs hc hf
    · rw [handles_step h ha]
      exact (Session.isCancelled_apply hook hs id).mpr (.inr ⟨hc, hf⟩)

/-- Whoever does not leave the transport goes on inside. -/
theorem stays_step {e : Errand τ} {plan : Job Status} {held : List Emission}
    (h : Effect o me d (.inside e plan held) d' acts)
    (hl : (Act.inside e plan held).leaves = false) :
    ∃ plan' held', acts = [.inside e plan' held'] := by
  cases h with
  | leave => cases hl
  | look | act | await => exact ⟨_, _, rfl⟩

end Step

namespace Chronicle

/-! ## What a run remembers -/

section Run

variable {c : Chronicle τ υ} {member : Nat} {act : Act τ} {rest acts : List (Act τ)}
  {o : Outside τ υ} {d : Desk τ υ} {s : SessionName} {id : EndpointId}

/-- The flags of a session remember the cancels that are in force. -/
structure Mindful (c : Chronicle τ υ) : Prop where
  orderly : c.Orderly
  sound : ∀ s, (c.shared.network.session s).flags.Sound
  cancelled : ∀ s id, (c.shared.network.session s).isCancelled id = true ↔ InForce s id c.moments

theorem mindful_note (h : c.Mindful) (ha : c.agenda member = act :: rest)
    (he : Effect o member c.shared act d acts) : Mindful (c.note member act d (acts ++ rest)) := by
  have ht := h.orderly.touch ha he
  refine ⟨orderly_note h.orderly ha he, fun s => sound_touch (ht s) (h.sound s), fun s id => ?_⟩
  have hs := h.sound s
  rw [moments_note, inForce_concat, ← h.cancelled s id, shared_note,
    isCancelled_step he (ht s) hs]
  refine or_congr_left (and_congr_right fun hc => ?_)
  have hf := Session.isFlagged_of_isCancelled hc
  show _ ↔ ¬ ((c.shared.network.session s).isFlagged id = true ∧ _ = false)
  simp [hf]

theorem mindful_start (clients : List (SessionName × UInt64))
    (farewells : List (SessionName × EndpointId)) (outside : υ) (callers : Nat) :
    (start (opening clients farewells) outside callers : Chronicle τ υ).Mindful := by
  refine ⟨orderly_start _ farewells outside callers, fun s => ?_, fun s id => ?_⟩
  · obtain ⟨i, hi⟩ := session_opening clients farewells s
    show ((opening clients farewells).session s).flags.Sound
    rw [hi]
    exact FlagBoard.sound_empty
  · obtain ⟨i, hi⟩ := session_opening clients farewells s
    show ((opening clients farewells).session s).isCancelled id = true ↔ _
    rw [hi]
    constructor
    · intro hc
      cases hc
    · rintro ⟨past, m, since, heq, _⟩
      exact absurd heq.symm (by simp [start])

theorem mindful_play (o : Outside τ υ) (clients : List (SessionName × UInt64))
    (farewells : List (SessionName × EndpointId)) (outside : υ) (callers : Nat)
    (moves : List (Move τ)) :
    ((start (opening clients farewells) outside callers).play o moves).Mindful :=
  play_induction o (fun h ha he => mindful_note h ha (execute_effect he))
    (fun caller r h => ⟨orderly_ask caller r h.orderly, h.sound, h.cancelled⟩)
    (mindful_start clients farewells outside callers) moves

/-- A flag that nothing unregisters is still there. -/
theorem isFlagged_of_linked {d d' : Desk τ υ} {moments : List (Moment τ υ)}
    (hl : Linked d moments d') (hf : (d.network.session s).isFlagged id = true)
    (hu : ∀ m ∈ moments, ¬ m.Unflags s id) : (d'.network.session s).isFlagged id = true := by
  induction moments generalizing d with
  | nil =>
    cases hl
    exact hf
  | cons m ms ih =>
    obtain ⟨rfl, hl⟩ := hl
    refine ih hl ?_ fun m' hm => hu m' (List.mem_cons_of_mem _ hm)
    cases hm : (m.after.network.session s).isFlagged id with
    | true => rfl
    | false => exact absurd ⟨hf, hm⟩ (hu m List.mem_cons_self)

end Run

/-! ## What a request calls -/

section Calling

variable {c : Chronicle τ υ} {member k : Nat} {act : Act τ} {rest acts : List (Act τ)}
  {o : Outside τ υ} {d : Desk τ υ} {e : Errand τ} {base : List CallRecord} {r : CallRecord}
  {last : Bool}

/-- Member `k` is on its errand inside the transport. Since the history was `base` it has made the
call `r` or not, and once it is done it will have made it if `last` says so. -/
def Calling (c : Chronicle τ υ) (k : Nat) (e : Errand τ) (base : List CallRecord) (r : CallRecord)
    (last : Bool) : Prop :=
  ∃ plan held rest made, c.agenda k = .inside e plan held :: rest ∧
    plan.Follows (Calls r) made last ∧
    c.transport.history = base ++ if made then [r] else []

theorem calling_ask (caller : Nat) (q : Request τ) (h : c.Calling k e base r last) :
    (c.ask caller q).Calling k e base r last := by
  obtain ⟨plan, held, rest, made, ha, hf, hh⟩ := h
  rcases agenda_give c (caller + 1) [.request q] k with hk | hk
  · exact ⟨plan, held, rest, made, hk.trans ha, hf, hh⟩
  · exact ⟨plan, held, rest ++ [.request q], made, by rw [hk, ha]; rfl, hf, hh⟩

/-- The holder goes on with its plan, and nobody else adds to the history. -/
theorem calling_note (hx : c.Exclusive) (h : c.Calling k e base r last)
    (ha : c.agenda member = act :: rest) (he : Effect o member c.shared act d acts)
    (hl : act.leaves = false) : Calling (c.note member act d (acts ++ rest)) k e base r last := by
  obtain ⟨plan, held, rest', made, hk, hf, hh⟩ := h
  by_cases hm : member = k
  · subst hm
    rw [hk] at ha
    cases ha
    obtain ⟨plan', held', hacts⟩ := stays_step he hl
    have ha' : (c.note member (.inside e plan held) d (acts ++ rest)).agenda member =
        .inside e plan' held' :: rest := hacts ▸ agenda_note_self hk ..
    rcases follows_step hf he hacts with ⟨hd, hf⟩ | ⟨_, made', hc, hd, hf⟩
    · exact ⟨plan', held', rest, made, ha', hf, (congrArg (·.transport.history) hd).trans hh⟩
    · exact ⟨plan', held', rest, made', ha', hf,
        (congrArg (·.transport.history) hd).trans (hc.history hh)⟩
  · have hi := hx.not_inside hk ha hm
    refine ⟨plan, held, rest', made, ?_, hf, ?_⟩
    · rw [agenda_note ha, if_neg (Ne.symm hm), hk]
    · exact (sameCalls_step he hi).history.trans hh

/-- With its look at the flag a request settles whether it makes its call. -/
theorem calling_flagCheck (o : Outside τ υ) {t : Task τ} {id : EndpointId} {info : List UInt8}
    {options : ConnectionOptions} {l : Listener} {held : List Emission}
    (ha : c.agenda k =
      .inside (.operation t) (Operation.flagCheck t.session id info options l) held :: rest) :
    (∃ m, (c.move o (.step k)).moments = c.moments ++ [m]) ∧
      (c.move o (.step k)).Calling k (.operation t) c.transport.history
        ⟨some t.session, .requestConnection id options info⟩
        !(c.shared.network.session t.session).isCancelled id := by
  obtain ⟨next, hnext, hcalls⟩ := Operation.flagCheck_calls t.session id info options l
  rw [hnext] at ha
  have hmove : c.move o (.step k) =
      c.note k (.inside (.operation t) (.look next) held) c.shared
        ([.inside (.operation t) (next c.shared.network) held] ++ rest) :=
    move_eq_note ha rfl
  rw [hmove]
  refine ⟨⟨_, rfl⟩, next c.shared.network, held, rest, false, ?_, hcalls c.shared.network, ?_⟩
  · exact agenda_note_self ha ..
  · exact (List.append_nil _).symm

/-- As long as nobody has left the transport, whoever was inside still is. -/
theorem calling_play (o : Outside τ υ) (hc : c.Orderly) (h : c.Calling k e base r last)
    (moves : List (Move τ)) :
    ∃ since, (c.play o moves).moments = c.moments ++ since ∧
      ((∀ m ∈ since, m.act.leaves = false) → (c.play o moves).Calling k e base r last) := by
  refine since_induction o
    (P := fun b since => (∀ m ∈ since, m.act.leaves = false) → b.Calling k e base r last)
    ?_ (fun caller q _ hcall hl => calling_ask caller q (hcall hl)) hc (fun _ => h) moves
  intro b since member act rest acts d hb hcall ha he hl
  have hb' := hcall fun m hm => hl m (List.mem_append_left _ hm)
  exact calling_note hb.exclusive hb' ha he
    (hl ⟨member, act, b.shared, d⟩ (List.mem_append_right _ List.mem_cons_self))

/-- Whoever will not have made the call has not made it. -/
theorem history_of_calling (h : c.Calling k e base r false) : c.transport.history = base := by
  obtain ⟨plan, held, rest, made, _, hf, hh⟩ := h
  cases made with
  | false => rw [hh]; simp
  | true => cases Calls.monotone hf rfl

/-- Whoever is done has made the call if it was to be made. -/
theorem history_of_calling_done {status : Status} {held : List Emission}
    (h : c.Calling k e base r last) (ha : c.agenda k = .inside e (.done status) held :: rest) :
    c.transport.history = base ++ if last then [r] else [] := by
  obtain ⟨plan, held', rest', made, hk, hf, hh⟩ := h
  rw [ha] at hk
  cases hk
  cases hf
  exact hh

end Calling

/-! ## Cancels and requests -/

/-- The operations that cancel the endpoint before they are queued. -/
def EndsRelation (id : EndpointId) (op : Operation Listener) : Prop :=
  op = .disconnectFromEndpoint id ∨ op = .rejectConnection id ∨ op = .stopAllEndpoints

theorem cancels_of_endsRelation {t : Task τ} {id : EndpointId} (h : EndsRelation id t.operation)
    (n : Network) : (Act.request (.submit t)).Cancels t.session id n := by
  rcases h with h | h | h
  · exact ⟨.cancel id, .inr ⟨t, rfl, rfl, by rw [h]; rfl⟩, rfl⟩
  · exact ⟨.cancel id, .inr ⟨t, rfl, rfl, by rw [h]; rfl⟩, rfl⟩
  · exact ⟨.cancelAll, .inr ⟨t, rfl, rfl, by rw [h]; rfl⟩, trivial⟩

/-- Whoever asks for a connection has the endpoint's flag registered at once. -/
theorem isFlagged_submit {o : Outside τ υ} {me : Nat} {d d' : Desk τ υ} {acts : List (Act τ)}
    {t : Task τ} {id : EndpointId} (h : Effect o me d (.request (.submit t)) d' acts)
    (hop : t.operation.requests id) : (d'.network.session t.session).isFlagged id = true := by
  cases h
  simp only [Network.session_setSession_self]
  cases hm : t.operation with
  | requestConnection id' =>
    rw [hm] at hop
    show ((d.network.session t.session).armFlag id').isFlagged id = true
    rw [Session.isFlagged_armFlag, show id' = id from hop]
    simp
  | _ =>
    rw [hm] at hop
    exact hop.elim

/-- A cancel that comes after a request is in force as long as nothing unregisters the flag. -/
theorem inForce_of_submitted (o : Outside τ υ) {b : Chronicle τ υ} (fresh : b.moments = [])
    (moves : List (Move τ)) {past since later : List (Moment τ υ)} {sub can : Moment τ υ}
    (hm : (b.play o moves).moments = past ++ sub :: since ++ can :: later) {t u : Task τ}
    {id : EndpointId} (hs : sub.act = .request (.submit t)) (hop : t.operation.requests id)
    (hc : can.act = .request (.submit u)) (hu : u.session = t.session)
    (hend : EndsRelation id u.operation) (hf : ∀ m ∈ since ++ later, ¬ m.Unflags t.session id) :
    InForce t.session id (b.play o moves).moments := by
  have heff : ∀ m ∈ (b.play o moves).moments,
      ∃ acts, Effect o m.member m.before m.act m.after acts :=
    forall_moments o (P := fun _ => True)
      (fun {_ _ _ _ acts _} _ _ he => ⟨trivial, acts, execute_effect he⟩)
      (fun _ _ _ => trivial) trivial fresh moves
  obtain ⟨acts, hsub⟩ := heff sub (by rw [hm]; simp)
  rw [hs] at hsub
  have hl := linked_play o fresh moves
  rw [hm, List.append_assoc] at hl
  obtain ⟨_, _, hl⟩ := linked_append.mp hl
  obtain ⟨_, hl⟩ := hl
  obtain ⟨_, hl, hl'⟩ := linked_append.mp hl
  have hflag := isFlagged_of_linked hl (isFlagged_submit hsub hop)
    fun m hm => hf m (List.mem_append_left _ hm)
  refine ⟨past ++ sub :: since, can, later, hm, ?_, ?_,
    fun m hm => hf m (List.mem_append_right _ hm)⟩
  · rw [hc, ← hu]
    exact cancels_of_endsRelation hend _
  · rw [← hl'.1] at hflag
    exact hflag

/-- The body of a request looks whether the endpoint is connected, and then whether it is pending;
if neither look finds it so, it looks at the flag. From this third look until it leaves the
transport it calls nothing if a cancel is in force at the look, and once it is done it has made its
call if none was. A cancel that was asked for after a request of the endpoint is in force if nothing
has unregistered the flag in between or since. -/
theorem request_calls_iff (o : Outside τ υ) (clients : List (SessionName × UInt64))
    (farewells : List (SessionName × EndpointId)) (outside : υ) (callers : Nat)
    (moves more : List (Move τ)) (k : Nat) (t : Task τ) (id : EndpointId) (info : List UInt8)
    (options : ConnectionOptions) (l : Listener) :
    let c := (start (opening clients farewells) outside callers).play o moves
    let e := c.play o (.step k :: more)
    ((Operation.requestConnection id info options l).body t.session = .look fun n =>
      if (n.session t.session).isConnected id then .done .alreadyConnectedToEndpoint
      else .look fun n =>
        if (n.session t.session).isPending id then .done .alreadyConnectedToEndpoint
        else Operation.flagCheck t.session id info options l) ∧
    (∀ held rest, c.agenda k =
        .inside (.operation t) (Operation.flagCheck t.session id info options l) held :: rest →
      (∀ m ∈ e.moments.drop c.moments.length, m.act.leaves = false) →
      (InForce t.session id c.moments → e.transport.history = c.transport.history) ∧
      (¬ InForce t.session id c.moments → ∀ status held' rest',
        e.agenda k = .inside (.operation t) (.done status) held' :: rest' →
        e.transport.history =
          c.transport.history ++ [⟨some t.session, .requestConnection id options info⟩])) ∧
    (∀ (past since later : List (Moment τ υ)) (sub can : Moment τ υ) (v u : Task τ),
      c.moments = past ++ sub :: since ++ can :: later →
      sub.act = .request (.submit v) → v.session = t.session → v.operation.requests id →
      can.act = .request (.submit u) → u.session = t.session → EndsRelation id u.operation →
      (∀ m ∈ since ++ later, ¬ m.Unflags t.session id) → InForce t.session id c.moments) := by
  intro c e
  refine ⟨Operation.requestBody_eq .., fun held rest ha hleave => ?_, ?_⟩
  · have hc : c.Mindful := mindful_play o clients farewells outside callers moves
    obtain ⟨⟨look, hlook⟩, hstart⟩ := calling_flagCheck o ha
    have horderly : (c.move o (.step k)).Orderly := orderly_play o hc.orderly [.step k]
    obtain ⟨since, hsince, hcalling⟩ := calling_play o horderly hstart more
    have he : e = (c.move o (.step k)).play o more := rfl
    have hdrop : e.moments.drop c.moments.length = look :: since := by
      rw [he, hsince, hlook, List.append_assoc, List.drop_left]
      rfl
    rw [hdrop] at hleave
    have hin := hcalling fun m hm => hleave m (List.mem_cons_of_mem _ hm)
    rw [← he] at hin
    rw [← hc.cancelled]
    refine ⟨fun hforce => ?_, fun hforce status held' rest' hdone => ?_⟩
    · rw [hforce] at hin
      exact history_of_calling hin
    · rw [Bool.not_eq_true] at hforce
      rw [hforce] at hin
      exact history_of_calling_done hin hdone
  · intro past since later sub can v u hm hs hv hop hcan hu hend hf
    rw [← hv] at hf ⊢
    exact inForce_of_submitted o rfl moves hm hs hop hcan (hu.trans hv.symm) hend hf

open Sample in
/-- A request that is disconnected while it waits calls nothing: from its look at the flag until it
is about to leave, the history stays as it was. -/
theorem request_disconnected :
    let moves := submitting request ++ submitting disconnect ++ turns 0 4
    InForce "A" ⟨"EP01"⟩ (run moves).moments ∧
      ((run moves).play silent (turns 0 2)).transport.history = (run moves).transport.history := by
  have hforce := ((mindful_play silent [] [] () 1
    (submitting request ++ submitting disconnect ++ turns 0 4)).cancelled "A" ⟨"EP01"⟩).mp
    (by decide +kernel)
  have h := request_calls_iff silent [] [] () 1
    (submitting request ++ submitting disconnect ++ turns 0 4) (turns 0 1) 0 request ⟨"EP01"⟩
    [] {} {}
  exact ⟨hforce, (h.2.1 [] [.finish, .work] rfl (by decide +kernel)).1 hforce⟩

open Sample in
/-- A cancel may be lost. Two requests wait in the queue when their endpoint is disconnected; nobody
has begun with either. The first is cancelled and rolled back, and the second calls the
transport. -/
theorem second_request_calls :
    let early := submitting request ++ submitting request ++ submitting disconnect
    (∀ m ∈ (run early).moments, m.member ≠ worker) ∧
      (run early).shared.queue.waiting = [request, request, disconnect] ∧
      ⟨some "A", .requestConnection ⟨"EP01"⟩ {} []⟩ ∈
        (run (early ++ turns 0 40)).transport.history := by
  exact ⟨by decide +kernel, rfl, by decide +kernel⟩

end Chronicle

end Exchange

end Switchboard
