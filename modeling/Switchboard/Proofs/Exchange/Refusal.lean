import Switchboard.Proofs.Exchange.Inertia
import Switchboard.Proofs.Exchange.Line
import Switchboard.Proofs.Failure

/-!
# Refusals after a shutdown

Once an exchange has been shut down it refuses whatever it is asked for, with an error and without
calling the transport. Whoever asks to listen is refused before anything is touched. An operation is
refused only when it comes to the queue, and what is prepared for it has been done to the flags of
the session by then: a request has registered the flag of its endpoint, and whatever ends a relation
has raised the flags it found (`refused_after_shutdown`). Nobody takes that back
(`refused_leaves_flags`).
-/

namespace Switchboard

/-! ## What is prepared for an operation -/

namespace FlagBoard

theorem register_eq_self {b : FlagBoard} {id : EndpointId} (h : (b.handle? id).isSome = true) :
    b.register id = b := by
  obtain ⟨f, hf⟩ := Option.isSome_iff_exists.mp h
  unfold register
  rw [hf]

theorem raise_eq_self {b : FlagBoard} {h : FlagHandle} (hr : b.isRaised h = true) :
    b.raise h = b := by
  unfold isRaised at hr
  unfold raise
  congr 1
  refine List.ext_getElem? fun i => ?_
  rw [List.getElem?_set]
  split
  · next hi =>
    subst hi
    rw [List.getD_eq_getElem?_getD] at hr
    cases hg : b.raised[h.index]? with
    | none => rw [hg] at hr; cases hr
    | some r =>
      rw [hg] at hr
      rw [if_pos (List.getElem?_eq_some_iff.mp hg).1]
      exact congrArg some (show r = true from hr).symm
  · rfl

theorem cancel_eq_self {b : FlagBoard} {id : EndpointId}
    (h : (b.handle? id).isSome = true → b.isCancelled id = true) : b.cancel id = b := by
  unfold cancel
  unfold isCancelled at h
  cases hh : b.handle? id with
  | none => rfl
  | some f =>
    rw [hh] at h
    exact raise_eq_self (h rfl)

theorem cancelAll_eq_self {b : FlagBoard}
    (h : ∀ id, (b.handle? id).isSome = true → b.isCancelled id = true) : b.cancelAll = b := by
  have hall : ∀ f ∈ b.registered.values, b.isRaised f = true := by
    intro f hf
    obtain ⟨⟨id, f'⟩, hm, rfl⟩ := List.mem_map.mp hf
    have hh : b.handle? id = some f' := Directory.mem_entries.mp hm
    obtain ⟨g, hg, hr⟩ := isCancelled_iff.mp (h id (by rw [hh]; rfl))
    rw [hh] at hg
    cases hg
    exact hr
  unfold cancelAll
  generalize b.registered.values = fs at hall
  induction fs with
  | nil => rfl
  | cons f fs ih =>
    rw [List.foldl_cons, raise_eq_self (hall f List.mem_cons_self)]
    exact ih fun f' hf => hall f' (List.mem_cons_of_mem _ hf)

end FlagBoard

namespace Operation

open Exchange.Chronicle (EndsRelation)

variable {op : Operation Listener} {x : Session} {id : EndpointId}

/-- What is prepared for an operation is about flags only. -/
theorem prepare_eq_withFlags (op : Operation Listener) (x : Session) :
    op.prepare x = { x with flags := (op.prepare x).flags } := by
  cases op <;> rfl

theorem isFlagged_prepare_iff :
    (op.prepare x).isFlagged id = true ↔ x.isFlagged id = true ∨ op.requests id := by
  by_cases hop : op.requests id
  · cases op with
    | requestConnection id' =>
      obtain rfl : id' = id := hop
      show (x.armFlag id').isFlagged id' = true ↔ _
      simp [Session.isFlagged_armFlag, requests]
    | _ => exact hop.elim
  · rw [Exchange.isFlagged_prepare x hop, or_iff_left hop]

theorem isCancelled_prepare_iff (hs : x.flags.Sound) : (op.prepare x).isCancelled id = true ↔
    x.isCancelled id = true ∨ EndsRelation id op ∧ x.isFlagged id = true := by
  cases op with
  | requestConnection id' =>
    show (x.armFlag id').isCancelled id = true ↔ _
    simp [Session.isCancelled_armFlag, EndsRelation]
  | rejectConnection id' | disconnectFromEndpoint id' =>
    refine (FlagBoard.isCancelled_cancel hs id' id).trans (or_congr_right ?_)
    simp [EndsRelation, Session.isFlagged]
  | stopAllEndpoints =>
    show x.flags.cancelAll.isCancelled id = true ↔ _
    rw [FlagBoard.isCancelled_cancelAll hs]
    have hf : x.isCancelled id = true → x.isFlagged id = true := Session.isFlagged_of_isCancelled
    simpa [EndsRelation, Session.isFlagged] using hf
  | _ => simp [EndsRelation, prepare]

/-- What is prepared for an operation leaves the session as it is if it finds nothing to do: the
flag of its endpoint is registered already, or there is no flag to raise that is not raised. -/
theorem prepare_eq_self_iff (hs : x.flags.Sound) : op.prepare x = x ↔
    ∀ id, (op.requests id → x.isFlagged id = true) ∧
      (EndsRelation id op → x.isFlagged id = true → x.isCancelled id = true) := by
  constructor
  · intro h id
    refine ⟨fun hop => ?_, fun hop hf => ?_⟩
    · rw [← h]
      exact isFlagged_prepare_iff.mpr (.inr hop)
    · rw [← h]
      exact (isCancelled_prepare_iff hs).mpr (.inr ⟨hop, hf⟩)
  · intro h
    rw [prepare_eq_withFlags]
    suffices (op.prepare x).flags = x.flags by rw [this]
    cases op with
    | requestConnection id => exact FlagBoard.register_eq_self ((h id).1 rfl)
    | rejectConnection id => exact FlagBoard.cancel_eq_self ((h id).2 (.inr (.inl rfl)))
    | disconnectFromEndpoint id => exact FlagBoard.cancel_eq_self ((h id).2 (.inl rfl))
    | stopAllEndpoints => exact FlagBoard.cancelAll_eq_self fun id => (h id).2 (.inr (.inr rfl))
    | _ => rfl

end Operation

/-! ## A closed exchange -/

namespace Exchange.Chronicle

variable {τ υ : Type} {o : Outside τ υ} {c : Chronicle τ υ} {k : Nat} {act : Act τ}
  {rest : List (Act τ)}

theorem closed_of_play (o : Outside τ υ) (h : c.shared.closed = true) (moves : List (Move τ)) :
    (c.play o moves).shared.closed = true := by
  cases hc : (c.play o moves).shared.closed with
  | true => rfl
  | false =>
    rw [closed_play o moves hc] at h
    cases h

/-- Whoever takes no step still has the same to do next. -/
theorem agenda_play_of_waits (o : Outside τ υ) {moves : List (Move τ)}
    (hm : ∀ x ∈ moves, x ≠ .step k) (h : c.agenda k = act :: rest) :
    ∃ rest', (c.play o moves).agenda k = act :: rest' := by
  induction moves generalizing c rest with
  | nil => exact ⟨rest, h⟩
  | cons x moves ih =>
    obtain ⟨rest', h'⟩ : ∃ rest', (c.move o x).agenda k = act :: rest' := by
      cases x with
      | ask caller r =>
        rcases agenda_give c (caller + 1) [.request r] k with hk | hk
        · exact ⟨rest, hk.trans h⟩
        · exact ⟨rest ++ [.request r], hk.trans (congrArg (· ++ _) h)⟩
      | step member =>
        have hne : k ≠ member := fun he => hm _ List.mem_cons_self (he ▸ rfl)
        rcases Crew.Minutes.turn_cases (execute o) c member with
          hmove | ⟨a, l, d, acts, ha, _, hmove⟩
        · exact ⟨rest, (congrArg (·.agenda k) hmove).trans h⟩
        · exact ⟨rest, (congrArg (·.agenda k) hmove).trans (by rw [agenda_note ha, if_neg hne, h])⟩
    exact ih (fun y hy => hm y (List.mem_cons_of_mem _ hy)) h'

/-- To ask for an operation prepares it, and sends it to the queue. -/
theorem move_submit {t : Task τ} (hk : c.agenda k = .request (.submit t) :: rest) :
    (c.move o (.step k)).shared = { c.shared with
      network := c.shared.network.setSession t.session
        (t.operation.prepare (c.shared.network.session t.session)) } ∧
      (c.move o (.step k)).agenda k = .route t :: rest := by
  have hnote : c.move o (.step k) = c.note k (.request (.submit t)) _ _ := move_eq_note hk rfl
  rw [hnote, shared_note]
  exact ⟨rfl, agenda_note_self hk ..⟩

/-- To ask for anything else that takes the transport sends for it right away. -/
theorem move_errand {r : Request τ} {e : Errand τ} (he : r.errand? = some e)
    (hnot : ∀ t, r ≠ .submit t) (hopen : e.needsOpen = true)
    (hk : c.agenda k = .request r :: rest) :
    (c.move o (.step k)).shared = c.shared ∧ (c.move o (.step k)).agenda k = .enter e :: rest := by
  have hstep : execute o k (.request r) c.shared = some (c.shared, [.enter e]) := by
    cases r <;> cases he
    · exact absurd rfl (hnot _)
    · rfl
    · rfl
    · cases hopen
  rw [move_eq_note hk hstep, shared_note]
  exact ⟨rfl, agenda_note_self hk ..⟩

/-- An operation that comes to the queue of a closed exchange is refused. -/
theorem move_route_of_closed {t : Task τ} (h : c.shared.closed = true)
    (hk : c.agenda k = .route t :: rest) :
    (c.move o (.step k)).shared = c.shared ∧
      (c.move o (.step k)).agenda k = .complete t.back .error :: rest := by
  have he : execute o k (.route t) c.shared = some (c.shared, [.complete t.back .error]) := by
    simp [execute, h]
  rw [move_eq_note hk he]
  exact ⟨rfl, agenda_note_self hk ..⟩

/-- Whoever comes for the transport of a closed exchange is refused once it is free. -/
theorem move_enter_of_closed {e : Errand τ} (h : c.shared.closed = true) (hn : e.needsOpen = true)
    (hk : c.agenda k = .enter e :: rest) :
    (c.move o (.step k)).shared = c.shared ∧ (c.shared.holder = none →
      (c.move o (.step k)).agenda k = e.after .error ++ rest) := by
  cases hh : c.shared.holder with
  | some me =>
    have he : execute o k (.enter e) c.shared = none := by simp [execute, hh]
    refine ⟨?_, fun hf => by cases hf⟩
    exact congrArg Crew.Minutes.shared (Crew.Minutes.turn_of_none hk he)
  | none =>
    have he : execute o k (.enter e) c.shared = some (c.shared, e.after .error) := by
      simp [execute, hh, h, hn]
    rw [move_eq_note hk he]
    exact ⟨rfl, fun _ => agenda_note_self hk ..⟩

/-- Once the exchange has been shut down, whatever is asked of it is refused with an error, and the
transport stays as it is. Of an operation the first step prepares the flags of its session, and
nothing else of any session; whatever others do meanwhile, its next step changes nothing at all and
leaves the error to be reported. What has been prepared is not taken back: the flag of a request is
registered, and the flags of whatever relations the operation was to end are raised. So the session
is as it was before exactly if there was nothing to prepare. To start or to stop listening changes
nothing on the way to being refused, which comes as soon as the transport is free. -/
theorem refused_after_shutdown (o : Outside τ υ) (clients : List (SessionName × UInt64))
    (farewells : List (SessionName × EndpointId)) (outside : υ) (callers : Nat)
    (moves more : List (Move τ)) (k : Nat) (r : Request τ) (rest : List (Act τ)) :
    let c := (start (opening clients farewells) outside callers).play o moves
    let asked := c.move o (.step k)
    let now := asked.play o more
    let refused := now.move o (.step k)
    c.shared.closed = true → c.agenda k = .request r :: rest → (∀ x ∈ more, x ≠ .step k) →
      (∀ t, r = .submit t →
        let before := c.shared.network.session t.session
        let after := asked.shared.network.session t.session
        asked.transport = c.transport ∧
        c.shared.network.SameButFlags asked.shared.network t.session after.flags ∧
        (∀ id, after.isFlagged id = true ↔ before.isFlagged id = true ∨ t.operation.requests id) ∧
        (∀ id, after.isCancelled id = true ↔ before.isCancelled id = true ∨
          EndsRelation id t.operation ∧ before.isFlagged id = true) ∧
        (after = before ↔ ∀ id, (t.operation.requests id → before.isFlagged id = true) ∧
          (EndsRelation id t.operation → before.isFlagged id = true →
            before.isCancelled id = true)) ∧
        refused.shared = now.shared ∧
        ∃ rest', refused.agenda k = .complete t.back .error :: rest') ∧
      (∀ e, r.errand? = some e → (∀ t, r ≠ .submit t) → e.needsOpen = true →
        asked.shared = c.shared ∧ refused.shared = now.shared ∧
        (now.shared.holder = none → ∃ rest', refused.agenda k = e.after .error ++ rest')) := by
  intro c asked now refused hclosed hk hmore
  refine ⟨?_, fun e he hnot hopen => ?_⟩
  · rintro t rfl before after
    have hs : before.flags.Sound :=
      (mindful_play o clients farewells outside callers moves).sound t.session
    obtain ⟨hasked, hnext⟩ : _ ∧ asked.agenda k = _ := move_submit (o := o) hk
    have hafter : after = t.operation.prepare before := by
      show asked.shared.network.session t.session = _
      rw [hasked]
      exact Network.session_setSession_self ..
    obtain ⟨rest', hroute⟩ := agenda_play_of_waits o hmore hnext
    have hopen : asked.shared.closed = true := closed_of_play o hclosed [.step k]
    obtain ⟨hdesk, hagenda⟩ :=
      move_route_of_closed (o := o) (closed_of_play o hopen more) hroute
    refine ⟨congrArg (·.network.transport) hasked, ⟨?_, fun s hs => ?_, ?_⟩, fun id => ?_,
      fun id => ?_, ?_, hdesk, rest', hagenda⟩
    · show after = _
      rw [hafter]
      exact Operation.prepare_eq_withFlags t.operation before
    · rw [hasked]
      exact (Network.session_setSession ..).trans (if_neg hs)
    · rw [hasked]
      rfl
    · rw [hafter]
      exact Operation.isFlagged_prepare_iff
    · rw [hafter]
      exact Operation.isCancelled_prepare_iff hs
    · rw [hafter]
      exact Operation.prepare_eq_self_iff hs
  · obtain ⟨hasked, hnext⟩ : asked.shared = _ ∧ asked.agenda k = _ :=
      move_errand (o := o) he hnot hopen hk
    obtain ⟨rest', henter⟩ := agenda_play_of_waits o hmore hnext
    have hstill : asked.shared.closed = true := closed_of_play o hclosed [.step k]
    obtain ⟨hdesk, hagenda⟩ :=
      move_enter_of_closed (o := o) (closed_of_play o hstill more) hopen henter
    exact ⟨hasked, hdesk, fun hfree => ⟨rest', hagenda hfree⟩⟩

open Sample in
/-- A caller asks for the disconnection of a connected endpoint right after another one has begun to
shut the exchange down. It is refused, and leaves the connection as it was, but cancelled. -/
theorem refused_disconnect :
    let moves : List (Move Unit) := [.ask 0 (.hook (.session "A" (.startedAdvertising "svc" {}))),
      .ask 0 (.hook (.session "A" (.incoming ⟨"EP01"⟩ []))),
      .ask 0 (.hook (.session "A" (.connectionAccepted ⟨"EP01"⟩))), .step 1, .step 1, .step 1,
      .step 1, .step 1, .ask 0 (.shutdown ()), .step 1, .ask 1 (.submit disconnect)]
    let c := (start (opening [] []) () 2).play silent moves
    let asked := c.move silent (.step 2)
    let refused := (asked.play silent (turns 1 4)).move silent (.step 2)
    (∃ rest, refused.agenda 2 = .complete () .error :: rest) ∧
      (c.shared.network.session "A").isConnected ⟨"EP01"⟩ = true ∧
      (c.shared.network.session "A").isCancelled ⟨"EP01"⟩ = false ∧
      (asked.shared.network.session "A").isCancelled ⟨"EP01"⟩ = true ∧
      asked.shared.network.session "A" ≠ c.shared.network.session "A" := by
  intro moves c asked refused
  obtain ⟨hop, -⟩ := refused_after_shutdown silent [] [] () 2 moves (turns 1 4) 2
    (.submit disconnect) [] (by decide +kernel) rfl (by simp [turns])
  obtain ⟨-, -, -, hcancelled, hsame, -, hrefused⟩ := hop disconnect rfl
  have hconnected : (c.shared.network.session "A").isFlagged ⟨"EP01"⟩ = true := by decide +kernel
  have hnot : (c.shared.network.session "A").isCancelled ⟨"EP01"⟩ = false := by decide +kernel
  refine ⟨hrefused, by decide +kernel, hnot,
    (hcancelled ⟨"EP01"⟩).mpr (.inr ⟨.inl rfl, hconnected⟩), fun he => ?_⟩
  have hraised : (c.shared.network.session "A").isCancelled ⟨"EP01"⟩ = true :=
    (hsame.mp he ⟨"EP01"⟩).2 (.inl rfl) hconnected
  rw [hnot] at hraised
  cases hraised

open Sample in
/-- The exchange has been shut down and everybody is done. A request for an endpoint that the
session knows nothing of is refused, and so is the disconnection of one that is connected: the first
leaves a flag behind, the other one a flag raised. -/
theorem refused_leaves_flags :
    let down : List (Move Unit) := .ask 0 (.shutdown ()) :: turns 1 12 ++ turns 0 1 ++ turns 1 2
    let connecting : List (Move Unit) :=
      [.ask 0 (.hook (.session "A" (.startedAdvertising "svc" {}))),
        .ask 0 (.hook (.session "A" (.incoming ⟨"EP01"⟩ []))),
        .ask 0 (.hook (.session "A" (.connectionAccepted ⟨"EP01"⟩)))] ++ turns 1 5
    let c := run down
    let e := c.play silent (submitting request)
    let c' := run (connecting ++ down)
    let e' := c'.play silent (submitting disconnect)
    (c.shared.closed = true ∧ e.completed = [.error] ∧ e.transport = c.transport ∧
        (c.shared.network.session "A").isFlagged ⟨"EP01"⟩ = false ∧
        (e.shared.network.session "A").isFlagged ⟨"EP01"⟩ = true) ∧
      c'.shared.closed = true ∧ e'.completed = [.error] ∧ e'.transport = c'.transport ∧
        (e'.shared.network.session "A").isConnected ⟨"EP01"⟩ = true ∧
        (c'.shared.network.session "A").isCancelled ⟨"EP01"⟩ = false ∧
        (e'.shared.network.session "A").isCancelled ⟨"EP01"⟩ = true := by
  exact ⟨⟨by decide +kernel, by decide +kernel, by decide +kernel, by decide +kernel,
    by decide +kernel⟩, by decide +kernel, by decide +kernel, by decide +kernel, by decide +kernel,
    by decide +kernel, by decide +kernel⟩

end Exchange.Chronicle

end Switchboard
