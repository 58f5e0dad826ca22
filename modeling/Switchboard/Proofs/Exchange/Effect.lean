import Switchboard.Proofs.Exchange.Chronicle

/-!
# Effects

Everything an executed act can do, one constructor a case: the desk afterwards and the acts that
take the act's place. `execute_effect` is the only lemma that opens `execute`; what a run keeps is
proved from it, case by case.
-/

namespace Switchboard.Exchange

variable {τ υ : Type}

/-- `Effect o me d act d' acts`: executed by `me` at the desk `d`, `act` leaves `d'` and `acts`. -/
inductive Effect (o : Outside τ υ) (me : Nat) (d : Desk τ υ) :
    Act τ → Desk τ υ → List (Act τ) → Prop where
  -- requests
  | turn (cue : τ) (u : υ) (rs : List (Request τ))
      (h : o.onTurn cue none (view d) d.outside = (u, rs)) :
    Effect o me d (.request (.turn cue)) { d with outside := u } (rs.map .request)
  | submit (t : Task τ) :
    Effect o me d (.request (.submit t))
      { d with
        network := d.network.setSession t.session
          (t.operation.prepare (d.network.session t.session)) }
      [.route t]
  | listen (s : SessionName) (service : String) (l : Listener) (options : ListeningOptions)
      (back : τ) :
    Effect o me d (.request (.listen s service l options back)) d
      [.enter (.listen s service l options back)]
  | unlisten (s : SessionName) (back : τ) :
    Effect o me d (.request (.unlisten s back)) d [.enter (.unlisten s back)]
  | shutdown (back : τ) (h : d.closed = false) :
    Effect o me d (.request (.shutdown back)) { d with closed := true } [.enter (.stop back)]
  | shutdownAgain (back : τ) (h : d.closed = true) :
    Effect o me d (.request (.shutdown back)) d [.resume back none]
  | hook (h : Hook) :
    Effect o me d (.request (.hook h)) { d with network := (h.apply d.network).1 }
      ((h.apply d.network).2.map .deliver)
  -- on the way into the queue
  | route (t : Task τ) (h : d.closed = false) : Effect o me d (.route t) d [.offer t]
  | offer (t : Task τ) (h : d.queue.stopping = false) : Effect o me d (.offer t) d [.enqueue t]
  | enqueue (t : Task τ) (h : d.queue.closed = false) :
    Effect o me d (.enqueue t)
      { d with
        queue := { d.queue with
          waiting := d.queue.waiting ++ [t]
          stats := { d.queue.stats with submitted := d.queue.stats.submitted + 1 } } }
      []
  | routeClosed (t : Task τ) (h : d.closed = true) :
    Effect o me d (.route t) d [.complete t.back .error]
  | offerStopping (t : Task τ) (h : d.queue.stopping = true) :
    Effect o me d (.offer t) d [.complete t.back .error]
  | enqueueClosed (t : Task τ) (h : d.queue.closed = true) :
    Effect o me d (.enqueue t) d [.complete t.back .error]
  -- at the transport
  | enter (e : Errand τ) (free : d.holder = none) (h : e.needsOpen = true → d.closed = false) :
    Effect o me d (.enter e) { d with holder := some me } [.inside e e.plan []]
  | enterClosed (e : Errand τ) (free : d.holder = none) (h : e.needsOpen = true)
      (closed : d.closed = true) : Effect o me d (.enter e) d (e.after .error)
  | leave (e : Errand τ) (status : Status) (held : List Emission) :
    Effect o me d (.inside e (.done status) held) { d with holder := none }
      (held.map .deliver ++ e.after status)
  | look (e : Errand τ) (next : Network → Job Status) (held : List Emission) :
    Effect o me d (.inside e (.look next) held) d [.inside e (next d.network) held]
  | act (e : Errand τ) (change : Network → Network × List Emission) (next : Job Status)
      (held : List Emission) :
    Effect o me d (.inside e (.act change next) held) { d with network := (change d.network).1 }
      [.inside e next (held ++ (change d.network).2)]
  | await (e : Errand τ) (ready : Network → Bool) (next : Job Status) (held : List Emission)
      (h : ready d.network = true) :
    Effect o me d (.inside e (.await ready next) held) d [.inside e next held]
  -- the code outside
  | deliver (m : Emission) (sink : SinkId) (u : υ) (rs : List (Request τ))
      (hs : m.listener.sink = some sink)
      (h : o.onSignal sink m.signal (view d) d.outside = (u, rs)) :
    Effect o me d (.deliver m) { d with outside := u } (rs.map .request)
  | drop (m : Emission) (h : m.listener.sink = none) : Effect o me d (.deliver m) d []
  | complete (back : τ) (status : Status) (u : υ) (rs : List (Request τ))
      (h : o.onTurn back (some status) (view d) d.outside = (u, rs)) :
    Effect o me d (.complete back status) { d with outside := u } (rs.map .request)
  | resume (back : τ) (status : Option Status) (u : υ) (rs : List (Request τ))
      (h : o.onTurn back status (view d) d.outside = (u, rs)) :
    Effect o me d (.resume back status) { d with outside := u } (rs.map .request)
  -- the worker and the end of the queue
  | run (t : Task τ) (rest : List (Task τ)) (idle : d.queue.worker = .idle)
      (h : d.queue.waiting = t :: rest) (go : d.queue.stopping = false) :
    Effect o me d .work
      { d with queue := { d.queue with waiting := rest, worker := .running t } }
      [.enter (.operation t), .finish, .work]
  | discard (t : Task τ) (rest : List (Task τ)) (idle : d.queue.worker = .idle)
      (h : d.queue.waiting = t :: rest) (stop : d.queue.stopping = true) :
    Effect o me d .work
      { d with queue := { d.queue with waiting := rest, worker := .dropping t } }
      [.complete t.back .error, .finish, .work]
  | retire (idle : d.queue.worker = .idle) (h : d.queue.waiting = [])
      (closed : d.queue.closed = true) :
    Effect o me d .work { d with queue := { d.queue with worker := .gone } } []
  | finish : Effect o me d .finish { d with queue := d.queue.finish } []
  | stopQueue (back : τ) :
    Effect o me d (.stopQueue back) { d with queue := d.queue.stop } [.closeQueue back]
  | closeQueue (back : τ) :
    Effect o me d (.closeQueue back) { d with queue := d.queue.close } [.claimWorker back]
  | claimTaken (back : τ) (h : d.queue.claimed = true) :
    Effect o me d (.claimWorker back) d [.resume back none]
  | claimOwn (back : τ) (h : d.queue.claimed = false) (hw : me = worker) :
    Effect o me d (.claimWorker back) { d with queue := d.queue.claim } [.resume back none]
  | claim (back : τ) (h : d.queue.claimed = false) (hw : me ≠ worker) :
    Effect o me d (.claimWorker back) { d with queue := d.queue.claim } [.join back]
  | join (back : τ) (h : d.queue.isGone = true) : Effect o me d (.join back) d [.resume back none]

theorem ask_effect (o : Outside τ υ) (me : Nat) (d : Desk τ υ) (r : Request τ)
    (h : ∀ cue, r ≠ .turn cue) : Effect o me d (.request r) (ask d r).1 (ask d r).2 := by
  cases r with
  | submit t => exact .submit t
  | listen s service l options back => exact .listen s service l options back
  | unlisten s back => exact .unlisten s back
  | shutdown back =>
    simp only [ask]
    split
    · next hc => exact .shutdownAgain back hc
    · next hc => exact .shutdown back (by simpa using hc)
  | hook hook => exact .hook hook
  | turn cue => exact absurd rfl (h cue)

/-- What the worker does when it turns to the queue. -/
theorem work_effect (o : Outside τ υ) (me : Nat) (d : Desk τ υ) {queue : WorkQueue (Task τ)}
    (h : d.queue.next? = some queue) :
    Effect o me d .work { d with queue := queue }
      (match queue.worker with
        | .running t => [.enter (.operation t), .finish, .work]
        | .dropping t => [.complete t.back .error, .finish, .work]
        | _ => []) := by
  unfold WorkQueue.next? at h
  split at h
  · next t rest hw hq =>
    cases h
    by_cases hs : d.queue.stopping = true
    · rw [if_pos hs]
      exact .discard t rest hw hq hs
    · rw [if_neg hs]
      exact .run t rest hw hq (by simpa using hs)
  · next hw hq =>
    split at h
    · next hc => cases h; exact .retire hw hq hc
    · cases h
  · cases h

/-- One step of whoever holds the transport. -/
theorem advance_effect (o : Outside τ υ) (me : Nat) {d d' : Desk τ υ} {acts : List (Act τ)}
    (e : Errand τ) (plan : Job Status) (held : List Emission)
    (h : advance d e held plan = some (d', acts)) :
    Effect o me d (.inside e plan held) d' acts := by
  cases plan with
  | done status => cases h; exact .leave e status held
  | look next => cases h; exact .look e next held
  | act change next => cases h; exact .act e change next held
  | await ready next =>
    simp only [advance] at h
    split at h
    · next hr => cases h; exact .await e ready next held hr
    · cases h

theorem execute_effect {o : Outside τ υ} {me : Nat} {act : Act τ} {d d' : Desk τ υ}
    {acts : List (Act τ)} (h : execute o me act d = some (d', acts)) :
    Effect o me d act d' acts := by
  revert h
  fun_cases execute o me act d <;> intro h
  case case1 cue => cases h; exact .turn cue _ _ rfl
  case case2 r hr =>
    have ha := ask_effect o me d r hr
    rwa [Option.some.inj h] at ha
  case case3 t =>
    cases h
    by_cases hc : d.closed = true
    · rw [if_pos hc]; exact .routeClosed t hc
    · rw [if_neg hc]; exact .route t (by simpa using hc)
  case case4 t =>
    cases h
    by_cases hs : d.queue.stopping = true
    · rw [if_pos hs]; exact .offerStopping t hs
    · rw [if_neg hs]; exact .offer t (by simpa using hs)
  case case5 t queue hq =>
    cases h
    obtain ⟨hc, rfl⟩ := WorkQueue.eq_of_accept? hq
    exact .enqueue t hc
  case case6 t hq => cases h; exact .enqueueClosed t (WorkQueue.accept?_eq_none_iff.mp hq)
  case case7 => cases h
  case case8 e free hc =>
    cases h
    simp only [Bool.and_eq_true] at hc
    exact .enterClosed e (by simpa using free) hc.1 hc.2
  case case9 e free hc =>
    cases h
    exact .enter e (by simpa using free) (fun hn => by simpa [hn] using hc)
  case case10 e plan held => exact advance_effect o me e plan held h
  case case11 m sink hs => cases h; exact .deliver m sink _ _ hs rfl
  case case12 m hs => cases h; exact .drop m hs
  case case13 back status => cases h; exact .complete back status _ _ rfl
  case case14 back status => cases h; exact .resume back status _ _ rfl
  case case15 => cases h
  case case16 queue hq => cases h; exact work_effect o me d hq
  case case17 => cases h; exact .finish
  case case18 back => cases h; exact .stopQueue back
  case case19 back => cases h; exact .closeQueue back
  case case20 back hc => cases h; exact .claimTaken back hc
  case case21 back hc =>
    cases h
    by_cases hw : me = worker
    · rw [if_pos hw]; exact .claimOwn back (by simpa using hc) hw
    · rw [if_neg hw]; exact .claim back (by simpa using hc) hw
  case case22 back hg => cases h; exact .join back hg
  case case23 => cases h

/-! ## What the code outside and the transport leave to be done -/

theorem countP_map_request {p : Act τ → Bool} (h : ∀ r, p (.request r) = false)
    (rs : List (Request τ)) : (rs.map .request).countP p = 0 := by
  refine List.countP_eq_zero.mpr fun a ha => ?_
  obtain ⟨r, _, rfl⟩ := List.mem_map.mp ha
  rw [h r]
  decide

theorem countP_map_deliver {p : Act τ → Bool} (h : ∀ m, p (.deliver m) = false)
    (ms : List Emission) : (ms.map .deliver).countP p = 0 := by
  refine List.countP_eq_zero.mpr fun a ha => ?_
  obtain ⟨m, _, rfl⟩ := List.mem_map.mp ha
  rw [h m]
  decide

end Switchboard.Exchange
