import Switchboard.Proofs.Account
import Switchboard.Proofs.Call
import Switchboard.Proofs.Reporting

/-!
# Legal calls

Every body looks at its session before it calls the transport. As long as the session stays as it is
(`Steady`), the call finds it as the guard did: what a call asks of the session is `Call.Fits`, and
every body makes fitting calls only. Nor does a body end an advertising or a discovery but in the
call that says so, and a body that succeeds has begun what it was to begin (`body_allowed`).
-/

namespace Switchboard

/-- What a session goes on with until it is stopped. -/
inductive Pursuit where
  | advertising
  | discovery
  deriving DecidableEq, Repr

namespace Pursuit

def isOn : Pursuit → Session → Bool
  | advertising => Session.isAdvertising
  | discovery => Session.isDiscovering

def halted : Pursuit → Session → Session
  | advertising => Session.stoppedAdvertising
  | discovery => Session.stoppedDiscovery

/-- The call that ends it. -/
def stop : Pursuit → Call
  | advertising => .stopAdvertising
  | discovery => .stopDiscovery

/-- Whether the call is to begin it. -/
def starts : Pursuit → Call → Bool
  | advertising, .startAdvertising .. => true
  | discovery, .startDiscovery .. => true
  | _, _ => false

end Pursuit

/-- What a call asks of the session it is made for. -/
def Call.Fits (x : Session) : Call → Prop
  | startAdvertising .. => x.isAdvertising = false
  | startDiscovery .. => x.isDiscovering = false
  | injectEndpoint _ => x.isDiscovering = true
  | requestConnection id .. => x.isRelated id = false
  | initiateBandwidthUpgrade id => x.isConnected id = true
  | sendPayload ids _ => ids.any x.isConnected = true
  | _ => True

/-- Whether the report ends the pursuit. -/
def SessionHook.halts {L : Type} : SessionHook L → Pursuit → Bool
  | stoppedAdvertising, .advertising | stoppedDiscovery, .discovery | reset, _ => true
  | _, _ => false

/-- All of a session but its flags. -/
def Session.core (s : Session) : Session := { s with flags := {} }

namespace Pursuit

theorem isOn_congr (p : Pursuit) {x y : Session} (h : y.core = x.core) : p.isOn y = p.isOn x := by
  have hcore : p.isOn y.core = p.isOn x.core := by rw [h]
  cases p <;> exact hcore

theorem isOn_apply {p : Pursuit} {h : SessionHook Listener} {x : Session}
    (hh : h.halts p = false) (hx : p.isOn x = true) : p.isOn (h.apply x).1 = true := by
  cases h with
  | startedAdvertising | startedDiscovery => cases p <;> first | rfl | exact hx
  | stoppedAdvertising | stoppedDiscovery => cases p <;> first | exact hx | cases hh
  | reset => cases p <;> cases hh
  | connectionInitiated id info l =>
    simp only [SessionHook.apply, Session.connectionInitiated]
    split <;> cases p <;> exact hx
  | connectionAccepted id =>
    simp only [SessionHook.apply, Session.connectionAccepted]
    split <;> cases p <;> exact hx
  | _ => cases p <;> exact hx

theorem isOn_halted (p : Pursuit) (x : Session) : p.isOn (p.halted x) = false := by
  cases p <;> rfl

theorem isOn_halted_of_ne {p q : Pursuit} (h : q ≠ p) (x : Session) :
    q.isOn (p.halted x) = q.isOn x := by
  cases p <;> cases q <;> first | rfl | exact absurd rfl h

end Pursuit

theorem Call.fits_congr (c : Call) {x y : Session} (h : y.core = x.core) :
    c.Fits y ↔ c.Fits x := by
  have hcore (z : Session) : c.Fits z ↔ c.Fits z.core := by cases c <;> exact Iff.rfl
  rw [hcore y, h, ← hcore x]

theorem Session.isRelated_core {x y : Session} (h : y.core = x.core) (id : EndpointId) :
    y.isRelated id = x.isRelated id :=
  isRelated_congr (congrArg Session.connections h) id

/-- The session is as it was, apart from its flags, and the transport has not been called. -/
structure Steady (s : SessionName) (n n' : Network) : Prop where
  core : (n'.session s).core = (n.session s).core
  history : n'.transport.history = n.transport.history

namespace Steady

variable {s : SessionName} {n n' : Network}

theorem refl (n : Network) : Steady s n n := ⟨rfl, rfl⟩

theorem trans {n₁ n₂ n₃ : Network} (h : Steady s n₁ n₂) (h' : Steady s n₂ n₃) : Steady s n₁ n₃ :=
  ⟨h'.core.trans h.core, h'.history.trans h.history⟩

end Steady

/-- The call made last was this one, for the session. -/
def Network.LastCall (n : Network) (s : SessionName) (c : Call) : Prop :=
  n.transport.history.getLast? = some ⟨some s, c⟩

/-- What an operation that succeeds has made of the session if it is to begin something: what it
begins is under way, and its call was the last. -/
def Operation.Achieved (s : SessionName) (n : Network) : Operation Listener → Prop
  | startAdvertising service options info _ =>
    (n.session s).isAdvertising = true ∧ n.LastCall s (.startAdvertising service options info)
  | startDiscovery service options _ =>
    (n.session s).isDiscovering = true ∧ n.LastCall s (.startDiscovery service options)
  | requestConnection id info options _ =>
    (n.session s).isRelated id = true ∧ n.LastCall s (.requestConnection id options info)
  | _ => True

theorem Pursuit.of_achieved {p : Pursuit} {s : SessionName} {n : Network} {op : Operation Listener}
    {c : Call} (hop : op.call? = some c) (hp : p.starts c = true) (h : op.Achieved s n) :
    p.isOn (n.session s) = true ∧ n.LastCall s c := by
  cases op <;> cases hop <;> cases p <;> first | exact h | cases hp

theorem Pursuit.isOn_of_fits {p : Pursuit} {x : Session} {c : Call} (hp : p.starts c = true)
    (h : c.Fits x) : p.isOn x = false := by
  cases c <;> cases p <;> first | exact h | cases hp

theorem Pursuit.stop_ne {p : Pursuit} {c : Call} (hp : p.starts c = true) : p.stop ≠ c := by
  rintro rfl
  cases p <;> cases hp

/-- If the change has a call recorded for the session then the call fits, and if it ends a pursuit
then it does so in the call that is to end it. -/
structure Allowed (s : SessionName) (n : Network) (r : Network × List Emission) : Prop where
  call : r.1.transport.history = n.transport.history ∨
    ∃ rec : CallRecord, r.1.transport.history = n.transport.history ++ [rec] ∧
      (rec.session = some s → rec.call.Fits (n.session s))
  halt : ∀ p : Pursuit, p.isOn (n.session s) = true → p.isOn (r.1.session s) = false →
    n.LastCall s p.stop

section Allowed

variable {s : SessionName} {n : Network}

theorem allowed_books {f : Transport → Transport} (h : ∀ t, (f t).history = t.history)
    (n : Network) : Allowed s n (n.onTransport f, []) :=
  ⟨.inl (h _), fun _ hb ha => absurd (hb.symm.trans ha) nofun⟩

theorem allowed_record {r : CallRecord} (h : r.session = some s → r.call.Fits (n.session s)) :
    Allowed s n (n.onTransport (·.record r), []) :=
  ⟨.inr ⟨r, rfl, h⟩, fun _ hb ha => absurd (hb.symm.trans ha) nofun⟩

/-- A change of sessions that leaves the pursuits of this one on. -/
theorem allowed_setSession {k : SessionName} {x : Session} {emitted : List Emission}
    (h : k = s → ∀ p : Pursuit, p.isOn (n.session s) = true → p.isOn x = false →
      n.LastCall s p.stop) :
    Allowed s n (n.setSession k x, emitted) := by
  refine ⟨.inl rfl, fun p hb ha => ?_⟩
  rw [Network.session_setSession] at ha
  split at ha
  · next hk => exact h hk p hb ha
  · cases hb.symm.trans ha

end Allowed

namespace Job

open Plan

variable {α : Type} {s : SessionName} {n : Network} {R : Network → Network → Prop}

/-- What reports that end nothing, and calls that always fit, do. -/
theorem allowed_of_reporting {P : SessionName → SessionHook Listener → Prop}
    {C : CallRecord → Prop} {job : Job α} (h : job.Follows (Reporting P C) () ())
    (hp : ∀ h, P s h → ∀ p, h.halts p = false)
    (hc : ∀ r, C r → r.session = some s → ∀ x, r.call.Fits x) (n : Network) :
    job.Withstands R (Allowed s) (fun _ _ => True) n := by
  refine .of_follows h (fun _ change _ ht n => ?_) n
  cases ht with
  | @report k h hrep =>
    refine allowed_setSession fun hk p hb ha => ?_
    subst hk
    cases ha.symm.trans (Pursuit.isOn_apply (hp h hrep p) hb)
  | @rollBack k id =>
    refine allowed_setSession fun hk p hb ha => ?_
    subst hk
    cases p <;> cases hb.symm.trans ha
  | record hr => exact allowed_record fun hs => hc _ hr hs _
  | books f hf => exact allowed_books hf n

end Job

namespace Operation

open Job Transport Plan

variable {α : Type} {s : SessionName} {n : Network}

/-! ## What bodies call and end -/

/-- In the body of a call the session is as before, and the call was the last. -/
theorem steady_call {r : Option SessionName} {c : Call} {body : Job α} {Q : α → Network → Prop}
    (h : r = some s → c.Fits (n.session s))
    (hbody : ∀ n', (n'.session s).core = (n.session s).core →
      n'.transport.history.getLast? = some ⟨r, c⟩ →
        body.Withstands (Steady s) (Allowed s) (fun a n'' => ∀ m, Steady s n'' m → Q a m) n') :
    (call r c body).Withstands (Steady s) (Allowed s) Q n := by
  refine call_withstands .refl
    (fun n₁ h₁ => allowed_record fun hr => (c.fits_congr h₁.core).mpr (h hr))
    (allowed_books fun _ => rfl) (allowed_books fun _ => rfl) fun n₁ n₂ n₃ h₁ h₂ h₃ => ?_
  have hsteady : Steady s (n₁.onTransport (·.record ⟨r, c⟩)) (n₃.onTransport enter) :=
    h₂.trans (h₃.trans ⟨rfl, rfl⟩)
  refine (hbody _ (hsteady.core.trans h₁.core) ?_).imp fun a n' hq m m' hm hm' => ?_
  · rw [hsteady.history]
    exact List.getLast?_concat
  · have hleft : Steady s m (m.onTransport leave) := ⟨rfl, rfl⟩
    exact hq m' (hm.trans (hleft.trans hm'))

/-- A report that ends nothing. -/
def Mild (_ : SessionName) (h : SessionHook Listener) : Prop := ∀ p, h.halts p = false

/-- A call that fits, with a body that reports nothing but mild things. -/
theorem fitting_call {c : Call} {body : Job α} (h : c.Fits (n.session s))
    (hbody : body.Follows (Reporting Mild fun _ => False) () ()) :
    (call (some s) c body).Withstands (Steady s) (Allowed s) (fun _ _ => True) n :=
  steady_call (fun _ => h) fun n' _ _ =>
    (allowed_of_reporting hbody (fun _ hm => hm) (fun _ hf => hf.elim) n').imp
      fun _ _ _ _ _ => trivial

/-- The call that ends a pursuit ends it, and begins none. -/
theorem halting_call (p : Pursuit) (n : Network) :
    (call (some s) p.stop (changeSession s p.halted)).Withstands (Steady s) (Allowed s)
      (fun _ n' => ∀ q : Pursuit, q = p ∨ q.isOn (n.session s) = false →
        q.isOn (n'.session s) = false) n := by
  refine steady_call (fun _ => by cases p <;> trivial) fun n₁ hcore hlast n₂ h₂ => ⟨?_, ?_⟩
  · refine allowed_setSession fun _ q hb ha => ?_
    by_cases hq : q = p
    · rw [Network.LastCall, h₂.history, hq]
      exact hlast
    · rw [Pursuit.isOn_halted_of_ne hq, hb] at ha
      cases ha
  · intro n₃ h₃ n₄ h₄ q hq
    rw [q.isOn_congr (h₃.trans h₄).core, Network.session_setSession_self]
    by_cases he : q = p
    · exact he ▸ p.isOn_halted _
    · rw [Pursuit.isOn_halted_of_ne he, q.isOn_congr h₂.core, q.isOn_congr hcore]
      exact hq.resolve_left he

theorem shutdownUpgrades_allowed (n : Network) :
    shutdownUpgrades.Withstands (Steady s) (Allowed s)
      (fun _ n' => ∀ q : Pursuit, q.isOn (n.session s) = false → q.isOn (n'.session s) = false)
      n :=
  steady_call nofun fun _ hcore _ _ h₂ _ h₃ q hq =>
    (q.isOn_congr ((h₂.trans h₃).core.trans hcore)).trans hq

/-- By the time of the reset there is nothing left to end. -/
theorem endActivities_allowed (n : Network) :
    (endActivities s).Withstands (Steady s) (Allowed s) (fun _ _ => True) n := by
  refine .bind .refl ((halting_call .advertising n).imp fun _ n₁ h₁ => ?_)
  refine .bind .refl ((halting_call .discovery n₁).imp fun _ n₂ h₂ => ?_)
  refine .bind .refl ((shutdownUpgrades_allowed n₂).imp fun _ n₃ h₃ n₄ h₄ => ?_)
  have hoff (p : Pursuit) : p.isOn (n₄.session s) = false := by
    refine (p.isOn_congr h₄.core).trans (h₃ p ?_)
    cases p with
    | advertising => exact h₂ _ (.inr (h₁ _ (.inl rfl)))
    | discovery => exact h₂ _ (.inl rfl)
  refine ⟨allowed_setSession fun _ p hb _ => ?_, fun _ _ => trivial⟩
  cases hb.symm.trans (hoff p)

theorem teardown_allowed (n : Network) :
    (teardown s).Withstands (Steady s) (Allowed s) (fun _ _ => True) n := by
  have heach (ids : List EndpointId) (n : Network) :
      (disconnectEach s ids).Withstands (Steady s) (Allowed s) (fun _ _ => True) n :=
    allowed_of_reporting (P := Mild) (C := fun r => ∃ id, r.call = .disconnectFromEndpoint id)
      (disconnectEach_reporting s (fun _ _ => rfl) fun id => ⟨id, rfl⟩) (fun _ hm => hm)
      (fun _ ⟨_, hr⟩ _ _ => by rw [hr]; trivial) n
  intro n₁ _
  show (disconnectEach s (n₁.session s).pendingEndpoints >>= fun _ =>
    asks s (·.connectedEndpoints) >>= fun ids =>
      disconnectEach s ids >>= fun _ => endActivities s).Withstands _ _ _ _
  refine .bind .refl ((heach _ n₁).imp fun _ n₂ _ n₃ _ => ?_)
  show (disconnectEach s (n₃.session s).connectedEndpoints >>= fun _ =>
    endActivities s).Withstands _ _ _ _
  exact .bind .refl ((heach _ n₃).imp fun _ n₄ _ => endActivities_allowed n₄)

/-- A call that fits, with a report that begins something if the call succeeds. -/
theorem starting_call {c : Call} {a : Answerable} {k : SessionHook Listener} {K : Session → Prop}
    (h : c.Fits (n.session s)) (hk : ∀ p, k.halts p = false) (begun : ∀ x, K (k.apply x).1)
    (hcore : ∀ {x y : Session}, y.core = x.core → K x → K y) :
    (call (some s) c (ifAllowed a (report s (fun x => k.apply x)))).Withstands (Steady s)
      (Allowed s) (fun status n' => status = .success → K (n'.session s) ∧ n'.LastCall s c) n := by
  refine steady_call (fun _ => h) fun n₁ _ hlast => ?_
  refine ifAllowed_withstands .refl (fun _ _ _ _ _ hs _ _ hok => absurd hok hs)
    fun n₂ h₂ n₃ h₃ => ⟨allowed_setSession fun _ p hb ha => ?_, fun n₄ h₄ n₅ h₅ n₆ h₆ _ => ?_⟩
  · cases ha.symm.trans (Pursuit.isOn_apply (hk p) hb)
  have hafter := h₄.trans (h₅.trans h₆)
  refine ⟨hcore hafter.core ?_, ?_⟩
  · show K ((n₃.setSession s _).session s)
    rw [Network.session_setSession_self]
    exact begun _
  · rw [Network.LastCall, hafter.history]
    show n₃.transport.history.getLast? = _
    rw [h₃.history, h₂.history]
    exact hlast

theorem isRelated_connectionInitiated (x : Session) (id : EndpointId) (info : ResponseInfo)
    (l : Listener) : (x.connectionInitiated id info (some l)).1.isRelated id = true := by
  refine Session.isRelated_iff.mpr ⟨_, Directory.get?_insert_self .., ?_⟩
  simp only
  split <;> simp

/-- As long as the session stays as it is, the two looks for a relation are as good as one. -/
theorem asksRelated_withstands {id : EndpointId} {f : Bool → Job α} {Q : α → Network → Prop}
    (related : ∀ n₁, Steady s n n₁ → (f true).Withstands (Steady s) (Allowed s) Q n₁)
    (unrelated : ∀ n₁, Steady s n n₁ → (n₁.session s).isRelated id = false →
      (f false).Withstands (Steady s) (Allowed s) Q n₁) :
    (asksRelated s id >>= f).Withstands (Steady s) (Allowed s) Q n := by
  rw [asksRelated_bind]
  refine guard_withstands (fun n₁ h₁ _ => related n₁ h₁) fun n₁ h₁ hc n₂ h₂ => ?_
  show (f ((n₂.session s).isPending id)).Withstands _ _ _ n₂
  cases hp : (n₂.session s).isPending id with
  | true => exact related n₂ (h₁.trans h₂)
  | false =>
    refine unrelated n₂ (h₁.trans h₂) ?_
    have hsame : (n₂.session s).isConnected id = (n₁.session s).isConnected id :=
      Session.isConnected_congr (congrArg (·.get? id) (congrArg Session.connections h₂.core))
    rw [Session.isRelated, hp, hsame, hc]
    rfl

/-- Whoever has found an endpoint connected may rely on it as long as the session stays as it is. -/
theorem asksAnyConnected_withstands {ids : List EndpointId} {f : Bool → Job α}
    {Q : α → Network → Prop}
    (found : ∀ n₁, Steady s n n₁ → ids.any (n₁.session s).isConnected = true →
      (f true).Withstands (Steady s) (Allowed s) Q n₁)
    (none : ∀ n₁, Steady s n n₁ → (f false).Withstands (Steady s) (Allowed s) Q n₁) :
    (asksAnyConnected s ids >>= f).Withstands (Steady s) (Allowed s) Q n := by
  induction ids generalizing n with
  | nil => exact none n (.refl n)
  | cons id ids ih =>
    intro n₁ h₁
    show Withstands _ _ _ (Plan.bind (if (n₁.session s).isConnected id then _ else _) f) n₁
    split
    · next hc => exact found n₁ h₁ (by rw [List.any_cons, hc, Bool.true_or])
    · refine ih (fun n₂ h₂ hany => ?_) fun n₂ h₂ => none n₂ (h₁.trans h₂)
      exact found n₂ (h₁.trans h₂) (by rw [List.any_cons, hany, Bool.or_true])

/-- A request arms its flag before its call, and is rolled back after it if the call fails. -/
theorem requestBody_allowed (id : EndpointId) (info : List UInt8) (options : ConnectionOptions)
    (l : Listener) (n : Network) :
    (requestBody s id info options l).Withstands (Steady s) (Allowed s)
      (fun status n' => status = .success → (n'.session s).isRelated id = true ∧
        n'.LastCall s (.requestConnection id options info)) n := by
  have hflags (f : Session → Session) (hf : ∀ x, (f x).core = x.core) (n : Network) :
      Allowed s n (n.setSession s (f (n.session s)), []) := allowed_setSession fun _ p hb ha => by
    rw [p.isOn_congr (hf _), hb] at ha
    cases ha
  refine asksRelated_withstands (fun _ _ _ _ hs => nomatch hs) fun n₁ h₁ hno => ?_
  refine guard_withstands (fun n₂ _ _ n₃ _ => ⟨hflags (·.rollBack id) (fun _ => rfl) n₃,
    fun _ _ hs => nomatch hs⟩) fun n₂ h₂ _ n₃ h₃ => ⟨hflags (·.armFlag id) (fun _ => rfl) n₃, ?_⟩
  have hfits : (Call.requestConnection id options info).Fits
      ((n₃.setSession s ((n₃.session s).armFlag id)).session s) := by
    rw [Network.session_setSession_self]
    exact (Session.isRelated_core (h₂.trans h₃).core id).trans hno
  show (Transport.requestConnection s id info options l >>= fun status =>
    if !status.isOk then changeSession s (·.rollBack id) >>= fun _ => done status
    else done status).Withstands _ _ _ _
  refine .bind .refl ((starting_call (k := .connectionInitiated id (requestedInfo id) (some l))
    (K := fun x => x.isRelated id = true) hfits (fun _ => rfl)
    (fun x => isRelated_connectionInitiated x id _ l)
    fun hxy hx => (Session.isRelated_core hxy id).trans hx).imp fun status n₄ h₄ => ?_)
  show Withstands _ _ _ (if !status.isOk then _ else _) n₄
  split
  · next hbad =>
    refine fun n₅ _ => ⟨hflags (·.rollBack id) (fun _ => rfl) n₅, fun _ _ hs => ?_⟩
    rw [hs] at hbad
    cases hbad
  · intro n₅ h₅ hs
    obtain ⟨hrel, hlast⟩ := h₄ hs
    exact ⟨(Session.isRelated_core h₅.core id).trans hrel, by rwa [Network.LastCall, h₅.history]⟩

/-- A body that begins a pursuit unless it is on. -/
theorem starting_body (p : Pursuit) {status : Status} {c : Call} {a : Answerable}
    {k : SessionHook Listener} (hs : status ≠ .success) (fits : ∀ x, p.isOn x = false → c.Fits x)
    (hk : ∀ q, k.halts q = false) (begun : ∀ x, p.isOn (k.apply x).1 = true) (n : Network) :
    (asks s p.isOn >>= fun on => if on then done status else
        call (some s) c (ifAllowed a (report s (fun x => k.apply x)))).Withstands (Steady s)
      (Allowed s) (fun status n' => status = .success →
        p.isOn (n'.session s) = true ∧ n'.LastCall s c) n :=
  guard_withstands (fun _ _ _ _ _ hok => absurd hok hs) fun _ _ hoff =>
    starting_call (K := fun x => p.isOn x = true) (fits _ hoff) hk begun
      fun hxy hx => (p.isOn_congr hxy).trans hx

/-- A body that ends a pursuit if it is on. -/
theorem halting_body (p : Pursuit) (n : Network) :
    (asks s p.isOn >>= fun on => if on then
        call (some s) p.stop (changeSession s p.halted) >>= fun _ => done Status.success
      else done .success).Withstands (Steady s) (Allowed s) (fun _ _ => True) n :=
  guard_withstands (fun n₁ _ _ => .bind .refl ((halting_call p n₁).imp fun _ _ _ _ _ => trivial))
    fun _ _ _ _ _ => trivial

/-- A body that succeeds with a call that fits. -/
theorem fitting_success {c : Call} {job : Job α} (h : c.Fits (n.session s))
    (hjob : job.Follows (Reporting Mild fun _ => False) () ()) :
    (call (some s) c job >>= fun _ => done Status.success).Withstands (Steady s) (Allowed s)
      (fun _ _ => True) n :=
  .bind .refl ((fitting_call h hjob).imp fun _ _ _ _ _ => trivial)

/-- A body that makes its call if the session is as the call wants it. -/
theorem fitting_body {f : Session → Bool} {status : Status} {c : Call} {job : Job α}
    (fits : ∀ x, f x = true → c.Fits x)
    (hjob : job.Follows (Reporting Mild fun _ => False) () ()) (n : Network) :
    (asks s f >>= fun on => if !on then done status else
        call (some s) c job >>= fun _ => done Status.success).Withstands (Steady s) (Allowed s)
      (fun _ _ => True) n :=
  guard_withstands (f := fun x => !f x) (fun _ _ _ _ _ => trivial) fun n₁ _ hf =>
    fitting_success (fits (n₁.session s) (by simpa using hf)) hjob

/-- A body that reports nothing that ends anything, and whose calls ask nothing of the session. -/
theorem free_body {op : Operation Listener} (hp : ∀ h, op.Reports h → ∀ p, h.halts p = false)
    (hc : ∀ r, op.Calls s r → ∀ x, r.call.Fits x) (n : Network) :
    (op.body s).Withstands (Steady s) (Allowed s) (fun _ _ => True) n :=
  allowed_of_reporting (op.body_reporting (P := fun _ h => op.Reports h) s (fun _ h => h)
    fun _ h => h) hp (fun r hr _ => hc r hr) n

/-- As long as the session stays as it is, a body only makes calls that fit, and ends no pursuit but
in the call that is to end it. If it succeeds, it has begun what it was to begin. -/
theorem body_allowed (op : Operation Listener) (n : Network) :
    (op.body s).Withstands (Steady s) (Allowed s)
      (fun status n' => status = .success → op.Achieved s n') n := by
  have hthen {job : Job Status} {P : Network → Prop} (hP : ∀ n', P n')
      (h : job.Withstands (Steady s) (Allowed s) (fun _ _ => True) n) :
      job.Withstands (Steady s) (Allowed s) (fun status n' => status = .success → P n') n :=
    h.imp fun _ n' _ _ => hP n'
  have mild {h : SessionHook Listener} (hh : ∀ p, h.halts p = false) : Mild s h := hh
  cases op with
  | startAdvertising service options info l =>
    exact starting_body .advertising (c := .startAdvertising service options info)
      (k := .startedAdvertising service l) (by decide) (fun _ hoff => hoff) (fun _ => rfl)
      (fun _ => rfl) n
  | startDiscovery service options l =>
    exact starting_body .discovery (c := .startDiscovery service options)
      (k := .startedDiscovery service l) (by decide) (fun _ hoff => hoff) (fun _ => rfl)
      (fun _ => rfl) n
  | requestConnection id info options l => exact requestBody_allowed id info options l n
  | stopAdvertising => exact hthen (fun _ => trivial) (halting_body .advertising n)
  | stopDiscovery => exact hthen (fun _ => trivial) (halting_body .discovery n)
  | injectEndpoint service endpoint =>
    simp only [body]
    split
    · exact fun _ _ _ => trivial
    · exact hthen (fun _ => trivial) (fitting_body (f := Session.isDiscovering)
        (c := .injectEndpoint endpoint.id) (fun _ hon => hon) (report_reporting
          (h := .endpointFound endpoint.id endpoint.info service) (mild fun _ => rfl)) n)
  | initiateBandwidthUpgrade id =>
    exact hthen (fun _ => trivial) (fitting_body (f := (·.isConnected id))
      (c := .initiateBandwidthUpgrade id) (fun _ hon => hon) (report_reporting
        (h := .bandwidthChanged id .wifiLan) (mild fun _ => rfl)) n)
  | sendPayload ids payload =>
    have hjob : (changeTransport (·.keepPayload payload.id) >>= fun _ =>
        sendToEach s payload ids).Follows (Reporting Mild fun _ => False) () () :=
      .bind (changeTransport_reporting fun _ => rfl) fun _ =>
        sendToEach_reporting fun _ _ _ => mild fun _ => rfl
    exact hthen (fun _ => trivial) (asksAnyConnected_withstands
      (fun _ _ hany => fitting_success (c := .sendPayload ids payload) hany hjob)
      fun _ _ _ _ => trivial)
  | stopAllEndpoints =>
    exact .bind .refl ((teardown_allowed n).imp fun _ _ _ _ _ _ => trivial)
  | _ =>
    refine hthen (fun _ => trivial) (free_body (fun _ h p => ?_) (fun _ h x => ?_) n)
    · cases h <;> cases p <;> rfl
    · cases h with
      | own hc => cases hc; trivial

end Operation

namespace Errand

variable {τ : Type} {s : SessionName} {R : Network → Network → Prop}

/-- Whoever is inside on another errand than an operation of the session makes no call for it that
asks anything of it, and ends no pursuit of it, whatever happens meanwhile. -/
theorem plan_allowed {e : Errand τ} (h : ∀ t, e = .operation t → t.session ≠ s) (n : Network) :
    e.plan.Withstands R (Allowed s) (fun _ _ => True) n := by
  refine Job.allowed_of_reporting e.plan_reporting (fun hook hr p => ?_) (fun r hr hs x => ?_) n
  · cases hr with
    | @operation t => exact absurd rfl (h t rfl)
    | _ => cases p <;> rfl
  · cases hr with
    | @operation t _ hr => exact absurd (Operation.eq_of_calls hr hs) (h t rfl)
    | _ => trivial

end Errand

end Switchboard
