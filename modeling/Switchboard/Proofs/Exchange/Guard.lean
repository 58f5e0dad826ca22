import Switchboard.Proofs.Exchange.Cancellation

/-!
# The guard of a request

A request looks whether its endpoint is connected and then whether it is pending, and anything may
happen between the two looks and after them. So it may go on although there is a relation: a report
has brought it about since the second look (`Belated`), or has accepted it between the two, so that
neither has found it (`Slipped`).
-/

namespace Switchboard

variable {τ υ : Type}

/-- What is prepared for an operation is prepared for the flags. -/
theorem Operation.connections_prepare {L : Type} (op : Operation L) (s : Session) :
    (op.prepare s).connections = s.connections := by
  cases op <;> rfl

/-- The operation that the act is to carry out, or is carrying out. -/
def Act.task? : Act τ → Option (Task τ)
  | enter (.operation t) | inside (.operation t) _ _ => some t
  | _ => none

namespace Exchange

/-- A report from outside makes the session be as `f` says. -/
def Moment.Brings (s : SessionName) (f : Session → Bool) (m : Moment τ υ) : Prop :=
  (∃ h, m.act = .request (.hook (.session s h))) ∧
    f (m.before.network.session s) = false ∧ f (m.after.network.session s) = true

/-- Member `k` has looked for a connection at `first`, in the body of its request `t`, and has not
found one. It has been in this body since. -/
structure LookedOnce (id : EndpointId) (k : Nat) (t : Task τ) (first : Moment τ υ)
    (since moments : List (Moment τ υ)) : Prop where
  split : ∃ early, moments = early ++ first :: since
  member : first.member = k
  act : first.act = .inside (.operation t) (t.operation.body t.session) []
  found : (first.before.network.session t.session).isConnected id = false
  stays : ∀ m ∈ since, m.act.leaves = false

/-- Member `k` has taken both looks of the guard of its request `t` and has not found a relation. -/
structure LookedTwice (id : EndpointId) (k : Nat) (t : Task τ) (first : Moment τ υ)
    (between : List (Moment τ υ)) (second : Moment τ υ) (since moments : List (Moment τ υ)) :
    Prop where
  once : LookedOnce id k t first (between ++ second :: since) moments
  member : second.member = k
  act : ∃ info options l, t.operation = .requestConnection id info options l ∧
    second.act = .inside (.operation t) (Operation.pendingCheck t.session id info options l) []
  found : (second.before.network.session t.session).isPending id = false

/-- The endpoint was connected by the second look: a report has accepted it after the first. -/
def Slipped (id : EndpointId) (k : Nat) (t : Task τ) (moments : List (Moment τ υ)) : Prop :=
  ∃ first between second since, LookedTwice id k t first between second since moments ∧
    (second.before.network.session t.session).isConnected id = true ∧
      ∃ x ∈ between, x.Brings t.session (·.isConnected id)

/-- There was no relation at the second look, and a report has brought one about since. -/
def Belated (id : EndpointId) (k : Nat) (t : Task τ) (moments : List (Moment τ υ)) : Prop :=
  ∃ first between second since, LookedTwice id k t first between second since moments ∧
    (second.before.network.session t.session).isRelated id = false ∧
      ∃ x ∈ since, x.Brings t.session (·.isRelated id)

/-- The guard of the request that the act is about has missed the relation: it has come about since
the second look, or has been accepted between the two. -/
def Unnoticed (s : SessionName) (id : EndpointId) (past : List (Moment τ υ)) (m : Moment τ υ) :
    Prop :=
  ∃ t, m.act.task? = some t ∧ t.session = s ∧
    (Slipped id m.member t past ∨ Belated id m.member t past)

section Step

variable {o : Outside τ υ} {me k : Nat} {d d' : Desk τ υ} {act : Act τ} {acts : List (Act τ)}
  {s : SessionName} {id : EndpointId} {t : Task τ} {m first second : Moment τ υ}
  {between since moments ms : List (Moment τ υ)} {f : Session → Bool} {b b' : Bool}
  {info : List UInt8} {options : ConnectionOptions} {l : Listener}

/-- Outside the transport nothing but a report makes a difference to the connections. -/
theorem brings_of_outside (hf : ∀ {x y : Session}, y.connections = x.connections → f y = f x)
    (h : Effect o me d act d' acts) (hi : act.isInside = false)
    (hr : f (d'.network.session s) = true) :
    f (d.network.session s) = true ∨ Moment.Brings s f ⟨me, act, d, d'⟩ := by
  cases hb : f (d.network.session s) with
  | true => exact .inl rfl
  | false =>
    have same (heq : (d'.network.session s).connections = (d.network.session s).connections) :
        False := by
      rw [hf heq, hb] at hr
      cases hr
    cases h with
    | submit t =>
      refine (same ?_).elim
      show ((d.network.setSession _ _).session s).connections = _
      rw [Network.session_setSession]
      split
      · next he => exact he ▸ Operation.connections_prepare ..
      · rfl
    | hook hook =>
      cases hook with
      | transport hook => exact (same rfl).elim
      | session name hook =>
        by_cases hn : name = s
        · exact .inr ⟨⟨hook, by rw [hn]⟩, hb, hr⟩
        · refine (same (congrArg _ ?_)).elim
          exact (Network.session_setSession ..).trans (if_neg hn)
    | look | act | await | leave => cases hi
    | _ => exact (same rfl).elim

/-- What is so by now has been brought about if it was not so at first. -/
theorem brought_append (h : b = true → ∃ x ∈ since, x.Brings s f)
    (hb : b' = true → b = true ∨ ∃ x ∈ ms, x.Brings s f) :
    b' = true → ∃ x ∈ since ++ ms, x.Brings s f := fun ht => by
  rcases hb ht with ht | ⟨x, hx, hbrings⟩
  · obtain ⟨x, hx, hbrings⟩ := h ht
    exact ⟨x, List.mem_append_left _ hx, hbrings⟩
  · exact ⟨x, List.mem_append_right _ hx, hbrings⟩

theorem LookedOnce.append (h : LookedOnce id k t first since moments)
    (hms : ∀ m ∈ ms, m.act.leaves = false) :
    LookedOnce id k t first (since ++ ms) (moments ++ ms) := by
  obtain ⟨early, hsplit⟩ := h.split
  refine ⟨⟨early, by simp [hsplit]⟩, h.member, h.act, h.found, fun x hx => ?_⟩
  exact (List.mem_append.mp hx).elim (h.stays x) (hms x)

theorem LookedTwice.append (h : LookedTwice id k t first between second since moments)
    (hms : ∀ m ∈ ms, m.act.leaves = false) :
    LookedTwice id k t first between second (since ++ ms) (moments ++ ms) := by
  have honce := h.once.append hms
  rw [List.append_assoc, List.cons_append] at honce
  exact ⟨honce, h.member, h.act, h.found⟩

theorem Slipped.append (h : Slipped id k t moments) (hms : ∀ m ∈ ms, m.act.leaves = false) :
    Slipped id k t (moments ++ ms) := by
  obtain ⟨first, between, second, since, htwice, hc, hx⟩ := h
  exact ⟨first, between, second, since ++ ms, htwice.append hms, hc, hx⟩

theorem Slipped.exists_brings (h : Slipped id k t moments) :
    ∃ x ∈ moments, x.Brings t.session (·.isConnected id) := by
  obtain ⟨first, between, second, since, htwice, _, x, hx, hbrings⟩ := h
  obtain ⟨early, rfl⟩ := htwice.once.split
  exact ⟨x, by simp [hx], hbrings⟩

/-! ## The two looks -/

/-- A request finds the endpoint connected at its first look, or goes on to the second. -/
theorem LookedOnce.of_firstLook (moments : List (Moment τ υ)) (hk : m.member = k)
    (hop : t.operation = .requestConnection id info options l)
    (ha : m.act = .inside (.operation t) (t.operation.body t.session) [])
    (he : Effect o m.member m.before m.act m.after acts) :
    m.after = m.before ∧ ∃ plan, acts = [.inside (.operation t) plan []] ∧
      (plan = .done .alreadyConnectedToEndpoint ∨
        plan = Operation.pendingCheck t.session id info options l ∧
          LookedOnce id k t m [] (moments ++ [m])) := by
  have hbody := (congrArg (Operation.body t.session) hop).trans (Operation.requestBody_eq ..)
  have hlook := ha
  rw [hbody] at hlook
  rw [hlook] at he
  generalize hafter : m.after = d' at he
  cases he
  refine ⟨rfl, _, rfl, ?_⟩
  dsimp only
  split
  · exact .inl rfl
  · next hc =>
    exact .inr ⟨rfl, ⟨moments, rfl⟩, hk, ha, Bool.eq_false_iff.mpr hc, fun _ hx => by cases hx⟩

/-- A request finds the endpoint pending at its second look, or goes on to the flag. Then it has let
the relation slip, or there is none. -/
theorem LookedOnce.secondLook (h : LookedOnce id k t first since moments) (hk : m.member = k)
    (hop : t.operation = .requestConnection id info options l)
    (ha : m.act = .inside (.operation t) (Operation.pendingCheck t.session id info options l) [])
    (he : Effect o m.member m.before m.act m.after acts)
    (hx : (m.before.network.session t.session).isConnected id = true →
      ∃ x ∈ since, x.Brings t.session (·.isConnected id)) :
    m.after = m.before ∧ ∃ plan, acts = [.inside (.operation t) plan []] ∧
      (plan = .done .alreadyConnectedToEndpoint ∨
        plan = Operation.flagCheck t.session id info options l ∧
          (Slipped id k t (moments ++ [m]) ∨
            LookedTwice id k t first since m [] (moments ++ [m]) ∧
              (m.before.network.session t.session).isRelated id = false)) := by
  have honce : LookedOnce id k t first (since ++ [m]) (moments ++ [m]) :=
    h.append (List.forall_mem_singleton.mpr (by rw [ha]; rfl))
  have hlook := ha
  rw [Operation.pendingCheck_eq] at hlook
  rw [hlook] at he
  generalize hafter : m.after = d' at he
  cases he
  refine ⟨rfl, _, rfl, ?_⟩
  dsimp only
  split
  · exact .inl rfl
  next hp =>
  have hp := Bool.eq_false_iff.mpr hp
  have htwice : LookedTwice id k t first since m [] (moments ++ [m]) :=
    ⟨honce, hk, ⟨info, options, l, hop, ha⟩, hp⟩
  refine .inr ⟨rfl, ?_⟩
  cases hc : (m.before.network.session t.session).isConnected id with
  | true => exact .inl ⟨first, since, m, [], htwice, hc, hx hc⟩
  | false =>
    refine .inr ⟨htwice, ?_⟩
    rw [Session.isRelated, hp, hc]
    rfl

end Step

end Exchange

end Switchboard
