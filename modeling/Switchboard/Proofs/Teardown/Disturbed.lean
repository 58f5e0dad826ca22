import Switchboard.Proofs.Call
import Switchboard.Proofs.Fate
import Switchboard.Proofs.Teardown

/-!
# A teardown that is disturbed

What stopping all endpoints does to one connection, whatever is reported to the session in between.
As long as the connection does not come into being meanwhile, the body finds it on one of its two
looks or it has ended by then (`Due`), and it ends it by disconnecting the endpoint
(`body_stopAllEndpoints_succeeds`).
-/

namespace Switchboard

variable {s : SessionName} {id : EndpointId} {l : Listener} {n n' : Network}

/-- Nobody has called the transport, and the listener has not come to attend to the endpoint. Nor
has its connection gone back from accepted to pending. -/
structure Quiet (s : SessionName) (id : EndpointId) (l : Listener) (n n' : Network) : Prop where
  history : n'.transport.history = n.transport.history
  attends : (n'.session s).Attends id l → (n.session s).Attends id l ∧
    ((n.session s).isConnected id = true → (n'.session s).isConnected id = true)

/-- If the change ends the connection, then it does so in the call that disconnects the endpoint,
and tells the listener. -/
def Dismisses (s : SessionName) (id : EndpointId) (l : Listener) (n : Network)
    (r : Network × List Emission) : Prop :=
  (n.session s).Attends id l → ¬ (r.1.session s).Attends id l →
    n.transport.history.getLast? = some ⟨some s, .disconnectFromEndpoint id⟩ ∧
      .connection l (.disconnected id) ∈ r.2

/-- The connection is over, or its endpoint is among those still to be disconnected, or it is
accepted and there will be another look. -/
def Due (s : SessionName) (id : EndpointId) (l : Listener) (ids : List EndpointId) (again : Bool)
    (n : Network) : Prop :=
  (n.session s).Attends id l → id ∈ ids ∨ again = true ∧ (n.session s).isConnected id = true

namespace Quiet

theorem refl (n : Network) : Quiet s id l n n := ⟨rfl, fun h => ⟨h, fun hc => hc⟩⟩

theorem trans {n₁ n₂ n₃ : Network} (h : Quiet s id l n₁ n₂) (h' : Quiet s id l n₂ n₃) :
    Quiet s id l n₁ n₃ where
  history := h'.history.trans h.history
  attends ha :=
    ⟨(h.attends (h'.attends ha).1).1,
      fun hc => (h'.attends ha).2 ((h.attends (h'.attends ha).1).2 hc)⟩

theorem due {ids : List EndpointId} {again : Bool} (h : Quiet s id l n n')
    (hd : Due s id l ids again n) : Due s id l ids again n' := fun ha =>
  (hd (h.attends ha).1).imp_right fun ⟨hb, hc⟩ => ⟨hb, (h.attends ha).2 hc⟩

end Quiet

theorem Dismisses.of_eq {r : Network × List Emission}
    (h : (r.1.session s).connections.get? id = (n.session s).connections.get? id) :
    Dismisses s id l n r := by
  intro ha hn
  unfold Session.Attends at ha hn
  rw [h] at hn
  exact absurd ha hn

theorem Due.of_eq {ids : List EndpointId} {again : Bool}
    (h : (n'.session s).connections.get? id = (n.session s).connections.get? id)
    (hd : Due s id l ids again n) : Due s id l ids again n' := by
  unfold Due Session.Attends Session.isConnected Session.relation at hd ⊢
  rwa [h]

theorem Due.over (hd : Due s id l [] false n) : ¬ (n.session s).Attends id l := fun ha =>
  (hd ha).elim (fun h => nomatch h) fun h => nomatch h.1

namespace Operation

open Job

variable {α : Type} {ids ids' : List EndpointId} {again again' : Bool}

/-- What is still due is so in the body of a call, which comes right after its record. -/
theorem due_call {r : Option SessionName} {c : Call} {body : Job α}
    (hd : Due s id l ids again n)
    (h : ∀ n', Due s id l ids again n' → n'.transport.history.getLast? = some ⟨r, c⟩ →
      body.Withstands (Quiet s id l) (Dismisses s id l) (fun _ => Due s id l ids' again') n') :
    (Transport.call r c body).Withstands (Quiet s id l) (Dismisses s id l)
      (fun _ => Due s id l ids' again') n := by
  refine Transport.call_withstands .refl (fun _ _ => .of_eq rfl) (fun _ => .of_eq rfl)
    (fun _ => .of_eq rfl) fun n₁ n₂ n₃ h₁ h₂ h₃ => ?_
  have hlast : n₃.transport.history.getLast? = some ⟨r, c⟩ := by
    rw [h₃.history, h₂.history]
    exact List.getLast?_concat
  have hd₃ : Due s id l ids again n₃ := h₃.due (h₂.due (.of_eq rfl (h₁.due hd)))
  refine (h (n₃.onTransport (·.enter)) (.of_eq rfl hd₃) hlast).imp fun a n₄ h₄ n₅ n₆ h₅ h₆ => ?_
  exact h₆.due (.of_eq rfl (h₅.due h₄))

/-- Once its endpoint has been disconnected the connection is over. -/
theorem disconnectFromEndpoint_withstands {id' : EndpointId}
    (hd : Due s id l (id' :: ids) again n) :
    (Transport.disconnectFromEndpoint s id').Withstands (Quiet s id l) (Dismisses s id l)
      (fun _ => Due s id l ids again) n := by
  refine due_call hd fun n₁ h₁ hlast n₂ h₂ => ?_
  have hd₂ := h₂.due h₁
  let x := n₂.session s
  have hsession : (n₂.onSession s (·.disconnected id')).1.session s = (x.disconnected id').1 :=
    Network.session_setSession_self ..
  have hget : ((n₂.onSession s (·.disconnected id')).1.session s).connections.get? id =
      if id' = id then none else x.connections.get? id := by
    rw [hsession]
    exact Session.get?_endConnection x id' id (.disconnected id')
  by_cases he : id' = id
  · subst he
    rw [if_pos rfl] at hget
    refine ⟨fun ⟨c, hc, hl⟩ _ => ⟨by rw [h₂.history, hlast], ?_⟩, fun n₃ h₃ => h₃.due ?_⟩
    · subst hl
      show _ ∈ (x.disconnected id').2
      rw [SessionHook.emitted_disconnected hc]
      exact List.mem_singleton_self _
    · rintro ⟨c, hc, _⟩
      rw [hget] at hc
      cases hc
  · rw [if_neg he] at hget
    refine ⟨.of_eq hget, fun n₃ h₃ => h₃.due fun ha => ?_⟩
    have hd₃ := Due.of_eq hget hd₂ ha
    exact hd₃.imp_left fun hm => (List.mem_cons.mp hm).resolve_left (Ne.symm he)

theorem disconnectEach_withstands (hd : Due s id l ids again n) :
    (disconnectEach s ids).Withstands (Quiet s id l) (Dismisses s id l)
      (fun _ => Due s id l [] again) n := by
  induction ids generalizing n with
  | nil => exact fun n₁ h₁ => h₁.due hd
  | cons id' ids ih =>
    exact .bind .refl ((disconnectFromEndpoint_withstands hd).imp fun _ n' h' => ih h')

/-- A call that leaves the connections alone. -/
theorem aside_withstands {r : Option SessionName} {c : Call} {f : Session → Session}
    (hf : ∀ x, (f x).connections = x.connections) (hd : Due s id l ids again n) :
    (Transport.call r c (changeSession s f)).Withstands (Quiet s id l) (Dismisses s id l)
      (fun _ => Due s id l ids again) n := by
  refine due_call hd fun n₁ h₁ _ n₂ h₂ => ?_
  have hget : ((n₂.setSession s (f (n₂.session s))).session s).connections.get? id =
      (n₂.session s).connections.get? id := by
    rw [Network.session_setSession_self, hf]
  exact ⟨.of_eq hget, fun n₃ h₃ => h₃.due (.of_eq hget (h₂.due h₁))⟩

theorem endActivities_withstands (hd : Due s id l [] false n) :
    (endActivities s).Withstands (Quiet s id l) (Dismisses s id l)
      (fun _ => Due s id l [] false) n := by
  refine .bind .refl
    ((aside_withstands (f := (·.stoppedAdvertising)) (fun _ => rfl) hd).imp fun _ n₁ h₁ => ?_)
  refine .bind .refl
    ((aside_withstands (f := (·.stoppedDiscovery)) (fun _ => rfl) h₁).imp fun _ n₂ h₂ => ?_)
  have hupgrades : Transport.shutdownUpgrades.Withstands (Quiet s id l) (Dismisses s id l)
      (fun _ => Due s id l [] false) n₂ := due_call h₂ fun n h _ n' h' => h'.due h
  refine .bind .refl (hupgrades.imp fun _ n₃ h₃ => ?_)
  -- by now the connection is over, and the reset has nothing to end
  intro n₄ h₄
  refine ⟨fun ha => absurd ha (h₄.due h₃).over, fun n₅ h₅ => h₅.due ?_⟩
  rintro ⟨c, hc, _⟩
  rw [Network.session_setSession_self] at hc
  cases hc

theorem due_pendingEndpoints (n : Network) :
    Due s id l (n.session s).pendingEndpoints true n := by
  rintro ⟨c, hc, _⟩
  by_cases hr : c.relation = .connected
  · refine .inr ⟨rfl, Session.isConnected_iff.mpr ?_⟩
    unfold Session.relation
    rw [hc]
    exact hr
  · exact .inl (Directory.mem_keysWhere.mpr ⟨c, hc, by simpa using hr⟩)

theorem due_connectedEndpoints (h : Due s id l [] true n) :
    Due s id l (n.session s).connectedEndpoints false n := by
  rintro ⟨c, hc, hl⟩
  have ha : (n.session s).Attends id l := ⟨c, hc, hl⟩
  have hr := Session.isConnected_iff.mp ((h ha).resolve_left (fun h => nomatch h)).2
  unfold Session.relation at hr
  rw [hc] at hr
  exact .inl (Directory.mem_keysWhere.mpr ⟨c, hc, by simpa using hr⟩)

/-- As long as nobody initiates the connection, stopping all endpoints ends it by disconnecting its
endpoint if it has to be ended at all, and leaves with the connection over. -/
theorem body_stopAllEndpoints_withstands (n : Network) :
    (body s .stopAllEndpoints).Withstands (Quiet s id l) (Dismisses s id l)
      (fun _ n' => ¬ (n'.session s).Attends id l) n := by
  have hteardown : (teardown s).Withstands (Quiet s id l) (Dismisses s id l)
      (fun _ => Due s id l [] false) n := by
    intro n₁ _
    show (disconnectEach s (n₁.session s).pendingEndpoints >>= fun _ =>
      asks s (·.connectedEndpoints) >>= fun ids =>
        disconnectEach s ids >>= fun _ => endActivities s).Withstands _ _ _ _
    refine .bind .refl ((disconnectEach_withstands (due_pendingEndpoints n₁)).imp fun _ n₂ h₂ => ?_)
    intro n₃ h₃
    show (disconnectEach s (n₃.session s).connectedEndpoints >>= fun _ =>
      endActivities s).Withstands _ _ _ _
    refine .bind .refl ((disconnectEach_withstands (due_connectedEndpoints (h₃.due h₂))).imp ?_)
    exact fun _ n₄ h₄ => endActivities_withstands h₄
  exact .bind .refl (hteardown.imp fun _ n₁ h₁ n₂ h₂ => (h₂.due h₁).over)

/-- To stop all endpoints always succeeds. -/
theorem body_stopAllEndpoints_succeeds (s : SessionName) (n : Network) :
    (body s .stopAllEndpoints).Withstands (fun _ _ => True) (fun _ _ => True)
      (fun status _ => status = .success) n :=
  .bind (fun _ => trivial) ((Plan.Withstands.of_true (teardown s) n).imp fun _ _ _ _ _ => rfl)

end Operation

end Switchboard
