import Switchboard.Proofs.Account
import Switchboard.Proofs.Conduct

/-!
# Failures

An operation that ends with another status than success has changed nothing. `Harmless` are the
changes on the way to a failure: those of the call itself, and what a request does to the flag of
its endpoint; `body_spares` shows that there are no others, whatever comes in between. `objection?`
is the status that an operation is refused with before it calls the transport. `failed_operation`
puts both together with the account of the operation.
-/

namespace Switchboard

/-! ## The flag of a failed request -/

namespace FlagBoard

/-- The flag of `id` is forgotten, and whoever holds it sees it raised; nothing else changes about
the flags there are. -/
structure Discards (b b' : FlagBoard) (id : EndpointId) : Prop where
  gone : b'.handle? id = none
  others : ∀ id', id ≠ id' → b'.handle? id' = b.handle? id'
  raised : ∀ f : FlagHandle, f.index < b.raised.length →
    (b'.isRaised f = true ↔ b.isRaised f = true ∨ b.handle? id = some f)

theorem isRaised_cancel_iff {b : FlagBoard} {id : EndpointId} {f : FlagHandle}
    (hf : f.index < b.raised.length) :
    (b.cancel id).isRaised f = true ↔ b.isRaised f = true ∨ b.handle? id = some f := by
  unfold cancel
  cases hh : b.handle? id with
  | none => simp
  | some h =>
    simp only [isRaised_raise, Bool.or_eq_true, Bool.and_eq_true, decide_eq_true_eq, beq_iff_eq,
      Option.some.injEq]
    refine or_congr_right ⟨fun ⟨_, he⟩ => congrArg FlagHandle.mk he, ?_⟩
    rintro rfl
    exact ⟨hf, rfl⟩

theorem discards_cancel_remove (b : FlagBoard) (id : EndpointId) :
    b.Discards ((b.cancel id).remove id) id where
  gone := by rw [handle?_remove, if_pos rfl]
  others id' hne := by rw [handle?_remove, if_neg hne, handle?_cancel]
  raised f hf := by rw [isRaised_remove, isRaised_cancel_iff hf]

theorem length_le_register (b : FlagBoard) (id : EndpointId) :
    b.raised.length ≤ (b.register id).raised.length := by
  unfold register
  split
  · exact Nat.le_refl _
  · simp [make]

/-- A flag that was there before has the id only if it had it before. -/
theorem handle?_register_iff {b : FlagBoard} {id : EndpointId} {f : FlagHandle}
    (hf : f.index < b.raised.length) :
    (b.register id).handle? id = some f ↔ b.handle? id = some f := by
  rw [handle?_register, if_pos rfl]
  cases b.handle? id with
  | some h => simp
  | none =>
    refine ⟨fun he => ?_, fun he => by cases he⟩
    cases he
    exact absurd hf (Nat.lt_irrefl _)

/-- A flag that is made only to be discarded makes no difference to those that were there. -/
theorem discards_register {b b' : FlagBoard} {id : EndpointId}
    (h : (b.register id).Discards b' id) : b.Discards b' id where
  gone := h.gone
  others id' hne := by rw [h.others id' hne, handle?_register, if_neg hne]
  raised f hf := by
    rw [h.raised f (Nat.lt_of_lt_of_le hf (length_le_register b id)), isRaised_register,
      handle?_register_iff hf]

end FlagBoard

/-! ## Harmless changes -/

/-- A change on the way to a failure of an operation of the session: the transport keeps its
payloads, and the session has at most a flag in `own` armed or rolled back. -/
inductive Harmless (s : SessionName) (own : EndpointId → Prop) :
    (Network → Network × List Emission) → Prop where
  | aside {f : Transport → Transport} (h : ∀ t, (f t).payloads = t.payloads) :
    Harmless s own (fun n => (n.onTransport f, []))
  | arm {id : EndpointId} (h : own id) :
    Harmless s own (fun n => (n.setSession s ((n.session s).armFlag id), []))
  | rollBack {id : EndpointId} (h : own id) :
    Harmless s own (fun n => (n.setSession s ((n.session s).rollBack id), []))

theorem Harmless.payloads {s : SessionName} {own : EndpointId → Prop}
    {change : Network → Network × List Emission} (h : Harmless s own change) (n : Network) :
    (change n).1.transport.payloads = n.transport.payloads := by
  cases h with
  | aside h => exact h n.transport
  | arm | rollBack => rfl

namespace Operation

open Job Transport Plan

variable {s : SessionName} {own : EndpointId → Prop} {n : Network}

/-- Whether an operation that ends so has failed. -/
abbrev Failed (status : Status) : Prop := status ≠ .success

theorem not_failed : ¬ Failed .success := fun h => h rfl

section Spares

/-- The frame of a call is harmless. -/
theorem call_spares {α : Type} {Q : α → Prop} {r : Option SessionName} {c : Call} {body : Job α}
    (h : body.Spares (Harmless s own) Q) : (call r c body).Spares (Harmless s own) Q := by
  refine .act (.aside fun _ => rfl) <| .await _ <| .act (.aside fun _ => rfl) ?_
  show Spares _ _ (body >>= fun a => changeTransport leave >>= fun _ => .done a)
  refine Spares.bind h (fun a _ => ?_) fun a hn => ?_
  · exact .act (.aside fun _ => rfl) (.done a)
  · exact .act _ (.done hn)

/-- What is done only after the outcome was found to be success is not done on the way to a
failure. -/
theorem ifAllowed_spares (c : Answerable) (work : Job Unit) :
    (ifAllowed c work).Spares (Harmless s own) Failed := by
  refine .look fun n => ?_
  show Spares _ _ (if (n.transport.outcome c).isOk then _ else _)
  split
  · next hok => exact .avoids (.after work fun _ => .done fun hf => hf (Status.isOk_iff.mp hok))
  · exact .done _

theorem success_spares (work : Job Unit) :
    (work >>= fun _ => .done .success).Spares (Harmless s own) Failed :=
  .avoids (.after work fun _ => .done not_failed)

/-- To ask is no change. -/
theorem asks_spares {α β : Type} {Q : β → Prop} {f : Session → α} {next : α → Job β}
    (h : ∀ a, (next a).Spares (Harmless s own) Q) :
    (asks s f >>= next).Spares (Harmless s own) Q := .look fun _ => h _

theorem answerGuard_spares {id : EndpointId} {job : Job Status}
    (h : job.Spares (Harmless s own) Failed) :
    (answerGuard s id >>= fun status => if !status.isOk then .done status else job).Spares
      (Harmless s own) Failed := by
  refine .after_looks (answerGuard_looks s id) fun status => ?_
  split
  · exact .done status
  · exact h

theorem requestBody_spares {id : EndpointId} (info : List UInt8) (options : ConnectionOptions)
    (l : Listener) (h : own id) :
    (requestBody s id info options l).Spares (Harmless s own) Failed := by
  refine .after_looks (asksRelated_looks s id) fun related => ?_
  split
  · exact .done _
  refine asks_spares fun cancelled => ?_
  split
  · exact .act (.rollBack h) (.done _)
  refine .act (.arm h) ?_
  show Spares _ _ (Transport.requestConnection s id info options l >>= _)
  refine Spares.bind (call_spares (ifAllowed_spares .requestConnection _))
    (fun status _ => ?_) fun status hok => ?_
  · show Spares _ _ (if !status.isOk then _ else _)
    split
    · exact .act (.rollBack h) (.done _)
    · exact .done _
  · obtain rfl : status = .success := Decidable.not_not.mp hok
    exact .done not_failed

theorem cancelPayload_spares (p : PayloadId) :
    (Transport.cancelPayload s p).Spares (Harmless s own) Failed := by
  refine call_spares (.look fun n => ?_)
  show Spares _ _ (if (n.transport.outcome .cancelPayload).isOk then _ else _)
  split
  · refine .look fun n => ?_
    show Spares _ _ (if n.transport.payloads.contains p then _ else _)
    split
    · exact success_spares _
    · exact .done _
  · exact .done _

/-- Whatever comes in between, an operation makes only harmless changes on its way to a failure. -/
theorem body_spares (s : SessionName) (op : Operation Listener) :
    (op.body s).Spares (Harmless s fun id => op.requests id) Failed := by
  cases op with
  | startAdvertising | startDiscovery =>
    refine asks_spares fun active => ?_
    split
    · exact .done _
    · exact call_spares (ifAllowed_spares _ _)
  | stopAdvertising | stopDiscovery =>
    refine asks_spares fun active => ?_
    split
    · exact success_spares _
    · exact .done _
  | updateAdvertisingOptions | updateDiscoveryOptions =>
    exact call_spares (.look fun _ => .done _)
  | injectEndpoint service m =>
    simp only [body]
    split
    · exact .done _
    refine asks_spares fun discovering => ?_
    split
    · exact .done _
    · exact success_spares _
  | requestConnection id info options l => exact requestBody_spares info options l rfl
  | acceptConnection id l =>
    refine answerGuard_spares (asks_spares fun cancelled => ?_)
    split
    · exact .done _
    · exact call_spares (ifAllowed_spares _ _)
  | rejectConnection id => exact answerGuard_spares (call_spares (ifAllowed_spares _ _))
  | initiateBandwidthUpgrade =>
    refine asks_spares fun connected => ?_
    split
    · exact .done _
    · exact success_spares _
  | sendPayload ids =>
    refine .after_looks (asksAnyConnected_looks s ids) fun connected => ?_
    split
    · exact .done _
    · exact success_spares _
  | disconnectFromEndpoint id =>
    refine .after_looks (asksRelated_looks s id) fun related => ?_
    split
    · exact .done _
    · exact success_spares _
  | cancelPayload p => exact cancelPayload_spares p
  | stopAllEndpoints | setCustomSavePath => exact success_spares _

end Spares

/-! ## Refusals -/

/-- The status that the operation is refused with before it comes to call the transport. -/
def objection? {L : Type} (x : Session) : Operation L → Option Status
  | startAdvertising .. => if x.isAdvertising then some .alreadyAdvertising else none
  | startDiscovery .. => if x.isDiscovering then some .alreadyDiscovering else none
  | injectEndpoint _ m =>
    if !m.check.isOk then some m.check
    else if !x.isDiscovering then some .outOfOrderApiCall
    else none
  | requestConnection id .. =>
    if x.isConnected id || x.isPending id then some .alreadyConnectedToEndpoint
    else if x.isCancelled id then some .endpointIoError
    else none
  | acceptConnection id _ =>
    match refusal? x id with
    | some status => some status
    | none => if x.isCancelled id then some .endpointIoError else none
  | rejectConnection id => refusal? x id
  | initiateBandwidthUpgrade id => if !x.isConnected id then some .outOfOrderApiCall else none
  | sendPayload ids _ => if !ids.any x.isConnected then some .endpointUnknown else none
  | disconnectFromEndpoint id =>
    if !(x.isConnected id || x.isPending id) then some .outOfOrderApiCall else none
  | _ => none

/-- A failed request has taken its flag back. -/
def revocation {L : Type} (x : Session) : Operation L → List (SessionHook Listener)
  | requestConnection id .. =>
    if x.isConnected id || x.isPending id then []
    else if x.isCancelled id then [.cancel id, .removeFlag id]
    else [.armFlag id, .cancel id, .removeFlag id]
  | _ => []

variable {x : Session} {t : Transport} {op : Operation Listener}

theorem account_of_objection {status : Status} (h : op.objection? x = some status) :
    (op.account s x t).result = status ∧ (op.account s x t).calls = [] := by
  cases op <;> grind [objection?, account, called]

theorem failed_of_objection {status : Status} (h : op.objection? x = some status) :
    Failed status := by
  cases op <;> grind [objection?, refusal?, Status.isOk_iff]

/-- Without an objection the transport is called, once if the operation fails. -/
theorem calls_of_failed (h : op.objection? x = none) (hf : Failed (op.account s x t).result) :
    ∃ call, (op.account s x t).calls = [⟨some s, call⟩] := by
  cases op <;> grind [objection?, account, called]

theorem reports_of_failed (hf : Failed (op.account s x t).result) :
    (op.account s x t).reports = op.revocation x := by
  cases op <;> grind [revocation, account, called, Status.isOk_iff]

/-- To take a request back discards its flag, and nothing else. -/
theorem applyAll_revocation (x : Session) (op : Operation Listener) :
    ∃ flags, SessionHook.applyAll x (op.revocation x) = ({ x with flags := flags }, []) ∧
      (∀ id, op.requests id → x.isRelated id = false → x.flags.Discards flags id) ∧
      ((∀ id, op.requests id → x.isRelated id = true) → flags = x.flags) := by
  cases op with
  | requestConnection id info options l =>
    have hrel : (x.isConnected id || x.isPending id) = x.isRelated id := Bool.or_comm ..
    simp only [revocation, requests, forall_eq']
    rw [hrel]
    cases hr : x.isRelated id with
    | true => exact ⟨x.flags, rfl, by simp, fun _ => rfl⟩
    | false =>
      refine ⟨(if x.isCancelled id then x.flags else x.flags.register id).cancel id |>.remove id,
        ?_, fun _ => ?_, fun hf => by cases hf⟩
      · cases x.isCancelled id <;> rfl
      · cases x.isCancelled id with
        | true => exact FlagBoard.discards_cancel_remove x.flags id
        | false => exact FlagBoard.discards_register (FlagBoard.discards_cancel_remove _ id)
  | _ => exact ⟨x.flags, rfl, fun _ hr => hr.elim, fun _ => rfl⟩

end Operation

/-! ## Failed operations -/

/-- As `n` before, but for the flags of one session. -/
structure Network.SameButFlags (n m : Network) (s : SessionName) (flags : FlagBoard) : Prop where
  session : m.session s = { n.session s with flags := flags }
  others : ∀ k, s ≠ k → m.session k = n.session k
  payloads : m.transport.payloads = n.transport.payloads

namespace Operation

open Job Plan

variable {s : SessionName} {n : Network}

/-- A job that has failed has left the payloads alone. -/
theorem payloads_of_failed {own : EndpointId → Prop} {job : Job Status}
    (h : job.Spares (Harmless s own) Failed) (hf : Failed (job.run n).1) :
    (job.run n).2.1.transport.payloads = n.transport.payloads :=
  h.run (I := fun m => m.transport.payloads = n.transport.payloads)
    (fun _ hc m hm => (hc.payloads m).trans hm) rfl hf

theorem startListening_spares (service : String) (l : Listener) (options : ListeningOptions) :
    (Transport.startListening s service l options).Spares (Harmless s fun _ => False) Failed := by
  refine call_spares (asks_spares fun active => ?_)
  split
  · exact .done _
  · exact ifAllowed_spares _ _

theorem failed_startListening (service : String) (l : Listener) (options : ListeningOptions)
    (hf : Failed ((Transport.startListening s service l options).run n).1) :
    ((Transport.startListening s service l options).run n).2.2 = [] ∧
      n.SameButFlags ((Transport.startListening s service l options).run n).2.1 s
        (n.session s).flags := by
  have hg := startListening_gives (s := s) (n := n) service l options
  have hreports : (listening s service l options (n.session s) n.transport).reports = [] := by
    rw [hg.result] at hf
    grind [listening, called, Status.isOk_iff]
  have hsession := hg.session
  have hemitted := hg.emitted
  rw [hreports] at hsession hemitted
  exact ⟨hemitted, hsession, hg.others, payloads_of_failed (startListening_spares ..) hf⟩

/-- An operation that is objected to ends with the objection and calls nobody. One that fails emits
nothing and changes nothing but the flags of its session: those only if it is a request for an
endpoint without a relation, whose flag is discarded. If there was no objection, the failure is the
answer to the one call it made. Whatever else happens meanwhile, its own changes on the way to the
failure are harmless. Nor does a failure to start listening change anything. -/
theorem failed_operation (n : Network) (s : SessionName) (op : Operation Listener) :
    (∀ status, op.objection? (n.session s) = some status →
      ((op.body s).run n).1 = status ∧ Failed status ∧
        ((op.body s).run n).2.1.transport.history = n.transport.history) ∧
    (Failed ((op.body s).run n).1 →
      ((op.body s).run n).2.2 = [] ∧
      (∃ flags, n.SameButFlags ((op.body s).run n).2.1 s flags ∧
        (∀ id, op.requests id → (n.session s).isRelated id = false →
          (n.session s).flags.Discards flags id) ∧
        ((∀ id, op.requests id → (n.session s).isRelated id = true) →
          flags = (n.session s).flags)) ∧
      (op.objection? (n.session s) = none → ∃ call,
        ((op.body s).run n).2.1.transport.history =
          n.transport.history ++ [⟨some s, call⟩])) ∧
    (op.body s).Spares (Harmless s fun id => op.requests id) Failed ∧
    ∀ service l options, Failed ((Transport.startListening s service l options).run n).1 →
      ((Transport.startListening s service l options).run n).2.2 = [] ∧
        n.SameButFlags ((Transport.startListening s service l options).run n).2.1 s
          (n.session s).flags := by
  have hg := body_gives (s := s) (n := n) op
  refine ⟨fun status ho => ?_, fun hf => ?_, body_spares s op,
    fun service l options => failed_startListening service l options⟩
  · obtain ⟨hresult, hcalls⟩ := account_of_objection (s := s) (t := n.transport) ho
    refine ⟨hg.result.trans hresult, failed_of_objection ho, ?_⟩
    rw [hg.history, hcalls, List.append_nil]
  · have hfa : Failed (op.account s (n.session s) n.transport).result := hg.result ▸ hf
    obtain ⟨flags, happ, hdiscards, hkept⟩ := applyAll_revocation (n.session s) op
    rw [← reports_of_failed hfa] at happ
    refine ⟨hg.emitted.trans (congrArg Prod.snd happ), ⟨flags, ⟨?_, hg.others, ?_⟩, hdiscards,
      hkept⟩, fun ho => ?_⟩
    · exact hg.session.trans (congrArg Prod.fst happ)
    · exact payloads_of_failed (body_spares s op) hf
    · obtain ⟨call, hcall⟩ := calls_of_failed ho hfa
      exact ⟨call, hcall ▸ hg.history⟩

/-- The radio fails a request whose flag somebody holds. -/
theorem failed_request_by_radio :
    let id : EndpointId := ⟨"EP01"⟩
    let op : Operation Listener := .requestConnection id [] {} {}
    let n : Network := Network.setSession
      { transport := { outcomes := [(.requestConnection, .bluetoothError)] } } "client"
      (Session.armFlag {} id)
    Failed ((op.body "client").run n).1 ∧ ((op.body "client").run n).2.2 = [] ∧
      ∃ flags, n.SameButFlags ((op.body "client").run n).2.1 "client" flags ∧
        flags.handle? id = none ∧ flags.isRaised ⟨0⟩ = true := by
  intro id op n
  have hfailed : Failed ((op.body "client").run n).1 := by decide
  obtain ⟨-, hfail, -⟩ := failed_operation n "client" op
  obtain ⟨hemitted, ⟨flags, hsame, hdiscards, -⟩, -⟩ := hfail hfailed
  have hd := hdiscards id rfl (by decide)
  have hraised : flags.isRaised ⟨0⟩ = true := (hd.raised ⟨0⟩ (by decide)).mpr (.inr (by decide))
  exact ⟨hfailed, hemitted, flags, hsame, hd.gone, hraised⟩

end Operation

end Switchboard
