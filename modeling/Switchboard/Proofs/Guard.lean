import Switchboard.Operation
import Switchboard.Proofs.Plan

/-!
# Guards

What a body asks before it goes on. A guard may take several looks, and anything may happen between
two of them: `asksRelated_bind` takes the guard of a request apart, look by look. It does nothing
but look, so it is no step of any automaton.
-/

namespace Switchboard.Operation

open Job Plan

variable {α : Type}

/-- A relation is looked for among the connected endpoints first, then among the pending ones. -/
theorem asksRelated_bind (s : SessionName) (id : EndpointId) (f : Bool → Job α) :
    asksRelated s id >>= f = asks s (·.isConnected id) >>= fun b =>
      if b then f true else asks s (·.isPending id) >>= f := by
  refine congrArg Plan.look (funext fun n => ?_)
  show Plan.bind (if (n.session s).isConnected id then _ else _) f =
    if (n.session s).isConnected id then _ else _
  split <;> rfl

theorem asksRelated_looks (s : SessionName) (id : EndpointId) : (asksRelated s id).Looks := by
  refine .bind (.gets _) fun connected => ?_
  split
  · exact .done true
  · exact .gets _

theorem asksAnyConnected_looks (s : SessionName) (ids : List EndpointId) :
    (asksAnyConnected s ids).Looks := by
  induction ids with
  | nil => exact .done false
  | cons id ids ih =>
    refine .bind (.gets _) fun connected => ?_
    split
    · exact .done true
    · exact ih

theorem answerGuard_looks (s : SessionName) (id : EndpointId) : (answerGuard s id).Looks := by
  refine .bind (.gets _) fun connected => ?_
  split
  · exact .done Status.alreadyConnectedToEndpoint
  refine .bind (.gets _) fun responded => ?_
  split
  · exact .done Status.outOfOrderApiCall
  · exact .done Status.success

end Switchboard.Operation
