import Switchboard.Transport
import Switchboard.Proofs.Plan

/-!
# What a call withstands

A body looks at its session and goes on one way or another (`guard_withstands`). A call to the
transport is recorded, waits, goes on, and is left; what is done within it is up to its body. So a
call withstands what its body withstands (`call_withstands`), and a body that depends on the outcome
set for the call what its work does (`ifAllowed_withstands`).
-/

namespace Switchboard

variable {R : Network → Network → Prop} {G : Network → Network × List Emission → Prop} {α : Type}
  {n : Network}

/-- What a job withstands that looks at a session and goes on one way or the other. -/
theorem Job.guard_withstands {s : SessionName} {f : Session → Bool} {p q : Job α}
    {Q : α → Network → Prop}
    (yes : ∀ n₁, R n n₁ → f (n₁.session s) = true → p.Withstands R G Q n₁)
    (no : ∀ n₁, R n n₁ → f (n₁.session s) = false → q.Withstands R G Q n₁) :
    (asks s f >>= fun b => if b then p else q).Withstands R G Q n := by
  intro n₁ h₁
  show Plan.Withstands _ _ _ (if f (n₁.session s) then _ else _) n₁
  split
  · next hf => exact yes n₁ h₁ hf
  · next hf => exact no n₁ h₁ (by simpa using hf)

namespace Transport

open Job

theorem call_withstands {r : Option SessionName} {c : Call} {body : Job α}
    {Q : α → Network → Prop} (refl : ∀ n, R n n)
    (record : ∀ n₁, R n n₁ → G n₁ (n₁.onTransport (·.record ⟨r, c⟩), []))
    (enters : ∀ n', G n' (n'.onTransport enter, []))
    (leaves : ∀ n', G n' (n'.onTransport leave, []))
    (h : ∀ n₁ n₂ n₃, R n n₁ → R (n₁.onTransport (·.record ⟨r, c⟩)) n₂ → R n₂ n₃ →
      body.Withstands R G (fun a n' => ∀ m m', R n' m → R (m.onTransport leave) m' → Q a m')
        (n₃.onTransport enter)) :
    (call r c body).Withstands R G Q n := by
  intro n₁ h₁
  refine ⟨record n₁ h₁, fun n₂ h₂ n₃ h₃ => ⟨enters n₃, ?_⟩⟩
  show (body >>= fun a => changeTransport leave >>= fun _ => .done a).Withstands R G Q _
  refine .bind refl ((h n₁ n₂ n₃ h₁ h₂ h₃).imp fun a n' hq m hm => ⟨leaves m, fun m' hm' => ?_⟩)
  exact hq m m' hm hm'

theorem ifAllowed_withstands {c : Answerable} {work : Job Unit} {Q : Status → Network → Prop}
    (refl : ∀ n, R n n)
    (refused : ∀ n₁ n₂ status, R n n₁ → R n₁ n₂ → status ≠ .success → Q status n₂)
    (h : ∀ n₁, R n n₁ → work.Withstands R G (fun _ n' => ∀ m, R n' m → Q .success m) n₁) :
    (ifAllowed c work).Withstands R G Q n := by
  intro n₁ h₁
  show Plan.Withstands _ _ _ (if (n₁.transport.outcome c).isOk then _ else _) n₁
  split
  · next hok =>
    have hstatus := Status.isOk_iff.mp hok
    exact .bind refl ((h n₁ h₁).imp fun _ n' hq m hm => by
      show Q (n₁.transport.outcome c) m
      exact hstatus ▸ hq m hm)
  · next hok => exact fun n₂ h₂ => refused n₁ n₂ _ h₁ h₂ fun hs => hok (Status.isOk_iff.mpr hs)

end Transport

end Switchboard
