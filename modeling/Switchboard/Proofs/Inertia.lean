import Switchboard.Proofs.Account
import Switchboard.Proofs.Reporting

/-!
# Inert sessions

A session in which nothing is under way and of which nothing is left but the flags that were once
handed out is inert: it is `blank`. A report that does not start anything finds nothing there to
change and nobody to tell (`Inert.apply`). Stopping all endpoints leaves a session inert
(`inert_stopAllEndpoints`).
-/

namespace Switchboard

namespace SessionHook

variable {L : Type}

/-- Whether the report starts something: an activity, a relation that somebody asked for, or a flag.
-/
def wakes : SessionHook L → Bool
  | startedAdvertising .. | startedDiscovery .. | startedListening .. => true
  | connectionInitiated _ _ listener => listener.isSome
  | armFlag _ => true
  | _ => false

end SessionHook

namespace Operation

variable {L : Type}

/-- Whether the operation starts something. -/
def wakes : Operation L → Bool
  | startAdvertising .. | startDiscovery .. | requestConnection .. => true
  | _ => false

/-- Only an operation that starts something may report that something has started. -/
theorem Reports.wakes {op : Operation Listener} {h : SessionHook Listener} (hr : op.Reports h)
    (hw : op.wakes = false) : h.wakes = false := by
  cases hr <;> first | rfl | cases hw

end Operation

namespace Session

/-- Nothing is under way in the session, and nothing is left of what was. -/
structure Inert (s : Session) : Prop where
  advertising : s.isAdvertising = false
  discovering : s.isDiscovering = false
  listening : s.isListening = false
  unrelated : ∀ id, s.isRelated id = false
  unflagged : ∀ id, s.isFlagged id = false

/-- A session that has nothing but an id and flags that are registered no more. -/
def blank (clientId : UInt64) (raised : List Bool) : Session :=
  { clientId := clientId, flags := { raised := raised } }

theorem inert_blank (i : UInt64) (raised : List Bool) : (blank i raised).Inert :=
  ⟨rfl, rfl, rfl, fun _ => rfl, fun _ => rfl⟩

variable {s : Session}

theorem Inert.eq_blank (h : s.Inert) (hp : s.Proper) : s = blank s.clientId s.flags.raised := by
  obtain ⟨clientId, advertising, discovery, listening, connections, registered, raised⟩ := s
  obtain ⟨ha, hd, hl, hc, hf⟩ := h
  obtain rfl : advertising = none := by simpa [isAdvertising] using ha
  obtain rfl : discovery = none := by simpa [isDiscovering] using hd
  obtain rfl : listening = none := by simpa [isListening] using hl
  obtain rfl : connections = ∅ := by
    refine Directory.ext_get? fun id => ?_
    cases hg : connections.get? id with
    | none => rfl
    | some c => exact absurd (isRelated_of_get? hp hg) (by rw [hc]; decide)
  obtain rfl : registered = ∅ :=
    Directory.ext_get? fun id => by simpa [isFlagged, FlagBoard.handle?] using hf id
  rfl

theorem apply_blank {h : SessionHook Listener} (hw : h.wakes = false) (i : UInt64)
    (raised : List Bool) : ∃ raised', h.apply (blank i raised) = (blank i raised', []) := by
  cases h with
  | startedAdvertising | startedDiscovery | startedListening | armFlag => cases hw
  | connectionInitiated id info l =>
    cases l with
    | none => exact ⟨raised, rfl⟩
    | some l => cases hw
  | raise flag => exact ⟨raised.set flag.index true, rfl⟩
  | _ => exact ⟨raised, rfl⟩

/-- A report that starts nothing leaves an inert session inert, and nobody hears of it. -/
theorem Inert.apply (hs : s.Inert) (hp : s.Proper) {h : SessionHook Listener}
    (hw : h.wakes = false) : (h.apply s).1.Inert ∧ (h.apply s).2 = [] := by
  rw [hs.eq_blank hp]
  obtain ⟨raised, heq⟩ := apply_blank hw s.clientId s.flags.raised
  rw [heq]
  exact ⟨inert_blank _ _, rfl⟩

/-- To ask for an operation that starts nothing leaves an inert session inert. -/
theorem Inert.prepare (hs : s.Inert) (hp : s.Proper) {op : Operation Listener}
    (hw : op.wakes = false) : (op.prepare s).Inert := by
  cases op with
  | requestConnection => cases hw
  | rejectConnection id | disconnectFromEndpoint id => exact (hs.apply hp (h := .cancel id) rfl).1
  | stopAllEndpoints => exact (hs.apply hp (h := .cancelAll) rfl).1
  | _ => exact hs

theorem inert_reset (s : Session) : s.reset.Inert :=
  ⟨rfl, rfl, rfl, fun _ => rfl, fun _ => rfl⟩

end Session

/-- Stopping all endpoints leaves the session inert, whatever it was before. -/
theorem Operation.inert_stopAllEndpoints (s : SessionName) (n : Network) :
    ((((stopAllEndpoints : Operation Listener).body s).run n).2.1.session s).Inert := by
  rw [(body_gives (.stopAllEndpoints)).session]
  simp only [account, SessionHook.applyAll_append]
  exact Session.inert_reset _

end Switchboard
