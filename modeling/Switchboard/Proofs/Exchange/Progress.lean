import Switchboard.Proofs.Exchange.Sending
import Switchboard.Proofs.Progress

/-!
# The numbers in progress reports along a run

Whoever holds the transport to send a payload keeps back nothing but reports on it, whatever the
others do meanwhile, and the numbers of every one of them are those of the payload exactly if its
size fits (`progress_faithful_iff`). A file of the largest size there is shows what becomes of the
others.
-/

namespace Switchboard.Exchange

variable {τ υ : Type}

/-- When nothing comes in between, the transport reports on every position of the list whose
endpoint has a payload listener. Each of these reports, and each that is kept back at any moment of
any run of the exchange, has the numbers of the payload exactly if its size fits. -/
theorem Chronicle.progress_faithful_iff (ids : List EndpointId) (p : Payload) :
    (∀ (n : Network) (s : SessionName),
      let emitted := ((Transport.sendPayload s ids p).run n).2.2
      emitted = ids.filterMap ((n.session s).progress? p) ∧ ∀ m ∈ emitted, m.Tells ids p) ∧
    ∀ (o : Outside τ υ) (network : Network) (outside : υ) (callers : Nat) (moves : List (Move τ))
      (k : Nat) (t : Task τ) (plan : Job Status) (held : List Emission),
      ∀ x ∈ ((start network outside callers).play o moves).momentsOf k,
      x.act = .inside (.operation t) plan held → t.operation = .sendPayload ids p →
      ∀ m ∈ held, m.Tells ids p := by
  refine ⟨fun n s => ⟨Operation.emitted_sendPayload n s ids p, fun m hm => ?_⟩, ?_⟩
  · obtain ⟨t, hway, hemitted⟩ := Plan.steps_run (Transport.sendPayload s ids p) n
    exact Transport.sendPayload_emitted hway (hemitted ▸ hm)
  · intro o network outside callers moves k t plan held x hx hact hop m hm
    obtain ⟨past, later, hk⟩ := List.append_of_mem hx
    obtain ⟨before, visit, -, hvisit, hsteps⟩ := visited_of_inside hk hact
    have hway := hsteps (fun _ => True) fun _ _ => trivial
    rw [Errand.plan, hop] at hway
    exact Operation.sendPayload_emitted hway (hvisit.held_eq ▸ hm)

namespace Sample

def file (size : UInt64) : Payload := ⟨.chosen 7, .file "f" size⟩

def sendFile (size : UInt64) : Operation Listener := .sendPayload [⟨"EP01"⟩] (file size)

/-- The endpoint is connected and is sent a file of this size. -/
def sendingFile (size : UInt64) : List (Move Unit) :=
  submitting request ++ submitting ⟨"A", .acceptConnection ⟨"EP01"⟩ {}, ()⟩ ++
    submitting ⟨"A", sendFile size, ()⟩ ++ turns worker 60

end Sample

open Sample in
/-- The largest size that fits is reported as it is. -/
theorem Chronicle.largest_fitting_reported :
    let size : UInt64 := 9223372036854775807
    let r : Progress := ⟨.chosen 7, .success, 9223372036854775807, 9223372036854775807⟩
    ∃ m ∈ (run (sendingFile size)).momentsOf worker, m.act.returned? =
        some ("A", sendFile size, .success, [.payload {} (.progress ⟨"EP01"⟩ r)]) ∧
      r.Faithful (file size) := by
  intro size r
  have hreturned : ∃ m ∈ (run (sendingFile size)).momentsOf worker, m.act.returned? =
      some ("A", sendFile size, .success, [.payload {} (.progress ⟨"EP01"⟩ r)]) := by
    decide +kernel
  obtain ⟨m, hm, hreturns⟩ := hreturned
  obtain ⟨_, hact⟩ := Act.returned?_eq_some hreturns
  have htells := (progress_faithful_iff [⟨"EP01"⟩] (file size)).2 silent _ () 1 (sendingFile size)
    worker _ _ _ m hm hact rfl _ (List.mem_singleton_self _)
  obtain ⟨_, _, _, -, heq, hreflects⟩ := htells
  cases heq
  exact ⟨m, hm, hreturns, hreflects.faithful_iff.mpr (Payload.fits_file (by decide))⟩

open Sample in
/-- A file of the largest size there is arrives, and the report says that its size is not known and
that nothing has been transferred. -/
theorem Chronicle.largest_size_unknown :
    let size : UInt64 := 18446744073709551615
    let r : Progress := ⟨.chosen 7, .success, -1, 0⟩
    (∃ m ∈ (run (sendingFile size)).momentsOf worker, m.act.returned? =
        some ("A", sendFile size, .success, [.payload {} (.progress ⟨"EP01"⟩ r)])) ∧
      (file size).size? = some size ∧ ¬ r.Faithful (file size) := by
  refine ⟨by decide +kernel, rfl, fun h => ?_⟩
  cases h.unknown.mp rfl

end Switchboard.Exchange
