import Switchboard.Proofs.Exchange.Sending
import Switchboard.Proofs.Injection

/-!
# Injecting endpoints through the exchange

What an injection does when nothing comes in between, and what it does in any run of the exchange
when it returns (`injected_iff_wellFormed`): the case of an injection of what `Exchange.Sending`
says of every visit.
-/

namespace Switchboard.Exchange

variable {τ υ : Type}

/-- An endpoint is injected exactly if its metadata is well formed and a discovery is under way; the
listener of that discovery hears of it, once, before the outcome is reported, and no session is
changed, neither when the injection is asked for nor when it is carried out. In a run this goes by
the discovery that is under way while the transport is held for the injection. -/
theorem Chronicle.injected_iff_wellFormed (service : String) (m : OutOfBand) :
    (∀ x : Session, (.injectEndpoint service m : Operation Listener).prepare x = x) ∧
    (∀ (n : Network) (s : SessionName),
      let out := ((.injectEndpoint service m : Operation Listener).body s).run n
      (∃ calls, out.2.1.transport.history = n.transport.history ++ calls ∧
        Injected s service m (n.session s).discovery out.1 calls out.2.2) ∧
        ∀ k, out.2.1.session k = n.session k) ∧
    ∀ (o : Outside τ υ) (network : Network) (outside : υ) (callers : Nat) (moves : List (Move τ))
      (k : Nat) (past later : List (Moment τ υ)) (ret : Moment τ υ) (t : Task τ)
      (status : Status) (held : List Emission),
      ((start network outside callers).play o moves).momentsOf k = past ++ ret :: later →
      t.operation = .injectEndpoint service m →
      ret.act = .inside (.operation t) (.done status) held →
      (∃ before visit, past = before ++ visit ∧ Visit (.operation t) visit held ∧
        ∀ active : Option Activity,
          (∀ x ∈ visit, (x.before.network.session t.session).discovery = active) →
          ∃ calls, Injected t.session service m active status calls held ∧
            Footprint (changes visit) calls held) ∧
        ∃ rest, Part (execute o) (held.map .deliver ++ .complete t.back status :: rest) later := by
  refine ⟨fun _ => rfl, fun n s => Operation.injectEndpoint_run n s service m, ?_⟩
  intro o network outside callers moves k past later ret t status held hk hop hret
  obtain ⟨before, visit, hsplit, hvisit, hsteps⟩ := visited_of_inside hk hret
  obtain ⟨rest, hlater⟩ := delivered_of_return hk hret
  rw [List.append_assoc] at hlater
  refine ⟨⟨before, visit, hsplit, hvisit, fun active hactive => ?_⟩, rest, hlater⟩
  have hway := hsteps (fun n => (n.session t.session).discovery = active) hactive
  rw [Errand.plan, hop] at hway
  obtain ⟨calls, emitted, hinjected, hfoot⟩ := Operation.injectEndpoint_steps (fun n hn => hn) hway
  obtain rfl : held = emitted := hvisit.held_eq.trans hfoot.emitted
  exact ⟨calls, hinjected, hfoot⟩

namespace Sample

/-- Two characters that take four bytes. -/
def neighbour : OutOfBand :=
  { medium := .bluetooth
    address := [1, 2, 3, 4, 5, 6]
    id := ⟨"éé"⟩
    info := List.replicate 131 0 }

def discovering : Network :=
  ({} : Network).setSession "A" (({} : Session).startedDiscovery "svc" { sink := some 3 })

def injecting : Task Unit := ⟨"A", .injectEndpoint "other" neighbour, ()⟩

end Sample

open Sample in
/-- The listener of the discovery hears of the endpoint, with the service it was injected for. -/
theorem Chronicle.neighbour_injected :
    let c := (start discovering () 1).play silent (submitting injecting ++ turns worker 20)
    let found := Emission.discovery { sink := some 3 }
      (.found ⟨"éé"⟩ (List.replicate 131 0) "other")
    neighbour.WellFormed ∧ ∃ past ret later rest, c.momentsOf worker = past ++ ret :: later ∧
      ret.act = .inside (.operation injecting) (.done .success) [found] ∧
      Part (execute silent) ([.deliver found] ++ .complete () .success :: rest) later := by
  intro c found
  have hended : ∃ m ∈ c.momentsOf worker,
      m.act.ended? = some ("A", injecting.operation, .success) := by decide +kernel
  have hactive : ∀ m ∈ c.momentsOf worker, (m.before.network.session "A").discovery =
      some ⟨"svc", { sink := some 3 }⟩ := by decide +kernel
  obtain ⟨ret, hm, hends⟩ := hended
  obtain ⟨past, later, hk⟩ := List.append_of_mem hm
  obtain ⟨_, held, hret⟩ := Act.ended?_eq_some hends
  obtain ⟨⟨before, visit, hsplit, -, hinjected⟩, rest, hpart⟩ :=
    (injected_iff_wellFormed "other" neighbour).2.2 silent discovering () 1 _ worker past later ret
      injecting .success held hk rfl hret
  obtain ⟨calls, hinjected, -⟩ := hinjected _ fun x hx => hactive x <| by
    rw [hk, hsplit]
    exact List.mem_append_left _ (List.mem_append_right _ hx)
  obtain ⟨-, a, ha, rfl⟩ := hinjected.found rfl
  obtain rfl := Option.some.inj ha
  exact ⟨(hinjected.success_iff.mp rfl).1, past, ret, later, rest, hk, hret, hpart⟩

end Switchboard.Exchange
