import Switchboard.Proofs.Sending

/-!
# Injecting endpoints

What comes of an endpoint that a client has learned over another channel (`Injected`). Metadata that
is not well formed is refused whether or not a discovery is under way, and only an injection that
succeeds calls the transport. The body does this when nothing comes in between
(`injectEndpoint_run`) and also when other things happen between its steps, as long as they leave
the discovery as it is (`injectEndpoint_steps`).
-/

namespace Switchboard

theorem EndpointId.length_bytes (id : EndpointId) : id.bytes.length = id.size := rfl

namespace OutOfBand

/-- A Bluetooth address of six bytes, an id of four bytes in UTF-8, whatever its characters, and
between one and 131 bytes of info. -/
structure WellFormed (m : OutOfBand) : Prop where
  medium : m.medium = .bluetooth
  address : m.address.length = 6
  id : m.id.bytes.length = 4
  info : 1 ≤ m.info.length ∧ m.info.length ≤ 131

variable {m : OutOfBand}

theorem check_of_wellFormed (h : m.WellFormed) : m.check = .success := by
  have hmedium : ¬ (m.medium ≠ .bluetooth ∨ m.address.length ≠ addressLength) :=
    not_or.mpr ⟨not_not_intro h.medium, not_not_intro h.address⟩
  have hid : ¬ m.id.size ≠ idLength := not_not_intro (m.id.length_bytes.symm.trans h.id)
  have hinfo : ¬ (m.info = [] ∨ maxInfoLength < m.info.length) :=
    not_or.mpr ⟨List.ne_nil_of_length_pos h.info.1, Nat.not_lt.mpr h.info.2⟩
  unfold check
  rw [if_neg hmedium, if_neg hid, if_neg hinfo]

theorem check_of_not_wellFormed (h : ¬ m.WellFormed) : m.check = .error := by
  unfold check
  split
  · rfl
  next hmedium =>
  split
  · rfl
  next hid =>
  split
  · rfl
  next hinfo =>
  obtain ⟨hbluetooth, haddress⟩ := not_or.mp hmedium
  obtain ⟨hsome, hmost⟩ := not_or.mp hinfo
  have hsize : m.id.bytes.length = 4 := m.id.length_bytes.trans (Decidable.of_not_not hid)
  exact absurd ⟨Decidable.of_not_not hbluetooth, Decidable.of_not_not haddress, hsize,
    List.length_pos_iff.mpr hsome, Nat.not_lt.mp hmost⟩ h

end OutOfBand

/-- How an injection ends, which calls it makes and what it emits, when `active` is the discovery
under way. -/
structure Injected (s : SessionName) (service : String) (m : OutOfBand) (active : Option Activity)
    (status : Status) (calls : List CallRecord) (emitted : List Emission) : Prop where
  error_iff : status = .error ↔ ¬ m.WellFormed
  outOfOrder_iff : status = .outOfOrderApiCall ↔ m.WellFormed ∧ active = none
  success_iff : status = .success ↔ m.WellFormed ∧ active ≠ none
  refused : status ≠ .success → calls = [] ∧ emitted = []
  /-- The discovery under way hears of the endpoint, once. -/
  found : status = .success → calls = [⟨some s, .injectEndpoint m.id⟩] ∧
    ∃ a, active = some a ∧ emitted = [.discovery a.listener (.found m.id m.info service)]

namespace Injected

variable {s : SessionName} {service : String} {m : OutOfBand} {active : Option Activity}

theorem of_malformed (h : ¬ m.WellFormed) : Injected s service m active .error [] [] where
  error_iff := iff_of_true rfl h
  outOfOrder_iff := iff_of_false nofun fun hw => h hw.1
  success_iff := iff_of_false nofun fun hw => h hw.1
  refused _ := ⟨rfl, rfl⟩
  found := nofun

theorem of_inactive (h : m.WellFormed) :
    Injected s service m none .outOfOrderApiCall [] [] where
  error_iff := iff_of_false nofun fun hn => hn h
  outOfOrder_iff := iff_of_true rfl ⟨h, rfl⟩
  success_iff := iff_of_false nofun fun hw => hw.2 rfl
  refused _ := ⟨rfl, rfl⟩
  found := nofun

theorem of_active (h : m.WellFormed) (a : Activity) :
    Injected s service m (some a) .success [⟨some s, .injectEndpoint m.id⟩]
      [.discovery a.listener (.found m.id m.info service)] where
  error_iff := iff_of_false nofun fun hn => hn h
  outOfOrder_iff := iff_of_false nofun nofun
  success_iff := iff_of_true rfl ⟨h, nofun⟩
  refused hn := absurd rfl hn
  found _ := ⟨rfl, a, rfl, rfl⟩

end Injected

/-- A discovery under way hears of an endpoint that is found, and the session stays as it is. -/
theorem Session.endpointFound_of_discovery {x : Session} {a : Activity} (h : x.discovery = some a)
    (id : EndpointId) (info : List UInt8) (service : String) :
    x.endpointFound id info service = (x, [.discovery a.listener (.found id info service)]) := by
  simp only [endpointFound, toDiscovery, h]

namespace Operation

variable {s : SessionName} {service : String} {m : OutOfBand}

theorem injected_account (s : SessionName) (service : String) (m : OutOfBand) (x : Session)
    (t : Transport) :
    let a := (injectEndpoint service m : Operation Listener).account s x t
    let out := SessionHook.applyAll x a.reports
    Injected s service m x.discovery a.result a.calls out.2 ∧ out.1 = x := by
  by_cases hm : m.WellFormed
  · have hcheck := OutOfBand.check_of_wellFormed hm
    cases hd : x.discovery with
    | none =>
      simp only [account, hcheck, Session.isDiscovering, hd]
      exact ⟨.of_inactive hm, rfl⟩
    | some a =>
      simp only [account, hcheck, Session.isDiscovering, hd, called, Status.isOk, decide_true,
        Option.isSome_some, Bool.not_true, Bool.false_eq_true, if_false, if_true,
        SessionHook.applyAll, SessionHook.apply, Session.endpointFound_of_discovery hd]
      exact ⟨.of_active hm a, trivial⟩
  · simp only [account, OutOfBand.check_of_not_wellFormed hm]
    exact ⟨.of_malformed hm, rfl⟩

/-- When nothing comes in between, every session stays as it is. -/
theorem injectEndpoint_run (n : Network) (s : SessionName) (service : String) (m : OutOfBand) :
    let out := ((injectEndpoint service m : Operation Listener).body s).run n
    (∃ calls, out.2.1.transport.history = n.transport.history ++ calls ∧
      Injected s service m (n.session s).discovery out.1 calls out.2.2) ∧
      ∀ k, out.2.1.session k = n.session k := by
  intro out
  have h : Job.Gives s n ((injectEndpoint service m : Operation Listener).body s)
      (account s (n.session s) n.transport (injectEndpoint service m)) := body_gives _
  have hstatus : out.1 = _ := h.result
  have hemitted : out.2.2 = _ := h.emitted
  obtain ⟨hinjected, hsession⟩ := injected_account s service m (n.session s) n.transport
  rw [hstatus, hemitted]
  exact ⟨⟨_, h.history, hinjected⟩, h.keeps_sessions hsession⟩

/-- As long as the discovery stays as it is, it does not matter what else happens between the
steps. -/
theorem injectEndpoint_steps {active : Option Activity} {I : Network → Prop}
    {t : List (Plan.Change Network Emission)} {status : Status}
    (hI : ∀ n, I n → (n.session s).discovery = active)
    (h : ((injectEndpoint service m : Operation Listener).body s).Steps I t (.done status)) :
    ∃ calls emitted, Injected s service m active status calls emitted ∧
      Footprint t calls emitted := by
  by_cases hm : m.WellFormed
  · simp only [body, OutOfBand.check_of_wellFormed hm] at h
    -- The guard and the report look at the session at different moments, and both find `active`.
    obtain ⟨_, _, _, hasks, h₁, rfl⟩ := h.of_bind
    obtain ⟨rfl, n, hn, rfl⟩ := hasks.of_gets
    simp only [Session.isDiscovering, hI n hn] at h₁
    cases active with
    | none =>
      obtain ⟨rfl, rfl⟩ := h₁.of_done
      exact ⟨[], [], .of_inactive hm, .nil⟩
    | some a =>
      obtain ⟨_, _, _, hcall, h₂, rfl⟩ := h₁.of_bind
      obtain ⟨rfl, rfl⟩ := h₂.of_done
      rw [List.nil_append, List.append_nil]
      exact ⟨_, _, .of_active hm a, .call hcall fun t hreport => .report hreport fun n hn =>
        Session.endpointFound_of_discovery (hI n hn) ..⟩
  · simp only [body, OutOfBand.check_of_not_wellFormed hm] at h
    obtain ⟨rfl, rfl⟩ := h.of_done
    exact ⟨[], [], .of_malformed hm, .nil⟩

end Operation

end Switchboard
