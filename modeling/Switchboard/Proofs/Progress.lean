import Switchboard.Proofs.Reporting
import Switchboard.Proofs.Sending

/-!
# The numbers in progress reports

What the transport reports on a payload that it sends, and whether the numbers are those of the
payload (`Progress.Faithful`). They are for a payload whose size is not known, and for one whose
size is below `2 ^ 63`. The rest of the 64-bit sizes come out negative, the largest one as the total
that stands for a size nobody knows (`reflects_settled`). All that is emitted on any way through a
sending is such a report (`sendPayload_emitted`).
-/

namespace Switchboard

namespace Payload

/-- The size, if it is known, is a number that a report can carry. -/
def Fits (p : Payload) : Prop := ∀ n, p.size? = some n → n.toNat ≤ Int64.maxValue.toInt

theorem fits_file {id : PayloadId} {path : String} {size : UInt64}
    (h : size.toNat ≤ Int64.maxValue.toInt) : Fits ⟨id, .file path size⟩ := by
  intro n hn
  cases hn
  exact h

end Payload

namespace Progress

variable {p : Payload} {n : UInt64} {r : Progress}

/-- The numbers of the report are those of the payload: the total is its size, or `-1` if that is
not known and in no other case; what has been transferred is between nothing and the total, and all
of the payload if it has arrived. -/
structure Faithful (p : Payload) (r : Progress) : Prop where
  total : ∀ n, p.size? = some n → r.total.toInt = n.toNat
  unknown : r.total = -1 ↔ p.size? = none
  transferred : 0 ≤ r.transferred ∧ r.transferred ≤ max r.total 0
  arrived : ∀ n, p.size? = some n → r.status = .success → r.transferred.toInt = n.toNat

/-- What the numbers of a report are in any case, and when they are those of the payload. -/
structure Reflects (p : Payload) (r : Progress) : Prop where
  payload : r.payload = p.id
  unknown : p.size? = none → r.total = -1
  transferred : 0 ≤ r.transferred ∧ r.transferred ≤ max r.total 0
  faithful_iff : r.Faithful p ↔ p.Fits
  /-- A size that does not fit becomes a negative total, of which nothing is transferred. -/
  wrapped : ∀ n, p.size? = some n → Int64.maxValue.toInt < n.toNat →
    r.total.toInt = n.toNat - UInt64.size ∧ r.transferred = 0

/-! ## Signed numbers -/

theorem toInt_maxValue : Int64.maxValue.toInt = 9223372036854775807 := rfl

theorem toInt_totalOf (n : UInt64) :
    (totalOf (some n)).toInt =
      if n.toNat ≤ Int64.maxValue.toInt then (n.toNat : Int) else n.toNat - UInt64.size := by
  have h : (totalOf (some n)).toInt =
      if 2 * n.toNat < 2 ^ 64 then (n.toNat : Int) else n.toNat - (2 ^ 64 : Nat) :=
    BitVec.toInt_eq_toNat_cond n.toBitVec
  have hsize : UInt64.size = 2 ^ 64 := rfl
  rw [h, toInt_maxValue, hsize]
  split <;> split <;> omega

example : (totalOf (some 9223372036854775808)).toInt = -9223372036854775808 := by decide

theorem toInt_totalOf_of_le (h : n.toNat ≤ Int64.maxValue.toInt) :
    (totalOf (some n)).toInt = n.toNat := by
  rw [toInt_totalOf, if_pos h]

theorem toInt_totalOf_of_lt (h : Int64.maxValue.toInt < n.toNat) :
    (totalOf (some n)).toInt = n.toNat - UInt64.size := by
  rw [toInt_totalOf, if_neg (Int.not_le.mpr h)]

theorem toInt_totalOf_neg (h : Int64.maxValue.toInt < n.toNat) :
    (totalOf (some n)).toInt < 0 := by
  have hsize : n.toNat < UInt64.size := n.toNat_lt_size
  rw [toInt_totalOf_of_lt h]
  omega

theorem toInt_max (x y : Int64) : (max x y).toInt = max x.toInt y.toInt := by
  show (if x ≤ y then y else x).toInt = _
  split
  · next h => exact (Int.max_eq_right (Int64.le_iff_toInt_le.mp h)).symm
  · next h =>
    have hle : ¬ x.toInt ≤ y.toInt := fun hle => h (Int64.le_iff_toInt_le.mpr hle)
    exact (Int.max_eq_left (by omega)).symm

theorem zero_le_max (x : Int64) : 0 ≤ max x 0 := by
  rw [Int64.le_iff_toInt_le, toInt_max]
  exact Int.le_max_right ..

theorem max_zero_of_neg {x : Int64} (h : x.toInt < 0) : max x 0 = 0 := by
  rw [← Int64.toInt_inj, toInt_max]
  exact Int.max_eq_right (Int.le_of_lt h)

/-! ## Reports on a transfer that is over -/

theorem transferred_of_success {delivered : Bool} (h : (settled p delivered).status = .success) :
    (settled p delivered).transferred = max (totalOf p.size?) 0 := by
  cases delivered with
  | false => cases h
  | true => rfl

/-- No report says that more was transferred than there is, or less than nothing. -/
theorem transferred_settled (p : Payload) (delivered : Bool) :
    0 ≤ (settled p delivered).transferred ∧
      (settled p delivered).transferred ≤ max (settled p delivered).total 0 := by
  cases delivered with
  | false => exact ⟨Int64.le_refl 0, zero_le_max _⟩
  | true => exact ⟨zero_le_max _, Int64.le_refl _⟩

theorem faithful_settled (h : p.Fits) (delivered : Bool) : (settled p delivered).Faithful p where
  total n hn := by
    show (totalOf p.size?).toInt = _
    rw [hn, toInt_totalOf_of_le (h n hn)]
  unknown := by
    show totalOf p.size? = -1 ↔ _
    cases hn : p.size? with
    | none => exact iff_of_true rfl rfl
    | some n =>
      -- A size that fits is not negative, so it is never taken for the mark of an unknown one.
      refine iff_of_false (fun htotal => ?_) nofun
      have hsize := toInt_totalOf_of_le (h n hn)
      rw [htotal] at hsize
      have hneg : (-1 : Int64).toInt = -1 := rfl
      omega
  transferred := transferred_settled p delivered
  arrived n hn hstatus := by
    rw [transferred_of_success hstatus, hn, toInt_max, toInt_totalOf_of_le (h n hn)]
    exact Int.max_eq_left (Int.natCast_nonneg _)

/-- A size that does not fit is no total. -/
theorem Faithful.fits {delivered : Bool} (h : (settled p delivered).Faithful p) : p.Fits := by
  intro n hn
  have htotal : (totalOf p.size?).toInt = n.toNat := h.total n hn
  rw [hn] at htotal
  refine Int.not_lt.mp fun hlt => ?_
  have hneg := toInt_totalOf_neg hlt
  omega

theorem reflects_settled (p : Payload) (delivered : Bool) : (settled p delivered).Reflects p where
  payload := rfl
  unknown hn := by
    show totalOf p.size? = -1
    rw [hn]
    rfl
  transferred := transferred_settled p delivered
  faithful_iff := ⟨Faithful.fits, fun h => faithful_settled h delivered⟩
  wrapped n hn hlt := by
    refine ⟨?_, ?_⟩
    · show (totalOf p.size?).toInt = _
      rw [hn, toInt_totalOf_of_lt hlt]
    · cases delivered with
      | false => rfl
      | true =>
        show max (totalOf p.size?) 0 = 0
        rw [hn, max_zero_of_neg (toInt_totalOf_neg hlt)]

end Progress

/-! ## What a sending emits -/

variable {I : Network → Prop} {P : SessionName → SessionHook Listener → Prop}
  {C : CallRecord → Prop} {α : Type} {t : List (Plan.Change Network Emission)} {m : Emission}

/-- Whatever comes in between, what a plan emits comes of one of the reports it may make. -/
theorem Plan.Follows.emitted {p q : Job α} (h : p.Follows (Reporting P C) () ())
    (hs : p.Steps I t q) (hm : m ∈ t.flatMap (·.emitted)) :
    ∃ s hook x, P s hook ∧ m ∈ (hook.apply x).2 := by
  obtain ⟨c, hc, hemitted⟩ := List.mem_flatMap.mp hm
  obtain ⟨_, change, _, hchange, heq⟩ := h.steps hs c hc
  have hmem : m ∈ (change c.before).2 := by
    rw [heq]
    exact hemitted
  cases hchange with
  | @report s hook hp => exact ⟨s, hook, _, hp, hmem⟩
  | rollBack | record | books => cases hmem

/-- A report on a transfer is for the payload listener of the endpoint. -/
theorem Session.mem_payloadProgress {x : Session} {id : EndpointId} {r : Progress}
    (h : m ∈ (x.payloadProgress id r).2) : ∃ l, m = .payload l (.progress id r) := by
  simp only [payloadProgress, toPayload] at h
  split at h
  · next l _ => exact ⟨l, List.mem_singleton.mp h⟩
  · cases h

/-- The emission is a report on the payload to one of the endpoints, with numbers that are those of
the payload exactly if its size fits. -/
def Emission.Tells (ids : List EndpointId) (p : Payload) (m : Emission) : Prop :=
  ∃ l id r, id ∈ ids ∧ m = .payload l (.progress id r) ∧ r.Reflects p

/-- A report that a transfer of the payload to one of the endpoints is over. -/
def SessionHook.Settles (ids : List EndpointId) (p : Payload) (h : SessionHook Listener) : Prop :=
  ∃ id ∈ ids, ∃ delivered, h = .payloadProgress id (.settled p delivered)

section Sending

variable {s : SessionName} {ids : List EndpointId} {p : Payload}

theorem SessionHook.Settles.tells {h : SessionHook Listener} {x : Session} (hs : h.Settles ids p)
    (hm : m ∈ (h.apply x).2) : m.Tells ids p := by
  obtain ⟨id, hid, delivered, rfl⟩ := hs
  obtain ⟨l, rfl⟩ := Session.mem_payloadProgress hm
  exact ⟨l, id, _, hid, rfl, Progress.reflects_settled p delivered⟩

/-- A plan that reports nothing else emits nothing else, whatever comes in between. -/
theorem Plan.Follows.tells {job q : Job α}
    (h : job.Follows (Reporting (fun _ => SessionHook.Settles ids p) C) () ())
    (hs : job.Steps I t q) (hm : m ∈ t.flatMap (·.emitted)) : m.Tells ids p := by
  obtain ⟨_, hook, x, hsettles, hmem⟩ := h.emitted hs hm
  exact hsettles.tells hmem

theorem Transport.sendPayload_emitted {q : Job Unit}
    (hs : (Transport.sendPayload s ids p).Steps I t q) (hm : m ∈ t.flatMap (·.emitted)) :
    m.Tells ids p := by
  have h : (Transport.sendPayload s ids p).Follows
      (Reporting (fun _ => SessionHook.Settles ids p) fun _ => True) () () :=
    sendPayload_reporting (fun id hid delivered => ⟨id, hid, delivered, rfl⟩) trivial
  exact h.tells hs hm

theorem Operation.sendPayload_emitted {q : Job Status}
    (hs : ((sendPayload ids p : Operation Listener).body s).Steps I t q)
    (hm : m ∈ t.flatMap (·.emitted)) : m.Tells ids p := by
  have h : ((sendPayload ids p : Operation Listener).body s).Follows
      (Reporting (fun _ => SessionHook.Settles ids p) fun _ => True) () () :=
    sendPayload_body_reporting s (fun id hid delivered => ⟨id, hid, delivered, rfl⟩) trivial
  exact h.tells hs hm

end Sending

end Switchboard
