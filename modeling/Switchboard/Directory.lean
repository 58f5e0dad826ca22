/-!
# Directories

A finite map whose entries are kept in ascending order of their keys, each key at most once. Two
directories that answer every look-up alike are equal (`Directory.ext_get?`), and `keys` lists the
keys in order.
-/

namespace Switchboard

structure Directory (κ α : Type) [Ord κ] where
  entries : List (κ × α)
  ascending : entries.Pairwise (fun a b => compare a.1 b.1 = .lt)

namespace Directory

variable {κ α : Type} [Ord κ]

def empty : Directory κ α := ⟨[], .nil⟩

instance : EmptyCollection (Directory κ α) := ⟨empty⟩

instance : Inhabited (Directory κ α) := ⟨empty⟩

instance [Repr κ] [Repr α] : Repr (Directory κ α) := ⟨fun d n => reprPrec d.entries n⟩

theorem ext_entries {d e : Directory κ α} (h : d.entries = e.entries) : d = e := by
  cases d; cases e; cases h; rfl

instance [DecidableEq κ] [DecidableEq α] : DecidableEq (Directory κ α) := fun d e =>
  if h : d.entries = e.entries then isTrue (ext_entries h) else isFalse (fun he => h (he ▸ rfl))

/-- Writes one entry into an ascending list. -/
def insertEntry (k : κ) (v : α) : List (κ × α) → List (κ × α)
  | [] => [(k, v)]
  | e :: rest =>
    match compare k e.1 with
    | .lt => (k, v) :: e :: rest
    | .eq => (k, v) :: rest
    | .gt => e :: insertEntry k v rest

theorem mem_insertEntry {k : κ} {v : α} {l : List (κ × α)} {e : κ × α}
    (h : e ∈ insertEntry k v l) : e = (k, v) ∨ e ∈ l := by
  induction l with
  | nil => simpa [insertEntry] using h
  | cons f rest ih =>
    unfold insertEntry at h
    split at h
    · simpa using h
    · rcases List.mem_cons.mp h with h | h
      · exact .inl h
      · exact .inr (List.mem_cons_of_mem _ h)
    · rcases List.mem_cons.mp h with h | h
      · exact .inr (by simp [h])
      · rcases ih h with h | h
        · exact .inl h
        · exact .inr (List.mem_cons_of_mem _ h)

theorem compare_self_eq [Std.LawfulEqOrd κ] (k : κ) : compare k k = .eq :=
  Std.LawfulEqCmp.compare_eq_iff_eq.mpr rfl

theorem eq_of_compare [Std.LawfulEqOrd κ] {a b : κ} (h : compare a b = .eq) : a = b :=
  Std.LawfulEqCmp.compare_eq_iff_eq.mp h

theorem ne_of_compare_lt [Std.LawfulEqOrd κ] {a b : κ} (h : compare a b = .lt) : a ≠ b := by
  rintro rfl
  rw [compare_self_eq] at h
  cases h

theorem ascending_insertEntry [Std.TransOrd κ] [Std.LawfulEqOrd κ] (k : κ) (v : α)
    {l : List (κ × α)} (h : l.Pairwise (fun a b => compare a.1 b.1 = .lt)) :
    (insertEntry k v l).Pairwise (fun a b => compare a.1 b.1 = .lt) := by
  induction l with
  | nil => simp [insertEntry]
  | cons e rest ih =>
    have hr := List.pairwise_cons.mp h
    unfold insertEntry
    split
    · rename_i hk
      refine List.pairwise_cons.mpr ⟨fun x hx => ?_, h⟩
      rcases List.mem_cons.mp hx with hx | hx
      · exact hx ▸ hk
      · exact Std.TransCmp.lt_trans hk (hr.1 x hx)
    · rename_i hk
      have hk := eq_of_compare hk
      exact List.pairwise_cons.mpr ⟨fun x hx => hk ▸ hr.1 x hx, hr.2⟩
    · rename_i hk
      refine List.pairwise_cons.mpr ⟨fun x hx => ?_, ih hr.2⟩
      rcases mem_insertEntry hx with hx | hx
      · exact hx ▸ Std.OrientedCmp.gt_iff_lt.mp hk
      · exact hr.1 x hx

def insert [Std.TransOrd κ] [Std.LawfulEqOrd κ] (d : Directory κ α) (k : κ) (v : α) :
    Directory κ α :=
  ⟨insertEntry k v d.entries, ascending_insertEntry k v d.ascending⟩

variable [DecidableEq κ]

def get? (d : Directory κ α) (k : κ) : Option α :=
  (d.entries.find? (fun e => e.1 = k)).map Prod.snd

def contains (d : Directory κ α) (k : κ) : Bool := (d.get? k).isSome

def erase (d : Directory κ α) (k : κ) : Directory κ α :=
  ⟨d.entries.filter (fun e => e.1 ≠ k), d.ascending.filter _⟩

/-- Changes the value under `k`, if there is one. -/
def modify [Std.TransOrd κ] [Std.LawfulEqOrd κ] (d : Directory κ α) (k : κ) (f : α → α) :
    Directory κ α :=
  match d.get? k with
  | none => d
  | some v => d.insert k (f v)

/-- The keys in ascending order. -/
def keys (d : Directory κ α) : List κ := d.entries.map Prod.fst

def values (d : Directory κ α) : List α := d.entries.map Prod.snd

/-- The keys whose value passes `p`, in ascending order. -/
def keysWhere (d : Directory κ α) (p : α → Bool) : List κ :=
  (d.entries.filter (fun e => p e.2)).map Prod.fst

def ofList [Std.TransOrd κ] [Std.LawfulEqOrd κ] (l : List (κ × α)) : Directory κ α :=
  l.foldl (fun d e => d.insert e.1 e.2) empty

/-! ## Look-up -/

@[simp] theorem get?_empty (k : κ) : (∅ : Directory κ α).get? k = none := rfl

theorem get?_erase (d : Directory κ α) (k k' : κ) :
    (d.erase k).get? k' = if k = k' then none else d.get? k' := by
  unfold get? erase
  simp only
  by_cases h : k = k'
  · simp [List.find?_filter, h]
  · rw [List.find?_filter]
    simp only [h, if_false]
    congr 2
    funext e
    by_cases he : e.1 = k'
    · simp [he, Ne.symm h]
    · simp [he]

@[simp] theorem get?_erase_self (d : Directory κ α) (k : κ) : (d.erase k).get? k = none := by
  simp [get?_erase]

theorem get?_erase_of_ne (d : Directory κ α) {k k' : κ} (h : k ≠ k') :
    (d.erase k).get? k' = d.get? k' := by simp [get?_erase, h]

variable [Std.TransOrd κ] [Std.LawfulEqOrd κ]

theorem get?_insert (d : Directory κ α) (k k' : κ) (v : α) :
    (d.insert k v).get? k' = if k = k' then some v else d.get? k' := by
  unfold get? insert
  have key : ∀ l : List (κ × α), l.Pairwise (fun a b => compare a.1 b.1 = .lt) →
      ((insertEntry k v l).find? (fun e => e.1 = k')).map Prod.snd
        = if k = k' then some v else (l.find? (fun e => e.1 = k')).map Prod.snd := by
    intro l hl
    induction l with
    | nil => by_cases h : k = k' <;> simp [insertEntry, h]
    | cons e rest ih =>
      have hr := List.pairwise_cons.mp hl
      unfold insertEntry
      split
      · by_cases h : k = k' <;> simp [h]
      · rename_i hk
        have hk := eq_of_compare hk
        by_cases h : k = k'
        · simp [h]
        · simp [h, ← hk]
      · rename_i hk
        by_cases h : k = k'
        · have he : e.1 ≠ k' := h ▸ ne_of_compare_lt (Std.OrientedCmp.gt_iff_lt.mp hk)
          simp only [List.find?_cons, he, decide_false]
          rw [ih hr.2]
        · by_cases he : e.1 = k'
          · simp [he, h]
          · simp only [List.find?_cons, he, decide_false]
            rw [ih hr.2]
  exact key d.entries d.ascending

@[simp] theorem get?_insert_self (d : Directory κ α) (k : κ) (v : α) :
    (d.insert k v).get? k = some v := by simp [get?_insert]

theorem get?_insert_of_ne (d : Directory κ α) {k k' : κ} (h : k ≠ k') (v : α) :
    (d.insert k v).get? k' = d.get? k' := by simp [get?_insert, h]

theorem get?_modify (d : Directory κ α) (k k' : κ) (f : α → α) :
    (d.modify k f).get? k' = if k = k' then (d.get? k).map f else d.get? k' := by
  unfold modify
  by_cases hk : k = k'
  · subst hk
    cases h : d.get? k <;> simp [h]
  · cases h : d.get? k <;> simp [hk, get?_insert]

omit [Std.TransOrd κ] in
theorem mem_entries {d : Directory κ α} {k : κ} {v : α} :
    (k, v) ∈ d.entries ↔ d.get? k = some v := by
  unfold get?
  have key : ∀ l : List (κ × α), l.Pairwise (fun a b => compare a.1 b.1 = .lt) →
      ((k, v) ∈ l ↔ (l.find? (fun e => e.1 = k)).map Prod.snd = some v) := by
    intro l hl
    induction l with
    | nil => simp
    | cons e rest ih =>
      have hr := List.pairwise_cons.mp hl
      by_cases he : e.1 = k
      · have hn : (k, v) ∉ rest := fun hm => ne_of_compare_lt (hr.1 _ hm) he
        simp only [List.mem_cons, hn, or_false, List.find?_cons, he, decide_true,
          Option.map_some, Option.some.injEq]
        constructor
        · rintro rfl; rfl
        · rintro rfl; exact Prod.ext he.symm rfl
      · have hne : (k, v) ≠ e := fun h => he (h ▸ rfl)
        simp only [List.mem_cons, hne, false_or, List.find?_cons, he, decide_false, ih hr.2]
  exact key d.entries d.ascending

theorem ext_get? {d e : Directory κ α} (h : ∀ k, d.get? k = e.get? k) : d = e := by
  apply ext_entries
  have hmem : ∀ x, x ∈ d.entries ↔ x ∈ e.entries := by
    rintro ⟨k, v⟩
    rw [mem_entries, mem_entries, h]
  have key : ∀ l m : List (κ × α), l.Pairwise (fun a b => compare a.1 b.1 = .lt) →
      m.Pairwise (fun a b => compare a.1 b.1 = .lt) → (∀ x, x ∈ l ↔ x ∈ m) → l = m := by
    intro l
    induction l with
    | nil =>
      intro m _ _ hx
      exact (List.eq_nil_iff_forall_not_mem.mpr fun x hm => by simpa using (hx x).mpr hm).symm
    | cons a rest ih =>
      intro m hl hm hx
      match m, hm, hx with
      | [], _, hx => exact absurd ((hx a).mp List.mem_cons_self) (by simp)
      | b :: rest', hm, hx =>
        have hl' := List.pairwise_cons.mp hl
        have hm' := List.pairwise_cons.mp hm
        have hab : a = b := by
          rcases List.mem_cons.mp ((hx a).mp List.mem_cons_self) with h1 | h1
          · exact h1
          · rcases List.mem_cons.mp ((hx b).mpr List.mem_cons_self) with h2 | h2
            · exact h2.symm
            · exact absurd rfl
                (ne_of_compare_lt (Std.TransCmp.lt_trans (hm'.1 a h1) (hl'.1 b h2)))
        subst hab
        congr 1
        refine ih rest' hl'.2 hm'.2 fun x => ⟨fun hm => ?_, fun hm => ?_⟩
        · rcases List.mem_cons.mp ((hx x).mp (List.mem_cons_of_mem _ hm)) with h1 | h1
          · exact absurd (h1 ▸ rfl) (ne_of_compare_lt (hl'.1 x hm))
          · exact h1
        · rcases List.mem_cons.mp ((hx x).mpr (List.mem_cons_of_mem _ hm)) with h1 | h1
          · exact absurd (h1 ▸ rfl) (ne_of_compare_lt (hm'.1 x hm))
          · exact h1
  exact key _ _ d.ascending e.ascending hmem

/-! ## Keys of certain values -/

omit [Std.TransOrd κ] in
theorem mem_keysWhere {d : Directory κ α} {p : α → Bool} {k : κ} :
    k ∈ d.keysWhere p ↔ ∃ v, d.get? k = some v ∧ p v = true := by
  unfold keysWhere
  simp only [List.mem_map, List.mem_filter, Prod.exists, exists_and_right, exists_eq_right,
    mem_entries]

omit [Std.TransOrd κ] [Std.LawfulEqOrd κ] in
theorem keysWhere_erase (d : Directory κ α) (p : α → Bool) (k : κ) :
    (d.erase k).keysWhere p = (d.keysWhere p).filter (· ≠ k) := by
  unfold keysWhere erase
  rw [List.filter_map, List.filter_filter, List.filter_filter]
  congr 1
  exact List.filter_congr fun e _ => Bool.and_comm ..

end Directory

end Switchboard
