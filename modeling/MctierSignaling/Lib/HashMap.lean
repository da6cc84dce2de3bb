import Mathlib.Data.List.AList

/-!
# Finite maps

A finite map is Mathlib's `AList` with values of one type. This module adds what a proof about a
stateful program asks of it: lookup after an update as one `if`, the entries as lookups, and the
size after an update.
-/

namespace MctierSignaling

/-- A finite map from `κ` to `ν`, with distinct keys. -/
abbrev HashMap (κ ν : Type*) := AList fun _ : κ => ν

/-- A finite set, as a map to the unit. -/
abbrev HashSet (κ : Type*) := HashMap κ Unit

namespace HashMap

section
variable {κ ν : Type*} [DecidableEq κ] {m : HashMap κ ν} {k k' : κ} {v : ν}

@[simp] theorem lookup_insert_ite :
    AList.lookup k' (m.insert k v) = if k' = k then some v else m.lookup k' := by
  split
  · next h => subst h; exact AList.lookup_insert m
  · next h => exact AList.lookup_insert_ne h

@[simp] theorem lookup_erase_ite :
    AList.lookup k' (m.erase k) = if k' = k then none else m.lookup k' := by
  split
  · next h => subst h; exact AList.lookup_erase _ m
  · next h => exact AList.lookup_erase_ne h

/-- An entry that is left after an erasure was there before. -/
theorem lookup_of_erase (h : (m.erase k).lookup k' = some v) : m.lookup k' = some v := by
  rw [lookup_erase_ite] at h
  split at h
  · cases h
  · exact h

/-- The entries of a map are its lookups. -/
theorem mem_entries {e : Sigma fun _ : κ => ν} : e ∈ m.entries ↔ m.lookup e.1 = some e.2 :=
  AList.mem_lookup_iff.symm

/-- The keys of a map are the keys with a value. -/
theorem mem_keys : k ∈ m.keys ↔ ∃ v, m.lookup k = some v := by
  rw [← AList.mem_keys, ← AList.lookup_isSome, Option.isSome_iff_exists]

theorem mem_of_lookup (h : m.lookup k = some v) : k ∈ m :=
  AList.lookup_isSome.1 (by rw [h]; rfl)

theorem notMem_of_lookup (h : m.lookup k = none) : k ∉ m := AList.lookup_eq_none.1 h

theorem isEmpty_entries_iff : m.entries.isEmpty = true ↔ ∀ k, m.lookup k = none := by
  rw [List.isEmpty_iff]
  constructor
  · intro h k
    rw [AList.lookup_eq_none, AList.mem_keys, AList.keys, h]
    exact nofun
  · intro h
    refine List.eq_nil_iff_forall_not_mem.2 fun e he => ?_
    rw [mem_entries, h] at he
    cases he

/-- Inserts a value for a key that has none. -/
def orInsert (m : HashMap κ ν) (k : κ) (v : ν) : HashMap κ ν :=
  match m.lookup k with
  | some _ => m
  | none => m.insert k v

theorem lookup_orInsert :
    (orInsert m k v).lookup k' = if k' = k then some ((m.lookup k).getD v) else m.lookup k' := by
  unfold orInsert
  cases h : m.lookup k with
  | some w =>
    by_cases hk : k' = k
    · subst hk; simp [h]
    · simp [hk]
  | none => simp

/-- An update of a present key keeps the size. -/
theorem length_insert_of_mem (h : k ∈ m) : (m.insert k v).keys.length = m.keys.length := by
  rw [AList.keys_insert, List.length_cons, List.length_erase_of_mem (AList.mem_keys.1 h)]
  have := List.length_pos_of_mem (AList.mem_keys.1 h)
  omega

/-- A new key adds one to the size. -/
theorem length_insert_of_notMem (h : k ∉ m) : (m.insert k v).keys.length = m.keys.length + 1 := by
  rw [AList.keys_insert, List.length_cons, List.erase_of_not_mem (h ∘ AList.mem_keys.2)]

/-- An update adds at most one to the size. -/
theorem length_insert_le : (m.insert k v).keys.length ≤ m.keys.length + 1 := by
  by_cases h : k ∈ m
  · rw [length_insert_of_mem h]; omega
  · rw [length_insert_of_notMem h]

theorem length_erase_le : (m.erase k).keys.length ≤ m.keys.length := by
  rw [AList.keys_erase]; exact List.length_erase_le

/-- A map whose keys another one has is not greater. -/
theorem length_keys_le {μ : Type*} {m' : HashMap κ μ}
    (h : ∀ k v, m.lookup k = some v → ∃ w, m'.lookup k = some w) :
    m.keys.length ≤ m'.keys.length := by
  refine (List.subperm_of_subset m.keys_nodup fun k hk => ?_).length_le
  obtain ⟨v, hv⟩ := mem_keys.mp hk
  exact mem_keys.mpr (h k v hv)

/-- A present key takes one from the size when it goes. -/
theorem length_erase_of_mem (h : k ∈ m) : (m.erase k).keys.length + 1 = m.keys.length := by
  rw [AList.keys_erase, List.length_erase_of_mem (AList.mem_keys.1 h)]
  have := List.length_pos_of_mem (AList.mem_keys.1 h)
  omega

end

/-! ## Retaining entries -/

section
variable {κ ν : Type*} (f : κ → ν → Option ν)

theorem eq_empty_of_length {m : HashMap κ ν} (h : m.keys.length = 0) : m = ∅ :=
  AList.ext (List.map_eq_nil_iff.1 (List.length_eq_zero_iff.1 h))

/-- The entries a retain keeps. -/
def retainEntries (l : List (Sigma fun _ : κ => ν)) : List (Sigma fun _ : κ => ν) :=
  l.filterMap fun e => (f e.1 e.2).map fun v => ⟨e.1, v⟩

theorem keys_retainEntries_sublist (l : List (Sigma fun _ : κ => ν)) :
    ((retainEntries f l).map Sigma.fst).Sublist (l.map Sigma.fst) := by
  induction l with
  | nil => exact .slnil
  | cons e l ih =>
    rw [retainEntries, List.filterMap_cons]
    cases f e.1 e.2 with
    | none => exact ih.trans (List.sublist_cons_self _ _)
    | some v => exact ih.cons_cons _

/-- Updates or drops every entry of a map. -/
def retain (m : HashMap κ ν) : HashMap κ ν :=
  ⟨retainEntries f m.entries,
    List.Nodup.sublist (keys_retainEntries_sublist f m.entries) m.nodupKeys⟩

theorem length_retain_le (m : HashMap κ ν) : (retain f m).keys.length ≤ m.keys.length :=
  (keys_retainEntries_sublist f m.entries).length_le

variable [DecidableEq κ]

theorem mem_retain {m : HashMap κ ν} {k : κ} {v : ν} :
    (retain f m).lookup k = some v ↔ ∃ w, m.lookup k = some w ∧ f k w = some v := by
  rw [← mem_entries (e := ⟨k, v⟩)]
  refine Iff.trans (List.mem_filterMap (l := m.entries)) ?_
  constructor
  · rintro ⟨⟨k', w⟩, he, h⟩
    obtain ⟨v', hv, heq⟩ := Option.map_eq_some_iff.1 h
    cases heq
    exact ⟨w, mem_entries.1 he, hv⟩
  · rintro ⟨w, hw, hv⟩
    exact ⟨⟨k, w⟩, mem_entries.2 hw, by rw [hv]; rfl⟩

/-- The entries that satisfy a predicate. -/
theorem mem_retain_ite {p : ν → Prop} [DecidablePred p] {m : HashMap κ ν} {k : κ} {v : ν} :
    (retain (fun _ v => if p v then some v else none) m).lookup k = some v ↔
      m.lookup k = some v ∧ p v := by
  rw [mem_retain]
  constructor
  · rintro ⟨w, hw, hkeep⟩
    obtain ⟨hp, heq⟩ := Option.ite_none_right_eq_some.mp hkeep
    cases heq
    exact ⟨hw, hp⟩
  · rintro ⟨hw, hp⟩
    exact ⟨v, hw, if_pos hp⟩

@[simp] theorem lookup_retain {m : HashMap κ ν} {k : κ} :
    (retain f m).lookup k = (m.lookup k).bind (f k) := by
  refine Option.ext fun v => ?_
  rw [mem_retain, Option.bind_eq_some_iff]

end

end HashMap

end MctierSignaling
