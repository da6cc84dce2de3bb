import MctierSignaling.Lib.HashMap
import Mathlib.Data.Multiset.Count

/-!
# Multisets as maps of counts

A multiset may be kept as a finite map from its elements to how often they occur, with no entry for
an element that does not (`Counts`). Adding one occurrence never fails; taking one away is a
subtraction, which underflows at an entry that is zero (`decrement` is then `none`). For a map that
represents a multiset it does not, and both operations are those of the multiset.
-/

namespace MctierSignaling

section
variable {κ : Type*} [DecidableEq κ] {m m' : HashMap κ Nat} {s : Multiset κ} {k k' : κ}

/-- How often an element occurs. -/
def countOf (m : HashMap κ Nat) (k : κ) : Nat := (m.lookup k).getD 0

/-- One more occurrence of an element. -/
def increment (m : HashMap κ Nat) (k : κ) : HashMap κ Nat := m.insert k (countOf m k + 1)

/-- One occurrence less, without an entry for the last one; nothing for an element without an entry,
and an underflow at an entry that is zero. -/
def decrement (m : HashMap κ Nat) (k : κ) : Option (HashMap κ Nat) :=
  match m.lookup k with
  | none => some m
  | some 0 => none
  | some 1 => some (m.erase k)
  | some (n + 2) => some (m.insert k (n + 1))

/-- The map counts the multiset, and has no entry that is zero. -/
structure Counts (m : HashMap κ Nat) (s : Multiset κ) : Prop where
  count : ∀ k, countOf m k = s.count k
  pos : ∀ k n, m.lookup k = some n → 0 < n

theorem countOf_insert {n : Nat} :
    countOf (m.insert k n) k' = if k' = k then n else countOf m k' := by
  unfold countOf
  rw [HashMap.lookup_insert_ite]
  split <;> rfl

theorem countOf_erase : countOf (m.erase k) k' = if k' = k then 0 else countOf m k' := by
  unfold countOf
  rw [HashMap.lookup_erase_ite]
  split <;> rfl

/-- The empty map counts the empty multiset. -/
theorem Counts.empty : Counts (∅ : HashMap κ Nat) 0 where
  count _ := rfl
  pos _ _ h := nomatch h

/-- A map that counts the empty multiset is empty. -/
theorem Counts.eq_empty (h : Counts m 0) : m = ∅ := by
  have hnone : ∀ k, m.lookup k = none := by
    intro k
    by_contra hne
    obtain ⟨n, hn⟩ := Option.ne_none_iff_exists'.1 hne
    have hcount := h.count k
    rw [countOf, hn, Option.getD_some, Multiset.count_zero] at hcount
    exact (h.pos k n hn).ne' hcount
  exact AList.ext_iff.2 (List.isEmpty_iff.1 (HashMap.isEmpty_entries_iff.2 hnone))

/-- One more occurrence. -/
theorem Counts.increment (h : Counts m s) (k : κ) : Counts (increment m k) (k ::ₘ s) where
  count k' := by
    rw [MctierSignaling.increment, countOf_insert, h.count, h.count, Multiset.count_cons]
    split
    · next heq => rw [heq]
    · rfl
  pos k' n hn := by
    rw [MctierSignaling.increment, HashMap.lookup_insert_ite] at hn
    split at hn
    · cases hn; exact Nat.succ_pos _
    · exact h.pos k' n hn

/-- One occurrence less, of an element that occurs: no underflow. -/
theorem Counts.decrement (h : Counts m (k ::ₘ s)) :
    ∃ m', decrement m k = some m' ∧ Counts m' s := by
  have hk : countOf m k = s.count k + 1 := (h.count k).trans (Multiset.count_cons_self k s)
  have hne : ∀ k', k' ≠ k → countOf m k' = s.count k' := fun k' hne =>
    (h.count k').trans (Multiset.count_cons_of_ne hne s)
  have hlookup : m.lookup k = some (s.count k + 1) := by
    unfold countOf at hk
    cases hm : m.lookup k with
    | none => rw [hm] at hk; cases hk
    | some n => rw [hm] at hk; exact congrArg some hk
  unfold MctierSignaling.decrement
  rw [hlookup]
  cases hcount : s.count k with
  | zero =>
    refine ⟨_, rfl, fun k' => ?_, fun k' n hk' => ?_⟩
    · rw [countOf_erase]
      split
      · next heq => rw [heq, hcount]
      · next hne' => exact hne k' hne'
    · rw [HashMap.lookup_erase_ite] at hk'
      split at hk'
      · cases hk'
      · exact h.pos k' n hk'
  | succ n =>
    refine ⟨_, rfl, fun k' => ?_, fun k' n' hk' => ?_⟩
    · rw [countOf_insert]
      split
      · next heq => rw [heq, hcount]
      · next hne' => exact hne k' hne'
    · rw [HashMap.lookup_insert_ite] at hk'
      split at hk'
      · cases hk'; exact Nat.succ_pos _
      · exact h.pos k' n' hk'

end

end MctierSignaling
