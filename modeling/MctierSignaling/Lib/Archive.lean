import MctierSignaling.Lib.Transition

/-!
# Archives that are written under a lock

A value changes at any time. Writers archive it: a writer takes a lock, reads the value, and writes
what it read to the archive, which gives the lock back. Because the value is read under the same
lock that covers the write, the archive always holds the value of some moment of the run
(`Run.archived`), and a later archive holds a later value (`archivedAt_mono`), whatever happens in
between.
-/

namespace MctierSignaling

/-- A value, its writer, with what it has read, and its archive. -/
structure Archived (α φ : Type*) where
  value : α
  writer : Option (Nat × Option α)
  archive : φ

/-- What can happen: the value changes or stays, and a writer takes the lock, reads, and writes or
fails to. -/
inductive Archiving where
  | change
  | lock (i : Nat)
  | read (i : Nat)
  | write (i : Nat)
  | fail (i : Nat)
  deriving DecidableEq

section
variable {α φ : Type*} (encode : α → φ)

/-- The steps of a value and its archive, which holds the value as it is encoded. -/
inductive ArchiveStep (s : Archived α φ) : Archiving → Archived α φ → Prop
  | change {value : α} : ArchiveStep s .change { s with value }
  | lock {i : Nat} : s.writer = none →
      ArchiveStep s (.lock i) { s with writer := some (i, none) }
  | read {i : Nat} : s.writer = some (i, none) →
      ArchiveStep s (.read i) { s with writer := some (i, some s.value) }
  | write {i : Nat} {v : α} : s.writer = some (i, some v) →
      ArchiveStep s (.write i) { s with writer := none, archive := encode v }
  | fail {i : Nat} {v : α} : s.writer = some (i, some v) →
      ArchiveStep s (.fail i) { s with writer := none }

/-- The number of transitions before the last read. -/
def readAt : List (Transition (Archived α φ) Archiving) → Nat
  | [] => 0
  | t :: ts =>
    match t.act with
    | .read _ => ts.length
    | _ => readAt ts

/-- The number of transitions before the read whose value the archive holds. -/
def archivedAt : List (Transition (Archived α φ) Archiving) → Nat
  | [] => 0
  | t :: ts =>
    match t.act with
    | .write _ => readAt ts
    | _ => archivedAt ts

/-- The value after the first transitions of a run, as the next one found it. -/
def ValueAt (ts : List (Transition (Archived α φ) Archiving)) (n : Nat) (v : α) : Prop :=
  ∃ later t earlier, ts = later ++ t :: earlier ∧ earlier.length = n ∧ t.pre.value = v

section
variable {encode : α → φ} {s₀ s : Archived α φ} {ts : List (Transition (Archived α φ) Archiving)}
  {t : Transition (Archived α φ) Archiving} {n : Nat} {v : α}

theorem ValueAt.cons (h : ValueAt ts n v) : ValueAt (t :: ts) n v := by
  obtain ⟨later, u, earlier, rfl, hn, hv⟩ := h
  exact ⟨t :: later, u, earlier, rfl, hn, hv⟩

theorem readAt_le_length : readAt ts ≤ ts.length := by
  induction ts with
  | nil => exact Nat.le_refl 0
  | cons t ts ih =>
    unfold readAt
    split
    · exact Nat.le_succ _
    · exact Nat.le_succ_of_le ih

theorem readAt_le_cons : readAt ts ≤ readAt (t :: ts) := by
  rw [readAt.eq_2]
  split
  · exact readAt_le_length
  · exact Nat.le_refl _

theorem archivedAt_le_readAt : archivedAt ts ≤ readAt ts := by
  induction ts with
  | nil => exact Nat.le_refl 0
  | cons t ts ih =>
    refine Nat.le_trans ?_ readAt_le_cons
    rw [archivedAt.eq_2]
    split
    · exact Nat.le_refl _
    · exact ih

theorem archivedAt_le_cons : archivedAt ts ≤ archivedAt (t :: ts) := by
  rw [archivedAt.eq_2]
  split
  · exact archivedAt_le_readAt
  · exact Nat.le_refl _

/-- A later archive holds a later value. -/
theorem archivedAt_mono (later : List (Transition (Archived α φ) Archiving)) :
    archivedAt ts ≤ archivedAt (later ++ ts) := by
  induction later with
  | nil => exact Nat.le_refl _
  | cons t later ih => exact Nat.le_trans ih archivedAt_le_cons

/-- The archive goes back to a read only after a write. -/
theorem write_of_archivedAt_pos (h : 0 < archivedAt ts) : ∃ t ∈ ts, ∃ i, t.act = .write i := by
  induction ts with
  | nil => cases h
  | cons t ts ih =>
    rw [archivedAt.eq_2] at h
    split at h
    · next hact => exact ⟨t, List.mem_cons_self, _, hact⟩
    · obtain ⟨u, hu, hact⟩ := ih h
      exact ⟨u, List.mem_cons_of_mem _ hu, hact⟩

/-- What a writer has read is the value at the last read. -/
theorem Run.readAt (h : Run (· = s₀) (ArchiveStep encode) ts s) (h₀ : s₀.writer = none) {i : Nat}
    (hwriter : s.writer = some (i, some v)) : ValueAt ts (MctierSignaling.readAt ts) v := by
  induction h generalizing i v with
  | start hinit =>
    subst hinit
    cases h₀.symm.trans hwriter
  | snoc _ hstep ih =>
    cases hstep with
    | change => exact (ih hwriter).cons
    | read =>
      cases hwriter
      exact ⟨[], _, _, rfl, rfl, rfl⟩
    | _ => cases hwriter

/-- **The archive holds a value of the run.** After a write, it is the value at the read that the
last write goes back to; before any, it is what it was. -/
theorem Run.archived (h : Run (· = s₀) (ArchiveStep encode) ts s) (h₀ : s₀.writer = none) :
    ((∃ t ∈ ts, ∃ i, t.act = .write i) → ∃ v, s.archive = encode v ∧ ValueAt ts (archivedAt ts) v) ∧
      ((∀ t ∈ ts, ∀ i, t.act ≠ .write i) → s.archive = s₀.archive) := by
  induction h with
  | start hinit =>
    subst hinit
    exact ⟨fun ⟨t, ht, _⟩ => absurd ht List.not_mem_nil, fun _ => rfl⟩
  | snoc hrun hstep ih =>
    have hold {t : Transition (Archived α φ) Archiving}
        {ts : List (Transition (Archived α φ) Archiving)}
        (hact : ∀ i, t.act ≠ .write i) (h : ∃ u ∈ t :: ts, ∃ i, u.act = .write i) :
        ∃ u ∈ ts, ∃ i, u.act = .write i := by
      obtain ⟨u, hu, i, hi⟩ := h
      rcases List.mem_cons.1 hu with rfl | hu
      · exact absurd hi (hact i)
      · exact ⟨u, hu, i, hi⟩
    cases hstep with
    | write hwriter =>
      exact ⟨fun _ => ⟨_, rfl, (Run.readAt hrun h₀ hwriter).cons⟩,
        fun hnot => absurd rfl (hnot _ List.mem_cons_self _)⟩
    | _ =>
      refine ⟨fun h => ?_, fun hnot => ih.2 fun t ht => hnot t (List.mem_cons_of_mem _ ht)⟩
      obtain ⟨v, harchive, hvalue⟩ := ih.1 (hold (fun i hi => by cases hi) h)
      exact ⟨v, harchive, hvalue.cons⟩

end

end

end MctierSignaling
