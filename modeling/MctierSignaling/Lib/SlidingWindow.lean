import Mathlib.Data.List.Basic
import Mathlib.Data.List.TakeWhile
import Mathlib.Order.Nat

/-!
# Failures in a sliding window

A limiter keeps the times of a key's failures in a queue, drops from its front what is out of the
window, and forgets all of them at a reset. This module compares the queue with the log of all
events. `Tracks` relates the two and is kept by every operation of the queue; `window_bound` is what
the check before each failure gives for every closed interval of the window's length.
-/

namespace MctierSignaling.SlidingWindow

/-- What an event is for one key. -/
inductive Mark where
  | failure
  | reset
  | other
  deriving DecidableEq

/-- The times of the failures since the last reset, newest first, of a log that is newest first. -/
def sinceReset : List (Nat × Mark) → List Nat
  | [] => []
  | (t, .failure) :: log => t :: sinceReset log
  | (_, .reset) :: _ => []
  | (_, .other) :: log => sinceReset log

/-- The failures of a log whose times satisfy a condition. -/
def failures (p : Nat → Bool) (log : List (Nat × Mark)) : List (Nat × Mark) :=
  log.filter fun e => e.2 = .failure && p e.1

section
variable {p q : Nat → Bool} {log : List (Nat × Mark)} {t : Nat}

@[simp] theorem failures_nil : failures p [] = [] := rfl

@[simp] theorem failures_failure : failures p ((t, .failure) :: log) =
    if p t then (t, .failure) :: failures p log else failures p log := by
  simp [failures, List.filter_cons]

@[simp] theorem failures_reset : failures p ((t, .reset) :: log) = failures p log := by
  simp [failures]

@[simp] theorem failures_other : failures p ((t, .other) :: log) = failures p log := by
  simp [failures]

/-- The failures since the last reset are failures of the log. -/
theorem sinceReset_le : ((sinceReset log).filter p).length ≤ (failures p log).length := by
  induction log with
  | nil => exact Nat.le_refl 0
  | cons e log ih =>
    obtain ⟨t, _ | _ | _⟩ := e
    · by_cases ht : p t = true
      · simpa [sinceReset, ht] using ih
      · simpa [sinceReset, ht] using ih
    · exact Nat.zero_le _
    · simpa [sinceReset] using ih

end

/-! ## The queue -/

/-- A queue of times that are past, oldest first. -/
structure Ordered (now : Nat) (queue : List Nat) : Prop where
  sorted : queue.Pairwise (· ≤ ·)
  past : ∀ t ∈ queue, t ≤ now

/-- A queue of times against all failures since the last reset, newest first: those that left the
queue are out of the window. -/
def Tracks (window now : Nat) (queue history : List Nat) : Prop :=
  ∃ gone, history = queue.reverse ++ gone ∧ ∀ t ∈ gone, window < now - t

section
variable {window now now' : Nat} {queue queue' history : List Nat}

theorem Ordered.nil : Ordered now [] := ⟨.nil, nofun⟩

theorem Ordered.later (h : Ordered now queue) (hle : now ≤ now') : Ordered now' queue :=
  ⟨h.sorted, fun t ht => (h.past t ht).trans hle⟩

theorem Ordered.sublist (h : Ordered now queue) (hsub : queue'.Sublist queue) :
    Ordered now queue' :=
  ⟨h.sorted.sublist hsub, fun t ht => h.past t (hsub.subset ht)⟩

theorem Ordered.record (h : Ordered now queue) : Ordered now (queue ++ [now]) := by
  refine ⟨List.pairwise_append.2 ⟨h.sorted, List.pairwise_singleton _ _, fun t ht u hu => ?_⟩,
    fun t ht => ?_⟩
  · rw [List.mem_singleton.1 hu]
    exact h.past t ht
  · rcases List.mem_append.1 ht with ht | ht
    · exact h.past t ht
    · exact (List.mem_singleton.1 ht).le

/-- What is left after dropping the expired front of an ordered queue is in the window. -/
theorem Ordered.fresh (h : Ordered now queue) {t : Nat}
    (ht : t ∈ queue.dropWhile fun t => now - t > window) : now - t ≤ window := by
  obtain ⟨hsorted, -⟩ := h
  induction queue with
  | nil => cases ht
  | cons u queue ih =>
    rw [List.pairwise_cons] at hsorted
    by_cases hu : now - u > window
    · rw [List.dropWhile_cons_of_pos (by simpa using hu)] at ht
      exact ih ht hsorted.2
    · rw [List.dropWhile_cons_of_neg (by simpa using hu)] at ht
      rcases List.mem_cons.1 ht with rfl | ht
      · omega
      · have := hsorted.1 t ht
        omega

theorem Tracks.nil : Tracks window now [] [] := ⟨[], rfl, nofun⟩

/-- Time passes. -/
theorem Tracks.later (h : Tracks window now queue history) (hle : now ≤ now') :
    Tracks window now' queue history := by
  obtain ⟨gone, heq, hgone⟩ := h
  refine ⟨gone, heq, fun t ht => ?_⟩
  have := hgone t ht
  omega

/-- The front that is out of the window is dropped. -/
theorem Tracks.expire (h : Tracks window now queue history) :
    Tracks window now (queue.dropWhile fun t => now - t > window) history := by
  obtain ⟨gone, heq, hgone⟩ := h
  refine ⟨(queue.takeWhile fun t => now - t > window).reverse ++ gone, ?_, fun t ht => ?_⟩
  · rw [← List.append_assoc, ← List.reverse_append, List.takeWhile_append_dropWhile, heq]
  · rcases List.mem_append.1 ht with ht | ht
    · simpa using List.mem_takeWhile_imp (List.mem_reverse.1 ht)
    · exact hgone t ht

/-- A failure happens. -/
theorem Tracks.record (h : Tracks window now queue history) :
    Tracks window now (queue ++ [now]) (now :: history) := by
  obtain ⟨gone, heq, hgone⟩ := h
  exact ⟨gone, by rw [heq, List.reverse_append]; rfl, hgone⟩

/-- **The queue after its expired front was dropped is the history's part in the window.** -/
theorem Tracks.recent (h : Tracks window now queue history) (hq : Ordered now queue) :
    history.filter (fun t => now - t ≤ window) =
      (queue.dropWhile fun t => now - t > window).reverse := by
  obtain ⟨gone, heq, hgone⟩ := h.expire
  have hdropped : gone.filter (fun t => now - t ≤ window) = [] := by
    refine List.filter_eq_nil_iff.2 fun t ht => ?_
    have := hgone t ht
    simp only [decide_eq_true_eq]
    omega
  rw [heq, List.filter_append, hdropped, List.append_nil, List.filter_eq_self]
  exact fun t ht => decide_eq_true (hq.fresh (List.mem_reverse.1 ht))

end

/-! ## Intervals -/

section
variable {window start : Nat} {log : List (Nat × Mark)}

/-- The closed interval of the window's length. -/
def within (window start t : Nat) : Bool := start ≤ t && t ≤ start + window

/-- Without a reset in an interval that is not over, its failures are since the last reset. -/
theorem failures_le_sinceReset (hsorted : log.Pairwise fun e e' => e'.1 ≤ e.1)
    (hend : ∀ e ∈ log, e.1 ≤ start + window)
    (hreset : ∀ e ∈ log, within window start e.1 = true → e.2 ≠ .reset) :
    (failures (within window start) log).length ≤
      ((sinceReset log).filter fun t => start ≤ t).length := by
  induction log with
  | nil => exact Nat.le_refl 0
  | cons e log ih =>
    rw [List.pairwise_cons] at hsorted
    have hrest := ih hsorted.2 (fun e' he' => hend e' (List.mem_cons_of_mem _ he'))
      fun e' he' => hreset e' (List.mem_cons_of_mem _ he')
    have hlast := hend e List.mem_cons_self
    have hkeep := hreset e List.mem_cons_self
    obtain ⟨t, _ | _ | _⟩ := e
    · by_cases ht : start ≤ t
      · simpa [sinceReset, within, ht, show t ≤ start + window from hlast] using hrest
      · simpa [sinceReset, within, ht] using hrest
    · -- the reset lies before the interval, and so does all that came before it
      have hbefore : t < start := by
        by_contra hge
        exact hkeep (by simp [within, not_lt.1 hge, show t ≤ start + window from hlast]) rfl
      have hnone : failures (within window start) log = [] := by
        refine List.filter_eq_nil_iff.2 fun e' he' => ?_
        have : e'.1 ≤ t := hsorted.1 e' he'
        simp only [within, Bool.and_eq_true, decide_eq_true_eq]
        omega
      simp [hnone]
    · simpa [sinceReset] using hrest

/-- **The bound of a sliding window.** If each failure finds fewer than `limit` failures of the
window before it that no reset forgot, then a closed interval of the window's length with no reset
in it has at most `limit` failures. -/
theorem window_bound {limit : Nat} (hsorted : log.Pairwise fun e e' => e'.1 ≤ e.1)
    (hlimit : ∀ newer t older, log = newer ++ (t, .failure) :: older →
      ((sinceReset older).filter fun u => t - u ≤ window).length < limit)
    (hreset : ∀ e ∈ log, within window start e.1 = true → e.2 ≠ .reset) :
    (failures (within window start) log).length ≤ limit := by
  induction log with
  | nil => exact Nat.zero_le _
  | cons e log ih =>
    rw [List.pairwise_cons] at hsorted
    have hrest := ih hsorted.2
      (fun newer t older heq => hlimit (e :: newer) t older (by rw [heq]; rfl))
      fun e' he' => hreset e' (List.mem_cons_of_mem _ he')
    obtain ⟨t, _ | _ | _⟩ := e
    · by_cases ht : within window start t = true
      · -- the newest failure of the interval: all the others were found by its check
        rw [failures_failure, if_pos ht, List.length_cons]
        simp only [within, Bool.and_eq_true, decide_eq_true_eq] at ht
        have hcount := failures_le_sinceReset hsorted.2
          (fun e' he' => (hsorted.1 e' he').trans ht.2)
          fun e' he' => hreset e' (List.mem_cons_of_mem _ he')
        have hfound : ((sinceReset log).filter fun u => start ≤ u).length ≤
            ((sinceReset log).filter fun u => t - u ≤ window).length := by
          refine (List.monotone_filter_right _ fun u hu => ?_).length_le
          simp only [decide_eq_true_eq] at hu ⊢
          omega
        have := hlimit [] t log rfl
        omega
      · rwa [failures_failure, if_neg ht]
    · rwa [failures_reset]
    · rwa [failures_other]

end

end MctierSignaling.SlidingWindow
