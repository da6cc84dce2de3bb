import Mathlib.Algebra.Ring.Nat
import Mathlib.Data.List.Induction
import Mathlib.Tactic.Basic

/-!
# Budgets of fixed windows

A budget counts the events of a window and their total size, starts a new window with the first
event that comes late enough, and refuses an event that the window has no room for. This module cuts
the events into the windows that the budget uses (`windows`) and shows that it admits all of them
exactly if every window is within the limits (`admitsAll_iff`).

Two windows are at least their length apart, so an interval of this length meets at most two of
them, and no more than twice the limits is admitted in it (`Gauge.load_inInterval`, for any quantity
that a budget limits). `Limiter.Implements.bounded` moves this to a limiter as a program has it, and
`Metered` to a budget that the steps of a program charge.
-/

namespace MctierSignaling.FixedWindow

/-- The length of a window, and how many events and how much it may have. -/
structure Limits where
  length : Nat
  count : Nat
  total : Nat

/-- An event, with its time and its size. -/
structure Event where
  time : Nat
  size : Nat
  deriving DecidableEq

/-- What a budget keeps: the start of its window, and what it has admitted in it. -/
structure Counters where
  start : Nat
  count : Nat
  total : Nat

/-- The counters when an event comes. -/
def Counters.at (L : Limits) (c : Counters) (e : Event) : Counters :=
  if L.length ≤ e.time - c.start then ⟨e.time, 0, 0⟩ else c

/-- Whether the window of the event has room for it. -/
def Counters.admits (L : Limits) (c : Counters) (e : Event) : Bool :=
  (c.at L e).count + 1 ≤ L.count && (c.at L e).total + e.size ≤ L.total

/-- The counters after an event. -/
def Counters.after (L : Limits) (c : Counters) (e : Event) : Counters :=
  if c.admits L e then
    { c.at L e with count := (c.at L e).count + 1, total := (c.at L e).total + e.size }
  else c.at L e

/-- Whether all of these events are admitted, one after the other. -/
def Counters.admitsAll (L : Limits) : Counters → List Event → Bool
  | _, [] => true
  | c, e :: es => c.admits L e && Counters.admitsAll L (c.after L e) es

/-- The events cut into windows: those of the window that starts at `start`, and the windows after
it, each of which starts with the first event that comes late enough. -/
def windows (length : Nat) : Nat → List Event → List Event × List (List Event)
  | _, [] => ([], [])
  | start, e :: es =>
    if length ≤ e.time - start then
      let later := windows length e.time es
      ([], (e :: later.1) :: later.2)
    else
      let later := windows length start es
      (e :: later.1, later.2)

/-- The size of a window. -/
def size (window : List Event) : Nat := (window.map Event.size).sum

/-- A window is within the limits. -/
def Within (L : Limits) (window : List Event) : Prop :=
  window.length ≤ L.count ∧ size window ≤ L.total

instance (L : Limits) (window : List Event) : Decidable (Within L window) :=
  inferInstanceAs (Decidable (_ ∧ _))

/-- Every window of the events is within the limits. -/
def Fits (L : Limits) (start : Nat) (es : List Event) : Prop :=
  Within L (windows L.length start es).1 ∧ ∀ w ∈ (windows L.length start es).2, Within L w

instance (L : Limits) (start : Nat) (es : List Event) : Decidable (Fits L start es) :=
  inferInstanceAs (Decidable (_ ∧ _))

section
variable {L : Limits} {c : Counters} {e : Event} {es : List Event}

@[simp] theorem size_cons : size (e :: es) = e.size + size es := rfl

theorem Counters.after_of_admits (h : c.admits L e = true) : c.after L e =
    { c.at L e with count := (c.at L e).count + 1, total := (c.at L e).total + e.size } :=
  if_pos h

theorem Counters.admits_iff : c.admits L e = true ↔
    (c.at L e).count + 1 ≤ L.count ∧ (c.at L e).total + e.size ≤ L.total := by
  simp [Counters.admits]

/-- All events are admitted exactly if the rest of the running window has room for its events, and
the windows after it are within the limits. -/
theorem Counters.admitsAll_iff (hcount : c.count ≤ L.count) (htotal : c.total ≤ L.total) :
    c.admitsAll L es = true ↔
      (c.count + (windows L.length c.start es).1.length ≤ L.count ∧
        c.total + size (windows L.length c.start es).1 ≤ L.total) ∧
      ∀ w ∈ (windows L.length c.start es).2, Within L w := by
  induction es generalizing c with
  | nil => simp [Counters.admitsAll, windows, size, hcount, htotal]
  | cons e es ih =>
    -- the event and those after it, from the counters that the event finds
    have hrest : c.admits L e = true ∧ (c.after L e).admitsAll L es = true ↔
        ((c.at L e).count + 1 + (windows L.length (c.at L e).start es).1.length ≤ L.count ∧
          (c.at L e).total + e.size + size (windows L.length (c.at L e).start es).1 ≤ L.total) ∧
        ∀ w ∈ (windows L.length (c.at L e).start es).2, Within L w := by
      constructor
      · rintro ⟨hadmits, hes⟩
        rw [Counters.after_of_admits hadmits] at hes
        rw [Counters.admits_iff] at hadmits
        exact (ih hadmits.1 hadmits.2).1 hes
      · rintro ⟨⟨hc, ht⟩, hws⟩
        have hadmits : c.admits L e = true := Counters.admits_iff.2 (by omega)
        refine ⟨hadmits, ?_⟩
        rw [Counters.after_of_admits hadmits]
        rw [Counters.admits_iff] at hadmits
        exact (ih hadmits.1 hadmits.2).2 ⟨⟨hc, ht⟩, hws⟩
    rw [Counters.admitsAll, Bool.and_eq_true, hrest]
    by_cases hlate : L.length ≤ e.time - c.start
    · -- the event starts a window
      have hat : c.at L e = ⟨e.time, 0, 0⟩ := if_pos hlate
      have hwindows : windows L.length c.start (e :: es) =
          ([], (e :: (windows L.length e.time es).1) :: (windows L.length e.time es).2) :=
        if_pos hlate
      rw [hat, hwindows, List.forall_mem_cons]
      simp only [Within, List.length_cons, size_cons, Nat.zero_add]
      constructor
      · rintro ⟨hfit, hws⟩
        exact ⟨⟨hcount, htotal⟩, by omega, hws⟩
      · rintro ⟨-, hfit, hws⟩
        exact ⟨by omega, hws⟩
    · -- the event belongs to the running window
      have hat : c.at L e = c := if_neg hlate
      have hwindows : windows L.length c.start (e :: es) =
          (e :: (windows L.length c.start es).1, (windows L.length c.start es).2) :=
        if_neg hlate
      rw [hat, hwindows]
      simp only [List.length_cons, size_cons]
      refine and_congr_left fun _ => ?_
      omega

/-- **A fresh budget admits all events exactly if every window is within the limits.** -/
theorem admitsAll_iff {start : Nat} :
    (Counters.mk start 0 0).admitsAll L es = true ↔ Fits L start es := by
  rw [Counters.admitsAll_iff (Nat.zero_le _) (Nat.zero_le _)]
  simp only [Nat.zero_add, Fits, Within]

/-- A budget is fresh for events if its window is empty, or over before any of them. -/
def Counters.Fresh (L : Limits) (c : Counters) (now : Nat) : Prop :=
  (c.count = 0 ∧ c.total = 0) ∨ L.length ≤ now - c.start

/-- **A fresh budget admits all later events exactly if every window is within the limits.** -/
theorem Counters.Fresh.admitsAll_iff {now : Nat} (hfresh : c.Fresh L now)
    (hes : ∀ e ∈ es, now ≤ e.time) : c.admitsAll L es = true ↔ Fits L c.start es := by
  rw [← FixedWindow.admitsAll_iff]
  obtain ⟨start, count, total⟩ := c
  rcases hfresh with ⟨rfl, rfl⟩ | hover
  · rfl
  cases es with
  | nil => rfl
  | cons e es =>
    -- the first event starts a window, whatever the counters were
    have hlate : L.length ≤ e.time - start := by
      have := hes e List.mem_cons_self
      dsimp only at hover
      omega
    have hat : ∀ count total, (Counters.mk start count total).at L e = ⟨e.time, 0, 0⟩ :=
      fun _ _ => if_pos hlate
    simp only [Counters.admitsAll, Counters.admits, Counters.after, hat]

/-- One more event is admitted after the others. -/
theorem Counters.admitsAll_append :
    c.admitsAll L (es ++ [e]) =
      (c.admitsAll L es && (es.foldl (Counters.after L) c).admits L e) := by
  induction es generalizing c with
  | nil => simp [Counters.admitsAll]
  | cons e' es ih => rw [List.cons_append, Counters.admitsAll, Counters.admitsAll, ih,
      Bool.and_assoc, List.foldl_cons]

/-! ## Decisions -/

theorem Counters.at_cases : L.length ≤ e.time - c.start ∧ c.at L e = ⟨e.time, 0, 0⟩ ∨
    e.time - c.start < L.length ∧ c.at L e = c := by
  by_cases h : L.length ≤ e.time - c.start
  · exact .inl ⟨h, if_pos h⟩
  · exact .inr ⟨Nat.lt_of_not_le h, if_neg h⟩

/-- The window of an event has not ended, and not started after it. -/
theorem Counters.at_start (h : c.start ≤ e.time) :
    c.start ≤ (c.at L e).start ∧ (c.at L e).start ≤ e.time := by
  obtain ⟨-, hat⟩ | ⟨-, hat⟩ := Counters.at_cases (L := L) (c := c) (e := e)
  · rw [hat]
    exact ⟨h, Nat.le_refl _⟩
  · rw [hat]
    exact ⟨Nat.le_refl _, h⟩

/-- An event that starts a window is in it. -/
theorem Counters.at_at (hlen : 0 < L.length) : (c.at L e).at L e = c.at L e := by
  obtain ⟨-, hat⟩ | ⟨hin, hat⟩ := Counters.at_cases (L := L) (c := c) (e := e)
  · rw [hat, Counters.at, if_neg (by simp; omega)]
  · rw [hat, hat]

theorem Counters.after_of_refused (h : c.admits L e = false) : c.after L e = c.at L e := by
  rw [Counters.after, h]
  rfl

/-- What is decided depends on the counters when the event comes. -/
theorem Counters.after_congr {c' : Counters} (h : c.at L e = c'.at L e) :
    c.admits L e = c'.admits L e ∧ c.after L e = c'.after L e := by
  have hadmits : c.admits L e = c'.admits L e := by rw [Counters.admits, h, ← Counters.admits]
  exact ⟨hadmits, by rw [Counters.after, hadmits, h, ← Counters.after]⟩

@[simp] theorem Counters.after_start : (c.after L e).start = (c.at L e).start := by
  unfold Counters.after
  split <;> rfl

/-- What is decided about an event: the window it falls into, by its start, and whether it is
admitted. -/
structure Decision where
  event : Event
  start : Nat
  admitted : Bool
  deriving DecidableEq

/-- The decisions about events, one after the other. -/
def Counters.decisions (L : Limits) : Counters → List Event → List Decision
  | _, [] => []
  | c, e :: es => ⟨e, (c.at L e).start, c.admits L e⟩ :: Counters.decisions L (c.after L e) es

theorem Counters.decisions_append : c.decisions L (es ++ [e]) = c.decisions L es ++
    [⟨e, ((es.foldl (Counters.after L) c).at L e).start,
      (es.foldl (Counters.after L) c).admits L e⟩] := by
  induction es generalizing c with
  | nil => rfl
  | cons e' es ih => rw [List.cons_append, Counters.decisions, Counters.decisions, ih,
      List.cons_append, List.foldl_cons]

/-- The decisions about events, the first of which the counters are ready for. -/
theorem Counters.decisions_at (hlen : 0 < L.length) :
    (c.at L e).decisions L (e :: es) = c.decisions L (e :: es) := by
  have hadmits : (c.at L e).admits L e = c.admits L e := by
    rw [Counters.admits, Counters.admits, Counters.at_at hlen]
  have hafter : (c.at L e).after L e = c.after L e := by
    rw [Counters.after, Counters.after, hadmits, Counters.at_at hlen]
  rw [Counters.decisions, Counters.decisions, hadmits, hafter, Counters.at_at hlen]

/-- A limiter that counts events without a size: it has moved on to the window of the event, and
counts the event if the window has room for it. -/
theorem Counters.of_count {β : Type*} {counters : β → Counters} {b b' more : β} {now : Nat}
    (hat : (counters b).at L ⟨now, 0⟩ = counters b') (htotal : (counters b').total ≤ L.total)
    (hmore : counters more = { counters b' with count := (counters b').count + 1 }) :
    counters (if (counters b').count ≥ L.count then (b', false) else (more, true)).1 =
        (counters b).after L ⟨now, 0⟩ ∧
      (if (counters b').count ≥ L.count then (b', false) else (more, true)).2 =
        (counters b).admits L ⟨now, 0⟩ := by
  have hadmits : (counters b).admits L ⟨now, 0⟩ = true ↔
      (counters b').count + 1 ≤ L.count := by
    rw [Counters.admits_iff, hat]
    dsimp only
    omega
  split
  · next hfull =>
    have hrefused : (counters b).admits L ⟨now, 0⟩ = false := by
      refine Bool.eq_false_iff.2 fun h => ?_
      have := hadmits.1 h
      omega
    rw [Counters.after_of_refused hrefused, hrefused]
    exact ⟨hat.symm, rfl⟩
  · next hroom =>
    have hadmitted : (counters b).admits L ⟨now, 0⟩ = true := hadmits.2 (by omega)
    rw [Counters.after_of_admits hadmitted, hat, hadmitted]
    exact ⟨hmore, rfl⟩

/-- The events come one after the other, from a time on. -/
def Ordered (now : Nat) (es : List Event) : Prop := (now :: es.map Event.time).Pairwise (· ≤ ·)

theorem ordered_cons {now : Nat} : Ordered now (e :: es) ↔ now ≤ e.time ∧ Ordered e.time es := by
  unfold Ordered
  rw [List.map_cons, List.pairwise_cons]
  constructor
  · intro h
    exact ⟨h.1 _ List.mem_cons_self, h.2⟩
  · rintro ⟨hle, h⟩
    refine ⟨fun t ht => ?_, h⟩
    obtain rfl | ht := List.mem_cons.mp ht
    · exact hle
    · exact Nat.le_trans hle ((List.pairwise_cons.mp h).1 t ht)

/-- A decision is about a later event, in the same window or a later one. -/
theorem Counters.mem_decisions {now : Nat} {d : Decision} (hd : d ∈ c.decisions L es)
    (hes : Ordered now es) (hnow : c.start ≤ now) : now ≤ d.event.time ∧ c.start ≤ d.start := by
  induction es generalizing c now with
  | nil => cases hd
  | cons e es ih =>
    obtain ⟨hle, hes⟩ := ordered_cons.mp hes
    have hstart := Counters.at_start (L := L) (Nat.le_trans hnow hle)
    obtain rfl | hd := List.mem_cons.mp hd
    · exact ⟨hle, hstart.1⟩
    · obtain ⟨htime, hstart'⟩ := ih hd hes (by rw [Counters.after_start]; exact hstart.2)
      rw [Counters.after_start] at hstart'
      omega

/-! ## What is admitted -/

/-- A quantity that a budget limits: what an event weighs, how much of it a window has admitted, and
how much it may admit. -/
structure Gauge (L : Limits) where
  weight : Event → Nat
  level : Counters → Nat
  limit : Nat
  level_fresh : ∀ t, level ⟨t, 0, 0⟩ = 0
  level_after : ∀ {c : Counters} {e : Event}, c.admits L e = true →
    level (c.after L e) = level (c.at L e) + weight e
  level_le : ∀ {c : Counters} {e : Event}, c.admits L e = true →
    level (c.at L e) + weight e ≤ limit

/-- The number of events. -/
def Gauge.count (L : Limits) : Gauge L where
  weight _ := 1
  level := Counters.count
  limit := L.count
  level_fresh _ := rfl
  level_after h := by rw [Counters.after_of_admits h]
  level_le h := (Counters.admits_iff.mp h).1

/-- The total size of the events. -/
def Gauge.total (L : Limits) : Gauge L where
  weight := Event.size
  level := Counters.total
  limit := L.total
  level_fresh _ := rfl
  level_after h := by rw [Counters.after_of_admits h]
  level_le h := (Counters.admits_iff.mp h).2

/-- The admitted events among some. -/
def admitted (p : Decision → Bool) (ds : List Decision) : List Event :=
  (ds.filter fun d => d.admitted && p d).map Decision.event

/-- The decision falls into the window with this start. -/
def Decision.inWindow (start : Nat) (d : Decision) : Bool := d.start == start

/-- The event is in the half-open interval of a length that begins then. -/
def Decision.inInterval (length start : Nat) (d : Decision) : Bool :=
  start ≤ d.event.time && d.event.time < start + length

/-- What is admitted among some events. -/
def Gauge.load (G : Gauge L) (p : Decision → Bool) (ds : List Decision) : Nat :=
  ((admitted p ds).map G.weight).sum

section
variable {G : Gauge L} {p : Decision → Bool} {d : Decision} {ds : List Decision} {now : Nat}

theorem Gauge.load_cons : G.load p (d :: ds) =
    (if d.admitted && p d then G.weight d.event else 0) + G.load p ds := by
  unfold Gauge.load admitted
  rw [List.filter_cons]
  split
  · simp
  · simp

theorem Gauge.load_eq_zero (h : ∀ d ∈ ds, p d = false) : G.load p ds = 0 := by
  have hnone : ds.filter (fun d => d.admitted && p d) = [] := by
    rw [List.filter_eq_nil_iff]
    intro d hd
    simp [h d hd]
  rw [Gauge.load, admitted, hnone]
  rfl

theorem Gauge.level_at (h : G.level c ≤ G.limit) : G.level (c.at L e) ≤ G.limit := by
  obtain ⟨-, hat⟩ | ⟨-, hat⟩ := Counters.at_cases (L := L) (c := c) (e := e)
  · rw [hat, G.level_fresh]
    exact Nat.zero_le _
  · rwa [hat]

theorem Gauge.level_after_le (h : G.level c ≤ G.limit) : G.level (c.after L e) ≤ G.limit := by
  cases hadmits : c.admits L e with
  | true =>
    rw [G.level_after hadmits]
    exact G.level_le hadmits
  | false =>
    rw [Counters.after_of_refused hadmits]
    exact G.level_at h

/-- An event of the running window charges at least what it adds to the load. -/
theorem Gauge.charge (hat : c.at L e = c) :
    (if c.admits L e && p ⟨e, (c.at L e).start, c.admits L e⟩ then G.weight e else 0) + G.level c ≤
      G.level (c.after L e) := by
  cases hadmits : c.admits L e with
  | true =>
    rw [G.level_after hadmits, hat]
    split <;> omega
  | false =>
    rw [Counters.after_of_refused hadmits, hat]
    simp

/-- What counts only while the running window lasts fits into what is left of the window. -/
theorem Gauge.load_window (h : G.level c ≤ G.limit) (hes : Ordered now es) (hnow : c.start ≤ now)
    (hp : ∀ d, c.start + L.length ≤ d.start → c.start + L.length ≤ d.event.time → p d = false) :
    G.load p (c.decisions L es) + G.level c ≤ G.limit := by
  induction es generalizing c now with
  | nil => simpa [Counters.decisions, Gauge.load, admitted] using h
  | cons e es ih =>
    obtain ⟨hle, hes⟩ := ordered_cons.mp hes
    obtain ⟨hlate, hat⟩ | ⟨-, hat⟩ := Counters.at_cases (L := L) (c := c) (e := e)
    · -- the window is over
      have hzero : G.load p (c.decisions L (e :: es)) = 0 := by
        refine Gauge.load_eq_zero fun d hd => ?_
        obtain rfl | hd := List.mem_cons.mp hd
        · exact hp _ (by dsimp only; rw [hat]; dsimp only; omega) (by dsimp only; omega)
        · have hstart : (c.after L e).start = e.time := by rw [Counters.after_start, hat]
          obtain ⟨htime, hstart'⟩ := Counters.mem_decisions hd hes (Nat.le_of_eq hstart)
          exact hp d (by omega) (by omega)
      omega
    · have hafter : (c.after L e).start = c.start := by rw [Counters.after_start, hat]
      have hrest := ih (G.level_after_le h) hes (by rw [hafter]; omega) (by rwa [hafter])
      have hcharge := Gauge.charge (G := G) (p := p) hat
      rw [Counters.decisions, Gauge.load_cons]
      dsimp only
      omega

/-- Every window admits at most the limit. -/
theorem Gauge.load_inWindow (hlen : 0 < L.length) (h : G.level c ≤ G.limit) (hes : Ordered now es)
    (hnow : c.start ≤ now) (start : Nat) :
    G.load (Decision.inWindow start) (c.decisions L es) ≤ G.limit := by
  have hwindow : ∀ {c : Counters} {es : List Event} {now : Nat}, G.level c ≤ G.limit →
      Ordered now es → c.start ≤ now →
      G.load (Decision.inWindow c.start) (c.decisions L es) ≤ G.limit := by
    intro c es now h hes hnow
    have hload := Gauge.load_window (p := Decision.inWindow c.start) h hes hnow (by
      intro d hstart _
      simp only [Decision.inWindow, beq_eq_false_iff_ne]
      omega)
    omega
  induction es generalizing c now with
  | nil => exact Nat.zero_le _
  | cons e es ih =>
    obtain ⟨hle, hes⟩ := ordered_cons.mp hes
    have hat := (Counters.at_start (L := L) (Nat.le_trans hnow hle)).2
    by_cases hstart : (c.at L e).start = start
    · rw [← Counters.decisions_at hlen, ← hstart]
      exact hwindow (G.level_at h) (ordered_cons.mpr ⟨Nat.le_refl _, hes⟩) hat
    · have hskip : Decision.inWindow start ⟨e, (c.at L e).start, c.admits L e⟩ = false := by
        simpa [Decision.inWindow] using hstart
      rw [Counters.decisions, Gauge.load_cons, hskip, Bool.and_false]
      simpa using ih (G.level_after_le h) hes (by rw [Counters.after_start]; exact hat)

/-- What a window and the next one admit in an interval of the length of a window that has begun. -/
theorem Gauge.load_begun (hlen : 0 < L.length) (h : G.level c ≤ G.limit) (hes : Ordered now es)
    (hnow : c.start ≤ now) {start : Nat} (hstart : start ≤ now) :
    G.load (Decision.inInterval L.length start) (c.decisions L es) + G.level c ≤ 2 * G.limit := by
  induction es generalizing c now with
  | nil =>
    have hnil : G.load (Decision.inInterval L.length start) (c.decisions L []) = 0 := rfl
    omega
  | cons e es ih =>
    obtain ⟨hle, hes⟩ := ordered_cons.mp hes
    obtain ⟨-, hat⟩ | ⟨-, hat⟩ := Counters.at_cases (L := L) (c := c) (e := e)
    · -- no later window meets the interval
      have hload := Gauge.load_window (p := Decision.inInterval L.length start)
        (G.level_at (e := e) h) (ordered_cons.mpr ⟨Nat.le_refl _, hes⟩)
        (Counters.at_start (Nat.le_trans hnow hle)).2 (by
          intro d _ htime
          rw [hat] at htime
          simp only [Decision.inInterval, Bool.and_eq_false_iff, decide_eq_false_iff_not]
          dsimp only at htime
          omega)
      rw [Counters.decisions_at hlen] at hload
      omega
    · have hafter : (c.after L e).start = c.start := by rw [Counters.after_start, hat]
      have hrest := ih (G.level_after_le h) hes (by rw [hafter]; omega)
        (Nat.le_trans hstart hle)
      have hcharge := Gauge.charge (G := G) (p := Decision.inInterval L.length start) hat
      rw [Counters.decisions, Gauge.load_cons]
      dsimp only
      omega

/-- An interval of the length of a window meets two windows at most. -/
theorem Gauge.load_inInterval (hlen : 0 < L.length) (h : G.level c ≤ G.limit) (hes : Ordered now es)
    (hnow : c.start ≤ now) (start : Nat) :
    G.load (Decision.inInterval L.length start) (c.decisions L es) ≤ 2 * G.limit := by
  induction es generalizing c now with
  | nil => exact Nat.zero_le _
  | cons e es ih =>
    obtain ⟨hle, hes⟩ := ordered_cons.mp hes
    have hnow := Nat.le_trans hnow hle
    by_cases hstart : start ≤ e.time
    · have hbegun := Gauge.load_begun hlen h (ordered_cons.mpr ⟨Nat.le_refl _, hes⟩) hnow hstart
      omega
    · have hskip : Decision.inInterval L.length start ⟨e, (c.at L e).start, c.admits L e⟩ =
          false := by
        simp [Decision.inInterval, hstart]
      rw [Counters.decisions, Gauge.load_cons, hskip, Bool.and_false]
      simpa using ih (G.level_after_le h) hes
        (by rw [Counters.after_start]; exact (Counters.at_start hnow).2)

theorem Gauge.load_count : (Gauge.count L).load p ds = (admitted p ds).length := by
  simp [Gauge.load, Gauge.count, List.map_const']

end

end

/-! ## Limiters -/

/-- A limiter as a program has it: what it does with a call, what of its state it counts with, and
what a call counts for. -/
structure Limiter (β γ : Type*) where
  allow : β → γ → β × Bool
  counters : β → Counters
  event : γ → Event

section
variable {β γ : Type*} (M : Limiter β γ)

/-- The state after some calls. -/
def Limiter.run (b : β) (calls : List γ) : β := calls.foldl (fun b call => (M.allow b call).1) b

/-- The decisions about calls, one after the other. -/
def Limiter.decisions : β → List γ → List Decision
  | _, [] => []
  | b, call :: calls =>
    ⟨M.event call, (M.counters (M.allow b call).1).start, (M.allow b call).2⟩ ::
      Limiter.decisions (M.allow b call).1 calls

/-- The limiter is a budget with these limits. -/
structure Limiter.Implements (L : Limits) : Prop where
  after : ∀ b call, M.counters (M.allow b call).1 = (M.counters b).after L (M.event call)
  admits : ∀ b call, (M.allow b call).2 = (M.counters b).admits L (M.event call)

/-- What a limiter guarantees about calls. An interval of the length of a window admits at most
twice the limits, and a window at most the limits. The counters stay within the limits, a refusal
leaves them as they were or as they are in an empty window, and once the window is over, a call that
is no greater than the limit is admitted. -/
structure Limiter.Bounded (L : Limits) (b : β) (calls : List γ) : Prop where
  interval : ∀ start, Within ⟨L.length, 2 * L.count, 2 * L.total⟩
    (admitted (Decision.inInterval L.length start) (M.decisions b calls))
  window : ∀ start, Within L (admitted (Decision.inWindow start) (M.decisions b calls))
  counters : ∀ earlier, earlier <+: calls →
    (M.counters (M.run b earlier)).count ≤ L.count ∧ (M.counters (M.run b earlier)).total ≤ L.total
  refused : ∀ earlier call, earlier ++ [call] <+: calls →
    (M.allow (M.run b earlier) call).2 = false →
    M.counters (M.run b (earlier ++ [call])) = M.counters (M.run b earlier) ∨
      (M.counters (M.run b earlier)).start + L.length ≤ (M.event call).time ∧
        M.counters (M.run b (earlier ++ [call])) = ⟨(M.event call).time, 0, 0⟩
  reopened : ∀ earlier call, earlier ++ [call] <+: calls →
    (M.counters (M.run b earlier)).start + L.length ≤ (M.event call).time →
    (M.event call).size ≤ L.total → (M.allow (M.run b earlier) call).2 = true

variable {M} {L : Limits} {b : β} {call : γ} {calls : List γ} {now : Nat}

theorem Limiter.run_append : M.run b (calls ++ [call]) = (M.allow (M.run b calls) call).1 := by
  simp [Limiter.run]

theorem Limiter.Implements.decisions (h : M.Implements L) :
    M.decisions b calls = (M.counters b).decisions L (calls.map M.event) := by
  induction calls generalizing b with
  | nil => rfl
  | cons call calls ih =>
    rw [Limiter.decisions, List.map_cons, Counters.decisions, ih, h.after, h.admits,
      Counters.after_start]

/-- What a limiter counts stays within a limit that it has at first. -/
theorem Limiter.Implements.level_run (h : M.Implements L) (G : Gauge L)
    (hb : G.level (M.counters b) ≤ G.limit) : G.level (M.counters (M.run b calls)) ≤ G.limit := by
  induction calls using List.reverseRecOn with
  | nil => exact hb
  | append_singleton calls call ih =>
    rw [Limiter.run_append, h.after]
    exact G.level_after_le ih

/-- What a fresh budget admits in an interval of the length of a window. -/
theorem within_interval (hlen : 0 < L.length) {es : List Event} (hes : Ordered now es)
    (start : Nat) : Within ⟨L.length, 2 * L.count, 2 * L.total⟩
      (admitted (Decision.inInterval L.length start) ((Counters.mk now 0 0).decisions L es)) := by
  have hcount := Gauge.load_inInterval (G := .count L) (c := ⟨now, 0, 0⟩) hlen
    (Nat.zero_le _) hes (Nat.le_refl now) start
  have htotal := Gauge.load_inInterval (G := .total L) (c := ⟨now, 0, 0⟩) hlen
    (Nat.zero_le _) hes (Nat.le_refl now) start
  rw [Gauge.load_count] at hcount
  exact ⟨hcount, htotal⟩

/-- What a fresh budget admits in a window. -/
theorem within_window (hlen : 0 < L.length) {es : List Event} (hes : Ordered now es)
    (start : Nat) : Within L
      (admitted (Decision.inWindow start) ((Counters.mk now 0 0).decisions L es)) := by
  have hcount := Gauge.load_inWindow (G := .count L) (c := ⟨now, 0, 0⟩) hlen
    (Nat.zero_le _) hes (Nat.le_refl now) start
  have htotal := Gauge.load_inWindow (G := .total L) (c := ⟨now, 0, 0⟩) hlen
    (Nat.zero_le _) hes (Nat.le_refl now) start
  rw [Gauge.load_count] at hcount
  exact ⟨hcount, htotal⟩

/-- **A fresh limiter is bounded.** -/
theorem Limiter.Implements.bounded (h : M.Implements L) (hlen : 0 < L.length)
    (hcount : 0 < L.count) (hb : M.counters b = ⟨now, 0, 0⟩)
    (hcalls : Ordered now (calls.map M.event)) : M.Bounded L b calls where
  interval start := by
    rw [h.decisions, hb]
    exact within_interval hlen hcalls start
  window start := by
    rw [h.decisions, hb]
    exact within_window hlen hcalls start
  counters earlier _ := by
    have hfresh : ∀ G : Gauge L, G.level (M.counters b) ≤ G.limit := by
      intro G
      rw [hb, G.level_fresh]
      exact Nat.zero_le _
    exact ⟨h.level_run (.count L) (hfresh _), h.level_run (.total L) (hfresh _)⟩
  refused earlier call _ hrefused := by
    rw [h.admits] at hrefused
    rw [Limiter.run_append, h.after, Counters.after_of_refused hrefused]
    obtain ⟨hlate, hat⟩ | ⟨-, hat⟩ := Counters.at_cases (L := L)
      (c := M.counters (M.run b earlier)) (e := M.event call)
    · exact .inr ⟨by omega, hat⟩
    · exact .inl hat
  reopened earlier call _ hlate hsize := by
    have hat : (M.counters (M.run b earlier)).at L (M.event call) = ⟨(M.event call).time, 0, 0⟩ :=
      if_pos (by omega)
    rw [h.admits, Counters.admits_iff, hat]
    dsimp only
    omega

end

/-! ## A budget along a run -/

/-- What was offered to a budget so far, and what of it passed: the counters were fresh at `since`,
and nothing passed that they refused. -/
structure Metered (L : Limits) (since : Nat) (offered passed : List Event) (c : Counters)
    (now : Nat) : Prop where
  ordered : Ordered since offered
  since_le : since ≤ now
  late : ∀ e ∈ offered, e.time ≤ now
  counters : c = offered.foldl (Counters.after L) ⟨since, 0, 0⟩
  passed : passed.Sublist
    (admitted (fun _ => true) ((Counters.mk since 0 0).decisions L offered))

section
variable {L : Limits} {c : Counters} {e : Event} {since now now' start : Nat}
  {offered passed : List Event}

theorem Metered.new : Metered L since [] [] ⟨since, 0, 0⟩ since where
  ordered := List.pairwise_singleton _ _
  since_le := Nat.le_refl _
  late := fun _ h => absurd h List.not_mem_nil
  counters := rfl
  passed := List.nil_sublist _

/-- Time passes. -/
theorem Metered.mono (h : Metered L since offered passed c now) (hle : now ≤ now') :
    Metered L since offered passed c now' where
  ordered := h.ordered
  since_le := Nat.le_trans h.since_le hle
  late e he := Nat.le_trans (h.late e he) hle
  counters := h.counters
  passed := h.passed

/-- An event is offered, and passes only if the budget admits it. -/
theorem Metered.offer (h : Metered L since offered passed c now) {p : Bool} (htime : e.time = now)
    (hp : p = true → c.admits L e = true) :
    Metered L since (offered ++ [e]) (passed ++ if p then [e] else []) (c.after L e) now where
  ordered := by
    have hordered := h.ordered
    unfold Ordered at hordered ⊢
    rw [List.map_append, ← List.cons_append, List.pairwise_append]
    refine ⟨hordered, List.pairwise_singleton _ _, fun t ht t' ht' => ?_⟩
    rw [List.map_singleton, List.mem_singleton] at ht'
    rw [ht', htime]
    rcases List.mem_cons.1 ht with rfl | ht
    · exact h.since_le
    · obtain ⟨e', he', rfl⟩ := List.mem_map.1 ht
      exact h.late e' he'
  since_le := h.since_le
  late e' he' := by
    rcases List.mem_append.1 he' with he' | he'
    · exact h.late e' he'
    · rw [List.mem_singleton.1 he', htime]
  counters := by rw [List.foldl_append, ← h.counters]; rfl
  passed := by
    rw [Counters.decisions_append, ← h.counters]
    unfold admitted
    rw [List.filter_append, List.map_append]
    refine h.passed.append ?_
    cases p with
    | false => exact List.nil_sublist _
    | true => simp [hp rfl]

theorem size_le_of_sublist {es es' : List Event} (h : es.Sublist es') : size es ≤ size es' := by
  induction h with
  | slnil => exact Nat.le_refl _
  | cons e _ ih => rw [size_cons]; omega
  | cons_cons e _ ih => rw [size_cons, size_cons]; omega

/-- **What passes in an interval of the length of a window** is at most twice the limits. -/
theorem Metered.interval (h : Metered L since offered passed c now) (hlen : 0 < L.length)
    (start : Nat) : Within ⟨L.length, 2 * L.count, 2 * L.total⟩
      (passed.filter fun e => start ≤ e.time && e.time < start + L.length) := by
  have hall := within_interval hlen h.ordered start
  have hsub : (passed.filter fun e => start ≤ e.time && e.time < start + L.length).Sublist
      (admitted (Decision.inInterval L.length start)
        ((Counters.mk since 0 0).decisions L offered)) := by
    have heq : (admitted (fun _ => true) ((Counters.mk since 0 0).decisions L offered)).filter
        (fun e => start ≤ e.time && e.time < start + L.length) =
          admitted (Decision.inInterval L.length start)
            ((Counters.mk since 0 0).decisions L offered) := by
      unfold admitted
      rw [List.filter_map, List.filter_filter]
      refine congrArg _ (List.filter_congr fun d _ => ?_)
      simp only [Function.comp, Decision.inInterval, Bool.and_true]
      exact Bool.and_comm _ _
    exact heq ▸ h.passed.filter _
  exact ⟨Nat.le_trans hsub.length_le hall.1, Nat.le_trans (size_le_of_sublist hsub) hall.2⟩

end

end MctierSignaling.FixedWindow
