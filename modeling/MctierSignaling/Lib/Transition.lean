import Mathlib.Data.List.Forall2
import Mathlib.Logic.Function.Basic

/-!
# Runs of labelled transition systems

A system is a predicate of initial states and a step relation labelled with actions. A run keeps
every transition it took, newest first, so a property of the past ("this was granted by that step,
and nothing revoked it since") is a property of the list. `Run.invariant` is the induction rule of
safety, `Run.since` the one of such history properties, `Run.countP_add_le_start` the one of events
that each use up a measure, `Run.map` and `Reachable.simulate` move runs along a mapping of states,
and `Run.simulate` is the rule of refinement.
-/

namespace MctierSignaling

/-- One transition of a run: the state before, the action, and the state after. -/
structure Transition (σ α : Type*) where
  pre : σ
  act : α
  post : σ

section
variable {σ α : Type*} {init : σ → Prop} {step : σ → α → σ → Prop}

/-- The runs of a system, each with its transitions, newest first, and its last state. -/
inductive Run (init : σ → Prop) (step : σ → α → σ → Prop) : List (Transition σ α) → σ → Prop
  | start {s : σ} : init s → Run init step [] s
  | snoc {ts : List (Transition σ α)} {s s' : σ} {a : α} : Run init step ts s → step s a s' →
      Run init step (⟨s, a, s'⟩ :: ts) s'

/-- A state is reachable if a run ends in it. -/
def Reachable (init : σ → Prop) (step : σ → α → σ → Prop) (s : σ) : Prop :=
  ∃ ts, Run init step ts s

theorem Run.reachable {ts : List (Transition σ α)} {s : σ} (h : Run init step ts s) :
    Reachable init step s := ⟨ts, h⟩

theorem Reachable.snoc {s s' : σ} {a : α} (h : Reachable init step s) (hs : step s a s') :
    Reachable init step s' :=
  h.elim fun _ h => ⟨_, h.snoc hs⟩

/-- **The induction rule of safety.** What holds initially and is kept by every step from a
reachable state holds of every reachable state. -/
theorem Reachable.invariant {I : σ → Prop} (h0 : ∀ s, init s → I s)
    (hs : ∀ s a s', Reachable init step s → I s → step s a s' → I s') {s : σ}
    (h : Reachable init step s) : I s := by
  obtain ⟨ts, h⟩ := h
  induction h with
  | start h => exact h0 _ h
  | snoc hr hst ih => exact hs _ _ _ hr.reachable ih hst

/-- Every transition of a run is a step from a reachable state. -/
theorem Run.mem {ts : List (Transition σ α)} {s : σ} (h : Run init step ts s)
    {t : Transition σ α} (ht : t ∈ ts) :
    Reachable init step t.pre ∧ step t.pre t.act t.post := by
  induction h with
  | start => cases ht
  | snoc hr hst ih =>
    rcases List.mem_cons.1 ht with rfl | ht
    · exact ⟨hr.reachable, hst⟩
    · exact ih ht

/-- The part of a run up to one of its transitions. -/
theorem Run.before {later : List (Transition σ α)} {t : Transition σ α}
    {earlier : List (Transition σ α)} {s : σ} (h : Run init step (later ++ t :: earlier) s) :
    Run init step earlier t.pre := by
  induction later generalizing s with
  | nil => cases h with | snoc hr _ => exact hr
  | cons u later ih => cases h with | snoc hr _ => exact ih hr

/-- A property that holds after a transition, and no longer holds, was lost by a later one. -/
theorem Run.lost {P : σ → Prop} {mid earlier : List (Transition σ α)} {t : Transition σ α} {s : σ}
    (h : Run init step (mid ++ t :: earlier) s) (ht : P t.post) (hs : ¬ P s) :
    ∃ u ∈ mid, P u.pre ∧ ¬ P u.post := by
  induction mid generalizing s with
  | nil => cases h with | snoc => exact absurd ht hs
  | cons u mid ih =>
    cases h with
    | @snoc _ s₁ _ _ hr _ =>
      by_cases hu : P s₁
      · exact ⟨_, List.mem_cons_self, hu, hs⟩
      · obtain ⟨v, hv, hlost⟩ := ih hr hu
        exact ⟨v, List.mem_cons_of_mem _ hv, hlost⟩

/-- What is reached from a reachable state is reachable. -/
theorem Reachable.trans {s₀ s : σ} (h₀ : Reachable init step s₀) (h : Reachable (· = s₀) step s) :
    Reachable init step s := by
  refine h.invariant (I := Reachable init step) ?_ fun _ _ _ _ hr hst => hr.snoc hst
  rintro _ rfl
  exact h₀

/-- The part of a run from one of its transitions on. -/
theorem Run.after {later : List (Transition σ α)} {t : Transition σ α}
    {earlier : List (Transition σ α)} {s : σ} (h : Run init step (later ++ t :: earlier) s) :
    Run (· = t.post) step later s := by
  induction later generalizing s with
  | nil => cases h with | snoc => exact .start rfl
  | cons u later ih => cases h with | snoc hr hst => exact (ih hr).snoc hst

/-- **The rule of bounded work.** Where every event lowers a measure, and no transition raises it,
the events are no more than the measure was at first. -/
theorem Run.countP_add_le_start {m : σ → Nat} {p : Transition σ α → Bool} {s₀ s : σ}
    {ts : List (Transition σ α)} (h : Run (· = s₀) step ts s)
    (hts : ∀ u ∈ ts, Reachable (· = s₀) step u.pre → step u.pre u.act u.post →
      m u.post ≤ m u.pre ∧ (p u = true → m u.post < m u.pre)) :
    ts.countP p + m s ≤ m s₀ := by
  induction h with
  | start h =>
    subst h
    simp
  | @snoc ts s₁ s₂ a hr hst ih =>
    have hrest := ih fun v hv => hts v (List.mem_cons_of_mem _ hv)
    obtain ⟨hle, hlt⟩ := hts _ List.mem_cons_self hr.reachable hst
    rw [List.countP_cons]
    split
    · next hp =>
      have hless := hlt hp
      dsimp only at hless
      omega
    · dsimp only at hle
      omega

/-- The rule of bounded work from one of the transitions of a run on. -/
theorem Run.countP_add_le {m : σ → Nat} {p : Transition σ α → Bool}
    {mid earlier : List (Transition σ α)} {t : Transition σ α} {s : σ}
    (h : Run init step (mid ++ t :: earlier) s)
    (hmid : ∀ u ∈ mid, Reachable init step u.pre → step u.pre u.act u.post →
      m u.post ≤ m u.pre ∧ (p u = true → m u.post < m u.pre)) :
    mid.countP p + m s ≤ m t.post := by
  obtain ⟨hr, hst⟩ := h.mem (List.mem_append_right mid List.mem_cons_self)
  exact h.after.countP_add_le_start fun u hu hreach => hmid u hu ((hr.snoc hst).trans hreach)

/-- `P` at some transition of the run, and `Q` at every transition after it. -/
def Since (P Q : Transition σ α → Prop) (ts : List (Transition σ α)) : Prop :=
  ∃ later t earlier, ts = later ++ t :: earlier ∧ P t ∧ ∀ u ∈ later, Q u

theorem Since.new {P Q : Transition σ α → Prop} {ts : List (Transition σ α)} {t : Transition σ α}
    (h : P t) : Since P Q (t :: ts) :=
  ⟨[], t, ts, rfl, h, nofun⟩

theorem Since.keep {P Q : Transition σ α → Prop} {ts : List (Transition σ α)}
    {t : Transition σ α} (h : Since P Q ts) (ht : Q t) : Since P Q (t :: ts) := by
  obtain ⟨later, u, earlier, rfl, hu, hlater⟩ := h
  exact ⟨t :: later, u, earlier, rfl, hu, fun v hv => (List.mem_cons.1 hv).elim (· ▸ ht) (hlater v)⟩

/-- **The induction rule of history.** If no initial state satisfies `A`, and every step into `A`
either is an event `P` or comes from `A` and satisfies `Q`, then in a state of `A` some event `P`
lies in the past, with `Q` ever since. -/
theorem Run.since {A : σ → Prop} {P Q : Transition σ α → Prop} (h0 : ∀ s, init s → ¬ A s)
    (hs : ∀ s a s', Reachable init step s → step s a s' → A s' →
      P ⟨s, a, s'⟩ ∨ A s ∧ Q ⟨s, a, s'⟩)
    {ts : List (Transition σ α)} {s : σ} (h : Run init step ts s) (hA : A s) : Since P Q ts := by
  induction h with
  | start h => exact absurd hA (h0 _ h)
  | snoc hr hst ih =>
    rcases hs _ _ _ hr.reachable hst hA with hP | ⟨hA', hQ⟩
    · exact Since.new hP
    · exact (ih hA').keep hQ

/-- If no initial state satisfies `A`, and only an event `P` leads into `A`, then in a state of `A`
such an event lies in the past. -/
theorem Run.arose {A : σ → Prop} {P : Transition σ α → Prop} (h0 : ∀ s, init s → ¬ A s)
    (hs : ∀ s a s', step s a s' → A s' → P ⟨s, a, s'⟩ ∨ A s)
    {ts : List (Transition σ α)} {s : σ} (h : Run init step ts s) (hA : A s) : ∃ t ∈ ts, P t := by
  obtain ⟨later, t, earlier, rfl, ht, -⟩ := h.since (Q := fun _ => True) h0
    (fun s a s' _ hst hA' => (hs s a s' hst hA').imp_right (⟨·, trivial⟩)) hA
  exact ⟨t, List.mem_append_right _ List.mem_cons_self, ht⟩

/-- Where a list of actions leads, one after the other, in a system whose steps are a function. -/
theorem Reachable.foldlM {f : σ → α → Option σ} {s s' : σ} {acts : List α}
    (h : Reachable init (fun s a s' => f s a = some s') s) (hacts : acts.foldlM f s = some s') :
    Reachable init (fun s a s' => f s a = some s') s' := by
  induction acts generalizing s with
  | nil => cases hacts; exact h
  | cons a acts ih =>
    rw [List.foldlM_cons] at hacts
    obtain ⟨s₁, hs₁, hacts⟩ := Option.bind_eq_some_iff.1 hacts
    exact ih (h.snoc hs₁) hacts

/-- Where a list of actions leads that all pass a check, after a run whose transitions pass it. -/
theorem Run.foldlM {f : σ → α → Option σ} {p : σ → α → Bool} {ts : List (Transition σ α)}
    {s s' : σ} {acts : List α} (h : Run init (fun s a s' => f s a = some s') ts s)
    (hts : ∀ t ∈ ts, p t.pre t.act = true)
    (hacts : acts.foldlM (fun s a => if p s a then f s a else none) s = some s') :
    ∃ ts', Run init (fun s a s' => f s a = some s') ts' s' ∧ ∀ t ∈ ts', p t.pre t.act = true := by
  induction acts generalizing s ts with
  | nil => cases hacts; exact ⟨ts, h, hts⟩
  | cons a acts ih =>
    rw [List.foldlM_cons] at hacts
    obtain ⟨s₁, hs₁, hacts⟩ := Option.bind_eq_some_iff.1 hacts
    split at hs₁
    · next hp =>
      refine ih (h.snoc hs₁) (fun t ht => ?_) hacts
      rcases List.mem_cons.1 ht with rfl | ht
      · exact hp
      · exact hts t ht
    · cases hs₁

/-- A run moves along a mapping of states and transitions under which every step is a step. -/
theorem Run.map {τ β : Type*} {init' : τ → Prop} {step' : τ → β → τ → Prop} (f : σ → τ)
    (g : Transition σ α → β) (h0 : ∀ s, init s → init' (f s))
    (hs : ∀ s a s', Reachable init step s → step s a s' → step' (f s) (g ⟨s, a, s'⟩) (f s'))
    {ts : List (Transition σ α)} {s : σ} (h : Run init step ts s) :
    Run init' step' (ts.map fun t => ⟨f t.pre, g t, f t.post⟩) (f s) := by
  induction h with
  | start h => exact .start (h0 _ h)
  | snoc hr hst ih => exact ih.snoc (hs _ _ _ hr.reachable hst)

/-- Runs move along a mapping of states under which every step is a step of the target system or
leaves the mapped state as it is. -/
theorem Reachable.simulate {τ β : Type*} {init' : τ → Prop} {step' : τ → β → τ → Prop} (f : σ → τ)
    (h0 : ∀ s, init s → init' (f s))
    (hs : ∀ s a s', Reachable init step s → step s a s' → f s' = f s ∨ ∃ b, step' (f s) b (f s'))
    {s : σ} (h : Reachable init step s) : Reachable init' step' (f s) := by
  refine h.invariant (I := fun s => Reachable init' step' (f s))
    (fun s h => ⟨[], .start (h0 s h)⟩) fun s a s' hr ih hst => ?_
  rcases hs s a s' hr hst with heq | ⟨b, hb⟩
  · rw [heq]; exact ih
  · exact ih.snoc hb

/-- The items of the first list match items of the second one, in order, and those that are skipped
satisfy `N`. -/
inductive Matching {τ σ : Type*} (M : τ → σ → Prop) (N : σ → Prop) : List τ → List σ → Prop
  | nil : Matching M N [] []
  | matched {u : τ} {t : σ} {us : List τ} {ts : List σ} : M u t → Matching M N us ts →
      Matching M N (u :: us) (t :: ts)
  | skipped {t : σ} {us : List τ} {ts : List σ} : N t → Matching M N us ts →
      Matching M N us (t :: ts)

/-- **The rule of refinement.** Where every step leaves the related state as it is or is a step of
the target system, a run is a run of the target system, whose transitions match some of its own in
order; the others leave the related state as it is. -/
theorem Run.simulate {τ β : Type*} {init' : τ → Prop} {step' : τ → β → τ → Prop}
    {R : σ → τ → Prop} {M : Transition τ β → Transition σ α → Prop}
    (h0 : ∀ s, init s → ∃ t, init' t ∧ R s t)
    (hs : ∀ s a s' t, Reachable init step s → step s a s' → R s t →
      R s' t ∨ ∃ b t', step' t b t' ∧ R s' t' ∧ M ⟨t, b, t'⟩ ⟨s, a, s'⟩)
    {ts : List (Transition σ α)} {s : σ} (h : Run init step ts s) :
    ∃ us t, Run init' step' us t ∧ R s t ∧
      Matching M (fun u => ∃ t, R u.pre t ∧ R u.post t) us ts := by
  induction h with
  | start h =>
    obtain ⟨t, ht, hR⟩ := h0 _ h
    exact ⟨[], t, .start ht, hR, .nil⟩
  | snoc hr hst ih =>
    obtain ⟨us, t, hrun, hR, hmatch⟩ := ih
    rcases hs _ _ _ t hr.reachable hst hR with hR' | ⟨b, t', hstep, hR', hM⟩
    · exact ⟨us, t, hrun, hR', .skipped ⟨t, hR, hR'⟩ hmatch⟩
    · exact ⟨_, t', hrun.snoc hstep, hR', .matched hM hmatch⟩

end

end MctierSignaling
