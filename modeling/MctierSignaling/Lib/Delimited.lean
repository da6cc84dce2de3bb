import Mathlib.Data.List.TakeWhile

/-!
# Fields of a text

A field that a delimiter ends is read off the text if the delimiter does not occur in it, and so is
what follows a delimiter that does not occur in the rest. A list stands for the text, over any
alphabet.
-/

namespace MctierSignaling.Delimited

variable {α : Type*} {d : α} {a a' b b' r r' : List α}

/-- What follows a field: nothing, or the delimiter and more. -/
def Rest (d : α) (r : List α) : Prop := r = [] ∨ ∃ b, r = d :: b

theorem Rest.cons : Rest d (d :: b) := .inr ⟨b, rfl⟩

/-- A field that the delimiter or the end of the text ends is read off the text. -/
theorem takeWhile_field [DecidableEq α] (ha : d ∉ a) (hr : Rest d r) :
    (a ++ r).takeWhile (· ≠ d) = a := by
  have hall : ∀ x ∈ a, decide (x ≠ d) = true := by
    intro x hx
    have hne : x ≠ d := fun h => ha (h ▸ hx)
    simpa using hne
  rw [List.takeWhile_append_of_pos hall]
  obtain rfl | ⟨b, rfl⟩ := hr
  · simp
  · simp

/-- The text up to the first delimiter, if there is one, and the rest. -/
theorem rest_inj (ha : d ∉ a) (ha' : d ∉ a') (hr : Rest d r) (hr' : Rest d r') :
    a ++ r = a' ++ r' ↔ a = a' ∧ r = r' := by
  classical
  refine ⟨fun h => ?_, fun ⟨h, h'⟩ => h ▸ h' ▸ rfl⟩
  have hfield : a = a' := by
    rw [← takeWhile_field ha hr, h, takeWhile_field ha' hr']
  subst hfield
  exact ⟨rfl, List.append_cancel_left h⟩

/-- The text before the first delimiter and the text after it. -/
theorem first_inj (ha : d ∉ a) (ha' : d ∉ a') :
    a ++ d :: b = a' ++ d :: b' ↔ a = a' ∧ b = b' := by
  rw [rest_inj ha ha' .cons .cons, List.cons.injEq]
  simp

/-- The text before the last delimiter and the text after it. -/
theorem last_inj (hb : d ∉ b) (hb' : d ∉ b') :
    a ++ d :: b = a' ++ d :: b' ↔ a = a' ∧ b = b' := by
  have hrev : a ++ d :: b = a' ++ d :: b' ↔
      b.reverse ++ d :: a.reverse = b'.reverse ++ d :: a'.reverse := by
    rw [← List.reverse_inj]
    simp
  rw [hrev, first_inj (by simpa using hb) (by simpa using hb'), List.reverse_inj,
    List.reverse_inj, and_comm]

end MctierSignaling.Delimited
