import Mathlib.Data.List.Basic
import Mathlib.Data.List.Nodup

/-!
# Explicit collisions

A hash function from an infinite domain always has collisions somewhere, so a
reduction must say among which inputs it finds one.
-/

namespace AuraOpaque.Foundation

variable {α β : Type}

/-- Two distinct listed inputs have the same image. -/
def Collides (f : α → β) (inputs : List α) : Prop :=
  ∃ x ∈ inputs, ∃ y ∈ inputs, x ≠ y ∧ f x = f y

theorem Collides.mono {f : α → β} {inputs inputs' : List α} (h : Collides f inputs)
    (hsub : inputs ⊆ inputs') : Collides f inputs' := by
  obtain ⟨x, hx, y, hy, hne, heq⟩ := h
  exact ⟨x, hsub hx, y, hsub hy, hne, heq⟩

theorem eq_or_collides {f : α → β} {inputs : List α} {x y : α} (hx : x ∈ inputs)
    (hy : y ∈ inputs) (h : f x = f y) : x = y ∨ Collides f inputs := by
  by_cases hxy : x = y
  · exact .inl hxy
  · exact .inr ⟨x, hx, y, hy, hxy, h⟩

theorem eq_or_collides_pair {f : α → β} {x y : α} (h : f x = f y) :
    x = y ∨ Collides f [x, y] :=
  eq_or_collides List.mem_cons_self (List.mem_cons_of_mem _ List.mem_cons_self) h

theorem not_collides {f : α → β} {inputs : List α}
    (h : inputs.Pairwise fun x y => f x ≠ f y) : ¬ Collides f inputs := by
  rintro ⟨x, hx, y, hy, hne, heq⟩
  exact hne (List.inj_on_of_nodup_map (List.pairwise_map.mpr h) hx hy heq)

end AuraOpaque.Foundation
