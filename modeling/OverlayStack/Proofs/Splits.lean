import Mathlib.Data.List.Basic

/-!
# Places in a list

What holds of some place in a list, together with what is before and behind it, can be told when the
list gets longer at either end.

## Main results

* `exists_split_cons_iff`, `exists_split_concat_iff` — places in a list with one more member.
-/

namespace OverlayStack

universe u

variable {α : Type u} {x : α} {xs : List α}

theorem not_exists_split_nil {p : List α → α → List α → Prop} :
    ¬ ∃ before y after, [] = before ++ y :: after ∧ p before y after := by
  rintro ⟨before, y, after, hnil, -⟩
  exact absurd hnil.symm (List.append_ne_nil_of_right_ne_nil _ (List.cons_ne_nil _ _))

/-- A place in a list is the first one, or it is in the rest. -/
theorem exists_split_cons_iff {p : List α → α → List α → Prop} :
    (∃ before y after, x :: xs = before ++ y :: after ∧ p before y after) ↔
      p [] x xs ∨ ∃ before y after, xs = before ++ y :: after ∧ p (x :: before) y after := by
  constructor
  · rintro ⟨before, y, after, hsplit, hp⟩
    cases before with
    | nil =>
      cases hsplit
      exact .inl hp
    | cons x' before =>
      cases hsplit
      exact .inr ⟨before, y, after, rfl, hp⟩
  · rintro (hp | ⟨before, y, after, rfl, hp⟩)
    · exact ⟨[], x, xs, rfl, hp⟩
    · exact ⟨x :: before, y, after, rfl, hp⟩

/-- A place in a list is the last one, or it is in front of that. -/
theorem exists_split_concat_iff {p : List α → α → List α → Prop} :
    (∃ before y after, xs ++ [x] = before ++ y :: after ∧ p before y after) ↔
      p xs x [] ∨ ∃ before y after, xs = before ++ y :: after ∧ p before y (after ++ [x]) := by
  constructor
  · rintro ⟨before, y, after, hsplit, hp⟩
    rcases List.eq_nil_or_concat' after with rfl | ⟨after, last, rfl⟩
    · obtain ⟨rfl, rfl⟩ := List.append_singleton_inj.1 hsplit
      exact .inl hp
    · rw [← List.cons_append, ← List.append_assoc] at hsplit
      obtain ⟨rfl, rfl⟩ := List.append_singleton_inj.1 hsplit
      exact .inr ⟨before, y, after, rfl, hp⟩
  · rintro (hp | ⟨before, y, after, rfl, hp⟩)
    · exact ⟨xs, x, [], rfl, hp⟩
    · exact ⟨before, y, after ++ [x], by rw [List.append_assoc, List.cons_append], hp⟩

end OverlayStack
