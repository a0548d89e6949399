/-!
# Two places of a text

A character of a text splits it into what is before it and what is behind it. Two such splits of one
text are the same, or the one is in a part of the other.
-/

namespace SlotPattern

variable {α : Type} {xs ys us vs : List α} {a b : α}

/-- Two places of a text are the same, or one is before the other. -/
theorem append_cons_cases (h : xs ++ a :: us = ys ++ b :: vs) :
    (xs = ys ∧ a = b ∧ us = vs) ∨
      (∃ ts, ys = xs ++ a :: ts ∧ us = ts ++ b :: vs) ∨
      ∃ ts, xs = ys ++ b :: ts ∧ vs = ts ++ a :: us := by
  rcases List.append_eq_append_iff.mp h with ⟨ts, rfl, hrest⟩ | ⟨ts, rfl, hrest⟩
  · cases ts with
    | nil =>
      obtain ⟨rfl, rfl⟩ := List.cons.inj hrest
      exact .inl ⟨(List.append_nil xs).symm, rfl, rfl⟩
    | cons t ts =>
      obtain ⟨rfl, rfl⟩ := List.cons.inj hrest
      exact .inr (.inl ⟨ts, rfl, rfl⟩)
  · cases ts with
    | nil =>
      obtain ⟨rfl, rfl⟩ := List.cons.inj hrest
      exact .inl ⟨List.append_nil ys, rfl, rfl⟩
    | cons t ts =>
      obtain ⟨rfl, rfl⟩ := List.cons.inj hrest
      exact .inr (.inr ⟨ts, rfl, rfl⟩)

/-- Two places of a text at which different characters stand: one is before the other. -/
theorem append_cons_eq_append_cons (hab : a ≠ b) (h : xs ++ a :: us = ys ++ b :: vs) :
    (∃ ts, ys = xs ++ a :: ts ∧ us = ts ++ b :: vs) ∨
      ∃ ts, xs = ys ++ b :: ts ∧ vs = ts ++ a :: us := by
  rcases append_cons_cases h with ⟨-, heq, -⟩ | hapart
  · exact absurd heq hab
  · exact hapart

/-- A character of a kind that has not come before splits a text in one way. -/
theorem append_cons_inj_of_forall {p : α → Prop} (hx : ∀ x ∈ xs, ¬p x) (hy : ∀ y ∈ ys, ¬p y)
    (ha : p a) (hb : p b) (h : xs ++ a :: us = ys ++ b :: vs) : xs = ys ∧ a = b ∧ us = vs := by
  rcases append_cons_cases h with hsame | ⟨ts, rfl, -⟩ | ⟨ts, rfl, -⟩
  · exact hsame
  · exact absurd ha (hy a List.mem_append_cons_self)
  · exact absurd hb (hx b List.mem_append_cons_self)

end SlotPattern
