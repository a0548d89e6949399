import SlotPattern.Proofs.Scan
import SlotPattern.Proofs.Segments

/-!
# Compiling follows the grammar

A text compiles if and only if the grammar derives it, and the pattern is the one that the
derivation stands for. In particular no text has two meanings.
-/

namespace SlotPattern.Pattern

open Grammar

theorem compile_eq_ok_iff {s : String} {p : Pattern} :
    compile s = .ok p ↔ PatternText true s.toList p.items ∧ p.Merged := by
  rw [compile, map_eq_ok_iff]
  simp only [Scan.run_tokenize, Scan.resume_eq_ok_iff, ofItems_eq_iff]
  constructor
  · rintro ⟨_, ⟨items, htext, rfl⟩, hitems, hmerged⟩
    exact ⟨hitems ▸ htext, hmerged⟩
  · rintro ⟨htext, hmerged⟩
    exact ⟨_, ⟨p.items, htext, rfl⟩, rfl, hmerged⟩

/-- The compiler accepts exactly the texts that the grammar derives. It returns the pattern whose
items are those of the derivation, with the characters that touch merged into literals. -/
theorem compile_iff_derivation (s : String) (p : Pattern) :
    (compile s = .ok p ↔ PatternText true s.toList p.items ∧ p.Merged) ∧
      ((∃ q, compile s = .ok q) ↔ ∃ items, PatternText true s.toList items) := by
  refine ⟨compile_eq_ok_iff, ?_⟩
  constructor
  · rintro ⟨q, hq⟩
    exact ⟨q.items, (compile_eq_ok_iff.mp hq).1⟩
  · rintro ⟨items, h⟩
    refine ⟨ofItems items, compile_eq_ok_iff.mpr ⟨?_, merged_ofItems items⟩⟩
    rw [items_ofItems]
    exact h

end SlotPattern.Pattern
