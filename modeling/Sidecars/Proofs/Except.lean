import Mathlib.Tactic.Common

/-!
# Steps that may fail

Two steps, one after the other, succeed if each of them does.
-/

/-- What comes of two steps comes of the second one from what comes of the first. -/
theorem Except.bind_eq_ok_iff {ε α β : Type} {x : Except ε α} {f : α → Except ε β} {b : β} :
    x >>= f = .ok b ↔ ∃ a, x = .ok a ∧ f a = .ok b := by
  cases x with
  | error e => simp [Bind.bind, Except.bind]
  | ok a => simp [Bind.bind, Except.bind]
