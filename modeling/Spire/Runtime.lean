import Mathlib.Logic.Basic

/-! Go's runtime as the models see it: what a call does, and the texts of the
runtime errors its panics carry. A call returns a value or an error, or
panics; a panic that nothing recovers ends the process. The models of the
template CLI, of the disk upstream authority and of the agent's `run` command
share these. -/
namespace Spire

/-- What a Go call does: return a value or an error of type `ε`, or panic. -/
inductive Outcome (ε α : Type) where
  | ok (value : α)
  | error (err : ε)
  | panicked (reason : String)
  deriving DecidableEq, Repr

/-- The outcome of going on with `f` after a call that returned. -/
def Outcome.map {ε α β : Type} (f : α → β) : Outcome ε α → Outcome ε β
  | .ok value => .ok (f value)
  | .error err => .error err
  | .panicked reason => .panicked reason

theorem Outcome.map_eq_ok {ε α β : Type} {f : α → β} {o : Outcome ε α} {b : β} :
    o.map f = .ok b ↔ ∃ a, o = .ok a ∧ b = f a := by
  cases o <;> simp [Outcome.map, eq_comm]

theorem Outcome.map_eq_error {ε α β : Type} {f : α → β} {o : Outcome ε α} {err : ε} :
    o.map f = .error err ↔ o = .error err := by
  cases o <;> simp [Outcome.map]

theorem Outcome.map_eq_panicked {ε α β : Type} {f : α → β} {o : Outcome ε α} {reason : String} :
    o.map f = .panicked reason ↔ o = .panicked reason := by
  cases o <;> simp [Outcome.map]

/-- The outcome of a call that cannot panic. -/
def Outcome.ofExcept {ε α : Type} : Except ε α → Outcome ε α
  | .ok value => .ok value
  | .error err => .error err

@[simp]
theorem Outcome.ofExcept_eq_ok {ε α : Type} {e : Except ε α} {a : α} : Outcome.ofExcept e = .ok a ↔ e = .ok a := by
  cases e <;> simp [Outcome.ofExcept]

@[simp]
theorem Outcome.ofExcept_ne_panicked {ε α : Type} {e : Except ε α} {reason : String} :
    Outcome.ofExcept e ≠ .panicked reason := by
  cases e <;> simp [Outcome.ofExcept]

/-- The runtime error of a `nil` pointer dereference. -/
def nilDereference : String := "runtime error: invalid memory address or nil pointer dereference"

/-- The runtime error of indexing a slice of length `n` at `i`. -/
def indexOutOfRange (i n : Nat) : String :=
  "runtime error: index out of range [" ++ toString i ++ "] with length " ++ toString n

end Spire
