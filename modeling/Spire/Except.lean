import Mathlib.Data.List.Forall2

/-! Inverting `Except`'s bind, for the Go functions the model writes as `do`
blocks over `Except`: a call that returned a value, or an error, did so after
the calls before it returned values. A Go loop that returns at the first error
is a `mapM`: it returns exactly when every call does. -/
namespace Spire

theorem bind_eq_ok {ε α β : Type} {x : Except ε α} {f : α → Except ε β} {r : β} (bound : x >>= f = .ok r) :
    ∃ a, x = .ok a ∧ f a = .ok r := by
  cases x with
  | error e => cases bound
  | ok a => exact ⟨a, rfl, bound⟩

theorem bind_eq_error {ε α β : Type} {x : Except ε α} {f : α → Except ε β} {e : ε} (bound : x >>= f = .error e) :
    x = .error e ∨ ∃ a, x = .ok a ∧ f a = .error e := by
  cases x with
  | error e => cases bound; exact .inl rfl
  | ok a => exact .inr ⟨a, rfl, bound⟩

theorem mapError_eq_ok {ε ε' α : Type} {f : ε → ε'} {x : Except ε α} {a : α} : x.mapError f = .ok a ↔ x = .ok a := by
  cases x <;> simp [Except.mapError]

theorem map_eq_ok {ε α β : Type} {f : α → β} {x : Except ε α} {b : β} : x.map f = .ok b ↔ ∃ a, x = .ok a ∧ f a = b := by
  cases x <;> simp [Except.map]

theorem mapM_eq_ok_iff {ε α β : Type} {f : α → Except ε β} {l : List α} {out : List β} :
    l.mapM f = .ok out ↔ List.Forall₂ (fun a b => f a = .ok b) l out := by
  induction l generalizing out with
  | nil =>
    cases out with
    | nil => exact ⟨fun _ => List.Forall₂.nil, fun _ => rfl⟩
    | cons b out => exact ⟨fun mapped => (nomatch mapped), fun related => (nomatch related)⟩
  | cons a l ih =>
    rw [List.mapM_cons, List.forall₂_cons_left_iff]
    constructor
    · intro mapped
      obtain ⟨b, first, rest⟩ := bind_eq_ok mapped
      obtain ⟨bs, others, built⟩ := bind_eq_ok rest
      cases built
      exact ⟨b, bs, first, ih.1 others, rfl⟩
    · rintro ⟨b, bs, first, others, rfl⟩
      rw [first, ih.2 others]
      rfl

end Spire
