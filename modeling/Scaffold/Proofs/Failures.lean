/-!
# Steps that can fail

What the outcome of two steps in a row tells about each of them.
-/

set_option autoImplicit false

namespace Scaffold

theorem bind_eq_ok {ε α β : Type} {x : Except ε α} {f : α → Except ε β} {b : β} :
    x >>= f = .ok b ↔ ∃ a, x = .ok a ∧ f a = .ok b := by
  cases x with
  | error e => exact ⟨nofun, nofun⟩
  | ok a =>
    constructor
    · exact fun h => ⟨a, rfl, h⟩
    · rintro ⟨_, ⟨⟩, h⟩
      exact h

section
variable {ε ε' α β : Type} {x : Except ε α} (f : ε → ε') (next : α → Except ε' β)

end

end Scaffold
