import Mathlib.Logic.Basic

/-! Inversion of fallible computations. -/

namespace RmwOpendds.Library

universe u

variable {ε : Type*} {α β : Type u}

theorem bind_eq_ok {x : Except ε α} {f : α → Except ε β} {b : β} :
    (x >>= f) = .ok b ↔ ∃ a, x = .ok a ∧ f a = .ok b := by
  cases x with
  | error e => exact ⟨fun h => (nomatch h), fun ⟨_, h, _⟩ => (nomatch h)⟩
  | ok a => exact ⟨fun h => ⟨a, rfl, h⟩, fun ⟨_, h, hf⟩ => Except.ok.inj h ▸ hf⟩

theorem bind_eq_error {x : Except ε α} {f : α → Except ε β} {e : ε} :
    (x >>= f) = .error e ↔ x = .error e ∨ ∃ a, x = .ok a ∧ f a = .error e := by
  cases x with
  | error e' =>
    exact ⟨fun h => .inl (congrArg Except.error (Except.error.inj h)), fun h => by
      obtain h | ⟨_, h, _⟩ := h
      · exact congrArg Except.error (Except.error.inj h)
      · cases h⟩
  | ok a =>
    exact ⟨fun h => .inr ⟨a, rfl, h⟩, fun h => by
      obtain h | ⟨_, h, hf⟩ := h
      · cases h
      · exact Except.ok.inj h ▸ hf⟩

@[simp] theorem isOk_bind_const {x : Except ε α} {y : Except ε β} :
    (x >>= fun _ => y).isOk = (x.isOk && y.isOk) := by
  cases x <;> rfl

end RmwOpendds.Library
