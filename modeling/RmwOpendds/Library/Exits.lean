import Mathlib.Logic.Basic

/-! Programs with state and exceptions, where a state change outlives the
exception after it. `Exits` gives both exits of a program their postcondition;
its rules are equivalences, so that rewriting with them computes the
precondition of a program from that of its parts. -/

namespace RmwOpendds.Library

universe u

variable {ε σ α β : Type u} {s : σ} {returns : α → σ → Prop} {throws : ε → σ → Prop}

def Exits (x : EStateM ε σ α) (s : σ) (returns : α → σ → Prop) (throws : ε → σ → Prop) : Prop :=
  match x.run s with
  | .ok a t => returns a t
  | .error e t => throws e t

theorem Exits.of_ok {x : EStateM ε σ α} (h : Exits x s returns throws) {a : α} {t : σ}
    (run : x.run s = .ok a t) : returns a t := by
  rw [Exits, run] at h
  exact h

theorem Exits.of_error {x : EStateM ε σ α} (h : Exits x s returns throws) {e : ε} {t : σ}
    (run : x.run s = .error e t) : throws e t := by
  rw [Exits, run] at h
  exact h

theorem Exits.mono {x : EStateM ε σ α} {returns' : α → σ → Prop} {throws' : ε → σ → Prop}
    (h : Exits x s returns throws) (hr : ∀ a t, returns a t → returns' a t)
    (ht : ∀ e t, throws e t → throws' e t) : Exits x s returns' throws' := by
  unfold Exits at h ⊢
  split
  · rename_i run
    rw [run] at h
    exact hr _ _ h
  · rename_i run
    rw [run] at h
    exact ht _ _ h

theorem exits_congr {x : EStateM ε σ α} {returns' : α → σ → Prop} {throws' : ε → σ → Prop}
    (hr : ∀ a t, returns a t ↔ returns' a t) (ht : ∀ e t, throws e t ↔ throws' e t) :
    Exits x s returns throws ↔ Exits x s returns' throws' :=
  ⟨fun h => h.mono (fun a t => (hr a t).mp) fun e t => (ht e t).mp,
    fun h => h.mono (fun a t => (hr a t).mpr) fun e t => (ht e t).mpr⟩

@[simp] theorem exits_true (x : EStateM ε σ α) :
    Exits x s (fun _ _ => True) fun _ _ => True := by
  unfold Exits
  split <;> trivial

theorem exits_const {x : EStateM ε σ α} {P : Prop} :
    Exits x s (fun _ _ => P) (fun _ _ => P) ↔ P := by
  unfold Exits
  split <;> rfl

@[simp] theorem exits_pure (a : α) :
    Exits (pure a : EStateM ε σ α) s returns throws ↔ returns a s := Iff.rfl

@[simp] theorem exits_throw (e : ε) :
    Exits (throw e : EStateM ε σ α) s returns throws ↔ throws e s := Iff.rfl

@[simp] theorem exits_modifyGet (f : σ → α × σ) :
    Exits (modifyGet f : EStateM ε σ α) s returns throws ↔ returns (f s).1 (f s).2 := Iff.rfl

@[simp] theorem exits_modify {returns : PUnit → σ → Prop} (f : σ → σ) :
    Exits (modify f : EStateM ε σ PUnit) s returns throws ↔ returns ⟨⟩ (f s) := Iff.rfl

@[simp] theorem exits_get {returns : σ → σ → Prop} :
    Exits (get : EStateM ε σ σ) s returns throws ↔ returns s s := Iff.rfl

@[simp] theorem exits_set {returns : PUnit → σ → Prop} (t : σ) :
    Exits (set t : EStateM ε σ PUnit) s returns throws ↔ returns ⟨⟩ t := Iff.rfl

@[simp] theorem exits_map {x : EStateM ε σ α} (f : α → β) {returns : β → σ → Prop} :
    Exits (f <$> x) s returns throws ↔ Exits x s (fun a t => returns (f a) t) throws := by
  change (match EStateM.map f x s with
    | .ok b t => returns b t
    | .error e t => throws e t) ↔ _
  unfold Exits EStateM.run EStateM.map
  cases x s <;> rfl

@[simp] theorem exits_bind {x : EStateM ε σ α} {f : α → EStateM ε σ β}
    {returns : β → σ → Prop} :
    Exits (x >>= f) s returns throws ↔
      Exits x s (fun a t => Exits (f a) t returns throws) throws := by
  unfold Exits
  rw [EStateM.run_bind]
  cases x.run s <;> rfl

/-- A handler starts in the state of the exception. -/
@[simp] theorem exits_tryCatch {x : EStateM ε σ α} {handle : ε → EStateM ε σ α} :
    Exits (tryCatch x handle) s returns throws ↔
      Exits x s returns fun e t => Exits (handle e) t returns throws := by
  change (match EStateM.run (EStateM.tryCatch x handle) s with
    | .ok a t => returns a t
    | .error e t => throws e t) ↔ _
  unfold Exits EStateM.run EStateM.tryCatch
  cases x s <;> rfl

@[simp] theorem exits_ite {c : Prop} [Decidable c] {x y : EStateM ε σ α} :
    Exits (if c then x else y) s returns throws ↔
      (c → Exits x s returns throws) ∧ (¬ c → Exits y s returns throws) := by
  split <;> simp_all

def fromExcept (σ : Type u) : Except ε α → EStateM ε σ α
  | .ok a => pure a
  | .error e => throw e

@[simp] theorem exits_fromExcept {x : Except ε α} :
    Exits (fromExcept σ x) s returns throws ↔
      (∀ a, x = .ok a → returns a s) ∧ ∀ e, x = .error e → throws e s := by
  cases x <;> simp [fromExcept]

section Part

variable {τ : Type u} (part : σ → τ) (setPart : σ → τ → σ)

def onPart (x : EStateM ε τ α) : EStateM ε σ α := fun s =>
  match x.run (part s) with
  | .ok a t => .ok a (setPart s t)
  | .error e t => .error e (setPart s t)

@[simp] theorem exits_onPart {x : EStateM ε τ α} :
    Exits (onPart part setPart x) s returns throws ↔
      Exits x (part s) (fun a t => returns a (setPart s t)) fun e t => throws e (setPart s t) := by
  change (match onPart part setPart x s with
    | .ok a t => returns a t
    | .error e t => throws e t) ↔ _
  unfold onPart Exits
  cases x.run (part s) <;> rfl

end Part
end RmwOpendds.Library
