import RmwOpendds.Library.RawMemory

/-! `RmwAllocateFree`: objects in memory of `rmw_allocate`, whose constructors and
destructors may throw. What is thrown goes no further. -/

namespace RmwOpendds.RmwAllocateFree

open Library Memory

variable {α : Type}

/-- The object, or null and the text of the exception. -/
def create (allocated : Bool) (raw : α) (construct : ℕ → Program α (Except String Unit)) :
    Program α (Except (Option String) ℕ) := do
  match ← tryAllocate allocated raw with
  | none => return .error none
  | some a =>
    match ← construct a with
    | .ok () => return .ok a
    | .error text =>
      free a
      return .error (some text)

/-- The pointer is null afterwards. -/
def destroy (destruct : ℕ → Program α PUnit) : Option ℕ → Program α PUnit
  | none => pure ⟨⟩
  | some a => do
    destruct a
    free a

variable {m : Memory α} {s : Multiset (ℕ × α)} {throws : MemoryFault → Memory α → Prop}

theorem exits_create (owns : m.Owns s) {allocated : Bool} {raw : α}
    {construct : ℕ → Program α (Except String Unit)}
    {returns : Except (Option String) ℕ → Memory α → Prop}
    (constructs : allocated = true → ∀ a m', m'.Owns ({(a, raw)} + s) → Exits (construct a) m'
      (fun r m'' => match r with
        | .ok () => returns (.ok a) m''
        | .error text => ∃ v, m''.Owns ({(a, v)} + s) ∧
          ∀ m''', m'''.Owns s → returns (.error (some text)) m''')
      throws)
    (fails : allocated = false → returns (.error none) m) :
    Exits (create allocated raw construct) m returns throws := by
  unfold create
  rw [exits_bind]
  refine exits_tryAllocate owns (fun given a m' owns => ?_) fails
  rw [exits_bind]
  refine (constructs given a m' owns).mono (fun r m'' built => ?_) fun _ _ fault => fault
  cases r with
  | ok u => exact built
  | error text =>
    obtain ⟨v, owns, after⟩ := built
    rw [exits_bind]
    exact exits_free owns fun m''' owns => after m''' owns

end RmwOpendds.RmwAllocateFree
