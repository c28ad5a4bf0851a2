import Mathlib.Algebra.GroupWithZero.Nat
import Mathlib.Logic.Basic

/-! Labelled machines and their finite runs. A label carries every choice made
outside the machine (arguments, outcomes of foreign calls, scheduling), so a
step is a partial function; `none` says that the label is not enabled.
`Along` speaks about the steps of a run, `Throughout` about its states. -/

namespace RmwOpendds.Library

structure Machine (σ ι : Type*) where
  start : σ
  step : σ → ι → Option σ

namespace Machine

variable {σ ι : Type*} (m : Machine σ ι)

def runFrom (m : Machine σ ι) : σ → List ι → Option σ
  | s, [] => some s
  | s, i :: is => (m.step s i).bind fun s' => m.runFrom s' is

def run (is : List ι) : Option σ := m.runFrom m.start is

def Reachable (s : σ) : Prop := ∃ is, m.run is = some s

/-- Every step that the run takes meets `G`, a condition on the state before
the step and on the label. -/
def Along (m : Machine σ ι) (G : σ → ι → Prop) : σ → List ι → Prop
  | _, [] => True
  | s, i :: is => G s i ∧ ∀ s', m.step s i = some s' → m.Along G s' is

/-- Every state that the run goes through, the first and the last included,
satisfies `P`. -/
def Throughout (m : Machine σ ι) (P : σ → Prop) : σ → List ι → Prop
  | s, [] => P s
  | s, i :: is => P s ∧ ∀ s', m.step s i = some s' → m.Throughout P s' is

instance decidableAlong (m : Machine σ ι) (G : σ → ι → Prop) [∀ s i, Decidable (G s i)] :
    (s : σ) → (is : List ι) → Decidable (m.Along G s is)
  | _, [] => .isTrue trivial
  | s, i :: is =>
    match taken : m.step s i with
    | none => decidable_of_iff (G s i) (by simp [Along, taken])
    | some s' =>
      have := decidableAlong m G s' is
      decidable_of_iff (G s i ∧ m.Along G s' is) (by simp [Along, taken])

@[simp] theorem runFrom_nil (s : σ) : m.runFrom s [] = some s := rfl

theorem runFrom_cons (s : σ) (i : ι) (is : List ι) :
    m.runFrom s (i :: is) = (m.step s i).bind fun s' => m.runFrom s' is := rfl

theorem runFrom_append (s : σ) (is js : List ι) :
    m.runFrom s (is ++ js) = (m.runFrom s is).bind fun s' => m.runFrom s' js := by
  induction is generalizing s with
  | nil => rfl
  | cons i is ih =>
    simp only [List.cons_append, runFrom_cons, Option.bind_assoc, ih]

theorem runFrom_concat (s : σ) (is : List ι) (i : ι) :
    m.runFrom s (is ++ [i]) = (m.runFrom s is).bind fun s' => m.step s' i := by
  simp [runFrom_append, runFrom_cons]

theorem runFrom_cons_eq_some {s t : σ} {i : ι} {is : List ι} :
    m.runFrom s (i :: is) = some t ↔ ∃ s', m.step s i = some s' ∧ m.runFrom s' is = some t :=
  Option.bind_eq_some_iff

theorem isSome_runFrom (total : ∀ s i, (m.step s i).isSome) (s : σ) (is : List ι) :
    (m.runFrom s is).isSome := by
  induction is generalizing s with
  | nil => rfl
  | cons i is ih =>
    obtain ⟨s', step⟩ := Option.isSome_iff_exists.mp (total s i)
    rw [runFrom_cons, step]
    exact ih s'

theorem isSome_runFrom_iff_along {Inv : σ → Prop} {G : σ → ι → Prop}
    (enabled : ∀ s i, Inv s → ((m.step s i).isSome ↔ G s i))
    (step : ∀ s i s', Inv s → m.step s i = some s' → Inv s')
    {s : σ} {is : List ι} (start : Inv s) : (m.runFrom s is).isSome ↔ m.Along G s is := by
  induction is generalizing s with
  | nil => simp [Along]
  | cons i is ih =>
    have guarded := enabled s i start
    rw [runFrom_cons]
    cases taken : m.step s i with
    | none =>
      have shut : ¬ G s i := fun met => by simpa [taken] using guarded.mpr met
      simp [Along, shut]
    | some s' =>
      rw [taken] at guarded
      have met : G s i := guarded.mp rfl
      simpa [Along, taken, met] using ih (step s i s' start taken)

/-- Where a step that is taken meets the guard and keeps the invariant, and one that is
not taken does not meet it, a run is taken exactly if all its steps meet the guard. -/
theorem isSome_runFrom_iff_along_of_spec {Inv : σ → Prop} {G : σ → ι → Prop}
    (spec : ∀ s i, Inv s → (∀ s', m.step s i = some s' → G s i ∧ Inv s') ∧
      (m.step s i = none → ¬ G s i)) {s : σ} {is : List ι} (start : Inv s) :
    (m.runFrom s is).isSome ↔ m.Along G s is := by
  refine m.isSome_runFrom_iff_along (fun s i inv => ?_)
    (fun s i s' inv taken => ((spec s i inv).1 s' taken).2) start
  obtain ⟨met, unmet⟩ := spec s i inv
  cases taken : m.step s i with
  | none => exact iff_of_false (by simp) (unmet taken)
  | some s' => exact iff_of_true (by simp) (met s' taken).1

theorem map_runFrom {τ : Type*} (a : Machine τ ι) (abstract : σ → τ) {Inv : σ → Prop}
    (commutes : ∀ s i, Inv s → (m.step s i).map abstract = a.step (abstract s) i)
    (step : ∀ s i s', Inv s → m.step s i = some s' → Inv s')
    {s : σ} {is : List ι} (start : Inv s) :
    (m.runFrom s is).map abstract = a.runFrom (abstract s) is := by
  induction is generalizing s with
  | nil => rfl
  | cons i is ih =>
    rw [runFrom_cons, runFrom_cons, ← commutes s i start]
    cases taken : m.step s i with
    | none => rfl
    | some s' => exact ih (step s i s' start taken)

theorem runFrom_add {M : Type*} [AddMonoid M] {P : M → σ → Prop} {cost : ι → M}
    (step : ∀ n s i s', P n s → m.step s i = some s' → P (n + cost i) s') {n : M} {s t : σ}
    {is : List ι} (start : P n s) (ran : m.runFrom s is = some t) :
    P (n + (is.map cost).sum) t := by
  induction is generalizing n s with
  | nil =>
    rw [runFrom_nil, Option.some.injEq] at ran
    subst ran
    simpa using start
  | cons i is ih =>
    obtain ⟨s', taken, rest⟩ := m.runFrom_cons_eq_some.mp ran
    rw [List.map_cons, List.sum_cons, ← add_assoc]
    exact ih (step n s i s' start taken) rest

theorem runFrom_invariant {P : σ → Prop} (step : ∀ s i s', P s → m.step s i = some s' → P s')
    {s t : σ} {is : List ι} (start : P s) (ran : m.runFrom s is = some t) : P t := by
  induction is generalizing s with
  | nil =>
    rw [runFrom_nil, Option.some.injEq] at ran
    exact ran ▸ start
  | cons i is ih =>
    obtain ⟨s', taken, rest⟩ := m.runFrom_cons_eq_some.mp ran
    exact ih (step s i s' start taken) rest

/-- What holds at the start and is kept by every step holds in every reachable state. -/
theorem Reachable.invariant {P : σ → Prop} {s : σ} (reach : m.Reachable s)
    (start : P m.start) (step : ∀ s i s', P s → m.step s i = some s' → P s') : P s := by
  obtain ⟨is, ran⟩ := reach
  exact m.runFrom_invariant step start ran

theorem Throughout.head {P : σ → Prop} {s : σ} {is : List ι} (h : m.Throughout P s is) : P s := by
  cases is with
  | nil => exact h
  | cons i is => exact h.1

theorem Throughout.last {P : σ → Prop} {s t : σ} {is : List ι} (h : m.Throughout P s is)
    (ran : m.runFrom s is = some t) : P t := by
  induction is generalizing s with
  | nil => exact Option.some.inj ran ▸ h
  | cons i is ih =>
    obtain ⟨s', taken, rest⟩ := m.runFrom_cons_eq_some.mp ran
    exact ih (h.2 s' taken) rest

theorem Throughout.mono {P Q : σ → Prop} (hPQ : ∀ s, P s → Q s) {s : σ} {is : List ι}
    (h : m.Throughout P s is) : m.Throughout Q s is := by
  induction is generalizing s with
  | nil => exact hPQ s h
  | cons i is ih => exact ⟨hPQ s h.1, fun s' hs => ih (h.2 s' hs)⟩

theorem along_of_forall {G : ι → Prop} {s : σ} {is : List ι} (h : ∀ i ∈ is, G i) :
    m.Along (fun _ i => G i) s is := by
  induction is generalizing s with
  | nil => trivial
  | cons i is ih =>
    obtain ⟨first, rest⟩ := List.forall_mem_cons.mp h
    exact ⟨first, fun s' _ => ih rest⟩

/-- A condition on the labels alone holds along a run that can be taken exactly if
every label meets it. -/
theorem along_label_iff {G : ι → Prop} {s : σ} {is : List ι}
    (enabled : (m.runFrom s is).isSome) : m.Along (fun _ i => G i) s is ↔ ∀ i ∈ is, G i := by
  induction is generalizing s with
  | nil => simp [Along]
  | cons i is ih =>
    obtain ⟨t, ht⟩ := Option.isSome_iff_exists.mp enabled
    obtain ⟨s', hstep, hrest⟩ := m.runFrom_cons_eq_some.mp ht
    have rest := ih (s := s') (hrest ▸ rfl)
    simp [Along, hstep, rest]

theorem throughout_of_along {Inv : σ → Prop} {G : σ → ι → Prop}
    (step : ∀ s i s', Inv s → G s i → m.step s i = some s' → Inv s')
    {s : σ} {is : List ι} (start : Inv s) (along : m.Along G s is) :
    m.Throughout Inv s is := by
  induction is generalizing s with
  | nil => exact start
  | cons i is ih =>
    exact ⟨start, fun s' hs => ih (step s i s' start along.1 hs) (along.2 s' hs)⟩

/-- What a step that misses `G` brings about, and every step keeps, holds at the end of a
run in which a step misses `G`. -/
theorem runFrom_of_not_along {Inv P : σ → Prop} {G : σ → ι → Prop}
    (step : ∀ s i s', Inv s → m.step s i = some s' → Inv s')
    (miss : ∀ s i s', Inv s → ¬ G s i → m.step s i = some s' → P s')
    (keep : ∀ s i s', P s → m.step s i = some s' → P s')
    {s t : σ} {is : List ι} (start : Inv s) (breaks : ¬ m.Along G s is)
    (ran : m.runFrom s is = some t) : P t := by
  induction is generalizing s with
  | nil => exact absurd trivial breaks
  | cons i is ih =>
    obtain ⟨s', taken, rest⟩ := m.runFrom_cons_eq_some.mp ran
    by_cases met : G s i
    · refine ih (step s i s' start taken) (fun along => breaks ⟨met, fun s'' again => ?_⟩) rest
      exact Option.some.inj (taken.symm.trans again) ▸ along
    · exact m.runFrom_invariant keep (miss s i s' start met taken) rest

/-- What every state of a run promises of the next step holds along the run. -/
theorem along_of_throughout {P : σ → Prop} {G : σ → ι → Prop} (promise : ∀ s i, P s → G s i)
    {s : σ} {is : List ι} (h : m.Throughout P s is) : m.Along G s is := by
  induction is generalizing s with
  | nil => trivial
  | cons i is ih => exact ⟨promise s i h.1, fun s' hs => ih (h.2 s' hs)⟩

/-- The exact condition: if steps meeting `G` keep `Inv`, `Inv` gives `P`, and
from `Inv` only a step meeting `G` leads to a state with `P`, then a run that
can be taken is good throughout exactly when all of its steps meet `G`. -/
theorem throughout_iff_along {Inv P : σ → Prop} {G : σ → ι → Prop}
    (step : ∀ s i s', Inv s → G s i → m.step s i = some s' → Inv s')
    (good : ∀ s, Inv s → P s)
    (only : ∀ s i s', Inv s → m.step s i = some s' → P s' → G s i)
    {s : σ} {is : List ι} (start : Inv s) (enabled : (m.runFrom s is).isSome) :
    m.Throughout P s is ↔ m.Along G s is := by
  constructor
  · intro h
    induction is generalizing s with
    | nil => trivial
    | cons i is ih =>
      obtain ⟨t, ht⟩ := Option.isSome_iff_exists.mp enabled
      obtain ⟨s', hstep, hrest⟩ := m.runFrom_cons_eq_some.mp ht
      have met : G s i := only s i s' start hstep (h.2 s' hstep).head
      refine ⟨met, fun s'' hs => ?_⟩
      obtain rfl : s' = s'' := Option.some.inj (hstep.symm.trans hs)
      exact ih (step s i s' start met hstep) (hrest ▸ rfl) (h.2 s' hstep)
  · intro h
    exact (m.throughout_of_along step start h).mono m good

end Machine
end RmwOpendds.Library
