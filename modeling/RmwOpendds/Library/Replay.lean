import Mathlib.Data.List.DropRight
import Mathlib.Logic.Relation

/-! Replay of keyed events. A state is observed through a lookup, every event
concerns one key, and the slot of a key changes with the events of that key
only; hence the slot after a replay is the replay of that key's events. A slot
that live events fill once and other events clear holds the first live event
after the last clearing one. -/

namespace RmwOpendds.Library.Replay

variable {σ ι κ ν : Type*}

/-- A live event fills an empty slot, any other event clears it. -/
def slot (live : ι → Bool) (val : ι → ν) (held : Option ν) (i : ι) : Option ν :=
  if live i then some (held.getD (val i)) else none

variable {live : ι → Bool} {val : ι → ν}

theorem foldl_slot_filled (v : ν) {is : List ι} (lives : ∀ i ∈ is, live i) :
    is.foldl (slot live val) (some v) = some v := by
  induction is with
  | nil => rfl
  | cons i is ih =>
    have first : live i = true := lives i List.mem_cons_self
    rw [List.foldl_cons, slot, if_pos first, Option.getD_some]
    exact ih fun j hj => lives j (List.mem_cons_of_mem i hj)

theorem foldl_slot_isSome {is : List ι} :
    (is.foldl (slot live val) none).isSome ↔ ∃ i, is.getLast? = some i ∧ live i := by
  induction is using List.reverseRecOn with
  | nil => simp
  | append_singleton is i _ =>
    rw [List.foldl_append, List.foldl_cons, List.foldl_nil, slot, List.getLast?_concat]
    split <;> simp [*]

theorem foldl_slot_cleared {is : List ι} (cleared : ∀ d ∈ is.getLast?, ¬ live d) :
    is.foldl (slot live val) none = none := by
  rw [← Option.not_isSome_iff_eq_none, foldl_slot_isSome]
  rintro ⟨d, last, lives⟩
  exact cleared d last lives

theorem foldl_slot_eq_some {is : List ι} {v : ν} :
    is.foldl (slot live val) none = some v ↔
      ∃ before i after, is = before ++ i :: after ∧ (∀ j ∈ i :: after, live j) ∧
        (∀ d ∈ before.getLast?, ¬ live d) ∧ v = val i := by
  -- the fold over a list that is cut at its first live event after a clearing one
  have cut : ∀ before i after, (∀ j ∈ i :: after, live j) → (∀ d ∈ before.getLast?, ¬ live d) →
      (before ++ i :: after).foldl (slot live val) none = some (val i) := by
    intro before i after lives cleared
    have first : live i = true := lives i List.mem_cons_self
    rw [List.foldl_append, foldl_slot_cleared cleared, List.foldl_cons, slot, if_pos first]
    exact foldl_slot_filled _ fun j hj => lives j (List.mem_cons_of_mem i hj)
  constructor
  · intro held
    have parts : is.rdropWhile live ++ is.rtakeWhile live = is := List.rdropWhile_append_rtakeWhile
    have cleared : ∀ d ∈ (is.rdropWhile live).getLast?, ¬ live d := by
      intro d last
      have ne : is.rdropWhile live ≠ [] := by
        rintro none
        simp [none] at last
      rw [List.getLast?_eq_some_getLast ne, Option.mem_some_iff] at last
      exact last ▸ List.rdropWhile_last_not live is ne
    cases kept : is.rtakeWhile live with
    | nil =>
      rw [kept, List.append_nil] at parts
      rw [parts] at cleared
      rw [foldl_slot_cleared cleared] at held
      cases held
    | cons i after =>
      have lives : ∀ j ∈ i :: after, live j := fun j hj =>
        List.mem_rtakeWhile_imp (kept ▸ hj)
      refine ⟨is.rdropWhile live, i, after, kept ▸ parts.symm, lives, cleared, ?_⟩
      rw [← parts, kept, cut _ i after lives cleared] at held
      exact (Option.some.inj held).symm
  · rintro ⟨before, i, after, rfl, lives, cleared, rfl⟩
    exact cut before i after lives cleared

variable [DecidableEq κ] (key : ι → κ)

theorem lookup_foldl {look : σ → κ → Option ν} {step : σ → ι → σ}
    {change : Option ν → ι → Option ν}
    (law : ∀ s i k, look (step s i) k = if key i = k then change (look s k) i else look s k)
    (s : σ) (is : List ι) (k : κ) :
    look (is.foldl step s) k = (is.filter (key · = k)).foldl change (look s k) := by
  induction is generalizing s with
  | nil => rfl
  | cons i is ih =>
    rw [List.foldl_cons, ih, law]
    by_cases same : key i = k <;> simp [same]

/-- Two adjacent events of different keys change places. -/
def Exchange (is js : List ι) : Prop :=
  ∃ pre i j post, key i ≠ key j ∧ is = pre ++ i :: j :: post ∧ js = pre ++ j :: i :: post

theorem Exchange.filter_eq {is js : List ι} (h : Exchange key is js) (k : κ) :
    is.filter (key · = k) = js.filter (key · = k) := by
  obtain ⟨pre, i, j, post, ne, rfl, rfl⟩ := h
  by_cases hi : key i = k
  · have hj : key j ≠ k := fun hj => ne (hi.trans hj.symm)
    simp [hi, hj]
  · by_cases hj : key j = k <;> simp [hi, hj]

/-- Any number of exchanges leaves the events of each key in their order. -/
theorem filter_eq_of_exchanges {is js : List ι} (h : Relation.ReflTransGen (Exchange key) is js)
    (k : κ) : is.filter (key · = k) = js.filter (key · = k) := by
  induction h with
  | refl => rfl
  | tail _ swap ih => exact ih.trans (swap.filter_eq key k)

end RmwOpendds.Library.Replay
